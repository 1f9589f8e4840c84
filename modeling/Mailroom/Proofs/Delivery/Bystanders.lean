import Mailroom.Proofs.Delivery.Savepoints
import Mailroom.Proofs.Invariant

/-!
A manager whose participants have no messages. Whatever is done with it, no message gets into it and
nothing is handed over.
-/

namespace Mailroom.Delivery

open Mailroom.Action

namespace Transaction

def IsIdle (t : Transaction) : Prop := ∀ p ∈ t.participants, p.IsBystander

theorem isIdle_ofSerial (serial : Nat) : (ofSerial serial).IsIdle := by simp [IsIdle, ofSerial]

theorem keeps_isIdle_requireUsable : Keeps IsIdle requireUsable :=
  keeps_state.bind fun _ => keeps_ofExcept _

theorem keeps_isIdle_join (key : String) (refusal : Phase → Option Fault) :
    Keeps IsIdle (join key (.outsider refusal)) := by
  refine keeps_isIdle_requireUsable.bind fun _ => keeps_update fun t ht p hp => ?_
  rcases List.mem_append.mp hp with hp | hp
  · exact ht p hp
  · obtain rfl := List.mem_singleton.mp hp
    rfl

theorem keeps_isIdle_doom : Keeps IsIdle doom := by
  refine keeps_state.bind fun t => ?_
  cases t.condition with
  | active => exact keeps_update fun _ ht => ht
  | doomed => exact keeps_pure _
  | failed => exact keeps_fail _

theorem keeps_isIdle_savepoint : Keeps IsIdle savepoint := by
  refine keeps_isIdle_requireUsable.bind fun _ => keeps_state.bind fun t => ?_
  refine Keeps.bind (keeps_update ?_) fun _ => keeps_pure t.marks
  exact fun _ ht => ht

theorem keeps_isIdle_drop (serial : Nat) : Keeps IsIdle (drop serial) := by
  refine keeps_state.bind fun t => ?_
  split
  · exact keeps_pure _
  · have hfilter : Keeps IsIdle (update fun t =>
        { t with participants := t.participants.filter fun p => p.serial != serial }) :=
      keeps_update fun _ ht p hp => ht p (List.mem_of_mem_filter hp)
    dsimp only
    split
    · exact (keeps_fail _).bind fun _ => hfilter
    · exact hfilter

theorem keeps_isIdle_dropAll (serials : List Nat) : Keeps IsIdle (dropAll serials) := by
  induction serials with
  | nil => exact keeps_pure _
  | cons serial rest ih => exact (keeps_isIdle_drop serial).bind fun _ => ih

theorem keeps_isIdle_rollback (number : Nat) : Keeps IsIdle (rollback number) := by
  refine keeps_state.bind fun t => ?_
  split
  · exact keeps_fail _
  · refine Keeps.bind (keeps_update ?_) fun _ => ?_
    · exact fun _ ht => ht
    refine (keeps_isIdle_dropAll _).attempt.bind fun result => ?_
    cases result with
    | ok u => exact keeps_pure _
    | error e =>
        refine Keeps.bind (keeps_update ?_) fun _ => keeps_fail _
        exact fun _ ht => ht

theorem keeps_isIdle_performPhase (mailer : Mailer) (phase : Phase) (box : Outbox) :
    Keeps (fun s => s.1.IsIdle ∧ s.2 = box) (performPhase mailer phase) := by
  rintro ⟨t, box⟩ ⟨ht, rfl⟩
  obtain ⟨hbox, hps⟩ := Participant.performAll_bystanders mailer t.serial phase ht box
  exact ⟨hps, hbox⟩

theorem keeps_isIdle_commit (mailer : Mailer) (box : Outbox) :
    Keeps (fun s => s.1.IsIdle ∧ s.2 = box) (commit mailer) := by
  have hround := fun phase => keeps_isIdle_performPhase mailer phase box
  have hupdate (f : Transaction → Transaction) (hf : ∀ t, IsIdle t → IsIdle (f t)) :
      Keeps (fun s : Transaction × Outbox => s.1.IsIdle ∧ s.2 = box) (onFirst (update f)) :=
    fun s hs => ⟨hf s.1 hs.1, hs.2⟩
  have husable : Keeps (fun s : Transaction × Outbox => s.1.IsIdle ∧ s.2 = box)
      (onFirst requireUsable) := fun s hs => hs
  refine keeps_state.bind fun s => Keeps.guard ?_
  refine Keeps.bind (hupdate _ ?_) fun _ => husable.bind fun _ => ?_
  · exact fun _ ht => ht
  refine Keeps.bind (hupdate _ ?_) fun _ => Keeps.bind ?_ fun result => ?_
  · exact fun t ht p hp => ht p ((List.mergeSort_perm _ _).mem_iff.mp hp)
  · exact ((hround .start).bind fun _ => (hround .commit).bind fun _ =>
      (hround .vote).bind fun _ => hround .finish).attempt
  cases result with
  | ok u => exact keeps_pure _
  | error e =>
      refine Keeps.bind (hupdate _ ?_) fun _ => keeps_fail _
      intro t ht p hp
      obtain ⟨q, hq, rfl⟩ := List.mem_map.mp hp
      exact Participant.isBystander_cleanUp (ht q hq)

end Transaction

end Mailroom.Delivery
