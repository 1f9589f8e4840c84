import Mailroom.Proofs.Delivery.Bystanders

/-!
Managers, seen from the queue. After an abort, after a commit that succeeds and after a begin the
manager starts from an empty transaction that no savepoint belongs to. A manager without messages
stays without messages, and its commits hand over nothing.
-/

namespace Mailroom.Delivery.Manager

open Mailroom.Action

variable {m : Manager}

/-- The current transaction, or the next one, is an empty one, and its number was not in use when
there had been so many. -/
def StartsFrom (number : Nat) (m : Manager) : Prop :=
  ∃ serial ≥ number, m = ⟨none, serial⟩ ∨ m = ⟨some (.ofSerial serial), serial + 1⟩

@[simp] theorem currentOrNext_holding (t : Transaction) (m : Manager) :
    (m.holding t).currentOrNext = t := rfl

theorem begun_le_holding (t : Transaction) (m : Manager) : m.begun ≤ (m.holding t).begun := by
  unfold holding
  split <;> simp

theorem state_abort (m : Manager) :
    (abort.run m).state = ⟨none, (m.holding m.currentOrNext).begun⟩ := by
  unfold abort
  rw [run_bind, run_attempt]
  rfl

theorem startsFrom_abort (m : Manager) : (abort.run m).state.StartsFrom m.begun :=
  ⟨_, begun_le_holding _ m, .inl (state_abort m)⟩

theorem startsFrom_begin (m : Manager) : (begin.run m).state.StartsFrom m.begun := by
  obtain ⟨current, begun⟩ := m
  cases current with
  | none => exact ⟨begun, Nat.le_refl _, .inr rfl⟩
  | some t =>
      have habort := state_abort ⟨some t, begun⟩
      have hrun : begin.run ⟨some t, begun⟩ =
          (abort >>= fun _ => onTransaction (pure ())).run ⟨some t, begun⟩ := rfl
      rw [hrun]
      cases h : (abort.run ⟨some t, begun⟩).result with
      | error e =>
          rw [run_bind_error h]
          exact startsFrom_abort _
      | ok u =>
          rw [run_bind_ok h, habort]
          exact ⟨begun, Nat.le_refl _, .inr rfl⟩

theorem run_commit_of_ok {mailer : Mailer} {box : Outbox}
    (h : ((Transaction.commit mailer).run (m.currentOrNext, box)).result.isOk = true) :
    let o := (Transaction.commit mailer).run (m.currentOrNext, box)
    (commit mailer).run (m, box) =
      ⟨.ok (), (⟨none, (m.holding o.state.1).begun⟩, o.state.2), o.log⟩ := by
  cases hresult : ((Transaction.commit mailer).run (m.currentOrNext, box)).result with
  | error e => simp [hresult] at h
  | ok u => simp [commit, run_bind, onCurrent, hresult, free]

theorem run_commit_of_error {mailer : Mailer} {box : Outbox} {e : Fault}
    (h : ((Transaction.commit mailer).run (m.currentOrNext, box)).result = .error e) :
    let o := (Transaction.commit mailer).run (m.currentOrNext, box)
    (commit mailer).run (m, box) = ⟨.error e, (m.holding o.state.1, o.state.2), o.log⟩ := by
  simp [commit, run_bind, onCurrent, h]

/-! ### Managers without messages -/

def IsIdle (m : Manager) : Prop := m.currentOrNext.IsIdle

theorem StartsFrom.isIdle {number : Nat} (h : m.StartsFrom number) : m.IsIdle := by
  obtain ⟨serial, -, rfl | rfl⟩ := h <;> exact Transaction.isIdle_ofSerial serial

theorem keeps_isIdle_onTransaction {α : Type} {x : Action Transaction α}
    (hx : Keeps Transaction.IsIdle x) : Keeps IsIdle (onTransaction x) :=
  fun m hm => hx m.currentOrNext hm

theorem keeps_isIdle_abort : Keeps IsIdle abort := fun m _ => (startsFrom_abort m).isIdle

theorem keeps_isIdle_begin : Keeps IsIdle begin := fun m _ => (startsFrom_begin m).isIdle

theorem keeps_isIdle_savepoint : Keeps IsIdle savepoint := by
  have hnumber := keeps_isIdle_onTransaction Transaction.keeps_isIdle_savepoint
  exact hnumber.bind fun _ => keeps_state.bind fun _ => keeps_pure _

theorem keeps_isIdle_rollback (handle : Handle) : Keeps IsIdle (rollback handle) := by
  refine keeps_state.bind fun m => ?_
  split
  · exact keeps_fail _
  · exact Keeps.guard (keeps_isIdle_onTransaction (Transaction.keeps_isIdle_rollback _))

theorem keeps_isIdle_commit (mailer : Mailer) (box : Outbox) :
    Keeps (fun s => s.1.IsIdle ∧ s.2 = box) (commit mailer) := by
  refine Keeps.bind (fun s hs => ?_) fun _ s hs => ?_
  · exact Transaction.keeps_isIdle_commit mailer box (s.1.currentOrNext, s.2) hs
  · exact ⟨Transaction.isIdle_ofSerial _, hs.2⟩

end Mailroom.Delivery.Manager
