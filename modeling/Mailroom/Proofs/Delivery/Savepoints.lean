import Mathlib.Data.List.Basic
import Mailroom.Proofs.Delivery.Commit

/-!
Savepoints of a transaction. As long as a transaction is orderly, those who joined before a
savepoint are a front part of the participants, and going back to the savepoint leaves just that
part. So the one number that a queue remembers says as much as the lists of those who joined later.
-/

namespace Mailroom.Delivery.Transaction

variable {t : Transaction}

def before (t : Transaction) (s : Savepoint) : List Participant :=
  t.participants.filter fun p => !s.later.contains p.serial

/-- How many joined before the savepoint with a number, if one can go back to it. -/
def lengthAt (t : Transaction) (number : Nat) : Option Nat :=
  (t.savepoints.find? fun s => s.number == number).map fun s => (t.before s).length

structure Orderly (t : Transaction) : Prop where
  ended : t.condition = .failed → t.savepoints = []
  fresh : t.condition ≠ .failed →
    ∀ p ∈ t.participants, p.At .initial t.serial ∧ p.serial < t.joins
  numbered : ∀ s ∈ t.savepoints, s.number < t.marks
  nested : t.savepoints.Pairwise fun s u => s.number < u.number ∧ u.later ⊆ s.later
  begins : ∀ s ∈ t.savepoints, t.before s <+: t.participants

theorem orderly_ofSerial (serial : Nat) : (ofSerial serial).Orderly where
  ended _ := rfl
  fresh _ := by simp [ofSerial]
  numbered := by simp [ofSerial]
  nested := List.Pairwise.nil
  begins := by simp [ofSerial]

theorem orderly_doomed (h : t.Orderly) (hcondition : t.condition ≠ .failed) :
    ({ t with condition := .doomed } : Transaction).Orderly where
  ended := by simp
  fresh _ := h.fresh hcondition
  numbered := h.numbered
  nested := h.nested
  begins := h.begins

theorem orderly_failed (ps : List Participant) :
    ({ t with
      participants := ps
      savepoints := []
      condition := .failed } : Transaction).Orderly where
  ended _ := rfl
  fresh := by simp
  numbered := by simp
  nested := List.Pairwise.nil
  begins := by simp

/-! ### Joining -/

/-- A newcomer counts as later for every savepoint, so it changes none of them. -/
theorem before_enlist (hps : ∀ p ∈ t.participants, p.serial < t.joins) (key : String)
    (party : Party) (s : Savepoint) :
    (t.enlist key party).before { s with later := s.later ++ [t.joins] } = t.before s := by
  have hold : ∀ p ∈ t.participants,
      (!(s.later ++ [t.joins]).contains p.serial) = !s.later.contains p.serial := by
    intro p hp
    have hne : p.serial ≠ t.joins := Nat.ne_of_lt (hps p hp)
    simp [hne]
  simp only [before, enlist, List.filter_append, List.filter_congr hold]
  simp

theorem lengthAt_enlist (hps : ∀ p ∈ t.participants, p.serial < t.joins) (key : String)
    (party : Party) (number : Nat) : (t.enlist key party).lengthAt number = t.lengthAt number := by
  have hfind : (t.enlist key party).savepoints.find? (fun s => s.number == number) =
      (t.savepoints.find? fun s => s.number == number).map
        fun s => { s with later := s.later ++ [t.joins] } := List.find?_map
  unfold lengthAt
  rw [hfind, Option.map_map]
  congr 1
  funext s
  exact congrArg List.length (before_enlist hps key party s)

theorem items_enlist (t : Transaction) (key : String) (party : Party) :
    (t.enlist key party).items = t.items ++ [⟨key, party.waiting⟩] := by
  simp [items, enlist, Participant.item]

theorem orderly_enlist (h : t.Orderly) (hcondition : t.condition ≠ .failed) (key : String)
    {party : Party}
    (hparty : ∀ c, party = .consignment c → c.stage = .initial ∧ c.joined = some t.serial) :
    (t.enlist key party).Orderly where
  ended hfailed := absurd hfailed hcondition
  fresh _ := by
    intro p hp
    rcases List.mem_append.mp hp with hp | hp
    · obtain ⟨hat, hserial⟩ := h.fresh hcondition p hp
      exact ⟨hat, Nat.lt_succ_of_lt hserial⟩
    · obtain rfl := List.mem_singleton.mp hp
      exact ⟨hparty, Nat.lt_succ_self t.joins⟩
  numbered := by
    intro s hs
    obtain ⟨u, hu, rfl⟩ := List.mem_map.mp hs
    exact h.numbered u hu
  nested := by
    refine List.pairwise_map.mpr (h.nested.imp ?_)
    rintro s u ⟨hnumber, hlater⟩
    exact ⟨hnumber, List.append_subset.mpr
      ⟨List.subset_append_of_subset_left _ hlater, List.subset_append_right _ _⟩⟩
  begins := by
    intro s hs
    obtain ⟨u, hu, rfl⟩ := List.mem_map.mp hs
    rw [before_enlist fun p hp => (h.fresh hcondition p hp).2]
    exact (h.begins u hu).trans (List.prefix_append _ _)

/-! ### Taking a savepoint -/

def marked (t : Transaction) : Transaction :=
  { t with savepoints := t.savepoints ++ [⟨t.marks, []⟩], marks := t.marks + 1 }

theorem run_savepoint_of_ne_failed (hcondition : t.condition ≠ .failed) :
    savepoint.run t = ⟨.ok t.marks, t.marked, []⟩ := by
  simp [savepoint, Action.run_bind, requireUsable, accepts, hcondition, marked, Except.map]

theorem run_savepoint_of_failed (hcondition : t.condition = .failed) :
    savepoint.run t = ⟨.error (.transaction .failedEarlier), t, []⟩ := by
  simp [savepoint, Action.run_bind, requireUsable, accepts, hcondition]

/-- Everyone joined before a savepoint that was just taken. -/
theorem before_marked_new (t : Transaction) : t.marked.before ⟨t.marks, []⟩ = t.participants := by
  simp [before, marked]

theorem lengthAt_marked (h : t.Orderly) (number : Nat) :
    t.marked.lengthAt number =
      if number = t.marks then some t.items.length else t.lengthAt number := by
  unfold lengthAt
  have hsplit : t.marked.savepoints.find? (fun s => s.number == number) =
      (t.savepoints.find? fun s => s.number == number).or
        ([(⟨t.marks, []⟩ : Savepoint)].find? fun s => s.number == number) := List.find?_append
  rw [hsplit]
  by_cases hnew : number = t.marks
  · have hnone : t.savepoints.find? (fun s => s.number == number) = none := by
      refine List.find?_eq_none.mpr fun s hs => ?_
      have := h.numbered s hs
      simp only [beq_iff_eq]
      omega
    simp [hnew ▸ hnone, hnew, before_marked_new, items]
  · simp only [List.find?_cons, List.find?_nil]
    rw [if_neg hnew, beq_false_of_ne (Ne.symm hnew), Option.or_none]
    rfl

theorem orderly_marked (h : t.Orderly) (hcondition : t.condition ≠ .failed) :
    t.marked.Orderly where
  ended hfailed := absurd hfailed hcondition
  fresh := h.fresh
  numbered := by
    intro s hs
    rcases List.mem_append.mp hs with hs | hs
    · exact Nat.lt_succ_of_lt (h.numbered s hs)
    · obtain rfl := List.mem_singleton.mp hs
      exact Nat.lt_succ_self t.marks
  nested := by
    refine List.pairwise_append.mpr ⟨h.nested, List.pairwise_singleton _ _, ?_⟩
    intro s hs u hu
    obtain rfl := List.mem_singleton.mp hu
    exact ⟨h.numbered s hs, List.nil_subset _⟩
  begins := by
    intro s hs
    rcases List.mem_append.mp hs with hs | hs
    · exact h.begins s hs
    · obtain rfl := List.mem_singleton.mp hs
      rw [before_marked_new]
      exact List.prefix_refl _

/-! ### Going back -/

/-- Dropping a participant who has not begun leaves the others. -/
theorem run_drop (hps : ∀ p ∈ t.participants, p.At .initial t.serial) (serial : Nat) :
    (drop serial).run t =
      ⟨.ok (), { t with participants := t.participants.filter fun p => p.serial != serial },
        []⟩ := by
  unfold drop
  rw [Action.run_bind, Action.run_state]
  cases h : t.participants.find? fun p => p.serial == serial with
  | none =>
      have hkept : t.participants.filter (fun p => p.serial != serial) = t.participants := by
        refine List.filter_eq_self.mpr fun p hp => ?_
        simpa using List.find?_eq_none.mp h p hp
      simp [h, hkept]
  | some p =>
      have hnone := Participant.objection?_of_at (hps p (List.mem_of_find?_eq_some h))
      simp [h, hnone]

theorem run_dropAll (hps : ∀ p ∈ t.participants, p.At .initial t.serial) (serials : List Nat) :
    (dropAll serials).run t =
      ⟨.ok (), { t with participants := t.participants.filter fun p => !serials.contains p.serial },
        []⟩ := by
  induction serials generalizing t with
  | nil => simp [dropAll, List.filter_true]
  | cons serial rest ih =>
      let others : Transaction :=
        { t with participants := t.participants.filter fun p => p.serial != serial }
      have hothers : ∀ p ∈ others.participants, p.At .initial others.serial := fun p hp =>
        hps p (List.mem_of_mem_filter hp)
      have hkeeps : (fun p : Participant => !(serial :: rest).contains p.serial) =
          fun p => !rest.contains p.serial && p.serial != serial := by
        funext p
        rw [List.contains_cons, Bool.not_or, Bool.and_comm]
        rfl
      rw [dropAll, Action.run_bind_ok (a := ()) (by rw [run_drop hps]), run_drop hps, ih hothers,
        hkeeps, ← List.filter_filter]
      rfl

def rolledBack (t : Transaction) (s : Savepoint) : Transaction :=
  { t with
    participants := t.before s
    savepoints := t.savepoints.filter fun u => u.number ≤ s.number }

theorem run_rollback_of_none {number : Nat}
    (h : t.savepoints.find? (fun s => s.number == number) = none) :
    (rollback number).run t = ⟨.error (.transaction .savepointInvalid), t, []⟩ := by
  simp [rollback, Action.run_bind, h]

theorem run_rollback_of_some (ht : t.Orderly) {number : Nat} {s : Savepoint}
    (h : t.savepoints.find? (fun s => s.number == number) = some s) :
    (rollback number).run t = ⟨.ok (), t.rolledBack s, []⟩ := by
  have hmem := List.mem_of_find?_eq_some h
  have hcondition : t.condition ≠ .failed := fun hfailed => by
    rw [ht.ended hfailed] at hmem
    cases hmem
  have hnumber : s.number = number := by simpa using List.find?_some h
  have hat : ∀ p ∈ t.participants, p.At .initial t.serial := fun p hp =>
    (ht.fresh hcondition p hp).1
  have hdrop := run_dropAll
    (t := { t with savepoints := t.savepoints.filter fun u => u.number ≤ number }) hat s.later
  simp [rollback, Action.run_bind, h, hdrop, rolledBack, before, hnumber]

/-- Going back keeps those who joined before any savepoint that stays. -/
theorem before_rolledBack {s u : Savepoint} (hlater : s.later ⊆ u.later) :
    (t.rolledBack s).before u = t.before u := by
  simp only [before, rolledBack, List.filter_filter]
  congr 1
  funext p
  by_cases hp : p.serial ∈ u.later
  · simp [hp]
  · have hs : p.serial ∉ s.later := fun h => hp (hlater h)
    simp [hp, hs]

theorem later_subset_of_le (ht : t.Orderly) {s u : Savepoint} (hs : s ∈ t.savepoints)
    (hu : u ∈ t.savepoints) (hnumber : u.number ≤ s.number) : s.later ⊆ u.later := by
  let R (a b : Savepoint) : Prop := b.number ≤ a.number → a.later ⊆ b.later
  have hforward : t.savepoints.Pairwise R := ht.nested.imp fun hab hle =>
    absurd hab.1 (Nat.not_lt.mpr hle)
  have hbackward : t.savepoints.Pairwise (flip R) := ht.nested.imp fun hab _ => hab.2
  exact hforward.forall_of_forall_of_flip (fun _ _ _ => List.Subset.refl _) hbackward hs hu hnumber

theorem lengthAt_rolledBack (ht : t.Orderly) {s : Savepoint} (hs : s ∈ t.savepoints)
    (number : Nat) :
    (t.rolledBack s).lengthAt number = if number ≤ s.number then t.lengthAt number else none := by
  unfold lengthAt
  have hfind : (t.rolledBack s).savepoints.find? (fun u => u.number == number) =
      t.savepoints.find? fun u => decide (u.number ≤ s.number) && u.number == number := by
    simp only [rolledBack, List.find?_filter, decide_eq_true_eq, Bool.decide_and,
      Bool.decide_eq_true]
  rw [hfind]
  by_cases hle : number ≤ s.number
  · have hsame : (t.savepoints.find? fun u => decide (u.number ≤ s.number) && u.number == number) =
        t.savepoints.find? fun u => u.number == number := by
      congr 1
      funext u
      by_cases hu : u.number = number <;> simp [hu, hle]
    rw [hsame, if_pos hle]
    cases h : t.savepoints.find? fun u => u.number == number with
    | none => rfl
    | some u =>
        have hnumber : u.number = number := by simpa using List.find?_some h
        have hlater := later_subset_of_le ht hs (List.mem_of_find?_eq_some h) (hnumber ▸ hle)
        simp [before_rolledBack hlater]
  · rw [if_neg hle, Option.map_eq_none_iff, List.find?_eq_none]
    intro u _
    simp only [Bool.and_eq_true, decide_eq_true_eq, beq_iff_eq, not_and]
    omega

theorem items_rolledBack (ht : t.Orderly) {s : Savepoint} (hs : s ∈ t.savepoints) :
    (t.rolledBack s).items = t.items.take (t.before s).length := by
  have hprefix := List.prefix_iff_eq_take.mp (ht.begins s hs)
  calc (t.before s).map Participant.item
      = (t.participants.take (t.before s).length).map Participant.item := by rw [← hprefix]
    _ = t.items.take (t.before s).length := List.map_take

theorem orderly_rolledBack (ht : t.Orderly) {s : Savepoint} (hs : s ∈ t.savepoints) :
    (t.rolledBack s).Orderly where
  ended hfailed := by
    rw [ht.ended hfailed] at hs
    cases hs
  fresh hcondition := fun p hp => ht.fresh hcondition p (List.mem_of_mem_filter hp)
  numbered := fun u hu => ht.numbered u (List.mem_of_mem_filter hu)
  nested := ht.nested.filter _
  begins := by
    intro u hu
    have hmem := List.mem_of_mem_filter hu
    have hnumber : u.number ≤ s.number := by simpa using (List.mem_filter.mp hu).2
    have hlater := later_subset_of_le ht hs hmem hnumber
    rw [before_rolledBack hlater]
    refine List.prefix_of_prefix_length_le (ht.begins u hmem) (ht.begins s hs) ?_
    refine List.Sublist.length_le (List.monotone_filter_right _ fun p hp => ?_)
    simp only [Bool.not_eq_true', List.contains_eq_mem, decide_eq_false_iff_not] at hp ⊢
    exact fun h => hp (hlater h)

end Mailroom.Delivery.Transaction
