import Mailroom.Proofs.Results
import Mailroom.Value

/-!
When a value can be shown. Values are shown from left to right. In a value that does not lie too
deep nothing but its innermost parts can be in the way: an address whose email is not ASCII, or a
number that has too many digits. The first of these gives the fault.
-/

namespace Mailroom

namespace Value

mutual

/-- How many lists, tuples and tables lie in each other. -/
def depth : Value → Nat
  | list items | tuple items => depthOfItems items + 1
  | table entries => depthOfEntries entries + 1
  | _ => 0

def depthOfItems : List Value → Nat
  | [] => 0
  | v :: rest => max v.depth (depthOfItems rest)

def depthOfEntries : List (String × Value) → Nat
  | [] => 0
  | (_, v) :: rest => max v.depth (depthOfEntries rest)

end

mutual

/-- The parts of a value that have no parts themselves, in the order in which they are shown. -/
def leaves : Value → List Value
  | list items | tuple items => leavesOfItems items
  | table entries => leavesOfEntries entries
  | v => [v]

def leavesOfItems : List Value → List Value
  | [] => []
  | v :: rest => leaves v ++ leavesOfItems rest

def leavesOfEntries : List (String × Value) → List Value
  | [] => []
  | (_, v) :: rest => leaves v ++ leavesOfEntries rest

end

/-- Whether all parts of a value can be written. -/
structure IsWritable (v : Value) : Prop where
  emails : ∀ a, address a ∈ v.leaves → Text.isAscii a.email.toList = true
  numbers : ∀ n, int n ∈ v.leaves → Number.isShort n = true

end Value

/-! ### Faults alone -/

/-- A computation without what it gives. -/
def faultOnly {α : Type} (x : Except Fault α) : Except Fault Unit := x.map fun _ => ()

section Faults

variable {α β γ : Type} {x : Except Fault α}

theorem faultOnly_eq_error {e : Fault} : faultOnly x = .error e ↔ x = .error e := by
  cases x <;> simp [faultOnly, Except.map]

theorem faultOnly_bind_pure (g : α → β) : faultOnly (x >>= fun a => pure (g a)) = faultOnly x := by
  cases x <;> rfl

theorem faultOnly_bind (y : Except Fault β) (g : α → β → γ) :
    faultOnly (x >>= fun a => y >>= fun b => pure (g a b)) =
      faultOnly x >>= fun _ => faultOnly y := by
  cases x with
  | error e => rfl
  | ok a => exact faultOnly_bind_pure (g a)

end Faults

theorem Address.faultOnly_shown (a : Address) :
    faultOnly a.shown = requireAscii a.email.toList := by
  rw [shown, faultOnly_bind_pure, text]
  cases requireAscii a.email.toList with
  | error e => rfl
  | ok u =>
      cases a.personal with
      | none => rfl
      | some name => cases h : name.isEmpty <;> simp [h, bind, Except.bind] <;> rfl

namespace Value

/-! ### Parts -/

/-- What keeps a part from being shown, if anything does. -/
def requireLeaf : Value → Except Fault Unit
  | address a => requireAscii a.email.toList
  | int n => faultOnly (decimal n)
  | _ => .ok ()

/-- Goes through the parts until there is one that cannot be shown. -/
def requireLeaves (parts : List Value) : Except Fault Unit := parts.forM requireLeaf

theorem requireLeaves_cons (v : Value) (rest : List Value) :
    requireLeaves (v :: rest) = requireLeaf v >>= fun _ => requireLeaves rest :=
  rfl

theorem requireLeaves_singleton (v : Value) : requireLeaves [v] = requireLeaf v := by
  rw [requireLeaves_cons]
  cases requireLeaf v <;> rfl

theorem requireLeaves_append (first second : List Value) :
    requireLeaves (first ++ second) = requireLeaves first >>= fun _ => requireLeaves second :=
  List.forM_append

theorem requireLeaves_eq_ok_iff {parts : List Value} :
    requireLeaves parts = .ok () ↔ ∀ v ∈ parts, requireLeaf v = .ok () := by
  induction parts with
  | nil => exact iff_of_true rfl (List.forall_mem_nil _)
  | cons v rest ih =>
      rw [List.forall_mem_cons, ← ih, requireLeaves_cons]
      cases requireLeaf v with
      | error e => exact iff_of_false nofun (fun h => by cases h.1)
      | ok u => exact (and_iff_right rfl).symm

theorem requireLeaf_int_iff {n : Int} :
    requireLeaf (int n) = .ok () ↔ Number.isShort n = true := by
  rw [← isOk_decimal, requireLeaf]
  cases decimal n <;> simp [faultOnly, Except.map]

theorem isWritable_iff {v : Value} :
    v.IsWritable ↔ ∀ part ∈ v.leaves, requireLeaf part = .ok () := by
  constructor
  · intro h part hpart
    cases part with
    | address a => exact requireAscii_eq_ok_iff.mpr (h.emails a hpart)
    | int n => exact requireLeaf_int_iff.mpr (h.numbers n hpart)
    | _ => rfl
  · intro h
    refine ⟨fun a ha => ?_, fun n hn => requireLeaf_int_iff.mp (h _ hn)⟩
    exact requireAscii_eq_ok_iff.mp (h (address a) ha)

theorem isWritable_text (s : String) : (text s).IsWritable :=
  isWritable_iff.mpr (List.forall_mem_singleton.mpr rfl)

/-- A part is in the way for its encoding or for its length, and that is no fault of an address
check. -/
theorem not_address_of_requireLeaf {v : Value} {e : Fault} (h : requireLeaf v = .error e) :
    ¬∃ cause, e = .address cause := by
  rintro ⟨cause, rfl⟩
  cases v with
  | address a =>
      simp only [requireLeaf, requireAscii] at h
      split at h <;> cases h
  | int n =>
      simp only [requireLeaf, faultOnly_eq_error, decimal] at h
      split at h <;> cases h
  | _ => cases h

theorem not_address_of_requireLeaves {parts : List Value} {e : Fault}
    (h : requireLeaves parts = .error e) : ¬∃ cause, e = .address cause := by
  induction parts with
  | nil => cases h
  | cons v rest ih =>
      rw [requireLeaves_cons] at h
      rcases of_bind_eq_error h with hfirst | ⟨-, -, hrest⟩
      · exact not_address_of_requireLeaf hfirst
      · exact ih hrest

/-! ### Whole values -/

mutual

theorem faultOnly_shownIn : ∀ (room : Nat) (v : Value), v.depth ≤ room →
    faultOnly (shownIn room v) = requireLeaves v.leaves
  | _, nothing, _ | _, bool true, _ | _, bool false, _ | _, float _, _ | _, text _, _
  | _, bytes _, _ | _, moment _, _ => rfl
  | _, int n, _ => (requireLeaves_singleton (int n)).symm
  | _, address a, _ => a.faultOnly_shown.trans (requireLeaves_singleton (address a)).symm
  | 0, list items, h => by
      rw [depth] at h
      exact absurd h (Nat.not_succ_le_zero _)
  | room + 1, list items, h => by
      rw [depth, Nat.add_le_add_iff_right] at h
      rw [leaves, ← faultOnly_shownItems room items h]
      exact faultOnly_bind_pure _
  | 0, tuple items, h => by
      rw [depth] at h
      exact absurd h (Nat.not_succ_le_zero _)
  | room + 1, tuple items, h => by
      rw [depth, Nat.add_le_add_iff_right] at h
      rw [leaves, ← faultOnly_shownItems room items h]
      -- One item has a comma after it; either way nothing more can fail.
      simp only [shownIn, roomWithin, bind, Except.bind]
      rcases shownItems room items with e | (_ | ⟨one, _ | ⟨next, more⟩⟩) <;> rfl
  | 0, table entries, h => by
      rw [depth] at h
      exact absurd h (Nat.not_succ_le_zero _)
  | room + 1, table entries, h => by
      rw [depth, Nat.add_le_add_iff_right] at h
      rw [leaves, ← faultOnly_shownEntries room entries h]
      exact faultOnly_bind_pure _

theorem faultOnly_shownItems : ∀ (room : Nat) (items : List Value), depthOfItems items ≤ room →
    faultOnly (shownItems room items) = requireLeaves (leavesOfItems items)
  | _, [], _ => rfl
  | room, v :: rest, h => by
      obtain ⟨hfirst, hrest⟩ := Nat.max_le.mp h
      rw [shownItems, faultOnly_bind, faultOnly_shownIn room v hfirst,
        faultOnly_shownItems room rest hrest, leavesOfItems, requireLeaves_append]

theorem faultOnly_shownEntries : ∀ (room : Nat) (entries : List (String × Value)),
    depthOfEntries entries ≤ room →
    faultOnly (shownEntries room entries) = requireLeaves (leavesOfEntries entries)
  | _, [], _ => rfl
  | room, (key, v) :: rest, h => by
      obtain ⟨hfirst, hrest⟩ := Nat.max_le.mp h
      rw [shownEntries, faultOnly_bind, faultOnly_shownIn room v hfirst,
        faultOnly_shownEntries room rest hrest, leavesOfEntries, requireLeaves_append]

end

variable {v : Value} (hdepth : v.depth ≤ depthLimit)
include hdepth

theorem isOk_shown_iff : v.shown.isOk = true ↔ v.IsWritable := by
  rw [isWritable_iff, ← requireLeaves_eq_ok_iff, ← faultOnly_shownIn depthLimit v hdepth, shown]
  cases v.shownIn depthLimit <;> simp [faultOnly, Except.map]

/-- The fault is none of the address check. -/
theorem not_address_of_shown {e : Fault} (h : v.shown = .error e) :
    ¬∃ cause, e = .address cause := by
  have hfault : faultOnly v.shown = .error e := faultOnly_eq_error.mpr h
  rw [shown, faultOnly_shownIn depthLimit v hdepth] at hfault
  exact not_address_of_requireLeaves hfault

end Value

end Mailroom
