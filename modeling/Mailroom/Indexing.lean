import Mailroom.Fault
import Mailroom.Number.Bounds

/-!
Items of a sequence by their index. A negative index counts from the end.
-/

namespace Mailroom

variable {α β : Type}

/-- The item at an index; `noun` is the kind of the sequence in the wording of the fault. -/
def itemAt (noun : String) (items : List α) (n : Int) : Except Fault α :=
  if !Number.fitsLong n then .error (.index .tooLarge)
  else
    let place := if n < 0 then n + items.length else n
    if place < 0 then .error (.index (.outOfRange noun))
    else
      match items[place.toNat]? with
      | some item => .ok item
      | none => .error (.index (.outOfRange noun))

theorem itemAt_natCast (noun : String) (items : List α) {n : Nat} (hn : n < items.length)
    (hfit : Number.fitsLong n) : itemAt noun items n = .ok items[n] := by
  unfold itemAt
  rw [if_neg (by simp [hfit]), if_neg (by omega : ¬(n : Int) < 0), if_neg (by omega)]
  simp [hn]

/-- An index means the same place in every sequence of the same length. -/
theorem itemAt_mapIdx (noun : String) (f : Nat → α → β) (items : List α) (n : Int) :
    (∃ place item, items[place]? = some item ∧ itemAt noun items n = .ok item ∧
      itemAt noun (items.mapIdx f) n = .ok (f place item)) ∨
    ∃ e, itemAt noun items n = .error e ∧ itemAt noun (items.mapIdx f) n = .error e := by
  unfold itemAt
  rw [List.length_mapIdx]
  split
  · exact .inr ⟨_, rfl, rfl⟩
  · dsimp only
    generalize (if n < 0 then n + items.length else n) = place
    split
    · exact .inr ⟨_, rfl, rfl⟩
    · cases h : items[place.toNat]? with
      | none => exact .inr ⟨_, rfl, by simp [h]⟩
      | some item => exact .inl ⟨place.toNat, item, h, rfl, by simp [h]⟩

end Mailroom
