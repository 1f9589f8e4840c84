import Mailroom.Fault

/-!
Sorting by a comparison that may fail. The comparisons are made in a fixed order, so it is certain
which failure comes first: the elements at the front that rise, or that strictly fall, are taken as
they are, and each further one is put in its place by halving. Equals keep their order.
-/

namespace Mailroom.Sorting

variable {α : Type}

/-- Whether the first of two elements comes strictly before the second. -/
abbrev Less (α : Type) := α → α → Except Fault Bool

/-- The elements that go on rising, or falling, from `last`, and those after them. -/
def takeRun (less : Less α) (falling : Bool) (last : α) : List α → Except Fault (List α × List α)
  | [] => .ok ([], [])
  | x :: rest => do
      if (← less x last) == falling then
        let (run, more) ← takeRun less falling x rest
        return (x :: run, more)
      else return ([], x :: rest)

/-- The place of `x` between two places of a sorted array, behind all that it does not come
before. -/
def placeOf (less : Less α) (x : α) (sorted : Array α) (low high : Nat)
    (hhigh : high ≤ sorted.size) : Except Fault Nat :=
  if hlow : low < high then
    have hmiddle : (low + high) / 2 < sorted.size := by omega
    do
      if ← less x sorted[(low + high) / 2] then
        placeOf less x sorted low ((low + high) / 2) (by omega)
      else placeOf less x sorted ((low + high) / 2 + 1) high hhigh
  else .ok low
  termination_by high - low

def insert (less : Less α) (sorted : Array α) (x : α) : Except Fault (Array α) := do
  return sorted.insertIdxIfInBounds (← placeOf less x sorted 0 sorted.size (Nat.le_refl _)) x

def sort (less : Less α) : List α → Except Fault (List α)
  | first :: second :: rest => do
      let falling ← less second first
      let (run, more) ← takeRun less falling second rest
      let front := first :: second :: run
      let sorted ← more.foldlM (insert less) (if falling then front.reverse else front).toArray
      return sorted.toList
  | short => .ok short

/-- A run is a front part of the list. -/
theorem append_eq_of_takeRun {less : Less α} {falling : Bool} {last : α} {xs run more : List α}
    (h : takeRun less falling last xs = .ok (run, more)) : run ++ more = xs := by
  induction xs generalizing last run more with
  | nil =>
      cases h
      rfl
  | cons x rest ih =>
      simp only [takeRun] at h
      cases hless : less x last with
      | error e => simp [hless, bind, Except.bind] at h
      | ok b =>
          simp only [hless, bind, Except.bind] at h
          by_cases hb : b == falling
          · cases hrun : takeRun less falling x rest with
            | error e => simp [hb, hrun] at h
            | ok pair =>
                simp only [hb, hrun, if_true, pure, Except.pure, Except.ok.injEq,
                  Prod.mk.injEq] at h
                obtain ⟨rfl, rfl⟩ := h
                exact congrArg (x :: ·) (ih hrun)
          · simp only [hb, pure, Except.pure] at h
            cases h
            rfl

end Mailroom.Sorting
