import Mailroom.Text.Octets

/-!
How the cells of a set are numbered by octets: each place of a code has a row of octets to choose
from, and the last place runs fastest.
-/

namespace Mailroom.Charset

/-- The octets that may stand at a place of a code, as bounds. -/
abbrev Place := List (UInt8 × UInt8)

namespace Place

def octets (p : Place) : List UInt8 :=
  p.flatMap fun (low, high) =>
    (List.range (high.toNat + 1 - low.toNat)).map fun n => (low.toNat + n).toUInt8

def has (b : UInt8) (p : Place) : Bool := p.any fun (low, high) => low ≤ b && b ≤ high

def size (p : Place) : Nat :=
  p.foldl (fun count bounds => count + (bounds.2.toNat + 1 - bounds.1.toNat)) 0

end Place

structure Layout where
  places : List Place
  /-- The number of the first cell. -/
  first : Nat := 0

namespace Layout

def sizeOf (places : List Place) : Nat := (places.map Place.size).foldr (· * ·) 1

def cellFrom? : List Place → List UInt8 → Option Nat
  | [], _ => some 0
  | _, [] => none
  | p :: places, b :: bs => do
      let n ← p.octets.idxOf? b
      return n * sizeOf places + (← cellFrom? places bs)

/-- The number of the cell for the octets at the front. -/
def cell? (l : Layout) (bs : List UInt8) : Option Nat := (cellFrom? l.places bs).map (l.first + ·)

def octetsFrom? : List Place → Nat → Option (List UInt8)
  | [], n => if n == 0 then some [] else none
  | p :: places, n => do
      let b ← p.octets[n / sizeOf places]?
      return b :: (← octetsFrom? places (n % sizeOf places))

theorem length_of_octetsFrom? {places : List Place} {n : Nat} {bs : List UInt8}
    (h : octetsFrom? places n = some bs) : bs.length = places.length := by
  induction places generalizing n bs with
  | nil =>
      by_cases hn : n == 0
      · simp only [octetsFrom?, hn, if_true, Option.some.injEq] at h
        rw [← h]
        rfl
      · simp [octetsFrom?, hn] at h
  | cons p places ih =>
      simp only [octetsFrom?, Option.bind_eq_bind, Option.bind_eq_some_iff] at h
      obtain ⟨b, _, rest, hrest, h⟩ := h
      cases h
      rw [List.length_cons, ih hrest, List.length_cons]

/-- The octets for the number of a cell. -/
def octets? (l : Layout) (cell : Nat) : Option (List UInt8) :=
  if l.first ≤ cell then octetsFrom? l.places (cell - l.first) else none

end Layout

end Mailroom.Charset
