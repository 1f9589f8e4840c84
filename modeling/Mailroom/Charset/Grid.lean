import Mailroom.Text.Octets

/-!
Sets of characters in numbered cells. A cell holds one character, or in a few sets a letter with a
sign that combines with it.
-/

namespace Mailroom.Charset

structure Grid where
  /-- The number of a cell, and the characters from this cell on. -/
  signs : List (Nat × String) := []
  /-- The number of a cell, and the number of a character and a count: so many characters stand from
  this cell on in the order of their numbers. -/
  spans : List (Nat × Nat × Nat) := []
  /-- Cells with two characters. -/
  pairs : List (Nat × String) := []

namespace Grid

def charAt? (cell : Nat) (g : Grid) : Option Char :=
  (g.signs.findSome? fun entry =>
    if entry.1 ≤ cell && cell < entry.1 + entry.2.length then entry.2.toList[cell - entry.1]?
    else none).orElse fun _ =>
  g.spans.findSome? fun (start, first, count) =>
    if start ≤ cell && cell < start + count then some (Char.ofNat (first + (cell - start)))
    else none

/-- What a cell holds. -/
def textAt? (cell : Nat) (g : Grid) : Option (List Char) :=
  match g.pairs.lookup cell with
  | some s => some s.toList
  | none => (g.charAt? cell).map fun c => [c]

/-- The first cell with a character. -/
def cellOf? (c : Char) (g : Grid) : Option Nat :=
  (g.signs.findSome? fun entry => (entry.2.toList.idxOf? c).map (entry.1 + ·)).orElse fun _ =>
  g.spans.findSome? fun (start, first, count) =>
    if first ≤ c.toNat && c.toNat < first + count then some (start + (c.toNat - first)) else none

/-- The cell with two characters. -/
def pairOf? (c d : Char) (g : Grid) : Option Nat :=
  (g.pairs.find? fun entry => entry.2.toList == [c, d]).map (·.1)

/-- What stands at the front of a text as far as one cell holds it: the cell, and whether it holds
two characters. -/
def front? (g : Grid) : List Char → Option (Nat × Bool)
  | [] => none
  | [c] => (g.cellOf? c).map fun cell => (cell, false)
  | c :: d :: _ =>
      match g.pairOf? c d with
      | some cell => some (cell, true)
      | none => (g.cellOf? c).map fun cell => (cell, false)

/-- The characters between two numbers that are none of `known`, which rise, from a cell on. -/
def gapsFrom (cell next last : Nat) : List Char → List (Nat × Nat × Nat)
  | [] => if next ≤ last then [(cell, next, last + 1 - next)] else []
  | c :: rest =>
      let n := c.toNat
      if n < next then gapsFrom cell next last rest
      else if n == next then gapsFrom cell (next + 1) last rest
      else (cell, next, n - next) :: gapsFrom (cell + (n - next)) (n + 1) last rest

def chars (g : Grid) : List Char := g.signs.flatMap fun entry => entry.2.toList

/-- The characters from number `first` to number `last` that a set lacks, in the order of their
numbers. -/
def rest (g : Grid) (first last : Nat) : Grid where
  spans :=
    gapsFrom 0 first last
      ((g.chars.filter fun c => first ≤ c.toNat && c.toNat ≤ last).mergeSort fun c d => c ≤ d)

end Grid

end Mailroom.Charset
