import Mailroom.Charset.Grid
import Mailroom.Charset.Layout
import Mailroom.Fault

/-!
Charsets with codes of one, two and more octets. The codes come from sheets, each a set of
characters with a layout. The first sheet that knows a code says what it stands for, and the first
that has a character gives its code.
-/

namespace Mailroom.Charset

structure Sheet where
  layout : Layout
  grid : Grid

structure Tabled where
  name : String
  sheets : List Sheet
  /-- Characters without a code, although a sheet has them. -/
  lacking : List Char := []
  /-- Sheets whose codes stand for nothing, each as a whole. -/
  voids : List Sheet := []
  /-- Octets that begin a longer code, and the length of such codes. -/
  openings : List (List Place × Nat) := []

namespace Sheet

def textAt? (bs : List UInt8) (s : Sheet) : Option (List Char) :=
  (s.layout.cell? bs).bind s.grid.textAt?

/-- The code for the front of a text, and whether it is for two characters. -/
def codeOf? (text : List Char) (s : Sheet) : Option (List UInt8 × Bool) := do
  let (cell, double) ← s.grid.front? text
  return (← s.layout.octets? cell, double)

def width (s : Sheet) : Nat := s.layout.places.length

end Sheet

namespace Tabled

def opens (places : List Place) (bs : List UInt8) : Bool :=
  places.length ≤ bs.length && (places.zip bs).all fun (p, b) => p.has b

/-- What the octets at the front stand for, and how many they are. A code that breaks off takes all
that is left. -/
def front (t : Tabled) (bs : List UInt8) : Option (List Char) × Nat :=
  match t.openings.find? fun opening => opens opening.1 bs with
  | some (_, width) =>
      if bs.length < width then (none, bs.length)
      else
        match (t.sheets.filter fun s => s.width == width).findSome? (·.textAt? bs) with
        | some text => (some text, width)
        | none => (none, 1)
  | none =>
      match t.sheets.findSome? fun s => (s.textAt? bs).map fun text => (text, s.width) with
      | some (text, width) => (some text, width)
      | none =>
          match t.voids.find? fun s => (s.textAt? bs).isSome with
          | some s => (none, s.width)
          | none => (none, 1)

/-- Reads at most `count` codes. -/
def decodeFrom (t : Tabled) : Nat → List UInt8 → List (Option Char)
  | 0, _ | _, [] => []
  | count + 1, bs =>
      let (text, width) := t.front bs
      (match text with
        | some s => s.map some
        | none => [none]) ++ decodeFrom t count (bs.drop width)

/-- Each code takes an octet at least. -/
def decode (t : Tabled) (bs : List UInt8) : List (Option Char) := t.decodeFrom bs.length bs

/-- The code of the first sheet with the front of a text; one for two characters wins. -/
def codeOf? (t : Tabled) (text : List Char) : Option (List UInt8 × Bool) :=
  if t.lacking.any fun c => text.head? == some c then none
  else
    let found := t.sheets.filterMap (·.codeOf? text)
    (found.find? (·.2)).orElse fun _ => found.head?

/-- Goes on with a text whose first characters took up `position` places; `paired` says that the
code in front was for the next character too. -/
def encodeFrom (t : Tabled) (paired : Bool) (position : Nat) :
    List Char → Except Fault (List UInt8)
  | [] => .ok []
  | c :: rest =>
      if paired then t.encodeFrom false (position + 1) rest
      else
        match t.codeOf? (c :: rest) with
        | none => .error (.encoding ⟨t.name, .illegal, c.toNat, position, position + 1⟩)
        | some (code, double) => do return code ++ (← t.encodeFrom double (position + 1) rest)

def encode (t : Tabled) (s : List Char) : Except Fault (List UInt8) := t.encodeFrom false 0 s

end Tabled

end Mailroom.Charset
