import Mailroom.Charset.Grid
import Mailroom.Charset.Layout
import Mailroom.Fault

/-!
Seven-bit charsets with escape sequences. A sequence puts a set of characters into one of three
slots. Octets stand for characters of the set in the first slot, after a shift for those of the set
in the second; the third is for single octets behind an escape of their own.
-/

namespace Mailroom.Charset

inductive Slot
  | first
  | second
  | third
  deriving DecidableEq, Repr

/-- A set as its sequence names it: the last octet, and whether its codes have two octets. -/
structure SetName where
  mark : UInt8
  double : Bool
  deriving DecidableEq, Repr

/-- A set that a charset can switch to. -/
structure Branch where
  name : SetName
  slot : Slot
  grids : List Grid

structure Switched where
  name : String
  /-- Of two branches with one name the first is read. -/
  branches : List Branch
  /-- Characters without a code, although a branch has them. -/
  lacking : List Char := []
  /-- Whether the second slot is in use. -/
  shifts : Bool := false
  /-- Whether the third slot is in use. -/
  singles : Bool := false
  /-- Whether a sequence may have the older name of a set in front of the newer one. -/
  renames : Bool := true

/-- What a text has switched to. -/
structure Switches where
  first : SetName
  second : SetName
  third : SetName
  shifted : Bool
  /-- Within a sequence that means nothing here and is kept. -/
  kept : Bool

namespace SetName

def ascii : SetName := ⟨66, false⟩

def layout (n : SetName) : Layout :=
  if n.double then ⟨[[(0x21, 0x7E)], [(0x21, 0x7E)]], 0⟩ else ⟨[[(0x00, 0xFF)]], 0⟩

def width (n : SetName) : Nat := if n.double then 2 else 1

end SetName

namespace Switches

def start : Switches := ⟨.ascii, .ascii, .ascii, false, false⟩

def put (slot : Slot) (n : SetName) (s : Switches) : Switches :=
  match slot with
  | .first => { s with first := n }
  | .second => { s with second := n }
  | .third => { s with third := n }

end Switches

namespace Branch

def textAt? (bs : List UInt8) (b : Branch) : Option (List Char) :=
  (b.name.layout.cell? bs).bind fun cell => b.grids.findSome? (·.textAt? cell)

def codeOf? (text : List Char) (b : Branch) : Option (List UInt8 × Bool) := do
  let (cell, double) ← b.grids.findSome? (·.front? text)
  return (← b.name.layout.octets? cell, double)

end Branch

namespace Switched

def escape : UInt8 := 27
def shiftOut : UInt8 := 14
def shiftIn : UInt8 := 15

def branch? (n : SetName) (w : Switched) : Option Branch := w.branches.find? fun b => b.name == n

/-- What octets at the front stand for, how many they are, and what they switch to. -/
abbrev Reading := List (Option Char) × Nat × Switches

def endsSequence (b : UInt8) : Bool := 64 ≤ b && b ≤ 90

/-- The length of a sequence whose octets from place `i` on are given: `none` if it breaks off, zero
if it does not end. -/
def sequenceLength? (renames : Bool) (i : Nat) : List UInt8 → Option Nat
  | [] => if 16 ≤ i then some 0 else none
  | b :: rest =>
      if 16 ≤ i then some 0
      else if endsSequence b then some (i + 1)
      else if renames && b == 38 && rest.head? == some 64 then
        sequenceLength? renames (i + 3) (rest.drop 2)
      else sequenceLength? renames (i + 1) rest
  termination_by bs => bs.length
  decreasing_by all_goals (simp only [List.length_cons, List.length_drop]; omega)

/-- The slot that an octet of a sequence names. -/
def slotOf? (w : Switched) (b : UInt8) : Option Slot :=
  if b == 40 then some .first
  else if b == 41 then some .second
  else if b == 46 && w.singles then some .third
  else none

/-- What a sequence after its escape puts where. -/
def assignment? (w : Switched) : List UInt8 → Option (Slot × SetName)
  | [36, mark] => some (.first, ⟨mark, true⟩)
  | [b, mark] => (w.slotOf? b).map fun slot => (slot, ⟨mark, false⟩)
  | [36, b, mark] => if b == 46 then none else (w.slotOf? b).map fun slot => (slot, ⟨mark, true⟩)
  | [_, _, 27, 36, 66] => if w.renames then some (.first, ⟨66, true⟩) else none
  | _ => none

def readSequence (w : Switched) (s : Switches) (bs : List UInt8) : Reading :=
  match sequenceLength? w.renames 1 (bs.drop 1) with
  | none => ([none], bs.length, s)
  | some 0 => ([none], 1, s)
  | some length =>
      match w.assignment? ((bs.take length).drop 1) with
      | none => ([none], length, s)
      | some (slot, n) =>
          if n == .ascii || (w.branch? n).isSome then ([], length, s.put slot n)
          else ([none], length, s)

/-- A single octet behind an escape of its own. -/
def readSingle (w : Switched) (s : Switches) (b : UInt8) : Reading :=
  if s.third == .ascii then ([if b < 128 then some (Char.ofNat b.toNat) else none], 3, s)
  else
    match (w.branch? s.third).bind (·.textAt? [b]) with
    | some text => (text.map some, 3, s)
    | none => ([none], 3, s)

def readEscape (w : Switched) (s : Switches) (bs : List UInt8) : Reading :=
  match bs.drop 1 with
  | [] => ([none], 1, s)
  | b :: rest =>
      if [36, 38, 40, 41, 46].contains b then w.readSequence s bs
      else if w.singles && b == 78 then
        match rest with
        | [] => ([none], bs.length, s)
        | c :: _ => w.readSingle s c
      else ([some '\x1b'], 1, { s with kept := true })

def readCharacter (w : Switched) (s : Switches) (b : UInt8) (bs : List UInt8) : Reading :=
  let n := if s.shifted then s.second else s.first
  if n == .ascii then ([some (Char.ofNat b.toNat)], 1, s)
  else if bs.length < n.width then ([none], bs.length, s)
  else
    match (w.branches.find? fun branch => branch.name == n && branch.slot != .third).bind
      (·.textAt? bs) with
    | some text => (text.map some, n.width, s)
    | none => ([none], n.width, s)

def front (w : Switched) (s : Switches) : List UInt8 → Reading
  | [] => ([], 0, s)
  | b :: rest =>
      let itself := [some (Char.ofNat b.toNat)]
      if s.kept then (itself, 1, { s with kept := !endsSequence b })
      else if b == escape then w.readEscape s (b :: rest)
      else if w.shifts && (b == shiftIn || b == shiftOut) then
        ([], 1, { s with shifted := b == shiftOut })
      else if b == 10 then (itself, 1, { s with shifted := false })
      else if b < 32 then (itself, 1, s)
      else if 128 ≤ b then ([none], 1, s)
      else w.readCharacter s b (b :: rest)

/-- Reads at most `count` codes and sequences. -/
def decodeFrom (w : Switched) (s : Switches) : Nat → List UInt8 → List (Option Char)
  | 0, _ | _, [] => []
  | count + 1, bs =>
      let (text, width, s) := w.front s bs
      text ++ decodeFrom w s count (bs.drop width)

def decode (w : Switched) (bs : List UInt8) : List (Option Char) :=
  w.decodeFrom .start bs.length bs

/-- The first set with the front of a text, its code there, and whether it is for two characters; a
set with two wins. The third slot is not written. -/
def codeOf? (w : Switched) (text : List Char) : Option (Branch × List UInt8 × Bool) :=
  if w.lacking.any fun c => text.head? == some c then none
  else
    let found := (w.branches.filter (·.slot != .third)).filterMap fun b =>
      (b.codeOf? text).map fun code => (b, code)
    (found.find? fun entry => entry.2.2).orElse fun _ => found.head?

/-- The sequence that puts a set into its slot. -/
def sequenceFor (b : Branch) : List UInt8 :=
  let slot := if b.slot == .second then 41 else 40
  if !b.name.double then [escape, slot, b.name.mark]
  else if b.name.mark == 66 && b.slot == .first then [escape, 36, 66]
  else [escape, 36, slot, b.name.mark]

/-- Switches to a set: the octets for it and the state after it. -/
def switchTo (s : Switches) (b : Branch) : List UInt8 × Switches :=
  match b.slot with
  | .second =>
      ((if s.second == b.name then [] else sequenceFor b) ++ (if s.shifted then [] else [shiftOut]),
        { s with second := b.name, shifted := true })
  | _ =>
      ((if s.shifted then [shiftIn] else []) ++ (if s.first == b.name then [] else sequenceFor b),
        { s with first := b.name, shifted := false })

def asciiBranch : Branch := ⟨.ascii, .first, []⟩

/-- Goes on with a text whose first characters took up `position` places; `paired` says that the
code in front was for the next character too. -/
def encodeFrom (w : Switched) (s : Switches) (paired : Bool) (position : Nat) :
    List Char → Except Fault (List UInt8)
  | [] => .ok (switchTo s asciiBranch).1
  | c :: rest =>
      if paired then w.encodeFrom s false (position + 1) rest
      else if c.toNat < 128 then do
        let (octets, s) := switchTo s asciiBranch
        return octets ++ c.toNat.toUInt8 :: (← w.encodeFrom s false (position + 1) rest)
      else
        match w.codeOf? (c :: rest) with
        | none => .error (.encoding ⟨w.name, .illegal, c.toNat, position, position + 1⟩)
        | some (b, code, double) => do
            let (octets, s) := switchTo s b
            return octets ++ code ++ (← w.encodeFrom s double (position + 1) rest)

def encode (w : Switched) (s : List Char) : Except Fault (List UInt8) :=
  w.encodeFrom .start false 0 s

end Switched

end Mailroom.Charset
