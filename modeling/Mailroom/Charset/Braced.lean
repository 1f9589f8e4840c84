import Mailroom.Charset.Grids.Chinese
import Mailroom.Charset.Layout
import Mailroom.Fault

/-!
The seven-bit charset in which Chinese text stands between braces with tildes. In front of a line
end a tilde joins two lines, and a tilde in ASCII text is written twice.
-/

namespace Mailroom.Charset.Braced

def layout : Layout where
  places := [[(0x21, 0x7E)], [(0x21, 0x7E)]]

def grids : List Grid := [gb2312Core, gb2312Dots]

def codeOf? (c : Char) : Option (List UInt8) :=
  (grids.findSome? (·.cellOf? c)).bind layout.octets?

def textAt? (bs : List UInt8) : Option (List Char) :=
  (layout.cell? bs).bind fun cell => grids.findSome? (·.textAt? cell)

def opening : List UInt8 := [0x7E, 0x7B]
def closing : List UInt8 := [0x7E, 0x7D]

/-- Goes on with a text; `inside` says that a brace is open. -/
def encodeFrom (inside : Bool) (position : Nat) : List Char → Except Fault (List UInt8)
  | [] => .ok (if inside then closing else [])
  | c :: rest =>
      if c.toNat < 128 then do
        return (if inside then closing else []) ++
          (if c == '~' then [0x7E, 0x7E] else [c.toNat.toUInt8]) ++
          (← encodeFrom false (position + 1) rest)
      else
        match codeOf? c with
        | none => .error (.encoding ⟨"hz", .illegal, c.toNat, position, position + 1⟩)
        | some code => do
            return (if inside then [] else opening) ++ code ++
              (← encodeFrom true (position + 1) rest)

def encode (s : List Char) : Except Fault (List UInt8) := encodeFrom false 0 s

def decodeFrom (inside : Bool) : List UInt8 → List (Option Char)
  | [] => []
  | [b] =>
      if b < 128 && b != 0x7E && !inside then [some (Char.ofNat b.toNat)] else [none]
  | b :: c :: rest =>
      if b == 0x7E then
        if c == 0x7E && !inside then some '~' :: decodeFrom inside rest
        else if c == 0x7B && !inside then decodeFrom true rest
        else if c == 10 && !inside then decodeFrom inside rest
        else if c == 0x7D && inside then decodeFrom false rest
        else none :: decodeFrom inside (c :: rest)
      else if 128 ≤ b then none :: decodeFrom inside (c :: rest)
      else if !inside then some (Char.ofNat b.toNat) :: decodeFrom inside (c :: rest)
      else
        match textAt? [b, c] with
        | some text => text.map some ++ decodeFrom inside rest
        | none => none :: decodeFrom inside (c :: rest)
  termination_by bs => bs.length
  decreasing_by all_goals (simp only [List.length_cons]; omega)

def decode (bs : List UInt8) : List (Option Char) := decodeFrom false bs

end Mailroom.Charset.Braced
