/-!
Text as octets. `utf8` is the encoding of message bodies, `ascii` that of a header block, and
`isAscii` says which texts need no encoding at all.
-/

namespace Mailroom.Text

def isAscii (s : List Char) : Bool := s.all fun c => c.toNat < 128

def utf8 (s : List Char) : List UInt8 := s.flatMap String.utf8EncodeChar

/-- One octet a character, for text that has only ASCII characters. -/
def ascii (s : List Char) : List UInt8 := s.map fun c => c.toNat.toUInt8

/-- One character an octet. -/
def ofOctets (bs : List UInt8) : List Char := bs.map fun b => Char.ofNat b.toNat

/-- The sign for octets that encode no character. -/
def replacement : Char := Char.ofNat 0xFFFD

/-- What the first octet of a longer code says: its bits, how many octets follow, and the bounds for
the next one. -/
def leadOf? (b : UInt8) : Option (Nat × Nat × UInt8 × UInt8) :=
  if 0xC2 ≤ b && b ≤ 0xDF then some (b.toNat % 32, 1, 0x80, 0xBF)
  else if b == 0xE0 then some (0, 2, 0xA0, 0xBF)
  else if b == 0xED then some (13, 2, 0x80, 0x9F)
  else if 0xE1 ≤ b && b ≤ 0xEF then some (b.toNat % 16, 2, 0x80, 0xBF)
  else if b == 0xF0 then some (0, 3, 0x90, 0xBF)
  else if 0xF1 ≤ b && b ≤ 0xF3 then some (b.toNat % 8, 3, 0x80, 0xBF)
  else if b == 0xF4 then some (4, 3, 0x80, 0x8F)
  else none

/-- Reads `count` more octets of a code; with `none` the code breaks off before what is left. -/
def readTail (bits : Nat) (low high : UInt8) :
    Nat → List UInt8 → Option Nat × List UInt8
  | 0, rest => (some bits, rest)
  | _ + 1, [] => (none, [])
  | count + 1, b :: rest =>
      if low ≤ b && b ≤ high then readTail (bits * 64 + b.toNat % 64) 0x80 0xBF count rest
      else (none, b :: rest)

theorem length_readTail_le (bits : Nat) (low high : UInt8) (count : Nat)
    (bs : List UInt8) : (readTail bits low high count bs).2.length ≤ bs.length := by
  fun_induction readTail bits low high count bs with
  | case1 | case2 | case4 => simp
  | case3 _ _ _ _ _ _ _ ih => exact Nat.le_trans ih (Nat.le_succ _)

/-- Reads UTF-8. A code that breaks off, and an octet that starts none, is one piece without a
character. -/
def decodeUtf8 : List UInt8 → List (Option Char)
  | [] => []
  | b :: rest =>
      if b < 128 then some (Char.ofNat b.toNat) :: decodeUtf8 rest
      else
        match leadOf? b with
        | none => none :: decodeUtf8 rest
        | some (bits, count, low, high) =>
            have := length_readTail_le bits low high count rest
            (readTail bits low high count rest).1.map Char.ofNat ::
              decodeUtf8 (readTail bits low high count rest).2
  termination_by bs => bs.length

end Mailroom.Text
