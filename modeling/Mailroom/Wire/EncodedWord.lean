import Mailroom.Text.Octets
import Mailroom.Wire.Base64

/-!
Encoded words: header text with characters outside ASCII travels as its UTF-8 octets, in base 64 or
with letters and digits as they are and all other octets as an equal sign and their code. The
shorter of the two is taken, and the second one if they are equally long.
-/

namespace Mailroom.Wire

inductive WordCode
  | base64
  | quoted
  deriving DecidableEq, Repr

def isPlainOctet (b : UInt8) : Bool :=
  (65 ≤ b && b ≤ 90) || (97 ≤ b && b ≤ 122) || (48 ≤ b && b ≤ 57) || b == 45 || b == 33 ||
    b == 42 || b == 43 || b == 47

def capitalHexDigit (n : Nat) : Char :=
  if n < 10 then Char.ofNat (48 + n) else Char.ofNat (55 + n)

/-- A space is written as an underscore. -/
def quotedOctet (b : UInt8) : List Char :=
  if b == 32 then ['_']
  else if isPlainOctet b then [Char.ofNat b.toNat]
  else ['=', capitalHexDigit (b.toNat / 16), capitalHexDigit (b.toNat % 16)]

namespace WordCode

def letter : WordCode → Char
  | base64 => 'b'
  | quoted => 'q'

def encode : WordCode → List UInt8 → List Char
  | base64, bs => Wire.base64 bs
  | quoted, bs => bs.flatMap quotedOctet

def length (code : WordCode) (bs : List UInt8) : Nat := (code.encode bs).length

/-- The shorter code for these octets. -/
def shorter (bs : List UInt8) : WordCode :=
  if base64.length bs < quoted.length bs then base64 else quoted

end WordCode

/-- What surrounds the code of a word takes twelve characters. -/
def wordFrame : Nat := 12

/-- No octets make no word. -/
def encodedWord (code : WordCode) (bs : List UInt8) : List Char :=
  if bs.isEmpty then []
  else "=?utf-8?".toList ++ code.letter :: '?' :: code.encode bs ++ ['?', '=']

/-- A text as a single encoded word. -/
def wordOf (s : List Char) : List Char :=
  encodedWord (.shorter (Text.utf8 s)) (Text.utf8 s)

end Mailroom.Wire
