import Mailroom.Text.PrintableTable

/-!
Quoted text, as error messages and log lines show it. The quotes are single ones unless the text
holds single quotes and no double ones. What cannot be shown as it is appears as a backslash and
its code, with two, four or eight hexadecimal digits.
-/

namespace Mailroom.Text

def isPrintable (c : Char) : Bool := printableRanges.contains c.toNat

/-- A hexadecimal digit in small letters. -/
def hexDigit (n : Nat) : Char :=
  if n < 10 then Char.ofNat (48 + n) else Char.ofNat (87 + n)

/-- The last `width` hexadecimal digits of `n`. -/
def hexDigits : Nat → Nat → List Char
  | 0, _ => []
  | width + 1, n => hexDigits width (n / 16) ++ [hexDigit (n % 16)]

/-- A character as its backslash code, the shortest of the three that holds it. -/
def codeEscape (n : Nat) : List Char :=
  if n < 0x100 then '\\' :: 'x' :: hexDigits 2 n
  else if n < 0x10000 then '\\' :: 'u' :: hexDigits 4 n
  else '\\' :: 'U' :: hexDigits 8 n

def quotedCharacter (quote c : Char) : List Char :=
  if c == quote || c == '\\' then ['\\', c]
  else if c == '\n' then ['\\', 'n']
  else if c == '\r' then ['\\', 'r']
  else if c == '\t' then ['\\', 't']
  else if isPrintable c then [c]
  else codeEscape c.toNat

def quoteFor (s : List Char) : Char :=
  if s.contains '\'' && !s.contains '"' then '"' else '\''

def quoted (s : String) : String :=
  let q := quoteFor s.toList
  String.ofList (q :: s.toList.flatMap (quotedCharacter q) ++ [q])

def quotedByte (quote : Char) (b : UInt8) : List Char :=
  if b < 0x80 && b >= 0x20 && b != 0x7F || b == 9 || b == 10 || b == 13 then
    quotedCharacter quote (Char.ofNat b.toNat)
  else codeEscape b.toNat

/-- Bytes are marked by a letter before the quotes; only the printable ASCII characters show as
themselves. -/
def quotedBytes (bs : List UInt8) : String :=
  let q := quoteFor (bs.map fun b => Char.ofNat b.toNat)
  String.ofList ('b' :: q :: bs.flatMap (quotedByte q) ++ [q])

end Mailroom.Text
