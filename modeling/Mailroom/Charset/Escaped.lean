import Mailroom.Charset.Wide
import Mailroom.Text.Digit
import Mailroom.Text.Quoted

/-!
Charsets with backslash codes. Octets stand for the characters with their numbers, and a character
that has none stands there as a backslash and its number in hexadecimal digits. In the raw form only
the codes with the letter u, small or capital, are codes.
-/

namespace Mailroom.Charset.Escaped

def encodeRaw (s : List Char) : List UInt8 :=
  s.flatMap fun c =>
    if c.toNat < 256 then [c.toNat.toUInt8] else Text.ascii (Text.codeEscape c.toNat)

def encodedCharacter (c : Char) : List Char :=
  if c == '\\' then ['\\', '\\']
  else if c == '\t' then ['\\', 't']
  else if c == '\n' then ['\\', 'n']
  else if c == '\r' then ['\\', 'r']
  else if 32 ≤ c.toNat && c.toNat < 127 then [c]
  else Text.codeEscape c.toNat

def encode (s : List Char) : List UInt8 := Text.ascii (s.flatMap encodedCharacter)

/-- Reads `count` hexadecimal digits; with `none` they break off before what is left. -/
def readHex (value : Nat) : Nat → List UInt8 → Option Nat × List UInt8
  | 0, rest => (some value, rest)
  | _ + 1, [] => (none, [])
  | count + 1, b :: rest =>
      match Text.hexValue? (Char.ofNat b.toNat) with
      | some d => readHex (16 * value + d) count rest
      | none => (none, b :: rest)

theorem length_readHex_le (value count : Nat) (bs : List UInt8) :
    (readHex value count bs).2.length ≤ bs.length := by
  fun_induction readHex value count bs with
  | case1 | case2 | case4 => simp
  | case3 _ _ _ _ _ _ ih => exact Nat.le_trans ih (Nat.le_succ _)

/-- The number of hexadecimal digits that a letter after the backslash announces. -/
def digitCount? (raw : Bool) (b : UInt8) : Option Nat :=
  if b == 117 then some 4
  else if b == 85 then some 8
  else if b == 120 && !raw then some 2
  else none

def isOctal (b : UInt8) : Bool := 48 ≤ b && b ≤ 55

/-- The octal digits at the front, three at most. -/
def octalRun (bs : List UInt8) : List UInt8 := (bs.take 3).takeWhile isOctal

/-- What a single character after the backslash stands for. A line feed stands for nothing. -/
def simple? (b : UInt8) : Option (List Char) :=
  match Char.ofNat b.toNat with
  | '\n' => some []
  | '\\' => some ['\\']
  | '\'' => some ['\'']
  | '"' => some ['"']
  | 'a' => some ['\x07']
  | 'b' => some ['\x08']
  | 't' => some ['\t']
  | 'n' => some ['\n']
  | 'v' => some ['\x0b']
  | 'f' => some ['\x0c']
  | 'r' => some ['\r']
  | _ => none

/-- What is left after a name in curly brackets. The names of characters are not known here. -/
def skipName (bs : List UInt8) : List UInt8 :=
  match bs with
  | 123 :: rest =>
      match rest.dropWhile (· != 125) with
      | [] => []
      | _ :: more => if rest.head? == some 125 then 125 :: more else more
  | _ => bs

theorem length_skipName_le (bs : List UInt8) : (skipName bs).length ≤ bs.length := by
  unfold skipName
  split
  · rename_i rest
    have h := (List.dropWhile_sublist (fun b : UInt8 => b != 125) (l := rest)).length_le
    split
    · simp
    · rename_i _ more heq
      rw [heq] at h
      split <;> simp only [List.length_cons] at h ⊢ <;> omega
  · exact Nat.le_refl _

def decode (raw : Bool) : List UInt8 → List (Option Char)
  | [] => []
  | [b] => [if b == 92 && !raw then none else some (Char.ofNat b.toNat)]
  | b :: d :: rest =>
      if b != 92 then some (Char.ofNat b.toNat) :: decode raw (d :: rest)
      else
        match digitCount? raw d with
        | some count =>
            have := length_readHex_le 0 count rest
            ((readHex 0 count rest).1.bind signOf?) :: decode raw (readHex 0 count rest).2
        | none =>
            if raw then some '\\' :: some (Char.ofNat d.toNat) :: decode raw rest
            else if isOctal d then
              let digits := octalRun (d :: rest)
              some (Char.ofNat (digits.foldl (fun n b => 8 * n + (b.toNat - 48)) 0)) ::
                decode raw (rest.drop (digits.length - 1))
            else if d == 78 then
              have := length_skipName_le rest
              none :: decode raw (skipName rest)
            else
              match simple? d with
              | some cs => cs.map some ++ decode raw rest
              | none => some '\\' :: some (Char.ofNat d.toNat) :: decode raw rest
  termination_by bs => bs.length
  decreasing_by all_goals (simp only [List.length_cons, List.length_drop] at *; omega)

end Mailroom.Charset.Escaped
