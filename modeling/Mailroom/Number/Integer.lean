import Mailroom.Text.Blank
import Mailroom.Text.Digit

/-!
Whole numbers written in decimal. The digits may come from any script, a single underscore may
stand between two of them, one sign may precede them, and blanks may surround the whole. A number of
too many digits is neither read nor written.
-/

namespace Mailroom.Number

/-- Why a text is no whole number that can be read. -/
inductive ReadingFault
  | malformed
  | tooManyDigits (count : Nat)
  deriving DecidableEq, Repr

/-- The most digits of a number that is read or written. -/
def digitLimit : Nat := 4300

/-- Whether a number can be written. -/
def isShort (n : Int) : Bool := (Nat.toDigits 10 n.natAbs).length ≤ digitLimit

/-- The blanks that may surround a number; the four ASCII separators are not among them. -/
def isMargin (c : Char) : Bool := Text.isBlank c && !(28 ≤ c.toNat && c.toNat ≤ 31)

/-- What stands before the place that a scan has reached. -/
inductive Scanned
  | nothing
  | digit
  | underscore
  deriving DecidableEq, Repr

/-- The leading digits of a text, most significant first, and what follows them; `none` if an
underscore stands anywhere but between two digits. -/
def scanDigits (before : Scanned) : List Char → Option (List Nat × List Char)
  | [] => if before = .underscore then none else some ([], [])
  | c :: rest =>
      match Text.digitValue? c with
      | some d => (scanDigits .digit rest).map fun r => (d :: r.1, r.2)
      | none =>
          if c == '_' then
            if before = .digit then scanDigits .underscore rest else none
          else if before = .underscore then none
          else some ([], c :: rest)

def ofDigits (digits : List Nat) : Nat := digits.foldl (fun n d => 10 * n + d) 0

/-- Reads a number without a sign that only blanks may follow. -/
def readNatural (s : List Char) : Except ReadingFault Nat :=
  match scanDigits .nothing s with
  | none => .error .malformed
  | some (digits, rest) =>
      if digits.length > digitLimit then .error (.tooManyDigits digits.length)
      else if digits.isEmpty || !rest.all isMargin then .error .malformed
      else .ok (ofDigits digits)

def readInteger (s : List Char) : Except ReadingFault Int :=
  match s.dropWhile isMargin with
  | '+' :: rest => (readNatural rest).map Int.ofNat
  | '-' :: rest => (readNatural rest).map fun n => -Int.ofNat n
  | rest => (readNatural rest).map Int.ofNat

end Mailroom.Number
