import Mailroom.Number.Double

/-!
The shortest decimal that reads back as a given double. All decimals between the midpoints to the
two neighbouring doubles read back, the midpoints themselves only for an even significand. For one
digit, two digits and so on, the two decimals of that length next to the value are tried; the first
length with a hit wins, and of two hits the nearer.
-/

namespace Mailroom.Number

/-- A decimal number: `digits` times ten to the power `exponent`. -/
structure Decimal where
  digits : Nat
  exponent : Int
  deriving DecidableEq, Repr

/-- Everything is counted in units of ten to the power minus `gridDepth`, in which every double and
every midpoint is a whole number. -/
def gridDepth : Nat := 1080

/-- The nearer to `value` of the decimals with `count` digits that lie within the bounds. -/
def candidate? (low value high : Nat) (closed : Bool) (length count : Nat) :
    Option Decimal :=
  let grid := Nat.pow 10 (length - count)
  let below := value / grid
  let inside (n : Nat) : Bool :=
    if closed then low ≤ n * grid && n * grid ≤ high else low < n * grid && n * grid < high
  let exponent : Int := (length : Int) - count - gridDepth
  match inside below, inside (below + 1) with
  | false, false => none
  | true, false => some ⟨below, exponent⟩
  | false, true => some ⟨below + 1, exponent⟩
  | true, true =>
      let gapBelow := value - below * grid
      let gapAbove := (below + 1) * grid - value
      let lower := gapBelow < gapAbove || (gapBelow == gapAbove && below % 2 == 0)
      some ⟨if lower then below else below + 1, exponent⟩

/-- The shortest decimal for the positive double `significand * 2 ^ exponent`. -/
def shortest (significand : Nat) (exponent : Int) : Decimal :=
  let quarter := Nat.pow 2 (exponent + (gridDepth - 2 : Nat)).toNat * Nat.pow 5 gridDepth
  let value := 4 * significand * quarter
  let narrow := significand == Nat.pow 2 52 && exponent > Magnitude.leastExponent
  let low := value - (if narrow then 1 else 2) * quarter
  let high := value + 2 * quarter
  let length := (Nat.toDigits 10 value).length
  ((List.range 17).findSome? fun n =>
      candidate? low value high (significand % 2 == 0) length (n + 1)).getD
    ⟨value, -(gridDepth : Int)⟩

/-- The digits of a decimal without zeros at the end, and the place of the point counted from the
first digit. -/
def placed (d : Decimal) : List Char × Int :=
  let all := Nat.toDigits 10 d.digits
  ((all.reverse.dropWhile (· == '0')).reverse, all.length + d.exponent)

def exponentText (n : Int) : List Char :=
  let digits := Nat.toDigits 10 n.natAbs
  (if n < 0 then '-' else '+') :: (if digits.length < 2 then '0' :: digits else digits)

/-- A number between 10^-4 and 10^16 is written out, always with a point; any other has one digit
before the point and an exponent of at least two digits. -/
def written (digits : List Char) (point : Int) : List Char :=
  if -4 < point ∧ point ≤ 0 then
    '0' :: '.' :: List.replicate (-point).toNat '0' ++ digits
  else if 0 < point ∧ point ≤ 16 then
    let n := point.toNat
    if digits.length ≤ n then digits ++ List.replicate (n - digits.length) '0' ++ ['.', '0']
    else digits.take n ++ '.' :: digits.drop n
  else
    let tail := digits.drop 1
    digits.take 1 ++ (if tail.isEmpty then [] else '.' :: tail) ++ 'e' :: exponentText (point - 1)

/-- The text of a double. -/
def Double.text (x : Double) : String :=
  let body := match x.magnitude with
    | .infinite => ['i', 'n', 'f']
    | .finite 0 _ => ['0', '.', '0']
    | .finite m e => let (digits, point) := placed (shortest m e); written digits point
  String.ofList (if x.negative then '-' :: body else body)

end Mailroom.Number
