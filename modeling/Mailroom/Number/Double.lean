/-!
Floating point numbers of double precision, kept as a whole multiple of a power of two, and the
nearest one to a quotient of two whole numbers. All arithmetic is exact; one rounding ends it.
-/

namespace Mailroom.Number

/-- A size: `significand` times two to the power `exponent`, or beyond all such. -/
inductive Magnitude
  | finite (significand : Nat) (exponent : Int)
  | infinite
  deriving DecidableEq, Repr

structure Double where
  negative : Bool
  magnitude : Magnitude
  deriving DecidableEq, Repr

/-- `numerator / denominator` to the nearest whole number, a half going to the even neighbour. -/
def roundQuotient (numerator denominator : Nat) : Nat :=
  let q := numerator / denominator
  let r := 2 * (numerator % denominator)
  if r > denominator || (r == denominator && q % 2 == 1) then q + 1 else q

namespace Magnitude

def leastExponent : Int := -1074
def greatestExponent : Int := 971
def significandLimit : Nat := Nat.pow 2 53

/-- `numerator / denominator`, counted in units of two to the power `exponent`. -/
def inUnits (numerator denominator : Nat) (exponent : Int) : Nat :=
  if exponent ≥ 0 then roundQuotient numerator (denominator * Nat.pow 2 exponent.toNat)
  else roundQuotient (numerator * Nat.pow 2 (-exponent).toNat) denominator

/-- The exponent at which the quotient takes all 53 binary digits, or the least one. -/
def scaleOf (numerator denominator : Nat) : Int :=
  let guess : Int := (Nat.log2 numerator : Int) - Nat.log2 denominator - 52
  let fits :=
    if guess ≥ 0 then denominator * Nat.pow 2 (guess.toNat + 52) ≤ numerator
    else denominator * Nat.pow 2 52 ≤ numerator * Nat.pow 2 (-guess).toNat
  max leastExponent (if fits then guess else guess - 1)

/-- The double nearest to a quotient, with a half going to the even neighbour. -/
def ofQuotient (numerator denominator : Nat) : Magnitude :=
  let e := scaleOf numerator denominator
  let n := inUnits numerator denominator e
  let (significand, exponent) := if n == significandLimit then (n / 2, e + 1) else (n, e)
  if exponent > greatestExponent then .infinite else .finite significand exponent

/-- The whole part; `none` beyond all numbers. -/
def whole? : Magnitude → Option Nat
  | finite m e => some (if e ≥ 0 then m * Nat.pow 2 e.toNat else m / Nat.pow 2 (-e).toNat)
  | infinite => none

def isZero : Magnitude → Bool
  | finite m _ => m == 0
  | infinite => false

end Magnitude

namespace Double

def isZero (x : Double) : Bool := x.magnitude.isZero

/-- The double nearest to `digits` times ten to the power `exponent`. -/
def ofDecimal (negative : Bool) (digits : Nat) (exponent : Int) : Double :=
  ⟨negative,
    if exponent ≥ 0 then .ofQuotient (digits * Nat.pow 10 exponent.toNat) 1
    else .ofQuotient digits (Nat.pow 10 (-exponent).toNat)⟩

/-- The number that decimal digits stand for. -/
def digitsValue (s : List Char) : Nat := s.foldl (fun n c => 10 * n + (c.toNat - 48)) 0

/-- The power of ten at the end of a decimal text. -/
def powerValue : List Char → Int
  | '-' :: digits => -(digitsValue digits : Int)
  | '+' :: digits => digitsValue digits
  | digits => digitsValue digits

/-- Every number from ten to this power on is infinite, and every one below ten to minus this power
is zero. -/
def tenPowerBound : Nat := 400

/-- The double nearest to a decimal text: an optional minus, digits with or without a point, and
perhaps the letter e with a power of ten. -/
def ofDecimalText (s : List Char) : Double :=
  let isPowerMark (c : Char) : Bool := c == 'e' || c == 'E'
  let digits := (s.takeWhile fun c => !isPowerMark c).filter fun c => c != '-'
  let fraction := (digits.dropWhile (· != '.')).drop 1
  let power := powerValue ((s.dropWhile fun c => !isPowerMark c).drop 1) - fraction.length
  let negative := s.head? == some '-'
  let value := digitsValue (digits.filter (· != '.'))
  if value == 0 || power < -(digits.length + tenPowerBound) then ⟨negative, .finite 0 0⟩
  else if power > tenPowerBound then ⟨negative, .infinite⟩
  else ofDecimal negative value power

/-- The double nearest to a whole number; `none` for a number beyond all of them. -/
def ofInt? (n : Int) : Option Double :=
  match Magnitude.ofQuotient n.natAbs 1 with
  | .infinite => none
  | size => some ⟨n < 0, size⟩

/-- The double nearest to `x` divided by `divisor`. -/
def divideBy (x : Double) (divisor : Nat) : Double :=
  match x.magnitude with
  | .infinite => x
  | .finite m e =>
      ⟨x.negative,
        if e ≥ 0 then .ofQuotient (m * Nat.pow 2 e.toNat) divisor
        else .ofQuotient m (divisor * Nat.pow 2 (-e).toNat)⟩

/-- The whole number next to `x` on the side of zero; `none` if `x` is infinite. -/
def truncate? (x : Double) : Option Int :=
  x.magnitude.whole?.map fun n => if x.negative then -Int.ofNat n else Int.ofNat n

/-- Whether `x` is exactly the whole number `n`. -/
def isInteger (x : Double) (n : Int) : Bool :=
  match x.magnitude with
  | .infinite => false
  | .finite m e =>
      let same :=
        if e ≥ 0 then m * Nat.pow 2 e.toNat == n.natAbs else m == n.natAbs * Nat.pow 2 (-e).toNat
      same && (m == 0 || x.negative == decide (n < 0))

/-- Equality of values: the two zeros are one number. -/
def sameValue (x y : Double) : Bool := x == y || (x.isZero && y.isZero)

/-- A double as a whole multiple of a power of two; minus or plus one stands for the infinite ones
instead, which come before and after all others. -/
def scaled (x : Double) : Int × Int × Int :=
  match x.magnitude with
  | .infinite => (if x.negative then -1 else 1, 0, 0)
  | .finite m e => (0, if x.negative then -(m : Int) else m, e)

end Double

/-- Whether one number comes before another, both as `Double.scaled` gives them. -/
def scaledBefore : Int × Int × Int → Int × Int × Int → Bool
  | (0, m, e), (0, n, f) =>
      let least := min e f
      m * Nat.pow 2 (e - least).toNat < n * Nat.pow 2 (f - least).toNat
  | (side, _, _), (other, _, _) => side < other

end Mailroom.Number
