/-!
The bounds of whole numbers with 64 and with 32 binary digits, one of them for the sign.
-/

namespace Mailroom.Number

/-- The first number that 64 binary digits do not hold. -/
def longBound : Int := 0x8000000000000000

/-- The first number that 32 binary digits do not hold. -/
def intBound : Int := 0x80000000

def fitsLong (n : Int) : Bool := -longBound ≤ n && n < longBound

def fitsInt (n : Int) : Bool := -intBound ≤ n && n < intBound

end Mailroom.Number
