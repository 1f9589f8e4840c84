/-!
Sets of characters given as rising, separate ranges of code points. Membership stops at the
first range that lies above the character.
-/

namespace Mailroom.Text

/-- A set of code points: rising ranges with both ends included. -/
abbrev Ranges := List (Nat × Nat)

namespace Ranges

def contains : Ranges → Nat → Bool
  | [], _ => false
  | (low, high) :: rest, n => if n < low then false else n ≤ high || contains rest n

end Ranges

end Mailroom.Text
