import Mailroom.Text.WordTable

/-!
Word characters: the letters and digits that a domain label is made of, and the underscore that
may stand between them.
-/

namespace Mailroom.Text

def isAlphanumeric (c : Char) : Bool := alphanumericRanges.contains c.toNat

def isWordCharacter (c : Char) : Bool := isAlphanumeric c || c == '_'

end Mailroom.Text
