import Mailroom.Text.LetterCaseTable

/-!
Lower case. All but two letters go to one letter whatever stands beside them: the dotted capital I
becomes two characters, and the capital sigma becomes a final sigma at the end of a word.
-/

namespace Mailroom.Text

def lowerCodeIn : List (Nat × Nat × Nat × Int) → Nat → Nat
  | [], n => n
  | (first, last, step, distance) :: rest, n =>
      if n < first then n
      else if n ≤ last && (n - first) % step == 0 then (n + distance).toNat
      else lowerCodeIn rest n

/-- The lower case form of one character on its own. -/
def lowerCharacter (c : Char) : Char := Char.ofNat (lowerCodeIn lowerRuns c.toNat)

def isCased (c : Char) : Bool := casedRanges.contains c.toNat

def isPassedOver (c : Char) : Bool := caseIgnorableRanges.contains c.toNat

/-- Whether the nearest character that is not passed over has a case. -/
def meetsLetter (s : List Char) : Bool :=
  ((s.dropWhile isPassedOver).head?.map isCased).getD false

/-- `before` holds what precedes, last character first. -/
def lowerFrom (before : List Char) : List Char → List Char
  | [] => []
  | c :: rest =>
      let here :=
        if c == 'İ' then ['i', Char.ofNat 0x307]
        else if c == 'Σ' then [if meetsLetter before && !meetsLetter rest then 'ς' else 'σ']
        else [lowerCharacter c]
      here ++ lowerFrom (c :: before) rest

def lower (s : List Char) : List Char := lowerFrom [] s

def lowerText (s : String) : String := String.ofList (lower s.toList)

end Mailroom.Text
