/-!
Patterns of texts. A pattern is tried at the start of a text and may fit there in several ways, each
of which leaves something over; the way that takes the most comes first. A text fits if nothing is
left over of it, or nothing but a line feed at its end.
-/

namespace Mailroom.Text

inductive Pattern
  | nothing
  | one (test : Char → Bool)
  | followedBy (first second : Pattern)
  | either (first second : Pattern)
  /-- Any number of rounds, none included. -/
  | many (round : Pattern)

namespace Pattern

def character (c : Char) : Pattern := one (· == c)

def optional (p : Pattern) : Pattern := either p nothing

def some (p : Pattern) : Pattern := p.followedBy p.many

/-- What is left over after a limited number of rounds. -/
def rounds (round : List Char → List (List Char)) : Nat → List Char → List (List Char)
  | 0, s => [s]
  | n + 1, s => (round s).flatMap (rounds round n) ++ [s]

/-- What a pattern leaves over of a text, for each way in which it fits at the start. -/
def rests : Pattern → List Char → List (List Char)
  | nothing, s => [s]
  | one _, [] => []
  | one test, c :: rest => if test c then [rest] else []
  | followedBy p q, s => (p.rests s).flatMap q.rests
  | either p q, s => p.rests s ++ q.rests s
  -- A round that takes nothing does not help, so there need not be more rounds than characters.
  | many p, s => rounds p.rests s.length s

def isEnd (s : List Char) : Bool := s.isEmpty || s == ['\n']

def fits (p : Pattern) (s : List Char) : Bool := (p.rests s).any isEnd

end Pattern

end Mailroom.Text
