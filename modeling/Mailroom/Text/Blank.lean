/-!
Blanks and line breaks. A blank is a character that text is trimmed of; a line break ends a line
when text is cut into lines. Every line break is a blank.
-/

namespace Mailroom.Text

def isBlank (c : Char) : Bool :=
  let n := c.toNat
  (9 ≤ n && n ≤ 13) || (28 ≤ n && n ≤ 32) || n == 0x85 || n == 0xA0 || n == 0x1680 ||
    (0x2000 ≤ n && n ≤ 0x200A) || n == 0x2028 || n == 0x2029 || n == 0x202F || n == 0x205F ||
    n == 0x3000

def isLineBreak (c : Char) : Bool :=
  let n := c.toNat
  (10 ≤ n && n ≤ 13) || (28 ≤ n && n ≤ 30) || n == 0x85 || n == 0x2028 || n == 0x2029

def trimStart (s : List Char) : List Char := s.dropWhile isBlank

def trimEnd (s : List Char) : List Char := (s.reverse.dropWhile isBlank).reverse

def trim (s : List Char) : List Char := trimEnd (trimStart s)

/-- Nothing but blanks; the empty text counts as blank. -/
def allBlank (s : List Char) : Bool := s.all isBlank

/-- `s` without the blanks at its two ends. -/
def strip (s : String) : String := String.ofList (trim s.toList)

/-- A carriage return or a line feed, the two characters that end a line on the wire. -/
def isLineEnd (c : Char) : Bool := c == '\r' || c == '\n'

def hasLineEnd (s : List Char) : Bool := s.any isLineEnd

/-- Cut before every line break, which is dropped; `line` holds the characters of the line so far,
last one first. A carriage return and a line feed together are one break, and the end of the text
starts no line. -/
def splitAtBreaks (line : List Char) : List Char → List (List Char)
  | [] => if line.isEmpty then [] else [line.reverse]
  | '\r' :: '\n' :: rest => line.reverse :: splitAtBreaks [] rest
  | c :: rest =>
      if isLineBreak c then line.reverse :: splitAtBreaks [] rest
      else splitAtBreaks (c :: line) rest

/-- The lines of a text, without their breaks. -/
def lines (s : List Char) : List (List Char) := splitAtBreaks [] s

/-- Every end of line written as one line feed. -/
def unifyLineEnds : List Char → List Char
  | [] => []
  | '\r' :: '\n' :: rest => '\n' :: unifyLineEnds rest
  | '\r' :: rest => '\n' :: unifyLineEnds rest
  | c :: rest => c :: unifyLineEnds rest

end Mailroom.Text
