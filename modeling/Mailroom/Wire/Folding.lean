import Mailroom.Fault
import Mailroom.Text.Blank
import Mailroom.Wire.EncodedWord

/-!
Folding a header value into lines of at most 78 columns where that can be done. A line is filled
with words, each with the blanks before it. When a word makes it too long, the line is cut behind
the last word that ends in a semicolon, else in a comma, else before the last word that follows a
space, else a tab. Values with characters outside ASCII are written as encoded words instead. The
line breaks that a value holds itself start new lines too.
-/

namespace Mailroom.Wire

def lineWidth : Nat := 78

/-- A word and the blanks before it. -/
abbrev Part := List Char × List Char

/-- The line being filled. On the first line the field name takes `lead` columns. -/
structure Line where
  lead : Nat
  parts : List Part

namespace Line

def fresh : Line := ⟨0, []⟩

def text (l : Line) : List Char := l.parts.flatMap fun part => part.1 ++ part.2

def width (l : Line) : Nat := l.lead + l.text.length

def push (part : Part) (l : Line) : Line := { l with parts := l.parts ++ [part] }

/-- A single space at the end of a line is dropped. -/
def dropSpace (l : Line) : Line :=
  if l.parts.getLast? = some ([' '], []) then { l with parts := l.parts.dropLast } else l

/-- Whether a line may be cut before its part `next`, which follows `previous`. -/
def cutsAt (mark : Char) (previous next : Part) : Bool :=
  if mark == ' ' || mark == '\t' then next.1.head? == some mark
  else previous.2.getLast? == some mark

/-- The parts before and after the last place where `mark` allows a cut. -/
def splitLast? (mark : Char) : List Part → Option (List Part × List Part)
  | previous :: next :: rest =>
      match splitLast? mark (next :: rest) with
      | some (before, after) => some (previous :: before, after)
      | none => if cutsAt mark previous next then some ([previous], next :: rest) else none
  | _ => none

/-- A cut loses nothing and leaves something on both sides. -/
theorem eq_append_of_splitLast? {mark : Char} {parts before after : List Part}
    (h : splitLast? mark parts = some (before, after)) :
    parts = before ++ after ∧ before ≠ [] ∧ after ≠ [] := by
  fun_induction splitLast? mark parts generalizing before after with
  | case1 previous next rest b a hrest ih =>
      obtain ⟨heq, -, hafter⟩ := ih hrest
      cases h
      exact ⟨by rw [heq, List.cons_append], by simp, hafter⟩
  | case2 previous next rest hrest hcut =>
      cases h
      exact ⟨rfl, by simp, by simp⟩
  | case3 => cases h
  | case4 => cases h

/-- The best place for a cut, as the parts before and after it. -/
def split? (l : Line) : Option (List Part × List Part) :=
  [';', ',', ' ', '\t'].findSome? fun mark => splitLast? mark l.parts

end Line

/-- The finished lines, last one first, and the line being filled. -/
structure Fold where
  done : List (List Char)
  line : Line

namespace Fold

/-- Ends the line being filled. A line of blanks is added to the one before. -/
def endLine (f : Fold) : Fold :=
  let line := f.line.dropSpace
  if line.width == 0 then ⟨f.done, .fresh⟩
  else
    match f.done with
    | last :: rest =>
        if line.lead == 0 && Text.allBlank line.text then ⟨(last ++ line.text) :: rest, .fresh⟩
        else ⟨line.text :: f.done, .fresh⟩
    | [] => ⟨[line.text], .fresh⟩

/-- Adds a word. If it makes the line too long and there is no place for a cut, it leaves the field
name alone on its line. -/
def add (part : Part) (f : Fold) : Fold :=
  let line := f.line.push part
  if line.width ≤ lineWidth then ⟨f.done, line⟩
  else
    match line.split? with
    | some (before, after) => ⟨(⟨0, before⟩ : Line).text :: f.done, ⟨0, after⟩⟩
    | none =>
        if f.line.lead > 0 then
          let f := f.endLine
          ⟨f.done, f.line.push (if part.1.isEmpty then [' '] else part.1, part.2)⟩
        else ⟨f.done, line⟩

end Fold

def isFoldingBlank (c : Char) : Bool := c == ' ' || c == '\t'

/-- The words of a line, each with the blanks before it; blanks at the end stand before an empty
word. -/
def parts : List Char → List Part
  | [] => []
  | c :: rest =>
      match parts rest with
      | [] => if isFoldingBlank c then [([c], [])] else [([], [c])]
      | (blanks, word) :: more =>
          if isFoldingBlank c then (c :: blanks, word) :: more
          else if blanks.isEmpty then ([], c :: word) :: more
          else ([], [c]) :: (blanks, word) :: more

/-- Cuts a text into encoded words whose codes have at most `limit` characters, after the first word
`next` characters. `none` stands for a first word that has no room at all. -/
def encodedWords (code : WordCode) (limit next : Nat) (started : Bool) (current : List Char) :
    List Char → List (Option (List Char))
  | [] => [some (encodedWord code (Text.utf8 current))]
  | c :: rest =>
      if code.length (Text.utf8 (current ++ [c])) ≤ limit then
        encodedWords code limit next started (current ++ [c]) rest
      else if !started && current.isEmpty then
        none :: encodedWords code next next true [c] rest
      else
        some (encodedWord code (Text.utf8 current)) :: encodedWords code next next true [c] rest

/-- Adds a text as encoded words, the first one behind `blanks` on the line being filled and each
other one behind a space on a line of its own. -/
def Fold.addEncoded (blanks s : List Char) (f : Fold) : Fold :=
  let code := WordCode.shorter (Text.utf8 s)
  let words :=
    encodedWords code (lineWidth - f.line.width - wordFrame) (lineWidth - 1 - wordFrame) false [] s
  let f := match words.head? with
    | some (some word) => f.add (blanks, word)
    | _ => f
  match (words.drop 1).reverse with
  | [] => f
  | last :: middle =>
      let f := f.endLine
      let whole := middle.map fun word => ' ' :: word.getD []
      ⟨whole ++ f.done, f.line.push ([' '], last.getD [])⟩

/-- Adds one line of a value. A line after the first keeps its blanks in front, as encoded words
only a single space. -/
def Fold.addLine (ascii first : Bool) (s : List Char) (f : Fold) : Fold :=
  if ascii then (parts s).foldl (fun f part => f.add part) f
  else if first then f.addEncoded [] s
  else f.addEncoded [' '] (' ' :: Text.trimStart s)

/-- Whether text after a line feed looks like the start of another field. -/
def hasEmbeddedField : List Char → Bool
  | [] => false
  | c :: rest =>
      (c == '\n' && ((rest.takeWhile fun d => !isFoldingBlank d).drop 1).contains ':') ||
        hasEmbeddedField rest

/-- The lines of a value, for a field whose name takes `lead` columns. A space that ends a value of
one line is kept; one that ends a line before another is dropped. -/
def foldedLines (lead : Nat) (value : List Char) : List (List Char) :=
  let ascii := Text.isAscii value
  let f : Fold := ⟨[], ⟨lead, []⟩⟩
  let f := match Text.lines value with
    | [] => f
    | [line] => f.addLine ascii true line
    | line :: more =>
        (more.foldl (fun f l => (Fold.endLine f).addLine ascii false l)
          (f.addLine ascii true line)).endLine
  let closed : Fold := ⟨f.done, f.line.push ([' '], [])⟩
  closed.endLine.done.reverse

/-- A value as it stands behind the name of its field. -/
def foldValue (lead : Nat) (value : List Char) : Except Fault (List Char) :=
  let folded := ['\n'].intercalate (foldedLines lead value)
  if hasEmbeddedField folded then .error (.embeddedHeader (Text.quoted (String.ofList folded)))
  else .ok folded

end Mailroom.Wire
