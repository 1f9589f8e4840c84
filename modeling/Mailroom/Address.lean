import Mailroom.Fault
import Mailroom.Text.Blank
import Mailroom.Text.Pattern
import Mailroom.Text.Word
import Mailroom.Wire.EncodedWord

/-!
Addresses: an email and perhaps a personal name. The email has a local part, an at sign and a
domain, which is a name of labels joined by dots or a literal in brackets. Written out, a personal
name stands before the email in angle brackets: quoted if it holds a special character, encoded if
it is not ASCII.
-/

namespace Mailroom

structure Address where
  email : String
  personal : Option String
  deriving DecidableEq, Repr

namespace Address

open Text (Pattern)

def isLocalCharacter (c : Char) : Bool :=
  !(c == '@' || Text.isBlank c || "\"(),:;<>[\\]".toList.contains c)

def isLiteralCharacter (c : Char) : Bool :=
  !(c == '[' || c == ']' || c == '\\' || Text.isBlank c)

def isInnerCharacter (c : Char) : Bool := Text.isWordCharacter c || c == '-'

/-- A label begins and ends with a letter or digit; hyphens and underscores may stand inside. -/
def labelPattern : Pattern :=
  let edge : Pattern := .one Text.isAlphanumeric
  .followedBy edge (.optional (.followedBy (.many (.one isInnerCharacter)) edge))

/-- Labels with dots between them. -/
def namePattern : Pattern :=
  .followedBy labelPattern (.many (.followedBy (.character '.') labelPattern))

/-- One or more characters in brackets. -/
def literalPattern : Pattern :=
  .followedBy (.character '[') (.followedBy (.some (.one isLiteralCharacter)) (.character ']'))

def emailPattern : Pattern :=
  .followedBy (.some (.one isLocalCharacter))
    (.followedBy (.character '@') (.either namePattern literalPattern))

def isEmail (s : List Char) : Bool := emailPattern.fits s

/-- A personal name with one of these is written in quotes. -/
def isSpecial (c : Char) : Bool := "][\\()<>@,:;\".".toList.contains c

def escapeCharacter (c : Char) : List Char :=
  if c == '\\' || c == '"' then ['\\', c] else [c]

/-- A personal name as it stands before the email. -/
def displayName (name : List Char) : List Char :=
  if !Text.isAscii name then Wire.wordOf name
  else
    let body := name.flatMap escapeCharacter
    if name.any isSpecial then '"' :: body ++ ['"'] else body

/-- The written form. An email with characters outside ASCII has none. -/
def text (a : Address) : Except Fault String := do
  requireAscii a.email.toList
  match a.personal with
  | none => return a.email
  | some name =>
      if name.isEmpty then return a.email
      else return String.ofList (displayName name.toList ++ ' ' :: '<' :: a.email.toList ++ ['>'])

/-- The form in which an address shows up inside other texts. -/
def shown (a : Address) : Except Fault String := do
  return "<Address " ++ Text.quoted (← a.text) ++ ">"

end Address

end Mailroom
