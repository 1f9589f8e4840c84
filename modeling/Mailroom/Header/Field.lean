import Mailroom.Text.LetterCase
import Mailroom.Value

/-!
Which names and values an extra header may have. A name is printable ASCII without a colon or a
space; the name of the blind copy list is taken, in any spelling. A value is a text that is not
blank and stays on one line.
-/

namespace Mailroom.Header

def isNameCharacter (c : Char) : Bool :=
  (0x21 ≤ c.toNat && c.toNat ≤ 0x39) || (0x3B ≤ c.toNat && c.toNat ≤ 0x7E)

/-- One or more name characters; a single line feed after them goes unnoticed. -/
def isName (s : List Char) : Bool :=
  let core := if s.getLast? = some '\n' then s.dropLast else s
  !core.isEmpty && core.all isNameCharacter

/-- Blind copies are taken from their recipient list only. -/
def isReserved (name : List Char) : Bool := Text.lower name == "bcc".toList

def checkName : Value → Except Fault String
  | .text name =>
      if Text.allBlank name.toList then .error (.header .emptyName)
      else if !isName name.toList then .error (.header (.malformedName (Text.quoted name)))
      else if isReserved name.toList then .error (.header (.reserved name))
      else .ok name
  | _ => .error (.header .emptyName)

def checkValue (name : String) : Value → Except Fault String
  | .text value =>
      if Text.allBlank value.toList then .error (.header (.emptyValue name))
      else if Text.hasLineEnd value.toList then .error (.header (.brokenValue name))
      else .ok value
  | _ => .error (.header (.emptyValue name))

/-- The name is looked at before the value. -/
def check (name value : Value) : Except Fault (String × String) := do
  let name ← checkName name
  let value ← checkValue name value
  return (name, value)

end Mailroom.Header
