import Mailroom.Header.Field
import Mailroom.Session
import Mailroom.Wire.Entity

/-!
Messages: the immutable result of composing. A message keeps what it was given, of whatever kind;
only its lists are gone through and its headers read as a mapping. `entity` is the mail that it
stands for: its own headers first, then those that follow from its fields, then the body. The blind
copy list leaves no trace there.
-/

namespace Mailroom

structure Message where
  sender : Value
  addressees : List Value
  cc : List Value
  bcc : List Value
  replyTo : List Value
  subject : Value
  body : Value
  headers : Entries Value Value
  sentDate : Value
  session : Option Session

namespace Message

/-- The names by which the fields other than the session can be changed. -/
def fieldNames : List String :=
  ["from_address", "to", "cc", "bcc", "reply_to", "subject", "body", "headers", "sent_date",
    "session"]

/-- A value that counts as false stands for no headers. -/
def headersOf (v : Value) : Except Fault (Entries Value Value) :=
  if v.truth then v.toEntries else .ok []

/-- A message from loosely typed fields. -/
def make (sender addressees cc bcc replyTo subject body headers sentDate : Value)
    (session : Option Session) : Except Fault Message := do
  let addressees ← addressees.elements
  let cc ← cc.elements
  let bcc ← bcc.elements
  let replyTo ← replyTo.elements
  let headers ← headersOf headers
  return ⟨sender, addressees, cc, bcc, replyTo, subject, body, headers, sentDate, session⟩

/-- A new message with some fields changed. A name that is no field's is refused before anything
else is looked at; the name of the message itself is taken. -/
def change (changes : List (String × Value)) (session : Option (Option Session)) (m : Message) :
    Except Fault Message := do
  if changes.any fun c => c.1 == "self" then
    .error (.kind (.repeatedArgument "Message.replace" "self"))
  let unknown := (changes.map (·.1)).filter fun name => !fieldNames.contains name
  if !unknown.isEmpty then
    .error (.kind (.unknownFields (unknown.mergeSort fun a b => !(b < a))))
  let given (name : String) : Option Value := (changes.find? fun c => c.1 == name).map (·.2)
  let listOr (name : String) (old : List Value) : Except Fault (List Value) :=
    match given name with
    | none => .ok old
    | some v => v.elements
  let addressees ← listOr "to" m.addressees
  let cc ← listOr "cc" m.cc
  let bcc ← listOr "bcc" m.bcc
  let replyTo ← listOr "reply_to" m.replyTo
  let headers ← match given "headers" with
    | none => pure m.headers
    | some v => headersOf v
  return ⟨(given "from_address").getD m.sender, addressees, cc, bcc, replyTo,
    (given "subject").getD m.subject, (given "body").getD m.body, headers,
    (given "sent_date").getD m.sentDate, session.getD m.session⟩

/-- Everyone the message is sent to. -/
def recipients (m : Message) : List Value := m.addressees ++ m.cc ++ m.bcc

/-- Addresses as they stand in one header. -/
def addressLine (addresses : List Value) : Except Fault String := do
  return ", ".intercalate (← addresses.mapM Value.plain)

def addressField (name : String) (addresses : List Value) (e : Wire.Entity) :
    Except Fault Wire.Entity := do
  if addresses.isEmpty then return e
  else return e.replace name (.text (← addressLine addresses))

/-- Whether a header is left out of the mail because its name is that of the blind copy list. -/
def isHidden : Value → Except Fault Bool
  | .text name => .ok (Header.isReserved name.toList)
  | .bytes _ => .ok false
  | v => .error (.access (.lacking v.kind "lower"))

/-- The headers that go into the mail. -/
def visibleHeaders (headers : Entries Value Value) : Except Fault (List (Value × Value)) :=
  headers.filterM fun header => (isHidden header.1).map not

/-- The text of a date header. -/
def dateText : Value → Except Fault String
  | .moment t => .ok t.headerText
  | v => .error (.access (.lacking v.kind "timetuple"))

def dateField (v : Value) (e : Wire.Entity) : Except Fault Wire.Entity := do
  if v.isNothing then return e
  else return e.replace "Date" (.text (← dateText v))

/-- The mail that a message stands for. -/
def entity (m : Message) : Except Fault Wire.Entity := do
  let e : Wire.Entity := ⟨← visibleHeaders m.headers, .octets []⟩
  let e := e.replace "From" (.text (← m.sender.plain))
  let e ← addressField "To" m.addressees e
  let e ← addressField "Cc" m.cc e
  let e ← addressField "Reply-To" m.replyTo e
  let e := if m.subject.isNothing then e else e.replace "Subject" m.subject
  let e ← dateField m.sentDate e
  e.setBody m.body

/-- The form in which a message shows up inside other texts. -/
def shown (m : Message) : Except Fault String := do
  let sender ← m.sender.plain
  let subject ← m.subject.shown
  return "<Message from " ++ sender ++ " to " ++ toString m.recipients.length ++
    " recipient(s): " ++ subject ++ ">"

end Message

end Mailroom
