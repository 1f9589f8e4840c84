import Mailroom.Entries

/-!
Sessions: the transport properties of a mail and perhaps an account, a user name with a password.
A session never changes. Two sessions are the same only if they are one, so each has an origin that
no other session shares.
-/

namespace Mailroom

/-- The properties that the mail room itself reads or writes. -/
inductive Property
  | protocol
  | host
  | port
  | ssl
  | startTls
  | startTlsRequired
  | checkIdentity
  | bounceAddress
  | auth
  | user
  | timeout
  | connectionTimeout
  | debug
  deriving DecidableEq, Repr

def Property.name : Property → String
  | protocol => "mail.transport.protocol"
  | host => "mail.smtp.host"
  | port => "mail.smtp.port"
  | ssl => "mail.smtp.ssl.enable"
  | startTls => "mail.smtp.starttls.enable"
  | startTlsRequired => "mail.smtp.starttls.required"
  | checkIdentity => "mail.smtp.ssl.checkserveridentity"
  | bounceAddress => "mail.smtp.from"
  | auth => "mail.smtp.auth"
  | user => "mail.smtp.user"
  | timeout => "mail.smtp.timeout"
  | connectionTimeout => "mail.smtp.connectiontimeout"
  | debug => "mail.debug"

/-- Where a session comes from: a caller made it, or a builder opened it. -/
inductive Origin
  | supplied (serial : Nat)
  | opened (serial : Nat)
  deriving DecidableEq, Repr

structure Session where
  origin : Origin
  properties : Entries Value Value
  account : Value

namespace Session

/-- A value that counts as false stands for no properties. -/
def make (origin : Origin) (properties account : Value) : Except Fault Session := do
  let entries ← if properties.truth then properties.toEntries else .ok []
  return ⟨origin, entries, account⟩

def find? (s : Session) (name : Value) : Option Value := s.properties.find? Value.same name

/-- The value of a property, or `default` if the session does not have it. -/
def lookup (s : Session) (name default : Value) : Except Fault Value := do
  name.requireKey
  return (s.find? name).getD default

def get (s : Session) (p : Property) : Value := (s.find? (.text p.name)).getD .nothing

/-- A flag is up if its value is the word for truth, and down in all other cases. -/
def isUp (v : Value) : Bool := v.text? == some "true"

def flag (s : Session) (p : Property) : Bool := isUp (s.get p)

def host (s : Session) : Value := s.get .host

/-- A property that is a whole number, if it is there. -/
def number? (s : Session) (p : Property) : Except Fault (Option Int) :=
  match s.get p with
  | .nothing => .ok none
  | v => v.toInt.map some

def port? (s : Session) : Except Fault (Option Int) := s.number? .port

/-- The form in which a session shows up inside other texts. -/
def shown (s : Session) : Except Fault String := do
  let host ← s.host.shown
  let port ← (s.get .port).shown
  return "<Session host=" ++ host ++ " port=" ++ port ++ ">"

end Session

end Mailroom
