import Mailroom.Indexing
import Mailroom.Message
import Mailroom.Session.Resolver

/-!
The dialogue with a relay server. A server is known by its replies and by the calls that fail; what
is said to it is recorded call by call, a failing call too. One call after the other: the
connection, its timeout and debug level, the greeting, encryption, the account, the message, the
farewell.
-/

namespace Mailroom.Relay

/-- What an encrypted connection checks. The certificate is always required. -/
structure TlsContext where
  checkHostname : Bool
  deriving DecidableEq, Repr

inductive Call
  | connect (ssl : Bool) (host : Value) (port : Int) (timeout : Number.Double)
      (context : Option TlsContext)
  | setTimeout (seconds : Number.Double)
  | setDebugLevel (on : Bool)
  | ehlo
  | helo
  | hasExtension (name : String)
  | startTls (context : TlsContext)
  | login (user password : Value)
  | sendMail (sender : Value) (recipients : List String) (text : List UInt8)
  | quit
  | close

def Call.name : Call → String
  | connect .. => "connect"
  | setTimeout _ => "settimeout"
  | setDebugLevel _ => "set_debuglevel"
  | ehlo => "ehlo"
  | helo => "helo"
  | hasExtension _ => "has_extn"
  | startTls _ => "starttls"
  | login .. => "login"
  | sendMail .. => "sendmail"
  | quit => "quit"
  | close => "close"

structure Reply where
  code : Int
  text : String
  deriving DecidableEq, Repr

/-- Whether a greeting is accepted. -/
def Reply.isPositive (r : Reply) : Bool := 200 ≤ r.code && r.code < 300

structure Server where
  /-- The replies to the first greeting and each later one; the last one repeats. -/
  greetings : List Reply
  helo : Reply
  esmtp : Bool
  extensions : List String
  hasSocket : Bool
  /-- The encryption breaks while the farewell is said. -/
  breaksOnQuit : Bool
  /-- Whether a call fails, by the number of calls before it and its name. -/
  fails : Nat → String → Bool

/-- The calls so far, and how many of them were greetings. -/
structure Dialogue where
  calls : List Call
  greeted : Nat

namespace Dialogue

def initial : Dialogue := ⟨[], 0⟩

end Dialogue

namespace Server

/-- Makes a call. -/
def call (server : Server) (c : Call) : Action Dialogue Unit := do
  let before ← .state
  .update fun d => { d with calls := d.calls ++ [c] }
  if server.fails before.calls.length c.name then .fail (.sendFailed c.name)

theorem run_call (server : Server) (c : Call) (d : Dialogue) :
    (server.call c).run d =
      ⟨if server.fails d.calls.length c.name then .error (.sendFailed c.name) else .ok (),
        { d with calls := d.calls ++ [c] }, []⟩ := by
  by_cases h : server.fails d.calls.length c.name <;> simp [call, Action.run_bind, h]

def greet (server : Server) : Action Dialogue Reply := do
  server.call .ehlo
  let d ← .state
  .update fun d => { d with greeted := d.greeted + 1 }
  return (server.greetings[d.greeted]?).getD (server.greetings.getLast?.getD server.helo)

def greetOld (server : Server) : Action Dialogue Reply := do
  server.call .helo
  return server.helo

def offers (server : Server) (name : String) : Action Dialogue Bool := do
  server.call (.hasExtension name)
  return server.extensions.contains name

def farewell (server : Server) : Action Dialogue Unit := do
  server.call .quit
  if server.breaksOnQuit then .fail .brokenEncryption

end Server

/-- The timeout of a session that names none. -/
def defaultTimeout : Int := 60000

/-- Milliseconds in seconds. -/
def seconds (millis : Option Int) : Except Fault Number.Double :=
  match Number.Double.ofInt? (millis.getD defaultTimeout) with
  | some x => .ok (x.divideBy 1000)
  | none => .error (.overflow .float)

def tlsContext (s : Session) : TlsContext := ⟨s.flag .checkIdentity⟩

/-- Opens a connection to the host that the session names. -/
def connect (server : Server) (s : Session) : Action Dialogue Unit := do
  if !s.host.truth then .fail (.relay .noHost)
  let port ← .ofExcept s.port?
  let connectionTimeout ← .ofExcept (s.number? .connectionTimeout)
  let timeout ← .ofExcept (seconds connectionTimeout)
  let ssl := s.flag .ssl
  server.call (.connect ssl s.host (port.getD Session.smtpPort) timeout
    (if ssl then some (tlsContext s) else none))
  if server.hasSocket then
    let socketTimeout ← .ofExcept (s.number? .timeout)
    server.call (.setTimeout (← .ofExcept (seconds socketTimeout)))
  server.call (.setDebugLevel (s.flag .debug))

/-- The old greeting is tried if the new one is refused. -/
def introduce (server : Server) : Action Dialogue Unit := do
  let reply ← server.greet
  if !reply.isPositive then
    let reply ← server.greetOld
    if !reply.isPositive then .fail (.relay (.greetingRefused reply.code reply.text))

/-- Encrypts a plain connection if the session wants it and the server can. -/
def encrypt (server : Server) (s : Session) : Action Dialogue Unit := do
  if !s.flag .ssl then
    let offered ← server.offers "starttls"
    if !offered && s.flag .startTlsRequired then .fail (.relay .encryptionMissing)
    if offered && s.flag .startTls then
      server.call (.startTls (tlsContext s))
      let _ ← server.greet

/-- The second part of an account. -/
def passwordOf (account : Value) : Except Fault Value :=
  match account with
  | .tuple items => itemAt "tuple " items 1
  | .list items => itemAt "list " items 1
  | .text s => itemAt "string " (s.toList.map fun c => .text (String.ofList [c])) 1
  | .bytes bs => itemAt "" (bs.map fun b => .int b.toNat) 1
  | .table _ => .error (.missingKey "1")
  | v => .error (.kind (.notIndexable v.kind))

/-- Names the account, if it has a password. A server that knows no accounts must not be given
one. -/
def authenticate (server : Server) (s : Session) : Action Dialogue Unit := do
  if !s.account.isNothing then
    if server.esmtp then
      let password ← .ofExcept (passwordOf s.account)
      if !password.isNothing then
        match ← .ofExcept s.account.elements with
        | [user, password] => server.call (.login user password)
        | parts => .fail (.kind (.extraArguments "login" 3 3 (parts.length + 1)))
    else .fail (.relay .accountUnusable)

/-- Breaking encryption at the very end does no harm. -/
def leave (server : Server) : Action Dialogue Unit := do
  match ← (server.farewell).attempt with
  | .ok _ => pure ()
  | .error .brokenEncryption => server.call .close
  | .error e => .fail e

def emailOf : Value → Except Fault String
  | .address a => .ok a.email
  | v => .error (.access (.lacking v.kind "email"))

/-- The address that the relay returns a message to. -/
def envelopeSender (s : Session) (m : Message) : Except Fault Value :=
  let bounce := s.get .bounceAddress
  if bounce.truth then .ok bounce else (emailOf m.sender).map .text

def sentText (sender : Value) (recipients : List String) (host : Value) :
    Except Fault String := do
  return "Mail from " ++ (← sender.plain) ++ " to " ++ ", ".intercalate recipients ++
    " sent via " ++ (← host.plain) ++ "."

/-- Sends a message; `none` stands for something that is no message. -/
def send (server : Server) (item : Option Message) : Action Dialogue Unit := do
  let some m := item | .fail (.value .notAMessage)
  let some s := m.session | .fail (.relay .noSession)
  let sender ← .ofExcept (envelopeSender s m)
  let recipients ← .ofExcept (m.recipients.mapM emailOf)
  if recipients.isEmpty then .fail (.relay .noRecipients)
  let entity ← .ofExcept m.entity
  let text ← .ofExcept entity.write
  connect server s
  introduce server
  encrypt server s
  authenticate server s
  server.call (.sendMail sender recipients text)
  leave server
  .note ⟨.mailer, .info, sentText sender recipients s.host⟩

end Mailroom.Relay
