import Mailroom.Header.Store
import Mailroom.Message
import Mailroom.Recipients
import Mailroom.Session.Resolver

/-!
Builders. A builder collects the parts of one message and then builds it, once; after that nothing
can be changed any more. What is given to it is checked at once, and a call that is refused changes
nothing. The session of the message is found when it is first asked for and then kept, until
another explicit session is given.
-/

namespace Mailroom

/-- What a builder does about a message without recipients. -/
inductive Policy
  | required
  | warn
  deriving DecidableEq, Repr

def Policy.name : Policy → String
  | required => "required"
  | warn => "warn"

def Policy.ofValue (v : Value) : Except Fault Policy :=
  match [Policy.required, .warn].find? fun policy => v.text? == some policy.name with
  | some policy => .ok policy
  | none => do .error (.value (.unknownPolicy (← v.shown)))

/-- What a builder goes by: the links that find a session, the policy, and the time that it takes
for a message without a date. -/
structure Rules where
  links : List Session.Link
  policy : Policy
  now : Moment

/-- How far a builder is. -/
inductive Progress
  | empty
  | configured
  | built
  deriving DecidableEq, Repr

def Progress.code : Progress → Nat
  | empty => 0
  | configured => 1
  | built => 2

structure Builder where
  settings : Settings
  sender : Option Address
  recipients : Recipients Address
  headers : Header.Store
  subject : Value
  body : Value
  sentDate : Value
  /-- The session that was given. -/
  explicit : Option Session
  /-- The session that was found. -/
  session : Option Session
  message : Option Message
  progress : Progress
  /-- How many sessions were found. -/
  found : Nat

namespace Builder

def ofSettings (c : Settings) : Builder :=
  ⟨c, none, .empty, .empty, .nothing, .nothing, .nothing, none, none, none, .empty, 0⟩

/-- The settings that can be changed one by one; the account is changed as a whole. -/
def attributes : List Setting := Setting.all.filter fun s => s != .username && s != .password

/-- Nothing is changed once the message is built. -/
def requireOpen : Action Builder Unit := do
  if (← .state).progress == .built then .fail .alreadyBuilt

def configure (change : Builder → Builder) : Action Builder Unit := do
  requireOpen
  .update fun b => { change b with progress := .configured }

theorem run_requireOpen_of_built {b : Builder} (h : b.progress = .built) :
    requireOpen.run b = ⟨.error .alreadyBuilt, b, []⟩ := by
  simp [requireOpen, Action.run_bind, h]

theorem run_requireOpen_of_open {b : Builder} (h : b.progress ≠ .built) :
    requireOpen.run b = ⟨.ok (), b, []⟩ := by
  simp [requireOpen, Action.run_bind, h]

theorem run_configure_of_open (change : Builder → Builder) {b : Builder} (h : b.progress ≠ .built) :
    (configure change).run b = ⟨.ok (), { change b with progress := .configured }, []⟩ := by
  rw [configure, Action.run_bind, run_requireOpen_of_open h]
  rfl

/-! ### Settings and session -/

def setSetting (setting : Setting) (v : Value) : Action Builder Unit :=
  configure fun b => { b with settings := b.settings.set setting v }

def setAccount (user password : Value) : Action Builder Unit :=
  configure fun b =>
    { b with settings := (b.settings.set .username user).set .password password }

/-- Gives an explicit session, or takes it back; a session that was found is forgotten. -/
def setSession (s : Option Session) : Action Builder Unit :=
  configure fun b => { b with explicit := s, session := none }

def reusedText (s : Session) : Except Fault String := do
  return "Reusing session " ++ (← s.shown)

/-- What the links are asked about. -/
def inquiry (b : Builder) : Session.Inquiry := ⟨b.explicit, b.settings⟩

def answering (q : Session.Inquiry) (b : Builder) : Builder :=
  { b with explicit := q.explicit, settings := q.settings }

/-- The session of the message. -/
def getSession (rules : Rules) : Action Builder Session := do
  let b ← .state
  match b.session with
  | some s =>
      .note ⟨.builder, .debug, reusedText s⟩
      return s
  | none =>
      let s ← .within inquiry answering (Session.ask b.found rules.links)
      .update fun b => { b with session := some s, found := b.found + 1 }
      return s

theorem run_getSession_of_some (rules : Rules) {b : Builder} {s : Session}
    (h : b.session = some s) :
    (getSession rules).run b = ⟨.ok s, b, [⟨.builder, .debug, reusedText s⟩]⟩ := by
  rw [getSession, Action.run_bind, Action.run_state]
  dsimp only
  rw [h]
  rfl

/-- A builder that finds its session keeps it, and one that finds none is left as it was. -/
theorem run_getSession_of_none (rules : Rules) {b : Builder} (h : b.session = none) :
    (getSession rules).run b =
      let found := (Session.resolve rules.links b.explicit b.settings b.found).run ()
      match found.result with
      | .error e => ⟨.error e, b, found.log⟩
      | .ok s => ⟨.ok s, { b with session := some s, found := b.found + 1 }, found.log⟩ := by
  have hask : (Action.within inquiry answering (Session.ask b.found rules.links)).run b =
      let found := (Session.resolve rules.links b.explicit b.settings b.found).run ()
      ⟨found.result, b, found.log⟩ := by
    rw [Action.run_within, Session.state_ask]
    rfl
  rw [getSession, Action.run_bind, Action.run_state]
  dsimp only
  rw [h]
  dsimp only
  rw [Action.run_bind, hask]
  cases ((Session.resolve rules.links b.explicit b.settings b.found).run ()).result with
  | error e => rfl
  | ok s => simp [Except.map]

/-- The host that the session names or, as long as there is no session, the one that is set. -/
def hostName (b : Builder) : Value :=
  match b.session.or b.explicit with
  | some s => s.host
  | none => if b.settings.hostName.truth then b.settings.hostName else .nothing

/-! ### Parts of the message -/

def setSender (email personal : Value) : Action Builder Unit := do
  requireOpen
  let a ← .ofExcept (Address.validate email personal)
  configure fun b => { b with sender := some a }

/-- An action on the recipient lists. -/
def onRecipients (x : Action (Recipients Address) Unit) : Action Builder Unit := do
  requireOpen
  .within recipients (fun r b => { b with recipients := r }) x
  configure id

def addRecipients (role : Role) (entries : List Value) : Action Builder Unit :=
  onRecipients (Recipients.add Address.parse role (.tuple entries))

def setRecipients (role : Role) (entries : Value) : Action Builder Unit :=
  onRecipients (Recipients.set Address.parse role entries)

/-- An action on the extra headers. -/
def onHeaders (x : Action Header.Store Unit) : Action Builder Unit := do
  requireOpen
  .within headers (fun h b => { b with headers := h }) x
  configure id

def addHeader (name value : Value) : Action Builder Unit := onHeaders (Header.Store.set name value)

def setHeaders (headers : Value) : Action Builder Unit := onHeaders (Header.Store.update headers)

def getHeader (name : Value) (b : Builder) : Except Fault Value := do
  return Value.ofOption (← b.headers.get? name)

def setSubject (v : Value) : Action Builder Unit := configure fun b => { b with subject := v }

def setBody (v : Value) : Action Builder Unit := configure fun b => { b with body := v }

def setSentDate (v : Value) : Action Builder Unit := configure fun b => { b with sentDate := v }

/-- The date of the message: now, if none was given. -/
def sentDateOr (now : Moment) (b : Builder) : Value :=
  if b.sentDate.isNothing then .moment now else b.sentDate

/-! ### Building -/

/-- The message that the parts make up. -/
def compose (now : Moment) (sender : Address) (session : Session) (b : Builder) : Message where
  sender := .address sender
  addressees := b.recipients.addressees.map .address
  cc := b.recipients.cc.map .address
  bcc := b.recipients.bcc.map .address
  replyTo := b.recipients.replyTo.map .address
  subject := b.subject
  body := b.body
  headers := b.headers.items.map fun header => (.text header.1, .text header.2)
  sentDate := b.sentDateOr now
  session := some session

def lonelyText (sender : Address) : Except Fault String := do
  return "Building message from " ++ (← sender.text) ++ " without recipients"

def builtText (sender : Address) (recipients : String) : Except Fault String := do
  return "Built message from " ++ (← sender.text) ++ " to " ++ recipients

def requireRecipients (policy : Policy) (sender : Address) : Action Builder Unit := do
  if !(← .state).recipients.hasPrimary then
    match policy with
    | .required => .fail (.missing .recipients)
    | .warn => .note ⟨.builder, .warning, lonelyText sender⟩

/-- Writes down who a message goes to. A recipient that cannot be written out is a fault here, when
the message is built already. -/
def report (sender : Address) (m : Message) : Action Builder Unit := do
  let recipients ← .ofExcept (Message.addressLine m.recipients)
  .note ⟨.builder, .info, builtText sender recipients⟩

/-- Builds the message. -/
def build (rules : Rules) : Action Builder Message := do
  requireOpen
  match (← .state).sender with
  | none => .fail (.missing .sender)
  | some sender =>
      requireRecipients rules.policy sender
      let session ← getSession rules
      let m := (← .state).compose rules.now sender session
      .update fun b => { b with message := some m, progress := .built }
      report sender m
      return m

/-- Hands a built message over to somewhere with a state of its own. -/
abbrev Courier (τ : Type) := Message → Action τ Value

/-- Builds the message and gives it to a courier. -/
def send {τ : Type} (rules : Rules) (courier : Option (Courier τ)) : Action (Builder × τ) Value :=
  match courier with
  | none => .fail (.missing .delivery)
  | some carry => do
      let m ← .onFirst (build rules)
      .onSecond (carry m)

/-! ### Calls -/

/-- What can be asked of a builder. -/
inductive Call
  | setSetting (setting : Setting) (v : Value)
  | setAccount (user password : Value)
  | setSession (s : Option Session)
  | setSender (email personal : Value)
  | addRecipients (role : Role) (entries : List Value)
  | setRecipients (role : Role) (entries : Value)
  | addHeader (name value : Value)
  | setHeaders (headers : Value)
  | setSubject (v : Value)
  | setBody (v : Value)
  | setSentDate (v : Value)
  | getSession
  | getHost
  | getHeader (name : Value)
  | getSentDate
  | build

/-- What a builder gives back. -/
inductive Answer
  | value (v : Value)
  | session (s : Session)
  | message (m : Message)

/-- What is only looked at. -/
def readOnlyNames : List String :=
  ["state", "message", "from_address", "to_addresses", "cc_addresses", "bcc_addresses",
    "reply_to_addresses", "headers"]

def attribute? (name : String) : Option Setting :=
  attributes.find? fun setting => setting.name == name

/-- The call that assigns a value to a part by its name, if there is such a part. -/
def assignment? (name : String) (v : Value) : Except Fault (Option Call) :=
  if readOnlyNames.contains name then .error (.access (.readOnlyProperty name))
  else .ok (match name with
    | "subject" => some (.setSubject v)
    | "body" => some (.setBody v)
    | "sent_date" => some (.setSentDate v)
    | _ => (attribute? name).map fun setting => .setSetting setting v)

def done (x : Action Builder Unit) : Action Builder Answer := do
  x
  return .value .nothing

def perform (rules : Rules) : Call → Action Builder Answer
  | .setSetting setting v => done (setSetting setting v)
  | .setAccount user password => done (setAccount user password)
  | .setSession s => done (setSession s)
  | .setSender email personal => done (setSender email personal)
  | .addRecipients role entries => done (addRecipients role entries)
  | .setRecipients role entries => done (setRecipients role entries)
  | .addHeader name value => done (addHeader name value)
  | .setHeaders headers => done (setHeaders headers)
  | .setSubject v => done (setSubject v)
  | .setBody v => done (setBody v)
  | .setSentDate v => done (setSentDate v)
  | .getSession => do return .session (← getSession rules)
  | .getHost => do return .value (← .state).hostName
  | .getHeader name => do return .value (← .ofExcept ((← .state).getHeader name))
  | .getSentDate => do return .value ((← .state).sentDateOr rules.now)
  | .build => do return .message (← build rules)

end Builder

end Mailroom
