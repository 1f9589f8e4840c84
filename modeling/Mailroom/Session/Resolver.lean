import Mailroom.Action
import Mailroom.Session
import Mailroom.Settings

/-!
Finding the session of a message. A chain of links is asked in order; each is given the explicit
session, if there is one, and the settings, and may leave the answer to the next. The standard
chain takes the explicit session as it is, else makes one from the settings if they name a host,
else takes a session without any property.

A link gets hold of the explicit session and the settings themselves, and not of copies. It is
assumed that a link, whoever made it, only looks at them: each comes with a proof of that.
-/

namespace Mailroom.Session

/-- What links are asked about. -/
structure Inquiry where
  explicit : Option Session
  settings : Settings

/-- An action that leaves alone what it is asked about. -/
structure Look (α : Type) where
  act : Action Inquiry α
  leaves (q : Inquiry) : (act.run q).state = q

namespace Look

variable {α β : Type}

protected def pure (a : α) : Look α := ⟨pure a, fun _ => rfl⟩

protected def bind (x : Look α) (f : α → Look β) : Look β where
  act := x.act >>= fun a => (f a).act
  leaves q := by
    rw [Action.run_bind]
    cases (x.act.run q).result with
    | error e => exact x.leaves q
    | ok a => exact ((f a).leaves _).trans (x.leaves q)

instance : Monad Look where
  pure := Look.pure
  bind := Look.bind

def ofExcept (x : Except Fault α) : Look α := ⟨.ofExcept x, fun _ => rfl⟩

def note (entry : Entry) : Look Unit := ⟨.note entry, fun _ => rfl⟩

@[simp] theorem act_pure (a : α) : (pure a : Look α).act = pure a := rfl

@[simp] theorem act_bind (x : Look α) (f : α → Look β) :
    (x >>= f).act = x.act >>= fun a => (f a).act := rfl

@[simp] theorem act_ofExcept (x : Except Fault α) : (ofExcept x).act = .ofExcept x := rfl

@[simp] theorem act_note (entry : Entry) : (note entry).act = .note entry := rfl

end Look

/-- A link also gets the serial number for a session that it opens. -/
abbrev Link := Option Session → Settings → Nat → Look (Option Session)

def smtpPort : Int := 25

def sslPort : Int := 465

def greatestPort : Int := 65535

/-- The word for a truth value. -/
def flagText (b : Bool) : Value := .text (if b then "true" else "false")

/-- The decimal text of a whole number within its bounds. A truth value is no number here. -/
def checkInt (setting : Setting) (v : Value) (least : Int) (greatest : Option Int) :
    Except Fault String :=
  match v with
  | .int n => do
      -- The fault for a number out of range shows it, and so fails for one that is too long.
      let digits ← Value.decimal n
      if n < least || greatest.any (· < n) then
        .error (.session (.outOfRange setting.name n))
      else return digits
  | _ => do .error (.session (.notInteger setting.name (← v.shown)))

def checkTimeout (setting : Setting) (v : Value) : Except Fault (Option String) :=
  match v with
  | .nothing => .ok none
  | _ => (checkInt setting v 0 none).map some

/-- The port that is set, or the usual one. -/
def portValue (c : Settings) : Value :=
  match c.smtpPort with
  | .nothing => .int (if c.sslOnConnect.truth then sslPort else smtpPort)
  | port => port

/-- An entry that is there only under a condition. -/
def optional (condition : Bool) (p : Property) (v : Value) : List (Property × Value) :=
  if condition then [(p, v)] else []

def textEntry (p : Property) (s : Option String) : List (Property × Value) :=
  (s.map fun t => (p, Value.text t)).toList

/-- The properties and the account that the settings stand for. -/
def fromSettings (c : Settings) : Except Fault (List (Property × Value) × Value) := do
  let port ← checkInt .smtpPort (portValue c) 1 (some greatestPort)
  let timeout ← checkTimeout .socketTimeout c.socketTimeout
  let connectionTimeout ← checkTimeout .socketConnectionTimeout c.socketConnectionTimeout
  let ssl := c.sslOnConnect.truth
  let secured := ssl || c.startTlsEnabled.truth
  let hasUser := c.username.truth
  return (
    [(.protocol, .text "smtp"), (.host, c.hostName), (.debug, flagText c.debug.truth),
      (.startTls, flagText c.startTlsEnabled.truth),
      (.startTlsRequired, flagText c.startTlsRequired.truth), (.port, .text port)] ++
      optional ssl .ssl (flagText true) ++
      optional (secured && c.sslCheckServerIdentity.truth) .checkIdentity (flagText true) ++
      optional c.bounceAddress.truth .bounceAddress c.bounceAddress ++
      optional hasUser .auth (flagText true) ++ optional hasUser .user c.username ++
      textEntry .timeout timeout ++ textEntry .connectionTimeout connectionTimeout,
    if hasUser then .tuple [c.username, c.password] else .nothing)

def builtText (c : Settings) (port : Value) : Except Fault String := do
  return "Built session for " ++ (← c.hostName.plain) ++ ":" ++ (← port.plain)

def explicitLink : Link := fun explicit _ _ => pure explicit

def settingsLink : Link := fun _ c serial => do
  if !c.hostName.truth then return none
  let (properties, account) ← .ofExcept (fromSettings c)
  let session : Session :=
    ⟨.opened serial, properties.map fun entry => (.text entry.1.name, entry.2), account⟩
  .note ⟨.session, .debug, builtText c (session.get .port)⟩
  return some session

def emptyLink : Link := fun _ _ serial => do
  .note ⟨.session, .debug, .ok "No host name configured, using an empty session"⟩
  return some ⟨.opened serial, [], .nothing⟩

def standardLinks : List Link := [explicitLink, settingsLink, emptyLink]

/-- Asks one link after the other until there is an answer. -/
def ask (serial : Nat) : List Link → Action Inquiry Session
  | [] => .fail (.session .noLink)
  | link :: rest => do
      let q ← .state
      match ← (link q.explicit q.settings serial).act with
      | some session => return session
      | none => ask serial rest

/-- What a link answers or fails with is the end; if it defers, the links behind it are asked the
same. -/
theorem run_ask_cons (serial : Nat) (link : Link) (rest : List Link) (q : Inquiry) :
    (ask serial (link :: rest)).run q =
      let asked := (link q.explicit q.settings serial).act.run q
      match asked.result with
      | .error e => ⟨.error e, q, asked.log⟩
      | .ok (some session) => ⟨.ok session, q, asked.log⟩
      | .ok none =>
          let later := (ask serial rest).run q
          ⟨later.result, later.state, asked.log ++ later.log⟩ := by
  have hleaves := (link q.explicit q.settings serial).leaves q
  rw [ask, Action.run_bind, Action.run_state]
  dsimp only
  rw [Action.run_bind, hleaves]
  rcases ((link q.explicit q.settings serial).act.run q).result with e | (_ | session) <;> simp

/-- Whatever the links are, they leave alone what they are asked about. -/
theorem state_ask (serial : Nat) (links : List Link) (q : Inquiry) :
    ((ask serial links).run q).state = q := by
  induction links with
  | nil => rfl
  | cons link rest ih =>
      rw [run_ask_cons]
      dsimp only
      split
      · rfl
      · rfl
      · exact ih

/-- The session that the links find for an explicit session and settings. -/
def resolve (links : List Link) (explicit : Option Session) (c : Settings) (serial : Nat) :
    Action Unit Session :=
  (ask serial links).onOwn ⟨explicit, c⟩

end Mailroom.Session
