import Mailroom.Action
import Mailroom.Address.Validation

/-!
Recipient lists, one for each role. A batch is validated in full before a list changes, so a bad
entry leaves all lists as they were. Duplicates stay, and the order is that of the entries.
-/

namespace Mailroom

inductive Role
  /-- Whom the message is written to in the first place. -/
  | addressee
  | cc
  | bcc
  | replyTo
  deriving DecidableEq, Repr

namespace Role

def name : Role → String
  | addressee => "to"
  | cc => "cc"
  | bcc => "bcc"
  | replyTo => "reply_to"

def all : List Role := [addressee, cc, bcc, replyTo]

/-- A message is sent to the lists of these roles. -/
def primary : List Role := [addressee, cc, bcc]

def ofValue (v : Value) : Except Fault Role := do
  v.requireKey
  match v.text?.bind fun s => all.find? fun role => role.name == s with
  | some role => return role
  | none => .error (.value (.unknownRole (← v.shown)))

end Role

/-- The lists hold what the validator makes of an entry. -/
structure Recipients (α : Type) where
  addressees : List α
  cc : List α
  bcc : List α
  replyTo : List α
  deriving DecidableEq, Repr

namespace Recipients

variable {α : Type}

def empty : Recipients α := ⟨[], [], [], []⟩

def list (r : Recipients α) : Role → List α
  | .addressee => r.addressees
  | .cc => r.cc
  | .bcc => r.bcc
  | .replyTo => r.replyTo

def setList (role : Role) (items : List α) (r : Recipients α) : Recipients α :=
  match role with
  | .addressee => { r with addressees := items }
  | .cc => { r with cc := items }
  | .bcc => { r with bcc := items }
  | .replyTo => { r with replyTo := items }

@[simp] theorem list_setList_self (r : Recipients α) (role : Role) (items : List α) :
    (r.setList role items).list role = items := by
  cases role <;> rfl

theorem list_setList_of_ne (r : Recipients α) {role other : Role} (items : List α)
    (h : other ≠ role) : (r.setList role items).list other = r.list other := by
  cases role <;> cases other <;> first | rfl | exact absurd rfl h

/-- Whether there is anyone to send to. -/
def hasPrimary (r : Recipients α) : Bool := Role.primary.any fun role => !(r.list role).isEmpty

/-- A single email or address is a batch of one; anything else is gone through. -/
def batch (entries : Value) : Except Fault (List Value) :=
  match entries with
  | .text _ | .address _ => .ok [entries]
  | _ => entries.elements

def parseAll (parse : Value → Except Fault α) (entries : Value) : Except Fault (List α) := do
  (← batch entries).mapM parse

def add (parse : Value → Except Fault α) (role : Role) (entries : Value) :
    Action (Recipients α) Unit := do
  let parsed ← .ofExcept (parseAll parse entries)
  .update fun r => r.setList role (r.list role ++ parsed)

/-- Replaces a list, which must not become empty. -/
def set (parse : Value → Except Fault α) (role : Role) (entries : Value) :
    Action (Recipients α) Unit := do
  let parsed ← .ofExcept (parseAll parse entries)
  if parsed.isEmpty then .fail (.address (.emptyList role.name))
  else .update (setList role parsed)

theorem run_add_of_error {parse : Value → Except Fault α} {entries : Value} {e : Fault}
    (h : parseAll parse entries = .error e) (role : Role) (r : Recipients α) :
    (add parse role entries).run r = ⟨.error e, r, []⟩ := by
  rw [add, Action.run_bind, Action.run_ofExcept, h]

theorem run_add_of_ok {parse : Value → Except Fault α} {entries : Value} {parsed : List α}
    (h : parseAll parse entries = .ok parsed) (role : Role) (r : Recipients α) :
    (add parse role entries).run r = ⟨.ok (), r.setList role (r.list role ++ parsed), []⟩ := by
  rw [add, Action.run_bind, Action.run_ofExcept, h]
  rfl

theorem run_set_of_error {parse : Value → Except Fault α} {entries : Value} {e : Fault}
    (h : parseAll parse entries = .error e) (role : Role) (r : Recipients α) :
    (set parse role entries).run r = ⟨.error e, r, []⟩ := by
  rw [set, Action.run_bind, Action.run_ofExcept, h]

theorem run_set_of_nil {parse : Value → Except Fault α} {entries : Value}
    (h : parseAll parse entries = .ok []) (role : Role) (r : Recipients α) :
    (set parse role entries).run r = ⟨.error (.address (.emptyList role.name)), r, []⟩ := by
  rw [set, Action.run_bind, Action.run_ofExcept, h]
  rfl

theorem run_set_of_cons {parse : Value → Except Fault α} {entries : Value} {a : α} {rest : List α}
    (h : parseAll parse entries = .ok (a :: rest)) (role : Role) (r : Recipients α) :
    (set parse role entries).run r = ⟨.ok (), r.setList role (a :: rest), []⟩ := by
  rw [set, Action.run_bind, Action.run_ofExcept, h]
  rfl

/-- `add` for a role given by name, which is looked at first. -/
def addNamed (parse : Value → Except Fault α) (role entries : Value) :
    Action (Recipients α) Unit := do
  add parse (← .ofExcept (Role.ofValue role)) entries

def setNamed (parse : Value → Except Fault α) (role entries : Value) :
    Action (Recipients α) Unit := do
  set parse (← .ofExcept (Role.ofValue role)) entries

def listNamed (role : Value) : Action (Recipients α) (List α) := do
  let role ← .ofExcept (Role.ofValue role)
  return (← .state).list role

end Recipients

end Mailroom
