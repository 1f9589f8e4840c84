import Mailroom.Delivery.Manager
import Mailroom.Text.LetterCase

/-!
The delivery desk. A message that is sent waits in the current transaction and goes to the mailer
when that commits. Each message has an identifier in its headers; one that comes without gets a new
one at the end of them. The desk also keeps a second, unrelated manager of transactions, whose steps
have no bearing on the mail.
-/

namespace Mailroom.Delivery

/-- How a desk works: its mailer, its supply of message identifiers, and the keys under which
messages join a transaction. -/
structure Service where
  mailer : Mailer
  newId : Nat → String
  keyOf : Nat → String

inductive Side
  | own
  | foreign
  deriving DecidableEq, Repr

structure Desk where
  own : Manager
  foreign : Manager
  outbox : Outbox
  /-- The savepoints that were handed out, of either manager. -/
  handles : List (Side × Handle)
  /-- How many identifiers were issued. -/
  issued : Nat
  /-- How many messages joined a transaction. -/
  consigned : Nat

/-- The header that identifies a message. -/
def idHeader : String := "Message-Id"

/-- Whether a header identifies the message; its letter case does not matter. -/
def isIdName (name : Value) : Except Fault Bool :=
  match name with
  | .text s => .ok (Text.lower s.toList == Text.lower idHeader.toList)
  | .bytes _ => .ok false
  | v => .error (.access (.lacking v.kind "lower"))

/-- The value of the first header that identifies the message. -/
def idOf : Entries Value Value → Except Fault Value
  | [] => .ok .nothing
  | (name, value) :: rest => do if ← isIdName name then return value else idOf rest

def withId (id : Value) (m : Message) : Message :=
  { m with headers := m.headers.put Value.same (.text idHeader) id }

namespace Desk

variable {α : Type}

def empty : Desk := ⟨.initial, .initial, .empty, [], 0, 0⟩

def manager (side : Side) (d : Desk) : Manager :=
  match side with
  | .own => d.own
  | .foreign => d.foreign

def setManager (side : Side) (m : Manager) (d : Desk) : Desk :=
  match side with
  | .own => { d with own := m }
  | .foreign => { d with foreign := m }

/-- An action on one of the managers. -/
def onManager (side : Side) (x : Action Manager α) : Action Desk α :=
  .within (manager side) (setManager side) x

/-- A message with its identifier, a new one if it has none. -/
def identify (service : Service) (m : Message) : Action Desk (Message × Value) := do
  match ← .ofExcept (idOf m.headers) with
  | .nothing =>
      let id := Value.text (service.newId (← .state).issued)
      .update fun d => { d with issued := d.issued + 1 }
      return (withId id m, id)
  | id => return (m, id)

def queuedText (id : Value) : Except Fault String := do
  return "Queued " ++ (← id.plain) ++ " for delivery at commit"

/-- Sends a message when the current transaction commits, and gives its identifier. `none` stands
for something that is no message. -/
def send (service : Service) (item : Option Message) : Action Desk Value := do
  let some m := item | .fail (.value .notAMessage)
  let (m, id) ← identify service m
  onManager .own (Manager.consign (service.keyOf (← .state).consigned) m)
  .update fun d => { d with consigned := d.consigned + 1 }
  .note ⟨.delivery, .debug, queuedText id⟩
  return id

def commit (service : Service) (side : Side) : Action Desk Unit :=
  .within (fun d => (d.manager side, d.outbox))
    (fun (m, box) d => { d.setManager side m with outbox := box }) (Manager.commit service.mailer)

def savepoint (side : Side) : Action Desk Unit := do
  let handle ← onManager side Manager.savepoint
  .update fun d => { d with handles := d.handles ++ [(side, handle)] }

/-- Goes back to the savepoint that was handed out at an index. -/
def rollback (n : Int) : Action Desk Unit := do
  let (side, handle) ← .ofExcept (itemAt "list " (← .state).handles n)
  onManager side (Manager.rollback handle)

/-- What can be done at a desk. -/
inductive Step
  | send (item : Option Message)
  | commit (side : Side)
  | abort (side : Side)
  | begin (side : Side)
  | doom (side : Side)
  | savepoint (side : Side)
  | rollback (n : Int)
  | join (side : Side) (key : String) (refusal : Phase → Option Fault)

/-- Takes a step; only sending gives something back. -/
def perform (service : Service) : Step → Action Desk Value
  | .send item => send service item
  | .commit side => done (commit service side)
  | .abort side => done (onManager side Manager.abort)
  | .begin side => done (onManager side Manager.begin)
  | .doom side => done (onManager side Manager.doom)
  | .savepoint side => done (savepoint side)
  | .rollback n => done (rollback n)
  | .join side key refusal => done (onManager side (Manager.join key (.outsider refusal)))
where
  done (x : Action Desk Unit) : Action Desk Value := do
    x
    return .nothing

end Desk

end Mailroom.Delivery
