import Mailroom.Delivery.Transaction

/-!
Transaction managers. A manager has at most one transaction at a time and begins one when it is
needed. A transaction ends with a commit that succeeds or with an abort, also one that raises an
objection. Like the transactions themselves this is what is assumed of the package `transaction`
5.0.
-/

namespace Mailroom.Delivery

structure Manager where
  current : Option Transaction
  /-- How many transactions it ever began. -/
  begun : Nat

/-- A savepoint of some transaction. -/
structure Handle where
  transaction : Nat
  number : Nat
  deriving DecidableEq, Repr

namespace Manager

variable {τ α : Type}

def initial : Manager := ⟨none, 0⟩

/-- The current transaction, or the next one. -/
def currentOrNext (m : Manager) : Transaction := m.current.getD (.ofSerial m.begun)

/-- Keeps a transaction as the current one. -/
def holding (t : Transaction) (m : Manager) : Manager :=
  ⟨some t, if m.current.isSome then m.begun else m.begun + 1⟩

/-- An action on the current transaction and something else. -/
def onCurrent (x : Action (Transaction × τ) α) : Action (Manager × τ) α :=
  ⟨fun (m, shared) =>
    let o := x.run (m.currentOrNext, shared)
    ⟨o.result, (m.holding o.state.1, o.state.2), o.log⟩⟩

/-- An action on the current transaction. -/
def onTransaction (x : Action Transaction α) : Action Manager α :=
  ⟨fun m =>
    let o := x.run m.currentOrNext
    ⟨o.result, m.holding o.state, o.log⟩⟩

def free : Action Manager Unit := .update fun m => { m with current := none }

def commit (mailer : Mailer) : Action (Manager × Outbox) Unit := do
  onCurrent (Transaction.commit mailer)
  .onFirst free

def abort : Action Manager Unit := do
  let result ← (onTransaction Transaction.abort).attempt
  free
  .ofExcept result

/-- Begins a new transaction. One that is under way is aborted first. -/
def begin : Action Manager Unit := do
  if (← .state).current.isSome then abort
  onTransaction (pure ())

def doom : Action Manager Unit := onTransaction Transaction.doom

def join (key : String) (party : Party) : Action Manager Unit :=
  onTransaction (Transaction.join key party)

def consign (key : String) (m : Message) : Action Manager Unit :=
  onTransaction (Transaction.consign key m)

def savepoint : Action Manager Handle := do
  let number ← onTransaction Transaction.savepoint
  return ⟨(← .state).currentOrNext.serial, number⟩

/-- Goes back to a savepoint of the current transaction; those of others are worthless. -/
def rollback (handle : Handle) : Action Manager Unit := do
  match (← .state).current with
  | none => .fail (.transaction .savepointInvalid)
  | some t =>
      if t.serial != handle.transaction then .fail (.transaction .savepointInvalid)
      onTransaction (Transaction.rollback handle.number)

/-- The messages that wait for the current transaction to be committed. -/
def waiting (m : Manager) : List Message := (m.current.map Transaction.waiting).getD []

end Manager

end Mailroom.Delivery
