import Mailroom.Delivery.Consignment

/-!
Transactions in two phases. Whoever takes part joins under a key. A commit asks all participants to
begin, then to commit, then to vote, and only when all have voted to finish, each time in the order
of their keys; the first refusal ends it, the participants are told to abort, and the transaction
has failed for good. A savepoint remembers who joins after it; going back to it drops these and
makes the later savepoints worthless.

Transactions belong to the package `transaction` 5.0, not to the mail room. What is written here is
what is assumed of that package.
-/

namespace Mailroom.Delivery

/-- The rounds of a commit. -/
inductive Phase
  | start
  | commit
  | vote
  | finish
  deriving DecidableEq, Repr

/-- Who takes part: a message that waits, or someone else. Others may refuse in any phase of a
commit and have nothing against aborting. -/
inductive Party
  | consignment (c : Consignment)
  | outsider (refusal : Phase → Option Fault)

namespace Party

/-- What a consignment does in order to abort; an outsider has nothing to do then. -/
def act (x : Action Consignment Unit) (p : Party) : Outcome Party Unit :=
  match p with
  | consignment c =>
      let o := x.run c
      ⟨o.result, consignment o.state, o.log⟩
  | outsider _ => ⟨.ok (), p, []⟩

/-- Takes part in a phase. -/
def perform (mailer : Mailer) (t : Nat) (phase : Phase) : Action (Party × Outbox) Unit :=
  ⟨fun (party, box) =>
    match party with
    | consignment c =>
        let x : Action (Consignment × Outbox) Unit := match phase with
          | .start => .onFirst (Consignment.start t false)
          | .commit => .onFirst (Consignment.commit t)
          | .vote => .onFirst (Consignment.vote t)
          | .finish => Consignment.finish mailer t
        let o := x.run (c, box)
        ⟨o.result, (consignment o.state.1, o.state.2), o.log⟩
    | outsider refusal =>
        ⟨match refusal phase with
          | none => .ok ()
          | some cause => .error cause,
        (party, box), []⟩⟩

def abort (t : Nat) : Party → Outcome Party Unit := act (Consignment.abort t)

def withdraw (t : Nat) : Party → Outcome Party Unit := act (Consignment.withdraw t)

/-- The message that waits, if it is one. -/
def consignment? : Party → Option Consignment
  | consignment c => some c
  | outsider _ => none

end Party

structure Participant where
  /-- Its place in the order of joining. -/
  serial : Nat
  key : String
  party : Party
  voted : Bool

namespace Participant

def perform (mailer : Mailer) (t : Nat) (phase : Phase) : Action (Participant × Outbox) Unit :=
  ⟨fun (p, box) =>
    let o := (Party.perform mailer t phase).run (p.party, box)
    let voted := p.voted || (phase == .vote && o.result.isOk)
    ⟨o.result, ({ p with party := o.state.1, voted := voted }, o.state.2), o.log⟩⟩

/-- A phase for one participant after the other, up to the first refusal. -/
def performAll (mailer : Mailer) (t : Nat) (phase : Phase) (ps : List Participant) (box : Outbox) :
    Outcome (List Participant × Outbox) Unit :=
  match ps with
  | [] => ⟨.ok (), ([], box), []⟩
  | p :: rest =>
      let o := (perform mailer t phase).run (p, box)
      match o.result with
      | .error e => ⟨.error e, (o.state.1 :: rest, o.state.2), o.log⟩
      | .ok _ =>
          let more := performAll mailer t phase rest o.state.2
          ⟨more.result, (o.state.1 :: more.state.1, more.state.2), o.log ++ more.log⟩

def aborted (t : Nat) (p : Participant) : Participant :=
  { p with party := (p.party.abort t).state }

def withdrawn (t : Nat) (p : Participant) : Participant :=
  { p with party := (p.party.withdraw t).state }

/-- What a participant has to say against aborting. -/
def objection? (t : Nat) (p : Participant) : Option Fault :=
  match (p.party.abort t).result with
  | .ok _ => none
  | .error e => some e

/-- After a refusal, those who have not voted abort, and all withdraw; what they say against it is
not heard. -/
def cleanUp (t : Nat) (p : Participant) : Participant :=
  (if p.voted then p else p.aborted t).withdrawn t

end Participant

inductive Condition
  | active
  | doomed
  | failed
  deriving DecidableEq, Repr

structure Savepoint where
  number : Nat
  /-- Those who joined later. -/
  later : List Nat
  deriving DecidableEq, Repr

structure Transaction where
  serial : Nat
  condition : Condition
  participants : List Participant
  /-- The savepoints that one can go back to. -/
  savepoints : List Savepoint
  /-- How many ever joined. -/
  joins : Nat
  /-- How many savepoints were ever taken. -/
  marks : Nat

namespace Transaction

def ofSerial (serial : Nat) : Transaction := ⟨serial, .active, [], [], 0, 0⟩

/-- A failed transaction has no use but to be aborted. -/
def accepts (t : Transaction) : Except Fault Unit :=
  if t.condition == .failed then .error (.transaction .failedEarlier) else .ok ()

def requireUsable : Action Transaction Unit := do .ofExcept (← .state).accepts

/-- Lists a participant, also with all savepoints. -/
def enlist (key : String) (party : Party) (t : Transaction) : Transaction :=
  { t with
    participants := t.participants ++ [⟨t.joins, key, party, false⟩]
    savepoints := t.savepoints.map fun s => { s with later := s.later ++ [t.joins] }
    joins := t.joins + 1 }

def join (key : String) (party : Party) : Action Transaction Unit := do
  requireUsable
  .update (enlist key party)

/-- A message joins as a consignment of its own. -/
def consign (key : String) (m : Message) : Action Transaction Unit := do
  let t ← .state
  let o := (Consignment.join t.serial t.accepts).run (.ofMessage m)
  .ofExcept o.result
  .update (enlist key (.consignment o.state))

/-- A doomed transaction goes on but cannot be committed. -/
def doom : Action Transaction Unit := do
  match (← .state).condition with
  | .doomed => pure ()
  | .failed => .fail (.value .notDoomable)
  | .active => .update fun t => { t with condition := .doomed }

/-- Takes a savepoint and gives its number. -/
def savepoint : Action Transaction Nat := do
  requireUsable
  let number := (← .state).marks
  .update fun t => { t with savepoints := t.savepoints ++ [⟨number, []⟩], marks := number + 1 }
  return number

/-- Drops one participant, who aborts first. -/
def drop (serial : Nat) : Action Transaction Unit := do
  let t ← .state
  match t.participants.find? fun p => p.serial == serial with
  | none => pure ()
  | some p =>
      if let some e := p.objection? t.serial then .fail e
      .update fun t => { t with participants := t.participants.filter fun p => p.serial != serial }

def dropAll : List Nat → Action Transaction Unit
  | [] => pure ()
  | serial :: rest => do
      drop serial
      dropAll rest

/-- Goes back to a savepoint, which can be used again. -/
def rollback (number : Nat) : Action Transaction Unit := do
  match (← .state).savepoints.find? fun s => s.number == number with
  | none => .fail (.transaction .savepointInvalid)
  | some s =>
      .update fun t => { t with savepoints := t.savepoints.filter fun u => u.number ≤ number }
      match ← (dropAll s.later).attempt with
      | .ok _ => pure ()
      | .error e =>
          .update fun t => { t with condition := .failed }
          .fail e

/-- Participants in the order of their keys; equal keys keep the order of joining. -/
def byKey (ps : List Participant) : List Participant :=
  ps.mergeSort fun a b => !(b.key < a.key)

def performPhase (mailer : Mailer) (phase : Phase) : Action (Transaction × Outbox) Unit :=
  ⟨fun (t, box) =>
    let o := Participant.performAll mailer t.serial phase t.participants box
    ⟨o.result, ({ t with participants := o.state.1 }, o.state.2), o.log⟩⟩

def performPhases (mailer : Mailer) : Action (Transaction × Outbox) Unit := do
  performPhase mailer .start
  performPhase mailer .commit
  performPhase mailer .vote
  performPhase mailer .finish

/-- Commits. From here on the participants stand in the order of their keys. -/
def commit (mailer : Mailer) : Action (Transaction × Outbox) Unit := do
  if (← .state).1.condition == .doomed then .fail (.transaction .doomed)
  .onFirst (.update fun t => { t with savepoints := [] })
  .onFirst requireUsable
  .onFirst (.update fun t => { t with participants := byKey t.participants })
  match ← (performPhases mailer).attempt with
  | .ok _ => pure ()
  | .error e =>
      .onFirst (.update fun t =>
        { t with
          participants := t.participants.map (Participant.cleanUp t.serial)
          condition := .failed })
      .fail e

/-- Aborts every participant; the first objection is raised in the end. -/
def abort : Action Transaction Unit := do
  let t ← .state
  .update fun t =>
    { t with savepoints := [], participants := t.participants.map (Participant.aborted t.serial) }
  if let some e := t.participants.findSome? (Participant.objection? t.serial) then .fail e

/-- The messages that wait, in the order of joining. -/
def waiting (t : Transaction) : List Message :=
  t.participants.filterMap fun p => p.party.consignment?.map (·.message)

end Transaction

end Mailroom.Delivery
