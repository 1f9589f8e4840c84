import Mailroom.Delivery.Outbox

/-!
Consignments: a message each, on its way through one transaction. A consignment joins a
transaction, begins, votes and is sent when the transaction finishes; until then it can be aborted.
Every call names the transaction it is made for, and one that is refused changes nothing.
-/

namespace Mailroom.Delivery

inductive Stage
  | initial
  | begun
  | voted
  | sent
  | aborted
  | other (code : Int)
  deriving DecidableEq, Repr

namespace Stage

def code : Stage → Int
  | initial => 0
  | begun => 1
  | voted => 2
  | sent => 3
  | aborted => 4
  | other code => code

def ofCode : Int → Stage
  | 0 => initial
  | 1 => begun
  | 2 => voted
  | 3 => sent
  | 4 => aborted
  | n => other n

theorem code_ofCode (n : Int) : (ofCode n).code = n := by
  unfold ofCode
  split <;> rfl

end Stage

structure Consignment where
  message : Message
  stage : Stage
  /-- The transaction that it is in, by number. -/
  joined : Option Nat
  /-- The transactions that list it, once for each place on a list. -/
  listings : List Nat

namespace Consignment

def ofMessage (m : Message) : Consignment := ⟨m, .initial, none, []⟩

/-- Joins a transaction, which lists it unless it does already. The transaction may refuse. -/
def join (t : Nat) (accepts : Except Fault Unit) : Action Consignment Unit := do
  let c ← .state
  if c.joined.any (· != t) then .fail (.value .joinedElsewhere)
  if !c.listings.contains t then
    .ofExcept accepts
    .update fun c => { c with listings := c.listings ++ [t] }
  .update fun c => { c with joined := some t }

/-- Whether it is in a transaction. -/
def checkJoined (t : Nat) (c : Consignment) : Except Fault Unit :=
  match c.joined with
  | none => .error (.value .notJoined)
  | some u => if u = t then .ok () else .error (.value .otherTransaction)

/-- Whether it is in a transaction and at one of some stages. -/
def checkStage (t : Nat) (stages : List Stage) (c : Consignment) : Except Fault Unit :=
  match c.checkJoined t with
  | .error e => .error e
  | .ok _ =>
      if c.stage ∈ stages then .ok () else .error (.value (.unexpectedState c.stage.code))

theorem checkJoined_eq_ok_iff {t : Nat} {c : Consignment} :
    c.checkJoined t = .ok () ↔ c.joined = some t := by
  cases h : c.joined with
  | none => simp [checkJoined, h]
  | some u => by_cases hu : u = t <;> simp [checkJoined, h, hu]

theorem checkStage_eq_ok_iff {t : Nat} {stages : List Stage} {c : Consignment} :
    c.checkStage t stages = .ok () ↔ c.joined = some t ∧ c.stage ∈ stages := by
  rw [← checkJoined_eq_ok_iff]
  cases h : c.checkJoined t with
  | error e => simp [checkStage, h]
  | ok _ => by_cases hs : c.stage ∈ stages <;> simp [checkStage, h, hs]

def requireJoined (t : Nat) : Action Consignment Unit := do
  .ofExcept ((← .state).checkJoined t)

def requireStage (t : Nat) (stages : List Stage) : Action Consignment Unit := do
  .ofExcept ((← .state).checkStage t stages)

@[simp] theorem run_requireJoined (t : Nat) (c : Consignment) :
    (requireJoined t).run c = ⟨c.checkJoined t, c, []⟩ := rfl

@[simp] theorem run_requireStage (t : Nat) (stages : List Stage) (c : Consignment) :
    (requireStage t stages).run c = ⟨c.checkStage t stages, c, []⟩ := rfl

def enter (stage : Stage) : Action Consignment Unit := .update fun c => { c with stage := stage }

/-- There is nothing to do before the vote. -/
def commit (t : Nat) : Action Consignment Unit := requireJoined t

def abort (t : Nat) : Action Consignment Unit := do
  requireStage t [.initial, .begun, .aborted]
  enter .aborted

def start (t : Nat) (nested : Bool) : Action Consignment Unit := do
  requireStage t [.initial]
  if nested then .fail (.value .subtransaction)
  enter .begun

def vote (t : Nat) : Action Consignment Unit := do
  requireStage t [.begun]
  enter .voted

/-- Hands the message over. If the mailer fails, the vote stands. -/
def finish (mailer : Mailer) (t : Nat) : Action (Consignment × Outbox) Unit := do
  .onFirst (requireStage t [.voted])
  .onSecond (Outbox.hand mailer (← .state).1.message)
  .onFirst (enter .sent)

/-- Aborts within the phases of a commit. -/
def withdraw (t : Nat) : Action Consignment Unit := do
  requireStage t [.begun, .voted, .aborted]
  enter .aborted

/-- A savepoint of a consignment has nothing to undo. -/
def savepoint : Action Consignment Unit := do
  if (← .state).joined.isNone then .fail (.value .notJoined)

/-- What can be asked of a consignment. -/
inductive Call
  | join (t : Nat)
  | commit (t : Nat)
  | abort (t : Nat)
  | start (t : Nat) (nested : Bool)
  | vote (t : Nat)
  | finish (t : Nat)
  | withdraw (t : Nat)
  | savepoint
  deriving DecidableEq, Repr

/-- Answers a call, where every transaction accepts newcomers. -/
def perform (mailer : Mailer) : Call → Action (Consignment × Outbox) Unit
  | .join t => .onFirst (join t (.ok ()))
  | .commit t => .onFirst (commit t)
  | .abort t => .onFirst (abort t)
  | .start t nested => .onFirst (start t nested)
  | .vote t => .onFirst (vote t)
  | .finish t => finish mailer t
  | .withdraw t => .onFirst (withdraw t)
  | .savepoint => .onFirst savepoint

end Consignment

end Mailroom.Delivery
