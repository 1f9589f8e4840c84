import Mailroom.Delivery.Desk

/-!
A queue as a plain account of the delivery desk. It knows nothing of consignments, of their stages
or of who joined after a savepoint: sending puts a message into the queue, a savepoint remembers its
length, going back cuts it to that length, and a commit hands over what is in it. A queue follows
the steps at a desk, and is told of each only whether it succeeded.
-/

namespace Mailroom.Delivery

/-- Who waits for a commit: a message, or another participant, who may refuse in a phase. -/
inductive Waiting
  | message (m : Message)
  | other (refusal : Phase → Option Fault)

namespace Waiting

def message? : Waiting → Option Message
  | message m => some m
  | other _ => none

/-- Messages refuse nothing before they are handed over. -/
def refuses (phase : Phase) : Waiting → Bool
  | message _ => false
  | other refusal => (refusal phase).isSome

end Waiting

namespace Queue

structure Item where
  key : String
  waiting : Waiting

/-- A savepoint that was handed out: its place among them, and the length of the queue when it was
taken, as long as one can go back to it. -/
structure Mark where
  place : Nat
  length : Option Nat

def Mark.ended (k : Mark) : Mark := { k with length := none }

/-- Going back to a savepoint ends those that were taken later. -/
def Mark.endedAfter (place : Nat) (k : Mark) : Mark := if place < k.place then k.ended else k

end Queue

structure Queue where
  /-- Everyone who waits, in the order of joining. -/
  items : List Queue.Item
  condition : Condition
  marks : List Queue.Mark
  /-- How many messages were ever put into the queue. -/
  sends : Nat
  /-- The messages that the mailer took. -/
  delivered : List Message
  /-- How many messages the mailer was asked to take. -/
  offered : Nat

namespace Queue

def empty : Queue := ⟨[], .active, [], 0, [], 0⟩

def messagesOf (items : List Item) : List Message := items.filterMap fun i => i.waiting.message?

def messages (q : Queue) : List Message := messagesOf q.items

/-- The order in which a commit goes through the queue. -/
def byKey (items : List Item) : List Item := items.mergeSort fun a b => !(b.key < a.key)

def push (item : Item) (q : Queue) : Queue := { q with items := q.items ++ [item] }

def enqueue (service : Service) (m : Message) (q : Queue) : Queue :=
  { q.push ⟨service.keyOf q.sends, .message m⟩ with sends := q.sends + 1 }

/-- Remembers the length of the queue for a savepoint. A savepoint of the other manager takes a
place, but there is no way back to it for this queue. -/
def mark (side : Side) (q : Queue) : Queue :=
  let length := match side with
    | .own => some q.items.length
    | .foreign => none
  { q with marks := q.marks ++ [⟨q.marks.length, length⟩] }

/-- Cuts the queue to the length that a savepoint remembers, if one can go back to it. -/
def truncate (n : Int) (q : Queue) : Queue :=
  match itemAt "list " q.marks n with
  | .ok ⟨place, some length⟩ =>
      { q with items := q.items.take length, marks := q.marks.map (Mark.endedAfter place) }
  | _ => q

def clear (q : Queue) : Queue :=
  { q with items := [], condition := .active, marks := q.marks.map Mark.ended }

def handOver (q : Queue) : Queue :=
  { q with
    delivered := q.delivered ++ messagesOf (byKey q.items)
    offered := q.offered + (messagesOf q.items).length }

def isBlocked (items : List Item) : Bool :=
  [Phase.start, .commit, .vote].any fun phase => items.any fun i => i.waiting.refuses phase

/-- What the mailer takes in the last phase before someone refuses, and how many messages it was
asked to take by then. -/
def offer (mailer : Mailer) (offered : Nat) : List Item → List Message × Nat
  | [] => ([], offered)
  | ⟨_, .message m⟩ :: rest =>
      match (mailer offered m).result with
      | .ok _ => ((offer mailer (offered + 1) rest).map (m :: ·) id)
      | .error _ => ([], offered + 1)
  | ⟨_, .other refusal⟩ :: rest =>
      match refusal .finish with
      | none => offer mailer offered rest
      | some _ => ([], offered)

/-- What the mailer takes in a commit, and how many messages it was asked to take by then. Nothing
is handed over unless everyone gets as far as the last phase. -/
def takenBy (mailer : Mailer) (offered : Nat) (items : List Item) : List Message × Nat :=
  if isBlocked items then ([], offered) else offer mailer offered items

/-- A commit that does not succeed. A doomed queue stays as it is. In all other cases the queue is
of no use any more but to be emptied. -/
def fail (mailer : Mailer) (q : Queue) : Queue :=
  match q.condition with
  | .doomed | .failed => q
  | .active =>
      let (taken, offered) := takenBy mailer q.offered (byKey q.items)
      { q with
        condition := .failed
        marks := q.marks.map Mark.ended
        delivered := q.delivered ++ taken
        offered := offered }

/-- A message as it is queued under the identifier that sending it gave. -/
def stamped (id : Value) (m : Message) : Message :=
  match idOf m.headers with
  | .ok .nothing => withId id m
  | _ => m

/-- What becomes of the queue in a step with its result. Steps of the other manager leave it as it
is. -/
def follow (service : Service) (step : Desk.Step) (result : Except Fault Value) (q : Queue) :
    Queue :=
  match step, result with
  | .send (some m), .ok id => q.enqueue service (stamped id m)
  | .join .own key refusal, .ok _ => q.push ⟨key, .other refusal⟩
  | .savepoint side, .ok _ => q.mark side
  | .rollback n, _ => q.truncate n
  | .abort .own, _ | .begin .own, _ => q.clear
  | .doom .own, .ok _ => { q with condition := .doomed }
  | .commit .own, .ok _ => q.handOver.clear
  | .commit .own, .error _ => q.fail service.mailer
  | _, _ => q

/-- The queue that has followed some steps with their results. -/
def replay (service : Service) (q : Queue) (history : List (Desk.Step × Except Fault Value)) :
    Queue :=
  history.foldl (fun q event => q.follow service event.1 event.2) q

end Queue

namespace Desk

def after (service : Service) : List Step → Desk → Desk
  | [], d => d
  | step :: rest, d => after service rest ((perform service step).run d).state

def history (service : Service) : List Step → Desk → List (Step × Except Fault Value)
  | [], _ => []
  | step :: rest, d =>
      (step, ((perform service step).run d).result) ::
        history service rest ((perform service step).run d).state

end Desk

end Mailroom.Delivery
