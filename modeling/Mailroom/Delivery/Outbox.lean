import Mailroom.Relay.Dialogue

/-!
The outbox: what became of the messages that were handed to a mailer. A mailer accepts a message or
fails, which may depend on how many it was handed before. The relay is one mailer.
-/

namespace Mailroom.Delivery

/-- What a mailer does with a message, given the number of those before it: the calls that it makes
are kept whether it accepts the message or not. -/
abbrev Mailer := Nat → Message → Outcome (List Relay.Call) Unit

structure Outbox where
  accepted : List Message
  handed : Nat
  calls : List Relay.Call

namespace Outbox

def empty : Outbox := ⟨[], 0, []⟩

/-- Hands a message to the mailer. -/
def hand (mailer : Mailer) (m : Message) : Action Outbox Unit :=
  ⟨fun box =>
    let o := mailer box.handed m
    let accepted := match o.result with
      | .ok _ => box.accepted ++ [m]
      | .error _ => box.accepted
    ⟨o.result, ⟨accepted, box.handed + 1, box.calls ++ o.state⟩, o.log⟩⟩

theorem hand_accepted_of_ok {mailer : Mailer} {m : Message} {box : Outbox}
    (h : (mailer box.handed m).result = .ok ()) :
    ((hand mailer m).run box).state.accepted = box.accepted ++ [m] := by
  simp [hand, h]

theorem hand_accepted_of_error {mailer : Mailer} {m : Message} {box : Outbox} {e : Fault}
    (h : (mailer box.handed m).result = .error e) :
    ((hand mailer m).run box).state.accepted = box.accepted := by
  simp [hand, h]

end Outbox

/-- Takes every message and calls no one. -/
def Mailer.accepting : Mailer := fun _ _ => ⟨.ok (), [], []⟩

/-- Takes no message. -/
def Mailer.failing (cause : Fault) : Mailer := fun _ _ => ⟨.error cause, [], []⟩

/-- Sends each message over a relay server, in a dialogue of its own. -/
def Mailer.relay (server : Relay.Server) : Mailer := fun _ m =>
  let o := (Relay.send server (some m)).run .initial
  ⟨o.result, o.state.calls, o.log⟩

end Mailroom.Delivery
