import Mailroom.Proofs.Results
import Mailroom.Relay.Dialogue

/-!
Sending in two parts. The letter is made from the message first, without a word to the server; then
it is conveyed.
-/

namespace Mailroom

namespace Action

variable {σ α β : Type}

@[simp] theorem fail_bind (e : Fault) (f : α → Action σ β) : fail e >>= f = fail e := rfl

@[simp] theorem ofExcept_ok (a : α) : (ofExcept (.ok a) : Action σ α) = pure a := rfl

@[simp] theorem ofExcept_error (e : Fault) : (ofExcept (.error e) : Action σ α) = fail e := rfl

theorem ofExcept_bind (x : Except Fault α) (f : α → Except Fault β) :
    (ofExcept (x >>= f) : Action σ β) = ofExcept x >>= fun a => ofExcept (f a) := by
  cases x <;> rfl

end Action

namespace Relay

open Mailroom.Action

variable {server : Server} {s : Session} {m : Message}

/-- What the server is given of a message. -/
structure Letter where
  sender : Value
  recipients : List String
  text : List UInt8

def letterOf (s : Session) (m : Message) : Except Fault Letter := do
  let sender ← envelopeSender s m
  let recipients ← m.recipients.mapM emailOf
  if recipients.isEmpty then .error (.relay .noRecipients)
  let entity ← m.entity
  let text ← entity.write
  return ⟨sender, recipients, text⟩

/-- What is said to the server behind the encryption. -/
def convey (server : Server) (s : Session) (sender : Value) (recipients : List String)
    (text : List UInt8) : Action Dialogue Unit := do
  authenticate server s
  server.call (.sendMail sender recipients text)
  leave server
  .note ⟨.mailer, .info, sentText sender recipients s.host⟩

/-- What is said to the server once the message is known to be in order. -/
def converse (server : Server) (s : Session) (sender : Value) (recipients : List String)
    (text : List UInt8) : Action Dialogue Unit := do
  connect server s
  introduce server
  encrypt server s
  convey server s sender recipients text

theorem send_eq (server : Server) (hsession : m.session = some s) :
    send server (some m) =
      ofExcept (letterOf s m) >>= fun l => converse server s l.sender l.recipients l.text := by
  simp only [send, hsession, letterOf, ofExcept_bind, bind_assoc]
  refine congrArg _ (funext fun sender => congrArg _ (funext fun recipients => ?_))
  split
  · rfl
  · simp only [ofExcept_bind, bind_assoc]
    rfl

theorem letterOf_eq_ok {l : Letter} (h : letterOf s m = .ok l) :
    envelopeSender s m = .ok l.sender ∧ m.recipients.mapM emailOf = .ok l.recipients ∧
      l.recipients ≠ [] ∧ (m.entity >>= Wire.Entity.write) = .ok l.text := by
  obtain ⟨sender, hsender, h⟩ := exists_of_bind_eq_ok h
  obtain ⟨recipients, hrecipients, h⟩ := exists_of_bind_eq_ok h
  split at h
  · cases h
  · rename_i hnonempty
    obtain ⟨entity, hentity, h⟩ := exists_of_bind_eq_ok h
    obtain ⟨text, htext, h⟩ := exists_of_bind_eq_ok h
    cases h
    refine ⟨hsender, hrecipients, by simpa using hnonempty, ?_⟩
    rw [hentity]
    exact htext

end Relay

end Mailroom
