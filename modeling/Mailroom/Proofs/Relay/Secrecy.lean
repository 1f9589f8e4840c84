import Mailroom.Proofs.Relay.Turns
import Mailroom.Proofs.Session.Alike

/-!
What the relay hears of a password: it is the second part of the login, and nothing else. For
messages whose sessions differ in the passwords at most, the dialogues differ there at most, and
end alike.
-/

namespace Mailroom

open Mailroom.Action

/-- Messages that are the same but for the passwords of their sessions. -/
structure Message.Alike (m n : Message) : Prop where
  others : n = { m with session := n.session }
  session : Option.Rel Session.Alike m.session n.session

namespace Message.Alike

variable {m n : Message}

theorem entity (h : m.Alike n) : m.entity = n.entity := by
  rw [h.others]
  rfl

theorem recipients (h : m.Alike n) : m.recipients = n.recipients := by
  rw [h.others]
  rfl

end Message.Alike

namespace Relay

variable {s t : Session} {m n : Message}

def Call.withoutPassword : Call → Call
  | .login user _ => .login user .nothing
  | c => c

theorem Call.name_withoutPassword (c : Call) : c.withoutPassword.name = c.name := by
  cases c <;> rfl

structure Dialogue.Alike (d e : Dialogue) : Prop where
  calls : d.calls.map Call.withoutPassword = e.calls.map Call.withoutPassword
  greeted : d.greeted = e.greeted

theorem agrees_call (server : Server) {c c' : Call}
    (h : c.withoutPassword = c'.withoutPassword) :
    Agrees Dialogue.Alike Eq (server.call c) (server.call c') := by
  intro d e hde
  have hname : c.name = c'.name := by
    rw [← c.name_withoutPassword, h, c'.name_withoutPassword]
  have hlength : d.calls.length = e.calls.length := by
    simpa using congrArg List.length hde.calls
  rw [Server.run_call, Server.run_call, hname, hlength]
  refine ⟨.refl (fun _ => rfl) _, ⟨?_, hde.greeted⟩, rfl⟩
  simp only [List.map_append, hde.calls, List.map_cons, List.map_nil, h]

section Stages

variable (server : Server) (s : Session)

theorem agrees_greet : Agrees Dialogue.Alike Eq server.greet server.greet := by
  refine (agrees_call server rfl).seq fun _ => agrees_state.bind fun d e hde => ?_
  rw [hde.greeted]
  exact (agrees_update fun d e hde => ⟨hde.calls, congrArg (· + 1) hde.greeted⟩).seq fun _ =>
    agrees_pure rfl

theorem agrees_turn (turn : Turn) :
    Agrees Dialogue.Alike Eq (ofExcept turn >>= server.call) (ofExcept turn >>= server.call) :=
  (agrees_ofExcept_self turn).seq fun _ => agrees_call server rfl

theorem agrees_connect : Agrees Dialogue.Alike Eq (connect server s) (connect server s) := by
  rw [connect_eq]
  refine (agrees_turn server _).seq fun _ => Agrees.seq ?_ fun _ => agrees_call server rfl
  split
  · exact agrees_turn server _
  · exact agrees_pure rfl

theorem agrees_introduce : Agrees Dialogue.Alike Eq (introduce server) (introduce server) := by
  refine (agrees_greet server).seq fun reply => ?_
  cases reply.isPositive with
  | true => exact agrees_pure rfl
  | false =>
      refine Agrees.seq ((agrees_call server rfl).seq fun _ => agrees_pure rfl) fun reply => ?_
      cases reply.isPositive with
      | true => exact agrees_pure rfl
      | false => exact agrees_fail _

theorem agrees_encrypt : Agrees Dialogue.Alike Eq (encrypt server s) (encrypt server s) := by
  unfold encrypt
  cases s.flag .ssl with
  | true => exact agrees_pure rfl
  | false =>
      have hoffers : Agrees Dialogue.Alike Eq (server.offers "starttls")
          (server.offers "starttls") :=
        (agrees_call server rfl).seq fun _ => agrees_pure rfl
      refine hoffers.seq fun offered => ?_
      cases offered <;> cases s.flag .startTlsRequired <;> cases s.flag .startTls <;> first
        | exact agrees_pure rfl
        | exact agrees_fail _
        | exact (agrees_call server rfl).seq fun _ => (agrees_greet server).seq fun _ =>
            agrees_pure rfl

theorem agrees_leave : Agrees Dialogue.Alike Eq (leave server) (leave server) := by
  have hfarewell : Agrees Dialogue.Alike Eq server.farewell server.farewell := by
    refine (agrees_call server rfl).seq fun _ => ?_
    split
    · exact agrees_fail _
    · exact agrees_pure rfl
  refine hfarewell.attempt.bind fun ended other hended => ?_
  rw [hended.eq]
  split
  · exact agrees_pure rfl
  · exact agrees_call server rfl
  · exact agrees_fail _

end Stages

theorem passwordOf_agrees {a b : Value} (h : AccountsAlike a b) :
    ResultsAgree (fun p q => p.isNothing = q.isNothing) (passwordOf a) (passwordOf b) := by
  cases h with
  | same => exact .refl (fun p => Eq.refl p.isNothing) _
  | named user hpasswords => exact .value hpasswords.isNothing

theorem login_agrees {a b : Value} (h : AccountsAlike a b) :
    ResultsAgree (fun c c' => Call.withoutPassword c = c'.withoutPassword) (login a) (login b) := by
  cases h with
  | same => exact .refl (fun c => Eq.refl c.withoutPassword) _
  | named user hpasswords => exact .value rfl

theorem agrees_authenticate (server : Server) (h : s.Alike t) :
    Agrees Dialogue.Alike Eq (authenticate server s) (authenticate server t) := by
  rw [authenticate_eq, authenticate_eq, h.account.isNothing]
  split
  · exact agrees_pure rfl
  · split
    · refine (agrees_ofExcept (passwordOf_agrees h.account)).bind fun p q hpq => ?_
      rw [hpq]
      split
      · exact agrees_pure rfl
      · exact (agrees_ofExcept (login_agrees h.account)).bind fun _ _ => agrees_call server
    · exact agrees_fail _

theorem letterOf_alike (hsessions : s.Alike t) (h : m.Alike n) : letterOf s m = letterOf t n := by
  simp only [letterOf, envelopeSender, hsessions.get, h.entity, h.recipients]
  rw [h.others]

theorem agrees_converse (server : Server) (h : s.Alike t) (l : Letter) :
    Agrees Dialogue.Alike Eq (converse server s l.sender l.recipients l.text)
      (converse server t l.sender l.recipients l.text) := by
  have hconnect : connect server s = connect server t := by
    simp only [connect, Session.port?, tlsContext, h.host, h.number?, h.flag]
  have hencrypt : encrypt server s = encrypt server t := by
    simp only [encrypt, tlsContext, h.flag]
  unfold converse convey
  rw [hconnect, hencrypt, h.host]
  refine (agrees_connect server t).seq fun _ => (agrees_introduce server).seq fun _ => ?_
  refine (agrees_encrypt server t).seq fun _ => (agrees_authenticate server h).seq fun _ => ?_
  refine (agrees_call server rfl).seq fun _ => (agrees_leave server).seq fun _ => ?_
  exact agrees_note rfl

theorem agrees_send (server : Server) (h : m.Alike n) :
    Agrees Dialogue.Alike Eq (send server (some m)) (send server (some n)) := by
  match hm : m.session, hn : n.session, h.session with
  | none, none, .none =>
      simp only [send, hm, hn]
      exact agrees_fail _
  | some s, some t, .some hst =>
      rw [send_eq server hm, send_eq server hn, letterOf_alike hst h]
      exact (agrees_ofExcept_self _).seq fun l => agrees_converse server hst l

end Relay

end Mailroom
