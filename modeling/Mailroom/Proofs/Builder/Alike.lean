import Mailroom.Builder
import Mailroom.Proofs.Relay.Secrecy

/-!
Builders side by side. Two that are the same but for the passwords in them go on alike: whatever is
asked of them, they answer the same but for passwords, write the same log and stay alike.
-/

namespace Mailroom.Builder

open Mailroom.Action

variable {rules : Rules} {b c : Builder}

/-- Builders that are the same but for the passwords in them. -/
structure Alike (b c : Builder) : Prop where
  settings : b.settings.Alike c.settings
  sender : b.sender = c.sender
  recipients : b.recipients = c.recipients
  headers : b.headers = c.headers
  subject : b.subject = c.subject
  body : b.body = c.body
  sentDate : b.sentDate = c.sentDate
  explicit : Option.Rel Session.Alike b.explicit c.explicit
  session : Option.Rel Session.Alike b.session c.session
  message : Option.Rel Message.Alike b.message c.message
  progress : b.progress = c.progress
  found : b.found = c.found

/-- Calls that are the same but for the password that they give. -/
inductive Call.Alike : Call → Call → Prop
  | same (call : Call) : Alike call call
  | setting {p q : Value} (passwords : PasswordsAlike p q) :
      Alike (.setSetting .password p) (.setSetting .password q)
  | account (user : Value) {p q : Value} (passwords : PasswordsAlike p q) :
      Alike (.setAccount user p) (.setAccount user q)

inductive Answer.Alike : Answer → Answer → Prop
  | value (v : Value) : Alike (.value v) (.value v)
  | session {s t : Session} (sessions : s.Alike t) : Alike (.session s) (.session t)
  | message {m n : Message} (messages : m.Alike n) : Alike (.message m) (.message n)

theorem agrees_requireOpen : Agrees Alike Eq requireOpen requireOpen := by
  refine agrees_state.bind fun b c hbc => ?_
  rw [hbc.progress]
  split
  · exact agrees_fail _
  · exact agrees_pure rfl

theorem agrees_configure {f g : Builder → Builder} (h : ∀ b c, b.Alike c → (f b).Alike (g c)) :
    Agrees Alike Eq (configure f) (configure g) :=
  agrees_requireOpen.seq fun _ => agrees_update fun b c hbc =>
    { h b c hbc with progress := rfl }

theorem agrees_done {x y : Action Builder Unit} (h : Agrees Alike Eq x y) :
    Agrees Alike Answer.Alike (done x) (done y) :=
  h.seq fun _ => agrees_pure (.value _)

theorem hostName_alike (h : b.Alike c) : b.hostName = c.hostName := by
  have hhost : b.settings.hostName = c.settings.hostName := h.settings.others .hostName nofun
  unfold hostName
  rw [hhost]
  match b.session, c.session, h.session, b.explicit, c.explicit, h.explicit with
  | some _, some _, .some hst, _, _, _ => exact hst.host
  | none, none, .none, some _, some _, .some hst => exact hst.host
  | none, none, .none, none, none, .none => rfl

/-- An action on a part that holds no password. -/
theorem agrees_onPart {π : Type} {get : Builder → π} {set : π → Builder → Builder}
    (x : Action π Unit) (hget : ∀ b c, b.Alike c → get b = get c)
    (hset : ∀ p b c, b.Alike c → (set p b).Alike (set p c)) :
    Agrees Alike Eq (requireOpen >>= fun _ => within get set x >>= fun _ => configure id)
      (requireOpen >>= fun _ => within get set x >>= fun _ => configure id) := by
  refine agrees_requireOpen.seq fun _ => Agrees.seq ?_ fun _ => agrees_configure fun _ _ => id
  exact (agrees_self x).within hget fun p q b c hpq hbc => hpq ▸ hset p b c hbc

/-! ### The session and the message -/

theorem compose_alike (h : b.Alike c) (now : Moment) (sender : Address) {s t : Session}
    (hst : s.Alike t) : (b.compose now sender s).Alike (c.compose now sender t) where
  others := by
    simp only [compose, sentDateOr, h.recipients, h.headers, h.subject, h.body, h.sentDate]
  session := .some hst

theorem agrees_requireRecipients (policy : Policy) (sender : Address) :
    Agrees Alike Eq (requireRecipients policy sender) (requireRecipients policy sender) := by
  refine agrees_state.bind fun b c hbc => ?_
  rw [hbc.recipients]
  split
  · cases policy with
    | required => exact agrees_fail _
    | warn => exact agrees_note rfl
  · exact agrees_pure rfl

theorem agrees_report (sender : Address) {m n : Message} (h : m.Alike n) :
    Agrees Alike Eq (report sender m) (report sender n) := by
  unfold report
  rw [h.recipients]
  exact (agrees_ofExcept_self _).seq fun _ => agrees_note rfl

section Building

variable (hlinks : ∀ link ∈ rules.links, Session.Link.IsDiscreet link)
include hlinks

theorem agrees_getSession :
    Agrees Alike Session.Alike (getSession rules) (getSession rules) := by
  refine agrees_state.bind fun b c hbc => ?_
  match b.session, c.session, hbc.session with
  | some s, some t, .some hst =>
      refine (agrees_note ?_).seq fun _ => agrees_pure hst
      simp only [reusedText, hst.shown]
  | none, none, .none =>
      rw [hbc.found]
      have hask : Agrees Alike Session.Alike
          (within inquiry answering (Session.ask c.found rules.links))
          (within inquiry answering (Session.ask c.found rules.links)) :=
        (Session.agrees_ask hlinks c.found).within (fun b c hbc => ⟨hbc.explicit, hbc.settings⟩)
          fun q r b c hqr hbc => { hbc with explicit := hqr.explicit, settings := hqr.settings }
      refine hask.bind fun s t hst => ?_
      refine (agrees_update fun b c hbc => ?_).seq fun _ => agrees_pure hst
      exact { hbc with session := .some hst, found := congrArg (· + 1) hbc.found }

theorem agrees_build : Agrees Alike Message.Alike (build rules) (build rules) := by
  refine agrees_requireOpen.seq fun _ => agrees_state.bind fun b c hbc => ?_
  rw [hbc.sender]
  cases c.sender with
  | none => exact agrees_fail _
  | some sender =>
      refine (agrees_requireRecipients rules.policy sender).seq fun _ => ?_
      refine (agrees_getSession hlinks).bind fun s t hst => agrees_state.bind fun b c hbc => ?_
      have hmessages := compose_alike hbc rules.now sender hst
      refine (agrees_update fun b c hbc => ?_).seq fun _ => ?_
      · exact { hbc with message := .some hmessages, progress := rfl }
      · exact (agrees_report sender hmessages).seq fun _ => agrees_pure hmessages

theorem agrees_perform_self (call : Call) :
    Agrees Alike Answer.Alike (perform rules call) (perform rules call) := by
  cases call with
  | setSetting setting v =>
      refine agrees_done (agrees_configure fun b c hbc => ?_)
      exact { hbc with settings := hbc.settings.set setting v }
  | setAccount user password =>
      refine agrees_done (agrees_configure fun b c hbc => ?_)
      exact { hbc with settings := (hbc.settings.set .username user).set .password password }
  | setSession s =>
      refine agrees_done (agrees_configure fun b c hbc => ?_)
      exact { hbc with explicit := Session.rel_alike_refl s, session := .none }
  | setSender email personal =>
      refine agrees_done (agrees_requireOpen.seq fun _ => ?_)
      refine (agrees_ofExcept_self _).seq fun a => agrees_configure fun b c hbc => ?_
      exact { hbc with sender := rfl }
  | addRecipients role entries =>
      exact agrees_done (agrees_onPart _ (fun _ _ hbc => hbc.recipients) fun _ _ _ hbc =>
        { hbc with recipients := rfl })
  | setRecipients role entries =>
      exact agrees_done (agrees_onPart _ (fun _ _ hbc => hbc.recipients) fun _ _ _ hbc =>
        { hbc with recipients := rfl })
  | addHeader name value =>
      exact agrees_done (agrees_onPart _ (fun _ _ hbc => hbc.headers) fun _ _ _ hbc =>
        { hbc with headers := rfl })
  | setHeaders headers =>
      exact agrees_done (agrees_onPart _ (fun _ _ hbc => hbc.headers) fun _ _ _ hbc =>
        { hbc with headers := rfl })
  | setSubject v =>
      exact agrees_done (agrees_configure fun b c hbc => { hbc with subject := rfl })
  | setBody v =>
      exact agrees_done (agrees_configure fun b c hbc => { hbc with body := rfl })
  | setSentDate v =>
      exact agrees_done (agrees_configure fun b c hbc => { hbc with sentDate := rfl })
  | getSession =>
      exact (agrees_getSession hlinks).bind fun _ _ hst => agrees_pure (.session hst)
  | getHost =>
      refine agrees_state.bind fun b c hbc => ?_
      rw [hostName_alike hbc]
      exact agrees_pure (.value _)
  | getHeader name =>
      refine agrees_state.bind fun b c hbc => ?_
      rw [getHeader, getHeader, hbc.headers]
      exact (agrees_ofExcept_self _).seq fun _ => agrees_pure (.value _)
  | getSentDate =>
      refine agrees_state.bind fun b c hbc => ?_
      rw [sentDateOr, sentDateOr, hbc.sentDate]
      exact agrees_pure (.value _)
  | build => exact (agrees_build hlinks).bind fun _ _ h => agrees_pure (.message h)

theorem agrees_perform {call call' : Call} (h : call.Alike call') :
    Agrees Alike Answer.Alike (perform rules call) (perform rules call') := by
  cases h with
  | same => exact agrees_perform_self hlinks call
  | setting hpasswords =>
      refine agrees_done (agrees_configure fun b c hbc => ?_)
      exact { hbc with settings := hbc.settings.setPassword hpasswords }
  | account user hpasswords =>
      refine agrees_done (agrees_configure fun b c hbc => ?_)
      exact { hbc with settings := (hbc.settings.set .username user).setPassword hpasswords }

end Building

end Mailroom.Builder
