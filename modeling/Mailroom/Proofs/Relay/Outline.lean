import Mailroom.Proofs.Relay.Heard

/-!
The calls of a dialogue by their names. Which of them it has is settled by the server and the
session alone, stage by stage.
-/

namespace Mailroom.Relay

variable {server : Server} {s : Session} {l : Letter} {c : Call}

/-- Which of the calls that may be left out a dialogue has. -/
structure Outline where
  patience : Bool
  oldGreeting : Bool
  question : Bool
  encryption : Bool
  account : Bool
  close : Bool

def part (present : Bool) (names : List String) : List String := if present then names else []

@[simp] theorem mem_part {name : String} {present : Bool} {names : List String} :
    name ∈ part present names ↔ present = true ∧ name ∈ names := by
  cases present <;> simp [part]

namespace Outline

variable (o : Outline)

def opening : List String := ["connect"] ++ part o.patience ["settimeout"] ++ ["set_debuglevel"]

def introduction : List String := ["ehlo"] ++ part o.oldGreeting ["helo"]

def protection : List String :=
  part o.question (["has_extn"] ++ part o.encryption ["starttls", "ehlo"])

def naming : List String := part o.account ["login"]

def delivery : List String := ["sendmail", "quit"] ++ part o.close ["close"]

/-- Everything before the account. -/
def approach : List String := o.opening ++ (o.introduction ++ o.protection)

def sequence : List String := o.approach ++ (o.naming ++ o.delivery)

end Outline

def hasPassword (account : Value) : Bool :=
  match passwordOf account with
  | .ok password => !password.isNothing
  | .error _ => false

def outline (server : Server) (s : Session) : Outline where
  patience := server.hasSocket
  oldGreeting := !(server.replyTo 0).isPositive
  question := !s.flag .ssl
  encryption := server.extensions.contains "starttls" && s.flag .startTls
  account := server.esmtp && hasPassword s.account
  close := server.breaksOnQuit

theorem connection_eq_ok (h : connection s = .ok c) : ∃ port timeout,
    c = .connect (s.flag .ssl) s.host port timeout
      (if s.flag .ssl then some (tlsContext s) else none) := by
  unfold connection at h
  cases hhost : s.host.truth with
  | false =>
      rw [hhost] at h
      cases h
  | true =>
      simp only [hhost, Bool.not_true, Bool.false_eq_true, if_false] at h
      obtain ⟨port, -, h⟩ := exists_of_bind_eq_ok h
      obtain ⟨connectionTimeout, -, h⟩ := exists_of_bind_eq_ok h
      obtain ⟨timeout, -, h⟩ := exists_of_bind_eq_ok h
      exact ⟨_, timeout, (Except.ok.inj h).symm⟩

theorem patience_eq_ok (h : patience s = .ok c) : ∃ timeout, c = .setTimeout timeout := by
  obtain ⟨millis, -, h⟩ := exists_of_bind_eq_ok h
  obtain ⟨timeout, -, h⟩ := exists_of_bind_eq_ok h
  exact ⟨timeout, (Except.ok.inj h).symm⟩

theorem login_eq_ok {account : Value} (h : login account = .ok c) :
    ∃ user password, account.elements = .ok [user, password] ∧ c = .login user password := by
  obtain ⟨parts, hparts, h⟩ := exists_of_bind_eq_ok h
  split at h
  · exact ⟨_, _, hparts, (Except.ok.inj h).symm⟩
  · cases h

/-- The password is the second part of the account. -/
theorem passwordOf_eq {account user password found : Value}
    (helements : account.elements = .ok [user, password])
    (hfound : passwordOf account = .ok found) : found = password := by
  have hitem (noun : String) : itemAt noun [user, password] 1 = .ok password := rfl
  cases account with
  | list items | tuple items | text t | bytes bs =>
      rw [passwordOf, Except.ok.inj helements, hitem] at hfound
      exact (Except.ok.inj hfound).symm
  | table entries => cases hfound
  | nothing | bool b | int n | float x | address a | moment t => cases helements

theorem hasPassword_of_nothing {account : Value} (h : account.isNothing = true) :
    hasPassword account = false := by
  cases account <;> simp_all [Value.isNothing, hasPassword, passwordOf]

section Stages

variable {Reason : List Call → Fault → Prop} {said : List Call}

theorem follows_opening (hconnection : ∀ e, connection s = .error e → Reason said e)
    (hpatience : ∀ c e, server.hasSocket = true → patience s = .error e → Reason (said ++ [c]) e) :
    Follows Call.name Reason said (opening server s) (outline server s).opening := by
  have hconnect : Follows Call.name Reason said [connection s] ["connect"] := by
    refine follows_turn (fun c hc => ?_) hconnection
    obtain ⟨port, timeout, rfl⟩ := connection_eq_ok hc
    rfl
  rw [Outline.opening, List.append_assoc]
  refine hconnect.append fun more hmore => Follows.append ?_ fun later _ => .call _ .nil
  obtain ⟨c, rfl⟩ : ∃ c, more = [c] := by
    obtain ⟨c, rfl, -⟩ := List.map_eq_singleton_iff.mp hmore
    exact ⟨c, rfl⟩
  rw [outline]
  cases hsocket : server.hasSocket with
  | false => exact .nil
  | true =>
      refine follows_turn (fun pause hpause => ?_) fun e he => hpatience c e hsocket he
      obtain ⟨timeout, rfl⟩ := patience_eq_ok hpause
      rfl

theorem follows_introduction (hrefused : server.helo.isPositive = false →
      Reason (said ++ [.ehlo] ++ [.helo])
        (.relay (.greetingRefused server.helo.code server.helo.text))) :
    Follows Call.name Reason said (introduction server 0) (outline server s).introduction := by
  refine .call .ehlo ?_
  rw [outline]
  cases (server.replyTo 0).isPositive with
  | true => exact .nil
  | false =>
      refine .call .helo ?_
      cases hhelo : server.helo.isPositive with
      | true => exact .nil
      | false => exact .fault (hrefused hhelo) [] []

theorem follows_encryption (hmissing : s.flag .startTlsRequired = true →
      "starttls" ∉ server.extensions →
      Reason (said ++ [.hasExtension "starttls"]) (.relay .encryptionMissing)) :
    Follows Call.name Reason said (encryption server s) (outline server s).protection := by
  unfold encryption outline
  cases s.flag .ssl with
  | true => exact .nil
  | false =>
      refine .call (.hasExtension "starttls") ?_
      cases hoffered : server.extensions.contains "starttls" with
      | false =>
          cases hrequired : s.flag .startTlsRequired with
          | true => exact .fault (hmissing hrequired (by simpa using hoffered)) [] []
          | false => exact .nil
      | true =>
          cases s.flag .startTls with
          | true => exact .call _ (.call .ehlo .nil)
          | false => exact .nil

theorem follows_naming (hfault : ∀ e, naming server s = [.error e] → Reason said e) :
    Follows Call.name Reason said (naming server s) (outline server s).naming := by
  unfold naming at hfault ⊢
  unfold outline Outline.naming
  cases haccount : s.account.isNothing with
  | true =>
      rw [hasPassword_of_nothing haccount, Bool.and_false]
      exact .nil
  | false =>
  cases hesmtp : server.esmtp with
  | false => exact .fault (hfault _ (by simp [haccount, hesmtp])) [] _
  | true =>
  unfold hasPassword
  cases hfound : passwordOf s.account with
  | error e => exact .fault (hfault e (by simp [haccount, hesmtp, hfound])) [] _
  | ok password =>
  cases hpassword : password.isNothing with
  | true => simpa [hpassword, part] using Follows.nil
  | false =>
      simp only [hpassword, Bool.false_eq_true, if_false]
      refine follows_turn (fun c hc => ?_) fun e he => hfault e ?_
      · obtain ⟨user, password, -, rfl⟩ := login_eq_ok hc
        rfl
      · simp [haccount, hesmtp, hfound, hpassword, he]

theorem follows_delivery :
    Follows Call.name Reason said (delivery server l) (outline server s).delivery := by
  refine .call (.sendMail l.sender l.recipients l.text) (.call .quit ?_)
  rw [outline]
  cases server.breaksOnQuit with
  | true => exact .call .close .nil
  | false => exact .nil

end Stages

end Mailroom.Relay
