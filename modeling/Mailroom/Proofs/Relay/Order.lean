import Mailroom.Proofs.Relay.Encryption
import Mailroom.Proofs.Relay.Outline

/-!
The order of a dialogue. Its calls follow the outline; how far it gets is settled by the first call
that fails, or by the server and the session where they refuse each other.
-/

namespace Mailroom.Relay

variable {server : Server} {s : Session} {m : Message} {l : Letter} {c : Call}

/-- The server has accepted one of the two greetings. -/
def Server.Welcomes (server : Server) (calls : List Call) : Prop :=
  (server.replyTo 0).isPositive = true ∧ .ehlo ∈ server.returned 0 calls ∨
    server.helo.isPositive = true ∧ .helo ∈ server.returned 0 calls

/-- Why a dialogue stops before its end, and behind which calls. -/
inductive Halts (server : Server) (s : Session) (m : Message) : List Call → Fault → Prop
  | failed {calls : List Call} {c : Call} (fails : server.fails calls.length c.name = true) :
      Halts server s m (calls ++ [c]) (.sendFailed c.name)
  | unwritten {e : Fault} (fault : letterOf s m = .error e) : Halts server s m [] e
  | unconnected {e : Fault} (fault : connection s = .error e) : Halts server s m [] e
  | impatient {c : Call} {e : Fault} (socket : server.hasSocket = true)
      (fault : patience s = .error e) : Halts server s m [c] e
  | refused {calls : List Call} (refuses : server.helo.isPositive = false) :
      Halts server s m (calls ++ [.helo])
        (.relay (.greetingRefused server.helo.code server.helo.text))
  | unencrypted {calls : List Call} (required : s.flag .startTlsRequired = true)
      (missing : "starttls" ∉ server.extensions) :
      Halts server s m (calls ++ [.hasExtension "starttls"]) (.relay .encryptionMissing)
  | unnamed {calls : List Call} {e : Fault} (fault : naming server s = [.error e])
      (reached : calls.map Call.name = (outline server s).approach) : Halts server s m calls e

/-- The calls of a dialogue stand in order, and it ends as they do. A farewell that only breaks the
encryption counts as returned. -/
structure InOrder (server : Server) (s : Session) (m : Message) (calls : List Call)
    (result : Except Fault Unit) : Prop where
  order : calls.map Call.name <+: (outline server s).sequence
  kind : ∀ ssl host port timeout context, .connect ssl host port timeout context ∈ calls →
    ssl = s.flag .ssl
  oldGreeting : .helo ∈ calls ↔
    (server.replyTo 0).isPositive = false ∧ .ehlo ∈ server.returned 0 calls
  refusal : .helo ∈ calls → server.helo.isPositive = false → calls.getLast? = some .helo
  question : ∀ name, .hasExtension name ∈ calls ↔
    name = "starttls" ∧ s.flag .ssl = false ∧ server.Welcomes calls
  encryption : ∀ context, .startTls context ∈ calls ↔
    .hasExtension "starttls" ∈ server.returned 0 calls ∧ "starttls" ∈ server.extensions ∧
      s.flag .startTls = true ∧ context = tlsContext s
  account : ∀ user password, .login user password ∈ calls →
    server.esmtp = true ∧ s.account.elements = .ok [user, password] ∧ password.isNothing = false
  unusable : s.account.isNothing = false → server.esmtp = false → Silent calls
  message : ∀ sender recipients text, .sendMail sender recipients text ∈ calls →
    (m.addressees ++ m.cc ++ m.bcc).mapM emailOf = .ok recipients
  success : result = .ok () ↔
    (∃ sender recipients text, .sendMail sender recipients text ∈ server.returned 0 calls) ∧
      .quit ∈ server.returned 0 calls ∧
      (server.breaksOnQuit = true → .close ∈ server.returned 0 calls)
  halt : result = .ok () ∧ calls.map Call.name = (outline server s).sequence ∨
    ∃ e, result = .error e ∧ Halts server s m calls e
  failure : ∀ i c, calls[i]? = some c → server.fails i c.name = true →
    calls.length = i + 1 ∧ result = .error (.sendFailed c.name)

/-- The dialogue follows the outline, and only a reason to halt ends it. -/
theorem follows_conversation (server : Server) (s : Session) (m : Message) (l : Letter) :
    Follows Call.name (Halts server s m) [] (conversation server s l)
      (outline server s).sequence := by
  have hconversation : Follows Call.name (Halts server s m) [] (conversation server s l)
      ((outline server s).opening ++ ((outline server s).introduction ++
        ((outline server s).protection ++ ((outline server s).naming ++
          (outline server s).delivery)))) := by
    refine (follows_opening (fun _ he => .unconnected he) fun _ _ hsocket he =>
      .impatient hsocket he).append fun opening hopening => ?_
    refine (follows_introduction .refused).append fun greeting hgreeting => ?_
    refine (follows_encryption .unencrypted).append fun protection hprotection => ?_
    refine (follows_naming fun e he => .unnamed he ?_).append fun _ _ => follows_delivery
    simp [Outline.approach, hopening, hgreeting, hprotection]
  simpa [Outline.sequence, Outline.approach] using hconversation

/-! ### The stages in between -/

section Stages

variable (server : Server) (s : Session) (l : Letter)

/-- The turns up to the end of the introduction. -/
def greeting : List Turn := opening server s ++ introduction server 0

/-- The turns up to the account. -/
def approach : List Turn := greeting server s ++ encryption server s

/-- The turns behind the encryption. -/
def ending : List Turn := naming server s ++ delivery server l

/-- The names that the turns use, whatever ends them. -/
abbrev Fits : List Turn → List String → Prop := Follows Call.name (fun _ _ => True) []

theorem fits_opening : Fits (opening server s) (outline server s).opening :=
  follows_opening (fun _ _ => trivial) fun _ _ _ _ => trivial

theorem fits_greeting :
    Fits (greeting server s) ((outline server s).opening ++ (outline server s).introduction) :=
  (fits_opening server s).append fun _ _ => follows_introduction fun _ => trivial

theorem fits_approach : Fits (approach server s) ((outline server s).opening ++
    (outline server s).introduction ++ (outline server s).protection) :=
  (fits_greeting server s).append fun _ _ => follows_encryption fun _ _ => trivial

theorem fits_message : Fits (approach server s ++ naming server s) ((outline server s).opening ++
    (outline server s).introduction ++ (outline server s).protection ++
      (outline server s).naming) :=
  (fits_approach server s).append fun _ _ => follows_naming fun _ _ => trivial

theorem fits_delivery : Fits (delivery server l) (outline server s).delivery :=
  follows_delivery

theorem fits_ending :
    Fits (ending server s l) ((outline server s).naming ++ (outline server s).delivery) :=
  Follows.append (follows_naming fun _ _ => trivial) fun _ _ => follows_delivery

theorem fits_remainder : Fits (encryption server s ++ ending server s l)
    ((outline server s).protection ++
      ((outline server s).naming ++ (outline server s).delivery)) :=
  Follows.append (follows_encryption fun _ _ => trivial) fun _ _ =>
    Follows.append (follows_naming fun _ _ => trivial) fun _ _ => follows_delivery

theorem conversation_eq_opening : conversation server s l =
    opening server s ++ (introduction server 0 ++ (encryption server s ++ ending server s l)) :=
  rfl

theorem conversation_eq_greeting :
    conversation server s l = greeting server s ++ (encryption server s ++ ending server s l) := by
  simp [conversation_eq_opening, greeting]

theorem conversation_eq_approach : conversation server s l =
    approach server s ++ (naming server s ++ delivery server l) := by
  simp [conversation_eq_greeting, approach, ending]

theorem conversation_eq_message : conversation server s l =
    (approach server s ++ naming server s) ++ delivery server l := by
  simp [conversation_eq_approach]

end Stages

variable {context : Option TlsContext} {text : List UInt8}

/-! ### The introduction -/

section Introduction

/-- The dialogue gets to the first greeting, and that returns. -/
def IsAnswered (server : Server) (s : Session) : Prop :=
  (server.play 0 (opening server s)).2 = .ok () ∧
    server.fails (opening server s).length "ehlo" = false

theorem play_introduction_ok {place n : Nat} :
    (server.play place (introduction server n)).2 = .ok () ↔
      server.fails place "ehlo" = false ∧ ((server.replyTo n).isPositive = true ∨
        server.fails (place + 1) "helo" = false ∧ server.helo.isPositive = true) := by
  unfold introduction
  cases (server.replyTo n).isPositive <;> cases server.helo.isPositive <;> simp [Call.name]

theorem mem_returned_ehlo :
    .ehlo ∈ server.returned 0 (server.play 0 (conversation server s l)).1 ↔
      IsAnswered server s := by
  have hopening : .ehlo ∉ server.returned 0 (server.play 0 (opening server s)).1 :=
    (fits_opening server s).not_mem_returned (by simp [Outline.opening, Call.name])
  simp [conversation, introduction, Server.mem_returned_play_append, hopening, IsAnswered,
    Call.name]

theorem helo_notin_opening : Call.helo.name ∉ (outline server s).opening := by
  simp [Outline.opening, Call.name]

theorem helo_notin_remainder : Call.helo.name ∉ (outline server s).protection ++
    ((outline server s).naming ++ (outline server s).delivery) := by
  simp [Outline.protection, Outline.naming, Outline.delivery, Call.name]

theorem mem_helo : .helo ∈ (server.play 0 (conversation server s l)).1 ↔
    (server.replyTo 0).isPositive = false ∧ IsAnswered server s := by
  rw [conversation_eq_opening, mem_play_middle (fits_opening server s) (fits_remainder server s l)
    helo_notin_opening helo_notin_remainder]
  cases hreply : (server.replyTo 0).isPositive <;>
    simp [introduction, IsAnswered, hreply, Call.name]

theorem mem_returned_helo :
    .helo ∈ server.returned 0 (server.play 0 (conversation server s l)).1 ↔
      (server.replyTo 0).isPositive = false ∧ IsAnswered server s ∧
        server.fails ((opening server s).length + 1) "helo" = false := by
  rw [conversation_eq_opening, mem_returned_play_middle (fits_opening server s)
    (fits_remainder server s l) helo_notin_opening helo_notin_remainder]
  cases hreply : (server.replyTo 0).isPositive <;>
    simp [introduction, IsAnswered, hreply, Call.name, and_assoc]

theorem welcomes_iff : server.Welcomes (server.play 0 (conversation server s l)).1 ↔
    (server.play 0 (greeting server s)).2 = .ok () := by
  rw [Server.Welcomes, mem_returned_ehlo, mem_returned_helo, greeting, Server.play_append_ok,
    play_introduction_ok, IsAnswered, Nat.zero_add]
  cases (server.replyTo 0).isPositive <;> cases server.helo.isPositive <;> simp [and_assoc]

theorem getLast?_of_refused (hrefused : server.helo.isPositive = false)
    (h : .helo ∈ (server.play 0 (conversation server s l)).1) :
    (server.play 0 (conversation server s l)).1.getLast? = some .helo := by
  obtain ⟨hreply, hopening, hanswered⟩ := mem_helo.mp h
  have hehlo : server.fails (0 + (opening server s).length) Call.ehlo.name = false := by
    rwa [Nat.zero_add]
  rw [conversation, Server.play_append_of_ok hopening, introduction, hreply, hrefused]
  simp only [Bool.false_eq_true, if_false, List.cons_append, List.nil_append,
    Server.play_of_returns hehlo]
  cases hhelo : server.fails (0 + (opening server s).length + 1) Call.helo.name with
  | true =>
      rw [Server.play_of_fails hhelo]
      simp
  | false =>
      rw [Server.play_of_returns hhelo, Server.play_error]
      simp

end Introduction

/-! ### The encryption -/

section Protection

variable (hname : c.name = "has_extn" ∨ c.name = "starttls")
include hname

theorem notin_greeting :
    c.name ∉ (outline server s).opening ++ (outline server s).introduction := by
  rcases hname with hname | hname <;> simp [Outline.opening, Outline.introduction, hname]

theorem notin_ending : c.name ∉ (outline server s).naming ++ (outline server s).delivery := by
  rcases hname with hname | hname <;> simp [Outline.naming, Outline.delivery, hname]

theorem mem_encryption : c ∈ (server.play 0 (conversation server s l)).1 ↔
    server.Welcomes (server.play 0 (conversation server s l)).1 ∧
      c ∈ (server.play (greeting server s).length (encryption server s)).1 := by
  rw [welcomes_iff, conversation_eq_greeting, mem_play_middle (fits_greeting server s)
    (fits_ending server s l) (notin_greeting hname) (notin_ending hname), Nat.zero_add]

theorem mem_returned_encryption :
    c ∈ server.returned 0 (server.play 0 (conversation server s l)).1 ↔
      server.Welcomes (server.play 0 (conversation server s l)).1 ∧
        c ∈ server.returned (greeting server s).length
          (server.play (greeting server s).length (encryption server s)).1 := by
  rw [welcomes_iff, conversation_eq_greeting, mem_returned_play_middle (fits_greeting server s)
    (fits_ending server s l) (notin_greeting hname) (notin_ending hname), Nat.zero_add]

end Protection

theorem mem_hasExtension (name : String) :
    .hasExtension name ∈ (server.play 0 (conversation server s l)).1 ↔
      name = "starttls" ∧ s.flag .ssl = false ∧
        server.Welcomes (server.play 0 (conversation server s l)).1 := by
  rw [mem_encryption (.inl rfl), encryption]
  cases s.flag .ssl <;> cases server.extensions.contains "starttls" <;> cases s.flag .startTls <;>
    cases s.flag .startTlsRequired <;> simp [and_comm]

theorem mem_startTls (context : TlsContext) :
    .startTls context ∈ (server.play 0 (conversation server s l)).1 ↔
      .hasExtension "starttls" ∈ server.returned 0 (server.play 0 (conversation server s l)).1 ∧
        "starttls" ∈ server.extensions ∧ s.flag .startTls = true ∧ context = tlsContext s := by
  rw [mem_encryption (.inr rfl), mem_returned_encryption (.inl rfl), encryption]
  by_cases hoffered : "starttls" ∈ server.extensions <;> cases s.flag .ssl <;>
    cases s.flag .startTls <;> cases s.flag .startTlsRequired <;> simp [hoffered, and_assoc]

/-! ### The connection, the account and the message -/

theorem kind_of_mem {ssl : Bool} {host : Value} {port : Int} {timeout : Number.Double}
    (h : .connect ssl host port timeout context ∈ (server.play 0 (conversation server s l)).1) :
    ssl = s.flag .ssl := by
  rw [conversation_eq_greeting, Server.mem_play_append, greeting, Server.mem_play_append] at h
  rcases h with (h | ⟨-, h⟩) | ⟨-, h⟩
  · have hturn := Server.turn_mem_of_mem_play h
    simp only [opening, List.mem_append, List.mem_singleton] at hturn
    rcases hturn with hturn | hturn | hturn
    · obtain ⟨port, timeout, hconnect⟩ := connection_eq_ok hturn.symm
      exact (Call.connect.inj hconnect).1
    · split at hturn
      · obtain ⟨timeout, hpatience⟩ := patience_eq_ok (List.mem_singleton.mp hturn).symm
        cases hpatience
      · cases hturn
    · cases hturn
  · cases hreply : (server.replyTo 0).isPositive <;> cases hhelo : server.helo.isPositive <;>
      simp [introduction, hreply, hhelo] at h
  · have hname := (fits_remainder server s l).view_mem h
    simp [Outline.protection, Outline.naming, Outline.delivery, Call.name] at hname

theorem login_of_mem {user password : Value}
    (h : .login user password ∈ (server.play 0 (conversation server s l)).1) :
    server.esmtp = true ∧ s.account.elements = .ok [user, password] ∧
      password.isNothing = false := by
  rw [conversation_eq_approach, mem_play_middle (fits_approach server s)
    (fits_delivery server s l)
    (by simp [Outline.opening, Outline.introduction, Outline.protection, Call.name])
    (by simp [Outline.delivery, Call.name])] at h
  have hturn := Server.turn_mem_of_mem_play h.2
  unfold naming at hturn
  split at hturn
  · cases hturn
  split at hturn
  · rename_i hesmtp
    split at hturn
    · cases List.mem_singleton.mp hturn
    · rename_i found hfound
      cases hpassword : found.isNothing with
      | true => simp [hpassword] at hturn
      | false =>
          simp only [hpassword, Bool.false_eq_true, if_false, List.mem_singleton] at hturn
          obtain ⟨_, _, helements, hlogin⟩ := login_eq_ok hturn.symm
          obtain ⟨rfl, rfl⟩ := Call.login.inj hlogin
          rw [passwordOf_eq helements hfound] at hpassword
          exact ⟨hesmtp, helements, hpassword⟩
  · cases List.mem_singleton.mp hturn

theorem silent_of_unusable (haccount : s.account.isNothing = false)
    (hesmtp : server.esmtp = false) : Silent (server.play 0 (conversation server s l)).1 := by
  have hnaming : naming server s = [.error (.relay .accountUnusable)] := by
    simp [naming, haccount, hesmtp]
  -- The fault ends the turns, so the names behind it can be left out.
  have hfits : Fits (conversation server s l) ((outline server s).opening ++
      (outline server s).introduction ++ (outline server s).protection ++ []) := by
    rw [conversation_eq_approach, hnaming]
    exact (fits_approach server s).append fun _ _ => .fault trivial _ []
  intro c hc
  have hname := hfits.view_mem hc
  cases c <;> first
    | rfl
    | simp [Outline.opening, Outline.introduction, Outline.protection, Call.name] at hname

theorem recipients_of_mem {sender : Value} {recipients : List String}
    (h : .sendMail sender recipients text ∈ (server.play 0 (conversation server s l)).1) :
    recipients = l.recipients := by
  rw [conversation_eq_message, Server.mem_play_append] at h
  rcases h with h | ⟨-, h⟩
  · have hname := (fits_message server s).view_mem h
    simp [Outline.opening, Outline.introduction, Outline.protection, Outline.naming, Call.name]
      at hname
  · cases hbreaks : server.breaksOnQuit <;> simp [delivery, leaving, hbreaks] at h <;> exact h.2.1

/-- The farewell decides, once everything before it has returned. -/
theorem play_delivery_ok {first : List Turn} {names : List String} (hfirst : Fits first names)
    (hmessage : "sendmail" ∉ names) (hquit : "quit" ∉ names) (hclose : "close" ∉ names) :
    let calls := (server.play 0 (first ++ delivery server l)).1
    (server.play 0 (first ++ delivery server l)).2 = .ok () ↔
      (∃ sender recipients text, .sendMail sender recipients text ∈ server.returned 0 calls) ∧
        .quit ∈ server.returned 0 calls ∧
        (server.breaksOnQuit = true → .close ∈ server.returned 0 calls) := by
  have hheard (c : Call) (hc : c.name ∉ names) :
      c ∈ server.returned 0 (server.play 0 (first ++ delivery server l)).1 ↔
        (server.play 0 first).2 = .ok () ∧
          c ∈ server.returned first.length (server.play first.length (delivery server l)).1 := by
    rw [Server.mem_returned_play_append, or_iff_right (hfirst.not_mem_returned hc), Nat.zero_add]
  have hsent (sender : Value) (recipients : List String) (text : List UInt8) :=
    hheard (.sendMail sender recipients text) hmessage
  simp only [Server.play_append_ok, Nat.zero_add, hsent, hheard .quit hquit, hheard .close hclose]
  cases (server.play 0 first).2 with
  | error e => simp
  | ok u =>
      cases hbreaks : server.breaksOnQuit <;>
        cases hreturns : server.fails first.length "sendmail" <;>
        simp [delivery, leaving, Call.name, hbreaks, hreturns]

/-! ### The whole dialogue -/

theorem inOrder_of_fault (server : Server) {e : Fault} (hletter : letterOf s m = .error e) :
    InOrder server s m [] (.error e) where
  order := by simp
  kind := nofun
  oldGreeting := by simp
  refusal := nofun
  question := by simp [Server.Welcomes]
  encryption := by simp
  account := nofun
  unusable := fun _ _ => nofun
  message := nofun
  success := by simp
  halt := .inr ⟨e, rfl, .unwritten hletter⟩
  failure := by simp

theorem inOrder_conversation (server : Server) (hletter : letterOf s m = .ok l) :
    let heard := server.play 0 (conversation server s l)
    InOrder server s m heard.1 heard.2 where
  order := (follows_conversation server s m l).begins server 0
  kind := fun _ _ _ _ _ h => kind_of_mem h
  oldGreeting := by rw [mem_helo, mem_returned_ehlo]
  refusal := fun h hrefused => getLast?_of_refused hrefused h
  question := mem_hasExtension
  encryption := mem_startTls
  account := fun _ _ h => login_of_mem h
  unusable := silent_of_unusable
  message := fun sender recipients text h => by
    rw [recipients_of_mem h]
    exact (letterOf_eq_ok hletter).2.1
  success := by
    rw [conversation_eq_message]
    refine play_delivery_ok (fits_message server s) ?_ ?_ ?_ <;>
      simp [Outline.opening, Outline.introduction, Outline.protection, Outline.naming]
  halt := (follows_conversation server s m l).ends fun _ _ => .failed
  failure := fun i c hc hfails => Server.play_of_failure hc (by rwa [Nat.zero_add])

/-- Every dialogue is in order, whatever the server says and whichever calls fail; without a session
there is none. -/
theorem send_in_order (server : Server) (m : Message) :
    let o := (send server (some m)).run .initial
    match m.session with
    | none => o.state.calls = [] ∧ o.result = .error (.relay .noSession)
    | some s => InOrder server s m o.state.calls o.result := by
  intro o
  cases hsession : m.session with
  | none => simp [o, send, hsession, Dialogue.initial]
  | some s =>
      obtain ⟨hcalls, hresult⟩ := Prod.ext_iff.mp (run_send_agenda server hsession)
      change InOrder server s m o.state.calls o.result
      rw [show o.state.calls = _ from hcalls, show o.result = _ from hresult, agenda]
      cases hletter : letterOf s m with
      | error e => exact inOrder_of_fault server hletter
      | ok l => exact inOrder_conversation server hletter

end Mailroom.Relay
