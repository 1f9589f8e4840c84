import Mailroom.Proofs.Invariant
import Mailroom.Proofs.Relay.Letter
import Mailroom.Proofs.Session.Flags

/-!
Encryption before the account and the message. What a dialogue keeps is followed through its stages
by the calls that each stage makes: only two stages make a call that matters, the one that encrypts
and the one that names the account, and the message is sent after both.
-/

namespace Mailroom.Relay

open Mailroom.Action

variable {server : Server} {s : Session} {calls : List Call} {c : Call}

/-- The account and the message are sensitive. -/
def Call.isSensitive : Call → Bool
  | .login .. | .sendMail .. => true
  | _ => false

def Call.isEncryption : Call → Bool
  | .startTls _ => true
  | _ => false

def Call.IsPlain (c : Call) : Prop := c.isSensitive = false ∧ c.isEncryption = false

def Silent (calls : List Call) : Prop := ∀ c ∈ calls, c.isSensitive = false

def NeverEncrypts (calls : List Call) : Prop := ∀ c ∈ calls, c.isEncryption = false

/-- The call at some place starts the encryption and does not fail. -/
def StartsAt (server : Server) (calls : List Call) (i : Nat) : Prop :=
  ∃ context, calls[i]? = some (.startTls context) ∧ server.fails i "starttls" = false

/-- A start of the encryption comes before everything sensitive. -/
def Guarded (server : Server) (calls : List Call) : Prop :=
  ∀ j c, calls[j]? = some c → c.isSensitive = true → ∃ i < j, StartsAt server calls i

def Started (server : Server) (calls : List Call) : Prop :=
  Guarded server calls ∧ ∃ i < calls.length, StartsAt server calls i

theorem Silent.concat (h : Silent calls) (hc : c.isSensitive = false) : Silent (calls ++ [c]) := by
  intro d hd
  rcases List.mem_append.mp hd with hd | hd
  · exact h d hd
  · rwa [List.mem_singleton.mp hd]

theorem NeverEncrypts.concat (h : NeverEncrypts calls) (hc : c.isEncryption = false) :
    NeverEncrypts (calls ++ [c]) := by
  intro d hd
  rcases List.mem_append.mp hd with hd | hd
  · exact h d hd
  · rwa [List.mem_singleton.mp hd]

theorem Silent.guarded (h : Silent calls) (server : Server) : Guarded server calls := by
  intro j c hc hsensitive
  rw [h c (List.mem_of_getElem? hc)] at hsensitive
  cases hsensitive

theorem Guarded.silent (h : Guarded server calls) (hnever : NeverEncrypts calls) :
    Silent calls := by
  intro c hc
  obtain ⟨j, hj⟩ := List.getElem?_of_mem hc
  refine Bool.eq_false_iff.mpr fun hsensitive => ?_
  obtain ⟨i, -, context, hstart, -⟩ := h j c hj hsensitive
  cases hnever _ (List.mem_of_getElem? hstart)

theorem StartsAt.append {i : Nat} (h : StartsAt server calls i) (more : List Call) :
    StartsAt server (calls ++ more) i := by
  obtain ⟨context, hcall, hfails⟩ := h
  have hi : i < calls.length := (List.getElem?_eq_some_iff.mp hcall).1
  exact ⟨context, by rw [List.getElem?_append_left hi, hcall], hfails⟩

theorem Started.concat (h : Started server calls) (c : Call) : Started server (calls ++ [c]) := by
  obtain ⟨hguarded, i, hi, hstarts⟩ := h
  refine ⟨fun j d hd hsensitive => ?_, i, by simp; omega, hstarts.append [c]⟩
  by_cases hj : j < calls.length
  · rw [List.getElem?_append_left hj] at hd
    obtain ⟨k, hk, hearlier⟩ := hguarded j d hd hsensitive
    exact ⟨k, hk, hearlier.append [c]⟩
  · exact ⟨i, by omega, hstarts.append [c]⟩

theorem Silent.started (h : Silent calls) {context : TlsContext}
    (hfails : server.fails calls.length "starttls" = false) :
    Started server (calls ++ [.startTls context]) :=
  ⟨(h.concat rfl).guarded server, calls.length, by simp, context, by simp, hfails⟩

/-! ### What the stages keep -/

section Stages

variable {Q : List Call → Prop}

theorem keeps_call (hQ : ∀ calls, Q calls → Q (calls ++ [c])) :
    Keeps (fun d : Dialogue => Q d.calls) (server.call c) := by
  intro d hd
  rw [Server.run_call]
  exact hQ d.calls hd

variable (hQ : ∀ calls c, Call.IsPlain c → Q calls → Q (calls ++ [c]))
include hQ

theorem keeps_greet (server : Server) : Keeps (fun d : Dialogue => Q d.calls) server.greet := by
  refine (keeps_call fun calls => hQ calls .ehlo ⟨rfl, rfl⟩).bind fun _ => ?_
  refine keeps_state.bind fun d => Keeps.bind (keeps_update ?_) fun _ => keeps_pure _
  exact fun _ hd => hd

theorem keeps_introduce (server : Server) :
    Keeps (fun d : Dialogue => Q d.calls) (introduce server) := by
  refine (keeps_greet hQ server).bind fun reply => ?_
  split
  · refine Keeps.bind ?_ fun old => Keeps.guard (keeps_pure _)
    exact (keeps_call fun calls => hQ calls .helo ⟨rfl, rfl⟩).bind fun _ => keeps_pure _
  · exact keeps_pure _

theorem keeps_connect (server : Server) (s : Session) :
    Keeps (fun d : Dialogue => Q d.calls) (connect server s) := by
  refine Keeps.guard ?_
  refine (keeps_ofExcept _).bind fun port => (keeps_ofExcept _).bind fun _ => ?_
  refine (keeps_ofExcept _).bind fun timeout => ?_
  refine (keeps_call fun calls => hQ calls _ ⟨rfl, rfl⟩).bind fun _ => ?_
  have hdebug :
      Keeps (fun d : Dialogue => Q d.calls) (server.call (.setDebugLevel (s.flag .debug))) :=
    keeps_call fun calls => hQ calls _ ⟨rfl, rfl⟩
  split
  · refine (keeps_ofExcept _).bind fun _ => (keeps_ofExcept _).bind fun _ => ?_
    exact (keeps_call fun calls => hQ calls _ ⟨rfl, rfl⟩).bind fun _ => hdebug
  · exact hdebug

theorem keeps_offers (server : Server) (name : String) :
    Keeps (fun d : Dialogue => Q d.calls) (server.offers name) :=
  (keeps_call fun calls => hQ calls _ ⟨rfl, rfl⟩).bind fun _ => keeps_pure _

theorem keeps_leave (server : Server) : Keeps (fun d : Dialogue => Q d.calls) (leave server) := by
  have hfarewell : Keeps (fun d : Dialogue => Q d.calls) server.farewell := by
    refine (keeps_call fun calls => hQ calls .quit ⟨rfl, rfl⟩).bind fun _ => ?_
    split
    · exact keeps_fail _
    · exact keeps_pure _
  refine hfarewell.attempt.bind fun result => ?_
  split
  · exact keeps_pure _
  · exact keeps_call fun calls => hQ calls .close ⟨rfl, rfl⟩
  · exact keeps_fail _

end Stages

/-- After the account only the encryption may have mattered. -/
theorem keeps_authenticate {Q : List Call → Prop}
    (hQ : ∀ calls c, Call.isEncryption c = false → Q calls → Q (calls ++ [c])) (server : Server)
    (s : Session) : Keeps (fun d : Dialogue => Q d.calls) (authenticate server s) := by
  unfold authenticate
  split
  · split
    · refine (keeps_ofExcept _).bind fun password => ?_
      split
      · refine (keeps_ofExcept _).bind fun parts => ?_
        split
        · exact keeps_call fun calls => hQ calls _ rfl
        · exact keeps_fail _
      · exact keeps_pure _
    · exact keeps_fail _
  · exact keeps_pure _

theorem run_offers (server : Server) (name : String) (d : Dialogue) :
    (server.offers name).run d =
      ⟨if server.fails d.calls.length "has_extn" then .error (.sendFailed "has_extn")
        else .ok (server.extensions.contains name),
        { d with calls := d.calls ++ [.hasExtension name] }, []⟩ := by
  cases h : server.fails d.calls.length "has_extn" <;>
    simp [Server.offers, Server.run_call, Call.name, h, Except.map]

theorem run_start (server : Server) (context : TlsContext) {d : Dialogue}
    (hd : Silent d.calls) :
    let o := (server.call (.startTls context) >>= fun _ => server.greet >>= fun _ => pure ()).run d
    Silent o.state.calls ∧ (o.result.isOk = true → Started server o.state.calls) := by
  let start : Call := .startTls context
  let started : Dialogue := { d with calls := d.calls ++ [start] }
  have hsilent : Silent started.calls := hd.concat rfl
  have hstart := Server.run_call server start d
  cases hbroken : server.fails d.calls.length "starttls" with
  | true =>
      have herror : ((server.call start).run d).result = .error (.sendFailed "starttls") := by
        rw [hstart]
        exact if_pos hbroken
      rw [run_bind_error herror, hstart]
      exact ⟨hsilent, by simp⟩
  | false =>
      have hok : ((server.call start).run d).result = .ok () := by
        rw [hstart]
        exact if_neg (by simp [start, Call.name, hbroken])
      have hgreet {Q : List Call → Prop}
          (hQ : ∀ calls c, Call.IsPlain c → Q calls → Q (calls ++ [c])) :
          Keeps (fun d : Dialogue => Q d.calls) (server.greet >>= fun _ => pure ()) :=
        (keeps_greet hQ server).bind fun _ => keeps_pure _
      rw [run_bind_ok hok, hstart]
      refine ⟨hgreet (fun _ _ hc h => h.concat hc.1) started hsilent, fun _ => ?_⟩
      exact hgreet (fun _ c _ h => h.concat c) started (hd.started hbroken)

/-- Where encryption is required, this stage is passed only if it is on offer, and it has started
then if the session wants it. -/
theorem run_encrypt (server : Server) (hrequired : s.flag .startTlsRequired = true)
    (hplain : s.flag .ssl = false) {d : Dialogue} (hd : Silent d.calls) :
    let o := (encrypt server s).run d
    Silent o.state.calls ∧ (o.result.isOk = true → "starttls" ∈ server.extensions ∧
      (s.flag .startTls = true → Started server o.state.calls)) := by
  let asked : Dialogue := { d with calls := d.calls ++ [.hasExtension "starttls"] }
  have hasked : Silent asked.calls := hd.concat rfl
  have hoffers := run_offers server "starttls" d
  cases hunanswered : server.fails d.calls.length "has_extn" with
  | true => simp [encrypt, hplain, run_bind, hoffers, hunanswered, asked, hasked]
  | false =>
      by_cases hoffered : "starttls" ∈ server.extensions
      · by_cases hwanted : s.flag .startTls = true
        · have hrun : (encrypt server s).run d = (server.call (.startTls (tlsContext s)) >>=
              fun _ => server.greet >>= fun _ => pure ()).run asked := by
            simp [encrypt, hplain, run_bind, hoffers, hunanswered, hoffered, hwanted, asked]
          obtain ⟨hsilent, hstarted⟩ := run_start server (tlsContext s) hasked
          rw [hrun]
          exact ⟨hsilent, fun hok => ⟨hoffered, fun _ => hstarted hok⟩⟩
        · have hrun : (encrypt server s).run d = ⟨.ok (), asked, []⟩ := by
            simp [encrypt, hplain, run_bind, hoffers, hunanswered, hoffered, hwanted, asked]
          rw [hrun]
          exact ⟨hasked, fun _ => ⟨hoffered, fun h => absurd h hwanted⟩⟩
      · have hrun : (encrypt server s).run d =
            ⟨.error (.relay .encryptionMissing), asked, []⟩ := by
          simp [encrypt, hplain, run_bind, hoffers, hunanswered, hoffered, hrequired, asked]
        rw [hrun]
        exact ⟨hasked, by simp⟩

theorem keeps_encrypt_of_unwanted (hunwanted : s.flag .startTls = false) {Q : List Call → Prop}
    (hQ : ∀ calls c, Call.IsPlain c → Q calls → Q (calls ++ [c])) (server : Server) :
    Keeps (fun d : Dialogue => Q d.calls) (encrypt server s) := by
  unfold encrypt
  split
  · refine (keeps_offers hQ server "starttls").bind fun offered => Keeps.guard ?_
    simp only [hunwanted, Bool.and_false, Bool.false_eq_true, if_false]
    exact keeps_pure _
  · exact keeps_pure _

/-! ### The whole dialogue -/

theorem run_send (server : Server) {m : Message} (hsession : m.session = some s) (d : Dialogue) :
    (∃ e, (send server (some m)).run d = ⟨.error e, d, []⟩) ∨
    ∃ sender recipients text,
      (send server (some m)).run d = (converse server s sender recipients text).run d := by
  rw [send_eq server hsession]
  cases letterOf s m with
  | error e => exact .inl ⟨e, rfl⟩
  | ok l => exact .inr ⟨l.sender, l.recipients, l.text, rfl⟩

theorem run_converse_of_noHost (hhost : s.host.truth = false) (sender : Value)
    (recipients : List String) (text : List UInt8) (d : Dialogue) :
    (converse server s sender recipients text).run d = ⟨.error (.relay .noHost), d, []⟩ := by
  simp [converse, connect, hhost]

section Conversation

variable (sender : Value) (recipients : List String) (text : List UInt8)

theorem keeps_started_convey (server : Server) (s : Session) :
    Keeps (fun d : Dialogue => Started server d.calls)
      (convey server s sender recipients text) := by
  refine (keeps_authenticate (fun _ c _ h => h.concat c) server s).bind fun _ => ?_
  refine (keeps_call fun _ h => h.concat _).bind fun _ => ?_
  exact (keeps_leave (fun _ c _ h => h.concat c) server).bind fun _ => keeps_note _

theorem neverEncrypts_converse (server : Server) (hunwanted : s.flag .startTls = false) :
    NeverEncrypts ((converse server s sender recipients text).run .initial).state.calls := by
  have hplain : ∀ calls c, Call.IsPlain c → NeverEncrypts calls → NeverEncrypts (calls ++ [c]) :=
    fun _ _ hc h => h.concat hc.2
  have hconvey : Keeps (fun d : Dialogue => NeverEncrypts d.calls)
      (convey server s sender recipients text) := by
    refine (keeps_authenticate (fun _ _ hc h => h.concat hc) server s).bind fun _ => ?_
    refine (keeps_call fun _ h => h.concat rfl).bind fun _ => ?_
    exact (keeps_leave hplain server).bind fun _ => keeps_note _
  have hconverse : Keeps (fun d : Dialogue => NeverEncrypts d.calls)
      (converse server s sender recipients text) :=
    (keeps_connect hplain server s).bind fun _ => (keeps_introduce hplain server).bind fun _ =>
      (keeps_encrypt_of_unwanted hunwanted hplain server).bind fun _ => hconvey
  exact hconverse .initial (by simp [NeverEncrypts, Dialogue.initial])

/-- Where encryption is required, the account and the message are reached only if it is on offer,
and behind its start if the session wants it. -/
theorem converse_of_required (server : Server) (hrequired : s.flag .startTlsRequired = true)
    (hplain : s.flag .ssl = false) :
    let o := (converse server s sender recipients text).run .initial
    (s.flag .startTls = true → Guarded server o.state.calls) ∧
      ("starttls" ∈ server.extensions ∨ Silent o.state.calls) := by
  let R (d : Dialogue) : Prop := (s.flag .startTls = true → Guarded server d.calls) ∧
    ("starttls" ∈ server.extensions ∨ Silent d.calls)
  have hsilent (d : Dialogue) (hd : Silent d.calls) : R d := ⟨fun _ => hd.guarded server, .inr hd⟩
  have hencrypt (d : Dialogue) (hd : Silent d.calls) :
      R ((encrypt server s >>= fun _ => convey server s sender recipients text).run d).state := by
    obtain ⟨hquiet, hpassed⟩ := run_encrypt server hrequired hplain hd
    cases hresult : ((encrypt server s).run d).result with
    | error e =>
        rw [run_bind_error hresult]
        exact hsilent _ hquiet
    | ok u =>
        obtain ⟨hoffered, hstarted⟩ := hpassed (by rw [hresult]; rfl)
        rw [run_bind_ok hresult]
        exact ⟨fun hwanted => (keeps_started_convey sender recipients text server s _
          (hstarted hwanted)).1, .inl hoffered⟩
  have hconnect := keeps_connect (fun _ _ hc h => Silent.concat h hc.1) server s
  have hintroduce := keeps_introduce (fun _ _ hc h => Silent.concat h hc.1) server
  exact hconnect.bind_changing hsilent (fun _ _ hd =>
    hintroduce.bind_changing hsilent (fun _ d hd => hencrypt d hd) hd)
    (by simp [Silent, Dialogue.initial])

end Conversation

/-- Encryption is required of a plain connection, by the flags of the session or by the settings it
is opened from; `enabled` tells whether it is also switched on there. -/
inductive RequiresEncryption (enabled : Bool) (s : Session) : Prop
  | ofFlags (required : s.flag .startTlsRequired = true) (plain : s.flag .ssl = false)
      (switched : s.flag .startTls = enabled)
  | ofSettings (c : Settings) (serial : Nat) (required : c.startTlsRequired.truth = true)
      (plain : c.sslOnConnect.truth = false) (switched : c.startTlsEnabled.truth = enabled)
      (opened : ((Session.resolve Session.standardLinks none c serial).run ()).result = .ok s)

theorem RequiresEncryption.flags {enabled : Bool} (h : RequiresEncryption enabled s) :
    s.host.truth = false ∨ s.flag .startTlsRequired = true ∧ s.flag .ssl = false ∧
      s.flag .startTls = enabled := by
  cases h with
  | ofFlags required plain switched => exact .inr ⟨required, plain, switched⟩
  | ofSettings c serial required plain switched opened =>
      rcases Session.flags_of_resolve opened with hhost | ⟨hrequired, hplain, hswitched⟩
      · exact .inl hhost
      · exact .inr ⟨hrequired.trans required, hplain.trans plain, hswitched.trans switched⟩

/-- Where encryption is required, its start comes before the account and the message if it is also
switched on, and otherwise only in the dialogues that never reach the two. If the server does not
offer it, the two are never reached. -/
theorem guarded_send_iff (server : Server) {m : Message} {enabled : Bool}
    (hsession : m.session = some s) (h : RequiresEncryption enabled s) :
    let calls := ((send server (some m)).run .initial).state.calls
    (Guarded server calls ↔ enabled = true ∨ Silent calls) ∧
      ("starttls" ∈ server.extensions ∨ Silent calls) := by
  intro calls
  have hnothing : Silent Dialogue.initial.calls := by simp [Silent, Dialogue.initial]
  have hsilent (hcalls : Silent calls) : (Guarded server calls ↔ enabled = true ∨ Silent calls) ∧
      ("starttls" ∈ server.extensions ∨ Silent calls) :=
    ⟨⟨fun _ => .inr hcalls, fun _ => hcalls.guarded server⟩, .inr hcalls⟩
  rcases run_send server hsession .initial with
    ⟨e, hrun⟩ | ⟨sender, recipients, text, hrun⟩
  · refine hsilent ?_
    simp only [calls, hrun]
    exact hnothing
  · rcases h.flags with hhost | ⟨hrequired, hplain, henabled⟩
    · refine hsilent ?_
      simp only [calls, hrun, run_converse_of_noHost hhost]
      exact hnothing
    · obtain ⟨hguarded, hoffered⟩ :=
        converse_of_required sender recipients text server hrequired hplain
      rw [← hrun] at hguarded hoffered
      refine ⟨⟨fun hstarts => ?_, fun h => ?_⟩, hoffered⟩
      · cases enabled with
        | true => exact .inl rfl
        | false =>
            have hnever := neverEncrypts_converse sender recipients text server henabled
            rw [← hrun] at hnever
            exact .inr (hstarts.silent hnever)
      · rcases h with hon | hcalls
        · exact hguarded (henabled.trans hon)
        · exact hcalls.guarded server

/-- Takes everything and offers encryption. -/
def Server.obliging : Server :=
  ⟨[⟨250, "ok"⟩], ⟨250, "ok"⟩, true, ["starttls"], false, false, fun _ _ => false⟩

/-- A session that requires encryption, with an account and perhaps more properties. -/
def requiringSession (more : Entries Value Value) : Session :=
  ⟨.supplied 0,
    [(.text "mail.smtp.host", .text "h"),
      (.text "mail.smtp.starttls.required", .text "true")] ++ more,
    .tuple [.text "user", .text "password"]⟩

def requiringMessage (more : Entries Value Value) : Message :=
  let a : Value := .address ⟨"a@b.c", none⟩
  ⟨a, [a], [], [], [], .nothing, .nothing, [], .nothing, some (requiringSession more)⟩

theorem guarded_send_when_enabled :
    let more := [(.text "mail.smtp.starttls.enable", .text "true")]
    let calls := ((send .obliging (some (requiringMessage more))).run .initial).state.calls
    RequiresEncryption true (requiringSession more) ∧ Guarded .obliging calls := by
  intro more calls
  have hrequires : RequiresEncryption true (requiringSession more) :=
    .ofFlags (by decide) (by decide) (by decide)
  exact ⟨hrequires, (guarded_send_iff .obliging rfl hrequires).1.mpr (.inl rfl)⟩

theorem unguarded_send_when_only_required :
    ¬∀ (server : Server) (m : Message) (s : Session), m.session = some s →
      s.flag .startTlsRequired = true → s.flag .ssl = false →
      Guarded server ((send server (some m)).run .initial).state.calls := by
  intro h
  let calls := ((send .obliging (some (requiringMessage []))).run .initial).state.calls
  have hguarded : Guarded .obliging calls :=
    h .obliging (requiringMessage []) (requiringSession []) rfl (by decide) (by decide)
  have hnever : NeverEncrypts calls := by
    have hcalls : calls.all (fun c => !c.isEncryption) = true := by decide +kernel
    simpa [NeverEncrypts] using hcalls
  have hreached : calls.any Call.isSensitive = true := by decide +kernel
  obtain ⟨c, hc, hsensitive⟩ := List.any_eq_true.mp hreached
  rw [hguarded.silent hnever c hc] at hsensitive
  cases hsensitive

end Mailroom.Relay
