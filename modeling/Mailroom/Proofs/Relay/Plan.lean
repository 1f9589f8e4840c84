import Mailroom.Proofs.Relay.Encryption
import Mailroom.Proofs.Relay.Heard
import Mailroom.Proofs.Session.Opened

/-!
The dialogue that settings ask for. The session in between is only a carrier: what it was opened
from says call by call what the server hears, and the dialogue stops short of that for four reasons
only.
-/

namespace Mailroom.Relay

open Mailroom.Session (Speaks millis)

variable {server : Server} {c : Settings} {s : Session} {m : Message} {e : Fault}

/-- What is read of a message before the first call. -/
structure Reading where
  email : String
  recipients : List String
  text : List UInt8

/-- The message has recipients and can be written. The sender is only looked at if no bounce address
stands in for it. -/
structure IsReading (c : Settings) (m : Message) (r : Reading) : Prop where
  sender : c.bounceAddress.truth = false → emailOf m.sender = .ok r.email
  recipients : m.recipients.mapM emailOf = .ok r.recipients
  addressed : r.recipients ≠ []
  written : (m.entity >>= Wire.Entity.write) = .ok r.text

/-- How long to wait for a connection and for an answer. -/
structure Patience where
  connection : Number.Double
  answer : Number.Double

/-- The timeouts of the settings, which must be convertible to seconds. -/
structure IsPatience (c : Settings) (wait : Patience) : Prop where
  connection : seconds (millis c.socketConnectionTimeout) = .ok wait.connection
  answer : seconds (millis c.socketTimeout) = .ok wait.answer

variable {r : Reading} {wait : Patience}

def relayPort (c : Settings) : Int :=
  match c.smtpPort with
  | .int n => n
  | _ => if c.sslOnConnect.truth then 465 else 25

def relayContext (c : Settings) : TlsContext := ⟨c.sslCheckServerIdentity.truth⟩

def envelope (c : Settings) (email : String) : Value :=
  if c.bounceAddress.truth then c.bounceAddress else .text email

def openingCalls (server : Server) (c : Settings) (wait : Patience) : List Call :=
  [.connect c.sslOnConnect.truth c.hostName (relayPort c) wait.connection
      (if c.sslOnConnect.truth then some (relayContext c) else none)] ++
    ((if server.hasSocket then [.setTimeout wait.answer] else []) ++ [.setDebugLevel c.debug.truth])

def greetingCalls (server : Server) : List Call :=
  [.ehlo] ++ if (server.replyTo 0).isPositive then [] else [.helo]

def encryptionCalls (server : Server) (c : Settings) : List Call :=
  if c.sslOnConnect.truth then []
  else [.hasExtension "starttls"] ++
    if c.startTlsEnabled.truth && server.extensions.contains "starttls" then
      [.startTls (relayContext c), .ehlo]
    else []

def accountCalls (server : Server) (c : Settings) : List Call :=
  if c.username.truth && !c.password.isNothing && server.esmtp then
    [.login c.username c.password]
  else []

def messageCalls (server : Server) (c : Settings) (r : Reading) : List Call :=
  [.sendMail (envelope c r.email) r.recipients r.text] ++
    ([.quit] ++ if server.breaksOnQuit then [.close] else [])

/-- The calls that the settings ask for, in order. -/
def plan (server : Server) (c : Settings) (wait : Patience) (r : Reading) : List Call :=
  openingCalls server c wait ++ (greetingCalls server ++
    (encryptionCalls server c ++ (accountCalls server c ++ messageCalls server c r)))

/-- Why a dialogue stops after some of the planned calls. -/
inductive Obstacle (server : Server) (c : Settings) (planned : List Call) :
    List Call → Fault → Prop
  | failed {calls : List Call} {call : Call}
      (fails : server.fails calls.length call.name = true) :
      Obstacle server c planned (calls ++ [call]) (.sendFailed call.name)
  | refused {calls : List Call} (refuses : server.helo.isPositive = false) :
      Obstacle server c planned (calls ++ [.helo])
        (.relay (.greetingRefused server.helo.code server.helo.text))
  | unencrypted {calls : List Call} (required : c.startTlsRequired.truth = true)
      (missing : "starttls" ∉ server.extensions) :
      Obstacle server c planned (calls ++ [.hasExtension "starttls"]) (.relay .encryptionMissing)
  | unusable {calls rest : List Call} {sender : Value} {recipients : List String}
      {text : List UInt8} (named : c.username.truth = true) (old : server.esmtp = false)
      (next : planned = calls ++ .sendMail sender recipients text :: rest) :
      Obstacle server c planned calls (.relay .accountUnusable)

/-! ### The turns that settings ask for -/

section Turns

variable (hspeaks : Speaks c s)
include hspeaks

theorem envelopeSender_of_speaks (m : Message) : envelopeSender s m =
    if c.bounceAddress.truth then .ok c.bounceAddress else (emailOf m.sender).map .text := by
  have hnothing : Value.nothing.truth = false := rfl
  rw [envelopeSender, hspeaks.bounceAddress]
  cases hbounce : c.bounceAddress.truth <;> simp [hbounce, hnothing]

theorem letterOf_of_speaks (hreading : IsReading c m r) :
    letterOf s m = .ok ⟨envelope c r.email, r.recipients, r.text⟩ := by
  have hsender : envelopeSender s m = .ok (envelope c r.email) := by
    rw [envelopeSender_of_speaks hspeaks, envelope]
    cases hbounce : c.bounceAddress.truth with
    | true => rfl
    | false => rw [if_neg Bool.false_ne_true, hreading.sender hbounce]; rfl
  obtain ⟨entity, hentity, hwrite⟩ := exists_of_bind_eq_ok hreading.written
  simp [letterOf, hsender, hreading.recipients, hreading.addressed, hentity, hwrite, bind,
    Except.bind, pure, Except.pure]

omit hspeaks in
theorem relayPort_eq {n : Int} (h : Session.portValue c = .int n) : relayPort c = n :=
  (Session.eq_of_portValue h).symm

theorem context_of_speaks
    (hsecured : c.sslOnConnect.truth = true ∨ c.startTlsEnabled.truth = true) :
    tlsContext s = relayContext c := by
  rw [tlsContext, hspeaks.checkIdentity hsecured, relayContext]

theorem opening_of_speaks (hhost : c.hostName.truth = true) (hwait : IsPatience c wait) :
    opening server s = (openingCalls server c wait).map .ok := by
  obtain ⟨n, hvalue, hport⟩ := hspeaks.port
  have hcontext : (if c.sslOnConnect.truth then some (tlsContext s) else none) =
      if c.sslOnConnect.truth then some (relayContext c) else none := by
    cases hssl : c.sslOnConnect.truth with
    | true => rw [context_of_speaks hspeaks (.inl hssl)]
    | false => rfl
  have hconnection : connection s = .ok (.connect c.sslOnConnect.truth c.hostName (relayPort c)
      wait.connection (if c.sslOnConnect.truth then some (relayContext c) else none)) := by
    simp [connection, hspeaks.host, hspeaks.ssl, hhost, hport, hcontext, relayPort_eq hvalue,
      hspeaks.connectionTimeout _ hwait.connection, hwait.connection, bind, Except.bind, pure,
      Except.pure]
  have hpatience : patience s = .ok (.setTimeout wait.answer) := by
    simp [patience, hspeaks.timeout _ hwait.answer, hwait.answer, bind, Except.bind, pure,
      Except.pure]
  rw [opening, openingCalls, hconnection, hpatience, hspeaks.debug]
  cases server.hasSocket <;> rfl

theorem encryption_of_speaks : encryption server s = (encryptionCalls server c).map .ok ++
    if !c.sslOnConnect.truth && !server.extensions.contains "starttls" &&
        c.startTlsRequired.truth then
      [.error (.relay .encryptionMissing)]
    else [] := by
  rw [encryption, encryptionCalls, hspeaks.ssl, hspeaks.startTls, hspeaks.startTlsRequired]
  cases hstart : c.startTlsEnabled.truth with
  | true =>
      rw [context_of_speaks hspeaks (.inr hstart)]
      cases c.sslOnConnect.truth <;> cases server.extensions.contains "starttls" <;>
        cases c.startTlsRequired.truth <;> rfl
  | false =>
      cases c.sslOnConnect.truth <;> cases server.extensions.contains "starttls" <;>
        cases c.startTlsRequired.truth <;> rfl

theorem naming_of_speaks : naming server s = (accountCalls server c).map .ok ++
    if c.username.truth && !server.esmtp then [.error (.relay .accountUnusable)] else [] := by
  rw [naming, accountCalls, hspeaks.account]
  cases c.username.truth with
  | false => rfl
  | true =>
      have haccount : (Value.tuple [c.username, c.password]).isNothing = false := rfl
      have hpassword : passwordOf (.tuple [c.username, c.password]) = .ok c.password := rfl
      cases server.esmtp with
      | false => simp [haccount]
      | true =>
          cases hnothing : c.password.isNothing <;>
            simp [haccount, hpassword, hnothing, login, Value.elements, bind, Except.bind, pure,
              Except.pure]

theorem exists_isReading {l : Letter} (h : letterOf s m = .ok l) : ∃ r, IsReading c m r := by
  obtain ⟨hsender, hrecipients, haddressed, hwritten⟩ := letterOf_eq_ok h
  cases hbounce : c.bounceAddress.truth with
  | true =>
      exact ⟨⟨"", l.recipients, l.text⟩, fun h => absurd h (by simp [hbounce]), hrecipients,
        haddressed, hwritten⟩
  | false =>
      rw [envelopeSender_of_speaks hspeaks, hbounce] at hsender
      obtain ⟨email, hemail, -⟩ := exists_of_map_eq_ok hsender
      exact ⟨⟨email, l.recipients, l.text⟩, fun _ => hemail, hrecipients, haddressed, hwritten⟩

theorem agenda_of_speaks (hhost : c.hostName.truth = true) (hwait : IsPatience c wait)
    (hreading : IsReading c m r) :
    agenda server s m = (openingCalls server c wait).map .ok ++ (introduction server 0 ++
      (encryption server s ++ (naming server s ++ (messageCalls server c r).map .ok))) := by
  have hdelivery : delivery server ⟨envelope c r.email, r.recipients, r.text⟩ =
      (messageCalls server c r).map .ok := by
    rw [delivery, leaving, messageCalls]
    cases server.breaksOnQuit <;> rfl
  simp only [agenda, letterOf_of_speaks hspeaks hreading, conversation,
    opening_of_speaks hspeaks hhost hwait, hdelivery]

end Turns

theorem introduction_eq (server : Server) : introduction server 0 =
    (greetingCalls server).map .ok ++
      if !(server.replyTo 0).isPositive && !server.helo.isPositive then
        [.error (.relay (.greetingRefused server.helo.code server.helo.text))]
      else [] := by
  rw [introduction, greetingCalls]
  cases (server.replyTo 0).isPositive <;> cases server.helo.isPositive <;> rfl

section Obstacles

variable {planned said : List Call}

theorem obstacle_of_refused
    (h : (!(server.replyTo 0).isPositive && !server.helo.isPositive) = true) :
    Obstacle server c planned (said ++ greetingCalls server)
      (.relay (.greetingRefused server.helo.code server.helo.text)) := by
  obtain ⟨hreply, hhelo⟩ : (server.replyTo 0).isPositive = false ∧
      server.helo.isPositive = false := by simpa using h
  have hlast : said ++ greetingCalls server = (said ++ [.ehlo]) ++ [.helo] := by
    simp [greetingCalls, hreply]
  rw [hlast]
  exact .refused hhelo

theorem obstacle_of_missing (h : (!c.sslOnConnect.truth &&
    !server.extensions.contains "starttls" && c.startTlsRequired.truth) = true) :
    Obstacle server c planned (said ++ encryptionCalls server c)
      (.relay .encryptionMissing) := by
  obtain ⟨⟨hssl, hmissing⟩, hrequired⟩ : (c.sslOnConnect.truth = false ∧
      "starttls" ∉ server.extensions) ∧ c.startTlsRequired.truth = true := by simpa using h
  have hlast : encryptionCalls server c = [.hasExtension "starttls"] := by
    simp [encryptionCalls, hssl, hmissing]
  rw [hlast]
  exact .unencrypted hrequired hmissing

theorem obstacle_of_unusable (h : (c.username.truth && !server.esmtp) = true)
    (hplanned : planned = said ++ accountCalls server c ++ messageCalls server c r) :
    Obstacle server c planned (said ++ accountCalls server c) (.relay .accountUnusable) := by
  obtain ⟨hnamed, hold⟩ : c.username.truth = true ∧ server.esmtp = false := by simpa using h
  exact .unusable hnamed hold hplanned

end Obstacles

/-- The turns follow the plan of the settings, and only an obstacle ends them. -/
theorem follows_plan (server : Server) (hspeaks : Speaks c s) (hhost : c.hostName.truth = true)
    (hwait : IsPatience c wait) (hreading : IsReading c m r) :
    Follows id (Obstacle server c (plan server c wait r)) [] (agenda server s m)
      (plan server c wait r) := by
  rw [agenda_of_speaks hspeaks hhost hwait hreading, introduction_eq,
    encryption_of_speaks hspeaks, naming_of_speaks hspeaks, ← List.map_id (plan server c wait r)]
  simp only [plan, List.map_append]
  refine (follows_calls _).append fun opened hopened => ?_
  refine (follows_blocked obstacle_of_refused).append fun greeted hgreeted => ?_
  refine (follows_blocked obstacle_of_missing).append fun secured hsecured => ?_
  refine (follows_blocked fun h => obstacle_of_unusable (r := r) h ?_).append fun _ _ =>
    follows_calls _
  rw [List.map_id, List.map_id] at hopened hgreeted hsecured
  subst hopened hgreeted hsecured
  simp

/-- What settings say reaches the relay: the dialogue follows their plan call by call, and stops
short of its end at an obstacle only. Nothing is said for a message that cannot be read. -/
theorem settings_reach_relay (server : Server) {serial : Nat} (hhost : c.hostName.truth = true)
    (hopen : ((Session.resolve Session.standardLinks none c serial).run ()).result = .ok s)
    (hsession : m.session = some s) (hwait : IsPatience c wait) :
    let o := (send server (some m)).run .initial
    (∀ r, IsReading c m r →
      let planned := plan server c wait r
      o.state.calls <+: planned ∧ (o.result = .ok () ∧ o.state.calls = planned ∨
        ∃ e, o.result = .error e ∧ Obstacle server c planned o.state.calls e)) ∧
    ((∀ r, ¬IsReading c m r) → o.state.calls = [] ∧ o.result.isOk = false) := by
  intro o
  have hspeaks := Session.speaks_of_resolve hhost hopen
  obtain ⟨hcalls, hresult⟩ := Prod.ext_iff.mp (run_send_agenda server hsession)
  rw [show o.state.calls = _ from hcalls, show o.result = _ from hresult]
  refine ⟨fun r hreading => ?_, fun hnone => ?_⟩
  · have hfollows := follows_plan server hspeaks hhost hwait hreading
    have hbegins := hfollows.begins server 0
    rw [List.map_id] at hbegins
    refine ⟨hbegins, ?_⟩
    simpa only [List.map_id, List.nil_append, List.length_nil] using
      hfollows.ends fun _ _ => .failed
  · cases hletter : letterOf s m with
    | error e => simp [agenda, hletter]
    | ok l =>
        obtain ⟨r, hreading⟩ := exists_isReading hspeaks hletter
        exact absurd hreading (hnone r)

/-- A relay on a port of its own, with an account and encryption that knows the server by its
name. -/
def guardedSettings : Settings :=
  { Settings.initial with
    hostName := .text "h", smtpPort := .int 2525, socketTimeout := .int 5000,
    startTlsEnabled := .bool true, sslCheckServerIdentity := .bool true,
    bounceAddress := .text "bounce@h", username := .text "user", password := .text "secret" }

def guardedSession : Session :=
  Session.ofProperties (.opened 0)
    (Session.propertiesOf guardedSettings "2525" (some "5000") none)
    (Session.accountOf guardedSettings)

def guardedMessage : Message where
  sender := .address ⟨"a@b.c", none⟩
  addressees := [.address ⟨"x@y.z", none⟩]
  cc := []
  bcc := [.address ⟨"d@e.f", none⟩]
  replyTo := []
  subject := .text "s"
  body := .nothing
  headers := []
  sentDate := .nothing
  session := some guardedSession

def guardedText : String :=
  "From: a@b.c\nTo: x@y.z\nSubject: s\nMIME-Version: 1.0\n" ++
    "Content-Type: text/plain; charset=\"utf-8\"\nContent-Transfer-Encoding: base64\n\n"

def guardedReading : Reading :=
  ⟨"a@b.c", ["x@y.z", "d@e.f"], Text.ascii guardedText.toList⟩

/-- One minute and five seconds. -/
def guardedPatience : Patience :=
  ⟨⟨false, .finite 8444249301319680 (-47)⟩, ⟨false, .finite 5629499534213120 (-50)⟩⟩

theorem guarded_settings_reach_relay :
    let c := guardedSettings
    let o := (send .obliging (some guardedMessage)).run .initial
    (c.hostName.truth = true ∧
      ((Session.resolve Session.standardLinks none c 0).run ()).result = .ok guardedSession ∧
      guardedMessage.session = some guardedSession ∧ IsPatience c guardedPatience) ∧
    IsReading c guardedMessage guardedReading ∧
      o.state.calls = plan .obliging c guardedPatience guardedReading := by
  intro c o
  have hopen : ((Session.resolve Session.standardLinks none c 0).run ()).result =
      .ok guardedSession := rfl
  have hwait : IsPatience guardedSettings guardedPatience := ⟨by rfl, by rfl⟩
  have hreading : IsReading guardedSettings guardedMessage guardedReading :=
    ⟨nofun, rfl, by simp [guardedReading], by decide +kernel⟩
  refine ⟨⟨rfl, hopen, rfl, hwait⟩, hreading, ?_⟩
  have hreach := settings_reach_relay .obliging (m := guardedMessage) rfl hopen rfl hwait
  obtain ⟨-, ⟨-, hcalls⟩ | ⟨e, he, -⟩⟩ := hreach.1 guardedReading hreading
  · exact hcalls
  · have hok : o.result.isOk = true := by decide +kernel
    rw [show o.result = _ from he] at hok
    cases hok

end Mailroom.Relay
