import Mailroom.Proofs.Number.Overflow
import Mailroom.Proofs.Relay.Encryption
import Mailroom.Proofs.Relay.Outline
import Mailroom.Proofs.Session.Resolution

/-!
Whether the timeouts that settings may have can be used. A session is opened with any that can be
written, but the relay converts them to seconds by way of a double: the connection timeout before it
calls anybody, the other one when the connection is already there.
-/

namespace Mailroom.Relay

open Mailroom.Session (millis checkTimeout checkTimeout_eq_ok)
open Mailroom.Number (digitLimit)
open Mailroom.Number.Magnitude (firstOverflow)

variable {server : Server} {c : Settings} {s : Session} {v : Value} {p : Property} {n : Nat}

/-- A timeout that no double comes near. -/
def IsOverlong (v : Value) (n : Nat) : Prop := millis v = some (n : Int) ∧ firstOverflow ≤ n

/-- Using such a timeout fails in its conversion, or before that if it has too many digits to be
read. -/
def overlongFault (n : Nat) : Fault :=
  if (Nat.toDigits 10 n).length ≤ digitLimit then .overflow .float
  else .value (.tooManyDigits (Nat.toDigits 10 n).length)

theorem overlongFault_ne_sendFailed (n : Nat) (name : String) :
    overlongFault n ≠ .sendFailed name := by
  unfold overlongFault
  split <;> nofun

/-! ### Reading a timeout -/

theorem seconds_of_overflow (h : firstOverflow ≤ n) :
    seconds (some (n : Int)) = .error (.overflow .float) := by
  have hnone : Number.Double.ofInt? ((some (n : Int)).getD defaultTimeout) = none :=
    Number.Double.ofInt?_eq_none_iff.mpr h
  unfold seconds
  rw [hnone]

theorem seconds_of_lt (h : n < firstOverflow) : ∃ x, seconds (some (n : Int)) = .ok x := by
  cases hsize : Number.Double.ofInt? ((some (n : Int)).getD defaultTimeout) with
  | none => exact absurd (Number.Double.ofInt?_eq_none_iff.mp hsize) (Nat.not_le.mpr h)
  | some size =>
      refine ⟨size.divideBy 1000, ?_⟩
      unfold seconds
      rw [hsize]

/-- How long to wait, as the relay reads it off the session. -/
def waitOf (s : Session) (p : Property) : Except Fault Number.Double := s.number? p >>= seconds

theorem number?_of_long (hget : s.get p = .text (toString (n : Int)))
    (hlong : digitLimit < (Nat.toDigits 10 n).length) :
    s.number? p = .error (.value (.tooManyDigits (Nat.toDigits 10 n).length)) := by
  rw [Session.number?, hget]
  simp only [Value.toInt_of_long hlong]
  rfl

theorem waitOf_of_overlong (hget : s.get p = .text (toString (n : Int)))
    (hoverflow : firstOverflow ≤ n) : waitOf s p = .error (overlongFault n) := by
  unfold waitOf overlongFault
  split
  · rename_i hshort
    rw [Session.number?_of_text hget hshort]
    exact seconds_of_overflow hoverflow
  · rename_i hlong
    rw [number?_of_long hget (Nat.not_le.mp hlong)]
    rfl

theorem waitOf_of_usable (hget : s.get p = .text (toString (n : Int))) (h : n < firstOverflow) :
    ∃ x, waitOf s p = .ok x := by
  obtain ⟨x, hx⟩ := seconds_of_lt h
  obtain ⟨size, hsize⟩ := Session.exists_of_seconds_eq_ok hx
  refine ⟨x, ?_⟩
  rw [waitOf, Session.number?_of_text hget (Number.length_toDigits_of_ofInt? hsize)]
  exact hx

/-- What depends on a timeout comes about just if that is not overlong. -/
inductive Awaits {α : Type} (v : Value) : Except Fault α → Prop
  | overlong {n : Nat} (h : IsOverlong v n) : Awaits v (.error (overlongFault n))
  | usable (h : ∀ n, ¬IsOverlong v n) (a : α) : Awaits v (.ok a)

theorem Awaits.map {α β : Type} {x : Except Fault α} (h : Awaits v x) (f : α → β) :
    Awaits v (x.map f) := by
  cases h with
  | overlong h => exact .overlong h
  | usable h a => exact .usable h (f a)

theorem awaits_waitOf {setting : Setting} {t : Option String}
    (hcheck : checkTimeout setting v = .ok t) (hget : s.get p = .ofOption t) :
    Awaits v (waitOf s p) := by
  rcases checkTimeout_eq_ok hcheck with ⟨hunset, rfl⟩ | ⟨n, hset, rfl⟩
  · have hwait : ∃ x, waitOf s p = .ok x := by
      rw [waitOf, Session.number?, hget]
      exact ⟨_, rfl⟩
    obtain ⟨x, hx⟩ := hwait
    rw [hx]
    exact .usable (fun n h => by cases hunset.symm.trans h.1) x
  · by_cases hoverflow : firstOverflow ≤ n
    · rw [waitOf_of_overlong hget hoverflow]
      exact .overlong ⟨hset, hoverflow⟩
    · obtain ⟨x, hx⟩ := waitOf_of_usable hget (Nat.not_le.mp hoverflow)
      rw [hx]
      refine .usable (fun m h => ?_) x
      obtain rfl : n = m := by simpa using hset.symm.trans h.1
      exact hoverflow h.2

/-! ### Opening a connection with the timeouts of settings -/

theorem patience_eq (s : Session) : patience s = (waitOf s .timeout).map .setTimeout := by
  unfold patience waitOf
  cases s.number? .timeout <;> rfl

theorem connection_of_host {port : Option Int} (hhost : s.host.truth = true)
    (hport : s.port? = .ok port) :
    connection s = (waitOf s .connectionTimeout).map fun timeout =>
      .connect (s.flag .ssl) s.host (port.getD Session.smtpPort) timeout
        (if s.flag .ssl then some (tlsContext s) else none) := by
  unfold connection waitOf
  rw [hhost, hport]
  cases s.number? .connectionTimeout <;> rfl

/-- Both steps of the opening that wait are up to the timeouts of the settings. -/
theorem awaits_of_resolve {serial : Nat} (hhost : c.hostName.truth = true)
    (hopen : ((Session.resolve Session.standardLinks none c serial).run ()).result = .ok s) :
    Awaits c.socketConnectionTimeout (connection s) ∧ Awaits c.socketTimeout (patience s) := by
  have hspeaks := Session.speaks_of_resolve hhost hopen
  obtain ⟨port, -, hport⟩ := hspeaks.port
  obtain ⟨opened, hopened, rfl⟩ := Session.exists_of_resolve hhost hopen
  obtain ⟨text, timeout, connectionTimeout, -, htimeout, hconnection, rfl⟩ :=
    Session.fromSettings_eq_ok hopened
  have hget := Session.get_propertiesOf (.opened serial) c text timeout connectionTimeout
    (Session.accountOf c)
  constructor
  · rw [connection_of_host (hspeaks.host ▸ hhost) hport]
    exact (awaits_waitOf hconnection (hget .connectionTimeout)).map _
  · rw [patience_eq]
    exact (awaits_waitOf htimeout (hget .timeout)).map _

/-- The last call failed, and that is the fault. -/
def FailedCall (server : Server) (calls : List Call) (e : Fault) : Prop :=
  ∃ before call, calls = before ++ [call] ∧ server.fails before.length call.name = true ∧
    e = .sendFailed call.name

theorem not_failedCall_overlongFault (server : Server) (calls : List Call) (n : Nat) :
    ¬FailedCall server calls (overlongFault n) := by
  rintro ⟨before, call, -, -, hfault⟩
  exact overlongFault_ne_sendFailed n call.name hfault

theorem failedCall_of_play (server : Server) (before calls : List Call) :
    let heard := server.play before.length (calls.map .ok)
    heard.2 = .ok () ∨ ∃ e, heard.2 = .error e ∧ FailedCall server (before ++ heard.1) e := by
  have hfollows : Follows id (FailedCall server) before (calls.map .ok) (calls.map id) :=
    follows_calls calls
  rcases hfollows.ends fun said call hfails => ⟨said, call, rfl, hfails, rfl⟩ with ⟨hok, -⟩ | herror
  · exact .inl hok
  · exact .inr herror

/-- How the opening of a connection ends, behind the calls that were made before. -/
inductive Opens (server : Server) (c : Settings) (before : List Call) :
    List Call → Except Fault Unit → Prop
  | unconnected {n : Nat} (hwait : IsOverlong c.socketConnectionTimeout n) :
      Opens server c before before (.error (overlongFault n))
  | impatient {call : Call} {n : Nat} (hwait : ∀ k, ¬IsOverlong c.socketConnectionTimeout k)
      (hname : call.name = "connect") (hreturns : server.fails before.length "connect" = false)
      (hsocket : server.hasSocket = true) (hanswer : IsOverlong c.socketTimeout n) :
      Opens server c before (before ++ [call]) (.error (overlongFault n))
  | settled {calls : List Call} {result : Except Fault Unit}
      (hwait : ∀ k, ¬IsOverlong c.socketConnectionTimeout k)
      (hanswer : server.fails before.length "connect" = false → server.hasSocket = true →
        ∀ n, ¬IsOverlong c.socketTimeout n)
      (hresult : result = .ok () ∨ ∃ e, result = .error e ∧ FailedCall server calls e) :
      Opens server c before calls result

theorem IsOverlong.unique {m n : Nat} (hm : IsOverlong v m) (hn : IsOverlong v n) : m = n := by
  simpa using hm.1.symm.trans hn.1

namespace Opens

variable {before calls : List Call} {result : Except Fault Unit}
  (h : Opens server c before calls result)
include h

theorem refused_iff : (∃ e, result = .error e ∧ ¬FailedCall server calls e) ↔
    (∃ n, IsOverlong c.socketConnectionTimeout n) ∨
      (server.fails before.length "connect" = false ∧ server.hasSocket = true) ∧
        ∃ n, IsOverlong c.socketTimeout n := by
  cases h with
  | @unconnected n hwait =>
      exact iff_of_true ⟨_, rfl, not_failedCall_overlongFault server _ n⟩ (.inl ⟨n, hwait⟩)
  | @impatient call n hwait hname hreturns hsocket hanswer =>
      exact iff_of_true ⟨_, rfl, not_failedCall_overlongFault server _ n⟩
        (.inr ⟨⟨hreturns, hsocket⟩, n, hanswer⟩)
  | settled hwait hanswer hresult =>
      refine iff_of_false ?_ ?_
      · rintro ⟨e, he, hfault⟩
        rcases hresult with hok | ⟨other, hother, hfailed⟩
        · cases hok.symm.trans he
        · obtain rfl := Except.error.inj (hother.symm.trans he)
          exact hfault hfailed
      · rintro (⟨n, hn⟩ | ⟨⟨hreturns, hsocket⟩, n, hn⟩)
        · exact hwait n hn
        · exact hanswer hreturns hsocket n hn

theorem of_overlong_connection {n : Nat} (hn : IsOverlong c.socketConnectionTimeout n) :
    calls = before ∧ result = .error (overlongFault n) := by
  cases h with
  | unconnected hwait => exact ⟨rfl, by rw [hwait.unique hn]⟩
  | impatient hwait => exact absurd hn (hwait n)
  | settled hwait => exact absurd hn (hwait n)

theorem of_overlong_answer {n : Nat} (hwait : ∀ k, ¬IsOverlong c.socketConnectionTimeout k)
    (hreturns : server.fails before.length "connect" = false) (hsocket : server.hasSocket = true)
    (hn : IsOverlong c.socketTimeout n) :
    result = .error (overlongFault n) ∧
      ∃ call, call.name = "connect" ∧ calls = before ++ [call] := by
  cases h with
  | unconnected h => exact absurd h (hwait _)
  | impatient _ hname _ _ hanswer => exact ⟨by rw [hanswer.unique hn], _, hname, rfl⟩
  | settled _ hanswer => exact absurd hn (hanswer hreturns hsocket n)

end Opens

theorem opens_opening (server : Server) (before : List Call)
    (hconnection : Awaits c.socketConnectionTimeout (connection s))
    (hpatience : Awaits c.socketTimeout (patience s)) :
    let heard := server.play before.length (opening server s)
    Opens server c before (before ++ heard.1) heard.2 := by
  unfold opening
  generalize hcall : connection s = turn at hconnection
  cases hconnection with
  | overlong hwait =>
      simpa using Opens.unconnected hwait
  | usable hwait call =>
      obtain ⟨port, timeout, hshape⟩ := connection_eq_ok hcall
      have hname : call.name = "connect" := by rw [hshape]; rfl
      cases hsocket : server.hasSocket with
      | false =>
          refine .settled hwait (fun _ h => by cases h.symm.trans hsocket) ?_
          exact failedCall_of_play server before [call, .setDebugLevel (s.flag .debug)]
      | true =>
          generalize patience s = pause at hpatience
          cases hpatience with
          | usable hanswer pause =>
              refine .settled hwait (fun _ _ => hanswer) ?_
              exact failedCall_of_play server before [call, pause, .setDebugLevel (s.flag .debug)]
          | overlong hanswer =>
              -- The timeout is looked at only if the connection is there.
              cases hfails : server.fails before.length call.name with
              | true =>
                  refine .settled hwait (fun h => ?_) (.inr ?_)
                  · rw [hname, h] at hfails
                    cases hfails
                  · rw [List.singleton_append, Server.play_of_fails hfails]
                    exact ⟨_, rfl, before, call, rfl, hfails, rfl⟩
              | false =>
                  rw [List.singleton_append, Server.play_of_returns hfails, if_pos rfl,
                    List.singleton_append, Server.play_error]
                  exact .impatient hwait hname (hname ▸ hfails) hsocket hanswer

theorem opens_connect (server : Server) (d : Dialogue) {serial : Nat}
    (hhost : c.hostName.truth = true)
    (hopen : ((Session.resolve Session.standardLinks none c serial).run ()).result = .ok s) :
    let o := (connect server s).run d
    Opens server c d.calls o.state.calls o.result := by
  intro o
  obtain ⟨hconnection, hpatience⟩ := awaits_of_resolve hhost hopen
  obtain ⟨hcalls, hresult⟩ := plays_connect server s d
  have hunit (result : Except Fault Unit) : result.map (fun _ => ()) = result := by
    cases result <;> rfl
  rw [show o.state.calls = _ from hcalls, show o.result = _ from hresult, hunit]
  exact opens_opening server d.calls hconnection hpatience

theorem connect_of_noHost (server : Server) (d : Dialogue) {serial : Nat}
    (hhost : c.hostName.truth = false)
    (hopen : ((Session.resolve Session.standardLinks none c serial).run ()).result = .ok s) :
    let o := (connect server s).run d
    o.state.calls = d.calls ∧ o.result = .error (.relay .noHost) := by
  obtain rfl := Except.ok.inj ((Session.resolve_of_noHost serial hhost).symm.trans hopen)
  exact ⟨rfl, rfl⟩

/-- With a session that settings have opened, a connection is refused by something else than a
failing call just if no host is named or a timeout that is looked at is overlong. The connection
timeout is looked at before anything is said; the other one only when the connection is there and
has a socket, and then the connection is left behind. -/
theorem connect_refused_iff (server : Server) (d : Dialogue) {serial : Nat}
    (hopen : ((Session.resolve Session.standardLinks none c serial).run ()).result = .ok s) :
    let o := (connect server s).run d
    let connected := server.fails d.calls.length "connect" = false ∧ server.hasSocket = true
    ((∃ e, o.result = .error e ∧ ¬FailedCall server o.state.calls e) ↔
      c.hostName.truth = false ∨ (∃ n, IsOverlong c.socketConnectionTimeout n) ∨
        connected ∧ ∃ n, IsOverlong c.socketTimeout n) ∧
    (c.hostName.truth = false → o.state.calls = d.calls ∧ o.result = .error (.relay .noHost)) ∧
    (c.hostName.truth = true →
      (∀ n, IsOverlong c.socketConnectionTimeout n →
        o.state.calls = d.calls ∧ o.result = .error (overlongFault n)) ∧
      ((∀ k, ¬IsOverlong c.socketConnectionTimeout k) → connected →
        ∀ n, IsOverlong c.socketTimeout n → o.result = .error (overlongFault n) ∧
          ∃ call, call.name = "connect" ∧ o.state.calls = d.calls ++ [call])) := by
  intro o connected
  cases hhost : c.hostName.truth with
  | false =>
      obtain ⟨hcalls, hresult⟩ := connect_of_noHost server d hhost hopen
      refine ⟨iff_of_true ⟨_, hresult, ?_⟩ (.inl rfl), fun _ => ⟨hcalls, hresult⟩, nofun⟩
      rintro ⟨before, call, -, -, hfault⟩
      cases hfault
  | true =>
      have hopens := opens_connect server d hhost hopen
      refine ⟨?_, nofun, fun _ => ⟨fun n hn => hopens.of_overlong_connection hn, ?_⟩⟩
      · rw [hopens.refused_iff, or_iff_right Bool.false_ne_true.symm]
      · exact fun hwait hconnected n hn =>
          hopens.of_overlong_answer hwait hconnected.1 hconnected.2 hn

/-- Settings that name a host and how long to wait for its answers. -/
def timedSettings (n : Nat) : Settings :=
  { Settings.initial with hostName := .text "h", socketTimeout := .int n }

theorem readable_timedSettings (hshort : (Nat.toDigits 10 n).length ≤ digitLimit) :
    (timedSettings n).Readable where
  shown := List.forall_mem_cons.mpr ⟨rfl, List.forall_mem_cons.mpr
    ⟨(Value.isOk_decimal n).trans (decide_eq_true hshort), List.forall_mem_singleton.mpr rfl⟩⟩
  short := by
    simp [Setting.numbers, timedSettings, Settings.initial, Settings.get, hshort]

theorem admissible_timedSettings (n : Nat) : (timedSettings n).Admissible := by
  simp [Settings.Admissible, Setting.numbers, timedSettings, Settings.initial, Settings.get,
    Setting.admits_int, Setting.admits_nothing, Setting.InRange]

/-- A timeout is admitted whatever its size, if it can be written. -/
theorem exists_timedSession (hshort : (Nat.toDigits 10 n).length ≤ digitLimit) :
    ∃ s, ((Session.resolve Session.standardLinks none (timedSettings n) 0).run ()).result =
      .ok s := by
  rw [Session.resolve_of_host 0 rfl]
  rcases Session.fromSettings_ok_or_refused (readable_timedSettings hshort) with
    ⟨-, opened, hopen⟩ | ⟨cause, hrefused, -⟩
  · rw [hopen]
    exact ⟨_, rfl⟩
  · exact absurd (admissible_timedSettings n) hrefused.not_admissible

/-- Beyond all doubles in milliseconds, though not in seconds. -/
def distantTimeout : Nat := 10 ^ 309

/-- Takes everything, and its connections have a socket. -/
def Server.socketed : Server := { Server.obliging with hasSocket := true }

theorem isOverlong_distantTimeout :
    IsOverlong (timedSettings distantTimeout).socketTimeout distantTimeout :=
  ⟨rfl, by decide +kernel⟩

theorem length_distantTimeout : (Nat.toDigits 10 distantTimeout).length ≤ digitLimit :=
  (Nat.length_toDigits_le_iff (by decide) (by decide)).mpr (by decide +kernel)

theorem overlongFault_distantTimeout : overlongFault distantTimeout = .overflow .float := by
  rw [overlongFault, if_pos length_distantTimeout]

theorem distant_timeout_refused : ∃ s,
    ((Session.resolve Session.standardLinks none (timedSettings distantTimeout) 0).run ()).result =
        .ok s ∧
      ((connect .socketed s).run .initial).result = .error (.overflow .float) := by
  obtain ⟨s, hopen⟩ := exists_timedSession length_distantTimeout
  obtain ⟨-, -, hrefused⟩ := connect_refused_iff .socketed .initial hopen
  obtain ⟨-, hanswer⟩ := hrefused rfl
  have hwait (k : Nat) :
      ¬IsOverlong (timedSettings distantTimeout).socketConnectionTimeout k := nofun
  have hresult := (hanswer hwait ⟨rfl, rfl⟩ distantTimeout isOverlong_distantTimeout).1
  rw [overlongFault_distantTimeout] at hresult
  exact ⟨s, hopen, hresult⟩

/-- Not every timeout that settings may have can be used. -/
theorem admitted_timeout_overflows :
    ¬∀ (server : Server) (d : Dialogue) (c : Settings) (s : Session) (serial : Nat),
      c.hostName.truth = true →
      ((Session.resolve Session.standardLinks none c serial).run ()).result = .ok s →
      ∀ e, ((connect server s).run d).result = .error e →
        FailedCall server ((connect server s).run d).state.calls e := by
  intro h
  obtain ⟨s, hopen⟩ := exists_timedSession length_distantTimeout
  have hopens := opens_connect .socketed .initial rfl hopen
  have hrefused := (hopens.of_overlong_answer nofun rfl rfl isOverlong_distantTimeout).1
  exact not_failedCall_overlongFault _ _ _
    (h .socketed .initial (timedSettings distantTimeout) s 0 rfl hopen _ hrefused)

end Mailroom.Relay
