import Mailroom.Proofs.Number.Decimal
import Mailroom.Proofs.Session.Flags
import Mailroom.Relay.Dialogue

/-!
What the relay reads off a session that is opened from settings: the host, the port, the flags, the
timeouts and the account of the settings, each as it was set.
-/

namespace Mailroom.Session

open Mailroom.Relay

variable {s : Session} {c : Settings} {p : Property} {v : Value}

theorem checkInt_of_long {n : Int} (h : Number.isShort n = false) (setting : Setting) (least : Int)
    (greatest : Option Int) :
    checkInt setting (.int n) least greatest = .error (.value .tooLongToWrite) := by
  simp [checkInt, Value.decimal, h, bind, Except.bind]

theorem checkInt_int {n : Int} (h : Number.isShort n = true) (setting : Setting) (least : Int)
    (greatest : Option Int) :
    (least ≤ n ∧ ∀ m ∈ greatest, n ≤ m) ∧
        checkInt setting (.int n) least greatest = .ok (toString n) ∨
      ¬(least ≤ n ∧ ∀ m ∈ greatest, n ≤ m) ∧
        checkInt setting (.int n) least greatest =
          .error (.session (.outOfRange setting.name n)) := by
  have hbounds : (n < least || greatest.any (· < n)) = true ↔
      ¬(least ≤ n ∧ ∀ m ∈ greatest, n ≤ m) := by
    cases greatest with
    | none => simp
    | some m => simp; omega
  have hcheck : checkInt setting (.int n) least greatest =
      if n < least || greatest.any (· < n) then .error (.session (.outOfRange setting.name n))
      else .ok (toString n) := by
    simp only [checkInt, Value.decimal, h, if_true]
    rfl
  rw [hcheck]
  by_cases hout : (n < least || greatest.any (· < n)) = true
  · exact .inr ⟨hbounds.mp hout, if_pos hout⟩
  · exact .inl ⟨not_not.mp (mt hbounds.mpr hout), if_neg hout⟩

theorem checkInt_eq_ok {setting : Setting} {least : Int} {greatest : Option Int} {t : String}
    (h : checkInt setting v least greatest = .ok t) :
    ∃ n, v = .int n ∧ least ≤ n ∧ (∀ m ∈ greatest, n ≤ m) ∧ t = toString n := by
  cases v with
  | int n =>
      cases hshort : Number.isShort n with
      | false =>
          rw [checkInt_of_long hshort] at h
          cases h
      | true =>
          rcases checkInt_int hshort setting least greatest with ⟨hbounds, hcheck⟩ | ⟨-, hcheck⟩
          · rw [hcheck] at h
            exact ⟨n, rfl, hbounds.1, hbounds.2, (Except.ok.inj h).symm⟩
          · rw [hcheck] at h
            cases h
  | _ =>
      obtain ⟨shown, -, h⟩ := exists_of_bind_eq_ok h
      cases h

theorem eq_of_portValue {n : Int} (h : portValue c = .int n) :
    n = match c.smtpPort with
      | .int n => n
      | _ => if c.sslOnConnect.truth then 465 else 25 := by
  unfold portValue at h
  cases hport : c.smtpPort with
  | nothing =>
      rw [hport] at h
      exact (Value.int.inj h).symm
  | int m =>
      rw [hport] at h
      exact (Value.int.inj h).symm
  | _ =>
      rw [hport] at h
      cases h

/-- The milliseconds of a timeout, if there is one. -/
def millis : Value → Option Int
  | .int n => some n
  | _ => none

theorem checkTimeout_eq_ok {setting : Setting} {t : Option String}
    (h : checkTimeout setting v = .ok t) : (millis v = none ∧ t = none) ∨
      ∃ n : Nat, millis v = some (n : Int) ∧ t = some (toString (n : Int)) := by
  unfold checkTimeout at h
  split at h
  · exact .inl ⟨rfl, (Except.ok.inj h).symm⟩
  · obtain ⟨text, hcheck, rfl⟩ := exists_of_map_eq_ok h
    obtain ⟨n, rfl, hleast, -, rfl⟩ := checkInt_eq_ok hcheck
    obtain ⟨n, rfl⟩ := Int.eq_ofNat_of_zero_le hleast
    exact .inr ⟨n, rfl, rfl⟩

theorem number?_of_text {n : Nat} (hget : s.get p = .text (toString (n : Int)))
    (hlength : (Nat.toDigits 10 n).length ≤ Number.digitLimit) :
    s.number? p = .ok (some (n : Int)) := by
  rw [number?, hget]
  simp only [Value.toInt_toString hlength]
  rfl

theorem exists_of_seconds_eq_ok {wait : Option Int} {x : Number.Double}
    (h : seconds wait = .ok x) :
    ∃ size, Number.Double.ofInt? (wait.getD defaultTimeout) = some size := by
  unfold seconds at h
  split at h
  · exact ⟨_, ‹_›⟩
  · cases h

theorem number?_of_timeout {setting : Setting} {t : Option String} {x : Number.Double}
    (hcheck : checkTimeout setting v = .ok t) (hget : s.get p = .ofOption t)
    (hseconds : seconds (millis v) = .ok x) : s.number? p = .ok (millis v) := by
  rcases checkTimeout_eq_ok hcheck with ⟨hv, rfl⟩ | ⟨n, hv, rfl⟩
  · rw [hv, number?, hget]
    rfl
  · rw [hv] at hseconds ⊢
    obtain ⟨size, hsize⟩ := exists_of_seconds_eq_ok hseconds
    exact number?_of_text hget (Number.length_toDigits_of_ofInt? hsize)

/-- The session says what the settings say, as far as the relay reads it. -/
structure Speaks (c : Settings) (s : Session) : Prop where
  host : s.host = c.hostName
  port : ∃ n, portValue c = .int n ∧ s.port? = .ok (some n)
  debug : s.flag .debug = c.debug.truth
  ssl : s.flag .ssl = c.sslOnConnect.truth
  startTls : s.flag .startTls = c.startTlsEnabled.truth
  startTlsRequired : s.flag .startTlsRequired = c.startTlsRequired.truth
  checkIdentity : c.sslOnConnect.truth = true ∨ c.startTlsEnabled.truth = true →
    s.flag .checkIdentity = c.sslCheckServerIdentity.truth
  bounceAddress : s.get .bounceAddress =
    if c.bounceAddress.truth then c.bounceAddress else .nothing
  timeout : ∀ x, seconds (millis c.socketTimeout) = .ok x →
    s.number? .timeout = .ok (millis c.socketTimeout)
  connectionTimeout : ∀ x, seconds (millis c.socketConnectionTimeout) = .ok x →
    s.number? .connectionTimeout = .ok (millis c.socketConnectionTimeout)
  account : s.account = if c.username.truth then .tuple [c.username, c.password] else .nothing

theorem speaks_of_resolve {serial : Nat} (hhost : c.hostName.truth = true)
    (h : ((resolve standardLinks none c serial).run ()).result = .ok s) : Speaks c s := by
  obtain ⟨opened, hopened, rfl⟩ := exists_of_resolve hhost h
  obtain ⟨port, timeout, connectionTimeout, hport, htimeout, hconnection, rfl⟩ :=
    fromSettings_eq_ok hopened
  obtain ⟨hrequired, hssl, hstartTls⟩ := flags_of_fromSettings (.opened serial) hopened
  have hget := get_propertiesOf (.opened serial) c port timeout connectionTimeout (accountOf c)
  refine ⟨hget .host, ?_, ?_, hssl, hstartTls, hrequired, ?_, hget .bounceAddress, ?_, ?_, rfl⟩
  · obtain ⟨n, hvalue, hleast, hgreatest, rfl⟩ := checkInt_eq_ok hport
    obtain ⟨n, rfl⟩ := Int.eq_ofNat_of_zero_le (by omega : 0 ≤ n)
    refine ⟨n, hvalue, number?_of_text (hget .port) ?_⟩
    have hbound : (n : Int) ≤ 65535 := hgreatest greatestPort rfl
    have hdigits : n < 10 ^ 5 := by omega
    have hlength := (Nat.length_toDigits_le_iff (by decide) (by decide)).mpr hdigits
    exact Nat.le_trans hlength (by decide)
  · simp [flag, hget, written, isUp_flagText]
  · intro hsecured
    have hcheck : (c.sslOnConnect.truth || c.startTlsEnabled.truth) = true := by
      simpa using hsecured
    rw [flag, hget, written, hcheck, Bool.true_and]
    cases c.sslCheckServerIdentity.truth <;> rfl
  · exact fun x hx => number?_of_timeout htimeout (hget .timeout) hx
  · exact fun x hx => number?_of_timeout hconnection (hget .connectionTimeout) hx

end Mailroom.Session
