import Mailroom.Proofs.Session.Opened

/-!
Which settings open a session. A session given beforehand is taken as it is, and settings that name
no host open one without any property. Otherwise the port and the two timeouts decide: each must be
left out or be a whole number of its range, and the first that is neither is named in the fault. The
session that is opened says what the settings say.
-/

namespace Mailroom

namespace Setting

/-- The settings that are whole numbers, in the order in which they are looked at. -/
def numbers : List Setting := [.smtpPort, .socketTimeout, .socketConnectionTimeout]

def InRange : Setting → Int → Prop
  | .smtpPort, n => 1 ≤ n ∧ n ≤ 65535
  | _, n => 0 ≤ n

/-- What a numeric setting may be: nothing, or a whole number of its range. A truth value is no
number. -/
def Admits (setting : Setting) : Value → Prop
  | .nothing => True
  | .int n => setting.InRange n
  | _ => False

theorem admits_nothing (setting : Setting) : setting.Admits .nothing := trivial

theorem admits_int {setting : Setting} {n : Int} : setting.Admits (.int n) ↔ setting.InRange n :=
  Iff.rfl

/-- The fault for a value that a numeric setting may not have. -/
inductive Refuses (setting : Setting) : Value → SessionFault → Prop
  | notInteger {v : Value} {shown : String} (hset : v ≠ .nothing) (hkind : ∀ n, v ≠ .int n)
      (hshown : v.shown = .ok shown) : Refuses setting v (.notInteger setting.name shown)
  | outOfRange {n : Int} (hrange : ¬setting.InRange n) :
      Refuses setting (.int n) (.outOfRange setting.name n)

theorem Refuses.not_admits {setting : Setting} {v : Value} {cause : SessionFault}
    (h : setting.Refuses v cause) : ¬setting.Admits v := by
  cases h with
  | outOfRange hrange => exact hrange
  | notInteger hset hkind hshown =>
      cases v with
      | nothing => exact absurd rfl hset
      | int n => exact absurd rfl (hkind n)
      | _ => exact id

end Setting

namespace Settings

variable {c : Settings}

/-- All numeric settings are admitted. -/
def Admissible (c : Settings) : Prop := ∀ setting ∈ Setting.numbers, setting.Admits (c.get setting)

/-- The fault for the first numeric setting that is not admitted. -/
def FirstRefused (c : Settings) (cause : SessionFault) : Prop :=
  ∃ before setting, before ++ [setting] <+: Setting.numbers ∧
    (∀ earlier ∈ before, earlier.Admits (c.get earlier)) ∧ setting.Refuses (c.get setting) cause

theorem FirstRefused.not_admissible {cause : SessionFault} (h : c.FirstRefused cause) :
    ¬c.Admissible := by
  obtain ⟨before, setting, hbegins, -, hrefuses⟩ := h
  exact fun hall => hrefuses.not_admits (hall setting (hbegins.mem (by simp)))

/-- The numeric settings can be shown, and have no more digits than a text of a number may have. -/
structure Readable (c : Settings) : Prop where
  shown : ∀ setting ∈ Setting.numbers, (c.get setting).shown.isOk = true
  short : ∀ setting ∈ Setting.numbers, ∀ n, c.get setting = .int n →
    (Nat.toDigits 10 n.natAbs).length ≤ Number.digitLimit

end Settings

namespace Session

open Setting

variable {s : Session} {c : Settings} {v : Value} {setting : Setting}

/-- A check of a numeric setting passes what the setting admits and refuses all else. -/
inductive Judges {α : Type} (setting : Setting) (v : Value) : Except Fault α → Prop
  | passed (hadmits : setting.Admits v) (a : α) : Judges setting v (.ok a)
  | refused {cause : SessionFault} (hrefuses : setting.Refuses v cause) :
      Judges setting v (.error (.session cause))

theorem judges_checkInt {least : Int} {greatest : Option Int} (hset : v ≠ .nothing)
    (hrange : ∀ n, setting.InRange n ↔ least ≤ n ∧ ∀ m ∈ greatest, n ≤ m)
    (hshown : v.shown.isOk = true) : Judges setting v (checkInt setting v least greatest) := by
  by_cases hkind : ∃ n, v = .int n
  · obtain ⟨n, rfl⟩ := hkind
    have hshort : Number.isShort n = true := (Value.isOk_decimal n).symm.trans hshown
    rcases checkInt_int hshort setting least greatest with ⟨hin, hcheck⟩ | ⟨hout, hcheck⟩
    · rw [hcheck]
      exact .passed (admits_int.mpr ((hrange n).mpr hin)) _
    · rw [hcheck]
      exact .refused (.outOfRange (mt (hrange n).mp hout))
  · have hother : ∀ n, v ≠ .int n := fun n hn => hkind ⟨n, hn⟩
    obtain ⟨shown, htext⟩ := exists_of_isOk hshown
    have hcheck : checkInt setting v least greatest =
        .error (.session (.notInteger setting.name shown)) := by
      unfold checkInt
      split
      · exact absurd rfl (hother _)
      · rw [htext]
        rfl
    rw [hcheck]
    exact .refused (.notInteger hset hother htext)

/-- The usual port is in range, so that a port which is not set passes. -/
theorem judges_checkPort (hshown : c.smtpPort.shown.isOk = true) :
    Judges .smtpPort c.smtpPort
      (checkInt .smtpPort (portValue c) 1 (some greatestPort)) := by
  by_cases hset : c.smtpPort = .nothing
  · rw [portValue, hset]
    cases c.sslOnConnect.truth <;> exact .passed (admits_nothing _) _
  · have hport : portValue c = c.smtpPort := by
      unfold portValue
      split
      · exact absurd ‹_› hset
      · rfl
    rw [hport]
    exact judges_checkInt hset (by simp [InRange, greatestPort]) hshown

theorem judges_checkTimeout (hrange : ∀ n, setting.InRange n ↔ 0 ≤ n)
    (hshown : v.shown.isOk = true) : Judges setting v (checkTimeout setting v) := by
  by_cases hset : v = .nothing
  · rw [hset]
    exact .passed (admits_nothing _) _
  · have hcheck : checkTimeout setting v = (checkInt setting v 0 none).map some := by
      unfold checkTimeout
      split
      · exact absurd rfl hset
      · rfl
    have hjudges : Judges setting v (checkInt setting v 0 none) :=
      judges_checkInt hset (by simpa using hrange) hshown
    rw [hcheck]
    generalize checkInt setting v 0 none = check at hjudges
    cases hjudges with
    | passed hadmits t => exact .passed hadmits _
    | refused hrefuses => exact .refused hrefuses

/-- Settings that are all admitted stand for a session; else the first that is not is the fault. -/
theorem fromSettings_ok_or_refused (h : c.Readable) :
    c.Admissible ∧ (∃ opened, fromSettings c = .ok opened) ∨
      ∃ cause, c.FirstRefused cause ∧ fromSettings c = .error (.session cause) := by
  have hport := judges_checkPort (h.shown .smtpPort (by simp [numbers]))
  have htimeout : Judges .socketTimeout c.socketTimeout _ :=
    judges_checkTimeout (fun n => Iff.rfl) (h.shown .socketTimeout (by simp [numbers]))
  have hconnection : Judges .socketConnectionTimeout c.socketConnectionTimeout _ :=
    judges_checkTimeout (fun n => Iff.rfl) (h.shown .socketConnectionTimeout (by simp [numbers]))
  unfold fromSettings
  generalize checkInt .smtpPort (portValue c) 1 (some greatestPort) = port at hport ⊢
  generalize checkTimeout .socketTimeout c.socketTimeout = timeout at htimeout ⊢
  generalize checkTimeout .socketConnectionTimeout c.socketConnectionTimeout = connection
    at hconnection ⊢
  -- Each check is made only if the ones before it have passed.
  cases hport with
  | refused hrefuses =>
      exact .inr ⟨_, ⟨[], .smtpPort, by simp [numbers], by simp, hrefuses⟩, rfl⟩
  | passed hport port =>
      cases htimeout with
      | refused hrefuses =>
          exact .inr ⟨_, ⟨[.smtpPort], .socketTimeout, by simp [numbers],
            List.forall_mem_singleton.mpr hport, hrefuses⟩, rfl⟩
      | passed htimeout timeout =>
          have hearlier : ∀ earlier ∈ [Setting.smtpPort, Setting.socketTimeout],
              earlier.Admits (c.get earlier) :=
            List.forall_mem_cons.mpr ⟨hport, List.forall_mem_singleton.mpr htimeout⟩
          cases hconnection with
          | refused hrefuses =>
              exact .inr ⟨_, ⟨[.smtpPort, .socketTimeout], .socketConnectionTimeout,
                by simp [numbers], hearlier, hrefuses⟩, rfl⟩
          | passed hconnection connection =>
              refine .inl ⟨?_, _, rfl⟩
              exact List.forall_mem_cons.mpr ⟨hport, List.forall_mem_cons.mpr
                ⟨htimeout, List.forall_mem_singleton.mpr hconnection⟩⟩

/-- The session says all that the settings say, and nothing else. -/
structure ReadsBack (c : Settings) (s : Session) : Prop where
  host : s.host = c.hostName
  port : s.port? = .ok (some (match c.smtpPort with
    | .int n => n
    | _ => if c.sslOnConnect.truth then 465 else 25))
  timeout : s.number? .timeout = .ok (millis c.socketTimeout)
  connectionTimeout : s.number? .connectionTimeout = .ok (millis c.socketConnectionTimeout)
  debug : s.flag .debug = c.debug.truth
  ssl : s.flag .ssl = c.sslOnConnect.truth
  startTls : s.flag .startTls = c.startTlsEnabled.truth
  startTlsRequired : s.flag .startTlsRequired = c.startTlsRequired.truth
  checkIdentity : s.flag .checkIdentity =
    ((c.sslOnConnect.truth || c.startTlsEnabled.truth) && c.sslCheckServerIdentity.truth)
  bounceAddress : s.find? (.text Property.bounceAddress.name) =
    if c.bounceAddress.truth then some c.bounceAddress else none
  protocol : s.get .protocol = .text "smtp"
  auth : s.flag .auth = c.username.truth
  user : s.find? (.text Property.user.name) = if c.username.truth then some c.username else none
  account : s.account = if c.username.truth then .tuple [c.username, c.password] else .nothing
  noOther : ∀ entry ∈ s.properties, ∃ p : Property, entry.1 = .text p.name

/-- What stands under a condition among the settings is there under that condition. -/
theorem find?_propertiesOf (origin : Origin) (c : Settings) (port : String)
    (timeout connectionTimeout : Option String) (account : Value) :
    let s := ofProperties origin (propertiesOf c port timeout connectionTimeout) account
    s.find? (.text Property.bounceAddress.name) =
        (if c.bounceAddress.truth then some c.bounceAddress else none) ∧
      s.find? (.text Property.user.name) =
        if c.username.truth then some c.username else none := by
  simp only [find?_ofProperties, propertiesOf, find?_optional, find?_textEntry, List.find?_append,
    reduceCtorEq, decide_false, decide_true, Bool.false_eq_true, not_false_eq_true, Bool.and_true,
    Bool.and_false, List.find?_cons_of_neg, List.find?_nil, if_false, Option.or_none,
    Option.none_or, Option.map_if]
  trivial

theorem number?_of_checkTimeout {p : Property} {t : Option String}
    (hcheck : checkTimeout setting v = .ok t) (hget : s.get p = .ofOption t)
    (hshort : ∀ n, v = .int n → (Nat.toDigits 10 n.natAbs).length ≤ Number.digitLimit) :
    s.number? p = .ok (millis v) := by
  rcases checkTimeout_eq_ok hcheck with ⟨hv, rfl⟩ | ⟨n, hv, rfl⟩
  · rw [hv, number?, hget]
    rfl
  · obtain rfl : v = .int n := by
      cases v <;> simp_all [millis]
    exact number?_of_text hget (hshort n rfl)

theorem readsBack_of_resolve {serial : Nat} (h : c.Readable) (hhost : c.hostName.truth = true)
    (hs : ((resolve standardLinks none c serial).run ()).result = .ok s) : ReadsBack c s := by
  have hspeaks := speaks_of_resolve hhost hs
  obtain ⟨opened, hopened, rfl⟩ := exists_of_resolve hhost hs
  obtain ⟨port, timeout, connectionTimeout, hport, htimeout, hconnection, rfl⟩ :=
    fromSettings_eq_ok hopened
  have hget := get_propertiesOf (.opened serial) c port timeout connectionTimeout (accountOf c)
  have hfind := find?_propertiesOf (.opened serial) c port timeout connectionTimeout (accountOf c)
  have hflag (condition : Bool) : isUp (if condition then flagText true else .nothing) =
      condition := by
    cases condition <;> rfl
  exact
    { host := hspeaks.host
      port := by
        obtain ⟨n, hvalue, hread⟩ := hspeaks.port
        rw [hread]
        exact congrArg (fun n => Except.ok (some n)) (eq_of_portValue hvalue)
      timeout := number?_of_checkTimeout htimeout (hget .timeout)
        (h.short .socketTimeout (by simp [numbers]))
      connectionTimeout := number?_of_checkTimeout hconnection (hget .connectionTimeout)
        (h.short .socketConnectionTimeout (by simp [numbers]))
      debug := hspeaks.debug
      ssl := hspeaks.ssl
      startTls := hspeaks.startTls
      startTlsRequired := hspeaks.startTlsRequired
      checkIdentity := by
        rw [flag, hget, written, hflag]
      bounceAddress := hfind.1
      protocol := hget .protocol
      auth := by
        rw [flag, hget, written, hflag]
      user := hfind.2
      account := rfl
      noOther := by
        intro entry hentry
        obtain ⟨written, -, rfl⟩ := List.mem_map.mp hentry
        exact ⟨written.1, rfl⟩ }

/-- An explicit session is taken as it is. Without one, settings with no host open a session that
has no properties; settings with a host open one just if each numeric setting is admitted, are
refused for the first that is not, and are read back from the session they open. Only this last case
asks for numbers that can be written and read. -/
theorem resolve_exact (explicit : Option Session) (c : Settings) (serial : Nat) :
    let found := ((resolve standardLinks explicit c serial).run ()).result
    (∀ given ∈ explicit, found = .ok given) ∧
      (explicit = none → c.hostName.truth = false → found = .ok ⟨.opened serial, [], .nothing⟩) ∧
      (explicit = none → c.hostName.truth = true → c.Readable →
        ((∃ s, found = .ok s) ↔ c.Admissible) ∧ (∀ s, found = .ok s → ReadsBack c s) ∧
          ∀ e, found = .error e → ∃ cause, c.FirstRefused cause ∧ e = .session cause) := by
  refine ⟨fun given hgiven => ?_, fun hexplicit hhost => ?_, fun hexplicit hhost h => ?_⟩
  · cases hgiven
    rfl
  · rw [hexplicit]
    exact resolve_of_noHost serial hhost
  · rw [hexplicit]
    refine ⟨?_, fun s hs => readsBack_of_resolve h hhost hs, fun e he => ?_⟩
    · rw [resolve_of_host serial hhost]
      rcases fromSettings_ok_or_refused h with ⟨hadmitted, opened, hopen⟩ |
        ⟨cause, hrefused, hopen⟩
      · rw [hopen]
        exact iff_of_true ⟨_, rfl⟩ hadmitted
      · rw [hopen]
        exact iff_of_false nofun hrefused.not_admissible
    · rw [resolve_of_host serial hhost] at he
      rcases fromSettings_ok_or_refused h with ⟨-, opened, hopen⟩ | ⟨cause, hrefused, hopen⟩
      · rw [hopen] at he
        cases he
      · rw [hopen] at he
        exact ⟨cause, hrefused, (Except.error.inj he).symm⟩

/-- Settings of a relay with an account, a port and one timeout. -/
def relaySettings : Settings :=
  { Settings.initial with
    hostName := .text "mx"
    smtpPort := .int 587
    socketTimeout := .int 30000
    startTlsEnabled := .bool true
    username := .text "user"
    password := .text "word" }

theorem readable_relaySettings : relaySettings.Readable where
  shown := List.forall_mem_cons.mpr
    ⟨rfl, List.forall_mem_cons.mpr ⟨rfl, List.forall_mem_singleton.mpr rfl⟩⟩
  short := by
    have hport : (Nat.toDigits 10 587).length ≤ Number.digitLimit := by decide
    have htimeout : (Nat.toDigits 10 30000).length ≤ Number.digitLimit := by decide
    simp [numbers, relaySettings, Settings.initial, Settings.get, hport, htimeout]

theorem relaySettings_open_a_session :
    ∃ s, ((resolve standardLinks none relaySettings 0).run ()).result = .ok s ∧
      ReadsBack relaySettings s := by
  have hhost : relaySettings.hostName.truth = true := by simp [relaySettings, Value.truth]
  have hadmissible : relaySettings.Admissible := by
    simp [Settings.Admissible, numbers, relaySettings, Settings.initial, Settings.get, admits_int,
      admits_nothing, InRange]
  obtain ⟨-, -, hopens⟩ := resolve_exact none relaySettings 0
  obtain ⟨hopens, hreads, -⟩ := hopens rfl hhost readable_relaySettings
  obtain ⟨s, hs⟩ := hopens.mpr hadmissible
  exact ⟨s, hs, hreads s hs⟩

end Session

end Mailroom
