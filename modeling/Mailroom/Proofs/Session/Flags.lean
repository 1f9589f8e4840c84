import Mailroom.Proofs.Results
import Mailroom.Session.Resolver

/-!
Sessions that are opened from settings. Each property of the mail room has a name of its own, so
reading a property of such a session gives what was written for it.
-/

namespace Mailroom

theorem Property.name_inj {p q : Property} : p.name = q.name ↔ p = q := by
  constructor
  · cases p <;> cases q <;> simp [name]
  · exact congrArg name

namespace Session
open Mailroom.Action
variable {s : Session} {c : Settings}

/-- The session that has some properties of the mail room and no others. -/
def ofProperties (origin : Origin) (properties : List (Property × Value)) (account : Value) :
    Session :=
  ⟨origin, properties.map fun entry => (.text entry.1.name, entry.2), account⟩

theorem find?_ofProperties (origin : Origin) (properties : List (Property × Value))
    (account : Value) (p : Property) :
    (ofProperties origin properties account).find? (.text p.name) =
      (properties.find? fun entry => entry.1 = p).map (·.2) := by
  have hsame : (fun entry : Property × Value => Value.same (.text entry.1.name) (.text p.name)) =
      fun entry => decide (entry.1 = p) := by
    funext entry
    exact decide_eq_decide.mpr Property.name_inj
  simp only [find?, Entries.find?, ofProperties, List.find?_map, Option.map_map, ← hsame]
  rfl

theorem get_ofProperties (origin : Origin) (properties : List (Property × Value)) (account : Value)
    (p : Property) :
    (ofProperties origin properties account).get p =
      ((properties.find? fun entry => entry.1 = p).map (·.2)).getD .nothing := by
  rw [get, find?_ofProperties]

theorem find?_optional (p q : Property) (condition : Bool) (v : Value) :
    (optional condition q v).find? (fun entry => entry.1 = p) =
      if condition && q = p then some (q, v) else none := by
  cases condition <;> simp [optional, List.find?_singleton]

theorem find?_textEntry (p q : Property) (t : Option String) :
    (textEntry q t).find? (fun entry => entry.1 = p) =
      if q = p then t.map fun text => (q, .text text) else none := by
  cases t <;> simp [textEntry, List.find?_singleton]

theorem isUp_flagText (b : Bool) : isUp (flagText b) = b := by
  cases b <;> simp [isUp, flagText, Value.text?]

/-- What the settings stand for once their numbers are read. -/
def propertiesOf (c : Settings) (port : String) (timeout connectionTimeout : Option String) :
    List (Property × Value) :=
  [(.protocol, .text "smtp"), (.host, c.hostName), (.debug, flagText c.debug.truth),
    (.startTls, flagText c.startTlsEnabled.truth),
    (.startTlsRequired, flagText c.startTlsRequired.truth), (.port, .text port)] ++
    optional c.sslOnConnect.truth .ssl (flagText true) ++
    optional ((c.sslOnConnect.truth || c.startTlsEnabled.truth) && c.sslCheckServerIdentity.truth)
      .checkIdentity (flagText true) ++
    optional c.bounceAddress.truth .bounceAddress c.bounceAddress ++
    optional c.username.truth .auth (flagText true) ++ optional c.username.truth .user c.username ++
    textEntry .timeout timeout ++ textEntry .connectionTimeout connectionTimeout

def accountOf (c : Settings) : Value :=
  if c.username.truth then .tuple [c.username, c.password] else .nothing

/-- The value that the settings give to a property. -/
def written (c : Settings) (port : String) (timeout connectionTimeout : Option String) :
    Property → Value
  | .protocol => .text "smtp"
  | .host => c.hostName
  | .port => .text port
  | .ssl => if c.sslOnConnect.truth then flagText true else .nothing
  | .startTls => flagText c.startTlsEnabled.truth
  | .startTlsRequired => flagText c.startTlsRequired.truth
  | .checkIdentity =>
      if (c.sslOnConnect.truth || c.startTlsEnabled.truth) && c.sslCheckServerIdentity.truth then
        flagText true
      else .nothing
  | .bounceAddress => if c.bounceAddress.truth then c.bounceAddress else .nothing
  | .auth => if c.username.truth then flagText true else .nothing
  | .user => if c.username.truth then c.username else .nothing
  | .timeout => .ofOption timeout
  | .connectionTimeout => .ofOption connectionTimeout
  | .debug => flagText c.debug.truth

theorem get_propertiesOf (origin : Origin) (c : Settings) (port : String)
    (timeout connectionTimeout : Option String) (account : Value) (p : Property) :
    (ofProperties origin (propertiesOf c port timeout connectionTimeout) account).get p =
      written c port timeout connectionTimeout p := by
  rw [get_ofProperties, propertiesOf]
  cases p with
  | protocol | host | port | startTls | startTlsRequired | debug => simp [written]
  | ssl | checkIdentity | bounceAddress | auth | user =>
      simp only [written, find?_optional, find?_textEntry, List.find?_append, reduceCtorEq,
        decide_false, decide_true, Bool.false_eq_true, not_false_eq_true, Bool.and_true,
        Bool.and_false, List.find?_cons_of_neg, List.find?_nil, if_false, Option.or_none,
        Option.none_or, Option.map_if]
      split <;> rfl
  | timeout => cases timeout <;> simp [written, find?_optional, find?_textEntry, Value.ofOption]
  | connectionTimeout =>
      cases connectionTimeout <;> simp [written, find?_optional, find?_textEntry, Value.ofOption]

theorem fromSettings_eq_ok {opened : List (Property × Value) × Value}
    (h : fromSettings c = .ok opened) : ∃ port timeout connectionTimeout,
      checkInt .smtpPort (portValue c) 1 (some greatestPort) = .ok port ∧
      checkTimeout .socketTimeout c.socketTimeout = .ok timeout ∧
      checkTimeout .socketConnectionTimeout c.socketConnectionTimeout = .ok connectionTimeout ∧
      opened = (propertiesOf c port timeout connectionTimeout, accountOf c) := by
  obtain ⟨port, hport, h⟩ := exists_of_bind_eq_ok h
  obtain ⟨timeout, htimeout, h⟩ := exists_of_bind_eq_ok h
  obtain ⟨connectionTimeout, hconnection, h⟩ := exists_of_bind_eq_ok h
  exact ⟨port, timeout, connectionTimeout, hport, htimeout, hconnection, (Except.ok.inj h).symm⟩

theorem flags_of_fromSettings (origin : Origin) {properties : List (Property × Value)}
    {account : Value} (h : fromSettings c = .ok (properties, account)) :
    let s := ofProperties origin properties account
    s.flag .startTlsRequired = c.startTlsRequired.truth ∧ s.flag .ssl = c.sslOnConnect.truth ∧
      s.flag .startTls = c.startTlsEnabled.truth := by
  obtain ⟨port, timeout, connectionTimeout, -, -, -, hopened⟩ := fromSettings_eq_ok h
  cases hopened
  simp only [flag, get_propertiesOf, written, isUp_flagText, true_and, and_true]
  cases c.sslOnConnect.truth <;> rfl

theorem resolve_of_explicit (given : Session) (c : Settings) (serial : Nat) :
    ((resolve standardLinks (some given) c serial).run ()).result = .ok given := rfl

/-- Without an explicit session the settings are asked, and then there is an empty one. -/
theorem result_resolve_none (c : Settings) (serial : Nat) :
    ((resolve standardLinks none c serial).run ()).result =
      ((settingsLink none c serial).act.run ⟨none, c⟩).result.map fun found =>
        found.getD ⟨.opened serial, [], .nothing⟩ := by
  rw [resolve, run_onOwn, standardLinks, run_ask_cons]
  change ((ask serial [settingsLink, emptyLink]).run ⟨none, c⟩).result = _
  rw [run_ask_cons]
  dsimp only
  rcases ((settingsLink none c serial).act.run ⟨none, c⟩).result with e | (_ | session) <;> rfl

/-- Settings that name a host open the session that they stand for, or none. -/
theorem resolve_of_host (serial : Nat) (hhost : c.hostName.truth = true) :
    ((resolve standardLinks none c serial).run ()).result =
      (fromSettings c).map fun opened => ofProperties (.opened serial) opened.1 opened.2 := by
  rw [result_resolve_none, settingsLink, hhost]
  cases fromSettings c <;> rfl

theorem resolve_of_noHost (serial : Nat) (hhost : c.hostName.truth = false) :
    ((resolve standardLinks none c serial).run ()).result = .ok ⟨.opened serial, [], .nothing⟩ := by
  rw [result_resolve_none, settingsLink, hhost]
  rfl

theorem exists_of_resolve {serial : Nat} (hhost : c.hostName.truth = true)
    (h : ((resolve standardLinks none c serial).run ()).result = .ok s) :
    ∃ opened, fromSettings c = .ok opened ∧
      s = ofProperties (.opened serial) opened.1 opened.2 := by
  rw [resolve_of_host serial hhost] at h
  obtain ⟨opened, hopened, rfl⟩ := exists_of_map_eq_ok h
  exact ⟨opened, hopened, rfl⟩

/-- The host of the session that the standard chain finds: that of the explicit one or, without one,
that of the settings, if they name any. -/
theorem host_of_resolve {e : Option Session} {serial : Nat}
    (h : ((resolve standardLinks e c serial).run ()).result = .ok s) :
    s.host = (e.map host).getD (if c.hostName.truth then c.hostName else .nothing) := by
  cases e with
  | some given =>
      obtain rfl := Except.ok.inj ((resolve_of_explicit given c serial).symm.trans h)
      rfl
  | none =>
      cases hhost : c.hostName.truth with
      | false =>
          obtain rfl := Except.ok.inj ((resolve_of_noHost serial hhost).symm.trans h)
          rfl
      | true =>
          obtain ⟨opened, hopened, rfl⟩ := exists_of_resolve hhost h
          obtain ⟨port, timeout, connectionTimeout, -, -, -, rfl⟩ := fromSettings_eq_ok hopened
          exact get_propertiesOf _ c port timeout connectionTimeout _ .host

/-- A session that the standard chain opens has the flags of the settings, unless no host is named
there. -/
theorem flags_of_resolve {serial : Nat}
    (h : ((resolve standardLinks none c serial).run ()).result = .ok s) :
    s.host.truth = false ∨ s.flag .startTlsRequired = c.startTlsRequired.truth ∧
      s.flag .ssl = c.sslOnConnect.truth ∧ s.flag .startTls = c.startTlsEnabled.truth := by
  cases hhost : c.hostName.truth with
  | false =>
      obtain rfl := Except.ok.inj ((resolve_of_noHost serial hhost).symm.trans h)
      exact .inl rfl
  | true =>
      obtain ⟨opened, hopened, rfl⟩ := exists_of_resolve hhost h
      exact .inr (flags_of_fromSettings (.opened serial) hopened)

end Session

end Mailroom
