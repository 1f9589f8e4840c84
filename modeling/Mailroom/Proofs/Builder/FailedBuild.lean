import Mailroom.Builder
import Mailroom.Proofs.Results

/-!
Builds that fail. A build asks for all that it needs before it changes the builder, but when it
reports whom the message goes to the builder is already changed. A recipient whose email is not
ASCII passes every earlier check and fails there.
-/

namespace Mailroom

open Mailroom.Action

theorem Address.isOk_text (a : Address) : a.text.isOk = Text.isAscii a.email.toList := by
  rw [text]
  cases h : requireAscii a.email.toList with
  | error e =>
      have hascii : Text.isAscii a.email.toList = false := by
        refine Bool.eq_false_iff.mpr fun hascii => ?_
        rw [requireAscii_eq_ok_iff.mpr hascii] at h
        cases h
      rw [hascii]
      rfl
  | ok u =>
      rw [requireAscii_eq_ok_iff.mp h]
      obtain ⟨email, personal⟩ := a
      cases personal with
      | none => rfl
      | some name =>
          cases hname : name.isEmpty <;> simp [bind, Except.bind, pure, Except.pure, hname]

namespace Builder

variable {rules : Rules} {b : Builder}

/-- The builder has all that a build asks for before it changes anything. -/
structure IsReady (rules : Rules) (b : Builder) : Prop where
  isOpen : b.progress ≠ .built
  sender : b.sender.isSome = true
  recipients : b.recipients.hasPrimary = true ∨ rules.policy = .warn
  session : ((getSession rules).run b).result.isOk = true

/-- Someone to send to has an email that cannot be written out. -/
def HasUnwritable (b : Builder) : Prop :=
  ∃ role ∈ Role.primary, ∃ a ∈ b.recipients.list role, Text.isAscii a.email.toList = false

theorem run_getSession_of_error {e : Fault} (h : ((getSession rules).run b).result = .error e) :
    ((getSession rules).run b).state = b := by
  cases hsession : b.session with
  | some s =>
      rw [run_getSession_of_some rules hsession] at h
      cases h
  | none =>
      rw [run_getSession_of_none rules hsession] at h ⊢
      dsimp only at h ⊢
      cases hresolve :
          ((Session.resolve rules.links b.explicit b.settings b.found).run ()).result with
      | error fault => rfl
      | ok s =>
          rw [hresolve] at h
          cases h

theorem run_getSession_of_ok {s : Session} (h : ((getSession rules).run b).result = .ok s) :
    ∃ found, ((getSession rules).run b).state = { b with session := some s, found := found } := by
  cases hsession : b.session with
  | some u =>
      rw [run_getSession_of_some rules hsession] at h ⊢
      obtain rfl := Except.ok.inj h
      exact ⟨b.found, by rw [← hsession]⟩
  | none =>
      rw [run_getSession_of_none rules hsession] at h ⊢
      dsimp only at h ⊢
      cases hresolve :
          ((Session.resolve rules.links b.explicit b.settings b.found).run ()).result with
      | error e =>
          rw [hresolve] at h
          cases h
      | ok u =>
          rw [hresolve] at h
          obtain rfl := Except.ok.inj h
          exact ⟨b.found + 1, rfl⟩

theorem run_requireRecipients (policy : Policy) (sender : Address) (b : Builder) :
    ((requireRecipients policy sender).run b).state = b ∧
      (((requireRecipients policy sender).run b).result.isOk = true ↔
        b.recipients.hasPrimary = true ∨ policy = .warn) := by
  cases hprimary : b.recipients.hasPrimary <;> cases policy <;>
    simp [requireRecipients, run_bind, hprimary]

/-- The report fails just on a recipient that cannot be written out. -/
theorem run_report (sender : Address) (m : Message) (b : Builder) :
    ((report sender m).run b).state = b ∧
      ((report sender m).run b).result.isOk = (m.recipients.mapM Value.plain).isOk := by
  cases hplain : m.recipients.mapM Value.plain with
  | error e =>
      have hline : Message.addressLine m.recipients = .error e := by
        simp [Message.addressLine, hplain, bind, Except.bind]
      simp [report, run_bind, hline]
  | ok texts =>
      have hline : Message.addressLine m.recipients = .ok (", ".intercalate texts) := by
        simp [Message.addressLine, hplain, bind, Except.bind, pure, Except.pure]
      simp [report, run_bind, hline]

theorem isOk_recipients_compose (now : Moment) (sender : Address) (session : Session)
    (b : Builder) :
    ((b.compose now sender session).recipients.mapM Value.plain).isOk = true ↔
      ¬b.HasUnwritable := by
  have hrecipients : (b.compose now sender session).recipients =
      (Role.primary.flatMap b.recipients.list).map .address := by
    simp [Message.recipients, compose, Role.primary, Recipients.list]
  have hplain (a : Address) : (Value.plain (.address a)).isOk = Text.isAscii a.email.toList :=
    a.isOk_text
  rw [isOk_mapM, hrecipients, List.forall_mem_map, HasUnwritable]
  simp only [hplain, List.mem_flatMap]
  constructor
  · rintro h ⟨role, hrole, a, ha, hascii⟩
    rw [h a ⟨role, hrole, ha⟩] at hascii
    cases hascii
  · rintro h a ⟨role, hrole, ha⟩
    exact Bool.of_not_eq_false fun hascii => h ⟨role, hrole, a, ha, hascii⟩

/-- Without all it needs a build fails and changes nothing. -/
theorem run_build_of_not_ready (h : ¬b.IsReady rules) :
    ((build rules).run b).result.isOk = false ∧ ((build rules).run b).state = b := by
  by_cases hopen : b.progress = .built
  · simp [build, run_bind, run_requireOpen_of_built hopen]
  cases hsender : b.sender with
  | none => simp [build, run_bind, run_requireOpen_of_open hopen, hsender]
  | some sender =>
      obtain ⟨hkept, hrequired⟩ := run_requireRecipients rules.policy sender b
      cases hrecipients : ((requireRecipients rules.policy sender).run b).result with
      | error e =>
          simp [build, run_bind, run_requireOpen_of_open hopen, hsender, hrecipients, hkept]
      | ok u =>
          rw [hrecipients] at hrequired
          cases hsession : ((getSession rules).run b).result with
          | error e =>
              simp [build, run_bind, run_requireOpen_of_open hopen, hsender, hrecipients, hkept,
                hsession, run_getSession_of_error hsession]
          | ok s =>
              exact absurd ⟨hopen, by simp [hsender], hrequired.mp rfl, by rw [hsession]; rfl⟩ h

/-- With all it needs a build makes the message out of the parts and the session that it finds, and
locks the builder; then only the report is left. -/
theorem run_build_of_found (h : b.IsReady rules) {s : Session}
    (hs : ((getSession rules).run b).result = .ok s) :
    ∃ sender found log, b.sender = some sender ∧
      (build rules).run b =
        let m := b.compose rules.now sender s
        let built : Builder :=
          { b with session := some s, found := found, message := some m, progress := .built }
        ⟨((report sender m).run built).result.map fun _ => m, built, log⟩ := by
  obtain ⟨sender, hsender⟩ := Option.isSome_iff_exists.mp h.sender
  obtain ⟨hkept, hrequired⟩ := run_requireRecipients rules.policy sender b
  cases hrecipients : ((requireRecipients rules.policy sender).run b).result with
  | error e => simpa [hrecipients] using hrequired.mpr h.recipients
  | ok u =>
      obtain ⟨found, hfound⟩ := run_getSession_of_ok hs
      let opened : Builder := { b with session := some s, found := found }
      let m := opened.compose rules.now sender s
      let built : Builder := { opened with message := some m, progress := .built }
      have hreported := (run_report sender m built).1
      have hrun : (build rules).run b =
          ⟨((report sender m).run built).result.map fun _ => m, built,
            ((build rules).run b).log⟩ := by
        simp only [build, run_bind, run_requireOpen_of_open h.isOpen, run_state, hsender,
          hrecipients, hkept, hs]
        simp only [hfound, run_update]
        simp only [m, built, opened] at hreported
        cases ((report sender m).run built).result <;>
          simp [hreported, Except.map, m, opened, built]
      exact ⟨sender, found, _, hsender, hrun⟩

theorem run_build_eq_report (h : b.IsReady rules) :
    ∃ sender s found log, b.sender = some sender ∧
      (build rules).run b =
        let m := b.compose rules.now sender s
        let built : Builder :=
          { b with session := some s, found := found, message := some m, progress := .built }
        ⟨((report sender m).run built).result.map fun _ => m, built, log⟩ := by
  obtain ⟨s, hs⟩ := exists_of_isOk h.session
  obtain ⟨sender, found, log, hsender, hrun⟩ := run_build_of_found h hs
  exact ⟨sender, s, found, log, hsender, hrun⟩

/-- With all it needs a build changes the builder, and fails just on someone who cannot be written
out. -/
theorem run_build_of_ready (h : b.IsReady rules) :
    (∃ s found m, ((build rules).run b).state =
      { b with session := some s, found := found, message := some m, progress := .built }) ∧
    (((build rules).run b).result.isOk = true ↔ ¬b.HasUnwritable) := by
  obtain ⟨sender, s, found, log, -, hrun⟩ := run_build_eq_report h
  refine ⟨⟨s, found, b.compose rules.now sender s, by rw [hrun]⟩, ?_⟩
  rw [hrun, ← isOk_recipients_compose rules.now sender s b,
    ← (run_report sender (b.compose rules.now sender s) _).2]
  dsimp only
  cases ((report sender (b.compose rules.now sender s)).run _).result <;> simp [Except.map]

/-- A failed build changes the builder just if it was ready and someone to send to has an email that
cannot be written out. The same goes for a failed build on the way to a courier. -/
theorem failed_build_changes_iff (rules : Rules) (b : Builder) :
    let o := (build rules).run b
    (o.result.isOk = false ∧ o.state ≠ b ↔ b.IsReady rules ∧ b.HasUnwritable) ∧
      ∀ (τ : Type) (carry : Courier τ) (t : τ),
        o.result.isOk = false ∧ ((send rules (some carry)).run (b, t)).state ≠ (b, t) ↔
          b.IsReady rules ∧ b.HasUnwritable := by
  intro o
  have hbuild : o.result.isOk = false ∧ o.state ≠ b ↔ b.IsReady rules ∧ b.HasUnwritable := by
    by_cases hready : b.IsReady rules
    · obtain ⟨⟨s, found, m, hstate⟩, hresult⟩ := run_build_of_ready hready
      have hchanged : o.state ≠ b := fun hsame =>
        hready.isOpen (hsame ▸ congrArg Builder.progress hstate)
      rw [← Bool.not_eq_true, hresult]
      simp [hready, hchanged]
    · simp [o, hready, (run_build_of_not_ready hready).2]
  refine ⟨hbuild, fun τ carry t => ?_⟩
  rw [← hbuild]
  refine and_congr_right fun herror => ?_
  cases hresult : o.result with
  | ok m => simp [hresult] at herror
  | error e =>
      have hsend : ((send rules (some carry)).run (b, t)).state = (o.state, t) := by
        have hfirst : ((onFirst (build rules) : Action (Builder × τ) Message).run (b, t)).result =
            .error e := hresult
        rw [send, run_bind_error hfirst]
        rfl
      simp [hsend]

/-- The builder after some calls, those that were refused included. -/
def after (rules : Rules) : List Call → Builder → Builder
  | [], b => b
  | call :: rest, b => after rules rest ((perform rules call).run b).state

theorem reachable_builder_changed_by_failed_build :
    ¬∀ (rules : Rules) (c : Settings) (calls : List Call),
      let b := after rules calls (ofSettings c)
      ((build rules).run b).result.isOk = false → ((build rules).run b).state = b := by
  intro h
  let rules : Rules := ⟨Session.standardLinks, .required, ⟨2024, 1, 1, 0, 0, 0, 0, none⟩⟩
  let calls : List Call :=
    [.setSender (.text "a@b.c") .nothing, .addRecipients .addressee [.text "é@b.c"]]
  let b : Builder :=
    { ofSettings .initial with
      sender := some ⟨"a@b.c", none⟩
      recipients := ⟨[⟨"é@b.c", none⟩], [], [], []⟩
      progress := .configured }
  have hreached : after rules calls (ofSettings .initial) = b := by
    have hsender : Address.validate (.text "a@b.c") .nothing = .ok ⟨"a@b.c", none⟩ := rfl
    have hrecipient : Address.validate (.text "é@b.c") .nothing = .ok ⟨"é@b.c", none⟩ := by
      have htrim : Text.trim ['é', '@', 'b', '.', 'c'] = ['é', '@', 'b', '.', 'c'] := by decide
      have hemail : Address.isEmail ['é', '@', 'b', '.', 'c'] = true := by decide
      have hliteral : "é@b.c" = String.ofList ['é', '@', 'b', '.', 'c'] := rfl
      simp [Address.validate, Text.strip, htrim, hemail, ← hliteral, Address.checkPersonal,
        Except.map]
    have hrecipients : Recipients.parseAll Address.parse (.tuple [.text "é@b.c"]) =
        .ok [⟨"é@b.c", none⟩] := by
      simp [Recipients.parseAll, Recipients.batch, Value.elements, Address.parse, hrecipient, bind,
        Except.bind, pure, Except.pure]
    simp [calls, after, perform, done, setSender, addRecipients, onRecipients, run_bind,
      requireOpen, configure, ofSettings, hsender, Recipients.run_add_of_ok hrecipients,
      Recipients.setList, Recipients.list, Recipients.empty, b]
  have hready : b.IsReady rules := ⟨by decide, rfl, .inl rfl, rfl⟩
  have hunwritable : b.HasUnwritable :=
    ⟨.addressee, by decide, _, List.mem_singleton_self _, by decide⟩
  obtain ⟨⟨s, found, m, hstate⟩, hresult⟩ := run_build_of_ready hready
  have hsame := h rules .initial calls
  rw [hreached] at hsame
  have hfailed : ((build rules).run b).result.isOk = false := by
    rw [← Bool.not_eq_true, hresult]
    exact fun hwritable => hwritable hunwritable
  exact hready.isOpen (hsame hfailed ▸ congrArg Builder.progress hstate)

end Builder

end Mailroom
