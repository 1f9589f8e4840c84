import Mailroom.Builder

/-!
What each call does to a builder. A call that changes something is refused by its arguments alone
as long as the builder is open, and by the builder alone once it is built; a call that asks changes
nothing but the session that is kept.
-/

namespace Mailroom.Builder

open Mailroom.Action

variable {rules : Rules} {b : Builder} {call : Call}

/-- A call that asks for something. -/
def Call.isGetter : Call → Bool
  | .getSession | .getHost | .getHeader _ | .getSentDate => true
  | _ => false

/-- A call that changes the settings, the session or a part of the message. -/
def Call.isMutator : Call → Bool
  | .getSession | .getHost | .getHeader _ | .getSentDate | .build => false
  | _ => true

/-- A change of one part of a builder; the account is two settings. -/
inductive Change
  | setting (s : Setting) (v : Value)
  | account (user password : Value)
  | session (s : Option Session)
  | sender (a : Address)
  | append (role : Role) (batch : List Address)
  | replace (role : Role) (batch : List Address)
  | write (headers : List (String × String))
  | subject (v : Value)
  | body (v : Value)
  | sentDate (v : Value)

def Change.apply (b : Builder) : Change → Builder
  | .setting s v => { b with settings := b.settings.set s v }
  | .account user password =>
      { b with settings := (b.settings.set .username user).set .password password }
  | .session s => { b with explicit := s, session := none }
  | .sender a => { b with sender := some a }
  | .append role batch =>
      { b with recipients := b.recipients.setList role (b.recipients.list role ++ batch) }
  | .replace role batch => { b with recipients := b.recipients.setList role batch }
  | .write headers => { b with headers := ⟨b.headers.items.putAll (· == ·) headers⟩ }
  | .subject v => { b with subject := v }
  | .body v => { b with body := v }
  | .sentDate v => { b with sentDate := v }

/-- The change that the arguments of a call ask for, or why they are refused; `none` for a call that
changes no part. -/
def Call.change? : Call → Option (Except Fault Change)
  | .setSetting setting v => some (.ok (.setting setting v))
  | .setAccount user password => some (.ok (.account user password))
  | .setSession s => some (.ok (.session s))
  | .setSender email personal => some ((Address.validate email personal).map .sender)
  | .addRecipients role entries => some ((entries.mapM Address.parse).map (.append role))
  | .setRecipients role entries => some (match Recipients.parseAll Address.parse entries with
      | .error e => .error e
      | .ok [] => .error (.address (.emptyList role.name))
      | .ok (a :: batch) => .ok (.replace role (a :: batch)))
  | .addHeader name value => some ((Header.check name value).map fun header => .write [header])
  | .setHeaders headers => some ((headers.toEntries >>= Header.Store.checkAll).map .write)
  | .setSubject v => some (.ok (.subject v))
  | .setBody v => some (.ok (.body v))
  | .setSentDate v => some (.ok (.sentDate v))
  | .getSession | .getHost | .getHeader _ | .getSentDate | .build => none

theorem isMutator_iff : call.isMutator = true ↔ ∃ asked, call.change? = some asked := by
  cases call <;> simp [Call.isMutator, Call.change?]

theorem eq_build_or_isGetter (h : call.change? = none) :
    call = .build ∨ call.isGetter = true := by
  cases call with
  | getSession | getHost | getHeader | getSentDate => exact .inr rfl
  | build => exact .inl rfl
  | _ => cases h

def changed (b : Builder) (change : Change) : Builder :=
  { change.apply b with progress := .configured }

/-- How a call ends that asks this of an open builder. -/
def outcome {α : Type} (answer : α) (asked : Except Fault Change) (b : Builder) :
    Outcome Builder α :=
  match asked with
  | .error e => ⟨.error e, b, []⟩
  | .ok change => ⟨.ok answer, changed b change, []⟩

theorem run_done {x : Action Builder Unit} {asked : Except Fault Change}
    (h : x.run b = outcome () asked b) :
    (done x).run b = outcome (.value .nothing) asked b := by
  cases asked with
  | error e =>
      have herror : (x.run b).result = .error e := by rw [h]; rfl
      rw [done, run_bind_error herror, h]
      rfl
  | ok change =>
      have hok : (x.run b).result = .ok () := by rw [h]; rfl
      rw [done, run_bind_ok hok, h]
      rfl

section Open

variable (hopen : b.progress ≠ .built)
include hopen

theorem run_setSender_of_open (email personal : Value) :
    (setSender email personal).run b =
      outcome () ((Address.validate email personal).map .sender) b := by
  rw [setSender, run_bind, run_requireOpen_of_open hopen]
  dsimp only
  rw [run_bind, run_ofExcept]
  cases Address.validate email personal with
  | error e => rfl
  | ok a =>
      dsimp only
      rw [run_configure_of_open _ hopen]
      rfl

theorem run_onPart_of_error {π : Type} {get : Builder → π} {set : π → Builder → Builder}
    {x : Action π Unit} {e : Fault} (hset : set (get b) b = b)
    (h : x.run (get b) = ⟨.error e, get b, []⟩) :
    (requireOpen >>= fun _ => within get set x >>= fun _ => configure id).run b =
      ⟨.error e, b, []⟩ := by
  rw [run_bind, run_requireOpen_of_open hopen]
  dsimp only
  rw [run_bind, run_within, h]
  dsimp only
  rw [hset]
  rfl

theorem run_onPart_of_ok {π : Type} {get : Builder → π} {set : π → Builder → Builder}
    {x : Action π Unit} {part : π} (hset : (set part b).progress = b.progress)
    (h : x.run (get b) = ⟨.ok (), part, []⟩) :
    (requireOpen >>= fun _ => within get set x >>= fun _ => configure id).run b =
      ⟨.ok (), { set part b with progress := .configured }, []⟩ := by
  have hstill : (set part b).progress ≠ .built := hset ▸ hopen
  rw [run_bind, run_requireOpen_of_open hopen]
  dsimp only
  rw [run_bind, run_within, h]
  dsimp only
  rw [run_configure_of_open _ hstill]
  rfl

/-- As long as a builder is open the arguments decide about a call, and a call that is refused
leaves the builder as it was. -/
theorem run_perform_of_open (rules : Rules) {asked : Except Fault Change}
    (hcall : call.change? = some asked) :
    (perform rules call).run b = outcome (.value .nothing) asked b := by
  cases call with
  | setSetting | setAccount | setSession | setSubject | setBody | setSentDate =>
      obtain rfl := Option.some.inj hcall
      exact run_done (run_configure_of_open _ hopen)
  | setSender email personal =>
      obtain rfl := Option.some.inj hcall
      exact run_done (run_setSender_of_open hopen email personal)
  | addRecipients role entries =>
      obtain rfl := Option.some.inj hcall
      refine run_done ?_
      rw [addRecipients]
      cases h : entries.mapM Address.parse with
      | error e =>
          have hparsed : Recipients.parseAll Address.parse (.tuple entries) = .error e := h
          exact run_onPart_of_error hopen rfl (Recipients.run_add_of_error hparsed role _)
      | ok batch =>
          have hparsed : Recipients.parseAll Address.parse (.tuple entries) = .ok batch := h
          exact run_onPart_of_ok hopen rfl (Recipients.run_add_of_ok hparsed role _)
  | setRecipients role entries =>
      obtain rfl := Option.some.inj hcall
      refine run_done ?_
      rw [setRecipients]
      cases h : Recipients.parseAll Address.parse entries with
      | error e => exact run_onPart_of_error hopen rfl (Recipients.run_set_of_error h role _)
      | ok batch =>
          cases batch with
          | nil => exact run_onPart_of_error hopen rfl (Recipients.run_set_of_nil h role _)
          | cons a rest =>
              exact run_onPart_of_ok hopen rfl (Recipients.run_set_of_cons h role _)
  | addHeader name value =>
      obtain rfl := Option.some.inj hcall
      refine run_done ?_
      rw [addHeader]
      cases h : Header.check name value with
      | error e => exact run_onPart_of_error hopen rfl (Header.Store.run_set_of_error h _)
      | ok header => exact run_onPart_of_ok hopen rfl (Header.Store.run_set_of_ok h _)
  | setHeaders headers =>
      obtain rfl := Option.some.inj hcall
      refine run_done ?_
      have hrun := Header.Store.run_update headers b.headers
      rw [setHeaders]
      cases h : headers.toEntries >>= Header.Store.checkAll with
      | error e =>
          rw [h] at hrun
          exact run_onPart_of_error hopen rfl hrun
      | ok checked =>
          rw [h] at hrun
          exact run_onPart_of_ok hopen rfl hrun
  | getSession | getHost | getHeader | getSentDate | build => cases hcall

end Open

/-- A built builder refuses whatever would change it, its arguments unseen. -/
theorem run_perform_of_built (hbuilt : b.progress = .built) (rules : Rules)
    (hcall : call.isMutator = true ∨ call = .build) :
    (perform rules call).run b = ⟨.error .alreadyBuilt, b, []⟩ := by
  have hfirst {α : Type} (next : Unit → Action Builder α) :
      (requireOpen >>= next).run b = ⟨.error .alreadyBuilt, b, []⟩ := by
    rw [run_bind, run_requireOpen_of_built hbuilt]
  have hdone {x : Action Builder Unit} (h : x.run b = ⟨.error .alreadyBuilt, b, []⟩) :
      (done x).run b = ⟨.error .alreadyBuilt, b, []⟩ := by
    rw [done, run_bind, h]
  cases call with
  | setSetting | setAccount | setSession | setSubject | setBody | setSentDate | setSender
  | addRecipients | setRecipients | addHeader | setHeaders => exact hdone (hfirst _)
  | build =>
      have hbuild : (build rules).run b = ⟨.error .alreadyBuilt, b, []⟩ := hfirst _
      rw [perform, run_bind, hbuild]
  | getSession | getHost | getHeader | getSentDate => simp [Call.isMutator] at hcall

/-! ### Calls that ask -/

/-- Asking for the session keeps the builder, or keeps the session that was found first. -/
theorem run_getSession_cases (rules : Rules) (b : Builder) :
    ((getSession rules).run b).state = b ∨
      b.session = none ∧ ∃ s, ((getSession rules).run b).result = .ok s ∧
        ((getSession rules).run b).state = { b with session := some s, found := b.found + 1 } := by
  cases hsession : b.session with
  | some s =>
      rw [run_getSession_of_some rules hsession]
      exact .inl rfl
  | none =>
      rw [run_getSession_of_none rules hsession]
      dsimp only
      cases ((Session.resolve rules.links b.explicit b.settings b.found).run ()).result with
      | error e => exact .inl rfl
      | ok s => exact .inr ⟨rfl, s, rfl, rfl⟩

/-- A call that asks keeps the builder, but for the session that it finds. -/
theorem run_getter (rules : Rules) (b : Builder) (hcall : call.isGetter = true) :
    ((perform rules call).run b).state = b ∨
      call = .getSession ∧ b.session = none ∧
        ∃ s, ((perform rules call).run b).result = .ok (.session s) ∧
          ((perform rules call).run b).state =
            { b with session := some s, found := b.found + 1 } := by
  cases call with
  | getSession =>
      have hperform := run_map Answer.session (getSession rules) b
      rw [map_eq_pure_bind] at hperform
      rcases run_getSession_cases rules b with hkept | ⟨hnone, s, hresult, hstate⟩
      · exact .inl ((congrArg Outcome.state hperform).trans hkept)
      · refine .inr ⟨rfl, hnone, s, ?_, (congrArg Outcome.state hperform).trans hstate⟩
        rw [hresult] at hperform
        exact congrArg Outcome.result hperform
  | getHost => exact .inl rfl
  | getHeader name =>
      rw [perform, run_bind, run_state]
      dsimp only
      rw [run_bind, run_ofExcept]
      cases b.getHeader name <;> exact .inl rfl
  | getSentDate => exact .inl rfl
  | setSetting | setAccount | setSession | setSubject | setBody | setSentDate | setSender
  | addRecipients | setRecipients | addHeader | setHeaders | build => cases hcall

end Mailroom.Builder
