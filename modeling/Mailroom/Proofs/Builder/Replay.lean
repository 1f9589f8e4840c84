import Mailroom.Proofs.Builder.Lifecycle
import Mailroom.Proofs.Entries

/-!
The message of a builder is the fold of the calls that were not refused. Each part of the message
is read off the changes that those calls asked for, part by part, so how the calls on different
parts were interleaved does not matter.
-/

namespace Mailroom

theorem Recipients.eq_of_list {α : Type} {r s : Recipients α}
    (h : ∀ role, r.list role = s.list role) : r = s := by
  have hto := h .addressee
  have hcc := h .cc
  have hbcc := h .bcc
  have hreply := h .replyTo
  cases r
  cases s
  simp only [Recipients.list] at *
  subst_vars
  rfl

namespace Builder

open Mailroom.Action

variable {σ τ α : Type} {rules : Rules} {b : Builder} {call : Call} {change : Change}

/-! ### The calls of a run -/

def Step.call? : Step τ → Option Call
  | .call _ c => some c
  | .send .. => none

/-- The calls of a run, those that were refused included. -/
def calls (steps : List (Step τ)) : List Call := steps.filterMap Step.call?

/-- The calls of a run that gave a result. -/
def accepted : List (Step τ) → Builder × τ → List Call
  | [], _ => []
  | step :: rest, w =>
      (if (step.act.run w).result.isOk then step.call?.toList else []) ++
        accepted rest (step.act.run w).state

/-- The changes that calls ask for; a call that is refused for its arguments asks for none. -/
def changesOf (calls : List Call) : List Change :=
  calls.filterMap fun call => call.change?.bind Except.toOption

/-! ### The parts of the message -/

def Change.setting? (s : Setting) : Change → Option Value
  | .setting t v => if t = s then some v else none
  | .account user password =>
      if s = .username then some user else if s = .password then some password else none
  | _ => none

def Change.session? : Change → Option (Option Session)
  | .session s => some s
  | _ => none

def Change.sender? : Change → Option Address
  | .sender a => some a
  | _ => none

/-- What a change makes of the list of a role. -/
def Change.edit? (role : Role) : Change → Option (List Address → List Address)
  | .append r batch => if r = role then some (· ++ batch) else none
  | .replace r batch => if r = role then some fun _ => batch else none
  | _ => none

def Change.headers? : Change → Option (List (String × String))
  | .write headers => some headers
  | _ => none

def Change.subject? : Change → Option Value
  | .subject v => some v
  | _ => none

def Change.body? : Change → Option Value
  | .body v => some v
  | _ => none

def Change.sentDate? : Change → Option Value
  | .sentDate v => some v
  | _ => none

/-- The last value that changes give. -/
def last? (read : Change → Option α) (changes : List Change) : Option α :=
  (changes.filterMap read).getLast?

/-- The list of a role after changes from its empty start. -/
def listAfter (role : Role) (changes : List Change) : List Address :=
  (changes.filterMap (Change.edit? role)).foldl (fun list edit => edit list) []

/-- The headers that changes write, one after the other. -/
def writes (changes : List Change) : List (String × String) :=
  (changes.filterMap Change.headers?).flatten

theorem last?_concat (read : Change → Option α) (changes : List Change) (change : Change) :
    last? read (changes ++ [change]) = (read change).or (last? read changes) := by
  unfold last?
  cases h : read change <;> simp [h]

theorem listAfter_concat (role : Role) (changes : List Change) (change : Change) :
    listAfter role (changes ++ [change]) =
      match change.edit? role with
      | none => listAfter role changes
      | some edit => edit (listAfter role changes) := by
  unfold listAfter
  cases h : change.edit? role <;> simp [h]

theorem writes_concat (changes : List Change) (change : Change) :
    writes (changes ++ [change]) = writes changes ++ change.headers?.getD [] := by
  unfold writes
  cases h : change.headers? <;> simp [h]

theorem changesOf_singleton (call : Call) :
    changesOf [call] = (call.change?.bind Except.toOption).toList := by
  unfold changesOf
  cases h : call.change?.bind Except.toOption <;> simp [h]

/-- The parts of a builder are those that changes make of a new one. -/
structure Reflects (c : Settings) (changes : List Change) (b : Builder) : Prop where
  settings : ∀ s, b.settings.get s = (last? (Change.setting? s) changes).getD (c.get s)
  explicit : b.explicit = (last? Change.session? changes).getD none
  sender : b.sender = last? Change.sender? changes
  list : ∀ role, b.recipients.list role = listAfter role changes
  headers : b.headers.items = Entries.putAll (· == ·) [] (writes changes)
  subject : b.subject = (last? Change.subject? changes).getD .nothing
  body : b.body = (last? Change.body? changes).getD .nothing
  sentDate : b.sentDate = (last? Change.sentDate? changes).getD .nothing

theorem reflects_ofSettings (c : Settings) : Reflects c [] (ofSettings c) where
  settings _ := rfl
  explicit := rfl
  sender := rfl
  list role := by cases role <;> rfl
  headers := rfl
  subject := rfl
  body := rfl
  sentDate := rfl

theorem settings_changed (b : Builder) (change : Change) (s : Setting) :
    (changed b change).settings.get s = (change.setting? s).getD (b.settings.get s) := by
  cases change with
  | setting t v =>
      by_cases h : t = s
      · simp [changed, Change.apply, Change.setting?, h]
      · simp [changed, Change.apply, Change.setting?, h, Settings.get_set_of_ne _ v (Ne.symm h)]
  | account user password => cases s <;> rfl
  | _ => rfl

theorem list_changed (b : Builder) (change : Change) (role : Role) :
    (changed b change).recipients.list role =
      match change.edit? role with
      | none => b.recipients.list role
      | some edit => edit (b.recipients.list role) := by
  cases change with
  | append r batch => cases r <;> cases role <;> rfl
  | replace r batch => cases r <;> cases role <;> rfl
  | _ => rfl

/-- The step of the replay: one more change. -/
theorem Reflects.changed {c : Settings} {changes : List Change} (h : Reflects c changes b)
    (change : Change) : Reflects c (changes ++ [change]) (changed b change) where
  settings s := by rw [settings_changed, last?_concat, h.settings]; cases change.setting? s <;> rfl
  explicit := by rw [last?_concat, Option.getD_or, ← h.explicit]; cases change <;> rfl
  sender := by rw [last?_concat, ← h.sender]; cases change <;> rfl
  list role := by rw [list_changed, listAfter_concat, h.list]
  headers := by rw [writes_concat, Entries.putAll_append, ← h.headers]; cases change <;> rfl
  subject := by rw [last?_concat, Option.getD_or, ← h.subject]; cases change <;> rfl
  body := by rw [last?_concat, Option.getD_or, ← h.body]; cases change <;> rfl
  sentDate := by rw [last?_concat, Option.getD_or, ← h.sentDate]; cases change <;> rfl

theorem Reflects.finding {c : Settings} {changes : List Change} (h : Reflects c changes b)
    (s : Session) (found : Nat) :
    Reflects c changes { b with session := some s, found := found } :=
  ⟨h.settings, h.explicit, h.sender, h.list, h.headers, h.subject, h.body, h.sentDate⟩

/-! ### Runs of an open builder -/

theorem Moves.built {b' : Builder} (h : Moves b b') (hb : b.progress = .built) :
    b'.progress = .built := by
  cases h with
  | stay => exact hb
  | find => exact hb
  | change hopen => exact absurd hb hopen
  | build => rfl

theorem open_of_follow (steps : List (Step τ)) {w : Builder × τ}
    (hopen : (follow steps w).1.progress ≠ .built) : w.1.progress ≠ .built := by
  induction steps generalizing w with
  | nil => exact hopen
  | cons step rest ih => exact fun hbuilt => ih hopen ((moves_act step w).built hbuilt)

/-- A step that leaves a builder open makes the change that it asks for, or finds a session, or
does nothing. -/
inductive Leaves (step : Step τ) (w : Builder × τ) : Prop
  | change (change : Change) (asks : changesOf step.call?.toList = [change])
      (accepted : (step.act.run w).result.isOk = true)
      (makes : (step.act.run w).state.1 = changed w.1 change)
  | find (s : Session) (asks : step.call? = some .getSession)
      (accepted : (step.act.run w).result.isOk = true)
      (makes : (step.act.run w).state.1 = { w.1 with session := some s, found := w.1.found + 1 })
  | nothing (asks : changesOf step.call?.toList = []) (makes : (step.act.run w).state.1 = w.1)

theorem leaves_act (step : Step τ) {w : Builder × τ}
    (hopen : (step.act.run w).state.1.progress ≠ .built) : Leaves step w := by
  have hbefore : w.1.progress ≠ .built := fun hbuilt => hopen ((moves_act step w).built hbuilt)
  -- A build that succeeds closes the builder, so one that leaves it open has done nothing.
  have hbuild (rules : Rules)
      (hstate : (step.act.run w).state.1 = ((perform rules .build).run w.1).state) :
      (step.act.run w).state.1 = w.1 := by
    rw [run_build_answer] at hstate
    rw [hstate] at hopen ⊢
    rcases run_build_cases rules w.1 with hkept | ⟨-, -, s, found, m, hbuilt⟩
    · exact hkept
    · rw [hbuilt] at hopen
      exact absurd rfl hopen
  cases step with
  | send rules courier =>
      have hstate := state_act (.send rules courier) w
      cases courier with
      | none => exact .nothing rfl hstate
      | some carry => exact .nothing rfl (hbuild rules hstate)
  | call rules c =>
      have hstate : ((Step.call rules c).act.run w).state.1 =
          ((perform rules c).run w.1).state := rfl
      have hresult : ((Step.call rules c).act.run w).result =
          ((perform rules c).run w.1).result := rfl
      cases hasked : c.change? with
      | some asked =>
          have hasks : changesOf [c] = asked.toOption.toList := by
            rw [changesOf_singleton, hasked]
            rfl
          rw [run_perform_of_open hbefore rules hasked] at hstate hresult
          cases asked with
          | error e => exact .nothing hasks hstate
          | ok change => exact .change change hasks (by rw [hresult]; rfl) hstate
      | none =>
          have hasks : changesOf [c] = [] := by
            rw [changesOf_singleton, hasked]
            rfl
          rcases eq_build_or_isGetter hasked with rfl | hgetter
          · exact .nothing hasks (hbuild rules hstate)
          · rcases run_getter rules w.1 hgetter with hkept | ⟨rfl, -, s, hfound, hmakes⟩
            · exact .nothing hasks (hstate.trans hkept)
            · exact .find s rfl (by rw [hresult, hfound]; rfl) (hstate.trans hmakes)

theorem changesOf_append (first second : List Call) :
    changesOf (first ++ second) = changesOf first ++ changesOf second :=
  List.filterMap_append

theorem calls_cons (step : Step τ) (rest : List (Step τ)) :
    calls (step :: rest) = step.call?.toList ++ calls rest := by
  unfold calls
  cases h : step.call? <;> simp [h]

/-- The builder of a run that leaves it open has the parts that the calls of the run ask for. -/
theorem Reflects.follow {c : Settings} {changes : List Change} {w : Builder × τ}
    (steps : List (Step τ)) (hopen : (Builder.follow steps w).1.progress ≠ .built)
    (h : Reflects c changes w.1) :
    Reflects c (changes ++ changesOf (calls steps)) (Builder.follow steps w).1 := by
  induction steps generalizing changes w with
  | nil =>
      rw [show changesOf (calls ([] : List (Step τ))) = [] from rfl, List.append_nil]
      exact h
  | cons step rest ih =>
      rw [calls_cons, changesOf_append, ← List.append_assoc]
      refine ih hopen ?_
      cases leaves_act step (open_of_follow rest hopen) with
      | change change hasks _ hmakes =>
          rw [hasks, hmakes]
          exact h.changed change
      | find s hasks _ hmakes =>
          have hnone : changesOf [.getSession] = [] := rfl
          rw [hasks, hmakes, Option.toList_some, hnone, List.append_nil]
          exact h.finding s _
      | nothing hasks hmakes =>
          rw [hasks, hmakes, List.append_nil]
          exact h

/-- In such a run the calls that gave a result ask for all the changes. -/
theorem changesOf_accepted (steps : List (Step τ)) {w : Builder × τ}
    (hopen : (follow steps w).1.progress ≠ .built) :
    changesOf (accepted steps w) = changesOf (calls steps) := by
  induction steps generalizing w with
  | nil => rfl
  | cons step rest ih =>
      rw [calls_cons, accepted, changesOf_append, changesOf_append, ih hopen]
      congr 1
      cases leaves_act step (open_of_follow rest hopen) with
      | change change _ haccepted _ => rw [if_pos haccepted]
      | find s _ haccepted _ => rw [if_pos haccepted]
      | nothing hasks _ =>
          -- The call may have been accepted or not: it asks for no change.
          rw [hasks]
          split
          · exact hasks
          · rfl

/-- No session was found yet. -/
def Unresolved (b : Builder) : Prop := b.session = none ∧ b.found = 0

theorem Unresolved.changed (h : b.Unresolved) (change : Change) :
    (changed b change).Unresolved := by
  cases change with
  | session s => exact ⟨rfl, h.2⟩
  | _ => exact h

theorem Unresolved.follow {w : Builder × τ} (steps : List (Step τ))
    (hopen : (Builder.follow steps w).1.progress ≠ .built)
    (hnone : .getSession ∉ accepted steps w) (h : w.1.Unresolved) :
    (Builder.follow steps w).1.Unresolved := by
  induction steps generalizing w with
  | nil => exact h
  | cons step rest ih =>
      rw [accepted, List.mem_append, not_or] at hnone
      refine ih hopen hnone.2 ?_
      cases leaves_act step (open_of_follow rest hopen) with
      | change change _ _ hmakes =>
          rw [hmakes]
          exact h.changed change
      | find s hasks haccepted _ =>
          rw [if_pos haccepted, hasks] at hnone
          exact absurd (List.mem_singleton_self _) hnone.1
      | nothing _ hmakes =>
          rw [hmakes]
          exact h

end Builder

end Mailroom
