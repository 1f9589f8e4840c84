import Mailroom.Proofs.Builder.Calls
import Mailroom.Proofs.Builder.FailedBuild

/-!
The life of a builder: empty, then configured, then built, and built for ever. What one step may
make of a builder is said once; what a run keeps follows by induction on its steps.
-/

namespace Mailroom.Builder

open Mailroom.Action

variable {τ : Type} {rules : Rules} {b b' : Builder} {call : Call}

/-- A step of a run: a call, or a send through a courier with a state of its own. The time goes on
and the policy may be another one, so each step has its rules. -/
inductive Step (τ : Type)
  | call (rules : Rules) (c : Call)
  | send (rules : Rules) (courier : Option (Courier τ))

namespace Step

def act : Step τ → Action (Builder × τ) Answer
  | .call rules c => .onFirst (perform rules c)
  | .send rules courier => do return .value (← Builder.send rules courier)

/-- The call that a step comes to for the builder. A send without a courier comes to none. -/
def duty : Step τ → Option (Rules × Call)
  | .call rules c => some (rules, c)
  | .send _ none => none
  | .send rules (some _) => some (rules, .build)

end Step

/-- A builder and the state of the couriers after some steps, those that were refused included. -/
def follow : List (Step τ) → Builder × τ → Builder × τ
  | [], w => w
  | step :: rest, w => follow rest (step.act.run w).state

theorem follow_append (first second : List (Step τ)) (w : Builder × τ) :
    follow (first ++ second) w = follow second (follow first w) := by
  induction first generalizing w with
  | nil => rfl
  | cons step rest ih => exact ih _

theorem run_build_answer (rules : Rules) (b : Builder) :
    ((perform rules .build).run b).state = ((build rules).run b).state := by
  have hperform := run_map Answer.message (build rules) b
  rw [map_eq_pure_bind] at hperform
  exact congrArg Outcome.state hperform

theorem state_act (step : Step τ) (w : Builder × τ) :
    (step.act.run w).state.1 = match step.duty with
      | none => w.1
      | some (rules, c) => ((perform rules c).run w.1).state := by
  cases step with
  | call rules c => rfl
  | send rules courier =>
      have hstate := congrArg Outcome.state (run_map Answer.value (Builder.send rules courier) w)
      rw [map_eq_pure_bind] at hstate
      rw [Step.act, hstate]
      cases courier with
      | none => rfl
      | some carry =>
          rw [Step.duty]
          dsimp only
          rw [run_build_answer, Builder.send, run_bind, run_onFirst]
          cases ((build rules).run w.1).result <;> rfl

/-- A build keeps the builder, or it had a sender and is built. -/
theorem run_build_cases (rules : Rules) (b : Builder) :
    ((build rules).run b).state = b ∨
      b.progress ≠ .built ∧ b.sender.isSome = true ∧ ∃ s found m, ((build rules).run b).state =
        { b with session := some s, found := found, message := some m, progress := .built } := by
  by_cases hready : b.IsReady rules
  · exact .inr ⟨hready.isOpen, hready.sender, (run_build_of_ready hready).1⟩
  · exact .inl (run_build_of_not_ready hready).2

/-! ### One step -/

theorem message_changed (b : Builder) (change : Change) :
    (changed b change).message = b.message := by
  cases change <;> rfl

/-- What one step may make of a builder. -/
inductive Moves (b : Builder) : Builder → Prop
  | stay : Moves b b
  | find (s : Session) (found : Nat) : Moves b { b with session := some s, found := found }
  | change (isOpen : b.progress ≠ .built) (change : Change) : Moves b (changed b change)
  | build (isOpen : b.progress ≠ .built) (hasSender : b.sender.isSome = true) (s : Session)
      (found : Nat) (m : Message) :
      Moves b { b with session := some s, found := found, message := some m, progress := .built }

theorem moves_build (rules : Rules) (b : Builder) : Moves b ((build rules).run b).state := by
  rcases run_build_cases rules b with hkept | ⟨hopen, hsender, s, found, m, hstate⟩
  · rw [hkept]
    exact .stay
  · rw [hstate]
    exact .build hopen hsender s found m

theorem moves_perform (rules : Rules) (call : Call) (b : Builder) :
    Moves b ((perform rules call).run b).state := by
  cases hasked : call.change? with
  | some asked =>
      by_cases hbuilt : b.progress = .built
      · rw [run_perform_of_built hbuilt rules (.inl (isMutator_iff.mpr ⟨asked, hasked⟩))]
        exact .stay
      · rw [run_perform_of_open hbuilt rules hasked]
        cases asked with
        | error e => exact .stay
        | ok change => exact .change hbuilt change
  | none =>
      rcases eq_build_or_isGetter hasked with rfl | hgetter
      · rw [run_build_answer]
        exact moves_build rules b
      · rcases run_getter rules b hgetter with hkept | ⟨-, -, s, -, hstate⟩
        · rw [hkept]
          exact .stay
        · rw [hstate]
          exact .find s _

theorem moves_act (step : Step τ) (w : Builder × τ) :
    Moves w.1 (step.act.run w).state.1 := by
  rw [state_act]
  cases step.duty with
  | none => exact .stay
  | some duty => exact moves_perform duty.1 duty.2 w.1

/-- A message is there just if the builder is built, and an empty builder has no sender. -/
structure Sound (b : Builder) : Prop where
  message : b.message = none ↔ b.progress ≠ .built
  sender : b.progress = .empty → b.sender = none

theorem sound_ofSettings (c : Settings) : (ofSettings c).Sound :=
  ⟨⟨fun _ => nofun, fun _ => rfl⟩, fun _ => rfl⟩

theorem Moves.sound (h : Moves b b') (hb : b.Sound) : b'.Sound := by
  cases h with
  | stay => exact hb
  | find s found => exact ⟨hb.message, hb.sender⟩
  | change hopen change =>
      refine ⟨?_, nofun⟩
      rw [message_changed]
      exact ⟨fun _ => nofun, fun _ => hb.message.mpr hopen⟩
  | build hopen hsender s found m => exact ⟨by simp, nofun⟩

/-- The steps of the progress are taken one at a time, and none of them back. -/
theorem Moves.code_bounds (h : Moves b b') (hb : b.Sound) :
    b.progress.code ≤ b'.progress.code ∧ b'.progress.code ≤ b.progress.code + 1 := by
  cases h with
  | stay | find => exact ⟨Nat.le_refl _, Nat.le_succ _⟩
  | change hopen change =>
      cases hprogress : b.progress with
      | built => exact absurd hprogress hopen
      | empty | configured => simp [changed, Progress.code]
  | build hopen hsender s found m =>
      cases hprogress : b.progress with
      | built => exact absurd hprogress hopen
      -- Without a sender nothing is built, so the middle step is never left out.
      | empty => simp [hb.sender hprogress] at hsender
      | configured => simp [Progress.code]

theorem Moves.message_eq (h : Moves b b') (hb : b.Sound) {m : Message}
    (hm : b.message = some m) : b'.message = some m := by
  have hbuilt : b.progress = .built := by
    by_contra hopen
    rw [hb.message.mpr hopen] at hm
    cases hm
  cases h with
  | stay => exact hm
  | find => exact hm
  | change hopen => exact absurd hbuilt hopen
  | build hopen => exact absurd hbuilt hopen

/-! ### Runs -/

theorem sound_follow {w : Builder × τ} (steps : List (Step τ)) (hw : w.1.Sound) :
    (follow steps w).1.Sound := by
  induction steps generalizing w with
  | nil => exact hw
  | cons step rest ih => exact ih ((moves_act step w).sound hw)

theorem message_follow {w : Builder × τ} (steps : List (Step τ)) (hw : w.1.Sound) {m : Message}
    (hm : w.1.message = some m) : (follow steps w).1.message = some m := by
  induction steps generalizing w with
  | nil => exact hm
  | cons step rest ih =>
      have hmoves := moves_act step w
      exact ih (hmoves.sound hw) (hmoves.message_eq hw hm)

/-- After any run a builder is empty, configured or built, and the next step takes it at most one of
these further and never back. It has a message just if it is built, and keeps it for ever. Once it
is built it refuses all that would change it; before, a call that is refused changes nothing. A call
that asks changes nothing either, but for the session that it finds. -/
theorem lifecycle (c : Settings) (steps : List (Step τ)) (t : τ) :
    let w := follow steps (ofSettings c, t)
    let b := w.1
    (∀ step : Step τ, b.progress.code ≤ (step.act.run w).state.1.progress.code ∧
      (step.act.run w).state.1.progress.code ≤ b.progress.code + 1) ∧
    (b.message = none ↔ b.progress ≠ .built) ∧
    (∀ m, b.message = some m →
      ∀ more, (follow (steps ++ more) (ofSettings c, t)).1.message = some m) ∧
    (b.progress = .built → ∀ rules call, call.isMutator = true ∨ call = .build →
      (perform rules call).run b = ⟨.error .alreadyBuilt, b, []⟩) ∧
    (b.progress ≠ .built → ∀ rules call, call.isMutator = true →
      ((perform rules call).run b).result.isOk = false → ((perform rules call).run b).state = b) ∧
    ∀ rules call, call.isGetter = true →
      ((perform rules call).run b).state = b ∨
        call = .getSession ∧ b.session = none ∧
          ∃ s, ((perform rules call).run b).result = .ok (.session s) ∧
            ((perform rules call).run b).state =
              { b with session := some s, found := b.found + 1 } := by
  intro w b
  have hb : b.Sound := sound_follow steps (sound_ofSettings c)
  refine ⟨fun step => (moves_act step w).code_bounds hb, hb.message, fun m hm more => ?_,
    fun hbuilt rules call hcall => run_perform_of_built hbuilt rules hcall,
    fun hopen rules call hcall hrefused => ?_, fun rules call hcall => run_getter rules b hcall⟩
  · rw [follow_append]
    exact message_follow more hb hm
  · obtain ⟨asked, hasked⟩ := isMutator_iff.mp hcall
    rw [run_perform_of_open hopen rules hasked] at hrefused ⊢
    cases asked with
    | error e => rfl
    | ok change => cases hrefused

end Mailroom.Builder
