import Mailroom.Action

/-!
Properties of the state that an action keeps, whether it succeeds or fails. What each part of an
action keeps, the whole action keeps.
-/

namespace Mailroom.Action

variable {σ α β : Type} {P : σ → Prop}

/-- Wherever the property holds before the action, it holds after it. -/
def Keeps (P : σ → Prop) (x : Action σ α) : Prop := ∀ s, P s → P (x.run s).state

@[simp] theorem keeps_pure (a : α) : Keeps P (pure a : Action σ α) := fun _ hs => hs

@[simp] theorem keeps_fail (e : Fault) : Keeps P (fail e : Action σ α) := fun _ hs => hs

@[simp] theorem keeps_state : Keeps P (state : Action σ σ) := fun _ hs => hs

@[simp] theorem keeps_note (entry : Entry) : Keeps P (note entry) := fun _ hs => hs

@[simp] theorem keeps_ofExcept (x : Except Fault α) : Keeps P (ofExcept x : Action σ α) :=
  fun _ hs => hs

theorem keeps_update {f : σ → σ} (hf : ∀ s, P s → P (f s)) : Keeps P (update f) := hf

theorem Keeps.bind {x : Action σ α} {f : α → Action σ β} (hx : Keeps P x)
    (hf : ∀ a, Keeps P (f a)) : Keeps P (x >>= f) := by
  intro s hs
  cases h : (x.run s).result with
  | error e =>
      rw [run_bind_error h]
      exact hx s hs
  | ok a =>
      rw [run_bind_ok h]
      exact hf a _ (hx s hs)

/-- What holds before may change once the first part has succeeded. -/
theorem Keeps.bind_changing {R : σ → Prop} {x : Action σ α} {f : α → Action σ β} (hx : Keeps P x)
    (hPR : ∀ s, P s → R s) (hf : ∀ a s, P s → R ((f a).run s).state) {s : σ} (hs : P s) :
    R ((x >>= f).run s).state := by
  cases h : (x.run s).result with
  | error e =>
      rw [run_bind_error h]
      exact hPR _ (hx s hs)
  | ok a =>
      rw [run_bind_ok h]
      exact hf a _ (hx s hs)

theorem Keeps.guard {c : Prop} [Decidable c] {e : Fault} {next : Unit → Action σ α}
    (hnext : Keeps P (next ())) : Keeps P (if c then fail e >>= next else next ()) := by
  split
  · exact fun s hs => hs
  · exact hnext

theorem Keeps.attempt {x : Action σ α} (hx : Keeps P x) : Keeps P x.attempt := hx

end Mailroom.Action
