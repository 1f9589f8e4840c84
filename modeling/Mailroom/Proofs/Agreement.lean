import Mailroom.Action

/-!
Two actions side by side. They agree if, from related states, they end alike: with the same fault or
with related results, in related states, with the same log. What agrees part by part agrees as a
whole.
-/

namespace Mailroom

/-- The same fault, or related results. -/
inductive ResultsAgree {α β : Type} (Q : α → β → Prop) : Except Fault α → Except Fault β → Prop
  | fault (e : Fault) : ResultsAgree Q (.error e) (.error e)
  | value {a : α} {b : β} (related : Q a b) : ResultsAgree Q (.ok a) (.ok b)

namespace ResultsAgree

variable {α β γ δ : Type} {Q : α → β → Prop} {P : γ → δ → Prop}

theorem refl {Q : α → α → Prop} (hQ : ∀ a, Q a a) (x : Except Fault α) : ResultsAgree Q x x := by
  cases x with
  | error e => exact .fault e
  | ok a => exact .value (hQ a)

theorem bind {x : Except Fault α} {y : Except Fault β} {f : α → Except Fault γ}
    {g : β → Except Fault δ} (hx : ResultsAgree Q x y)
    (hf : ∀ a b, Q a b → ResultsAgree P (f a) (g b)) : ResultsAgree P (x >>= f) (y >>= g) := by
  cases hx with
  | fault e => exact .fault e
  | value hab => exact hf _ _ hab

/-- The rule for a computation that both sides begin with. -/
theorem seq (x : Except Fault α) {f : α → Except Fault γ} {g : α → Except Fault δ}
    (hf : ∀ a, ResultsAgree P (f a) (g a)) : ResultsAgree P (x >>= f) (x >>= g) :=
  (refl (fun a => Eq.refl a) x).bind fun a _ hab => hab ▸ hf a

theorem map {x : Except Fault α} {y : Except Fault β} {f : α → γ} {g : β → δ}
    (hx : ResultsAgree Q x y) (hf : ∀ a b, Q a b → P (f a) (g b)) :
    ResultsAgree P (x.map f) (y.map g) := by
  cases hx with
  | fault e => exact .fault e
  | value hab => exact .value (hf _ _ hab)

theorem exists_of_ok {x : Except Fault α} {b : β} (h : ResultsAgree Q x (.ok b)) :
    ∃ a, x = .ok a ∧ Q a b := by
  cases h with
  | value hab => exact ⟨_, rfl, hab⟩

theorem imp {P : α → β → Prop} {x : Except Fault α} {y : Except Fault β}
    (h : ResultsAgree Q x y) (hP : ∀ a b, x = .ok a → y = .ok b → Q a b → P a b) :
    ResultsAgree P x y := by
  cases h with
  | fault e => exact .fault e
  | value hab => exact .value (hP _ _ rfl rfl hab)

theorem eq {x y : Except Fault α} (h : ResultsAgree Eq x y) : x = y := by
  cases h with
  | fault e => rfl
  | value h => exact congrArg Except.ok h

end ResultsAgree

namespace Action

variable {σ τ π ρ α β γ δ : Type} {R : σ → τ → Prop} {Q : α → β → Prop} {P : γ → δ → Prop}

structure OutcomesAgree (R : σ → τ → Prop) (Q : α → β → Prop) (o : Outcome σ α)
    (o' : Outcome τ β) : Prop where
  result : ResultsAgree Q o.result o'.result
  state : R o.state o'.state
  log : o.log = o'.log

def Agrees (R : σ → τ → Prop) (Q : α → β → Prop) (x : Action σ α) (y : Action τ β) : Prop :=
  ∀ s t, R s t → OutcomesAgree R Q (x.run s) (y.run t)

/-- An action agrees with itself. -/
theorem agrees_self (x : Action σ α) : Agrees Eq Eq x x := by
  rintro s _ rfl
  exact ⟨.refl (fun _ => rfl) _, rfl, rfl⟩

theorem agrees_pure {a : α} {b : β} (h : Q a b) : Agrees R Q (pure a) (pure b) :=
  fun _ _ hst => ⟨.value h, hst, rfl⟩

theorem agrees_fail (e : Fault) : Agrees R Q (fail e) (fail e) :=
  fun _ _ hst => ⟨.fault e, hst, rfl⟩

theorem agrees_state : Agrees R R state state := fun _ _ hst => ⟨.value hst, hst, rfl⟩

theorem agrees_note {entry entry' : Entry} (h : entry = entry') :
    Agrees R Eq (note entry) (note entry') :=
  fun _ _ hst => ⟨.value rfl, hst, h ▸ rfl⟩

theorem agrees_update {f : σ → σ} {g : τ → τ} (h : ∀ s t, R s t → R (f s) (g t)) :
    Agrees R Eq (update f) (update g) :=
  fun s t hst => ⟨.value rfl, h s t hst, rfl⟩

theorem agrees_ofExcept {x : Except Fault α} {y : Except Fault β} (h : ResultsAgree Q x y) :
    Agrees R Q (ofExcept x) (ofExcept y) :=
  fun _ _ hst => ⟨h, hst, rfl⟩

theorem agrees_ofExcept_self (x : Except Fault α) : Agrees R Eq (ofExcept x) (ofExcept x) :=
  agrees_ofExcept (.refl (fun _ => rfl) x)

theorem Agrees.bind {x : Action σ α} {y : Action τ β} {f : α → Action σ γ} {g : β → Action τ δ}
    (hx : Agrees R Q x y) (hf : ∀ a b, Q a b → Agrees R P (f a) (g b)) :
    Agrees R P (x >>= f) (y >>= g) := by
  intro s t hst
  have hfirst := hx s t hst
  rw [run_bind, run_bind]
  revert hfirst
  rcases x.run s with ⟨result, s', log⟩
  rcases y.run t with ⟨result', t', log'⟩
  rintro ⟨hresult, hstate, hlog⟩
  dsimp only at hresult hstate hlog
  cases hresult with
  | fault e => exact ⟨.fault e, hstate, hlog⟩
  | value hab =>
      have hnext := hf _ _ hab s' t' hstate
      refine ⟨hnext.result, hnext.state, ?_⟩
      change log ++ _ = log' ++ _
      rw [hlog, hnext.log]

/-- The rule for two parts of which the second is not told of the result of the first. -/
theorem Agrees.seq {x : Action σ α} {y : Action τ α} {f : α → Action σ γ} {g : α → Action τ δ}
    (hx : Agrees R Eq x y) (hf : ∀ a, Agrees R P (f a) (g a)) :
    Agrees R P (x >>= f) (y >>= g) :=
  hx.bind fun a _ hab => hab ▸ hf a

theorem Agrees.within {S : π → ρ → Prop} {get : σ → π} {set : π → σ → σ} {get' : τ → ρ}
    {set' : ρ → τ → τ} {x : Action π α} {y : Action ρ β} (hx : Agrees S Q x y)
    (hget : ∀ s t, R s t → S (get s) (get' t))
    (hset : ∀ p q s t, S p q → R s t → R (set p s) (set' q t)) :
    Agrees R Q (Action.within get set x) (Action.within get' set' y) := by
  intro s t hst
  have hinner := hx _ _ (hget s t hst)
  exact ⟨hinner.result, hset _ _ s t hinner.state hst, hinner.log⟩

theorem Agrees.attempt {x : Action σ α} {y : Action τ β} (hx : Agrees R Q x y) :
    Agrees R (ResultsAgree Q) x.attempt y.attempt := by
  intro s t hst
  have hinner := hx s t hst
  exact ⟨.value hinner.result, hinner.state, hinner.log⟩

end Action

end Mailroom
