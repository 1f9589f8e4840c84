import Mailroom.Fault

/-!
Actions on a state. An action leaves a state behind whether it succeeds or fails, and what it wrote
to the log stays written; so a failure after a change shows the change.
-/

namespace Mailroom

inductive Level
  | debug
  | info
  | warning
  deriving DecidableEq, Repr

def Level.name : Level → String
  | debug => "DEBUG"
  | info => "INFO"
  | warning => "WARNING"

/-- The parts of the mail room that keep a log. -/
inductive Channel
  | session
  | builder
  | delivery
  | mailer
  deriving DecidableEq, Repr

def Channel.name : Channel → String
  | session => "repoze.mailbuilder.session"
  | builder => "repoze.mailbuilder.MessageBuilder"
  | delivery => "repoze.mailbuilder.delivery"
  | mailer => "repoze.mailbuilder.SMTPMailer"

/-- One line of the log. A line whose text cannot be made is written with the reason instead, and
does not disturb who wrote it. -/
structure Entry where
  channel : Channel
  level : Level
  text : Except Fault String

@[simp] theorem isOk_ok {α : Type} (a : α) : (.ok a : Except Fault α).isOk = true := rfl

@[simp] theorem isOk_error {α : Type} (e : Fault) : (.error e : Except Fault α).isOk = false := rfl

structure Outcome (σ α : Type) where
  result : Except Fault α
  state : σ
  log : List Entry

structure Action (σ α : Type) where
  run : σ → Outcome σ α

namespace Action

variable {σ τ α β γ : Type}

protected def pure (a : α) : Action σ α := ⟨fun s => ⟨.ok a, s, []⟩⟩

protected def bind (x : Action σ α) (f : α → Action σ β) : Action σ β :=
  ⟨fun s =>
    let first := x.run s
    match first.result with
    | .error e => ⟨.error e, first.state, first.log⟩
    | .ok a =>
        let next := (f a).run first.state
        ⟨next.result, next.state, first.log ++ next.log⟩⟩

instance : Monad (Action σ) where
  pure := Action.pure
  bind := Action.bind

protected theorem pure_bind (a : α) (f : α → Action σ β) : (Action.pure a).bind f = f a := by
  cases h : f a with
  | mk run => simp [Action.pure, Action.bind, h]

protected theorem bind_pure (x : Action σ α) : x.bind Action.pure = x := by
  cases x with
  | mk run =>
      simp only [Action.bind, Action.pure, mk.injEq]
      funext s
      obtain ⟨result, state, log⟩ := run s
      cases result with
      | error e => rfl
      | ok a => simp

protected theorem bind_assoc (x : Action σ α) (f : α → Action σ β) (g : β → Action σ γ) :
    (x.bind f).bind g = x.bind fun a => (f a).bind g := by
  simp only [Action.bind, mk.injEq]
  funext s
  cases (x.run s).result with
  | error e => rfl
  | ok a =>
      dsimp only
      cases ((f a).run (x.run s).state).result with
      | error e => rfl
      | ok b => simp [List.append_assoc]

instance : LawfulMonad (Action σ) :=
  LawfulMonad.mk' (Action σ) Action.bind_pure Action.pure_bind Action.bind_assoc

def fail (e : Fault) : Action σ α := ⟨fun s => ⟨.error e, s, []⟩⟩

def state : Action σ σ := ⟨fun s => ⟨.ok s, s, []⟩⟩

def update (f : σ → σ) : Action σ Unit := ⟨fun s => ⟨.ok (), f s, []⟩⟩

def note (entry : Entry) : Action σ Unit := ⟨fun s => ⟨.ok (), s, [entry]⟩⟩

/-- A computation that may fail and touches nothing. -/
def ofExcept (x : Except Fault α) : Action σ α := ⟨fun s => ⟨x, s, []⟩⟩

/-- An action on a part of the state. -/
def within (get : σ → τ) (set : τ → σ → σ) (x : Action τ α) : Action σ α :=
  ⟨fun s =>
    let inner := x.run (get s)
    ⟨inner.result, set inner.state s, inner.log⟩⟩

/-- An action on the first of two states. -/
def onFirst (x : Action σ α) : Action (σ × τ) α := within Prod.fst (fun s all => (s, all.2)) x

/-- An action on the second of two states. -/
def onSecond (x : Action τ α) : Action (σ × τ) α := within Prod.snd (fun t all => (all.1, t)) x

/-- An action on a state of its own, which nobody sees. -/
def onOwn (s : σ) (x : Action σ α) : Action Unit α :=
  ⟨fun _ =>
    let inner := x.run s
    ⟨inner.result, (), inner.log⟩⟩

/-- Runs `x` and hands over its result, a failure too. -/
def attempt (x : Action σ α) : Action σ (Except Fault α) :=
  ⟨fun s =>
    let inner := x.run s
    ⟨.ok inner.result, inner.state, inner.log⟩⟩

@[simp] theorem run_pure (a : α) (s : σ) : (pure a : Action σ α).run s = ⟨.ok a, s, []⟩ := rfl

@[simp] theorem run_fail (e : Fault) (s : σ) :
    (fail e : Action σ α).run s = ⟨.error e, s, []⟩ := rfl

@[simp] theorem run_state (s : σ) : (state : Action σ σ).run s = ⟨.ok s, s, []⟩ := rfl

@[simp] theorem run_update (f : σ → σ) (s : σ) : (update f).run s = ⟨.ok (), f s, []⟩ := rfl

@[simp] theorem run_note (entry : Entry) (s : σ) : (note entry).run s = ⟨.ok (), s, [entry]⟩ := rfl

@[simp] theorem run_ofExcept (x : Except Fault α) (s : σ) :
    (ofExcept x : Action σ α).run s = ⟨x, s, []⟩ := rfl

@[simp] theorem run_within (get : σ → τ) (set : τ → σ → σ) (x : Action τ α) (s : σ) :
    (within get set x).run s =
      ⟨(x.run (get s)).result, set (x.run (get s)).state s, (x.run (get s)).log⟩ := rfl

@[simp] theorem run_onFirst (x : Action σ α) (s : σ × τ) :
    (onFirst x).run s = ⟨(x.run s.1).result, ((x.run s.1).state, s.2), (x.run s.1).log⟩ := rfl

@[simp] theorem run_onSecond (x : Action τ α) (s : σ × τ) :
    (onSecond x).run s = ⟨(x.run s.2).result, (s.1, (x.run s.2).state), (x.run s.2).log⟩ := rfl

@[simp] theorem run_onOwn (s : σ) (x : Action σ α) :
    (onOwn s x).run () = ⟨(x.run s).result, (), (x.run s).log⟩ := rfl

@[simp] theorem run_attempt (x : Action σ α) (s : σ) :
    (attempt x).run s = ⟨.ok (x.run s).result, (x.run s).state, (x.run s).log⟩ := rfl

theorem run_bind (x : Action σ α) (f : α → Action σ β) (s : σ) :
    (x >>= f).run s =
      match (x.run s).result with
      | .error e => ⟨.error e, (x.run s).state, (x.run s).log⟩
      | .ok a =>
          ⟨((f a).run (x.run s).state).result, ((f a).run (x.run s).state).state,
            (x.run s).log ++ ((f a).run (x.run s).state).log⟩ := rfl

@[simp] theorem run_map (f : α → β) (x : Action σ α) (s : σ) :
    (f <$> x).run s = ⟨(x.run s).result.map f, (x.run s).state, (x.run s).log⟩ := by
  rw [← bind_pure_comp, run_bind]
  cases h : (x.run s).result with
  | error e => rfl
  | ok a => simp [Except.map]

theorem run_bind_error {x : Action σ α} {f : α → Action σ β} {s : σ} {e : Fault}
    (h : (x.run s).result = .error e) :
    (x >>= f).run s = ⟨.error e, (x.run s).state, (x.run s).log⟩ := by
  rw [run_bind, h]

theorem run_bind_ok {x : Action σ α} {f : α → Action σ β} {s : σ} {a : α}
    (h : (x.run s).result = .ok a) :
    (x >>= f).run s =
      ⟨((f a).run (x.run s).state).result, ((f a).run (x.run s).state).state,
        (x.run s).log ++ ((f a).run (x.run s).state).log⟩ := by
  rw [run_bind, h]

end Action

end Mailroom
