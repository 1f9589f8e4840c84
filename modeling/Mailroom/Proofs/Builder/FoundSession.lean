import Mailroom.Proofs.Builder.Replay
import Mailroom.Proofs.Session.Flags

/-!
The session of a builder. It is found when it is first asked for and then kept, whatever is set
afterwards, until another explicit session is given; the message keeps it for ever. What a step may
do about the session is said once. The host name is told before the session is found, and it is the
host of that session.

Links may be anybody's, and get hold of the explicit session and of the settings. What is assumed of
them is `Session.Look.leaves`: a link only looks. All else is shown, for any links.
-/

namespace Mailroom.Builder

open Mailroom.Action

variable {τ : Type} {rules : Rules} {b b' : Builder} {s : Session} {w : Builder × τ}

/-- What the links make of an explicit session and of the settings that the builder has now. -/
def resolved (rules : Rules) (e : Option Session) (b : Builder) : Except Fault Session :=
  ((Session.resolve rules.links e b.settings b.found).run ()).result

/-- The session that an answer brings, which may be that of a message. -/
def Answer.session? : Answer → Option Session
  | .value _ => none
  | .session s => some s
  | .message m => m.session

/-! ### Asking for the session -/

theorem result_getSession_of_some (rules : Rules) (h : b.session = some s) :
    ((getSession rules).run b).result = .ok s := by
  rw [run_getSession_of_some rules h]

theorem result_getSession_of_none (rules : Rules) (h : b.session = none) :
    ((getSession rules).run b).result = resolved rules b.explicit b := by
  rw [run_getSession_of_none rules h, resolved]
  dsimp only
  cases ((Session.resolve rules.links b.explicit b.settings b.found).run ()).result <;> rfl

theorem run_perform_getSession (rules : Rules) (b : Builder) :
    (perform rules .getSession).run b =
      ⟨((getSession rules).run b).result.map .session, ((getSession rules).run b).state,
        ((getSession rules).run b).log⟩ := by
  rw [← run_map Answer.session, map_eq_pure_bind]
  rfl

/-- The run gives no explicit session, though it may try to. -/
def GivesNone (steps : List (Step τ)) (w : Builder × τ) : Prop :=
  ∀ e, .setSession e ∉ accepted steps w

/-- The run finds no session: nobody who asks for it gets one, and no message is made. -/
structure FindsNone (steps : List (Step τ)) (w : Builder × τ) : Prop where
  notAsked : .getSession ∉ accepted steps w
  isOpen : (follow steps w).1.progress ≠ .built

theorem accepted_cons (step : Step τ) (rest : List (Step τ)) (w : Builder × τ) :
    accepted (step :: rest) w = accepted [step] w ++ accepted rest (step.act.run w).state := by
  simp only [accepted, List.append_nil]

theorem GivesNone.cons {step : Step τ} {rest : List (Step τ)} (h : GivesNone (step :: rest) w) :
    GivesNone [step] w ∧ GivesNone rest (step.act.run w).state := by
  refine ⟨fun e he => h e ?_, fun e he => h e ?_⟩
  · rw [accepted_cons]
    exact List.mem_append_left _ he
  · rw [accepted_cons]
    exact List.mem_append_right _ he

theorem FindsNone.cons {step : Step τ} {rest : List (Step τ)} (h : FindsNone (step :: rest) w) :
    FindsNone [step] w ∧ FindsNone rest (step.act.run w).state := by
  have hasked := h.notAsked
  rw [accepted_cons, List.mem_append, not_or] at hasked
  exact ⟨⟨hasked.1, open_of_follow rest h.isOpen⟩, ⟨hasked.2, h.isOpen⟩⟩

/-- The host name stays the same while the session is found. -/
theorem hostName_getSession (policy : Policy) (now : Moment) (b : Builder) :
    ((getSession ⟨Session.standardLinks, policy, now⟩).run b).state.hostName = b.hostName ∧
      ∀ s, ((getSession ⟨Session.standardLinks, policy, now⟩).run b).result = .ok s →
        b.hostName = s.host := by
  let rules : Rules := ⟨Session.standardLinks, policy, now⟩
  cases hsession : b.session with
  | some s =>
      have hhost : b.hostName = s.host := by rw [hostName, hsession]; rfl
      obtain hkept | ⟨hnone, -⟩ := run_getSession_cases rules b
      · refine ⟨congrArg hostName hkept, fun u hu => ?_⟩
        obtain rfl := Except.ok.inj ((result_getSession_of_some rules hsession).symm.trans hu)
        exact hhost
      · rw [hsession] at hnone
        cases hnone
  | none =>
      have hhost {s : Session} (hs : ((getSession rules).run b).result = .ok s) :
          b.hostName = s.host := by
        rw [result_getSession_of_none rules hsession] at hs
        rw [Session.host_of_resolve hs, hostName, hsession]
        cases b.explicit <;> rfl
      refine ⟨?_, fun s hs => hhost hs⟩
      obtain hkept | ⟨-, s, hs, hfound⟩ := run_getSession_cases rules b
      · exact congrArg hostName hkept
      · rw [hhost hs]
        exact congrArg hostName hfound

/-- Whatever a builder has been through, the standard links find a session with the host that the
builder names before and after; where they find none it names the same host too. Asking for the host
always has an answer and changes nothing. -/
theorem host_name_predicts_session (policy : Policy) (now : Moment) (b : Builder) :
    let rules : Rules := ⟨Session.standardLinks, policy, now⟩
    let asked := (perform rules .getSession).run b
    (perform rules .getHost).run b = ⟨.ok (.value b.hostName), b, []⟩ ∧
      (∀ s, asked.result = .ok (.session s) → b.hostName = s.host) ∧
      (perform rules .getHost).run asked.state = ⟨.ok (.value b.hostName), asked.state, []⟩ := by
  intro rules asked
  obtain ⟨hkept, hhost⟩ := hostName_getSession policy now b
  have hasked : asked.state.hostName = b.hostName := by
    rw [show asked = _ from run_perform_getSession rules b]
    exact hkept
  refine ⟨rfl, fun s hs => ?_, ?_⟩
  · rw [show asked = _ from run_perform_getSession rules b] at hs
    obtain ⟨u, hu, hsame⟩ := exists_of_map_eq_ok hs
    obtain rfl := Answer.session.inj hsame
    exact hhost u hu
  · rw [← hasked]
    rfl

end Mailroom.Builder
