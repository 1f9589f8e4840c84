import Mathlib.Data.List.Forall2
import Mailroom.Proofs.Builder.Alike
import Mailroom.Proofs.Relay.Encryption

/-!
The password of a builder reaches the login and nothing else. Two runs of a builder that differ in
the passwords given to it show the same, page by page: the same answers, log and mail, the same
words to the relay but for the password in the login.
-/

namespace Mailroom.Builder

open Mailroom.Action Mailroom.Relay

/-- What is done with a builder one after the other: a call, at a time of its own; a send, with the
relay as the courier; or the message that was built is taken to the relay. -/
inductive Errand
  | call (now : Moment) (asked : Call)
  | send (now : Moment) (server : Server)
  | post (server : Server)

inductive Errand.Alike : Errand → Errand → Prop
  | same (e : Errand) : Alike e e
  | call (now : Moment) {asked asked' : Call} (calls : asked.Alike asked') :
      Alike (.call now asked) (.call now asked')

def relayCourier (server : Server) : Courier Dialogue := fun m => do
  Relay.send server (some m)
  return .nothing

def Errand.act (links : List Session.Link) (policy : Policy) :
    Errand → Action (Builder × Dialogue) Answer
  | .call now asked => .onFirst (perform ⟨links, policy, now⟩ asked)
  | .send now server => do
      return .value (← Builder.send ⟨links, policy, now⟩ (some (relayCourier server)))
  | .post server => do
      let (b, _) ← .state
      .onSecond (Relay.send server b.message)
      return .value .nothing

/-- What an errand shows: how it ended, what it wrote to the log, what the relay heard of it and
the builder that it left behind. -/
structure Page where
  answer : Except Fault Answer
  log : List Entry
  calls : List Relay.Call
  builder : Builder

def Errand.page (links : List Session.Link) (policy : Policy) (e : Errand) (b : Builder) : Page :=
  let o := (e.act links policy).run (b, .initial)
  ⟨o.result, o.log, o.state.2.calls, o.state.1⟩

/-- The pages of a run. -/
def journal (links : List Session.Link) (policy : Policy) : List Errand → Builder → List Page
  | [], _ => []
  | e :: rest, b =>
      let page := e.page links policy b
      page :: journal links policy rest page.builder

/-- Pages that tell passwords apart at no other place than in an account and in the settings
themselves, and in the login. -/
structure Page.Alike (p q : Page) : Prop where
  answer : ResultsAgree Answer.Alike p.answer q.answer
  log : p.log = q.log
  calls : p.calls.map Call.withoutPassword = q.calls.map Call.withoutPassword
  builder : p.builder.Alike q.builder
  settings : p.builder.settings.shown = q.builder.settings.shown
  sessions : p.builder.session.map Session.shown = q.builder.session.map Session.shown
  mail : p.builder.message.map (fun m => m.entity >>= Wire.Entity.write) =
    q.builder.message.map fun m => m.entity >>= Wire.Entity.write

section Runs

theorem map_eq_map_of_rel {α β γ : Type} {R : α → β → Prop} {x : Option α} {y : Option β}
    {f : α → γ} {g : β → γ} (h : Option.Rel R x y) (hfg : ∀ a b, R a b → f a = g b) :
    x.map f = y.map g := by
  cases h with
  | none => rfl
  | some hab => exact congrArg some (hfg _ _ hab)

variable {links : List Session.Link} {b c : Builder}

/-- The builder and the dialogue side by side. -/
def BothAlike (p q : Builder × Dialogue) : Prop := p.1.Alike q.1 ∧ p.2.Alike q.2

theorem agrees_onFirst {α β : Type} {Q : α → β → Prop} {x : Action Builder α}
    {y : Action Builder β} (h : Agrees Alike Q x y) :
    Agrees BothAlike Q (onFirst x) (onFirst y) :=
  h.within (fun _ _ hpq => hpq.1) fun _ _ _ _ hbc hpq => ⟨hbc, hpq.2⟩

theorem agrees_onSecond {α β : Type} {Q : α → β → Prop} {x : Action Dialogue α}
    {y : Action Dialogue β} (h : Agrees Dialogue.Alike Q x y) :
    Agrees BothAlike Q (onSecond x) (onSecond y) :=
  h.within (fun _ _ hpq => hpq.2) fun _ _ _ _ hde hpq => ⟨hpq.1, hde⟩

variable (hlinks : ∀ link ∈ links, Session.Link.IsDiscreet link) (policy : Policy)
include hlinks

theorem agrees_act {e e' : Errand} (h : e.Alike e') :
    Agrees BothAlike Answer.Alike (e.act links policy) (e'.act links policy) := by
  have hrules (now : Moment) : ∀ link ∈ (Rules.mk links policy now).links,
      Session.Link.IsDiscreet link := hlinks
  have hcall (now : Moment) {asked asked' : Call} (hasked : asked.Alike asked') :
      Agrees BothAlike Answer.Alike (Errand.act links policy (.call now asked))
        (Errand.act links policy (.call now asked')) :=
    agrees_onFirst (agrees_perform (hrules now) hasked)
  cases h with
  | call now hasked => exact hcall now hasked
  | same =>
      cases e with
      | call now asked => exact hcall now (.same asked)
      | send now server =>
          have hcarry {m n : Message} (hmn : m.Alike n) :
              Agrees Dialogue.Alike Eq (relayCourier server m) (relayCourier server n) :=
            (agrees_send server hmn).seq fun _ => agrees_pure rfl
          refine Agrees.seq ?_ fun v => agrees_pure (.value v)
          exact (agrees_onFirst (agrees_build (hrules now))).bind fun m n hmn =>
            agrees_onSecond (hcarry hmn)
      | post server =>
          refine agrees_state.bind fun p q hpq => ?_
          refine Agrees.seq (agrees_onSecond ?_) fun _ => agrees_pure (.value .nothing)
          match p.1.message, q.1.message, hpq.1.message with
          | none, none, .none => exact agrees_fail _
          | some m, some n, .some hmn => exact agrees_send server hmn

theorem page_alike {e e' : Errand} (h : e.Alike e') (hbc : b.Alike c) :
    (e.page links policy b).Alike (e'.page links policy c) := by
  have houtcome := agrees_act hlinks policy h (b, .initial) (c, .initial) ⟨hbc, rfl, rfl⟩
  have hbuilder := houtcome.state.1
  refine ⟨houtcome.result, houtcome.log, houtcome.state.2.calls, hbuilder,
    hbuilder.settings.shown, ?_, ?_⟩
  · exact map_eq_map_of_rel hbuilder.session fun _ _ hst => hst.shown
  · exact map_eq_map_of_rel hbuilder.message fun _ _ hmn => by rw [hmn.entity]

theorem journal_alike {errands errands' : List Errand}
    (herrands : List.Forall₂ Errand.Alike errands errands') (hbc : b.Alike c) :
    List.Forall₂ Page.Alike (journal links policy errands b) (journal links policy errands' c) := by
  induction herrands generalizing b c with
  | nil => exact .nil
  | cons he hrest ih =>
      have hpage := page_alike hlinks policy he hbc
      exact .cons hpage (ih hpage.builder)

end Runs

theorem ofSettings_alike {c d : Settings} (h : c.Alike d) : (ofSettings c).Alike (ofSettings d) :=
  ⟨h, rfl, rfl, rfl, rfl, rfl, rfl, .none, .none, .none, rfl, rfl⟩

/-- Whatever is done with two builders and a relay, in which only passwords differ that are texts in
both: the runs show the same but for these passwords, which are found in the settings, the accounts
and the logins only. -/
theorem password_reaches_login_only {links : List Session.Link} (policy : Policy)
    (hlinks : ∀ link ∈ links, link ∈ Session.standardLinks ∨ link.IsDiscreet) {c d : Settings}
    (hsettings : c.Alike d) {errands errands' : List Errand}
    (herrands : List.Forall₂ Errand.Alike errands errands') :
    List.Forall₂ Page.Alike (journal links policy errands (ofSettings c))
      (journal links policy errands' (ofSettings d)) := by
  have hdiscreet : ∀ link ∈ links, Session.Link.IsDiscreet link := fun link hlink =>
    (hlinks link hlink).elim Session.isDiscreet_of_mem_standardLinks id
  exact journal_alike hdiscreet policy herrands (ofSettings_alike hsettings)

def namedSettings (password : String) : Settings :=
  { Settings.initial with
    hostName := .text "h", username := .text "user", password := .text password }

/-- The account is changed before the message is sent. -/
def namedErrands (password : String) : List Errand :=
  let now : Moment := ⟨2024, 1, 1, 12, 0, 0, 0, none⟩
  [.call now .getSession, .call now (.setSender (.text "a@b.c") .nothing),
    .call now (.addRecipients .addressee [.text "x@y.z"]),
    .call now (.setAccount (.text "other") (.text password)), .call now (.setSession none),
    .send now .obliging, .post .obliging]

theorem named_runs_show_the_same :
    let run := fun old new =>
      journal Session.standardLinks .required (namedErrands new) (ofSettings (namedSettings old))
    List.Forall₂ Page.Alike (run "a" "b") (run "c" "") := by
  have hsettings : (namedSettings "a").Alike (namedSettings "c") := by
    refine ⟨fun setting hother => ?_, .texts "a" "c"⟩
    cases setting <;> first | rfl | exact absurd rfl hother
  have herrands : List.Forall₂ Errand.Alike (namedErrands "b") (namedErrands "") :=
    .cons (.same _) (.cons (.same _) (.cons (.same _) (.cons (.call _ (.account _ (.texts _ _)))
      (.cons (.same _) (.cons (.same _) (.cons (.same _) .nil))))))
  exact password_reaches_login_only .required (fun _ => .inl) hsettings herrands

end Mailroom.Builder
