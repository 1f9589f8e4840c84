import Mailroom.Office
import Mailroom.Proofs.Builder.BuiltMessage
import Mailroom.Proofs.Delivery.OneMessage

/-!
One builder sends one mail. A builder builds once, so at most one message gets from it to the desk;
and the desk hands over at most what is sent. Whatever is done in which order, the mailer takes at
most one message, in a commit of the transaction in which the builder sent it.
-/

namespace Mailroom.Office

open Mailroom.Action Mailroom.Delivery

variable {τ : Type} {service : Service}

/-- A step that puts a message on the desk without the builder. -/
def Step.isDirect : Step → Bool
  | .desk (.send _) => true
  | _ => false

/-- What happens in an office whose desk serves one builder only: a step of the office, or a send
of the builder to somewhere else, or to nowhere. The time goes on and the policy may be another
one, so each errand has its rules. -/
inductive Errand (τ : Type)
  | step (rules : Rules) (s : Step) (indirect : s.isDirect = false)
  | elsewhere (rules : Rules) (courier : Option (Builder.Courier τ))

namespace Errand

def act (service : Service) : Errand τ → Action (Office × τ) Builder.Answer
  | step rules s _ => .onFirst (perform rules service s)
  | elsewhere rules courier =>
      .within (fun w => (w.1.builder, w.2)) (fun (b, t) w => ({ w.1 with builder := b }, t)) do
        return .value (← Builder.send rules courier)

/-- The builder sends its message to the desk. -/
def send (rules : Rules) : Errand τ := step rules .send rfl

def commit (rules : Rules) : Errand τ := step rules (.desk (.commit .own)) rfl

end Errand

/-- The office after some errands, those that failed included. -/
def follow (service : Service) : List (Errand τ) → Office × τ → Office × τ
  | [], w => w
  | e :: rest, w => follow service rest ((e.act service).run w).state

theorem follow_append (service : Service) (first second : List (Errand τ)) (w : Office × τ) :
    follow service (first ++ second) w = follow service second (follow service first w) := by
  induction first generalizing w with
  | nil => rfl
  | cons e rest ih => exact ih _

/-! ### One errand -/

/-- What one errand may do: it concerns the builder only, or the desk only, or the builder builds a
message that goes to the desk. -/
inductive Goes (service : Service) (w : Office × τ) (e : Errand τ)
    (o : Outcome (Office × τ) Builder.Answer) : Prop
  | inside (desk : o.state.1.desk = w.1.desk) (moves : Builder.Moves w.1.builder o.state.1.builder)
      (quiet : ∀ rules step h, e ≠ .step rules (.desk step) h)
  | atDesk (rules : Rules) (step : Desk.Step) (indirect : step.isSend = false)
      (is : ∃ h, e = .step rules (.desk step) h) (builder : o.state.1.builder = w.1.builder)
      (desk : o.state.1.desk = ((Desk.perform service step).run w.1.desk).state)
  | through (rules : Rules) (m : Message) (is : e = .send rules)
      (built : ((Builder.build rules).run w.1.builder).result = .ok m)
      (builder : o.state.1.builder = ((Builder.build rules).run w.1.builder).state)
      (desk : o.state.1.desk = ((Desk.send service (some m)).run w.1.desk).state)
      (result : o.result = ((Desk.send service (some m)).run w.1.desk).result.map .value)

theorem run_perform_send_of_error {rules : Rules} {o : Office} {e : Fault}
    (h : ((Builder.build rules).run o.builder).result = .error e) (service : Service) :
    ((perform rules service .send).run o).state =
      { o with builder := ((Builder.build rules).run o.builder).state } := by
  have hsend := run_map Builder.Answer.value (send rules (some (courier service))) o
  rw [map_eq_pure_bind] at hsend
  rw [perform, hsend, send, onBoth, run_within, Builder.send, run_bind, run_onFirst, h]

theorem run_perform_send_of_ok {rules : Rules} {o : Office} {m : Message}
    (h : ((Builder.build rules).run o.builder).result = .ok m) (service : Service) :
    let sent := (Desk.send service (some m)).run o.desk
    ((perform rules service .send).run o).result = sent.result.map .value ∧
      ((perform rules service .send).run o).state =
        ⟨((Builder.build rules).run o.builder).state, sent.state⟩ := by
  have hsend := run_map Builder.Answer.value (send rules (some (courier service))) o
  rw [map_eq_pure_bind] at hsend
  rw [perform, hsend, send, onBoth, run_within, Builder.send, run_bind, run_onFirst, h]
  exact ⟨rfl, rfl⟩

theorem goes_act (service : Service) (e : Errand τ) (w : Office × τ) :
    Goes service w e ((e.act service).run w) := by
  cases e with
  | elsewhere rules courier =>
      have hmoves := Builder.moves_act (.send rules courier) (w.1.builder, w.2)
      exact .inside rfl hmoves nofun
  | step rules s indirect =>
      cases s with
      | call c => exact .inside rfl (Builder.moves_perform rules c w.1.builder) nofun
      | desk step =>
          have hdesk := run_map Builder.Answer.value (onDesk (Desk.perform service step)) w.1
          rw [map_eq_pure_bind] at hdesk
          have hstate : ((Errand.act service (.step rules (.desk step) indirect)).run w).state.1 =
              { w.1 with desk := ((Desk.perform service step).run w.1.desk).state } :=
            congrArg Outcome.state hdesk
          refine .atDesk rules step ?_ ⟨indirect, rfl⟩ (by rw [hstate]) (by rw [hstate])
          cases step with
          | send item => cases indirect
          | _ => rfl
      | send =>
          cases hbuilt : ((Builder.build rules).run w.1.builder).result with
          | error e =>
              have hstate : ((Errand.act service (.step rules .send indirect)).run w).state.1 = _ :=
                run_perform_send_of_error hbuilt service
              refine .inside (by rw [hstate]) ?_ nofun
              rw [hstate]
              exact Builder.moves_build rules w.1.builder
          | ok m =>
              obtain ⟨hresult, hstate⟩ := run_perform_send_of_ok hbuilt service
              refine .through rules m rfl hbuilt ?_ ?_ hresult
              · exact congrArg builder hstate
              · exact congrArg desk hstate

/-! ### Runs -/

/-- What was sent when these savepoints had been handed out is not taken back in a run. -/
def Undisturbed (service : Service) (old : List (Side × Handle)) :
    List (Errand τ) → Office × τ → Prop
  | [], _ => True
  | e :: rest, w =>
      (∀ rules step h, e = .step rules (.desk step) h → w.1.desk.Spares service old step) ∧
        Undisturbed service old rest ((e.act service).run w).state

/-- What a commit hands over that was sent before a run. -/
structure Commits (service : Service) (old : List (Side × Handle)) (during : List (Errand τ))
    (rules : Rules) (w : Office × τ) (mail : Message) : Prop where
  undisturbed : Undisturbed service old during w
  before : (follow service during w).1.desk.outbox.accepted = []
  after : (((Errand.commit rules).act service).run
    (follow service during w)).state.1.desk.outbox.accepted = [mail]

/-- A builder that has built sends nothing more. -/
theorem not_built_of_build {rules : Rules} {b : Builder} {m : Message}
    (h : ((Builder.build rules).run b).result = .ok m) : b.progress ≠ .built :=
  (Builder.message_of_build h).1.isOpen

theorem accepted_follow_of_spent (service : Service) {w : Office × τ} {q : Queue}
    (hbuilt : w.1.builder.progress = .built) (hq : q.Follows w.1.desk) (h : q.IsSpent)
    (errands : List (Errand τ)) :
    (follow service errands w).1.desk.outbox.accepted = w.1.desk.outbox.accepted := by
  induction errands generalizing w q with
  | nil => rfl
  | cons e rest ih =>
      cases goes_act service e w with
      | inside hdesk hmoves =>
          have hrest := ih (w := ((e.act service).run w).state) (hmoves.built hbuilt)
            (hdesk ▸ hq) h
          exact hrest.trans (congrArg (·.outbox.accepted) hdesk)
      | atDesk rules step hsend _ hbuilder hdesk =>
          obtain ⟨hspent, hdelivered⟩ := h.performing service hq hsend
          have hfollows := hq.performing service step
          have hrest := ih (w := ((e.act service).run w).state) (hbuilder ▸ hbuilt)
            (hdesk ▸ hfollows) hspent
          refine hrest.trans ?_
          rw [hdesk, ← hfollows.delivered, hdelivered, hq.delivered]
      | through rules m _ hbuild => exact absurd hbuilt (not_built_of_build hbuild)

/-- A message that waits, when the builder has built, is handed over by a commit in the run or not
at all. -/
theorem follow_of_awaits {w : Office × τ} {q : Queue} {old : List (Side × Handle)} {mail : Message}
    (hbuilt : w.1.builder.progress = .built) (h : q.Awaits old mail w.1.desk)
    (hnone : q.delivered = []) (errands : List (Errand τ)) :
    (follow service errands w).1.desk.outbox.accepted = [] ∨
      (follow service errands w).1.desk.outbox.accepted = [mail] ∧
        ∃ during rules rest, errands = during ++ .commit rules :: rest ∧
          Commits service old during rules w mail := by
  induction errands generalizing w q with
  | nil => exact .inl (h.follows.delivered.symm.trans hnone)
  | cons e rest ih =>
      let next := ((e.act service).run w).state
      -- Without a commit the run goes on, and what the rest of it commits the whole run commits.
      have hgo {q' : Queue} (hnext : next.1.builder.progress = .built)
          (h' : q'.Awaits old mail next.1.desk) (hnone' : q'.delivered = [])
          (hspares : ∀ rules step h, e = .step rules (.desk step) h →
            w.1.desk.Spares service old step) :
          (follow service (e :: rest) w).1.desk.outbox.accepted = [] ∨
            (follow service (e :: rest) w).1.desk.outbox.accepted = [mail] ∧
              ∃ during rules more, e :: rest = during ++ .commit rules :: more ∧
                Commits service old during rules w mail := by
        refine (ih hnext h' hnone').imp_right fun ⟨haccepted, during, rules, more, heq, hcommits⟩ =>
          ⟨haccepted, e :: during, rules, more, congrArg (e :: ·) heq, ?_⟩
        exact ⟨⟨hspares, hcommits.undisturbed⟩, hcommits.before, hcommits.after⟩
      cases goes_act service e w with
      | inside hdesk hmoves hquiet =>
          refine hgo (hmoves.built hbuilt) (hdesk ▸ h) hnone ?_
          exact fun rules step h he => absurd he (hquiet rules step h)
      | through rules m _ hbuild => exact absurd hbuilt (not_built_of_build hbuild)
      | atDesk rules step hsend his hbuilder hdesk =>
          obtain ⟨hindirect, rfl⟩ := his
          have hfollows := h.follows.performing service step
          have hnext : next.1.builder.progress = .built := hbuilder ▸ hbuilt
          by_cases hcommit : step = .commit .own
          · subst hcommit
            obtain ⟨hspent, hdelivered⟩ :=
              h.committing service ((Desk.perform service (.commit .own)).run w.1.desk).result
            have hrest := accepted_follow_of_spent service (w := next) hnext (hdesk ▸ hfollows)
              hspent rest
            have hafter : next.1.desk.outbox.accepted = [] ∨
                next.1.desk.outbox.accepted = [mail] := by
              rw [hdesk, ← hfollows.delivered]
              rw [hnone] at hdelivered
              exact hdelivered
            refine hafter.imp hrest.trans fun hone => ⟨hrest.trans hone, [], rules, rest, rfl, ?_⟩
            exact ⟨trivial, h.follows.delivered.symm.trans hnone, hone⟩
          · have hdelivered := Queue.delivered_follow_of_ne_commit (q := q) service
              ((Desk.perform service step).run w.1.desk).result hcommit
            obtain ⟨hspares, hawaits⟩ | hspent := h.performing service hsend hcommit
            · refine hgo hnext (hdesk ▸ hawaits) (hdelivered.trans hnone) ?_
              rintro _ _ _ ⟨⟩
              exact hspares
            · refine .inl ((accepted_follow_of_spent service (w := next) hnext
                (hdesk ▸ hfollows) hspent rest).trans ?_)
              rw [hdesk, ← hfollows.delivered, hdelivered, hnone]

/-- What the mailer gets of a message: the message itself, or the message with a new identifier at
the end of its headers, which had none. -/
def IsMailOf (service : Service) (m mail : Message) : Prop :=
  mail = m ∨ identifiers m.headers = [] ∧ ∃ n, mail =
    { m with headers := m.headers ++ [(.text idHeader, .text (service.newId n))] }

theorem isMailOf_of_sentAs {m mail : Message} {id : Value} (h : SentAs service.newId m id mail)
    (hvalues : ∀ header ∈ m.headers, header.2 ≠ .nothing) : IsMailOf service m mail := by
  have hothers := h.others
  have hheaders := h.headers
  generalize mail.headers = headers at *
  cases hheaders with
  | kept => exact .inl hothers
  | added n hnone => exact .inr ⟨hnone, n, hothers⟩
  | filled n hfirst =>
      have hmem := List.mem_of_mem_head? hfirst
      obtain ⟨header, hheader, hnothing⟩ := List.mem_map.mp hmem
      exact absurd hnothing (hvalues header (List.mem_of_mem_filter hheader))

/-- The builder keeps the message that its build gives, whose headers are all text. -/
theorem message_of_build {rules : Rules} {b : Builder} {m : Message}
    (h : ((Builder.build rules).run b).result = .ok m) :
    ((Builder.build rules).run b).state.message = some m ∧
      ((Builder.build rules).run b).state.progress = .built ∧
      ∀ header ∈ m.headers, header.2 ≠ .nothing := by
  obtain ⟨hready, -⟩ := Builder.message_of_build h
  obtain ⟨sender, s, found, log, -, hrun⟩ := Builder.run_build_eq_report hready
  rw [hrun] at h ⊢
  obtain ⟨u, -, rfl⟩ := exists_of_map_eq_ok h
  refine ⟨rfl, rfl, fun header hheader => ?_⟩
  obtain ⟨written, -, rfl⟩ := List.mem_map.mp hheader
  nofun

theorem moves_builder (service : Service) (e : Errand τ) (w : Office × τ) :
    Builder.Moves w.1.builder ((e.act service).run w).state.1.builder := by
  cases goes_act service e w with
  | inside _ hmoves => exact hmoves
  | atDesk _ _ _ _ hbuilder =>
      rw [hbuilder]
      exact .stay
  | through rules m _ _ hbuilder =>
      rw [hbuilder]
      exact Builder.moves_build rules w.1.builder

theorem message_follow {w : Office × τ} {m : Message} (hsound : w.1.builder.Sound)
    (hm : w.1.builder.message = some m) (errands : List (Errand τ)) :
    (follow service errands w).1.builder.message = some m := by
  induction errands generalizing w with
  | nil => exact hm
  | cons e rest ih =>
      have hmoves := moves_builder service e w
      exact ih (hmoves.sound hsound) (hmoves.message_eq hsound hm)

/-- A send that returns, and a commit that hands over what was sent: nothing in between ends the
transaction, or takes back what was sent by going to a savepoint that is older than the send. -/
structure Delivers (service : Service) (sending : Office × τ) (rules : Rules)
    (during : List (Errand τ)) (rules' : Rules) (m mail : Message) : Prop where
  returns : ∃ id, (((Errand.send rules).act service).run sending).result = .ok (.value id) ∧
    SentAs service.newId m id mail
  commits : Commits service sending.1.desk.handles during rules'
    (((Errand.send rules).act service).run sending).state mail

/-- The mailer took nothing, or one mail of the builder's message, which was delivered in the
run. -/
def OneMail (service : Service) (errands : List (Errand τ)) (start : Office × τ) : Prop :=
  let w := follow service errands start
  w.1.desk.outbox.accepted = [] ∨
    ∃ m mail, w.1.desk.outbox.accepted = [mail] ∧ w.1.builder.message = some m ∧
      IsMailOf service m mail ∧ ∃ before rules during rules' rest,
        errands = before ++ .send rules :: (during ++ .commit rules' :: rest) ∧
          Delivers service (follow service before start) rules during rules' m mail

theorem OneMail.after {e : Errand τ} {rest : List (Errand τ)} {w : Office × τ}
    (h : OneMail service rest ((e.act service).run w).state) : OneMail service (e :: rest) w := by
  refine h.imp_right fun ⟨m, mail, haccepted, hmessage, hmail, before, rules, during, rules', more,
    heq, hdelivers⟩ => ⟨m, mail, haccepted, hmessage, hmail, e :: before, rules, during, rules',
      more, congrArg (e :: ·) heq, hdelivers⟩

/-- Sending from a desk where nothing waits. -/
theorem oneMail_send {w : Office × τ} {q : Queue} (hsound : w.1.builder.Sound)
    (hq : q.Follows w.1.desk) (hmessages : q.messages = []) (hdelivered : q.delivered = [])
    {rules : Rules} {m : Message} (hbuild : ((Builder.build rules).run w.1.builder).result = .ok m)
    (rest : List (Errand τ)) : OneMail service (.send rules :: rest) w := by
  obtain ⟨hmessage, hbuilt, hvalues⟩ := message_of_build hbuild
  obtain ⟨hresult, hstate⟩ := run_perform_send_of_ok (o := w.1) hbuild service
  let next := (((Errand.send rules).act service).run w).state
  have hbuilder : next.1.builder = ((Builder.build rules).run w.1.builder).state :=
    congrArg builder hstate
  have hdesk : next.1.desk = ((Desk.send service (some m)).run w.1.desk).state :=
    congrArg desk hstate
  have hnext : next.1.builder.progress = .built := by rw [hbuilder, hbuilt]
  have hfollows := hq.performing service (.send (some m))
  have hkept : (follow service rest next).1.builder.message = some m := by
    refine message_follow ?_ (by rw [hbuilder, hmessage]) rest
    exact (moves_builder service (.send rules) w).sound hsound
  cases hsent : ((Desk.send service (some m)).run w.1.desk).result with
  | error e =>
      have hqueue : q.Follows next.1.desk := by
        rw [hdesk]
        rwa [Desk.perform, hsent] at hfollows
      left
      refine (accepted_follow_of_spent service hnext hqueue (.inl hmessages) rest).trans ?_
      rw [← hqueue.delivered, hdelivered]
  | ok id =>
      let mail := Queue.stamped id m
      have hqueue : (q.enqueue service mail).Follows next.1.desk := by
        rw [hdesk]
        rwa [Desk.perform, hsent] at hfollows
      by_cases hactive : q.condition = .active
      · have hhandles : w.1.desk.handles <+: next.1.desk.handles := by
          rw [hdesk]
          exact Desk.keeps_handles service _ (.send (some m)) w.1.desk (List.prefix_refl _)
        have hawaits := hq.awaits_enqueue hactive hmessages hqueue hhandles
        refine (follow_of_awaits hnext hawaits hdelivered rest).imp_right ?_
        rintro ⟨haccepted, during, rules', more, rfl, hcommits⟩
        have hsentAs := (Desk.send_eq_ok hsent).1
        refine ⟨m, mail, haccepted, hkept, isMailOf_of_sentAs hsentAs hvalues, [], rules, during,
          rules', more, rfl, ⟨id, ?_, hsentAs⟩, hcommits⟩
        rw [hsent] at hresult
        exact hresult
      · left
        refine (accepted_follow_of_spent service hnext hqueue (.inr hactive) rest).trans ?_
        rw [← hqueue.delivered]
        exact hdelivered

theorem oneMail_of_blank {w : Office × τ} {q : Queue} (hsound : w.1.builder.Sound)
    (hq : q.Follows w.1.desk) (hmessages : q.messages = []) (hdelivered : q.delivered = [])
    (errands : List (Errand τ)) : OneMail service errands w := by
  induction errands generalizing w q with
  | nil => exact .inl (hq.delivered.symm.trans hdelivered)
  | cons e rest ih =>
      have hnext := (moves_builder service e w).sound hsound
      cases goes_act service e w with
      | inside hdesk => exact (ih hnext (hdesk ▸ hq) hmessages hdelivered).after
      | atDesk rules step hsend _ _ hdesk =>
          have hfollows := hq.performing service step
          obtain ⟨hnone, hkept⟩ := Queue.follow_of_messages_nil hmessages service
            ((Desk.perform service step).run w.1.desk).result hsend
          exact (ih hnext (hdesk ▸ hfollows) hnone (hkept.trans hdelivered)).after
      | through rules m his hbuild =>
          subst his
          exact oneMail_send hsound hq hmessages hdelivered hbuild rest

/-- Whatever is asked of one builder and done at the desk that it sends to, in whatever order, the
mailer takes at most one message. If it takes one, it does so in a commit, after a send of the
builder that returned in the same transaction and was not taken back; and what it takes is the
message of the builder, but for an identifier that the message may not have had. -/
theorem one_mail_from_one_builder (service : Service) (c : Settings) (errands : List (Errand τ))
    (t : τ) : OneMail service errands (ofSettings c, t) :=
  oneMail_of_blank (Builder.sound_ofSettings c) Queue.follows_empty rfl rfl errands

end Mailroom.Office
