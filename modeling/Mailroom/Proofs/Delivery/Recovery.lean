import Mailroom.Proofs.Delivery.Afresh
import Mailroom.Proofs.Delivery.Course

/-!
What becomes of a transaction after a commit that failed. A consignment that was sent before the
commit failed refuses to be aborted; so the transaction can be aborted without an objection just if
the mailer took none of its messages. Either way the transaction is over then, and the next one is
as good as any other.
-/

namespace Mailroom.Delivery

open Mailroom.Action

variable {service : Service} {mailer : Mailer} {box : Outbox}

/-- The call that a round makes of a message. -/
def Phase.call (t : Nat) : Phase → Consignment.Call
  | start => .start t false
  | commit => .commit t
  | vote => .vote t
  | finish => .finish t

namespace Participant

variable {t : Nat} {p : Participant}

/-- The message, if it was sent. -/
def sent? (p : Participant) : Option Message :=
  match p.party with
  | .consignment c => if c.stage = .sent then some c.message else none
  | .outsider _ => none

/-- The message, if it is one, is in the transaction and at one of some stages there. -/
def Among (stages : List Stage) (t : Nat) (p : Participant) : Prop :=
  ∀ c, p.party = .consignment c → c.joined = some t ∧ c.stage ∈ stages

/-- The stages of messages in the rounds of a commit. -/
def underway : List Stage := [.initial, .begun, .voted, .sent]

/-- The stages in which the end of a commit can leave messages. -/
def settled : List Stage := [.initial, .sent, .aborted]

theorem At.among {stage : Stage} {stages : List Stage} (h : p.At stage t)
    (hstage : stage ∈ stages) : p.Among stages t := by
  intro c hc
  obtain ⟨rfl, hjoined⟩ := h c hc
  exact ⟨hjoined, hstage⟩

theorem At.sent?_eq_none {stage : Stage} (h : p.At stage t) (hstage : stage ≠ .sent) :
    p.sent? = none := by
  obtain ⟨serial, key, party, voted⟩ := p
  cases party with
  | outsider refusal => rfl
  | consignment c =>
      obtain ⟨rfl, -⟩ := h c rfl
      exact if_neg hstage

/-! ### The rounds -/

/-- Whatever the round, a message that is underway stays underway, and it is sent just when the
mailer takes it. -/
theorem perform_among_underway (mailer : Mailer) (phase : Phase) (h : p.Among underway t)
    (box : Outbox) :
    let o := (perform mailer t phase).run (p, box)
    o.state.1.Among underway t ∧
      o.state.2.accepted.length + p.sent?.toList.length =
        box.accepted.length + o.state.1.sent?.toList.length := by
  obtain ⟨serial, key, party, voted⟩ := p
  cases party with
  | outsider refusal => exact ⟨nofun, rfl⟩
  | consignment c =>
      obtain ⟨hjoined, hstage⟩ := h c rfl
      let called := (Consignment.perform mailer (phase.call t)).run (c, box)
      have hrun : (perform mailer t phase).run (⟨serial, key, .consignment c, voted⟩, box) =
          ⟨called.result, (⟨serial, key, .consignment called.state.1,
            voted || (phase == .vote && called.result.isOk)⟩, called.state.2), called.log⟩ := by
        cases phase <;> rfl
      have hends : Consignment.Ends c box (phase.call t) called := by
        cases phase <;> exact Consignment.ends_act mailer ⟨_, .ok ()⟩ c box
      rw [hrun]
      cases hends with
      | refused e _ hkept haccepted =>
          refine ⟨?_, ?_⟩
          · rintro _ ⟨⟩
            exact hkept ▸ ⟨hjoined, hstage⟩
          · simp only [sent?, hkept, haccepted]
      | passed _ hpasses haccepted =>
          generalize called.state.1 = c' at *
          refine ⟨?_, ?_⟩
          · rintro _ ⟨⟩
            cases phase <;> cases hpasses <;> simp_all [underway]
          · simp only [sent?, haccepted]
            cases phase <;> cases hpasses <;> simp_all [Consignment.Call.hands, Phase.call]

theorem performAll_among_underway (mailer : Mailer) (phase : Phase) {ps : List Participant}
    (h : ∀ p ∈ ps, p.Among underway t) (box : Outbox) :
    let o := performAll mailer t phase ps box
    (∀ p ∈ o.state.1, p.Among underway t) ∧
      o.state.2.accepted.length + (ps.filterMap sent?).length =
        box.accepted.length + (o.state.1.filterMap sent?).length := by
  induction ps generalizing box with
  | nil => exact ⟨nofun, rfl⟩
  | cons p rest ih =>
      have hrest : ∀ q ∈ rest, q.Among underway t := fun q hq => h q (List.mem_cons_of_mem p hq)
      obtain ⟨hp, hcount⟩ := perform_among_underway mailer phase (h p List.mem_cons_self) box
      have hcons (q : Participant) (qs : List Participant) : ((q :: qs).filterMap sent?).length =
          q.sent?.toList.length + (qs.filterMap sent?).length := by
        cases hq : q.sent? <;> simp [hq, Nat.add_comm]
      cases hresult : ((perform mailer t phase).run (p, box)).result with
      | error e =>
          simp only [performAll, hresult, hcons, List.forall_mem_cons]
          exact ⟨⟨hp, hrest⟩, by omega⟩
      | ok u =>
          obtain ⟨ihrest, ihcount⟩ := ih hrest ((perform mailer t phase).run (p, box)).state.2
          simp only [performAll, hresult, hcons, List.forall_mem_cons]
          exact ⟨⟨hp, ihrest⟩, by omega⟩

/-! ### The end of a commit -/

/-- Those that were sent stay sent, and all others are told to abort. -/
theorem cleanUp_among_settled (h : p.Among underway t) :
    (p.cleanUp t).Among settled t ∧ (p.cleanUp t).sent? = p.sent? := by
  obtain ⟨serial, key, party, voted⟩ := p
  cases party with
  | outsider refusal => cases voted <;> exact ⟨nofun, rfl⟩
  | consignment c =>
      obtain ⟨message, stage, joined, listings⟩ := c
      obtain ⟨rfl, hstage⟩ : joined = some t ∧ stage ∈ underway := h _ rfl
      simp only [underway, List.mem_cons, List.not_mem_nil, or_false] at hstage
      obtain rfl | rfl | rfl | rfl := hstage <;> cases voted <;>
        simp [cleanUp, aborted, withdrawn, Party.abort, Party.withdraw, Party.act,
          Consignment.abort, Consignment.withdraw, run_bind, Consignment.checkStage,
          Consignment.checkJoined, Consignment.enter, Among, settled, sent?]

/-- Only a message that was sent objects to being aborted. -/
theorem objection?_of_settled (h : p.Among settled t) :
    p.objection? t = p.sent?.map fun _ => .value (.unexpectedState Stage.sent.code) := by
  obtain ⟨serial, key, party, voted⟩ := p
  cases party with
  | outsider refusal => rfl
  | consignment c =>
      obtain ⟨message, stage, joined, listings⟩ := c
      obtain ⟨rfl, hstage⟩ : joined = some t ∧ stage ∈ settled := h _ rfl
      simp only [settled, List.mem_cons, List.not_mem_nil, or_false] at hstage
      obtain rfl | rfl | rfl := hstage <;>
        simp [objection?, Party.abort, Party.act, Consignment.abort, run_bind,
          Consignment.checkStage, Consignment.checkJoined, Consignment.enter, sent?]

end Participant

namespace Transaction

variable {t : Transaction}

/-- The messages that were sent. -/
def sent (t : Transaction) : List Message := t.participants.filterMap Participant.sent?

theorem sent_eq_nil_of_at (h : ∀ p ∈ t.participants, p.At .initial t.serial) : t.sent = [] :=
  List.filterMap_eq_nil_iff.mpr fun p hp => (h p hp).sent?_eq_none (by simp)

/-- The messages are in the rounds of a commit, and the mailer, which had taken some messages
before, has also taken those that were sent. -/
structure IsUnderway (before : Nat) (s : Transaction × Outbox) : Prop where
  among : ∀ p ∈ s.1.participants, p.Among Participant.underway s.1.serial
  taken : s.2.accepted.length = before + s.1.sent.length

theorem keeps_isUnderway_performPhases (mailer : Mailer) (before : Nat) :
    Keeps (IsUnderway before) (performPhases mailer) := by
  have hphase (phase : Phase) : Keeps (IsUnderway before) (performPhase mailer phase) := by
    rintro ⟨t, box⟩ ⟨hamong, htaken⟩
    obtain ⟨hkept, hcount⟩ := Participant.performAll_among_underway mailer phase hamong box
    refine ⟨hkept, ?_⟩
    simp only [sent, performPhase] at hcount htaken ⊢
    omega
  exact (hphase .start).bind fun _ => (hphase .commit).bind fun _ => (hphase .vote).bind fun _ =>
    hphase .finish

/-- The messages are where the end of a commit left them, and the mailer, which had taken some
messages before, has also taken those that were sent. -/
structure IsSettled (before : Nat) (s : Transaction × Outbox) : Prop where
  unfit : s.1.condition ≠ .active
  among : ∀ p ∈ s.1.participants, p.Among Participant.settled s.1.serial
  taken : s.2.accepted.length = before + s.1.sent.length

theorem IsUnderway.cleanedUp {before : Nat} {s : Transaction × Outbox} (h : IsUnderway before s) :
    IsSettled before (s.1.cleanedUp, s.2) where
  unfit := by simp [Transaction.cleanedUp]
  among p hp := by
    obtain ⟨q, hq, rfl⟩ := List.mem_map.mp hp
    exact (Participant.cleanUp_among_settled (h.among q hq)).1
  taken := by
    have hsent : s.1.cleanedUp.sent = s.1.sent := by
      simp only [sent, Transaction.cleanedUp, List.filterMap_map]
      exact List.filterMap_congr fun p hp => (Participant.cleanUp_among_settled (h.among p hp)).2
    rw [hsent]
    exact h.taken

/-- A commit that fails leaves the messages settled. -/
theorem isSettled_commit (mailer : Mailer) (hcondition : t.condition ≠ .failed)
    (hps : ∀ p ∈ t.participants, p.At .initial t.serial) (box : Outbox)
    (hfails : ((commit mailer).run (t, box)).result.isOk = false) :
    IsSettled box.accepted.length ((commit mailer).run (t, box)).state := by
  cases hactive : t.condition with
  | failed => exact absurd hactive hcondition
  | doomed =>
      rw [run_commit_of_doomed mailer hactive]
      refine ⟨by simp [hactive], fun p hp => (hps p hp).among (by simp [Participant.settled]), ?_⟩
      rw [sent_eq_nil_of_at hps]
      rfl
  | active =>
      have hperm : t.inOrder.participants.Perm t.participants := List.mergeSort_perm _ _
      have hat : ∀ p ∈ t.inOrder.participants, p.At .initial t.inOrder.serial := fun p hp =>
        hps p (hperm.mem_iff.mp hp)
      have hbegins : IsUnderway box.accepted.length (t.inOrder, box) :=
        ⟨fun p hp => (hat p hp).among (by simp [Participant.underway]),
          by rw [sent_eq_nil_of_at hat]; rfl⟩
      have hrounds := keeps_isUnderway_performPhases mailer _ _ hbegins
      rw [run_commit_of_active mailer hactive] at hfails ⊢
      generalize (performPhases mailer).run (t.inOrder, box) = rounds at *
      obtain ⟨result, s, log⟩ := rounds
      cases result with
      | ok u => cases hfails
      | error e => exact hrounds.cleanedUp

/-- Aborting raises an objection just if a message was sent. -/
theorem result_abort_of_settled (h : ∀ p ∈ t.participants, p.Among Participant.settled t.serial) :
    (abort.run t).result =
      if t.sent = [] then .ok () else .error (.value (.unexpectedState Stage.sent.code)) := by
  have hobjection : t.participants.findSome? (Participant.objection? t.serial) =
      t.sent.head?.map fun _ => .value (.unexpectedState Stage.sent.code) := by
    rw [sent, ← List.head?_map, List.map_filterMap, ← List.head?_filterMap]
    refine congrArg List.head? (List.filterMap_congr fun p hp => ?_)
    exact Participant.objection?_of_settled (h p hp)
  simp only [abort, run_bind, run_state, run_update, hobjection]
  cases t.sent <;> rfl

end Transaction

/-! ### Until the transaction is over -/

/-- A queue that cannot be committed delivers nothing and stays so until it is cleared. -/
theorem Queue.follow_of_unfit {q : Queue} {step : Desk.Step} (service : Service)
    (result : Except Fault Value) (hunfit : q.condition ≠ .active) (habort : step ≠ .abort .own)
    (hbegin : step ≠ .begin .own) (hcommit : step = .commit .own → result.isOk = false) :
    (q.follow service step result).delivered = q.delivered ∧
      ((q.follow service step result).condition = q.condition ∨
        (q.follow service step result).condition = .doomed) := by
  unfold follow
  split
  · exact ⟨rfl, .inl rfl⟩
  · exact ⟨rfl, .inl rfl⟩
  · exact ⟨rfl, .inl rfl⟩
  · unfold truncate
    split <;> exact ⟨rfl, .inl rfl⟩
  · exact absurd rfl habort
  · exact absurd rfl hbegin
  · exact ⟨rfl, .inr rfl⟩
  · cases hcommit rfl
  · unfold fail
    split
    · exact ⟨rfl, .inl rfl⟩
    · exact ⟨rfl, .inl rfl⟩
    · exact absurd ‹_› hunfit
  · exact ⟨rfl, .inl rfl⟩

/-- What was delivered stays delivered. -/
theorem Queue.prefix_delivered_follow (q : Queue) {step : Desk.Step} {result : Except Fault Value} :
    q.delivered <+: (q.follow service step result).delivered := by
  unfold follow
  split
  case h_4 => unfold truncate; split <;> exact List.prefix_refl _
  case h_8 => exact List.prefix_append _ _
  case h_9 =>
    unfold fail
    split
    · exact List.prefix_refl _
    · exact List.prefix_refl _
    · exact List.prefix_append _ _
  all_goals exact List.prefix_refl _

namespace Desk

open Transaction

variable {d : Desk} {q : Queue} {before : Nat}

theorem isOk_commit_of_unfit (h : d.own.currentOrNext.condition ≠ .active) :
    ((perform service (.commit .own)).run d).result.isOk = false := by
  simp only [perform, run_done, commit, run_within, manager]
  cases hcondition : d.own.currentOrNext.condition with
  | active => exact absurd hcondition h
  | doomed =>
      rw [Manager.run_commit_of_error (by rw [run_commit_of_doomed service.mailer hcondition])]
      rfl
  | failed =>
      rw [Manager.run_commit_of_error (by rw [run_commit_of_failed service.mailer hcondition])]
      rfl

/-- A transaction that has failed stays as it is until it is over. -/
theorem currentOrNext_perform_of_failed (service : Service) (h : d.Orderly)
    (hfailed : d.own.currentOrNext.condition = .failed) {step : Step} (habort : step ≠ .abort .own)
    (hbegin : step ≠ .begin .own) :
    ((perform service step).run d).state.own.currentOrNext = d.own.currentOrNext := by
  have hended := h.current.ended hfailed
  cases step with
  | send item =>
      cases item with
      | none => rfl
      | some m =>
          simp only [perform]
          cases hid : idOf m.headers with
          | error e => rw [run_send_of_error hid]
          | ok id =>
              obtain ⟨given, issued, -, hidentify⟩ := run_identify service hid d
              rw [run_send_of_failed hidentify hfailed]
              rfl
  | commit side =>
      simp only [perform, run_done, commit, run_within]
      cases side with
      | foreign => rfl
      | own =>
          have hrun := run_commit_of_failed service.mailer hfailed d.outbox
          simp only [manager, setManager]
          rw [Manager.run_commit_of_error (by rw [hrun]), hrun, ← hended]
          rfl
  | abort side =>
      simp only [perform, run_done]
      cases side with
      | foreign => rfl
      | own => exact absurd rfl habort
  | begin side =>
      simp only [perform, run_done]
      cases side with
      | foreign => rfl
      | own => exact absurd rfl hbegin
  | doom side =>
      simp only [perform, run_done]
      cases side with
      | foreign => rfl
      | own =>
          rw [Manager.doom, run_onTransaction, run_doom_of_failed hfailed]
          rfl
  | savepoint side =>
      simp only [perform, run_done, Desk.savepoint, Manager.savepoint]
      cases side with
      | foreign =>
          simp only [run_bind, onManager, run_within]
          split <;> rfl
      | own =>
          simp [run_bind, onManager, manager, setManager, Manager.onTransaction,
            run_savepoint_of_failed hfailed]
  | rollback n =>
      simp only [perform, run_done, Desk.rollback, run_bind, run_state, run_ofExcept]
      cases itemAt "list " d.handles n with
      | error e => rfl
      | ok handed =>
          obtain ⟨side, handle⟩ := handed
          cases side with
          | foreign => rfl
          | own =>
              have hnone : d.own.lengthAt handle = none := by
                simp [Manager.lengthAt, Transaction.lengthAt, hended]
              simp only [onManager, run_within, manager, setManager,
                Manager.run_rollback_of_lengthAt_none hnone]
  | join side key refusal =>
      simp only [perform, run_done]
      cases side with
      | foreign => rfl
      | own =>
          rw [Manager.join, run_onTransaction, run_join_of_failed hfailed]
          rfl

/-- The messages of the transaction are where the end of a commit left them. -/
def IsSettled (before : Nat) (d : Desk) : Prop :=
  Transaction.IsSettled before (d.own.currentOrNext, d.outbox)

theorem IsSettled.performing (h : d.IsSettled before) (service : Service) (hq : q.Follows d)
    {step : Step}
    (habort : step ≠ .abort .own) (hbegin : step ≠ .begin .own) :
    ((perform service step).run d).state.IsSettled before ∧
      ((perform service step).run d).state.outbox.accepted = d.outbox.accepted := by
  have hunfit : q.condition ≠ .active := by
    rw [hq.condition]
    exact h.unfit
  have hfollows := hq.performing service step
  obtain ⟨hdelivered, hunchanged⟩ :=
    Queue.follow_of_unfit service ((perform service step).run d).result hunfit habort hbegin
      (by rintro rfl; exact isOk_commit_of_unfit h.unfit)
  have haccepted : ((perform service step).run d).state.outbox.accepted = d.outbox.accepted := by
    rw [← hfollows.delivered, hdelivered, hq.delivered]
  refine ⟨?_, haccepted⟩
  cases hcondition : d.own.currentOrNext.condition with
  | active => exact absurd hcondition h.unfit
  | failed =>
      have hsame := currentOrNext_perform_of_failed service hq.orderly hcondition habort hbegin
      unfold IsSettled
      rw [hsame]
      exact ⟨h.unfit, h.among, haccepted ▸ h.taken⟩
  | doomed =>
      have hqueue : q.condition = .doomed := hq.condition.trans hcondition
      rw [hqueue, or_self, hfollows.condition] at hunchanged
      have hat := fun p hp => (hfollows.orderly.current.fresh (by simp [hunchanged]) p hp).1
      have hnone := sent_eq_nil_of_at fun p hp =>
        (hq.orderly.current.fresh (by simp [hcondition]) p hp).1
      refine ⟨by simp [hunchanged],
        fun p hp => (hat p hp).among (by simp [Participant.settled]), ?_⟩
      rw [haccepted, h.taken, hnone, sent_eq_nil_of_at hat]

/-- Whatever else is done, the messages stay where they are and the mailer takes no more. -/
theorem IsSettled.continuing (h : d.IsSettled before) (service : Service) (hq : q.Follows d)
    {steps : List Step}
    (habort : .abort .own ∉ steps) (hbegin : .begin .own ∉ steps) :
    (after service steps d).IsSettled before ∧
      (after service steps d).outbox.accepted = d.outbox.accepted := by
  induction steps generalizing q d with
  | nil => exact ⟨h, rfl⟩
  | cons step rest ih =>
      obtain ⟨hsettled, haccepted⟩ := h.performing service hq
        (Ne.symm (List.ne_of_not_mem_cons habort)) (Ne.symm (List.ne_of_not_mem_cons hbegin))
      obtain ⟨hrest, hmore⟩ := ih hsettled (Queue.keepsUp step q d hq)
        (List.not_mem_of_not_mem_cons habort) (List.not_mem_of_not_mem_cons hbegin)
      exact ⟨hrest, hmore.trans haccepted⟩

/-- The own manager's transaction is over, with the objection of a message that was sent if there
is one, and the desk is ready for the next. -/
theorem IsSettled.ending (h : d.IsSettled before) (service : Service) (hq : q.Follows d)
    {step : Step}
    (hstep : step ∈ [Step.abort .own, .begin .own]) :
    let o := (perform service step).run d
    o.result = (if d.own.currentOrNext.sent = [] then .ok .nothing
      else .error (.value (.unexpectedState Stage.sent.code))) ∧
    o.state.outbox = d.outbox ∧ q.clear.Follows o.state := by
  have hresult := result_abort_of_settled h.among
  have hclear := hq.performing service step
  have habort : (Manager.abort.run d.own).result =
      if d.own.currentOrNext.sent = [] then .ok ()
      else .error (.value (.unexpectedState Stage.sent.code)) := by
    rw [← hresult]
    simp [Manager.abort, run_bind, Manager.onTransaction, Manager.free]
  simp only [List.mem_cons, List.not_mem_nil, or_false] at hstep
  obtain rfl | rfl := hstep
  · refine ⟨?_, by rw [perform, run_done]; rfl, hclear⟩
    simp only [perform, run_done, onManager, run_within, manager, habort]
    split <;> rfl
  · have hcurrent : d.own.current.isSome = true := by
      cases hnone : d.own.current with
      | none => exact absurd (by simp [Manager.currentOrNext, hnone, ofSerial]) h.unfit
      | some t => rfl
    refine ⟨?_, by rw [perform, run_done]; rfl, hclear⟩
    simp only [perform, run_done, onManager, run_within, manager, Manager.begin, run_bind,
      run_state, hcurrent, if_true]
    by_cases hnone : d.own.currentOrNext.sent = []
    · rw [if_pos hnone] at habort ⊢
      simp only [habort]
      rfl
    · rw [if_neg hnone] at habort ⊢
      simp only [habort]
      rfl

/-- A commit that fails leaves the messages of its transaction settled. -/
theorem isSettled_of_failed_commit (hq : q.Follows d)
    (hcondition : d.own.currentOrNext.condition ≠ .failed)
    (hfails : ((perform service (.commit .own)).run d).result.isOk = false) :
    ((perform service (.commit .own)).run d).state.IsSettled d.outbox.accepted.length := by
  have hat := fun p hp => (hq.orderly.current.fresh hcondition p hp).1
  have hsettled := isSettled_commit service.mailer hcondition hat d.outbox
  simp only [perform, run_done, commit, run_within, manager, setManager] at hfails ⊢
  cases hresult : ((Transaction.commit service.mailer).run
      (d.own.currentOrNext, d.outbox)).result with
  | ok u =>
      rw [Manager.run_commit_of_ok (by rw [hresult]; rfl)] at hfails
      cases hfails
  | error e =>
      rw [Manager.run_commit_of_error hresult]
      exact hsettled (by rw [hresult]; rfl)

/-- After the first commit of a transaction that failed, and whatever was done with the transaction
since, further commits too, aborting it returns just if the mailer took none of its messages, and so
does beginning another one. Either way the mailer gets nothing more, and the next transaction queues
and commits messages as any other. Whoever else takes part may have refused any phase, but has
nothing against aborting. -/
theorem failed_commit_aborts_iff (service : Service) (steps more : List Step) :
    let d := after service steps .empty
    let tried := (perform service (.commit .own)).run d
    let w := after service more tried.state
    tried.result.isOk = false → d.own.currentOrNext.condition ≠ .failed →
    .abort .own ∉ more → .begin .own ∉ more →
    ∃ taken, w.outbox.accepted = d.outbox.accepted ++ taken ∧
      ∀ ending ∈ [Step.abort .own, .begin .own],
        let ended := (perform service ending).run w
        ended.result = (if taken = [] then .ok .nothing
          else .error (.value (.unexpectedState Stage.sent.code))) ∧
        ended.state.outbox = w.outbox ∧
        ∀ ms : List Message, (∀ m ∈ ms, (idOf m.headers).isOk = true) →
          ended.state.Serves service ms := by
  intro d tried w hfails hcondition habort hbegin
  let q := Queue.replay service .empty (history service steps .empty)
  have hq : q.Follows d := Queue.follows_empty.replaying steps
  have htried : (q.follow service (.commit .own) tried.result).Follows tried.state :=
    Queue.keepsUp (.commit .own) q d hq
  have hw : (Queue.replay service _ (history service more tried.state)).Follows w :=
    htried.replaying more
  obtain ⟨taken, htaken⟩ :
      q.delivered <+: (q.follow service (.commit .own) tried.result).delivered :=
    Queue.prefix_delivered_follow q
  obtain ⟨hsettled, hkept⟩ := (isSettled_of_failed_commit hq hcondition hfails).continuing
    service htried habort hbegin
  have haccepted : w.outbox.accepted = d.outbox.accepted ++ taken := by
    rw [hkept, ← htried.delivered, ← htaken, hq.delivered]
  have hsent : w.own.currentOrNext.sent = [] ↔ taken = [] := by
    have hcount := hsettled.taken
    rw [haccepted, List.length_append, Nat.add_left_cancel_iff] at hcount
    rw [← List.length_eq_zero_iff, ← List.length_eq_zero_iff, hcount]
  refine ⟨taken, haccepted, fun ending hending => ?_⟩
  obtain ⟨hresult, hbox, hclear⟩ := hsettled.ending service hw hending
  refine ⟨?_, hbox, fun ms hms => hclear.serves rfl rfl hms⟩
  rw [hresult]
  exact if_congr hsent rfl rfl

/-- Takes the first message that it is handed and no other. -/
def takingOne : Mailer := fun n _ =>
  ⟨if n = 0 then .ok () else .error (.sendFailed "sendmail"), [], []⟩

def note : Message :=
  let a : Value := .address ⟨"a@b.c", none⟩
  { sender := a, addressees := [a], cc := [], bcc := [], replyTo := [], subject := .nothing
    body := .nothing, sentDate := .nothing, session := none, headers := [] }

/-- A commit whose participants stand in order as they are. -/
theorem run_commit_of_sorted (service : Service)
    (hactive : d.own.currentOrNext.condition = .active)
    (hsorted : d.own.currentOrNext.participants.Pairwise fun a b => !(b.key < a.key)) :
    (perform service (.commit .own)).run d =
      match (performPhases service.mailer).run
        ({ d.own.currentOrNext with savepoints := [] }, d.outbox) with
      | ⟨.ok _, s, log⟩ =>
          ⟨.ok .nothing, { d with own := ⟨none, (d.own.holding s.1).begun⟩, outbox := s.2 }, log⟩
      | ⟨.error e, s, log⟩ =>
          ⟨.error e, { d with own := d.own.holding s.1.cleanedUp, outbox := s.2 }, log⟩ := by
  have horder : d.own.currentOrNext.inOrder = { d.own.currentOrNext with savepoints := [] } := by
    rw [inOrder, byKey, List.mergeSort_of_pairwise hsorted]
  have hrun := run_commit_of_active service.mailer hactive d.outbox
  rw [horder] at hrun
  simp only [perform, run_done, commit, run_within, manager, setManager]
  generalize (performPhases service.mailer).run _ = rounds at *
  obtain ⟨result, s, log⟩ := rounds
  cases result with
  | ok u =>
      rw [Manager.run_commit_of_ok (by rw [hrun]; rfl), hrun]
      rfl
  | error e =>
      rw [Manager.run_commit_of_error (by rw [hrun]), hrun]
      rfl

theorem abort_objects_to_one_taken :
    let service : Service := ⟨takingOne, fun _ => "<new@x>", fun _ => "key"⟩
    let d := after service (sends [note, note]) .empty
    let tried := (perform service (.commit .own)).run d
    let w := after service [] tried.state
    tried.result.isOk = false ∧ d.own.currentOrNext.condition ≠ .failed ∧
      ∃ taken, w.outbox.accepted = d.outbox.accepted ++ taken ∧
        ((perform service (.abort .own)).run w).result = if taken = [] then .ok .nothing
          else .error (.value (.unexpectedState Stage.sent.code)) := by
  intro service
  have hactive : (after service (sends [note, note]) .empty).own.currentOrNext.condition =
      .active := by
    decide +kernel
  have hfails : ((perform service (.commit .own)).run
      (after service (sends [note, note]) .empty)).result.isOk = false := by
    rw [run_commit_of_sorted service hactive (by decide +kernel)]
    decide +kernel
  have haborts := failed_commit_aborts_iff service (sends [note, note]) [] hfails
    (by simp [hactive]) nofun nofun
  dsimp only at haborts ⊢
  obtain ⟨taken, htaken, hending⟩ := haborts
  exact ⟨hfails, by simp [hactive], taken, htaken, (hending _ List.mem_cons_self).1⟩

theorem failed_commit_not_always_aborts :
    ¬∀ (service : Service) (ms : List Message),
      let tried := (perform service (.commit .own)).run (after service (sends ms) .empty)
      tried.result.isOk = false →
        ((perform service (.abort .own)).run tried.state).result.isOk = true := by
  intro h
  let service : Service := ⟨takingOne, fun _ => "<new@x>", fun _ => "key"⟩
  have hrun := run_commit_of_sorted service
    (d := after service (sends [note, note]) .empty) (by decide +kernel) (by decide +kernel)
  have habort := h service [note, note]
  rw [hrun] at habort
  exact absurd (habort (by decide +kernel)) (by decide +kernel)

end Desk

end Mailroom.Delivery
