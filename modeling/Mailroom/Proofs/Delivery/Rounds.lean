import Mailroom.Proofs.Delivery.Queue

/-!
The rounds of a commit, seen from the queue. Participants who are all at the stage that a round
starts from come out at the stage that it leads to, unless one refuses, and only the last round
touches the outbox. Participants without a message never touch it.
-/

namespace Mailroom.Delivery

/-- The stage of a message that takes part in a round. -/
def Phase.entry : Phase → Stage
  | start => .initial
  | commit | vote => .begun
  | finish => .voted

/-- The stage of a message that a round has accepted. -/
def Phase.exit : Phase → Stage
  | start | commit => .begun
  | vote => .voted
  | finish => .sent

namespace Party

def waiting : Party → Waiting
  | consignment c => .message c.message
  | outsider refusal => .other refusal

theorem waiting_withdraw (t : Nat) (p : Party) : (p.withdraw t).state.waiting = p.waiting := by
  cases p with
  | outsider refusal => rfl
  | consignment c =>
      simp only [withdraw, act, Consignment.withdraw, Action.run_bind, Consignment.run_requireStage]
      cases c.checkStage t [.begun, .voted, .aborted] <;> rfl

theorem waiting_abort (t : Nat) (p : Party) : (p.abort t).state.waiting = p.waiting := by
  cases p with
  | outsider refusal => rfl
  | consignment c =>
      simp only [abort, act, Consignment.abort, Action.run_bind, Consignment.run_requireStage]
      cases c.checkStage t [.initial, .begun, .aborted] <;> rfl

end Party

namespace Participant

def item (p : Participant) : Queue.Item := ⟨p.key, p.party.waiting⟩

/-- Its message, if it has one, is in a transaction and at a stage there. -/
def At (stage : Stage) (t : Nat) (p : Participant) : Prop :=
  ∀ c, p.party = .consignment c → c.stage = stage ∧ c.joined = some t

def IsBystander (p : Participant) : Prop := p.party.consignment? = none

theorem item_cleanUp (t : Nat) (p : Participant) : (p.cleanUp t).item = p.item := by
  unfold cleanUp
  split <;> simp [item, withdrawn, aborted, Party.waiting_withdraw, Party.waiting_abort]

theorem isBystander_cleanUp {t : Nat} {p : Participant} (h : p.IsBystander) :
    (p.cleanUp t).IsBystander := by
  obtain ⟨serial, key, party, voted⟩ := p
  cases party with
  | consignment c => cases h
  | outsider refusal => cases voted <;> rfl

theorem objection?_of_at {t : Nat} {p : Participant} (h : p.At .initial t) :
    p.objection? t = none := by
  obtain ⟨serial, key, party, voted⟩ := p
  cases party with
  | outsider refusal => rfl
  | consignment c =>
      obtain ⟨hstage, hjoined⟩ := h c rfl
      have hcheck : c.checkStage t [.initial, .begun, .aborted] = .ok () :=
        Consignment.checkStage_eq_ok_iff.mpr ⟨hjoined, by simp [hstage]⟩
      simp [objection?, Party.abort, Party.act, Consignment.abort, Action.run_bind, hcheck,
        Consignment.enter]

/-- Before the last round a participant refuses only if it is no message. -/
theorem perform_before_finish (mailer : Mailer) {t : Nat} {phase : Phase} (hphase : phase ≠ .finish)
    {p : Participant} (hp : p.At phase.entry t) (box : Outbox) :
    let o := (perform mailer t phase).run (p, box)
    o.state.2 = box ∧ o.state.1.item = p.item ∧ o.state.1.serial = p.serial ∧
      o.result.isOk = !p.party.waiting.refuses phase ∧
      (o.result.isOk = true → o.state.1.At phase.exit t) := by
  obtain ⟨serial, key, party, voted⟩ := p
  cases party with
  | outsider refusal =>
      cases h : refusal phase <;>
        simp [perform, Party.perform, item, Party.waiting, Waiting.refuses, h, At]
  | consignment c =>
      obtain ⟨hstage, hjoined⟩ := hp c rfl
      have hcheck (hne : c.stage ∈ [phase.entry]) : c.checkStage t [phase.entry] = .ok () :=
        Consignment.checkStage_eq_ok_iff.mpr ⟨hjoined, hne⟩
      have hin : c.checkJoined t = .ok () := Consignment.checkJoined_eq_ok_iff.mpr hjoined
      cases phase with
      | finish => exact absurd rfl hphase
      | start =>
          simp_all [perform, Party.perform, Consignment.start, Action.run_bind, Phase.entry,
            Phase.exit, Consignment.enter, item, Party.waiting, Waiting.refuses, At]
      | commit =>
          simp_all [perform, Party.perform, Consignment.commit, Phase.entry, Phase.exit, item,
            Party.waiting, Waiting.refuses, At]
      | vote =>
          simp_all [perform, Party.perform, Consignment.vote, Action.run_bind, Phase.entry,
            Phase.exit, Consignment.enter, item, Party.waiting, Waiting.refuses, At]

theorem performAll_before_finish (mailer : Mailer) {t : Nat} {phase : Phase}
    (hphase : phase ≠ .finish) {ps : List Participant} (hps : ∀ p ∈ ps, p.At phase.entry t)
    (box : Outbox) :
    let o := performAll mailer t phase ps box
    o.state.2 = box ∧ o.state.1.map item = ps.map item ∧
      o.result.isOk = !(ps.map item).any (fun i => i.waiting.refuses phase) ∧
      (o.result.isOk = true → ∀ p ∈ o.state.1, p.At phase.exit t) := by
  induction ps with
  | nil => simp [performAll]
  | cons p rest ih =>
      obtain ⟨hbox, hitem, -, hresult, hat⟩ :=
        perform_before_finish mailer hphase (hps p List.mem_cons_self) box
      obtain ⟨ihbox, ihitems, ihresult, ihat⟩ := ih fun q hq => hps q (List.mem_cons_of_mem p hq)
      cases h : ((perform mailer t phase).run (p, box)).result with
      | error e =>
          have hrefuses : p.item.waiting.refuses phase = true := by
            simpa [h, item] using hresult
          simp [performAll, h, hbox, hitem, hrefuses]
      | ok u =>
          have hrefuses : p.item.waiting.refuses phase = false := by
            simpa [h, item] using hresult
          simp only [performAll, h, hbox, List.map_cons, List.any_cons, hitem, hrefuses,
            Bool.false_or, ihbox, ihitems, ihresult, true_and, List.mem_cons, forall_eq_or_imp]
          intro hok
          exact ⟨hat (by rw [h]; rfl), ihat (by rw [ihresult, hok])⟩

/-- In the last round the messages go to the mailer one after the other. -/
theorem performAll_finish (mailer : Mailer) {t : Nat} {ps : List Participant}
    (hps : ∀ p ∈ ps, p.At .voted t) (box : Outbox) :
    let o := performAll mailer t .finish ps box
    o.state.1.map item = ps.map item ∧
      o.state.2.accepted =
        box.accepted ++ (Queue.offer mailer box.handed (ps.map item)).1 ∧
      o.state.2.handed = (Queue.offer mailer box.handed (ps.map item)).2 ∧
      (o.result.isOk = true → Queue.offer mailer box.handed (ps.map item) =
        (Queue.messagesOf (ps.map item),
          box.handed + (Queue.messagesOf (ps.map item)).length)) := by
  induction ps generalizing box with
  | nil => simp [performAll, Queue.offer, Queue.messagesOf]
  | cons p rest ih =>
      obtain ⟨serial, key, party, voted⟩ := p
      have ih := ih fun q hq => hps q (List.mem_cons_of_mem _ hq)
      cases party with
      | outsider refusal =>
          cases h : refusal .finish with
          | some e =>
              simp [performAll, perform, Party.perform, h, item, Party.waiting, Queue.offer]
          | none =>
              have := ih box
              simp_all [performAll, perform, Party.perform, item, Party.waiting, Queue.offer,
                Queue.messagesOf, Waiting.message?]
      | consignment c =>
          obtain ⟨hstage, hjoined⟩ := hps _ List.mem_cons_self c rfl
          have hcheck : c.checkStage t [.voted] = .ok () :=
            Consignment.checkStage_eq_ok_iff.mpr ⟨hjoined, by simp [hstage]⟩
          cases h : (mailer box.handed c.message).result with
          | error e =>
              simp [performAll, perform, Party.perform, Consignment.finish, Action.run_bind, hcheck,
                Outbox.hand, h, item, Party.waiting, Queue.offer]
          | ok u =>
              have := ih ((Outbox.hand mailer c.message).run box).state
              simp_all [performAll, perform, Party.perform, Consignment.finish, Action.run_bind,
                Outbox.hand, item, Party.waiting, Queue.offer, Queue.messagesOf,
                Waiting.message?, Consignment.enter, Nat.add_assoc, Nat.add_comm 1]

/-- Those without a message keep the outbox as it is in every round. -/
theorem performAll_bystanders (mailer : Mailer) (t : Nat) (phase : Phase) {ps : List Participant}
    (hps : ∀ p ∈ ps, p.IsBystander) (box : Outbox) :
    let o := performAll mailer t phase ps box
    o.state.2 = box ∧ ∀ p ∈ o.state.1, p.IsBystander := by
  induction ps with
  | nil => simp [performAll]
  | cons p rest ih =>
      obtain ⟨ihbox, ihrest⟩ := ih fun q hq => hps q (List.mem_cons_of_mem p hq)
      have hp := hps p List.mem_cons_self
      obtain ⟨serial, key, party, voted⟩ := p
      cases party with
      | consignment c => cases hp
      | outsider refusal =>
          cases h : refusal phase with
          | some e =>
              have hrest := fun q hq => hps q (List.mem_cons_of_mem _ hq)
              simpa [performAll, perform, Party.perform, h, IsBystander,
                Party.consignment?] using hrest
          | none =>
              simpa [performAll, perform, Party.perform, h, ihbox, IsBystander,
                Party.consignment?] using ihrest

end Participant

end Mailroom.Delivery
