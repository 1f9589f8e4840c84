import Mailroom.Proofs.Delivery.Rounds

/-!
A commit, seen from the queue. A transaction whose messages have not begun is committed exactly as
the queue of its participants hands over: in the order of the keys, and not at all if someone
refuses before the last round.
-/

namespace Mailroom.Delivery

namespace Queue

theorem byKey_perm (items : List Item) : (byKey items).Perm items := List.mergeSort_perm _ _

theorem length_messagesOf_byKey (items : List Item) :
    (messagesOf (byKey items)).length = (messagesOf items).length :=
  ((byKey_perm items).filterMap _).length_eq

end Queue

namespace Transaction

variable {t : Transaction}

/-- The participants as a queue sees them. -/
def items (t : Transaction) : List Queue.Item := t.participants.map Participant.item

theorem waiting_eq_messagesOf (t : Transaction) : t.waiting = Queue.messagesOf t.items := by
  unfold waiting Queue.messagesOf items
  rw [List.filterMap_map]
  congr 1
  funext p
  obtain ⟨serial, key, party, voted⟩ := p
  cases party <;> rfl

theorem map_item_byKey (ps : List Participant) :
    (byKey ps).map Participant.item = Queue.byKey (ps.map Participant.item) :=
  List.map_mergeSort fun _ _ _ _ => rfl

/-- What the rounds that are left do to a transaction whose messages are at a stage: if one of the
rounds in `early` is refused, nothing is handed over, and otherwise what the mailer takes. -/
def HandsOver (mailer : Mailer) (early : List Phase) (stage : Stage)
    (rounds : Action (Transaction × Outbox) Unit) : Prop :=
  ∀ (t : Transaction) (box : Outbox), (∀ p ∈ t.participants, p.At stage t.serial) →
    let o := rounds.run (t, box)
    let refused := early.any fun phase => t.items.any fun i => i.waiting.refuses phase
    let taken := if refused then ([], box.handed) else Queue.offer mailer box.handed t.items
    (∃ ps, ps.map Participant.item = t.items ∧ o.state.1 = { t with participants := ps }) ∧
      o.state.2.accepted = box.accepted ++ taken.1 ∧ o.state.2.handed = taken.2 ∧
      (o.result.isOk = true → taken =
        (Queue.messagesOf t.items, box.handed + (Queue.messagesOf t.items).length))

theorem handsOver_finish (mailer : Mailer) :
    HandsOver mailer [] .voted (performPhase mailer .finish) := by
  intro t box hps
  obtain ⟨hitems, haccepted, hhanded, hall⟩ := Participant.performAll_finish mailer hps box
  exact ⟨⟨_, hitems, rfl⟩, haccepted, hhanded, hall⟩

/-- A round before the last hands over nothing itself. -/
theorem HandsOver.after {mailer : Mailer} {early : List Phase} (phase : Phase)
    {rounds : Action (Transaction × Outbox) Unit}
    (hrounds : HandsOver mailer early phase.exit rounds) (hphase : phase ≠ .finish) :
    HandsOver mailer (phase :: early) phase.entry
      (performPhase mailer phase >>= fun _ => rounds) := by
  intro t box hps
  obtain ⟨hbox, hitems, hresult, hat⟩ :=
    Participant.performAll_before_finish mailer hphase hps box
  generalize hround : Participant.performAll mailer t.serial phase t.participants box = round at *
  have hrun : (performPhase mailer phase).run (t, box) =
      ⟨round.result, ({ t with participants := round.state.1 }, round.state.2), round.log⟩ := by
    rw [← hround]
    rfl
  cases h : round.result with
  | error e =>
      have hrefused : (t.items.any fun i => i.waiting.refuses phase) = true := by
        simpa [items, h] using hresult
      rw [Action.run_bind_error (e := e) (by rw [hrun]; exact h), hrun]
      refine ⟨⟨round.state.1, hitems, rfl⟩, ?_, ?_, ?_⟩ <;>
        simp [hrefused, hbox]
  | ok u =>
      have hrefused : (t.items.any fun i => i.waiting.refuses phase) = false := by
        simpa [items, h] using hresult
      have hnext := hrounds { t with participants := round.state.1 } box (hat (by rw [h]; rfl))
      have hkept : ({ t with participants := round.state.1 } : Transaction).items = t.items :=
        hitems
      rw [Action.run_bind_ok (a := u) (by rw [hrun]; exact h), hrun]
      simpa only [hkept, hbox, List.any_cons, hrefused, Bool.false_or] using hnext

theorem handsOver_performPhases (mailer : Mailer) :
    HandsOver mailer [.start, .commit, .vote] .initial (performPhases mailer) := by
  have hvote := HandsOver.after .vote (handsOver_finish mailer) (by simp)
  have hcommit := HandsOver.after .commit hvote (by simp)
  exact HandsOver.after .start hcommit (by simp)

theorem run_commit_of_doomed (mailer : Mailer) (h : t.condition = .doomed) (box : Outbox) :
    (commit mailer).run (t, box) = ⟨.error (.transaction .doomed), (t, box), []⟩ := by
  simp [commit, Action.run_bind, h]

/-- A transaction that has failed has no savepoints left to lose. -/
theorem run_commit_of_failed (mailer : Mailer) (h : t.condition = .failed) (box : Outbox) :
    (commit mailer).run (t, box) =
      ⟨.error (.transaction .failedEarlier), ({ t with savepoints := [] }, box), []⟩ := by
  simp [commit, Action.run_bind, h, requireUsable, accepts]

/-- The transaction as a commit takes it up. -/
def inOrder (t : Transaction) : Transaction :=
  { t with savepoints := [], participants := byKey t.participants }

/-- The transaction as a refusal leaves it. -/
def cleanedUp (t : Transaction) : Transaction :=
  { t with
    participants := t.participants.map (Participant.cleanUp t.serial)
    condition := .failed }

theorem run_commit_of_active (mailer : Mailer) (h : t.condition = .active) (box : Outbox) :
    (commit mailer).run (t, box) =
      match (performPhases mailer).run (t.inOrder, box) with
      | ⟨.ok _, s, log⟩ => ⟨.ok (), s, log⟩
      | ⟨.error e, s, log⟩ => ⟨.error e, (s.1.cleanedUp, s.2), log⟩ := by
  simp only [commit, Action.run_bind, Action.run_state, h, inOrder, cleanedUp]
  simp only [beq_iff_eq, reduceCtorEq, ite_false, Action.run_bind, Action.run_onFirst,
    Action.run_update, requireUsable, Action.run_state, accepts, h, Action.run_ofExcept,
    Action.run_attempt]
  generalize (performPhases mailer).run _ = rounds
  obtain ⟨result, s, log⟩ := rounds
  cases result <;> simp [Action.run_bind]

theorem commit_of_active (mailer : Mailer) (hactive : t.condition = .active)
    (hps : ∀ p ∈ t.participants, p.At .initial t.serial) (box : Outbox) :
    let o := (commit mailer).run (t, box)
    let taken := Queue.takenBy mailer box.handed (Queue.byKey t.items)
    o.state.2.accepted = box.accepted ++ taken.1 ∧ o.state.2.handed = taken.2 ∧
      (o.result.isOk = true → taken =
        (Queue.messagesOf (Queue.byKey t.items),
          box.handed + (Queue.messagesOf (Queue.byKey t.items)).length)) ∧
      (o.result.isOk = false → ∃ ps, ps.map Participant.item = Queue.byKey t.items ∧
        o.state.1 = { t with participants := ps, savepoints := [], condition := .failed }) := by
  have hat : ∀ p ∈ t.inOrder.participants, p.At .initial t.inOrder.serial := fun p hp =>
    hps p ((List.mergeSort_perm _ _).mem_iff.mp hp)
  obtain ⟨⟨ps, hitems, hstate⟩, haccepted, hhanded, hall⟩ :=
    handsOver_performPhases mailer t.inOrder box hat
  have hsorted : t.inOrder.items = Queue.byKey t.items := map_item_byKey t.participants
  rw [hsorted] at hitems haccepted hhanded hall
  rw [run_commit_of_active mailer hactive]
  generalize (performPhases mailer).run (t.inOrder, box) = rounds at *
  obtain ⟨result, ⟨after, outbox⟩, log⟩ := rounds
  obtain rfl : after = _ := hstate
  cases result with
  | ok u => exact ⟨haccepted, hhanded, fun _ => hall rfl, by simp⟩
  | error e =>
      refine ⟨haccepted, hhanded, by simp, fun _ => ?_⟩
      refine ⟨ps.map (Participant.cleanUp t.serial), ?_, rfl⟩
      rw [← hitems, List.map_map]
      exact List.map_congr_left fun p _ => Participant.item_cleanUp t.serial p

end Transaction

end Mailroom.Delivery
