import Mailroom.Proofs.Delivery.Identified

/-!
What a desk does for a transaction that is still empty. Messages that are sent are queued one after
the other, each under the identifier that sending it gave; and a commit to which nobody objects
succeeds and hands over just what is queued.
-/

namespace Mailroom.Delivery

open Mailroom.Action

variable {service : Service} {mailer : Mailer}

/-! ### Commits that succeed -/

/-- Nothing stands in the way of a commit: the mailer takes the message, however many it was handed
before, and another participant refuses in no phase. -/
def Waiting.Willing (mailer : Mailer) : Waiting → Prop
  | .message m => ∀ n, (mailer n m).result = .ok ()
  | .other refusal => ∀ phase, refusal phase = none

theorem Waiting.Willing.not_refuses {w : Waiting} (h : w.Willing mailer) (phase : Phase) :
    w.refuses phase = false := by
  cases w with
  | message m => rfl
  | other refusal => simp [refuses, h phase]

theorem Participant.performAll_finish_of_willing {t : Nat} {ps : List Participant}
    (hps : ∀ p ∈ ps, p.At .voted t) (hwilling : ∀ p ∈ ps, p.item.waiting.Willing mailer)
    (box : Outbox) : (performAll mailer t .finish ps box).result = .ok () := by
  induction ps generalizing box with
  | nil => rfl
  | cons p rest ih =>
      have ih := ih (fun q hq => hps q (List.mem_cons_of_mem p hq))
        fun q hq => hwilling q (List.mem_cons_of_mem p hq)
      have hp := hwilling p List.mem_cons_self
      suffices hfirst : ((perform mailer t .finish).run (p, box)).result = .ok () by
        simp only [performAll, hfirst, ih]
      obtain ⟨serial, key, party, voted⟩ := p
      cases party with
      | outsider refusal =>
          have hnone : refusal .finish = none := hp .finish
          simp [perform, Party.perform, hnone]
      | consignment c =>
          obtain ⟨hstage, hjoined⟩ := hps _ List.mem_cons_self c rfl
          have hcheck : c.checkStage t [.voted] = .ok () :=
            Consignment.checkStage_eq_ok_iff.mpr ⟨hjoined, List.mem_singleton.mpr hstage⟩
          have htakes : (mailer box.handed c.message).result = .ok () := hp box.handed
          simp [perform, Party.perform, Consignment.finish, run_bind, hcheck, Outbox.hand, htakes,
            Consignment.enter]

namespace Transaction

variable {t : Transaction}

/-- Rounds that succeed when the messages are at a stage and everyone is willing. -/
def Succeeds (mailer : Mailer) (stage : Stage) (rounds : Action (Transaction × Outbox) Unit) :
    Prop :=
  ∀ (t : Transaction) (box : Outbox), (∀ p ∈ t.participants, p.At stage t.serial) →
    (∀ i ∈ t.items, i.waiting.Willing mailer) → (rounds.run (t, box)).result = .ok ()

theorem succeeds_finish (mailer : Mailer) :
    Succeeds mailer .voted (performPhase mailer .finish) := by
  intro t box hps hwilling
  refine Participant.performAll_finish_of_willing hps (fun p hp => ?_) box
  exact hwilling p.item (List.mem_map_of_mem hp)

theorem Succeeds.after (phase : Phase) {rounds : Action (Transaction × Outbox) Unit}
    (hrounds : Succeeds mailer phase.exit rounds) (hphase : phase ≠ .finish) :
    Succeeds mailer phase.entry (performPhase mailer phase >>= fun _ => rounds) := by
  intro t box hps hwilling
  obtain ⟨-, hitems, hresult, hat⟩ :=
    Participant.performAll_before_finish mailer hphase hps box
  have hrefused : (t.items.any fun i => i.waiting.refuses phase) = false :=
    List.any_eq_false.mpr fun i hi => by simp [(hwilling i hi).not_refuses phase]
  have hok : ((performPhase mailer phase).run (t, box)).result.isOk = true := by
    refine hresult.trans ?_
    rw [← items, hrefused]
    rfl
  obtain ⟨u, hu⟩ := exists_of_isOk hok
  rw [run_bind_ok hu]
  have hkept : ((performPhase mailer phase).run (t, box)).state.1.items = t.items := hitems
  exact hrounds _ _ (hat hok) (hkept ▸ hwilling)

theorem succeeds_performPhases (mailer : Mailer) :
    Succeeds mailer .initial (performPhases mailer) := by
  have hvote := Succeeds.after .vote (succeeds_finish mailer) (by simp)
  have hcommit := Succeeds.after .commit hvote (by simp)
  exact Succeeds.after .start hcommit (by simp)

theorem result_commit_of_willing (hactive : t.condition = .active)
    (hps : ∀ p ∈ t.participants, p.At .initial t.serial)
    (hwilling : ∀ i ∈ t.items, i.waiting.Willing mailer) (box : Outbox) :
    ((commit mailer).run (t, box)).result = .ok () := by
  have hperm : (byKey t.participants).Perm t.participants := List.mergeSort_perm _ _
  have hok := succeeds_performPhases mailer t.inOrder box (fun p hp => hps p (hperm.mem_iff.mp hp))
    fun i hi => hwilling i ((hperm.map Participant.item).mem_iff.mp hi)
  rw [run_commit_of_active mailer hactive]
  generalize (performPhases mailer).run (t.inOrder, box) = rounds at *
  obtain ⟨result, s, log⟩ := rounds
  obtain rfl : result = .ok () := hok
  rfl

end Transaction

/-- When everyone in the queue is willing, a commit hands over all the messages in it. -/
theorem Queue.Follows.commit_of_willing {q : Queue} {d : Desk} (h : q.Follows d)
    (hactive : q.condition = .active) (hwilling : ∀ i ∈ q.items, i.waiting.Willing service.mailer) :
    let o := (Desk.perform service (.commit .own)).run d
    o.result = .ok .nothing ∧
      o.state.outbox.accepted = d.outbox.accepted ++ messagesOf (byKey q.items) := by
  intro o
  have hcurrent : d.own.currentOrNext.condition = .active := h.condition.symm.trans hactive
  have hitems := h.items (by simp [hactive])
  have hcommit := Transaction.result_commit_of_willing hcurrent
    (fun p hp => (h.orderly.current.fresh (by simp [hcurrent]) p hp).1)
    (by rwa [hitems]) d.outbox
  have hresult : o.result = .ok .nothing := by
    simp only [o, Desk.perform, Desk.run_done, Desk.commit, run_within, Desk.manager]
    rw [Manager.run_commit_of_ok (by rw [hcommit]; rfl)]
    rfl
  refine ⟨hresult, ?_⟩
  have hfollows := h.performing service (.commit .own)
  rw [show ((Desk.perform service (.commit .own)).run d).result = _ from hresult] at hfollows
  rw [← h.delivered]
  exact hfollows.delivered.symm

/-! ### New transactions -/

namespace Desk

/-- The steps that send some messages. -/
def sends (ms : List Message) : List Step := ms.map fun m => .send (some m)

/-- A message was sent, and this is what is queued for it. -/
def QueuedAs (service : Service) (event : Step × Except Fault Value) (queued : Message) : Prop :=
  ∃ m id, event = (.send (some m), .ok id) ∧ SentAs service.newId m id queued

/-- Messages can be sent and committed at a desk: each is queued under the identifier that sending
it gives, and if the mailer takes them, a commit succeeds and hands over just what was queued. -/
structure Serves (service : Service) (d : Desk) (ms : List Message) : Prop where
  queues : List.Forall₂ (QueuedAs service) (history service (sends ms) d)
    (after service (sends ms) d).own.waiting
  commits : (∀ m ∈ (after service (sends ms) d).own.waiting, ∀ n,
      (service.mailer n m).result = .ok ()) →
    let o := (perform service (.commit .own)).run (after service (sends ms) d)
    o.result = .ok .nothing ∧ ∃ taken, taken.Perm (after service (sends ms) d).own.waiting ∧
      o.state.outbox.accepted = d.outbox.accepted ++ taken

variable {d : Desk}

theorem exists_send_eq_ok (service : Service) {m : Message} (hid : (idOf m.headers).isOk = true)
    (h : d.own.currentOrNext.condition ≠ .failed) :
    ∃ id, ((send service (some m)).run d).result = .ok id := by
  obtain ⟨found, hfound⟩ := exists_of_isOk hid
  obtain ⟨given, issued, -, hidentify⟩ := run_identify service hfound d
  exact ⟨given, (run_send_of_ne_failed hidentify h).1⟩

end Desk

namespace Queue

variable {q : Queue} {d : Desk}

/-- The queue takes messages and holds nothing else. -/
structure Takes (q : Queue) : Prop where
  active : q.condition = .active
  plain : ∀ i ∈ q.items, ∃ m, i.waiting = .message m

theorem Takes.enqueue (h : q.Takes) (m : Message) : (q.enqueue service m).Takes where
  active := h.active
  plain i hi := by
    rcases List.mem_append.mp hi with hi | hi
    · exact h.plain i hi
    · obtain rfl := List.mem_singleton.mp hi
      exact ⟨m, rfl⟩

/-- Sending adds to those who wait. -/
theorem Follows.sending (h : q.Follows d) (service : Service) {ms : List Message} (htakes : q.Takes)
    (hms : ∀ m ∈ ms, (idOf m.headers).isOk = true) :
    ∃ (loaded : Queue) (queued : List Message),
      loaded.Follows (Desk.after service (Desk.sends ms) d) ∧ loaded.Takes ∧
      loaded.delivered = q.delivered ∧
      (Desk.after service (Desk.sends ms) d).own.waiting = d.own.waiting ++ queued ∧
      List.Forall₂ (Desk.QueuedAs service) (Desk.history service (Desk.sends ms) d) queued := by
  induction ms generalizing q d with
  | nil => exact ⟨q, [], h, htakes, rfl, (List.append_nil _).symm, .nil⟩
  | cons m rest ih =>
      have hcondition : d.own.currentOrNext.condition ≠ .failed := by
        rw [← h.condition, htakes.active]
        simp
      obtain ⟨id, hresult⟩ :=
        Desk.exists_send_eq_ok service (hms m List.mem_cons_self) hcondition
      obtain ⟨hsent, hwaiting⟩ := Desk.send_eq_ok hresult
      have hfollows := h.performing service (.send (some m))
      rw [show ((Desk.perform service (.send (some m))).run d).result = _ from hresult] at hfollows
      obtain ⟨loaded, queued, hloaded, hplain, hdelivered, hmore, hqueued⟩ :=
        ih hfollows (htakes.enqueue _) fun n hn => hms n (List.mem_cons_of_mem m hn)
      refine ⟨loaded, stamped id m :: queued, hloaded, hplain, hdelivered, ?_, ?_⟩
      · refine hmore.trans ?_
        refine (congrArg (· ++ queued) hwaiting).trans ?_
        exact List.append_assoc _ _ _
      · exact .cons ⟨m, id, Prod.ext rfl hresult, hsent⟩ hqueued

theorem Follows.serves (h : q.Follows d) (hactive : q.condition = .active) (hempty : q.items = [])
    {ms : List Message} (hms : ∀ m ∈ ms, (idOf m.headers).isOk = true) :
    d.Serves service ms := by
  have htakes : q.Takes := ⟨hactive, by simp [hempty]⟩
  obtain ⟨loaded, queued, hfollows, hplain, hdelivered, hwaiting, hqueued⟩ :=
    h.sending service htakes hms
  have hnone : d.own.waiting = [] := by
    rw [Manager.waiting_eq, Transaction.waiting_eq_messagesOf, h.items (by simp [hactive]), hempty]
    rfl
  rw [hnone, List.nil_append] at hwaiting
  refine ⟨by rwa [hwaiting], fun hmailer => ?_⟩
  have hloaded : (Desk.after service (Desk.sends ms) d).own.waiting = loaded.messages := by
    rw [Manager.waiting_eq, Transaction.waiting_eq_messagesOf,
      hfollows.items (by simp [hplain.active])]
    rfl
  have hwilling : ∀ i ∈ loaded.items, i.waiting.Willing service.mailer := by
    intro i hi
    obtain ⟨m, hm⟩ := hplain.plain i hi
    rw [hm]
    refine hmailer m ?_
    rw [hloaded]
    exact List.mem_filterMap.mpr ⟨i, hi, by rw [hm]; rfl⟩
  obtain ⟨hresult, haccepted⟩ := hfollows.commit_of_willing hplain.active hwilling
  refine ⟨hresult, messagesOf (byKey loaded.items), ?_, ?_⟩
  · rw [hloaded]
    exact (byKey_perm loaded.items).filterMap _
  · rw [haccepted, ← hfollows.delivered, hdelivered, h.delivered]

end Queue

end Mailroom.Delivery
