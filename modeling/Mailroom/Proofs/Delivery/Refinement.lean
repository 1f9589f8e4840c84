import Mailroom.Proofs.Delivery.Follows

/-!
The delivery desk refines a queue. Every step at the desk, whether it succeeds or fails, is a step
of the queue that is told the result; so after any run the mailer took just what the queue handed
over, and what waits at the desk is what the queue holds.
-/

namespace Mailroom.Delivery

open Mailroom.Action

variable {service : Service} {q : Queue} {d : Desk}

namespace Transaction

variable {t : Transaction}

theorem run_consign_of_failed (h : t.condition = .failed) (key : String) (m : Message) :
    (consign key m).run t = ⟨.error (.transaction .failedEarlier), t, []⟩ := by
  simp [consign, run_bind, Consignment.join, Consignment.ofMessage, accepts, h]

theorem run_consign_of_ne_failed (h : t.condition ≠ .failed) (key : String) (m : Message) :
    (consign key m).run t =
      ⟨.ok (), t.enlist key (.consignment ⟨m, .initial, some t.serial, [t.serial]⟩), []⟩ := by
  simp [consign, run_bind, Consignment.join, Consignment.ofMessage, accepts, h]

theorem run_join_of_failed (h : t.condition = .failed) (key : String) (party : Party) :
    (join key party).run t = ⟨.error (.transaction .failedEarlier), t, []⟩ := by
  simp [join, run_bind, requireUsable, accepts, h]

theorem run_join_of_ne_failed (h : t.condition ≠ .failed) (key : String) (party : Party) :
    (join key party).run t = ⟨.ok (), t.enlist key party, []⟩ := by
  simp [join, run_bind, requireUsable, accepts, h]

theorem run_doom_of_failed (h : t.condition = .failed) :
    doom.run t = ⟨.error (.value .notDoomable), t, []⟩ := by
  simp [doom, run_bind, h]

theorem run_doom_of_ne_failed (h : t.condition ≠ .failed) :
    doom.run t = ⟨.ok (), { t with condition := .doomed }, []⟩ := by
  obtain ⟨serial, condition, participants, savepoints, joins, marks⟩ := t
  cases condition with
  | failed => exact absurd rfl h
  | active => rfl
  | doomed => rfl

end Transaction

namespace Manager

variable {m : Manager} {handle : Handle}

theorem run_rollback_of_lengthAt_none (h : m.lengthAt handle = none) :
    (rollback handle).run m = ⟨.error (.transaction .savepointInvalid), m, []⟩ := by
  obtain ⟨current, begun⟩ := m
  cases current with
  | none => simp [rollback, run_bind]
  | some t =>
      by_cases hserial : handle.transaction = t.serial
      · have hfind : t.savepoints.find? (fun s => s.number == handle.number) = none := by
          have hlength : t.lengthAt handle.number = none := (if_pos hserial).symm.trans h
          exact Option.map_eq_none_iff.mp hlength
        simp [rollback, run_bind, hserial, onTransaction, currentOrNext,
          Transaction.run_rollback_of_none hfind, holding]
      · simp [rollback, run_bind, Ne.symm hserial]

theorem run_rollback_of_lengthAt_some (horderly : m.currentOrNext.Orderly) {length : Nat}
    (h : m.lengthAt handle = some length) :
    ∃ s, m.currentOrNext.savepoints.find? (fun s => s.number == handle.number) = some s ∧
      handle.transaction = m.currentOrNext.serial ∧
      (rollback handle).run m = ⟨.ok (), m.holding (m.currentOrNext.rolledBack s), []⟩ := by
  unfold lengthAt at h
  split at h
  · rename_i hserial
    obtain ⟨s, hs, -⟩ := Option.map_eq_some_iff.mp h
    have hrun := Transaction.run_rollback_of_some horderly hs
    refine ⟨s, hs, hserial, ?_⟩
    cases hcurrent : m.current with
    | none => simp [currentOrNext, hcurrent, Transaction.ofSerial] at hs
    | some t =>
        have hsame : t.serial = handle.transaction := by
          rw [hserial]
          simp [currentOrNext, hcurrent]
        simp [rollback, run_bind, hcurrent, hsame, onTransaction, hrun]
  · cases h

end Manager

namespace Desk

theorem run_done (x : Action Desk Unit) (d : Desk) :
    (perform.done x).run d =
      ⟨(x.run d).result.map fun _ => Value.nothing, (x.run d).state, (x.run d).log⟩ := by
  unfold perform.done
  rw [run_bind]
  cases (x.run d).result <;> simp [Except.map]

/-- What is done to the transaction of the own manager. -/
theorem run_onTransaction {α : Type} (x : Action Transaction α) (d : Desk) :
    let o := x.run d.own.currentOrNext
    (onManager .own (Manager.onTransaction x)).run d = ⟨o.result, d.holding o.state, o.log⟩ := rfl

/-- The identifier of a message that is sent: the one that is found or, if that is nothing, a new
one. -/
def Gives (service : Service) (d : Desk) (found given : Value) : Prop :=
  found = .nothing ∧ given = .text (service.newId d.issued) ∨ found ≠ .nothing ∧ given = found

theorem run_identify (service : Service) {m : Message} {id : Value}
    (h : idOf m.headers = .ok id) (d : Desk) :
    ∃ given issued, d.Gives service id given ∧ (identify service m).run d =
      ⟨.ok (Queue.stamped given m, given), { d with issued := issued }, []⟩ := by
  cases id with
  | nothing =>
      refine ⟨.text (service.newId d.issued), d.issued + 1, .inl ⟨rfl, rfl⟩, ?_⟩
      simp [identify, run_bind, h, Queue.stamped, Except.map]
  | _ =>
      refine ⟨_, d.issued, .inr ⟨nofun, rfl⟩, ?_⟩
      simp [identify, run_bind, h, Queue.stamped]

section Sending

variable {d : Desk} {m : Message} {given : Value} {issued : Nat}

theorem run_send_of_error {e : Fault} (h : idOf m.headers = .error e) :
    (send service (some m)).run d = ⟨.error e, d, []⟩ := by
  simp [send, identify, run_bind, h]

variable (hidentify : (identify service m).run d =
  ⟨.ok (Queue.stamped given m, given), { d with issued := issued }, []⟩)
include hidentify

theorem run_send_of_failed (h : d.own.currentOrNext.condition = .failed) :
    (send service (some m)).run d = ⟨.error (.transaction .failedEarlier),
      ({ d with issued := issued } : Desk).holding d.own.currentOrNext, []⟩ := by
  simp [send, run_bind, hidentify, Manager.consign, run_onTransaction,
    Transaction.run_consign_of_failed h]

/-- The message joins the transaction as a consignment of its own. -/
theorem run_send_of_ne_failed (h : d.own.currentOrNext.condition ≠ .failed) :
    let t := d.own.currentOrNext
    let c : Consignment := ⟨Queue.stamped given m, .initial, some t.serial, [t.serial]⟩
    ((send service (some m)).run d).result = .ok given ∧
      ((send service (some m)).run d).state =
        { ({ d with issued := issued } : Desk).holding
            (t.enlist (service.keyOf d.consigned) (.consignment c)) with
          consigned := d.consigned + 1 } := by
  simp [send, run_bind, hidentify, Manager.consign, run_onTransaction,
    Transaction.run_consign_of_ne_failed h, holding, Except.map]

end Sending

end Desk

namespace Queue

/-- A queue that follows the desk before a step follows it after the step, told the result. -/
def KeepsUp (service : Service) (step : Desk.Step) : Prop :=
  ∀ (q : Queue) (d : Desk), q.Follows d →
    (q.follow service step ((Desk.perform service step).run d).result).Follows
      ((Desk.perform service step).run d).state

theorem keepsUp_send (item : Option Message) : KeepsUp service (.send item) := by
  intro q d h
  simp only [Desk.perform]
  cases item with
  | none => exact h
  | some m =>
      cases hid : idOf m.headers with
      | error e =>
          rw [Desk.run_send_of_error hid]
          exact h
      | ok id =>
          obtain ⟨given, issued, -, hidentify⟩ := Desk.run_identify service hid d
          have hissuing := h.issuing issued
          by_cases hfailed : d.own.currentOrNext.condition = .failed
          · rw [Desk.run_send_of_failed hidentify hfailed]
            exact hissuing.holding
          · obtain ⟨hresult, hstate⟩ := Desk.run_send_of_ne_failed hidentify hfailed
            let t := d.own.currentOrNext
            let c : Consignment := ⟨stamped given m, .initial, some t.serial, [t.serial]⟩
            have hparty : ∀ u, Party.consignment c = .consignment u →
                u.stage = .initial ∧ u.joined = some t.serial := by
              rintro u ⟨rfl⟩
              exact ⟨rfl, rfl⟩
            have hjoined := hissuing.enlisting hfailed (service.keyOf d.consigned) hparty
            have hqueued : q.follow service (.send (some m)) (.ok given) =
                { q.push ⟨service.keyOf d.consigned, .message (stamped given m)⟩ with
                  sends := q.sends + 1 } := by
              rw [← h.sends]
              rfl
            rw [hresult, hstate, hqueued]
            exact hjoined.counting

theorem keepsUp_commit (side : Side) : KeepsUp service (.commit side) := by
  intro q d h
  simp only [Desk.perform, Desk.run_done, Desk.commit, run_within]
  cases side with
  | foreign =>
      obtain ⟨hidle, hbox⟩ :=
        Manager.keeps_isIdle_commit service.mailer d.outbox (d.foreign, d.outbox)
          ⟨h.orderly.idle, rfl⟩
      have hcommitted := h.besides hidle
      simp only [Desk.manager, Desk.setManager, hbox]
      exact hcommitted
  | own =>
      let t := d.own.currentOrNext
      simp only [Desk.manager, Desk.setManager]
      cases hcondition : t.condition with
      | doomed =>
          have hrun := Transaction.run_commit_of_doomed service.mailer hcondition d.outbox
          have herror := Manager.run_commit_of_error (m := d.own) (by rw [hrun])
          have hq : q.condition = .doomed := h.condition.trans hcondition
          rw [herror, hrun]
          simp only [follow, Except.map, fail, hq]
          exact h.holding
      | failed =>
          have hrun := Transaction.run_commit_of_failed service.mailer hcondition d.outbox
          have herror := Manager.run_commit_of_error (m := d.own) (by rw [hrun])
          have hq : q.condition = .failed := h.condition.trans hcondition
          have hsame : ({ t with savepoints := [] } : Transaction) = t := by
            rw [← h.orderly.current.ended hcondition]
          rw [herror, hrun, hsame]
          simp only [follow, Except.map, fail, hq]
          exact h.holding
      | active =>
          have hat := fun p hp => (h.orderly.current.fresh (by simp [t, hcondition]) p hp).1
          obtain ⟨haccepted, hhanded, hall, hfails⟩ :=
            Transaction.commit_of_active service.mailer hcondition hat d.outbox
          have hitems := h.items (by rw [h.condition, hcondition]; simp)
          cases hresult : ((Transaction.commit service.mailer).run (t, d.outbox)).result with
          | error e =>
              obtain ⟨ps, hps, hstate⟩ := hfails (by rw [hresult]; rfl)
              rw [Manager.run_commit_of_error hresult, hstate]
              exact h.failing hcondition hps haccepted hhanded
          | ok u =>
              have hok :
                  ((Transaction.commit service.mailer).run (t, d.outbox)).result.isOk = true := by
                rw [hresult]
                rfl
              have hstarts := h.restarting (m := ⟨none, _⟩)
                ⟨_, Manager.begun_le_holding t d.own, .inl rfl⟩
                ((Transaction.commit service.mailer).run (t, d.outbox)).state.2
              rw [Manager.run_commit_of_ok hok]
              rw [haccepted, hhanded, hall hok, hitems, ← h.delivered, ← h.offered,
                length_messagesOf_byKey] at hstarts
              exact hstarts

theorem keepsUp_abort (side : Side) : KeepsUp service (.abort side) := by
  intro q d h
  simp only [Desk.perform, Desk.run_done]
  cases side with
  | foreign => exact h.besides (Manager.keeps_isIdle_abort d.foreign h.orderly.idle)
  | own => exact h.clearing (Manager.startsFrom_abort d.own)

theorem keepsUp_begin (side : Side) : KeepsUp service (.begin side) := by
  intro q d h
  simp only [Desk.perform, Desk.run_done]
  cases side with
  | foreign => exact h.besides (Manager.keeps_isIdle_begin d.foreign h.orderly.idle)
  | own => exact h.clearing (Manager.startsFrom_begin d.own)

theorem keepsUp_doom (side : Side) : KeepsUp service (.doom side) := by
  intro q d h
  simp only [Desk.perform, Desk.run_done]
  cases side with
  | foreign =>
      have hidle := Manager.keeps_isIdle_onTransaction Transaction.keeps_isIdle_doom
        d.foreign h.orderly.idle
      exact h.besides hidle
  | own =>
      simp only [Manager.doom, Desk.run_onTransaction]
      by_cases hfailed : d.own.currentOrNext.condition = .failed
      · rw [Transaction.run_doom_of_failed hfailed]
        exact h.holding
      · rw [Transaction.run_doom_of_ne_failed hfailed]
        exact h.dooming hfailed

theorem keepsUp_join (side : Side) (key : String) (refusal : Phase → Option Fault) :
    KeepsUp service (.join side key refusal) := by
  intro q d h
  simp only [Desk.perform, Desk.run_done]
  cases side with
  | foreign =>
      have hidle := Manager.keeps_isIdle_onTransaction (Transaction.keeps_isIdle_join key refusal)
        d.foreign h.orderly.idle
      exact h.besides hidle
  | own =>
      simp only [Manager.join, Desk.run_onTransaction]
      by_cases hfailed : d.own.currentOrNext.condition = .failed
      · rw [Transaction.run_join_of_failed hfailed]
        exact h.holding
      · rw [Transaction.run_join_of_ne_failed hfailed]
        have hparty : ∀ c, Party.outsider refusal = .consignment c →
            c.stage = .initial ∧ c.joined = some d.own.currentOrNext.serial := nofun
        exact h.enlisting hfailed key hparty

theorem keepsUp_savepoint (side : Side) : KeepsUp service (.savepoint side) := by
  intro q d h
  simp only [Desk.perform, Desk.run_done]
  cases side with
  | foreign =>
      have hbesides := h.besides (Manager.keeps_isIdle_savepoint d.foreign h.orderly.idle)
      cases hresult : (Manager.savepoint.run d.foreign).result with
      | error e =>
          have hrun : (Desk.savepoint .foreign).run d =
              ⟨.error e, { d with foreign := (Manager.savepoint.run d.foreign).state },
                (Manager.savepoint.run d.foreign).log⟩ := run_bind_error hresult
          rw [hrun]
          exact hbesides
      | ok handle =>
          have hrun : (Desk.savepoint .foreign).run d =
              ⟨.ok (),
                { d with
                  foreign := (Manager.savepoint.run d.foreign).state
                  handles := d.handles ++ [(.foreign, handle)] },
                (Manager.savepoint.run d.foreign).log ++ []⟩ := run_bind_ok hresult
          rw [hrun]
          exact hbesides.markingBesides handle
  | own =>
      let t := d.own.currentOrNext
      by_cases hfailed : t.condition = .failed
      · have hrun : (Desk.savepoint .own).run d =
            ⟨.error (.transaction .failedEarlier), d.holding t, []⟩ := by
          simp [Desk.savepoint, run_bind, Manager.savepoint, Desk.onManager, Desk.manager,
            Manager.onTransaction, Transaction.run_savepoint_of_failed hfailed, t, Desk.setManager,
            Desk.holding]
        rw [hrun]
        exact h.holding
      · have hrun : (Desk.savepoint .own).run d =
            ⟨.ok (),
              { d.holding t.marked with handles := d.handles ++ [(.own, ⟨t.serial, t.marks⟩)] },
              []⟩ := by
          simp [Desk.savepoint, run_bind, Manager.savepoint, Desk.onManager, Desk.manager,
            Manager.onTransaction, Transaction.run_savepoint_of_ne_failed hfailed, t,
            Desk.setManager, Desk.holding, Except.map]
          rfl
        rw [hrun]
        exact h.marking hfailed

theorem keepsUp_rollback (n : Int) : KeepsUp service (.rollback n) := by
  intro q d h
  simp only [Desk.perform, Desk.run_done]
  have hkeep (hnone : ∀ place length, itemAt "list " q.marks n ≠ .ok ⟨place, some length⟩) :
      q.truncate n = q := by
    unfold truncate
    split
    · exact absurd ‹_› (hnone _ _)
    · rfl
  rcases itemAt_mapIdx "list " (fun place k => (⟨place, d.lengthAt k⟩ : Mark)) d.handles n with
    ⟨place, ⟨side, handle⟩, hplace, hhandle, hmark⟩ | ⟨e, hhandle, hmark⟩
  all_goals
    rw [← Desk.marks, ← h.marks] at hmark
  · have hrun : (Desk.rollback n).run d =
        (Desk.onManager side (Manager.rollback handle)).run d := by
      simp [Desk.rollback, run_bind, hhandle]
    rw [hrun]
    cases side with
    | foreign =>
        have hidle := Manager.keeps_isIdle_rollback handle d.foreign h.orderly.idle
        simp only [follow, hkeep (by simp [hmark, Desk.lengthAt])]
        exact h.besides hidle
    | own =>
        cases hlength : d.own.lengthAt handle with
        | none =>
            have hinvalid := Manager.run_rollback_of_lengthAt_none hlength
            simp only [follow, hkeep (by simp [hmark, Desk.lengthAt, hlength])]
            simp only [Desk.onManager, run_within, Desk.manager, Desk.setManager, hinvalid]
            exact h
        | some length =>
            obtain ⟨s, hs, hserial, hvalid⟩ :=
              Manager.run_rollback_of_lengthAt_some h.orderly.current hlength
            simp only [Desk.onManager, run_within, Desk.manager, Desk.setManager, hvalid]
            exact h.truncating hplace hserial hs hmark
  · have hrun : (Desk.rollback n).run d = ⟨.error e, d, []⟩ := by
      simp [Desk.rollback, run_bind, hhandle]
    rw [hrun]
    simp only [follow, hkeep (by simp [hmark])]
    exact h

theorem keepsUp (step : Desk.Step) : KeepsUp service step := by
  cases step with
  | send item => exact keepsUp_send item
  | commit side => exact keepsUp_commit side
  | abort side => exact keepsUp_abort side
  | begin side => exact keepsUp_begin side
  | doom side => exact keepsUp_doom side
  | savepoint side => exact keepsUp_savepoint side
  | rollback n => exact keepsUp_rollback n
  | join side key refusal => exact keepsUp_join side key refusal

theorem Follows.performing (h : q.Follows d) (service : Service) (step : Desk.Step) :
    (q.follow service step ((Desk.perform service step).run d).result).Follows
      ((Desk.perform service step).run d).state :=
  keepsUp step q d h

theorem Follows.replaying (h : q.Follows d) (steps : List Desk.Step) :
    (q.replay service (Desk.history service steps d)).Follows (Desk.after service steps d) := by
  induction steps generalizing q d with
  | nil => exact h
  | cons step rest ih => exact ih (keepsUp step q d h)

/-- One can go back to a savepoint just as long as the queue remembers its length. -/
theorem Follows.isOk_rollback_iff (h : q.Follows d) {n : Int} {handle : Handle}
    (hhandle : itemAt "list " d.handles n = .ok (.own, handle)) :
    ((Desk.rollback n).run d).result.isOk = true ↔
      ∃ place length, itemAt "list " q.marks n = .ok ⟨place, some length⟩ := by
  have hrun : (Desk.rollback n).run d =
      (Desk.onManager .own (Manager.rollback handle)).run d := by
    simp [Desk.rollback, run_bind, hhandle]
  obtain ⟨place, item, -, hitem, hmark⟩ | ⟨e, hitem, -⟩ :=
    itemAt_mapIdx "list " (fun place k => (⟨place, d.lengthAt k⟩ : Mark)) d.handles n
  · rw [← Desk.marks, ← h.marks] at hmark
    obtain rfl : item = (.own, handle) := by simpa [hitem] using hhandle
    rw [hrun, hmark, Desk.onManager, run_within, Desk.manager]
    cases hlength : d.own.lengthAt handle with
    | none => simp [Manager.run_rollback_of_lengthAt_none hlength, Desk.lengthAt, hlength]
    | some length =>
        obtain ⟨s, -, -, hvalid⟩ :=
          Manager.run_rollback_of_lengthAt_some h.orderly.current hlength
        simp [hvalid, Desk.lengthAt, hlength]
  · rw [hitem] at hhandle
    cases hhandle

end Queue

/-- After any run the mailer took exactly what the queue that followed the run delivered, and what
waits is what the queue holds, in the order of sending until a commit fails. One can go back to
exactly those savepoints whose length the queue remembers. -/
theorem Desk.refines_queue (service : Service) (steps : List Desk.Step) :
    let d := Desk.after service steps .empty
    let q := Queue.replay service .empty (Desk.history service steps .empty)
    d.outbox.accepted = q.delivered ∧ d.own.waiting.Perm q.messages ∧
      (q.condition = .failed ∨ d.own.waiting = q.messages) ∧
      ∀ n handle, itemAt "list " d.handles n = .ok (.own, handle) →
        (((Desk.rollback n).run d).result.isOk = true ↔
          ∃ place length, itemAt "list " q.marks n = .ok ⟨place, some length⟩) := by
  intro d q
  have h : q.Follows d := Queue.follows_empty.replaying steps
  have hwaiting : d.own.waiting = Queue.messagesOf d.own.currentOrNext.items := by
    rw [← Transaction.waiting_eq_messagesOf, Manager.waiting, Manager.currentOrNext]
    cases d.own.current <;> rfl
  refine ⟨h.delivered.symm, ?_, ?_, fun n handle => h.isOk_rollback_iff⟩
  · rw [hwaiting]
    by_cases hfailed : q.condition = .failed
    · rw [h.sorted hfailed]
      exact (Queue.byKey_perm q.items).filterMap _
    · rw [h.items hfailed]
      exact List.Perm.refl _
  · by_cases hfailed : q.condition = .failed
    · exact .inl hfailed
    · exact .inr (hwaiting.trans (congrArg Queue.messagesOf (h.items hfailed)))

end Mailroom.Delivery
