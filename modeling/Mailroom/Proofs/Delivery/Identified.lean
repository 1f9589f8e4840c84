import Mailroom.Proofs.Delivery.Refinement
import Mailroom.Proofs.Message.Identifier

/-!
Messages are delivered under the identifier that sending them gave. Whatever waits at the desk or
was taken by the mailer is a message that was sent, with its own identifier or a new one; and its
mail has this identifier as the only one just if the message had no second.
-/

namespace Mailroom.Delivery

open Mailroom.Action

variable {service : Service} {newId : Nat → String} {m : Message} {id : Value}

theorem Identified.plain {headers headers' : Entries Value Value}
    (h : Identified newId headers id headers') :
    ResultsAgree Message.Plain (Message.visibleHeaders headers)
      (Message.visibleHeaders headers') := by
  cases h with
  | kept => exact .refl Message.Plain.refl _
  | added n hnone =>
      rw [← put_of_identifiers_nil hnone]
      exact Message.visibleHeaders_put_agrees headers _
  | filled n => exact Message.visibleHeaders_put_agrees headers _

/-- What is delivered of a message that was sent under an identifier. -/
structure SentAs (newId : Nat → String) (m : Message) (id : Value) (delivered : Message) :
    Prop where
  others : delivered = { m with headers := delivered.headers }
  headers : Identified newId m.headers id delivered.headers
  mail : ResultsAgree (fun e e' => e.remove idName = e'.remove idName) m.entity delivered.entity
  rendered : ∀ e, delivered.entity = .ok e →
    (e.getAll idName = [id] ↔ OneIdentifier m.headers)

theorem Identified.sentAs {headers : Entries Value Value}
    (h : Identified newId m.headers id headers) :
    SentAs newId m id { m with headers := headers } where
  others := rfl
  headers := h
  mail := (m.entity_agrees h.plain).imp fun _ _ _ _ hdiffer => hdiffer.others
  rendered e he := by
    have hagrees := m.entity_agrees h.plain
    rw [he] at hagrees
    obtain ⟨own, -, hdiffer⟩ := hagrees.exists_of_ok
    rw [hdiffer.values', h.identifiers_eq_iff]

theorem sentAs_stamped {d : Desk} {given : Value} (h : idOf m.headers = .ok id)
    (hgiven : d.Gives service id given) :
    SentAs service.newId m given (Queue.stamped given m) := by
  have hfirst := head?_identifiers h
  rw [Queue.stamped, h]
  obtain ⟨rfl, rfl⟩ | ⟨hfound, rfl⟩ := hgiven
  · refine Identified.sentAs ?_
    cases hown : identifiers m.headers with
    | nil =>
        rw [put_of_identifiers_nil hown]
        exact .added d.issued hown
    | cons v more =>
        obtain rfl : v = .nothing := by simpa [hown] using hfirst
        exact .filled d.issued (by rw [hown]; rfl)
  · have hkept : SentAs service.newId m given m := by
      refine Identified.sentAs (.kept ?_ hfound)
      cases hown : identifiers m.headers with
      | nil =>
          rw [hown] at hfirst
          exact absurd hfirst.symm hfound
      | cons v more => simpa [hown] using hfirst
    split
    · exact absurd (Except.ok.inj ‹_›) hfound
    · exact hkept

theorem Manager.waiting_eq (manager : Manager) :
    manager.waiting = manager.currentOrNext.waiting := by
  unfold waiting currentOrNext
  cases manager.current <;> rfl

theorem Transaction.waiting_enlist (t : Transaction) (key : String) (c : Consignment) :
    (t.enlist key (.consignment c)).waiting = t.waiting ++ [c.message] := by
  simp [waiting, enlist, Party.consignment?]

/-- A message that is sent waits at the end of those that wait. -/
theorem Desk.send_eq_ok {d : Desk}
    (h : ((Desk.send service (some m)).run d).result = .ok id) :
    SentAs service.newId m id (Queue.stamped id m) ∧
      ((Desk.send service (some m)).run d).state.own.waiting =
        d.own.waiting ++ [Queue.stamped id m] := by
  cases hid : idOf m.headers with
  | error e =>
      rw [Desk.run_send_of_error hid] at h
      cases h
  | ok found =>
      obtain ⟨given, issued, hgiven, hidentify⟩ := Desk.run_identify service hid d
      by_cases hfailed : d.own.currentOrNext.condition = .failed
      · rw [Desk.run_send_of_failed hidentify hfailed] at h
        cases h
      · obtain ⟨hresult, hstate⟩ := Desk.run_send_of_ne_failed hidentify hfailed
        obtain rfl : given = id := Except.ok.inj (hresult.symm.trans h)
        refine ⟨sentAs_stamped hid hgiven, ?_⟩
        rw [hstate, Manager.waiting_eq, Manager.waiting_eq]
        exact Transaction.waiting_enlist _ _ _

/-! ### Runs -/

namespace Queue

variable {P : Message → Prop} {q : Queue}

/-- Whatever is in the queue or was delivered has the property. -/
structure Only (P : Message → Prop) (q : Queue) : Prop where
  waiting : ∀ m ∈ q.messages, P m
  delivered : ∀ m ∈ q.delivered, P m

theorem mem_messages_of_mem_offer {mailer : Mailer} {offered : Nat} {items : List Item}
    (h : m ∈ (offer mailer offered items).1) : m ∈ messagesOf items := by
  fun_induction offer mailer offered items with
  | case1 => cases h
  | case2 offered key first rest u hok ih =>
      rcases List.mem_cons.mp h with rfl | h
      · exact List.mem_cons_self
      · exact List.mem_cons_of_mem first (ih h)
  | case3 => cases h
  | case4 offered key refusal rest hnone ih => exact ih h
  | case5 => cases h

theorem mem_messages_of_mem_byKey {items : List Item} (h : m ∈ messagesOf (byKey items)) :
    m ∈ messagesOf items :=
  ((byKey_perm items).filterMap _).mem_iff.mp h

theorem mem_messages_of_mem_takenBy {mailer : Mailer} {offered : Nat} {items : List Item}
    (h : m ∈ (takenBy mailer offered (byKey items)).1) : m ∈ messagesOf items := by
  unfold takenBy at h
  split at h
  · cases h
  · exact mem_messages_of_mem_byKey (mem_messages_of_mem_offer h)

theorem Only.enqueue (h : q.Only P) (hm : P m) : (q.enqueue service m).Only P := by
  refine ⟨fun n hn => ?_, h.delivered⟩
  have hmessages : (q.enqueue service m).messages = q.messages ++ [m] := by
    simp [Queue.enqueue, push, messages, messagesOf, Waiting.message?]
  rw [hmessages] at hn
  rcases List.mem_append.mp hn with hn | hn
  · exact h.waiting n hn
  · obtain rfl := List.mem_singleton.mp hn
    exact hm

theorem Only.pushOther (h : q.Only P) (key : String) (refusal : Phase → Option Fault) :
    (q.push ⟨key, .other refusal⟩).Only P := by
  refine ⟨fun m hm => h.waiting m ?_, h.delivered⟩
  simpa [push, messages, messagesOf, Waiting.message?] using hm

theorem Only.truncate (h : q.Only P) (n : Int) : (q.truncate n).Only P := by
  unfold Queue.truncate
  split
  · refine ⟨fun m hm => h.waiting m ?_, h.delivered⟩
    exact ((List.take_sublist _ q.items).filterMap _).subset hm
  · exact h

theorem Only.clear (h : q.Only P) : q.clear.Only P := ⟨nofun, h.delivered⟩

theorem Only.handOver (h : q.Only P) : q.handOver.Only P := by
  refine ⟨h.waiting, fun m hm => ?_⟩
  rcases List.mem_append.mp hm with hm | hm
  · exact h.delivered m hm
  · exact h.waiting m (mem_messages_of_mem_byKey hm)

theorem Only.fail (h : q.Only P) (mailer : Mailer) : (q.fail mailer).Only P := by
  unfold Queue.fail
  split
  · exact h
  · exact h
  · refine ⟨h.waiting, fun m hm => ?_⟩
    rcases List.mem_append.mp hm with hm | hm
    · exact h.delivered m hm
    · exact h.waiting m (mem_messages_of_mem_takenBy hm)

theorem Only.follow (h : q.Only P) {step : Desk.Step} {result : Except Fault Value}
    (hsent : ∀ m id, step = .send (some m) → result = .ok id → P (stamped id m)) :
    (q.follow service step result).Only P := by
  unfold Queue.follow
  split
  · exact h.enqueue (hsent _ _ rfl rfl)
  · exact h.pushOther _ _
  · exact ⟨h.waiting, h.delivered⟩
  · exact h.truncate _
  · exact h.clear
  · exact h.clear
  · exact ⟨h.waiting, h.delivered⟩
  · exact h.handOver.clear
  · exact h.fail service.mailer
  · exact h

theorem Only.replay {history : List (Desk.Step × Except Fault Value)} (h : q.Only P)
    (hsent : ∀ m id, (.send (some m), .ok id) ∈ history → P (stamped id m)) :
    (q.replay service history).Only P := by
  induction history generalizing q with
  | nil => exact h
  | cons event rest ih =>
      refine ih (h.follow fun m id hstep hresult => hsent m id ?_) fun m id hmem =>
        hsent m id (List.mem_cons_of_mem event hmem)
      rw [← hstep, ← hresult]
      exact List.mem_cons_self

theorem Follows.mem_messages {d : Desk} (h : q.Follows d) (hm : m ∈ d.own.waiting) :
    m ∈ q.messages := by
  rw [Manager.waiting_eq, Transaction.waiting_eq_messagesOf] at hm
  by_cases hfailed : q.condition = .failed
  · rw [h.sorted hfailed] at hm
    exact mem_messages_of_mem_byKey hm
  · rwa [h.items hfailed] at hm

end Queue

/-- What happened in a run happened at some desk. -/
theorem Desk.mem_history {steps : List Step} {d : Desk} {step : Step} {result : Except Fault Value}
    (h : (step, result) ∈ history service steps d) :
    ∃ d, ((perform service step).run d).result = result := by
  induction steps generalizing d with
  | nil => cases h
  | cons first rest ih =>
      rcases List.mem_cons.mp h with h | h
      · obtain ⟨rfl, rfl⟩ := Prod.mk.inj h
        exact ⟨d, rfl⟩
      · exact ih h

/-- Whatever the mailer took and whatever waits is a message that was sent, as it is delivered under
the identifier that sending it gave; and a message that is sent next waits under its own. -/
theorem sent_under_identifier (service : Service) (steps : List Desk.Step) :
    let d := Desk.after service steps .empty
    (∀ delivered ∈ d.outbox.accepted ++ d.own.waiting, ∃ m id,
      (.send (some m), .ok id) ∈ Desk.history service steps .empty ∧
        SentAs service.newId m id delivered) ∧
    ∀ m id, ((Desk.perform service (.send (some m))).run d).result = .ok id →
      ∃ delivered, SentAs service.newId m id delivered ∧
        ((Desk.perform service (.send (some m))).run d).state.own.waiting =
          d.own.waiting ++ [delivered] := by
  intro d
  let history := Desk.history service steps .empty
  let Sent : Message → Prop := fun delivered => ∃ m id,
    (.send (some m), .ok id) ∈ history ∧ SentAs service.newId m id delivered
  have hsent : ∀ m id, (.send (some m), .ok id) ∈ history → Sent (Queue.stamped id m) := by
    intro m id hmem
    obtain ⟨before, hresult⟩ := Desk.mem_history hmem
    exact ⟨m, id, hmem, (Desk.send_eq_ok hresult).1⟩
  have honly : (Queue.replay service .empty history).Only Sent :=
    Queue.Only.replay ⟨nofun, nofun⟩ hsent
  have hfollows : (Queue.replay service .empty history).Follows d :=
    Queue.follows_empty.replaying steps
  refine ⟨fun delivered hdelivered => ?_, fun m id hresult => ⟨_, Desk.send_eq_ok hresult⟩⟩
  rcases List.mem_append.mp hdelivered with hdelivered | hdelivered
  · exact honly.delivered delivered (hfollows.delivered ▸ hdelivered)
  · refine honly.waiting delivered (hfollows.mem_messages ?_)
    exact hdelivered

/-- A message to its sender that is named twice. -/
def twiceNamed : Message :=
  let a : Value := .address ⟨"a@b.c", none⟩
  { sender := a, addressees := [a], cc := [], bcc := [], replyTo := [], subject := .nothing
    body := .nothing, sentDate := .nothing, session := none
    headers := [(.text "Message-Id", .text "<1@x>"), (.text "message-id", .text "<2@x>")] }

theorem checked_headers_name_twice :
    ¬∀ (service : Service) (m : Message) (id : Value),
      (∀ header ∈ m.headers, (Header.check header.1 header.2).isOk = true) →
      (.send (some m), .ok id) ∈ Desk.history service [.send (some m), .commit .own] .empty →
      ∀ delivered ∈
        (Desk.after service [.send (some m), .commit .own] .empty).outbox.accepted,
        ∀ e, delivered.entity = .ok e → e.getAll idName = [id] := by
  intro h
  let service : Service := ⟨.accepting, fun _ => "<new@x>", fun _ => "key"⟩
  let accepted :=
    (Desk.after service [.send (some twiceNamed), .commit .own] .empty).outbox.accepted
  have hchecked : ∀ header ∈ twiceNamed.headers,
      (Header.check header.1 header.2).isOk = true := by
    decide +kernel
  have hcount : accepted.map (fun m => m.entity.toOption.map fun e => (e.getAll idName).length) =
      [some 2] := by
    decide +kernel
  obtain ⟨delivered, haccepted, hdelivered⟩ := List.map_eq_singleton_iff.mp hcount
  cases he : delivered.entity with
  | error fault =>
      rw [he] at hdelivered
      cases hdelivered
  | ok e =>
      have hmem : delivered ∈ accepted := haccepted ▸ List.mem_singleton_self delivered
      have hone := h service twiceNamed (.text "<1@x>") hchecked (.head _) delivered hmem e he
      rw [he] at hdelivered
      simp [Except.toOption, hone] at hdelivered

end Mailroom.Delivery
