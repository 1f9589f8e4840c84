import Mailroom.Proofs.Delivery.Recovery

/-!
One message in a queue. After it was sent it waits until a commit hands it over, an abort clears it
away, or going back to a savepoint that is older than the sending cuts it off; and once the queue
has nothing that a commit could hand over, it stays so unless something is sent.
-/

namespace Mailroom.Delivery

open Mailroom.Action

variable {service : Service}

/-! ### Savepoints that were handed out -/

/-- Whatever is done, the savepoints that were handed out stay known, in the same places. -/
theorem Desk.keeps_handles (service : Service) (old : List (Side × Handle)) (step : Desk.Step) :
    Keeps (fun d => old <+: d.handles) (Desk.perform service step) := by
  have hmanager {α : Type} (side : Side) (x : Action Manager α) :
      Keeps (fun d : Desk => old <+: d.handles) (Desk.onManager side x) := by
    intro d hd
    cases side <;> exact hd
  have hdone {x : Action Desk Unit} (hx : Keeps (fun d => old <+: d.handles) x) :
      Keeps (fun d => old <+: d.handles) (Desk.perform.done x) :=
    hx.bind fun _ => keeps_pure _
  cases step with
  | send item =>
      cases item with
      | none => exact keeps_fail _
      | some m =>
          have hidentify : Keeps (fun d => old <+: d.handles) (Desk.identify service m) := by
            refine (keeps_ofExcept _).bind fun id => ?_
            cases id with
            | nothing =>
                refine keeps_state.bind fun d => Keeps.bind (keeps_update ?_) fun _ => keeps_pure _
                exact fun d hd => hd
            | _ => exact keeps_pure _
          refine hidentify.bind fun identified => keeps_state.bind fun d => ?_
          refine (hmanager .own _).bind fun _ => Keeps.bind (keeps_update ?_) fun _ => ?_
          · exact fun d hd => hd
          · exact (keeps_note _).bind fun _ => keeps_pure _
  | commit side =>
      refine hdone fun d hd => ?_
      cases side <;> exact hd
  | abort side => exact hdone (hmanager side _)
  | begin side => exact hdone (hmanager side _)
  | doom side => exact hdone (hmanager side _)
  | savepoint side =>
      refine hdone ((hmanager side _).bind fun handle => keeps_update fun d hd => ?_)
      exact hd.trans (List.prefix_append _ _)
  | rollback n =>
      refine hdone (keeps_state.bind fun d => (keeps_ofExcept _).bind fun handed => ?_)
      exact hmanager handed.1 _
  | join side key refusal => exact hdone (hmanager side _)

def Desk.Step.isSend : Desk.Step → Bool
  | .send _ => true
  | _ => false

namespace Queue

variable {q : Queue} {d : Desk} {step : Desk.Step} {m : Message}

/-! ### Nothing to hand over -/

/-- A commit would hand over nothing. -/
def IsSpent (q : Queue) : Prop := q.messages = [] ∨ q.condition ≠ .active

theorem messagesOf_take_of_nil {items : List Item} (h : messagesOf items = []) (length : Nat) :
    messagesOf (items.take length) = [] :=
  List.sublist_nil.mp (h ▸ (List.take_sublist length items).filterMap _)

theorem messagesOf_push_other (items : List Item) (key : String)
    (refusal : Phase → Option Fault) :
    messagesOf (items ++ [⟨key, .other refusal⟩]) = messagesOf items := by
  simp [messagesOf, Waiting.message?]

/-- The mailer takes the first messages in the queue, up to some place. -/
theorem offer_begins (mailer : Mailer) (offered : Nat) (items : List Item) :
    (offer mailer offered items).1 <+: messagesOf items := by
  fun_induction offer mailer offered items with
  | case1 => exact List.prefix_refl _
  | case2 offered key first rest u hok ih => exact (List.prefix_cons_inj first).mpr ih
  | case3 => exact List.nil_prefix
  | case4 offered key refusal rest hnone ih => exact ih
  | case5 => exact List.nil_prefix

theorem takenBy_begins (mailer : Mailer) (offered : Nat) (items : List Item) :
    (takenBy mailer offered items).1 <+: messagesOf items := by
  unfold takenBy
  split
  · exact List.nil_prefix
  · exact offer_begins mailer offered items

theorem messagesOf_byKey_perm (items : List Item) :
    (messagesOf (byKey items)).Perm (messagesOf items) :=
  (byKey_perm items).filterMap _

/-- What is delivered in a step that is not a commit. -/
theorem delivered_follow_of_ne_commit (service : Service) (result : Except Fault Value)
    (hstep : step ≠ .commit .own) : (q.follow service step result).delivered = q.delivered := by
  unfold follow
  split
  case h_4 => unfold truncate; split <;> rfl
  case h_8 => exact absurd rfl hstep
  case h_9 => exact absurd rfl hstep
  all_goals rfl

/-- A queue without messages hands nothing over and gets none but by sending. -/
theorem follow_of_messages_nil (h : q.messages = []) (service : Service)
    (result : Except Fault Value) (hsend : step.isSend = false) :
    (q.follow service step result).messages = [] ∧
      (q.follow service step result).delivered = q.delivered := by
  have hbyKey : messagesOf (byKey q.items) = [] :=
    List.perm_nil.mp (h ▸ messagesOf_byKey_perm q.items)
  unfold Queue.follow
  split
  · cases hsend
  · exact ⟨(messagesOf_push_other q.items _ _).trans h, rfl⟩
  · exact ⟨h, rfl⟩
  · unfold truncate
    split
    · exact ⟨messagesOf_take_of_nil h _, rfl⟩
    · exact ⟨h, rfl⟩
  · exact ⟨rfl, rfl⟩
  · exact ⟨rfl, rfl⟩
  · exact ⟨h, rfl⟩
  · exact ⟨rfl, (congrArg (q.delivered ++ ·) hbyKey).trans (List.append_nil _)⟩
  · unfold fail
    split
    · exact ⟨h, rfl⟩
    · exact ⟨h, rfl⟩
    · have htaken := takenBy_begins service.mailer q.offered (byKey q.items)
      rw [hbyKey, List.prefix_nil] at htaken
      exact ⟨h, (congrArg (q.delivered ++ ·) htaken).trans (List.append_nil _)⟩
  · exact ⟨h, rfl⟩

theorem IsSpent.performing (h : q.IsSpent) (service : Service) (hq : q.Follows d)
    (hsend : step.isSend = false) :
    let o := (Desk.perform service step).run d
    (q.follow service step o.result).IsSpent ∧
      (q.follow service step o.result).delivered = q.delivered := by
  intro o
  obtain hnone | hunfit := h
  · obtain ⟨hmessages, hdelivered⟩ :=
      follow_of_messages_nil hnone service o.result hsend
    exact ⟨.inl hmessages, hdelivered⟩
  · by_cases habort : step = .abort .own
    · rw [habort]
      exact ⟨.inl rfl, rfl⟩
    by_cases hbegin : step = .begin .own
    · rw [hbegin]
      exact ⟨.inl rfl, rfl⟩
    have hcurrent : d.own.currentOrNext.condition ≠ .active := by rwa [← hq.condition]
    obtain ⟨hdelivered, hunchanged⟩ :=
      follow_of_unfit service o.result hunfit habort hbegin fun hcommit => by
        subst hcommit
        exact Desk.isOk_commit_of_unfit hcurrent
    refine ⟨.inr ?_, hdelivered⟩
    obtain hsame | hdoomed := hunchanged
    · rwa [hsame]
    · simp [hdoomed]

/-! ### One message that waits -/

/-- One message waits for a commit since the savepoints in `old` were handed out; going back to one
of them would cut it off. -/
structure Awaits (old : List (Side × Handle)) (m : Message) (q : Queue) (d : Desk) : Prop where
  follows : q.Follows d
  active : q.condition = .active
  messages : q.messages = [m]
  before : ∀ k ∈ q.marks, k.place < old.length → ∀ length, k.length = some length →
    messagesOf (q.items.take length) = []
  handles : old <+: d.handles

/-- No savepoint remembers more than there is in the queue. -/
theorem Follows.length_le (h : q.Follows d) (hcondition : q.condition ≠ .failed) :
    ∀ k ∈ q.marks, ∀ length, k.length = some length → length ≤ q.items.length := by
  intro k hk length hlength
  rw [h.marks, Desk.marks] at hk
  obtain ⟨place, hplace, rfl⟩ := List.mem_mapIdx.mp hk
  generalize d.handles[place] = handed at hlength
  obtain ⟨side, handle⟩ := handed
  cases side with
  | foreign => cases hlength
  | own =>
      have hown : d.own.lengthAt handle = some length := hlength
      unfold Manager.lengthAt Transaction.lengthAt at hown
      split at hown
      · obtain ⟨s, -, rfl⟩ := Option.map_eq_some_iff.mp hown
        rw [← h.items hcondition, Transaction.items, List.length_map]
        exact List.length_filter_le _ _
      · cases hown

theorem Follows.length_marks (h : q.Follows d) : q.marks.length = d.handles.length := by
  rw [h.marks, Desk.marks, List.length_mapIdx]

/-- A message that is sent while there is no other. -/
theorem Follows.awaits_enqueue (h : q.Follows d) (hactive : q.condition = .active)
    (hnone : q.messages = []) {d' : Desk} (h' : (q.enqueue service m).Follows d')
    (hhandles : d.handles <+: d'.handles) : Awaits d.handles m (q.enqueue service m) d' where
  follows := h'
  active := hactive
  messages := by
    have hmessages : (q.enqueue service m).messages = q.messages ++ [m] := by
      simp [Queue.enqueue, push, Queue.messages, messagesOf, Waiting.message?]
    rw [hmessages, hnone, List.nil_append]
  before k hk _ length hlength := by
    have hle := h.length_le (by simp [hactive]) k hk length hlength
    refine Eq.trans (congrArg messagesOf ?_) (messagesOf_take_of_nil hnone length)
    exact List.take_append_of_le_length hle
  handles := hhandles

theorem Awaits.still {old : List (Side × Handle)} {d' : Desk} (h : Awaits old m q d)
    (h' : q.Follows d') (hhandles : old <+: d'.handles) : Awaits old m q d' :=
  ⟨h', h.active, h.messages, h.before, hhandles⟩

theorem Awaits.pushing {old : List (Side × Handle)} {d' : Desk} (h : Awaits old m q d)
    {key : String} {refusal : Phase → Option Fault}
    (h' : (q.push ⟨key, .other refusal⟩).Follows d') (hhandles : old <+: d'.handles) :
    Awaits old m (q.push ⟨key, .other refusal⟩) d' where
  follows := h'
  active := h.active
  messages := (messagesOf_push_other q.items key refusal).trans h.messages
  before k hk hplace length hlength := by
    have hbefore := h.before k hk hplace length hlength
    have hle := h.follows.length_le (by simp [h.active]) k hk length hlength
    refine Eq.trans (congrArg messagesOf ?_) hbefore
    exact List.take_append_of_le_length hle
  handles := hhandles

theorem Awaits.marking {old : List (Side × Handle)} {d' : Desk} (h : Awaits old m q d)
    {side : Side} (h' : (q.mark side).Follows d') (hhandles : old <+: d'.handles) :
    Awaits old m (q.mark side) d' where
  follows := h'
  active := h.active
  messages := h.messages
  before k hk hplace length hlength := by
    rcases List.mem_append.mp hk with hk | hk
    · exact h.before k hk hplace length hlength
    · obtain rfl := List.mem_singleton.mp hk
      have hlast : q.marks.length < old.length := hplace
      rw [h.follows.length_marks] at hlast
      exact absurd hlast (Nat.not_lt.mpr h.handles.length_le)
  handles := hhandles

theorem Awaits.truncating {old : List (Side × Handle)} {d' : Desk} (h : Awaits old m q d)
    {n : Int} {place length : Nat} (hmark : itemAt "list " q.marks n = .ok ⟨place, some length⟩)
    (h' : (q.truncate n).Follows d') (hhandles : old <+: d'.handles)
    (hkept : messagesOf (q.items.take length) ≠ []) : Awaits old m (q.truncate n) d' := by
  have htruncate : q.truncate n =
      { q with items := q.items.take length, marks := q.marks.map (Mark.endedAfter place) } := by
    simp [truncate, hmark]
  rw [htruncate] at h' ⊢
  refine ⟨h', h.active, ?_, fun k hk hplace other hother => ?_, hhandles⟩
  · have hsublist : (messagesOf (q.items.take length)).Sublist [m] :=
      h.messages ▸ (List.take_sublist length q.items).filterMap _
    exact (List.sublist_singleton.mp hsublist).resolve_left hkept
  · obtain ⟨mark, hmem, rfl⟩ := List.mem_map.mp hk
    have hown : mark.place < old.length ∧ mark.length = some other := by
      unfold Mark.endedAfter at hplace hother
      split at hother
      · cases hother
      · rw [if_neg ‹_›] at hplace
        exact ⟨hplace, hother⟩
    have hnone := h.before mark hmem hown.1 other hown.2
    rw [List.take_take, Nat.min_comm, ← List.take_take]
    exact messagesOf_take_of_nil hnone length

end Queue

namespace Desk

variable {d : Desk} {step : Step}

/-- A step that does not take back what was sent when these savepoints had been handed out: it does
not end the transaction, and it does not go back to one of them. -/
structure Spares (service : Service) (old : List (Side × Handle)) (d : Desk) (step : Step) :
    Prop where
  goesOn : step ≠ .abort .own ∧ step ≠ .begin .own ∧ step ≠ .commit .own
  stays : ∀ n handle, step = .rollback n → itemAt "list " d.handles n = .ok (.own, handle) →
    (.own, handle) ∈ old → ((perform service step).run d).result.isOk = false

/-- Savepoints of the own manager are handed out once. -/
theorem Orderly.place_lt (h : d.Orderly) {old : List (Side × Handle)} (hold : old <+: d.handles)
    {place : Nat} {handle : Handle} (hplace : d.handles[place]? = some (.own, handle))
    (hmem : (.own, handle) ∈ old) : place < old.length := by
  obtain ⟨j, hj, hget⟩ := List.mem_iff_getElem.mp hmem
  have hother : d.handles[j]? = some (.own, handle) := by
    obtain ⟨rest, hrest⟩ := hold
    rw [← hrest, List.getElem?_append_left hj, List.getElem?_eq_getElem hj, hget]
  obtain hlt | rfl | hlt := Nat.lt_trichotomy place j
  · exact absurd (h.number_lt hplace hother hlt rfl) (Nat.lt_irrefl _)
  · exact hj
  · exact absurd (h.number_lt hother hplace hlt rfl) (Nat.lt_irrefl _)

/-- A step that leaves the messages of the own manager where they are, whatever comes of it. -/
def Step.isQuiet : Step → Bool
  | .doom _ | .savepoint _ | .join .. => true
  | .commit .foreign | .abort .foreign | .begin .foreign => true
  | _ => false

theorem spares_of_isQuiet {old : List (Side × Handle)} (h : step.isQuiet = true) :
    d.Spares service old step where
  goesOn := by refine ⟨?_, ?_, ?_⟩ <;> rintro rfl <;> cases h
  stays n handle hstep := by
    rw [hstep] at h
    cases h

theorem isOk_done {x : Action Desk Unit} :
    ((perform.done x).run d).result.isOk = (x.run d).result.isOk := by
  rw [run_done]
  cases (x.run d).result <;> rfl

end Desk

namespace Queue

variable {q : Queue} {d : Desk} {step : Desk.Step} {m : Message} {old : List (Side × Handle)}

/-- Going back to an old savepoint cuts the message off. -/
theorem Awaits.cut_of_isOk (h : Awaits old m q d) {n : Int} {handle : Handle}
    (hhandle : itemAt "list " d.handles n = .ok (.own, handle)) (hmem : (.own, handle) ∈ old)
    (hok : ((Desk.rollback n).run d).result.isOk = true) : ∃ place length,
      itemAt "list " q.marks n = .ok ⟨place, some length⟩ ∧
        messagesOf (q.items.take length) = [] := by
  obtain ⟨place, length, hmark⟩ := (h.follows.isOk_rollback_iff hhandle).mp hok
  refine ⟨place, length, hmark, ?_⟩
  obtain ⟨at', item, hplace, hitem, hfound⟩ | ⟨e, hitem, -⟩ :=
    itemAt_mapIdx "list " (fun place k => (⟨place, d.lengthAt k⟩ : Mark)) d.handles n
  · rw [← Desk.marks, ← h.follows.marks, hmark] at hfound
    obtain ⟨rfl, hlength⟩ := Mark.mk.inj (Except.ok.inj hfound)
    obtain rfl : item = (.own, handle) := by simpa [hitem] using hhandle
    have hold := h.follows.orderly.place_lt h.handles hplace hmem
    refine h.before ⟨place, some length⟩ ?_ hold length rfl
    rw [h.follows.marks, Desk.marks, List.mem_mapIdx]
    obtain ⟨hlt, hget⟩ := List.getElem?_eq_some_iff.mp hplace
    exact ⟨place, hlt, by rw [hget, hlength]⟩
  · rw [hitem] at hhandle
    cases hhandle

/-- Until it is committed a message waits on, or it is taken back and there is none any more. -/
theorem Awaits.performing (h : Awaits old m q d) (service : Service) (hsend : step.isSend = false)
    (hcommit : step ≠ .commit .own) :
    let o := (Desk.perform service step).run d
    d.Spares service old step ∧ Awaits old m (q.follow service step o.result) o.state ∨
      (q.follow service step o.result).IsSpent := by
  intro o
  have hfollows : (q.follow service step o.result).Follows o.state :=
    h.follows.performing service step
  have hhandles : old <+: o.state.handles := Desk.keeps_handles service old step d h.handles
  generalize o.state = d' at *
  generalize hresult : o.result = result at *
  have hstill (hspares : d.Spares service old step) (hsame : q.follow service step result = q) :
      d.Spares service old step ∧ Awaits old m (q.follow service step result) d' := by
    refine ⟨hspares, ?_⟩
    rw [hsame] at hfollows ⊢
    exact h.still hfollows hhandles
  cases step with
  | send item => cases hsend
  | commit side =>
      cases side with
      | own => exact absurd rfl hcommit
      | foreign => exact .inl (hstill (Desk.spares_of_isQuiet rfl) (by cases result <;> rfl))
  | abort side =>
      cases side with
      | own => exact .inr (.inl rfl)
      | foreign => exact .inl (hstill (Desk.spares_of_isQuiet rfl) (by cases result <;> rfl))
  | begin side =>
      cases side with
      | own => exact .inr (.inl rfl)
      | foreign => exact .inl (hstill (Desk.spares_of_isQuiet rfl) (by cases result <;> rfl))
  | doom side =>
      have hspares : d.Spares service old (.doom side) := Desk.spares_of_isQuiet rfl
      cases result with
      | error e => exact .inl (hstill hspares (by cases side <;> rfl))
      | ok v =>
          cases side with
          | own => exact .inr (.inr nofun)
          | foreign => exact .inl (hstill hspares rfl)
  | savepoint side =>
      have hspares : d.Spares service old (.savepoint side) := Desk.spares_of_isQuiet rfl
      cases result with
      | error e => exact .inl (hstill hspares rfl)
      | ok v => exact .inl ⟨hspares, h.marking hfollows hhandles⟩
  | join side key refusal =>
      have hspares : d.Spares service old (.join side key refusal) := Desk.spares_of_isQuiet rfl
      cases result with
      | error e => exact .inl (hstill hspares (by cases side <;> rfl))
      | ok v =>
          cases side with
          | own => exact .inl ⟨hspares, h.pushing hfollows hhandles⟩
          | foreign => exact .inl (hstill hspares rfl)
  | rollback n =>
      have hspares (hkept : ∀ place length, itemAt "list " q.marks n = .ok ⟨place, some length⟩ →
          messagesOf (q.items.take length) ≠ []) : d.Spares service old (.rollback n) := by
        refine ⟨⟨nofun, nofun, nofun⟩, ?_⟩
        rintro _ handle ⟨⟩ hhandle hmem
        rw [← Bool.not_eq_true, Desk.perform, Desk.isOk_done]
        intro hok
        obtain ⟨place, length, hmark, hnone⟩ := h.cut_of_isOk hhandle hmem hok
        exact hkept place length hmark hnone
      by_cases hvalid : ∃ place length, itemAt "list " q.marks n = .ok ⟨place, some length⟩
      · obtain ⟨place, length, hmark⟩ := hvalid
        by_cases hnone : messagesOf (q.items.take length) = []
        · refine .inr (.inl ?_)
          simp only [Queue.follow, truncate, hmark]
          exact hnone
        · refine .inl ⟨hspares ?_, h.truncating hmark hfollows hhandles hnone⟩
          intro place' length' hmark'
          rw [hmark] at hmark'
          cases hmark'
          exact hnone
      · have hnever := hspares fun place length hmark => absurd ⟨place, length, hmark⟩ hvalid
        refine .inl (hstill hnever ?_)
        simp only [Queue.follow, truncate]
        split
        · exact absurd ⟨_, _, ‹_›⟩ hvalid
        · rfl

/-- A commit hands the message over or not; then there is nothing left to hand over. -/
theorem Awaits.committing (h : Awaits old m q d) (service : Service) (result : Except Fault Value) :
    (q.follow service (.commit .own) result).IsSpent ∧
      ((q.follow service (.commit .own) result).delivered = q.delivered ∨
        (q.follow service (.commit .own) result).delivered = q.delivered ++ [m]) := by
  have hbyKey : messagesOf (byKey q.items) = [m] :=
    List.perm_singleton.mp (h.messages ▸ messagesOf_byKey_perm q.items)
  cases result with
  | ok v => exact ⟨.inl rfl, .inr (congrArg (q.delivered ++ ·) hbyKey)⟩
  | error e =>
      have htaken := takenBy_begins service.mailer q.offered (byKey q.items)
      rw [hbyKey] at htaken
      simp only [Queue.follow, fail, h.active]
      refine ⟨.inr Condition.noConfusion, ?_⟩
      obtain hnone | hone := List.sublist_singleton.mp htaken.sublist
      · exact .inl ((congrArg (q.delivered ++ ·) hnone).trans (List.append_nil _))
      · exact .inr (congrArg (q.delivered ++ ·) hone)

end Queue

end Mailroom.Delivery
