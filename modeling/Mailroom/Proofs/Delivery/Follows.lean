import Mailroom.Proofs.Delivery.Managers

/-!
When a queue follows a desk. The queue has the items and the condition of the own manager's
transaction, and every savepoint that was handed out is marked with the length to which it takes
the queue back. What happens to the transaction then happens to the queue.
-/

namespace Mailroom.Delivery

/-- The length to which a savepoint takes the current transaction back, if it is one of its own. -/
def Manager.lengthAt (m : Manager) (h : Handle) : Option Nat :=
  if h.transaction = m.currentOrNext.serial then m.currentOrNext.lengthAt h.number else none

namespace Desk

variable {d : Desk}

def lengthAt (d : Desk) : Side × Handle → Option Nat
  | (.own, h) => d.own.lengthAt h
  | (.foreign, _) => none

def marks (d : Desk) : List Queue.Mark := d.handles.mapIdx fun place h => ⟨place, d.lengthAt h⟩

/-- Two savepoints of one transaction are numbered in the order in which they are given. -/
def Rises (a b : Side × Handle) : Prop :=
  a.1 = .own → b.1 = .own → a.2.transaction = b.2.transaction → a.2.number < b.2.number

structure Orderly (d : Desk) : Prop where
  current : d.own.currentOrNext.Orderly
  begun : ∀ t, d.own.current = some t → t.serial < d.own.begun
  known : ∀ h, (.own, h) ∈ d.handles → h.transaction < d.own.begun
  taken : ∀ h, (.own, h) ∈ d.handles → h.transaction = d.own.currentOrNext.serial →
    h.number < d.own.currentOrNext.marks
  rising : d.handles.Pairwise Rises
  idle : d.foreign.IsIdle

theorem orderly_empty : empty.Orderly where
  current := Transaction.orderly_ofSerial 0
  begun := by simp [empty, Manager.initial]
  known := by simp [empty]
  taken := by simp [empty]
  rising := List.Pairwise.nil
  idle := Transaction.isIdle_ofSerial 0

theorem Orderly.number_lt (h : d.Orderly) {i j : Nat} {a b : Handle}
    (hi : d.handles[i]? = some (.own, a)) (hj : d.handles[j]? = some (.own, b)) (hij : i < j)
    (hsame : a.transaction = b.transaction) : a.number < b.number := by
  obtain ⟨hi, ha⟩ := List.getElem?_eq_some_iff.mp hi
  obtain ⟨hj, hb⟩ := List.getElem?_eq_some_iff.mp hj
  have hrises := List.pairwise_iff_getElem.mp h.rising i j hi hj hij
  rw [ha, hb] at hrises
  exact hrises rfl rfl hsame

def holding (t : Transaction) (d : Desk) : Desk := { d with own := d.own.holding t }

theorem Orderly.holding (h : d.Orderly) {t : Transaction} (ht : t.Orderly)
    (hserial : t.serial = d.own.currentOrNext.serial)
    (hmarks : d.own.currentOrNext.marks ≤ t.marks) : (d.holding t).Orderly where
  current := ht
  begun := by
    intro u hu
    obtain rfl : t = u := Option.some.inj hu
    rw [hserial]
    cases hcurrent : d.own.current with
    | none =>
        simp [Desk.holding, Manager.holding, Manager.currentOrNext, hcurrent, Transaction.ofSerial]
    | some v =>
        simpa [Desk.holding, Manager.holding, Manager.currentOrNext, hcurrent] using
          h.begun v hcurrent
  known := fun k hk => Nat.lt_of_lt_of_le (h.known k hk) (Manager.begun_le_holding t d.own)
  taken := fun k hk hcurrent =>
    Nat.lt_of_lt_of_le (h.taken k hk (hcurrent.trans hserial)) hmarks
  rising := h.rising
  idle := h.idle

/-- No savepoint belongs to a transaction that has just begun. -/
theorem Orderly.lengthAt_of_startsFrom (h : d.Orderly) {m : Manager}
    (hm : m.StartsFrom d.own.begun) {k : Handle} (hk : (.own, k) ∈ d.handles) :
    m.lengthAt k = none := by
  obtain ⟨serial, hserial, rfl | rfl⟩ := hm <;>
    exact if_neg (Nat.ne_of_lt (Nat.lt_of_lt_of_le (h.known k hk) hserial))

theorem Orderly.restarting (h : d.Orderly) {m : Manager} (hm : m.StartsFrom d.own.begun)
    (box : Outbox) : ({ d with own := m, outbox := box } : Desk).Orderly := by
  obtain ⟨serial, hserial, rfl | rfl⟩ := hm
  all_goals
    have hlt : ∀ k, (.own, k) ∈ d.handles → k.transaction < serial := fun k hk =>
      Nat.lt_of_lt_of_le (h.known k hk) hserial
  · exact ⟨Transaction.orderly_ofSerial serial, by simp, hlt,
      fun k hk hcurrent => absurd hcurrent (Nat.ne_of_lt (hlt k hk)), h.rising, h.idle⟩
  · exact ⟨Transaction.orderly_ofSerial serial, by simp [Transaction.ofSerial],
      fun k hk => Nat.lt_succ_of_lt (hlt k hk),
      fun k hk hcurrent => absurd hcurrent (Nat.ne_of_lt (hlt k hk)), h.rising, h.idle⟩

theorem Orderly.lengthAt_rolledBack (h : d.Orderly) {place other : Nat} {handle k : Handle}
    {s : Savepoint} (hplace : d.handles[place]? = some (.own, handle))
    (hserial : handle.transaction = d.own.currentOrNext.serial)
    (hs : d.own.currentOrNext.savepoints.find? (fun s => s.number == handle.number) = some s)
    (hk : d.handles[other]? = some (.own, k)) :
    (d.own.holding (d.own.currentOrNext.rolledBack s)).lengthAt k =
      if place < other then none else d.own.lengthAt k := by
  have hnumber : s.number = handle.number := by simpa using List.find?_some hs
  by_cases hsame : k.transaction = d.own.currentOrNext.serial
  · have hsides : k.number ≤ handle.number ↔ ¬place < other := by
      rcases Nat.lt_trichotomy place other with hlt | rfl | hlt
      · have := h.number_lt hplace hk hlt (hserial.trans hsame.symm)
        omega
      · obtain rfl : handle = k := by simpa [hplace] using hk
        simp
      · have := h.number_lt hk hplace hlt (hsame.trans hserial.symm)
        omega
    have hrolled : (d.own.holding (d.own.currentOrNext.rolledBack s)).lengthAt k =
        (d.own.currentOrNext.rolledBack s).lengthAt k.number := if_pos hsame
    have hbefore : d.own.lengthAt k = d.own.currentOrNext.lengthAt k.number := if_pos hsame
    rw [hrolled, hbefore,
      Transaction.lengthAt_rolledBack h.current (List.mem_of_find?_eq_some hs), hnumber]
    simp only [hsides, ite_not]
  · have hrolled : (d.own.holding (d.own.currentOrNext.rolledBack s)).lengthAt k = none :=
      if_neg hsame
    have hbefore : d.own.lengthAt k = none := if_neg hsame
    rw [hrolled, hbefore, ite_self]

theorem marks_eq_map {d' : Desk} (hhandles : d'.handles = d.handles) {f : Queue.Mark → Queue.Mark}
    (hf : ∀ place h, d.handles[place]? = some h →
      ⟨place, d'.lengthAt h⟩ = f ⟨place, d.lengthAt h⟩) : d'.marks = d.marks.map f := by
  refine List.ext_getElem? fun place => ?_
  cases h : d.handles[place]? with
  | none => simp [marks, hhandles, h]
  | some k => simp [marks, hhandles, h, hf place k h]

theorem marks_congr {d' : Desk} (hhandles : d'.handles = d.handles)
    (hlength : ∀ h ∈ d.handles, d'.lengthAt h = d.lengthAt h) : d'.marks = d.marks := by
  rw [marks_eq_map hhandles (f := id) fun place h hh => ?_, List.map_id]
  rw [hlength h (List.mem_of_getElem? hh)]
  rfl

theorem marks_ended {d' : Desk} (hhandles : d'.handles = d.handles)
    (hlength : ∀ h, (.own, h) ∈ d.handles → d'.own.lengthAt h = none) :
    d'.marks = d.marks.map Queue.Mark.ended := by
  refine marks_eq_map hhandles fun place h hh => ?_
  obtain ⟨side, k⟩ := h
  cases side with
  | foreign => rfl
  | own => simp [lengthAt, hlength k (List.mem_of_getElem? hh), Queue.Mark.ended]

end Desk

namespace Queue

variable {q : Queue} {d : Desk}

structure Follows (q : Queue) (d : Desk) : Prop where
  orderly : d.Orderly
  delivered : q.delivered = d.outbox.accepted
  offered : q.offered = d.outbox.handed
  sends : q.sends = d.consigned
  condition : q.condition = d.own.currentOrNext.condition
  items : q.condition ≠ .failed → d.own.currentOrNext.items = q.items
  /-- A commit that fails leaves the participants in its own order. -/
  sorted : q.condition = .failed → d.own.currentOrNext.items = byKey q.items
  marks : q.marks = d.marks

theorem follows_empty : empty.Follows .empty where
  orderly := Desk.orderly_empty
  delivered := rfl
  offered := rfl
  sends := rfl
  condition := rfl
  items _ := rfl
  sorted h := by cases h
  marks := rfl

theorem Follows.issuing (h : q.Follows d) (issued : Nat) : q.Follows { d with issued := issued } :=
  ⟨⟨h.orderly.current, h.orderly.begun, h.orderly.known, h.orderly.taken, h.orderly.rising,
    h.orderly.idle⟩, h.delivered, h.offered, h.sends, h.condition, h.items, h.sorted, h.marks⟩

theorem Follows.counting (h : q.Follows d) :
    ({ q with sends := q.sends + 1 } : Queue).Follows { d with consigned := d.consigned + 1 } :=
  ⟨⟨h.orderly.current, h.orderly.begun, h.orderly.known, h.orderly.taken, h.orderly.rising,
    h.orderly.idle⟩, h.delivered, h.offered, congrArg Nat.succ h.sends, h.condition, h.items,
    h.sorted, h.marks⟩

/-- What the other manager does is of no concern. -/
theorem Follows.besides (h : q.Follows d) {m : Manager} (hm : m.IsIdle) :
    q.Follows { d with foreign := m } :=
  ⟨⟨h.orderly.current, h.orderly.begun, h.orderly.known, h.orderly.taken, h.orderly.rising, hm⟩,
    h.delivered, h.offered, h.sends, h.condition, h.items, h.sorted, h.marks⟩

/-- A refused call may begin a transaction, which is then empty. -/
theorem Follows.holding (h : q.Follows d) : q.Follows (d.holding d.own.currentOrNext) :=
  ⟨h.orderly.holding h.orderly.current rfl (Nat.le_refl _), h.delivered, h.offered, h.sends,
    h.condition, h.items, h.sorted, h.marks⟩

theorem Follows.enlisting (h : q.Follows d) (hcondition : d.own.currentOrNext.condition ≠ .failed)
    (key : String) {party : Party} (hparty : ∀ c, party = .consignment c →
      c.stage = .initial ∧ c.joined = some d.own.currentOrNext.serial) :
    (q.push ⟨key, party.waiting⟩).Follows
      (d.holding (d.own.currentOrNext.enlist key party)) where
  orderly := h.orderly.holding
    (Transaction.orderly_enlist h.orderly.current hcondition key hparty) rfl (Nat.le_refl _)
  delivered := h.delivered
  offered := h.offered
  sends := h.sends
  condition := h.condition
  items hq := by
    have hitems : d.own.currentOrNext.items = q.items := h.items hq
    simp only [push, ← hitems]
    exact Transaction.items_enlist _ key party
  sorted hq := absurd (h.condition.symm.trans hq) hcondition
  marks := by
    refine h.marks.trans (Desk.marks_congr (by rfl) fun k _ => ?_).symm
    obtain ⟨side, k⟩ := k
    cases side with
    | foreign => rfl
    | own =>
        have hps := fun p hp => (h.orderly.current.fresh hcondition p hp).2
        simp only [Desk.lengthAt, Manager.lengthAt, Desk.holding, Manager.currentOrNext_holding,
          Transaction.lengthAt_enlist hps]
        rfl

theorem Follows.dooming (h : q.Follows d)
    (hcondition : d.own.currentOrNext.condition ≠ .failed) :
    ({ q with condition := .doomed } : Queue).Follows
      (d.holding { d.own.currentOrNext with condition := .doomed }) where
  orderly := h.orderly.holding (Transaction.orderly_doomed h.orderly.current hcondition) rfl
    (Nat.le_refl _)
  delivered := h.delivered
  offered := h.offered
  sends := h.sends
  condition := rfl
  items _ := h.items fun hq => hcondition (h.condition.symm.trans hq)
  sorted hq := by cases hq
  marks := h.marks

theorem Follows.restarting (h : q.Follows d) {m : Manager} (hm : m.StartsFrom d.own.begun)
    (box : Outbox) :
    ({ q with delivered := box.accepted, offered := box.handed } : Queue).clear.Follows
      { d with own := m, outbox := box } where
  orderly := h.orderly.restarting hm box
  delivered := rfl
  offered := rfl
  sends := h.sends
  condition := by obtain ⟨serial, -, rfl | rfl⟩ := hm <;> rfl
  items _ := by obtain ⟨serial, -, rfl | rfl⟩ := hm <;> rfl
  sorted hq := by cases hq
  marks := by
    refine Eq.trans ?_ (Desk.marks_ended (by rfl) fun k hk =>
      h.orderly.lengthAt_of_startsFrom hm hk).symm
    rw [← h.marks]
    rfl

theorem Follows.clearing (h : q.Follows d) {m : Manager} (hm : m.StartsFrom d.own.begun) :
    q.clear.Follows { d with own := m } := by
  have hrestarting := h.restarting hm d.outbox
  rw [← h.delivered, ← h.offered] at hrestarting
  exact hrestarting

theorem Follows.failing (h : q.Follows d) {mailer : Mailer}
    (hactive : d.own.currentOrNext.condition = .active) {ps : List Participant}
    (hps : ps.map Participant.item = byKey d.own.currentOrNext.items) {box : Outbox}
    (haccepted : box.accepted =
      d.outbox.accepted ++ (takenBy mailer d.outbox.handed (byKey d.own.currentOrNext.items)).1)
    (hhanded : box.handed =
      (takenBy mailer d.outbox.handed (byKey d.own.currentOrNext.items)).2) :
    (q.fail mailer).Follows
      { d.holding { d.own.currentOrNext with
          participants := ps, savepoints := [], condition := .failed } with outbox := box } := by
  have hcondition : q.condition = .active := h.condition.trans hactive
  have hitems := h.items (by simp [hcondition])
  have horderly := h.orderly.holding (Transaction.orderly_failed ps) rfl (Nat.le_refl _)
  simp only [fail, hcondition]
  rw [hitems, ← h.offered] at haccepted hhanded
  refine ⟨⟨horderly.current, horderly.begun, horderly.known, horderly.taken, horderly.rising,
    horderly.idle⟩, ?_, hhanded.symm, h.sends, rfl, fun hq => absurd rfl hq, fun _ => ?_, ?_⟩
  · rw [haccepted, h.delivered]
  · rw [← hitems]
    exact hps
  · rw [h.marks]
    refine (Desk.marks_ended (by rfl) fun k _ => ?_).symm
    exact ite_self none

/-! ### Savepoints -/

theorem marks_mark (h : q.Follows d) {d' : Desk} {side : Side} {handle : Handle}
    (hhandles : d'.handles = d.handles ++ [(side, handle)])
    (hold : ∀ k ∈ d.handles, d'.lengthAt k = d.lengthAt k)
    (hnew : d'.lengthAt (side, handle) = if side = .own then some q.items.length else none) :
    (q.mark side).marks = d'.marks := by
  have hlength : q.marks.length = d.handles.length := by simp [h.marks, Desk.marks]
  have hkept : d.handles.mapIdx (fun place k => (⟨place, d'.lengthAt k⟩ : Mark)) = q.marks := by
    rw [h.marks]
    refine List.ext_getElem? fun place => ?_
    cases hk : d.handles[place]? with
    | none => simp [Desk.marks, hk]
    | some k => simp [Desk.marks, hk, hold k (List.mem_of_getElem? hk)]
  simp only [mark, Desk.marks, hhandles, List.mapIdx_append, List.mapIdx_singleton, hkept, hnew,
    hlength, Nat.zero_add]
  cases side <;> rfl

theorem Follows.marking (h : q.Follows d) (hcondition : d.own.currentOrNext.condition ≠ .failed) :
    let t := d.own.currentOrNext
    (q.mark .own).Follows
      { d.holding t.marked with handles := d.handles ++ [(.own, ⟨t.serial, t.marks⟩)] } := by
  intro t
  have hqueue : q.condition ≠ .failed := fun hq => hcondition (h.condition.symm.trans hq)
  have horderly := h.orderly.holding (Transaction.orderly_marked h.orderly.current hcondition) rfl
    (Nat.le_succ _)
  refine ⟨⟨horderly.current, horderly.begun, ?_, ?_, ?_, h.orderly.idle⟩, h.delivered, h.offered,
    h.sends, h.condition, h.items, h.sorted, ?_⟩
  · intro k hk
    rcases List.mem_append.mp hk with hk | hk
    · exact horderly.known k hk
    · obtain ⟨-, rfl⟩ := Prod.mk.inj (List.mem_singleton.mp hk)
      exact horderly.begun t.marked rfl
  · intro k hk hcurrent
    rcases List.mem_append.mp hk with hk | hk
    · exact horderly.taken k hk hcurrent
    · obtain ⟨-, rfl⟩ := Prod.mk.inj (List.mem_singleton.mp hk)
      exact Nat.lt_succ_self _
  · refine List.pairwise_append.mpr ⟨h.orderly.rising, List.pairwise_singleton _ _, ?_⟩
    intro a ha b hb hown _ hsame
    obtain rfl := List.mem_singleton.mp hb
    obtain ⟨side, k⟩ := a
    obtain rfl : side = .own := hown
    exact h.orderly.taken k ha hsame
  · have hlength (k : Handle) : (d.own.holding t.marked).lengthAt k =
        if k.transaction = t.serial then t.marked.lengthAt k.number else none := rfl
    refine marks_mark h rfl ?_ ?_
    · rintro ⟨side, k⟩ hk
      cases side with
      | foreign => rfl
      | own =>
          refine (hlength k).trans (ite_congr rfl (fun hserial => ?_) fun _ => rfl)
          have hne := Nat.ne_of_lt (h.orderly.taken k hk hserial)
          rw [Transaction.lengthAt_marked h.orderly.current, if_neg hne]
    · refine (hlength _).trans ?_
      rw [if_pos rfl, Transaction.lengthAt_marked h.orderly.current, if_pos rfl, if_pos rfl,
        h.items hqueue]

/-- A savepoint of the other manager is given, but means nothing to the queue. -/
theorem Follows.markingBesides (h : q.Follows d) (handle : Handle) :
    (q.mark .foreign).Follows { d with handles := d.handles ++ [(.foreign, handle)] } := by
  have hold : ∀ k, (.own, k) ∈ d.handles ++ [(.foreign, handle)] → (.own, k) ∈ d.handles := by
    simp
  refine ⟨⟨h.orderly.current, h.orderly.begun, fun k hk => h.orderly.known k (hold k hk),
    fun k hk => h.orderly.taken k (hold k hk), ?_, h.orderly.idle⟩, h.delivered, h.offered,
    h.sends, h.condition, h.items, h.sorted, marks_mark h rfl (fun _ _ => rfl) rfl⟩
  refine List.pairwise_append.mpr ⟨h.orderly.rising, List.pairwise_singleton _ _, ?_⟩
  intro a _ b hb _ hown
  obtain rfl := List.mem_singleton.mp hb
  cases hown

/-- Going back to a savepoint cuts the queue, and ends just the savepoints that were given later. -/
theorem Follows.truncating (h : q.Follows d) {n : Int} {place : Nat} {handle : Handle}
    {s : Savepoint} (hplace : d.handles[place]? = some (.own, handle))
    (hserial : handle.transaction = d.own.currentOrNext.serial)
    (hs : d.own.currentOrNext.savepoints.find? (fun s => s.number == handle.number) = some s)
    (hitem : itemAt "list " q.marks n = .ok ⟨place, d.lengthAt (.own, handle)⟩) :
    (q.truncate n).Follows (d.holding (d.own.currentOrNext.rolledBack s)) := by
  have hmem := List.mem_of_find?_eq_some hs
  have hcurrent := h.orderly.current
  have hcondition : q.condition ≠ .failed := fun hfailed => by
    rw [hcurrent.ended (h.condition.symm.trans hfailed)] at hmem
    cases hmem
  have hlength : d.lengthAt (.own, handle) = some (d.own.currentOrNext.before s).length := by
    simp [Desk.lengthAt, Manager.lengthAt, hserial, Transaction.lengthAt, hs]
  have htruncate : q.truncate n =
      { q with
        items := q.items.take (d.own.currentOrNext.before s).length
        marks := q.marks.map (Mark.endedAfter place) } := by
    simp [truncate, hitem, hlength]
  rw [htruncate]
  refine ⟨h.orderly.holding (Transaction.orderly_rolledBack hcurrent hmem) rfl (Nat.le_refl _),
    h.delivered, h.offered, h.sends, h.condition, fun _ => ?_, fun hq => absurd hq hcondition, ?_⟩
  · rw [← h.items hcondition]
    exact Transaction.items_rolledBack hcurrent hmem
  · rw [h.marks]
    refine (Desk.marks_eq_map (by rfl) fun other k hk => ?_).symm
    obtain ⟨side, k⟩ := k
    cases side with
    | foreign => simp [Desk.lengthAt, Mark.endedAfter, Mark.ended]
    | own =>
        have hcut := h.orderly.lengthAt_rolledBack hplace hserial hs hk
        refine (congrArg (Mark.mk other) hcut).trans ?_
        simp only [Desk.lengthAt, Mark.endedAfter, Mark.ended]
        split <;> rfl

end Queue

end Mailroom.Delivery
