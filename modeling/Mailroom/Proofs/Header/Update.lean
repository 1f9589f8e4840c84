import Mailroom.Proofs.Entries
import Mailroom.Proofs.Header.Field

/-!
Updates of a header store with pairs of texts. The pairs are made a mapping first, so a pair whose
name a later pair has is gone before the check; the check decides about the others together. An
update that is accepted does what setting the pairs one after the other would do.
-/

namespace Mailroom.Header.Store

open Mailroom.Action

variable {headers member : Value} {pair : String × String} {pairs : List (String × String)}
  {s : Store}

/-- A value that yields a name and a value. -/
def IsPair (member : Value) (pair : String × String) : Prop :=
  member.elements = .ok [.text pair.1, .text pair.2]

/-- A sequence of pairs, or a table of texts. -/
inductive IsPairs : Value → List (String × String) → Prop
  | list {members : List Value} {pairs : List (String × String)}
      (hmembers : List.Forall₂ IsPair members pairs) : IsPairs (.list members) pairs
  | tuple {members : List Value} {pairs : List (String × String)}
      (hmembers : List.Forall₂ IsPair members pairs) : IsPairs (.tuple members) pairs
  | table {pairs : List (String × String)} (hdistinct : (pairs.map Prod.fst).Nodup) :
      IsPairs (.table (pairs.map fun pair => (pair.1, .text pair.2))) pairs

/-! ### The mapping -/

/-- A pair as an entry of a mapping of values. -/
def texts (pair : String × String) : Value × Value := (.text pair.1, .text pair.2)

theorem pairsFrom_eq {members : List Value} (h : List.Forall₂ IsPair members pairs)
    (index : Nat) : Value.pairsFrom index members = .ok (pairs.map texts) := by
  induction h generalizing index with
  | nil => rfl
  | cons hpair _ ih =>
      rw [Value.pairsFrom, Value.pairOf, hpair, ih]
      rfl

theorem put_texts (name value : String) (entries : Entries String String) :
    Entries.put Value.same (.text name) (.text value) (entries.map texts) =
      (entries.put (· == ·) name value).map texts := by
  induction entries with
  | nil => rfl
  | cons first rest ih =>
      obtain ⟨key, old⟩ := first
      have hsame : Value.same (.text key) (.text name) = (key == name) := by rw [Value.same]
      rw [List.map_cons, texts, Entries.put, Entries.put, hsame, ih]
      split <;> rfl

/-- As keys texts are told apart by their characters. -/
theorem putAll_texts (pairs : List (String × String)) (entries : Entries String String) :
    Entries.putAll Value.same (entries.map texts) (pairs.map texts) =
      (entries.putAll (· == ·) pairs).map texts := by
  induction pairs generalizing entries with
  | nil => rfl
  | cons first rest ih =>
      calc Entries.putAll Value.same (entries.map texts) ((first :: rest).map texts)
          = Entries.putAll Value.same
              (Entries.put Value.same (.text first.1) (.text first.2) (entries.map texts))
              (rest.map texts) := rfl
        _ = Entries.putAll Value.same ((entries.put (· == ·) first.1 first.2).map texts)
              (rest.map texts) := by rw [put_texts]
        _ = (entries.putAll (· == ·) (first :: rest)).map texts := ih _

theorem toEntries_eq (h : IsPairs headers pairs) :
    headers.toEntries = .ok ((Entries.putAll (· == ·) [] pairs).map texts) := by
  have hsequence {members : List Value} (hmembers : List.Forall₂ IsPair members pairs) :
      (Value.pairsFrom 0 members >>= fun found =>
        (.ok (Entries.putAll Value.same [] found) : Except Fault (Entries Value Value))) =
        .ok ((Entries.putAll (· == ·) [] pairs).map texts) := by
    rw [pairsFrom_eq hmembers, ← putAll_texts]
    rfl
  cases h with
  | list hmembers => exact hsequence hmembers
  | tuple hmembers => exact hsequence hmembers
  | table hdistinct =>
      rw [Entries.putAll_nil_of_nodup hdistinct, Value.toEntries, List.map_map]
      rfl

/-! ### The check -/

/-- A check of pairs of texts lets all of them through, or one of them is at fault. -/
theorem checkAll_texts (pairs : List (String × String)) :
    (∀ pair ∈ pairs, Passes pair.1 pair.2) ∧ checkAll (pairs.map texts) = .ok pairs ∨
      ∃ pair ∈ pairs, ∃ e, check (.text pair.1) (.text pair.2) = .error e ∧
        checkAll (pairs.map texts) = .error e := by
  induction pairs with
  | nil => exact .inl ⟨nofun, rfl⟩
  | cons first rest ih =>
      rw [List.map_cons, texts, checkAll]
      cases hfirst : check (.text first.1) (.text first.2) with
      | error e => exact .inr ⟨first, List.mem_cons_self, e, hfirst, rfl⟩
      | ok header =>
          obtain ⟨hname, hvalue, hpasses⟩ := check_eq_ok_iff.mp hfirst
          obtain rfl : first = header :=
            Prod.ext (Value.text.inj hname) (Value.text.inj hvalue)
          obtain ⟨hrest, hall⟩ | ⟨pair, hpair, e, herror, hall⟩ := ih
          · rw [hall]
            exact .inl ⟨List.forall_mem_cons.mpr ⟨hpasses, hrest⟩, rfl⟩
          · rw [hall]
            exact .inr ⟨pair, List.mem_cons_of_mem first hpair, e, herror, rfl⟩

/-! ### Setting pairs -/

/-- To set this header now would succeed. -/
def Accepts (s : Store) (pair : String × String) : Prop :=
  ((set (.text pair.1) (.text pair.2)).run s).result = .ok ()

theorem run_set_of_passes (h : Passes pair.1 pair.2) (s : Store) :
    (set (.text pair.1) (.text pair.2)).run s = ⟨.ok (), s.put pair.1 pair.2, []⟩ :=
  run_set_of_ok (check_eq_ok_iff.mpr ⟨rfl, rfl, h⟩) s

theorem not_accepts_of_error {e : Fault} (h : check (.text pair.1) (.text pair.2) = .error e)
    (s : Store) : ¬Accepts s pair := by
  intro haccepts
  rw [Accepts, run_set_of_error h] at haccepts
  cases haccepts

theorem accepts_iff : Accepts s pair ↔ Passes pair.1 pair.2 := by
  constructor
  · intro h
    cases hcheck : check (.text pair.1) (.text pair.2) with
    | error e => exact absurd h (not_accepts_of_error hcheck s)
    | ok header =>
        obtain ⟨hname, hvalue, hpasses⟩ := check_eq_ok_iff.mp hcheck
        rwa [Value.text.inj hname, Value.text.inj hvalue]
  · intro h
    rw [Accepts, run_set_of_passes h]

theorem run_forM_set (h : ∀ pair ∈ pairs, Passes pair.1 pair.2) (s : Store) :
    (forM pairs fun pair => set (.text pair.1) (.text pair.2)).run s =
      ⟨.ok (), ⟨s.items.putAll (· == ·) pairs⟩, []⟩ := by
  induction pairs generalizing s with
  | nil => rfl
  | cons first rest ih =>
      obtain ⟨hfirst, hrest⟩ := List.forall_mem_cons.mp h
      rw [List.forM_cons, run_bind, run_set_of_passes hfirst]
      dsimp only
      rw [ih hrest]
      rfl

theorem foldl_put (pairs : List (String × String)) (s : Store) :
    pairs.foldl (fun s pair => s.put pair.1 pair.2) s = ⟨s.items.putAll (· == ·) pairs⟩ := by
  induction pairs generalizing s with
  | nil => rfl
  | cons first rest ih => exact ih (s.put first.1 first.2)

/-! ### Updates -/

/-- The pairs that are looked at are those that stand. -/
theorem mem_putAll_nil_iff :
    pair ∈ Entries.putAll (· == ·) [] pairs ↔ pair ∈ Entries.standing pairs := by
  have hdistinct : (([] : Entries String String).map Prod.fst).Nodup := List.nodup_nil
  rw [Entries.mem_putAll_iff hdistinct]
  simp

theorem run_update_cases (h : IsPairs headers pairs) (s : Store) :
    (∀ pair ∈ Entries.standing pairs, Passes pair.1 pair.2) ∧
        (update headers).run s = ⟨.ok (), ⟨s.items.putAll (· == ·) pairs⟩, []⟩ ∨
      ∃ pair ∈ Entries.standing pairs, ∃ e, check (.text pair.1) (.text pair.2) = .error e ∧
        (update headers).run s = ⟨.error e, s, []⟩ := by
  have hbind : headers.toEntries >>= checkAll =
      checkAll ((Entries.putAll (· == ·) [] pairs).map texts) := by
    rw [toEntries_eq h]
    rfl
  have hchecked := checkAll_texts (Entries.putAll (· == ·) [] pairs)
  simp only [mem_putAll_nil_iff] at hchecked
  rw [run_update, hbind]
  obtain ⟨hpasses, hall⟩ | ⟨pair, hpair, e, herror, hall⟩ := hchecked
  · refine .inl ⟨hpasses, ?_⟩
    rw [hall, ← Entries.putAll_putAll_nil s.items pairs]
  · refine .inr ⟨pair, hpair, e, herror, ?_⟩
    rw [hall]

/-- An update with pairs that are all accepted sets them one after the other. If one is refused that
no later pair overrides, so is the update, for that reason, and the store stays as it was; one that
a later pair overrides is not looked at, and only gives its name a place. -/
theorem update_pairs (h : IsPairs headers pairs) (s : Store) :
    ((∀ pair ∈ pairs, Accepts s pair) →
      (update headers).run s =
        (forM pairs fun pair => set (.text pair.1) (.text pair.2)).run s) ∧
    ((∃ pair ∈ Entries.standing pairs, ¬Accepts s pair) →
      ∃ pair ∈ Entries.standing pairs, ∃ cause,
        (set (.text pair.1) (.text pair.2)).run s = ⟨.error (.header cause), s, []⟩ ∧
        (update headers).run s = ⟨.error (.header cause), s, []⟩) ∧
    ((∀ pair ∈ Entries.standing pairs, Accepts s pair) →
      (update headers).run s =
        ⟨.ok (), pairs.foldl (fun s pair => s.put pair.1 pair.2) s, []⟩) := by
  rw [foldl_put]
  obtain ⟨hpasses, hrun⟩ | ⟨pair, hpair, e, herror, hrun⟩ := run_update_cases h s
  · refine ⟨fun hall => ?_, fun ⟨pair, hpair, hnot⟩ => ?_, fun _ => hrun⟩
    · rw [hrun, run_forM_set fun pair hpair => accepts_iff.mp (hall pair hpair)]
    · exact absurd (accepts_iff.mpr (hpasses pair hpair)) hnot
  · have hnot := not_accepts_of_error herror s
    refine ⟨fun hall => ?_, fun _ => ?_, fun hall => absurd (hall pair hpair) hnot⟩
    · exact absurd (hall pair (Entries.mem_of_mem_standing hpair)) hnot
    · obtain ⟨cause, rfl⟩ := fault_of_check herror
      exact ⟨pair, hpair, cause, run_set_of_error herror s, hrun⟩

theorem overridden_pair_replaced :
    let headers : Value := .list [.tuple [.text "X-B", .text ""], .list [.text "X-A", .text "1"],
      .tuple [.text "X-B", .text "2"]]
    let pairs := [("X-B", ""), ("X-A", "1"), ("X-B", "2")]
    let s : Store := ⟨[("X-A", "0")]⟩
    IsPairs headers pairs ∧ (∀ pair ∈ Entries.standing pairs, Accepts s pair) ∧
      (update headers).run s = ⟨.ok (), ⟨[("X-A", "1"), ("X-B", "2")]⟩, []⟩ := by
  intro headers pairs s
  have hpairs : IsPairs headers pairs := .list (.cons rfl (.cons rfl (.cons rfl .nil)))
  have hstanding : Entries.standing pairs = [("X-A", "1"), ("X-B", "2")] := by decide
  have haccepts : ∀ pair ∈ Entries.standing pairs, Accepts s pair := by
    rw [hstanding]
    exact List.forall_mem_cons.mpr ⟨rfl, List.forall_mem_singleton.mpr rfl⟩
  exact ⟨hpairs, haccepts, (update_pairs hpairs s).2.2 haccepts⟩

/-- A pair that is refused on its own does not refuse an update in which it is overridden. -/
theorem overridden_pair_unchecked :
    ¬∀ headers pairs, IsPairs headers pairs → ∀ s, (∃ pair ∈ pairs, ¬Accepts s pair) →
      ∃ cause, (update headers).run s = ⟨.error (.header cause), s, []⟩ := by
  intro h
  have hpairs : IsPairs (.list [.tuple [.text "X-A", .text ""], .tuple [.text "X-A", .text "1"]])
      [("X-A", ""), ("X-A", "1")] := .list (.cons rfl (.cons rfl .nil))
  have hrefused : ¬Accepts empty ("X-A", "") := nofun
  obtain ⟨cause, hrun⟩ := h _ _ hpairs empty ⟨_, List.mem_cons_self, hrefused⟩
  cases hrun

end Mailroom.Header.Store
