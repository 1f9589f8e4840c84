import Mathlib.Data.List.TakeWhile
import Mailroom.Action

/-!
When a computation that may fail gives a result, and what holds of lists put together.
-/

namespace Mailroom

theorem exists_of_bind_eq_ok {α β ε : Type} {x : Except ε α} {f : α → Except ε β} {b : β}
    (h : x >>= f = .ok b) : ∃ a, x = .ok a ∧ f a = .ok b := by
  cases x with
  | error e => cases h
  | ok a => exact ⟨a, rfl, h⟩

theorem of_bind_eq_error {α β ε : Type} {x : Except ε α} {f : α → Except ε β} {e : ε}
    (h : x >>= f = .error e) : x = .error e ∨ ∃ a, x = .ok a ∧ f a = .error e := by
  cases x with
  | error fault => exact .inl (congrArg Except.error (Except.error.inj h))
  | ok a => exact .inr ⟨a, rfl, h⟩

theorem exists_of_map_eq_ok {α β ε : Type} {x : Except ε α} {f : α → β} {b : β}
    (h : x.map f = .ok b) : ∃ a, x = .ok a ∧ f a = b := by
  cases x with
  | error e => cases h
  | ok a => exact ⟨a, rfl, Except.ok.inj h⟩

theorem exists_of_isOk {α : Type} {x : Except Fault α} (h : x.isOk = true) : ∃ a, x = .ok a := by
  cases x with
  | error e => cases h
  | ok a => exact ⟨a, rfl⟩

theorem isOk_iff {α : Type} {x : Except Fault α} : x.isOk = true ↔ ∃ a, x = .ok a := by
  refine ⟨exists_of_isOk, fun h => ?_⟩
  obtain ⟨a, rfl⟩ := h
  rfl

theorem isOk_map {α β : Type} {x : Except Fault α} {f : α → β} : (x.map f).isOk = x.isOk := by
  cases x <;> rfl

theorem isOk_bind {α β : Type} {x : Except Fault α} {f : α → Except Fault β} :
    (x >>= f).isOk = true ↔ ∃ a, x = .ok a ∧ (f a).isOk = true := by
  cases x with
  | error e => simp [bind, Except.bind]
  | ok a => simp [bind, Except.bind]

/-- What follows may depend on the result, but not whether it succeeds. -/
theorem isOk_bind_eq {α β : Type} {x : Except Fault α} {f : α → Except Fault β} {p : Bool}
    (h : ∀ a, (f a).isOk = p) : (x >>= f).isOk = (x.isOk && p) := by
  cases x with
  | error e => rfl
  | ok a => exact h a

theorem eq_nil_of_mapM {α β : Type} {f : α → Except Fault β} {items : List α}
    (h : items.mapM f = .ok []) : items = [] := by
  cases items with
  | nil => rfl
  | cons a rest =>
      rw [List.mapM_cons] at h
      obtain ⟨b, -, h⟩ := exists_of_bind_eq_ok h
      obtain ⟨found, -, h⟩ := exists_of_bind_eq_ok h
      cases h

theorem isOk_mapM {α β : Type} {f : α → Except Fault β} {items : List α} :
    (items.mapM f).isOk = true ↔ ∀ a ∈ items, (f a).isOk = true := by
  induction items with
  | nil => simp [pure, Except.pure]
  | cons a rest ih =>
      rw [List.mapM_cons, List.forall_mem_cons, ← ih]
      cases f a with
      | error e => simp [bind, Except.bind]
      | ok b => cases rest.mapM f <;> simp [bind, Except.bind, pure, Except.pure]

theorem mem_of_mapM_eq_ok {α β : Type} {f : α → Except Fault β} {items : List α} {found : List β}
    (h : items.mapM f = .ok found) : ∀ b ∈ found, ∃ a ∈ items, f a = .ok b := by
  induction items generalizing found with
  | nil =>
      obtain rfl := Except.ok.inj h
      nofun
  | cons a rest ih =>
      rw [List.mapM_cons] at h
      obtain ⟨b, hb, h⟩ := exists_of_bind_eq_ok h
      obtain ⟨more, hmore, h⟩ := exists_of_bind_eq_ok h
      obtain rfl := Except.ok.inj h
      refine List.forall_mem_cons.mpr ⟨⟨a, List.mem_cons_self, hb⟩, fun c hc => ?_⟩
      obtain ⟨d, hd, hc⟩ := ih hmore c hc
      exact ⟨d, List.mem_cons_of_mem a hd, hc⟩

/-- What holds of each result holds of all of them. -/
theorem forall_mem_mapM_iff {α β : Type} {f : α → Except Fault β} {P : α → Prop} {Q : β → Prop}
    {items : List α} {found : List β} (h : items.mapM f = .ok found)
    (hPQ : ∀ a ∈ items, ∀ b, f a = .ok b → (Q b ↔ P a)) :
    (∀ b ∈ found, Q b) ↔ ∀ a ∈ items, P a := by
  induction items generalizing found with
  | nil =>
      obtain rfl := Except.ok.inj h
      simp
  | cons a rest ih =>
      rw [List.mapM_cons] at h
      obtain ⟨b, hb, h⟩ := exists_of_bind_eq_ok h
      obtain ⟨more, hmore, h⟩ := exists_of_bind_eq_ok h
      obtain rfl := Except.ok.inj h
      obtain ⟨hfirst, hrest⟩ := List.forall_mem_cons.mp hPQ
      rw [List.forall_mem_cons, List.forall_mem_cons, hfirst b hb, ih hmore hrest]

theorem mem_of_mem_filterAuxM {α : Type} {f : α → Except Fault Bool} {items kept found : List α}
    (h : items.filterAuxM f kept = .ok found) : ∀ a ∈ found, a ∈ items ∨ a ∈ kept := by
  induction items generalizing kept with
  | nil =>
      obtain rfl := Except.ok.inj h
      exact fun a ha => .inr ha
  | cons b rest ih =>
      obtain ⟨keep, -, h⟩ := exists_of_bind_eq_ok h
      intro a ha
      rcases ih h a ha with ha | ha
      · exact .inl (List.mem_cons_of_mem b ha)
      · cases keep with
        | false => exact .inr ha
        | true =>
            rcases List.mem_cons.mp ha with rfl | ha
            · exact .inl List.mem_cons_self
            · exact .inr ha

theorem filterAuxM_eq {α : Type} (f : α → Except Fault Bool) (items kept : List α) :
    items.filterAuxM f kept =
      (items.filterM f).map fun found => (kept.reverse ++ found).reverse := by
  rw [List.filterM]
  induction items generalizing kept with
  | nil => simp [pure, Except.pure, bind, Except.bind, Except.map]
  | cons a rest ih =>
      rw [List.filterAuxM, List.filterAuxM]
      cases f a with
      | error e => rfl
      | ok keep =>
          change rest.filterAuxM f (cond keep (a :: kept) kept) =
            (rest.filterAuxM f (cond keep [a] []) >>= _).map _
          rw [ih, ih (cond keep [a] [])]
          cases rest.filterAuxM f [] with
          | error e => rfl
          | ok found => cases keep <;> simp [bind, Except.bind, Except.map, pure, Except.pure]

theorem filterM_cons {α : Type} (f : α → Except Fault Bool) (a : α) (rest : List α) :
    (a :: rest).filterM f =
      f a >>= fun keep => (rest.filterM f).map fun found => cond keep (a :: found) found := by
  rw [List.filterM, List.filterAuxM]
  cases f a with
  | error e => rfl
  | ok keep =>
      change (rest.filterAuxM f (cond keep [a] []) >>= _) = (rest.filterM f).map _
      rw [filterAuxM_eq]
      cases rest.filterM f with
      | error e => rfl
      | ok found => cases keep <;> simp [bind, Except.bind, Except.map, pure, Except.pure]

/-- What would not be kept can as well be left out before. -/
theorem filterM_filter {α : Type} {f : α → Except Fault Bool} {p : α → Bool}
    (hdropped : ∀ a, p a = false → f a = .ok false) (items : List α) :
    (items.filter p).filterM f = items.filterM f := by
  induction items with
  | nil => rfl
  | cons a rest ih =>
      cases ha : p a with
      | true => rw [List.filter_cons_of_pos ha, filterM_cons, filterM_cons, ih]
      | false =>
          rw [List.filter_cons_of_neg (by simp [ha]), filterM_cons, hdropped a ha, ih]
          cases rest.filterM f <;> rfl

theorem firstLacking?_eq_none_iff (charset : String) (reason : EncodingReason) {has : Char → Bool}
    {s : List Char} : firstLacking? charset reason has s = none ↔ s.all has = true := by
  have hdrop : s.drop (s.takeWhile has).length = s.dropWhile has := by
    calc s.drop (s.takeWhile has).length
        = (s.takeWhile has ++ s.dropWhile has).drop (s.takeWhile has).length := by
          rw [List.takeWhile_append_dropWhile]
      _ = s.dropWhile has := List.drop_left
  unfold firstLacking?
  dsimp only
  rw [hdrop, List.all_eq_true, ← List.dropWhile_eq_nil_iff]
  cases s.dropWhile has <;> simp

theorem requireAscii_eq_ok_iff {s : List Char} :
    requireAscii s = .ok () ↔ Text.isAscii s = true := by
  rw [Text.isAscii, ← firstLacking?_eq_none_iff "ascii" (.beyond 128)]
  unfold requireAscii firstUnencodable?
  cases firstLacking? "ascii" (.beyond 128) (fun c => decide (c.toNat < 128)) s <;> simp

/-! ### Lists put together -/

/-- What holds of the mark between lists holds of them all together just if it holds of each. -/
theorem forall_mem_intercalate {α : Type} {P : α → Prop} {mark : List α} (hmark : ∀ a ∈ mark, P a)
    {pieces : List (List α)} :
    (∀ a ∈ mark.intercalate pieces, P a) ↔ ∀ piece ∈ pieces, ∀ a ∈ piece, P a := by
  induction pieces with
  | nil => simp
  | cons first rest ih =>
      cases rest with
      | nil => simp
      | cons next more =>
          rw [List.intercalate_cons_cons, List.forall_mem_append, List.forall_mem_append, ih,
            List.forall_mem_cons (l := next :: more), and_iff_left hmark]

end Mailroom
