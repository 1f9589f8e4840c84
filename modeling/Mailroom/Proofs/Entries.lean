import Mathlib.Data.List.Induction
import Mathlib.Data.List.Nodup
import Mailroom.Entries

/-!
What writing does to the entries of a mapping: which are there afterwards, that their keys stay
distinct, and that entries which are collected in a mapping of their own first and then written do
what they do when they are written one by one.
-/

namespace Mailroom.Entries

variable {κ β : Type}

theorem find?_append (same : κ → κ → Bool) (key : κ) (first second : Entries κ β) :
    find? same key (first ++ second) = (find? same key first).or (find? same key second) := by
  rw [find?, List.find?_append, Option.map_or]
  rfl

theorem putAll_append (same : κ → κ → Bool) (entries : Entries κ β) (first second : List (κ × β)) :
    putAll same entries (first ++ second) = putAll same (putAll same entries first) second :=
  List.foldl_append

variable [BEq κ] [LawfulBEq κ] {key k : κ} {value v w : β} {entries : Entries κ β}
  {entry : κ × β}

theorem put_cons_same (key : κ) (value w : β) (rest : Entries κ β) :
    put (· == ·) key value ((key, w) :: rest) = (key, value) :: rest := by
  simp [put]

theorem put_cons_of_ne (h : k ≠ key) (value w : β) (rest : Entries κ β) :
    put (· == ·) key value ((k, w) :: rest) = (k, w) :: put (· == ·) key value rest := by
  simp [put, h]

theorem mem_put (h : entry ∈ put (· == ·) key value entries) :
    entry ∈ entries ∨ entry = (key, value) := by
  induction entries with
  | nil => exact .inr (List.mem_singleton.mp h)
  | cons first rest ih =>
      obtain ⟨k, v⟩ := first
      by_cases hsame : k = key
      · subst hsame
        rw [put_cons_same] at h
        exact (List.mem_cons.mp h).symm.imp_left (List.mem_cons_of_mem _)
      · rw [put_cons_of_ne hsame] at h
        obtain rfl | hrest := List.mem_cons.mp h
        · exact .inl List.mem_cons_self
        · exact (ih hrest).imp_left (List.mem_cons_of_mem _)

theorem mem_putAll {more : List (κ × β)} (h : entry ∈ putAll (· == ·) entries more) :
    entry ∈ entries ∨ entry ∈ more := by
  induction more generalizing entries with
  | nil => exact .inl h
  | cons first rest ih =>
      obtain h | h := ih h
      · exact (mem_put h).imp_right fun heq => by rw [heq]; exact List.mem_cons_self
      · exact .inr (List.mem_cons_of_mem first h)

/-! ### Keys -/

theorem find?_eq_none_iff : entries.find? (· == ·) key = none ↔ key ∉ entries.map Prod.fst := by
  rw [find?, Option.map_eq_none_iff, List.find?_eq_none, List.mem_map, not_exists]
  refine forall_congr' fun entry => ?_
  rw [not_and, beq_iff_eq]

theorem mem_keys_put :
    k ∈ (put (· == ·) key value entries).map Prod.fst ↔ k ∈ entries.map Prod.fst ∨ k = key := by
  rw [map_fst_put]
  split
  · rename_i h
    obtain ⟨entry, hentry, hsame⟩ := List.any_eq_true.mp h
    have hkey : key ∈ entries.map Prod.fst := eq_of_beq hsame ▸ List.mem_map_of_mem hentry
    exact ⟨.inl, fun h => h.elim id fun heq => heq ▸ hkey⟩
  · rw [List.mem_append, List.mem_singleton]

theorem mem_keys_putAll {more : List (κ × β)} :
    k ∈ (putAll (· == ·) entries more).map Prod.fst ↔
      k ∈ entries.map Prod.fst ∨ k ∈ more.map Prod.fst := by
  induction more generalizing entries with
  | nil => simp [putAll]
  | cons first rest ih =>
      have hfirst : k ∈ (put (· == ·) first.1 first.2 entries).map Prod.fst ↔ _ := mem_keys_put
      rw [List.map_cons, List.mem_cons, ← or_assoc, ← hfirst]
      exact ih

theorem nodup_put (h : (entries.map Prod.fst).Nodup) :
    ((put (· == ·) key value entries).map Prod.fst).Nodup := by
  rw [map_fst_put]
  split
  · exact h
  · rename_i hnew
    refine List.nodup_append.mpr ⟨h, List.nodup_singleton key, ?_⟩
    rintro k hk _ hkey rfl
    obtain ⟨entry, hentry, rfl⟩ := List.mem_map.mp hk
    have hsame : (entry.1 == key) = true := beq_iff_eq.mpr (List.mem_singleton.mp hkey)
    exact hnew (List.any_eq_true.mpr ⟨entry, hentry, hsame⟩)

theorem nodup_putAll {more : List (κ × β)} (h : (entries.map Prod.fst).Nodup) :
    ((putAll (· == ·) entries more).map Prod.fst).Nodup := by
  induction more generalizing entries with
  | nil => exact h
  | cons first rest ih => exact ih (nodup_put h)

/-- Among distinct keys what is found under a key is what stands there. -/
theorem find?_eq_some_iff (h : (entries.map Prod.fst).Nodup) :
    entries.find? (· == ·) key = some v ↔ (key, v) ∈ entries := by
  induction entries with
  | nil => simp [find?]
  | cons first rest ih =>
      obtain ⟨k, w⟩ := first
      obtain ⟨hfirst, hrest⟩ := List.nodup_cons.mp h
      rw [List.mem_cons, Prod.mk.injEq]
      by_cases hsame : k = key
      · subst hsame
        have hnot : (k, v) ∉ rest := fun hmem => hfirst (List.mem_map.mpr ⟨(k, v), hmem, rfl⟩)
        simp [find?, hnot, eq_comm]
      · have hfound : find? (· == ·) key ((k, w) :: rest) = find? (· == ·) key rest := by
          simp [find?, hsame]
        rw [hfound, ih hrest]
        simp [Ne.symm hsame]

/-- Among distinct keys the order does not matter for what is found. -/
theorem find?_perm {others : Entries κ β} (h : (entries.map Prod.fst).Nodup)
    (hperm : others.Perm entries) (key : κ) :
    others.find? (· == ·) key = entries.find? (· == ·) key := by
  have hothers : (others.map Prod.fst).Nodup := (hperm.map Prod.fst).nodup_iff.mpr h
  ext v
  rw [find?_eq_some_iff h, find?_eq_some_iff hothers, hperm.mem_iff]

/-- Among distinct keys a write replaces what was under its key. -/
theorem mem_put_iff (h : (entries.map Prod.fst).Nodup) :
    entry ∈ put (· == ·) key value entries ↔
      entry = (key, value) ∨ entry ∈ entries ∧ entry.1 ≠ key := by
  induction entries with
  | nil => simp [put]
  | cons first rest ih =>
      obtain ⟨k, v⟩ := first
      obtain ⟨hfirst, hrest⟩ := List.nodup_cons.mp h
      by_cases hsame : k = key
      · subst hsame
        have hother : entry ∈ rest → entry.1 ≠ k := fun hentry heq =>
          hfirst (List.mem_map.mpr ⟨entry, hentry, heq⟩)
        rw [put_cons_same, List.mem_cons, List.mem_cons]
        grind
      · rw [put_cons_of_ne hsame, List.mem_cons, List.mem_cons, ih hrest]
        grind

/-- The writes whose key no later one has. -/
def standing : List (κ × β) → List (κ × β)
  | [] => []
  | first :: rest =>
      if rest.any (fun entry => entry.1 == first.1) then standing rest else first :: standing rest

omit [LawfulBEq κ] in
theorem mem_of_mem_standing {writes : List (κ × β)} (h : entry ∈ standing writes) :
    entry ∈ writes := by
  induction writes with
  | nil => cases h
  | cons first rest ih =>
      rw [standing] at h
      split at h
      · exact List.mem_cons_of_mem first (ih h)
      · exact List.mem_cons.mpr ((List.mem_cons.mp h).imp_right ih)

/-- After all writes the standing ones are there, and what none of them replaced. -/
theorem mem_putAll_iff {writes : List (κ × β)} (h : (entries.map Prod.fst).Nodup) :
    entry ∈ putAll (· == ·) entries writes ↔
      entry ∈ standing writes ∨ entry ∈ entries ∧ entry.1 ∉ writes.map Prod.fst := by
  induction writes generalizing entries with
  | nil => simp [putAll, standing]
  | cons first rest ih =>
      have hlater : (rest.any fun entry => entry.1 == first.1) = true ↔
          first.1 ∈ rest.map Prod.fst := by simp
      have hrest : entry ∈ putAll (· == ·) entries (first :: rest) ↔ _ := ih (nodup_put h)
      rw [hrest, mem_put_iff h, standing, List.map_cons, List.mem_cons]
      by_cases hfirst : first.1 ∈ rest.map Prod.fst
      · rw [if_pos (hlater.mpr hfirst)]
        grind
      · rw [if_neg (mt hlater.mp hfirst), List.mem_cons]
        grind

theorem put_of_notMem (h : key ∉ entries.map Prod.fst) (value : β) :
    put (· == ·) key value entries = entries ++ [(key, value)] := by
  induction entries with
  | nil => rfl
  | cons first rest ih =>
      obtain ⟨hfirst, hrest⟩ := not_or.mp (mt List.mem_cons.mpr h)
      rw [put_cons_of_ne (Ne.symm hfirst), ih hrest]
      rfl

/-- Entries with distinct keys are a mapping as they stand. -/
theorem putAll_nil_of_nodup (h : (entries.map Prod.fst).Nodup) :
    putAll (· == ·) [] entries = entries := by
  induction entries using List.reverseRecOn with
  | nil => rfl
  | append_singleton entries last ih =>
      rw [List.map_append, List.nodup_append] at h
      obtain ⟨hdistinct, -, hnew⟩ := h
      have hlast : last.1 ∉ entries.map Prod.fst := fun hmem =>
        hnew last.1 hmem last.1 (List.mem_singleton_self _) rfl
      rw [putAll_append, ih hdistinct]
      exact put_of_notMem hlast last.2

/-! ### Writes on top of each other -/

theorem put_put (key : κ) (v w : β) (entries : Entries κ β) :
    put (· == ·) key v (put (· == ·) key w entries) = put (· == ·) key v entries := by
  induction entries with
  | nil => exact put_cons_same key v w []
  | cons first rest ih =>
      obtain ⟨k, u⟩ := first
      by_cases hsame : k = key
      · subst hsame
        rw [put_cons_same, put_cons_same, put_cons_same]
      · rw [put_cons_of_ne hsame, put_cons_of_ne hsame, put_cons_of_ne hsame, ih]

/-- The key that is written last has its place already, so the other write does not move it. -/
theorem put_comm (hkey : key ∈ entries.map Prod.fst) (hne : k ≠ key) (v w : β) :
    put (· == ·) key v (put (· == ·) k w entries) =
      put (· == ·) k w (put (· == ·) key v entries) := by
  induction entries with
  | nil => cases hkey
  | cons first rest ih =>
      obtain ⟨j, u⟩ := first
      by_cases hj : j = key
      · subst hj
        rw [put_cons_of_ne hne.symm, put_cons_same, put_cons_same, put_cons_of_ne hne.symm]
      · rw [put_cons_of_ne hj]
        by_cases hk : j = k
        · subst hk
          rw [put_cons_same, put_cons_same, put_cons_of_ne hj]
        · have hrest : key ∈ rest.map Prod.fst := (List.mem_cons.mp hkey).resolve_left (Ne.symm hj)
          rw [put_cons_of_ne hk, put_cons_of_ne hj, put_cons_of_ne hk, ih hrest]

/-- A key that is there can be written before or after others. -/
theorem put_putAll {more : List (κ × β)} (hkey : key ∈ entries.map Prod.fst)
    (hother : key ∉ more.map Prod.fst) (v : β) :
    put (· == ·) key v (putAll (· == ·) entries more) =
      putAll (· == ·) (put (· == ·) key v entries) more := by
  induction more generalizing entries with
  | nil => rfl
  | cons first rest ih =>
      obtain ⟨hfirst, hrest⟩ := not_or.mp (mt List.mem_cons.mpr hother)
      calc put (· == ·) key v (putAll (· == ·) (put (· == ·) first.1 first.2 entries) rest)
          = putAll (· == ·) (put (· == ·) key v (put (· == ·) first.1 first.2 entries)) rest :=
            ih (mem_keys_put.mpr (.inl hkey)) hrest
        _ = putAll (· == ·) (put (· == ·) first.1 first.2 (put (· == ·) key v entries)) rest := by
            rw [put_comm hkey (Ne.symm hfirst)]

/-- To write entries among which a key was written last is to write that key last. -/
theorem putAll_put {more : Entries κ β} (h : (more.map Prod.fst).Nodup) (key : κ) (v : β)
    (entries : Entries κ β) :
    putAll (· == ·) entries (put (· == ·) key v more) =
      put (· == ·) key v (putAll (· == ·) entries more) := by
  induction more generalizing entries with
  | nil => rfl
  | cons first rest ih =>
      obtain ⟨k, w⟩ := first
      obtain ⟨hfirst, hrest⟩ := List.nodup_cons.mp h
      by_cases hsame : k = key
      · subst hsame
        rw [put_cons_same]
        calc putAll (· == ·) (put (· == ·) k v entries) rest
            = putAll (· == ·) (put (· == ·) k v (put (· == ·) k w entries)) rest := by
              rw [put_put]
          _ = put (· == ·) k v (putAll (· == ·) (put (· == ·) k w entries) rest) :=
              (put_putAll (mem_keys_put.mpr (.inr rfl)) hfirst v).symm
      · rw [put_cons_of_ne hsame]
        exact ih hrest (put (· == ·) k w entries)

/-- Entries that are collected in a mapping of their own first are written as if one by one. -/
theorem putAll_putAll_nil (entries : Entries κ β) (more : List (κ × β)) :
    putAll (· == ·) entries (putAll (· == ·) [] more) = putAll (· == ·) entries more := by
  induction more using List.reverseRecOn with
  | nil => rfl
  | append_singleton more last ih =>
      have hdistinct : ((putAll (· == ·) [] more).map Prod.fst).Nodup :=
        nodup_putAll List.nodup_nil
      rw [putAll_append, putAll_append, ← ih]
      exact putAll_put hdistinct last.1 last.2 entries

end Mailroom.Entries
