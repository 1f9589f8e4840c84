import Mathlib.Computability.Language
import Mailroom.Text.Pattern

/-!
The texts of a pattern, as a language. However a pattern is tried at the start of a text, it takes
one of its words, and every word that stands there can be taken. So a text fits just if it is a
word, or a word and a line feed.
-/

namespace Mailroom.Text.Pattern

open scoped Computability

/-- The words of a pattern. -/
def words : Pattern → Language Char
  | nothing => 1
  | one test => {w | ∃ c, test c = true ∧ w = [c]}
  | followedBy p q => p.words * q.words
  | either p q => p.words + q.words
  | many p => p.words∗

variable {p q : Pattern} {test : Char → Bool} {s r w : List Char}

/-! ### What is left over -/

theorem mem_rounds_iff {round : List Char → List (List Char)} {l : Language Char}
    (hround : ∀ s r, r ∈ round s ↔ ∃ w ∈ l, s = w ++ r) {n : Nat} :
    r ∈ rounds round n s ↔ ∃ taken : List (List Char), taken.length ≤ n ∧ (∀ w ∈ taken, w ∈ l) ∧
      s = taken.flatten ++ r := by
  induction n generalizing s with
  | zero =>
      rw [rounds, List.mem_singleton]
      constructor
      · rintro rfl
        exact ⟨[], Nat.le_refl 0, List.forall_mem_nil _, rfl⟩
      · rintro ⟨taken, hlength, -, rfl⟩
        rw [List.length_eq_zero_iff.mp (Nat.le_zero.mp hlength)]
        rfl
  | succ n ih =>
      rw [rounds, List.mem_append, List.mem_flatMap, List.mem_singleton]
      constructor
      · rintro (⟨rest, hfirst, hmore⟩ | rfl)
        · obtain ⟨w, hw, rfl⟩ := (hround s rest).mp hfirst
          obtain ⟨taken, hlength, htaken, rfl⟩ := ih.mp hmore
          refine ⟨w :: taken, Nat.succ_le_succ hlength, List.forall_mem_cons.mpr ⟨hw, htaken⟩, ?_⟩
          rw [List.flatten_cons, List.append_assoc]
        · exact ⟨[], Nat.zero_le _, List.forall_mem_nil _, rfl⟩
      · rintro ⟨taken, hlength, htaken, rfl⟩
        cases taken with
        | nil => exact .inr rfl
        | cons w more =>
            obtain ⟨hw, hmore⟩ := List.forall_mem_cons.mp htaken
            refine .inl ⟨more.flatten ++ r, (hround _ _).mpr ⟨w, hw, ?_⟩, ?_⟩
            · rw [List.flatten_cons, List.append_assoc]
            · exact ih.mpr ⟨more, Nat.le_of_succ_le_succ hlength, hmore, rfl⟩

theorem length_le_length_flatten {pieces : List (List Char)} (h : ∀ w ∈ pieces, w ≠ []) :
    pieces.length ≤ pieces.flatten.length := by
  induction pieces with
  | nil => exact Nat.le_refl 0
  | cons w rest ih =>
      obtain ⟨hw, hrest⟩ := List.forall_mem_cons.mp h
      rw [List.flatten_cons, List.length_append, List.length_cons, Nat.add_comm]
      exact Nat.add_le_add (List.length_pos_iff.mpr hw) (ih hrest)

/-- A pattern takes its words and leaves over what stands behind them. -/
theorem mem_rests_iff : r ∈ p.rests s ↔ ∃ w ∈ p.words, s = w ++ r := by
  induction p generalizing s r with
  | nothing =>
      rw [rests, List.mem_singleton, words]
      constructor
      · rintro rfl
        exact ⟨[], Language.nil_mem_one, rfl⟩
      · rintro ⟨w, hw, rfl⟩
        rw [(Language.mem_one w).mp hw, List.nil_append]
  | one test =>
      cases s with
      | nil =>
          refine iff_of_false List.not_mem_nil ?_
          rintro ⟨w, ⟨c, -, rfl⟩, hs⟩
          cases hs
      | cons c rest =>
          rw [rests]
          constructor
          · intro h
            split at h
            · rename_i hc
              exact ⟨[c], ⟨c, hc, rfl⟩, by rw [List.mem_singleton.mp h]; rfl⟩
            · cases h
          · rintro ⟨w, ⟨d, hd, rfl⟩, hs⟩
            obtain ⟨rfl, rfl⟩ := List.cons.inj hs
            rw [if_pos hd]
            exact List.mem_singleton_self _
  | followedBy p q ihp ihq =>
      rw [rests, List.mem_flatMap, words]
      constructor
      · rintro ⟨middle, hfirst, hsecond⟩
        obtain ⟨u, hu, rfl⟩ := ihp.mp hfirst
        obtain ⟨v, hv, rfl⟩ := ihq.mp hsecond
        exact ⟨u ++ v, Language.append_mem_mul hu hv, (List.append_assoc u v r).symm⟩
      · rintro ⟨w, hw, rfl⟩
        obtain ⟨u, hu, v, hv, rfl⟩ := Language.mem_mul.mp hw
        exact ⟨v ++ r, ihp.mpr ⟨u, hu, List.append_assoc u v r⟩, ihq.mpr ⟨v, hv, rfl⟩⟩
  | either p q ihp ihq =>
      rw [rests, List.mem_append, ihp, ihq, words]
      simp only [Language.mem_add, or_and_right, exists_or]
  | many p ih =>
      rw [rests, mem_rounds_iff fun s r => ih, words]
      constructor
      · rintro ⟨taken, -, htaken, rfl⟩
        exact ⟨taken.flatten, Language.join_mem_kstar htaken, rfl⟩
      · rintro ⟨w, hw, rfl⟩
        -- Without its empty rounds a word takes no more of them than it has characters.
        obtain ⟨taken, rfl, htaken⟩ := Language.mem_kstar_iff_exists_nonempty.mp hw
        have hlength := length_le_length_flatten fun w hw => (htaken w hw).2
        refine ⟨taken, ?_, fun w hw => (htaken w hw).1, rfl⟩
        rw [List.length_append]
        exact Nat.le_add_right_of_le hlength

/-- A text that fits is a word, or a word before a last line feed. -/
theorem fits_iff : p.fits s = true ↔ s ∈ p.words ∨ ∃ w ∈ p.words, s = w ++ ['\n'] := by
  have hend (rest : List Char) : isEnd rest = true ↔ rest = [] ∨ rest = ['\n'] := by
    simp [isEnd]
  simp only [fits, List.any_eq_true, hend, mem_rests_iff]
  constructor
  · rintro ⟨rest, ⟨w, hw, rfl⟩, rfl | rfl⟩
    · exact .inl (by rwa [List.append_nil])
    · exact .inr ⟨w, hw, rfl⟩
  · rintro (hs | ⟨w, hw, rfl⟩)
    · exact ⟨[], ⟨s, hs, (List.append_nil s).symm⟩, .inl rfl⟩
    · exact ⟨['\n'], ⟨w, hw, rfl⟩, .inr rfl⟩

/-! ### Words -/

theorem mem_words_one : w ∈ (one test).words ↔ ∃ c, test c = true ∧ w = [c] := Iff.rfl

theorem mem_words_character {c : Char} : w ∈ (character c).words ↔ w = [c] := by
  rw [character, mem_words_one]
  simp only [beq_iff_eq, exists_eq_left]

theorem mem_words_followedBy :
    w ∈ (followedBy p q).words ↔ ∃ u ∈ p.words, ∃ v ∈ q.words, u ++ v = w :=
  Language.mem_mul

theorem mem_words_either : w ∈ (either p q).words ↔ w ∈ p.words ∨ w ∈ q.words :=
  Language.mem_add p.words q.words w

theorem mem_words_optional : w ∈ (optional p).words ↔ w ∈ p.words ∨ w = [] := by
  rw [optional, mem_words_either, words, Language.mem_one]

/-- If each round takes a text for some item, many rounds take the texts of many items. -/
theorem mem_words_many {β : Type} {f : β → List Char} {P : β → Prop}
    (hp : ∀ u, u ∈ p.words ↔ ∃ b, P b ∧ u = f b) :
    w ∈ (many p).words ↔ ∃ items : List β, (∀ b ∈ items, P b) ∧ w = items.flatMap f := by
  constructor
  · intro h
    obtain ⟨taken, rfl, htaken⟩ := Language.mem_kstar.mp h
    clear h
    induction taken with
    | nil => exact ⟨[], List.forall_mem_nil _, rfl⟩
    | cons u rest ih =>
        obtain ⟨hu, hrest⟩ := List.forall_mem_cons.mp htaken
        obtain ⟨b, hb, rfl⟩ := (hp u).mp hu
        obtain ⟨items, hitems, hflat⟩ := ih hrest
        refine ⟨b :: items, List.forall_mem_cons.mpr ⟨hb, hitems⟩, ?_⟩
        rw [List.flatten_cons, hflat, List.flatMap_cons]
  · rintro ⟨items, hitems, rfl⟩
    refine Language.mem_kstar.mpr ⟨items.map f, List.flatMap_def, fun u hu => ?_⟩
    obtain ⟨b, hb, rfl⟩ := List.mem_map.mp hu
    exact (hp _).mpr ⟨b, hitems b hb, rfl⟩

theorem mem_words_many_one : w ∈ (many (one test)).words ↔ ∀ c ∈ w, test c = true := by
  rw [mem_words_many fun u => mem_words_one]
  constructor
  · rintro ⟨items, hitems, rfl⟩
    rwa [List.flatMap_singleton']
  · exact fun h => ⟨w, h, (List.flatMap_singleton' w).symm⟩

theorem mem_words_some_one :
    w ∈ (some (one test)).words ↔ w ≠ [] ∧ ∀ c ∈ w, test c = true := by
  rw [some, mem_words_followedBy]
  constructor
  · rintro ⟨-, ⟨c, hc, rfl⟩, rest, hrest, rfl⟩
    exact ⟨nofun, List.forall_mem_cons.mpr ⟨hc, mem_words_many_one.mp hrest⟩⟩
  · rintro ⟨hsome, h⟩
    obtain ⟨c, rest, rfl⟩ := List.exists_cons_of_ne_nil hsome
    obtain ⟨hc, hrest⟩ := List.forall_mem_cons.mp h
    exact ⟨[c], ⟨c, hc, rfl⟩, rest, mem_words_many_one.mpr hrest, rfl⟩

end Mailroom.Text.Pattern
