import Mathlib.Data.List.Induction
import Mailroom.Proofs.Wire.FoldedLines

/-!
Folding one line of a value after another. Encoded words always come behind a blank. A plain line
after the first is cut into lines that begin with a blank if it does so itself; if it does not, then
it begins a line of the field, unless it is empty or all of it is added to the line before.
-/

namespace Mailroom.Wire

def BeginsPlain (s : List Char) : Prop := ∃ c rest, s = c :: rest ∧ isFoldingBlank c = false

theorem eq_nil_or_begins (s : List Char) : s = [] ∨ BeginsBlank s ∨ BeginsPlain s := by
  cases s with
  | nil => exact .inl rfl
  | cons c rest =>
      cases hc : isFoldingBlank c with
      | true => exact .inr (.inl ⟨c, rest, rfl, hc⟩)
      | false => exact .inr (.inr ⟨c, rest, rfl, hc⟩)

theorem BeginsBlank.not_beginsPlain {s : List Char} (h : BeginsBlank s) : ¬BeginsPlain s := by
  rintro ⟨d, more, hs, hd⟩
  obtain ⟨c, rest, rfl, hc⟩ := h
  obtain ⟨rfl, -⟩ := List.cons.inj hs
  rw [hc] at hd
  cases hd

theorem extends_begins (blank : Bool) :
    Fold.Extends fun s => ∃ c rest, s = c :: rest ∧ isFoldingBlank c = blank := by
  rintro s t ⟨c, rest, rfl, hc⟩
  exact ⟨c, rest ++ t, rfl, hc⟩

theorem extends_beginsBlank : Fold.Extends BeginsBlank := extends_begins true

theorem extends_beginsPlain : Fold.Extends BeginsPlain := extends_begins false

theorem extends_ne_nil : Fold.Extends (· ≠ []) := by
  intro s t hs
  simp [hs]

theorem Part.IsProper.beginsBlank_moved {part : Part} (h : part.IsProper) :
    BeginsBlank part.moved.text := by
  obtain ⟨blanks, word⟩ := part
  cases blanks with
  | nil => exact ⟨' ', word, rfl, rfl⟩
  | cons c more => exact ⟨c, more ++ word, rfl, h.blanks c List.mem_cons_self⟩

namespace Fold

variable {Q : List Char → Prop} {f : Fold}

def addAll (f : Fold) (ps : List Part) : Fold := ps.foldl (fun f part => f.add part) f

theorem addAll_concat (ps : List Part) (p : Part) :
    f.addAll (ps ++ [p]) = (f.addAll ps).add p := by simp [addAll]

theorem Tidy.addAll (hQ : Extends Q) {ps : List Part} (h : f.Tidy Q)
    (hfirst : f.done ≠ [] ∨ f.line.parts ≠ [] → ∀ p ∈ ps.head?, Q p.text)
    (htail : ∀ p ∈ ps.tail, Q p.text) (hmoved : ∀ p ∈ ps, Q p.moved.text) :
    (f.addAll ps).Tidy Q := by
  induction ps generalizing f with
  | nil => exact h
  | cons p rest ih =>
      have hadded := h.add hQ (fun hf => hfirst hf p rfl) (hmoved p List.mem_cons_self)
      refine ih hadded (fun _ q hq => htail q ?_) (fun q hq => htail q ?_) ?_
      · exact List.mem_of_mem_head? hq
      · exact List.mem_of_mem_tail hq
      · exact fun q hq => hmoved q (List.mem_cons_of_mem p hq)

theorem Tidy.addEncoded {blanks : List Char} (h : f.Tidy BeginsBlank)
    (hblanks : f.done ≠ [] ∨ f.line.parts ≠ [] → BeginsBlank blanks)
    (hspace : ∀ c ∈ blanks, isFoldingBlank c = true) (s : List Char) :
    (f.addEncoded blanks s).Tidy BeginsBlank := by
  unfold Fold.addEncoded
  extract_lets code words g
  have hg : g.Tidy BeginsBlank := by
    unfold g
    split
    · rename_i word hword
      refine h.add extends_beginsBlank (fun hf => extends_beginsBlank _ _ (hblanks hf)) ?_
      cases blanks with
      | nil => exact ⟨' ', word, rfl, rfl⟩
      | cons c more => exact ⟨c, more ++ word, rfl, hspace c List.mem_cons_self⟩
    · exact h
  clear_value g
  split
  · exact hg
  · rename_i ended _ last middle _
    have hend : ended.Tidy BeginsBlank := hg.endLine extends_beginsBlank
    obtain ⟨hline, hdone⟩ : ended.IsClosed := isClosed_endLine hg.lead
    clear_value ended
    have hpart : BeginsBlank ([' '] ++ last.getD []) := ⟨' ', last.getD [], rfl, rfl⟩
    refine ⟨by simp [hdone, hline, Line.push, Line.fresh], ?_, ?_, ?_⟩
    · intro line hmem
      rw [List.dropLast_append_of_ne_nil hdone] at hmem
      rcases List.mem_append.mp hmem with hmem | hmem
      · obtain ⟨word, -, rfl⟩ := List.mem_map.mp hmem
        exact ⟨' ', word.getD [], rfl, rfl⟩
      · exact hend.done line hmem
    · simp [hline, Line.push, Line.fresh]
    · intro _ p hp
      obtain rfl : p = ([' '], last.getD []) := by simpa [hline, Line.push, Line.fresh] using hp
      exact hpart

theorem mem_letters_addAll {c : Char} {ps : List Part} (h : c ∈ (f.addAll ps).letters) :
    c ∈ f.letters ∨ (∃ p ∈ ps, c ∈ p.text) ∨ c = ' ' := by
  induction ps generalizing f with
  | nil => exact .inl h
  | cons p rest ih =>
      rcases ih h with h | ⟨q, hq, hc⟩ | hc
      · rcases mem_letters_add h with h | hc | hc
        · exact .inl h
        · exact .inr (.inl ⟨p, List.mem_cons_self, hc⟩)
        · exact .inr (.inr hc)
      · exact .inr (.inl ⟨q, List.mem_cons_of_mem p hq, hc⟩)
      · exact .inr (.inr hc)

theorem mem_letters_addEncoded {c : Char} {blanks s : List Char}
    (h : c ∈ (f.addEncoded blanks s).letters) : c ∈ f.letters ∨ c ∈ blanks ∨ IsPrintable c := by
  unfold Fold.addEncoded at h
  extract_lets code words g at h
  have hspace : IsPrintable ' ' := by decide
  have hwords : ∀ word ∈ words, ∀ c ∈ word.getD [], IsPrintable c := isPrintable_of_mem_encodedWords
  have hg : c ∈ g.letters → c ∈ f.letters ∨ c ∈ blanks ∨ IsPrintable c := by
    unfold g
    split
    · rename_i word hword
      intro hmem
      rcases mem_letters_add hmem with hmem | hmem | rfl
      · exact .inl hmem
      · refine .inr ((List.mem_append.mp hmem).imp_right fun hmem => ?_)
        exact hwords _ (List.mem_of_mem_head? hword) c hmem
      · exact .inr (.inr hspace)
    · exact .inl
  clear_value g
  split at h
  · exact hg h
  · rename_i ended _ last middle hlast
    have hlater : ∀ word ∈ last :: middle, ∀ c ∈ word.getD [], IsPrintable c := by
      intro word hword
      rw [← hlast, List.mem_reverse] at hword
      exact hwords word (List.mem_of_mem_drop hword)
    obtain ⟨hlast, hmiddle⟩ := List.forall_mem_cons.mp hlater
    simp only [letters, List.flatten_append, List.mem_append, Line.text_push, Part.text] at h
    rcases h with (h | h) | h | h | h
    · obtain ⟨line, hline, hc⟩ := List.mem_flatten.mp h
      obtain ⟨word, hword, rfl⟩ := List.mem_map.mp hline
      rcases List.mem_cons.mp hc with rfl | hc
      · exact .inr (.inr hspace)
      · exact .inr (.inr (hmiddle word hword c hc))
    · exact hg (mem_letters_endLine (List.mem_append_left _ h))
    · exact hg (mem_letters_endLine (List.mem_append_right _ h))
    · obtain rfl := List.mem_singleton.mp h
      exact .inr (.inr hspace)
    · exact .inr (.inr (hlast c h))

theorem IsClosed.eq (h : f.IsClosed) : f = ⟨f.done, ⟨0, []⟩⟩ := by
  obtain ⟨done, line⟩ := f
  obtain rfl : line = .fresh := h.line
  rfl

/-- Words that leave room on a line of their own, and a single word, stay on one line. -/
theorem IsClosed.addAll_of_width (h : f.IsClosed) {ps : List Part}
    (hwidth : (⟨0, ps⟩ : Line).width ≤ lineWidth) : f.addAll ps = ⟨f.done, ⟨0, ps⟩⟩ := by
  induction ps using List.reverseRecOn with
  | nil => exact h.eq
  | append_singleton ps p ih =>
      have hless : (⟨0, ps⟩ : Line).width ≤ lineWidth := by
        refine Nat.le_trans ?_ hwidth
        simp [Line.width, Line.text]
      rw [addAll_concat, ih hless]
      exact if_pos hwidth

theorem IsClosed.addAll_singleton (h : f.IsClosed) (p : Part) :
    f.addAll [p] = ⟨f.done, ⟨0, [p]⟩⟩ := by
  have hadd : f.addAll [p] = f.add p := rfl
  have hpush : f.line.push p = ⟨0, [p]⟩ := by rw [h.line]; rfl
  rcases f.add_cases p with ⟨heq, -⟩ | ⟨before, after, hsplit, -⟩ | ⟨hlead, -⟩
  · rw [hadd, heq, hpush]
  · rw [hpush] at hsplit
    cases hsplit
  · rw [h.line] at hlead
    exact absurd hlead (by decide)

/-- A line after the first begins with neither a space nor a tab. -/
def IsBroken (f : Fold) : Prop := ∃ line ∈ f.done.dropLast, BeginsPlain line

theorem Tidy.not_isBroken (h : f.Tidy BeginsBlank) : ¬f.IsBroken := by
  rintro ⟨line, hline, hplain⟩
  exact (h.done line hline).not_beginsPlain hplain

theorem isBroken_push {line : List Char} (h : f.IsBroken) (l : Line) :
    IsBroken ⟨line :: f.done, l⟩ := by
  obtain ⟨broken, hmem, hplain⟩ := h
  refine ⟨broken, ?_, hplain⟩
  have hdone : f.done ≠ [] := by
    rintro hnil
    simp [hnil] at hmem
  rw [List.dropLast_cons_of_ne_nil hdone]
  exact List.mem_cons_of_mem line hmem

theorem IsBroken.endLine (h : f.IsBroken) : f.endLine.IsBroken := by
  rcases f.endLine_cases with ⟨-, hend⟩ | ⟨last, rest, hdone, -, hend⟩ | ⟨-, -, hend⟩
  · rw [hend]
    exact h
  · obtain ⟨broken, hmem, hplain⟩ := h
    rw [hdone] at hmem
    rw [hend]
    cases rest with
    | nil => simp at hmem
    | cons next more =>
        rcases List.mem_cons.mp hmem with rfl | hmem
        · exact ⟨_, List.mem_cons_self, extends_beginsPlain _ _ hplain⟩
        · exact ⟨broken, List.mem_cons_of_mem _ hmem, hplain⟩
  · rw [hend]
    exact isBroken_push h _

theorem IsBroken.add (h : f.IsBroken) (part : Part) : (f.add part).IsBroken := by
  rcases f.add_cases part with ⟨hadd, -⟩ | ⟨before, after, -, hadd⟩ | ⟨-, hadd⟩
  · rw [hadd]
    exact h
  · rw [hadd]
    exact isBroken_push h _
  · rw [hadd]
    exact h.endLine

theorem IsBroken.addAll {ps : List Part} (h : f.IsBroken) : (f.addAll ps).IsBroken := by
  induction ps generalizing f with
  | nil => exact h
  | cons p rest ih => exact ih (h.add p)

/-- Words that begin a line with neither a space nor a tab stay uncut, or the cut leaves such a
line. -/
theorem IsClosed.addAll_of_beginsPlain (h : f.IsClosed) {ps : List Part}
    (hplain : ∀ p ∈ ps.head?, BeginsPlain p.text) :
    (f.addAll ps = ⟨f.done, ⟨0, ps⟩⟩ ∧
      ((⟨0, ps⟩ : Line).width ≤ lineWidth ∨ (⟨0, ps⟩ : Line).split? = none)) ∨
    (f.addAll ps).IsBroken := by
  induction ps using List.reverseRecOn with
  | nil => exact .inl ⟨h.eq, .inl (by decide)⟩
  | append_singleton ps p ih =>
      have hfirst : ∀ q ∈ ps.head?, BeginsPlain q.text := by
        intro q hq
        refine hplain q ?_
        rw [List.head?_append, hq]
        rfl
      rw [addAll_concat]
      rcases ih hfirst with ⟨heq, -⟩ | hbroken
      · rw [heq]
        rcases add_cases p ⟨f.done, ⟨0, ps⟩⟩ with
          ⟨hadd, huncut⟩ | ⟨before, after, hsplit, hadd⟩ | ⟨hlead, -⟩
        · exact .inl ⟨hadd, huncut⟩
        · obtain ⟨hparts, hbefore, -⟩ := Line.split?_spec hsplit
          have hwhole : ps ++ [p] = before ++ after := hparts
          obtain ⟨first, more, rfl⟩ := List.exists_cons_of_ne_nil hbefore
          have hbegins := hplain first (by simp [hwhole])
          refine .inr ⟨(⟨0, first :: more⟩ : Line).text, ?_, extends_beginsPlain _ _ hbegins⟩
          rw [hadd, List.dropLast_cons_of_ne_nil h.done]
          exact List.mem_cons_self
        · exact absurd hlead (Nat.lt_irrefl 0)
      · exact .inr (hbroken.add p)

end Fold

end Mailroom.Wire
