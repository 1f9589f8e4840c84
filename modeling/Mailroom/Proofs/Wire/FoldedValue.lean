import Mailroom.Proofs.Wire.ValueLines

/-!
The lines into which a whole value is folded. Those after the first begin with a blank just if the
value is not plain ASCII or each of its own lines after the first stays in its field.
-/

namespace Mailroom.Wire

/-- A line of a value after the first does not get to begin a line of the header block: it is empty,
begins with a blank itself, or is all blank and stays uncut, so that it ends the line before. -/
def StaysInField (s : List Char) : Prop :=
  s = [] ∨ BeginsBlank s ∨
    Text.allBlank s = true ∧ (s.length ≤ lineWidth ∨ ∀ c ∈ s, isFoldingBlank c = false)

/-- ASCII, and no end of a line. -/
def StaysOnLine (c : Char) : Prop := c.toNat < 128 ∧ c ≠ '\n'

theorem IsPrintable.staysOnLine {c : Char} (h : IsPrintable c) : StaysOnLine c :=
  ⟨Nat.lt_succ_of_lt h.2, h.ne⟩

theorem staysOnLine_of_mem_lines {value line : List Char} (hascii : Text.isAscii value = true)
    (hline : line ∈ Text.lines value) {c : Char} (hc : c ∈ line) : StaysOnLine c := by
  refine ⟨of_decide_eq_true (List.all_eq_true.mp hascii c (Text.mem_of_mem_lines hline c hc)), ?_⟩
  rintro rfl
  exact Text.not_mem_of_mem_lines hline hc

theorem parts_of_word {s : List Char} (hne : s ≠ []) (h : ∀ c ∈ s, isFoldingBlank c = false) :
    parts s = [([], s)] := by
  induction s with
  | nil => exact absurd rfl hne
  | cons c rest ih =>
      have hc := h c List.mem_cons_self
      cases rest with
      | nil => simp [parts, hc]
      | cons d more =>
          have ih := ih (by simp) fun e he => h e (List.mem_cons_of_mem c he)
          rw [parts, ih]
          simp [hc]

/-- The first part of a line begins as the line does. -/
theorem begins_head_parts {s : List Char} {blank : Bool}
    (h : ∃ c rest, s = c :: rest ∧ isFoldingBlank c = blank) :
    ∀ p ∈ (parts s).head?, ∃ c rest, p.text = c :: rest ∧ isFoldingBlank c = blank := by
  intro p hp
  obtain ⟨others, hparts⟩ := List.head?_eq_some_iff.mp hp
  have hproper := isProper_of_mem_parts p (List.mem_of_mem_head? hp)
  obtain ⟨d, more, hd⟩ := List.exists_cons_of_ne_nil hproper.ne_nil
  have hwhole := flatMap_text_parts s
  obtain ⟨c, rest, rfl, hc⟩ := h
  rw [hparts, List.flatMap_cons, hd] at hwhole
  obtain ⟨rfl, -⟩ := List.cons.inj hwhole
  exact ⟨d, more, hd, hc⟩

theorem Line.text_dropSpace (l : Line) :
    l.text = l.dropSpace.text ∨ l.text = l.dropSpace.text ++ [' '] := by
  rcases l.dropSpace_cases with h | ⟨hparts, -⟩
  · rw [h]
    exact .inl rfl
  · exact .inr (by rw [text_eq, hparts]; simp [text_eq, Part.text])

theorem Line.allBlank_dropSpace (l : Line) :
    Text.allBlank l.dropSpace.text = Text.allBlank l.text := by
  have hspace : Text.isBlank ' ' = true := by decide
  rcases l.text_dropSpace with h | h
  · rw [h]
  · simp [h, Text.allBlank, hspace]

namespace Fold

variable {f : Fold} {s : List Char}

theorem IsClosed.endLine_space (h : f.IsClosed) :
    endLine ⟨f.done, f.line.push ([' '], [])⟩ = f := by
  obtain ⟨done, line⟩ := f
  obtain rfl : line = .fresh := h.line
  rfl

theorem Tidy.addLine_ascii {Q : List Char → Prop} (hQ : Extends Q)
    (hblank : ∀ s, BeginsBlank s → Q s) (h : f.Tidy Q)
    (hfirst : f.done ≠ [] ∨ f.line.parts ≠ [] → ∀ p ∈ (Wire.parts s).head?, Q p.text)
    (first : Bool) :
    (f.addLine true first s).Tidy Q :=
  h.addAll hQ hfirst (fun _ hp => hblank _ (beginsBlank_of_mem_tail hp))
    fun _ hp => hblank _ (isProper_of_mem_parts _ hp).beginsBlank_moved

theorem ne_nil_of_beginsBlank {s : List Char} (h : BeginsBlank s) : s ≠ [] := by
  obtain ⟨c, rest, rfl, -⟩ := h
  simp

theorem Tidy.addLine_ne_nil (h : f.Tidy (· ≠ [])) (s : List Char) :
    (f.addLine true false s).Tidy (· ≠ []) :=
  h.addLine_ascii extends_ne_nil (fun _ => ne_nil_of_beginsBlank)
    (fun _ _ hp => (isProper_of_mem_parts _ (List.mem_of_mem_head? hp)).ne_nil) false

theorem tidy_addLine_first {lead : Nat} (hlead : 0 < lead) (ascii : Bool) (s : List Char) :
    (addLine ascii true s ⟨[], ⟨lead, []⟩⟩).Tidy BeginsBlank := by
  have hstart := tidy_start (Q := BeginsBlank) hlead
  cases ascii with
  | true => exact hstart.addLine_ascii extends_beginsBlank (fun _ hs => hs) (by simp) true
  | false => exact hstart.addEncoded (by simp) (by simp) s

theorem Tidy.addLine_encoded (h : f.Tidy BeginsBlank) (s : List Char) :
    (f.addLine false false s).Tidy BeginsBlank :=
  h.addEncoded (fun _ => ⟨' ', [], rfl, rfl⟩) (List.forall_mem_singleton.mpr rfl) _

/-- An uncut line of blanks is added to the line before. -/
theorem IsClosed.endLine_blank (h : f.IsClosed) {ps : List Part}
    (hblank : Text.allBlank (⟨0, ps⟩ : Line).text = true) (ht : f.Tidy BeginsBlank) :
    (endLine ⟨f.done, ⟨0, ps⟩⟩).Tidy BeginsBlank := by
  refine (isClosed_endLine (by simp [h.done])).tidy ?_
  rcases endLine_cases ⟨f.done, ⟨0, ps⟩⟩ with
    ⟨-, hend⟩ | ⟨last, rest, hdone, -, hend⟩ | ⟨-, hplain, -⟩
  · rw [hend]
    exact ht.done
  · have hkept := ht.done
    obtain hdone : f.done = last :: rest := hdone
    rw [hdone] at hkept
    rw [hend]
    exact extend_last extends_beginsBlank hkept _
  · have hlead := Line.lead_dropSpace ⟨0, ps⟩
    rw [← Line.allBlank_dropSpace, hplain h.done hlead] at hblank
    cases hblank

/-- An uncut line that is not all blank comes to stand on a line of its own. -/
theorem IsClosed.endLine_plain (h : f.IsClosed) {ps : List Part}
    (hblank : Text.allBlank (⟨0, ps⟩ : Line).text = false)
    (hplain : BeginsPlain (⟨0, ps⟩ : Line).text) : (endLine ⟨f.done, ⟨0, ps⟩⟩).IsBroken := by
  rw [← Line.allBlank_dropSpace] at hblank
  rcases endLine_cases ⟨f.done, ⟨0, ps⟩⟩ with
    ⟨hwidth, -⟩ | ⟨last, rest, -, hall, -⟩ | ⟨-, -, hend⟩
  · have hnil := List.length_eq_zero_iff.mp (Nat.eq_zero_of_add_eq_zero_left hwidth)
    rw [hnil] at hblank
    cases hblank
  · rw [hall] at hblank
    cases hblank
  · refine ⟨(Line.dropSpace ⟨0, ps⟩).text, ?_, ?_⟩
    · rw [hend, List.dropLast_cons_of_ne_nil h.done]
      exact List.mem_cons_self
    · obtain ⟨c, rest, hc, hfirst⟩ := hplain
      rcases eq_nil_or_begins (Line.dropSpace ⟨0, ps⟩).text with hnil | hbegins | hbegins
      · rw [hnil] at hblank
        cases hblank
      · have hwhole : BeginsBlank (⟨0, ps⟩ : Line).text := by
          rcases Line.text_dropSpace ⟨0, ps⟩ with htext | htext
          · rwa [htext]
          · rw [htext]
            exact extends_beginsBlank _ _ hbegins
        exact absurd ⟨c, rest, hc, hfirst⟩ hwhole.not_beginsPlain
      · exact hbegins

theorem Tidy.endLine_addLine (hc : f.IsClosed) (h : f.Tidy BeginsBlank) (hs : StaysInField s) :
    (f.addLine true false s).endLine.Tidy BeginsBlank := by
  rcases hs with rfl | hbegins | ⟨hblank, huncut⟩
  · exact h.endLine extends_beginsBlank
  · have hadded := h.addLine_ascii extends_beginsBlank (fun _ hs => hs)
      (fun _ => begins_head_parts hbegins) false
    exact hadded.endLine extends_beginsBlank
  · have htext : (⟨0, Wire.parts s⟩ : Line).text = s := flatMap_text_parts s
    have hadded : f.addLine true false s = ⟨f.done, ⟨0, Wire.parts s⟩⟩ := by
      rcases huncut with hwidth | hword
      · refine hc.addAll_of_width ?_
        rw [Line.width, htext, Nat.zero_add]
        exact hwidth
      · by_cases hnil : s = []
        · subst hnil
          exact hc.eq
        · have hparts := parts_of_word hnil hword
          rw [hparts, ← hc.addAll_singleton, ← hparts]
          rfl
    rw [hadded]
    exact hc.endLine_blank (by rw [htext]; exact hblank) h

theorem isBroken_endLine_addLine (hc : f.IsClosed) (hs : ¬StaysInField s) :
    (f.addLine true false s).endLine.IsBroken := by
  obtain ⟨hne, hblank, huncut⟩ : s ≠ [] ∧ ¬BeginsBlank s ∧
      ¬(Text.allBlank s = true ∧ (s.length ≤ lineWidth ∨ ∀ c ∈ s, isFoldingBlank c = false)) := by
    simpa [StaysInField, not_or] using hs
  have hplain : BeginsPlain s := by
    rcases eq_nil_or_begins s with h | h | h
    · exact absurd h hne
    · exact absurd h hblank
    · exact h
  have htext : (⟨0, parts s⟩ : Line).text = s := flatMap_text_parts s
  rcases hc.addAll_of_beginsPlain (begins_head_parts hplain) with ⟨hadded, hcut⟩ | hbroken
  · have hadded : f.addLine true false s = ⟨f.done, ⟨0, parts s⟩⟩ := hadded
    rw [hadded]
    refine hc.endLine_plain ?_ (by rw [htext]; exact hplain)
    rw [htext]
    by_contra hall
    obtain ⟨hwide, hblank⟩ := not_or.mp fun h => huncut ⟨Bool.of_not_eq_false hall, h⟩
    rcases hcut with hwidth | hnone
    · rw [Line.width, htext, Nat.zero_add] at hwidth
      exact hwide hwidth
    · obtain ⟨c, rest, rfl, hc⟩ := hplain
      refine split?_ne_none (tail_parts_ne_nil hc ?_) 0 hnone
      simpa [hc] using hblank
  · exact hbroken.endLine

theorem mem_letters_addLine {c : Char} {ascii first : Bool}
    (h : c ∈ (f.addLine ascii first s).letters) :
    c ∈ f.letters ∨ (ascii = true ∧ c ∈ s) ∨ IsPrintable c := by
  have hspace : IsPrintable ' ' := by decide
  cases ascii with
  | true =>
      rcases mem_letters_addAll h with h | ⟨p, hp, hc⟩ | rfl
      · exact .inl h
      · refine .inr (.inl ⟨rfl, ?_⟩)
        rw [← flatMap_text_parts s]
        exact List.mem_flatMap.mpr ⟨p, hp, hc⟩
      · exact .inr (.inr hspace)
  | false =>
      cases first with
      | true =>
          rcases mem_letters_addEncoded h with h | h | h
          · exact .inl h
          · cases h
          · exact .inr (.inr h)
      | false =>
          rcases mem_letters_addEncoded h with h | h | h
          · exact .inl h
          · obtain rfl := List.mem_singleton.mp h
            exact .inr (.inr hspace)
          · exact .inr (.inr h)

def addLines (ascii : Bool) (more : List (List Char)) (f : Fold) : Fold :=
  more.foldl (fun f l => (f.addLine ascii false l).endLine) f

theorem addLines_cons (ascii : Bool) (l : List Char) (rest : List (List Char)) (f : Fold) :
    f.addLines ascii (l :: rest) = (f.addLine ascii false l).endLine.addLines ascii rest := rfl

theorem endLine_foldl (ascii : Bool) (more : List (List Char)) (f : Fold) :
    (more.foldl (fun f l => (endLine f).addLine ascii false l) f).endLine =
      f.endLine.addLines ascii more := by
  induction more generalizing f with
  | nil => rfl
  | cons l rest ih => exact ih _

theorem Tidy.addLines {Q : List Char → Prop} {ascii : Bool} (hQ : Extends Q)
    (hadd : ∀ g : Fold, g.Tidy Q → ∀ l, (g.addLine ascii false l).Tidy Q) (hc : f.IsClosed)
    (h : f.Tidy Q) (more : List (List Char)) :
    (f.addLines ascii more).IsClosed ∧ (f.addLines ascii more).Tidy Q := by
  induction more generalizing f with
  | nil => exact ⟨hc, h⟩
  | cons l rest ih =>
      have hadded := hadd f h l
      rw [addLines_cons]
      exact ih (isClosed_endLine hadded.lead) (hadded.endLine hQ)

theorem IsBroken.addLines (h : f.IsBroken) (more : List (List Char)) :
    (f.addLines true more).IsBroken := by
  induction more generalizing f with
  | nil => exact h
  | cons l rest ih =>
      have hadded : (f.addLine true false l).IsBroken := IsBroken.addAll h
      rw [addLines_cons]
      exact ih hadded.endLine

theorem tidy_addLines_iff (hc : f.IsClosed) (h : f.Tidy BeginsBlank) (more : List (List Char)) :
    (f.addLines true more).Tidy BeginsBlank ↔ ∀ l ∈ more, StaysInField l := by
  induction more generalizing f with
  | nil => simpa [addLines] using h
  | cons l rest ih =>
      rw [List.forall_mem_cons, addLines_cons]
      by_cases hl : StaysInField l
      · have hadded := (h.mono fun _ => ne_nil_of_beginsBlank).addLine_ne_nil l
        have ih := ih (isClosed_endLine hadded.lead) (h.endLine_addLine hc hl)
        exact ih.trans (by simp [hl])
      · have hbroken := (isBroken_endLine_addLine hc hl).addLines rest
        refine iff_of_false (fun htidy => ?_) (fun hall => hl hall.1)
        exact htidy.not_isBroken hbroken

theorem mem_letters_addLines {c : Char} {ascii : Bool} {more : List (List Char)}
    (h : c ∈ (f.addLines ascii more).letters) :
    c ∈ f.letters ∨ (ascii = true ∧ ∃ l ∈ more, c ∈ l) ∨ IsPrintable c := by
  induction more generalizing f with
  | nil => exact .inl h
  | cons l rest ih =>
      rw [addLines_cons] at h
      rcases ih h with h | ⟨hascii, l, hl, hc⟩ | h
      · rcases mem_letters_addLine (mem_letters_endLine h) with h | ⟨hascii, hc⟩ | h
        · exact .inl h
        · exact .inr (.inl ⟨hascii, l, List.mem_cons_self, hc⟩)
        · exact .inr (.inr h)
      · exact .inr (.inl ⟨hascii, l, List.mem_cons_of_mem _ hl, hc⟩)
      · exact .inr (.inr h)

/-- What the lines of a value are folded into. Its lines after the first begin with a blank just if
those of the value stay in the field. -/
structure Holds (value : List Char) (f : Fold) : Prop where
  closed : f.IsClosed
  filled : f.Tidy (· ≠ [])
  letters : ∀ c ∈ f.letters, StaysOnLine c
  contained : f.Tidy BeginsBlank ↔
    (Text.isAscii value = true → ∀ line ∈ (Text.lines value).drop 1, StaysInField line)

/-- A value of at most one line ends with the space that is kept. -/
theorem holds_endLine_space {value : List Char} (h : f.Tidy BeginsBlank)
    (hletters : ∀ c ∈ f.letters, StaysOnLine c) (hlines : (Text.lines value).drop 1 = []) :
    Holds value (endLine ⟨f.done, f.line.push ([' '], [])⟩) := by
  have hpushed : Tidy BeginsBlank ⟨f.done, f.line.push ([' '], [])⟩ :=
    h.push fun _ => ⟨' ', [], rfl, rfl⟩
  have hend := hpushed.endLine extends_beginsBlank
  refine ⟨isClosed_endLine hpushed.lead, hend.mono fun _ => ne_nil_of_beginsBlank,
    fun c hc => ?_, iff_of_true hend ?_⟩
  · have hc := mem_letters_endLine hc
    rw [Fold.letters, Line.text_push, ← List.append_assoc] at hc
    rcases List.mem_append.mp hc with hc | hc
    · exact hletters c hc
    · obtain rfl := List.mem_singleton.mp hc
      exact IsPrintable.staysOnLine (by decide)
  · simp [hlines]

theorem holds_addLines {value line : List Char} {more : List (List Char)} (hc : f.IsClosed)
    (h : f.Tidy BeginsBlank) (hletters : ∀ c ∈ f.letters, StaysOnLine c)
    (hlines : Text.lines value = line :: more) :
    Holds value (f.addLines (Text.isAscii value) more) := by
  have hkept : ∀ c ∈ (f.addLines (Text.isAscii value) more).letters, StaysOnLine c := by
    intro c hc
    rcases mem_letters_addLines hc with hc | ⟨hascii, l, hl, hc⟩ | hc
    · exact hletters c hc
    · exact staysOnLine_of_mem_lines hascii
        (by rw [hlines]; exact List.mem_cons_of_mem line hl) hc
    · exact hc.staysOnLine
  cases hascii : Text.isAscii value with
  | false =>
      rw [hascii] at hkept
      obtain ⟨hclosed, htidy⟩ :=
        h.addLines extends_beginsBlank (fun g hg => hg.addLine_encoded) hc more
      exact ⟨hclosed, htidy.mono fun _ => ne_nil_of_beginsBlank, hkept,
        iff_of_true htidy (by simp [hascii])⟩
  | true =>
      rw [hascii] at hkept
      have hne := h.mono fun _ => ne_nil_of_beginsBlank
      obtain ⟨hclosed, htidy⟩ :=
        hne.addLines extends_ne_nil (fun g hg => hg.addLine_ne_nil) hc more
      refine ⟨hclosed, htidy, hkept, ?_⟩
      rw [tidy_addLines_iff hc h more, hlines]
      simp [hascii]

end Fold

theorem foldedLines_eq_done {lead : Nat} (hlead : 0 < lead) (value : List Char) :
    ∃ f : Fold, foldedLines lead value = f.done.reverse ∧ f.Holds value := by
  have hstart : ∀ c ∈ Fold.letters ⟨[], ⟨lead, []⟩⟩, StaysOnLine c := by
    simp [Fold.letters, Line.text]
  unfold foldedLines
  cases hlines : Text.lines value with
  | nil =>
      exact ⟨_, rfl,
        Fold.holds_endLine_space (Fold.tidy_start hlead) hstart (by simp [hlines])⟩
  | cons line more =>
      have hfirst := Fold.tidy_addLine_first hlead (Text.isAscii value) line
      have hletters : ∀ c ∈ (Fold.addLine (Text.isAscii value) true line ⟨[], ⟨lead, []⟩⟩).letters,
          StaysOnLine c := by
        intro c hc
        rcases Fold.mem_letters_addLine hc with hc | ⟨hascii, hc⟩ | hc
        · exact hstart c hc
        · exact staysOnLine_of_mem_lines hascii (by rw [hlines]; exact List.mem_cons_self) hc
        · exact hc.staysOnLine
      cases more with
      | nil => exact ⟨_, rfl, Fold.holds_endLine_space hfirst hletters (by simp [hlines])⟩
      | cons next rest =>
          have hholds := Fold.holds_addLines (Fold.isClosed_endLine hfirst.lead)
            (hfirst.endLine extends_beginsBlank)
            (fun c hc => hletters c (Fold.mem_letters_endLine hc)) hlines
          refine ⟨_, ?_, hholds⟩
          dsimp only
          rw [Fold.endLine_foldl, hholds.closed.endLine_space]

end Mailroom.Wire
