import Mailroom.Proofs.Wire.Words

/-!
The lines into which a header value is folded. Only a line break of the value itself can bring a
line after the first that does not begin with a blank: every other line is cut off before a word
that has blanks before it.
-/

namespace Mailroom.Wire

/-- The part as it stands at the front of a line that it had to be moved to. -/
def Part.moved (part : Part) : Part := (if part.1.isEmpty then [' '] else part.1, part.2)

namespace Line

theorem text_push (l : Line) (part : Part) : (l.push part).text = l.text ++ part.text := by
  simp [push, text, Part.text]

theorem dropSpace_cases (l : Line) :
    l.dropSpace = l ∨ l.parts = l.dropSpace.parts ++ [([' '], [])] ∧ l.dropSpace.lead = l.lead := by
  unfold dropSpace
  split
  · rename_i hlast
    obtain ⟨parts, hparts⟩ := List.getLast?_eq_some_iff.mp hlast
    exact .inr ⟨by simp [hparts], rfl⟩
  · exact .inl rfl

theorem lead_dropSpace (l : Line) : l.dropSpace.lead = l.lead := by
  rcases l.dropSpace_cases with h | h
  · rw [h]
  · exact h.2

theorem parts_dropSpace (l : Line) : l.dropSpace.parts <+: l.parts := by
  rcases l.dropSpace_cases with h | h
  · exact ⟨[], by rw [h, List.append_nil]⟩
  · exact ⟨_, h.1.symm⟩

theorem split?_spec {l : Line} {before after : List Part} (h : l.split? = some (before, after)) :
    l.parts = before ++ after ∧ before ≠ [] ∧ after ≠ [] := by
  obtain ⟨mark, -, hmark⟩ := List.exists_of_findSome?_eq_some h
  exact eq_append_of_splitLast? hmark

end Line

namespace Fold

variable {Q : List Char → Prop} {f : Fold} {part : Part}

theorem endLine_cases (f : Fold) :
    let line := f.line.dropSpace
    (line.width = 0 ∧ f.endLine = ⟨f.done, .fresh⟩) ∨
    (∃ last rest, f.done = last :: rest ∧ Text.allBlank line.text = true ∧
      f.endLine = ⟨(last ++ line.text) :: rest, .fresh⟩) ∨
    (line.width ≠ 0 ∧ (f.done ≠ [] → line.lead = 0 → Text.allBlank line.text = false) ∧
      f.endLine = ⟨line.text :: f.done, .fresh⟩) := by
  intro line
  by_cases hwidth : line.width = 0
  · exact .inl ⟨hwidth, by simp [endLine, line, hwidth]⟩
  · cases hdone : f.done with
    | nil => exact .inr (.inr ⟨hwidth, by simp, by simp [endLine, line, hwidth, hdone]⟩)
    | cons last rest =>
        by_cases hblank : line.lead = 0 ∧ Text.allBlank line.text = true
        · exact .inr (.inl ⟨last, rest, rfl, hblank.2, by
            simp [endLine, line, hwidth, hdone, hblank]⟩)
        · refine .inr (.inr ⟨hwidth, fun _ hlead => Bool.eq_false_iff.mpr fun h =>
            hblank ⟨hlead, h⟩, ?_⟩)
          simp [endLine, line, hwidth, hdone, hblank]

theorem add_cases (part : Part) (f : Fold) :
    let line := f.line.push part
    (f.add part = ⟨f.done, line⟩ ∧ (line.width ≤ lineWidth ∨ line.split? = none)) ∨
    (∃ before after, line.split? = some (before, after) ∧
      f.add part = ⟨(⟨0, before⟩ : Line).text :: f.done, ⟨0, after⟩⟩) ∨
    (0 < f.line.lead ∧ f.add part = ⟨f.endLine.done, f.endLine.line.push part.moved⟩) := by
  intro line
  by_cases hwidth : line.width ≤ lineWidth
  · exact .inl ⟨by simp [add, line, hwidth], .inl hwidth⟩
  · cases hsplit : line.split? with
    | some cut =>
        refine .inr (.inl ⟨cut.1, cut.2, rfl, ?_⟩)
        simp [add, line, hwidth, hsplit]
    | none =>
        by_cases hlead : 0 < f.line.lead
        · exact .inr (.inr ⟨hlead, by simp [add, line, hwidth, hsplit, hlead, Part.moved]⟩)
        · exact .inl ⟨by simp [add, line, hwidth, hsplit, hlead], .inr rfl⟩

/-- No line is being filled. -/
structure IsClosed (f : Fold) : Prop where
  line : f.line = .fresh
  done : f.done ≠ []

/-- The lines after the first have a property, and so have the parts of the line being filled that
may come to stand at the front of such a line. As long as no line is done it is the first line that
is being filled. -/
structure Tidy (Q : List Char → Prop) (f : Fold) : Prop where
  lead : f.done = [] ↔ 0 < f.line.lead
  done : ∀ line ∈ f.done.dropLast, Q line
  parts : ∀ part ∈ f.line.parts.tail, Q part.text
  front : f.done ≠ [] → ∀ part ∈ f.line.parts, Q part.text

/-- Properties that a line keeps when something is added at its end. -/
abbrev Extends (Q : List Char → Prop) : Prop := ∀ s t, Q s → Q (s ++ t)

theorem tidy_start {lead : Nat} (hlead : 0 < lead) : Tidy Q ⟨[], ⟨lead, []⟩⟩ where
  lead := by simp [hlead]
  done := by simp
  parts := by simp
  front := by simp

theorem IsClosed.tidy (h : f.IsClosed) (hdone : ∀ line ∈ f.done.dropLast, Q line) : f.Tidy Q where
  lead := by simp [h.done, h.line, Line.fresh]
  done := hdone
  parts := by simp [h.line, Line.fresh]
  front := by simp [h.line, Line.fresh]

theorem text_of_parts (hQ : Extends Q) {parts : List Part} (hne : parts ≠ [])
    (hparts : ∀ part ∈ parts, Q part.text) (lead : Nat) : Q (⟨lead, parts⟩ : Line).text := by
  obtain ⟨part, rest, rfl⟩ := List.exists_cons_of_ne_nil hne
  exact hQ _ _ (hparts part List.mem_cons_self)

theorem extend_last (hQ : Extends Q) {last : List Char} {rest : List (List Char)}
    (h : ∀ line ∈ (last :: rest).dropLast, Q line) (s : List Char) :
    ∀ line ∈ ((last ++ s) :: rest).dropLast, Q line := by
  cases rest with
  | nil => simp
  | cons next more =>
      obtain ⟨hlast, hmore⟩ := List.forall_mem_cons.mp h
      exact List.forall_mem_cons.mpr ⟨hQ _ _ hlast, hmore⟩

theorem isClosed_endLine (hlead : f.done = [] ↔ 0 < f.line.lead) : f.endLine.IsClosed := by
  rcases f.endLine_cases with ⟨hwidth, hend⟩ | ⟨last, rest, -, -, hend⟩ | ⟨-, -, hend⟩
  · rw [hend]
    refine ⟨rfl, fun hdone => ?_⟩
    have hpositive := hlead.mp hdone
    rw [← f.line.lead_dropSpace] at hpositive
    have := Nat.eq_zero_of_add_eq_zero_right hwidth
    omega
  · rw [hend]
    exact ⟨rfl, by simp⟩
  · rw [hend]
    exact ⟨rfl, by simp⟩

theorem Tidy.endLine (hQ : Extends Q) (h : f.Tidy Q) : f.endLine.Tidy Q := by
  refine (isClosed_endLine h.lead).tidy ?_
  rcases f.endLine_cases with ⟨-, hend⟩ | ⟨last, rest, hdone, -, hend⟩ | ⟨hwidth, -, hend⟩
  · rw [hend]
    exact h.done
  · have hkept := h.done
    rw [hdone] at hkept
    rw [hend]
    exact extend_last hQ hkept _
  · rw [hend]
    cases hdone : f.done with
    | nil => simp
    | cons last rest =>
        have hfilled : f.done ≠ [] := by simp [hdone]
        have hzero : f.line.dropSpace.lead = 0 := by
          have := mt h.lead.mpr hfilled
          rw [f.line.lead_dropSpace]
          omega
        have hparts : f.line.dropSpace.parts ≠ [] := fun hnil => hwidth (by
          simp [Line.width, Line.text, hzero, hnil])
        rw [List.dropLast_cons_of_ne_nil (by simp), ← hdone]
        refine List.forall_mem_cons.mpr ⟨?_, h.done⟩
        exact text_of_parts hQ hparts
          (fun part hpart => h.front hfilled part (f.line.parts_dropSpace.subset hpart)) _

theorem Tidy.push (h : f.Tidy Q) (hpart : f.done ≠ [] ∨ f.line.parts ≠ [] → Q part.text) :
    Tidy Q ⟨f.done, f.line.push part⟩ where
  lead := h.lead
  done := h.done
  parts := by
    cases hparts : f.line.parts with
    | nil => simp [Line.push, hparts]
    | cons first rest =>
        intro p hp
        have htail := h.parts
        rw [hparts] at htail
        have hp : p ∈ rest ∨ p = part := by simpa [Line.push, hparts] using hp
        rcases hp with hp | rfl
        · exact htail p hp
        · exact hpart (.inr (by simp [hparts]))
  front := by
    intro hdone p hp
    rcases List.mem_append.mp hp with hp | hp
    · exact h.front hdone p hp
    · rw [List.mem_singleton.mp hp]
      exact hpart (.inl hdone)

theorem Tidy.add (hQ : Extends Q) (h : f.Tidy Q)
    (hpart : f.done ≠ [] ∨ f.line.parts ≠ [] → Q part.text)
    (hmoved : Q part.moved.text) : (f.add part).Tidy Q := by
  have hpushed := h.push hpart
  rcases f.add_cases part with ⟨hadd, -⟩ | ⟨before, after, hsplit, hadd⟩ | ⟨hlead, hadd⟩
  · rw [hadd]
    exact hpushed
  · obtain ⟨hparts, hbefore, hafter⟩ := Line.split?_spec hsplit
    have hlater : ∀ p ∈ after, Q p.text := by
      obtain ⟨first, rest, rfl⟩ := List.exists_cons_of_ne_nil hbefore
      intro p hp
      exact hpushed.parts p (by rw [hparts]; simp [hp])
    rw [hadd]
    refine ⟨by simp, ?_, fun p hp => hlater p (List.mem_of_mem_tail hp), fun _ => hlater⟩
    cases hdone : f.done with
    | nil => simp
    | cons last rest =>
        have hfilled : f.done ≠ [] := by simp [hdone]
        rw [List.dropLast_cons_of_ne_nil (by simp), ← hdone]
        refine List.forall_mem_cons.mpr ⟨?_, h.done⟩
        exact text_of_parts hQ hbefore
          (fun p hp => hpushed.front hfilled p (by rw [hparts]; exact List.mem_append_left _ hp)) 0
  · have hend := h.endLine hQ
    obtain ⟨hline, hdone⟩ := isClosed_endLine h.lead
    rw [hadd]
    refine ⟨by simp [hdone, hline, Line.push, Line.fresh], hend.done, ?_, fun _ p hp => ?_⟩
    · simp [hline, Line.push, Line.fresh]
    · obtain rfl : p = _ := by simpa [hline, Line.push, Line.fresh] using hp
      exact hmoved

theorem Tidy.mono {R : List Char → Prop} (h : f.Tidy Q) (hQR : ∀ s, Q s → R s) : f.Tidy R where
  lead := h.lead
  done := fun line hline => hQR _ (h.done line hline)
  parts := fun p hp => hQR _ (h.parts p hp)
  front := fun hdone p hp => hQR _ (h.front hdone p hp)

def letters (f : Fold) : List Char := f.done.flatten ++ f.line.text

theorem mem_letters_endLine {c : Char} (h : c ∈ f.endLine.letters) : c ∈ f.letters := by
  have htext : c ∈ f.line.dropSpace.text → c ∈ f.line.text := by
    intro hc
    obtain ⟨p, hp, hc⟩ := List.mem_flatMap.mp hc
    exact List.mem_flatMap.mpr ⟨p, f.line.parts_dropSpace.subset hp, hc⟩
  have hfresh : Line.text .fresh = [] := rfl
  rcases f.endLine_cases with ⟨-, hend⟩ | ⟨last, rest, hdone, -, hend⟩ | ⟨-, -, hend⟩
  · simp_all [letters]
  · simp only [letters, hend, hfresh, List.flatten_cons, List.append_nil, List.mem_append] at h
    simp only [letters, hdone, List.flatten_cons, List.mem_append]
    rcases h with (hc | hc) | hc
    · exact .inl (.inl hc)
    · exact .inr (htext hc)
    · exact .inl (.inr hc)
  · simp only [letters, hend, hfresh, List.flatten_cons, List.append_nil, List.mem_append] at h
    rcases h with hc | hc
    · exact List.mem_append_right _ (htext hc)
    · exact List.mem_append_left _ hc

theorem mem_letters_add {c : Char} (h : c ∈ (f.add part).letters) :
    c ∈ f.letters ∨ c ∈ part.text ∨ c = ' ' := by
  have hpushed : c ∈ f.done.flatten ∨ c ∈ f.line.text ++ part.text →
      c ∈ f.letters ∨ c ∈ part.text ∨ c = ' ' := by
    rintro (hc | hc)
    · exact .inl (List.mem_append_left _ hc)
    · exact (List.mem_append.mp hc).imp (List.mem_append_right _) .inl
  rcases f.add_cases part with ⟨hadd, -⟩ | ⟨before, after, hsplit, hadd⟩ | ⟨-, hadd⟩
  · rw [letters, hadd, Line.text_push] at h
    exact hpushed (List.mem_append.mp h)
  · have hparts : f.line.parts ++ [part] = before ++ after := (Line.split?_spec hsplit).1
    have htext : f.line.text ++ part.text =
        (⟨0, before⟩ : Line).text ++ (⟨0, after⟩ : Line).text := by
      have := congrArg (List.flatMap Part.text) hparts
      simpa [Line.text_eq] using this
    simp only [letters, hadd, List.flatten_cons, List.mem_append] at h
    rw [htext] at hpushed
    rcases h with (hc | hc) | hc
    · exact hpushed (.inr (List.mem_append_left _ hc))
    · exact hpushed (.inl hc)
    · exact hpushed (.inr (List.mem_append_right _ hc))
  · rw [letters, hadd, Line.text_push, ← List.append_assoc] at h
    rcases List.mem_append.mp h with hc | hc
    · exact .inl (mem_letters_endLine hc)
    · obtain ⟨blanks, word⟩ := part
      cases blanks with
      | nil => exact .inr (Or.comm.mp (List.mem_cons.mp hc))
      | cons b more => exact .inr (.inl hc)

end Fold

end Mailroom.Wire
