import Mathlib.Data.List.Basic
import Mailroom.Wire.Folding

/-!
What a line of a header value is made of. Its words with their blanks make up the line, each word
but the first has blanks before it, and there is room for a cut before each of these. Neither the
lines of a text nor encoded words hold a line feed.
-/

namespace Mailroom

theorem Text.not_isLineBreak_of_mem_splitAtBreaks {start s : List Char}
    (hstart : ∀ c ∈ start, isLineBreak c = false) :
    ∀ line ∈ splitAtBreaks start s, ∀ c ∈ line, isLineBreak c = false := by
  fun_induction splitAtBreaks start s with
  | case1 start hempty => simp
  | case2 start hempty => simpa using hstart
  | case3 start rest ih =>
      intro line hline c hc
      rcases List.mem_cons.mp hline with rfl | hline
      · exact hstart c (List.mem_reverse.mp hc)
      · exact ih (by simp) line hline c hc
  | case4 start c rest hcrlf hbreak ih =>
      intro line hline c hc
      rcases List.mem_cons.mp hline with rfl | hline
      · exact hstart c (List.mem_reverse.mp hc)
      · exact ih (by simp) line hline c hc
  | case5 start c rest hcrlf hbreak ih =>
      refine ih fun d hd => ?_
      rcases List.mem_cons.mp hd with rfl | hd
      · exact Bool.of_not_eq_true hbreak
      · exact hstart d hd

theorem Text.not_mem_of_mem_lines {s line : List Char} (h : line ∈ lines s) : '\n' ∉ line :=
  fun hmem => absurd (not_isLineBreak_of_mem_splitAtBreaks (by simp) line h _ hmem) (by decide)

theorem Text.mem_of_mem_splitAtBreaks {start s : List Char} :
    ∀ line ∈ splitAtBreaks start s, ∀ c ∈ line, c ∈ start ∨ c ∈ s := by
  fun_induction splitAtBreaks start s with
  | case1 start hempty => simp
  | case2 start hempty => simp
  | case3 start rest ih =>
      refine List.forall_mem_cons.mpr ⟨fun c hc => .inl (List.mem_reverse.mp hc), ?_⟩
      intro line hline c hc
      have hc : c ∈ rest := (ih line hline c hc).resolve_left (by simp)
      exact .inr (List.mem_cons_of_mem _ (List.mem_cons_of_mem _ hc))
  | case4 start c rest hcrlf hbreak ih =>
      refine List.forall_mem_cons.mpr ⟨fun d hd => .inl (List.mem_reverse.mp hd), ?_⟩
      intro line hline d hd
      have hd : d ∈ rest := (ih line hline d hd).resolve_left (by simp)
      exact .inr (List.mem_cons_of_mem c hd)
  | case5 start c rest hcrlf hbreak ih =>
      intro line hline d hd
      rcases ih line hline d hd with hd | hd
      · rcases List.mem_cons.mp hd with rfl | hd
        · exact .inr List.mem_cons_self
        · exact .inl hd
      · exact .inr (List.mem_cons_of_mem c hd)

theorem Text.mem_of_mem_lines {s line : List Char} (h : line ∈ lines s) : ∀ c ∈ line, c ∈ s :=
  fun c hc => (mem_of_mem_splitAtBreaks line h c hc).resolve_left (by simp)

namespace Wire

def Part.text (part : Part) : List Char := part.1 ++ part.2

theorem Line.text_eq (l : Line) : l.text = l.parts.flatMap Part.text := rfl

theorem flatMap_text_parts (s : List Char) : (parts s).flatMap Part.text = s := by
  fun_induction parts s with
  | case1 => rfl
  | case2 c rest hrest hblank ih => simp_all [Part.text]
  | case3 c rest hrest hblank ih => simp_all [Part.text]
  | case4 c rest blanks word more hrest hblank ih => simp_all [Part.text]
  | case5 c rest blanks word more hrest hblank hempty ih => simp_all [Part.text]
  | case6 c rest blanks word more hrest hblank hempty ih => simp_all [Part.text]

/-- The blanks of a part are blanks, its word holds none, and one of the two is there. -/
structure Part.IsProper (part : Part) : Prop where
  blanks : ∀ c ∈ part.1, isFoldingBlank c = true
  word : ∀ c ∈ part.2, isFoldingBlank c = false
  ne_nil : part.text ≠ []

theorem isProper_of_mem_parts {s : List Char} : ∀ part ∈ parts s, part.IsProper := by
  fun_induction parts s with
  | case1 => simp
  | case2 c rest hrest hblank ih =>
      intro part hpart
      obtain rfl := List.mem_singleton.mp hpart
      exact ⟨by simpa using hblank, by simp, by simp [Part.text]⟩
  | case3 c rest hrest hblank ih =>
      intro part hpart
      obtain rfl := List.mem_singleton.mp hpart
      exact ⟨by simp, by simpa using hblank, by simp [Part.text]⟩
  | case4 c rest blanks word more hrest hblank ih =>
      rw [hrest, List.forall_mem_cons] at ih
      refine List.forall_mem_cons.mpr ⟨⟨?_, ih.1.word, by simp [Part.text]⟩, ih.2⟩
      exact List.forall_mem_cons.mpr ⟨hblank, ih.1.blanks⟩
  | case5 c rest blanks word more hrest hblank hempty ih =>
      rw [hrest, List.forall_mem_cons] at ih
      refine List.forall_mem_cons.mpr ⟨⟨by simp, ?_, by simp [Part.text]⟩, ih.2⟩
      exact List.forall_mem_cons.mpr ⟨Bool.of_not_eq_true hblank, ih.1.word⟩
  | case6 c rest blanks word more hrest hblank hempty ih =>
      rw [hrest] at ih
      refine List.forall_mem_cons.mpr ⟨⟨by simp, ?_, by simp [Part.text]⟩, ih⟩
      simpa using hblank

theorem blanks_ne_nil_of_mem_tail {s : List Char} : ∀ part ∈ (parts s).tail, part.1 ≠ [] := by
  fun_induction parts s with
  | case1 => simp
  | case2 c rest hrest hblank ih => simp
  | case3 c rest hrest hblank ih => simp
  | case4 c rest blanks word more hrest hblank ih => simpa [hrest] using ih
  | case5 c rest blanks word more hrest hblank hempty ih => simpa [hrest] using ih
  | case6 c rest blanks word more hrest hblank hempty ih =>
      rw [hrest] at ih
      refine List.forall_mem_cons.mpr ⟨fun h => hempty (by simpa using h), ih⟩

def BeginsBlank (s : List Char) : Prop := ∃ c rest, s = c :: rest ∧ isFoldingBlank c = true

theorem beginsBlank_of_mem_tail {s : List Char} {part : Part} (h : part ∈ (parts s).tail) :
    BeginsBlank part.text := by
  have hproper := isProper_of_mem_parts part (List.mem_of_mem_tail h)
  obtain ⟨c, blanks, hblanks⟩ := List.exists_cons_of_ne_nil (blanks_ne_nil_of_mem_tail part h)
  refine ⟨c, blanks ++ part.2, by simp [Part.text, hblanks], hproper.blanks c ?_⟩
  simp [hblanks]

/-- A line with a blank in it that does not begin with one has more than one word. -/
theorem tail_parts_ne_nil {c : Char} {rest : List Char} (hc : isFoldingBlank c = false)
    (h : ∃ d ∈ rest, isFoldingBlank d = true) : (parts (c :: rest)).tail ≠ [] := by
  intro htail
  have htext := flatMap_text_parts (c :: rest)
  have hproper := isProper_of_mem_parts (s := c :: rest)
  cases hparts : parts (c :: rest) with
  | nil => simp [hparts] at htext
  | cons part more =>
      rw [hparts] at htail htext hproper
      obtain rfl : more = [] := htail
      obtain ⟨blanks, word⟩ := part
      have hpart := hproper (blanks, word) List.mem_cons_self
      have hwhole : blanks ++ word = c :: rest := by simpa [Part.text] using htext
      cases blanks with
      | cons b more =>
          obtain rfl : b = c := (List.cons.inj hwhole).1
          rw [hpart.blanks b List.mem_cons_self] at hc
          cases hc
      | nil =>
          obtain ⟨d, hd, hblank⟩ := h
          have hmem : d ∈ word := by
            rw [show word = c :: rest from hwhole]
            exact List.mem_cons_of_mem c hd
          rw [hpart.word d hmem] at hblank
          cases hblank

/-! ### Cuts -/

theorem splitLast?_ne_none {mark : Char} {previous next : Part}
    (h : Line.cutsAt mark previous next = true) (rest : List Part) :
    Line.splitLast? mark (previous :: next :: rest) ≠ none := by
  rw [Line.splitLast?]
  split <;> simp [h]

/-- A line of more than one word can be cut. -/
theorem split?_ne_none {s : List Char} (h : (parts s).tail ≠ []) (lead : Nat) :
    (⟨lead, parts s⟩ : Line).split? ≠ none := by
  have hblanks := blanks_ne_nil_of_mem_tail (s := s)
  have hproper := isProper_of_mem_parts (s := s)
  cases hparts : parts s with
  | nil => simp [hparts] at h
  | cons previous more =>
      rw [hparts] at h hblanks hproper
      obtain ⟨next, rest, rfl⟩ := List.exists_cons_of_ne_nil h
      obtain ⟨c, blanks, hc⟩ := List.exists_cons_of_ne_nil (hblanks next List.mem_cons_self)
      have hblank := (hproper next (by simp)).blanks c (by simp [hc])
      have hmark : c = ' ' ∨ c = '\t' := by simpa [isFoldingBlank] using hblank
      have hcut : Line.cutsAt c previous next = true := by
        rcases hmark with rfl | rfl <;> simp [Line.cutsAt, hc]
      intro hnone
      refine splitLast?_ne_none hcut rest (List.findSome?_eq_none_iff.mp hnone c ?_)
      rcases hmark with rfl | rfl <;> simp

/-! ### Encoded words -/

/-- ASCII without the control characters. -/
def IsPrintable (c : Char) : Prop := 32 ≤ c.toNat ∧ c.toNat < 127

instance (c : Char) : Decidable (IsPrintable c) := inferInstanceAs (Decidable (_ ∧ _))

theorem IsPrintable.ne {c : Char} (h : IsPrintable c) : c ≠ '\n' := by
  rintro rfl
  exact absurd h (by decide)

theorem isPrintable_base64Character (n : Nat) : IsPrintable (base64Character n) := by
  by_cases hn : n < 62
  · have hall : ∀ n < 62, IsPrintable (base64Character n) := by decide
    exact hall n hn
  · unfold base64Character
    rw [if_neg (by omega), if_neg (by omega), if_neg hn]
    split <;> decide

theorem isPrintable_capitalHexDigit {n : Nat} (h : n < 16) : IsPrintable (capitalHexDigit n) := by
  have hall : ∀ n < 16, IsPrintable (capitalHexDigit n) := by decide
  exact hall n h

theorem isPrintable_of_mem_base64 (bs : List UInt8) : ∀ c ∈ base64 bs, IsPrintable c := by
  have hequal : IsPrintable '=' := by decide
  fun_induction base64 bs with
  | case1 => simp
  | case2 a => simp [isPrintable_base64Character, hequal]
  | case3 a b => simp [isPrintable_base64Character, hequal]
  | case4 a b c rest ih => simpa [isPrintable_base64Character] using ih

theorem isPrintable_ofNat {n : Nat} (hlow : 32 ≤ n) (hhigh : n < 127) :
    IsPrintable (Char.ofNat n) := by
  have hcode : (Char.ofNat n).toNat = n := by
    rw [Char.ofNat, dif_pos (.inl (by omega))]
    rfl
  exact ⟨hcode.symm ▸ hlow, hcode.symm ▸ hhigh⟩

theorem isPrintable_of_mem_quotedOctet (b : UInt8) : ∀ c ∈ quotedOctet b, IsPrintable c := by
  have hb : b.toNat < 256 := b.toNat_lt
  unfold quotedOctet
  split
  · exact List.forall_mem_singleton.mpr (by decide)
  · split
    · rename_i hplain
      have hrange : 32 ≤ b.toNat ∧ b.toNat < 127 := by
        simp only [isPlainOctet, Bool.or_eq_true, Bool.and_eq_true, decide_eq_true_eq, beq_iff_eq,
          UInt8.le_iff_toNat_le, ← UInt8.toNat_inj] at hplain
        simp at hplain
        omega
      exact List.forall_mem_singleton.mpr (isPrintable_ofNat hrange.1 hrange.2)
    · have hmark : IsPrintable '=' := by decide
      simp [hmark, isPrintable_capitalHexDigit (n := b.toNat / 16) (by omega),
        isPrintable_capitalHexDigit (n := b.toNat % 16) (by omega)]

theorem isPrintable_of_mem_encodedWord (code : WordCode) (bs : List UInt8) :
    ∀ c ∈ encodedWord code bs, IsPrintable c := by
  have hcode : ∀ c ∈ code.encode bs, IsPrintable c := by
    cases code with
    | base64 => exact isPrintable_of_mem_base64 bs
    | quoted =>
        intro c hc
        obtain ⟨b, -, hb⟩ := List.mem_flatMap.mp hc
        exact isPrintable_of_mem_quotedOctet b c hb
  have hopening : ∀ c ∈ "=?utf-8?".toList, IsPrintable c := by
    have hall : "=?utf-8?".toList.all (fun c => decide (IsPrintable c)) = true := by decide
    exact fun c hc => of_decide_eq_true (List.all_eq_true.mp hall c hc)
  have hframe : IsPrintable code.letter ∧ IsPrintable '?' ∧ IsPrintable '=' := by
    cases code <;> decide
  obtain ⟨hletter, hmark, hequal⟩ := hframe
  unfold encodedWord
  split
  · simp
  · intro c hc
    simp only [List.append_assoc, List.cons_append, List.mem_append, List.mem_cons,
      List.not_mem_nil, or_false] at hc
    rcases hc with hc | rfl | rfl | hc | rfl | rfl
    · exact hopening c hc
    · exact hletter
    · exact hmark
    · exact hcode c hc
    · exact hmark
    · exact hequal

theorem isPrintable_of_mem_encodedWords {code : WordCode} {limit next : Nat} {started : Bool}
    {current s : List Char} :
    ∀ word ∈ encodedWords code limit next started current s, ∀ c ∈ word.getD [],
      IsPrintable c := by
  fun_induction encodedWords code limit next started current s with
  | case1 limit started current => simpa using isPrintable_of_mem_encodedWord code _
  | case2 limit started current c rest hroom ih => exact ih
  | case3 limit started current c rest hroom hfirst ih => simpa using ih
  | case4 limit started current c rest hroom hfirst ih =>
      exact List.forall_mem_cons.mpr ⟨isPrintable_of_mem_encodedWord code _, ih⟩

end Wire

end Mailroom
