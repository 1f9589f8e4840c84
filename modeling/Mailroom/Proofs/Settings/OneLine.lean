import Mailroom.Proofs.Entries
import Mailroom.Proofs.Settings.Written

/-!
What one line of a settings file does to the reading. A blank line and a deeper one go on with the
option being read, a comment does nothing, and any other line is a heading or an option of its own.
Blanks at the end of a line make no difference.
-/

namespace Mailroom.SettingsFile

open Text (isBlank trim trimEnd)

namespace Reading

variable {r : Reading} {file : String} {number : Nat} {indent rest tail : List Char} {c : Char}

theorem length_takeWhile_indent (hindent : ∀ b ∈ indent, isBlank b = true)
    (hc : isBlank c = false) (rest : List Char) :
    ((indent ++ c :: rest).takeWhile isBlank).length = indent.length := by
  rw [List.takeWhile_append_of_pos hindent, List.takeWhile_cons_of_neg (by simp [hc]),
    List.append_nil]

/-! ### Silent and deeper lines -/

theorem isSilent_append (hindent : ∀ b ∈ indent, isBlank b = true) (hc : isBlank c = false)
    (rest : List Char) : isSilent (indent ++ c :: rest) = true ↔ c = '#' ∨ c = ';' := by
  rw [isSilent, Text.trimStart_append hindent, Text.trimStart_cons hc]
  simp

theorem comment_or_blank {line : List Char} (h : isSilent line = true) :
    isComment (trim line) = true ∨ trim line = [] := by
  obtain hblank | ⟨indent, c, rest, hindent, hc, rfl⟩ := Text.blank_or_begins line
  · exact .inr (Text.trim_append [] hblank)
  · rw [Text.trim_append_cons hindent hc]
    obtain rfl | rfl := (isSilent_append hindent hc rest).mp h <;> exact .inl rfl

theorem readLine_blank {line : List Char} (h : ∀ c ∈ line, isBlank c = true) :
    r.readLine file number line = .ok (r.continueOption []) := by
  have htrim : trim line = [] := Text.trim_append [] h
  rw [readLine, htrim]
  rfl

theorem readLine_comment (hindent : ∀ b ∈ indent, isBlank b = true) (hc : c = '#' ∨ c = ';') :
    r.readLine file number (indent ++ c :: rest) = .ok r := by
  have hblank : isBlank c = false := by rcases hc with rfl | rfl <;> rfl
  have hcomment : isComment (trim (indent ++ c :: rest)) = true := by
    rw [Text.trim_append_cons hindent hblank]
    rcases hc with rfl | rfl <;> rfl
  exact if_pos hcomment

/-- A line that begins so is neither blank nor a comment. -/
structure Begins (indent : List Char) (c : Char) : Prop where
  indent : ∀ b ∈ indent, isBlank b = true
  filled : isBlank c = false
  stated : c ≠ '#' ∧ c ≠ ';'

theorem Begins.isComment_trim (h : Begins indent c) (rest : List Char) :
    isComment (trim (indent ++ c :: rest)) = false := by
  rw [Text.trim_append_cons h.indent h.filled]
  simp [isComment, h.stated]

theorem readLine_lower {heading name : String} (h : Begins indent c)
    (hcurrent : r.current = some heading) (hoption : r.option = some name)
    (hdepth : r.indent < indent.length) :
    r.readLine file number (indent ++ c :: rest) =
      .ok (r.continueOption (trim (indent ++ c :: rest))) := by
  have hfilled : (trim (indent ++ c :: rest)).isEmpty = false := by
    rw [Text.trim_append_cons h.indent h.filled]
    rfl
  have hlower : decide (((indent ++ c :: rest).takeWhile isBlank).length > r.indent) = true := by
    rw [length_takeWhile_indent h.indent h.filled]
    exact decide_eq_true hdepth
  rw [readLine]
  dsimp only
  rw [h.isComment_trim, hfilled, hcurrent, hoption, hlower]
  rfl

/-! ### Headings and options -/

/-- A line that is indented so far does not go on with an option. -/
def OwnAt (r : Reading) (n : Nat) : Prop := r.option = none ∨ n ≤ r.indent

/-- A line of its own is a heading, or an option of the section being read. -/
theorem readLine_own (h : Begins indent c) (hown : r.OwnAt indent.length) :
    r.readLine file number (indent ++ c :: rest) =
      (match heading? (c :: trimEnd rest) with
        | some name =>
            readHeading file number (String.ofList name) { r with indent := indent.length }
        | none =>
            match r.current with
            | none => .error (.settingsFile (.noSection file number
                (Text.quoted (String.ofList (indent ++ c :: rest)))))
            | some heading => readOption file number (indent ++ c :: rest) (c :: trimEnd rest)
                heading { r with indent := indent.length }) := by
  have hnotLower : (r.current.isSome && r.option.isSome && decide (indent.length > r.indent)) =
      false := by
    rcases hown with hnone | hdepth
    · simp [hnone]
    · simp [hdepth]
  have htrim := Text.trim_append_cons h.indent h.filled rest
  have hcomment := h.isComment_trim rest
  rw [htrim] at hcomment
  rw [readLine]
  dsimp only
  rw [length_takeWhile_indent h.indent h.filled, htrim, hcomment, hnotLower]
  rfl

theorem heading?_eq_some {name beside : List Char} (hname : name ≠ []) (h : ']' ∉ beside) :
    heading? ('[' :: (name ++ ']' :: beside)) = some name := by
  have hskipped : ∀ c ∈ beside.reverse, (c != ']') = true := fun c hc => by
    simpa using fun heq : c = ']' => h (heq ▸ List.mem_reverse.mp hc)
  have hreverse : (name ++ ']' :: beside).reverse = beside.reverse ++ ']' :: name.reverse := by
    simp
  rw [heading?, hreverse, List.dropWhile_append_of_pos hskipped,
    List.dropWhile_cons_of_neg (by simp), List.drop_succ_cons, List.drop_zero]
  cases hcases : name.reverse with
  | nil => exact absurd (List.reverse_eq_nil_iff.mp hcases) hname
  | cons last more =>
      have hwhole : (last :: more).reverse = name := by rw [← hcases, List.reverse_reverse]
      exact congrArg some hwhole

/-- Without a bracket that opens and one that closes there is no heading. -/
theorem heading?_eq_none (h : c = '[' → ']' ∉ rest) : heading? (c :: rest) = none := by
  by_cases hc : c = '['
  · subst hc
    have hskipped : rest.reverse.dropWhile (· != ']') = [] := by
      refine List.dropWhile_eq_nil_iff.mpr fun c hc => ?_
      simpa using fun heq : c = ']' => h rfl (heq ▸ List.mem_reverse.mp hc)
    rw [heading?, hskipped]
    rfl
  · rw [heading?]
    rintro _ heq
    exact hc (List.cons.inj heq).1

theorem readLine_heading (w : WrittenSection) (hown : r.OwnAt w.indent.length)
    (hname : w.name ≠ defaultName) (hnew : w.name ∉ r.sections.map Prod.fst)
    (htail : ∀ c ∈ tail, isBlank c = true) :
    r.readLine file number (w.indent ++ '[' :: (w.name.toList ++ ']' :: w.beside) ++ tail) =
      .ok ⟨r.defaults, r.sections ++ [(w.name, [])], some w.name, none, w.indent.length,
        r.malformed⟩ := by
  have hbegins : Begins w.indent '[' :=
    ⟨List.all_eq_true.mp w.indent_blank, rfl, by decide⟩
  have hline : w.indent ++ '[' :: (w.name.toList ++ ']' :: w.beside) ++ tail =
      w.indent ++ '[' :: (w.name.toList ++ ']' :: (w.beside ++ tail)) := by
    simp
  have htrim : trimEnd (w.name.toList ++ ']' :: (w.beside ++ tail)) =
      w.name.toList ++ ']' :: trimEnd w.beside := by
    rw [Text.trimEnd_append_cons rfl, Text.trimEnd_append _ htail]
  have hopen : ']' ∉ trimEnd w.beside := mt (Text.mem_of_mem_trimEnd) w.beside_open
  have hsome : w.name.toList ≠ [] := mt String.toList_eq_nil_iff.mp w.name_ne_empty
  have hfresh : r.sections.find? (· == ·) w.name = none := Entries.find?_eq_none_iff.mpr hnew
  rw [hline, readLine_own hbegins hown, htrim, heading?_eq_some hsome hopen]
  dsimp only
  rw [String.ofList_toList, readHeading]
  dsimp only
  rw [hfresh, Option.isSome_none, if_neg Bool.false_ne_true, if_neg (by simpa using hname)]

theorem lower_ne_nil {s : List Char} (h : s ≠ []) : Text.lower s ≠ [] := by
  cases s with
  | nil => exact absurd rfl h
  | cons c rest =>
      rw [Text.lower, Text.lowerFrom]
      split
      · simp
      · split <;> simp

theorem begins_of_isStated (o : WrittenOption) (hc : isStated c = true) : Begins o.indent c := by
  simp only [isStated, Bool.and_eq_true, Bool.not_eq_true', bne_iff_ne] at hc
  exact ⟨List.all_eq_true.mp o.indent_blank, hc.1.1, hc.1.2, hc.2⟩

theorem trimEnd_name_ne_nil (o : WrittenOption) : trimEnd o.name ≠ [] := by
  obtain ⟨first, more, hname, hfirst⟩ := o.exists_name
  have hfilled := (begins_of_isStated o hfirst).filled
  rw [hname, ← List.nil_append (first :: more), Text.trimEnd_append_cons hfilled]
  exact List.cons_ne_nil _ _

/-- An option whose name is new is added to the section. -/
theorem readOption_eq (o : WrittenOption) (line : List Char) {heading : String}
    (hnew : o.key ∉ (r.optionsOf heading).map Prod.fst) :
    readOption file number line (o.name ++ o.delimiter :: trimEnd o.value) heading r =
      .ok { r.alterSection heading (fun options => options ++ [(o.key, [trim o.value])]) with
        option := some o.key } := by
  have hwhole : ∀ c ∈ o.name, (!isDelimiter c) = true := fun c hc => by
    simpa using List.any_eq_false.mp o.name_whole c hc
  have hdrop : (o.name ++ o.delimiter :: trimEnd o.value).dropWhile (fun c => !isDelimiter c) =
      o.delimiter :: trimEnd o.value := by
    rw [List.dropWhile_append_of_pos hwhole,
      List.dropWhile_cons_of_neg (by simp [o.delimiter_ends])]
  have htake : (o.name ++ o.delimiter :: trimEnd o.value).takeWhile (fun c => !isDelimiter c) =
      o.name := by
    rw [List.takeWhile_append_of_pos hwhole,
      List.takeWhile_cons_of_neg (by simp [o.delimiter_ends]), List.append_nil]
  have hgiven : (trimEnd o.name).isEmpty = false := by
    simpa using trimEnd_name_ne_nil o
  have hkey : o.key.isEmpty = false := by
    simpa [WrittenOption.key] using lower_ne_nil (trimEnd_name_ne_nil o)
  have hfresh : (r.optionsOf heading).find? (· == ·) o.key = none :=
    Entries.find?_eq_none_iff.mpr hnew
  rw [WrittenOption.key] at hkey hfresh
  rw [readOption, hdrop, htake]
  dsimp only
  rw [hgiven, if_neg Bool.false_ne_true, hfresh, Option.isSome_none, if_neg Bool.false_ne_true,
    hkey, if_neg Bool.false_ne_true, Text.trim_trimEnd, WrittenOption.key]

theorem heading?_written (o : WrittenOption) :
    heading? (o.name ++ o.delimiter :: trimEnd o.value) = none := by
  obtain ⟨first, more, hfirst, -⟩ := o.exists_name
  rw [hfirst, List.cons_append]
  refine heading?_eq_none ?_
  rintro rfl hmem
  have hopen := o.not_heading (by rw [hfirst]; rfl)
  rw [hfirst] at hopen
  obtain hmore | hrest := List.mem_append.mp hmem
  · exact hopen (List.mem_append_left _ (List.mem_cons_of_mem _ hmore))
  · obtain hdelimiter | hvalue := List.mem_cons.mp hrest
    · have hends := o.delimiter_ends
      rw [← hdelimiter] at hends
      cases hends
    · exact hopen (List.mem_append_right _ (Text.mem_of_mem_trimEnd hvalue))

theorem readLine_option (o : WrittenOption) {heading : String} (hown : r.OwnAt o.indent.length)
    (hcurrent : r.current = some heading) (hnew : o.key ∉ (r.optionsOf heading).map Prod.fst)
    (htail : ∀ c ∈ tail, isBlank c = true) :
    r.readLine file number (o.indent ++ o.name ++ o.delimiter :: o.value ++ tail) =
      .ok { ({ r with indent := o.indent.length } : Reading).alterSection heading
          (fun options => options ++ [(o.key, [trim o.value])]) with option := some o.key } := by
  obtain ⟨first, more, hfirst, hstated⟩ := o.exists_name
  have hfilled : isBlank o.delimiter = false := by
    have hmark : o.delimiter = '=' ∨ o.delimiter = ':' := by
      simpa [isDelimiter] using o.delimiter_ends
    rcases hmark with h | h <;> rw [h] <;> rfl
  have hline : o.indent ++ o.name ++ o.delimiter :: o.value ++ tail =
      o.indent ++ first :: (more ++ o.delimiter :: (o.value ++ tail)) := by
    simp [hfirst]
  have htrim : first :: trimEnd (more ++ o.delimiter :: (o.value ++ tail)) =
      o.name ++ o.delimiter :: trimEnd o.value := by
    rw [Text.trimEnd_append_cons hfilled, Text.trimEnd_append _ htail, hfirst, List.cons_append]
  rw [hline, readLine_own (begins_of_isStated o hstated) hown, htrim, heading?_written,
    hcurrent]
  exact readOption_eq o _ hnew

end Reading

end Mailroom.SettingsFile
