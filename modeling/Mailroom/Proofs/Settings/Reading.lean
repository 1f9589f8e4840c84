import Mathlib.Data.List.Chain
import Mathlib.Data.List.Forall2
import Mailroom.Proofs.Settings.OneLine

/-!
Reading settings files. From what one line does follows what an option, a section and a file do to
the reading. A file that is written by the grammar is read without a fault, however its lines are
ended, and its contents are what it says.
-/

namespace Mailroom.SettingsFile

open Text (isBlank trim trimEnd)

namespace Reading

/-! ### The section being read -/

/-- The reading inside a section, after the sections `done` and the options so far. -/
def inside (done : Entries String Options) (name : String) (options : Options)
    (option : Option String) (indent : Nat) : Reading :=
  ⟨[], done ++ [(name, options)], some name, option, indent, []⟩

/-- What is done to the entry of one name is done to the last one, if no other has that name. -/
theorem map_concat {β : Type} {entries : Entries String β} {key : String}
    (hnew : key ∉ entries.map Prod.fst) (f : β → β) (b : β) :
    (entries ++ [(key, b)]).map
        (fun entry => if entry.1 == key then (key, f entry.2) else entry) =
      entries ++ [(key, f b)] := by
  have hkept : ∀ entry ∈ entries,
      (if entry.1 == key then (key, f entry.2) else entry) = entry := fun entry hentry =>
    if_neg fun hsame => hnew (List.mem_map.mpr ⟨entry, hentry, eq_of_beq hsame⟩)
  have hother : entries.map (fun entry => if entry.1 == key then (key, f entry.2) else entry) =
      entries := by
    rw [List.map_congr_left hkept, List.map_id']
  rw [List.map_append, hother]
  simp

section Inside

variable {done : Entries String Options} {name : String} {options : Options}
  {option : Option String} {d : Nat} (hname : name ≠ defaultName)
  (hdone : name ∉ done.map Prod.fst)

include hname hdone

theorem alterSection_inside (f : Options → Options) :
    (inside done name options option d).alterSection name f =
      inside done name (f options) option d := by
  rw [alterSection, if_neg (by simpa using hname)]
  exact congrArg (fun sections => { inside done name options option d with sections })
    (map_concat hdone f options)

theorem optionsOf_inside : (inside done name options option d).optionsOf name = options := by
  rw [optionsOf, if_neg (by simpa using hname), inside, Entries.find?_append,
    Entries.find?_eq_none_iff.mpr hdone]
  simp [Entries.find?]

theorem continueOption_inside {key : String} {lines : List (List Char)}
    (hkey : key ∉ options.map Prod.fst) (line : List Char) :
    (inside done name (options ++ [(key, lines)]) (some key) d).continueOption line =
      inside done name (options ++ [(key, line :: lines)]) (some key) d := by
  have hadded := map_concat hkey (line :: ·) lines
  rw [← hadded]
  exact alterSection_inside hname hdone _

end Inside

/-! ### Lines one after the other -/

/-- Reading the lines of the list one after the other takes the first reading to the second,
whatever blanks end the lines. -/
inductive Reads : Reading → List (List Char) → Reading → Prop
  | nil (r : Reading) : Reads r [] r
  | cons {r s t : Reading} {line : List Char} {rest : List (List Char)}
      (hline : ∀ file number tail, (∀ c ∈ tail, isBlank c = true) →
        r.readLine file number (line ++ tail) = .ok s)
      (hrest : Reads s rest t) : Reads r (line :: rest) t

variable {r s t : Reading} {first second lines : List (List Char)}

theorem Reads.append (hfirst : Reads r first s) (hsecond : Reads s second t) :
    Reads r (first ++ second) t := by
  induction hfirst with
  | nil => exact hsecond
  | cons hline _ ih => exact .cons hline (ih hsecond)

theorem Reads.before {line : List Char} (hline : Reads r [line] s) (hrest : Reads s lines t) :
    Reads r (line :: lines) t := hline.append hrest

theorem Reads.exists_of_append (h : Reads r (first ++ second) t) :
    ∃ s, Reads r first s ∧ Reads s second t := by
  induction first generalizing r with
  | nil => exact ⟨r, .nil r, h⟩
  | cons line rest ih =>
      cases h with
      | cons hline hrest =>
          obtain ⟨s, hs, ht⟩ := ih hrest
          exact ⟨s, .cons hline hs, ht⟩

/-- A line is ended by blanks. -/
def EndsIn (line ended : List Char) : Prop :=
  ∃ tail, (∀ c ∈ tail, isBlank c = true) ∧ ended = line ++ tail

theorem Reads.readLines {ended : List (List Char)} (h : Reads r lines t)
    (hended : List.Forall₂ EndsIn lines ended) (file : String) (number : Nat) :
    Reading.readLines file number ended r = .ok t := by
  induction h generalizing number ended with
  | nil =>
      cases hended
      rfl
  | cons hline _ ih =>
      cases hended with
      | cons hends hended =>
          obtain ⟨tail, htail, rfl⟩ := hends
          rw [Reading.readLines, hline file number tail htail]
          exact ih hended (number + 1)

theorem reads_blank (r : Reading) : Reads r [[]] (r.continueOption []) :=
  .cons (fun _ _ _ htail => readLine_blank htail) (.nil _)

/-- A silent line, or one deeper than the option being read, goes on with the value of that option
unless it is a comment. -/
theorem reads_belonging {line : List Char}
    (h : isSilent line = true ∨
      r.current.isSome = true ∧ r.option.isSome = true ∧ r.indent < depth line) :
    Reads r [line] (if isComment (trim line) then r else r.continueOption (trim line)) := by
  obtain hblank | ⟨indent, c, rest, hindent, hc, rfl⟩ := Text.blank_or_begins line
  · have htrim : trim line = [] := Text.trim_append [] hblank
    rw [htrim]
    refine .cons (fun file number tail htail => ?_) (.nil _)
    exact readLine_blank (List.forall_mem_append.mpr ⟨hblank, htail⟩)
  · by_cases hmark : c = '#' ∨ c = ';'
    · have hcomment : isComment (trim (indent ++ c :: rest)) = true := by
        rw [Text.trim_append_cons hindent hc]
        rcases hmark with rfl | rfl <;> rfl
      rw [if_pos hcomment]
      refine .cons (fun file number tail _ => ?_) (.nil _)
      rw [List.append_assoc]
      exact readLine_comment hindent hmark
    · have hbegins : Begins indent c := ⟨hindent, hc, not_or.mp hmark⟩
      obtain ⟨hcurrent, hoption, hdepth⟩ :=
        h.resolve_left (mt (isSilent_append hindent hc rest).mp hmark)
      obtain ⟨heading, hheading⟩ := Option.isSome_iff_exists.mp hcurrent
      obtain ⟨name, hname⟩ := Option.isSome_iff_exists.mp hoption
      rw [depth, length_takeWhile_indent hindent hc] at hdepth
      rw [hbegins.isComment_trim, if_neg Bool.false_ne_true]
      refine .cons (fun file number tail htail => ?_) (.nil _)
      rw [← Text.trim_append (indent ++ c :: rest) htail, List.append_assoc]
      exact readLine_lower hbegins hheading hname hdepth

/-- Where no option is being read, silent lines do nothing. -/
theorem reads_silent (hnone : r.continueOption [] = r)
    (h : ∀ line ∈ lines, isSilent line = true) : Reads r lines r := by
  induction lines with
  | nil => exact .nil r
  | cons line rest ih =>
      obtain ⟨hline, hrest⟩ := List.forall_mem_cons.mp h
      refine Reads.before ?_ (ih hrest)
      have hreads := reads_belonging (r := r) (.inl hline)
      obtain hcomment | hblank := comment_or_blank hline
      · rwa [if_pos hcomment] at hreads
      · have hfilled : isComment [] = false := rfl
        rwa [hblank, hfilled, if_neg Bool.false_ne_true, hnone] at hreads

/-! ### Options, sections and files -/

section Inside

variable {done : Entries String Options} {name : String} {options : Options}
  {option : Option String} {d : Nat} (hname : name ≠ defaultName)
  (hdone : name ∉ done.map Prod.fst)

include hname hdone

theorem reads_below {key : String} (hkey : key ∉ options.map Prod.fst)
    (value : List (List Char)) (h : ∀ line ∈ lines, isSilent line = true ∨ d < depth line) :
    Reads (inside done name (options ++ [(key, value)]) (some key) d) lines
      (inside done name
        (options ++ [(key, ((lines.map trim).filter fun line => !isComment line).reverse ++ value)])
        (some key) d) := by
  induction lines generalizing value with
  | nil => exact .nil _
  | cons line rest ih =>
      obtain ⟨hline, hrest⟩ := List.forall_mem_cons.mp h
      refine Reads.before (reads_belonging (hline.imp_right fun hdepth => ⟨rfl, rfl, hdepth⟩)) ?_
      cases hcomment : isComment (trim line) with
      | true => simpa [hcomment] using ih value hrest
      | false =>
          rw [if_neg Bool.false_ne_true, continueOption_inside hname hdone hkey]
          simpa [hcomment] using ih (trim line :: value) hrest

/-- An option is read as what it says, if it is no deeper than the one before. -/
theorem reads_option (o : WrittenOption) (hkey : o.key ∉ options.map Prod.fst)
    (hown : (inside done name options option d).OwnAt o.indent.length) :
    Reads (inside done name options option d) o.lines
      (inside done name (options ++ [o.found]) (some o.key) o.indent.length) := by
  have hbelow := reads_below hname hdone hkey [trim o.value] o.below_belongs
  have hstated : ((o.below.map trim).filter fun line => !isComment line).reverse ++ [trim o.value] =
      o.stated.reverse := by
    rw [WrittenOption.stated, List.reverse_cons]
  rw [hstated] at hbelow
  refine .cons (fun file number tail htail => ?_) hbelow
  have hnew : o.key ∉ ((inside done name options option d).optionsOf name).map Prod.fst := by
    rwa [optionsOf_inside hname hdone]
  rw [readLine_option o hown rfl hnew htail]
  exact congrArg (fun r : Reading => Except.ok { r with option := some o.key })
    (alterSection_inside hname hdone fun options => options ++ [(o.key, [trim o.value])])

/-- Options are read one after the other, each of a new name. -/
theorem reads_options {written : List WrittenOption}
    (hdistinct : (options.map Prod.fst ++ written.map WrittenOption.key).Nodup)
    (hdeeper : written.Pairwise fun o later => later.indent.length ≤ o.indent.length)
    (hown : ∀ o ∈ written, (inside done name options option d).OwnAt o.indent.length) :
    ∃ last depth, Reads (inside done name options option d) (written.flatMap WrittenOption.lines)
        (inside done name (options ++ written.map WrittenOption.found) last depth) ∧
      (last = option ∧ depth = d ∨ ∃ o ∈ written, depth = o.indent.length) := by
  induction written generalizing options option d with
  | nil =>
      rw [List.map_nil, List.append_nil]
      exact ⟨option, d, .nil _, .inl ⟨rfl, rfl⟩⟩
  | cons o rest ih =>
      obtain ⟨hlater, hrest⟩ := List.pairwise_cons.mp hdeeper
      have hkey : o.key ∉ options.map Prod.fst := fun hmem =>
        (List.nodup_append.mp hdistinct).2.2 o.key hmem o.key List.mem_cons_self rfl
      have hdistinct : ((options ++ [o.found]).map Prod.fst ++
          rest.map WrittenOption.key).Nodup := by
        simpa [WrittenOption.found] using hdistinct
      have hread := reads_option hname hdone o hkey (hown o List.mem_cons_self)
      have hown : ∀ later ∈ rest, (inside done name (options ++ [o.found]) (some o.key)
          o.indent.length).OwnAt later.indent.length := fun later hmem => .inr (hlater later hmem)
      obtain ⟨last, depth, hmore, hlast⟩ := ih hdistinct hrest hown
      rw [List.append_assoc] at hmore
      refine ⟨last, depth, hread.append hmore, .inr ?_⟩
      obtain ⟨-, hdepth⟩ | ⟨later, hmem, hdepth⟩ := hlast
      · exact ⟨o, List.mem_cons_self, hdepth⟩
      · exact ⟨later, List.mem_cons_of_mem o hmem, hdepth⟩

end Inside

/-- The reading has found just these sections, and nothing out of place. -/
structure HasFound (r : Reading) (done : Entries String Options) : Prop where
  defaults : r.defaults = []
  sections : r.sections = done
  malformed : r.malformed = []

/-- A section is read as what it says, if its heading is no deeper than the option before. -/
theorem reads_section {done : Entries String Options} (h : r.HasFound done) (w : WrittenSection)
    (hown : r.OwnAt w.indent.length) (hname : w.name ≠ defaultName)
    (hnew : w.name ∉ done.map Prod.fst) :
    ∃ t, Reads r w.lines t ∧ t.HasFound (done ++ [w.found]) ∧
      ∀ n, (∀ o ∈ w.options, n ≤ o.indent.length) → t.OwnAt n := by
  have hbelow := reads_silent (r := inside done w.name [] none w.indent.length) rfl w.below_silent
  have hdistinct : (([] : Options).map Prod.fst ++ w.options.map WrittenOption.key).Nodup :=
    w.keys_distinct
  have hfirst : ∀ o ∈ w.options,
      (inside done w.name [] none w.indent.length).OwnAt o.indent.length := fun _ _ => .inl rfl
  obtain ⟨last, depth, hoptions, hlast⟩ :=
    reads_options hname hnew hdistinct w.never_deeper hfirst
  refine ⟨_, .cons (fun file number tail htail => ?_) (hbelow.append hoptions), ⟨rfl, rfl, rfl⟩, ?_⟩
  · rw [← h.sections] at hnew
    rw [readLine_heading w hown hname hnew htail, h.defaults, h.sections, h.malformed]
    rfl
  · intro n hn
    obtain ⟨hnone, -⟩ | ⟨o, ho, hdepth⟩ := hlast
    · exact .inl hnone
    · exact .inr (hdepth ▸ hn o ho)

theorem reads_sections {done : Entries String Options} {sections : List WrittenSection}
    (h : r.HasFound done) (hown : ∀ w ∈ sections.head?, r.OwnAt w.indent.length)
    (hdistinct : (done.map Prod.fst ++ sections.map WrittenSection.name).Nodup)
    (hnames : defaultName ∉ sections.map WrittenSection.name)
    (hdeeper : sections.IsChain fun w next =>
      ∀ o ∈ w.options, next.indent.length ≤ o.indent.length) :
    ∃ t, Reads r (sections.flatMap WrittenSection.lines) t ∧
      t.HasFound (done ++ sections.map WrittenSection.found) := by
  induction sections generalizing r done with
  | nil =>
      rw [List.map_nil, List.append_nil]
      exact ⟨r, .nil r, h⟩
  | cons w rest ih =>
      obtain ⟨hname, hrest⟩ := not_or.mp (mt List.mem_cons.mpr hnames)
      obtain ⟨hnext, hlater⟩ := List.isChain_cons.mp hdeeper
      have hnew : w.name ∉ done.map Prod.fst := fun hmem =>
        (List.nodup_append.mp hdistinct).2.2 w.name hmem w.name List.mem_cons_self rfl
      have hdistinct : ((done ++ [w.found]).map Prod.fst ++
          rest.map WrittenSection.name).Nodup := by
        simpa [WrittenSection.found] using hdistinct
      obtain ⟨s, hread, hs, hends⟩ := reads_section h w (hown w rfl) (Ne.symm hname) hnew
      obtain ⟨t, hmore, ht⟩ := ih hs (fun next hmem => hends _ (hnext next hmem)) hdistinct hrest
        hlater
      rw [List.append_assoc] at ht
      exact ⟨t, hread.append hmore, ht⟩

theorem reads_file (file : WrittenFile) :
    ∃ t, Reads initial file.lines t ∧ t.HasFound (file.sections.map WrittenSection.found) := by
  have hnothing : HasFound initial [] := ⟨rfl, rfl, rfl⟩
  obtain ⟨t, hread, ht⟩ := reads_sections hnothing (fun _ _ => .inl rfl) file.names_distinct
    file.names_own file.never_deeper
  exact ⟨t, (reads_silent rfl file.above_silent).append hread, ht⟩

/-! ### Contents -/

/-- What has been read so far. -/
def contents (r : Reading) : Contents :=
  ⟨Contents.joined r.defaults, r.sections.map fun entry => (entry.1, Contents.joined entry.2)⟩

theorem intercalate_concat_nil (mark : List Char) {lines : List (List Char)} (h : lines ≠ []) :
    mark.intercalate (lines ++ [[]]) = mark.intercalate lines ++ mark := by
  induction lines with
  | nil => exact absurd rfl h
  | cons first rest ih =>
      cases rest with
      | nil => simp
      | cons next more =>
          rw [List.cons_append, List.cons_append, List.intercalate_cons_cons,
            List.intercalate_cons_cons, List.append_assoc, ← List.cons_append,
            ih (List.cons_ne_nil next more), List.append_assoc, List.append_assoc]

/-- A blank line at its end does not change a value. -/
theorem trimEnd_intercalate_concat_nil (lines : List (List Char)) :
    trimEnd (['\n'].intercalate (lines ++ [[]])) = trimEnd (['\n'].intercalate lines) := by
  by_cases h : lines = []
  · subst h
    rfl
  · have hfeed : ∀ c ∈ ['\n'], isBlank c = true := List.forall_mem_singleton.mpr rfl
    rw [intercalate_concat_nil _ h, Text.trimEnd_append _ hfeed]

theorem trimEnd_intercalate_append {lines blanks : List (List Char)}
    (h : ∀ line ∈ blanks, line = []) :
    trimEnd (['\n'].intercalate (lines ++ blanks)) = trimEnd (['\n'].intercalate lines) := by
  induction blanks generalizing lines with
  | nil => rw [List.append_nil]
  | cons first rest ih =>
      obtain ⟨rfl, hrest⟩ := List.forall_mem_cons.mp h
      rw [List.append_cons, ih hrest, trimEnd_intercalate_concat_nil]

theorem joined_map_cons_nil (options : Options) (name : String) :
    Contents.joined (options.map fun entry =>
      if entry.1 == name then (name, [] :: entry.2) else entry) = Contents.joined options := by
  rw [Contents.joined, List.map_map, Contents.joined]
  refine List.map_congr_left fun entry _ => ?_
  rw [Function.comp_apply]
  split
  · rename_i hsame
    rw [List.reverse_cons, trimEnd_intercalate_concat_nil, eq_of_beq hsame]
  · rfl

theorem contents_alterSection {f : Options → Options}
    (hf : ∀ options, Contents.joined (f options) = Contents.joined options) (name : String)
    (r : Reading) : (r.alterSection name f).contents = r.contents := by
  unfold alterSection
  split
  · rw [contents, contents, hf]
  · rw [contents, contents, List.map_map]
    refine congrArg (Contents.mk _) (List.map_congr_left fun entry _ => ?_)
    rw [Function.comp_apply]
    split
    · rename_i hsame
      rw [hf, eq_of_beq hsame]
    · rfl

theorem contents_continueOption_nil (r : Reading) :
    (r.continueOption []).contents = r.contents ∧
      (r.continueOption []).malformed = r.malformed := by
  unfold continueOption
  split
  · refine ⟨contents_alterSection (fun options => joined_map_cons_nil options _) _ r, ?_⟩
    unfold alterSection
    split <;> rfl
  · exact ⟨rfl, rfl⟩

theorem HasFound.contents_eq {sections : List WrittenSection}
    (h : r.HasFound (sections.map WrittenSection.found)) :
    r.contents = ⟨[], sections.map WrittenSection.contents⟩ := by
  rw [contents, h.defaults, h.sections, List.map_map]
  refine congrArg (Contents.mk []) (List.map_congr_left fun w _ => ?_)
  rw [Function.comp_apply, WrittenSection.found, WrittenSection.contents, Contents.joined,
    List.map_map]
  refine congrArg (Prod.mk w.name) (List.map_congr_left fun o _ => ?_)
  rw [Function.comp_apply, WrittenOption.found, List.reverse_reverse, WrittenOption.text]

/-- Lines that are put together to a text are read from it. The last one may be missed if it is
empty, which the contents do not show. -/
theorem readLines_intercalate (hreads : Reads r lines t)
    (hlines : ∀ line ∈ lines, Text.hasLineEnd line = false) (file : String) :
    ∃ s, readLines file 1 (linesWithEnds [] (['\n'].intercalate lines)) r = .ok s ∧
      s.contents = t.contents ∧ s.malformed = t.malformed := by
  have hfeed (lines : List (List Char)) : List.Forall₂ EndsIn lines (lines.map (· ++ ['\n'])) :=
    List.forall₂_map_right_iff.mpr (List.forall₂_same.mpr fun line _ =>
      ⟨['\n'], List.forall_mem_singleton.mpr rfl, rfl⟩)
  obtain rfl | ⟨init, last, rfl⟩ := List.eq_nil_or_concat lines
  · exact ⟨t, hreads.readLines .nil file 1, rfl, rfl⟩
  · rw [List.concat_eq_append] at hreads hlines ⊢
    rw [linesWithEnds_intercalate hlines]
    by_cases hlast : last = []
    · subst hlast
      obtain ⟨s, hinit, hblank⟩ := hreads.exists_of_append
      cases hblank with
      | cons hline hrest =>
          cases hrest
          have hnone : ∀ c ∈ ([] : List Char), isBlank c = true := by simp
          have hstep := hline file 0 [] hnone
          rw [List.append_nil, readLine_blank hnone] at hstep
          obtain rfl := Except.ok.inj hstep
          obtain ⟨hcontents, hmalformed⟩ := contents_continueOption_nil s
          refine ⟨s, ?_, hcontents.symm, hmalformed.symm⟩
          rw [List.isEmpty_nil, if_pos rfl, List.append_nil]
          exact hinit.readLines (hfeed init) file 1
    · rw [if_neg (by simpa using hlast)]
      refine ⟨t, hreads.readLines ?_ file 1, rfl, rfl⟩
      have hend : EndsIn last last := ⟨[], by simp, (List.append_nil last).symm⟩
      exact List.rel_append (hfeed init) (.cons hend .nil)

end Reading

theorem WrittenSection.hasLineEnd_lines (w : WrittenSection) :
    ∀ line ∈ w.lines, Text.hasLineEnd line = false := by
  obtain ⟨hheading, hbelow⟩ := List.forall_mem_cons.mp w.oneLine
  refine List.forall_mem_cons.mpr ⟨hheading, List.forall_mem_append.mpr ⟨hbelow, ?_⟩⟩
  intro line hline
  obtain ⟨o, -, hline⟩ := List.mem_flatMap.mp hline
  exact o.oneLine line hline

theorem WrittenFile.hasLineEnd_lines (file : WrittenFile) :
    ∀ line ∈ file.lines, Text.hasLineEnd line = false := by
  refine List.forall_mem_append.mpr ⟨file.oneLine, fun line hline => ?_⟩
  obtain ⟨w, -, hline⟩ := List.mem_flatMap.mp hline
  exact w.hasLineEnd_lines line hline

open Reading in
/-- A written file is read without a fault, and its contents are what it says. -/
theorem read_text (name : String) (file : WrittenFile) (mark : LineMark) (closed : Bool) :
    Contents.read name (file.text mark closed).toList = .ok file.contents := by
  obtain ⟨t, hread, ht⟩ := reads_file file
  -- The end of the last line is an empty line after it, which is read as a blank one.
  obtain ⟨u, hread, hu⟩ : ∃ u, Reads initial (file.lines ++ if closed then [[]] else []) u ∧
      u.contents = t.contents ∧ u.malformed = t.malformed := by
    cases closed with
    | false => exact ⟨t, hread.append (.nil t), rfl, rfl⟩
    | true => exact ⟨_, hread.append (reads_blank t), contents_continueOption_nil t⟩
  have hlines : ∀ line ∈ file.lines ++ (if closed then [[]] else []),
      Text.hasLineEnd line = false := by
    refine List.forall_mem_append.mpr ⟨file.hasLineEnd_lines, ?_⟩
    cases closed <;> simp [Text.hasLineEnd]
  obtain ⟨s, hs, hcontents, hmalformed⟩ := readLines_intercalate hread hlines name
  have hnone : s.malformed = [] := by rw [hmalformed, hu.2, ht.malformed]
  have hcontents : s.contents = file.contents := by rw [hcontents, hu.1, ht.contents_eq]; rfl
  rw [WrittenFile.text, String.toList_ofList, Contents.read, unifyLineEnds_intercalate mark hlines,
    hs, ← hcontents]
  change (if s.malformed.isEmpty then _ else _) = _
  rw [hnone]
  rfl

end Mailroom.SettingsFile
