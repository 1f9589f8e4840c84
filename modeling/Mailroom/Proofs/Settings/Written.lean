import Mathlib.Data.List.Pairwise
import Mailroom.Proofs.Results
import Mailroom.Proofs.Text.Filled
import Mailroom.Proofs.Text.Trimmed
import Mailroom.Settings.File

/-!
The grammar of settings files. An option is a line with a name, a delimiter and a value, and deeper
lines below it go on with the value; a section is a heading in brackets and options under it; a file
is sections one after the other. Blank lines and comments may stand everywhere. Each form knows the
lines it is written in and what it says.
-/

namespace Mailroom.SettingsFile

/-- How far a line is indented. -/
def depth (line : List Char) : Nat := (line.takeWhile Text.isBlank).length

/-- Whether a line says nothing: it is blank, or its first character that is no blank begins a
comment. -/
def isSilent (line : List Char) : Bool :=
  (Text.trimStart line).head?.all fun c => c == '#' || c == ';'

/-- Whether a line that has this character first after its blanks says something. -/
def isStated (c : Char) : Bool := !Text.isBlank c && c != '#' && c != ';'

/-- An option as it is written. With brackets its line would be a heading. The lines below it are
silent or deeper than its name. -/
structure WrittenOption where
  indent : List Char
  name : List Char
  delimiter : Char
  value : List Char
  below : List (List Char)
  indent_blank : indent.all Text.isBlank = true := by decide
  name_begins : name.head?.any isStated = true := by decide
  name_whole : name.any Reading.isDelimiter = false := by decide
  not_heading : name.head? = some '[' → ']' ∉ name ++ value := by decide
  delimiter_ends : Reading.isDelimiter delimiter = true := by decide
  below_belongs : ∀ line ∈ below, isSilent line = true ∨ indent.length < depth line := by decide
  oneLine : ∀ line ∈ (indent ++ name ++ delimiter :: value) :: below,
    Text.hasLineEnd line = false := by decide

namespace WrittenOption

def lines (o : WrittenOption) : List (List Char) :=
  (o.indent ++ o.name ++ o.delimiter :: o.value) :: o.below

theorem exists_name (o : WrittenOption) :
    ∃ first more, o.name = first :: more ∧ isStated first = true := by
  have hbegins := o.name_begins
  cases hname : o.name with
  | nil =>
      rw [hname] at hbegins
      cases hbegins
  | cons first more =>
      rw [hname] at hbegins
      exact ⟨first, more, rfl, hbegins⟩

/-- The name under which an option is found. -/
def key (o : WrittenOption) : String := String.ofList (Text.lower (Text.trimEnd o.name))

/-- The lines of the value. A blank line counts, a comment does not. -/
def stated (o : WrittenOption) : List (List Char) :=
  Text.trim o.value :: (o.below.map Text.trim).filter fun line => !Reading.isComment line

/-- The option as it is kept while a file is read. -/
def found (o : WrittenOption) : String × List (List Char) := (o.key, o.stated.reverse)

def text (o : WrittenOption) : String :=
  String.ofList (Text.trimEnd (['\n'].intercalate o.stated))

end WrittenOption

/-- A section as it is written. An option that stood deeper than the one before it would go on with
the value of that one. -/
structure WrittenSection where
  indent : List Char
  name : String
  /-- What stands after the closing bracket. -/
  beside : List Char
  below : List (List Char)
  options : List WrittenOption
  indent_blank : indent.all Text.isBlank = true := by decide
  name_ne_empty : name ≠ "" := by decide
  beside_open : ']' ∉ beside := by decide
  below_silent : ∀ line ∈ below, isSilent line = true := by decide
  oneLine : ∀ line ∈ (indent ++ '[' :: (name.toList ++ ']' :: beside)) :: below,
    Text.hasLineEnd line = false := by decide
  keys_distinct : (options.map WrittenOption.key).Nodup := by decide
  never_deeper : options.Pairwise fun o later => later.indent.length ≤ o.indent.length := by decide

namespace WrittenSection

def lines (w : WrittenSection) : List (List Char) :=
  (w.indent ++ '[' :: (w.name.toList ++ ']' :: w.beside)) ::
    (w.below ++ w.options.flatMap WrittenOption.lines)

def found (w : WrittenSection) : String × Options := (w.name, w.options.map WrittenOption.found)

def contents (w : WrittenSection) : String × Entries String String :=
  (w.name, w.options.map fun o => (o.key, o.text))

end WrittenSection

/-- A file as it is written: sections of different names, none of which is the default one. A
heading that stood deeper than an option before it would go on with the value of that one. -/
structure WrittenFile where
  above : List (List Char)
  sections : List WrittenSection
  above_silent : ∀ line ∈ above, isSilent line = true := by decide
  oneLine : ∀ line ∈ above, Text.hasLineEnd line = false := by decide
  names_distinct : (sections.map WrittenSection.name).Nodup := by decide
  names_own : defaultName ∉ sections.map WrittenSection.name := by decide
  never_deeper : sections.IsChain fun w next =>
    ∀ o ∈ w.options, next.indent.length ≤ o.indent.length := by decide

/-- How the lines of a file are ended. -/
inductive LineMark
  | lineFeed
  | carriageReturn
  | both
  deriving DecidableEq, Repr

def LineMark.chars : LineMark → List Char
  | lineFeed => ['\n']
  | carriageReturn => ['\r']
  | both => ['\r', '\n']

namespace WrittenFile

def lines (file : WrittenFile) : List (List Char) :=
  file.above ++ file.sections.flatMap WrittenSection.lines

/-- The text of a file, in which the last line is ended or not. -/
def text (file : WrittenFile) (mark : LineMark) (closed : Bool) : String :=
  String.ofList (mark.chars.intercalate (file.lines ++ if closed then [[]] else []))

def contents (file : WrittenFile) : Contents := ⟨[], file.sections.map WrittenSection.contents⟩

end WrittenFile

/-! ### Lines that are read back -/

theorem unifyLineEnds_append {line : List Char} (h : '\r' ∉ line) (rest : List Char) :
    Text.unifyLineEnds (line ++ rest) = line ++ Text.unifyLineEnds rest := by
  induction line with
  | nil => rfl
  | cons c line ih =>
      obtain ⟨hc, hline⟩ := not_or.mp (mt List.mem_cons.mpr h)
      rw [List.cons_append, Text.unifyLineEnds, ih hline, List.cons_append]
      · exact fun _ heq => absurd heq.symm hc
      · exact fun heq => hc heq.symm

/-- A carriage return must not meet a line feed that is no part of its mark. -/
theorem unifyLineEnds_mark {mark : LineMark} {rest : List Char}
    (h : mark = .carriageReturn → '\n' ∉ rest) :
    Text.unifyLineEnds (mark.chars ++ rest) = '\n' :: Text.unifyLineEnds rest := by
  cases mark with
  | lineFeed =>
      have hmark : '\r' ∉ ['\n'] := by decide
      exact unifyLineEnds_append hmark rest
  | both => rw [LineMark.chars, List.cons_append, List.singleton_append, Text.unifyLineEnds]
  | carriageReturn =>
      rw [LineMark.chars, List.singleton_append, Text.unifyLineEnds]
      rintro more rfl
      exact h rfl List.mem_cons_self

variable {lines : List (List Char)}

theorem unifyLineEnds_intercalate (mark : LineMark)
    (h : ∀ line ∈ lines, Text.hasLineEnd line = false) :
    Text.unifyLineEnds (mark.chars.intercalate lines) = ['\n'].intercalate lines := by
  induction lines with
  | nil => rfl
  | cons first rest ih =>
      obtain ⟨hfirst, hrest⟩ := List.forall_mem_cons.mp h
      have hreturn := (Text.hasLineEnd_eq_false_iff.mp hfirst).1
      cases rest with
      | nil => simpa [Text.unifyLineEnds] using unifyLineEnds_append hreturn []
      | cons next more =>
          have hmark : mark = .carriageReturn →
              '\n' ∉ mark.chars.intercalate (next :: more) := by
            rintro rfl hfeed
            have hreturn : ∀ c ∈ ['\r'], c ≠ '\n' := List.forall_mem_singleton.mpr (by decide)
            have hplain : ∀ c ∈ ['\r'].intercalate (next :: more), c ≠ '\n' := by
              refine (forall_mem_intercalate hreturn).mpr fun line hline c hc heq => ?_
              exact (Text.hasLineEnd_eq_false_iff.mp (hrest line hline)).2 (heq ▸ hc)
            exact hplain '\n' hfeed rfl
          rw [List.intercalate_cons_cons, List.intercalate_cons_cons, List.append_assoc,
            List.append_assoc, unifyLineEnds_append hreturn, unifyLineEnds_mark hmark, ih hrest]
          rfl

theorem linesWithEnds_append {line : List Char} (h : '\n' ∉ line) (read rest : List Char) :
    linesWithEnds read (line ++ rest) = linesWithEnds (line.reverse ++ read) rest := by
  induction line generalizing read with
  | nil => rfl
  | cons c line ih =>
      obtain ⟨hc, hline⟩ := not_or.mp (mt List.mem_cons.mpr h)
      rw [List.cons_append, linesWithEnds, if_neg (by simpa using Ne.symm hc), ih hline]
      simp

/-- Every line is read with its end, but for the last one, which has none and is only there if it
is not empty. -/
theorem linesWithEnds_intercalate {last : List Char}
    (h : ∀ line ∈ lines ++ [last], Text.hasLineEnd line = false) :
    linesWithEnds [] (['\n'].intercalate (lines ++ [last])) =
      lines.map (· ++ ['\n']) ++ if last.isEmpty then [] else [last] := by
  induction lines with
  | nil =>
      have hlast := (Text.hasLineEnd_eq_false_iff.mp (h last (by simp))).2
      have hread := linesWithEnds_append hlast [] []
      rw [List.append_nil, List.append_nil] at hread
      simp [hread, linesWithEnds]
  | cons first rest ih =>
      obtain ⟨hfirst, hrest⟩ := List.forall_mem_cons.mp h
      have hfeed := (Text.hasLineEnd_eq_false_iff.mp hfirst).2
      obtain ⟨next, more, hnext⟩ := List.exists_cons_of_ne_nil
        (List.append_ne_nil_of_right_ne_nil rest (List.cons_ne_nil last []))
      rw [List.cons_append, hnext, List.intercalate_cons_cons, ← hnext, List.append_assoc,
        linesWithEnds_append hfeed, List.singleton_append, linesWithEnds,
        if_pos (beq_self_eq_true '\n'), ih hrest]
      simp

end Mailroom.SettingsFile
