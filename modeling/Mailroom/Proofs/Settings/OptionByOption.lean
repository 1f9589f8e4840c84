import Mailroom.Proofs.Settings.Loading
import Mailroom.Proofs.Settings.Reading

/-!
Files that give settings, option by option. A section that gives settings has a line for each of
them. Loading it fails just for a number that cannot be read; else each setting that is given is
what its text is read as and all others are as they were at first, in whatever order the lines stand
and whatever other sections there are.
-/

namespace Mailroom

namespace SettingsFile

/-- A setting as it is given in a section: its option, an equal sign and a text on a line, and
silent lines below. -/
structure GivenSetting where
  setting : Setting
  text : String
  below : List (List Char) := []
  text_oneLine : Text.hasLineEnd text.toList = false := by decide
  text_trimmed : Text.trim text.toList = text.toList := by decide
  below_silent : ∀ line ∈ below, isSilent line = true := by decide
  below_oneLine : ∀ line ∈ below, Text.hasLineEnd line = false := by decide

namespace GivenSetting

/-- The name of the option and the text. -/
def entry (g : GivenSetting) : String × String := (g.setting.option.1, g.text)

def written (g : GivenSetting) : WrittenOption where
  indent := []
  name := g.setting.option.1.toList ++ [' ']
  delimiter := '='
  value := ' ' :: g.text.toList
  below := g.below
  indent_blank := rfl
  name_begins := by cases g.setting <;> decide
  name_whole := by cases g.setting <;> decide
  not_heading := fun h => absurd h (by cases g.setting <;> decide)
  delimiter_ends := rfl
  below_belongs := fun line hline => .inl (g.below_silent line hline)
  oneLine := by
    have hname : Text.hasLineEnd (g.setting.option.1.toList ++ [' ', '=', ' ']) = false := by
      cases g.setting <;> decide
    refine List.forall_mem_cons.mpr ⟨?_, g.below_oneLine⟩
    have hline : [] ++ (g.setting.option.1.toList ++ [' ']) ++ '=' :: ' ' :: g.text.toList =
        g.setting.option.1.toList ++ [' ', '=', ' '] ++ g.text.toList := by
      simp
    rw [hline, Text.hasLineEnd, List.any_append, Bool.or_eq_false_iff]
    exact ⟨hname, g.text_oneLine⟩

theorem key_written (g : GivenSetting) : g.written.key = g.setting.option.1 := by
  change String.ofList (Text.lower (Text.trimEnd (g.setting.option.1.toList ++ [' ']))) = _
  cases g.setting <;> decide

/-- Silent lines below an option do not show in its text. -/
theorem text_written (g : GivenSetting) : g.written.text = g.text := by
  have hblank : ∀ line ∈ (g.below.map Text.trim).filter fun line => !Reading.isComment line,
      line = [] := by
    intro line hline
    obtain ⟨hmem, hfilled⟩ := List.mem_filter.mp hline
    obtain ⟨below, hbelow, rfl⟩ := List.mem_map.mp hmem
    have hsilent := Reading.comment_or_blank (g.below_silent below hbelow)
    exact hsilent.resolve_left (by simpa using hfilled)
  have hvalue : Text.trim (' ' :: g.text.toList) = g.text.toList := by
    have hindent : ∀ c ∈ [' '], Text.isBlank c = true := List.forall_mem_singleton.mpr rfl
    calc Text.trim (' ' :: g.text.toList)
        = Text.trim g.text.toList := congrArg Text.trimEnd (Text.trimStart_append hindent _)
      _ = g.text.toList := g.text_trimmed
  have hend : Text.trimEnd g.text.toList = g.text.toList := by
    rw [← g.text_trimmed, Text.trim, Text.trimEnd_trimEnd]
  have hstated : g.written.stated = [g.text.toList] ++
      (g.below.map Text.trim).filter fun line => !Reading.isComment line :=
    congrArg (· :: _) hvalue
  rw [WrittenOption.text, hstated, Reading.trimEnd_intercalate_append hblank,
    List.intercalate_singleton, hend, String.ofList_toList]

end GivenSetting

/-- A section that gives settings, each one once. -/
structure GivenSection where
  heading : String
  below : List (List Char) := []
  given : List GivenSetting
  heading_ne_empty : heading ≠ "" := by decide
  heading_oneLine : Text.hasLineEnd heading.toList = false := by decide
  below_silent : ∀ line ∈ below, isSilent line = true := by decide
  below_oneLine : ∀ line ∈ below, Text.hasLineEnd line = false := by decide
  once : (given.map GivenSetting.setting).Nodup := by decide

namespace GivenSection

def entries (w : GivenSection) : Entries String String := w.given.map GivenSetting.entry

theorem nodup_entries (w : GivenSection) : (w.entries.map Prod.fst).Nodup := by
  have hnames : w.entries.map Prod.fst =
      (w.given.map GivenSetting.setting).map fun setting => setting.option.1 := by
    rw [entries, List.map_map, List.map_map]
    rfl
  rw [hnames]
  exact w.once.map fun _ _ => Setting.option_injective

theorem find?_entries_iff {w : GivenSection} {setting : Setting} {s : String} :
    w.entries.find? (· == ·) setting.option.1 = some s ↔
      ∃ g ∈ w.given, g.setting = setting ∧ g.text = s := by
  rw [Entries.find?_eq_some_iff w.nodup_entries, entries, List.mem_map]
  refine exists_congr fun g => and_congr_right fun _ => ?_
  rw [GivenSetting.entry, Prod.mk.injEq]
  refine and_congr_left fun _ => ⟨Setting.option_injective, fun h => ?_⟩
  rw [h]

def written (w : GivenSection) : WrittenSection where
  indent := []
  name := w.heading
  beside := []
  below := w.below
  options := w.given.map GivenSetting.written
  indent_blank := rfl
  name_ne_empty := w.heading_ne_empty
  beside_open := nofun
  below_silent := w.below_silent
  oneLine := by
    refine List.forall_mem_cons.mpr ⟨?_, w.below_oneLine⟩
    have hheading := w.heading_oneLine
    rw [Text.hasLineEnd] at hheading ⊢
    rw [List.nil_append, List.any_cons, List.any_append, hheading]
    rfl
  keys_distinct := by
    have hkeys : (w.given.map GivenSetting.written).map WrittenOption.key =
        w.entries.map Prod.fst := by
      rw [entries, List.map_map, List.map_map]
      exact List.map_congr_left fun g _ => g.key_written
    rw [hkeys]
    exact w.nodup_entries
  never_deeper := by
    refine List.pairwise_map.mpr (List.pairwise_of_forall fun _ _ => ?_)
    exact Nat.le_refl 0

theorem contents_written (w : GivenSection) :
    w.written.contents = (w.heading, w.entries) := by
  rw [WrittenSection.contents, written, List.map_map]
  refine congrArg (Prod.mk w.heading) (List.map_congr_left fun g _ => ?_)
  rw [Function.comp_apply, g.key_written, g.text_written, GivenSetting.entry]

/-- Settings that a section yields: the given ones are what their texts are read as, all others are
as they were at first. -/
structure Yields (w : GivenSection) (c : Settings) : Prop where
  given : ∀ g ∈ w.given, g.setting.option.2.read (.text g.text) = .ok (c.get g.setting)
  others : ∀ setting, setting ∉ w.given.map GivenSetting.setting →
    c.get setting = Settings.initial.get setting

theorem yields_of_becomes {w : GivenSection} {c : Settings}
    (h : ∀ setting, Settings.Becomes (fun name => w.entries.find? (· == ·) name) setting
      (Settings.initial.get setting) (c.get setting)) : w.Yields c where
  given g hg := by
    have hown := h g.setting
    rwa [Settings.Becomes, find?_entries_iff.mpr ⟨g, hg, rfl, rfl⟩] at hown
  others setting hsetting := by
    have hnone : w.entries.find? (· == ·) setting.option.1 = none := by
      refine Option.eq_none_iff_forall_ne_some.mpr fun s hs => ?_
      obtain ⟨g, hg, rfl, -⟩ := find?_entries_iff.mp hs
      exact hsetting (List.mem_map_of_mem hg)
    have hown := h setting
    rwa [Settings.Becomes, hnone] at hown

/-- A section that yields settings has no text in it that cannot be read. -/
theorem Yields.not_unreadable {w : GivenSection} {c : Settings} (h : w.Yields c) {g : GivenSetting}
    (hg : g ∈ w.given) : ¬g.setting.Unreadable g.text := by
  intro hunreadable
  obtain ⟨v, -, hreadable⟩ | ⟨-, cause, hcause⟩ := g.setting.read_text_cases g.text
  · exact hreadable hunreadable
  · rw [h.given g hg] at hcause
    cases hcause

end GivenSection

theorem WrittenFile.names_contents (file : WrittenFile) :
    file.contents.sections.map Prod.fst = file.sections.map WrittenSection.name := by
  rw [WrittenFile.contents, List.map_map]
  rfl

theorem WrittenFile.nodup_contents (file : WrittenFile) :
    (file.contents.sections.map Prod.fst).Nodup := by
  rw [file.names_contents]
  exact file.names_distinct

end SettingsFile

namespace Settings

open SettingsFile

/-- What is loaded from a written file depends on what its sections say. -/
theorem load_written (path : String) (file : WrittenFile) (mark : LineMark) (closed : Bool)
    (heading : String) :
    load path (.text (file.text mark closed)) (.text heading) =
      match file.contents.sections.find? (· == ·) heading with
      | none => .ok initial
      | some options => ofOptions fun name => options.find? (· == ·) name := by
  change (Contents.read path (file.text mark closed).toList >>= fun contents =>
    ofContents contents (.text heading)) = _
  rw [read_text]
  change (match file.contents.sections.find? (· == ·) heading with
    | none => Except.ok initial
    | some options => ofOptions (file.contents.find? options)) = _
  cases file.contents.sections.find? (· == ·) heading with
  | none => rfl
  | some options =>
      refine ofOptions_congr fun setting => ?_
      -- A written file has no default section to look in.
      rw [Contents.find?]
      cases options.find? (· == ·) setting.option.1 <;> rfl

theorem load_given (path : String) {w : GivenSection} {file : WrittenFile}
    (h : w.written ∈ file.sections) (mark : LineMark) (closed : Bool) :
    load path (.text (file.text mark closed)) (.text w.heading) =
      ofOptions fun name => w.entries.find? (· == ·) name := by
  have hmem : (w.heading, w.entries) ∈ file.contents.sections := by
    rw [← w.contents_written]
    exact List.mem_map_of_mem h
  rw [load_written, (Entries.find?_eq_some_iff file.nodup_contents).mpr hmem]

theorem load_absent (path : String) {file : WrittenFile} {heading : String}
    (h : heading ∉ file.sections.map WrittenSection.name) (mark : LineMark) (closed : Bool) :
    load path (.text (file.text mark closed)) (.text heading) = .ok initial := by
  have hnames : file.contents.sections.map Prod.fst = file.sections.map WrittenSection.name :=
    file.names_contents
  rw [← hnames] at h
  rw [load_written, Entries.find?_eq_none_iff.mpr h]

/-- A section that gives settings yields them, or a number in it cannot be read. -/
theorem load_given_cases (path : String) {w : GivenSection} {file : WrittenFile}
    (h : w.written ∈ file.sections) (mark : LineMark) (closed : Bool) :
    (∃ c, load path (.text (file.text mark closed)) (.text w.heading) = .ok c ∧ w.Yields c) ∨
      ∃ g ∈ w.given, g.setting.Unreadable g.text ∧ ∃ cause,
        load path (.text (file.text mark closed)) (.text w.heading) = .error (.value cause) := by
  rw [load_given path h]
  obtain ⟨c, hc, hbecomes⟩ | ⟨setting, s, cause, hs, hunreadable, hcause⟩ :=
    ofOptions_cases fun name => w.entries.find? (· == ·) name
  · exact .inl ⟨c, hc, GivenSection.yields_of_becomes hbecomes⟩
  · obtain ⟨g, hg, rfl, rfl⟩ := GivenSection.find?_entries_iff.mp hs
    exact .inr ⟨g, hg, hunreadable, cause, hcause⟩

/-- Loading a section that gives settings fails just if a number among them cannot be read; else the
section yields the settings that are loaded. The order of the lines and the rest of the file do not
matter, and a section that is not there gives nothing. -/
theorem load_option_by_option (path : String) (w : GivenSection) {file : WrittenFile}
    (h : w.written ∈ file.sections) (mark : LineMark) (closed : Bool) :
    let found := load path (.text (file.text mark closed)) (.text w.heading)
    ((∃ cause, found = .error (.value cause)) ↔ ∃ g ∈ w.given, g.setting.Unreadable g.text) ∧
      ((∀ g ∈ w.given, ¬g.setting.Unreadable g.text) → ∃ c, found = .ok c ∧ w.Yields c) ∧
      (∀ (other : GivenSection) (otherFile : WrittenFile), other.written ∈ otherFile.sections →
        other.entries.Perm w.entries → ∀ path mark closed,
          load path (.text (otherFile.text mark closed)) (.text other.heading) = found) ∧
      ∀ (absent : WrittenFile) (heading : String),
        heading ∉ absent.sections.map WrittenSection.name → ∀ path mark closed,
          load path (.text (absent.text mark closed)) (.text heading) = .ok initial := by
  intro found
  have hcases : (∃ c, found = .ok c ∧ w.Yields c) ∨
      ∃ g ∈ w.given, g.setting.Unreadable g.text ∧ ∃ cause, found = .error (.value cause) :=
    load_given_cases path h mark closed
  have hfound : found = ofOptions fun name => w.entries.find? (· == ·) name :=
    load_given path h mark closed
  refine ⟨⟨?_, ?_⟩, fun hreadable => ?_, fun other otherFile hother hperm path mark closed => ?_,
    fun absent heading hheading path mark closed => load_absent path hheading mark closed⟩
  · rintro ⟨cause, hcause⟩
    obtain ⟨c, hc, -⟩ | ⟨g, hg, hunreadable, -⟩ := hcases
    · rw [hc] at hcause
      cases hcause
    · exact ⟨g, hg, hunreadable⟩
  · rintro ⟨g, hg, hunreadable⟩
    obtain ⟨c, -, hyields⟩ | ⟨-, -, -, hcause⟩ := hcases
    · exact absurd hunreadable (hyields.not_unreadable hg)
    · exact hcause
  · obtain hyields | ⟨g, hg, hunreadable, -⟩ := hcases
    · exact hyields
    · exact absurd hunreadable (hreadable g hg)
  · rw [load_given path hother, hfound]
    exact ofOptions_congr fun setting => Entries.find?_perm w.nodup_entries hperm _

/-- A section with an indented option whose value goes on, and a comment and a blank line in it. -/
def relaySection : WrittenSection where
  indent := []
  name := "relay"
  beside := []
  below := ["; the other relay".toList]
  options := [{
    indent := "  ".toList
    name := "hostname".toList
    delimiter := ':'
    value := "mx".toList
    below := ["    .example.com".toList, []] }]

/-- A section that gives a port, a password with delimiters in it, and no timeout. -/
def mailSection : GivenSection where
  heading := "mail"
  given := [
    { setting := .smtpPort, text := "587" },
    { setting := .password, text := "a=b;c #[d]", below := ["# as agreed".toList] },
    { setting := .socketTimeout, text := "" }]

def mailFile : WrittenFile where
  above := []
  sections := [relaySection, mailSection.written]

theorem text_mailFile : mailFile.text .lineFeed true =
    "[relay]\n; the other relay\n  hostname:mx\n    .example.com\n\n" ++
      "[mail]\nport = 587\npassword = a=b;c #[d]\n# as agreed\ntimeout = \n" := by
  decide

theorem mailFile_loads :
    mailSection.written ∈ mailFile.sections ∧
      (∀ g ∈ mailSection.given, ¬g.setting.Unreadable g.text) ∧
      ∃ c, load "mail.ini" (.text (
          "[relay]\n; the other relay\n  hostname:mx\n    .example.com\n\n" ++
            "[mail]\nport = 587\npassword = a=b;c #[d]\n# as agreed\ntimeout = \n"))
          (.text "mail") = .ok c ∧
        c.get .smtpPort = .int 587 ∧ c.get .password = .text "a=b;c #[d]" ∧
        c.get .socketTimeout = .nothing ∧ c.get .hostName = .nothing := by
  have hmem : mailSection.written ∈ mailFile.sections := by simp [mailFile]
  have hreadable : ∀ g ∈ mailSection.given, ¬g.setting.Unreadable g.text := by
    refine List.forall_mem_cons.mpr ⟨fun h => ?_, List.forall_mem_cons.mpr ⟨fun h => ?_,
      List.forall_mem_singleton.mpr fun h => ?_⟩⟩
    · exact h.notInteger ⟨587, by decide⟩
    · exact absurd h.isNumber (by decide)
    · exact h.isSet.1 rfl
  obtain ⟨-, hloads, -⟩ := load_option_by_option "mail.ini" mailSection hmem .lineFeed true
  obtain ⟨c, hc, hyields⟩ := hloads hreadable
  obtain ⟨hport, hgiven⟩ := List.forall_mem_cons.mp hyields.given
  obtain ⟨hpassword, hgiven⟩ := List.forall_mem_cons.mp hgiven
  have htimeout := List.forall_mem_singleton.mp hgiven
  rw [text_mailFile] at hc
  exact ⟨hmem, hreadable, c, hc, (Except.ok.inj hport).symm, (Except.ok.inj hpassword).symm,
    (Except.ok.inj htimeout).symm, hyields.others .hostName (by decide)⟩

end Settings

end Mailroom
