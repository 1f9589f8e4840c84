import Mailroom.Header.Field
import Mailroom.Proofs.Results
import Mailroom.Proofs.Wire.FoldedValue
import Mailroom.Proofs.Wire.HeaderBlock

/-!
The header block of a mail that is written. Reading it back always finds the payload, and it finds
the fields, name by name, just if no value has a line that gets out of its field.
-/

namespace Mailroom

/-! ### Octets of characters -/

theorem Text.octet_inj {c d : Char} (hc : c.toNat < 128) (hd : d.toNat < 128)
    (h : c.toNat.toUInt8 = d.toNat.toUInt8) : c = d := by
  have hmod : c.toNat % 256 = d.toNat % 256 := by
    have h := congrArg UInt8.toNat h
    simpa only [Nat.toUInt8, UInt8.toNat_ofNat'] using h
  exact Char.toNat_inj.mp (by omega)

theorem Text.lt_of_mem_of_isAscii {s : List Char} (hs : isAscii s = true) {c : Char}
    (hc : c ∈ s) : c.toNat < 128 :=
  of_decide_eq_true (List.all_eq_true.mp hs c hc)

theorem Text.mem_ascii_iff {s : List Char} (hs : isAscii s = true) {d : Char}
    (hd : d.toNat < 128) : d.toNat.toUInt8 ∈ ascii s ↔ d ∈ s := by
  constructor
  · intro hmem
    obtain ⟨c, hc, heq⟩ := List.mem_map.mp hmem
    rw [← octet_inj (lt_of_mem_of_isAscii hs hc) hd heq]
    exact hc
  · exact fun hmem => List.mem_map.mpr ⟨d, hmem, rfl⟩

theorem Text.not_mem_ascii {s : List Char} (hs : isAscii s = true) (h : '\n' ∉ s) :
    10 ∉ ascii s :=
  mt (mem_ascii_iff hs (d := '\n') (by decide)).mp h

theorem Text.ascii_append (s t : List Char) : ascii (s ++ t) = ascii s ++ ascii t :=
  List.map_append

namespace Wire

theorem isContinuation_ascii {s : List Char} (hs : Text.isAscii s = true) :
    isContinuation (Text.ascii s) = true ↔ BeginsBlank s := by
  cases s with
  | nil =>
      refine iff_of_false (by simp [isContinuation, Text.ascii]) ?_
      exact fun h => Fold.ne_nil_of_beginsBlank h rfl
  | cons c rest =>
      have hc := Text.lt_of_mem_of_isAscii hs List.mem_cons_self
      have hspace : c.toNat.toUInt8 = 32 ↔ c = ' ' :=
        ⟨Text.octet_inj (d := ' ') hc (by decide), fun h => by rw [h]; rfl⟩
      have htab : c.toNat.toUInt8 = 9 ↔ c = '\t' :=
        ⟨Text.octet_inj (d := '\t') hc (by decide), fun h => by rw [h]; rfl⟩
      simp [isContinuation, Text.ascii, BeginsBlank, isFoldingBlank, hspace, htab]

def nameOctets : Value → Octets
  | .text s => Text.ascii s.toList
  | _ => []

/-- The name is a text that is not empty and holds name characters only. -/
def IsFieldName (name : Value) : Prop :=
  ∃ s, name = .text s ∧ s.toList ≠ [] ∧ ∀ c ∈ s.toList, Header.isNameCharacter c = true

theorem isFieldName_text {s : String}
    (h : (!s.toList.isEmpty && s.toList.all Header.isNameCharacter) = true) :
    IsFieldName (.text s) := by
  obtain ⟨hne, hall⟩ := Bool.and_eq_true_iff.mp h
  exact ⟨s, rfl, by simpa using hne, List.all_eq_true.mp hall⟩

/-- All lines of a value stay in its field. Those of a value with characters outside ASCII, which
travel as encoded words, always do. -/
def StaysContained : Value → Prop
  | .text s =>
      Text.isAscii s.toList = true → ∀ line ∈ (Text.lines s.toList).drop 1, StaysInField line
  | _ => True

theorem foldedLines_eq_cons {lead : Nat} (hlead : 0 < lead) (value : List Char) :
    ∃ first rest, foldedLines lead value = first :: rest ∧ '\n' ∉ first ∧
      (∀ l ∈ rest, l ≠ [] ∧ '\n' ∉ l) ∧
      ((∀ l ∈ rest, BeginsBlank l) ↔
        (Text.isAscii value = true → ∀ line ∈ (Text.lines value).drop 1, StaysInField line)) := by
  obtain ⟨f, hlines, hclosed, hne, hletters, hiff⟩ := foldedLines_eq_done hlead value
  have hdone : f.done = f.done.dropLast ++ [f.done.getLast hclosed.done] :=
    (List.dropLast_append_getLast hclosed.done).symm
  have hbreak : ∀ l ∈ f.done, '\n' ∉ l := fun l hl hmem =>
    (hletters _ (List.mem_append_left _ (List.mem_flatten.mpr ⟨l, hl, hmem⟩))).2 rfl
  refine ⟨f.done.getLast hclosed.done, f.done.dropLast.reverse, ?_,
    hbreak _ (List.getLast_mem hclosed.done), ?_, ?_⟩
  · rw [hlines]
    conv_lhs => rw [hdone, List.reverse_append]
    rfl
  · intro l hl
    have hl := List.mem_reverse.mp hl
    exact ⟨hne.done l hl, hbreak l (List.dropLast_subset _ hl)⟩
  · rw [← hiff]
    refine ⟨fun h => hclosed.tidy fun l hl => h l (List.mem_reverse.mpr hl), fun h l hl => ?_⟩
    exact h.done l (List.mem_reverse.mp hl)

namespace Entity

theorem writtenValue_eq_intercalate {lead : Nat} (hlead : 0 < lead) {value : Value}
    {folded : List Char} (h : writtenValue lead value = .ok folded) :
    ∃ first rest, folded = ['\n'].intercalate (first :: rest) ∧ '\n' ∉ first ∧
      (∀ l ∈ rest, l ≠ [] ∧ '\n' ∉ l) ∧
      ((∀ l ∈ rest, BeginsBlank l) ↔ StaysContained value) := by
  cases value with
  | text s =>
      obtain ⟨first, rest, hlines, hspec⟩ := foldedLines_eq_cons hlead s.toList
      refine ⟨first, rest, ?_, hspec⟩
      rw [← hlines]
      simp only [writtenValue, foldValue] at h
      split at h
      · cases h
      · exact (Except.ok.inj h).symm
  | nothing =>
      obtain rfl := Except.ok.inj h
      exact ⟨[], [], rfl, by simp, by simp, iff_of_true (by simp) trivial⟩
  | _ => cases h

theorem intercalate_append_eq_flatMap (first : List Char) (rest : List (List Char)) :
    ['\n'].intercalate (first :: rest) ++ ['\n'] = (first :: rest).flatMap (· ++ ['\n']) := by
  induction rest generalizing first with
  | nil => simp
  | cons next more ih =>
      rw [List.intercalate_cons_cons, List.flatMap_cons, ← ih]
      simp

theorem ascii_flatMap (lines : List (List Char)) :
    Text.ascii (lines.flatMap (· ++ ['\n'])) = (lines.map Text.ascii).flatMap (· ++ [10]) := by
  induction lines with
  | nil => rfl
  | cons line rest ih =>
      have hline : Text.ascii (line ++ ['\n']) = Text.ascii line ++ [10] := by simp [Text.ascii]
      rw [List.flatMap_cons, Text.ascii_append, hline, ih]
      rfl

theorem isAscii_of_mem_lines {lines : List (List Char)}
    (h : Text.isAscii (lines.flatMap (· ++ ['\n'])) = true) :
    ∀ line ∈ lines, Text.isAscii line = true := by
  intro line hline
  refine List.all_eq_true.mpr fun c hc => List.all_eq_true.mp h c ?_
  exact List.mem_flatMap.mpr ⟨line, hline, List.mem_append_left _ hc⟩

theorem isNamed_ascii {s : List Char} (hne : s ≠ [])
    (hs : ∀ c ∈ s, Header.isNameCharacter c = true) (value : Octets) (more : List Octets) :
    WrittenHeader.IsNamed ⟨Text.ascii s, value, more⟩ := by
  have hcode : ∀ c ∈ s, 33 ≤ c.toNat ∧ c.toNat ≤ 126 ∧ c.toNat ≠ 58 := by
    intro c hc
    have hc := hs c hc
    simp only [Header.isNameCharacter, Bool.or_eq_true, Bool.and_eq_true, decide_eq_true_eq] at hc
    omega
  have hascii : Text.isAscii s = true := by
    refine List.all_eq_true.mpr fun c hc => decide_eq_true ?_
    have := hcode c hc
    omega
  refine ⟨by simpa [Text.ascii] using hne, ?_, ?_⟩
  · refine mt (Text.mem_ascii_iff hascii (d := ':') (by decide)).mp fun hcolon => ?_
    exact (hcode ':' hcolon).2.2 rfl
  · refine Bool.eq_false_iff.mpr fun hbegins => ?_
    obtain ⟨c, rest, rfl, hblank⟩ := (isContinuation_ascii hascii).mp hbegins
    have hc := hcode c List.mem_cons_self
    simp only [isFoldingBlank, Bool.or_eq_true, beq_iff_eq] at hblank
    rcases hblank with rfl | rfl
    · exact absurd hc.1 (by decide)
    · exact absurd hc.1 (by decide)

theorem writtenField_eq_lines {name value : Value} (hname : IsFieldName name) {b : Octets}
    (h : writtenField name value = .ok b) :
    ∃ w : WrittenHeader, b = w.lines.flatMap (· ++ [10]) ∧ w.name = nameOctets name ∧ w.IsNamed ∧
      (∀ line ∈ w.lines, line ≠ [] ∧ 10 ∉ line) ∧
      ((∀ l ∈ w.more, isContinuation l = true) ↔ StaysContained value) := by
  obtain ⟨s, rfl, hs, hcharacters⟩ := hname
  obtain ⟨folded, hfolded, h⟩ := exists_of_bind_eq_ok (x := writtenValue _ value) h
  obtain ⟨⟨⟩, hascii, h⟩ := exists_of_bind_eq_ok h
  obtain ⟨first, rest, rfl, hfirst, hrest, hiff⟩ :=
    writtenValue_eq_intercalate (Nat.succ_pos _) hfolded
  have hwhole : s.toList ++ ':' :: ' ' :: ['\n'].intercalate (first :: rest) ++ ['\n'] =
      ((s.toList ++ ':' :: ' ' :: first) :: rest).flatMap (· ++ ['\n']) := by
    have htail := intercalate_append_eq_flatMap first rest
    rw [List.flatMap_cons] at htail ⊢
    simpa using htail
  have hlines := requireAscii_eq_ok_iff.mp hascii
  rw [hwhole] at hlines
  have hlines := isAscii_of_mem_lines hlines
  have hbreak : '\n' ∉ s.toList ++ ':' :: ' ' :: first := by
    have hname : '\n' ∉ s.toList := fun hmem => absurd (hcharacters _ hmem) (by decide)
    simp [hname, hfirst]
  refine ⟨⟨Text.ascii s.toList, Text.ascii (' ' :: first), rest.map Text.ascii⟩, ?_, rfl,
    isNamed_ascii hs hcharacters _ _, ?_, ?_⟩
  · obtain rfl := Except.ok.inj h
    rw [hwhole, ascii_flatMap]
    simp [WrittenHeader.lines, Text.ascii]
  · have heach : ∀ line ∈ (s.toList ++ ':' :: ' ' :: first) :: rest, line ≠ [] ∧ '\n' ∉ line :=
      List.forall_mem_cons.mpr ⟨⟨by simp, hbreak⟩, hrest⟩
    intro line hline
    have hline : line ∈ ((s.toList ++ ':' :: ' ' :: first) :: rest).map Text.ascii := by
      simpa [WrittenHeader.lines, Text.ascii] using hline
    obtain ⟨l, hl, rfl⟩ := List.mem_map.mp hline
    obtain ⟨hne, hbreak⟩ := heach l hl
    exact ⟨by simpa [Text.ascii] using hne, Text.not_mem_ascii (hlines l hl) hbreak⟩
  · rw [← hiff, List.forall_mem_map]
    exact forall₂_congr fun l hl =>
      isContinuation_ascii (hlines l (List.mem_cons_of_mem _ hl))

theorem writtenFields_eq_lines {fields : List (Value × Value)}
    (hnames : ∀ field ∈ fields, IsFieldName field.1) {bs : List Octets}
    (h : fields.mapM (fun field => writtenField field.1 field.2) = .ok bs) :
    ∃ ws : List WrittenHeader, bs.flatten = (ws.flatMap WrittenHeader.lines).flatMap (· ++ [10]) ∧
      ws.map WrittenHeader.name = fields.map (fun field => nameOctets field.1) ∧
      (∀ w ∈ ws, w.IsNamed) ∧
      (∀ line ∈ ws.flatMap WrittenHeader.lines, line ≠ [] ∧ 10 ∉ line) ∧
      ((∀ w ∈ ws, ∀ l ∈ w.more, isContinuation l = true) ↔
        ∀ field ∈ fields, StaysContained field.2) := by
  induction fields generalizing bs with
  | nil =>
      obtain rfl := Except.ok.inj h
      exact ⟨[], rfl, rfl, by simp, by simp, by simp⟩
  | cons field rest ih =>
      obtain ⟨hname, hnames⟩ := List.forall_mem_cons.mp hnames
      rw [List.mapM_cons] at h
      obtain ⟨b, hb, h⟩ := exists_of_bind_eq_ok h
      obtain ⟨more, hmore, h⟩ := exists_of_bind_eq_ok h
      obtain rfl := Except.ok.inj h
      obtain ⟨w, hw, hwname, hnamed, hlines, hiff⟩ := writtenField_eq_lines hname hb
      obtain ⟨ws, hws, hwsnames, hallNamed, hallLines, hall⟩ := ih hnames hmore
      refine ⟨w :: ws, ?_, ?_, List.forall_mem_cons.mpr ⟨hnamed, hallNamed⟩, ?_, ?_⟩
      · rw [List.flatten_cons, hw, hws, List.flatMap_cons, List.flatMap_append]
      · rw [List.map_cons, List.map_cons, hwname, hwsnames]
      · rw [List.flatMap_cons]
        exact List.forall_mem_append.mpr ⟨hlines, hallLines⟩
      · rw [List.forall_mem_cons, List.forall_mem_cons, hiff, hall]

end Entity

end Wire

end Mailroom
