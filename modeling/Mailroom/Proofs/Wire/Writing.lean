import Mailroom.Proofs.Wire.WrittenFields

/-!
When a mail can be written. A field is written unless its folded value looks as if another field
began in it. The payload is written if it is what the kind of content asks for, which for a plain
text is anything.
-/

namespace Mailroom

namespace Wire

/-! ### Folded values -/

theorem isAscii_intercalate {lines : List (List Char)}
    (h : ∀ l ∈ lines, ∀ c ∈ l, c.toNat < 128) : Text.isAscii (['\n'].intercalate lines) = true := by
  have hbreak : ∀ c ∈ ['\n'], c.toNat < 128 := List.forall_mem_singleton.mpr (by decide)
  rw [Text.isAscii, List.all_eq_true]
  exact fun c hc => decide_eq_true ((forall_mem_intercalate hbreak).mpr h c hc)

/-- Whatever the value is, its folded lines are ASCII. -/
theorem isAscii_folded {lead : Nat} (hlead : 0 < lead) (value : List Char) :
    Text.isAscii (['\n'].intercalate (foldedLines lead value)) = true := by
  obtain ⟨f, hlines, hholds⟩ := foldedLines_eq_done hlead value
  rw [hlines]
  refine isAscii_intercalate fun l hl c hc => (hholds.letters c ?_).1
  exact List.mem_append_left _ (List.mem_flatten.mpr ⟨l, List.mem_reverse.mp hl, hc⟩)

namespace Entity

/-- The value, folded for a field of this name, does not look as if it held another field. -/
def Folds (name : Value) : Value → Prop
  | .text s =>
      hasEmbeddedField (['\n'].intercalate (foldedLines (fieldLead name) s.toList)) = false
  | .nothing => True
  | _ => False

theorem isOk_writtenValue_iff (name value : Value) :
    (writtenValue (fieldLead name) value).isOk = true ↔ Folds name value := by
  cases value with
  | text s =>
      simp only [writtenValue, foldValue, Folds]
      split
      · rename_i hembedded
        simp [hembedded]
      · rename_i hembedded
        exact iff_of_true rfl (Bool.of_not_eq_true hembedded)
  | nothing => exact iff_of_true rfl trivial
  | _ => exact iff_of_false Bool.false_ne_true id

theorem isAscii_written {name value : Value} {folded : List Char} (hlead : 0 < fieldLead name)
    (h : writtenValue (fieldLead name) value = .ok folded) : Text.isAscii folded = true := by
  cases value with
  | text s =>
      simp only [writtenValue, foldValue] at h
      split at h
      · cases h
      · obtain rfl := Except.ok.inj h
        exact isAscii_folded hlead s.toList
  | nothing =>
      obtain rfl := Except.ok.inj h
      rfl
  | _ => cases h

theorem isOk_writtenField_iff {name : String} (hname : Text.isAscii name.toList = true)
    (value : Value) :
    (writtenField (.text name) value).isOk = true ↔ Folds (.text name) value := by
  rw [← isOk_writtenValue_iff, isOk_iff]
  constructor
  · intro hfield
    obtain ⟨bs, hfield⟩ := hfield
    obtain ⟨folded, hfolded, -⟩ :=
      exists_of_bind_eq_ok (x := writtenValue (fieldLead (.text name)) value) hfield
    rw [hfolded]
    rfl
  · intro hvalue
    obtain ⟨folded, hfolded⟩ := isOk_iff.mp hvalue
    have hascii : requireAscii (name.toList ++ ':' :: ' ' :: folded ++ ['\n']) = .ok () := by
      have hlead : 0 < fieldLead (.text name) := Nat.succ_pos _
      have hwritten := isAscii_written hlead hfolded
      have hmarks : Text.isAscii [':', ' '] = true ∧ Text.isAscii ['\n'] = true := by decide
      refine requireAscii_eq_ok_iff.mpr ?_
      simp only [Text.isAscii, List.all_append, List.all_cons, List.all_nil] at *
      simp [hname, hwritten]
    refine ⟨Text.ascii (name.toList ++ ':' :: ' ' :: folded ++ ['\n']), ?_⟩
    simp only [writtenField, Value.plain, bind, Except.bind, hfolded, hascii, pure, Except.pure]

/-! ### Payloads -/

variable {e : Entity} {bs : List UInt8}

/-- Whether octets can be written for a kind of content. Parts have to read as ASCII, an enclosed
mail is ASCII itself, and a report is written only when it is empty. -/
def Suits (e : Entity) (bs : List UInt8) : Writer → Prop
  | .text => True
  | .parts => ∃ s, e.payloadValue = .ok (.text s) ∧ Text.isAscii s.toList = true
  | .enclosed => bs.all (· < 128) = true
  | .report => bs = []

theorem text_of_payloadValue {v : Value} (hbs : e.payload = .octets bs)
    (h : e.payloadValue = .ok v) : ∃ s, v = .text s := by
  obtain ⟨transfer, -, h⟩ := exists_of_bind_eq_ok h
  rw [hbs] at h
  dsimp only at h
  split at h
  · obtain ⟨s, -, h⟩ := exists_of_bind_eq_ok h
    exact ⟨_, (Except.ok.inj h).symm⟩
  · obtain ⟨charset, -, h⟩ := exists_of_bind_eq_ok h
    obtain ⟨s, -, h⟩ := exists_of_bind_eq_ok h
    exact ⟨_, (Except.ok.inj h).symm⟩

theorem isOk_payloadValue (hbs : e.payload = .octets bs) (hascii : bs.all (· < 128) = true)
    (hencoding : ∀ v, e.get? encodingName = some v → v.isText = true) :
    e.payloadValue.isOk = true := by
  have hplain : ∃ s, ((e.get? encodingName).getD (.text "")).plain = .ok s := by
    cases hvalue : e.get? encodingName with
    | none => exact ⟨"", rfl⟩
    | some v =>
        have htext := hencoding v hvalue
        cases v with
        | text s => exact ⟨s, rfl⟩
        | _ => cases htext
  obtain ⟨transfer, htransfer⟩ := hplain
  have hread : (readAscii bs).isOk = true := rfl
  obtain ⟨s, hs⟩ := isOk_iff.mp hread
  simp only [payloadValue, htransfer, hbs, hascii, hs, if_true, bind, Except.bind]
  rfl

theorem isOk_writeParts_iff (hbs : e.payload = .octets bs) :
    e.writeParts.isOk = true ↔ e.Suits bs .parts := by
  unfold writeParts
  rw [hbs, Suits]
  dsimp only
  rw [isOk_bind]
  constructor
  · intro h
    obtain ⟨v, hv, h⟩ := h
    obtain ⟨s, rfl⟩ := text_of_payloadValue hbs hv
    obtain ⟨⟨⟩, hascii, -⟩ := isOk_bind.mp h
    exact ⟨s, hv, requireAscii_eq_ok_iff.mp hascii⟩
  · intro h
    obtain ⟨s, hv, hascii⟩ := h
    exact ⟨_, hv, isOk_bind.mpr ⟨(), requireAscii_eq_ok_iff.mpr hascii, rfl⟩⟩

theorem isOk_rawAscii_iff : (rawAscii bs).isOk = true ↔ bs.all (· < 128) = true := by
  unfold rawAscii
  cases hfound : bs.findIdx? (· ≥ 128) with
  | none =>
      refine iff_of_true rfl (List.all_eq_true.mpr fun b hb => ?_)
      have hlow := List.findIdx?_eq_none_iff.mp hfound b hb
      simpa using hlow
  | some start =>
      refine iff_of_false Bool.false_ne_true fun hall => ?_
      have hnone : bs.findIdx? (· ≥ 128) = none :=
        List.findIdx?_eq_none_iff.mpr fun b hb => by
          have hlow := List.all_eq_true.mp hall b hb
          simpa using hlow
      rw [hnone] at hfound
      cases hfound

theorem isOk_writtenPayload_iff (hbs : e.payload = .octets bs) {kind : List Char}
    (hkind : e.contentType = .ok kind)
    (hencoding : ∀ v, e.get? encodingName = some v → v.isText = true) :
    e.writtenPayload.isOk = true ↔ e.Suits bs (writerFor kind) := by
  rw [writtenPayload, hkind, hbs]
  dsimp only [bind, Except.bind]
  cases writerFor kind with
  | parts => exact isOk_writeParts_iff hbs
  | enclosed =>
      dsimp only
      rw [writeEnclosed, hbs]
      exact isOk_rawAscii_iff
  | report =>
      dsimp only
      rw [writeReport, hbs]
      cases bs with
      | nil => exact iff_of_true rfl rfl
      | cons b rest => exact iff_of_false Bool.false_ne_true (List.cons_ne_nil b rest)
  | text =>
      refine iff_of_true ?_ trivial
      dsimp only
      split
      · rename_i hascii
        obtain ⟨v, hv⟩ := isOk_iff.mp (isOk_payloadValue hbs hascii hencoding)
        rw [hv]
        rfl
      · rfl

/-! ### Mails -/

/-- A mail whose names are texts in ASCII is written just if its payload suits the kind of content
and all its values can be folded. -/
theorem isOk_write_iff (hnames : ∀ field ∈ e.fields, ∃ name, field.1 = .text name ∧
      Text.isAscii name.toList = true) :
    e.write.isOk = true ↔
      e.writtenPayload.isOk = true ∧ ∀ field ∈ e.fields, Folds field.1 field.2 := by
  have hfields : (e.fields.mapM fun field => writtenField field.1 field.2).isOk = true ↔
      ∀ field ∈ e.fields, Folds field.1 field.2 := by
    rw [isOk_mapM]
    refine forall₂_congr fun field hfield => ?_
    obtain ⟨name, hname, hascii⟩ := hnames field hfield
    rw [hname]
    exact isOk_writtenField_iff hascii field.2
  rw [← hfields, write, isOk_bind, isOk_iff]
  constructor
  · intro h
    obtain ⟨payload, hpayload, h⟩ := h
    obtain ⟨fields, hok, -⟩ := isOk_bind.mp h
    exact ⟨⟨payload, hpayload⟩, by rw [hok]; rfl⟩
  · intro h
    obtain ⟨⟨payload, hpayload⟩, hok⟩ := h
    obtain ⟨fields, hok⟩ := isOk_iff.mp hok
    exact ⟨payload, hpayload, isOk_bind.mpr ⟨fields, hok, rfl⟩⟩

end Entity

end Wire

end Mailroom
