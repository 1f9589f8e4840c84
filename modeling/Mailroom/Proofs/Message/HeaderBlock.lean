import Mailroom.Message
import Mailroom.Proofs.Wire.WrittenFields

/-!
The mail that a message stands for, read back from the octets it is written as. The names of its
fields are proper if those of the message's own headers are. The payload is always found; the
fields are found just if every value stays in its field, which a value with a vertical tab, a form
feed or a separator need not do.
-/

namespace Mailroom

namespace Wire.Entity

def HasFieldNames (e : Entity) : Prop := ∀ field ∈ e.fields, IsFieldName field.1

variable {e : Entity} {name : String} {v : Value}

theorem HasFieldNames.append (h : e.HasFieldNames) (hname : IsFieldName (.text name)) :
    (e.append name v).HasFieldNames :=
  List.forall_mem_append.mpr ⟨h, List.forall_mem_singleton.mpr hname⟩

theorem HasFieldNames.replace (h : e.HasFieldNames) (hname : IsFieldName (.text name)) :
    (e.replace name v).HasFieldNames := by
  have hrest : (e.remove (Text.lowerText name)).HasFieldNames := fun field hfield =>
    h field (List.mem_of_mem_filter hfield)
  exact hrest.append hname

theorem HasFieldNames.nameCharset {named : Entity} (he : e.HasFieldNames)
    (h : e.nameCharset = .ok named) : named.HasFieldNames := by
  have hname : IsFieldName (.text "Content-Type") := isFieldName_text (by decide)
  unfold Entity.nameCharset at h
  split at h
  · obtain rfl := Except.ok.inj h
    exact he.append hname
  · rename_i old _
    have hlast : ∀ s : List Char,
        (if old.text? == some (String.ofList s) then (.ok e : Except Fault Entity)
          else .ok (e.replace "Content-Type" (.text (String.ofList s)))) = .ok named →
        named.HasFieldNames := by
      intro s h
      split at h
      · obtain rfl := Except.ok.inj h
        exact he
      · obtain rfl := Except.ok.inj h
        exact he.replace hname
    obtain ⟨s, -, h⟩ := exists_of_bind_eq_ok h
    obtain ⟨charset, -, h⟩ := exists_of_bind_eq_ok h
    dsimp only at h
    split at h
    · obtain ⟨result, -, h⟩ := exists_of_bind_eq_ok h
      exact hlast result h
    · obtain ⟨parameter, -, h⟩ := exists_of_bind_eq_ok h
      split at h
      · exact hlast _ h
      · split at h
        · exact hlast _ h
        · cases h

theorem HasFieldNames.encodePayload {coded : Entity} (he : e.HasFieldNames)
    (h : e.encodePayload = .ok coded) : coded.HasFieldNames := by
  unfold Entity.encodePayload at h
  split at h
  · obtain rfl := Except.ok.inj h
    exact he
  · split at h
    · obtain rfl := Except.ok.inj h
      exact HasFieldNames.append he (isFieldName_text (by decide))
    · cases h

theorem HasFieldNames.setBody {body : Value} {whole : Entity} (he : e.HasFieldNames)
    (h : e.setBody body = .ok whole) : whole.HasFieldNames := by
  obtain ⟨named, hnamed, h⟩ := exists_of_bind_eq_ok h
  refine HasFieldNames.encodePayload (HasFieldNames.nameCharset ?_ hnamed) h
  split
  · exact he
  · exact HasFieldNames.append he (isFieldName_text (by decide))

theorem unifyOctets_of_not_mem {bs : Octets} (h : 13 ∉ bs) : unifyOctets bs = bs := by
  fun_induction unifyOctets bs with
  | case1 => rfl
  | case2 rest ih => simp at h
  | case3 rest hrest ih => simp at h
  | case4 b rest hfirst hsecond ih => rw [ih fun hmem => h (List.mem_cons_of_mem b hmem)]

/-- A payload of octets is written as it is, but for its carriage returns. -/
theorem writtenPayload_octets {bs payload : Octets} (hbs : e.payload = .octets bs)
    (hreturn : 13 ∉ bs) (h : e.writtenPayload = .ok payload) : payload = bs := by
  obtain ⟨kind, -, h⟩ := exists_of_bind_eq_ok h
  split at h
  · unfold writeParts at h
    rw [hbs] at h
    obtain ⟨v, -, h⟩ := exists_of_bind_eq_ok h
    split at h
    · obtain ⟨⟨⟩, -, h⟩ := exists_of_bind_eq_ok h
      exact (Except.ok.inj h).symm
    · exact (Except.ok.inj h).symm
  · unfold writeReport at h
    rw [hbs] at h
    cases bs with
    | nil => exact (Except.ok.inj h).symm
    | cons b rest => cases h
  · unfold writeEnclosed rawAscii at h
    rw [hbs] at h
    dsimp only at h
    split at h
    · exact (Except.ok.inj h).symm
    · cases h
  · rw [hbs] at h
    dsimp only at h
    split at h
    · obtain ⟨v, -, h⟩ := exists_of_bind_eq_ok h
      rw [← unifyOctets_of_not_mem hreturn]
      exact (Except.ok.inj h).symm
    · rw [← unifyOctets_of_not_mem hreturn]
      exact (Except.ok.inj h).symm

theorem readBlock_write {b : Octets} (he : e.HasFieldNames) (h : e.write = .ok b) :
    ∃ lines payload, readBlock [] b = some (lines, payload) ∧ e.writtenPayload = .ok payload ∧
      ((logicalLines lines).map headerName = e.fields.map (fun field => nameOctets field.1) ↔
        ∀ field ∈ e.fields, StaysContained field.2) := by
  obtain ⟨payload, hpayload, h⟩ := exists_of_bind_eq_ok h
  obtain ⟨fields, hfields, h⟩ := exists_of_bind_eq_ok h
  obtain ⟨ws, hlines, hnames, hnamed, hwritten, hiff⟩ := writtenFields_eq_lines he hfields
  obtain rfl := Except.ok.inj h
  refine ⟨ws.flatMap WrittenHeader.lines, payload, ?_, hpayload, ?_⟩
  · rw [hlines]
    exact readBlock_lines hwritten payload
  · rw [← hnames, WrittenHeader.names_logicalLines_iff hnamed]
    exact hiff

end Wire.Entity

namespace Message

open Wire

variable {e : Entity}

theorem visibleHeaders_subset {headers : Entries Value Value} {visible : List (Value × Value)}
    (h : visibleHeaders headers = .ok visible) : visible ⊆ headers := by
  obtain ⟨found, hfound, h⟩ := exists_of_bind_eq_ok h
  obtain rfl := Except.ok.inj h
  intro header hheader
  have hheader := mem_of_mem_filterAuxM hfound header (List.mem_reverse.mp hheader)
  simpa using hheader

theorem hasFieldNames_addressField {name : String} {addresses : List Value} {whole : Entity}
    (he : e.HasFieldNames) (hname : IsFieldName (.text name))
    (h : addressField name addresses e = .ok whole) : whole.HasFieldNames := by
  unfold addressField at h
  split at h
  · obtain rfl := Except.ok.inj h
    exact he
  · obtain ⟨line, -, h⟩ := exists_of_bind_eq_ok h
    obtain rfl := Except.ok.inj h
    exact he.replace hname

theorem hasFieldNames_dateField {date : Value} {whole : Entity} (he : e.HasFieldNames)
    (h : dateField date e = .ok whole) : whole.HasFieldNames := by
  unfold dateField at h
  split at h
  · obtain rfl := Except.ok.inj h
    exact he
  · obtain ⟨s, -, h⟩ := exists_of_bind_eq_ok h
    obtain rfl := Except.ok.inj h
    exact he.replace (isFieldName_text (by decide))

theorem hasFieldNames_entity {m : Message} (hnames : ∀ header ∈ m.headers, IsFieldName header.1)
    (h : m.entity = .ok e) : e.HasFieldNames := by
  obtain ⟨visible, hvisible, h⟩ := exists_of_bind_eq_ok h
  obtain ⟨sender, -, h⟩ := exists_of_bind_eq_ok h
  obtain ⟨e₁, h₁, h⟩ := exists_of_bind_eq_ok h
  obtain ⟨e₂, h₂, h⟩ := exists_of_bind_eq_ok h
  obtain ⟨e₃, h₃, h⟩ := exists_of_bind_eq_ok h
  obtain ⟨e₄, h₄, h⟩ := exists_of_bind_eq_ok h
  have hown : Entity.HasFieldNames ⟨visible, .octets []⟩ := fun field hfield =>
    hnames field (visibleHeaders_subset hvisible hfield)
  have hfrom := hown.replace (v := .text sender) (isFieldName_text (s := "From") (by decide))
  have hto := hasFieldNames_addressField hfrom (isFieldName_text (by decide)) h₁
  have hcc := hasFieldNames_addressField hto (isFieldName_text (by decide)) h₂
  have hreplyTo := hasFieldNames_addressField hcc (isFieldName_text (by decide)) h₃
  refine Entity.HasFieldNames.setBody (hasFieldNames_dateField ?_ h₄) h
  split
  · exact hreplyTo
  · exact hreplyTo.replace (isFieldName_text (by decide))

/-- The header block of a mail, read back, holds exactly the mail's fields just if every value stays
in its field. What follows the block is the payload in any case. -/
theorem written_mail_reads_back_iff {m : Message} {b : Octets}
    (hnames : ∀ header ∈ m.headers, IsFieldName header.1) (he : m.entity = .ok e)
    (hb : e.write = .ok b) :
    ∃ lines payload, readBlock [] b = some (lines, payload) ∧ e.writtenPayload = .ok payload ∧
      (∀ bs, e.payload = .octets bs → 13 ∉ bs → payload = bs) ∧
      ((logicalLines lines).map headerName = e.fields.map (fun field => nameOctets field.1) ↔
        ∀ field ∈ e.fields, StaysContained field.2) := by
  obtain ⟨lines, payload, hread, hpayload, hiff⟩ :=
    Entity.readBlock_write (hasFieldNames_entity hnames he) hb
  exact ⟨lines, payload, hread, hpayload,
    fun bs hbs hreturn => Entity.writtenPayload_octets hbs hreturn hpayload, hiff⟩

/-- A message to its sender with one header of its own. -/
def note (value : String) : Message :=
  let a : Value := .address ⟨"a@b.c", none⟩
  ⟨a, [a], [], [], [], .text "s", .text "text", [(.text "X-Note", .text value)], .nothing, none⟩

theorem note_reads_back :
    ∃ e b, (note "a b").entity = .ok e ∧ e.write = .ok b ∧
      ∃ lines payload, readBlock [] b = some (lines, payload) ∧ e.writtenPayload = .ok payload ∧
        (∀ bs, e.payload = .octets bs → 13 ∉ bs → payload = bs) ∧
        ((logicalLines lines).map headerName = e.fields.map (fun field => nameOctets field.1) ↔
          ∀ field ∈ e.fields, StaysContained field.2) := by
  have hok : ((note "a b").entity >>= Entity.write).isOk = true := by decide +kernel
  cases h : (note "a b").entity >>= Entity.write with
  | error fault =>
      rw [h] at hok
      cases hok
  | ok b =>
      obtain ⟨e, he, hb⟩ := exists_of_bind_eq_ok h
      have hnames : ∀ header ∈ (note "a b").headers, IsFieldName header.1 :=
        List.forall_mem_singleton.mpr (isFieldName_text (by decide))
      exact ⟨e, b, he, hb, written_mail_reads_back_iff hnames he hb⟩

theorem checked_header_adds_line :
    ¬∀ (value : String) (e : Entity) (b : Octets),
      (Header.check (.text "X-Note") (.text value)).isOk = true →
      (note value).entity = .ok e → e.write = .ok b →
      ∃ lines payload, readBlock [] b = some (lines, payload) ∧
        (logicalLines lines).map headerName = e.fields.map fun field => nameOctets field.1 := by
  intro h
  -- The vertical tab cuts the value, and nothing is put before what follows it.
  have hfound : ((note "a\x0bb").entity >>= fun e => e.write.map fun b =>
      (readBlock [] b).map fun block => decide ((logicalLines block.1).map headerName =
        e.fields.map fun field => nameOctets field.1)).toOption = some (some false) := by
    decide +kernel
  cases he : (note "a\x0bb").entity with
  | error fault =>
      rw [he] at hfound
      cases hfound
  | ok e =>
      cases hb : e.write with
      | error fault =>
          simp [he, hb, bind, Except.bind, Except.map, Except.toOption] at hfound
      | ok b =>
          obtain ⟨lines, payload, hread, hnames⟩ := h _ e b (by decide +kernel) he hb
          simp [he, hb, hread, hnames, bind, Except.bind, Except.map, Except.toOption] at hfound

end Message

end Mailroom
