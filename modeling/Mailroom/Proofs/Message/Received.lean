import Mailroom.Proofs.Message.Fields
import Mailroom.Proofs.Wire.Transfer

/-!
What a receiver reads of a message. A body is coded in base 64 and read back whole, unless the
message names a transfer encoding among its own headers. Then the body is not coded, but it is read
as if it were.
-/

namespace Mailroom

namespace Wire.Entity

variable {e whole : Entity} {name other : String} {body v : Value} {bs : List UInt8}
  {encoding : Transfer}

theorem has_iff : e.has name = true ↔ (e.get? name).isSome = true := by
  rw [has, get?, Option.isSome_map, List.find?_isSome, List.any_eq_true]

theorem get?_append_of_none (hnone : e.get? name = none)
    (hname : isNamed name (.text other) = true) : (e.append other v).get? name = some v := by
  have hnot := Option.map_eq_none_iff.mp hnone
  simp [get?, append, List.find?_append, hnot, hname]

/-- The label is read off one field. -/
theorem transfer_congr {e' : Entity} (h : e.get? encodingName = e'.get? encodingName) :
    e.transfer = e'.transfer := by
  rw [transfer, transfer, h]

/-- A payload without a label is coded and labelled so that it is read back; one that is labelled
stays as it is. -/
theorem received?_encodePayload (hpayload : e.payload = .octets bs)
    (htransfer : e.transfer = .ok encoding) (h : e.encodePayload = .ok whole) :
    whole.received? = some (encoding.undo bs) := by
  unfold encodePayload at h
  split at h
  · obtain rfl := Except.ok.inj h
    rw [received?, hpayload, htransfer]
  · rename_i hlacking
    have hnone : e.get? encodingName = none := by simpa [has_iff] using hlacking
    obtain rfl : Transfer.plain = encoding := by simpa [transfer, hnone] using htransfer
    rw [hpayload] at h
    obtain rfl := Except.ok.inj h
    let coded : Entity := { e with payload := .octets (Text.ascii (base64Lines bs)) }
    have hlabel : (coded.append "Content-Transfer-Encoding" (.text "base64")).transfer =
        .ok .base64 := by
      have hfound : (coded.append "Content-Transfer-Encoding" (.text "base64")).get? encodingName =
          some (.text "base64") := get?_append_of_none hnone (by decide)
      rw [transfer, hfound]
      exact congrArg Except.ok (by decide)
    change (coded.append _ _).received? = _
    rw [received?, hlabel]
    exact congrArg some (undoBase64_base64Lines bs)

/-- Making the content type name UTF-8 leaves the label alone. -/
theorem transfer_nameCharset (htype : e.HasTextType) (h : e.nameCharset = .ok whole) :
    whole.transfer = e.transfer := by
  have hother : isNamed encodingName (.text "Content-Type") = false := by decide
  obtain ⟨-, rfl⟩ | ⟨s, r, -, -, rfl⟩ := nameCharset_cases htype h
  · exact transfer_congr (get?_append hother)
  · split
    · rfl
    · exact transfer_congr (get?_replace hother)

theorem received?_setBody (htype : e.HasTextType) (hbody : bodyPayload body = .octets bs)
    (htransfer : e.transfer = .ok encoding) (h : e.setBody body = .ok whole) :
    whole.received? = some (encoding.undo bs) := by
  rw [setBody_eq] at h
  obtain ⟨named, hnamed, hcoded⟩ := exists_of_bind_eq_ok h
  have hbodied := htype.withBody body
  refine received?_encodePayload ?_ ?_ hcoded
  · rw [payload_nameCharset hbodied hnamed, payload_withBody, hbody]
  · rw [transfer_nameCharset hbodied hnamed, ← htransfer]
    exact transfer_congr (get?_withBody (by decide) body)

end Wire.Entity

namespace Message

open Wire Wire.Entity

variable {m : Message} {e : Entity}

/-- The body as the octets that a receiver should read. -/
def bodyOctets (m : Message) : List UInt8 :=
  match m.body with
  | .text s => Text.utf8 s.toList
  | _ => []

/-- The transfer encoding among the message's own headers. -/
def ownTransfer (m : Message) : Except Fault Transfer :=
  (⟨m.headers, .octets []⟩ : Entity).transfer

theorem bodyPayload_eq (h : m.body = .nothing ∨ ∃ s, m.body = .text s) :
    bodyPayload m.body = .octets m.bodyOctets := by
  obtain h | ⟨s, h⟩ := h
  · rw [bodyOctets, h]
    rfl
  · rw [bodyOctets, h, bodyPayload]
    split
    · rename_i hempty
      obtain rfl : s = "" := by simpa [Value.truth] using hempty
      rfl
    · rfl

theorem transfer_head (h : m.HasCheckedHeaders) (he : m.head = .ok e) :
    e.transfer = m.ownTransfer := by
  have hother {name : String} {v : Value} (hv : m.Derived name v) :
      isNamed encodingName (.text name) = false := by
    cases hv <;> decide
  exact transfer_congr
    ((laidOver_head (visibleHeaders_of_checked h) he).1.get? fun _ _ => hother)

theorem HasCheckedHeaders.isOk_ownTransfer (h : m.HasCheckedHeaders) :
    m.ownTransfer.isOk = true := by
  rw [ownTransfer, transfer]
  cases hfound : (⟨m.headers, .octets []⟩ : Entity).get? encodingName with
  | none => rfl
  | some v =>
      obtain ⟨header, hheader, -, rfl⟩ := mem_of_get? hfound
      obtain ⟨name, value, rfl, -⟩ := h header hheader
      rfl

theorem hasCheckedHeaders_of_check
    (h : ∀ header ∈ m.headers, (Header.check header.1 header.2).isOk = true) :
    m.HasCheckedHeaders := by
  intro header hheader
  obtain ⟨checked, hchecked⟩ := exists_of_isOk (h header hheader)
  obtain ⟨hname, hvalue, hpasses⟩ := Header.check_eq_ok_iff.mp hchecked
  exact ⟨checked.1, checked.2, Prod.ext hname hvalue, hpasses⟩

theorem received?_entity (h : m.HasCheckedHeaders)
    (hbody : m.body = .nothing ∨ ∃ s, m.body = .text s) (he : m.entity = .ok e)
    {encoding : Transfer} (hencoding : m.ownTransfer = .ok encoding) :
    e.received? = some (encoding.undo m.bodyOctets) := by
  rw [entity_eq] at he
  obtain ⟨top, htop, he⟩ := exists_of_bind_eq_ok he
  refine received?_setBody (hasTextType_head h htop) (bodyPayload_eq hbody) ?_ he
  rw [transfer_head h htop, hencoding]

/-- Of a message with checked headers a receiver reads the body, with the transfer encoding undone
that the message itself names. This is the body just if it is kept by that encoding, and it always
is if the message names none. There is a mail to read just if everyone in the message can be written
out and its own content type can be made to name UTF-8. -/
theorem body_received_iff
    (hheaders : ∀ header ∈ m.headers, (Header.check header.1 header.2).isOk = true)
    (hbody : m.body = .nothing ∨ ∃ s, m.body = .text s) :
    ((m.sentDate = .nothing ∨ ∃ t, m.sentDate = .moment t) → (m.entity.isOk = true ↔
      (∀ v ∈ m.sender :: (m.addressees ++ m.cc ++ m.replyTo), v.plain.isOk = true) ∧
        ∀ s, m.contentHeader? = some (.text s) → CanNameUtf8 s.toList)) ∧
    ∀ e, m.entity = .ok e →
      ((∀ header ∈ m.headers, isNamed encodingName header.1 = false) →
        e.received? = some m.bodyOctets) ∧
      ∃ encoding, m.ownTransfer = .ok encoding ∧
        e.received? = some (encoding.undo m.bodyOctets) ∧
        (e.received? = some m.bodyOctets ↔ encoding.Keeps m.bodyOctets) := by
  have hchecked := hasCheckedHeaders_of_check hheaders
  refine ⟨fun hdate => isOk_entity_iff hchecked hdate (bodyPayload_eq hbody), fun e he => ?_⟩
  obtain ⟨encoding, hencoding⟩ := exists_of_isOk hchecked.isOk_ownTransfer
  have hreceived := received?_entity hchecked hbody he hencoding
  refine ⟨fun hnone => ?_, encoding, hencoding, hreceived, ?_⟩
  · have hplain : m.ownTransfer = .ok .plain := by
      have hfound : (⟨m.headers, .octets []⟩ : Entity).get? encodingName = none :=
        Option.map_eq_none_iff.mpr (List.find?_eq_none.mpr fun header hheader => by
          simp [hnone header hheader])
      rw [ownTransfer, transfer, hfound]
    exact received?_entity hchecked hbody he hplain
  · rw [hreceived, Option.some.injEq, encoding.undo_eq_self_iff]

/-- A message that names a transfer encoding of its own. -/
def labelledNote (label body : String) : Message where
  sender := .address ⟨"a@b.c", none⟩
  addressees := [.address ⟨"a@b.c", none⟩]
  cc := []
  bcc := []
  replyTo := []
  subject := .nothing
  body := .text body
  headers := [(.text "Content-Transfer-Encoding", .text label)]
  sentDate := .nothing
  session := none

theorem labelled_note_received :
    (∀ header ∈ (labelledNote "quoted-printable" "mo €").headers,
      (Header.check header.1 header.2).isOk = true) ∧
    ∃ e, (labelledNote "quoted-printable" "mo €").entity = .ok e ∧
      e.received? = some (Text.utf8 "mo €".toList) := by
  have hheaders : ∀ header ∈ (labelledNote "quoted-printable" "mo €").headers,
      (Header.check header.1 header.2).isOk = true :=
    List.forall_mem_singleton.mpr (by decide)
  obtain ⟨hmade, hread⟩ := body_received_iff hheaders (.inr ⟨_, rfl⟩)
  have hpeople : ∀ v ∈ [Value.address ⟨"a@b.c", none⟩, .address ⟨"a@b.c", none⟩],
      v.plain.isOk = true := by
    simpa using isOk_iff.mpr ⟨"a@b.c", by decide⟩
  have htype : (labelledNote "quoted-printable" "mo €").contentHeader? = none := rfl
  obtain ⟨e, he⟩ := exists_of_isOk
    ((hmade (.inl rfl)).mpr ⟨hpeople, fun _ h => nomatch htype.symm.trans h⟩)
  obtain ⟨-, encoding, hencoding, -, hreceived⟩ := hread e he
  refine ⟨hheaders, e, he, ?_⟩
  obtain rfl : Transfer.quotedPrintable = encoding := by
    have hnamed : (labelledNote "quoted-printable" "mo €").ownTransfer = .ok .quotedPrintable :=
      congrArg Except.ok (by decide)
    exact Except.ok.inj (hnamed.symm.trans hencoding)
  -- There is no equal sign in the text, so there is no code either.
  refine hreceived.mpr fun ⟨before, rest, hbody, _⟩ => ?_
  have hequal : octetOf '=' ∈ Text.utf8 "mo €".toList := by
    change Text.utf8 "mo €".toList = _ at hbody
    rw [hbody]
    simp
  exact absurd hequal (by decide)

/-- A body that can be read in base 64 does not arrive under that label. -/
theorem mislabelled_note_misread :
    ¬∀ (m : Message) (e : Entity),
      (∀ header ∈ m.headers, (Header.check header.1 header.2).isOk = true) →
      (m.body = .nothing ∨ ∃ s, m.body = .text s) → m.entity = .ok e →
      e.received? = some m.bodyOctets := by
  intro h
  have hheaders : ∀ header ∈ (labelledNote "base64" "text").headers,
      (Header.check header.1 header.2).isOk = true :=
    List.forall_mem_singleton.mpr (by decide)
  obtain ⟨e, he⟩ := exists_of_isOk (x := (labelledNote "base64" "text").entity) (by decide +kernel)
  have hbody : (labelledNote "base64" "text").body = .nothing ∨
      ∃ s, (labelledNote "base64" "text").body = .text s := .inr ⟨_, rfl⟩
  have hnamed : (labelledNote "base64" "text").ownTransfer = .ok .base64 :=
    congrArg Except.ok (by decide)
  have hreceived := received?_entity (hasCheckedHeaders_of_check hheaders) hbody he hnamed
  have hsame := Option.some.inj (hreceived.symm.trans (h _ e hheaders hbody he))
  have hread : Transfer.base64.undo (Text.utf8 "text".toList) = [0xB5, 0xEC, 0x6D] := by decide
  exact absurd (hread.symm.trans hsame) (by decide)

end Message

end Mailroom
