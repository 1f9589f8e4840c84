import Mailroom.Proofs.Message.Fields

/-!
The whole list of fields of a mail. A message's own headers come first, in their order; then the
fields that follow from the message, each in the place of own headers of its name; then the three
that describe the body. What laying one field over others does is said by the fields that stay, and
for a list of them by induction.
-/

namespace Mailroom

namespace Wire.Entity

variable {e : Entity} {name other : String} {parts : List (String × Value)}

theorem isNamed_text_iff : isNamed name (.text other) = true ↔ Text.lowerText other = name := by
  rw [isNamed, beq_iff_eq, Text.lowerText, ← String.toList_inj, String.toList_ofList]

/-! ### Fields laid over others, all at once -/

/-- The names of the parts are different, in whatever case they are written. -/
def HasDistinctNames (parts : List (String × Value)) : Prop :=
  (parts.map fun part => Text.lowerText part.1).Nodup

/-- Whether a field has the name of one of the parts. -/
def isAmong (parts : List (String × Value)) (name : Value) : Bool :=
  parts.any fun part => isNamed (Text.lowerText part.1) name

/-- Parts as fields of a mail. -/
def asFields (parts : List (String × Value)) : List (Value × Value) :=
  parts.map fun part => (.text part.1, part.2)

/-- Lays fields over others, one after the other. -/
def layOver (parts : List (String × Value)) (e : Entity) : Entity :=
  parts.foldl (fun e part => e.replace part.1 part.2) e

theorem HasDistinctNames.of_cons {part : String × Value}
    (h : HasDistinctNames (part :: parts)) :
    (∀ q ∈ parts, Text.lowerText q.1 ≠ Text.lowerText part.1) ∧ HasDistinctNames parts := by
  rw [HasDistinctNames, List.map_cons, List.nodup_cons] at h
  exact ⟨fun q hq hsame => h.1 (hsame ▸ List.mem_map_of_mem hq), h.2⟩

theorem HasDistinctNames.isAmong_eq_false {part : String × Value}
    (h : HasDistinctNames (part :: parts)) : isAmong parts (.text part.1) = false := by
  rw [isAmong, List.any_eq_false]
  intro q hq hnamed
  exact h.of_cons.1 q hq (isNamed_text_iff.mp hnamed).symm

theorem isAmong_append (first second : List (String × Value)) (v : Value) :
    isAmong (first ++ second) v = (isAmong first v || isAmong second v) :=
  List.any_append

theorem HasDistinctNames.of_append {first second : List (String × Value)}
    (h : HasDistinctNames (first ++ second)) :
    HasDistinctNames first ∧ ∀ part ∈ first, isAmong second (.text part.1) = false := by
  rw [HasDistinctNames, List.map_append, List.nodup_append] at h
  refine ⟨h.1, fun part hpart => ?_⟩
  rw [isAmong, List.any_eq_false]
  intro other hother hnamed
  exact h.2.2 _ (List.mem_map_of_mem hpart) _ (List.mem_map_of_mem hother)
    (isNamed_text_iff.mp hnamed)

/-- What was there stays, but for fields of the names that are laid over it; those come at the end,
in their order. -/
theorem fields_layOver (h : HasDistinctNames parts) (e : Entity) :
    (layOver parts e).fields =
      e.fields.filter (fun field => !isAmong parts field.1) ++ asFields parts := by
  induction parts generalizing e with
  | nil => simp [layOver, isAmong, asFields]
  | cons part rest ih =>
      have hkept : isAmong rest (.text part.1) = false := h.isAmong_eq_false
      have hreplace : (e.replace part.1 part.2).fields =
          e.fields.filter (fun field => !isNamed (Text.lowerText part.1) field.1) ++
            [(.text part.1, part.2)] := rfl
      have hboth (field : Value × Value) :
          (!isAmong rest field.1 && !isNamed (Text.lowerText part.1) field.1) =
            !isAmong (part :: rest) field.1 := by
        rw [isAmong, isAmong, List.any_cons, Bool.not_or, Bool.and_comm]
      calc (layOver (part :: rest) e).fields
          = (e.replace part.1 part.2).fields.filter (fun field => !isAmong rest field.1) ++
              asFields rest := ih h.of_cons.2 _
        _ = e.fields.filter (fun field => !isAmong (part :: rest) field.1) ++
              asFields (part :: rest) := by
            simp [hreplace, List.filter_filter, hboth, hkept, asFields]

/-- Each of the parts is the only one of its name. -/
theorem HasDistinctNames.filter_asFields (h : HasDistinctNames parts) {part : String × Value}
    (hpart : part ∈ parts) :
    (asFields parts).filter (fun field => isNamed (Text.lowerText part.1) field.1) =
      [(.text part.1, part.2)] := by
  induction parts with
  | nil => cases hpart
  | cons first rest ih =>
      obtain ⟨hothers, hrest⟩ := h.of_cons
      have hcons : asFields (first :: rest) = (.text first.1, first.2) :: asFields rest := rfl
      rw [hcons]
      obtain rfl | hpart := List.mem_cons.mp hpart
      · have hnone : (asFields rest).filter
            (fun field => isNamed (Text.lowerText part.1) field.1) = [] := by
          rw [List.filter_eq_nil_iff, asFields, List.forall_mem_map]
          exact fun q hq hnamed => hothers q hq (isNamed_text_iff.mp hnamed)
        rw [List.filter_cons, if_pos (isNamed_text_iff.mpr rfl), hnone]
      · have hfirst : ¬isNamed (Text.lowerText part.1) (.text first.1) = true := fun hnamed =>
          hothers part hpart (isNamed_text_iff.mp hnamed).symm
        rw [List.filter_cons, if_neg hfirst, ih hrest hpart]

/-- Where no other field has the name of a part, the parts are all that is found under it. -/
theorem getAll_of_fields {others : List (Value × Value)} (h : HasDistinctNames parts)
    (hfields : e.fields = others ++ asFields parts)
    (hothers : ∀ field ∈ others, isAmong parts field.1 = false) {part : String × Value}
    (hpart : part ∈ parts) : e.getAll (Text.lowerText part.1) = [part.2] := by
  have hnone : others.filter (fun field => isNamed (Text.lowerText part.1) field.1) = [] := by
    rw [List.filter_eq_nil_iff]
    intro field hfield hnamed
    exact List.any_eq_false.mp (hothers field hfield) part hpart hnamed
  rw [getAll, hfields, List.filter_append, hnone, h.filter_asFields hpart]
  rfl

/-! ### The fields that describe a body -/

/-- The fields that describe a body of text. -/
def describing : List (String × Value) :=
  [("MIME-Version", .text "1.0"), ("Content-Type", .text "text/plain; charset=\"utf-8\""),
    ("Content-Transfer-Encoding", .text "base64")]

theorem isAmong_describing (v : Value) :
    isAmong describing v =
      (isNamed versionName v || (isNamed contentTypeName v || isNamed encodingName v)) := by
  have hversion : Text.lowerText "MIME-Version" = versionName := by decide
  have htype : Text.lowerText "Content-Type" = contentTypeName := by decide
  have hencoding : Text.lowerText "Content-Transfer-Encoding" = encodingName := by decide
  simp [isAmong, describing, hversion, htype, hencoding]

/-- A mail that does not describe its body yet gets all three fields at its end. -/
theorem fields_setBody {body : Value} {bs : List UInt8} (hbody : bodyPayload body = .octets bs)
    (h : ∀ field ∈ e.fields, isAmong describing field.1 = false) :
    ∃ whole, e.setBody body = .ok whole ∧ whole.fields = e.fields ++ asFields describing := by
  simp only [isAmong_describing, Bool.or_eq_false_iff] at h
  have hversion : e.has versionName = false := by
    rw [has, List.any_eq_false]
    exact fun field hfield => Bool.not_eq_true _ ▸ (h field hfield).1
  have htype : e.get? contentTypeName = none := by
    rw [get?, Option.map_eq_none_iff, List.find?_eq_none]
    exact fun field hfield => Bool.not_eq_true _ ▸ (h field hfield).2.1
  have hencoding : e.has encodingName = false := by
    rw [has, List.any_eq_false]
    exact fun field hfield => Bool.not_eq_true _ ▸ (h field hfield).2.2
  let bodied : Entity :=
    ({ e with payload := .octets bs } : Entity).append "MIME-Version" (.text "1.0")
  let named : Entity := bodied.append "Content-Type" (.text "text/plain; charset=\"utf-8\"")
  have hbodied : e.withBody body = bodied := by
    unfold withBody
    rw [hbody]
    exact if_neg (Bool.not_eq_true _ ▸ hversion)
  have hnamed : bodied.nameCharset = .ok named := by
    refine nameCharset_of_none ?_
    rw [← hbodied, get?_withBody (by decide), htype]
  have hlast : named.has encodingName = false := by
    have hothers : isNamed encodingName (.text "MIME-Version") = false ∧
        isNamed encodingName (.text "Content-Type") = false := by decide
    rw [has] at hencoding ⊢
    simp [named, bodied, append, hencoding, hothers]
  rw [setBody_eq, hbodied, hnamed]
  refine ⟨_, if_neg (Bool.not_eq_true _ ▸ hlast), ?_⟩
  simp [named, bodied, append, asFields, describing]

end Wire.Entity

namespace Message

open Wire Wire.Entity

variable {m : Message}

/-- How the people of a message are written out, and its date. -/
structure Writing where
  sender : String
  addressees : List String
  cc : List String
  replyTo : List String
  date : Option Moment

/-- Everyone in the message can be written out, and its date, if it has one, is a moment. -/
structure IsWritten (m : Message) (t : Writing) : Prop where
  sender : m.sender.plain = .ok t.sender
  addressees : m.addressees.mapM Value.plain = .ok t.addressees
  cc : m.cc.mapM Value.plain = .ok t.cc
  replyTo : m.replyTo.mapM Value.plain = .ok t.replyTo
  date : m.sentDate = (t.date.map Value.moment).getD .nothing

/-- The field for a list of people, which is there unless the list is empty. -/
def listField (name : String) (addresses : List Value) (texts : List String) :
    List (String × Value) :=
  if addresses.isEmpty then [] else [(name, .text (", ".intercalate texts))]

/-- The field for a subject that was given. -/
def subjectField (subject : Value) : List (String × Value) :=
  if subject.isNothing then [] else [("Subject", subject)]

/-- The field for a date that was given. -/
def momentField : Option Moment → List (String × Value)
  | none => []
  | some t => [("Date", .text t.headerText)]

/-- The fields that follow from the parts of a message, in their order. -/
def generated (m : Message) (t : Writing) : List (String × Value) :=
  [("From", .text t.sender)] ++ listField "To" m.addressees t.addressees ++
    listField "Cc" m.cc t.cc ++ listField "Reply-To" m.replyTo t.replyTo ++
    subjectField m.subject ++ momentField t.date

/-- Every name occurs once at most, the names that describe the body included. -/
theorem hasDistinctNames_generated (m : Message) (t : Writing) :
    HasDistinctNames (m.generated t ++ describing) := by
  have hlist (name : String) (addresses : List Value) (texts : List String) :
      ((listField name addresses texts).map Prod.fst).Sublist [name] := by
    unfold listField
    split
    · exact List.nil_sublist _
    · exact .refl _
  have hsubject : ((subjectField m.subject).map Prod.fst).Sublist ["Subject"] := by
    unfold subjectField
    split
    · exact List.nil_sublist _
    · exact .refl _
  have hdate : ((momentField t.date).map Prod.fst).Sublist ["Date"] := by
    cases t.date with
    | none => exact List.nil_sublist _
    | some _ => exact .refl _
  have hnames : ((m.generated t ++ describing).map Prod.fst).Sublist
      (["From"] ++ ["To"] ++ ["Cc"] ++ ["Reply-To"] ++ ["Subject"] ++ ["Date"] ++
        ["MIME-Version", "Content-Type", "Content-Transfer-Encoding"]) := by
    simp only [generated, List.map_append]
    apply List.Sublist.append _ (.refl _)
    apply List.Sublist.append _ hdate
    apply List.Sublist.append _ hsubject
    exact (((List.Sublist.refl _).append (hlist _ _ _)).append (hlist _ _ _)).append (hlist _ _ _)
  have hdistinct : (["From", "To", "Cc", "Reply-To", "Subject", "Date", "MIME-Version",
      "Content-Type", "Content-Transfer-Encoding"].map Text.lowerText).Nodup := by decide
  have hlowered := hdistinct.sublist (hnames.map Text.lowerText)
  rwa [List.map_map] at hlowered

/-! ### The mail before its body is set -/

theorem addressField_eq_layOver {addresses : List Value} {texts : List String}
    (h : addresses.mapM Value.plain = .ok texts) (name : String) (e : Entity) :
    addressField name addresses e = .ok (layOver (listField name addresses texts) e) := by
  unfold addressField addressLine listField
  rw [h]
  split <;> rfl

theorem dateField_eq_layOver (t : Option Moment) (e : Entity) :
    dateField ((t.map Value.moment).getD .nothing) e = .ok (layOver (momentField t) e) := by
  cases t <;> rfl

/-- Own headers with text names are all shown but for those named like the blind copies. -/
theorem visibleHeaders_of_texts {headers : Entries Value Value}
    (h : ∀ header ∈ headers, header.1.isText = true) :
    visibleHeaders headers = .ok (headers.filter fun header => !isNamed "bcc" header.1) := by
  induction headers with
  | nil => rfl
  | cons header rest ih =>
      obtain ⟨hheader, hrest⟩ := List.forall_mem_cons.mp h
      obtain ⟨name, value⟩ := header
      cases name with
      | text s =>
          have hfound := ih hrest
          have hname : isHidden (.text s) = .ok (isNamed "bcc" (.text s)) := rfl
          rw [visibleHeaders] at hfound ⊢
          rw [filterM_cons, hfound, hname, List.filter_cons]
          cases isNamed "bcc" (.text s) <;> rfl
      | _ => cases hheader

/-- All that follows from the message is laid over the own headers that are shown. -/
theorem head_eq_layOver {t : Writing} {visible : List (Value × Value)} (hwritten : m.IsWritten t)
    (hvisible : visibleHeaders m.headers = .ok visible) :
    m.head = .ok (layOver (m.generated t) ⟨visible, .octets []⟩) := by
  have hsubject (e : Entity) :
      (if m.subject.isNothing then e else e.replace "Subject" m.subject) =
        layOver (subjectField m.subject) e := by
    unfold subjectField
    split <;> rfl
  simp only [head, hvisible, hwritten.sender, hwritten.date,
    addressField_eq_layOver hwritten.addressees, addressField_eq_layOver hwritten.cc,
    addressField_eq_layOver hwritten.replyTo, hsubject, dateField_eq_layOver, generated,
    layOver, List.foldl_append]
  rfl

/-- A mail comes to a head only if everyone in the message can be written out. -/
theorem exists_isWritten {top : Entity} (h : m.head = .ok top) :
    ∃ t visible, m.IsWritten t ∧ visibleHeaders m.headers = .ok visible := by
  have haddresses {name : String} {addresses : List Value} {e whole : Entity}
      (hfield : addressField name addresses e = .ok whole) :
      ∃ texts, addresses.mapM Value.plain = .ok texts := by
    rw [← isOk_iff, ← isOk_addressField name addresses e, hfield]
    rfl
  obtain ⟨visible, hvisible, h⟩ := exists_of_bind_eq_ok h
  obtain ⟨sender, hsender, h⟩ := exists_of_bind_eq_ok h
  obtain ⟨e₁, h₁, h⟩ := exists_of_bind_eq_ok h
  obtain ⟨e₂, h₂, h⟩ := exists_of_bind_eq_ok h
  obtain ⟨e₃, h₃, h⟩ := exists_of_bind_eq_ok h
  obtain ⟨addressees, haddressees⟩ := haddresses h₁
  obtain ⟨cc, hcc⟩ := haddresses h₂
  obtain ⟨replyTo, hreplyTo⟩ := haddresses h₃
  obtain ⟨date, hdate⟩ : ∃ t : Option Moment, m.sentDate = (t.map Value.moment).getD .nothing := by
    unfold dateField at h
    cases hsent : m.sentDate with
    | nothing => exact ⟨none, rfl⟩
    | moment t => exact ⟨some t, rfl⟩
    | _ =>
        rw [hsent] at h
        cases h
  exact ⟨⟨sender, addressees, cc, replyTo, date⟩, visible,
    ⟨hsender, haddressees, hcc, hreplyTo, hdate⟩, hvisible⟩

/-! ### The whole mail -/

/-- Whatever headers a message has of its own, each field that follows from it is the only one of
its name in the mail. -/
theorem getAll_generated {t : Writing} (hwritten : m.IsWritten t) {e : Entity}
    (he : m.entity = .ok e) {part : String × Value} (hpart : part ∈ m.generated t) :
    e.getAll (Text.lowerText part.1) = [part.2] := by
  obtain ⟨hdistinct, hapart⟩ := (hasDistinctNames_generated m t).of_append
  rw [entity_eq] at he
  obtain ⟨top, htop, he⟩ := exists_of_bind_eq_ok he
  obtain ⟨-, visible, -, hvisible⟩ := exists_isWritten htop
  rw [head_eq_layOver hwritten hvisible] at htop
  obtain rfl := Except.ok.inj htop
  have hget := getAll_of_fields hdistinct (fields_layOver hdistinct ⟨visible, .octets []⟩)
    (fun field hfield => Bool.not_eq_true' _ ▸ (List.mem_filter.mp hfield).2) hpart
  have hname : IsApart (Text.lowerText part.1) := by
    have hnone := List.any_eq_false.mp (hapart part hpart)
    intro name hname
    obtain ⟨q, hq, rfl⟩ : ∃ q ∈ describing, q.1 = name := List.mem_map.mp hname
    refine Bool.of_not_eq_true fun hnamed => hnone q hq ?_
    exact isNamed_text_iff.mpr (isNamed_text_iff.mp hnamed).symm
  have hagrees := setBody_agrees hname ⟨rfl, hget, hget⟩ m.body
  rw [he] at hagrees
  cases hagrees with
  | value h => exact h.values

/-- The fields of a mail, in their order. A message's own headers are kept as they are, but for
those named like the blind copies or like a field that follows from the message, in any spelling;
then come the fields that follow from the message, and then those that describe the body. Each field
of the last two kinds is the only one of its name. -/
theorem fields_of_mail {t : Writing} (hwritten : m.IsWritten t)
    (hnames : ∀ header ∈ m.headers, header.1.isText = true)
    (hbody : m.body = .nothing ∨ ∃ s, m.body = .text s)
    (hown : ∀ header ∈ m.headers, isAmong describing header.1 = false) :
    ∃ e, m.entity = .ok e ∧
      e.fields = m.headers.filter (fun header =>
          !isNamed "bcc" header.1 && !isAmong (m.generated t) header.1) ++
        asFields (m.generated t) ++ asFields describing ∧
      ∀ part ∈ m.generated t ++ describing, e.getAll (Text.lowerText part.1) = [part.2] := by
  have hall := hasDistinctNames_generated m t
  obtain ⟨hdistinct, hapart⟩ := hall.of_append
  obtain ⟨bs, hpayload⟩ := exists_octets hbody
  let own := m.headers.filter fun header =>
    !isNamed "bcc" header.1 && !isAmong (m.generated t) header.1
  let top := layOver (m.generated t)
    ⟨m.headers.filter fun header => !isNamed "bcc" header.1, .octets []⟩
  have htop : top.fields = own ++ asFields (m.generated t) := by
    rw [fields_layOver hdistinct, List.filter_filter]
    simp only [own, Bool.and_comm]
  have hfree : ∀ field ∈ top.fields, isAmong describing field.1 = false := by
    rw [htop, List.forall_mem_append]
    refine ⟨fun field hfield => hown field (List.mem_of_mem_filter hfield), ?_⟩
    exact List.forall_mem_map.mpr hapart
  obtain ⟨e, he, hfields⟩ := fields_setBody hpayload hfree
  rw [htop] at hfields
  refine ⟨e, ?_, hfields, ?_⟩
  · rw [entity_eq, head_eq_layOver hwritten (visibleHeaders_of_texts hnames)]
    exact he
  · have hwhole : e.fields = own ++ asFields (m.generated t ++ describing) := by
      rw [hfields, asFields, asFields, asFields, List.map_append, List.append_assoc]
    refine fun part hpart => getAll_of_fields hall hwhole (fun field hfield => ?_) hpart
    obtain ⟨hheader, hkept⟩ := List.mem_filter.mp hfield
    rw [isAmong_append, hown field hheader, Bool.or_false]
    exact Bool.not_eq_true' _ ▸ (Bool.and_eq_true_iff.mp hkept).2

/-- A note whose own headers use the names of others, in spellings of their own. -/
def disguisedNote : Message where
  sender := .address ⟨"a@b.c", some "A"⟩
  addressees := [.address ⟨"x@y.z", none⟩, .address ⟨"d@e.f", none⟩]
  cc := []
  bcc := []
  replyTo := []
  subject := .text "s"
  body := .text "note"
  headers := [(.text "BCC", .text "g@h.i"), (.text "X-Note", .text "n"), (.text "FROM", .text "j"),
    (.text "cc", .text "k@l.m"), (.text "from", .text "o"), (.text "subJect", .text "t"),
    (.text "Date", .text "u"), (.text "x-note", .text "v")]
  sentDate := .moment ⟨2024, 1, 1, 12, 0, 0, 0, none⟩
  session := none

theorem fields_of_disguised_note :
    ∃ t e, disguisedNote.IsWritten t ∧ disguisedNote.entity = .ok e ∧
      e.fields = [(.text "X-Note", .text "n"), (.text "cc", .text "k@l.m"),
        (.text "x-note", .text "v"), (.text "From", .text "A <a@b.c>"),
        (.text "To", .text "x@y.z, d@e.f"), (.text "Subject", .text "s"),
        (.text "Date", .text "Mon, 01 Jan 2024 12:00:00 -0000"),
        (.text "MIME-Version", .text "1.0"),
        (.text "Content-Type", .text "text/plain; charset=\"utf-8\""),
        (.text "Content-Transfer-Encoding", .text "base64")] := by
  let noon : Moment := ⟨2024, 1, 1, 12, 0, 0, 0, none⟩
  let t : Writing := ⟨"A <a@b.c>", ["x@y.z", "d@e.f"], [], [], some noon⟩
  have hwritten : disguisedNote.IsWritten t := ⟨rfl, rfl, rfl, rfl, rfl⟩
  have hnames : ∀ header ∈ disguisedNote.headers, header.1.isText = true :=
    List.all_eq_true.mp (by decide)
  have hnone : disguisedNote.headers.any (fun header => isAmong describing header.1) = false := by
    decide
  have hown : ∀ header ∈ disguisedNote.headers, isAmong describing header.1 = false :=
    fun header hheader => Bool.of_not_eq_true (List.any_eq_false.mp hnone header hheader)
  obtain ⟨e, he, hfields, -⟩ := fields_of_mail hwritten hnames (.inr ⟨"note", rfl⟩) hown
  have hdate : noon.headerText = "Mon, 01 Jan 2024 12:00:00 -0000" := by decide
  have hgenerated : disguisedNote.generated t = [("From", .text "A <a@b.c>"),
      ("To", .text "x@y.z, d@e.f"), ("Subject", .text "s"),
      ("Date", .text "Mon, 01 Jan 2024 12:00:00 -0000")] := by
    rw [← hdate]
    rfl
  have hkept : disguisedNote.headers.filter (fun header =>
      !isNamed "bcc" header.1 && !isAmong (disguisedNote.generated t) header.1) =
        [(.text "X-Note", .text "n"), (.text "cc", .text "k@l.m"),
          (.text "x-note", .text "v")] := by
    rw [hgenerated]
    simp +decide only [disguisedNote, List.filter_cons]
    rfl
  refine ⟨t, e, hwritten, he, hfields.trans ?_⟩
  rw [hkept, hgenerated]
  rfl

end Message

end Mailroom
