import Mailroom.Message
import Mailroom.Proofs.Header.Field
import Mailroom.Proofs.Message.Checks
import Mailroom.Proofs.Wire.ContentType

/-!
The fields of the mail that a message stands for: its own headers, unless a field of the message
takes their place, then those that follow from the message, then those that describe the body. What
can make the mail fail is each looked at on its own: the people, the date and the content type.
-/

namespace Mailroom

namespace Wire.Entity

variable {e : Entity} {name other : String} {v : Value} {field : Value × Value}

theorem mem_fields_append :
    field ∈ (e.append name v).fields ↔ field ∈ e.fields ∨ field = (.text name, v) := by
  simp [append]

theorem mem_fields_replace :
    field ∈ (e.replace name v).fields ↔
      field ∈ e.fields ∧ isNamed (Text.lowerText name) field.1 = false ∨
        field = (.text name, v) := by
  simp [replace, append, remove]

theorem get?_append (h : isNamed name (.text other) = false) :
    (e.append other v).get? name = e.get? name := by
  simp [get?, append, List.find?_append, h]

theorem get?_replace (h : isNamed name (.text other) = false) :
    (e.replace other v).get? name = e.get? name := by
  rw [replace, get?_append h, get?_remove (lowerText_ne h).symm]

theorem mem_of_get? (h : e.get? name = some v) :
    ∃ field ∈ e.fields, isNamed name field.1 = true ∧ field.2 = v := by
  obtain ⟨field, hfound, rfl⟩ := Option.map_eq_some_iff.mp h
  have hname := List.find?_some hfound
  exact ⟨field, List.mem_of_find?_eq_some hfound, hname, rfl⟩

/-! ### Fields that describe the body -/

theorem exists_octets {body : Value} (h : body = .nothing ∨ ∃ s, body = .text s) :
    ∃ bs, bodyPayload body = .octets bs := by
  obtain rfl | ⟨s, rfl⟩ := h
  · exact ⟨[], rfl⟩
  · unfold bodyPayload
    split
    · exact ⟨[], rfl⟩
    · exact ⟨_, rfl⟩

/-- The mail with its payload and its version, before its content type is looked at. -/
def withBody (body : Value) (e : Entity) : Entity :=
  let e : Entity := { e with payload := bodyPayload body }
  if e.has versionName then e else e.append "MIME-Version" (.text "1.0")

theorem setBody_eq (body : Value) (e : Entity) :
    e.setBody body = (e.withBody body).nameCharset >>= encodePayload := rfl

theorem get?_withBody (hname : isNamed name (.text "MIME-Version") = false) (body : Value) :
    (e.withBody body).get? name = e.get? name := by
  unfold withBody
  dsimp only
  split
  · rfl
  · exact get?_append hname

theorem mem_fields_withBody {body : Value} (h : field ∈ (e.withBody body).fields) :
    field ∈ e.fields ∨ field = (.text "MIME-Version", .text "1.0") := by
  unfold withBody at h
  dsimp only at h
  split at h
  · exact .inl h
  · exact mem_fields_append.mp h

theorem fields_subset_withBody (body : Value) (e : Entity) :
    e.fields ⊆ (e.withBody body).fields := by
  unfold withBody
  dsimp only
  split
  · exact List.Subset.refl _
  · exact List.subset_append_left _ _

/-- What a field of the mail can be once the body is set. -/
inductive Described (e : Entity) : Value × Value → Prop
  | old {field : Value × Value} (h : field ∈ e.fields) : Described e field
  | version : Described e (.text "MIME-Version", .text "1.0")
  | plain (h : e.get? contentTypeName = none) :
      Described e (.text "Content-Type", .text "text/plain; charset=\"utf-8\"")
  | renewed {s : String} {r : List Char} (h : e.get? contentTypeName = some (.text s))
      (hr : inUtf8 s.toList = .ok r) : Described e (.text "Content-Type", .text (String.ofList r))
  | coded : Described e (.text "Content-Transfer-Encoding", .text "base64")

/-- The content type, if there is one, is a text that is not empty. -/
def HasTextType (e : Entity) : Prop :=
  ∀ v, e.get? contentTypeName = some v → ∃ s, v = .text s ∧ s.isEmpty = false

variable {body : Value} {whole : Entity}

theorem HasTextType.withBody (h : e.HasTextType) (body : Value) :
    (e.withBody body).HasTextType := by
  intro v hv
  rw [get?_withBody (by decide)] at hv
  exact h v hv

/-- A content type that was not there is added; one that was there stays or is written anew. -/
theorem nameCharset_cases (htype : e.HasTextType) (h : e.nameCharset = .ok whole) :
    (e.get? contentTypeName = none ∧
      whole = e.append "Content-Type" (.text "text/plain; charset=\"utf-8\"")) ∨
    ∃ s r, e.get? contentTypeName = some (.text s) ∧ inUtf8 s.toList = .ok r ∧
      whole = if s.toList = r then e else e.replace "Content-Type" (.text (String.ofList r)) := by
  cases hfound : e.get? contentTypeName with
  | none =>
      rw [nameCharset_of_none hfound] at h
      exact .inl ⟨rfl, (Except.ok.inj h).symm⟩
  | some v =>
      obtain ⟨s, rfl, hs⟩ := htype v hfound
      rw [nameCharset_of_text hfound hs] at h
      obtain ⟨r, hr, hwhole⟩ := exists_of_map_eq_ok h
      exact .inr ⟨s, r, rfl, hr, hwhole.symm⟩

theorem mem_fields_encodePayload (h : e.encodePayload = .ok whole) :
    e.fields ⊆ whole.fields ∧ ∀ field ∈ whole.fields, field ∈ e.fields ∨
      field = (.text "Content-Transfer-Encoding", .text "base64") := by
  unfold encodePayload at h
  split at h
  · obtain rfl := Except.ok.inj h
    exact ⟨List.Subset.refl _, fun field hfield => .inl hfield⟩
  · split at h
    · obtain rfl := Except.ok.inj h
      exact ⟨List.subset_append_left _ _, fun field hfield => mem_fields_append.mp hfield⟩
    · cases h

theorem payload_withBody (body : Value) (e : Entity) :
    (e.withBody body).payload = bodyPayload body := by
  unfold withBody
  dsimp only
  split <;> rfl

theorem payload_nameCharset (htype : e.HasTextType) (h : e.nameCharset = .ok whole) :
    whole.payload = e.payload := by
  obtain ⟨-, rfl⟩ | ⟨s, r, -, -, rfl⟩ := nameCharset_cases htype h
  · rfl
  · split <;> rfl

theorem encodePayload_octets {bs : List UInt8} (h : e.payload = .octets bs) :
    ∃ whole bs, e.encodePayload = .ok whole ∧ whole.payload = .octets bs := by
  unfold encodePayload
  split
  · exact ⟨e, bs, rfl, h⟩
  · rw [h]
    exact ⟨_, _, rfl, rfl⟩

theorem isOk_nameCharset_iff (htype : e.HasTextType) :
    e.nameCharset.isOk = true ↔
      ∀ s, e.get? contentTypeName = some (.text s) → CanNameUtf8 s.toList := by
  cases hfound : e.get? contentTypeName with
  | none =>
      rw [nameCharset_of_none hfound]
      exact iff_of_true rfl nofun
  | some v =>
      obtain ⟨s, rfl, hs⟩ := htype v hfound
      rw [nameCharset_of_text hfound hs, isOk_map, isOk_inUtf8_iff]
      refine ⟨fun h t ht => ?_, fun h => h s rfl⟩
      obtain rfl := Value.text.inj (Option.some.inj ht)
      exact h

/-- A body of octets is set just if the content type can be made to name UTF-8. -/
theorem isOk_setBody_iff (htype : e.HasTextType) {bs : List UInt8}
    (hbody : bodyPayload body = .octets bs) :
    (e.setBody body).isOk = true ↔
      ∀ s, e.get? contentTypeName = some (.text s) → CanNameUtf8 s.toList := by
  have hbodied := htype.withBody body
  have hget : (e.withBody body).get? contentTypeName = e.get? contentTypeName :=
    get?_withBody (by decide) body
  rw [setBody_eq, isOk_bind, ← hget, ← isOk_nameCharset_iff hbodied, isOk_iff]
  refine exists_congr fun named => and_iff_left_of_imp fun hnamed => ?_
  have hpayload : named.payload = .octets bs := by
    rw [payload_nameCharset hbodied hnamed, payload_withBody, hbody]
  obtain ⟨whole, coded, hcoded, -⟩ := encodePayload_octets hpayload
  rw [hcoded]
  rfl

section SetBody

variable (htype : e.HasTextType) (h : e.setBody body = .ok whole)
include htype h

theorem described_of_mem_setBody (hfield : field ∈ whole.fields) : Described e field := by
  obtain ⟨named, hnamed, hcoded⟩ := exists_of_bind_eq_ok h
  have hold (hmem : field ∈ (e.withBody body).fields) : Described e field := by
    obtain hmem | rfl := mem_fields_withBody hmem
    · exact .old hmem
    · exact .version
  have hget : (e.withBody body).get? contentTypeName = e.get? contentTypeName :=
    get?_withBody (by decide) body
  obtain hmem | rfl := (mem_fields_encodePayload hcoded).2 field hfield
  · obtain ⟨hnone, rfl⟩ | ⟨s, r, hs, hr, rfl⟩ := nameCharset_cases (htype.withBody body) hnamed
    · obtain hmem | rfl := mem_fields_append.mp hmem
      · exact hold hmem
      · exact .plain (hget.symm.trans hnone)
    · split at hmem
      · exact hold hmem
      · obtain ⟨hmem, -⟩ | rfl := mem_fields_replace.mp hmem
        · exact hold hmem
        · exact .renewed (hget.symm.trans hs) hr
  · exact .coded

/-- Fields of other names than that of the content type stay. -/
theorem mem_setBody (hfield : field ∈ e.fields)
    (hother : isNamed contentTypeName field.1 = false) : field ∈ whole.fields := by
  obtain ⟨named, hnamed, hcoded⟩ := exists_of_bind_eq_ok h
  apply (mem_fields_encodePayload hcoded).1
  have hfield := fields_subset_withBody body e hfield
  obtain ⟨-, rfl⟩ | ⟨s, r, -, -, rfl⟩ := nameCharset_cases (htype.withBody body) hnamed
  · exact mem_fields_append.mpr (.inl hfield)
  · split
    · exact hfield
    · exact mem_fields_replace.mpr (.inl ⟨hfield, hother⟩)

/-- The content type that names UTF-8 is there, whether it had to be written anew or not. -/
theorem renewed_mem_setBody {s : String} (hs : e.get? contentTypeName = some (.text s)) :
    ∃ r, inUtf8 s.toList = .ok r ∧ ∃ field ∈ whole.fields, field.2 = .text (String.ofList r) := by
  obtain ⟨named, hnamed, hcoded⟩ := exists_of_bind_eq_ok h
  have hget : (e.withBody body).get? contentTypeName = e.get? contentTypeName :=
    get?_withBody (by decide) body
  rw [hs] at hget
  obtain ⟨hnone, -⟩ | ⟨s', r, hs', hr, rfl⟩ := nameCharset_cases (htype.withBody body) hnamed
  · rw [hnone] at hget
    cases hget
  · obtain rfl : s' = s := by simpa [hs'] using hget
    refine ⟨r, hr, ?_⟩
    split at hcoded
    · rename_i hsame
      obtain ⟨field, hfield, -, hvalue⟩ := mem_of_get? hs'
      refine ⟨field, (mem_fields_encodePayload hcoded).1 hfield, ?_⟩
      rw [hvalue, ← hsame, String.ofList_toList]
    · exact ⟨_, (mem_fields_encodePayload hcoded).1 (mem_fields_replace.mpr (.inr rfl)), rfl⟩

theorem payload_setBody {bs : List UInt8} (hbody : bodyPayload body = .octets bs) :
    ∃ bs, whole.payload = .octets bs := by
  obtain ⟨named, hnamed, hcoded⟩ := exists_of_bind_eq_ok h
  have hpayload : named.payload = .octets bs := by
    rw [payload_nameCharset (htype.withBody body) hnamed, payload_withBody, hbody]
  obtain ⟨coded, bs, hok, hbs⟩ := encodePayload_octets hpayload
  obtain rfl := Except.ok.inj (hok.symm.trans hcoded)
  exact ⟨bs, hbs⟩

end SetBody

/-! ### Fields laid over others -/

/-- Fields with the property take the place of others of their names, one after the other. -/
inductive LaidOver (P : String → Value → Prop) (e : Entity) : Entity → Prop
  | refl : LaidOver P e e
  | replace {e' : Entity} {name : String} {v : Value} (h : LaidOver P e e') (hP : P name v) :
      LaidOver P e (e'.replace name v)

section LaidOver

variable {P : String → Value → Prop} {e' : Entity} (h : LaidOver P e e')
include h

theorem LaidOver.mem (hfield : field ∈ e'.fields) :
    field ∈ e.fields ∨ ∃ name v, P name v ∧ field = (.text name, v) := by
  induction h with
  | refl => exact .inl hfield
  | replace _ hP ih =>
      obtain ⟨hfield, -⟩ | rfl := mem_fields_replace.mp hfield
      · exact ih hfield
      · exact .inr ⟨_, _, hP, rfl⟩

theorem LaidOver.kept (hfield : field ∈ e.fields)
    (hother : ∀ name v, P name v → isNamed (Text.lowerText name) field.1 = false) :
    field ∈ e'.fields := by
  induction h with
  | refl => exact hfield
  | replace _ hP ih => exact mem_fields_replace.mpr (.inl ⟨ih, hother _ _ hP⟩)

theorem LaidOver.get? (hother : ∀ n v, P n v → isNamed name (.text n) = false) :
    e'.get? name = e.get? name := by
  induction h with
  | refl => rfl
  | replace _ hP ih => exact (get?_replace (hother _ _ hP)).trans ih

end LaidOver

end Wire.Entity

namespace Message

open Wire Wire.Entity

variable {m : Message} {e e' : Entity}

/-- The fields that follow from the parts of a message. -/
inductive Derived (m : Message) : String → Value → Prop
  | sender {s : String} (h : m.sender.plain = .ok s) : Derived m "From" (.text s)
  | addressees {s : String} (h : addressLine m.addressees = .ok s) : Derived m "To" (.text s)
  | cc {s : String} (h : addressLine m.cc = .ok s) : Derived m "Cc" (.text s)
  | replyTo {s : String} (h : addressLine m.replyTo = .ok s) : Derived m "Reply-To" (.text s)
  | subject (h : m.subject.isNothing = false) : Derived m "Subject" m.subject
  | date {s : String} (h : dateText m.sentDate = .ok s) : Derived m "Date" (.text s)

/-- The mail of a message before its body is set. -/
def head (m : Message) : Except Fault Entity := do
  let e : Entity := ⟨← visibleHeaders m.headers, .octets []⟩
  let e := e.replace "From" (.text (← m.sender.plain))
  let e ← addressField "To" m.addressees e
  let e ← addressField "Cc" m.cc e
  let e ← addressField "Reply-To" m.replyTo e
  let e := if m.subject.isNothing then e else e.replace "Subject" m.subject
  dateField m.sentDate e

theorem entity_eq (m : Message) : m.entity = m.head >>= fun e => e.setBody m.body := by
  simp only [entity, head, bind_assoc]

theorem LaidOver.addressField {P : String → Value → Prop} {name : String}
    {addresses : List Value} (h : LaidOver P e e')
    (hP : ∀ s, addressLine addresses = .ok s → P name (.text s)) {whole : Entity}
    (hwhole : Message.addressField name addresses e' = .ok whole) : LaidOver P e whole := by
  unfold Message.addressField at hwhole
  split at hwhole
  · obtain rfl := Except.ok.inj hwhole
    exact h
  · obtain ⟨s, hs, hwhole⟩ := exists_of_bind_eq_ok hwhole
    obtain rfl := Except.ok.inj hwhole
    exact h.replace (hP s hs)

theorem LaidOver.dateField {P : String → Value → Prop} {date : Value} (h : LaidOver P e e')
    (hP : ∀ s, dateText date = .ok s → P "Date" (.text s)) {whole : Entity}
    (hwhole : Message.dateField date e' = .ok whole) : LaidOver P e whole := by
  unfold Message.dateField at hwhole
  split at hwhole
  · obtain rfl := Except.ok.inj hwhole
    exact h
  · obtain ⟨s, hs, hwhole⟩ := exists_of_bind_eq_ok hwhole
    obtain rfl := Except.ok.inj hwhole
    exact h.replace (hP s hs)

/-- What follows from the parts of a message is laid over its own headers, the subject and then the
date last. -/
theorem laidOver_head (hvisible : visibleHeaders m.headers = .ok m.headers)
    (h : m.head = .ok e) :
    LaidOver m.Derived ⟨m.headers, .octets []⟩ e ∧
      (m.subject.isNothing = false → (.text "Subject", m.subject) ∈ e.fields) := by
  obtain ⟨visible, hheaders, h⟩ := exists_of_bind_eq_ok h
  obtain rfl : visible = m.headers := Except.ok.inj (hheaders.symm.trans hvisible)
  obtain ⟨sender, hsender, h⟩ := exists_of_bind_eq_ok h
  obtain ⟨e₁, h₁, h⟩ := exists_of_bind_eq_ok h
  obtain ⟨e₂, h₂, h⟩ := exists_of_bind_eq_ok h
  obtain ⟨e₃, h₃, h⟩ := exists_of_bind_eq_ok h
  have hfrom : LaidOver m.Derived ⟨m.headers, .octets []⟩ _ :=
    LaidOver.refl.replace (.sender hsender)
  have hto := LaidOver.addressField hfrom (fun _ => .addressees) h₁
  have hcc := LaidOver.addressField hto (fun _ => .cc) h₂
  have hreplyTo := LaidOver.addressField hcc (fun _ => .replyTo) h₃
  cases hsubject : m.subject.isNothing with
  | true =>
      rw [hsubject] at h
      exact ⟨LaidOver.dateField hreplyTo (fun _ => .date) h, nofun⟩
  | false =>
      rw [hsubject] at h
      refine ⟨LaidOver.dateField (hreplyTo.replace (.subject hsubject)) (fun _ => .date) h,
        fun _ => ?_⟩
      have hdate : LaidOver (fun name _ => name = "Date") (e₃.replace "Subject" m.subject) e :=
        LaidOver.dateField .refl (fun _ _ => rfl) h
      refine hdate.kept (mem_fields_replace.mpr (.inr rfl)) ?_
      rintro _ _ rfl
      change isNamed (Text.lowerText "Date") (.text "Subject") = false
      decide

/-! ### Own headers -/

/-- The message's own headers are texts that passed the header check. -/
def HasCheckedHeaders (m : Message) : Prop :=
  ∀ header ∈ m.headers, ∃ name value, header = (.text name, .text value) ∧
    Header.Passes name value

/-- The content type among the message's own headers. -/
def contentHeader? (m : Message) : Option Value :=
  (⟨m.headers, .octets []⟩ : Entity).get? contentTypeName

theorem visibleHeaders_of_checked (h : m.HasCheckedHeaders) :
    visibleHeaders m.headers = .ok m.headers := by
  unfold HasCheckedHeaders at h
  generalize m.headers = headers at h
  induction headers with
  | nil => rfl
  | cons header rest ih =>
      obtain ⟨⟨name, value, rfl, hpasses⟩, hrest⟩ := List.forall_mem_cons.mp h
      have hshown : isHidden (.text name) = .ok false := congrArg Except.ok hpasses.isFree
      have hfound := ih hrest
      rw [visibleHeaders] at hfound ⊢
      rw [filterM_cons, hfound, hshown]
      rfl

/-- None of the fields that follow from a message describes the body. -/
theorem isNamed_derived {name : String} {v : Value} (h : m.Derived name v) :
    isNamed contentTypeName (.text name) = false := by
  cases h <;> decide

theorem get?_head (h : m.HasCheckedHeaders) (he : m.head = .ok e) :
    e.get? contentTypeName = m.contentHeader? :=
  (laidOver_head (visibleHeaders_of_checked h) he).1.get? fun _ _ => isNamed_derived

theorem HasCheckedHeaders.contentHeader (h : m.HasCheckedHeaders) {v : Value}
    (hv : m.contentHeader? = some v) : ∃ s, v = .text s ∧ s.isEmpty = false := by
  obtain ⟨header, hheader, -, rfl⟩ := mem_of_get? hv
  obtain ⟨name, value, rfl, hpasses⟩ := h header hheader
  refine ⟨value, rfl, Bool.eq_false_iff.mpr fun hempty => ?_⟩
  have hfilled := hpasses.filled
  rw [String.isEmpty_iff.mp hempty] at hfilled
  cases hfilled

theorem hasTextType_head (h : m.HasCheckedHeaders) (he : m.head = .ok e) : e.HasTextType := by
  intro v hv
  rw [get?_head h he] at hv
  exact h.contentHeader hv

/-! ### Whether the mail is made -/

theorem isOk_addressField (name : String) (addresses : List Value) (e : Entity) :
    (addressField name addresses e).isOk = (addresses.mapM Value.plain).isOk := by
  unfold addressField addressLine
  cases addresses with
  | nil => rfl
  | cons a rest => cases (a :: rest).mapM Value.plain <;> rfl

theorem isOk_addressField_bind {β : Type} {name : String} {addresses : List Value}
    {f : Entity → Except Fault β} {p : Bool} (h : ∀ e, (f e).isOk = p) :
    (addressField name addresses e >>= f).isOk = ((addresses.mapM Value.plain).isOk && p) := by
  rw [isOk_bind_eq h, isOk_addressField]

theorem isOk_dateField (date : Value) (e : Entity) :
    (dateField date e).isOk = (date.isNothing || (dateText date).isOk) := by
  unfold dateField
  cases date.isNothing with
  | true => rfl
  | false => cases dateText date <;> rfl

/-- A message whose headers can be read and whose date is a moment comes to a head just if everyone
in it can be written out. -/
theorem isOk_head_iff (hvisible : visibleHeaders m.headers = .ok m.headers)
    (hdate : m.sentDate = .nothing ∨ ∃ t, m.sentDate = .moment t) :
    m.head.isOk = true ↔
      ∀ v ∈ m.sender :: (m.addressees ++ m.cc ++ m.replyTo), v.plain.isOk = true := by
  have hdated : (m.sentDate.isNothing || (dateText m.sentDate).isOk) = true := by
    obtain h | ⟨t, h⟩ := hdate <;> rw [h] <;> rfl
  have hhead : m.head.isOk = ((visibleHeaders m.headers).isOk && (m.sender.plain.isOk &&
      ((m.addressees.mapM Value.plain).isOk && ((m.cc.mapM Value.plain).isOk &&
        ((m.replyTo.mapM Value.plain).isOk &&
          (m.sentDate.isNothing || (dateText m.sentDate).isOk)))))) := by
    unfold head
    exact isOk_bind_eq fun _ => isOk_bind_eq fun _ => isOk_addressField_bind fun _ =>
      isOk_addressField_bind fun _ => isOk_addressField_bind fun _ => isOk_dateField _ _
  rw [hhead, hvisible, hdated]
  simp only [isOk_ok, Bool.true_and, Bool.and_true, Bool.and_eq_true, isOk_mapM,
    List.forall_mem_cons, List.forall_mem_append, and_assoc]

/-- The mail of such a message with a body of octets is made just if everyone in the message can be
written out and its own content type can be made to name UTF-8. -/
theorem isOk_entity_iff (h : m.HasCheckedHeaders)
    (hdate : m.sentDate = .nothing ∨ ∃ t, m.sentDate = .moment t) {bs : List UInt8}
    (hbody : bodyPayload m.body = .octets bs) :
    m.entity.isOk = true ↔
      (∀ v ∈ m.sender :: (m.addressees ++ m.cc ++ m.replyTo), v.plain.isOk = true) ∧
        ∀ s, m.contentHeader? = some (.text s) → CanNameUtf8 s.toList := by
  have hhead := isOk_head_iff (visibleHeaders_of_checked h) hdate
  rw [entity_eq, isOk_bind, ← hhead, isOk_iff, ← exists_and_right]
  refine exists_congr fun e => and_congr_right fun he => ?_
  rw [isOk_setBody_iff (hasTextType_head h he) hbody, get?_head h he]

/-- What the fields of the mail can be. -/
inductive Shown (m : Message) : Value × Value → Prop
  | own {name value : String} (h : (.text name, .text value) ∈ m.headers)
      (hpasses : Header.Passes name value) : Shown m (.text name, .text value)
  | derived {name : String} {v : Value} (h : m.Derived name v) : Shown m (.text name, v)
  | version : Shown m (.text "MIME-Version", .text "1.0")
  | plain (h : m.contentHeader? = none) :
      Shown m (.text "Content-Type", .text "text/plain; charset=\"utf-8\"")
  | renewed {s : String} {r : List Char} (h : m.contentHeader? = some (.text s))
      (hr : inUtf8 s.toList = .ok r) : Shown m (.text "Content-Type", .text (String.ofList r))
  | coded : Shown m (.text "Content-Transfer-Encoding", .text "base64")

theorem shown_of_mem_entity (h : m.HasCheckedHeaders) (he : m.entity = .ok e)
    {field : Value × Value} (hfield : field ∈ e.fields) : m.Shown field := by
  rw [entity_eq] at he
  obtain ⟨top, htop, he⟩ := exists_of_bind_eq_ok he
  have hget := get?_head h htop
  cases described_of_mem_setBody (hasTextType_head h htop) he hfield with
  | old hmem =>
      obtain hmem | ⟨name, v, hderived, rfl⟩ :=
        (laidOver_head (visibleHeaders_of_checked h) htop).1.mem hmem
      · obtain ⟨name, value, rfl, hpasses⟩ := h field hmem
        exact .own hmem hpasses
      · exact .derived hderived
  | version => exact .version
  | plain hnone => exact .plain (hget.symm.trans hnone)
  | renewed hs hr => exact .renewed (hget.symm.trans hs) hr
  | coded => exact .coded

end Message

end Mailroom
