import Mailroom.Proofs.Builder.BuiltMessage
import Mailroom.Proofs.Builder.Checks
import Mailroom.Proofs.Message.Fields

/-!
Which built messages can be rendered. A build writes down whom the message goes to, so it notices an
email that cannot be written there; whom it comes from and who gets the answers it does not look at.
Nor does it look at the message's own headers once more, some of which say how the rest is written.
-/

namespace Mailroom

open Wire Wire.Entity

/-! ### The mail -/

namespace Wire.Entity

/-- The payload is what the kind of content asks for. -/
def HasSuitablePayload (e : Entity) : Prop :=
  ∃ bs kind, e.payload = .octets bs ∧ e.contentType = .ok kind ∧ e.Suits bs (writerFor kind)

/-- Names and values are texts, and the names are ASCII. -/
def HasTexts (e : Entity) : Prop :=
  ∀ field ∈ e.fields, ∃ name value, field = (.text name, .text value) ∧
    Text.isAscii name.toList = true

theorem HasTexts.text_of_get? {e : Entity} (h : e.HasTexts) {name : String} {v : Value}
    (hv : e.get? name = some v) : ∃ s, v = .text s := by
  obtain ⟨field, hfield, -, rfl⟩ := mem_of_get? hv
  obtain ⟨name, value, rfl, -⟩ := h field hfield
  exact ⟨value, rfl⟩

theorem HasTexts.exists_contentType {e : Entity} (h : e.HasTexts) :
    ∃ kind, e.contentType = .ok kind := by
  cases hfound : e.get? contentTypeName with
  | none => exact ⟨_, by simp only [contentType, contentTypeText, hfound, bind, Except.bind]; rfl⟩
  | some v =>
      obtain ⟨s, rfl⟩ := h.text_of_get? hfound
      exact ⟨_, by
        simp only [contentType, contentTypeText, hfound, Value.plain, Except.map, bind, Except.bind]
        rfl⟩

/-- A mail of texts with a payload of octets is written just if these are suitable and all its
values can be folded. -/
theorem HasTexts.isOk_write_iff {e : Entity} (h : e.HasTexts) {bs : List UInt8}
    (hbs : e.payload = .octets bs) :
    e.write.isOk = true ↔
      e.HasSuitablePayload ∧ ∀ field ∈ e.fields, Folds field.1 field.2 := by
  obtain ⟨kind, hkind⟩ := h.exists_contentType
  have hnames : ∀ field ∈ e.fields, ∃ name, field.1 = .text name ∧
      Text.isAscii name.toList = true := by
    intro field hfield
    obtain ⟨name, value, rfl, hascii⟩ := h field hfield
    exact ⟨name, rfl, hascii⟩
  have hencoding : ∀ v, e.get? encodingName = some v → v.isText = true := by
    intro v hv
    obtain ⟨s, rfl⟩ := h.text_of_get? hv
    rfl
  rw [Entity.isOk_write_iff hnames, isOk_writtenPayload_iff hbs hkind hencoding]
  refine and_congr_left fun _ => ⟨fun hsuits => ⟨bs, kind, hbs, hkind, hsuits⟩, fun hsuitable => ?_⟩
  obtain ⟨bs', kind', hbs', hkind', hsuits⟩ := hsuitable
  obtain rfl := Payload.octets.inj (hbs.symm.trans hbs')
  obtain rfl := Except.ok.inj (hkind.symm.trans hkind')
  exact hsuits

end Wire.Entity

namespace Message

variable {m : Message} {e : Entity}

/-- Subject, body and date are there as such or not at all. -/
structure IsOrdinary (m : Message) : Prop where
  subject : m.subject = .nothing ∨ ∃ s, m.subject = .text s
  body : m.body = .nothing ∨ ∃ s, m.body = .text s
  sentDate : m.sentDate = .nothing ∨ ∃ t, m.sentDate = .moment t

theorem IsOrdinary.bodyPayload (h : m.IsOrdinary) :
    ∃ bs, Entity.bodyPayload m.body = .octets bs :=
  Entity.exists_octets h.body

theorem hasTexts_entity (h : m.HasCheckedHeaders) (hm : m.IsOrdinary) (he : m.entity = .ok e) :
    e.HasTexts := by
  intro field hfield
  cases shown_of_mem_entity h he hfield with
  | own hmem hpasses => exact ⟨_, _, rfl, Header.isAscii_of_isName hpasses.isName⟩
  | version => exact ⟨_, _, rfl, by decide⟩
  | plain => exact ⟨_, _, rfl, by decide⟩
  | renewed => exact ⟨_, _, rfl, by decide⟩
  | coded => exact ⟨_, _, rfl, by decide⟩
  | derived hderived =>
      cases hderived with
      | subject hthere =>
          obtain hnothing | ⟨s, hs⟩ := hm.subject
          · rw [hnothing] at hthere
            cases hthere
          · exact ⟨_, s, by rw [hs], by decide⟩
      | _ => exact ⟨_, _, rfl, by decide⟩

theorem payload_entity (h : m.HasCheckedHeaders) (hm : m.IsOrdinary) (he : m.entity = .ok e) :
    ∃ bs, e.payload = .octets bs := by
  rw [entity_eq] at he
  obtain ⟨top, htop, he⟩ := exists_of_bind_eq_ok he
  obtain ⟨bs, hbody⟩ := hm.bodyPayload
  exact payload_setBody (hasTextType_head h htop) he hbody

/-- What a message must come up to in order to be rendered. -/
structure IsRenderable (m : Message) : Prop where
  /-- The sender and those who get the answers can be written out. -/
  people : ∀ a, .address a ∈ m.sender :: m.replyTo → Text.isAscii a.email.toList = true
  contentType : ∀ s, m.contentHeader? = some (.text s) → CanNameUtf8 s.toList
  payload : ∀ e, m.entity = .ok e → e.HasSuitablePayload
  values : ∀ e, m.entity = .ok e → ∀ field ∈ e.fields, Folds field.1 field.2

end Message

/-! ### The builder -/

namespace Builder

open Message

variable {τ : Type} {rules : Rules} {b : Builder} {m : Message}

/-- What a message is like that was built. -/
structure IsBuilt (m : Message) : Prop where
  headers : m.HasCheckedHeaders
  people : ∀ v ∈ m.sender :: (m.addressees ++ m.cc ++ m.replyTo), ∃ a, v = .address a
  writable : ∀ v ∈ m.recipients, v.plain.isOk = true

theorem isBuilt_of_build {given : Prop} (hb : b.IsChecked given)
    (h : ((build rules).run b).result = .ok m) : IsBuilt m := by
  obtain ⟨hready, sender, s, -, rfl⟩ := message_of_build h
  have hwritable : ¬b.HasUnwritable := (run_build_of_ready hready).2.mp (by rw [h]; rfl)
  refine ⟨?_, ?_, isOk_mapM.mp ((isOk_recipients_compose _ _ _ _).mpr hwritable)⟩
  · intro header hheader
    obtain ⟨item, hitem, rfl⟩ := List.mem_map.mp hheader
    exact ⟨item.1, item.2, rfl, hb.headers item hitem⟩
  · simp only [compose, List.mem_cons, List.mem_append, List.mem_map]
    grind

theorem isOk_plain_address (a : Address) :
    (Value.plain (.address a)).isOk = Text.isAscii a.email.toList := a.isOk_text

/-- The people in a built message can be written out if those can that the build did not look at. -/
theorem isOk_people_iff (h : IsBuilt m) :
    (∀ v ∈ m.sender :: (m.addressees ++ m.cc ++ m.replyTo), v.plain.isOk = true) ↔
      ∀ a, .address a ∈ m.sender :: m.replyTo → Text.isAscii a.email.toList = true := by
  constructor
  · intro hall a ha
    rw [← isOk_plain_address]
    refine hall _ ?_
    obtain ha | ha := List.mem_cons.mp ha
    · exact List.mem_cons.mpr (.inl ha)
    · exact List.mem_cons_of_mem _ (List.mem_append_right _ ha)
  · intro hsome v hv
    obtain ⟨a, rfl⟩ := h.people v hv
    obtain hv | hv := List.mem_cons.mp hv
    · rw [isOk_plain_address]
      exact hsome a (List.mem_cons.mpr (.inl hv))
    · obtain hv | hv := List.mem_append.mp hv
      · exact h.writable _ (List.mem_append_left _ hv)
      · rw [isOk_plain_address]
        exact hsome a (List.mem_cons_of_mem _ hv)

/-- After any run, a message that is built can be rendered just if it comes up to what is asked of
it: the build itself asks for none of this. -/
theorem built_message_renders_iff (c : Settings) (rules : Rules) (steps : List (Step τ)) (t : τ)
    {m : Message} (h : ((build rules).run (follow steps (ofSettings c, t)).1).result = .ok m)
    (hm : m.IsOrdinary) : (m.entity >>= Entity.write).isOk = true ↔ m.IsRenderable := by
  obtain ⟨hready, -⟩ := message_of_build h
  have hbuilt := isBuilt_of_build (isChecked_follow c steps t hready.isOpen) h
  obtain ⟨bs, hbody⟩ := hm.bodyPayload
  have hentity := isOk_entity_iff hbuilt.headers hm.sentDate hbody
  rw [isOk_people_iff hbuilt] at hentity
  have hwrite (e : Entity) (he : m.entity = .ok e) :
      e.write.isOk = true ↔ e.HasSuitablePayload ∧ ∀ field ∈ e.fields, Folds field.1 field.2 := by
    obtain ⟨bs, hbs⟩ := payload_entity hbuilt.headers hm he
    exact (hasTexts_entity hbuilt.headers hm he).isOk_write_iff hbs
  rw [isOk_bind]
  constructor
  · intro hrendered
    obtain ⟨e, he, hok⟩ := hrendered
    obtain ⟨hpeople, htype⟩ := hentity.mp (by rw [he]; rfl)
    obtain ⟨hpayload, hvalues⟩ := (hwrite e he).mp hok
    refine ⟨hpeople, htype, fun e' he' => ?_, fun e' he' => ?_⟩
    · obtain rfl := Except.ok.inj (he.symm.trans he')
      exact hpayload
    · obtain rfl := Except.ok.inj (he.symm.trans he')
      exact hvalues
  · intro hrenderable
    obtain ⟨e, he⟩ := isOk_iff.mp (hentity.mpr ⟨hrenderable.people, hrenderable.contentType⟩)
    exact ⟨e, he, (hwrite e he).mpr ⟨hrenderable.payload e he, hrenderable.values e he⟩⟩

theorem draft_renders :
    ((build draftRules).run (follow (draftSteps draftCalls) blank).1).result = .ok draftMessage ∧
      draftMessage.IsRenderable := by
  have hbuild : ((build draftRules).run (follow (draftSteps draftCalls) blank).1).result =
      .ok draftMessage := rfl
  have hordinary : draftMessage.IsOrdinary := ⟨.inr ⟨"s", rfl⟩, .inl rfl, .inr ⟨noon, rfl⟩⟩
  refine ⟨hbuild, ?_⟩
  exact (built_message_renders_iff .initial draftRules (draftSteps draftCalls) () hbuild
    hordinary).mp (by decide +kernel)

/-- Both calls are accepted. -/
def foreignCalls : List Call :=
  [.setSender (.text "é@b.c") .nothing, .addRecipients .addressee [.text "a@b.c"]]

def foreignMessage : Message where
  sender := .address ⟨"é@b.c", none⟩
  addressees := [.address ⟨"a@b.c", none⟩]
  cc := []
  bcc := []
  replyTo := []
  subject := .nothing
  body := .nothing
  headers := []
  sentDate := .moment noon
  session := some ⟨.opened 0, [], .nothing⟩

theorem foreign_sender_built_not_rendered :
    ¬∀ (c : Settings) (rules : Rules) (steps : List (Step Unit)) (m : Message),
      ((build rules).run (follow steps (ofSettings c, ())).1).result = .ok m → m.IsOrdinary →
      (m.entity >>= Entity.write).isOk = true := by
  intro h
  have hbuild : ((build draftRules).run (follow (draftSteps foreignCalls) blank).1).result =
      .ok foreignMessage := rfl
  have hordinary : foreignMessage.IsOrdinary := ⟨.inl rfl, .inl rfl, .inr ⟨noon, rfl⟩⟩
  have hrendered := h .initial draftRules (draftSteps foreignCalls) foreignMessage hbuild hordinary
  have hnot : (foreignMessage.entity >>= Entity.write).isOk = false := by decide +kernel
  rw [hnot] at hrendered
  cases hrendered

end Builder

end Mailroom
