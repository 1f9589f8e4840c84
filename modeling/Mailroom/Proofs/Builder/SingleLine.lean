import Mailroom.Proofs.Builder.Rendering
import Mailroom.Proofs.Message.Unbroken

/-!
Which built messages have all their fields on one line. Values of headers, personal names and emails
are checked when they are handed in, and dates are written here, so no line end comes from them. It
comes from a header name that ends in a line feed, which the check lets through, from the subject,
which is not checked, or from a content type that is written anew.
-/

namespace Mailroom

open Text Wire Wire.Entity

/-- A text, if it is one, is on one line. -/
def Value.IsUnbroken : Value → Prop
  | .text s => Unbroken s.toList
  | _ => True

namespace Message

variable {m : Message} {e : Entity}

/-- The sender and everyone to whom the message goes passed the address check. -/
def HasValidPeople (m : Message) : Prop :=
  ∀ v ∈ m.sender :: (m.addressees ++ m.cc ++ m.replyTo), ∃ a, v = .address a ∧ a.IsValid

/-- What no check sees to is on one line. -/
structure HasUnbrokenRest (m : Message) : Prop where
  names : ∀ header ∈ m.headers, header.1.IsUnbroken
  subject : m.subject.IsUnbroken
  contentType : ∀ s, m.contentHeader? = some (.text s) → StaysUnbroken s.toList

/-! ### From the message to its fields -/

theorem unbroken_derivedName {name : String} {v : Value} (h : m.Derived name v) :
    Unbroken name.toList := by
  cases h <;> exact unbroken_of_hasLineEnd (by decide)

theorem unbroken_derived (hpeople : m.HasValidPeople) (hsubject : m.subject.IsUnbroken)
    {name : String} {v : Value} (h : m.Derived name v) : v.IsUnbroken := by
  have hlist {addresses : List Value} (hsub : addresses ⊆ m.addressees ++ m.cc ++ m.replyTo)
      {s : String} (hs : addressLine addresses = .ok s) : Unbroken s.toList :=
    unbroken_addressLine (fun v hv => hpeople v (List.mem_cons_of_mem _ (hsub hv))) hs
  cases h with
  | sender hs =>
      obtain ⟨a, ha, hvalid⟩ := hpeople m.sender List.mem_cons_self
      rw [ha] at hs
      exact hvalid.unbroken_text hs
  | addressees hs => exact hlist (by simp [List.append_assoc]) hs
  | cc hs => exact hlist (by simp [List.append_assoc]) hs
  | replyTo hs => exact hlist (by simp) hs
  | subject _ => exact hsubject
  | date hs =>
      cases hdate : m.sentDate with
      | moment t =>
          rw [hdate] at hs
          obtain rfl := Except.ok.inj hs
          exact t.unbroken_headerText
      | _ =>
          rw [hdate] at hs
          cases hs

theorem HasCheckedHeaders.unbroken_contentHeader (h : m.HasCheckedHeaders) {s : String}
    (hs : m.contentHeader? = some (.text s)) : Unbroken s.toList := by
  obtain ⟨header, hheader, -, hvalue⟩ := mem_of_get? hs
  obtain ⟨name, value, rfl, hpasses⟩ := h header hheader
  obtain rfl := Value.text.inj hvalue
  exact unbroken_of_hasLineEnd hpasses.unbroken

theorem unbroken_shown (hpeople : m.HasValidPeople) (h : m.HasCheckedHeaders)
    (hm : m.HasUnbrokenRest) {field : Value × Value} (hfield : m.Shown field) :
    field.1.IsUnbroken ∧ field.2.IsUnbroken := by
  cases hfield with
  | own hmem hpasses => exact ⟨hm.names _ hmem, unbroken_of_hasLineEnd hpasses.unbroken⟩
  | derived hderived =>
      exact ⟨unbroken_derivedName hderived, unbroken_derived hpeople hm.subject hderived⟩
  | version => exact ⟨unbroken_of_hasLineEnd (by decide), unbroken_of_hasLineEnd (by decide)⟩
  | plain => exact ⟨unbroken_of_hasLineEnd (by decide), unbroken_of_hasLineEnd (by decide)⟩
  | coded => exact ⟨unbroken_of_hasLineEnd (by decide), unbroken_of_hasLineEnd (by decide)⟩
  | renewed hs hr =>
      refine ⟨unbroken_of_hasLineEnd (by decide), ?_⟩
      rw [Value.IsUnbroken, String.toList_ofList]
      exact (unbroken_inUtf8_iff (h.unbroken_contentHeader hs) hr).mpr (hm.contentType _ hs)

/-! ### From the fields back to the message -/

theorem isNamed_of_feed {name s : String} (hs : '\n' ∈ s.toList) (hname : '\n' ∉ name.toList) :
    isNamed name (.text s) = false := by
  refine Bool.eq_false_iff.mpr fun hsame => hname ?_
  rw [← eq_of_beq hsame]
  exact mem_lowerFrom hs []

/-- No field takes the place of a header whose name holds a line feed. -/
theorem mem_entity_of_feed (h : m.HasCheckedHeaders) (he : m.entity = .ok e) {name : String}
    {v : Value} (hheader : (.text name, v) ∈ m.headers) (hname : '\n' ∈ name.toList) :
    (.text name, v) ∈ e.fields := by
  rw [entity_eq] at he
  obtain ⟨top, htop, he⟩ := exists_of_bind_eq_ok he
  have hover := (laidOver_head (visibleHeaders_of_checked h) htop).1
  refine mem_setBody (hasTextType_head h htop) he ?_ (isNamed_of_feed hname (by decide))
  refine hover.kept hheader fun other w hderived => isNamed_of_feed hname ?_
  cases hderived <;> decide

theorem subject_mem_entity (h : m.HasCheckedHeaders) (he : m.entity = .ok e)
    (hsubject : m.subject.isNothing = false) : (.text "Subject", m.subject) ∈ e.fields := by
  rw [entity_eq] at he
  obtain ⟨top, htop, he⟩ := exists_of_bind_eq_ok he
  have hmem := (laidOver_head (visibleHeaders_of_checked h) htop).2 hsubject
  have hother : isNamed contentTypeName (.text "Subject") = false := by decide
  exact mem_setBody (hasTextType_head h htop) he hmem hother

theorem unbroken_name_of_feed {name : String} (h : Header.isName name.toList = true)
    (hfeed : '\n' ∉ name.toList) : Unbroken name.toList := by
  obtain ⟨core, hcore, hname | hname⟩ := Header.isName_cases h
  · rw [hname]
    exact fun c hc => isLineEnd_of (p := fun c => Header.isNameCharacter c = true) (by decide)
      (by decide) (hcore c hc)
  · rw [hname] at hfeed
    exact absurd (List.mem_append_right core (List.mem_singleton_self _)) hfeed

theorem hasUnbrokenRest_of_entity (h : m.HasCheckedHeaders) (he : m.entity = .ok e)
    (hfields : ∀ field ∈ e.fields, field.1.IsUnbroken ∧ field.2.IsUnbroken) :
    m.HasUnbrokenRest where
  names header hheader := by
    obtain ⟨name, value, rfl, hpasses⟩ := h header hheader
    refine unbroken_name_of_feed hpasses.isName fun hfeed => ?_
    have hunbroken := (hfields _ (mem_entity_of_feed h he hheader hfeed)).1
    exact absurd (hunbroken _ hfeed) (by decide)
  subject := by
    cases hsubject : m.subject.isNothing with
    | false => exact (hfields _ (subject_mem_entity h he hsubject)).2
    | true =>
        cases hvalue : m.subject with
        | text s =>
            rw [hvalue] at hsubject
            cases hsubject
        | _ => trivial
  contentType s hs := by
    rw [entity_eq] at he
    obtain ⟨top, htop, he⟩ := exists_of_bind_eq_ok he
    have hget := (get?_head h htop).trans hs
    obtain ⟨r, hr, field, hfield, hvalue⟩ :=
      renewed_mem_setBody (hasTextType_head h htop) he hget
    have hunbroken := (hfields field hfield).2
    rw [hvalue, Value.IsUnbroken, String.toList_ofList] at hunbroken
    exact (unbroken_inUtf8_iff (h.unbroken_contentHeader hs) hr).mp hunbroken

/-- The fields of a mail made from checked headers and people are on one line just if so is what no
check sees to. -/
theorem unbroken_fields_iff (h : m.HasCheckedHeaders) (hpeople : m.HasValidPeople)
    (he : m.entity = .ok e) :
    (∀ field ∈ e.fields, field.1.IsUnbroken ∧ field.2.IsUnbroken) ↔ m.HasUnbrokenRest :=
  ⟨hasUnbrokenRest_of_entity h he, fun hm _ hfield =>
    unbroken_shown hpeople h hm (shown_of_mem_entity h he hfield)⟩

end Message

/-! ### The builder -/

namespace Builder

open Message

variable {τ : Type} {rules : Rules} {b : Builder} {m : Message}

theorem hasValidPeople_of_build {given : Prop} (hb : b.IsChecked given) (hgiven : given)
    (h : ((build rules).run b).result = .ok m) : m.HasValidPeople := by
  obtain ⟨-, sender, s, hsender, rfl⟩ := message_of_build h
  have hlist (role : Role) : ∀ v ∈ (b.recipients.list role).map Value.address,
      ∃ a, v = .address a ∧ a.IsValid :=
    List.forall_mem_map.mpr fun a ha => ⟨a, rfl, hb.lists hgiven role a ha⟩
  refine List.forall_mem_cons.mpr ⟨⟨sender, rfl, hb.sender sender hsender⟩, ?_⟩
  refine List.forall_mem_append.mpr ⟨List.forall_mem_append.mpr ⟨?_, ?_⟩, ?_⟩
  · exact hlist .addressee
  · exact hlist .cc
  · exact hlist .replyTo

/-- After any run, the mail of a message that is built has all its fields on one line just if so is
what no check sees to: the names of headers, which may end in a line feed, the subject, and the
marks in a content type that is written anew. -/
theorem built_fields_unbroken_iff (c : Settings) (rules : Rules) (steps : List (Step τ)) (t : τ)
    (hcalls : ∀ call ∈ calls steps, call.GivesValid) {m : Message}
    (h : ((build rules).run (follow steps (ofSettings c, t)).1).result = .ok m)
    {e : Entity} (he : m.entity = .ok e) :
    (∀ field ∈ e.fields, field.1.IsUnbroken ∧ field.2.IsUnbroken) ↔ m.HasUnbrokenRest := by
  obtain ⟨hready, -⟩ := message_of_build h
  have hchecked := isChecked_follow c steps t hready.isOpen
  exact unbroken_fields_iff (isBuilt_of_build hchecked h).headers
    (hasValidPeople_of_build hchecked hcalls h) he

theorem draft_fields_unbroken :
    (∀ call ∈ calls (draftSteps draftCalls), call.GivesValid) ∧
      ((build draftRules).run (follow (draftSteps draftCalls) blank).1).result =
        .ok draftMessage ∧
      ∃ e, draftMessage.entity = .ok e ∧
        ∀ field ∈ e.fields, field.1.IsUnbroken ∧ field.2.IsUnbroken := by
  have hcalls : ∀ call ∈ calls (draftSteps draftCalls), call.GivesValid := by
    have hcalled : calls (draftSteps draftCalls) = draftCalls := rfl
    rw [hcalled, draftCalls]
    simp [Call.GivesValid, Value.IsValidEntry]
  have hbuild : ((build draftRules).run (follow (draftSteps draftCalls) blank).1).result =
      .ok draftMessage := rfl
  have hmade : draftMessage.entity.isOk = true := by decide +kernel
  obtain ⟨e, he⟩ := isOk_iff.mp hmade
  refine ⟨hcalls, hbuild, e, he, ?_⟩
  refine (built_fields_unbroken_iff .initial draftRules (draftSteps draftCalls) () hcalls hbuild
    he).mpr ⟨?_, ?_, ?_⟩
  · simp only [draftMessage, List.forall_mem_cons]
    exact ⟨unbroken_of_hasLineEnd (by decide), unbroken_of_hasLineEnd (by decide), nofun⟩
  · exact unbroken_of_hasLineEnd (by decide)
  · intro s hs
    have hnone : draftMessage.contentHeader? = none := by decide
    rw [hnone] at hs
    cases hs

/-- All three calls are accepted. -/
def brokenCalls : List Call :=
  [.setSender (.text "a@b.c") .nothing, .addRecipients .addressee [.text "a@b.c"],
    .addHeader (.text "X-A\n") (.text "v")]

def brokenMessage : Message where
  sender := .address ⟨"a@b.c", none⟩
  addressees := [.address ⟨"a@b.c", none⟩]
  cc := []
  bcc := []
  replyTo := []
  subject := .nothing
  body := .nothing
  headers := [(.text "X-A\n", .text "v")]
  sentDate := .moment noon
  session := some ⟨.opened 0, [], .nothing⟩

theorem header_name_breaks_its_line :
    ¬∀ (c : Settings) (rules : Rules) (steps : List (Step Unit)) (m : Message) (e : Entity),
      (∀ call ∈ calls steps, call.GivesValid) →
      ((build rules).run (follow steps (ofSettings c, ())).1).result = .ok m →
      m.entity = .ok e → ∀ field ∈ e.fields, field.1.IsUnbroken ∧ field.2.IsUnbroken := by
  intro h
  have hcalls : ∀ call ∈ calls (draftSteps brokenCalls), call.GivesValid := by
    have hcalled : calls (draftSteps brokenCalls) = brokenCalls := rfl
    rw [hcalled, brokenCalls]
    simp [Call.GivesValid, Value.IsValidEntry]
  have hbuild : ((build draftRules).run (follow (draftSteps brokenCalls) blank).1).result =
      .ok brokenMessage := rfl
  have hmade : brokenMessage.entity.isOk = true := by decide +kernel
  obtain ⟨e, he⟩ := isOk_iff.mp hmade
  have hunbroken := h .initial draftRules (draftSteps brokenCalls) brokenMessage e hcalls hbuild he
  have hchecked := isChecked_follow .initial (draftSteps brokenCalls) () (by decide)
  have hrest := hasUnbrokenRest_of_entity (isBuilt_of_build hchecked hbuild).headers he hunbroken
  have hname := hrest.names _ (List.mem_singleton_self _)
  exact absurd (hname '\n' (by decide)) (by decide)

end Builder

end Mailroom
