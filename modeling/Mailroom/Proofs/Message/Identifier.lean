import Mailroom.Delivery.Desk
import Mailroom.Proofs.Results
import Mailroom.Proofs.Wire.Besides

/-!
The identifier of a message in its headers and in its mail. Names of headers are compared as they
are written, names of fields without regard to case; so the mail has a field for each header that
identifies the message, however it is spelled. Putting one identifying header changes nothing else
in the mail.
-/

namespace Mailroom

open Wire Wire.Entity

namespace Delivery

/-- The name of the fields that identify a message. -/
def idName : String := "message-id"

/-- The headers that identify a message, in any spelling. -/
def identifying (headers : Entries Value Value) : Entries Value Value :=
  headers.filter fun header => isNamed idName header.1

def identifiers (headers : Entries Value Value) : List Value := (identifying headers).map (·.2)

@[simp] theorem isNamed_idHeader : isNamed idName (.text idHeader) = true := by decide

variable {headers : Entries Value Value} {id : Value}

theorem eq_text_of_same {v : Value} {s : String} (h : Value.same v (.text s) = true) :
    v = .text s := by
  cases v with
  | text t => exact congrArg Value.text (eq_of_beq h)
  | _ => simp [Value.same, Value.asInt?, Value.same.isFloat] at h

theorem isIdName_eq_ok {name : Value} {found : Bool} (h : isIdName name = .ok found) :
    isNamed idName name = found := by
  cases name with
  | text s => exact Except.ok.inj h
  | bytes bs => exact Except.ok.inj h
  | _ => cases h

/-- The desk finds the first identifier, whatever the spelling of its header. -/
theorem head?_identifiers (h : idOf headers = .ok id) :
    (identifiers headers).head?.getD .nothing = id := by
  induction headers with
  | nil => exact Except.ok.inj h
  | cons header rest ih =>
      obtain ⟨found, hfound, h⟩ := exists_of_bind_eq_ok h
      have hnamed := isIdName_eq_ok hfound
      cases found with
      | true =>
          obtain rfl := Except.ok.inj h
          simp [identifiers, identifying, hnamed]
      | false => simpa [identifiers, identifying, hnamed] using ih h

theorem identifying_put (headers : Entries Value Value) (id : Value) :
    identifying (headers.put Value.same (.text idHeader) id) =
      (identifying headers).put Value.same (.text idHeader) id := by
  induction headers with
  | nil => rfl
  | cons header rest ih =>
      obtain ⟨name, value⟩ := header
      simp only [identifying] at ih
      cases hsame : Value.same name (.text idHeader) with
      | true =>
          obtain rfl := eq_text_of_same hsame
          simp [identifying, Entries.put, hsame]
      | false =>
          cases hnamed : isNamed idName name with
          | true => simp [identifying, Entries.put, hsame, hnamed, ih]
          | false => simp [identifying, Entries.put, hsame, hnamed, ih]

theorem put_of_identifiers_nil (h : identifiers headers = []) (id : Value) :
    headers.put Value.same (.text idHeader) id = headers ++ [(.text idHeader, id)] := by
  have hnone : ∀ header ∈ headers, isNamed idName header.1 = false := by
    simpa [identifiers, identifying] using h
  clear h
  induction headers with
  | nil => rfl
  | cons header rest ih =>
      obtain ⟨name, value⟩ := header
      obtain ⟨hname, hrest⟩ := List.forall_mem_cons.mp hnone
      have hother : Value.same name (.text idHeader) = false := by
        by_contra hsame
        obtain rfl := eq_text_of_same (by simpa using hsame)
        simp at hname
      simp [Entries.put, hother, ih hrest]

/-- What becomes of the headers of a message that is sent under an identifier. Headers with an
identifier stay as they are; headers without get a new one at their end. An identifying header with
nothing in it is not counted, and the new identifier takes its place if it is spelled as usual. -/
inductive Identified (newId : Nat → String) (headers : Entries Value Value) :
    Value → Entries Value Value → Prop
  | kept {id : Value} (first : (identifiers headers).head? = some id) (given : id ≠ .nothing) :
      Identified newId headers id headers
  | added (n : Nat) (none : identifiers headers = []) :
      Identified newId headers (.text (newId n)) (headers ++ [(.text idHeader, .text (newId n))])
  | filled (n : Nat) (first : (identifiers headers).head? = some .nothing) :
      Identified newId headers (.text (newId n))
        (headers.put Value.same (.text idHeader) (.text (newId n)))

/-- At most one header identifies the message, and it is spelled as usual if nothing is in it. -/
structure OneIdentifier (headers : Entries Value Value) : Prop where
  single : (identifying headers).length ≤ 1
  spelled : ∀ header ∈ identifying headers, header.2 = .nothing → header.1 = .text idHeader

theorem identifiers_eq_iff_of_given (hfirst : (identifiers headers).head? = some id)
    (hgiven : id ≠ .nothing) : identifiers headers = [id] ↔ OneIdentifier headers := by
  cases hown : identifying headers with
  | nil => simp [identifiers, hown] at hfirst
  | cons header more =>
      obtain rfl : header.2 = id := by simpa [identifiers, hown] using hfirst
      constructor
      · intro hone
        obtain rfl : more = [] := by simpa [identifiers, hown] using hone
        exact ⟨by simp [hown], by simp [hown, hgiven]⟩
      · intro hone
        obtain rfl : more = [] := by simpa [hown] using hone.single
        simp [identifiers, hown]

theorem identifiers_put_eq_iff (hid : id ≠ .nothing)
    (hfirst : (identifiers headers).head? = some .nothing) :
    identifiers (headers.put Value.same (.text idHeader) id) = [id] ↔ OneIdentifier headers := by
  rw [identifiers, identifying_put]
  cases hown : identifying headers with
  | nil => simp [identifiers, hown] at hfirst
  | cons header more =>
      obtain ⟨name, value⟩ := header
      obtain rfl : value = .nothing := by simpa [identifiers, hown] using hfirst
      cases hsame : Value.same name (.text idHeader) with
      | true =>
          obtain rfl := eq_text_of_same hsame
          constructor
          · intro hone
            obtain rfl : more = [] := by simpa [Entries.put, hsame] using hone
            exact ⟨by simp [hown], by simp [hown]⟩
          · intro hone
            obtain rfl : more = [] := by simpa [hown] using hone.single
            simp [Entries.put, hsame]
      | false =>
          refine iff_of_false (by simp [Entries.put, hsame, hid.symm]) fun hone => ?_
          have hname : name = .text idHeader :=
            hone.spelled (name, .nothing) (by simp [hown]) rfl
          rw [hname] at hsame
          exact absurd hsame (by decide)

theorem Identified.identifiers_eq_iff {newId : Nat → String} {headers' : Entries Value Value}
    (h : Identified newId headers id headers') :
    identifiers headers' = [id] ↔ OneIdentifier headers := by
  cases h with
  | kept hfirst hgiven => exact identifiers_eq_iff_of_given hfirst hgiven
  | filled n hfirst => exact identifiers_put_eq_iff nofun hfirst
  | added n hnone =>
      have hown : identifying headers = [] := List.map_eq_nil_iff.mp hnone
      refine iff_of_true ?_ ⟨by simp [hown], by simp [hown]⟩
      rw [identifiers, identifying, List.filter_append, ← identifying, hown]
      simp

end Delivery

namespace Message

open Delivery

variable {headers headers' : Entries Value Value} {e e' : Entity} {vs vs' : List Value}

theorem visibleHeaders_cons (header : Value × Value) (rest : Entries Value Value) :
    visibleHeaders (header :: rest) = isHidden header.1 >>= fun hidden =>
      (visibleHeaders rest).map fun visible => cond hidden visible (header :: visible) := by
  rw [visibleHeaders, filterM_cons]
  cases isHidden header.1 with
  | error e => rfl
  | ok hidden => cases hidden <;> rfl

theorem isNamed_of_isHidden {name : Value} (h : isHidden name = .ok true) :
    isNamed idName name = false := by
  cases name with
  | text s =>
      have hblind : isNamed "bcc" (.text s) = true := Except.ok.inj h
      by_contra hnamed
      have hsame : idName = "bcc" := eq_of_isNamed (by simpa using hnamed) hblind
      exact absurd hsame (by decide)
  | _ => rfl

theorem identifying_of_visible {visible : List (Value × Value)}
    (h : visibleHeaders headers = .ok visible) : identifying visible = identifying headers := by
  induction headers generalizing visible with
  | nil =>
      obtain rfl := Except.ok.inj h
      rfl
  | cons header rest ih =>
      rw [visibleHeaders_cons] at h
      obtain ⟨hidden, hhidden, h⟩ := exists_of_bind_eq_ok h
      obtain ⟨found, hfound, rfl⟩ := exists_of_map_eq_ok h
      cases hidden with
      | true =>
          have hother := isNamed_of_isHidden hhidden
          simpa [identifying, hother] using ih hfound
      | false =>
          have hrest := ih hfound
          simp only [identifying] at hrest
          simp only [identifying, cond_false, List.filter_cons, hrest]

/-- The headers that go into the mail besides the identifying ones. -/
def Plain (visible visible' : List (Value × Value)) : Prop :=
  visible.filter (fun header => !isNamed idName header.1) =
    visible'.filter fun header => !isNamed idName header.1

theorem Plain.refl (visible : List (Value × Value)) : Plain visible visible := rfl

theorem Plain.cons {visible visible' : List (Value × Value)} (h : Plain visible visible')
    (header : Value × Value) : Plain (header :: visible) (header :: visible') := by
  simp only [Plain, List.filter_cons] at h ⊢
  rw [h]

theorem visibleHeaders_put_agrees (headers : Entries Value Value) (id : Value) :
    ResultsAgree Plain (visibleHeaders headers)
      (visibleHeaders (headers.put Value.same (.text idHeader) id)) := by
  induction headers with
  | nil =>
      rw [Entries.put, visibleHeaders_cons]
      exact .value rfl
  | cons header rest ih =>
      obtain ⟨name, value⟩ := header
      rw [Entries.put]
      split
      · rename_i hsame
        obtain rfl := eq_text_of_same hsame
        rw [visibleHeaders_cons, visibleHeaders_cons]
        refine .seq _ fun hidden => .map (.refl (fun _ => Eq.refl _) (visibleHeaders rest)) ?_
        rintro visible _ rfl
        cases hidden <;> rfl
      · rw [visibleHeaders_cons, visibleHeaders_cons]
        refine .seq _ fun hidden => ih.map fun visible visible' h => ?_
        cases hidden with
        | true => exact h
        | false => exact h.cons (name, value)

theorem addressField_agrees {name : String} (hname : isNamed idName (.text name) = false)
    (addresses : List Value) (h : DifferIn idName vs vs' e e') :
    ResultsAgree (DifferIn idName vs vs') (addressField name addresses e)
      (addressField name addresses e') := by
  unfold addressField
  split
  · exact .value h
  · exact .seq _ fun line => .value (h.replace hname _)

theorem dateField_agrees (date : Value) (h : DifferIn idName vs vs' e e') :
    ResultsAgree (DifferIn idName vs vs') (dateField date e) (dateField date e') := by
  unfold dateField
  split
  · exact .value h
  · exact .seq _ fun line => .value (h.replace (by decide) _)

theorem isApart_idName : IsApart idName := by
  unfold IsApart
  decide

theorem entity_agrees (m : Message)
    (h : ResultsAgree Plain (visibleHeaders m.headers) (visibleHeaders headers)) :
    ResultsAgree (DifferIn idName (identifiers m.headers) (identifiers headers)) m.entity
      { m with headers := headers }.entity := by
  have hvisible : ResultsAgree (fun visible visible' =>
      DifferIn idName (identifiers m.headers) (identifiers headers) ⟨visible, .octets []⟩
        ⟨visible', .octets []⟩) (visibleHeaders m.headers) (visibleHeaders headers) := by
    refine h.imp fun visible visible' hv hv' hplain => ⟨?_, ?_, ?_⟩
    · exact congrArg (Entity.mk · _) hplain
    · exact congrArg (List.map Prod.snd) (identifying_of_visible hv)
    · exact congrArg (List.map Prod.snd) (identifying_of_visible hv')
  refine hvisible.bind fun visible visible' hown => .seq m.sender.plain fun sender => ?_
  have hnamed : isNamed idName (.text "From") = false := by decide
  have hfrom := hown.replace hnamed (.text sender)
  refine (addressField_agrees (by decide) m.addressees hfrom).bind fun e e' hto => ?_
  refine (addressField_agrees (by decide) m.cc hto).bind fun e e' hcc => ?_
  refine (addressField_agrees (by decide) m.replyTo hcc).bind fun e e' hreplyTo => ?_
  refine ResultsAgree.bind (dateField_agrees m.sentDate ?_) fun e e' hdated =>
    setBody_agrees isApart_idName hdated m.body
  split
  · exact hreplyTo
  · exact hreplyTo.replace (by decide) _

end Message

end Mailroom
