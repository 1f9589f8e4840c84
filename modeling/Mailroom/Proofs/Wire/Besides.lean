import Mailroom.Proofs.Agreement
import Mailroom.Wire.Entity

/-!
Mails that differ in the fields of one name at most. Whatever is done with the payload and the
fields of other names is the same for both and keeps the fields of that name.
-/

namespace Mailroom.Wire.Entity

variable {name other : String} {vs vs' : List Value} {e e' : Entity} {v : Value}

/-- The fields of the name have these values, and all else is the same. -/
structure DifferIn (name : String) (vs vs' : List Value) (e e' : Entity) : Prop where
  others : e.remove name = e'.remove name
  values : e.getAll name = vs
  values' : e'.getAll name = vs'

theorem eq_of_isNamed (h : isNamed name v = true) (h' : isNamed other v = true) :
    name = other := by
  cases v with
  | text s =>
      have hname : Text.lower s.toList = name.toList := eq_of_beq h
      have hother : Text.lower s.toList = other.toList := eq_of_beq h'
      exact String.toList_inj.mp (hname.symm.trans hother)
  | _ => cases h

theorem lowerText_ne (h : isNamed name (.text other) = false) : Text.lowerText other ≠ name := by
  rintro rfl
  simp [isNamed, Text.lowerText] at h

/-- A field of another name stays when the fields of the name are removed. -/
theorem isNamed_and_not (hother : other ≠ name) (v : Value) :
    (!isNamed name v && isNamed other v) = isNamed other v := by
  cases h : isNamed other v with
  | false => exact Bool.and_false _
  | true =>
      cases h' : isNamed name v with
      | false => rfl
      | true => exact absurd (eq_of_isNamed h h') hother

theorem has_remove (hother : other ≠ name) : (e.remove name).has other = e.has other := by
  simp only [has, remove, List.any_filter, isNamed_and_not hother]

theorem get?_remove (hother : other ≠ name) : (e.remove name).get? other = e.get? other := by
  simp only [get?, remove, List.find?_filter, ← Bool.and_eq_true, Bool.decide_eq_true,
    isNamed_and_not hother]

theorem getAll_remove (hother : other ≠ name) : (e.remove name).getAll other = e.getAll other := by
  simp only [getAll, remove, List.filter_filter, Bool.and_comm (isNamed other _),
    isNamed_and_not hother]

theorem remove_comm (e : Entity) (name other : String) :
    (e.remove name).remove other = (e.remove other).remove name := by
  simp only [remove, List.filter_filter, Bool.and_comm]

theorem remove_append (h : isNamed name (.text other) = false) :
    (e.append other v).remove name = (e.remove name).append other v := by
  simp [remove, append, h]

theorem getAll_append (h : isNamed name (.text other) = false) :
    (e.append other v).getAll name = e.getAll name := by
  simp [getAll, append, h]

section DifferIn

variable (h : DifferIn name vs vs' e e')
include h

theorem DifferIn.has (hother : other ≠ name) : e.has other = e'.has other := by
  rw [← has_remove hother, h.others, has_remove hother]

theorem DifferIn.get? (hother : other ≠ name) : e.get? other = e'.get? other := by
  rw [← get?_remove hother, h.others, get?_remove hother]

theorem DifferIn.payload : e.payload = e'.payload :=
  (Entity.mk.inj h.others).2

theorem DifferIn.withPayload (p : Payload) :
    DifferIn name vs vs' { e with payload := p } { e' with payload := p } :=
  ⟨congrArg (fun rest : Entity => { rest with payload := p }) h.others, h.values, h.values'⟩

theorem DifferIn.append (hname : isNamed name (.text other) = false) (v : Value) :
    DifferIn name vs vs' (e.append other v) (e'.append other v) := by
  refine ⟨?_, (getAll_append hname).trans h.values, (getAll_append hname).trans h.values'⟩
  rw [remove_append hname, h.others, remove_append hname]

theorem DifferIn.remove (hother : other ≠ name) :
    DifferIn name vs vs' (e.remove other) (e'.remove other) := by
  refine ⟨?_, (getAll_remove hother.symm).trans h.values,
    (getAll_remove hother.symm).trans h.values'⟩
  rw [remove_comm, h.others, remove_comm]

theorem DifferIn.replace (hname : isNamed name (.text other) = false) (v : Value) :
    DifferIn name vs vs' (e.replace other v) (e'.replace other v) :=
  (h.remove (lowerText_ne hname)).append hname v

end DifferIn

/-! ### The payload -/

/-- A name other than those of the fields that describe the payload. -/
def IsApart (name : String) : Prop :=
  ∀ n ∈ ["MIME-Version", "Content-Type", "Content-Transfer-Encoding"],
    isNamed name (.text n) = false

section Payload

variable (hname : IsApart name) (h : DifferIn name vs vs' e e')
include hname h

theorem nameCharset_agrees :
    ResultsAgree (DifferIn name vs vs') e.nameCharset e'.nameCharset := by
  have hnamed : isNamed name (.text "Content-Type") = false := hname _ (by simp)
  have hother : contentTypeName ≠ name := lowerText_ne hnamed
  have hget : e.get? contentTypeName = e'.get? contentTypeName := h.get? hother
  have hcharset : e.charset? = e'.charset? := by simp only [charset?, contentTypeText, hget]
  unfold nameCharset
  rw [hget, hcharset]
  split
  · exact .value (h.append hnamed _)
  · rename_i old _
    have hlast (s : List Char) : ResultsAgree (DifferIn name vs vs')
        (if old.text? == some (String.ofList s) then .ok e
          else .ok (e.replace "Content-Type" (.text (String.ofList s))))
        (if old.text? == some (String.ofList s) then .ok e'
          else .ok (e'.replace "Content-Type" (.text (String.ofList s)))) := by
      split
      · exact .value h
      · exact .value (h.replace hnamed _)
    refine .seq old.plain fun s => .seq e'.charset? fun charset => ?_
    dsimp only
    split
    · exact .seq _ fun result => hlast result
    · refine .seq _ fun parameter => ?_
      split
      · exact hlast _
      · split
        · exact hlast _
        · exact .fault _

theorem encodePayload_agrees :
    ResultsAgree (DifferIn name vs vs') e.encodePayload e'.encodePayload := by
  have hnamed : isNamed name (.text "Content-Transfer-Encoding") = false := hname _ (by simp)
  have hother : encodingName ≠ name := lowerText_ne hnamed
  unfold encodePayload
  rw [h.has hother, h.payload]
  split
  · exact .value h
  · split
    · exact .value (DifferIn.append (h.withPayload _) hnamed _)
    · exact .fault _

theorem setBody_agrees (body : Value) :
    ResultsAgree (DifferIn name vs vs') (e.setBody body) (e'.setBody body) := by
  have hnamed : isNamed name (.text "MIME-Version") = false := hname _ (by simp)
  have hother : versionName ≠ name := lowerText_ne hnamed
  have hbody := h.withPayload (bodyPayload body)
  unfold setBody
  dsimp only
  rw [hbody.has hother]
  refine ResultsAgree.bind (nameCharset_agrees hname ?_) fun _ _ => encodePayload_agrees hname
  split
  · exact hbody
  · exact hbody.append hnamed _

end Payload

end Mailroom.Wire.Entity
