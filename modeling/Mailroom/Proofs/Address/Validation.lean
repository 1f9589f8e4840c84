import Mailroom.Address.Validation
import Mailroom.Proofs.Address.Grammar
import Mailroom.Proofs.Value.Shown

/-!
The address check. What passes is a text that is an email of the grammar once the blanks around it
are gone, with a personal name that is absent or filled and on one line; and what passed once passes
again as it is. A refusal names the email unless that cannot be shown.
-/

namespace Mailroom.Address

/-- What the check makes of an email and a personal name. -/
structure IsMadeOf (raw personal : Value) (a : Address) : Prop where
  stripped : ∃ given, raw = .text given ∧ a.email = Text.strip given
  isEmail : Grammar.Email a.email.toList
  kept : personal = .ofOption a.personal
  isName : ∀ name ∈ a.personal, Text.IsFilledLine name.toList

variable {raw personal : Value} {a : Address} {e : Fault}

theorem checkPersonal_eq_ok_iff {email : String} {found : Option String} :
    checkPersonal email personal = .ok found ↔
      personal = .ofOption found ∧ ∀ name ∈ found, Text.IsFilledLine name.toList := by
  constructor
  · intro h
    cases personal with
    | nothing =>
        obtain rfl := Except.ok.inj h
        exact ⟨rfl, nofun⟩
    | text name =>
        simp only [checkPersonal] at h
        split at h
        · cases h
        · split at h
          · cases h
          · rename_i hblank hbreak
            obtain rfl := Except.ok.inj h
            refine ⟨rfl, fun other hother => ?_⟩
            obtain rfl := Option.some.inj hother
            exact Text.isFilledLine_iff.mpr
              ⟨Bool.of_not_eq_true hblank, Bool.of_not_eq_true hbreak⟩
    | _ => cases h
  · rintro ⟨rfl, hname⟩
    cases found with
    | none => rfl
    | some name =>
        obtain ⟨hblank, hbreak⟩ := Text.isFilledLine_iff.mp (hname name rfl)
        simp [Value.ofOption, checkPersonal, hblank, hbreak]

theorem fault_of_checkPersonal {email : String} (h : checkPersonal email personal = .error e) :
    ∃ cause, e = .address cause := by
  unfold checkPersonal at h
  split at h
  · cases h
  · split at h
    · exact ⟨_, (Except.error.inj h).symm⟩
    · split at h
      · exact ⟨_, (Except.error.inj h).symm⟩
      · cases h
  · exact ⟨_, (Except.error.inj h).symm⟩

theorem validate_eq_ok_iff : validate raw personal = .ok a ↔ IsMadeOf raw personal a := by
  constructor
  · intro h
    cases raw with
    | text given =>
        simp only [validate] at h
        split at h
        · cases h
        · split at h
          · cases h
          · rename_i hform
            obtain ⟨name, hname, rfl⟩ := exists_of_map_eq_ok h
            obtain ⟨hkept, hfilled⟩ := checkPersonal_eq_ok_iff.mp hname
            have hemail := (isEmail_strip_iff given).mp (by simpa using hform)
            exact ⟨⟨given, rfl, rfl⟩, hemail, hkept, hfilled⟩
    | _ =>
        simp only [validate] at h
        split at h <;> cases h
  · intro h
    obtain ⟨email, name⟩ := a
    obtain ⟨⟨given, rfl, hstrip⟩, hemail, hkept, hname⟩ := h
    obtain rfl : email = Text.strip given := hstrip
    have hform : isEmail (Text.strip given).toList = true := (isEmail_strip_iff given).mpr hemail
    have hsome : (Text.strip given).isEmpty = false := by
      rw [← Bool.not_eq_true, String.isEmpty_iff]
      intro hempty
      rw [hempty] at hform
      cases hform
    have hpersonal : checkPersonal (Text.strip given) personal = .ok name :=
      checkPersonal_eq_ok_iff.mpr ⟨hkept, hname⟩
    simp only [validate, hsome, hform, hpersonal]
    rfl

/-! ### Refusals -/

/-- A refusal that shows a value is about the address unless the value cannot be shown. -/
theorem fault_of_shown {v : Value} {cause : String → AddressFault}
    (hdepth : v.depth ≤ Value.depthLimit)
    (h : (match v.shown with
      | .ok shown => .error (.address (cause shown))
      | .error fault => .error fault : Except Fault Address) = .error e) :
    (∃ cause, e = .address cause) ↔ v.IsWritable := by
  rw [← Value.isOk_shown_iff hdepth]
  cases hshown : v.shown with
  | ok shown =>
      rw [hshown] at h
      exact iff_of_true ⟨_, (Except.error.inj h).symm⟩ rfl
  | error fault =>
      rw [hshown] at h
      obtain rfl := Except.error.inj h
      exact iff_of_false (Value.not_address_of_shown hdepth hshown) nofun

theorem fault_of_validate (hdepth : raw.depth ≤ Value.depthLimit)
    (h : validate raw personal = .error e) : (∃ cause, e = .address cause) ↔ raw.IsWritable := by
  cases raw with
  | text given =>
      refine iff_of_true ?_ (Value.isWritable_text given)
      simp only [validate] at h
      split at h
      · exact ⟨_, (Except.error.inj h).symm⟩
      · split at h
        · exact ⟨_, (Except.error.inj h).symm⟩
        · cases hpersonal : checkPersonal (Text.strip given) personal with
          | error fault =>
              rw [hpersonal] at h
              obtain rfl := Except.error.inj h
              exact fault_of_checkPersonal hpersonal
          | ok name =>
              rw [hpersonal] at h
              cases h
  | _ => exact fault_of_shown hdepth h

/-! ### The check again -/

/-- What passed passes again. -/
theorem IsMadeOf.again (h : IsMadeOf raw personal a) :
    IsMadeOf (.text a.email) (.ofOption a.personal) a where
  stripped := ⟨a.email, rfl, (Text.strip_of_unblank h.isEmail.unblank).symm⟩
  isEmail := h.isEmail
  kept := rfl
  isName := h.isName

end Mailroom.Address
