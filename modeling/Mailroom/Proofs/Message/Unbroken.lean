import Mailroom.Message
import Mailroom.Proofs.Message.Checks
import Mailroom.Proofs.Wire.Unbroken

/-!
Addresses and dates are on one line: an email is, by its form, and a personal name is, by its check.
-/

namespace Mailroom

open Text

/-! ### Addresses -/

namespace Address

theorem unbroken_email {s : List Char} (h : Grammar.Email s) : Unbroken s := by
  have hbefore {before : List Char} (hlocal : ∀ c ∈ before, isLocalCharacter c = true) :
      Unbroken before := fun c hc =>
    isLineEnd_of (p := fun c => isLocalCharacter c = true) (by decide) (by decide) (hlocal c hc)
  cases h.form with
  | named hlocal hdomain =>
      refine unbroken_append.mpr ⟨hbefore hlocal, unbroken_cons.mpr ⟨by decide, fun c hc => ?_⟩⟩
      exact isLineEnd_of (p := fun c => isDomainCharacter c = true) (by decide) (by decide)
        (hdomain c hc)
  | literal hlocal hinner =>
      refine unbroken_append.mpr ⟨hbefore hlocal, unbroken_cons.mpr ⟨by decide, ?_⟩⟩
      refine unbroken_cons.mpr ⟨by decide, unbroken_append.mpr ⟨fun c hc => ?_, ?_⟩⟩
      · exact isLineEnd_of (p := fun c => isLiteralCharacter c = true) (by decide) (by decide)
          (hinner c hc)
      · exact unbroken_of_hasLineEnd (by decide)

theorem unbroken_displayName {name : List Char} (h : Unbroken name) :
    Unbroken (displayName name) := by
  unfold displayName
  split
  · exact unbroken_of_isPrintable (Wire.isPrintable_of_mem_encodedWord _ _)
  · have hbody : Unbroken (name.flatMap escapeCharacter) := by
      refine h.flatMap fun c hc => ?_
      unfold escapeCharacter
      split
      · exact unbroken_cons.mpr ⟨by decide, unbroken_cons.mpr ⟨hc, unbroken_nil⟩⟩
      · exact unbroken_cons.mpr ⟨hc, unbroken_nil⟩
    have hquote : Unbroken ['"'] := unbroken_of_hasLineEnd (by decide)
    dsimp only
    split
    · exact unbroken_append.mpr ⟨unbroken_cons.mpr ⟨by decide, hbody⟩, hquote⟩
    · exact hbody

/-- A valid address is written on one line. -/
theorem IsValid.unbroken_text {a : Address} (ha : a.IsValid) {s : String} (h : a.text = .ok s) :
    Unbroken s.toList := by
  have hemail := unbroken_email ha.email
  obtain ⟨⟨⟩, -, h⟩ := exists_of_bind_eq_ok h
  cases hpersonal : a.personal with
  | none =>
      rw [hpersonal] at h
      obtain rfl := Except.ok.inj h
      exact hemail
  | some name =>
      have hname := unbroken_of_hasLineEnd (ha.personal name hpersonal)
      rw [hpersonal] at h
      dsimp only at h
      split at h
      · obtain rfl := Except.ok.inj h
        exact hemail
      · obtain rfl := Except.ok.inj h
        rw [String.toList_ofList]
        refine unbroken_append.mpr ⟨unbroken_append.mpr ⟨unbroken_displayName hname, ?_⟩, ?_⟩
        · exact unbroken_cons.mpr ⟨by decide, unbroken_cons.mpr ⟨by decide, hemail⟩⟩
        · exact unbroken_of_hasLineEnd (by decide)

end Address

theorem Message.unbroken_addressLine {addresses : List Value} {line : String}
    (haddresses : ∀ v ∈ addresses, ∃ a, v = .address a ∧ a.IsValid)
    (h : addressLine addresses = .ok line) : Unbroken line.toList := by
  obtain ⟨texts, htexts, h⟩ := exists_of_bind_eq_ok h
  obtain rfl := Except.ok.inj h
  rw [String.toList_intercalate]
  refine (unbroken_intercalate (unbroken_of_hasLineEnd (by decide))).mpr ?_
  refine List.forall_mem_map.mpr fun text htext => ?_
  obtain ⟨v, hv, hplain⟩ := mem_of_mapM_eq_ok htexts text htext
  obtain ⟨a, rfl, ha⟩ := haddresses v hv
  exact ha.unbroken_text hplain

/-! ### Dates -/

namespace Moment

theorem unbroken_string_append {s t : String} :
    Unbroken (s ++ t).toList ↔ Unbroken s.toList ∧ Unbroken t.toList := by
  rw [String.toList_append, unbroken_append]

theorem unbroken_padded (width n : Nat) : Unbroken (padded width n).toList := by
  refine unbroken_string_append.mpr ⟨?_, ?_⟩
  · rw [String.toList_ofList]
    intro c hc
    obtain rfl := List.eq_of_mem_replicate hc
    decide
  · have hdigits : (toString n).toList = Nat.toDigits 10 n := Nat.toList_repr
    rw [hdigits]
    intro c hc
    have hdigit := Nat.isDigit_of_mem_toDigits (by decide) (by decide) hc
    exact isLineEnd_of (p := fun c => c.isDigit = true) (by decide) (by decide) hdigit

theorem unbroken_getD {names : List String} (h : ∀ name ∈ names, hasLineEnd name.toList = false)
    (n : Nat) : Unbroken (names.getD n "").toList := by
  rw [List.getD_eq_getElem?_getD]
  cases hname : names[n]? with
  | none => exact unbroken_nil
  | some name => exact unbroken_of_hasLineEnd (h name (List.mem_of_getElem? hname))

theorem unbroken_zone (offset : Int) : Unbroken (zone "" offset).toList := by
  have hsign : Unbroken (if offset < 0 then "-" else "+").toList := by
    split <;> exact unbroken_of_hasLineEnd (by decide)
  have hnone : Unbroken "".toList := unbroken_nil
  unfold zone
  simp only [unbroken_string_append, unbroken_padded, hsign, hnone, and_self, true_and]
  split
  · exact hnone
  · exact unbroken_string_append.mpr ⟨hnone, unbroken_padded _ _⟩

/-- A date is written on one line. -/
theorem unbroken_headerText (t : Moment) : Unbroken t.headerText.toList := by
  have hnames : ∀ name ∈ weekdays ++ months, hasLineEnd name.toList = false := by decide
  have hweekday (n : Nat) : Unbroken (weekdays.getD n "").toList :=
    unbroken_getD (fun name h => hnames name (List.mem_append_left _ h)) n
  have hmonth (n : Nat) : Unbroken (months.getD n "").toList :=
    unbroken_getD (fun name h => hnames name (List.mem_append_right _ h)) n
  have hmarks : Unbroken ", ".toList ∧ Unbroken " ".toList ∧ Unbroken ":".toList := by
    refine ⟨?_, ?_, ?_⟩ <;> exact unbroken_of_hasLineEnd (by decide)
  have hzone : Unbroken ((t.offset.map (zone "")).getD "-0000").toList := by
    cases t.offset with
    | none => exact unbroken_of_hasLineEnd (by decide)
    | some offset => exact unbroken_zone offset
  unfold headerText clockText
  simp only [unbroken_string_append, unbroken_padded, hweekday, hmonth, hmarks, hzone, and_self]

end Moment

end Mailroom
