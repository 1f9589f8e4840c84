import Mathlib.Data.List.Basic
import Mailroom.Header.Store
import Mailroom.Proofs.Results
import Mailroom.Proofs.Text.Filled

/-!
What the header check lets through. The name is a field name that does not spell the blind copy
list, but for a line feed that may end it; the value is a line that is not blank.
-/

namespace Mailroom

namespace Text

/-! ### Lower case -/

theorem lowerCharacter_of_ascii {c : Char} (h : c.toNat < 128) : lowerCharacter c = c.toLower := by
  have hall : ∀ n : Fin 128, lowerCharacter (Char.ofNat n) = (Char.ofNat n).toLower := by
    decide +kernel
  have hc := hall ⟨c.toNat, h⟩
  rwa [Char.ofNat_toNat] at hc

/-- A letter of ASCII has its lower case form whatever stands beside it. -/
theorem lower_of_isAscii {s : List Char} (h : isAscii s = true) : lower s = s.map Char.toLower := by
  have hfrom (before : List Char) : lowerFrom before s = s.map Char.toLower := by
    induction s generalizing before with
    | nil => rfl
    | cons c rest ih =>
        obtain ⟨hc, hrest⟩ := List.forall_mem_cons.mp (List.all_eq_true.mp h)
        have hc : c.toNat < 128 := of_decide_eq_true hc
        have hplain {d : Char} (hd : 128 ≤ d.toNat) : (c == d) = false :=
          beq_false_of_ne (by rintro rfl; omega)
        rw [lowerFrom, hplain (d := 'İ') (by decide), hplain (d := 'Σ') (by decide),
          ih (List.all_eq_true.mpr hrest), lowerCharacter_of_ascii hc]
        rfl
  exact hfrom []

end Text

namespace Header

variable {name value : Value} {header : String × String} {s : List Char} {c : Char}

/-- What the header check lets through. -/
structure Passes (name value : String) : Prop where
  isName : Header.isName name.toList = true
  isFree : isReserved name.toList = false
  filled : Text.allBlank value.toList = false
  unbroken : Text.hasLineEnd value.toList = false

/-! ### Names -/

/-- A name of a header field: one or more printable ASCII characters other than a colon and a
space. -/
structure IsFieldName (s : List Char) : Prop where
  nonempty : s ≠ []
  printable : ∀ c ∈ s, 0x21 ≤ c.toNat ∧ c.toNat ≤ 0x7E ∧ c ≠ ':'

theorem isNameCharacter_iff :
    isNameCharacter c = true ↔ 0x21 ≤ c.toNat ∧ c.toNat ≤ 0x7E ∧ c ≠ ':' := by
  have hcolon : c ≠ ':' ↔ c.toNat ≠ 0x3A := not_congr Char.toNat_inj.symm
  rw [hcolon]
  simp only [isNameCharacter, Bool.or_eq_true, Bool.and_eq_true, decide_eq_true_eq]
  omega

theorem isFieldName_iff :
    IsFieldName s ↔ s.isEmpty = false ∧ s.all isNameCharacter = true := by
  rw [List.all_eq_true, ← Bool.not_eq_true, List.isEmpty_iff]
  exact ⟨fun h => ⟨h.nonempty, fun c hc => isNameCharacter_iff.mpr (h.printable c hc)⟩,
    fun h => ⟨h.1, fun c hc => isNameCharacter_iff.mp (h.2 c hc)⟩⟩

theorem IsFieldName.getLast_ne (h : IsFieldName s) : s.getLast? ≠ some '\n' := fun hlast =>
  absurd (h.printable '\n' (List.mem_of_getLast? hlast)).1 (by decide)

/-- The pattern for names takes a field name, and a field name with a line feed after it. -/
theorem isName_iff :
    isName s = true ↔ ∃ core, IsFieldName core ∧ (s = core ∨ s = core ++ ['\n']) := by
  have hname (core : List Char) :
      (!core.isEmpty && core.all isNameCharacter) = true ↔ IsFieldName core := by
    rw [isFieldName_iff, Bool.and_eq_true, Bool.not_eq_true']
  unfold isName
  dsimp only
  rw [hname]
  constructor
  · intro h
    split at h
    · rename_i hlast
      exact ⟨s.dropLast, h, .inr (List.dropLast_append_getLast? '\n' hlast).symm⟩
    · exact ⟨s, h, .inl rfl⟩
  · rintro ⟨core, hcore, rfl | rfl⟩
    · rwa [if_neg hcore.getLast_ne]
    · rwa [if_pos List.getLast?_concat, List.dropLast_concat]

/-- A name is made of name characters, and perhaps a line feed after them. -/
theorem isName_cases (h : isName s = true) :
    ∃ core, (∀ c ∈ core, isNameCharacter c = true) ∧ (s = core ∨ s = core ++ ['\n']) := by
  obtain ⟨core, hcore, hs⟩ := isName_iff.mp h
  exact ⟨core, fun c hc => isNameCharacter_iff.mpr (hcore.printable c hc), hs⟩

theorem isAscii_of_isName (h : isName s = true) : Text.isAscii s = true := by
  obtain ⟨core, hcore, hs⟩ := isName_cases h
  have hascii : ∀ c ∈ core, decide (c.toNat < 128) = true := by
    intro c hc
    have hc := hcore c hc
    simp only [isNameCharacter, Bool.or_eq_true, Bool.and_eq_true, decide_eq_true_eq] at hc ⊢
    omega
  have hbreak : decide ('\n'.toNat < 128) = true := by decide
  obtain rfl | rfl := hs
  · exact List.all_eq_true.mpr hascii
  · exact List.all_eq_true.mpr
      (List.forall_mem_append.mpr ⟨hascii, List.forall_mem_singleton.mpr hbreak⟩)

theorem not_allBlank_of_isName (h : isName s = true) : Text.allBlank s = false := by
  obtain ⟨core, hcore, hs⟩ := isName_iff.mp h
  obtain ⟨c, hc⟩ := List.exists_mem_of_ne_nil core hcore.nonempty
  have hmem : c ∈ s := by
    obtain rfl | rfl := hs
    · exact hc
    · exact List.mem_append_left _ hc
  have hprintable := hcore.printable c hc
  refine List.all_eq_false.mpr ⟨c, hmem, ?_⟩
  simp only [Text.isBlank, Bool.or_eq_true, Bool.and_eq_true, decide_eq_true_eq, beq_iff_eq]
  omega

theorem isReserved_iff (h : isName s = true) :
    isReserved s = true ↔ s.map Char.toLower = "bcc".toList := by
  rw [isReserved, Text.lower_of_isAscii (isAscii_of_isName h), beq_iff_eq]

/-! ### The check -/

theorem checkName_eq_ok_iff {found : String} :
    checkName name = .ok found ↔
      name = .text found ∧ isName found.toList = true ∧ isReserved found.toList = false := by
  cases name with
  | text s =>
      rw [checkName, Value.text.injEq]
      constructor
      · intro h
        split at h
        · cases h
        · split at h
          · cases h
          · split at h
            · cases h
            · rename_i hname hfree
              obtain rfl := Except.ok.inj h
              exact ⟨rfl, by simpa using hname, by simpa using hfree⟩
      · rintro ⟨rfl, hname, hfree⟩
        simp [not_allBlank_of_isName hname, hname, hfree]
  | _ => simp [checkName]

theorem checkValue_eq_ok_iff {given found : String} :
    checkValue given value = .ok found ↔
      value = .text found ∧ Text.allBlank found.toList = false ∧
        Text.hasLineEnd found.toList = false := by
  cases value with
  | text s =>
      rw [checkValue, Value.text.injEq]
      constructor
      · intro h
        split at h
        · cases h
        · split at h
          · cases h
          · rename_i hfilled hbreak
            obtain rfl := Except.ok.inj h
            exact ⟨rfl, by simpa using hfilled, by simpa using hbreak⟩
      · rintro ⟨rfl, hfilled, hbreak⟩
        simp [hfilled, hbreak]
  | _ => simp [checkValue]

/-- What is let through is let through unchanged. -/
theorem check_eq_ok_iff :
    check name value = .ok header ↔
      name = .text header.1 ∧ value = .text header.2 ∧ Passes header.1 header.2 := by
  constructor
  · intro h
    obtain ⟨checked, hname, h⟩ := exists_of_bind_eq_ok h
    obtain ⟨checkedValue, hvalue, h⟩ := exists_of_bind_eq_ok h
    obtain rfl := Except.ok.inj h
    obtain ⟨rfl, hname, hfree⟩ := checkName_eq_ok_iff.mp hname
    obtain ⟨rfl, hfilled, hbreak⟩ := checkValue_eq_ok_iff.mp hvalue
    exact ⟨rfl, rfl, hname, hfree, hfilled, hbreak⟩
  · rintro ⟨rfl, rfl, h⟩
    rw [check, checkName_eq_ok_iff.mpr ⟨rfl, h.isName, h.isFree⟩]
    change (checkValue header.1 (.text header.2) >>= fun v => Except.ok (header.1, v)) = _
    rw [checkValue_eq_ok_iff.mpr ⟨rfl, h.filled, h.unbroken⟩]
    rfl

theorem passes_of_check (h : check name value = .ok header) : Passes header.1 header.2 :=
  (check_eq_ok_iff.mp h).2.2

theorem fault_of_checkName {e : Fault} (h : checkName name = .error e) :
    ∃ cause, e = .header cause := by
  cases name with
  | text s =>
      rw [checkName] at h
      split at h
      · exact ⟨_, (Except.error.inj h).symm⟩
      · split at h
        · exact ⟨_, (Except.error.inj h).symm⟩
        · split at h
          · exact ⟨_, (Except.error.inj h).symm⟩
          · cases h
  | _ => exact ⟨_, (Except.error.inj h).symm⟩

theorem fault_of_checkValue {given : String} {e : Fault} (h : checkValue given value = .error e) :
    ∃ cause, e = .header cause := by
  cases value with
  | text s =>
      rw [checkValue] at h
      split at h
      · exact ⟨_, (Except.error.inj h).symm⟩
      · split at h
        · exact ⟨_, (Except.error.inj h).symm⟩
        · cases h
  | _ => exact ⟨_, (Except.error.inj h).symm⟩

/-- A check that fails says what is wrong with the header. -/
theorem fault_of_check {e : Fault} (h : check name value = .error e) :
    ∃ cause, e = .header cause := by
  obtain hname | ⟨found, -, h⟩ := of_bind_eq_error h
  · exact fault_of_checkName hname
  · obtain hvalue | ⟨checked, -, h⟩ := of_bind_eq_error h
    · exact fault_of_checkValue hvalue
    · cases h

theorem Store.passes_of_checkAll {entries : Entries Value Value}
    {checked : List (String × String)} (h : checkAll entries = .ok checked) :
    ∀ header ∈ checked, Passes header.1 header.2 := by
  induction entries generalizing checked with
  | nil =>
      obtain rfl := Except.ok.inj h
      nofun
  | cons entry rest ih =>
      obtain ⟨header, hheader, h⟩ := exists_of_bind_eq_ok h
      obtain ⟨more, hmore, h⟩ := exists_of_bind_eq_ok h
      obtain rfl := Except.ok.inj h
      exact List.forall_mem_cons.mpr ⟨passes_of_check hheader, ih hmore⟩

end Header

end Mailroom
