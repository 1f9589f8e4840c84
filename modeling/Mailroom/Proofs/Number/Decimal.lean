import Mailroom.Value

/-!
A whole number is read back from its own decimal text.
-/

namespace Mailroom.Number

variable {c : Char} {s : List Char} {n : Nat}

theorem bounds_of_isDigit (h : c.isDigit = true) : 48 ≤ c.toNat ∧ c.toNat ≤ 57 := by
  simpa [Char.isDigit, UInt32.le_iff_toNat_le] using h

theorem digitValue?_of_isDigit (h : c.isDigit = true) :
    Text.digitValue? c = some (c.toNat - 48) := by
  obtain ⟨hlow, hhigh⟩ := bounds_of_isDigit h
  have hfirst : Text.zeroDigits.find? (fun first => first ≤ c.toNat && c.toNat < first + 10) =
      some 48 := by
    refine List.find?_cons_of_pos ?_
    simp only [Bool.and_eq_true, decide_eq_true_eq]
    omega
  rw [Text.digitValue?, hfirst]
  rfl

theorem isMargin_of_isDigit (h : c.isDigit = true) : isMargin c = false := by
  obtain ⟨hlow, hhigh⟩ := bounds_of_isDigit h
  simp [isMargin, Text.isBlank]
  omega

theorem scanDigits_of_isDigit (hs : ∀ c ∈ s, c.isDigit = true) {before : Scanned}
    (hbefore : before ≠ .underscore) :
    scanDigits before s = some (s.map fun c => c.toNat - 48, []) := by
  induction s generalizing before with
  | nil => simp [scanDigits, hbefore]
  | cons c rest ih =>
      obtain ⟨hc, hrest⟩ := List.forall_mem_cons.mp hs
      simp [scanDigits, digitValue?_of_isDigit hc, ih hrest]

theorem scanDigits_toDigits (n : Nat) :
    scanDigits .nothing (Nat.toDigits 10 n) =
      some ((Nat.toDigits 10 n).map fun c => c.toNat - 48, []) :=
  scanDigits_of_isDigit (fun _ hc => Nat.isDigit_of_mem_toDigits (by decide) (by decide) hc) nofun

theorem readNatural_toDigits (h : (Nat.toDigits 10 n).length ≤ digitLimit) :
    readNatural (Nat.toDigits 10 n) = .ok n := by
  have hvalue : ofDigits ((Nat.toDigits 10 n).map fun c => c.toNat - 48) = n := by
    calc ofDigits ((Nat.toDigits 10 n).map fun c => c.toNat - 48)
        = Nat.ofDigitChars 10 (Nat.toDigits 10 n) 0 := by
          rw [ofDigits, List.foldl_map, Nat.ofDigitChars_eq_foldl]
          rfl
      _ = n := Nat.ofDigitChars_ten_toDigits
  simp [readNatural, scanDigits_toDigits, hvalue, Nat.not_lt.mpr h, Nat.toDigits_ne_nil]

/-- A number in decimal has no margin and no sign. -/
theorem readInteger_toDigits_eq (n : Nat) :
    readInteger (Nat.toDigits 10 n) = (readNatural (Nat.toDigits 10 n)).map Int.ofNat := by
  cases hs : Nat.toDigits 10 n with
  | nil => exact absurd hs Nat.toDigits_ne_nil
  | cons c rest =>
      have hc : c.isDigit = true :=
        Nat.isDigit_of_mem_toDigits (b := 10) (n := n) (by decide) (by decide)
          (hs ▸ List.mem_cons_self)
      have hbounds := bounds_of_isDigit hc
      -- A digit is neither trimmed off nor read as a sign.
      have hmargin : (c :: rest).dropWhile isMargin = c :: rest :=
        List.dropWhile_cons_of_neg (by simp [isMargin_of_isDigit hc])
      have hplus : c ≠ '+' := by rintro rfl; simp at hbounds
      have hminus : c ≠ '-' := by rintro rfl; simp at hbounds
      rw [readInteger, hmargin]
      split
      · rename_i heq
        exact absurd (List.cons.inj heq).1 hplus
      · rename_i heq
        exact absurd (List.cons.inj heq).1 hminus
      · rfl

theorem readInteger_toDigits (h : (Nat.toDigits 10 n).length ≤ digitLimit) :
    readInteger (Nat.toDigits 10 n) = .ok n := by
  rw [readInteger_toDigits_eq, readNatural_toDigits h]
  rfl

theorem readInteger_of_long (h : digitLimit < (Nat.toDigits 10 n).length) :
    readInteger (Nat.toDigits 10 n) = .error (.tooManyDigits (Nat.toDigits 10 n).length) := by
  rw [readInteger_toDigits_eq]
  simp [readNatural, scanDigits_toDigits, h, Except.map]

/-- A size with more binary digits is rounded to the infinite one. -/
theorem log2_lt_of_ofQuotient (h : Magnitude.ofQuotient n 1 ≠ .infinite) : n.log2 < 1025 := by
  refine Nat.lt_of_not_le fun hlog => h ?_
  have hscale : Magnitude.greatestExponent < Magnitude.scaleOf n 1 := by
    have hone : Nat.log2 1 = 0 := by decide
    simp only [Magnitude.scaleOf, Magnitude.greatestExponent, hone]
    split <;> omega
  simp only [Magnitude.ofQuotient]
  refine if_pos ?_
  split <;> (dsimp only; omega)

theorem length_toDigits_of_ofInt? {x : Double} (h : Double.ofInt? n = some x) :
    (Nat.toDigits 10 n).length ≤ digitLimit := by
  have hfinite : Magnitude.ofQuotient n 1 ≠ .infinite := by
    intro hinfinite
    unfold Double.ofInt? at h
    simp [hinfinite] at h
  have hdigits : n.log2 + 1 ≤ digitLimit :=
    Nat.le_trans (log2_lt_of_ofQuotient hfinite) (by decide)
  have hbound : n < 10 ^ digitLimit :=
    calc n < 2 ^ (n.log2 + 1) := Nat.lt_log2_self
      _ ≤ 2 ^ digitLimit := Nat.pow_le_pow_right Nat.two_pos hdigits
      _ ≤ 10 ^ digitLimit := Nat.pow_le_pow_left (by decide) digitLimit
  exact (Nat.length_toDigits_le_iff (by decide) (by decide)).mpr hbound

end Mailroom.Number

namespace Mailroom.Value

theorem toInt_toString {n : Nat} (h : (Nat.toDigits 10 n).length ≤ Number.digitLimit) :
    toInt (.text (toString (n : Int))) = .ok (n : Int) := by
  have htext : toString (n : Int) = String.ofList (Nat.toDigits 10 n) :=
    Nat.toString_eq_ofList_toDigits
  rw [toInt, htext, String.toList_ofList, Number.readInteger_toDigits h]
  rfl

theorem toInt_of_long {n : Nat} (h : Number.digitLimit < (Nat.toDigits 10 n).length) :
    toInt (.text (toString (n : Int))) =
      .error (.value (.tooManyDigits (Nat.toDigits 10 n).length)) := by
  have htext : toString (n : Int) = String.ofList (Nat.toDigits 10 n) :=
    Nat.toString_eq_ofList_toDigits
  rw [toInt, htext, String.toList_ofList, Number.readInteger_of_long h]
  rfl

end Mailroom.Value
