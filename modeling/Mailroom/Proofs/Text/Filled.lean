import Mailroom.Text.Blank
import Mailroom.Text.Word

/-!
Blank and filled texts. No letter or digit is a blank, a text without blanks is not changed when it
is stripped, and a personal name or a header value has to be filled and stay on one line.
-/

namespace Mailroom.Text

theorem isAlphanumeric_of_isBlank {c : Char} (h : isBlank c = true) : isAlphanumeric c = false := by
  let codes := List.range' 9 5 ++ List.range' 28 5 ++ List.range' 0x2000 11 ++
    [0x85, 0xA0, 0x1680, 0x2028, 0x2029, 0x202F, 0x205F, 0x3000]
  have hcode : c.toNat ∈ codes := by
    simp only [isBlank, Bool.or_eq_true, Bool.and_eq_true, decide_eq_true_eq, beq_iff_eq] at h
    simp only [codes, List.mem_append, List.mem_range'_1, List.mem_cons, List.not_mem_nil]
    omega
  have hranges : ∀ n ∈ codes, alphanumericRanges.contains n = false := by decide +kernel
  exact hranges c.toNat hcode

theorem dropWhile_of_unblank {s : List Char} (h : ∀ c ∈ s, isBlank c = false) :
    s.dropWhile isBlank = s := by
  cases s with
  | nil => rfl
  | cons c rest => exact List.dropWhile_cons_of_neg (by simp [h c List.mem_cons_self])

theorem strip_of_unblank {s : String} (h : ∀ c ∈ s.toList, isBlank c = false) : strip s = s := by
  have hreverse : ∀ c ∈ s.toList.reverse, isBlank c = false :=
    fun c hc => h c (List.mem_reverse.mp hc)
  rw [strip, trim, trimStart, dropWhile_of_unblank h, trimEnd, dropWhile_of_unblank hreverse,
    List.reverse_reverse, String.ofList_toList]

/-- A stripped text does not end in a blank. -/
theorem strip_ne_append {given : String} {s : List Char} {c : Char} (hc : isBlank c = true) :
    (strip given).toList ≠ s ++ [c] := by
  intro h
  rw [strip, String.toList_ofList, trim, trimEnd, List.reverse_eq_iff, List.reverse_append] at h
  have hhead := List.head?_dropWhile_not isBlank (trimStart given.toList).reverse
  rw [h] at hhead
  exact absurd hc (Bool.eq_false_iff.mp hhead)

theorem hasLineEnd_eq_false_iff {s : List Char} : hasLineEnd s = false ↔ '\r' ∉ s ∧ '\n' ∉ s := by
  rw [hasLineEnd, List.any_eq_false]
  constructor
  · intro h
    exact ⟨fun hr => h '\r' hr rfl, fun hn => h '\n' hn rfl⟩
  · rintro ⟨hr, hn⟩ c hc hend
    obtain rfl | rfl : c = '\r' ∨ c = '\n' := by simpa [isLineEnd] using hend
    · exact hr hc
    · exact hn hc

/-- Not blank, and on one line. -/
structure IsFilledLine (s : List Char) : Prop where
  filled : ∃ c ∈ s, isBlank c = false
  unbroken : '\r' ∉ s ∧ '\n' ∉ s

theorem isFilledLine_iff {s : List Char} :
    IsFilledLine s ↔ allBlank s = false ∧ hasLineEnd s = false := by
  have hfilled : allBlank s = false ↔ ∃ c ∈ s, isBlank c = false := by simp [allBlank]
  rw [hfilled, hasLineEnd_eq_false_iff]
  exact ⟨fun h => ⟨h.filled, h.unbroken⟩, fun h => ⟨h.1, h.2⟩⟩

end Mailroom.Text
