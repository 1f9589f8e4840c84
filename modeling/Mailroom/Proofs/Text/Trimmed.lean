import Mathlib.Data.List.TakeWhile
import Mailroom.Text.Blank

/-!
Texts without the blanks at their ends. Blanks that are put at an end are trimmed off again, and
what begins with a character that is no blank keeps it.
-/

namespace Mailroom.Text

variable {indent tail : List Char} {c : Char}

theorem trimStart_append (h : ∀ c ∈ indent, isBlank c = true) (s : List Char) :
    trimStart (indent ++ s) = trimStart s :=
  List.dropWhile_append_of_pos h

theorem trimStart_cons (h : isBlank c = false) (s : List Char) : trimStart (c :: s) = c :: s :=
  List.dropWhile_cons_of_neg (by simp [h])

theorem trimEnd_append (s : List Char) (h : ∀ c ∈ tail, isBlank c = true) :
    trimEnd (s ++ tail) = trimEnd s := by
  have hreverse : ∀ c ∈ tail.reverse, isBlank c = true := fun c hc => h c (List.mem_reverse.mp hc)
  rw [trimEnd, List.reverse_append, List.dropWhile_append_of_pos hreverse, trimEnd]

/-- What stands before a character that is no blank is not trimmed at the end. -/
theorem trimEnd_append_cons (h : isBlank c = false) (s rest : List Char) :
    trimEnd (s ++ c :: rest) = s ++ c :: trimEnd rest := by
  have hkept : (c :: s.reverse).dropWhile isBlank = c :: s.reverse :=
    List.dropWhile_cons_of_neg (by simp [h])
  have hreverse : (s ++ c :: rest).reverse = rest.reverse ++ c :: s.reverse := by simp
  rw [trimEnd, hreverse, List.dropWhile_append, hkept, trimEnd]
  split
  · rename_i hall
    rw [List.isEmpty_iff.mp hall]
    simp
  · simp

/-- A text is what is left of it and blanks. -/
theorem exists_trimEnd_append (s : List Char) :
    ∃ tail, (∀ c ∈ tail, isBlank c = true) ∧ s = trimEnd s ++ tail := by
  refine ⟨(s.reverse.takeWhile isBlank).reverse, fun c hc => ?_, ?_⟩
  · exact (List.mem_takeWhile_imp (List.mem_reverse.mp hc))
  · rw [trimEnd, ← List.reverse_append, List.takeWhile_append_dropWhile, List.reverse_reverse]

theorem mem_of_mem_trimEnd {s : List Char} (h : c ∈ trimEnd s) : c ∈ s := by
  obtain ⟨tail, -, hs⟩ := exists_trimEnd_append s
  exact hs ▸ List.mem_append_left tail h

theorem trimEnd_trimEnd (s : List Char) : trimEnd (trimEnd s) = trimEnd s := by
  obtain ⟨tail, htail, hs⟩ := exists_trimEnd_append s
  calc trimEnd (trimEnd s)
      = trimEnd (trimEnd s ++ tail) := (trimEnd_append (trimEnd s) htail).symm
    _ = trimEnd s := by rw [← hs]

theorem trim_append (s : List Char) (h : ∀ c ∈ tail, isBlank c = true) :
    trim (s ++ tail) = trim s := by
  rw [trim, trim, trimStart, List.dropWhile_append]
  split
  · rename_i hall
    rw [trimStart, List.isEmpty_iff.mp hall, List.dropWhile_eq_nil_iff.mpr h]
  · exact trimEnd_append _ h

theorem trim_trimEnd (s : List Char) : trim (trimEnd s) = trim s := by
  obtain ⟨tail, htail, hs⟩ := exists_trimEnd_append s
  calc trim (trimEnd s)
      = trim (trimEnd s ++ tail) := (trim_append (trimEnd s) htail).symm
    _ = trim s := by rw [← hs]

/-- Trimming finds the first character that is no blank. -/
theorem trim_append_cons (hindent : ∀ c ∈ indent, isBlank c = true) (hc : isBlank c = false)
    (rest : List Char) : trim (indent ++ c :: rest) = c :: trimEnd rest := by
  rw [trim, trimStart_append hindent, trimStart_cons hc]
  exact trimEnd_append_cons hc [] rest

/-- A text is blank, or has a first character that is no blank. -/
theorem blank_or_begins (s : List Char) :
    (∀ c ∈ s, isBlank c = true) ∨
      ∃ indent c rest, (∀ b ∈ indent, isBlank b = true) ∧ isBlank c = false ∧
        s = indent ++ c :: rest := by
  cases hstart : s.dropWhile isBlank with
  | nil => exact .inl (List.dropWhile_eq_nil_iff.mp hstart)
  | cons c rest =>
      have hc : isBlank c = false := by
        have hhead := List.head?_dropWhile_not isBlank s
        rw [hstart] at hhead
        simpa using hhead
      refine .inr ⟨s.takeWhile isBlank, c, rest, fun b hb => List.mem_takeWhile_imp hb, hc, ?_⟩
      rw [← hstart, List.takeWhile_append_dropWhile]

end Mailroom.Text
