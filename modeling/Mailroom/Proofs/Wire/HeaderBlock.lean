import Mailroom.Wire.Entity

/-!
Reading a mail back. The header block ends at the first empty line, a line that begins with a space
or a tab continues the line before, and the name of a header is what stands before the first colon.
Lines that are written for a header and continue it are read as one header.
-/

namespace Mailroom.Wire

abbrev Octets := List UInt8

/-- The lines before the first empty one, and what follows it; `line` holds the octets of the line
so far, last one first. -/
def readBlock (line : Octets) : Octets → Option (List Octets × Octets)
  | [] => none
  | b :: rest =>
      if b = 10 then
        if line.isEmpty then some ([], rest)
        else (readBlock [] rest).map fun block => (line.reverse :: block.1, block.2)
      else readBlock (b :: line) rest

def isContinuation (line : Octets) : Bool := line.head?.any fun b => b == 32 || b == 9

def logicalLines : List Octets → List Octets
  | [] => []
  | line :: rest =>
      match logicalLines rest with
      | [] => [line]
      | next :: more =>
          if rest.head?.any isContinuation then (line ++ next) :: more else line :: next :: more

def headerName (line : Octets) : Octets := line.takeWhile (· != 58)

theorem readBlock_line {line : Octets} (hline : 10 ∉ line) (start rest : Octets)
    (hstart : start ≠ [] ∨ line ≠ []) :
    readBlock start (line ++ 10 :: rest) =
      (readBlock [] rest).map fun block => ((start.reverse ++ line) :: block.1, block.2) := by
  induction line generalizing start with
  | nil =>
      have hstart : start ≠ [] := by simpa using hstart
      simp [readBlock, hstart]
  | cons b line ih =>
      obtain ⟨hb, hline⟩ := not_or.mp fun h => hline (List.mem_cons.mpr h)
      simp only [List.cons_append, readBlock, if_neg (Ne.symm hb)]
      rw [ih hline (b :: start) (.inl (by simp))]
      simp

theorem readBlock_lines {lines : List Octets} (hlines : ∀ line ∈ lines, line ≠ [] ∧ 10 ∉ line)
    (payload : Octets) :
    readBlock [] (lines.flatMap (· ++ [10]) ++ 10 :: payload) = some (lines, payload) := by
  induction lines with
  | nil => rfl
  | cons line rest ih =>
      obtain ⟨hempty, hline⟩ := hlines line List.mem_cons_self
      have ih := ih fun l hl => hlines l (List.mem_cons_of_mem line hl)
      rw [List.flatMap_cons, List.append_assoc, List.append_assoc, List.singleton_append,
        readBlock_line hline [] _ (.inr hempty), ih]
      rfl

theorem length_logicalLines (line : Octets) (rest : List Octets) :
    (logicalLines (line :: rest)).length = rest.countP (fun l => !isContinuation l) + 1 := by
  induction rest generalizing line with
  | nil => rfl
  | cons next more ih =>
      have hnext := ih next
      rw [logicalLines]
      cases h : logicalLines (next :: more) with
      | nil => simp [h] at hnext
      | cons first others =>
          rw [h] at hnext
          cases hc : isContinuation next <;> simp_all

theorem logicalLines_append {more : List Octets} (hmore : ∀ l ∈ more, isContinuation l = true)
    {rest : List Octets} (hrest : rest.head?.any isContinuation = false) (line : Octets) :
    logicalLines (line :: more ++ rest) = (line ++ more.flatten) :: logicalLines rest := by
  induction more generalizing line with
  | nil =>
      simp only [List.cons_append, List.nil_append, List.flatten_nil, List.append_nil]
      rw [logicalLines]
      cases h : logicalLines rest <;> simp [hrest]
  | cons next more ih =>
      have hnext := hmore next List.mem_cons_self
      have ih := ih (fun l hl => hmore l (List.mem_cons_of_mem next hl)) next
      rw [List.cons_append, logicalLines, ih]
      simp [hnext]

/-- A header as it is written: its name, what follows the colon on the same line, and the lines
after that one. -/
structure WrittenHeader where
  name : Octets
  value : Octets
  more : List Octets

namespace WrittenHeader

def lines (h : WrittenHeader) : List Octets := (h.name ++ 58 :: h.value) :: h.more

/-- The name is a name: it holds no colon and does not look like a continuation. -/
structure IsNamed (h : WrittenHeader) : Prop where
  ne_nil : h.name ≠ []
  noColon : 58 ∉ h.name
  begins : isContinuation h.name = false

variable {h : WrittenHeader} {hs : List WrittenHeader}

theorem IsNamed.isContinuation_eq (hname : h.IsNamed) (rest : Octets) :
    isContinuation (h.name ++ rest) = false := by
  obtain ⟨b, name, hb⟩ := List.exists_cons_of_ne_nil hname.ne_nil
  have hbegins := hname.begins
  rw [hb] at hbegins ⊢
  exact hbegins

theorem IsNamed.headerName_eq (hname : h.IsNamed) (rest : Octets) :
    headerName (h.name ++ 58 :: rest) = h.name := by
  have hall : ∀ b ∈ h.name, (b != 58) = true := by
    intro b hb
    refine bne_iff_ne.mpr fun heq => hname.noColon ?_
    rw [← heq]
    exact hb
  rw [headerName, List.takeWhile_append_of_pos hall]
  simp

theorem IsNamed.begins_lines (hnames : ∀ h ∈ hs, h.IsNamed) :
    (hs.flatMap lines).head?.any isContinuation = false := by
  cases hs with
  | nil => rfl
  | cons h rest => exact (hnames h List.mem_cons_self).isContinuation_eq _

theorem logicalLines_flatMap_lines (hnames : ∀ h ∈ hs, h.IsNamed)
    (hmore : ∀ h ∈ hs, ∀ l ∈ h.more, isContinuation l = true) :
    logicalLines (hs.flatMap lines) =
      hs.map fun h => h.name ++ 58 :: (h.value ++ h.more.flatten) := by
  induction hs with
  | nil => rfl
  | cons h rest ih =>
      have hrest := fun g hg => hnames g (List.mem_cons_of_mem h hg)
      have ih := ih hrest fun g hg => hmore g (List.mem_cons_of_mem h hg)
      have hjoined := logicalLines_append (hmore h List.mem_cons_self) (IsNamed.begins_lines hrest)
        (h.name ++ 58 :: h.value)
      rw [List.flatMap_cons, lines, hjoined, ih, List.map_cons, List.append_assoc, List.cons_append]

theorem length_logicalLines_flatMap_lines (hnames : ∀ h ∈ hs, h.IsNamed) :
    (logicalLines (hs.flatMap lines)).length =
      hs.length + (hs.flatMap more).countP fun l => !isContinuation l := by
  have hcount : (hs.flatMap lines).countP (fun l => !isContinuation l) =
      hs.length + (hs.flatMap more).countP fun l => !isContinuation l := by
    induction hs with
    | nil => rfl
    | cons h rest ih =>
        have ih := ih fun g hg => hnames g (List.mem_cons_of_mem h hg)
        have hfirst := (hnames h List.mem_cons_self).isContinuation_eq (58 :: h.value)
        simp only [List.flatMap_cons, List.countP_append, ih, lines, List.countP_cons, hfirst,
          List.length_cons]
        simp only [Bool.not_false, if_true]
        omega
  cases h : hs.flatMap lines with
  | nil =>
      rw [h] at hcount
      simpa [logicalLines] using hcount
  | cons line rest =>
      have hbegins := IsNamed.begins_lines hnames
      rw [h] at hcount hbegins
      rw [length_logicalLines, ← hcount, List.countP_cons]
      simp_all

/-- Written headers are read back, name by name, just if all their other lines are
continuations. -/
theorem names_logicalLines_iff (hnames : ∀ h ∈ hs, h.IsNamed) :
    (logicalLines (hs.flatMap lines)).map headerName = hs.map name ↔
      ∀ h ∈ hs, ∀ l ∈ h.more, isContinuation l = true := by
  constructor
  · intro heq
    have hlength := congrArg List.length heq
    rw [List.length_map, List.length_map, length_logicalLines_flatMap_lines hnames] at hlength
    have hnone : (hs.flatMap more).countP (fun l => !isContinuation l) = 0 := by omega
    intro h hh l hl
    have hl := List.countP_eq_zero.mp hnone l (List.mem_flatMap.mpr ⟨h, hh, hl⟩)
    simpa using hl
  · intro hmore
    rw [logicalLines_flatMap_lines hnames hmore, List.map_map]
    exact List.map_congr_left fun h hh => (hnames h hh).headerName_eq _

end WrittenHeader

end Mailroom.Wire
