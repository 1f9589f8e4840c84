import Mathlib.Data.List.Basic
import Mailroom.Proofs.Wire.ContentType

/-!
What ends no line. Taking a text apart, lowering it and quoting it put no end of a line into it, so
whatever is read from the parameters of a content type on one line is on one line as well, but for
the percent codes, which can stand for anything. They are written as percent codes again; only the
charset and the language before them are written as they are.
-/

namespace Mailroom

namespace Text

/-- No character ends a line. -/
def Unbroken (s : List Char) : Prop := ∀ c ∈ s, isLineEnd c = false

variable {s t : List Char}

theorem unbroken_iff : Unbroken s ↔ hasLineEnd s = false := by
  simp [Unbroken, hasLineEnd]

theorem Unbroken.of_subset (hs : Unbroken s) (h : t ⊆ s) : Unbroken t := fun c hc => hs c (h hc)

theorem unbroken_nil : Unbroken [] := nofun

theorem unbroken_cons {c : Char} : Unbroken (c :: s) ↔ isLineEnd c = false ∧ Unbroken s :=
  List.forall_mem_cons

theorem unbroken_append : Unbroken (s ++ t) ↔ Unbroken s ∧ Unbroken t := List.forall_mem_append

theorem unbroken_of_hasLineEnd (h : hasLineEnd s = false) : Unbroken s := unbroken_iff.mpr h

/-- No character of a kind ends a line, unless one of the two that do is of the kind. -/
theorem isLineEnd_of {p : Char → Prop} (hreturn : ¬p '\r') (hfeed : ¬p '\n') {c : Char} (h : p c) :
    isLineEnd c = false := by
  refine Bool.eq_false_iff.mpr fun hend => ?_
  obtain rfl | rfl : c = '\r' ∨ c = '\n' := by simpa [isLineEnd] using hend
  · exact hreturn h
  · exact hfeed h

theorem unbroken_of_isPrintable (h : ∀ c ∈ s, Wire.IsPrintable c) : Unbroken s := fun c hc =>
  isLineEnd_of (by decide) (by decide) (h c hc)

/-- A list of texts with a mark between them ends a line just if one of the texts does. -/
theorem unbroken_intercalate {mark : List Char} (hmark : Unbroken mark)
    {pieces : List (List Char)} :
    Unbroken (mark.intercalate pieces) ↔ ∀ piece ∈ pieces, Unbroken piece :=
  forall_mem_intercalate hmark

theorem Unbroken.flatMap {f : Char → List Char} (hs : Unbroken s)
    (hf : ∀ c, isLineEnd c = false → Unbroken (f c)) : Unbroken (s.flatMap f) := by
  intro c hc
  obtain ⟨d, hd, hc⟩ := List.mem_flatMap.mp hc
  exact hf d (hs d hd) c hc

/-! ### Blanks and letters -/

theorem trimStart_subset (s : List Char) : trimStart s ⊆ s := (List.dropWhile_suffix _).subset

theorem trimEnd_subset (s : List Char) : trimEnd s ⊆ s := by
  intro c hc
  have hc := (List.dropWhile_suffix _).subset (List.mem_reverse.mp hc)
  exact List.mem_reverse.mp hc

theorem trim_subset (s : List Char) : trim s ⊆ s :=
  List.Subset.trans (trimEnd_subset _) (trimStart_subset s)

/-- No letter becomes one of the first characters. -/
theorem lowerCodeIn_bound {runs : List (Nat × Nat × Nat × Int)}
    (hruns : ∀ run ∈ runs, 13 < (run.1 : Int) + run.2.2.2) (n : Nat) :
    lowerCodeIn runs n = n ∨ 13 < lowerCodeIn runs n := by
  induction runs with
  | nil => exact .inl rfl
  | cons run rest ih =>
      obtain ⟨first, last, step, distance⟩ := run
      obtain ⟨hrun, hrest⟩ := List.forall_mem_cons.mp hruns
      rw [lowerCodeIn]
      split
      · exact .inl rfl
      · split
        · simp only at hrun
          exact .inr (by omega)
        · exact ih hrest

theorem isLineEnd_ofNat {n : Nat} (h : 13 < n) : isLineEnd (Char.ofNat n) = false := by
  by_cases hvalid : n.isValidChar
  · have hcode : (Char.ofNat n).toNat = n := by
      rw [Char.ofNat, dif_pos hvalid]
      rfl
    refine isLineEnd_of (p := fun c => 13 < c.toNat) (by decide) (by decide) ?_
    rw [hcode]
    exact h
  · rw [Char.ofNat, dif_neg hvalid]
    decide

theorem isLineEnd_lowerCharacter {c : Char} (h : isLineEnd c = false) :
    isLineEnd (lowerCharacter c) = false := by
  have hruns : ∀ run ∈ lowerRuns, 13 < (run.1 : Int) + run.2.2.2 := by decide +kernel
  obtain hsame | hbound := lowerCodeIn_bound hruns c.toNat
  · rw [lowerCharacter, hsame, Char.ofNat_toNat]
    exact h
  · exact isLineEnd_ofNat hbound

theorem Unbroken.lowerFrom (hs : Unbroken s) (before : List Char) :
    Unbroken (lowerFrom before s) := by
  induction s generalizing before with
  | nil => exact unbroken_nil
  | cons c rest ih =>
      obtain ⟨hc, hrest⟩ := unbroken_cons.mp hs
      rw [Text.lowerFrom]
      refine unbroken_append.mpr ⟨?_, ih hrest _⟩
      split
      · exact unbroken_of_hasLineEnd (by decide)
      · split
        · split <;> exact unbroken_of_hasLineEnd (by decide)
        · exact List.forall_mem_singleton.mpr (isLineEnd_lowerCharacter hc)

theorem Unbroken.lower (hs : Unbroken s) : Unbroken (lower s) := hs.lowerFrom []

/-- A line feed stays when a text is lowered. -/
theorem mem_lowerFrom (h : '\n' ∈ s) (before : List Char) : '\n' ∈ lowerFrom before s := by
  induction s generalizing before with
  | nil => cases h
  | cons c rest ih =>
      rw [lowerFrom]
      obtain rfl | h := List.mem_cons.mp h
      · have hkept : '\n' = lowerCharacter '\n' := by decide
        rw [if_neg (by decide), if_neg (by decide)]
        exact List.mem_append_left _ (List.mem_singleton.mpr hkept)
      · exact List.mem_append_right _ (ih h _)

end Text

namespace Sorting

variable {α : Type} {less : Less α}

theorem mem_insert {sorted found : Array α} {x y : α} (h : insert less sorted x = .ok found)
    (hy : y ∈ found) : y ∈ sorted ∨ y = x := by
  obtain ⟨place, -, h⟩ := exists_of_bind_eq_ok h
  obtain rfl := Except.ok.inj h
  unfold Array.insertIdxIfInBounds at hy
  split at hy
  · obtain rfl | hy := Array.mem_insertIdx.mp hy
    · exact .inr rfl
    · exact .inl hy
  · exact .inl hy

theorem mem_foldlM_insert {more : List α} {sorted found : Array α} {y : α}
    (h : more.foldlM (insert less) sorted = .ok found) (hy : y ∈ found) :
    y ∈ sorted ∨ y ∈ more := by
  induction more generalizing sorted with
  | nil =>
      obtain rfl := Except.ok.inj h
      exact .inl hy
  | cons x rest ih =>
      rw [List.foldlM_cons] at h
      obtain ⟨next, hnext, h⟩ := exists_of_bind_eq_ok h
      obtain hy | hy := ih h
      · exact (mem_insert hnext hy).imp_right fun heq => List.mem_cons.mpr (.inl heq)
      · exact .inr (List.mem_cons_of_mem x hy)

/-- Sorting brings in nothing new. -/
theorem mem_of_mem_sort {items found : List α} {y : α} (h : sort less items = .ok found)
    (hy : y ∈ found) : y ∈ items := by
  unfold sort at h
  split at h
  · rename_i first second rest
    obtain ⟨falling, -, h⟩ := exists_of_bind_eq_ok h
    obtain ⟨⟨run, more⟩, hrun, h⟩ := exists_of_bind_eq_ok h
    obtain ⟨sorted, hsorted, h⟩ := exists_of_bind_eq_ok h
    obtain rfl := Except.ok.inj h
    rw [← append_eq_of_takeRun hrun]
    obtain hy | hy := mem_foldlM_insert hsorted (Array.mem_toList_iff.mp hy)
    · have hfront : y ∈ first :: second :: run := by
        split at hy
        · exact List.mem_reverse.mp (List.mem_toArray.mp hy)
        · exact List.mem_toArray.mp hy
      exact List.mem_append_left more hfront
    · exact List.mem_append_right (first :: second :: run) hy
  · obtain rfl := Except.ok.inj h
    exact hy

end Sorting

namespace Wire.Parameter

open Text

variable {s : List Char}

/-! ### Reading -/

theorem unbroken_of_mem_piecesFrom {piece : List Char} {quoted : Bool} (hpiece : Unbroken piece)
    (hs : Unbroken s) : ∀ part ∈ piecesFrom piece quoted s, Unbroken part := by
  have hreverse {t : List Char} (ht : Unbroken t) : Unbroken t.reverse :=
    ht.of_subset fun _ => List.mem_reverse.mp
  induction s generalizing piece quoted with
  | nil => exact List.forall_mem_singleton.mpr (hreverse hpiece)
  | cons c rest ih =>
      obtain ⟨hc, hrest⟩ := unbroken_cons.mp hs
      rw [piecesFrom]
      split
      · exact List.forall_mem_cons.mpr ⟨hreverse hpiece, ih unbroken_nil hrest⟩
      · exact ih (unbroken_cons.mpr ⟨hc, hpiece⟩) hrest

theorem unbroken_splitPiece (hs : Unbroken s) :
    Unbroken (splitPiece s).1 ∧ Unbroken (splitPiece s).2 := by
  unfold splitPiece
  split
  · exact ⟨hs.of_subset (trim_subset s), unbroken_nil⟩
  · rename_i mark value hvalue
    have hrest : mark :: value ⊆ s := hvalue ▸ (List.dropWhile_suffix _).subset
    refine ⟨((hs.of_subset (List.takeWhile_prefix _).subset).of_subset (trim_subset _)).lower, ?_⟩
    have hvalue : value ⊆ s := List.Subset.trans (List.subset_cons_self mark value) hrest
    exact hs.of_subset (List.Subset.trans (trim_subset value) hvalue)

theorem unbroken_replacePair (a b : Char) {c : Char} (hc : isLineEnd c = false)
    (hs : Unbroken s) : Unbroken (replacePair a b c s) := by
  fun_induction replacePair a b c s with
  | case1 x y rest hpair ih =>
      obtain ⟨-, hs⟩ := unbroken_cons.mp hs
      obtain ⟨-, hs⟩ := unbroken_cons.mp hs
      exact unbroken_cons.mpr ⟨hc, ih hs⟩
  | case2 x y rest hpair ih =>
      obtain ⟨hx, hs⟩ := unbroken_cons.mp hs
      exact unbroken_cons.mpr ⟨hx, ih hs⟩
  | case3 s h => exact hs

theorem unbroken_unquote (hs : Unbroken s) : Unbroken (unquote s) := by
  have hinner : Unbroken (s.drop 1).dropLast :=
    hs.of_subset (List.Subset.trans (List.dropLast_subset _) (List.drop_subset 1 s))
  unfold unquote
  dsimp only
  split
  · exact unbroken_replacePair _ _ (by decide) (unbroken_replacePair _ _ (by decide) hinner)
  · split
    · exact hinner
    · exact hs

theorem unbroken_escape (hs : Unbroken s) : Unbroken (escape s) := by
  refine hs.flatMap fun c hc => ?_
  split
  · exact unbroken_cons.mpr ⟨by decide, unbroken_cons.mpr ⟨hc, unbroken_nil⟩⟩
  · exact unbroken_cons.mpr ⟨hc, unbroken_nil⟩

theorem unbroken_inQuotes (hs : Unbroken s) : Unbroken (inQuotes s) := by
  have hmark : isLineEnd '"' = false := by decide
  exact unbroken_append.mpr ⟨unbroken_cons.mpr ⟨hmark, unbroken_escape hs⟩,
    unbroken_cons.mpr ⟨hmark, unbroken_nil⟩⟩

theorem unbroken_continuationName? {base : List Char} {digits : Option (List Char)}
    (hs : Unbroken s) (h : continuationName? s = some (base, digits)) : Unbroken base := by
  have hbase : Unbroken (s.takeWhile isAsciiWord) := hs.of_subset (List.takeWhile_prefix _).subset
  unfold continuationName? at h
  dsimp only at h
  split at h
  · cases h
  · obtain ⟨rfl, -⟩ := Prod.mk.inj (Option.some.inj h)
    exact hbase
  · split at h
    · cases h
    · obtain ⟨rfl, -⟩ := Prod.mk.inj (Option.some.inj h)
      exact hbase
  · cases h

/-- The pieces that a value is spread over are under an unbroken name and unbroken themselves. -/
def IsUnbrokenGroup (group : List Char × List Continuation) : Prop :=
  Unbroken group.1 ∧ ∀ c ∈ group.2, Unbroken c.value

theorem isUnbrokenGroup_gather {name : List Char} {c : Continuation} (hname : Unbroken name)
    (hc : Unbroken c.value) {groups : List (List Char × List Continuation)}
    (h : ∀ group ∈ groups, IsUnbrokenGroup group) :
    ∀ group ∈ gather name c groups, IsUnbrokenGroup group := by
  induction groups with
  | nil =>
      exact List.forall_mem_singleton.mpr ⟨hname, List.forall_mem_singleton.mpr hc⟩
  | cons first rest ih =>
      obtain ⟨hfirst, hrest⟩ := List.forall_mem_cons.mp h
      rw [gather]
      split
      · refine List.forall_mem_cons.mpr ⟨⟨hfirst.1, ?_⟩, hrest⟩
        exact List.forall_mem_append.mpr ⟨hfirst.2, List.forall_mem_singleton.mpr hc⟩
      · exact List.forall_mem_cons.mpr ⟨hfirst, ih hrest⟩

theorem isUnbrokenGroup_gatherAll {all : List (List Char × List Char)}
    (hall : ∀ pair ∈ all, Unbroken pair.1 ∧ Unbroken pair.2)
    {groups found : List (List Char × List Continuation)}
    (hgroups : ∀ group ∈ groups, IsUnbrokenGroup group) (h : gatherAll all groups = .ok found) :
    ∀ group ∈ found, IsUnbrokenGroup group := by
  induction all generalizing groups with
  | nil =>
      obtain rfl := Except.ok.inj h
      exact hgroups
  | cons pair rest ih =>
      obtain ⟨⟨hname, hvalue⟩, hrest⟩ := List.forall_mem_cons.mp hall
      rw [gatherAll] at h
      split at h
      · exact ih hrest hgroups h
      · rename_i base digits hcontinued
        obtain ⟨number, -, h⟩ := exists_of_bind_eq_ok h
        refine ih hrest (isUnbrokenGroup_gather ?_ ?_ hgroups) h
        · exact unbroken_continuationName? hname hcontinued
        · exact unbroken_unquote hvalue

/-- A plain value is unbroken; what percent codes stand for need not be. -/
def IsUnbrokenValue : ParameterValue → Prop
  | .plain s => Unbroken s
  | .extended .. => True

/-- The name is unbroken, and so is a plain value. -/
structure IsUnbroken (p : Parameter) : Prop where
  name : Unbroken p.name
  value : IsUnbrokenValue p.value

theorem isUnbroken_join {name : List Char} {all : List Continuation} {p : Parameter}
    (hgroup : IsUnbrokenGroup (name, all)) (h : join name all = .ok p) : p.IsUnbroken := by
  obtain ⟨sorted, hsorted, h⟩ := exists_of_bind_eq_ok h
  dsimp only at h
  split at h
  · obtain rfl := Except.ok.inj h
    exact ⟨hgroup.1, trivial⟩
  · rename_i hcoded
    obtain rfl := Except.ok.inj h
    refine ⟨hgroup.1, unbroken_inQuotes fun c hc => ?_⟩
    obtain ⟨piece, hpiece, hc⟩ := List.mem_flatMap.mp hc
    have hplain : piece.coded = false := by
      refine Bool.eq_false_iff.mpr fun hpercent => hcoded ?_
      exact List.any_eq_true.mpr ⟨piece, hpiece, hpercent⟩
    rw [hplain] at hc
    exact hgroup.2 piece (Sorting.mem_of_mem_sort hsorted hpiece) c hc

/-- What is read from a content type on one line is on one line, but for percent codes. -/
theorem isUnbroken_of_mem_ofHeader (hs : Unbroken s) {ps : List Parameter}
    (h : ofHeader s = .ok ps) : ∀ p ∈ ps, p.IsUnbroken := by
  have hpieces : ∀ pair ∈ (piecesFrom [] false s).map splitPiece,
      Unbroken pair.1 ∧ Unbroken pair.2 :=
    List.forall_mem_map.mpr fun piece hpiece =>
      unbroken_splitPiece (unbroken_of_mem_piecesFrom unbroken_nil hs piece hpiece)
  unfold ofHeader at h
  split at h
  · obtain rfl := Except.ok.inj h
    nofun
  · rename_i name value rest hparts
    rw [hparts] at hpieces
    obtain ⟨⟨hname, hvalue⟩, hrest⟩ := List.forall_mem_cons.mp hpieces
    obtain ⟨joined, hjoined, h⟩ := exists_of_bind_eq_ok h
    obtain rfl := Except.ok.inj h
    refine List.forall_mem_cons.mpr ⟨⟨hname, hvalue⟩, ?_⟩
    obtain ⟨groups, hgroups, h⟩ := exists_of_bind_eq_ok hjoined
    obtain ⟨spread, hspread, h⟩ := exists_of_bind_eq_ok h
    obtain rfl := Except.ok.inj h
    refine List.forall_mem_append.mpr ⟨fun p hp => ?_, fun p hp => ?_⟩
    · obtain ⟨⟨n, v⟩, hpair, hread⟩ := List.mem_filterMap.mp hp
      obtain ⟨hn, hv⟩ := hrest _ hpair
      dsimp only at hread
      split at hread
      · cases hread
      · obtain rfl := Option.some.inj hread
        exact ⟨hn, unbroken_inQuotes (unbroken_unquote hv)⟩
    · obtain ⟨group, hgroup, hjoin⟩ := mem_of_mapM_eq_ok hspread p hp
      have hunbroken := isUnbrokenGroup_gatherAll hrest (List.forall_mem_nil _) hgroups
      exact isUnbroken_join (hunbroken group hgroup) hjoin

/-! ### Writing -/

theorem unbroken_percentCodes (bs : List UInt8) : Unbroken (percentCodes bs) := by
  intro c hc
  obtain ⟨b, -, hc⟩ := List.mem_flatMap.mp hc
  have hb : b.toNat < 256 := b.toNat_lt
  split at hc
  · rename_i hplain
    obtain rfl := List.mem_singleton.mp hc
    have hkind := (Bool.and_eq_true_iff.mp hplain).2
    exact isLineEnd_of (p := fun c =>
      (c.isAlphanum || c == '_' || c == '.' || c == '-' || c == '~') = true)
      (by decide) (by decide) hkind
  · have hpercent : isLineEnd '%' = false := by decide
    have hdigits := unbroken_of_isPrintable (List.forall_mem_cons.mpr
      ⟨isPrintable_capitalHexDigit (n := b.toNat / 16) (by omega), List.forall_mem_singleton.mpr
        (isPrintable_capitalHexDigit (n := b.toNat % 16) (by omega))⟩)
    exact unbroken_cons.mpr ⟨hpercent, hdigits⟩ c hc

/-- The charset and the language before percent codes are unbroken. -/
def HasUnbrokenMarks : ParameterValue → Prop
  | .plain _ => True
  | .extended charset language _ => Unbroken (charset.getD []) ∧ Unbroken (language.getD [])

theorem unbroken_writeExtended_iff {name w : List Char} {charset language : Option (List Char)}
    (hname : Unbroken name) (h : writeExtended name charset language s = .ok w) :
    Unbroken w ↔ Unbroken (charset.getD []) ∧ Unbroken (language.getD []) := by
  obtain ⟨bs, -, h⟩ := exists_of_bind_eq_ok h
  obtain rfl := Except.ok.inj h
  have hcodes := unbroken_percentCodes bs
  have hmarks : isLineEnd '*' = false ∧ isLineEnd '=' = false ∧ isLineEnd '\'' = false := by decide
  cases charset with
  | none =>
      cases language with
      | none => simp [unbroken_append, unbroken_cons, unbroken_nil, hname, hcodes, hmarks]
      | some l => simp [unbroken_append, unbroken_cons, unbroken_nil, hname, hcodes, hmarks]
  | some c => simp [unbroken_append, unbroken_cons, hname, hcodes, hmarks]

theorem unbroken_write_iff {p : Parameter} {w : List Char} (hp : p.IsUnbroken)
    (h : p.write = .ok w) : Unbroken w ↔ HasUnbrokenMarks p.value := by
  obtain ⟨name, value⟩ := p
  cases value with
  | extended charset language s => exact unbroken_writeExtended_iff hp.name h
  | plain s =>
      refine iff_of_true ?_ trivial
      cases s with
      | nil =>
          obtain rfl := Except.ok.inj h
          exact hp.name
      | cons c rest =>
          change (if Text.isAscii (c :: rest) then _ else _) = Except.ok w at h
          split at h
          · obtain rfl := Except.ok.inj h
            exact unbroken_append.mpr
              ⟨hp.name, unbroken_cons.mpr ⟨by decide, unbroken_inQuotes hp.value⟩⟩
          · exact (unbroken_writeExtended_iff hp.name h).mpr
              ⟨unbroken_of_hasLineEnd (by decide), unbroken_nil⟩

theorem IsUnbroken.unquoted {p : Parameter} (h : p.IsUnbroken) :
    IsUnbroken ⟨p.name, Parameter.unquoted p.value⟩ := by
  obtain ⟨name, value⟩ := p
  cases value with
  | plain s => exact ⟨h.name, unbroken_unquote h.value⟩
  | extended => exact ⟨h.name, trivial⟩

theorem hasUnbrokenMarks_unquoted (value : ParameterValue) :
    HasUnbrokenMarks (unquoted value) ↔ HasUnbrokenMarks value := by
  cases value <;> rfl

end Wire.Parameter

namespace Wire.Entity

open Text Parameter

/-- Of the marks before percent codes none gets a line end into the content type when it is written
anew, which is when it names a charset. -/
def StaysUnbroken (s : List Char) : Prop :=
  ∀ ps, ofHeader s = .ok ps → hasText (find? "charset".toList ps) = true →
    ∀ p ∈ ps, lower p.name ≠ "charset".toList → HasUnbrokenMarks p.value

theorem unbroken_renewal_iff {p : Parameter} {w : List Char} (hp : p.IsUnbroken)
    (h : renewal p = .ok w) :
    Unbroken w ↔ (lower p.name ≠ "charset".toList → HasUnbrokenMarks p.value) := by
  unfold renewal at h
  split at h
  · rename_i hname
    refine iff_of_true ?_ fun hother => absurd (eq_of_beq hname) hother
    refine (unbroken_write_iff ⟨?_, ?_⟩ h).mpr trivial
    · exact unbroken_of_hasLineEnd (by decide)
    · exact unbroken_of_hasLineEnd (by decide)
  · rename_i hname
    have hother : lower p.name ≠ "charset".toList := by simpa using hname
    rw [unbroken_write_iff hp.unquoted h, hasUnbrokenMarks_unquoted]
    exact ⟨fun hmarks _ => hmarks, fun hmarks => hmarks hother⟩

theorem forall_mem_dropWhile {pieces : List (List Char)} :
    (∀ piece ∈ pieces.dropWhile (·.isEmpty), Unbroken piece) ↔
      ∀ piece ∈ pieces, Unbroken piece := by
  induction pieces with
  | nil => simp
  | cons first rest ih =>
      cases first with
      | nil => simpa [unbroken_nil] using ih
      | cons c more => simp

/-- The content type that names UTF-8 is on one line, if the one that it is made from is, just if no
mark before percent codes holds a line end. -/
theorem unbroken_inUtf8_iff {s r : List Char} (hs : Unbroken s) (h : inUtf8 s = .ok r) :
    Unbroken r ↔ StaysUnbroken s := by
  obtain ⟨ps, hps, h⟩ := exists_of_bind_eq_ok h
  have hunbroken := isUnbroken_of_mem_ofHeader hs hps
  have honly : StaysUnbroken s ↔ (hasText (find? "charset".toList ps) = true →
      ∀ p ∈ ps, lower p.name ≠ "charset".toList → HasUnbrokenMarks p.value) := by
    refine ⟨fun hstays => hstays ps hps, fun hstays ps' hps' => ?_⟩
    obtain rfl := Except.ok.inj (hps.symm.trans hps')
    exact hstays
  rw [honly]
  split at h
  · rename_i hcharset
    rw [renewed_eq, hps] at h
    obtain ⟨written, hwritten, rfl⟩ := exists_of_map_eq_ok (x := ps.mapM renewal) h
    rw [unbroken_intercalate (unbroken_of_hasLineEnd (by decide)), forall_mem_dropWhile]
    simp only [hcharset, true_imp_iff]
    exact forall_mem_mapM_iff hwritten fun p hp w => unbroken_renewal_iff (hunbroken p hp)
  · rename_i hcharset
    obtain rfl := Except.ok.inj h
    refine iff_of_true ?_ fun hthere => absurd hthere hcharset
    exact unbroken_append.mpr ⟨hs, unbroken_of_hasLineEnd (by decide)⟩

end Wire.Entity

end Mailroom
