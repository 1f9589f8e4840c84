import Mailroom.Proofs.Wire.WrittenFields
import Mailroom.Wire.Transfer

/-!
What a receiver makes of a payload. A body in lines of base 64 is read back as it was. A body that
was not coded, but is labelled as if it were, stays what it is only where the receiver finds nothing
to undo: in base 64 a text that is empty or that cannot be read, in quoted printable a text without
codes.
-/

namespace Mailroom.Wire

open Charset.Shifted (isBase64 base64Value)

variable {s : List Char} {bs out : List UInt8} {strict : Bool}

/-! ### Base 64 is read back -/

theorem base64Character_facts {n : Nat} (h : n < 64) :
    base64Character n ≠ '=' ∧ isBase64 (base64Character n) = true ∧
      base64Value (base64Character n) = n := by
  have hall : ∀ n < 64, base64Character n ≠ '=' ∧ isBase64 (base64Character n) = true ∧
      base64Value (base64Character n) = n := by decide
  exact hall n h

/-- The strict reader takes a character, if there was no equal sign. -/
theorem readBase64From_character {n : Nat} (h : n < 64) {g : Base64Group}
    (hg : g.filled = false) (rest : List Char) :
    readBase64From true g (base64Character n :: rest) =
      (readBase64From true (g.add n).1 rest).map ((g.add n).2 ++ ·) := by
  obtain ⟨hequal, hmember, hvalue⟩ := base64Character_facts h
  simp [readBase64From, hequal, hmember, hvalue, hg]

theorem toUInt8_eq {n : Nat} {b : UInt8} (h : n = b.toNat) : n.toUInt8 = b := by
  rw [h]
  exact UInt8.ofNat_toNat

/-- Two characters make the first octet of a group and leave four bits. -/
theorem readBase64From_first (a : UInt8) {left : Nat} (hleft : left < 16) (rest : List Char) :
    readBase64From true .start
        (base64Character (a.toNat / 4) :: base64Character (a.toNat % 4 * 16 + left) :: rest) =
      (readBase64From true ⟨2, left, 0, false⟩ rest).map (a :: ·) := by
  have ha : a.toNat < 256 := a.toNat_lt
  have hoctet : (a.toNat / 4 * 4 + (a.toNat % 4 * 16 + left) / 16).toUInt8 = a :=
    toUInt8_eq (by omega)
  have hbits : (a.toNat % 4 * 16 + left) % 16 = left := by omega
  rw [readBase64From_character (by omega) rfl, readBase64From_character (by omega) rfl]
  simp only [Base64Group.start, Base64Group.add, hoctet, hbits, Option.map_map]
  rfl

/-- One more makes the second octet and leaves two bits. -/
theorem readBase64From_second (b : UInt8) {left : Nat} (hleft : left < 4) (rest : List Char) :
    readBase64From true ⟨2, b.toNat / 16, 0, false⟩
        (base64Character (b.toNat % 16 * 4 + left) :: rest) =
      (readBase64From true ⟨3, left, 0, false⟩ rest).map (b :: ·) := by
  have hoctet : (b.toNat / 16 * 16 + (b.toNat % 16 * 4 + left) / 4).toUInt8 = b :=
    toUInt8_eq (by omega)
  have hbits : (b.toNat % 16 * 4 + left) % 4 = left := by omega
  rw [readBase64From_character (by omega) rfl]
  simp only [Base64Group.add, hoctet, hbits]
  rfl

/-- The last one makes the third octet. -/
theorem readBase64From_third (c : UInt8) (rest : List Char) :
    readBase64From true ⟨3, c.toNat / 64, 0, false⟩ (base64Character (c.toNat % 64) :: rest) =
      (readBase64From true .start rest).map (c :: ·) := by
  have hoctet : (c.toNat / 64 * 64 + c.toNat % 64).toUInt8 = c := toUInt8_eq (by omega)
  rw [readBase64From_character (by omega) rfl]
  simp only [Base64Group.add, hoctet]
  rfl

theorem readBase64From_base64 (bs : List UInt8) :
    readBase64From true .start (base64 bs) = some bs := by
  fun_induction base64 bs with
  | case1 => rfl
  | case2 a =>
      rw [← Nat.add_zero (a.toNat % 4 * 16), readBase64From_first a (by omega)]
      rfl
  | case3 a b =>
      have hb : b.toNat < 256 := b.toNat_lt
      rw [readBase64From_first a (by omega), ← Nat.add_zero (b.toNat % 16 * 4),
        readBase64From_second b (by omega)]
      rfl
  | case4 a b c rest ih =>
      have hb : b.toNat < 256 := b.toNat_lt
      have hc : c.toNat < 256 := c.toNat_lt
      rw [readBase64From_first a (by omega), readBase64From_second b (by omega),
        readBase64From_third, ih]
      rfl

theorem readBase64_base64 (bs : List UInt8) : readBase64 true (base64 bs) = some bs := by
  have hfirst : ((base64 bs).head? == some '=') = false := by
    have hcharacter {n : Nat} (h : n < 64) : (some (base64Character n) == some '=') = false :=
      beq_false_of_ne fun hsame => (base64Character_facts h).1 (Option.some.inj hsame)
    fun_cases base64 bs with
    | case1 => rfl
    | case2 a | case3 a _ | case4 a _ _ _ =>
        have ha : a.toNat < 256 := a.toNat_lt
        exact hcharacter (by omega)
  rw [readBase64, hfirst, Bool.and_false]
  exact readBase64From_base64 bs

/-- Groups of three octets are coded one by one. -/
theorem base64_append {first : List UInt8} (h : 3 ∣ first.length) (second : List UInt8) :
    base64 (first ++ second) = base64 first ++ base64 second := by
  fun_induction base64 first with
  | case1 => rfl
  | case2 a | case3 a b => simp at h
  | case4 a b c rest ih =>
      have hrest : 3 ∣ rest.length := Nat.dvd_add_self_right.mp h
      simp [base64, ih hrest]

/-- A line feed stands between the lines only. -/
theorem filter_base64Lines (bs : List UInt8) :
    (base64Lines bs).filter (!Text.isLineEnd ·) = base64 bs := by
  have hline (bs : List UInt8) : (base64 bs).filter (!Text.isLineEnd ·) = base64 bs := by
    refine List.filter_eq_self.mpr fun c hc => ?_
    have hprintable := isPrintable_of_mem_base64 bs c hc
    have hreturn : c ≠ '\r' := by
      rintro rfl
      exact absurd hprintable (by decide)
    simp [Text.isLineEnd, hreturn, hprintable.ne]
  fun_induction base64Lines bs with
  | case1 => rfl
  | case2 b rest ih =>
      have hbreak : (!Text.isLineEnd '\n') = false := rfl
      rw [List.filter_append, List.filter_cons_of_neg (by simp [hbreak]), hline, ih]
      by_cases hlong : bodyLineOctets - 1 ≤ rest.length
      · rw [← base64_append, List.cons_append, List.take_append_drop]
        rw [List.length_cons, List.length_take, Nat.min_eq_left hlong]
        decide
      · rw [List.take_of_length_le (by omega), List.drop_of_length_le (by omega), base64,
          List.append_nil]

theorem isAscii_base64 (bs : List UInt8) : Text.isAscii (base64 bs) = true :=
  List.all_eq_true.mpr fun c hc => by
    have hprintable := (isPrintable_of_mem_base64 bs c hc).2
    exact decide_eq_true (by omega)

theorem isAscii_base64Lines (bs : List UInt8) : Text.isAscii (base64Lines bs) = true := by
  fun_induction base64Lines bs with
  | case1 => rfl
  | case2 b rest ih =>
      have hbreak : decide ('\n'.toNat < 128) = true := rfl
      rw [Text.isAscii, List.all_append, List.all_cons, hbreak, Bool.true_and]
      exact Bool.and_eq_true_iff.mpr ⟨isAscii_base64 _, ih⟩

theorem ofOctets_ascii (h : Text.isAscii s = true) : Text.ofOctets (Text.ascii s) = s := by
  rw [Text.ofOctets, Text.ascii, List.map_map]
  conv_rhs => rw [← List.map_id s]
  refine List.map_congr_left fun c hc => ?_
  have hsmall := Text.lt_of_mem_of_isAscii h hc
  have hcode : c.toNat.toUInt8.toNat = c.toNat := by
    rw [Nat.toUInt8, UInt8.toNat_ofNat']
    omega
  rw [Function.comp_apply, hcode, Char.ofNat_toNat, id]

theorem isLineEndOctet_octetOf {c : Char} (h : c.toNat < 128) :
    isLineEndOctet (octetOf c) = Text.isLineEnd c := by
  have hsame {d : Char} (hd : d.toNat < 128) : (octetOf c == octetOf d) = (c == d) := by
    refine Bool.eq_iff_iff.mpr ?_
    rw [beq_iff_eq, beq_iff_eq]
    exact ⟨Text.octet_inj h hd, congrArg octetOf⟩
  rw [isLineEndOctet, hsame (by decide), hsame (by decide), Text.isLineEnd, Bool.or_comm]

theorem filter_ascii (h : Text.isAscii s = true) :
    (Text.ascii s).filter (!isLineEndOctet ·) = Text.ascii (s.filter (!Text.isLineEnd ·)) := by
  rw [Text.ascii, List.filter_map]
  refine congrArg (List.map _) (List.filter_congr fun c hc => ?_)
  exact congrArg Bool.not (isLineEndOctet_octetOf (Text.lt_of_mem_of_isAscii h hc))

/-- A body in lines of base 64 is read back. -/
theorem undoBase64_base64Lines (bs : List UInt8) :
    undoBase64 (Text.ascii (base64Lines bs)) = bs := by
  have hascii := isAscii_base64Lines bs
  have hjoined : (Text.ascii (base64Lines bs)).filter (!isLineEndOctet ·) =
      Text.ascii (base64 bs) := by
    rw [filter_ascii hascii, filter_base64Lines]
  have hchars : Text.ofOctets (Text.ascii (base64 bs)) = base64 bs :=
    ofOctets_ascii (isAscii_base64 bs)
  have hwhole : (4 - (base64 bs).length % 4) % 4 = 0 := by
    rw [length_base64, base64Length]
    omega
  simp only [undoBase64, hjoined, hchars, readGenerously, hwhole, List.replicate_zero,
    List.append_nil, readBase64_base64]
  rfl

/-! ### What is labelled as base 64 -/

/-- Four times the octets that a group still has to give for the characters read, three for each. -/
def Base64Group.owed (g : Base64Group) : Nat := 3 * g.count - 4 * (g.count - 1)

theorem Base64Group.owed_add {g : Base64Group} (h : g.count < 4) (value : Nat) :
    (g.add value).1.count < 4 ∧
      4 * (g.add value).2.length + (g.add value).1.owed = g.owed + 3 := by
  obtain ⟨count, bits, fills, filled⟩ := g
  match count, h with
  | 0, _ | 1, _ | 2, _ | 3, _ => simp [add, owed]

/-- Four characters other than the equal sign give three octets at most. -/
theorem length_readBase64From {g : Base64Group} (hg : g.count < 4)
    (h : readBase64From strict g s = some out) :
    4 * out.length ≤ 3 * s.countP (· != '=') + g.owed := by
  fun_induction readBase64From strict g s generalizing out with
  | case1 | case4 =>
      obtain rfl := Option.some.inj h
      exact Nat.zero_le _
  | case2 | case3 | case6 | case8 => cases h
  | case5 g c rest hequal _ ih =>
      rw [List.countP_cons_of_neg (by simpa using hequal)]
      exact ih hg h
  | case7 g c rest hequal _ _ ih =>
      rw [List.countP_cons_of_pos (by simpa using hequal)]
      have hlater := ih hg h
      omega
  | case9 g c rest hequal _ _ ih =>
      obtain ⟨more, hmore, rfl⟩ := Option.map_eq_some_iff.mp h
      obtain ⟨hcount, howed⟩ := g.owed_add hg (base64Value c)
      have hlater := ih hcount hmore
      rw [List.countP_cons_of_pos (by simpa using hequal), List.length_append]
      omega

theorem length_readBase64 (h : readBase64 strict s = some out) :
    4 * out.length ≤ 3 * s.countP (· != '=') := by
  unfold readBase64 at h
  split at h
  · cases h
  · exact length_readBase64From (g := .start) (by decide) h

/-- The equal signs that a generous reader adds give it no octets. -/
theorem length_readGenerously (h : readGenerously s = some out) :
    4 * out.length ≤ 3 * s.length := by
  have hsigns (count : Nat) : (s ++ List.replicate count '=').countP (· != '=') ≤ s.length := by
    have hnone : (List.replicate count '=').countP (· != '=') = 0 :=
      List.countP_eq_zero.mpr fun c hc => by simp [List.eq_of_mem_replicate hc]
    rw [List.countP_append, hnone, Nat.add_zero]
    exact List.countP_le_length
  have hshort {strict : Bool} (count : Nat)
      (h : readBase64 strict (s ++ List.replicate count '=') = some out) :
      4 * out.length ≤ 3 * s.length :=
    Nat.le_trans (length_readBase64 h) (Nat.mul_le_mul_left 3 (hsigns count))
  rw [readGenerously, Option.orElse_eq_or, Option.orElse_eq_or, Option.or_eq_some_iff,
    Option.or_eq_some_iff] at h
  obtain (h | ⟨-, h⟩) | ⟨-, h⟩ := h
  · exact hshort _ h
  · exact hshort 0 (by simpa using h)
  · exact hshort 2 h

/-- A text that is labelled as base 64 stays what it is just if it is empty, or all on one line and
not to be read in base 64. -/
theorem undoBase64_eq_self_iff : undoBase64 bs = bs ↔
    bs = [] ∨ (∀ b ∈ bs, isLineEndOctet b = false) ∧ readGenerously (Text.ofOctets bs) = none := by
  have hjoined : bs.filter (!isLineEndOctet ·) = bs ↔ ∀ b ∈ bs, isLineEndOctet b = false := by
    simp [List.filter_eq_self]
  have hlength := List.length_filter_le (!isLineEndOctet ·) bs
  unfold undoBase64
  dsimp only
  rw [← hjoined]
  generalize bs.filter (!isLineEndOctet ·) = joined at hlength ⊢
  cases hread : readGenerously (Text.ofOctets joined) with
  | none =>
      rw [Option.getD_none]
      constructor
      · rintro rfl
        exact .inr ⟨rfl, hread⟩
      · rintro (rfl | ⟨hsame, -⟩)
        · exact List.length_eq_zero_iff.mp (Nat.le_zero.mp hlength)
        · exact hsame
  | some out =>
      have hshort := length_readGenerously hread
      rw [Text.ofOctets, List.length_map] at hshort
      rw [Option.getD_some]
      constructor
      · rintro rfl
        exact .inl (List.length_eq_zero_iff.mp (by omega))
      · rintro (rfl | ⟨rfl, hnone⟩)
        · rw [List.length_nil] at hlength
          exact List.length_eq_zero_iff.mp (by omega)
        · rw [hnone] at hread
          cases hread

/-! ### What is labelled as quoted printable -/

/-- What makes an equal sign in front of it a code. -/
inductive IsCode : List UInt8 → Prop
  | atEnd : IsCode []
  | lineEnd {b : UInt8} (h : isLineEndOctet b = true) (rest : List UInt8) : IsCode (b :: rest)
  | equalSign (rest : List UInt8) : IsCode (octetOf '=' :: rest)
  | digits {a b : UInt8} (ha : (Text.hexValue? (Char.ofNat a.toNat)).isSome = true)
      (hb : (Text.hexValue? (Char.ofNat b.toNat)).isSome = true) (rest : List UInt8) :
      IsCode (a :: b :: rest)

def HasCode (bs : List UInt8) : Prop :=
  ∃ before rest, bs = before ++ octetOf '=' :: rest ∧ IsCode rest

theorem hasCode_cons {b : UInt8} {rest : List UInt8} :
    HasCode (b :: rest) ↔ b = octetOf '=' ∧ IsCode rest ∨ HasCode rest := by
  constructor
  · rintro ⟨before, after, hbs, hcode⟩
    cases before with
    | nil =>
        obtain ⟨rfl, rfl⟩ := List.cons.inj hbs
        exact .inl ⟨rfl, hcode⟩
    | cons c more => exact .inr ⟨more, after, (List.cons.inj hbs).2, hcode⟩
  · rintro (⟨rfl, hcode⟩ | ⟨before, after, rfl, hcode⟩)
    · exact ⟨[], rest, rfl, hcode⟩
    · exact ⟨b :: before, after, rfl, hcode⟩

/-- Two digits are needed where there is neither the end of a line nor a second equal sign. -/
theorem IsCode.exists_digits {a : UInt8} {rest : List UInt8} (h : IsCode (a :: rest))
    (hend : isLineEndOctet a = false) (hequal : a ≠ octetOf '=') :
    ∃ b after, rest = b :: after ∧ (Text.hexValue? (Char.ofNat a.toNat)).isSome = true ∧
      (Text.hexValue? (Char.ofNat b.toNat)).isSome = true := by
  cases h with
  | lineEnd h =>
      rw [hend] at h
      cases h
  | equalSign => exact absurd rfl hequal
  | digits ha hb after => exact ⟨_, after, rfl, ha, hb⟩

/-- A code stands for less than it takes; all else stays. -/
theorem unescape_cases (rest : List UInt8) :
    IsCode rest ∧ (unescape rest).1.length + (unescape rest).2.length ≤ rest.length ∨
      ¬IsCode rest ∧ unescape rest = ([octetOf '='], rest) := by
  fun_cases unescape rest with
  | case1 => exact .inl ⟨.atEnd, Nat.le_refl 0⟩
  | case2 a rest hfeed =>
      refine .inl ⟨.lineEnd (by simp [isLineEndOctet, hfeed]) rest, ?_⟩
      simp
  | case3 a rest _ hreturn =>
      refine .inl ⟨.lineEnd (by simp [isLineEndOctet, hreturn]) rest, ?_⟩
      have hbreak := (List.dropWhile_sublist (· != octetOf '\n') (l := rest)).length_le
      simp only [List.length_nil, List.length_drop, List.length_cons]
      omega
  | case4 a rest _ _ hequal =>
      obtain rfl := eq_of_beq hequal
      exact .inl ⟨.equalSign rest, by simp; omega⟩
  | case5 a _ _ _ high b after hhigh low hlow =>
      refine .inl ⟨.digits (by rw [hhigh]; rfl) (by rw [hlow]; rfl) after, ?_⟩
      simp only [List.length_nil, List.length_cons]
      omega
  | case6 a hfeed hreturn hequal high b after _ hlow =>
      refine .inr ⟨fun h => ?_, rfl⟩
      have hend : isLineEndOctet a = false := by simp [isLineEndOctet, hfeed, hreturn]
      obtain ⟨_, _, hrest, -, hb⟩ := h.exists_digits hend (by simpa using hequal)
      obtain ⟨rfl, rfl⟩ := List.cons.inj hrest
      rw [hlow] at hb
      cases hb
  | case7 a rest hfeed hreturn hequal hnone =>
      refine .inr ⟨fun h => ?_, rfl⟩
      have hend : isLineEndOctet a = false := by simp [isLineEndOctet, hfeed, hreturn]
      obtain ⟨b, after, hrest, ha, -⟩ := h.exists_digits hend (by simpa using hequal)
      obtain ⟨high, hhigh⟩ := Option.isSome_iff_exists.mp ha
      exact hnone high b after hhigh hrest

theorem undoQuoted_cases (bs : List UInt8) :
    HasCode bs ∧ (undoQuoted bs).length < bs.length ∨ ¬HasCode bs ∧ undoQuoted bs = bs := by
  fun_induction undoQuoted bs with
  | case1 => exact .inr ⟨by rintro ⟨before, rest, hbs, -⟩; simp at hbs, rfl⟩
  | case2 b rest hequal _ ih =>
      obtain rfl := eq_of_beq hequal
      rw [hasCode_cons, List.length_append, List.length_cons]
      obtain ⟨hcode, hshort⟩ | ⟨hcode, hsame⟩ := unescape_cases rest
      · have hlater : (undoQuoted (unescape rest).2).length ≤ (unescape rest).2.length := by
          obtain ⟨-, h⟩ | ⟨-, h⟩ := ih
          · exact Nat.le_of_lt h
          · rw [h]
        exact .inl ⟨.inl ⟨rfl, hcode⟩, by omega⟩
      · rw [hsame] at ih ⊢
        dsimp only at ih ⊢
        obtain ⟨hlater, hshort⟩ | ⟨hlater, hrest⟩ := ih
        · exact .inl ⟨.inr hlater, by simp; omega⟩
        · refine .inr ⟨?_, by rw [hrest]; rfl⟩
          rintro (⟨-, h⟩ | h)
          · exact hcode h
          · exact hlater h
  | case3 b rest hother ih =>
      rw [hasCode_cons, List.length_cons, List.length_cons, List.cons.injEq]
      have hne : b ≠ octetOf '=' := by simpa using hother
      obtain ⟨hlater, hshort⟩ | ⟨hlater, hrest⟩ := ih
      · exact .inl ⟨.inr hlater, by omega⟩
      · refine .inr ⟨?_, rfl, hrest⟩
        rintro (⟨h, -⟩ | h)
        · exact hne h
        · exact hlater h

/-- A text that is labelled as quoted printable stays what it is just if it has no codes. -/
theorem undoQuoted_eq_self_iff : undoQuoted bs = bs ↔ ¬HasCode bs := by
  obtain ⟨hcode, hshort⟩ | ⟨hcode, hsame⟩ := undoQuoted_cases bs
  · refine iff_of_false (fun hsame => ?_) (not_not_intro hcode)
    rw [hsame] at hshort
    exact Nat.lt_irrefl _ hshort
  · exact iff_of_true hsame hcode

/-! ### Any label -/

/-- A body with this label, which was not coded, is read as it is. -/
def Transfer.Keeps : Transfer → List UInt8 → Prop
  | plain, _ => True
  | base64, bs => bs = [] ∨
      (∀ b ∈ bs, isLineEndOctet b = false) ∧ readGenerously (Text.ofOctets bs) = none
  | quotedPrintable, bs => ¬HasCode bs
  | uuencoded, bs => ∀ out ∈ readUu bs, out = bs

theorem Transfer.undo_eq_self_iff (encoding : Transfer) :
    encoding.undo bs = bs ↔ encoding.Keeps bs := by
  cases encoding with
  | plain => exact iff_of_true rfl trivial
  | base64 => exact undoBase64_eq_self_iff
  | quotedPrintable => exact undoQuoted_eq_self_iff
  | uuencoded =>
      rw [undo, Keeps]
      cases readUu bs <;> simp

end Mailroom.Wire
