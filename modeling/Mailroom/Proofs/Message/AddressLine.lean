import Mailroom.Proofs.Message.FieldList

/-!
Lines of addresses, read back. A reader cuts a line at every comma and space that stand outside
quotes and brackets, and takes each piece apart at its last space. What it gets from a line of
checked ASCII addresses are these addresses. A personal name with a special character is written in
quotes, and a quote or a backslash in it is escaped; an email has commas, quotes and brackets only
where its domain is a literal, and no space anywhere.
-/

namespace Mailroom

namespace AddressLine

/-! ### The reader -/

/-- Where a reader stands in a line. -/
inductive Place
  | outside
  | quoted
  | escaped
  | bracketed

/-- The place after one more character. Brackets mean nothing in quotes, and quotes nothing in
brackets. -/
def Place.after : Place → Char → Place
  | outside, '"' => quoted
  | outside, '[' => bracketed
  | outside, _ => outside
  | quoted, '"' => outside
  | quoted, '\\' => escaped
  | quoted, _ => quoted
  | escaped, _ => quoted
  | bracketed, ']' => outside
  | bracketed, _ => bracketed

/-- Cuts what is left of a line. -/
def cutFrom : Place → List Char → List (List Char)
  | _, [] => [[]]
  | .outside, ',' :: ' ' :: rest => [] :: cutFrom .outside rest
  | place, c :: rest => (cutFrom (place.after c) rest).modifyHead (c :: ·)

/-- The pieces of a line; an empty line has none. -/
def pieces (line : List Char) : List (List Char) :=
  if line.isEmpty then [] else cutFrom .outside line

/-- What stands before the last space and what stands after it. -/
def atLastSpace? : List Char → Option (List Char × List Char)
  | [] => none
  | c :: rest =>
      match atLastSpace? rest with
      | some (before, behind) => some (c :: before, behind)
      | none => if c == ' ' then some ([], rest) else none

/-- A backslash goes, and the character after it stays. -/
def unescape : List Char → List Char
  | '\\' :: c :: rest => c :: unescape rest
  | c :: rest => c :: unescape rest
  | [] => []

/-- The name that a display name stands for, which may be in quotes. -/
def readName : List Char → List Char
  | '"' :: rest => unescape rest.dropLast
  | s => s

def inAngles? : List Char → Option (List Char)
  | '<' :: rest => if rest.getLast? = some '>' then some rest.dropLast else none
  | _ => none

/-- The address that a piece stands for: an email on its own, or a display name, a space and an
email in angle brackets. -/
def read? (piece : List Char) : Option Address :=
  match atLastSpace? piece with
  | none => some ⟨String.ofList piece, none⟩
  | some (name, mail) =>
      (inAngles? mail).map fun email => ⟨String.ofList email, some (String.ofList (readName name))⟩

/-! ### Cutting -/

/-- Read from a place on, the text leads outside, and none of its commas is outside. -/
def IsWhole : Place → List Char → Prop
  | place, [] => place = .outside
  | place, c :: rest => (place = .outside → c ≠ ',') ∧ IsWhole (place.after c) rest

variable {place : Place} {s t : List Char} {texts : List (List Char)}

theorem IsWhole.append (hs : IsWhole place s) (ht : IsWhole .outside t) :
    IsWhole place (s ++ t) := by
  induction s generalizing place with
  | nil =>
      obtain rfl : place = .outside := hs
      exact ht
  | cons c rest ih => exact ⟨hs.1, ih hs.2⟩

theorem cutFrom_cons {c : Char} (h : place = .outside → c ≠ ',') (rest : List Char) :
    cutFrom place (c :: rest) = (cutFrom (place.after c) rest).modifyHead (c :: ·) := by
  rw [cutFrom]
  rintro rest' rfl rfl -
  exact h rfl rfl

theorem cutFrom_append (h : IsWhole place s) (rest : List Char) :
    cutFrom place (s ++ ',' :: ' ' :: rest) = s :: cutFrom .outside rest := by
  induction s generalizing place with
  | nil =>
      obtain rfl : place = .outside := h
      rfl
  | cons c s ih =>
      rw [List.cons_append, cutFrom_cons h.1, ih h.2]
      rfl

theorem cutFrom_whole (h : IsWhole place s) : cutFrom place s = [s] := by
  induction s generalizing place with
  | nil => exact cutFrom.eq_1 place
  | cons c s ih =>
      rw [cutFrom_cons h.1, ih h.2]
      rfl

theorem cutFrom_intercalate (hsome : texts ≠ []) (h : ∀ s ∈ texts, IsWhole .outside s) :
    cutFrom .outside (", ".toList.intercalate texts) = texts := by
  induction texts with
  | nil => exact absurd rfl hsome
  | cons first rest ih =>
      obtain ⟨hfirst, hrest⟩ := List.forall_mem_cons.mp h
      cases rest with
      | nil =>
          rw [List.intercalate_singleton]
          exact cutFrom_whole hfirst
      | cons next more =>
          rw [List.intercalate_cons_cons, List.append_assoc]
          exact (cutFrom_append hfirst _).trans
            (congrArg (first :: ·) (ih (List.cons_ne_nil _ _) hrest))

/-- Whole texts with a comma and a space between them are cut into these texts. -/
theorem pieces_intercalate (h : ∀ s ∈ texts, s ≠ [] ∧ IsWhole .outside s) :
    pieces (", ".toList.intercalate texts) = texts := by
  cases texts with
  | nil => rfl
  | cons first rest =>
      have hfilled : (", ".toList.intercalate (first :: rest)).isEmpty = false := by
        have hfirst : first ≠ [] := (h first List.mem_cons_self).1
        cases rest <;> simp [hfirst]
      rw [pieces, hfilled]
      exact cutFrom_intercalate (List.cons_ne_nil _ _) fun s hs => (h s hs).2

/-! ### Whole texts -/

theorem ne_of_kind {p : Char → Bool} {c d : Char} (hc : p c = true) (hd : p d = false) : c ≠ d := by
  rintro rfl
  rw [hc] at hd
  cases hd

/-- Without commas, quotes and brackets there is nothing that leads elsewhere. -/
theorem isWhole_of_kind {p : Char → Bool} (hcomma : p ',' = false) (hquote : p '"' = false)
    (hbracket : p '[' = false) (h : ∀ c ∈ s, p c = true) : IsWhole .outside s := by
  induction s with
  | nil => rfl
  | cons c rest ih =>
      obtain ⟨hc, hrest⟩ := List.forall_mem_cons.mp h
      have hafter : Place.after .outside c = .outside := by
        rw [Place.after]
        · exact ne_of_kind hc hquote
        · exact ne_of_kind hc hbracket
      exact ⟨fun _ => ne_of_kind hc hcomma, hafter.symm ▸ ih hrest⟩

theorem isWhole_bracketed (h : ∀ c ∈ s, c ≠ ']') : IsWhole .bracketed (s ++ [']']) := by
  induction s with
  | nil => exact ⟨nofun, rfl⟩
  | cons c rest ih =>
      obtain ⟨hclose, hrest⟩ := List.forall_mem_cons.mp h
      have hafter : Place.after .bracketed c = .bracketed := by
        rw [Place.after]
        exact hclose
      exact ⟨nofun, hafter.symm ▸ ih hrest⟩

/-- An escaped name does not leave its quotes before they are closed. -/
theorem isWhole_quoted (name : List Char) :
    IsWhole .quoted (name.flatMap Address.escapeCharacter ++ ['"']) := by
  induction name with
  | nil => exact ⟨nofun, rfl⟩
  | cons c rest ih =>
      rw [List.flatMap_cons, List.append_assoc, Address.escapeCharacter]
      split
      · exact ⟨nofun, nofun, ih⟩
      · rename_i hescape
        have hkept : c ≠ '\\' ∧ c ≠ '"' := by simpa using hescape
        have hafter : Place.after .quoted c = .quoted := by
          rw [Place.after]
          · exact hkept.2
          · exact hkept.1
        exact ⟨nofun, hafter.symm ▸ ih⟩

open Address

/-! ### Emails -/

theorem isWhole_email (h : Grammar.Email s) : IsWhole .outside s := by
  have hbefore {before : List Char} (hlocal : ∀ c ∈ before, isLocalCharacter c = true) :
      IsWhole .outside before := isWhole_of_kind (by decide) (by decide) (by decide) hlocal
  cases h.form with
  | named hlocal hdomain =>
      apply (hbefore hlocal).append
      exact ⟨fun _ => by decide, isWhole_of_kind (by decide) (by decide) (by decide) hdomain⟩
  | literal hlocal hinner =>
      apply (hbefore hlocal).append
      refine ⟨fun _ => by decide, fun _ => by decide, isWhole_bracketed fun c hc => ?_⟩
      exact ne_of_kind (hinner c hc) (by decide)

theorem space_notMem_email (h : Grammar.Email s) : ' ' ∉ s := by
  intro hspace
  exact absurd (h.unblank ' ' hspace) (by decide)

/-! ### Display names -/

theorem unescape_escaped (name : List Char) : unescape (name.flatMap escapeCharacter) = name := by
  induction name with
  | nil => rfl
  | cons c rest ih =>
      rw [List.flatMap_cons, escapeCharacter]
      split
      · exact congrArg (c :: ·) ih
      · rename_i hescape
        have hkept : c ≠ '\\' ∧ c ≠ '"' := by simpa using hescape
        rw [List.singleton_append, unescape, ih]
        rintro - - rfl -
        exact hkept.1 rfl

/-- A name without special characters stands as it is. -/
theorem displayName_of_plain {name : List Char} (hascii : Text.isAscii name = true)
    (h : name.any isSpecial = false) : displayName name = name := by
  have hescape : ∀ c ∈ name, escapeCharacter c = [c] := by
    intro c hc
    have hspecial : ¬isSpecial c = true := List.any_eq_false.mp h c hc
    refine if_neg fun hescaped => hspecial ?_
    obtain rfl | rfl : c = '\\' ∨ c = '"' := by simpa using hescaped
    · decide
    · decide
  have hbody : name.flatMap escapeCharacter = name := by
    rw [List.flatMap_congr hescape, List.flatMap_singleton']
  rw [displayName, hascii, h]
  exact hbody

theorem displayName_of_special {name : List Char} (hascii : Text.isAscii name = true)
    (h : name.any isSpecial = true) :
    displayName name = '"' :: (name.flatMap escapeCharacter ++ ['"']) := by
  rw [displayName, hascii, h]
  rfl

theorem isWhole_displayName {name : List Char} (hascii : Text.isAscii name = true) :
    IsWhole .outside (displayName name) := by
  cases h : name.any isSpecial with
  | true =>
      rw [displayName_of_special hascii h]
      exact ⟨fun _ => by decide, isWhole_quoted name⟩
  | false =>
      rw [displayName_of_plain hascii h]
      have hplain : ∀ c ∈ name, (!isSpecial c) = true := by simpa using h
      exact isWhole_of_kind (p := fun c => !isSpecial c) (by decide) (by decide) (by decide) hplain

theorem readName_displayName {name : List Char} (hascii : Text.isAscii name = true) :
    readName (displayName name) = name := by
  cases h : name.any isSpecial with
  | true =>
      rw [displayName_of_special hascii h, readName, List.dropLast_concat, unescape_escaped]
  | false =>
      rw [displayName_of_plain hascii h, readName]
      rintro rest rfl
      cases h

/-! ### Pieces -/

theorem atLastSpace?_of_notMem (h : ' ' ∉ s) : atLastSpace? s = none := by
  induction s with
  | nil => rfl
  | cons c rest ih =>
      obtain ⟨hc, hrest⟩ := List.ne_and_not_mem_of_not_mem_cons h
      rw [atLastSpace?, ih hrest]
      exact if_neg fun hspace => hc (eq_of_beq hspace).symm

theorem atLastSpace?_append (s : List Char) (ht : ' ' ∉ t) :
    atLastSpace? (s ++ ' ' :: t) = some (s, t) := by
  induction s with
  | nil =>
      rw [List.nil_append, atLastSpace?, atLastSpace?_of_notMem ht]
      rfl
  | cons c rest ih => rw [List.cons_append, atLastSpace?, ih]

end AddressLine

namespace Address

open AddressLine

/-- An address that passed the check and is ASCII. -/
structure IsPlain (a : Address) : Prop where
  checked : ∃ raw personal, validate raw personal = .ok a
  email : Text.isAscii a.email.toList = true
  personal : ∀ name ∈ a.personal, Text.isAscii name.toList = true

/-- How an address is written. -/
def written (a : Address) : List Char :=
  match a.personal with
  | none => a.email.toList
  | some name => displayName name.toList ++ ' ' :: '<' :: (a.email.toList ++ ['>'])

namespace IsPlain

variable {a b : Address} (ha : a.IsPlain)
include ha

theorem isEmail : Grammar.Email a.email.toList := by
  obtain ⟨raw, personal, hchecked⟩ := ha.checked
  exact (of_validate hchecked).1

theorem isEmpty_name {name : String} (h : a.personal = some name) : name.isEmpty = false := by
  obtain ⟨raw, personal, hchecked⟩ := ha.checked
  have hblank := (of_checkPersonal (of_validate hchecked).2 name h).1
  rw [← Bool.not_eq_true, String.isEmpty_iff]
  rintro rfl
  cases hblank

theorem text_eq : a.text = .ok (String.ofList a.written) := by
  have hascii : requireAscii a.email.toList = .ok () := requireAscii_eq_ok_iff.mpr ha.email
  rw [Address.text, hascii, written]
  cases hpersonal : a.personal with
  | none => exact congrArg Except.ok String.ofList_toList.symm
  | some name =>
      have hname : name.isEmpty = false := ha.isEmpty_name hpersonal
      simp [bind, Except.bind, pure, Except.pure, hname]

theorem isWhole_written : a.written ≠ [] ∧ IsWhole .outside a.written := by
  have hemail := isWhole_email ha.isEmail
  rw [written]
  cases hpersonal : a.personal with
  | none =>
      exact ⟨ha.isEmail.ne_nil, hemail⟩
  | some name =>
      refine ⟨by simp, (isWhole_displayName (ha.personal name hpersonal)).append ?_⟩
      exact ⟨fun _ => by decide, fun _ => by decide, hemail.append ⟨fun _ => by decide, rfl⟩⟩

/-- An address is read back from what is written. -/
theorem read?_written : read? a.written = some a := by
  have hspace := space_notMem_email ha.isEmail
  rw [read?, written]
  cases hpersonal : a.personal with
  | none =>
      dsimp only
      rw [atLastSpace?_of_notMem hspace, String.ofList_toList, ← hpersonal]
  | some name =>
      have hmail : ' ' ∉ '<' :: (a.email.toList ++ ['>']) := by simp [hspace]
      have hangles : inAngles? ('<' :: (a.email.toList ++ ['>'])) = some a.email.toList := by
        simp [inAngles?]
      dsimp only
      rw [atLastSpace?_append _ hmail]
      dsimp only
      rw [hangles, Option.map_some, readName_displayName (ha.personal name hpersonal),
        String.ofList_toList, String.ofList_toList, ← hpersonal]

theorem eq_of_text_eq (hb : b.IsPlain) (h : a.text = b.text) : a = b := by
  rw [ha.text_eq, hb.text_eq] at h
  have hsame : a.written = b.written := String.ofList_injective (Except.ok.inj h)
  have hread := ha.read?_written
  rw [hsame, hb.read?_written] at hread
  exact (Option.some.inj hread).symm

end IsPlain

end Address

namespace Message

open AddressLine Wire Wire.Entity

/-- The lists of a message that have a field in the mail, by the name of the field. -/
def listFields (m : Message) : List (String × List Value) :=
  [("To", m.addressees), ("Cc", m.cc), ("Reply-To", m.replyTo)]

/-- A list that is not empty stands in the mail as one line, in its one field. -/
theorem getAll_listField {m : Message} {e : Entity} {line : String} (he : m.entity = .ok e)
    {field : String × List Value} (hfield : field ∈ m.listFields) (hsome : field.2 ≠ [])
    (hline : addressLine field.2 = .ok line) :
    e.getAll (Text.lowerText field.1) = [.text line] := by
  have hwhole := he
  rw [entity_eq] at hwhole
  obtain ⟨top, htop, -⟩ := exists_of_bind_eq_ok hwhole
  obtain ⟨t, -, hwritten, -⟩ := exists_isWritten htop
  obtain ⟨texts, htexts, hgenerated⟩ : ∃ texts, field.2.mapM Value.plain = .ok texts ∧
      listField field.1 field.2 texts ⊆ m.generated t := by
    simp only [listFields, List.mem_cons, List.not_mem_nil, or_false] at hfield
    obtain rfl | rfl | rfl := hfield
    · exact ⟨_, hwritten.addressees, fun part hpart => by simp [generated, hpart]⟩
    · exact ⟨_, hwritten.cc, fun part hpart => by simp [generated, hpart]⟩
    · exact ⟨_, hwritten.replyTo, fun part hpart => by simp [generated, hpart]⟩
  have hjoined : ", ".intercalate texts = line := by
    rw [addressLine, htexts] at hline
    exact Except.ok.inj hline
  have hpart : (field.1, .text line) ∈ listField field.1 field.2 texts := by
    rw [listField, if_neg (by simpa using hsome), hjoined]
    exact List.mem_cons_self
  have hget := getAll_generated hwritten he (hgenerated hpart)
  exact hget

section Plain

variable {addresses : List Address} (h : ∀ a ∈ addresses, a.IsPlain)
include h

theorem mapM_text_of_plain :
    addresses.mapM Address.text = .ok (addresses.map fun a => String.ofList a.written) := by
  induction addresses with
  | nil => rfl
  | cons a rest ih =>
      obtain ⟨ha, hrest⟩ := List.forall_mem_cons.mp h
      rw [List.mapM_cons, ha.text_eq, ih hrest]
      rfl

theorem addressLine_of_plain :
    addressLine (addresses.map .address) =
      .ok (", ".intercalate (addresses.map fun a => String.ofList a.written)) := by
  have htexts : addresses.mapM (fun a => (Value.address a).plain) = _ := mapM_text_of_plain h
  rw [addressLine, List.mapM_map]
  exact congrArg (· >>= fun texts => pure (", ".intercalate texts)) htexts

/-- A line of plain addresses is cut into their written forms. -/
theorem pieces_of_plain {line : String} (hline : addressLine (addresses.map .address) = .ok line) :
    pieces line.toList = addresses.map Address.written := by
  rw [addressLine_of_plain h] at hline
  obtain rfl := Except.ok.inj hline
  have htexts : (addresses.map fun a => String.ofList a.written).map String.toList =
      addresses.map Address.written := by
    simp [Function.comp_def]
  rw [String.toList_intercalate, htexts]
  exact pieces_intercalate (List.forall_mem_map.mpr fun a ha => (h a ha).isWhole_written)

theorem read_pieces_of_plain {line : String}
    (hline : addressLine (addresses.map .address) = .ok line) :
    (pieces line.toList).map read? = addresses.map some := by
  rw [pieces_of_plain h hline, List.map_map]
  exact List.map_congr_left fun a ha => (h a ha).read?_written

/-- Lines of checked ASCII addresses read back. A line is cut into the written forms of its
addresses, one piece for each, and from each piece its address is read, so that a line, like the
written form of one address, can stand for nothing else; and this line is what a mail has as its
one field for such a list. -/
theorem address_lines_read_back :
    ∃ line texts, addressLine (addresses.map .address) = .ok line ∧
      addresses.mapM Address.text = .ok texts ∧
      pieces line.toList = texts.map String.toList ∧
      (pieces line.toList).map read? = addresses.map some ∧
      (∀ others : List Address, (∀ a ∈ others, a.IsPlain) →
        addressLine (others.map .address) = .ok line → others = addresses) ∧
      (∀ a ∈ addresses, ∀ b : Address, b.IsPlain → b.text = a.text → b = a) ∧
      ∀ (m : Message) (e : Entity), m.entity = .ok e → addresses ≠ [] → ∀ field ∈ m.listFields,
        field.2 = addresses.map .address → e.getAll (Text.lowerText field.1) = [.text line] := by
  have hline := addressLine_of_plain h
  refine ⟨_, _, hline, mapM_text_of_plain h, ?_, read_pieces_of_plain h hline, ?_, ?_, ?_⟩
  · rw [pieces_of_plain h hline]
    simp [Function.comp_def]
  · intro others hothers hsame
    have hread := read_pieces_of_plain hothers hsame
    rw [read_pieces_of_plain h hline] at hread
    exact (List.map_injective_iff.mpr (fun _ _ => Option.some.inj) hread).symm
  · intro a ha b hb hsame
    exact hb.eq_of_text_eq (h a ha) hsame
  · intro m e he hsome field hfield haddresses
    apply getAll_listField he hfield
    · rw [haddresses]
      simpa using hsome
    · rw [haddresses]
      exact hline

end Plain

theorem quoted_addresses_read_back :
    let addresses : List Address := [⟨"a@b.c", some "Doe, \"J\" <d@e.f>"⟩, ⟨"g@[h,\"i<]", none⟩,
      ⟨"j@k", some " L "⟩]
    let line := "\"Doe, \\\"J\\\" <d@e.f>\" <a@b.c>, g@[h,\"i<],  L  <j@k>"
    (∀ a ∈ addresses, a.IsPlain) ∧ addressLine (addresses.map .address) = .ok line ∧
      (pieces line.toList).map read? = addresses.map some := by
  intro addresses line
  have hplain : ∀ a ∈ addresses, a.IsPlain := by
    simp only [addresses, List.forall_mem_cons]
    refine ⟨?_, ?_, ?_, nofun⟩
    · exact ⟨⟨.text "a@b.c", .text "Doe, \"J\" <d@e.f>", rfl⟩, rfl, by rintro _ ⟨⟩; rfl⟩
    · exact ⟨⟨.text " g@[h,\"i<]", .nothing, rfl⟩, rfl, nofun⟩
    · exact ⟨⟨.text "j@k", .text " L ", rfl⟩, rfl, by rintro _ ⟨⟩; rfl⟩
  obtain ⟨line', texts, hline, -, -, hread, -⟩ := address_lines_read_back hplain
  have hsame : addressLine (addresses.map .address) = .ok line := by rfl
  obtain rfl : line' = line := Except.ok.inj (hline.symm.trans hsame)
  exact ⟨hplain, hsame, hread⟩

end Message

end Mailroom
