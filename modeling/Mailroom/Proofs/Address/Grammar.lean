import Mathlib.Data.List.Basic
import Mailroom.Address
import Mailroom.Proofs.Results
import Mailroom.Proofs.Text.Filled
import Mailroom.Proofs.Text.Pattern

/-!
The grammar of emails. An email is a local part, an at sign and a domain, and a domain is labels
joined by dots, or a literal in brackets. The words of the pattern for emails are just the texts
that are put together in this way, and none of them has a blank in it; so of the texts without
blanks around them the recognizer accepts the emails and no other.
-/

namespace Mailroom

namespace Address

namespace Grammar

/-- A label begins and ends with a letter or digit; underscores and hyphens may stand inside. -/
inductive Label : List Char → Prop
  | single {c : Char} (hc : Text.isAlphanumeric c = true) : Label [c]
  | between {first last : Char} {inner : List Char} (hfirst : Text.isAlphanumeric first = true)
      (hinner : ∀ c ∈ inner, Text.isAlphanumeric c = true ∨ c = '_' ∨ c = '-')
      (hlast : Text.isAlphanumeric last = true) : Label (first :: (inner ++ [last]))

/-- A domain is one or more labels with a dot between them, or a literal. -/
inductive Domain : List Char → Prop
  | name {labels : List (List Char)} (hsome : labels ≠ [])
      (hlabels : ∀ label ∈ labels, Label label) : Domain (['.'].intercalate labels)
  | literal {inner : List Char} (hsome : inner ≠ [])
      (hinner : ∀ c ∈ inner, c ∉ "[]\\".toList ∧ Text.isBlank c = false) :
      Domain ('[' :: (inner ++ [']']))

/-- An email is a local part, an at sign and a domain. -/
inductive Email : List Char → Prop
  | mk {before domain : List Char} (hsome : before ≠ [])
      (hlocal : ∀ c ∈ before, c ≠ '@' ∧ Text.isBlank c = false ∧ c ∉ "\"(),:;<>[\\]".toList)
      (hdomain : Domain domain) : Email (before ++ '@' :: domain)

end Grammar

open Grammar Text Text.Pattern

variable {s : List Char}

theorem isLocalCharacter_iff {c : Char} : isLocalCharacter c = true ↔
    c ≠ '@' ∧ Text.isBlank c = false ∧ c ∉ "\"(),:;<>[\\]".toList := by
  simp [isLocalCharacter, and_assoc]

theorem isLiteralCharacter_iff {c : Char} : isLiteralCharacter c = true ↔
    c ∉ "[]\\".toList ∧ Text.isBlank c = false := by
  simp [isLiteralCharacter, and_assoc]

theorem isInnerCharacter_iff {c : Char} : isInnerCharacter c = true ↔
    Text.isAlphanumeric c = true ∨ c = '_' ∨ c = '-' := by
  simp [isInnerCharacter, Text.isWordCharacter, or_assoc]

/-! ### The words of the patterns -/

theorem mem_words_label : s ∈ labelPattern.words ↔ Label s := by
  rw [labelPattern, mem_words_followedBy]
  constructor
  · rintro ⟨-, ⟨first, hfirst, rfl⟩, rest, hrest, rfl⟩
    rcases mem_words_optional.mp hrest with hrest | rfl
    · obtain ⟨inner, hinner, -, ⟨last, hlast, rfl⟩, rfl⟩ := mem_words_followedBy.mp hrest
      refine .between hfirst (fun c hc => ?_) hlast
      exact isInnerCharacter_iff.mp (mem_words_many_one.mp hinner c hc)
    · exact .single hfirst
  · intro h
    cases h with
    | @single c hc =>
        exact ⟨[c], ⟨c, hc, rfl⟩, [], mem_words_optional.mpr (.inr rfl), rfl⟩
    | @between first last inner hfirst hinner hlast =>
        refine ⟨[first], ⟨first, hfirst, rfl⟩, inner ++ [last], ?_, rfl⟩
        refine mem_words_optional.mpr (.inl (mem_words_followedBy.mpr ?_))
        refine ⟨inner, mem_words_many_one.mpr fun c hc => ?_, [last], ⟨last, hlast, rfl⟩, rfl⟩
        exact isInnerCharacter_iff.mpr (hinner c hc)

theorem intercalate_dots (first : List Char) (more : List (List Char)) :
    ['.'].intercalate (first :: more) = first ++ more.flatMap fun label => '.' :: label := by
  induction more generalizing first with
  | nil => simp
  | cons next rest ih =>
      rw [List.intercalate_cons_cons, ih, List.flatMap_cons, List.append_assoc]
      rfl

theorem mem_words_name : s ∈ namePattern.words ↔
    ∃ labels, labels ≠ [] ∧ (∀ label ∈ labels, Label label) ∧ s = ['.'].intercalate labels := by
  have hnext (u : List Char) : u ∈ (Pattern.followedBy (.character '.') labelPattern).words ↔
      ∃ label, Label label ∧ u = '.' :: label := by
    rw [mem_words_followedBy]
    simp only [mem_words_character, mem_words_label, exists_eq_left]
    exact exists_congr fun label => and_congr_right fun _ => eq_comm
  rw [namePattern, mem_words_followedBy]
  constructor
  · rintro ⟨first, hfirst, rest, hrest, rfl⟩
    obtain ⟨more, hmore, rfl⟩ := (mem_words_many hnext).mp hrest
    refine ⟨first :: more, nofun, ?_, (intercalate_dots first more).symm⟩
    exact List.forall_mem_cons.mpr ⟨mem_words_label.mp hfirst, hmore⟩
  · rintro ⟨labels, hsome, hlabels, rfl⟩
    obtain ⟨first, more, rfl⟩ := List.exists_cons_of_ne_nil hsome
    obtain ⟨hfirst, hmore⟩ := List.forall_mem_cons.mp hlabels
    rw [intercalate_dots]
    exact ⟨first, mem_words_label.mpr hfirst, _, (mem_words_many hnext).mpr ⟨more, hmore, rfl⟩, rfl⟩

theorem mem_words_literal : s ∈ literalPattern.words ↔
    ∃ inner, inner ≠ [] ∧ (∀ c ∈ inner, isLiteralCharacter c = true) ∧
      s = '[' :: (inner ++ [']']) := by
  rw [literalPattern, mem_words_followedBy]
  simp only [mem_words_character, exists_eq_left, mem_words_followedBy, mem_words_some_one]
  constructor
  · rintro ⟨-, ⟨inner, ⟨hsome, hinner⟩, rfl⟩, rfl⟩
    exact ⟨inner, hsome, hinner, rfl⟩
  · rintro ⟨inner, hsome, hinner, rfl⟩
    exact ⟨inner ++ [']'], ⟨inner, ⟨hsome, hinner⟩, rfl⟩, rfl⟩

theorem mem_words_domain : s ∈ (Pattern.either namePattern literalPattern).words ↔ Domain s := by
  rw [mem_words_either, mem_words_name, mem_words_literal]
  simp only [isLiteralCharacter_iff]
  constructor
  · rintro (⟨labels, hsome, hlabels, rfl⟩ | ⟨inner, hsome, hinner, rfl⟩)
    · exact .name hsome hlabels
    · exact .literal hsome hinner
  · intro h
    cases h with
    | name hsome hlabels => exact .inl ⟨_, hsome, hlabels, rfl⟩
    | literal hsome hinner => exact .inr ⟨_, hsome, hinner, rfl⟩

theorem mem_words_email : s ∈ emailPattern.words ↔ Email s := by
  rw [emailPattern, mem_words_followedBy]
  simp only [mem_words_some_one, mem_words_followedBy, mem_words_character, exists_eq_left,
    mem_words_domain, isLocalCharacter_iff]
  constructor
  · rintro ⟨before, ⟨hsome, hlocal⟩, -, ⟨domain, hdomain, rfl⟩, rfl⟩
    exact .mk hsome hlocal hdomain
  · rintro ⟨hsome, hlocal, hdomain⟩
    exact ⟨_, ⟨hsome, hlocal⟩, _, ⟨_, hdomain, rfl⟩, rfl⟩

/-- The recognizer accepts the emails of the grammar, and also one with a line feed at its end. -/
theorem isEmail_iff : isEmail s = true ↔ Email s ∨ ∃ email, Email email ∧ s = email ++ ['\n'] := by
  rw [isEmail, fits_iff]
  simp only [mem_words_email]

/-- Once the blanks around a text are gone, it is accepted just if it is an email. -/
theorem isEmail_strip_iff (given : String) :
    isEmail (Text.strip given).toList = true ↔ Email (Text.strip given).toList := by
  rw [isEmail_iff]
  refine or_iff_left ?_
  rintro ⟨email, -, hend⟩
  exact Text.strip_ne_append (by decide) hend

/-! ### Characters -/

/-- All characters of a label are such as may stand inside. -/
theorem Grammar.Label.forall_mem (h : Label s) :
    ∀ c ∈ s, Text.isAlphanumeric c = true ∨ c = '_' ∨ c = '-' := by
  cases h with
  | single hc => exact List.forall_mem_singleton.mpr (.inl hc)
  | between hfirst hinner hlast =>
      refine List.forall_mem_cons.mpr ⟨.inl hfirst, List.forall_mem_append.mpr ⟨hinner, ?_⟩⟩
      exact List.forall_mem_singleton.mpr (.inl hlast)

theorem Grammar.Label.unblank (h : Label s) : ∀ c ∈ s, Text.isBlank c = false := by
  intro c hc
  obtain hletter | rfl | rfl := h.forall_mem c hc
  · by_contra hblank
    rw [Text.isAlphanumeric_of_isBlank (Bool.of_not_eq_false hblank)] at hletter
    cases hletter
  · rfl
  · rfl

theorem Grammar.Domain.unblank (h : Domain s) : ∀ c ∈ s, Text.isBlank c = false := by
  cases h with
  | name hsome hlabels =>
      have hdot : ∀ c ∈ ['.'], Text.isBlank c = false := List.forall_mem_singleton.mpr rfl
      exact (forall_mem_intercalate hdot).mpr fun label hlabel => (hlabels label hlabel).unblank
  | literal hsome hinner =>
      refine List.forall_mem_cons.mpr ⟨rfl, List.forall_mem_append.mpr ⟨?_, ?_⟩⟩
      · exact fun c hc => (hinner c hc).2
      · exact List.forall_mem_singleton.mpr rfl

theorem Grammar.Email.ne_nil (h : Email s) : s ≠ [] := by
  cases h with
  | mk => simp

/-- There is no blank in an email. -/
theorem Grammar.Email.unblank (h : Email s) : ∀ c ∈ s, Text.isBlank c = false := by
  cases h with
  | mk hsome hlocal hdomain =>
      refine List.forall_mem_append.mpr ⟨fun c hc => (hlocal c hc).2.1, ?_⟩
      exact List.forall_mem_cons.mpr ⟨rfl, hdomain.unblank⟩

end Address

end Mailroom
