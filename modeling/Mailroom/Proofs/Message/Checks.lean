import Mailroom.Proofs.Address.Validation
import Mailroom.Recipients

/-!
What the address check lets through: the form of an email, and a personal name that stays on one
line.
-/

namespace Mailroom

/-- A domain name is made of these. -/
def Address.isDomainCharacter (c : Char) : Bool :=
  c == '.' || Text.isWordCharacter c || c == '-'

/-- How an email is put together: the domain after the at sign is a name, or a literal in
brackets. -/
inductive Address.EmailForm : List Char → Prop
  | named {before domain : List Char} (hlocal : ∀ c ∈ before, isLocalCharacter c = true)
      (hdomain : ∀ c ∈ domain, isDomainCharacter c = true) :
      EmailForm (before ++ '@' :: domain)
  | literal {before inner : List Char} (hlocal : ∀ c ∈ before, isLocalCharacter c = true)
      (hinner : ∀ c ∈ inner, isLiteralCharacter c = true) :
      EmailForm (before ++ '@' :: '[' :: (inner ++ [']']))

theorem Address.isDomainCharacter_of_labels {labels : List (List Char)}
    (hlabels : ∀ label ∈ labels, Grammar.Label label) :
    ∀ c ∈ ['.'].intercalate labels, isDomainCharacter c = true := by
  have hdot : ∀ c ∈ ['.'], isDomainCharacter c = true := List.forall_mem_singleton.mpr rfl
  refine (forall_mem_intercalate hdot).mpr fun label hlabel c hc => ?_
  have hinner := isInnerCharacter_iff.mpr ((hlabels label hlabel).forall_mem c hc)
  rw [isInnerCharacter] at hinner
  rw [isDomainCharacter, Bool.or_assoc, hinner, Bool.or_true]

theorem Address.Grammar.Email.form {s : List Char} (h : Email s) : EmailForm s := by
  obtain ⟨-, hlocal, hdomain⟩ := h
  have hlocal := fun c hc => isLocalCharacter_iff.mpr (hlocal c hc)
  cases hdomain with
  | name hsome hlabels => exact .named hlocal (isDomainCharacter_of_labels hlabels)
  | literal hsome hinner =>
      exact .literal hlocal fun c hc => isLiteralCharacter_iff.mpr (hinner c hc)

/-- What the address check lets through. -/
structure Address.IsValid (a : Address) : Prop where
  email : Grammar.Email a.email.toList
  personal : ∀ name ∈ a.personal, Text.hasLineEnd name.toList = false

/-- A personal name that passed the check is not blank and stays on one line. -/
theorem Address.of_checkPersonal {email : String} {personal : Value} {found : Option String}
    (h : checkPersonal email personal = .ok found) :
    ∀ name ∈ found, Text.allBlank name.toList = false ∧ Text.hasLineEnd name.toList = false :=
  fun name hname => Text.isFilledLine_iff.mp ((checkPersonal_eq_ok_iff.mp h).2 name hname)

/-- What passed the check is the text given, without the blanks around it, and a personal name that
passed its own. -/
theorem Address.of_validate {raw personal : Value} {a : Address}
    (h : validate raw personal = .ok a) :
    Grammar.Email a.email.toList ∧ checkPersonal a.email personal = .ok a.personal := by
  have hmade := validate_eq_ok_iff.mp h
  exact ⟨hmade.isEmail, checkPersonal_eq_ok_iff.mpr ⟨hmade.kept, hmade.isName⟩⟩

theorem Address.isValid_of_validate {raw personal : Value} {a : Address}
    (h : validate raw personal = .ok a) : a.IsValid := by
  obtain ⟨hemail, hpersonal⟩ := of_validate h
  exact ⟨hemail, fun name hname => (of_checkPersonal hpersonal name hname).2⟩

/-- An entry of a batch that is an address already passed the check. -/
def Value.IsValidEntry : Value → Prop
  | .address a => a.IsValid
  | _ => True

theorem Address.isValid_of_parsePair {entry : Value} {items : List Value} {a : Address}
    (h : parsePair entry items = .ok a) : a.IsValid := by
  unfold parsePair at h
  split at h
  · exact isValid_of_validate h
  · split at h <;> cases h

theorem Address.isValid_of_parse {entry : Value} {a : Address} (hentry : entry.IsValidEntry)
    (h : parse entry = .ok a) : a.IsValid := by
  unfold parse at h
  split at h
  · obtain rfl := Except.ok.inj h
    exact hentry
  · exact isValid_of_parsePair h
  · exact isValid_of_parsePair h
  · exact isValid_of_validate h

end Mailroom
