import Mathlib.Data.List.Induction
import Mailroom.Proofs.Builder.Replay
import Mailroom.Proofs.Entries
import Mailroom.Proofs.Header.Field
import Mailroom.Proofs.Message.Checks

/-!
What is in a builder has passed its check. Whatever is done with a builder, its headers passed the
header check and its sender the address check, and so did everyone in its lists, if the addresses
that were handed in ready-made did.
-/

namespace Mailroom

namespace Builder

variable {τ : Type} {call : Call} {change : Change} {b : Builder}

/-- Addresses that a call gets ready-made passed the check. -/
def Call.GivesValid : Call → Prop
  | .addRecipients _ entries => ∀ entry ∈ entries, entry.IsValidEntry
  | .setRecipients _ entries => ∀ batch, Recipients.batch entries = .ok batch →
      ∀ entry ∈ batch, entry.IsValidEntry
  | _ => True

/-- What a change brings passed its check, a batch if what it was made of did. -/
def Change.Passed (given : Prop) : Change → Prop
  | .sender a => a.IsValid
  | .append _ batch | .replace _ batch => given → ∀ a ∈ batch, a.IsValid
  | .write headers => ∀ header ∈ headers, Header.Passes header.1 header.2
  | _ => True

theorem isValid_of_mem_parsed {entries : List Value} {batch : List Address}
    (hentries : ∀ entry ∈ entries, entry.IsValidEntry)
    (h : entries.mapM Address.parse = .ok batch) : ∀ a ∈ batch, a.IsValid := by
  intro a ha
  obtain ⟨entry, hentry, hparse⟩ := mem_of_mapM_eq_ok h a ha
  exact Address.isValid_of_parse (hentries entry hentry) hparse

/-- One case for each call. -/
theorem passed_of_change? (h : call.change? = some (.ok change)) :
    change.Passed call.GivesValid := by
  cases call with
  | setSetting | setAccount | setSession | setSubject | setBody | setSentDate =>
      obtain rfl := Except.ok.inj (Option.some.inj h)
      trivial
  | setSender email personal =>
      obtain ⟨a, ha, rfl⟩ := exists_of_map_eq_ok (Option.some.inj h)
      exact Address.isValid_of_validate ha
  | addRecipients role entries =>
      obtain ⟨batch, hbatch, rfl⟩ := exists_of_map_eq_ok (Option.some.inj h)
      exact fun hgiven => isValid_of_mem_parsed hgiven hbatch
  | setRecipients role entries =>
      have hasked := Option.some.inj h
      cases hparsed : Recipients.parseAll Address.parse entries with
      | error e => simp [hparsed] at hasked
      | ok batch =>
          obtain ⟨given, hgiven, hparse⟩ := exists_of_bind_eq_ok hparsed
          cases batch with
          | nil => simp [hparsed] at hasked
          | cons a rest =>
              rw [hparsed] at hasked
              obtain rfl := Except.ok.inj hasked
              exact fun hvalid => isValid_of_mem_parsed (hvalid given hgiven) hparse
  | addHeader name value =>
      obtain ⟨header, hheader, rfl⟩ := exists_of_map_eq_ok (Option.some.inj h)
      exact List.forall_mem_singleton.mpr (Header.passes_of_check hheader)
  | setHeaders headers =>
      obtain ⟨checked, hchecked, rfl⟩ := exists_of_map_eq_ok (Option.some.inj h)
      obtain ⟨entries, -, hchecked⟩ := exists_of_bind_eq_ok hchecked
      exact Header.Store.passes_of_checkAll hchecked
  | getSession | getHost | getHeader | getSentDate | build => cases h

/-! ### Runs -/

theorem exists_of_mem_changesOf {calls : List Call} (h : change ∈ changesOf calls) :
    ∃ call ∈ calls, call.change? = some (.ok change) := by
  obtain ⟨call, hcall, hchange⟩ := List.mem_filterMap.mp h
  refine ⟨call, hcall, ?_⟩
  obtain ⟨asked, hasked, hok⟩ := Option.bind_eq_some_iff.mp hchange
  cases asked with
  | error e => cases hok
  | ok given =>
      obtain rfl := Option.some.inj hok
      exact hasked

/-- The addresses that a change puts into a list. -/
def Change.batch : Change → List Address
  | .append _ batch | .replace _ batch => batch
  | _ => []

theorem mem_batch_of_mem_listAfter {role : Role} {changes : List Change} {a : Address}
    (h : a ∈ listAfter role changes) : ∃ change ∈ changes, a ∈ change.batch := by
  induction changes using List.reverseRecOn with
  | nil => cases h
  | append_singleton changes change ih =>
      have hold (h : a ∈ listAfter role changes) :
          ∃ c ∈ changes ++ [change], a ∈ c.batch := by
        obtain ⟨c, hc, ha⟩ := ih h
        exact ⟨c, List.mem_append_left _ hc, ha⟩
      have hnew (ha : a ∈ change.batch) : ∃ c ∈ changes ++ [change], a ∈ c.batch :=
        ⟨change, List.mem_append_right _ (List.mem_singleton_self _), ha⟩
      rw [listAfter_concat] at h
      cases change with
      | append r batch =>
          by_cases hr : r = role
          · simp only [Change.edit?, hr, if_true] at h
            exact (List.mem_append.mp h).elim hold hnew
          · simp only [Change.edit?, hr, if_false] at h
            exact hold h
      | replace r batch =>
          by_cases hr : r = role
          · simp only [Change.edit?, hr, if_true] at h
            exact hnew h
          · simp only [Change.edit?, hr, if_false] at h
            exact hold h
      | _ => exact hold h

theorem mem_headers_of_mem_writes {changes : List Change} {header : String × String}
    (h : header ∈ writes changes) :
    ∃ headers, .write headers ∈ changes ∧ header ∈ headers := by
  obtain ⟨headers, hheaders, hheader⟩ := List.mem_flatten.mp h
  obtain ⟨change, hchange, hread⟩ := List.mem_filterMap.mp hheaders
  cases change with
  | write given =>
      obtain rfl := Option.some.inj hread
      exact ⟨given, hchange, hheader⟩
  | _ => cases hread

/-- The parts of a builder passed their checks, its lists if what they were made of did. -/
structure IsChecked (given : Prop) (b : Builder) : Prop where
  headers : ∀ header ∈ b.headers.items, Header.Passes header.1 header.2
  sender : ∀ a, b.sender = some a → a.IsValid
  lists : given → ∀ role, ∀ a ∈ b.recipients.list role, a.IsValid

theorem Reflects.isChecked {c : Settings} {calls : List Call}
    (h : Reflects c (changesOf calls) b) : b.IsChecked (∀ call ∈ calls, call.GivesValid) where
  headers header hheader := by
    rw [h.headers] at hheader
    obtain hold | hwritten := Entries.mem_putAll hheader
    · cases hold
    · obtain ⟨headers, hchange, hmem⟩ := mem_headers_of_mem_writes hwritten
      obtain ⟨call, -, hasked⟩ := exists_of_mem_changesOf hchange
      exact passed_of_change? hasked header hmem
  sender a ha := by
    rw [h.sender] at ha
    obtain ⟨change, hchange, hread⟩ := List.mem_filterMap.mp (List.mem_of_getLast? ha)
    cases change with
    | sender given =>
        obtain rfl := Option.some.inj hread
        obtain ⟨call, -, hasked⟩ := exists_of_mem_changesOf hchange
        exact passed_of_change? hasked
    | _ => cases hread
  lists hgiven role a ha := by
    rw [h.list] at ha
    obtain ⟨change, hchange, hbatch⟩ := mem_batch_of_mem_listAfter ha
    obtain ⟨call, hcall, hasked⟩ := exists_of_mem_changesOf hchange
    have hpassed := passed_of_change? hasked
    cases change with
    | append r batch => exact hpassed (hgiven call hcall) a hbatch
    | replace r batch => exact hpassed (hgiven call hcall) a hbatch
    | _ => cases hbatch

/-- In every run that leaves the builder open. -/
theorem isChecked_follow (c : Settings) (steps : List (Step τ)) (t : τ)
    (hopen : (follow steps (ofSettings c, t)).1.progress ≠ .built) :
    (follow steps (ofSettings c, t)).1.IsChecked (∀ call ∈ calls steps, call.GivesValid) :=
  Reflects.isChecked ((reflects_ofSettings c).follow steps hopen)

end Builder

end Mailroom
