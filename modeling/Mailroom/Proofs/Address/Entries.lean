import Mathlib.Data.List.Forall2
import Mailroom.Proofs.Address.Validation
import Mailroom.Proofs.Builder.Calls
import Mailroom.Recipients

/-!
Entries of recipient batches. An entry gives an address just if it is one, or an email or a pair
that the address check takes. A batch is taken as a whole or refused for its first bad entry, with
all lists as they were. The refusal is about the address unless what it has to show of the entry
cannot be shown.
-/

namespace Mailroom

namespace Address

/-- The address that an entry gives. -/
inductive IsTaken : Value → Address → Prop
  | ready (a : Address) : IsTaken (.address a) a
  | email {given : String} {a : Address} (h : IsMadeOf (.text given) .nothing a) :
      IsTaken (.text given) a
  | list {email personal : Value} {a : Address} (h : IsMadeOf email personal a) :
      IsTaken (.list [email, personal]) a
  | tuple {email personal : Value} {a : Address} (h : IsMadeOf email personal a) :
      IsTaken (.tuple [email, personal]) a

/-- What a refusal of a sequence shows: the email of a pair, and else the whole entry. -/
def questionedOf (entry : Value) : List Value → Value
  | [email, _] => email
  | _ => entry

/-- What a refusal of an entry shows, if it is not the personal name that is refused. -/
def questioned (entry : Value) : Value :=
  match entry with
  | .list items => questionedOf entry items
  | .tuple items => questionedOf entry items
  | _ => entry

variable {entry : Value} {items : List Value} {a : Address} {e : Fault}

theorem exists_of_parsePair (h : parsePair entry items = .ok a) :
    ∃ email personal, items = [email, personal] ∧ IsMadeOf email personal a := by
  unfold parsePair at h
  split at h
  · rename_i email personal
    exact ⟨email, personal, rfl, validate_eq_ok_iff.mp h⟩
  · split at h <;> cases h

theorem parse_eq_ok_iff : parse entry = .ok a ↔ IsTaken entry a := by
  constructor
  · intro h
    unfold parse at h
    split at h
    · obtain rfl := Except.ok.inj h
      exact .ready _
    · obtain ⟨email, personal, rfl, hmade⟩ := exists_of_parsePair h
      exact .list hmade
    · obtain ⟨email, personal, rfl, hmade⟩ := exists_of_parsePair h
      exact .tuple hmade
    · have hmade := validate_eq_ok_iff.mp h
      obtain ⟨given, rfl, -⟩ := hmade.stripped
      exact .email hmade
  · intro h
    cases h with
    | ready => rfl
    | email hmade | list hmade | tuple hmade => exact validate_eq_ok_iff.mpr hmade

theorem fault_of_parsePair (hdepth : (questionedOf entry items).depth ≤ Value.depthLimit)
    (h : parsePair entry items = .error e) :
    (∃ cause, e = .address cause) ↔ (questionedOf entry items).IsWritable := by
  rcases items with _ | ⟨email, _ | ⟨personal, _ | ⟨third, more⟩⟩⟩
  · exact fault_of_shown hdepth h
  · exact fault_of_shown hdepth h
  · exact fault_of_validate hdepth h
  · exact fault_of_shown hdepth h

theorem fault_of_parse (hdepth : (questioned entry).depth ≤ Value.depthLimit)
    (h : parse entry = .error e) :
    (∃ cause, e = .address cause) ↔ (questioned entry).IsWritable := by
  cases entry with
  | address => cases h
  | list | tuple => exact fault_of_parsePair hdepth h
  | _ => exact @fault_of_validate _ .nothing e hdepth h

/-- A list of entries gives the addresses of them all, or is refused for its first bad one. -/
theorem parse_entries_cases (entries : List Value) :
    (∃ batch, entries.mapM parse = .ok batch ∧ List.Forall₂ IsTaken entries batch) ∨
      ∃ before entry after e, entries = before ++ entry :: after ∧
        (∀ earlier ∈ before, ∃ a, IsTaken earlier a) ∧ parse entry = .error e ∧
        entries.mapM parse = .error e := by
  induction entries with
  | nil => exact .inl ⟨[], rfl, .nil⟩
  | cons first rest ih =>
      rw [List.mapM_cons]
      cases hfirst : parse first with
      | error e => exact .inr ⟨[], first, rest, e, rfl, nofun, hfirst, rfl⟩
      | ok a =>
          have htaken := parse_eq_ok_iff.mp hfirst
          obtain ⟨batch, hbatch, hall⟩ |
            ⟨before, entry, after, e, rfl, hbefore, hentry, hrest⟩ := ih
          · rw [hbatch]
            exact .inl ⟨a :: batch, rfl, .cons htaken hall⟩
          · rw [hrest]
            refine .inr ⟨first :: before, entry, after, e, rfl, ?_, hentry, rfl⟩
            exact List.forall_mem_cons.mpr ⟨⟨a, htaken⟩, hbefore⟩

end Address

namespace Recipients

open Mailroom.Action Address

/-- How an operation ends that makes this change, or is refused and leaves all as it was. -/
def ending {σ α : Type} (answer : α) (change : Except Fault (σ → σ)) (s : σ) : Outcome σ α :=
  match change with
  | .ok f => ⟨.ok answer, f s, []⟩
  | .error e => ⟨.error e, s, []⟩

/-- An operation on the lists and the call of a builder that is for it make the same edit of the
lists, or are refused for the same fault, the builder as long as it is not built. -/
structure EndsIn (x : Action (Recipients Address) Unit) (call : Builder.Call)
    (edit : Except Fault (Recipients Address → Recipients Address)) : Prop where
  lists (r : Recipients Address) : x.run r = ending () edit r
  builder (rules : Rules) (b : Builder) (hopen : b.progress ≠ .built) :
    (Builder.perform rules call).run b = ending (.value .nothing)
      (edit.map fun f b => { b with recipients := f b.recipients, progress := .configured }) b

theorem ofValue_name (role : Role) : Role.ofValue (.text role.name) = .ok role := by
  cases role <;> rfl

theorem parseAll_list (entries : List Value) :
    parseAll parse (.list entries) = entries.mapM parse := rfl

theorem endsIn_add (role : Role) (entries : List Value) :
    EndsIn (addNamed parse (.text role.name) (.list entries)) (.addRecipients role entries)
      ((entries.mapM parse).map fun batch r => r.setList role (r.list role ++ batch)) where
  lists r := by
    have hrole : ((ofExcept (Role.ofValue (.text role.name))).run r).result = .ok role :=
      ofValue_name role
    rw [addNamed, run_bind_ok hrole, ← parseAll_list]
    cases h : parseAll parse (.list entries) with
    | error e => exact run_add_of_error h role r
    | ok batch => exact run_add_of_ok h role r
  builder rules b hopen := by
    rw [Builder.run_perform_of_open hopen rules rfl]
    cases entries.mapM parse <;> rfl

theorem endsIn_set (role : Role) (entries : List Value) :
    EndsIn (setNamed parse (.text role.name) (.list entries)) (.setRecipients role (.list entries))
      (entries.mapM parse >>= fun batch =>
        if batch.isEmpty then .error (.address (.emptyList role.name))
        else .ok (setList role batch)) where
  lists r := by
    have hrole : ((ofExcept (Role.ofValue (.text role.name))).run r).result = .ok role :=
      ofValue_name role
    rw [setNamed, run_bind_ok hrole, ← parseAll_list]
    cases h : parseAll parse (.list entries) with
    | error e => exact run_set_of_error h role r
    | ok batch =>
        cases batch with
        | nil => exact run_set_of_nil h role r
        | cons a rest => exact run_set_of_cons h role r
  builder rules b hopen := by
    rw [Builder.run_perform_of_open hopen rules rfl, parseAll_list]
    rcases entries.mapM parse with e | (_ | ⟨a, rest⟩) <;> rfl

/-- An entry gives an address just if it is one, an email or a pair that the check takes. A list of
entries for a role is taken as a whole, and gives the addresses of its entries in order, or it is
refused for its first bad entry with the lists as they were; and unless that lies too deep, it is a
fault of the address just if what is shown of the entry can be shown. -/
theorem entries_taken_or_refused (role : Role) (entries : List Value) :
    (∀ entry a, parse entry = .ok a ↔ IsTaken entry a) ∧
    (∀ entry e, parse entry = .error e → (questioned entry).depth ≤ Value.depthLimit →
      ((∃ cause, e = .address cause) ↔ (questioned entry).IsWritable)) ∧
    ((∃ batch, List.Forall₂ IsTaken entries batch ∧
        EndsIn (addNamed parse (.text role.name) (.list entries)) (.addRecipients role entries)
          (.ok fun r => r.setList role (r.list role ++ batch)) ∧
        EndsIn (setNamed parse (.text role.name) (.list entries))
          (.setRecipients role (.list entries))
          (if batch.isEmpty then .error (.address (.emptyList role.name))
            else .ok (setList role batch))) ∨
      ∃ before entry after e, entries = before ++ entry :: after ∧
        (∀ earlier ∈ before, ∃ a, IsTaken earlier a) ∧ parse entry = .error e ∧
        EndsIn (addNamed parse (.text role.name) (.list entries)) (.addRecipients role entries)
          (.error e) ∧
        EndsIn (setNamed parse (.text role.name) (.list entries))
          (.setRecipients role (.list entries)) (.error e)) := by
  refine ⟨fun _ _ => parse_eq_ok_iff, fun _ _ h hdepth => fault_of_parse hdepth h, ?_⟩
  have hadd := endsIn_add role entries
  have hset := endsIn_set role entries
  obtain ⟨batch, hbatch, htaken⟩ | ⟨before, entry, after, e, hsplit, hbefore, hentry, hrefused⟩ :=
    parse_entries_cases entries
  · rw [hbatch] at hadd hset
    exact .inl ⟨batch, htaken, hadd, hset⟩
  · rw [hrefused] at hadd hset
    exact .inr ⟨before, entry, after, e, hsplit, hbefore, hentry, hadd, hset⟩

/-- A list of one address is no pair. The address passed the check, and yet it cannot be shown. -/
theorem lone_foreign_address_not_shown :
    ¬∀ (entry : Value) (e : Fault),
      (∀ a, .address a ∈ entry.leaves → ∃ raw personal, validate raw personal = .ok a) →
      parse entry = .error e → ∃ cause, e = .address cause := by
  intro h
  have hchecked : ∀ a, .address a ∈ (Value.list [.address ⟨"é@b.c", none⟩]).leaves →
      ∃ raw personal, validate raw personal = .ok a := by
    intro a ha
    obtain rfl := Value.address.inj (List.mem_singleton.mp ha)
    exact ⟨.text "é@b.c", .nothing, by rfl⟩
  have hrefused : parse (.list [.address ⟨"é@b.c", none⟩]) =
      .error (.encoding ⟨"ascii", .beyond 128, 0xE9, 0, 1⟩) := by rfl
  obtain ⟨cause, hcause⟩ := h _ _ hchecked hrefused
  cases hcause

end Recipients

end Mailroom
