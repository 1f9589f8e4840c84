import Mailroom.Proofs.Entries
import Mailroom.Proofs.Header.Field

/-!
What is in a header store, whatever is done with it. The store holds what was written since it was
emptied last, and nothing that the check did not let through; a call that is refused leaves it as
it was.
-/

namespace Mailroom.Header.Store

open Mailroom.Action

/-- What can be done with a store. -/
inductive Call
  | set (name value : Value)
  | update (headers : Value)
  | clear

def Call.act : Call → Action Store Unit
  | .set name value => Store.set name value
  | .update headers => Store.update headers
  | .clear => Store.clear

/-- The store after the calls, some of which may have been refused. -/
def follow : List Call → Store → Store
  | [], s => s
  | call :: rest, s => follow rest (call.act.run s).state

/-- The headers that were written since the store was emptied last, after one more call; a call that
is refused writes nothing. -/
def Call.extend (before : List (String × String)) : Call → List (String × String)
  | .set name value => before ++ (check name value).toOption.toList
  | .update headers => before ++ (headers.toEntries >>= checkAll).toOption.getD []
  | .clear => []

def written (calls : List Call) : List (String × String) := calls.foldl Call.extend []

variable {call : Call} {s : Store} {before : List (String × String)} {header : String × String}
  {e : Fault}

/-! ### One call -/

theorem run_act_of_error (h : (call.act.run s).result = .error e) : (call.act.run s).state = s := by
  cases call with
  | set name value =>
      cases hcheck : check name value with
      | error fault => exact congrArg Outcome.state (run_set_of_error hcheck s)
      | ok header =>
          have hrun : ((Call.set name value).act.run s).result = .ok () :=
            congrArg Outcome.result (run_set_of_ok hcheck s)
          rw [hrun] at h
          cases h
  | update headers =>
      have hrun := run_update headers s
      cases hchecked : headers.toEntries >>= checkAll with
      | error fault =>
          rw [hchecked] at hrun
          exact congrArg Outcome.state hrun
      | ok checked =>
          rw [hchecked] at hrun
          rw [show (Call.update headers).act.run s = _ from hrun] at h
          cases h
  | clear => cases h

/-- The headers that a call writes go on top of those that were written before. -/
theorem items_act (h : s.items = Entries.putAll (· == ·) [] before) :
    (call.act.run s).state.items = Entries.putAll (· == ·) [] (call.extend before) := by
  cases call with
  | set name value =>
      rw [Call.extend, Entries.putAll_append, ← h]
      cases hcheck : check name value with
      | error fault => exact congrArg (items ∘ Outcome.state) (run_set_of_error hcheck s)
      | ok header => exact congrArg (items ∘ Outcome.state) (run_set_of_ok hcheck s)
  | update headers =>
      have hrun := congrArg (items ∘ Outcome.state) (run_update headers s)
      rw [Call.extend, Entries.putAll_append, ← h]
      cases hchecked : headers.toEntries >>= checkAll <;> rw [hchecked] at hrun <;> exact hrun
  | clear => rfl

theorem passes_of_mem_extend (hbefore : ∀ header ∈ before, Passes header.1 header.2) :
    ∀ header ∈ call.extend before, Passes header.1 header.2 := by
  cases call with
  | set name value =>
      refine List.forall_mem_append.mpr ⟨hbefore, ?_⟩
      cases hcheck : check name value with
      | error fault => nofun
      | ok header => exact List.forall_mem_singleton.mpr (passes_of_check hcheck)
  | update headers =>
      refine List.forall_mem_append.mpr ⟨hbefore, ?_⟩
      cases hchecked : headers.toEntries >>= checkAll with
      | error fault => nofun
      | ok checked =>
          obtain ⟨entries, -, hall⟩ := exists_of_bind_eq_ok hchecked
          exact passes_of_checkAll hall
  | clear => nofun

/-! ### All calls -/

theorem follow_concat (calls : List Call) (call : Call) (s : Store) :
    follow (calls ++ [call]) s = (call.act.run (follow calls s)).state := by
  induction calls generalizing s with
  | nil => rfl
  | cons first rest ih => exact ih (first.act.run s).state

theorem written_concat (calls : List Call) (call : Call) :
    written (calls ++ [call]) = call.extend (written calls) := by
  rw [written, List.foldl_concat]
  rfl

/-- A store is what the accepted calls wrote, one header after the other. -/
theorem items_follow (calls : List Call) :
    (follow calls empty).items = Entries.putAll (· == ·) [] (written calls) := by
  induction calls using List.reverseRecOn with
  | nil => rfl
  | append_singleton calls call ih =>
      rw [follow_concat, written_concat]
      exact items_act ih

theorem passes_of_mem_written (calls : List Call) :
    ∀ header ∈ written calls, Passes header.1 header.2 := by
  induction calls using List.reverseRecOn with
  | nil => nofun
  | append_singleton calls call ih =>
      rw [written_concat]
      exact passes_of_mem_extend ih

/-- What a store may hold: the name is a field name, but for a line feed that may end it, and spells
the blind copy list in no way; the value is filled and on one line. -/
structure IsStorable (name value : String) : Prop where
  named : ∃ core, IsFieldName core ∧ (name.toList = core ∨ name.toList = core ++ ['\n'])
  free : name.toList.map Char.toLower ≠ "bcc".toList
  filled : Text.IsFilledLine value.toList

theorem isStorable_of_passes {name value : String} (h : Passes name value) :
    IsStorable name value where
  named := isName_iff.mp h.isName
  free := mt (isReserved_iff h.isName).mpr (Bool.eq_false_iff.mp h.isFree)
  filled := Text.isFilledLine_iff.mpr ⟨h.filled, h.unbroken⟩

theorem IsStorable.isFieldName_iff {name value : String} (h : IsStorable name value) :
    IsFieldName name.toList ↔ name.toList.getLast? ≠ some '\n' := by
  refine ⟨IsFieldName.getLast_ne, fun hlast => ?_⟩
  obtain ⟨core, hcore, hname | hname⟩ := h.named
  · exact hname ▸ hcore
  · exact absurd (hname ▸ List.getLast?_concat) hlast

theorem isStorable_of_mem_follow (calls : List Call) :
    ∀ header ∈ (follow calls empty).items, IsStorable header.1 header.2 := by
  intro header hheader
  rw [items_follow] at hheader
  obtain hnone | hwritten := Entries.mem_putAll hheader
  · cases hnone
  · exact isStorable_of_passes (passes_of_mem_written calls header hwritten)

/-- The names in a store are those that were written. -/
theorem forall_name_follow_iff (calls : List Call) (P : String → Prop) :
    (∀ header ∈ (follow calls empty).items, P header.1) ↔ ∀ header ∈ written calls, P header.1 := by
  rw [items_follow]
  constructor
  · intro h header hheader
    have hname : header.1 ∈ (Entries.putAll (· == ·) [] (written calls)).map Prod.fst :=
      Entries.mem_keys_putAll.mpr (.inr (List.mem_map_of_mem hheader))
    obtain ⟨stored, hstored, hsame⟩ := List.mem_map.mp hname
    exact hsame ▸ h stored hstored
  · intro h header hheader
    exact (Entries.mem_putAll hheader).elim nofun (h header)

/-- Whatever is done with a store, refused calls included, it holds only what it may hold, each name
once, and a refused call leaves it as it was. Its names are all field names just if none that was
written since it was emptied last ends in a line feed. -/
theorem stored_headers_sound (calls : List Call) :
    (∀ header ∈ (follow calls empty).items, IsStorable header.1 header.2) ∧
    (follow calls empty).names.Nodup ∧
    (∀ (call : Call) e, (call.act.run (follow calls empty)).result = .error e →
      (call.act.run (follow calls empty)).state = follow calls empty) ∧
    ((∀ header ∈ (follow calls empty).items, IsFieldName header.1.toList) ↔
      ∀ header ∈ written calls, header.1.toList.getLast? ≠ some '\n') := by
  refine ⟨isStorable_of_mem_follow calls, ?_, fun call e => run_act_of_error, ?_⟩
  · rw [names, items_follow]
    exact Entries.nodup_putAll List.nodup_nil
  · calc (∀ header ∈ (follow calls empty).items, IsFieldName header.1.toList)
        ↔ ∀ header ∈ (follow calls empty).items, header.1.toList.getLast? ≠ some '\n' :=
          forall₂_congr fun header hheader =>
            (isStorable_of_mem_follow calls header hheader).isFieldName_iff
      _ ↔ ∀ header ∈ written calls, header.1.toList.getLast? ≠ some '\n' :=
          forall_name_follow_iff calls fun name => name.toList.getLast? ≠ some '\n'

/-- The check lets a line feed through that ends a name. -/
theorem name_with_line_feed_stored :
    ¬∀ calls, ∀ header ∈ (follow calls empty).items, IsFieldName header.1.toList := by
  intro h
  have hstored : (follow [.set (.text "X-A\n") (.text "v")] empty).items = [("X-A\n", "v")] := by
    decide +kernel
  have hname := h [.set (.text "X-A\n") (.text "v")] ("X-A\n", "v") (by rw [hstored]; simp)
  exact hname.getLast_ne rfl

end Mailroom.Header.Store
