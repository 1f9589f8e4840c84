import Mailroom.Action
import Mailroom.Entries
import Mailroom.Header.Field

/-!
The extra headers of a message that is being composed, in the order in which their names were first
set. Whatever is in the store has passed the header check. An update checks all its headers before
it writes the first one.
-/

namespace Mailroom.Header

structure Store where
  items : Entries String String
  deriving DecidableEq, Repr

namespace Store

def empty : Store := ⟨[]⟩

def put (name value : String) (s : Store) : Store := ⟨s.items.put (· == ·) name value⟩

def set (name value : Value) : Action Store Unit := do
  let (name, value) ← .ofExcept (check name value)
  .update (put name value)

def checkAll : Entries Value Value → Except Fault (List (String × String))
  | [] => .ok []
  | (name, value) :: rest => do return (← check name value) :: (← checkAll rest)

def update (headers : Value) : Action Store Unit := do
  let pairs ← .ofExcept headers.toEntries
  let checked ← .ofExcept (checkAll pairs)
  .update fun s => ⟨s.items.putAll (· == ·) checked⟩

theorem run_set_of_error {name value : Value} {e : Fault} (h : check name value = .error e)
    (s : Store) : (set name value).run s = ⟨.error e, s, []⟩ := by
  rw [set, Action.run_bind, Action.run_ofExcept, h]

theorem run_set_of_ok {name value : Value} {header : String × String}
    (h : check name value = .ok header) (s : Store) :
    (set name value).run s = ⟨.ok (), s.put header.1 header.2, []⟩ := by
  rw [set, Action.run_bind, Action.run_ofExcept, h]
  rfl

theorem run_update (headers : Value) (s : Store) :
    (update headers).run s =
      match headers.toEntries >>= checkAll with
      | .error e => ⟨.error e, s, []⟩
      | .ok checked => ⟨.ok (), ⟨s.items.putAll (· == ·) checked⟩, []⟩ := by
  rw [update, Action.run_bind, Action.run_ofExcept]
  cases headers.toEntries with
  | error e => rfl
  | ok entries =>
      rw [show Except.ok entries >>= checkAll = checkAll entries from rfl]
      dsimp only
      rw [Action.run_bind, Action.run_ofExcept]
      cases checkAll entries <;> rfl

def clear : Action Store Unit := .update fun _ => empty

def names (s : Store) : List String := s.items.map (·.1)

def size (s : Store) : Nat := s.items.length

/-- The value under a name; a value of another kind than text is no name. -/
def get? (s : Store) (name : Value) : Except Fault (Option String) := do
  name.requireKey
  return name.text?.bind fun key => s.items.find? (· == ·) key

end Store

end Mailroom.Header
