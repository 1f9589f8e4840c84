import Mailroom.Sorting
import Mailroom.Value

/-!
The order of values. Numbers of all kinds compare with each other, any other value only with one of
its own kind: texts by their characters, octets by their numbers, sequences by the first item in
which they differ, moments by the clock. All other comparisons are faults.
-/

namespace Mailroom.Value

/-- A number as `Number.Double.scaled` gives it. -/
def scaled? : Value → Option (Int × Int × Int)
  | float x => some x.scaled
  | v => v.asInt?.map fun n => (0, n, 0)

def notComparable (v w : Value) : Except Fault Bool :=
  .error (.kind (.notComparable v.kind w.kind))

/-- A clock with an offset cannot be compared with one without. -/
def momentBefore (a b : Moment) : Except Fault Bool :=
  if a.offset.isSome == b.offset.isSome then .ok (a.instant < b.instant)
  else .error (.kind .mixedOffsets)

mutual

/-- Whether one value comes strictly before another. -/
def before (v w : Value) : Except Fault Bool :=
  match v, w with
  | text s, text t => .ok (s < t)
  | bytes a, bytes b => .ok (a.map UInt8.toNat < b.map UInt8.toNat)
  | list a, list b | tuple a, tuple b => itemsBefore a b
  | moment a, moment b => momentBefore a b
  | _, _ =>
      match v.scaled?, w.scaled? with
      | some x, some y => .ok (Number.scaledBefore x y)
      | _, _ => notComparable v w

/-- Whether one sequence comes before another; a sequence comes before those that it begins. -/
def itemsBefore : List Value → List Value → Except Fault Bool
  | _, [] => .ok false
  | [], _ :: _ => .ok true
  | v :: s, w :: t => if same v w then itemsBefore s t else before v w

end

/-- Entries in the order of their keys. -/
def sortEntries (entries : List (Value × Value)) : Except Fault (List (Value × Value)) :=
  Sorting.sort (fun a b => before a.1 b.1) entries

end Mailroom.Value
