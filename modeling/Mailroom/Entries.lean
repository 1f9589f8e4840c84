import Mailroom.Value

/-!
Mappings in the order of their entries. Writing an entry under a key that is there keeps its place
and changes its value; a new key goes to the end.
-/

namespace Mailroom

/-- Keys and values in order. -/
abbrev Entries (κ β : Type) := List (κ × β)

namespace Entries

variable {κ β : Type}

/-- Writes `value` under `key`; `same` tells when two keys are one. The key that is there stays. -/
def put (same : κ → κ → Bool) (key : κ) (value : β) : Entries κ β → Entries κ β
  | [] => [(key, value)]
  | (k, v) :: rest => if same k key then (k, value) :: rest else (k, v) :: put same key value rest

def find? (same : κ → κ → Bool) (key : κ) (entries : Entries κ β) : Option β :=
  (List.find? (fun entry => same entry.1 key) entries).map (·.2)

/-- Writes the entries of the second list into the first, in order. -/
def putAll (same : κ → κ → Bool) (entries : Entries κ β) (more : List (κ × β)) : Entries κ β :=
  more.foldl (fun all entry => put same entry.1 entry.2 all) entries

/-- Writing under a key that is there keeps the keys; a new key goes to the end. -/
theorem map_fst_put (same : κ → κ → Bool) (key : κ) (value : β) (entries : Entries κ β) :
    (put same key value entries).map Prod.fst =
      if entries.any (fun entry => same entry.1 key) then entries.map Prod.fst
      else entries.map Prod.fst ++ [key] := by
  induction entries with
  | nil => rfl
  | cons entry rest ih =>
      cases h : same entry.1 key with
      | true => simp [put, h]
      | false =>
          have hput : put same key value (entry :: rest) = entry :: put same key value rest := by
            simp [put, h]
          rw [hput, List.map_cons, ih]
          by_cases hr : rest.any fun entry => same entry.1 key <;> simp [h, hr]

theorem find?_put [BEq κ] [LawfulBEq κ] (key k : κ) (value : β) (entries : Entries κ β) :
    (put (· == ·) key value entries).find? (· == ·) k =
      if key == k then some value else entries.find? (· == ·) k := by
  induction entries with
  | nil => by_cases h : key == k <;> simp [put, find?, h]
  | cons entry rest ih =>
      simp only [find?] at ih
      by_cases h : entry.1 == key
      · have he := eq_of_beq h
        by_cases hk : key == k <;> simp [put, find?, he, hk]
      · by_cases hk : entry.1 == k
        · have hne : ¬(key == k) = true := fun hkey =>
            h (by rw [eq_of_beq hk, eq_of_beq hkey]; exact beq_self_eq_true k)
          simp [put, find?, h, hk, hne]
        · simp [put, find?, h, hk, ih]

end Entries

namespace Value

/-- A value that is gone through to give a key and what stands under it. -/
def pairOf (index : Nat) (v : Value) : Except Fault (Value × Value) := do
  match v.elements with
  | .error _ => .error (.kind (.notASequence index))
  | .ok [key, value] =>
      key.requireKey
      return (key, value)
  | .ok items => .error (.value (.pairLength index items.length))

def pairsFrom (index : Nat) : List Value → Except Fault (List (Value × Value))
  | [] => .ok []
  | v :: rest => do return (← pairOf index v) :: (← pairsFrom (index + 1) rest)

/-- A value as a mapping: a table as it stands, anything else as a sequence of pairs, the last
value of a key winning at its first place. -/
def toEntries (v : Value) : Except Fault (Entries Value Value) :=
  match v with
  | table entries => .ok (entries.map fun entry => (text entry.1, entry.2))
  | _ => do
      let pairs ← pairsFrom 0 (← v.elements)
      return Entries.putAll same [] pairs

end Value

end Mailroom
