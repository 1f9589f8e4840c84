import Mailroom.Address
import Mailroom.Moment
import Mailroom.Number.Integer
import Mailroom.Number.Shortest

/-!
Loosely typed values. Settings, header values, recipients and bodies come in whatever kind the
caller has; this module says how such a value shows up in a text, when it counts as true, what it
yields when it is gone through, and which values may be keys of a mapping. Numbers with too many
digits and values nested too deep do not show up in any text.
-/

namespace Mailroom

inductive Value
  | nothing
  | bool (b : Bool)
  | int (n : Int)
  | float (x : Number.Double)
  | text (s : String)
  | bytes (bs : List UInt8)
  | list (items : List Value)
  | tuple (items : List Value)
  | table (entries : List (String × Value))
  | address (a : Address)
  | moment (t : Moment)

namespace Value

/-- The name of a value's kind. -/
def kind : Value → String
  | nothing => "NoneType"
  | bool _ => "bool"
  | int _ => "int"
  | float _ => "float"
  | text _ => "str"
  | bytes _ => "bytes"
  | list _ => "list"
  | tuple _ => "tuple"
  | table _ => "dict"
  | address _ => "Address"
  | moment _ => "datetime.datetime"

/-- Nothing, falsehood, zero and what is empty are false; all else is true. -/
def truth : Value → Bool
  | nothing => false
  | bool b => b
  | int n => n != 0
  | float x => !x.isZero
  | text s => !s.isEmpty
  | bytes bs => !bs.isEmpty
  | list items | tuple items => !items.isEmpty
  | table entries => !entries.isEmpty
  | address _ | moment _ => true

def isNothing : Value → Bool
  | nothing => true
  | _ => false

def text? : Value → Option String
  | text s => some s
  | _ => none

def isText (v : Value) : Bool := v.text?.isSome

def ofOption : Option String → Value
  | none => nothing
  | some s => text s

def commas : List String → String := ", ".intercalate

/-- The decimal text of a whole number. -/
def decimal (n : Int) : Except Fault String :=
  if Number.isShort n then .ok (toString n) else .error (.value .tooLongToWrite)

theorem isOk_decimal (n : Int) : (decimal n).isOk = Number.isShort n := by
  cases h : Number.isShort n <;> simp only [decimal, h] <;> rfl

/-- How deep lists, tuples and tables may lie in each other where a value is shown. Each of them
takes one of the thousand places of the call stack, of which a hundred are left to the callers. -/
def depthLimit : Nat := 900

/-- The room inside a list, tuple or table. -/
def roomWithin : Nat → Except Fault Nat
  | 0 => .error (.overflow .depth)
  | room + 1 => .ok room

mutual

/-- How a value shows up inside other texts, where there is room for so many lists, tuples and
tables in each other. An address whose email is not ASCII cannot be shown. -/
def shownIn (room : Nat) : Value → Except Fault String
  | nothing => .ok "None"
  | bool true => .ok "True"
  | bool false => .ok "False"
  | int n => decimal n
  | float x => .ok x.text
  | text s => .ok (Text.quoted s)
  | bytes bs => .ok (Text.quotedBytes bs)
  | list items => do return "[" ++ commas (← shownItems (← roomWithin room) items) ++ "]"
  | tuple items => do
      match ← shownItems (← roomWithin room) items with
      | [one] => return "(" ++ one ++ ",)"
      | all => return "(" ++ commas all ++ ")"
  | table entries => do
      return "\x7b" ++ commas (← shownEntries (← roomWithin room) entries) ++ "\x7d"
  | address a => a.shown
  | moment t => .ok t.shown

def shownItems (room : Nat) : List Value → Except Fault (List String)
  | [] => .ok []
  | v :: rest => do return (← shownIn room v) :: (← shownItems room rest)

def shownEntries (room : Nat) : List (String × Value) → Except Fault (List String)
  | [] => .ok []
  | (key, v) :: rest => do
      return (Text.quoted key ++ ": " ++ (← shownIn room v)) :: (← shownEntries room rest)

end

/-- How a value shows up inside other texts. -/
def shown (v : Value) : Except Fault String := v.shownIn depthLimit

/-- A value as running text: texts, addresses and moments stand there plainly. -/
def plain : Value → Except Fault String
  | text s => .ok s
  | address a => a.text
  | moment t => .ok (t.isoText " ")
  | v => v.shown

/-- What going through a value yields, one after the other. -/
def elements : Value → Except Fault (List Value)
  | list items | tuple items => .ok items
  | text s => .ok (s.toList.map fun c => text (String.ofList [c]))
  | bytes bs => .ok (bs.map fun b => int b.toNat)
  | table entries => .ok (entries.map fun entry => text entry.1)
  | v => .error (.kind (.notIterable v.kind))

mutual

/-- The kind of the part that keeps a value from being a key: lists and tables are no keys, nor
are tuples that hold one. -/
def unhashablePart? : Value → Option String
  | list _ => some "list"
  | table _ => some "dict"
  | tuple items => unhashableItem? items
  | _ => none

def unhashableItem? : List Value → Option String
  | [] => none
  | v :: rest => (unhashablePart? v).orElse fun _ => unhashableItem? rest

end

def requireKey (v : Value) : Except Fault Unit :=
  match v.unhashablePart? with
  | none => .ok ()
  | some kind => .error (.kind (.notHashable kind))

/-- A truth value counts as a number. -/
def asInt? : Value → Option Int
  | bool b => some (if b then 1 else 0)
  | int n => some n
  | _ => none

mutual

/-- Whether two values are equal. Numbers of all kinds compare by what they are, tables by what
stands under each name. -/
def same : Value → Value → Bool
  | nothing, nothing => true
  | bool a, w => (asInt? w).any (fun n => n == if a then 1 else 0) || isFloat w (if a then 1 else 0)
  | int a, w => (asInt? w).any (fun n => n == a) || isFloat w a
  | float x, float y => x.sameValue y
  | float x, bool b => x.isInteger (if b then 1 else 0)
  | float x, int n => x.isInteger n
  | text s, text t => s == t
  | bytes a, bytes b => a == b
  | list a, list b => sameItems a b
  | tuple a, tuple b => sameItems a b
  | table a, table b => a.length == b.length && sameEntries a b
  | address a, address b => a == b
  | moment a, moment b => a.same b
  | _, _ => false
where
  isFloat (w : Value) (n : Int) : Bool :=
    match w with
    | float x => x.isInteger n
    | _ => false

def sameItems : List Value → List Value → Bool
  | [], [] => true
  | a :: s, b :: t => same a b && sameItems s t
  | _, _ => false

/-- Whether the second table has all entries of the first. -/
def sameEntries : List (String × Value) → List (String × Value) → Bool
  | [], _ => true
  | (key, v) :: rest, entries =>
      (match entries.find? fun entry => entry.1 == key with
        | some entry => same v entry.2
        | none => false) && sameEntries rest entries

end

/-- A value as a whole number. Text and octets are read in decimal, a fraction is cut off. -/
def toInt (v : Value) : Except Fault Int :=
  match v with
  | bool b => .ok (if b then 1 else 0)
  | int n => .ok n
  | float x =>
      match x.truncate? with
      | some n => .ok n
      | none => .error (.overflow .infinite)
  | text s => reading (Text.quoted s) (Number.readInteger s.toList)
  | bytes bs =>
      reading (Text.quotedBytes bs)
        (if bs.any (· ≥ 128) then .error .malformed else Number.readInteger (Text.ofOctets bs))
  | v => .error (.kind (.notConvertible v.kind))
where
  reading (shown : String) : Except Number.ReadingFault Int → Except Fault Int
    | .ok n => .ok n
    | .error .malformed => .error (.value (.notANumber (String.ofList (shown.toList.take 200))))
    | .error (.tooManyDigits count) => .error (.value (.tooManyDigits count))

end Value

end Mailroom
