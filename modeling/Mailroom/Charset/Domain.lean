import Mailroom.Charset.Punycode
import Mailroom.Fault
import Mailroom.Text.LetterCase

/-!
Domain names: labels joined by dots, each of at most 63 characters. A label that is not ASCII is
brought to small letters, and what is still not ASCII then is written with a marker in front. Which
letters are one is known for the signs of Latin text; of all others, small and capital ones are.
-/

namespace Mailroom.Charset.Domain

inductive LabelFault
  | emptyOrLong
  | long
  | invalid (shown : String)
  | marked
  deriving DecidableEq, Repr

def LabelFault.message : LabelFault → String
  | emptyOrLong => "label empty or too long"
  | long => "label too long"
  | invalid shown => "Invalid character " ++ shown
  | marked => "Label starts with ACE prefix"

def labelLimit : Nat := 64

/-- The marker in front of a label that was not ASCII. -/
def marker : List Char := "xn--".toList

def isDot (c : Char) : Bool := [0x2E, 0x3002, 0xFF0E, 0xFF61].contains c.toNat

/-- The signs of Latin text that count as others. -/
def latinForms : List (Nat × String) :=
  [(0xA0, " "), (0xA8, " \u0308"), (0xAA, "a"), (0xAD, ""), (0xAF, " \u0304"), (0xB2, "2"),
    (0xB3, "3"), (0xB4, " \u0301"), (0xB5, "\u03bc"), (0xB8, " \u0327"), (0xB9, "1"), (0xBA, "o"),
    (0xBC, "1\u20444"), (0xBD, "1\u20442"), (0xBE, "3\u20444"), (0xDF, "ss")]

def formOf (c : Char) : List Char :=
  match latinForms.find? fun form => form.1 == c.toNat with
  | some form => form.2.toList
  | none => Text.lower [c]

def isForbidden (c : Char) : Bool := 0x80 ≤ c.toNat && c.toNat < 0xA0

def sized (label : List Char) : Except LabelFault (List Char) :=
  if label.isEmpty || label.length ≥ labelLimit then .error .emptyOrLong else .ok label

def encodeLabel (label : List Char) : Except LabelFault (List Char) :=
  if Text.isAscii label then sized label
  else
    let label := label.flatMap formOf
    match label.find? isForbidden with
    | some c => .error (.invalid (Text.quoted (String.singleton c)))
    | none =>
        if Text.isAscii label then sized label
        else if marker.isPrefixOf label then .error .marked
        else sized (marker ++ Punycode.encodeText label)

/-- The labels of a text, and whether a dot ends it. -/
def labels (s : List Char) : List (List Char) × Bool :=
  let parts := s.splitOnP isDot
  if parts.getLast? == some [] then (parts.dropLast, true) else (parts, false)

/-- An ASCII text is kept as it is; only its last label may be empty. -/
def checkAscii (s : List Char) : Except LabelFault Unit := do
  let parts := s.splitOnP (· == '.')
  parts.dropLast.forM fun label => do
    let _ ← sized label
  if (parts.getLast?.getD []).length ≥ labelLimit then .error .long

def encodeText (s : List Char) : Except LabelFault (List Char) := do
  if s.isEmpty then return []
  if Text.isAscii s then
    checkAscii s
    return s
  let (parts, dotted) := labels s
  let written ← parts.mapM encodeLabel
  return ['.'].intercalate written ++ (if dotted then ['.'] else [])

/-- A label with the marker has to be what the text that it stands for is written as. -/
def decodeLabel? (label : List UInt8) : Option (List Char) := do
  let written := Text.ofOctets label
  if !Text.isAscii written then none
  else if marker.isPrefixOf written then
    let text ← Punycode.decode? (label.drop marker.length)
    match encodeLabel text with
    | .ok again => if again == written.map Char.toLower then some text else none
    | .error _ => none
  else some written

def decode? (bs : List UInt8) : Option (List Char) := do
  let parts := bs.splitOnP (· == 46)
  let dotted := bs.getLast? == some 46
  let texts ← (if dotted then parts.dropLast else parts).mapM decodeLabel?
  return ['.'].intercalate texts ++ (if dotted then ['.'] else [])

end Mailroom.Charset.Domain
