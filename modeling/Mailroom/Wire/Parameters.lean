import Mailroom.Charset
import Mailroom.Number.Integer
import Mailroom.Sorting
import Mailroom.Text.LetterCase
import Mailroom.Wire.EncodedWord

/-!
The parameters of a content type: pieces between semicolons outside quotes, each a name with a value
or a name alone. A value may be spread over numbered pieces, and pieces whose name ends in an
asterisk hold octets as percent codes, after a charset and a language.
-/

namespace Mailroom.Wire

inductive ParameterValue
  | plain (s : List Char)
  | extended (charset language : Option (List Char)) (s : List Char)
  deriving DecidableEq, Repr

structure Parameter where
  name : List Char
  value : ParameterValue
  deriving DecidableEq, Repr

namespace Parameter

/-- The pieces between the semicolons. A quote mark without a backslash before it opens or closes a
quoted part, in which semicolons do not count. -/
def piecesFrom (piece : List Char) (inQuotes : Bool) : List Char → List (List Char)
  | [] => [piece.reverse]
  | c :: rest =>
      if c == ';' && !inQuotes then piece.reverse :: piecesFrom [] false rest
      else
        let toggles := c == '"' && piece.head? != some '\\'
        piecesFrom (c :: piece) (inQuotes != toggles) rest

/-- A piece as a name and a value; a piece without an equal sign is a name alone. -/
def splitPiece (piece : List Char) : List Char × List Char :=
  match piece.dropWhile (· != '=') with
  | [] => (Text.trim piece, [])
  | _ :: value => (Text.lower (Text.trim (piece.takeWhile (· != '='))), Text.trim value)

/-- Replaces every two characters `a b` by the one character `c`. -/
def replacePair (a b c : Char) : List Char → List Char
  | x :: y :: rest => if x == a && y == b then c :: replacePair a b c rest
      else x :: replacePair a b c (y :: rest)
  | s => s

/-- A value without the quotes or angle brackets around it. -/
def unquote (s : List Char) : List Char :=
  let inner := (s.drop 1).dropLast
  if s.length > 1 && s.head? == some '"' && s.getLast? == some '"' then
    replacePair '\\' '"' '"' (replacePair '\\' '\\' '\\' inner)
  else if s.length > 1 && s.head? == some '<' && s.getLast? == some '>' then inner
  else s

def escape (s : List Char) : List Char :=
  s.flatMap fun c => if c == '\\' || c == '"' then ['\\', c] else [c]

def inQuotes (s : List Char) : List Char := '"' :: escape s ++ ['"']

def isAsciiWord (c : Char) : Bool := c.isAlphanum || c == '_'

/-- One of the pieces that a value is spread over. -/
structure Continuation where
  number : Option Nat
  value : List Char
  coded : Bool

/-- The name before an asterisk and the digits after it, for a name that marks a continuation. -/
def continuationName? (name : List Char) : Option (List Char × Option (List Char)) :=
  let base := name.takeWhile isAsciiWord
  match base, name.dropWhile isAsciiWord with
  | [], _ => none
  | _, ['*'] => some (base, none)
  | _, '*' :: rest =>
      let digits := rest.takeWhile Char.isDigit
      let after := rest.dropWhile Char.isDigit
      if digits.isEmpty || !(after == [] || after == ['*']) then none else some (base, some digits)
  | _, _ => none

def continuationNumber (digits : List Char) : Except Fault Nat :=
  match Number.readNatural digits with
  | .ok n => .ok n
  | .error (.tooManyDigits count) => .error (.value (.tooManyDigits count))
  | .error .malformed => .ok 0

def compareLists : List Char → List Char → Ordering
  | [], [] => .eq
  | [], _ => .lt
  | _, [] => .gt
  | a :: s, b :: t => (compare a.toNat b.toNat).then (compareLists s t)

/-- The order of continuations. One with a number and one without cannot be compared. -/
def before (a b : Continuation) : Except Fault Bool :=
  match a.number, b.number with
  | none, some _ => .error (.kind (.notComparable "NoneType" "int"))
  | some _, none => .error (.kind (.notComparable "int" "NoneType"))
  | m, n =>
      .ok (((compare (m.getD 0) (n.getD 0)).then (compareLists a.value b.value)).then
        (compare a.coded.toNat b.coded.toNat) == .lt)

/-- Percent codes as the characters with these codes. -/
def decodePercents : List Char → List Char
  | '%' :: a :: b :: rest =>
      match Text.hexValue? a, Text.hexValue? b with
      | some m, some n => Char.ofNat (16 * m + n) :: decodePercents rest
      | _, _ => '%' :: decodePercents (a :: b :: rest)
  | c :: rest => c :: decodePercents rest
  | [] => []
  termination_by s => s.length

/-- Charset, language and text between single quotes; with fewer than two quotes all is text. -/
def splitExtended (s : List Char) :
    Option (List Char) × Option (List Char) × List Char :=
  match s.dropWhile (· != '\'') with
  | [] => (none, none, s)
  | _ :: rest =>
      match rest.dropWhile (· != '\'') with
      | [] => (none, none, s)
      | _ :: text =>
          (some (s.takeWhile (· != '\'')), some (rest.takeWhile (· != '\'')), text)

def join (name : List Char) (all : List Continuation) : Except Fault Parameter := do
  let sorted ← Sorting.sort before all
  let text := sorted.flatMap fun c => if c.coded then decodePercents c.value else c.value
  if sorted.any (·.coded) then
    let (charset, language, body) := splitExtended (escape text)
    return ⟨name, .extended charset language ('"' :: body ++ ['"'])⟩
  else return ⟨name, .plain (inQuotes text)⟩

/-- Adds a continuation to those of its name. -/
def gather (name : List Char) (c : Continuation) :
    List (List Char × List Continuation) → List (List Char × List Continuation)
  | [] => [(name, [c])]
  | (n, all) :: rest =>
      if n == name then (n, all ++ [c]) :: rest else (n, all) :: gather name c rest

/-- Gathers the values that are spread over several parameters under their names. -/
def gatherAll : List (List Char × List Char) → List (List Char × List Continuation) →
    Except Fault (List (List Char × List Continuation))
  | [], groups => .ok groups
  | (name, value) :: rest, groups =>
      match continuationName? name with
      | none => gatherAll rest groups
      | some (base, digits) => do
          let number ← digits.mapM continuationNumber
          gatherAll rest (gather base ⟨number, unquote value, name.getLast? == some '*'⟩ groups)

/-- Joins the values that are spread over several parameters; these come after all others. -/
def joinContinuations (all : List (List Char × List Char)) : Except Fault (List Parameter) := do
  let whole := all.filterMap fun (name, value) =>
    if (continuationName? name).isSome then none
    else some ⟨name, .plain (inQuotes (unquote value))⟩
  let groups ← gatherAll all []
  return whole ++ (← groups.mapM fun (name, continuations) => join name continuations)

/-- The content type itself comes first, as a parameter without a value; its quotes stay as they
are, those of the others are renewed. -/
def ofHeader (s : List Char) : Except Fault (List Parameter) := do
  match (piecesFrom [] false s).map splitPiece with
  | [] => return []
  | (name, value) :: rest => return ⟨name, .plain value⟩ :: (← joinContinuations rest)

def unquoted : ParameterValue → ParameterValue
  | .plain s => .plain (unquote s)
  | .extended charset language s => .extended charset language (unquote s)

/-- The value of the first parameter with a name, in any spelling. -/
def find? (name : List Char) (all : List Parameter) : Option ParameterValue :=
  (all.find? fun p => Text.lower p.name == name).map fun p => unquoted p.value

def isUnreserved (b : UInt8) : Bool :=
  let c := Char.ofNat b.toNat
  b < 128 && (c.isAlphanum || c == '_' || c == '.' || c == '-' || c == '~')

/-- Octets as text: letters, digits and four marks as they are, the others as percent codes. -/
def percentCodes (bs : List UInt8) : List Char :=
  bs.flatMap fun b =>
    if isUnreserved b then [Char.ofNat b.toNat]
    else ['%', capitalHexDigit (b.toNat / 16), capitalHexDigit (b.toNat % 16)]

/-- The octets of a text in the charset that is named, or in ASCII if none is. -/
def octetsIn (charset s : List Char) : Except Fault (List UInt8) :=
  if s.isEmpty then .ok []
  else Charset.encodeNamed (if charset.isEmpty then "ascii".toList else charset) s

def writeExtended (name : List Char) (charset language : Option (List Char))
    (s : List Char) : Except Fault (List Char) := do
  let given := charset.getD []
  let codes := percentCodes (← octetsIn given s)
  let marks := match charset, language with
    | none, none => []
    | _, _ => given ++ '\'' :: language.getD [] ++ ['\'']
  return name ++ '*' :: '=' :: marks ++ codes

/-- A parameter as it stands in a header: the value in quotes, or as percent codes of its UTF-8
octets if it is not ASCII. -/
def write (p : Parameter) : Except Fault (List Char) :=
  match p.value with
  | .extended charset language s => writeExtended p.name charset language s
  | .plain [] => .ok p.name
  | .plain s =>
      if Text.isAscii s then .ok (p.name ++ '=' :: inQuotes s)
      else writeExtended p.name (some "utf-8".toList) (some []) s

end Parameter

end Mailroom.Wire
