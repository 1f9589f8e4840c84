import Mailroom.Charset.Shifted
import Mailroom.Text.Digit
import Mailroom.Wire.Entity

/-!
What a receiver reads. A field of the mail names its transfer encoding, and a receiver undoes it:
base 64, quoted printable or uuencoding, each read generously. An encoding of any other name leaves
the payload as it is, and so does an encoding in which the payload cannot be read.
-/

namespace Mailroom.Wire

/-- The octet of an ASCII character. -/
def octetOf (c : Char) : UInt8 := c.toNat.toUInt8

def isLineEndOctet (b : UInt8) : Bool := b == octetOf '\n' || b == octetOf '\r'

/-! ### Base 64 -/

/-- How far a group of four characters is read. -/
structure Base64Group where
  /-- The characters of the group so far, and their bits that are in no octet yet. -/
  count : Nat
  bits : Nat
  /-- The equal signs since the last character. -/
  fills : Nat
  /-- Whether there was an equal sign anywhere before. -/
  filled : Bool

namespace Base64Group

def start : Base64Group := ⟨0, 0, 0, false⟩

/-- The group behind one more character, and the octet that is complete with it. -/
def add (g : Base64Group) (value : Nat) : Base64Group × List UInt8 :=
  match g.count with
  | 0 => ({ g with count := 1, bits := value, fills := 0 }, [])
  | 1 =>
      ({ g with count := 2, bits := value % 16, fills := 0 },
        [(g.bits * 4 + value / 16).toUInt8])
  | 2 =>
      ({ g with count := 3, bits := value % 4, fills := 0 },
        [(g.bits * 16 + value / 4).toUInt8])
  | _ => ({ g with count := 0, bits := 0, fills := 0 }, [(g.bits * 64 + value).toUInt8])

/-- An equal sign counts only behind two characters of a group. -/
def fill (g : Base64Group) : Base64Group :=
  { g with fills := if 2 ≤ g.count then g.fills + 1 else g.fills, filled := true }

/-- Nothing is read behind the equal signs that complete a group. -/
def isComplete (g : Base64Group) : Bool := 2 ≤ g.count && 4 ≤ g.count + g.fills

end Base64Group

/-- Reads on from within a group; `none` if the last group breaks off. A strict reader takes no
other characters, nothing behind the last group and no equal sign between two characters. -/
def readBase64From (strict : Bool) (g : Base64Group) : List Char → Option (List UInt8)
  | [] => if g.count = 0 then some [] else none
  | c :: rest =>
      if c == '=' then
        if g.fill.isComplete then if strict && !rest.isEmpty then none else some []
        else readBase64From strict g.fill rest
      else if !Charset.Shifted.isBase64 c then
        if strict then none else readBase64From strict g rest
      else if strict && g.filled then none
      else
        (readBase64From strict (g.add (Charset.Shifted.base64Value c)).1 rest).map
          ((g.add (Charset.Shifted.base64Value c)).2 ++ ·)

def readBase64 (strict : Bool) (s : List Char) : Option (List UInt8) :=
  if strict && s.head? == some '=' then none else readBase64From strict .start s

/-- The strict reader goes first, with the equal signs added that are missing at the end. -/
def readGenerously (s : List Char) : Option (List UInt8) :=
  ((readBase64 true (s ++ List.replicate ((4 - s.length % 4) % 4) '=')).orElse fun _ =>
    readBase64 false s).orElse fun _ => readBase64 false (s ++ ['=', '='])

def undoBase64 (bs : List UInt8) : List UInt8 :=
  let joined := bs.filter fun b => !isLineEndOctet b
  (readGenerously (Text.ofOctets joined)).getD joined

/-! ### Quoted printable -/

/-- What the octets behind an equal sign stand for, and what is left of them. A line may be broken
there; what is no code stays. -/
def unescape : List UInt8 → List UInt8 × List UInt8
  | [] => ([], [])
  | a :: rest =>
      if a == octetOf '\n' then ([], rest)
      else if a == octetOf '\r' then ([], (rest.dropWhile (· != octetOf '\n')).drop 1)
      else if a == octetOf '=' then ([a], rest)
      else
        match Text.hexValue? (Char.ofNat a.toNat), rest with
        | some high, b :: after =>
            match Text.hexValue? (Char.ofNat b.toNat) with
            | some low => ([(high * 16 + low).toUInt8], after)
            | none => ([octetOf '='], a :: rest)
        | _, _ => ([octetOf '='], a :: rest)

theorem length_unescape_le (bs : List UInt8) : (unescape bs).2.length ≤ bs.length := by
  have hbreak (rest : List UInt8) :
      ((rest.dropWhile (· != octetOf '\n')).drop 1).length ≤ rest.length := by
    rw [List.length_drop]
    exact Nat.le_trans (Nat.sub_le _ 1) (List.dropWhile_sublist _).length_le
  fun_cases unescape bs with
  | case1 => exact Nat.le_refl 0
  | case2 a rest _ => exact Nat.le_succ _
  | case3 a rest _ _ => exact Nat.le_trans (hbreak rest) (Nat.le_succ _)
  | case4 a rest _ _ _ => exact Nat.le_succ _
  | case5 => simp only [List.length_cons]; omega
  | case6 | case7 => exact Nat.le_refl _

def undoQuoted : List UInt8 → List UInt8
  | [] => []
  | b :: rest =>
      if b == octetOf '=' then
        have := length_unescape_le rest
        (unescape rest).1 ++ undoQuoted (unescape rest).2
      else b :: undoQuoted rest
  termination_by bs => bs.length

/-! ### Uuencoding -/

/-- The lines of some octets, without their ends. -/
def octetLines : List UInt8 → List (List UInt8)
  | [] => []
  | b :: rest =>
      if b == octetOf '\n' then [] :: octetLines rest
      else
        match octetLines rest with
        | [] => [[b]]
        | line :: more => (b :: line) :: more

/-- Six bits are one character from the space on; the character behind them stands for none. -/
def sextet? (b : UInt8) : Option Nat :=
  if isLineEndOctet b then some 0
  else if 32 ≤ b && b ≤ 96 then some ((b.toNat - 32) % 64)
  else none

/-- An octet by its place, from values of six bits; those that are missing are zero. -/
def octetAt (values : List Nat) (place : Nat) : UInt8 :=
  let first := 4 * (place / 3)
  let value (n : Nat) : Nat := values.getD (first + n) 0
  match place % 3 with
  | 0 => (value 0 * 4 + value 1 / 16).toUInt8
  | 1 => (value 1 % 16 * 16 + value 2 / 4).toUInt8
  | _ => (value 2 % 4 * 64 + value 3).toUInt8

def isFiller (b : UInt8) : Bool := b == octetOf ' ' || b == octetOf '\x60' || isLineEndOctet b

/-- How many octets a line says that it holds. -/
def lineSize (mark : UInt8) : Nat := (mark.toNat + 32) % 64

/-- A line of as many octets as its first character says. -/
def readUuLine : List UInt8 → Option (List UInt8)
  | [] => none
  | mark :: rest =>
      let size := lineSize mark
      let count := (4 * size + 2) / 3
      if (rest.drop count).all isFiller then
        ((rest.take count).mapM sextet?).map fun values => (List.range size).map (octetAt values)
      else none

/-- A line that is too long is cut. -/
def readCutUuLine (line : List UInt8) : Option (List UInt8) :=
  (readUuLine line).orElse fun _ =>
    readUuLine (line.take ((4 * lineSize (line.headD 0) + 5) / 3))

def isUuSpace (b : UInt8) : Bool :=
  b == octetOf ' ' || b == octetOf '\t' || b == 12 || isLineEndOctet b

def isUuEnd (line : List UInt8) : Bool :=
  ((line.dropWhile isUuSpace).reverse.dropWhile isUuSpace).reverse == Text.ascii "end".toList

def readUuLines : List (List UInt8) → Option (List UInt8)
  | [] => some []
  | line :: rest =>
      if line.isEmpty then none
      else if isUuEnd line then some []
      else do return (← readCutUuLine line) ++ (← readUuLines rest)

/-- One underscore may stand between two digits. -/
def areOctalDigits (before : Bool) : List Char → Bool
  | [] => before
  | c :: rest =>
      if c == '_' then before && areOctalDigits false rest
      else '0' ≤ c && c ≤ '7' && areOctalDigits true rest

/-- Blanks may surround an octal number; a sign and a mark may precede it. -/
def isOctal (s : List Char) : Bool :=
  let isSpace (c : Char) : Bool := c == ' ' || (9 ≤ c.toNat && c.toNat ≤ 13)
  let trimmed := ((s.dropWhile isSpace).reverse.dropWhile isSpace).reverse
  let unsigned := if trimmed.head? == some '+' || trimmed.head? == some '-' then trimmed.drop 1
    else trimmed
  match unsigned with
  | '0' :: mark :: rest =>
      if mark == 'o' || mark == 'O' then
        areOctalDigits false (if rest.head? == some '_' then rest.drop 1 else rest)
      else areOctalDigits false unsigned
  | _ => areOctalDigits false unsigned

/-- The line that a uuencoded part begins with has the rights of a file in it. -/
def isUuBegin (line : List UInt8) : Bool :=
  let lead := Text.ascii "begin ".toList
  line.take lead.length == lead &&
    isOctal (Text.ofOctets ((line.drop lead.length).takeWhile (· != octetOf ' ')))

def readUu (bs : List UInt8) : Option (List UInt8) :=
  match (octetLines (Entity.unifyOctets bs)).dropWhile (!isUuBegin ·) with
  | [] => none
  | _ :: body => readUuLines body

/-! ### The encoding of a mail -/

/-- How a receiver takes a payload. -/
inductive Transfer
  | plain
  | base64
  | quotedPrintable
  | uuencoded
  deriving DecidableEq, Repr

namespace Transfer

def uuNames : List String := ["x-uuencode", "uuencode", "uue", "x-uue"]

def ofName (name : List Char) : Transfer :=
  let name := String.ofList (Text.lower name)
  if name == "base64" then base64
  else if name == "quoted-printable" then quotedPrintable
  else if uuNames.contains name then uuencoded
  else plain

def undo : Transfer → List UInt8 → List UInt8
  | plain, bs => bs
  | base64, bs => undoBase64 bs
  | quotedPrintable, bs => undoQuoted bs
  | uuencoded, bs => (readUu bs).getD bs

end Transfer

/-- The transfer encoding that the first field of its name gives. -/
def Entity.transfer (e : Entity) : Except Fault Transfer :=
  match e.get? encodingName with
  | none => .ok .plain
  | some v => v.plain.map fun name => .ofName name.toList

/-- The octets that a receiver reads, if the payload has any. -/
def Entity.received? (e : Entity) : Option (List UInt8) :=
  match e.payload, e.transfer with
  | .octets bs, .ok encoding => some (encoding.undo bs)
  | _, _ => none

end Mailroom.Wire
