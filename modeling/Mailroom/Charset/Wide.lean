import Mailroom.Text.Octets

/-!
Charsets of two and of four octets a unit. In the first a character beyond 16 binary digits takes
two units, a high and a low surrogate; a surrogate without its partner is no character.
-/

namespace Mailroom.Charset

/-- Which octet of a unit comes first. -/
inductive ByteOrder
  | little
  | big
  deriving DecidableEq, Repr

namespace ByteOrder

/-- A number as two octets. -/
def pair (o : ByteOrder) (n : Nat) : List UInt8 :=
  match o with
  | little => [n.toUInt8, (n / 256).toUInt8]
  | big => [(n / 256).toUInt8, n.toUInt8]

def ofPair (o : ByteOrder) (a b : UInt8) : Nat :=
  match o with
  | little => a.toNat + 256 * b.toNat
  | big => 256 * a.toNat + b.toNat

/-- A number as four octets. -/
def quad (o : ByteOrder) (n : Nat) : List UInt8 :=
  match o with
  | little => little.pair n ++ little.pair (n / 65536)
  | big => big.pair (n / 65536) ++ big.pair n

def ofQuad (o : ByteOrder) (a b c d : UInt8) : Nat :=
  match o with
  | little => little.ofPair a b + 65536 * little.ofPair c d
  | big => 65536 * big.ofPair a b + big.ofPair c d

end ByteOrder

/-- The character that marks the byte order at the start of a text. -/
def byteOrderMark : Char := Char.ofNat 0xFEFF

def isHighSurrogate (n : Nat) : Bool := 0xD800 ≤ n && n < 0xDC00

def isLowSurrogate (n : Nat) : Bool := 0xDC00 ≤ n && n < 0xE000

/-- The character of two surrogates. -/
def joinSurrogates (high low : Nat) : Char :=
  Char.ofNat (0x10000 + (high - 0xD800) * 0x400 + (low - 0xDC00))

/-- The units of 16 binary digits of a character. -/
def units16 (c : Char) : List Nat :=
  let n := c.toNat
  if n < 0x10000 then [n]
  else [0xD800 + (n - 0x10000) / 0x400, 0xDC00 + (n - 0x10000) % 0x400]

def encode16 (o : ByteOrder) (s : List Char) : List UInt8 := (s.flatMap units16).flatMap o.pair

/-- A high surrogate at the end takes all that is left with it. -/
def decode16 (o : ByteOrder) : List UInt8 → List (Option Char)
  | a :: b :: rest =>
      let n := o.ofPair a b
      if isHighSurrogate n then
        match rest with
        | c :: d :: more =>
            let m := o.ofPair c d
            if isLowSurrogate m then some (joinSurrogates n m) :: decode16 o more
            else none :: decode16 o (c :: d :: more)
        | _ => [none]
      else (if isLowSurrogate n then none else some (Char.ofNat n)) :: decode16 o rest
  | [_] => [none]
  | [] => []
  termination_by bs => bs.length

def encode32 (o : ByteOrder) (s : List Char) : List UInt8 := s.flatMap fun c => o.quad c.toNat

def charOf? (n : Nat) : Option Char := if n.isValidChar then some (Char.ofNat n) else none

/-- The character with a number, where a surrogate may stand alone and reads as the replacement
sign. -/
def signOf? (n : Nat) : Option Char :=
  if isHighSurrogate n || isLowSurrogate n then some Text.replacement else charOf? n

def decode32 (o : ByteOrder) : List UInt8 → List (Option Char)
  | a :: b :: c :: d :: rest => charOf? (o.ofQuad a b c d) :: decode32 o rest
  | [] => []
  | _ => [none]

/-- The byte order that a text begins with, and the text without the mark. -/
def marked16? : List UInt8 → Option (ByteOrder × List UInt8)
  | 0xFF :: 0xFE :: rest => some (.little, rest)
  | 0xFE :: 0xFF :: rest => some (.big, rest)
  | _ => none

def marked32? : List UInt8 → Option (ByteOrder × List UInt8)
  | 0xFF :: 0xFE :: 0 :: 0 :: rest => some (.little, rest)
  | 0 :: 0 :: 0xFE :: 0xFF :: rest => some (.big, rest)
  | _ => none

theorem ofPair_pair (o : ByteOrder) {n : Nat} (h : n < 65536) :
    o.pair n = [(o.pair n).getD 0 0, (o.pair n).getD 1 0] ∧
      o.ofPair ((o.pair n).getD 0 0) ((o.pair n).getD 1 0) = n := by
  cases o <;> simp [ByteOrder.pair, ByteOrder.ofPair] <;> omega

end Mailroom.Charset
