import Mailroom.Charset.Wide
import Mailroom.Wire.Base64

/-!
The seven-bit charset with shifts. Most ASCII characters stand for themselves; all others stand
between a plus sign and, where it is needed, a hyphen, as units of 16 binary digits in base 64
without fill characters.
-/

namespace Mailroom.Charset.Shifted

/-- The bits of a shifted part that do not make up a character of base 64, or a unit, yet. -/
structure Bits where
  value : Nat
  count : Nat

namespace Bits

def none : Bits := ⟨0, 0⟩

/-- The characters for the full groups of six bits, and the bits left over. -/
def write (b : Bits) : List Char × Bits :=
  let left := b.count % 6
  ((List.range (b.count / 6)).map fun n =>
      Wire.base64Character (b.value / Nat.pow 2 (b.count - 6 * (n + 1)) % 64),
    ⟨b.value % Nat.pow 2 left, left⟩)

/-- The character for the bits left over, filled up with zeros. -/
def flush (b : Bits) : List Char :=
  if b.count == 0 then [] else [Wire.base64Character (b.value * Nat.pow 2 (6 - b.count))]

def addUnit (b : Bits) (unit : Nat) : Bits := ⟨b.value * 65536 + unit, b.count + 16⟩

end Bits

/-- A character that stands for itself outside a shifted part. -/
def isDirect (c : Char) : Bool :=
  (32 ≤ c.toNat && c.toNat < 126 && c != '+' && c != '\\') || c == '\t' || c == '\n' || c == '\r'

def isBase64 (c : Char) : Bool := c.isAlphanum || c == '+' || c == '/'

def base64Value (c : Char) : Nat :=
  if c.isUpper then c.toNat - 65
  else if c.isLower then c.toNat - 71
  else if c.isDigit then c.toNat + 4
  else if c == '+' then 62
  else 63

/-- Goes on with a text; `shift` holds the bits of the shifted part that is open, if one is. -/
def encodeFrom (shift : Option Bits) : List Char → List Char
  | [] =>
      match shift with
      | some bits => bits.flush ++ ['-']
      | none => []
  | c :: rest =>
      match shift with
      | some bits =>
          if isDirect c then
            bits.flush ++ (if isBase64 c || c == '-' then ['-', c] else [c]) ++ encodeFrom none rest
          else
            let (out, bits) := ((units16 c).foldl Bits.addUnit bits).write
            out ++ encodeFrom (some bits) rest
      | none =>
          if c == '+' then '+' :: '-' :: encodeFrom none rest
          else if isDirect c then c :: encodeFrom none rest
          else
            let (out, bits) := ((units16 c).foldl Bits.addUnit .none).write
            '+' :: out ++ encodeFrom (some bits) rest

def encode (s : List Char) : List UInt8 := Text.ascii (encodeFrom none s)

/-- A shifted part that is being read: the bits that make up no unit yet, and a high surrogate that
waits for its partner. -/
structure Part where
  bits : Bits
  surrogate : Option Nat

namespace Part

def opened : Part := ⟨.none, none⟩

/-- Reads six more bits. A unit that is complete is a character, or half of one. -/
def push (p : Part) (sextet : Nat) : List (Option Char) × Part :=
  let value := p.bits.value * 64 + sextet
  let count := p.bits.count + 6
  if count < 16 then ([], ⟨⟨value, count⟩, p.surrogate⟩)
  else
    let unit := value / Nat.pow 2 (count - 16)
    let bits : Bits := ⟨value % Nat.pow 2 (count - 16), count - 16⟩
    match p.surrogate with
    | some high =>
        if isLowSurrogate unit then ([some (joinSurrogates high unit)], ⟨bits, none⟩)
        else if isHighSurrogate unit then ([some Text.replacement], ⟨bits, some unit⟩)
        else ([some Text.replacement, signOf? unit], ⟨bits, none⟩)
    | none =>
        if isHighSurrogate unit then ([], ⟨bits, some unit⟩)
        else ([signOf? unit], ⟨bits, none⟩)

/-- Whether bits are left that mean something. -/
def isBroken (p : Part) : Bool := p.bits.count ≥ 6 || p.bits.value != 0

end Part

/-- Goes on with octets; `part` is the shifted part that is open, if one is. -/
def decodeFrom (part : Option Part) : List UInt8 → List (Option Char)
  | [] =>
      match part with
      | some p => if p.isBroken || p.surrogate.isSome then [none] else []
      | none => []
  | b :: rest =>
      let c := Char.ofNat b.toNat
      match part with
      | some p =>
          if isBase64 c then
            let (out, p) := p.push (base64Value c)
            out ++ decodeFrom (some p) rest
          else if p.isBroken then none :: decodeFrom none rest
          else
            let lone :=
              if p.surrogate.isSome && b < 128 && c != '+' then [some Text.replacement] else []
            if c == '-' then lone ++ decodeFrom none rest
            else if b < 128 then lone ++ some c :: decodeFrom none rest
            else lone ++ none :: decodeFrom none rest
      | none =>
          if c == '+' then
            match rest with
            | d :: more =>
                let next := Char.ofNat d.toNat
                if next == '-' then some '+' :: decodeFrom none more
                else if isBase64 next then decodeFrom (some .opened) (d :: more)
                else none :: decodeFrom none more
            | [] => []
          else if b < 128 then some c :: decodeFrom none rest
          else none :: decodeFrom none rest
  termination_by bs => bs.length
  decreasing_by all_goals (simp only [List.length_cons]; omega)

end Mailroom.Charset.Shifted
