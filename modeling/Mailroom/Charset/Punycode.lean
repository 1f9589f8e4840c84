import Mailroom.Charset.Wide
import Mailroom.Fault

/-!
Text as letters, digits and hyphens: the ASCII characters come first, and behind a hyphen the others
as differences in a notation with base 36 and thresholds that adapt.
-/

namespace Mailroom.Charset.Punycode

def digitChar (n : Nat) : Char := if n < 26 then Char.ofNat (97 + n) else Char.ofNat (22 + n)

/-- The threshold of the digit at place `j`. -/
def threshold (j bias : Nat) : Nat := max 1 (min 26 (36 * (j + 1) - bias))

theorem threshold_bounds (j bias : Nat) : 1 ≤ threshold j bias ∧ threshold j bias ≤ 26 := by
  unfold threshold
  omega

/-- A number in digits that end with one below its threshold. -/
def number (bias j n : Nat) : List Char :=
  let t := threshold j bias
  if n < t then [digitChar n]
  else digitChar (t + (n - t) % (36 - t)) :: number bias (j + 1) ((n - t) / (36 - t))
  termination_by n
  decreasing_by
    have h := threshold_bounds j bias
    exact Nat.lt_of_le_of_lt (Nat.div_le_self _ _) (by omega)

/-- Divides by 35 until the number is small, and counts 36 for each division. -/
def settle (delta divisions : Nat) : Nat × Nat :=
  if 455 < delta then settle (delta / 35) (divisions + 36) else (delta, divisions)
  termination_by delta
  decreasing_by exact Nat.div_lt_self (by omega) (by omega)

/-- The bias after a difference has been written, of which `count` characters make use. -/
def adapt (delta : Nat) (first : Bool) (count : Nat) : Nat :=
  let delta := delta / (if first then 700 else 2)
  let (delta, divisions) := settle (delta + delta / count) 0
  divisions + 36 * delta / (delta + 38)

/-- The notation of the characters that are still to come. -/
structure Writing where
  out : List Char
  bias : Nat
  delta : Nat
  /-- How many characters have been written, and how many of them are ASCII. -/
  written : Nat
  basic : Nat

namespace Writing

/-- Passes a character on the way through the text when the characters `m` are written. -/
def pass (m : Nat) (w : Writing) (c : Char) : Writing :=
  if c.toNat < m then { w with delta := w.delta + 1 }
  else if c.toNat == m then
    { w with
      out := w.out ++ number w.bias 0 w.delta
      bias := adapt w.delta (w.written == w.basic) (w.written + 1)
      delta := 0
      written := w.written + 1 }
  else w

/-- Writes the characters from `next` on, which come in rising order. -/
def run (s : List Char) (next : Nat) : List Nat → Writing → Writing
  | [], w => w
  | m :: rest, w =>
      let w := s.foldl (pass m) { w with delta := w.delta + (m - next) * (w.written + 1) }
      run s (m + 1) rest { w with delta := w.delta + 1 }

end Writing

/-- The numbers of the characters outside ASCII, each once, in rising order. -/
def extendedNumbers (s : List Char) : List Nat :=
  ((s.map Char.toNat).filter (· ≥ 128)).mergeSort.eraseDups

def encodeText (s : List Char) : List Char :=
  let basic := s.filter fun c => c.toNat < 128
  let w := Writing.run s 128 (extendedNumbers s) ⟨[], 72, 0, basic.length, basic.length⟩
  basic ++ (if basic.isEmpty then [] else ['-']) ++ w.out

def encode (s : List Char) : List UInt8 := Text.ascii (encodeText s)

def digitValue? (c : Char) : Option Nat :=
  if c.isUpper then some (c.toNat - 65)
  else if c.isDigit then some (c.toNat - 22)
  else none

/-- Reads a number and gives what follows it; `none` if the digits break off. -/
def readNumber (bias j weight value : Nat) : List Char → Option (Nat × List Char)
  | [] => none
  | c :: rest =>
      match digitValue? c with
      | none => none
      | some d =>
          let t := threshold j bias
          if d < t then some (value + d * weight, rest)
          else readNumber bias (j + 1) (weight * (36 - t)) (value + d * weight) rest

theorem length_readNumber_lt {bias j weight value n : Nat} {s rest : List Char}
    (h : readNumber bias j weight value s = some (n, rest)) : rest.length < s.length := by
  induction s generalizing j weight value with
  | nil => simp [readNumber] at h
  | cons c more ih =>
      simp only [readNumber] at h
      split at h
      · cases h
      · split at h
        · cases h
          exact Nat.lt_succ_self _
        · exact Nat.lt_succ_of_lt (ih h)

/-- Puts characters into `text` as long as numbers can be read; with `strict`, anything else is no
text at all. -/
def insertAll (strict : Bool) (text : List Char) (char place bias : Nat) (first : Bool) :
    List Char → Option (List Char)
  | [] => some text
  | c :: more =>
      match hread : readNumber bias 0 1 0 (c :: more) with
      | none => if strict then none else some text
      | some (delta, rest) =>
          let spot := place + delta
          let next := char + spot / (text.length + 1)
          if next > 0x10FFFF && strict then none
          else
            let next := if next > 0x10FFFF then 63 else next
            let spot := spot % (text.length + 1)
            let text := text.take spot ++ (signOf? next).getD '?' :: text.drop spot
            insertAll strict text next (spot + 1) (adapt delta first text.length) false rest
  termination_by s => s.length
  decreasing_by exact length_readNumber_lt hread

/-- The ASCII part and what stands behind the last hyphen, which is all if there is none. -/
def split (bs : List UInt8) : List UInt8 × List UInt8 :=
  match bs.reverse.dropWhile (· != 45) with
  | [] => ([], bs)
  | _ :: before => (before.reverse, (bs.reverse.takeWhile (· != 45)).reverse)

def finish (strict : Bool) (base : List Char) (extended : List UInt8) : Option (List Char) :=
  insertAll strict base 128 0 72 true ((Text.ofOctets extended).map Char.toUpper)

def decode? (bs : List UInt8) : Option (List Char) :=
  let (base, extended) := split bs
  if bs.all (· < 128) then finish true (Text.ofOctets base) extended else none

/-- Reads on past what stands for nothing, but the part behind the hyphen has to be ASCII. -/
def read (bs : List UInt8) : Except Fault (List Char) :=
  let (base, extended) := split bs
  match extended.findIdx? (· ≥ 128) with
  | some place => .error (.decoding ⟨extended.getD place 0, place⟩)
  | none =>
      let base := base.map fun b => if b < 128 then Char.ofNat b.toNat else Text.replacement
      .ok ((finish false base extended).getD base)

end Mailroom.Charset.Punycode
