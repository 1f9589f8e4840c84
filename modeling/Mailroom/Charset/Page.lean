import Mailroom.Fault

/-!
Code pages: charsets in which each octet stands for one character or for none.
-/

namespace Mailroom.Charset

/-- The signs of the last octets, up to 255, in rows. Each octet before them stands for the
character with its number, and the replacement sign marks an octet that stands for nothing. -/
abbrev Page := List String

namespace Page

/-- What each octet stands for. -/
def signs (p : Page) : List (Option Char) :=
  let last := p.flatMap String.toList
  (List.range (256 - last.length)).map (fun n => some (Char.ofNat n)) ++
    last.map fun c => if c == Text.replacement then none else some c

/-- The last octet that stands for a character, if `signs` says what the octets from `first` on
stand for. -/
def octetFrom? (first : Nat) (c : Char) : List (Option Char) → Option Nat
  | [] => none
  | sign :: rest =>
      match octetFrom? (first + 1) c rest with
      | some n => some n
      | none => if sign == some c then some first else none

def decode (p : Page) (bs : List UInt8) : List (Option Char) :=
  let signs := p.signs.toArray
  bs.map fun b => (signs[b.toNat]?).join

def encode (p : Page) (s : List Char) : Except Fault (List UInt8) :=
  let signs := p.signs
  match firstLacking? "charmap" .unmapped (fun c => signs.contains (some c)) s with
  | some cause => .error (.encoding cause)
  | none => .ok (s.map fun c => ((octetFrom? 0 c signs).getD 0).toUInt8)

/-- The octet that is found stands for the character. -/
theorem getElem?_of_octetFrom? {first n : Nat} {c : Char} {signs : List (Option Char)}
    (h : octetFrom? first c signs = some n) : first ≤ n ∧ signs[n - first]? = some (some c) := by
  induction signs generalizing first n with
  | nil => simp [octetFrom?] at h
  | cons sign rest ih =>
      simp only [octetFrom?] at h
      cases hrest : octetFrom? (first + 1) c rest with
      | some m =>
          simp only [hrest, Option.some.injEq] at h
          obtain ⟨hle, hm⟩ := ih hrest
          subst h
          have hsub : m - first = (m - (first + 1)) + 1 := by omega
          exact ⟨by omega, by rw [hsub, List.getElem?_cons_succ, hm]⟩
      | none =>
          simp only [hrest] at h
          by_cases hs : sign == some c
          · simp only [hs, if_true, Option.some.injEq] at h
            subst h
            simpa using hs
          · simp [hs] at h

end Page

end Mailroom.Charset
