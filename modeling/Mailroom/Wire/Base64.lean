/-!
Base 64: three octets become four characters, and a rest of one or two octets is filled up with
equal signs.
-/

namespace Mailroom.Wire

/-- The character for six bits. -/
def base64Character (n : Nat) : Char :=
  if n < 26 then Char.ofNat (65 + n)
  else if n < 52 then Char.ofNat (71 + n)
  else if n < 62 then Char.ofNat (n - 4)
  else if n = 62 then '+'
  else '/'

def base64 : List UInt8 → List Char
  | [] => []
  | [a] =>
      [base64Character (a.toNat / 4), base64Character (a.toNat % 4 * 16), '=', '=']
  | [a, b] =>
      [base64Character (a.toNat / 4), base64Character (a.toNat % 4 * 16 + b.toNat / 16),
        base64Character (b.toNat % 16 * 4), '=']
  | a :: b :: c :: rest =>
      base64Character (a.toNat / 4) :: base64Character (a.toNat % 4 * 16 + b.toNat / 16) ::
        base64Character (b.toNat % 16 * 4 + c.toNat / 64) :: base64Character (c.toNat % 64) ::
        base64 rest

/-- The number of characters that `count` octets take. -/
def base64Length (count : Nat) : Nat := 4 * ((count + 2) / 3)

theorem length_base64 (bs : List UInt8) : (base64 bs).length = base64Length bs.length := by
  fun_induction base64 bs with
  | case1 => rfl
  | case2 a => simp [base64Length]
  | case3 a b => simp [base64Length]
  | case4 a b c rest ih =>
      simp only [List.length_cons, ih, base64Length]
      omega

/-- The most octets that one line of a body holds. -/
def bodyLineOctets : Nat := 57

/-- A body in base 64: lines of 76 characters, each ended by a line feed. An empty body has no
line. -/
def base64Lines (bs : List UInt8) : List Char :=
  match bs with
  | [] => []
  | b :: rest =>
      base64 (b :: rest.take (bodyLineOctets - 1)) ++
        '\n' :: base64Lines (rest.drop (bodyLineOctets - 1))
  termination_by bs.length
  decreasing_by
    simp only [List.length_drop, List.length_cons]
    omega

end Mailroom.Wire
