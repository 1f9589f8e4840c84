import Mailroom.Value

/-!
Making addresses. `validate` takes an email and a personal name of any kind, `parse` an entry of a
batch, which is an address, an email or a pair of the two. Either gives an address or says what is
wrong first: the kind of the email, its emptiness, its form, then the personal name.
-/

namespace Mailroom

namespace Address

/-- A personal name is absent or a text that is not blank and stays on one line. -/
def checkPersonal (email : String) : Value → Except Fault (Option String)
  | .nothing => .ok none
  | .text name =>
      if Text.allBlank name.toList then .error (.address (.blankName email))
      else if Text.hasLineEnd name.toList then .error (.address (.brokenName email))
      else .ok (some name)
  | _ => .error (.address (.blankName email))

/-- Blanks around the email are dropped; the personal name is kept as it is. -/
def validate (raw personal : Value) : Except Fault Address :=
  match raw with
  | .text given =>
      let email := Text.strip given
      if email.isEmpty then .error (.address .empty)
      else if !isEmail email.toList then .error (.address (.malformed (Text.quoted given)))
      else (checkPersonal email personal).map fun name => ⟨email, name⟩
  | _ =>
      match raw.shown with
      | .ok shown => .error (.address (.notText shown))
      | .error fault => .error fault

def parsePair (entry : Value) : List Value → Except Fault Address
  | [email, personal] => validate email personal
  | _ =>
      match entry.shown with
      | .ok shown => .error (.address (.notPair shown))
      | .error fault => .error fault

def parse (entry : Value) : Except Fault Address :=
  match entry with
  | .address a => .ok a
  | .list items => parsePair entry items
  | .tuple items => parsePair entry items
  | _ => validate entry .nothing

end Address

end Mailroom
