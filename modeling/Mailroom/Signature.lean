import Mailroom.Fault

/-!
Signatures: the arguments that a call by name takes, apart from the object that is called. Too many
arguments, or too few, are a fault before anything else is looked at.
-/

namespace Mailroom

structure Signature where
  callee : String
  required : List String
  /-- How many more there may be; `none` stands for any number. -/
  optional : Option Nat

namespace Signature

def least (s : Signature) : Nat := s.required.length

/-- The object itself counts as an argument in the wording of the fault. -/
def check (s : Signature) (given : Nat) : Except Fault Unit :=
  if given < s.least then .error (.kind (.missingArguments s.callee (s.required.drop given)))
  else if s.optional.any fun more => s.least + more < given then
    .error (.kind (.extraArguments s.callee (s.least + 1) (s.least + s.optional.getD 0 + 1)
      (given + 1)))
  else .ok ()

end Signature

end Mailroom
