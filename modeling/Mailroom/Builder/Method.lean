import Mailroom.Builder
import Mailroom.Signature

/-!
The calls of a builder by the names of its methods.
-/

namespace Mailroom.Builder

structure Method where
  name : String
  required : List String
  optional : Option Nat
  call : List Value → Call

namespace Method

def signature (m : Method) : Signature := ⟨"MessageBuilder." ++ m.name, m.required, m.optional⟩

/-- A method without arguments. -/
def bare (name : String) (call : Call) : Method := ⟨name, [], some 0, fun _ => call⟩

def unary (name parameter : String) (call : Value → Call) : Method :=
  ⟨name, [parameter], some 0, fun args => call (args.getD 0 .nothing)⟩

/-- A method with two arguments; `more` of them may be left out. -/
def binary (name : String) (required : List String) (more : Nat) (call : Value → Value → Call) :
    Method :=
  ⟨name, required, some more, fun args => call (args.getD 0 .nothing) (args.getD 1 .nothing)⟩

/-- The two methods that add to the list of a role and replace it. -/
def forRole (role : Role) : List Method :=
  [⟨"add_" ++ role.name, [], none, .addRecipients role⟩,
    unary ("set_" ++ role.name) "entries" (.setRecipients role)]

def all : List Method :=
  [binary "set_from" ["email"] 1 .setSender, binary "add_header" ["name", "value"] 0 .addHeader,
    unary "set_headers" "headers" .setHeaders, unary "get_header" "name" .getHeader,
    unary "set_msg" "body" .setBody,
    binary "set_authentication" ["username", "password"] 0 .setAccount,
    bare "get_host_name" .getHost, bare "get_sent_date" .getSentDate,
    bare "get_mail_session" .getSession, bare "build" .build] ++ Role.all.flatMap forRole

end Method

/-- The call that a method stands for, if there is such a method. -/
def callNamed? (name : String) (args : List Value) : Except Fault (Option Call) :=
  match Method.all.find? fun m => m.name == name with
  | none => .ok none
  | some m => do
      m.signature.check args.length
      return some (m.call args)

end Mailroom.Builder
