import Mailroom.Entries
import Mailroom.Text.LetterCase
import Mailroom.Settings

/-!
Settings files. A file has sections, each begun by its name in brackets, and options, each a name
and a value with an equal sign or a colon between them. A line that is indented deeper than its
option continues the value; lines that begin with a hash or a semicolon are comments. The default
section feeds every other one and is none itself. A section or an option that comes twice is a fault
at once; lines that make no sense are collected and are a fault at the end.
-/

namespace Mailroom.SettingsFile

/-- The value of an option, its lines from the last to the first. -/
abbrev Options := Entries String (List (List Char))

structure Reading where
  defaults : Options
  sections : Entries String Options
  /-- The section being read. -/
  current : Option String
  /-- The option that a deeper line continues. -/
  option : Option String
  indent : Nat
  malformed : List (Nat × String)

def defaultName : String := "DEFAULT"

namespace Reading

def initial : Reading := ⟨[], [], none, none, 0, []⟩

def alterSection (name : String) (f : Options → Options) (r : Reading) : Reading :=
  if name == defaultName then { r with defaults := f r.defaults }
  else
    { r with sections := r.sections.map fun entry =>
        if entry.1 == name then (name, f entry.2) else entry }

def optionsOf (name : String) (r : Reading) : Options :=
  if name == defaultName then r.defaults
  else (r.sections.find? (· == ·) name).getD []

/-- Adds a line to the value of the option that was read last. -/
def continueOption (line : List Char) (r : Reading) : Reading :=
  match r.current, r.option with
  | some heading, some name =>
      r.alterSection heading fun options => options.map fun entry =>
        if entry.1 == name then (name, line :: entry.2) else entry
  | _, _ => r

/-- The name between the first bracket and the last closing one. -/
def heading? (line : List Char) : Option (List Char) :=
  match line with
  | '[' :: rest =>
      match (rest.reverse.dropWhile (· != ']')).drop 1 with
      | [] => none
      | name => some name.reverse
  | _ => none

def isDelimiter (c : Char) : Bool := c == '=' || c == ':'

def readHeading (file : String) (number : Nat) (name : String) (r : Reading) :
    Except Fault Reading :=
  if (r.sections.find? (· == ·) name).isSome then
    .error (.settingsFile (.repeatedSection file number name))
  else
    .ok { r with
      current := some name
      option := none
      sections := if name == defaultName then r.sections else r.sections ++ [(name, [])] }

/-- The first delimiter ends the name. An option without a name makes no sense, and its value is
kept all the same. -/
def readOption (file : String) (number : Nat) (line value : List Char) (heading : String)
    (r : Reading) : Except Fault Reading :=
  let bad := { r with
    malformed := r.malformed ++ [(number, Text.quoted (String.ofList line))] }
  match value.dropWhile fun c => !isDelimiter c with
  | [] => .ok bad
  | _ :: rest =>
      let given := Text.trimEnd (value.takeWhile fun c => !isDelimiter c)
      let name := String.ofList (Text.lower given)
      let r := if given.isEmpty then bad else r
      if ((r.optionsOf heading).find? (· == ·) name).isSome then
        .error (.settingsFile (.repeatedOption file number name heading))
      else
        .ok { r.alterSection heading (fun options => options ++ [(name, [Text.trim rest])]) with
          option := if name.isEmpty then none else some name }

def isComment (value : List Char) : Bool :=
  value.head? == some '#' || value.head? == some ';'

/-- Reads one line, which still has its line end. -/
def readLine (file : String) (number : Nat) (line : List Char) (r : Reading) :
    Except Fault Reading :=
  let value := Text.trim line
  let depth := (line.takeWhile Text.isBlank).length
  if isComment value then .ok r
  else if value.isEmpty then .ok (r.continueOption [])
  else if r.current.isSome && r.option.isSome && depth > r.indent then
    .ok (r.continueOption value)
  else
    let r := { r with indent := depth }
    match heading? value with
    | some name => r.readHeading file number (String.ofList name)
    | none =>
        match r.current with
        | none =>
            .error (.settingsFile (.noSection file number (Text.quoted (String.ofList line))))
        | some heading => r.readOption file number line value heading

def readLines (file : String) (number : Nat) : List (List Char) → Reading →
    Except Fault Reading
  | [], r => .ok r
  | line :: rest, r => do readLines file (number + 1) rest (← r.readLine file number line)

end Reading

/-- The lines of a text with their line feeds. -/
def linesWithEnds (line : List Char) : List Char → List (List Char)
  | [] => if line.isEmpty then [] else [line.reverse]
  | c :: rest =>
      if c == '\n' then ('\n' :: line).reverse :: linesWithEnds [] rest
      else linesWithEnds (c :: line) rest

/-- What a settings file says. -/
structure Contents where
  defaults : Entries String String
  sections : Entries String (Entries String String)
  deriving DecidableEq, Repr

namespace Contents

def empty : Contents := ⟨[], []⟩

def joined (options : Options) : Entries String String :=
  options.map fun entry =>
    (entry.1, String.ofList (Text.trimEnd (['\n'].intercalate entry.2.reverse)))

/-- Reads the text of a file. The name of the file only stands in the faults. -/
def read (file : String) (text : List Char) : Except Fault Contents := do
  let r ← Reading.readLines file 1 (linesWithEnds [] (Text.unifyLineEnds text)) .initial
  if r.malformed.isEmpty then
    return ⟨joined r.defaults, r.sections.map fun entry => (entry.1, joined entry.2)⟩
  else .error (.settingsFile (.malformedLines file r.malformed))

/-- The value of an option in a section, or else in the default section. -/
def find? (c : Contents) (options : Entries String String) (name : String) : Option String :=
  (options.find? (· == ·) name).orElse fun _ => c.defaults.find? (· == ·) name

end Contents

end Mailroom.SettingsFile
