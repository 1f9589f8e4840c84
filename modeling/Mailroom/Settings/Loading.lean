import Mailroom.Settings.File

/-!
Settings from a file. Each of the twelve settings has an option of its own in the section, which is
a text, a whole number or a switch. A text may be empty or the word for nothing, and the setting is
then unset.
-/

namespace Mailroom

inductive OptionKind
  | textOrNothing
  | integerOrNothing
  | switch
  deriving DecidableEq, Repr

/-- A switch is on if its text begins like one of three words for it. -/
def readSwitch (v : Value) : Except Fault Bool := do
  let s ← v.plain
  return match (Text.lower s.toList).head? with
    | some c => c == 't' || c == 'y' || c == '1'
    | none => false

def readText (v : Value) : Value :=
  match v with
  | .text s => if s == "" || s == "None" then .nothing else v
  | _ => v

def readNumber (v : Value) : Except Fault Value :=
  match readText v with
  | .nothing => .ok .nothing
  | given => given.toInt.map .int

def OptionKind.read (kind : OptionKind) (v : Value) : Except Fault Value :=
  match kind with
  | textOrNothing => .ok (readText v)
  | integerOrNothing => readNumber v
  | switch => (readSwitch v).map .bool

/-- The option of a setting. -/
def Setting.option : Setting → String × OptionKind
  | hostName => ("hostname", .textOrNothing)
  | smtpPort => ("port", .integerOrNothing)
  | sslOnConnect => ("ssl", .switch)
  | startTlsEnabled => ("starttls", .switch)
  | startTlsRequired => ("starttls_required", .switch)
  | sslCheckServerIdentity => ("check_server_identity", .switch)
  | bounceAddress => ("bounce_address", .textOrNothing)
  | username => ("username", .textOrNothing)
  | password => ("password", .textOrNothing)
  | socketTimeout => ("timeout", .integerOrNothing)
  | socketConnectionTimeout => ("connection_timeout", .integerOrNothing)
  | debug => ("debug", .switch)

/-- The order in which options are read. -/
def Setting.readingOrder : List Setting :=
  [hostName, smtpPort, sslOnConnect, startTlsEnabled, startTlsRequired, sslCheckServerIdentity,
    bounceAddress, username, password, socketTimeout, socketConnectionTimeout, debug]

namespace Settings

/-- Sets what the options of a section say; `find?` gives the text of an option. -/
def ofOptions (find? : String → Option String) : Except Fault Settings :=
  Setting.readingOrder.foldlM (fun c setting =>
    match find? setting.option.1 with
    | none => .ok c
    | some s => do return c.set setting (← setting.option.2.read (.text s))) initial

/-- The settings in a section. A section that is not there sets nothing. -/
def ofContents (contents : SettingsFile.Contents) (heading : Value) : Except Fault Settings := do
  heading.requireKey
  match heading.text?.bind fun name => contents.sections.find? (· == ·) name with
  | none => return initial
  | some options => ofOptions (contents.find? options)

def defaultHeading : Value := .text "mail"

/-- What is found under a path. -/
inductive Found
  | nowhere
  | unreadable
  | text (s : String)

/-- The longest path that can be looked up, in octets. -/
def pathLimit : Nat := 4095

/-- The directories that every machine has at the top. -/
def topDirectories : List String :=
  ["bin", "boot", "dev", "etc", "home", "lib", "media", "mnt", "opt", "proc", "root", "run", "sbin",
    "srv", "sys", "tmp", "usr", "var"]

/-- The directories of a path that begins at the top, last one first; `none` if it leaves what is
known. -/
def climb (place : List String) : List String → Option (List String)
  | [] => some place
  | ".." :: rest => climb (place.drop 1) rest
  | part :: rest =>
      if place == [] && topDirectories.contains part then climb [part] rest else none

/-- What a directory without any file but `file` holds under a path. Directories are there but
cannot be read. -/
def Found.inDirectory (file : String) (contents : Option String) (path : String) : Found :=
  let parts := (path.splitOn "/").filter fun part => part != "" && part != "."
  let endsInFile := !path.endsWith "/" && !path.endsWith "/."
  if path == "" || path.utf8ByteSize > pathLimit then .nowhere
  else if path.startsWith "/" then if (climb [] parts).isSome then .unreadable else .nowhere
  else if parts.all (· == "..") then .unreadable
  else if parts == [file] && endsInFile then (contents.map Found.text).getD .nowhere
  else .nowhere

/-- The settings in a section of the file under a path. What cannot be read sets nothing. -/
def load (path : String) (found : Found) (heading : Value) : Except Fault Settings := do
  match found with
  | .nowhere => .error (.value (.noSuchFile path))
  | .unreadable => ofContents .empty heading
  | .text s => ofContents (← SettingsFile.Contents.read path s.toList) heading

end Settings

end Mailroom
