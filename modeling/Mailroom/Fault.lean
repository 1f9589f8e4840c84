import Mailroom.Text.Quoted
import Mailroom.Text.Octets

/-!
Everything that can go wrong, as causes. A fault of composing is about a bad value, an address, a
header or a missing field, or about the wrong moment, a message that is built already or a session
that cannot be made. The other faults come from loosely typed values, from settings files, from
transactions and from the relay. `Fault.message` words each of them.
-/

namespace Mailroom

inductive AddressFault
  | notText (shown : String)
  | empty
  | malformed (shown : String)
  | blankName (email : String)
  | brokenName (email : String)
  | notPair (shown : String)
  | emptyList (role : String)
  deriving DecidableEq, Repr

inductive HeaderFault
  | emptyName
  | malformedName (shown : String)
  | reserved (name : String)
  | emptyValue (name : String)
  | brokenValue (name : String)
  deriving DecidableEq, Repr

/-- What a message cannot be built or sent without. -/
inductive Necessity
  | sender
  | recipients
  | delivery
  deriving DecidableEq, Repr

inductive SessionFault
  | notInteger (setting shown : String)
  | outOfRange (setting : String) (value : Int)
  | noLink
  deriving DecidableEq, Repr

/-- Why a charset has no octets for a character. -/
inductive EncodingReason
  /-- The charset ends before this number. -/
  | beyond (limit : Nat)
  /-- The charset has one octet for each of its characters, and this is none of them. -/
  | unmapped
  /-- The charset has longer codes, and this character has none. -/
  | illegal
  deriving DecidableEq, Repr

/-- The first run of characters that a charset lacks, by the code of its first character, the place
of it and the place after its last. -/
structure EncodingFault where
  charset : String
  reason : EncodingReason
  code : Nat
  start : Nat
  stop : Nat
  deriving DecidableEq, Repr

/-- An octet that stands for no character where nothing may take its place. -/
structure DecodingFault where
  octet : UInt8
  position : Nat
  deriving DecidableEq, Repr

inductive CharsetFault
  | unknown (name : String)
  /-- A transformation of another kind; `verb` is what was to be done with it. -/
  | notText (name verb : String)
  /-- A charset that gives up for a reason of its own. -/
  | failed (name verb reason : String)
  deriving DecidableEq, Repr

inductive CalendarFault
  | year (n : Int)
  | month
  | day
  | hour
  | minute
  | second
  | microsecond
  | offset (days : Int) (seconds : Nat)
  deriving DecidableEq, Repr

/-- A number that does not fit where it has to go, or a value that lies too deep. -/
inductive OverflowFault
  | float
  | infinite
  /-- Beyond 64 binary digits. -/
  | long
  /-- Beyond 32 binary digits. -/
  | int
  | aboveInt
  | belowInt
  | span (days : Int)
  /-- No room is left on the call stack. -/
  | depth
  deriving DecidableEq, Repr

inductive IndexFault
  | outOfRange (noun : String)
  | tooLarge
  deriving DecidableEq, Repr

/-- A value of a suitable kind that is out of place. -/
inductive ValueFault
  | unknownRole (shown : String)
  | unknownPolicy (shown : String)
  | noSuchFile (path : String)
  | pairLength (index length : Nat)
  | notANumber (shown : String)
  | tooManyDigits (count : Nat)
  /-- A number that has too many digits to be written. -/
  | tooLongToWrite
  | notAMessage
  | notJoined
  | otherTransaction
  | joinedElsewhere
  | unexpectedState (state : Int)
  | subtransaction
  | notDoomable
  | calendar (fault : CalendarFault)
  | nulInName
  deriving DecidableEq, Repr

/-- A value of an unsuitable kind. -/
inductive KindFault
  | notIterable (kind : String)
  | notHashable (kind : String)
  | notASequence (index : Nat)
  | readOnlyMapping
  | unknownSetting (name : String)
  | unknownFields (names : List String)
  | notConvertible (kind : String)
  | notIndexable (kind : String)
  | notJoinable (kind : String)
  | notComparable (left right : String)
  | mixedOffsets
  | notACharset (kind : String)
  | notAPath (kind : String)
  | repeatedArgument (callee name : String)
  | missingArguments (callee : String) (names : List String)
  | extraArguments (callee : String) (least most given : Nat)
  deriving DecidableEq, Repr

inductive AccessFault
  | lacking (kind name : String)
  | frozenAddress
  | frozenMessage
  | readOnlyProperty (name : String)
  deriving DecidableEq, Repr

/-- What keeps a message from going to the relay. -/
inductive RelayFault
  | noHost
  | noSession
  | noRecipients
  | greetingRefused (code : Int) (reply : String)
  | encryptionMissing
  | accountUnusable
  deriving DecidableEq, Repr

inductive SettingsFileFault
  | noSection (file : String) (line : Nat) (shown : String)
  | malformedLines (file : String) (found : List (Nat × String))
  | repeatedSection (file : String) (line : Nat) (heading : String)
  | repeatedOption (file : String) (line : Nat) (option heading : String)
  deriving DecidableEq, Repr

inductive TransactionFault
  | doomed
  | savepointInvalid
  | failedEarlier
  deriving DecidableEq, Repr

inductive Fault
  | address (cause : AddressFault)
  | header (cause : HeaderFault)
  | missing (field : Necessity)
  | alreadyBuilt
  | session (cause : SessionFault)
  | encoding (cause : EncodingFault)
  | value (cause : ValueFault)
  | kind (cause : KindFault)
  | access (cause : AccessFault)
  | relay (cause : RelayFault)
  | settingsFile (cause : SettingsFileFault)
  | transaction (cause : TransactionFault)
  | index (cause : IndexFault)
  | missingKey (shown : String)
  | overflow (cause : OverflowFault)
  | decoding (cause : DecodingFault)
  | charset (cause : CharsetFault)
  | embeddedHeader (shown : String)
  | sendFailed (call : String)
  | voteFailed
  | brokenEncryption
  deriving DecidableEq, Repr

/-- What a fault of composing is about. -/
inductive Family
  | composing
  | badValue
  | wrongMoment
  deriving DecidableEq, Repr

/-- The five kinds of composing faults belong to two families each; no other fault does. -/
def Fault.families : Fault → List Family
  | .address _ | .header _ | .missing _ => [.composing, .badValue]
  | .alreadyBuilt | .session _ => [.composing, .wrongMoment]
  | _ => []

def AddressFault.message : AddressFault → String
  | notText shown => "Address must be a string, not " ++ shown
  | empty => "Address must not be empty"
  | malformed shown => "Malformed address: " ++ shown
  | blankName email => "Personal name for " ++ email ++ " must not be empty"
  | brokenName email => "Personal name for " ++ email ++ " contains a line break"
  | notPair shown => "Expected an (email, personal) pair, got " ++ shown
  | emptyList role => "Address list for " ++ role ++ " must not be empty"

def HeaderFault.message : HeaderFault → String
  | emptyName => "Header name must not be empty"
  | malformedName shown => "Malformed header name: " ++ shown
  | reserved name => "Header " ++ name ++ " is set through the recipient lists"
  | emptyValue name => "Value of header " ++ name ++ " must not be empty"
  | brokenValue name => "Value of header " ++ name ++ " contains a line break"

def Necessity.message : Necessity → String
  | sender => "From address required"
  | recipients => "At least one receiver address required"
  | delivery => "No mail delivery configured"

def SessionFault.message : SessionFault → String
  | notInteger setting shown => setting ++ " must be an integer, not " ++ shown
  | outOfRange setting value => setting ++ " out of range: " ++ toString value
  | noLink => "No link produced a session"

def EncodingReason.message : EncodingReason → String
  | beyond limit => "ordinal not in range(" ++ toString limit ++ ")"
  | unmapped => "character maps to <undefined>"
  | illegal => "illegal multibyte sequence"

def EncodingFault.message (e : EncodingFault) : String :=
  let place :=
    if e.stop - e.start == 1 then
      "character '" ++ String.ofList (Text.codeEscape e.code) ++ "' in position " ++
        toString e.start
    else "characters in position " ++ toString e.start ++ "-" ++ toString (e.stop - 1)
  "'" ++ e.charset ++ "' codec can't encode " ++ place ++ ": " ++ e.reason.message

def DecodingFault.message (e : DecodingFault) : String :=
  "'ascii' codec can't decode byte 0x" ++ String.ofList (Text.hexDigits 2 e.octet.toNat) ++
    " in position " ++ toString e.position ++ ": ordinal not in range(128)"

/-- The start of a name that a message has room for. -/
def shortName (name : String) : String := String.ofList (name.toList.take 400)

def CharsetFault.message : CharsetFault → String
  | unknown name => "unknown encoding: " ++ name
  | notText name verb =>
      "'" ++ shortName name ++ "' is not a text encoding; use codecs." ++ verb ++
        "() to handle arbitrary codecs"
  | failed name verb reason =>
      verb ++ " with '" ++ name ++ "' codec failed (UnicodeError: " ++ reason ++ ")"

/-- A span of time as days and the seconds left over. -/
def spanText (days : Int) (seconds : Nat) : String :=
  let parts :=
    (if days == 0 then [] else ["days=" ++ toString days]) ++
      (if seconds == 0 then [] else ["seconds=" ++ toString seconds])
  "datetime.timedelta(" ++ (if parts.isEmpty then "0" else ", ".intercalate parts) ++ ")"

def CalendarFault.message : CalendarFault → String
  | year n => "year " ++ toString n ++ " is out of range"
  | month => "month must be in 1..12"
  | day => "day is out of range for month"
  | hour => "hour must be in 0..23"
  | minute => "minute must be in 0..59"
  | second => "second must be in 0..59"
  | microsecond => "microsecond must be in 0..999999"
  | offset days seconds =>
      "offset must be a timedelta strictly between -timedelta(hours=24) and " ++
        "timedelta(hours=24), not " ++ spanText days seconds ++ "."

def OverflowFault.message : OverflowFault → String
  | float => "int too large to convert to float"
  | infinite => "cannot convert float infinity to integer"
  | long => "Python int too large to convert to C long"
  | int => "Python int too large to convert to C int"
  | aboveInt => "signed integer is greater than maximum"
  | belowInt => "signed integer is less than minimum"
  | span days => "days=" ++ toString days ++ "; must have magnitude <= 999999999"
  | depth => "maximum recursion depth exceeded while getting the repr of an object"

def IndexFault.message : IndexFault → String
  | outOfRange noun => noun ++ "index out of range"
  | tooLarge => "cannot fit 'int' into an index-sized integer"

def ValueFault.message : ValueFault → String
  | unknownRole shown => "Unknown recipient role: " ++ shown
  | unknownPolicy shown => "Unknown recipient policy: " ++ shown
  | noSuchFile path => "No such configuration file: " ++ path
  | pairLength index length =>
      "dictionary update sequence element #" ++ toString index ++ " has length " ++
        toString length ++ "; 2 is required"
  | notANumber shown => "invalid literal for int() with base 10: " ++ shown
  | tooManyDigits count =>
      "Exceeds the limit (4300 digits) for integer string conversion: value has " ++
        toString count ++ " digits; use sys.set_int_max_str_digits() to increase the limit"
  | tooLongToWrite =>
      "Exceeds the limit (4300 digits) for integer string conversion; " ++
        "use sys.set_int_max_str_digits() to increase the limit"
  | notAMessage => "Message must provide repoze.mailbuilder.interfaces.IMessage"
  | notJoined => "Not in a transaction"
  | otherTransaction => "In a different transaction"
  | joinedElsewhere => "Already joined to another transaction"
  | unexpectedState state => "Unexpected data manager state: " ++ toString state
  | subtransaction => "Subtransactions not supported"
  | notDoomable => "non-doomable"
  | calendar fault => fault.message
  | nulInName => "embedded null character"

def KindFault.message : KindFault → String
  | notIterable kind => "'" ++ kind ++ "' object is not iterable"
  | notHashable kind => "unhashable type: '" ++ kind ++ "'"
  | notASequence index =>
      "cannot convert dictionary update sequence element #" ++ toString index ++ " to a sequence"
  | readOnlyMapping => "'mappingproxy' object does not support item assignment"
  | unknownSetting name =>
      "SessionConfig.__init__() got an unexpected keyword argument '" ++ name ++ "'"
  | unknownFields names => "Unknown message fields: " ++ ", ".intercalate names
  | notConvertible kind =>
      "int() argument must be a string, a bytes-like object or a real number, not '" ++ kind ++ "'"
  | notIndexable kind => "'" ++ kind ++ "' object is not subscriptable"
  | notJoinable kind => "sequence item 0: expected str instance, " ++ kind ++ " found"
  | notComparable left right =>
      "'<' not supported between instances of '" ++ left ++ "' and '" ++ right ++ "'"
  | mixedOffsets => "can't compare offset-naive and offset-aware datetimes"
  | notACharset kind => "decode() argument 'encoding' must be str, not " ++ kind
  | notAPath kind => "stat: path should be string, bytes, os.PathLike or integer, not " ++ kind
  | repeatedArgument callee name =>
      callee ++ "() got multiple values for argument '" ++ name ++ "'"
  | missingArguments callee names =>
      callee ++ "() missing " ++ toString names.length ++ " required positional argument" ++
        (if names.length == 1 then "" else "s") ++ ": " ++
        " and ".intercalate (names.map fun name => "'" ++ name ++ "'")
  | extraArguments callee least most given =>
      callee ++ "() takes " ++
        (if least == most then "" else "from " ++ toString least ++ " to ") ++ toString most ++
        " positional argument" ++ (if most == 1 then "" else "s") ++ " but " ++ toString given ++
        (if given == 1 then " was" else " were") ++ " given"

def AccessFault.message : AccessFault → String
  | lacking kind name => "'" ++ kind ++ "' object has no attribute '" ++ name ++ "'"
  | frozenAddress => "Address is immutable"
  | frozenMessage => "Message is immutable"
  | readOnlyProperty name =>
      "property '" ++ name ++ "' of 'MessageBuilder' object has no setter"

def RelayFault.message : RelayFault → String
  | noHost => "No relay host configured in the mail session"
  | noSession => "Message has no mail session"
  | noRecipients => "Message has no recipients"
  | greetingRefused code reply =>
      "Error sending HELO to the SMTP server (code=" ++ toString code ++ ", response=" ++ reply ++
        ")"
  | encryptionMissing => "TLS is not available but TLS is required"
  | accountUnusable => "Mailhost does not support ESMTP but a username is configured"

/-- Line numbers are right-aligned in a field of two columns. -/
def lineNumber (n : Nat) : String :=
  if n < 10 then " " ++ toString n else toString n

def SettingsFileFault.message : SettingsFileFault → String
  | noSection file line shown =>
      "File contains no section headers.\nfile: " ++ Text.quoted file ++ ", line: " ++
        toString line ++ "\n" ++ shown
  | malformedLines file found =>
      "Source contains parsing errors: " ++ Text.quoted file ++
        String.join (found.map fun entry =>
          "\n\t[line " ++ lineNumber entry.1 ++ "]: " ++ entry.2)
  | repeatedSection file line heading =>
      "While reading from " ++ Text.quoted file ++ " [line " ++ lineNumber line ++ "]: section " ++
        Text.quoted heading ++ " already exists"
  | repeatedOption file line option heading =>
      "While reading from " ++ Text.quoted file ++ " [line " ++ lineNumber line ++ "]: option " ++
        Text.quoted option ++ " in section " ++ Text.quoted heading ++ " already exists"

def TransactionFault.message : TransactionFault → String
  | doomed => "transaction doomed, cannot commit"
  | savepointInvalid => "invalidated by a later savepoint"
  | failedEarlier => "An operation previously failed"

def Fault.message : Fault → String
  | address cause => cause.message
  | header cause => cause.message
  | missing field => field.message
  | alreadyBuilt => "The message has already been built"
  | session cause => cause.message
  | encoding cause => cause.message
  | value cause => cause.message
  | kind cause => cause.message
  | access cause => cause.message
  | relay cause => cause.message
  | settingsFile cause => cause.message
  | transaction cause => cause.message
  | index cause => cause.message
  | missingKey shown => shown
  | overflow cause => cause.message
  | decoding cause => cause.message
  | charset cause => cause.message
  | embeddedHeader shown => "header value appears to contain an embedded header: " ++ shown
  | sendFailed call => call ++ " failed"
  | voteFailed => "vote failed"
  | brokenEncryption => "the encrypted connection broke"

/-- The first run of characters that a charset does not have. -/
def firstLacking? (charset : String) (reason : EncodingReason) (has : Char → Bool)
    (s : List Char) : Option EncodingFault :=
  let start := (s.takeWhile has).length
  match s.drop start with
  | [] => none
  | c :: rest =>
      let run := (rest.takeWhile fun d => !has d).length
      some ⟨charset, reason, c.toNat, start, start + 1 + run⟩

/-- The first run of characters with a code of `limit` or more. -/
def firstUnencodable? (charset : String) (limit : Nat) (s : List Char) : Option EncodingFault :=
  firstLacking? charset (.beyond limit) (fun c => c.toNat < limit) s

/-- Refuses text with characters outside ASCII. -/
def requireAscii (s : List Char) : Except Fault Unit :=
  match firstUnencodable? "ascii" 128 s with
  | none => .ok ()
  | some cause => .error (.encoding cause)

end Mailroom
