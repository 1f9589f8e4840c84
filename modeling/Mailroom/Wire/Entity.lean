import Mailroom.Value
import Mailroom.Wire.Folding
import Mailroom.Wire.Parameters

/-!
Mail as it goes over the wire: fields in order, each a name and a value, and a payload. Names are
compared without regard to case. Setting the payload adds the three fields that describe it, unless
they are there, and codes it in base 64 unless a transfer encoding is named already.
-/

namespace Mailroom.Wire

inductive Payload
  | octets (bs : List UInt8)
  | other (v : Value)

structure Entity where
  fields : List (Value × Value)
  payload : Payload

namespace Entity

/-- Whether a field name is `name`, which is in lower case. -/
def isNamed (name : String) : Value → Bool
  | .text s => Text.lower s.toList == name.toList
  | _ => false

def has (name : String) (e : Entity) : Bool := e.fields.any fun field => isNamed name field.1

def get? (name : String) (e : Entity) : Option Value :=
  (e.fields.find? fun field => isNamed name field.1).map (·.2)

def getAll (name : String) (e : Entity) : List Value :=
  (e.fields.filter fun field => isNamed name field.1).map (·.2)

def remove (name : String) (e : Entity) : Entity :=
  { e with fields := e.fields.filter fun field => !isNamed name field.1 }

def append (name : String) (v : Value) (e : Entity) : Entity :=
  { e with fields := e.fields ++ [(.text name, v)] }

/-- All fields of the name go, and one comes at the end. -/
def replace (name : String) (v : Value) (e : Entity) : Entity :=
  (e.remove (Text.lowerText name)).append name v

def contentTypeName : String := "content-type"
def encodingName : String := "content-transfer-encoding"
def versionName : String := "mime-version"

def contentTypeText (e : Entity) : Except Fault (Option (List Char)) :=
  match e.get? contentTypeName with
  | none => .ok none
  | some v => v.plain.map fun s => some s.toList

/-- The charset that the content type names. -/
def charset? (e : Entity) : Except Fault (Option ParameterValue) := do
  match ← e.contentTypeText with
  | none => return none
  | some s => return Parameter.find? "charset".toList (← Parameter.ofHeader s)

def hasText : Option ParameterValue → Bool
  | some (.plain []) | none => false
  | some _ => true

def utf8Parameter (name : List Char) : Parameter := ⟨name, .plain "utf-8".toList⟩

/-- The content type with the charset changed to UTF-8 and all parameters written anew. -/
def renewed (s : List Char) : Except Fault (List Char) := do
  let written ← (← Parameter.ofHeader s).mapM fun p =>
    if Text.lower p.name == "charset".toList then (utf8Parameter "charset".toList).write
    else Parameter.write ⟨p.name, Parameter.unquoted p.value⟩
  return "; ".toList.intercalate (written.dropWhile (·.isEmpty))

/-- Makes the content type name UTF-8. A content type without a charset gets one at its end. -/
def nameCharset (e : Entity) : Except Fault Entity := do
  match e.get? contentTypeName with
  | none => return e.append "Content-Type" (.text "text/plain; charset=\"utf-8\"")
  | some v =>
      let s := (← v.plain).toList
      let result ←
        if hasText (← e.charset?) then renewed s
        else do
          let parameter ← (utf8Parameter "charset".toList).write
          if !v.truth then pure parameter
          else if v.isText then pure (s ++ "; ".toList ++ parameter)
          else .error (.kind (.notJoinable v.kind))
      if v.text? == some (String.ofList result) then return e
      else return e.replace "Content-Type" (.text (String.ofList result))

/-- The payload that a body stands for; a body that counts as false is an empty text. -/
def bodyPayload (body : Value) : Payload :=
  if !body.truth then .octets []
  else
    match body with
    | .text s => .octets (Text.utf8 s.toList)
    | .bytes bs => .octets bs
    | v => .other v

/-- Codes the payload, unless a transfer encoding is named already. -/
def encodePayload (e : Entity) : Except Fault Entity :=
  if e.has encodingName then .ok e
  else
    match e.payload with
    | .octets bs =>
        .ok (({ e with payload := .octets (Text.ascii (base64Lines bs)) } : Entity).append
          "Content-Transfer-Encoding" (.text "base64"))
    | .other v => .error (.access (.lacking v.kind "encode"))

def setBody (body : Value) (e : Entity) : Except Fault Entity := do
  let e := { e with payload := bodyPayload body }
  let e := if e.has versionName then e else e.append "MIME-Version" (.text "1.0")
  (← e.nameCharset).encodePayload

/-- The kind of content, `text/plain` unless a field says otherwise in the right form. -/
def contentType (e : Entity) : Except Fault (List Char) := do
  match ← e.contentTypeText with
  | none => return "text/plain".toList
  | some s =>
      let kind := Text.lower (Text.trim (s.takeWhile (· != ';')))
      return if kind.count '/' == 1 then kind else "text/plain".toList

/-- The text of an extended parameter in the charset that it names. A text that cannot be read so
stays as it is. -/
def reread (charset : Option (List Char)) (s : List Char) : Except Fault (List Char) :=
  let bs := Charset.Escaped.encodeRaw s
  let name := charset.getD []
  match Charset.named "decode" (if name.isEmpty then "us-ascii".toList else name) with
  | .ok c => .ok (if bs.isEmpty then s else (c.decode? bs).getD s)
  | .error (.charset _) => .ok s
  | .error fault => .error fault

/-- The charset of the content in lower case, if it is named in ASCII. -/
def contentCharset (e : Entity) : Except Fault (Option (List Char)) := do
  let lowered (s : List Char) := if Text.isAscii s then some (Text.lower s) else none
  match ← e.charset? with
  | none => return none
  | some (.plain s) => return lowered s
  | some (.extended charset _ s) => return lowered (← reread charset s)

def readAscii (bs : List UInt8) : Except Fault (List Char) := Charset.ascii.read "ascii" bs

/-- Octets as text in the charset of a parameter, or in ASCII if there is no such charset. -/
def readIn (charset : Option ParameterValue) (bs : List UInt8) : Except Fault (List Char) :=
  match charset with
  | none => readAscii bs
  | some (.extended ..) => .error (.kind (.notACharset "tuple"))
  | some (.plain name) =>
      match Charset.named "decode" name with
      | .ok c => c.read (String.ofList name) bs
      | .error (.charset _) => readAscii bs
      | .error fault => .error fault

/-- The payload as a text. Octets outside ASCII are read by the charset that is named. -/
def payloadValue (e : Entity) : Except Fault Value := do
  let _ ← ((e.get? encodingName).getD (.text "")).plain
  match e.payload with
  | .other v => return v
  | .octets bs =>
      let s ← if bs.all (· < 128) then readAscii bs else readIn (← e.charset?) bs
      return .text (String.ofList s)

/-- How a payload is written, which hangs on the kind of content. -/
inductive Writer
  | text
  | parts
  | enclosed
  | report

def writerFor (contentType : List Char) : Writer :=
  let dashed (s : List Char) : String := String.ofList (s.map fun c => if c == '-' then '_' else c)
  let main := dashed (contentType.takeWhile (· != '/'))
  let whole := main ++ "_" ++ dashed ((contentType.dropWhile (· != '/')).drop 1)
  let named (s : String) : Option Writer :=
    if s == "multipart" || s == "multipart_signed" then some .parts
    else if s == "message" then some .enclosed
    else if s == "message_delivery_status" then some .report
    else none
  ((named whole).orElse fun _ => named main).getD .text

def lackingPolicy (kind : String) : Except Fault (List UInt8) :=
  .error (.access (.lacking kind "policy"))

/-- The octets are taken for characters of a text that should be ASCII. -/
def rawAscii (bs : List UInt8) : Except Fault (List UInt8) :=
  match bs.findIdx? (· ≥ 128) with
  | none => .ok bs
  | some start =>
      let run := ((bs.drop start).takeWhile (· ≥ 128)).length
      .error (.encoding
        ⟨"ascii", .beyond 128, 0xDC00 + ((bs.getD start 0).toNat), start, start + run⟩)

/-- Line ends in a written text are single line feeds. -/
def unifyOctets : List UInt8 → List UInt8
  | [] => []
  | 13 :: 10 :: rest => 10 :: unifyOctets rest
  | 13 :: rest => 10 :: unifyOctets rest
  | b :: rest => b :: unifyOctets rest

def writeParts (e : Entity) : Except Fault (List UInt8) :=
  match e.payload with
  | .octets bs => do
      match ← e.payloadValue with
      | .text s =>
          requireAscii s.toList
          return bs
      | _ => return bs
  | .other (.list (first :: _)) => lackingPolicy first.kind
  | .other v => lackingPolicy v.kind

def writeReport (e : Entity) : Except Fault (List UInt8) := do
  match e.payload with
  | .octets [] => return []
  | .octets _ => lackingPolicy "str"
  | .other v =>
      match ← v.elements with
      | [] => return []
      | first :: _ => lackingPolicy first.kind

def writeEnclosed (e : Entity) : Except Fault (List UInt8) :=
  match e.payload with
  | .octets bs => rawAscii bs
  | .other (.list (first :: _)) => lackingPolicy first.kind
  | .other v => .error (.access (.lacking v.kind "encode"))

/-- The payload as it is written after the fields. -/
def writtenPayload (e : Entity) : Except Fault (List UInt8) := do
  match writerFor (← e.contentType) with
  | .parts => e.writeParts
  | .report => e.writeReport
  | .enclosed => e.writeEnclosed
  | .text =>
      match e.payload with
      | .octets bs =>
          if bs.all (· < 128) then
            let _ ← e.payloadValue
          return unifyOctets bs
      | .other v => .error (.access (.lacking v.kind "encode"))

/-- The number of columns that a field takes before its value. -/
def fieldLead : Value → Nat
  | .bytes bs => bs.length + 2
  | .text s => s.length + 2
  | _ => 2

/-- The value of a field as it is written. -/
def writtenValue (lead : Nat) : Value → Except Fault (List Char)
  | .text s => foldValue lead s.toList
  | .nothing => .ok []
  | v => .error (.access (.lacking v.kind "encode"))

/-- A field as it is written: name, colon, space, folded value. -/
def writtenField (name value : Value) : Except Fault (List UInt8) := do
  let label ← name.plain
  let folded ← writtenValue (fieldLead name) value
  let line := label.toList ++ ':' :: ' ' :: folded ++ ['\n']
  requireAscii line
  return Text.ascii line

/-- The octets of the whole: the fields, an empty line and the payload. -/
def write (e : Entity) : Except Fault (List UInt8) := do
  let payload ← e.writtenPayload
  let fields ← e.fields.mapM fun field => writtenField field.1 field.2
  return fields.flatten ++ 10 :: payload

end Entity

end Mailroom.Wire
