import Mailroom.Charset.Domain
import Mailroom.Charset.EastAsian
import Mailroom.Charset.Escaped
import Mailroom.Charset.OtherNames
import Mailroom.Charset.Pages.Latin
import Mailroom.Charset.Pages.Macintosh
import Mailroom.Charset.Pages.Mainframe
import Mailroom.Charset.Pages.Personal
import Mailroom.Charset.Pages.Regional
import Mailroom.Charset.Pages.Windows
import Mailroom.Charset.Shifted

/-!
Charsets by their names: text as octets and back. Names differ in spelling only if their letters,
digits and dots do, and many charsets have several. Octets that stand for no character are read as
the replacement sign by `read`, while `decode?` refuses them.
-/

namespace Mailroom

inductive Charset
  | ascii
  | latin1
  /-- With the byte order mark in front, or without. -/
  | utf8 (marked : Bool)
  /-- Without a byte order a text is written with the mark and read by it. -/
  | utf16 (order : Option Charset.ByteOrder)
  | utf32 (order : Option Charset.ByteOrder)
  | shifted
  | escaped (raw : Bool)
  | punycode
  | domain
  /-- The charset that no text is in. -/
  | undefined
  | page (p : Charset.Page)
  | tabled (t : Charset.Tabled)
  | switched (w : Charset.Switched)
  | braced

namespace Charset

/-- The charsets with schemes of their own. -/
def schemes : List (String × Charset) :=
  [
    ("ascii", .ascii), ("latin_1", .latin1), ("charmap", .latin1),
    ("utf_8", .utf8 false), ("utf_8_sig", .utf8 true), ("utf_7", .shifted),
    ("utf_16", .utf16 none), ("utf_16_le", .utf16 (some .little)),
    ("utf_16_be", .utf16 (some .big)),
    ("utf_32", .utf32 none), ("utf_32_le", .utf32 (some .little)),
    ("utf_32_be", .utf32 (some .big)),
    ("unicode_escape", .escaped false), ("raw_unicode_escape", .escaped true),
    ("punycode", .punycode), ("idna", .domain), ("undefined", .undefined),
    ("hz", .braced)]

def pages : List (String × Page) :=
  latinPages ++ windowsPages ++ personalPages ++ mainframePages ++ macintoshPages ++ regionalPages

/-- Names of transformations that do not make octets of text. -/
def transformations : List String :=
  ["base64_codec", "bz2_codec", "hex_codec", "quopri_codec", "rot_13", "uu_codec", "zlib_codec"]

/-- Goes on with a name; `gap` says that a separator is due before the next letter. -/
def plainNameFrom (started gap : Bool) : List Char → List Char
  | [] => []
  | c :: rest =>
      if c.isAlphanum || c == '.' then
        (if started && gap then ['_'] else []) ++ c.toLower :: plainNameFrom true false rest
      else plainNameFrom started true rest

/-- A name in small letters, with one underscore for whatever stands between its letters, digits and
dots. -/
def plainName (s : List Char) : List Char := plainNameFrom false false s

def find? (name : String) : Option Charset :=
  match schemes.lookup name with
  | some c => some c
  | none =>
      match pages.lookup name with
      | some p => some (.page p)
      | none =>
          ((EastAsian.tabled.find? fun t => t.name == name).map tabled).orElse fun _ =>
          (EastAsian.switched.find? fun w => w.name == name).map switched

/-- The names that a plain name may stand for. -/
def candidates (name : List Char) : List String :=
  let dotless := name.map fun c => if c == '.' then '_' else c
  let other := (otherName? (String.ofList name)).orElse fun _ => otherName? (String.ofList dotless)
  other.toList ++ (if name.contains '.' then [] else [String.ofList name])

/-- The charset with a name; `verb` is what is to be done with it. -/
def named (verb : String) (name : List Char) : Except Fault Charset :=
  let known := candidates (plainName name)
  if name.contains '\x00' then .error (.value .nulInName)
  else
    match known.findSome? find? with
    | some c => .ok c
    | none =>
        if known.any transformations.contains then
          .error (.charset (.notText (String.ofList name) verb))
        else .error (.charset (.unknown (String.ofList name)))

def encodeBelow (charset : String) (limit : Nat) (s : List Char) : Except Fault (List UInt8) :=
  match firstUnencodable? charset limit s with
  | some cause => .error (.encoding cause)
  | none => .ok (Text.ascii s)

/-- The octets of a text; `name` is what the charset is called in a fault. -/
def encode (name : String) (s : List Char) : Charset → Except Fault (List UInt8)
  | ascii => encodeBelow "ascii" 128 s
  | latin1 => encodeBelow "latin-1" 256 s
  | utf8 marked => .ok (Text.utf8 (if marked then byteOrderMark :: s else s))
  | utf16 none => .ok (encode16 .little (byteOrderMark :: s))
  | utf16 (some o) => .ok (encode16 o s)
  | utf32 none => .ok (encode32 .little (byteOrderMark :: s))
  | utf32 (some o) => .ok (encode32 o s)
  | shifted => .ok (Shifted.encode s)
  | escaped false => .ok (Escaped.encode s)
  | escaped true => .ok (Escaped.encodeRaw s)
  | punycode => .ok (Punycode.encode s)
  | domain =>
      match Domain.encodeText s with
      | .ok written => .ok (Text.ascii written)
      | .error cause => .error (.charset (.failed name "encoding" cause.message))
  | undefined => .error (.charset (.failed name "encoding" "undefined encoding"))
  | page p => p.encode s
  | tabled t => t.encode s
  | switched w => w.encode s
  | braced => Braced.encode s

/-- What octets stand for, piece by piece, in a charset that reads them so. -/
def pieces? (bs : List UInt8) : Charset → Option (List (Option Char))
  | ascii => some (bs.map fun b => if b < 128 then some (Char.ofNat b.toNat) else none)
  | latin1 => some ((Text.ofOctets bs).map some)
  | utf8 marked =>
      let mark := Text.utf8 [byteOrderMark]
      some (Text.decodeUtf8 (if marked && mark.isPrefixOf bs then bs.drop mark.length else bs))
  | utf16 none =>
      let (o, rest) := (marked16? bs).getD (.little, bs)
      some (decode16 o rest)
  | utf16 (some o) => some (decode16 o bs)
  | utf32 none =>
      let (o, rest) := (marked32? bs).getD (.little, bs)
      some (decode32 o rest)
  | utf32 (some o) => some (decode32 o bs)
  | shifted => some (Shifted.decodeFrom none bs)
  | escaped raw => some (Escaped.decode raw bs)
  | page p => some (p.decode bs)
  | tabled t => some (t.decode bs)
  | switched w => some (w.decode bs)
  | braced => some (Braced.decode bs)
  | punycode | domain | undefined => none

/-- The text of octets, with the replacement sign where they stand for nothing. -/
def read (name : String) (bs : List UInt8) (c : Charset) : Except Fault (List Char) :=
  match c.pieces? bs with
  | some pieces => .ok (pieces.map fun piece => piece.getD Text.replacement)
  | none =>
      match c with
      | punycode => Punycode.read bs
      | domain =>
          .error (.charset (.failed name "decoding" "Unsupported error handling replace"))
      | _ => .error (.charset (.failed name "decoding" "undefined encoding"))

/-- The text of octets that all stand for something. -/
def decode? (bs : List UInt8) (c : Charset) : Option (List Char) :=
  match c.pieces? bs with
  | some pieces => pieces.mapM id
  | none =>
      match c with
      | punycode => Punycode.decode? bs
      | domain => Domain.decode? bs
      | _ => none

/-- The octets of a text in the charset with a name. -/
def encodeNamed (name s : List Char) : Except Fault (List UInt8) := do
  (← named "encode" name).encode (String.ofList name) s

end Charset

end Mailroom
