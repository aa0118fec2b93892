import AccountPanel.Percent
import AccountPanel.Text.Parts

/-!
# Form fields in a URL or a body

Lists of fields as `application/x-www-form-urlencoded` text. Reading splits at `&`, skips empty
segments, splits a segment at its first `=`, reads `+` as a space, replaces percent triples and
decodes the octets leniently as UTF-8. Writing percent-encodes both parts of every field.
-/

namespace AccountPanel.Urlencoded

/-- A field: its name and its value. -/
abbrev Field := String × String

/-- Read one part of a field. -/
def decodePart (octets : List UInt8) : String :=
  let spaced := octets.map fun octet => if octet = 0x2B then 0x20 else octet
  String.ofList (Text.Utf8.decodeLossy (Percent.decode spaced))

/-- Read one segment. A segment without `=` is a name with an empty value. -/
def decodeField (segment : List UInt8) : Field :=
  let name := segment.takeWhile (· != 0x3D)
  let value := (segment.dropWhile (· != 0x3D)).drop 1
  (decodePart name, decodePart value)

/-- Read all fields in order. -/
def decode (octets : List UInt8) : List Field :=
  ((Text.partsBetween 0x26 octets).filter (! ·.isEmpty)).map decodeField

/-- Write one field. -/
def encodeField (field : Field) : String :=
  Percent.encode field.1 ++ "=" ++ Percent.encode field.2

/-- Write all fields in order. -/
def encode (fields : List Field) : String :=
  String.intercalate "&" (fields.map encodeField)

/-- The query of a link: fields with an empty value are left out. -/
def query (fields : List Field) : String :=
  encode (fields.filter fun field => !field.2.isEmpty)

end AccountPanel.Urlencoded
