import MailDispatch.Text.CodePage
import MailDispatch.Text.Pieces
import MailDispatch.Text.Units
import MailDispatch.Text.Utf8

/-!
# Decoding text files

Bytes become text under an encoding, which is given or found by its name. Names are compared by
their letters and digits alone, and most encodings have several. The names that leave the byte order
open take it from the mark at the start of the data.
-/

namespace MailDispatch.Text

/-- The text that bytes stand for. -/
def decode : Encoding → List UInt8 → Except DecodeError (List Char)
  | .utf8, bs => decodeUtf8From 0 bs
  | .utf8Marked, bs => decodeMarkedUtf8 bs
  | .utf16 order marked, bs => decodeUtf16 order marked bs
  | .utf32 order marked, bs => decodeUtf32 order marked bs
  | .latin1, bs => .ok (decodeLatin1 bs)
  | .ascii, bs => decodeAsciiFrom 0 bs
  | .page p, bs => decodePageFrom p 0 bs

/-- Every kind of line break as a single line feed: a carriage return, also together with a line
feed after it, becomes one. -/
def unifyLineBreaks : List Char → List Char
  | [] => []
  | '\r' :: '\n' :: rest => '\n' :: unifyLineBreaks rest
  | '\r' :: rest => '\n' :: unifyLineBreaks rest
  | c :: rest => c :: unifyLineBreaks rest

/-! ## Names of encodings -/

/-- The runs of letters, digits and dots in a name. -/
def nameWords (s : List Char) : List (List Char) :=
  let keeps (c : Char) : Bool := c.isAlphanum || c = '.'
  (pieces ' ' (s.map fun c ↦ if keeps c then c.toLower else ' ')).filter fun w ↦ !w.isEmpty

/-- A name of an encoding in the form in which names are compared: small letters, and a low line
between words. -/
def encodingKey (name : String) : String :=
  String.ofList (List.intercalate ['_'] (nameWords name.toList))

/-- What a name of an encoding stands for. -/
inductive NamedEncoding where
  | fixed (e : Encoding)
  /-- UTF-16 in the byte order of the mark. -/
  | utf16ByMark
  /-- UTF-32 in the byte order of the mark. -/
  | utf32ByMark
  deriving DecidableEq, Repr

/-- The names of encodings in the form in which they are compared. -/
def encodingNames : List (NamedEncoding × List String) :=
  [(.fixed .utf8, ["utf_8", "u8", "utf", "utf8", "utf8_ucs2", "utf8_ucs4", "cp65001"]),
    (.fixed .utf8Marked, ["utf_8_sig"]),
    (.fixed .latin1, ["latin_1", "8859", "cp819", "csisolatin1", "ibm819", "iso8859", "iso8859_1",
      "iso_8859_1", "iso_8859_1_1987", "iso_ir_100", "l1", "latin", "latin1"]),
    (.fixed .ascii, ["ascii", "646", "ansi_x3.4_1968", "ansi_x3_4_1968", "ansi_x3.4_1986", "cp367",
      "csascii", "ibm367", "iso646_us", "iso_646.irv_1991", "iso_ir_6", "us", "us_ascii"]),
    (.utf16ByMark, ["utf_16", "u16", "utf16"]),
    (.fixed (.utf16 .little false), ["utf_16_le", "unicodelittleunmarked", "utf_16le"]),
    (.fixed (.utf16 .big false), ["utf_16_be", "unicodebigunmarked", "utf_16be"]),
    (.utf32ByMark, ["utf_32", "u32", "utf32"]),
    (.fixed (.utf32 .little false), ["utf_32_le", "utf_32le"]),
    (.fixed (.utf32 .big false), ["utf_32_be", "utf_32be"]),
    (.fixed (.page .latin9), ["iso8859_15", "iso_8859_15", "l9", "latin9"]),
    (.fixed (.page .western), ["cp1252", "1252", "windows_1252"])]

/-- The encoding that a name stands for. A dot in the name may be meant as a low line. -/
def NamedEncoding.ofName? (name : String) : Option NamedEncoding :=
  let key := encodingKey name
  let undotted := key.map fun c ↦ if c = '.' then '_' else c
  let find (key : String) := (encodingNames.find? fun e ↦ e.2.contains key).map (·.1)
  (find key).or (if isProper undotted then none else find undotted)
where
  /-- Proper names are those in which no dot may stand. -/
  isProper (key : String) : Bool := encodingNames.any fun e ↦ e.2.head? = some key

/-- Why a named encoding does not serve. -/
inductive EncodingError where
  | unknown (name : String)
  /-- The data lack the mark that a family of encodings needs. -/
  | unmarked (family : String)
  deriving DecidableEq, Repr

/-- An encoding error in words. -/
def EncodingError.message : EncodingError → String
  | .unknown name => "unknown encoding: " ++ name
  | .unmarked family => family ++ " stream does not start with BOM"

/-- The encoding of data under a name that takes the byte order from a mark: without one, the data
may be empty or mean nothing in the usual order. -/
def unmarkedEncoding (family : String) (e : Encoding) (bs : List UInt8) :
    Except EncodingError Encoding :=
  match decode e bs with
  | .ok (_ :: _) => .error (.unmarked family)
  | _ => .ok e

/-- The encoding of data under a name. -/
def NamedEncoding.select : NamedEncoding → List UInt8 → Except EncodingError Encoding
  | .fixed e, _ => .ok e
  | .utf16ByMark, bs => match bs with
    | 0xff :: 0xfe :: _ => .ok (.utf16 .little true)
    | 0xfe :: 0xff :: _ => .ok (.utf16 .big true)
    | _ => unmarkedEncoding "UTF-16" (.utf16 .little false) bs
  | .utf32ByMark, bs => match bs with
    | 0xff :: 0xfe :: 0 :: 0 :: _ => .ok (.utf32 .little true)
    | 0 :: 0 :: 0xfe :: 0xff :: _ => .ok (.utf32 .big true)
    | _ => unmarkedEncoding "UTF-32" (.utf32 .little false) bs

/-- The encoding of data under a name, whatever the name. -/
def Encoding.forName (name : String) (bs : List UInt8) : Except EncodingError Encoding :=
  match NamedEncoding.ofName? name with
  | some e => e.select bs
  | none => .error (.unknown name)

end MailDispatch.Text
