import ImportAtlas.Encoding.Utf16
import ImportAtlas.Encoding.Utf8
import ImportAtlas.Text.Lines

/-!
# Named encodings

An encoding is chosen by name.  Case and punctuation of the name do not matter, and the usual
aliases are known.  These are the encodings whose tables stand here.  Under any other name a machine
may know a further one, which is left to the machine, as are the names that such an encoding has.
Encodings that do not yield text are known by their names only.

Bytes are decoded in two situations that treat a byte order mark differently.  Bytes at hand are
decoded as a whole: without a mark UTF-16 is little-endian.  A file is read as a stream, which has
to begin with a mark in UTF-16, and which takes the beginning of a UTF-8 signature with nothing
behind it for a signature.
-/

namespace ImportAtlas

inductive Charset where
  | utf8
  | utf8Signed
  | ascii
  | latin1
  | windows1252
  | utf16
  | utf16Order (order : ByteOrder)
deriving DecidableEq

inductive CodecName where
  | charset (charset : Charset)
  | transformation
deriving DecidableEq

namespace Charset

/-- The letters, digits and points of a name in lower case, with one underscore for each gap between
them.  `gap` tells whether other characters stand since the last one kept. -/
def normalizeFrom (gap : Bool) : Text → Text
  | [] => []
  | c :: rest =>
      if c.isLetter || c.isDigit || c = '.' then
        if gap then CodePoint.ofChar '_' :: c.toAsciiLower :: normalizeFrom false rest
        else c.toAsciiLower :: normalizeFrom false rest
      else normalizeFrom true rest

def normalizeName (name : Text) : Text :=
  normalizeFrom false
    (name.dropWhile fun c => !(c.isLetter || c.isDigit || c = '.'))

def codecNames : List (CodecName × List String) :=
  [(.charset .utf8, ["utf_8", "u8", "utf", "utf8", "utf8_ucs2", "utf8_ucs4", "cp65001"]),
    (.charset .utf8Signed, ["utf_8_sig"]),
    (.charset .ascii,
      ["ascii", "646", "ansi_x3.4_1968", "ansi_x3_4_1968", "ansi_x3.4_1986", "cp367", "csascii",
        "ibm367", "iso646_us", "iso_646.irv_1991", "iso_ir_6", "us", "us_ascii"]),
    (.charset .latin1,
      ["latin_1", "8859", "cp819", "csisolatin1", "ibm819", "iso8859", "iso8859_1", "iso_8859_1",
        "iso_8859_1_1987", "iso_ir_100", "l1", "latin", "latin1"]),
    (.charset .windows1252, ["cp1252", "1252", "windows_1252"]),
    (.charset .utf16, ["utf_16", "u16", "utf16"]),
    (.charset (.utf16Order .little), ["utf_16_le", "unicodelittleunmarked", "utf_16le"]),
    (.charset (.utf16Order .big), ["utf_16_be", "unicodebigunmarked", "utf_16be"]),
    (.transformation, ["rot_13", "rot13"]),
    (.transformation, ["base64_codec", "base64", "base_64"]),
    (.transformation, ["bz2_codec", "bz2"]),
    (.transformation, ["hex_codec", "hex"]),
    (.transformation, ["quopri_codec", "quopri", "quoted_printable", "quotedprintable"]),
    (.transformation, ["uu_codec", "uu"]),
    (.transformation, ["zlib_codec", "zip", "zlib"])]

/-- The canonical names, in which a point stands for nothing else. -/
def isCanonicalName (name : Text) : Bool :=
  codecNames.any fun (_, names) =>
    match names with
    | [] => false
    | canonical :: _ => name = canonical

def lookup? (name : Text) : Option CodecName :=
  (codecNames.find? fun (_, names) => names.any fun (known : String) => name = known).map (·.1)

/-- What a name stands for.  In an alias a point may stand for an underscore. -/
def ofName? (name : Text) : Option CodecName :=
  let normal := normalizeName name
  let pointless := Text.replace '.' "_" normal
  match lookup? normal with
  | some found => some found
  | none => if isCanonicalName pointless then none else lookup? pointless

end Charset

/-!
## Decoding with a named encoding
-/

inductive DecodeFault where
  | undecodable (failure : DecodeFailure)
  | unknownEncoding (name : Text)
  | notText (name advice : Text)
  | missingMark
  | unencodableName (failure : Utf8.EncodeFailure)
  | zeroInName
deriving DecidableEq

def DecodeFault.message : DecodeFault → Text
  | .undecodable failure => failure.message
  | .unknownEncoding name => "unknown encoding: " ++ name
  | .notText name advice =>
      "'" ++ name ++ "' is not a text encoding; use " ++ advice ++ " to handle arbitrary codecs"
  | .missingMark => "UTF-16 stream does not start with BOM"
  | .unencodableName failure => failure.message
  | .zeroInName => "embedded null character"

namespace Charset

def nameFault? (name : Text) : Option DecodeFault :=
  match Utf8.encode name with
  | .error failure => some (.unencodableName failure)
  | .ok bytes => if bytes.contains 0 then some .zeroInName else none

/-- The encoding with a name.  The advice is what to use for one that is not for text. -/
def select (name advice : Text) : Except DecodeFault Charset :=
  match nameFault? name with
  | some fault => .error fault
  | none =>
      match ofName? name with
      | some (.charset charset) => .ok charset
      | some .transformation => .error (.notText name advice)
      | none => .error (.unknownEncoding name)

def signature : List UInt8 := [0xEF, 0xBB, 0xBF]

def decodeWhole (charset : Charset) (bytes : List UInt8) : Except DecodeFailure Text :=
  match charset with
  | .utf8 => Utf8.decode bytes
  | .utf8Signed =>
      if signature.isPrefixOf bytes then Utf8.decode (bytes.drop 3) else Utf8.decode bytes
  | .ascii => Decoder.ascii.decode bytes 0
  | .latin1 => Decoder.latin1.decode bytes 0
  | .windows1252 => Decoder.windows1252.decode bytes 0
  | .utf16 =>
      match Utf16.mark? bytes with
      | some (order, rest) => (Utf16.decoder order).decode rest 2
      | none => (Utf16.decoder .little).decode bytes 0
  | .utf16Order order => (Utf16.decoder order).decode bytes 0

def decodeStream (charset : Charset) (bytes : List UInt8) : Except DecodeFault Text :=
  let whole := (charset.decodeWhole bytes).mapError DecodeFault.undecodable
  match charset with
  | .utf8Signed => if bytes.length < 3 && bytes.isPrefixOf signature then .ok [] else whole
  | .utf16 => do
      let text ← whole
      if (Utf16.mark? bytes).isNone && 2 ≤ bytes.length then .error .missingMark else .ok text
  | _ => whole

end Charset

/-- The text of bytes at hand in the encoding with a name.  No bytes are no text in any encoding. -/
def decodeBytes (encoding : Text) (bytes : List UInt8) : Except DecodeFault Text :=
  match Charset.nameFault? encoding, bytes with
  | some fault, _ => .error fault
  | none, [] => .ok []
  | none, bytes => do
      let charset ← Charset.select encoding "codecs.decode()"
      (charset.decodeWhole bytes).mapError DecodeFault.undecodable

/-- The text of a file in the encoding with a name, with every line ending as a line feed. -/
def decodeFile (encoding : Text) (bytes : List UInt8) : Except DecodeFault Text := do
  let charset ← Charset.select encoding "codecs.open()"
  let text ← charset.decodeStream bytes
  return Text.unifyNewlines text

end ImportAtlas
