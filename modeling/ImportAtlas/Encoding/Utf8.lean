import ImportAtlas.Encoding.Decoder

/-!
# UTF-8

A lead byte says how many bytes follow and narrows the first of them, so that no code point has two
forms and surrogates have none.  A fault covers the bytes up to the first that does not fit.

File names need not be UTF-8.  They are read and written with each stray byte as one low surrogate,
which loses nothing.
-/

namespace ImportAtlas

namespace Utf8

/-- How many bytes follow a lead byte, the bounds of the first of them, and the bits that the lead
byte itself carries. -/
def lead? (byte : UInt8) : Option (Nat × UInt8 × UInt8 × Nat) :=
  if byte < 0x80 then some (0, 0x80, 0xBF, byte.toNat)
  else if byte < 0xC2 then none
  else if byte < 0xE0 then some (1, 0x80, 0xBF, byte.toNat - 0xC0)
  else if byte = 0xE0 then some (2, 0xA0, 0xBF, 0)
  else if byte = 0xED then some (2, 0x80, 0x9F, 0xD)
  else if byte < 0xF0 then some (2, 0x80, 0xBF, byte.toNat - 0xE0)
  else if byte = 0xF0 then some (3, 0x90, 0xBF, 0)
  else if byte < 0xF4 then some (3, 0x80, 0xBF, byte.toNat - 0xF0)
  else if byte = 0xF4 then some (3, 0x80, 0x8F, 4)
  else none

/-- Read `owed` bytes after `taken` others, the first of them between `low` and `high`. -/
def readTail (taken bits : Nat) (low high : UInt8) : (owed : Nat) → List UInt8 → Reading
  | 0, _ => .point (CodePoint.ofNat bits) taken
  | _ + 1, [] => .fault .unexpectedEnd taken
  | owed + 1, byte :: rest =>
      if low ≤ byte && byte ≤ high then
        readTail (taken + 1) (bits * 64 + (byte.toNat - 0x80)) 0x80 0xBF owed rest
      else .fault .invalidContinuation taken

def decoder : Decoder where
  codec := "utf-8"
  read byte rest :=
    match lead? byte with
    | none => .fault .invalidStart 1
    | some (owed, low, high, bits) => readTail 1 bits low high owed rest

def decode (bytes : List UInt8) : Except DecodeFailure Text := decoder.decode bytes 0

/-!
## Stray bytes
-/

/-- The surrogate that holds a stray byte. -/
def ofStrayByte (byte : UInt8) : CodePoint := CodePoint.ofNat (0xDC00 + byte.toNat)

def decodeNameFrom (decoded : Text) : (skip : Nat) → List UInt8 → Text
  | _, [] => decoded.reverse
  | skip + 1, _ :: rest => decodeNameFrom decoded skip rest
  | 0, byte :: rest =>
      match decoder.read byte rest with
      | .point value length => decodeNameFrom (value :: decoded) (length - 1) rest
      | .fault _ _ => decodeNameFrom (ofStrayByte byte :: decoded) 0 rest

def decodeName (bytes : List UInt8) : Text := decodeNameFrom [] 0 bytes

/-!
## Encoding
-/

/-- The bytes of a code point, as if surrogates were allowed. -/
def encodePoint (c : CodePoint) : List UInt8 :=
  let n := c.val
  if n < 0x80 then [UInt8.ofNat n]
  else if n < 0x800 then [UInt8.ofNat (0xC0 + n / 64), UInt8.ofNat (0x80 + n % 64)]
  else if n < 0x10000 then
    [UInt8.ofNat (0xE0 + n / 4096), UInt8.ofNat (0x80 + n / 64 % 64), UInt8.ofNat (0x80 + n % 64)]
  else
    [UInt8.ofNat (0xF0 + n / 262144), UInt8.ofNat (0x80 + n / 4096 % 64),
      UInt8.ofNat (0x80 + n / 64 % 64), UInt8.ofNat (0x80 + n % 64)]

/-- A run of `length` surrogates, starting with `first`, that has no encoding. -/
structure EncodeFailure where
  position : Nat
  length : Nat
  first : CodePoint
deriving DecidableEq

def EncodeFailure.message (failure : EncodeFailure) : Text :=
  let place : Text :=
    if failure.length = 1 then
      "character '\\u" ++ Text.fixed 16 4 failure.first.val ++ "' in position " ++
        Text.decimal failure.position
    else
      "characters in position " ++ Text.decimal failure.position ++ "-" ++
        Text.decimal (failure.position + failure.length - 1)
  "'utf-8' codec can't encode " ++ place ++ ": surrogates not allowed"

def surrogateRun? (kind : CodePoint → Bool) (t : Text) : Option EncodeFailure :=
  match t.dropWhile (!kind ·) with
  | [] => none
  | first :: rest =>
      let before := t.takeWhile (!kind ·)
      some ⟨before.length, (rest.takeWhile CodePoint.isSurrogate).length + 1, first⟩

def encode (t : Text) : Except EncodeFailure (List UInt8) :=
  match surrogateRun? CodePoint.isSurrogate t with
  | some failure => .error failure
  | none => .ok (t.flatMap encodePoint)

def strayByte? (c : CodePoint) : Option UInt8 :=
  if 0xDC80 ≤ c.val && c.val ≤ 0xDCFF then some (UInt8.ofNat (c.val - 0xDC00)) else none

def strangeRun? (name : Text) : Option EncodeFailure :=
  surrogateRun? (fun c => c.isSurrogate && (strayByte? c).isNone) name

def encodeName (t : Text) : List UInt8 :=
  t.flatMap fun c =>
    match strayByte? c with
    | some byte => [byte]
    | none => encodePoint c

/-- A file name as the system gives it back: stray bytes that make up a code point together are
that code point. -/
def canonicalName (t : Text) : Text := decodeName (encodeName t)

end Utf8

end ImportAtlas
