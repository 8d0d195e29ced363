import ImportAtlas.Text.Numeral

/-!
# Decoding bytes

A decoder reads one code point at a time from the front of the bytes.  Where it cannot, it names the
cause and how many bytes are concerned, and decoding ends there.  All encodings share this frame and
differ only in how they read.
-/

namespace ImportAtlas

inductive DecodeCause where
  | invalidStart
  | invalidContinuation
  | unexpectedEnd
  | truncated
  | loneLowSurrogate
  | unpairedSurrogate
  | notAscii
  | unassigned
  /-- What an encoding finds fault with that is not among those here. -/
  | other (reason : Text)
deriving DecidableEq

def DecodeCause.message : DecodeCause → Text
  | .invalidStart => "invalid start byte"
  | .invalidContinuation => "invalid continuation byte"
  | .unexpectedEnd => "unexpected end of data"
  | .truncated => "truncated data"
  | .loneLowSurrogate => "illegal encoding"
  | .unpairedSurrogate => "illegal UTF-16 surrogate"
  | .notAscii => "ordinal not in range(128)"
  | .unassigned => "character maps to <undefined>"
  | .other reason => reason

/-- Bytes that could not be decoded: `length` of them from `position` on, starting with `byte`. -/
structure DecodeFailure where
  codec : Text
  position : Nat
  length : Nat
  byte : UInt8
  cause : DecodeCause
deriving DecidableEq

def DecodeFailure.message (failure : DecodeFailure) : Text :=
  let place : Text :=
    if failure.length = 1 then
      "byte 0x" ++ Text.fixed 16 2 failure.byte.toNat ++ " in position " ++
        Text.decimal failure.position
    else
      "bytes in position " ++ Text.decimal failure.position ++ "-" ++
        Text.decimal (failure.position + failure.length - 1)
  "'" ++ failure.codec ++ "' codec can't decode " ++ place ++ ": " ++ failure.cause.message

inductive Reading where
  | point (value : CodePoint) (length : Nat)
  | fault (cause : DecodeCause) (length : Nat)

structure Decoder where
  codec : Text
  read : UInt8 → List UInt8 → Reading

namespace Decoder

/-- Decode to the end.  `decoded` holds the code points read so far, the last one first, and `skip`
bytes belong to the last of them. -/
def decodeFrom (decoder : Decoder) (decoded : Text) :
    (skip : Nat) → (position : Nat) → List UInt8 → Except DecodeFailure Text
  | _, _, [] => .ok decoded.reverse
  | skip + 1, position, _ :: rest => decodeFrom decoder decoded skip (position + 1) rest
  | 0, position, byte :: rest =>
      match decoder.read byte rest with
      | .point value length =>
          decodeFrom decoder (value :: decoded) (length - 1) (position + 1) rest
      | .fault cause length => .error ⟨decoder.codec, position, length, byte, cause⟩

/-- The text that the bytes stand for.  Positions in messages count from `offset`. -/
def decode (decoder : Decoder) (bytes : List UInt8) (offset : Nat) : Except DecodeFailure Text :=
  decodeFrom decoder [] 0 offset bytes

end Decoder

/-!
## Encodings with one byte a character
-/

namespace Decoder

def ofByte (byte : UInt8) : CodePoint := CodePoint.ofNat byte.toNat

def ascii : Decoder where
  codec := "ascii"
  read byte _ := if byte < 0x80 then .point (ofByte byte) 1 else .fault .notAscii 1

def latin1 : Decoder where
  codec := "latin-1"
  read byte _ := .point (ofByte byte) 1

/-- The code points of the bytes `0x80` to `0x9F` in the Windows code page 1252, zero for none. -/
def windows1252Upper : List Nat :=
  [0x20AC, 0, 0x201A, 0x0192, 0x201E, 0x2026, 0x2020, 0x2021, 0x02C6, 0x2030, 0x0160, 0x2039,
    0x0152, 0, 0x017D, 0, 0, 0x2018, 0x2019, 0x201C, 0x201D, 0x2022, 0x2013, 0x2014, 0x02DC,
    0x2122, 0x0161, 0x203A, 0x0153, 0, 0x017E, 0x0178]

def windows1252 : Decoder where
  codec := "charmap"
  read byte _ :=
    if 0x80 ≤ byte && byte < 0xA0 then
      match windows1252Upper.getD (byte.toNat - 0x80) 0 with
      | 0 => .fault .unassigned 1
      | n + 1 => .point (CodePoint.ofNat (n + 1)) 1
    else .point (ofByte byte) 1

end Decoder

end ImportAtlas
