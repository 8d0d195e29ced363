import ImportAtlas.Encoding.Decoder

/-!
# UTF-16

Two bytes make a unit, and a high surrogate with the low one after it makes a code point.  The byte
order is known from the name of the encoding or from a mark at the start.
-/

namespace ImportAtlas

inductive ByteOrder where
  | little
  | big
deriving DecidableEq

namespace Utf16

def unit : ByteOrder → UInt8 → UInt8 → Nat
  | .little, first, second => second.toNat * 256 + first.toNat
  | .big, first, second => first.toNat * 256 + second.toNat

def unit? (order : ByteOrder) : List UInt8 → Option Nat
  | first :: second :: _ => some (unit order first second)
  | _ => none

def decoder (order : ByteOrder) : Decoder where
  codec :=
    match order with
    | .little => "utf-16-le"
    | .big => "utf-16-be"
  read byte rest :=
    match rest with
    | [] => .fault .truncated 1
    | second :: rest =>
        let high := unit order byte second
        if high < 0xD800 || 0xE000 ≤ high then .point (CodePoint.ofNat high) 2
        else if 0xDC00 ≤ high then .fault .loneLowSurrogate 2
        else
          match unit? order rest with
          | none => .fault .unexpectedEnd (2 + rest.length)
          | some low =>
              if 0xDC00 ≤ low && low < 0xE000 then
                .point (CodePoint.ofNat (0x10000 + (high - 0xD800) * 0x400 + (low - 0xDC00))) 4
              else .fault .unpairedSurrogate 2

def mark? : List UInt8 → Option (ByteOrder × List UInt8)
  | 0xFF :: 0xFE :: rest => some (.little, rest)
  | 0xFE :: 0xFF :: rest => some (.big, rest)
  | _ => none

end Utf16

end ImportAtlas
