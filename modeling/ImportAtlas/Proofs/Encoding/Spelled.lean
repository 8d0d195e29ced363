import ImportAtlas.Proofs.Encoding.Decoded

/-!
# Spelled texts

An encoding writes each code point as bytes of its own, or has none for it, and a text as the bytes
of its code points one after another.  What a decoder reads is one code point less of the same
bytes.  So the bytes that a decoder takes are exactly those that some text is written as, and it
gives back that text.
-/

namespace ImportAtlas

/-- The bytes are those of the code points of a text, one after another. -/
inductive SpelledBy (write : CodePoint → Option (List UInt8)) : Text → List UInt8 → Prop where
  | nil : SpelledBy write [] []
  | cons {c : CodePoint} {own : List UInt8} {t : Text} {bytes : List UInt8}
      (hown : write c = some own) (hrest : SpelledBy write t bytes) :
      SpelledBy write (c :: t) (own ++ bytes)

def Utf8.write? (c : CodePoint) : Option (List UInt8) :=
  if c.isSurrogate then none else some (encodePoint c)

def Utf16.unitBytes : ByteOrder → Nat → List UInt8
  | .little, unit => [UInt8.ofNat (unit % 256), UInt8.ofNat (unit / 256)]
  | .big, unit => [UInt8.ofNat (unit / 256), UInt8.ofNat (unit % 256)]

/-- The bytes of a code point in UTF-16: one unit, or two surrogates that share its bits. -/
def Utf16.write? (order : ByteOrder) (c : CodePoint) : Option (List UInt8) :=
  if c.isSurrogate then none
  else if c.val < 0x10000 then some (unitBytes order c.val)
  else
    some (unitBytes order (0xD800 + (c.val - 0x10000) / 0x400) ++
      unitBytes order (0xDC00 + (c.val - 0x10000) % 0x400))

def byteBelow? (limit : Nat) (c : CodePoint) : Option (List UInt8) :=
  if c.val < limit then some [UInt8.ofNat c.val] else none

def windows1252Place? (n : Nat) : Option Nat :=
  (List.range 32).find? fun place => Decoder.windows1252Upper.getD place 0 = n

def windows1252Byte? (c : CodePoint) : Option (List UInt8) :=
  if c.val < 0x80 ∨ 0xA0 ≤ c.val ∧ c.val < 0x100 then some [UInt8.ofNat c.val]
  else (windows1252Place? c.val).map fun place => [UInt8.ofNat (0x80 + place)]

variable {write : CodePoint → Option (List UInt8)} {t : Text} {bytes rest : List UInt8}
  {byte : UInt8} {c : CodePoint} {length n : Nat}

/-!
## Reading what is written
-/

/-- A decoder reads a code point exactly where its bytes stand. -/
structure Decoder.Inverts (decoder : Decoder) (write : CodePoint → Option (List UInt8)) : Prop where
  reads {c : CodePoint} {own : List UInt8} (h : write c = some own) :
    ∃ byte tail, own = byte :: tail ∧
      ∀ more, decoder.read byte (tail ++ more) = .point c (tail.length + 1)
  writes {byte : UInt8} {rest : List UInt8} {c : CodePoint} {length : Nat}
    (h : decoder.read byte rest = .point c length) :
    ∃ tail more, rest = tail ++ more ∧ length = tail.length + 1 ∧ write c = some (byte :: tail)

namespace Decoder

variable {decoder : Decoder}

theorem decodeFrom_point {tail more : List UInt8} (decoded : Text) (position : Nat)
    (h : decoder.read byte (tail ++ more) = .point c (tail.length + 1)) :
    decoder.decodeFrom decoded 0 position (byte :: (tail ++ more)) =
      decoder.decodeFrom (c :: decoded) 0 (position + 1 + tail.length) more := by
  rw [decodeFrom, h]
  exact decodeFrom_skip decoder (c :: decoded) (position + 1) tail more

theorem Inverts.decodeFrom_of_spelledBy (hinverts : decoder.Inverts write)
    (h : SpelledBy write t bytes) (decoded : Text) (position : Nat) :
    decoder.decodeFrom decoded 0 position bytes = .ok (decoded.reverse ++ t) := by
  induction h generalizing decoded position with
  | nil => exact congrArg Except.ok (List.append_nil _).symm
  | cons hown hrest ih =>
      rcases hinverts.reads hown with ⟨byte, tail, rfl, hread⟩
      rw [List.cons_append, decodeFrom_point decoded position (hread _), ih]
      simp

theorem Inverts.spelledBy_of_decodeFrom (hinverts : decoder.Inverts write) {decoded result : Text}
    {position : Nat} (h : decoder.decodeFrom decoded 0 position bytes = .ok result) :
    ∃ t, result = decoded.reverse ++ t ∧ SpelledBy write t bytes := by
  induction hlength : bytes.length using Nat.strong_induction_on
    generalizing bytes decoded position with
  | _ length ih =>
      cases bytes with
      | nil => exact ⟨[], by simpa using (Except.ok.inj h).symm, .nil⟩
      | cons byte rest =>
          cases hread : decoder.read byte rest with
          | fault cause count =>
              rw [decodeFrom, hread] at h
              cases h
          | point c count =>
              rcases hinverts.writes hread with ⟨tail, more, rfl, rfl, hown⟩
              rw [decodeFrom_point decoded position hread] at h
              have hshorter : more.length < length := by
                rw [← hlength, List.length_cons, List.length_append]
                omega
              rcases ih more.length hshorter h rfl with ⟨t, rfl, hspelled⟩
              exact ⟨c :: t, by simp, .cons hown hspelled⟩

/-- A decoder takes the bytes of texts and gives the texts back. -/
theorem Inverts.decode_eq_ok_iff (hinverts : decoder.Inverts write) (offset : Nat) :
    decoder.decode bytes offset = .ok t ↔ SpelledBy write t bytes := by
  constructor
  · intro h
    rcases hinverts.spelledBy_of_decodeFrom h with ⟨t, rfl, hspelled⟩
    exact hspelled
  · intro h
    exact hinverts.decodeFrom_of_spelledBy h [] offset

end Decoder

/-!
## UTF-8
-/

namespace Utf8

variable {taken bits owed : Nat} {low high : UInt8}

theorem exists_of_readTail (h : readTail taken bits low high (owed + 1) rest = .point c length) :
    ∃ byte more, rest = byte :: more ∧ low.toNat ≤ byte.toNat ∧ byte.toNat ≤ high.toNat ∧
      readTail (taken + 1) (bits * 64 + (byte.toNat - 0x80)) 0x80 0xBF owed more =
        .point c length := by
  cases rest with
  | nil => cases h
  | cons byte more =>
      simp only [readTail] at h
      split at h
      case isFalse => cases h
      case isTrue hrange =>
        simp only [Bool.and_eq_true, decide_eq_true_eq, UInt8.le_iff_toNat_le] at hrange
        exact ⟨byte, more, rfl, hrange.left, hrange.right, h⟩

theorem eq_of_readTail_zero (h : readTail taken bits low high 0 rest = .point c length)
    (hbits : bits < 0x110000) : c.val = bits ∧ length = taken := by
  simp only [readTail, Reading.point.injEq] at h
  rw [← h.left, ← h.right]
  exact ⟨CodePoint.val_ofNat hbits, rfl⟩

/-- A lead byte is its length with its bits, and what follows it makes no shorter form and no number
beyond the last code point. -/
theorem form_of_lead? (h : lead? byte = some (owed, low, high, bits)) :
    (owed = 0 ∧ byte.toNat = bits ∧ bits < 0x80) ∨
      (0x80 ≤ low.toNat ∧ high.toNat ≤ 0xBF ∧
        ((owed = 1 ∧ byte.toNat = 0xC0 + bits ∧ 2 ≤ bits ∧ bits < 0x20) ∨
          (owed = 2 ∧ byte.toNat = 0xE0 + bits ∧ bits < 0x10 ∧ (bits = 0 → 0xA0 ≤ low.toNat)) ∨
          (owed = 3 ∧ byte.toNat = 0xF0 + bits ∧ bits < 5 ∧ (bits = 0 → 0x90 ≤ low.toNat) ∧
            (bits = 4 → high.toNat ≤ 0x8F)))) := by
  unfold lead? at h
  simp only [UInt8.lt_iff_toNat_lt, ← UInt8.toNat_inj, UInt8.reduceToNat] at h
  repeat' split at h
  all_goals cases h
  all_goals simp
  all_goals omega

theorem eq_ofNat (h : byte.toNat = n) : byte = UInt8.ofNat n := by
  rw [← h, UInt8.ofNat_toNat]

theorem exists_of_read (h : decoder.read byte rest = .point c length) :
    ∃ tail more, rest = tail ++ more ∧ length = tail.length + 1 ∧
      encodePoint c = byte :: tail := by
  simp only [decoder] at h
  cases hlead : lead? byte with
  | none =>
      rw [hlead] at h
      cases h
  | some found =>
      rcases found with ⟨owed, low, high, bits⟩
      rw [hlead] at h
      dsimp only at h
      have htail : (0x80 : UInt8).toNat = 0x80 ∧ (0xBF : UInt8).toNat = 0xBF := ⟨rfl, rfl⟩
      rcases form_of_lead? hlead with
        ⟨rfl, hbyte, hbits⟩ |
          ⟨hlow, hhigh, ⟨rfl, hbyte, hmin, hmax⟩ | ⟨rfl, hbyte, hmax, hshort⟩ |
            ⟨rfl, hbyte, hmax, hshort, hlast⟩⟩
      · rcases eq_of_readTail_zero h (by omega) with ⟨hc, rfl⟩
        refine ⟨[], rest, rfl, rfl, ?_⟩
        rw [encodePoint, if_pos (by omega), eq_ofNat hbyte, hc]
      · rcases exists_of_readTail h with ⟨first, more, rfl, hfirst, hfirst', h⟩
        rcases eq_of_readTail_zero h (by omega) with ⟨hc, rfl⟩
        refine ⟨[first], more, rfl, rfl, ?_⟩
        rw [encodePoint, if_neg (by omega), if_pos (by omega),
          eq_ofNat (show byte.toNat = 0xC0 + c.val / 64 by omega),
          eq_ofNat (show first.toNat = 0x80 + c.val % 64 by omega)]
      · rcases exists_of_readTail h with ⟨first, more, rfl, hfirst, hfirst', h⟩
        rcases exists_of_readTail h with ⟨second, more, rfl, hsecond, hsecond', h⟩
        rcases eq_of_readTail_zero h (by omega) with ⟨hc, rfl⟩
        refine ⟨[first, second], more, rfl, rfl, ?_⟩
        rw [encodePoint, if_neg (by omega), if_neg (by omega), if_pos (by omega),
          eq_ofNat (show byte.toNat = 0xE0 + c.val / 4096 by omega),
          eq_ofNat (show first.toNat = 0x80 + c.val / 64 % 64 by omega),
          eq_ofNat (show second.toNat = 0x80 + c.val % 64 by omega)]
      · rcases exists_of_readTail h with ⟨first, more, rfl, hfirst, hfirst', h⟩
        rcases exists_of_readTail h with ⟨second, more, rfl, hsecond, hsecond', h⟩
        rcases exists_of_readTail h with ⟨third, more, rfl, hthird, hthird', h⟩
        rcases eq_of_readTail_zero h (by omega) with ⟨hc, rfl⟩
        refine ⟨[first, second, third], more, rfl, rfl, ?_⟩
        rw [encodePoint, if_neg (by omega), if_neg (by omega), if_neg (by omega),
          eq_ofNat (show byte.toNat = 0xF0 + c.val / 262144 by omega),
          eq_ofNat (show first.toNat = 0x80 + c.val / 4096 % 64 by omega),
          eq_ofNat (show second.toNat = 0x80 + c.val / 64 % 64 by omega),
          eq_ofNat (show third.toNat = 0x80 + c.val % 64 by omega)]

theorem inverts_decoder : decoder.Inverts write? where
  reads := by
    intro c own h
    unfold write? at h
    split at h
    case isTrue => cases h
    case isFalse hsurrogate =>
      cases h
      exact read_encodePoint (by simpa using hsurrogate)
  writes := by
    intro byte rest c length h
    rcases exists_of_read h with ⟨tail, more, hrest, hlength, hbytes⟩
    refine ⟨tail, more, hrest, hlength, ?_⟩
    rw [write?, isSurrogate_of_read h, ← hbytes]
    rfl

end Utf8

/-!
## UTF-16
-/

namespace Utf16

variable {order : ByteOrder}

theorem exists_unitBytes (order : ByteOrder) (h : n < 0x10000) :
    ∃ first second, unitBytes order n = [first, second] ∧ unit order first second = n := by
  have hlow := Utf8.toNat_ofNat (show n % 256 < 256 by omega)
  have hhigh := Utf8.toNat_ofNat (show n / 256 < 256 by omega)
  cases order with
  | little => exact ⟨_, _, rfl, by rw [unit, hlow, hhigh]; omega⟩
  | big => exact ⟨_, _, rfl, by rw [unit, hlow, hhigh]; omega⟩

theorem unitBytes_unit (order : ByteOrder) (first second : UInt8) :
    unitBytes order (unit order first second) = [first, second] := by
  have hfirst := first.toNat_lt
  have hsecond := second.toNat_lt
  cases order with
  | little =>
      rw [unit, unitBytes, ← Utf8.eq_ofNat (show first.toNat = _ by omega),
        ← Utf8.eq_ofNat (show second.toNat = _ by omega)]
  | big =>
      rw [unit, unitBytes, ← Utf8.eq_ofNat (show first.toNat = _ by omega),
        ← Utf8.eq_ofNat (show second.toNat = _ by omega)]

theorem unit_lt (order : ByteOrder) (first second : UInt8) : unit order first second < 0x10000 := by
  have hfirst := first.toNat_lt
  have hsecond := second.toNat_lt
  cases order <;> rw [unit] <;> omega

theorem read_plain (order : ByteOrder) {first second : UInt8}
    (h : unit order first second < 0xD800 ∨ 0xE000 ≤ unit order first second) :
    (decoder order).read first (second :: rest) =
      .point (CodePoint.ofNat (unit order first second)) 2 := by
  simp only [decoder]
  rw [if_pos (by simpa using h)]

theorem read_pair (order : ByteOrder) (first second third fourth : UInt8) (rest : List UInt8)
    (hhigh : 0xD800 ≤ unit order first second) (hhigh' : unit order first second < 0xDC00)
    (hlow : 0xDC00 ≤ unit order third fourth) (hlow' : unit order third fourth < 0xE000) :
    (decoder order).read first (second :: third :: fourth :: rest) =
      .point (CodePoint.ofNat (0x10000 + (unit order first second - 0xD800) * 0x400 +
        (unit order third fourth - 0xDC00))) 4 := by
  simp only [decoder]
  rw [if_neg (by simp; omega), if_neg (by omega)]
  simp only [unit?]
  rw [if_pos (by simp; omega)]

theorem cases_of_read (h : (decoder order).read byte rest = .point c length) :
    (∃ second more, rest = second :: more ∧ length = 2 ∧
      (unit order byte second < 0xD800 ∨ 0xE000 ≤ unit order byte second) ∧
      c.val = unit order byte second) ∨
    ∃ second third fourth more, rest = second :: third :: fourth :: more ∧ length = 4 ∧
      0xD800 ≤ unit order byte second ∧ unit order byte second < 0xDC00 ∧
      0xDC00 ≤ unit order third fourth ∧ unit order third fourth < 0xE000 ∧
      c.val = 0x10000 + (unit order byte second - 0xD800) * 0x400 +
        (unit order third fourth - 0xDC00) := by
  cases rest with
  | nil => cases h
  | cons second rest =>
      have hunit := unit_lt order byte second
      simp only [decoder] at h
      split at h
      case isTrue hplain =>
        simp only [Bool.or_eq_true, decide_eq_true_eq] at hplain
        cases h
        exact Or.inl ⟨second, rest, rfl, rfl, hplain, CodePoint.val_ofNat (by omega)⟩
      case isFalse hplain =>
        simp only [Bool.or_eq_true, decide_eq_true_eq] at hplain
        split at h
        case isTrue => cases h
        case isFalse hhigh =>
          rcases rest with _ | ⟨third, _ | ⟨fourth, more⟩⟩
          · cases h
          · cases h
          · simp only [unit?] at h
            split at h
            case isFalse => cases h
            case isTrue hlow =>
              simp only [Bool.and_eq_true, decide_eq_true_eq] at hlow
              rw [Reading.point.injEq] at h
              refine Or.inr ⟨second, third, fourth, more, rfl, h.right.symm, by omega, by omega,
                hlow.left, hlow.right, ?_⟩
              rw [← h.left]
              exact CodePoint.val_ofNat (by omega)

theorem inverts_decoder (order : ByteOrder) : (decoder order).Inverts (write? order) where
  reads := by
    intro c own h
    have hlimit := c.isLt
    unfold write? at h
    split at h
    case isTrue => cases h
    case isFalse hsurrogate =>
      simp only [CodePoint.isSurrogate, Bool.and_eq_true, decide_eq_true_eq] at hsurrogate
      split at h
      case isTrue hsmall =>
        rcases exists_unitBytes order hsmall with ⟨first, second, hbytes, hunit⟩
        rw [hbytes] at h
        cases h
        refine ⟨first, [second], rfl, fun more => ?_⟩
        rw [List.singleton_append, read_plain order (by omega), hunit, Utf8.ofNat_of_eq rfl]
        rfl
      case isFalse hlarge =>
        rcases exists_unitBytes order
          (show 0xD800 + (c.val - 0x10000) / 0x400 < 0x10000 by omega) with
          ⟨first, second, hhighBytes, hhigh⟩
        rcases exists_unitBytes order
          (show 0xDC00 + (c.val - 0x10000) % 0x400 < 0x10000 by omega) with
          ⟨third, fourth, hlowBytes, hlow⟩
        rw [hhighBytes, hlowBytes] at h
        cases h
        refine ⟨first, [second, third, fourth], rfl, fun more => ?_⟩
        have hread := read_pair order first second third fourth more (by omega) (by omega)
          (by omega) (by omega)
        rw [hhigh, hlow, Utf8.ofNat_of_eq (c := c) (by omega)] at hread
        exact hread
  writes := by
    intro byte rest c length h
    have hsurrogate := isSound_decoder order byte rest c length h
    rcases cases_of_read h with
      ⟨second, more, rfl, rfl, hplain, hc⟩ |
        ⟨second, third, fourth, more, rfl, rfl, hhigh, hhigh', hlow, hlow', hc⟩
    · refine ⟨[second], more, rfl, rfl, ?_⟩
      have hunit := unit_lt order byte second
      rw [write?, hsurrogate, hc, if_pos hunit, unitBytes_unit]
      rfl
    · refine ⟨[second, third, fourth], more, rfl, rfl, ?_⟩
      have hhighUnit : 0xD800 + (c.val - 0x10000) / 0x400 = unit order byte second := by omega
      have hlowUnit : 0xDC00 + (c.val - 0x10000) % 0x400 = unit order third fourth := by omega
      rw [write?, hsurrogate, hhighUnit, hlowUnit, unitBytes_unit, unitBytes_unit,
        if_neg (show ¬ c.val < 0x10000 by omega)]
      rfl

end Utf16

/-!
## One byte a character
-/

namespace Decoder

theorem ofByte_ofNat (h : c.val < 0x100) : ofByte (UInt8.ofNat c.val) = c := by
  rw [ofByte, Utf8.toNat_ofNat h, Utf8.ofNat_of_eq rfl]

theorem val_ofByte (byte : UInt8) : (ofByte byte).val = byte.toNat := by
  have hbyte := byte.toNat_lt
  exact CodePoint.val_ofNat (by omega)

theorem byteBelow?_ofByte {limit : Nat} (h : byte.toNat < limit) :
    byteBelow? limit (ofByte byte) = some [byte] := by
  rw [byteBelow?, val_ofByte, if_pos h, UInt8.ofNat_toNat]

theorem inverts_ascii : ascii.Inverts (byteBelow? 0x80) where
  reads := by
    intro c own h
    unfold byteBelow? at h
    split at h
    case isFalse => cases h
    case isTrue hsmall =>
      cases h
      refine ⟨_, [], rfl, fun more => ?_⟩
      have hbyte := Utf8.toNat_ofNat (show c.val < 256 by omega)
      simp only [ascii, UInt8.lt_iff_toNat_lt, hbyte, UInt8.reduceToNat]
      rw [if_pos hsmall, ofByte_ofNat (by omega)]
      rfl
  writes := by
    intro byte rest c length h
    simp only [ascii] at h
    split at h
    case isFalse => cases h
    case isTrue hsmall =>
      cases h
      exact ⟨[], rest, rfl, rfl, byteBelow?_ofByte (UInt8.lt_iff_toNat_lt.mp hsmall)⟩

theorem inverts_latin1 : latin1.Inverts (byteBelow? 0x100) where
  reads := by
    intro c own h
    unfold byteBelow? at h
    split at h
    case isFalse => cases h
    case isTrue hsmall =>
      cases h
      refine ⟨_, [], rfl, fun more => ?_⟩
      simp only [latin1]
      rw [ofByte_ofNat hsmall]
      rfl
  writes := by
    intro byte rest c length h
    cases h
    exact ⟨[], rest, rfl, rfl, byteBelow?_ofByte byte.toNat_lt⟩

theorem windows1252Place?_getD : ∀ place < 32, windows1252Upper.getD place 0 ≠ 0 →
    windows1252Place? (windows1252Upper.getD place 0) = some place := by
  decide

theorem windows1252Upper_or (place : Nat) : windows1252Upper.getD place 0 = 0 ∨
    0x100 ≤ windows1252Upper.getD place 0 := by
  have hall : ∀ n ∈ windows1252Upper, n = 0 ∨ 0x100 ≤ n := by decide
  rw [List.getD_eq_getElem?_getD]
  cases hplace : windows1252Upper[place]? with
  | none => exact Or.inl rfl
  | some n => exact hall n (List.mem_of_getElem? hplace)

theorem exists_of_windows1252Place? {place : Nat} (h : windows1252Place? n = some place) :
    place < 32 ∧ windows1252Upper.getD place 0 = n := by
  constructor
  · exact List.mem_range.mp (List.mem_of_find?_eq_some h)
  · simpa using List.find?_some h

theorem inverts_windows1252 : windows1252.Inverts windows1252Byte? where
  reads := by
    intro c own h
    unfold windows1252Byte? at h
    split at h
    case isTrue hself =>
      cases h
      refine ⟨_, [], rfl, fun more => ?_⟩
      have hbyte := Utf8.toNat_ofNat (show c.val < 256 by omega)
      simp only [windows1252, UInt8.lt_iff_toNat_lt, UInt8.le_iff_toNat_le, hbyte]
      rw [if_neg (by simp; omega), ofByte_ofNat (by omega)]
      rfl
    case isFalse hself =>
      rcases Option.map_eq_some_iff.mp h with ⟨place, hplace, rfl⟩
      rcases exists_of_windows1252Place? hplace with ⟨hlt, hvalue⟩
      refine ⟨_, [], rfl, fun more => ?_⟩
      have hbyte := Utf8.toNat_ofNat (show 0x80 + place < 256 by omega)
      simp only [windows1252, UInt8.lt_iff_toNat_lt, UInt8.le_iff_toNat_le, hbyte]
      rw [if_pos (by simp; omega), Nat.add_sub_cancel_left, hvalue]
      split
      case h_1 hzero => omega
      case h_2 n hn => rw [Utf8.ofNat_of_eq hn.symm]; rfl
  writes := by
    intro byte rest c length h
    have hlimit := byte.toNat_lt
    simp only [windows1252, UInt8.lt_iff_toNat_lt, UInt8.le_iff_toNat_le] at h
    split at h
    case isFalse hself =>
      simp at hself
      cases h
      refine ⟨[], rest, rfl, rfl, ?_⟩
      rw [windows1252Byte?, val_ofByte, if_pos (by omega), UInt8.ofNat_toNat]
    case isTrue hupper =>
      simp at hupper
      split at h
      case h_1 => cases h
      case h_2 m hm =>
        cases h
        refine ⟨[], rest, rfl, rfl, ?_⟩
        have hplace := windows1252Place?_getD (byte.toNat - 0x80) (by omega) (by omega)
        have hlarge := windows1252Upper_or (byte.toNat - 0x80)
        have hsmall := windows1252Upper_lt (byte.toNat - 0x80)
        rw [hm] at hplace hlarge hsmall
        have hbyte : 0x80 + (byte.toNat - 0x80) = byte.toNat := by omega
        rw [windows1252Byte?, CodePoint.val_ofNat (by omega), if_neg (by omega), hplace,
          Option.map_some, hbyte, UInt8.ofNat_toNat]

end Decoder

end ImportAtlas
