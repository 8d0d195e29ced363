import ImportAtlas.Proofs.Encoding.Separator
import ImportAtlas.Proofs.Encoding.WellFormed
import Mathlib.Algebra.Group.Nat.Defs

/-!
# The bytes of a code point

The bounds behind a lead byte keep the numbers apart that forms of different lengths stand for, and
they leave a gap where the surrogates would be.  So no surrogate is ever read, and every other code
point is read back from its bytes.  Hence a text is decoded from its encoding, and a well-formed
name comes back from the system as it was given.
-/

namespace ImportAtlas

theorem Decoder.decodeFrom_skip (decoder : Decoder) (decoded : Text) (position : Nat)
    (tail more : List UInt8) : decoder.decodeFrom decoded tail.length position (tail ++ more) =
      decoder.decodeFrom decoded 0 (position + tail.length) more := by
  induction tail generalizing position with
  | nil => rfl
  | cons byte tail ih =>
      rw [List.length_cons, List.cons_append, Decoder.decodeFrom, ih, Nat.add_assoc,
        Nat.add_comm 1 tail.length]

namespace Utf8

variable {taken bits owed length n : Nat} {low high byte : UInt8} {rest more bytes : List UInt8}
  {c : CodePoint} {t : Text}

/-!
## What is read
-/

theorem isSurrogate_ofNat (h : n < 0xD800 ∨ 0xDFFF < n) :
    (CodePoint.ofNat n).isSurrogate = false := by
  unfold CodePoint.ofNat
  split
  case isTrue =>
    simp only [CodePoint.isSurrogate, Bool.and_eq_false_iff, decide_eq_false_iff_not]
    omega
  case isFalse => decide

theorem bounds_of_tail (h : readTail taken bits 0x80 0xBF owed rest = .point c length) :
    ∃ n, c = CodePoint.ofNat n ∧ bits * 64 ^ owed ≤ n ∧ n < (bits + 1) * 64 ^ owed := by
  induction owed generalizing taken bits rest with
  | zero =>
      simp only [readTail, Reading.point.injEq] at h
      exact ⟨bits, h.left.symm, by omega, by omega⟩
  | succ owed ih =>
      cases rest with
      | nil => cases h
      | cons byte rest =>
          simp only [readTail] at h
          split at h
          case isFalse => cases h
          case isTrue hrange =>
            simp only [Bool.and_eq_true, decide_eq_true_eq, UInt8.le_iff_toNat_le,
              UInt8.reduceToNat] at hrange
            rcases ih h with ⟨n, hn, hlow, hhigh⟩
            have hmin : bits * 64 * 64 ^ owed ≤ (bits * 64 + (byte.toNat - 0x80)) * 64 ^ owed :=
              Nat.mul_le_mul_right _ (by omega)
            have hmax : (bits * 64 + (byte.toNat - 0x80) + 1) * 64 ^ owed ≤
                (bits + 1) * 64 * 64 ^ owed :=
              Nat.mul_le_mul_right _ (by omega)
            have hpow : ∀ k, k * 64 ^ (owed + 1) = k * 64 * 64 ^ owed := by
              intro k
              rw [Nat.pow_succ, Nat.mul_comm (64 ^ owed) 64, Nat.mul_assoc]
            rw [hpow, hpow]
            exact ⟨n, hn, by omega, by omega⟩

theorem bounds_of_readTail (hlow : 0x80 ≤ low.toNat)
    (h : readTail taken bits low high (owed + 1) rest = .point c length) :
    ∃ n, c = CodePoint.ofNat n ∧ (bits * 64 + (low.toNat - 0x80)) * 64 ^ owed ≤ n ∧
      n < (bits * 64 + (high.toNat - 0x80) + 1) * 64 ^ owed := by
  cases rest with
  | nil => cases h
  | cons byte rest =>
      simp only [readTail] at h
      split at h
      case isFalse => cases h
      case isTrue hrange =>
        simp only [Bool.and_eq_true, decide_eq_true_eq, UInt8.le_iff_toNat_le] at hrange
        rcases bounds_of_tail h with ⟨n, hn, hmin, hmax⟩
        have hfirst : (bits * 64 + (low.toNat - 0x80)) * 64 ^ owed ≤
            (bits * 64 + (byte.toNat - 0x80)) * 64 ^ owed :=
          Nat.mul_le_mul_right _ (by omega)
        have hlast : (bits * 64 + (byte.toNat - 0x80) + 1) * 64 ^ owed ≤
            (bits * 64 + (high.toNat - 0x80) + 1) * 64 ^ owed :=
          Nat.mul_le_mul_right _ (by omega)
        exact ⟨n, hn, by omega, by omega⟩

/-- A lead byte leaves room for numbers on one side of the surrogates only. -/
theorem cases_of_lead? (h : lead? byte = some (owed, low, high, bits)) :
    (owed = 0 ∧ bits < 0x80) ∨
      (0x80 ≤ low.toNat ∧
        ((owed = 1 ∧ bits < 0x20 ∧ high.toNat = 0xBF) ∨
          (owed = 2 ∧ bits < 0xD ∧ high.toNat = 0xBF) ∨
          (owed = 2 ∧ bits = 0xD ∧ high.toNat = 0x9F) ∨
          (owed = 2 ∧ 0xD < bits) ∨
          (owed = 3 ∧ 0x10 ≤ bits * 64 + (low.toNat - 0x80)))) := by
  unfold lead? at h
  simp only [UInt8.lt_iff_toNat_lt, ← UInt8.toNat_inj, UInt8.reduceToNat] at h
  repeat' split at h
  all_goals cases h
  all_goals simp
  all_goals omega

theorem isSurrogate_of_read (h : decoder.read byte rest = .point c length) :
    c.isSurrogate = false := by
  simp only [decoder] at h
  cases hlead : lead? byte with
  | none =>
      rw [hlead] at h
      cases h
  | some found =>
      rcases found with ⟨owed, low, high, bits⟩
      rw [hlead] at h
      dsimp only at h
      rcases cases_of_lead? hlead with ⟨rfl, hbits⟩ | ⟨hlow, hform⟩
      · simp only [readTail, Reading.point.injEq] at h
        rw [← h.left]
        exact isSurrogate_ofNat (by omega)
      · rcases hform with ⟨rfl, hform⟩ | ⟨rfl, hform⟩ | ⟨rfl, hform⟩ | ⟨rfl, hform⟩ | ⟨rfl, hform⟩
        all_goals
          rcases bounds_of_readTail hlow h with ⟨n, rfl, hmin, hmax⟩
          exact isSurrogate_ofNat (by omega)

/-!
## What is written
-/

theorem toNat_ofNat (h : n < 256) : (UInt8.ofNat n).toNat = n := by
  simp only [UInt8.toNat_ofNat']
  exact Nat.mod_eq_of_lt h

theorem readTail_cons (hmin : low.toNat ≤ byte.toNat) (hmax : byte.toNat ≤ high.toNat) :
    readTail taken bits low high (owed + 1) (byte :: rest) =
      readTail (taken + 1) (bits * 64 + (byte.toNat - 0x80)) 0x80 0xBF owed rest := by
  simp only [readTail, UInt8.le_iff_toNat_le, hmin, hmax, decide_true, Bool.and_self, if_true]

theorem ofNat_of_eq (h : n = c.val) : CodePoint.ofNat n = c := by
  apply CodePoint.ext
  rw [h]
  exact CodePoint.val_ofNat c.isLt

theorem readTail_tail {bit : Nat} (hbit : bit < 64) :
    readTail taken bits 0x80 0xBF (owed + 1) (UInt8.ofNat (0x80 + bit) :: rest) =
      readTail (taken + 1) (bits * 64 + bit) 0x80 0xBF owed rest := by
  have hbyte := toNat_ofNat (show 0x80 + bit < 256 by omega)
  have hmin : (0x80 : UInt8).toNat = 0x80 := rfl
  have hmax : (0xBF : UInt8).toNat = 0xBF := rfl
  rw [readTail_cons (by omega) (by omega), hbyte, Nat.add_sub_cancel_left]

theorem lead?_two (h : n < 0x20) (h' : 2 ≤ n) :
    lead? (UInt8.ofNat (0xC0 + n)) = some (1, 0x80, 0xBF, n) := by
  have hbyte := toNat_ofNat (show 0xC0 + n < 256 by omega)
  simp only [lead?, UInt8.lt_iff_toNat_lt, hbyte, UInt8.reduceToNat]
  rw [if_neg (by omega), if_neg (by omega), if_pos (by omega), Nat.add_sub_cancel_left]

/-- The lead byte of three admits all bytes behind it that do not make a shorter form or a
surrogate. -/
theorem lead?_three (h : n < 0x10) :
    ∃ low high, lead? (UInt8.ofNat (0xE0 + n)) = some (2, low, high, n) ∧
      ∀ bit < 64, (n = 0 → 0x20 ≤ bit) → (n = 0xD → bit < 0x20) →
        low.toNat ≤ 0x80 + bit ∧ 0x80 + bit ≤ high.toNat := by
  have hbyte := toNat_ofNat (show 0xE0 + n < 256 by omega)
  simp only [lead?, UInt8.lt_iff_toNat_lt, ← UInt8.toNat_inj, hbyte, UInt8.reduceToNat]
  rw [if_neg (by omega), if_neg (by omega), if_neg (by omega)]
  by_cases hshort : n = 0
  · subst hshort
    refine ⟨0xA0, 0xBF, rfl, ?_⟩
    intro bit hbit hmin _
    have := hmin rfl
    simp only [UInt8.reduceToNat]
    omega
  · rw [if_neg (by omega)]
    by_cases hsurrogate : n = 0xD
    · subst hsurrogate
      refine ⟨0x80, 0x9F, rfl, ?_⟩
      intro bit hbit _ hmax
      have := hmax rfl
      simp only [UInt8.reduceToNat]
      omega
    · rw [if_neg (by omega), if_pos (by omega), Nat.add_sub_cancel_left]
      exact ⟨0x80, 0xBF, rfl, by simp only [UInt8.reduceToNat]; omega⟩

theorem lead?_four (h : n < 5) :
    ∃ low high, lead? (UInt8.ofNat (0xF0 + n)) = some (3, low, high, n) ∧
      ∀ bit < 64, (n = 0 → 0x10 ≤ bit) → (n = 4 → bit < 0x10) →
        low.toNat ≤ 0x80 + bit ∧ 0x80 + bit ≤ high.toNat := by
  have hbyte := toNat_ofNat (show 0xF0 + n < 256 by omega)
  simp only [lead?, UInt8.lt_iff_toNat_lt, ← UInt8.toNat_inj, hbyte, UInt8.reduceToNat]
  rw [if_neg (by omega), if_neg (by omega), if_neg (by omega), if_neg (by omega),
    if_neg (by omega), if_neg (by omega)]
  by_cases hshort : n = 0
  · subst hshort
    refine ⟨0x90, 0xBF, rfl, ?_⟩
    intro bit hbit hmin _
    have := hmin rfl
    simp only [UInt8.reduceToNat]
    omega
  · rw [if_neg (by omega)]
    by_cases hlast : n = 4
    · subst hlast
      refine ⟨0x80, 0x8F, rfl, ?_⟩
      intro bit hbit _ hmax
      have := hmax rfl
      simp only [UInt8.reduceToNat]
      omega
    · rw [if_pos (by omega), Nat.add_sub_cancel_left]
      exact ⟨0x80, 0xBF, rfl, by simp only [UInt8.reduceToNat]; omega⟩

/-- A code point is read from its bytes, whatever follows them. -/
theorem read_encodePoint (h : c.isSurrogate = false) :
    ∃ byte tail, encodePoint c = byte :: tail ∧
      ∀ more, decoder.read byte (tail ++ more) = .point c (tail.length + 1) := by
  have hlimit := c.isLt
  simp only [CodePoint.isSurrogate, Bool.and_eq_false_iff, decide_eq_false_iff_not] at h
  unfold encodePoint
  by_cases hone : c.val < 0x80
  · refine ⟨_, _, if_pos hone, ?_⟩
    intro more
    have hbyte := toNat_ofNat (show c.val < 256 by omega)
    rw [read_ascii (UInt8.lt_iff_toNat_lt.mpr (by rw [hbyte]; exact hone)), hbyte,
      ofNat_of_eq rfl]
    rfl
  rw [if_neg hone]
  by_cases htwo : c.val < 0x800
  · refine ⟨_, _, if_pos htwo, ?_⟩
    intro more
    have hnumber : c.val / 64 * 64 + c.val % 64 = c.val := by omega
    simp only [decoder, lead?_two (show c.val / 64 < 0x20 by omega) (by omega), List.cons_append]
    rw [readTail_tail (by omega), readTail, ofNat_of_eq hnumber]
    rfl
  rw [if_neg htwo]
  by_cases hthree : c.val < 0x10000
  · refine ⟨_, _, if_pos hthree, ?_⟩
    intro more
    rcases lead?_three (show c.val / 4096 < 0x10 by omega) with ⟨low, high, hlead, hbounds⟩
    have hbyte := toNat_ofNat (show 0x80 + c.val / 64 % 64 < 256 by omega)
    have hrange := hbounds (c.val / 64 % 64) (by omega) (by omega) (by omega)
    have hnumber : (c.val / 4096 * 64 + c.val / 64 % 64) * 64 + c.val % 64 = c.val := by omega
    simp only [decoder, hlead, List.cons_append]
    rw [readTail_cons (by rw [hbyte]; exact hrange.left) (by rw [hbyte]; exact hrange.right),
      hbyte, Nat.add_sub_cancel_left, readTail_tail (by omega), readTail, ofNat_of_eq hnumber]
    rfl
  · refine ⟨_, _, if_neg hthree, ?_⟩
    intro more
    rcases lead?_four (show c.val / 262144 < 5 by omega) with ⟨low, high, hlead, hbounds⟩
    have hbyte := toNat_ofNat (show 0x80 + c.val / 4096 % 64 < 256 by omega)
    have hrange := hbounds (c.val / 4096 % 64) (by omega) (by omega) (by omega)
    have hnumber : ((c.val / 262144 * 64 + c.val / 4096 % 64) * 64 + c.val / 64 % 64) * 64 +
        c.val % 64 = c.val := by omega
    simp only [decoder, hlead, List.cons_append]
    rw [readTail_cons (by rw [hbyte]; exact hrange.left) (by rw [hbyte]; exact hrange.right),
      hbyte, Nat.add_sub_cancel_left, readTail_tail (by omega), readTail_tail (by omega), readTail,
      ofNat_of_eq hnumber]
    rfl

/-!
## Texts
-/

theorem decodeFrom_flatMap (h : t.IsWellFormed) (decoded : Text) (position : Nat) :
    decoder.decodeFrom decoded 0 position (t.flatMap encodePoint) = .ok (decoded.reverse ++ t) := by
  induction t generalizing decoded position with
  | nil => exact congrArg Except.ok (List.append_nil _).symm
  | cons c t ih =>
      rw [Text.isWellFormed_cons] at h
      rcases read_encodePoint h.left with ⟨byte, tail, hbytes, hread⟩
      have hstep : decoder.decodeFrom decoded 0 position (byte :: (tail ++ t.flatMap encodePoint)) =
          decoder.decodeFrom (c :: decoded) tail.length (position + 1)
            (tail ++ t.flatMap encodePoint) := by
        rw [Decoder.decodeFrom, hread]
        rfl
      rw [List.flatMap_cons, hbytes, List.cons_append, hstep, Decoder.decodeFrom_skip, ih h.right]
      simp

theorem eq_flatMap_of_encode (h : encode t = .ok bytes) :
    t.IsWellFormed ∧ bytes = t.flatMap encodePoint := by
  have ht : t.IsWellFormed := exists_encode_eq_ok_iff.mp ⟨bytes, h⟩
  have hrun : surrogateRun? CodePoint.isSurrogate t = none := surrogateRun?_eq_none_iff.mpr ht
  rw [encode, hrun] at h
  exact ⟨ht, (Except.ok.inj h).symm⟩

/-- A text is decoded from its encoding. -/
theorem decode_of_encode (h : encode t = .ok bytes) : decode bytes = .ok t := by
  rcases eq_flatMap_of_encode h with ⟨ht, rfl⟩
  exact decodeFrom_flatMap ht [] 0

/-!
## Names
-/

theorem decodeNameFrom_skip {tail : List UInt8} (more : List UInt8) :
    decodeNameFrom [] tail.length (tail ++ more) = decodeNameFrom [] 0 more := by
  induction tail with
  | nil => rfl
  | cons byte tail ih => exact ih

theorem encodeName_of_isWellFormed (h : t.IsWellFormed) : encodeName t = t.flatMap encodePoint := by
  unfold encodeName
  rw [List.flatMap_def, List.flatMap_def]
  apply congrArg List.flatten
  apply List.map_congr_left
  intro c hc
  have hstray : strayByte? c = none := by
    have hsurrogate := h c hc
    simp only [CodePoint.isSurrogate, Bool.and_eq_false_iff, decide_eq_false_iff_not] at hsurrogate
    simp only [strayByte?, ite_eq_right_iff, Bool.and_eq_true, decide_eq_true_eq]
    omega
  rw [hstray]

theorem decodeNameFrom_encode (h : t.IsWellFormed) :
    decodeNameFrom [] 0 (t.flatMap encodePoint) = t := by
  induction t with
  | nil => rfl
  | cons c t ih =>
      rw [Text.isWellFormed_cons] at h
      rcases read_encodePoint h.left with ⟨byte, tail, hbytes, hread⟩
      rw [List.flatMap_cons, hbytes, List.cons_append, decodeNameFrom_point (hread _),
        Nat.add_sub_cancel, decodeNameFrom_skip, ih h.right]

theorem decodeName_of_encode (h : encode t = .ok bytes) : decodeName bytes = t := by
  rcases eq_flatMap_of_encode h with ⟨ht, rfl⟩
  exact decodeNameFrom_encode ht

theorem canonicalName_of_isWellFormed (h : t.IsWellFormed) : canonicalName t = t := by
  rw [canonicalName, encodeName_of_isWellFormed h]
  exact decodeNameFrom_encode h

end Utf8

end ImportAtlas
