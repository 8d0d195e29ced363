import ImportAtlas.Clock.Moment
import Mathlib.Tactic.Ring

/-!
# Times in microseconds

The arithmetic of double precision does not get in the way of times that are whole numbers of
microseconds.  Such a time becomes the moment that counts them, also before 1970, where the part of
a second is taken from the next lower one.
-/

namespace ImportAtlas

/-- The seconds are exactly so many microseconds. -/
structure Fraction.IsMicros (time : Fraction) (micros : Int) : Prop where
  den_pos : 0 < time.den
  exact : time.num * 1000000 = micros * time.den

variable {time : Fraction} {micros : Int} {part den k : Nat}

/-!
## Double precision
-/

theorem roundHalfEven_mul (k : Nat) (h : 0 < den) : roundHalfEven (k * den) den = k := by
  unfold roundHalfEven
  simp [Nat.mul_div_cancel k h, h]

namespace Binary64

theorem exponent_le (num den : Nat) :
    exponent num den ≤ (Nat.log2 num : Int) - (Nat.log2 den : Int) := by
  unfold exponent
  dsimp only
  split
  case isTrue => omega
  case isFalse => exact Int.le_refl _

theorem exists_nearest?_mul (hden : 0 < den) (hpos : 0 < k) (hlt : k < 2 ^ 20) :
    ∃ s, nearest? (k * den) den = some ⟨(k * 2 ^ s : Nat), 2 ^ s⟩ := by
  have hne : k * den ≠ 0 := Nat.mul_ne_zero hpos.ne' hden.ne'
  have hlog : Nat.log2 (k * den) < Nat.log2 den + 21 := by
    rw [Nat.log2_lt hne]
    calc k * den < 2 ^ 20 * 2 ^ (Nat.log2 den + 1) :=
          Nat.mul_lt_mul_of_lt_of_lt hlt Nat.lt_log2_self
      _ = 2 ^ (Nat.log2 den + 21) := by rw [← Nat.pow_add]; congr 1; omega
  have hexponent := exponent_le (k * den) den
  unfold nearest?
  rw [if_neg hne]
  generalize hscale : max (exponent (k * den) den - 52) (-1074) = scale
  have hneg : scale.toNat = 0 := by omega
  generalize hshift : (-scale).toNat = s
  have hdigits : roundHalfEven ((k * den) <<< s) (den <<< 0) = k * 2 ^ s := by
    rw [Nat.shiftLeft_eq, Nat.shiftLeft_zero, Nat.mul_right_comm, roundHalfEven_mul _ hden]
  have hsmall : Nat.log2 (k * 2 ^ s) < 20 + s := by
    rw [Nat.log2_lt (Nat.mul_ne_zero hpos.ne' (Nat.two_pow_pos s).ne'), Nat.pow_add]
    exact Nat.mul_lt_mul_of_pos_right hlt (Nat.two_pow_pos s)
  refine ⟨s, ?_⟩
  dsimp only
  rw [hneg, hshift, hdigits, if_neg (by omega), Nat.shiftLeft_zero, Nat.one_shiftLeft]

end Binary64

namespace Moment

theorem microsOf_eq (hden : 0 < den) (h : part * 1000000 = k * den) (hlt : k < 1000000) :
    microsOf part den = k := by
  unfold microsOf
  rw [h]
  rcases Nat.eq_zero_or_pos k with rfl | hpos
  · simp [Binary64.nearest?, roundHalfEven]
  · rcases Binary64.exists_nearest?_mul hden hpos (by omega) with ⟨s, hnearest⟩
    rw [hnearest]
    exact roundHalfEven_mul k (Nat.two_pow_pos s)

/-!
## Moments
-/

def ofMicros (micros : Int) : Moment := ⟨micros / 1000000, (micros % 1000000).toNat⟩

theorem ofParts_eq (whole micros : Int) :
    ofParts whole (micros - whole * 1000000) = ofMicros micros := by
  unfold ofParts ofMicros
  rw [Moment.mk.injEq]
  omega

theorem signedMicros_eq (h : time.IsMicros micros) :
    (if Int.tmod time.num time.den < 0 then
        -(microsOf (Int.tmod time.num time.den).natAbs time.den : Int)
      else (microsOf (Int.tmod time.num time.den).natAbs time.den : Int)) =
      micros - Int.tdiv time.num time.den * 1000000 := by
  have hden : (0 : Int) < time.den := Int.natCast_pos.mpr h.den_pos
  have hsplit := Int.tmod_add_mul_tdiv time.num time.den
  generalize hpart : Int.tmod time.num time.den = part at hsplit
  generalize hwhole : Int.tdiv time.num time.den = whole at hsplit
  generalize hrest : micros - whole * 1000000 = rest
  have hexact : part * 1000000 = rest * time.den := by
    rw [← hrest, Int.sub_mul, ← h.exact, ← hsplit]
    ring
  have hsmall : part.natAbs < time.den := by
    rw [← hpart, Int.natAbs_tmod, Int.natAbs_natCast]
    exact Nat.mod_lt _ h.den_pos
  have habs : part.natAbs * 1000000 = rest.natAbs * time.den := by
    have := congrArg Int.natAbs hexact
    rwa [Int.natAbs_mul, Int.natAbs_mul, Int.natAbs_natCast] at this
  have hlt : rest.natAbs < 1000000 := by
    apply Nat.lt_of_mul_lt_mul_right (a := time.den)
    rw [← habs, Nat.mul_comm 1000000]
    exact Nat.mul_lt_mul_of_pos_right hsmall (by decide)
  rw [microsOf_eq h.den_pos habs hlt]
  split
  case isTrue hneg =>
    have hrest : rest < 0 := by
      apply Int.lt_of_mul_lt_mul_right (a := (time.den : Int)) _ (Int.le_of_lt hden)
      rw [← hexact]
      omega
    omega
  case isFalse hnonneg =>
    have hrest : 0 ≤ rest := by
      apply Int.le_of_mul_le_mul_right (a := (time.den : Int)) _ hden
      rw [← hexact]
      omega
    omega

theorem ofFraction_eq (h : time.IsMicros micros)
    (hlow : -longLimit ≤ micros / 1000000) (hhigh : micros / 1000000 ≤ longLimit) :
    ofFraction time = .ok (ofMicros micros) := by
  unfold ofFraction
  dsimp only
  rw [signedMicros_eq h, ofParts_eq]
  simp [ofMicros, hlow, hhigh]

end Moment

end ImportAtlas
