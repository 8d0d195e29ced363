import ImportAtlas.Text.Numeral
import Mathlib.Algebra.Order.Group.Nat

/-!
# Numbers with a fixed number of digits

A number that fits a number of digits is read back from them, and written with equally many digits
numbers have the order of their texts.
-/

namespace ImportAtlas

namespace Text

variable {s t u v : Text} {width m n : Nat}

/-!
## Reading
-/

theorem isDigit_of_mem_fixed {c : CodePoint} (h : c ∈ fixed 10 width n) : c.isDigit = true := by
  induction width generalizing n with
  | zero => cases h
  | succ width ih =>
      rw [fixed, List.mem_append, List.mem_singleton] at h
      rcases h with h | rfl
      · exact ih h
      · exact CodePoint.isDigit_ofDigit (Nat.mod_lt n (by decide))

theorem digitsValue_fixed (h : n < 10 ^ width) : digitsValue (fixed 10 width n) = n := by
  induction width generalizing n with
  | zero =>
      rw [Nat.pow_zero, Nat.lt_one_iff] at h
      rw [h]
      rfl
  | succ width ih =>
      have hdigit : n % 10 < 10 := Nat.mod_lt n (by decide)
      rw [fixed, digitsValue_append_digit, ih (by omega), CodePoint.val_ofDigit hdigit]
      omega

def readFixed? (width : Nat) (t : Text) : Option (Nat × Text) :=
  let digits := t.take width
  if digits.length = width && digits.all CodePoint.isDigit then
    some (digitsValue digits, t.drop width)
  else none

theorem readFixed?_fixed_append (h : n < 10 ^ width) (rest : Text) :
    readFixed? width (fixed 10 width n ++ rest) = some (n, rest) := by
  have hlength : (fixed 10 width n).length = width := length_fixed 10 width n
  have hdigits : (fixed 10 width n).all CodePoint.isDigit = true :=
    List.all_eq_true.mpr fun _ hc => isDigit_of_mem_fixed hc
  unfold readFixed?
  rw [List.take_left' hlength, List.drop_left' hlength]
  simp [hlength, hdigits, digitsValue_fixed h]

/-!
## Order
-/

theorem le_append (h : s.length = t.length) :
    le (s ++ u) (t ++ v) = if s = t then le u v else le s t := by
  induction s generalizing t with
  | nil =>
      rw [List.eq_nil_of_length_eq_zero h.symm]
      rfl
  | cons a s ih =>
      rcases t with _ | ⟨b, t⟩
      · cases h
      · simp only [List.cons_append, le, ih (Nat.succ.inj h), List.cons.injEq]
        rcases Nat.lt_trichotomy a.val b.val with hlt | heq | hgt
        · have hne : a ≠ b := fun heq => Nat.ne_of_lt hlt (congrArg _ heq)
          simp [hlt, hne]
        · simp [CodePoint.ext heq]
        · have hne : a ≠ b := fun heq => Nat.ne_of_gt hgt (congrArg _ heq)
          simp [hgt, hne, Nat.lt_asymm hgt]

theorem le_fixed (h : m ≤ n) (hn : n < 10 ^ width) :
    le (fixed 10 width m) (fixed 10 width n) = true := by
  induction width generalizing m n with
  | zero => rfl
  | succ width ih =>
      have hm : m < 10 ^ (width + 1) := Nat.lt_of_le_of_lt h hn
      have hdigit : ∀ k : Nat, (CodePoint.ofDigit (k % 10)).val = 48 + k % 10 := fun k =>
        CodePoint.val_ofDigit (Nat.mod_lt k (by decide))
      rw [fixed, fixed, le_append (by rw [length_fixed, length_fixed])]
      split
      case isTrue hsame =>
        have hvalue := congrArg digitsValue hsame
        rw [digitsValue_fixed (by omega), digitsValue_fixed (by omega)] at hvalue
        have hlast : m % 10 ≤ n % 10 := by omega
        simp only [le, hdigit]
        split
        case isTrue => rfl
        case isFalse => exact if_neg (by omega)
      case isFalse => exact ih (Nat.div_le_div_right h) (by omega)

/-- Numbers of equally many digits in front decide the order when they differ. -/
theorem le_fixed_append (hn : n < 10 ^ width) (h : m < n ∨ m = n ∧ le u v = true) :
    le (fixed 10 width m ++ u) (fixed 10 width n ++ v) = true := by
  rw [le_append (by rw [length_fixed, length_fixed])]
  rcases h with hlt | ⟨rfl, hrest⟩
  · split
    case isTrue hsame =>
      have hvalue := congrArg digitsValue hsame
      rw [digitsValue_fixed (hlt.trans hn), digitsValue_fixed hn] at hvalue
      exact absurd hvalue (Nat.ne_of_lt hlt)
    case isFalse => exact le_fixed (Nat.le_of_lt hlt) hn
  · rw [if_pos rfl]
    exact hrest

end Text

end ImportAtlas
