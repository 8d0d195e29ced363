import ImportAtlas.Text.Basic

/-!
# Numerals

Numbers are written in base ten without leading zeros, or in base ten or sixteen with a fixed number
of digits.
-/

namespace ImportAtlas

namespace CodePoint

def ofDigit (n : Nat) : CodePoint := ofNat (if n < 10 then 48 + n else 87 + n)

theorem val_ofDigit {n : Nat} (small : n < 10) : (ofDigit n).val = 48 + n := by
  rw [ofDigit, if_pos small]
  exact val_ofNat (by omega)

theorem isDigit_ofDigit {n : Nat} (small : n < 10) : (ofDigit n).isDigit = true := by
  simp only [isDigit, val_ofDigit small, Bool.and_eq_true, decide_eq_true_eq]
  omega

def hexDigit? (c : CodePoint) : Option Nat :=
  if c.isDigit then some (c.val - 48)
  else if 97 ≤ c.val && c.val ≤ 102 then some (c.val - 87)
  else if 65 ≤ c.val && c.val ≤ 70 then some (c.val - 55)
  else none

end CodePoint

namespace Text

def decimal (n : Nat) : Text :=
  if n < 10 then [CodePoint.ofDigit n]
  else decimal (n / 10) ++ [CodePoint.ofDigit (n % 10)]
termination_by n
decreasing_by omega

def integer (n : Int) : Text :=
  if n < 0 then CodePoint.ofChar '-' :: decimal n.natAbs else decimal n.natAbs

/-- The last `width` digits of a number in a base, with leading zeros. -/
def fixed (base : Nat) : Nat → Nat → Text
  | 0, _ => []
  | width + 1, n => fixed base width (n / base) ++ [CodePoint.ofDigit (n % base)]

theorem length_fixed (base width n : Nat) : (fixed base width n).length = width := by
  induction width generalizing n with
  | zero => rfl
  | succ width ih => simp [fixed, ih]

def digitsValue (digits : Text) : Nat :=
  digits.foldl (fun n c => 10 * n + (c.val - 48)) 0

theorem digitsValue_append_digit (digits : Text) (c : CodePoint) :
    digitsValue (digits ++ [c]) = 10 * digitsValue digits + (c.val - 48) := by
  simp [digitsValue]

theorem digitsValue_decimal (n : Nat) : digitsValue (decimal n) = n := by
  rw [decimal]
  split
  case isTrue small =>
    simp [digitsValue, CodePoint.val_ofDigit small]
  case isFalse =>
    rw [digitsValue_append_digit, digitsValue_decimal (n / 10),
      CodePoint.val_ofDigit (Nat.mod_lt n (by decide))]
    omega
termination_by n
decreasing_by omega

theorem isDigit_of_mem_decimal {n : Nat} {c : CodePoint} (mem : c ∈ decimal n) :
    c.isDigit = true := by
  rw [decimal] at mem
  split at mem
  case isTrue small =>
    rw [List.mem_singleton] at mem
    rw [mem]
    exact CodePoint.isDigit_ofDigit small
  case isFalse =>
    rw [List.mem_append, List.mem_singleton] at mem
    cases mem with
    | inl before => exact isDigit_of_mem_decimal before
    | inr last =>
        rw [last]
        exact CodePoint.isDigit_ofDigit (Nat.mod_lt n (by decide))
termination_by n
decreasing_by omega

end Text

end ImportAtlas
