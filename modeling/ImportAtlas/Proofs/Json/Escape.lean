import ImportAtlas.Json.Reader
import ImportAtlas.Json.Writer
import Mathlib.Data.List.Chain

/-!
# Reading escaped strings

Every code point of a string is written by itself, and reading takes it back together with its
escape.  Only the escapes of a high and a low surrogate next to each other would be read as one code
point, so strings in which no such pair occurs are read as they were written.  Surrogates on their
own do no harm, and neither does the written form of code points beyond the basic plane, which
begins with a high surrogate and never with a low one.
-/

namespace ImportAtlas

/-- No high surrogate stands directly before a low one. -/
def Text.IsUnpaired (t : Text) : Prop :=
  t.IsChain fun c d => ¬ (c.isHighSurrogate = true ∧ d.isLowSurrogate = true)

instance (t : Text) : Decidable t.IsUnpaired :=
  inferInstanceAs (Decidable (t.IsChain _))

namespace Json

variable {c : CodePoint} {n m skip : Nat} {t rest : Text}

/-!
## Escapes of units
-/

theorem hexDigit?_ofDigit (h : n < 16) : (CodePoint.ofDigit n).hexDigit? = some n := by
  have hall : ∀ n, n < 16 → (CodePoint.ofDigit n).hexDigit? = some n := by decide
  exact hall n h

theorem fixed_four (n : Nat) :
    Text.fixed 16 4 n =
      [CodePoint.ofDigit (n / 16 / 16 / 16 % 16), CodePoint.ofDigit (n / 16 / 16 % 16),
        CodePoint.ofDigit (n / 16 % 16), CodePoint.ofDigit (n % 16)] := rfl

theorem unicodeEscape?_unitEscape (h : n < 0x10000) (rest : Text) :
    unicodeEscape? (unitEscape n ++ rest) = some n := by
  have hnumber : ((n / 16 / 16 / 16 % 16 * 16 + n / 16 / 16 % 16) * 16 + n / 16 % 16) * 16 +
      n % 16 = n := by
    omega
  have hdigit : ∀ k, (CodePoint.ofDigit (k % 16)).hexDigit? = some (k % 16) :=
    fun k => hexDigit?_ofDigit (Nat.mod_lt k (by decide))
  unfold unitEscape
  rw [fixed_four]
  show hexNumber? _ _ _ _ = some n
  unfold hexNumber?
  simp only [hdigit]
  exact congrArg some hnumber

theorem unicodeEscape?_of_ne (h : c ≠ CodePoint.ofChar '\\') :
    unicodeEscape? (c :: rest) = none := by
  unfold unicodeEscape?
  split
  case h_1 heq =>
    cases heq
    simp [h]
  case h_2 => rfl

theorem unicodeEscape?_short (h : c ≠ CodePoint.ofChar 'u') :
    unicodeEscape? (CodePoint.ofChar '\\' :: c :: rest) = none := by
  unfold unicodeEscape?
  split
  case h_1 heq =>
    cases heq
    simp [h]
  case h_2 => rfl

/-!
## Reading one code point
-/

theorem stringFrom?_skip {run : Text} (h : run.length = skip) :
    stringFrom? skip (run ++ t) = stringFrom? 0 t := by
  induction run generalizing skip with
  | nil =>
      rw [← h]
      rfl
  | cons c run ih =>
      cases skip with
      | zero => cases h
      | succ skip => exact ih (Nat.succ_inj.mp h)

def push (c : CodePoint) (read : Option (Text × Text)) : Option (Text × Text) :=
  read.map fun found => (c :: found.1, found.2)

theorem stringFrom?_quote (rest : Text) :
    stringFrom? 0 (CodePoint.ofChar '"' :: rest) = some ([], rest) := by
  simp [stringFrom?]

theorem stringFrom?_plain (hquote : c ≠ CodePoint.ofChar '"')
    (hbackslash : c ≠ CodePoint.ofChar '\\') (hcontrol : 0x20 ≤ c.val) (rest : Text) :
    stringFrom? 0 (c :: rest) = push c (stringFrom? 0 rest) := by
  simp [stringFrom?, hquote, hbackslash, Nat.not_lt.mpr hcontrol, push]

theorem stringFrom?_simple {letter : CodePoint} (hletter : letter ≠ CodePoint.ofChar 'u')
    (hescape : simpleEscape? letter = some c) (rest : Text) :
    stringFrom? 0 (CodePoint.ofChar '\\' :: letter :: rest) = push c (stringFrom? 0 rest) := by
  have hquote : CodePoint.ofChar '\\' ≠ CodePoint.ofChar '"' := by decide
  have hcontrol : ¬ (CodePoint.ofChar '\\').val < 0x20 := by decide
  simp [stringFrom?, hquote, hcontrol, unicodeEscape?_short hletter, hescape, push]

def unitTail (n : Nat) : Text := CodePoint.ofChar 'u' :: Text.fixed 16 4 n

theorem unitEscape_eq (n : Nat) : unitEscape n = CodePoint.ofChar '\\' :: unitTail n := rfl

theorem length_unitTail (n : Nat) : (unitTail n).length = 5 := rfl

def ArePaired (n m : Nat) : Prop := 0xD800 ≤ n ∧ n < 0xDC00 ∧ 0xDC00 ≤ m ∧ m < 0xE000

theorem stringFrom?_unit (hn : n < 0x10000)
    (hpair : ∀ m, unicodeEscape? rest = some m → ¬ ArePaired n m) :
    stringFrom? 0 (unitEscape n ++ rest) = push (CodePoint.ofNat n) (stringFrom? 0 rest) := by
  have hescape := unicodeEscape?_unitEscape hn rest
  have hskip := stringFrom?_skip (t := rest) (length_unitTail n)
  have hdrop : (unitTail n ++ rest).drop 5 = rest := List.drop_left' (length_unitTail n)
  have hquote : CodePoint.ofChar '\\' ≠ CodePoint.ofChar '"' := by decide
  have hcontrol : ¬ (CodePoint.ofChar '\\').val < 0x20 := by decide
  rw [unitEscape_eq, List.cons_append] at hescape ⊢
  simp only [stringFrom?, hquote, hcontrol, if_false, ne_eq, not_true, hescape, hdrop, hskip]
  cases hnext : unicodeEscape? rest with
  | none => rfl
  | some m =>
      have hapart := hpair m hnext
      unfold ArePaired at hapart
      simp only [Bool.and_eq_true, decide_eq_true_eq, and_assoc, hapart, if_false]
      rfl

theorem stringFrom?_pair (hpair : ArePaired n m) (rest : Text) :
    stringFrom? 0 (unitEscape n ++ (unitEscape m ++ rest)) =
      push (ofSurrogates n m) (stringFrom? 0 rest) := by
  have hn : n < 0x10000 := by
    unfold ArePaired at hpair
    omega
  have hm : m < 0x10000 := by
    unfold ArePaired at hpair
    omega
  have hescape := unicodeEscape?_unitEscape hn (unitEscape m ++ rest)
  have hnext := unicodeEscape?_unitEscape hm rest
  have hlength : (unitTail n ++ unitEscape m).length = 11 := rfl
  have hskip := stringFrom?_skip (t := rest) hlength
  rw [List.append_assoc] at hskip
  have hdrop : (unitTail n ++ (unitEscape m ++ rest)).drop 5 = unitEscape m ++ rest :=
    List.drop_left' (length_unitTail n)
  have hquote : CodePoint.ofChar '\\' ≠ CodePoint.ofChar '"' := by decide
  have hcontrol : ¬ (CodePoint.ofChar '\\').val < 0x20 := by decide
  rw [unitEscape_eq n, List.cons_append] at hescape ⊢
  unfold ArePaired at hpair
  simp only [stringFrom?, hquote, hcontrol, if_false, ne_eq, not_true, hescape, hdrop, hnext,
    hskip, Bool.and_eq_true, decide_eq_true_eq, hpair, and_self, if_true]
  rfl

/-!
## Strings
-/

theorem ofNat_val (c : CodePoint) : CodePoint.ofNat c.val = c :=
  CodePoint.ext (CodePoint.val_ofNat c.isLt)

def highUnit (c : CodePoint) : Nat := 0xD800 + (c.val - 0x10000) / 0x400

def lowUnit (c : CodePoint) : Nat := 0xDC00 + (c.val - 0x10000) % 0x400

theorem arePaired_units (c : CodePoint) : ArePaired (highUnit c) (lowUnit c) := by
  have hlt := c.isLt
  unfold ArePaired highUnit lowUnit
  omega

theorem ofSurrogates_units (h : 0x10000 ≤ c.val) : ofSurrogates (highUnit c) (lowUnit c) = c := by
  have hlt := c.isLt
  apply CodePoint.ext
  unfold ofSurrogates highUnit lowUnit
  rw [CodePoint.val_ofNat (by omega)]
  omega

/-- A code point is written as a letter behind a backslash, as itself, or by its units. -/
theorem escaped_cases (c : CodePoint) :
    (∃ letter, letter ≠ CodePoint.ofChar 'u' ∧ 0x20 ≤ letter.val ∧ letter.val ≤ 0x7E ∧
        simpleEscape? letter = some c ∧ escaped c = [CodePoint.ofChar '\\', letter]) ∨
      (c ≠ CodePoint.ofChar '"' ∧ c ≠ CodePoint.ofChar '\\' ∧ 0x20 ≤ c.val ∧ c.val ≤ 0x7E ∧
        escaped c = [c]) ∨
      (c.val < 0x10000 ∧ escaped c = unitEscape c.val) ∨
      (0x10000 ≤ c.val ∧ escaped c = unitEscape (highUnit c) ++ unitEscape (lowUnit c)) := by
  have hletter : ∀ letter : Char, letter ∈ ['"', '\\', 'n', 'r', 't', 'b', 'f'] →
      CodePoint.ofChar letter ≠ CodePoint.ofChar 'u' ∧ 0x20 ≤ (CodePoint.ofChar letter).val ∧
        (CodePoint.ofChar letter).val ≤ 0x7E := by
    simp only [List.forall_mem_cons, List.not_mem_nil, false_implies, implies_true, and_true]
    decide
  have hsimple : ∀ letter : Char, letter ∈ ['"', '\\', 'n', 'r', 't', 'b', 'f'] →
      simpleEscape? letter = some c →
      escaped c = [CodePoint.ofChar '\\', CodePoint.ofChar letter] →
      ∃ letter, letter ≠ CodePoint.ofChar 'u' ∧ 0x20 ≤ letter.val ∧ letter.val ≤ 0x7E ∧
        simpleEscape? letter = some c ∧ escaped c = [CodePoint.ofChar '\\', letter] := by
    intro letter hmem hescape heq
    rcases hletter letter hmem with ⟨hu, hlow, hhigh⟩
    exact ⟨letter, hu, hlow, hhigh, hescape, heq⟩
  by_cases hquote : c = '"'
  · subst hquote
    exact Or.inl (hsimple '"' (by decide) rfl rfl)
  by_cases hbackslash : c = '\\'
  · subst hbackslash
    exact Or.inl (hsimple '\\' (by decide) rfl rfl)
  by_cases hfeed : c = '\n'
  · subst hfeed
    exact Or.inl (hsimple 'n' (by decide) rfl rfl)
  by_cases hreturn : c = '\r'
  · subst hreturn
    exact Or.inl (hsimple 'r' (by decide) rfl rfl)
  by_cases htab : c = '\t'
  · subst htab
    exact Or.inl (hsimple 't' (by decide) rfl rfl)
  by_cases hback : c.val = 8
  · have heq : c = CodePoint.ofNat 8 := by rw [← ofNat_val c, hback]
    subst heq
    exact Or.inl (hsimple 'b' (by decide) rfl rfl)
  by_cases hform : c.val = 12
  · have heq : c = CodePoint.ofNat 12 := by rw [← ofNat_val c, hform]
    subst heq
    exact Or.inl (hsimple 'f' (by decide) rfl rfl)
  right
  unfold escaped
  simp only [hquote, hbackslash, hfeed, hreturn, htab, hback, hform, if_false, Bool.and_eq_true,
    decide_eq_true_eq]
  by_cases hplain : 0x20 ≤ c.val ∧ c.val ≤ 0x7E
  · exact Or.inl ⟨hquote, hbackslash, hplain.left, hplain.right, if_pos hplain⟩
  · rw [if_neg hplain]
    by_cases hbasic : c.val < 0x10000
    · exact Or.inr (Or.inl ⟨hbasic, if_pos hbasic⟩)
    · exact Or.inr (Or.inr ⟨Nat.le_of_not_lt hbasic, if_neg hbasic⟩)

/-- An escape that could complete a surrogate pair is that of a low surrogate. -/
theorem isLowSurrogate_of_unicodeEscape? (h : unicodeEscape? (escaped c ++ rest) = some m)
    (hm : 0xDC00 ≤ m ∧ m < 0xE000) : c.isLowSurrogate = true := by
  rcases escaped_cases c with ⟨letter, hu, _, _, _, heq⟩ | ⟨_, hbackslash, _, _, heq⟩ |
    ⟨hbasic, heq⟩ | ⟨hastral, heq⟩
  · rw [heq, List.cons_append, List.singleton_append, unicodeEscape?_short hu] at h
    cases h
  · rw [heq, List.singleton_append, unicodeEscape?_of_ne hbackslash] at h
    cases h
  · rw [heq, unicodeEscape?_unitEscape hbasic, Option.some.injEq] at h
    simp only [CodePoint.isLowSurrogate, Bool.and_eq_true, decide_eq_true_eq]
    omega
  · have hpaired := arePaired_units c
    unfold ArePaired at hpaired
    rw [heq, List.append_assoc, unicodeEscape?_unitEscape (by omega), Option.some.injEq] at h
    omega

/-- Reading takes back one code point, unless it is the first half of a pair. -/
theorem stringFrom?_escaped
    (hpair : c.isHighSurrogate = true → ∀ m, unicodeEscape? rest = some m →
      ¬ (0xDC00 ≤ m ∧ m < 0xE000)) :
    stringFrom? 0 (escaped c ++ rest) = push c (stringFrom? 0 rest) := by
  rcases escaped_cases c with ⟨letter, hu, _, _, hescape, heq⟩ |
    ⟨hquote, hbackslash, hlow, _, heq⟩ | ⟨hbasic, heq⟩ | ⟨hastral, heq⟩
  · rw [heq]
    exact stringFrom?_simple hu hescape rest
  · rw [heq]
    exact stringFrom?_plain hquote hbackslash hlow rest
  · have hapart : ∀ m, unicodeEscape? rest = some m → ¬ ArePaired c.val m := by
      rintro m hm ⟨hhigh, hhigh', hlow⟩
      refine hpair ?_ m hm hlow
      simp only [CodePoint.isHighSurrogate, Bool.and_eq_true, decide_eq_true_eq]
      omega
    rw [heq, stringFrom?_unit hbasic hapart, ofNat_val]
  · rw [heq, List.append_assoc, stringFrom?_pair (arePaired_units c), ofSurrogates_units hastral]

/-- A string without surrogate pairs is read as it was written. -/
theorem stringFrom?_escapes (h : t.IsUnpaired) (rest : Text) :
    stringFrom? 0 (t.flatMap escaped ++ CodePoint.ofChar '"' :: rest) = some (t, rest) := by
  induction t with
  | nil => exact stringFrom?_quote rest
  | cons c t ih =>
      have hpair : c.isHighSurrogate = true → ∀ m,
          unicodeEscape? (t.flatMap escaped ++ CodePoint.ofChar '"' :: rest) = some m →
            ¬ (0xDC00 ≤ m ∧ m < 0xE000) := by
        intro hhigh m hm hlow
        cases t with
        | nil =>
            rw [List.flatMap_nil, List.nil_append, unicodeEscape?_of_ne (by decide)] at hm
            cases hm
        | cons d t =>
            rw [List.flatMap_cons, List.append_assoc] at hm
            have hnext := isLowSurrogate_of_unicodeEscape? hm hlow
            exact (List.isChain_cons_cons.mp h).left ⟨hhigh, hnext⟩
      rw [List.flatMap_cons, List.append_assoc, stringFrom?_escaped hpair, ih h.tail]
      rfl

end Json

end ImportAtlas
