import ImportAtlas.Proofs.Json.Escape
import ImportAtlas.Proofs.Text.Split

/-!
# The alphabet of written values

Whatever the strings of a value hold, its written form consists of printable ASCII and of what the
layout puts between the parts, which is ASCII as well.
-/

namespace ImportAtlas

namespace Json

def IsAscii (c : CodePoint) : Prop := c = CodePoint.ofChar '\n' ∨ 0x20 ≤ c.val ∧ c.val ≤ 0x7E

instance (c : CodePoint) : Decidable (IsAscii c) :=
  inferInstanceAs (Decidable (_ ∨ _))

variable {layout : Layout} {depth : Nat} {c : CodePoint}

theorem isAscii_ofDigit {n : Nat} (h : n < 16) : IsAscii (CodePoint.ofDigit n) := by
  have hall : ∀ n, n < 16 → IsAscii (CodePoint.ofDigit n) := by decide
  exact hall n h

theorem isAscii_unitEscape (n : Nat) : ∀ c ∈ unitEscape n, IsAscii c := by
  have hdigit : ∀ k, IsAscii (CodePoint.ofDigit (k % 16)) :=
    fun k => isAscii_ofDigit (Nat.mod_lt k (by decide))
  have hbackslash : IsAscii '\\' := by decide
  have hletter : IsAscii 'u' := by decide
  unfold unitEscape
  rw [fixed_four]
  simp [Text.ofString, hdigit, hbackslash, hletter]

theorem isAscii_escaped (c : CodePoint) : ∀ d ∈ escaped c, IsAscii d := by
  rcases escaped_cases c with ⟨letter, _, hlow, hhigh, _, heq⟩ | ⟨_, _, hlow, hhigh, heq⟩ |
    ⟨_, heq⟩ | ⟨_, heq⟩
  · rw [heq, List.forall_mem_cons, List.forall_mem_singleton]
    exact ⟨by decide, Or.inr ⟨hlow, hhigh⟩⟩
  · rw [heq, List.forall_mem_singleton]
    exact Or.inr ⟨hlow, hhigh⟩
  · rw [heq]
    exact isAscii_unitEscape _
  · rw [heq, List.forall_mem_append]
    exact ⟨isAscii_unitEscape _, isAscii_unitEscape _⟩

theorem isAscii_writeText (t : Text) : ∀ c ∈ writeText t, IsAscii c := by
  have hquote : ∀ c ∈ Text.ofString "\"", IsAscii c := by decide
  unfold writeText
  rw [List.forall_mem_append, List.forall_mem_append]
  refine ⟨⟨hquote, ?_⟩, hquote⟩
  intro c hc
  rcases List.mem_flatMap.mp hc with ⟨d, _, hd⟩
  exact isAscii_escaped d c hd

def Layout.IsAscii (layout : Layout) : Prop :=
  ∀ depth, ∀ c ∈ layout.lineBreak depth, Json.IsAscii c

theorem Layout.isAscii_indented : Layout.indented.IsAscii := by
  intro depth c hc
  rcases List.mem_cons.mp hc with heq | hc
  · rw [heq]
    decide
  · rw [(List.mem_replicate.mp hc).right]
    decide

theorem isAscii_decimal (n : Nat) : ∀ c ∈ Text.decimal n, IsAscii c := by
  intro c hc
  have hdigit := Text.isDigit_of_mem_decimal hc
  simp only [CodePoint.isDigit, Bool.and_eq_true, decide_eq_true_eq] at hdigit
  exact Or.inr ⟨by omega, by omega⟩

theorem isAscii_integer (n : Int) : ∀ c ∈ Text.integer n, IsAscii c := by
  have hminus : IsAscii '-' := by decide
  unfold Text.integer
  split
  case isTrue =>
    rw [List.forall_mem_cons]
    exact ⟨hminus, isAscii_decimal n.natAbs⟩
  case isFalse => exact isAscii_decimal n.natAbs

theorem isAscii_bracketed (hlayout : layout.IsAscii) {opening closing : Text}
    (hopening : ∀ c ∈ opening, IsAscii c) (hclosing : ∀ c ∈ closing, IsAscii c)
    {pieces : List Text} (hpieces : ∀ piece ∈ pieces, ∀ c ∈ piece, IsAscii c) (depth : Nat) :
    ∀ c ∈ opening ++ Text.join "," pieces ++ layout.lineBreak depth ++ closing, IsAscii c := by
  have hcomma : ∀ c ∈ Text.ofString ",", IsAscii c := by decide
  simp only [List.forall_mem_append]
  refine ⟨⟨⟨hopening, ?_⟩, hlayout depth⟩, hclosing⟩
  intro c hc
  rcases Text.mem_join hc with hc | ⟨piece, hpiece, hc⟩
  · exact hcomma c hc
  · exact hpieces piece hpiece c hc

mutual

theorem isAscii_write (hlayout : layout.IsAscii) (depth : Nat) :
    (value : Json) → ∀ c ∈ write layout depth value, IsAscii c
  | .null => show ∀ c ∈ Text.ofString "null", IsAscii c by decide
  | .bool true => show ∀ c ∈ Text.ofString "true", IsAscii c by decide
  | .bool false => show ∀ c ∈ Text.ofString "false", IsAscii c by decide
  | .integer n => isAscii_integer n
  | .decimal mantissa exponent => by
      have hletter : ∀ c ∈ Text.ofString "e", IsAscii c := by decide
      rw [write, List.forall_mem_append, List.forall_mem_append]
      exact ⟨⟨isAscii_integer mantissa, hletter⟩, isAscii_integer exponent⟩
  | .notANumber => show ∀ c ∈ Text.ofString "NaN", IsAscii c by decide
  | .infinite false => show ∀ c ∈ Text.ofString "Infinity", IsAscii c by decide
  | .infinite true => show ∀ c ∈ Text.ofString "-Infinity", IsAscii c by decide
  | .text t => isAscii_writeText t
  | .array [] => show ∀ c ∈ Text.ofString "[]", IsAscii c by decide
  | .array (item :: items) => by
      rw [write]
      exact isAscii_bracketed hlayout (by decide) (by decide)
        (isAscii_writeItems hlayout (depth + 1) (item :: items)) depth
  | .object [] => show ∀ c ∈ Text.ofString "\x7b\x7d", IsAscii c by decide
  | .object (member :: members) => by
      rw [write]
      exact isAscii_bracketed hlayout (by decide) (by decide)
        (isAscii_writeMembers hlayout (depth + 1) (member :: members)) depth

theorem isAscii_writeItems (hlayout : layout.IsAscii) (depth : Nat) :
    (items : List Json) → ∀ piece ∈ writeItems layout depth items, ∀ c ∈ piece, IsAscii c
  | [] => by
      intro piece hpiece
      cases hpiece
  | item :: items => by
      rw [writeItems, List.forall_mem_cons, List.forall_mem_append]
      exact ⟨⟨hlayout depth, isAscii_write hlayout depth item⟩,
        isAscii_writeItems hlayout depth items⟩

theorem isAscii_writeMembers (hlayout : layout.IsAscii) (depth : Nat) :
    (members : List (Text × Json)) →
      ∀ piece ∈ writeMembers layout depth members, ∀ c ∈ piece, IsAscii c
  | [] => by
      intro piece hpiece
      cases hpiece
  | (name, value) :: members => by
      have hcolon : ∀ c ∈ Text.ofString ": ", IsAscii c := by decide
      rw [writeMembers, List.forall_mem_cons]
      simp only [List.forall_mem_append]
      exact ⟨⟨⟨⟨hlayout depth, isAscii_writeText name⟩, hcolon⟩, isAscii_write hlayout depth value⟩,
        isAscii_writeMembers hlayout depth members⟩

end

end Json

end ImportAtlas
