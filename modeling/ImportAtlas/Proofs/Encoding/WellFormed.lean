import ImportAtlas.Encoding.Utf8
import ImportAtlas.Proofs.Text.Split
import Mathlib.Data.List.TakeWhile

/-!
# Well-formed texts

A text is well-formed when it holds no surrogates.  Exactly these texts have an encoding.  Literals
are well-formed, and so is everything that is made of parts of well-formed texts.
-/

namespace ImportAtlas

namespace Text

def IsWellFormed (t : Text) : Prop := ∀ c ∈ t, c.isSurrogate = false

instance (t : Text) : Decidable t.IsWellFormed :=
  inferInstanceAs (Decidable (∀ c ∈ t, c.isSurrogate = false))

variable {s t : Text} {c : CodePoint}

theorem isSurrogate_ofChar (c : Char) : (CodePoint.ofChar c).isSurrogate = false := by
  have hvalid := c.valid
  simp only [UInt32.isValidChar, Nat.isValidChar] at hvalid
  have hval : (CodePoint.ofChar c).val = c.val.toNat := rfl
  simp only [CodePoint.isSurrogate, hval, Bool.and_eq_false_iff, decide_eq_false_iff_not]
  omega

theorem isWellFormed_ofString (s : String) : IsWellFormed (ofString s) := by
  intro c hc
  rcases List.mem_map.mp hc with ⟨d, _, rfl⟩
  exact isSurrogate_ofChar d

theorem isWellFormed_nil : IsWellFormed [] := by
  intro c hc
  cases hc

theorem isWellFormed_cons : IsWellFormed (c :: t) ↔ c.isSurrogate = false ∧ IsWellFormed t :=
  List.forall_mem_cons

theorem isWellFormed_append : IsWellFormed (s ++ t) ↔ IsWellFormed s ∧ IsWellFormed t :=
  List.forall_mem_append

theorem IsWellFormed.mono (ht : t.IsWellFormed) (h : s ⊆ t) : s.IsWellFormed :=
  fun c hc => ht c (h hc)

theorem isWellFormed_join {sep : Text} {pieces : List Text} (hsep : sep.IsWellFormed)
    (h : ∀ piece ∈ pieces, piece.IsWellFormed) : (join sep pieces).IsWellFormed := by
  intro c hc
  rcases mem_join hc with hc | ⟨piece, hpiece, hc⟩
  · exact hsep c hc
  · exact h piece hpiece c hc

theorem isWellFormed_replace {old : CodePoint} {new : Text} (hold : old.isSurrogate = false)
    (hnew : new.IsWellFormed) : (replace old new t).IsWellFormed ↔ t.IsWellFormed := by
  constructor
  · intro h c hc
    by_cases hsame : c = old
    · rw [hsame]
      exact hold
    · exact h c (List.mem_flatMap.mpr ⟨c, hc, by simp [hsame]⟩)
  · intro h c hc
    rcases List.mem_flatMap.mp hc with ⟨d, hd, hc⟩
    split at hc
    case isTrue => exact hnew c hc
    case isFalse =>
      rw [List.mem_singleton.mp hc]
      exact h d hd

end Text

namespace Utf8

variable {t : Text}

theorem surrogateRun?_eq_none_iff {kind : CodePoint → Bool} :
    surrogateRun? kind t = none ↔ ∀ c ∈ t, kind c = false := by
  unfold surrogateRun?
  cases hrest : t.dropWhile (!kind ·) with
  | nil =>
      rw [List.dropWhile_eq_nil_iff] at hrest
      simpa using hrest
  | cons c rest =>
      have hall : ¬ ∀ c ∈ t, (!kind c) = true := by
        intro hall
        rw [List.dropWhile_eq_nil_iff.mpr hall] at hrest
        cases hrest
      simpa using hall

theorem strangeRun?_of_isWellFormed (h : t.IsWellFormed) : strangeRun? t = none := by
  rw [strangeRun?, surrogateRun?_eq_none_iff]
  intro c hc
  rw [h c hc]
  rfl

/-- The texts with an encoding are the well-formed ones. -/
theorem exists_encode_eq_ok_iff : (∃ bytes, encode t = .ok bytes) ↔ t.IsWellFormed := by
  unfold encode
  constructor
  · rintro ⟨bytes, hbytes⟩
    split at hbytes
    case h_1 => cases hbytes
    case h_2 hrun => exact surrogateRun?_eq_none_iff.mp hrun
  · intro h
    rw [surrogateRun?_eq_none_iff.mpr h]
    exact ⟨_, rfl⟩

end Utf8

end ImportAtlas
