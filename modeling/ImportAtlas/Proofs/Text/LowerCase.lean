import ImportAtlas.Proofs.Text.Trim
import ImportAtlas.Text.LowerCase

/-!
# Texts in lower case

What the lower-case mapping yields is mapped to nothing else: no small letter of the table is one of
its capitals, and neither the dotted capital I nor the capital sigma is left.  So a text in lower
case is its own lower-case form, in spite of the sigma, which looks at what stands around it.
Besides, letters do not become white space.
-/

namespace ImportAtlas

variable {n m : Nat} {shift other : CaseShift} {c d : CodePoint} {t form : Text}

/-!
## The table

The table is compared with itself, which makes some thirty thousand pairs of runs, so the comparison
is a truth value.
-/

namespace CaseShift

def lastImage (shift : CaseShift) : Nat := shift.target + (shift.last - shift.first)

/-- What one run maps to is not mapped by the other.  The two lie apart, or the one maps to the
places that the other passes over. -/
def avoids (shift other : CaseShift) : Bool :=
  Nat.blt other.last shift.target || Nat.blt shift.lastImage other.first ||
    (other.stride = 2 && (shift.stride = 2 || shift.first = shift.last) &&
      (shift.target + other.first) % 2 = 1)

theorem exists_of_image? (h : shift.image? n = some m) :
    ∃ distance, m = shift.target + distance ∧ distance ≤ shift.last - shift.first ∧
      distance % shift.stride = 0 ∧ n = shift.first + distance := by
  unfold image? at h
  split at h
  case isFalse => cases h
  case isTrue hrun =>
    simp only [Bool.and_eq_true, decide_eq_true_eq] at hrun
    exact ⟨n - shift.first, (Option.some.inj h).symm, by omega, hrun.right, by omega⟩

theorem image?_eq_none_of_avoids (h : shift.avoids other = true) (hm : shift.image? n = some m) :
    other.image? m = none := by
  rcases exists_of_image? hm with ⟨distance, rfl, hdistance, hstride, _⟩
  unfold image?
  rw [if_neg]
  simp only [Bool.and_eq_true, decide_eq_true_eq]
  rintro ⟨⟨hfirst, hlast⟩, hother⟩
  simp only [avoids, lastImage, Bool.or_eq_true, Bool.and_eq_true, Nat.blt_eq,
    decide_eq_true_eq] at h
  rcases h with (hbehind | hbefore) | ⟨⟨htwo, hone⟩, hodd⟩
  · omega
  · omega
  · have heven : distance % 2 = 0 := by
      rcases hone with hshift | hsingle
      · rwa [hshift] at hstride
      · have : distance = 0 := by omega
        omega
    rw [htwo] at hother
    omega

end CaseShift

theorem avoids_of_mem_lowerCaseShifts (h : shift ∈ lowerCaseShifts)
    (hother : other ∈ lowerCaseShifts) : shift.avoids other = true := by
  have hall : (lowerCaseShifts.all fun shift => lowerCaseShifts.all shift.avoids) = true := by
    decide +kernel
  exact List.all_eq_true.mp (List.all_eq_true.mp hall shift h) other hother

/-- The table maps to numbers of code points, which are neither that of the dotted capital I nor
white space. -/
theorem image_of_mem_lowerCaseShifts (h : shift ∈ lowerCaseShifts) (hm : shift.image? n = some m) :
    m < 0x110000 ∧ m ≠ 0x130 ∧ blankRanges.contains m = false := by
  have hall : ∀ shift ∈ lowerCaseShifts, shift.lastImage < 0x110000 ∧
      (shift.lastImage < 0x130 ∨ 0x130 < shift.target) ∧
        ∀ range ∈ blankRanges, shift.lastImage < range.1 ∨ range.2 < shift.target := by
    decide +kernel
  rcases hall shift h with ⟨hlimit, hdotted, hblank⟩
  rcases CaseShift.exists_of_image? hm with ⟨distance, rfl, hdistance, _⟩
  unfold CaseShift.lastImage at hlimit hdotted hblank
  refine ⟨by omega, by omega, ?_⟩
  cases hcontains : blankRanges.contains (shift.target + distance) with
  | false => rfl
  | true =>
      rcases Ranges.exists_of_contains hcontains with ⟨range, hrange, _, _⟩
      have := hblank range hrange
      omega

/-!
## Code points
-/

namespace CodePoint

structure IsSmall (c : CodePoint) : Prop where
  ne_dotted : c.val ≠ 0x130
  image?_eq_none : lowerCaseShifts.findSome? (·.image? c.val) = none

instance (c : CodePoint) : Decidable c.IsSmall :=
  decidable_of_iff (c.val ≠ 0x130 ∧ lowerCaseShifts.findSome? (·.image? c.val) = none)
    ⟨fun h => ⟨h.left, h.right⟩, fun h => ⟨h.ne_dotted, h.image?_eq_none⟩⟩

theorem IsSmall.lower (h : c.IsSmall) : c.lower = [c] := by
  rw [CodePoint.lower, if_neg h.ne_dotted, h.image?_eq_none]

theorem IsSmall.ne_sigma (h : c.IsSmall) : c.val ≠ 0x3A3 := by
  intro hsigma
  have hnone := h.image?_eq_none
  rw [hsigma] at hnone
  cases hnone

/-- What a code point becomes, wherever it stands. -/
structure IsLowerForm (c : CodePoint) (form : Text) : Prop where
  ne_nil : form ≠ []
  isSmall : ∀ d ∈ form, d.IsSmall
  isBlank_eq_false : c.isBlank = false → ∀ d ∈ form, d.isBlank = false

theorem isLowerForm_of_forall (hne : form ≠ []) (h : ∀ d ∈ form, d.IsSmall ∧ d.isBlank = false) :
    IsLowerForm c form where
  ne_nil := hne
  isSmall d hd := (h d hd).left
  isBlank_eq_false _ d hd := (h d hd).right

theorem isLowerForm_lower (c : CodePoint) : IsLowerForm c c.lower := by
  unfold CodePoint.lower
  split
  case isTrue => exact isLowerForm_of_forall (by simp) (by decide)
  case isFalse hdotted =>
    cases himage : lowerCaseShifts.findSome? (·.image? c.val) with
    | none =>
        exact {
          ne_nil := by simp
          isSmall := by simpa using IsSmall.mk hdotted himage
          isBlank_eq_false := by simp }
    | some m =>
        rcases List.exists_of_findSome?_eq_some himage with ⟨shift, hshift, hm⟩
        rcases image_of_mem_lowerCaseShifts hshift hm with ⟨hlimit, hne, hblank⟩
        have hnone : lowerCaseShifts.findSome? (·.image? m) = none := by
          rw [List.findSome?_eq_none_iff]
          intro other hother
          exact CaseShift.image?_eq_none_of_avoids (avoids_of_mem_lowerCaseShifts hshift hother) hm
        apply isLowerForm_of_forall (by simp)
        intro d hd
        rw [List.mem_singleton.mp hd]
        exact ⟨⟨by rwa [val_ofNat hlimit], by rwa [val_ofNat hlimit]⟩,
          by rwa [isBlank, val_ofNat hlimit]⟩

end CodePoint

/-!
## Texts
-/

namespace Text

def IsSmall (t : Text) : Prop := ∀ c ∈ t, c.IsSmall

theorem exists_lowerAfter_cons (cased : Bool) (c : CodePoint) (t : Text) :
    ∃ form after, lowerAfter cased (c :: t) = form ++ lowerAfter after t ∧ c.IsLowerForm form := by
  refine ⟨_, _, rfl, ?_⟩
  split
  case isTrue =>
    split
    case isTrue => exact CodePoint.isLowerForm_of_forall (by simp) (by decide)
    case isFalse => exact CodePoint.isLowerForm_of_forall (by simp) (by decide)
  case isFalse => exact c.isLowerForm_lower

theorem isSmall_lowerAfter (cased : Bool) (t : Text) : IsSmall (lowerAfter cased t) := by
  induction t generalizing cased with
  | nil =>
      intro c hc
      cases hc
  | cons c t ih =>
      rcases exists_lowerAfter_cons cased c t with ⟨form, after, hlower, hform⟩
      rw [hlower, IsSmall, List.forall_mem_append]
      exact ⟨hform.isSmall, ih after⟩

theorem lowerAfter_of_isSmall (h : t.IsSmall) (cased : Bool) : lowerAfter cased t = t := by
  induction t generalizing cased with
  | nil => rfl
  | cons c t ih =>
      rw [IsSmall, List.forall_mem_cons] at h
      rw [lowerAfter, if_neg h.left.ne_sigma, h.left.lower, ih h.right]
      rfl

theorem lowerAfter_eq_nil_iff {cased : Bool} : lowerAfter cased t = [] ↔ t = [] := by
  cases t with
  | nil => simp [lowerAfter]
  | cons c t =>
      rcases exists_lowerAfter_cons cased c t with ⟨form, after, hlower, hform⟩
      simp [hlower, hform.ne_nil]

theorem stops_lowerAfter (h : stops CodePoint.isBlank t = true) (cased : Bool) :
    stops CodePoint.isBlank (lowerAfter cased t) = true := by
  cases t with
  | nil => rfl
  | cons c t =>
      rcases exists_lowerAfter_cons cased c t with ⟨form, after, hlower, hform⟩
      have hc : c.isBlank = false := by simpa using h
      rw [hlower, stops_append_of_ne_nil hform.ne_nil]
      exact stops_of_forall_mem (hform.isBlank_eq_false hc)

theorem stops_reverse_lowerAfter (h : stops CodePoint.isBlank t.reverse = true) (cased : Bool) :
    stops CodePoint.isBlank (lowerAfter cased t).reverse = true := by
  induction t generalizing cased with
  | nil => rfl
  | cons c t ih =>
      rcases exists_lowerAfter_cons cased c t with ⟨form, after, hlower, hform⟩
      rw [hlower, List.reverse_append]
      rw [List.reverse_cons] at h
      by_cases ht : t = []
      · subst ht
        have hc : c.isBlank = false := by simpa using h
        have hform' : ∀ d ∈ form.reverse, d.isBlank = false :=
          fun d hd => hform.isBlank_eq_false hc d (List.mem_reverse.mp hd)
        exact stops_of_forall_mem hform'
      · rw [stops_append_of_ne_nil (by simpa using ht)] at h
        rw [stops_append_of_ne_nil (by simpa [lowerAfter_eq_nil_iff] using ht)]
        exact ih h after

/-!
## The lower-case form
-/

theorem isSmall_lower (t : Text) : (lower t).IsSmall := isSmall_lowerAfter false t

theorem lower_of_isSmall (h : t.IsSmall) : lower t = t := lowerAfter_of_isSmall h false

theorem isTrimmed_lower (h : IsTrimmed CodePoint.isBlank t) :
    IsTrimmed CodePoint.isBlank (lower t) where
  start := stops_lowerAfter h.start false
  final := stops_reverse_lowerAfter h.final false

end Text

end ImportAtlas
