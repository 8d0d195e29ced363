import ImportAtlas.Specifier
import Mathlib.Data.List.Basic

/-!
# The file that a path stands for

The files that a path may stand for are tried in order, and the first known one is taken.  So what
is taken depends on which files are known and not on their order.  More known files, or more ways to
complete the path, take nothing away: at most a file that was not known before comes in front.
-/

namespace ImportAtlas

namespace Specifier

variable {known others more extensions : List Text} {path target old : Text}

def Precedes (extensions : List Text) (path first second : Text) : Prop :=
  (candidates extensions path).idxOf first < (candidates extensions path).idxOf second

theorem idxOf_le_of_find? {p : Text → Bool} {names : List Text}
    (h : names.find? p = some target) {name : Text} (hname : p name = true) :
    names.idxOf target ≤ names.idxOf name := by
  induction names with
  | nil => cases h
  | cons first names ih =>
      rw [List.find?_cons] at h
      cases hfirst : p first with
      | true =>
          rw [hfirst] at h
          cases h
          rw [List.idxOf_cons_self]
          exact Nat.zero_le _
      | false =>
          rw [hfirst] at h
          have htarget : first ≠ target := by
            intro heq
            have hfound := List.find?_some h
            rw [← heq, hfirst] at hfound
            cases hfound
          have hother : first ≠ name := by
            intro heq
            rw [heq, hname] at hfirst
            cases hfirst
          rw [List.idxOf_cons_ne _ htarget, List.idxOf_cons_ne _ hother]
          exact Nat.succ_le_succ (ih h)

/-- What is taken is known, and it is tried before all other known files. -/
theorem resolve?_eq_some_iff :
    resolve? known extensions path = some target ↔
      target ∈ candidates extensions path ∧ target ∈ known ∧
        ∀ name ∈ known, (candidates extensions path).idxOf target ≤
          (candidates extensions path).idxOf name := by
  unfold resolve?
  constructor
  · intro h
    refine ⟨List.mem_of_find?_eq_some h, List.contains_iff_mem.mp (List.find?_some h), ?_⟩
    intro name hname
    exact idxOf_le_of_find? h (List.contains_iff_mem.mpr hname)
  · intro h
    rcases h with ⟨hcandidate, hknown, hfirst⟩
    cases hfound : (candidates extensions path).find? (known.contains ·) with
    | none =>
        have hnone := List.find?_eq_none.mp hfound target hcandidate
        exact absurd (List.contains_iff_mem.mpr hknown) hnone
    | some found =>
        have hfoundKnown : found ∈ known := List.contains_iff_mem.mp (List.find?_some hfound)
        have hle := idxOf_le_of_find? hfound (List.contains_iff_mem.mpr hknown)
        have heq := Nat.le_antisymm hle (hfirst found hfoundKnown)
        rw [(List.idxOf_inj (List.mem_of_find?_eq_some hfound)).mp heq]

/-- Which file is taken does not depend on how the known files are listed. -/
theorem resolve?_congr (h : ∀ name, name ∈ known ↔ name ∈ others) :
    resolve? known extensions path = resolve? others extensions path := by
  have hcontains : ∀ name, known.contains name = others.contains name := by
    intro name
    rw [Bool.eq_iff_iff, List.contains_iff_mem, List.contains_iff_mem]
    exact h name
  unfold resolve?
  simp only [hcontains]

theorem resolve?_of_mem (h : path ∈ known) : resolve? known extensions path = some path := by
  have hfirst : (candidates extensions path).idxOf path = 0 := List.idxOf_cons_self
  rw [resolve?_eq_some_iff, hfirst]
  exact ⟨List.mem_cons_self, h, fun name _ => Nat.zero_le _⟩

theorem resolve?_nil_eq_some_iff :
    resolve? known [] path = some target ↔ target = path ∧ path ∈ known := by
  constructor
  · intro h
    rcases resolve?_eq_some_iff.mp h with ⟨hcandidate, hknown, _⟩
    have heq : target = path := List.mem_singleton.mp hcandidate
    exact ⟨heq, heq ▸ hknown⟩
  · intro h
    rw [h.left]
    exact resolve?_of_mem h.right

/-- When more files are known, the same file is taken or a new one that is tried before it. -/
theorem resolve?_append_known (more : List Text) (h : resolve? known extensions path = some old) :
    ∃ target, resolve? (known ++ more) extensions path = some target ∧
      (target = old ∨ target ∈ more ∧ target ∉ known ∧ Precedes extensions path target old) := by
  rcases resolve?_eq_some_iff.mp h with ⟨holdCandidate, holdKnown, holdFirst⟩
  cases hfound : resolve? (known ++ more) extensions path with
  | none =>
      have hnone := List.find?_eq_none.mp hfound old holdCandidate
      exact absurd (List.contains_iff_mem.mpr (List.mem_append_left more holdKnown)) hnone
  | some target =>
      rcases resolve?_eq_some_iff.mp hfound with ⟨hcandidate, hknown, hfirst⟩
      have hle := hfirst old (List.mem_append_left more holdKnown)
      refine ⟨target, rfl, ?_⟩
      rcases Nat.eq_or_lt_of_le hle with heq | hlt
      · exact Or.inl ((List.idxOf_inj hcandidate).mp heq)
      · have hnew : target ∉ known := by
          intro hmem
          exact Nat.not_lt_of_le (holdFirst target hmem) hlt
        have hmore : target ∈ more := (List.mem_append.mp hknown).resolve_left hnew
        exact Or.inr ⟨hmore, hnew, hlt⟩

end Specifier

end ImportAtlas
