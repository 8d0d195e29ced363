/-!
# Ascending ranges

A class of code points that follows a table of Unicode is given by the ranges of its members, lowest
first.  Looking a number up stops at the first range above it.
-/

namespace ImportAtlas

/-- Closed ranges of numbers, ascending and apart from each other. -/
abbrev Ranges := List (Nat × Nat)

namespace Ranges

def contains : Ranges → Nat → Bool
  | [], _ => false
  | (low, high) :: rest, n =>
      if n < low then false
      else if n ≤ high then true
      else contains rest n

def Ascending : Ranges → Prop
  | [] => True
  | [(low, high)] => low ≤ high
  | (low, high) :: (low', high') :: rest =>
      low ≤ high ∧ high < low' ∧ Ascending ((low', high') :: rest)

instance decidableAscending : (ranges : Ranges) → Decidable (Ascending ranges)
  | [] => .isTrue trivial
  | [(low, high)] => inferInstanceAs (Decidable (low ≤ high))
  | (low, high) :: (low', high') :: rest =>
      have := decidableAscending ((low', high') :: rest)
      inferInstanceAs
        (Decidable (low ≤ high ∧ high < low' ∧ Ascending ((low', high') :: rest)))

theorem low_le_of_mem_tail {low high : Nat} {rest : Ranges} (h : Ascending ((low, high) :: rest))
    {range : Nat × Nat} (mem : range ∈ rest) : high < range.1 := by
  induction rest generalizing low high with
  | nil => cases mem
  | cons next rest ih =>
      obtain ⟨low', high'⟩ := next
      obtain ⟨_, below, tail⟩ := h
      cases mem with
      | head => exact below
      | tail _ later =>
          have atHead : low' ≤ high' := by
            cases rest with
            | nil => exact tail
            | cons => exact tail.1
          have := ih tail later
          omega

/-- On ascending ranges the early stop loses nothing. -/
theorem contains_iff {ranges : Ranges} (h : Ascending ranges) (n : Nat) :
    contains ranges n = true ↔ ∃ range ∈ ranges, range.1 ≤ n ∧ n ≤ range.2 := by
  induction ranges with
  | nil => simp [contains]
  | cons range rest ih =>
      obtain ⟨low, high⟩ := range
      have tail : Ascending rest := by
        cases rest with
        | nil => trivial
        | cons => exact h.2.2
      have atHead : low ≤ high := by
        cases rest with
        | nil => exact h
        | cons => exact h.1
      simp only [contains, List.mem_cons, exists_eq_or_imp]
      by_cases below : n < low
      · simp only [below, if_true, Bool.false_eq_true, false_iff, not_or, not_exists, not_and]
        refine ⟨by omega, fun later mem => ?_⟩
        have := low_le_of_mem_tail h mem
        omega
      · by_cases inside : n ≤ high
        · simp [below, inside, Nat.not_lt.1 below]
        · simp [below, inside, ih tail]

end Ranges

end ImportAtlas
