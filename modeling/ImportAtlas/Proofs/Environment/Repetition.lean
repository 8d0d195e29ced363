import ImportAtlas.Environment.Load

/-!
# Loading a file again

What a file has set is there when the same file is loaded again, so it is passed over then, and the
first variable that could not be set is met again with nothing set in between.  So the second
loading adds nothing to what the first one left, even if that was cut short, and it comes to the
same end.
-/

namespace ImportAtlas

namespace Variables

variable {environment after : Variables} {name value other : Text}

theorem isSome_get?_put (h : (environment.get? other).isSome) :
    ((environment.put name value).get? other).isSome := by
  rw [get?_put]
  split
  case isTrue => rfl
  case isFalse => exact h

theorem holds_iff : environment.holds name = true ↔
    Utf8.strangeRun? name = none ∧ (environment.get? (Utf8.canonicalName name)).isSome := by
  simp [holds]

theorem strangeRun?_of_fault? (h : fault? name value = none) : Utf8.strangeRun? name = none := by
  unfold fault? at h
  cases hname : Utf8.strangeRun? name with
  | none => rfl
  | some failure =>
      rw [hname] at h
      cases h

theorem holds_of_set (h : environment.set name value = .ok after) :
    after.holds name = true ∧
      ∀ other, environment.holds other = true → after.holds other = true := by
  unfold set at h
  split at h
  case h_1 => cases h
  case h_2 hfault =>
    cases h
    constructor
    · rw [holds_iff]
      exact ⟨strangeRun?_of_fault? hfault, by simp [get?_put]⟩
    · intro other hother
      rw [holds_iff] at hother ⊢
      exact ⟨hother.left, isSome_get?_put hother.right⟩

theorem holds_apply (assignments : Variables) (h : environment.holds name = true) :
    (environment.apply false assignments).1.holds name = true := by
  induction assignments generalizing environment with
  | nil => exact h
  | cons entry assignments ih =>
      rcases entry with ⟨first, value⟩
      simp only [apply, Bool.not_false, Bool.true_and]
      split
      case isTrue => exact ih h
      case isFalse =>
        cases hset : environment.set first value with
        | error fault => exact h
        | ok after => exact ih ((holds_of_set hset).right name h)

theorem apply_again (environment assignments : Variables) :
    (environment.apply false assignments).1.apply false assignments =
      environment.apply false assignments := by
  induction assignments generalizing environment with
  | nil => rfl
  | cons entry assignments ih =>
      rcases entry with ⟨name, value⟩
      by_cases hholds : environment.holds name = true
      · have hfirst : environment.apply false ((name, value) :: assignments) =
            environment.apply false assignments := by simp [apply, hholds]
        have hstill := holds_apply assignments hholds
        rw [hfirst, apply]
        simp only [hstill, Bool.not_false, Bool.true_and, if_true]
        exact ih environment
      · cases hset : environment.set name value with
        | error fault => simp [apply, hholds, hset]
        | ok after =>
            have hfirst : environment.apply false ((name, value) :: assignments) =
                after.apply false assignments := by simp [apply, hholds, hset]
            have hstill := holds_apply assignments (holds_of_set hset).left
            rw [hfirst, apply]
            simp only [hstill, Bool.not_false, Bool.true_and, if_true]
            exact ih after

open EnvironmentFile in
/-- Completing an environment again changes nothing and reports the same. -/
theorem load_again (environment : Variables) (tree : FileTree) (choice : EnvironmentChoice) :
    (environment.load tree choice).1.load tree choice = environment.load tree choice := by
  rcases hfirst : first? tree choice.candidates with fault | _ | ⟨path, assignments⟩
  · simp only [load, hfirst]
  · simp only [load, hfirst]
  · have hagain := apply_again environment assignments
    rcases happly : environment.apply false assignments with ⟨after, fault?⟩
    rw [happly] at hagain
    have hload : environment.load tree choice =
        (after, match fault? with
          | some fault => .fault (.variable fault)
          | none => .record (loadedRecord path)) := by
      cases fault? <;> simp only [load, hfirst, happly]
    rw [hload]
    cases fault? <;> simp only [load, hfirst, hagain]

end Variables

end ImportAtlas
