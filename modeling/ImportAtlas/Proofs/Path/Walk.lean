import ImportAtlas.Path

/-!
# The walk along a path

Names that lead down are collected as they come.  A walk that begins somewhere below its start
either climbs above that start, which a relative path records for good, or it stays below.  A walk
that stays below does the same in every place: what has been passed before it began remains as it
was, and whether the path is absolute does not matter.
-/

namespace ImportAtlas

namespace Path

/-- The names passed on a walk, the last one first. -/
def walk (absolute : Bool) (passed names : List Text) : List Text :=
  names.foldl (step absolute) passed

@[simp] theorem walk_nil (absolute : Bool) (passed : List Text) :
    walk absolute passed [] = passed := rfl

@[simp] theorem walk_cons (absolute : Bool) (passed : List Text) (name : Text)
    (names : List Text) :
    walk absolute passed (name :: names) = walk absolute (step absolute passed name) names := rfl

theorem walk_append (absolute : Bool) (passed names others : List Text) :
    walk absolute passed (names ++ others) =
      walk absolute (walk absolute passed names) others := by
  unfold walk
  rw [List.foldl_append]

theorem step_down {name : Text} (h : name ≠ "..") (absolute : Bool) (passed : List Text) :
    step absolute passed name = name :: passed := by
  simp [step, h]

theorem step_up {last : Text} (h : last ≠ "..") (absolute : Bool) (before : List Text) :
    step absolute (last :: before) ".." = before := by
  simp [step, h]

theorem walk_down {names : List Text} (h : ∀ name ∈ names, name ≠ "..") (absolute : Bool)
    (passed : List Text) : walk absolute passed names = names.reverse ++ passed := by
  induction names generalizing passed with
  | nil => rfl
  | cons name names ih =>
      have hname : name ≠ ".." := h name (by simp)
      have hnames : ∀ other ∈ names, other ≠ ".." := by
        intro other hother
        exact h other (by simp [hother])
      rw [walk_cons, step_down hname, ih hnames]
      simp

/-!
## Climbing and staying below
-/

/-- The walk has left the place where the path begins. -/
def HasClimbed (passed : List Text) : Prop := ∃ later, passed = later ++ [Text.ofString ".."]

theorem HasClimbed.step {passed : List Text} (h : HasClimbed passed) (name : Text) :
    HasClimbed (step false passed name) := by
  rcases h with ⟨later, hpassed⟩
  rw [hpassed]
  by_cases hname : name = ".."
  · rw [hname]
    cases later with
    | nil => exact ⟨[Text.ofString ".."], rfl⟩
    | cons last later =>
        by_cases hlast : last = ".."
        · refine ⟨Text.ofString ".." :: last :: later, ?_⟩
          simp [Path.step, hlast]
        · rw [List.cons_append, step_up hlast]
          exact ⟨later, rfl⟩
  · rw [step_down hname]
    exact ⟨name :: later, rfl⟩

theorem HasClimbed.walk {passed : List Text} (h : HasClimbed passed) (names : List Text) :
    HasClimbed (walk false passed names) := by
  induction names generalizing passed with
  | nil => exact h
  | cons name names ih => exact ih (h.step name)

/-- A walk that does not climb can be made from everywhere, and it ends below where it began. -/
theorem walk_below {passed : List Text} (hpassed : ∀ name ∈ passed, name ≠ "..")
    {names : List Text} (h : ¬ HasClimbed (walk false passed names)) (absolute : Bool)
    (base : List Text) :
    walk absolute (passed ++ base) names = walk false passed names ++ base := by
  induction names generalizing passed with
  | nil => rfl
  | cons name names ih =>
      rw [walk_cons] at h
      by_cases hname : name = ".."
      · subst hname
        cases passed with
        | nil =>
            have hclimbed : HasClimbed (step false [] "..") := ⟨[], rfl⟩
            exact absurd (hclimbed.walk names) h
        | cons last before =>
            have hlast : last ≠ ".." := hpassed last (by simp)
            have hbefore : ∀ other ∈ before, other ≠ ".." := by
              intro other hother
              exact hpassed other (by simp [hother])
            rw [step_up hlast] at h
            rw [walk_cons, walk_cons, List.cons_append, step_up hlast, step_up hlast]
            exact ih hbefore h
      · have hmore : ∀ other ∈ name :: passed, other ≠ ".." := by
          intro other hother
          rcases List.mem_cons.mp hother with heq | hmem
          · rw [heq]
            exact hname
          · exact hpassed other hmem
        rw [step_down hname] at h
        rw [walk_cons, walk_cons, step_down hname, step_down hname]
        exact ih hmore h

end Path

end ImportAtlas
