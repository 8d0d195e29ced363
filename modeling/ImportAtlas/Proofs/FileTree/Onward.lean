import ImportAtlas.Proofs.FileTree.Leads

/-!
# Going on from a directory

A route leads to an entry by way of the directory to which it leads without its last name, whatever
links stand on the way there.  From a directory on, the names of real subdirectories are followed
without a link.
-/

namespace ImportAtlas

namespace Node

variable {root node : Node} {location rest : Location}

theorem hasDirectory_of_get? (h : root.get? (location ++ rest) = some node) (hrest : rest ≠ []) :
    root.HasDirectory location := by
  rw [get?_append, Option.bind_eq_some_iff] at h
  rcases h with ⟨found, hfound, hget⟩
  cases rest with
  | nil => exact absurd rfl hrest
  | cons first rest =>
      cases found with
      | directory entries => exact ⟨entries, hfound⟩
      | file content => cases hget
      | link target => cases hget
      | device isFull => cases hget

end Node

namespace FileTree

variable {root node : Node} {links : Nat} {base location directory : Location}
  {name last target : Text} {names rest : List Text} {place : Place}
  {entries more : List (Text × Node)}

theorem eq_of_follow_nil {quest : Quest}
    (h : follow root quest links base [] = .ok (.entry location node)) : location = base := by
  rw [follow] at h
  split at h <;> cases h
  rfl

/-!
## Directories behind a directory
-/

theorem follow_append
    (h : follow root .target links base names = .ok (.entry directory (.directory entries)))
    (hrest : ∀ links, follow root .target links directory rest =
      .ok (.entry location (.directory more))) :
    follow root .target links base (names ++ rest) = .ok (.entry location (.directory more)) := by
  induction links using Nat.strongRecOn generalizing base names with
  | ind links hfewer =>
      induction names generalizing base with
      | nil =>
          rw [← eq_of_follow_nil h]
          exact hrest links
      | cons name names ih =>
          rw [List.cons_append]
          by_cases hidle : isIdle name = true
          · rw [follow_idle hidle] at h ⊢
            exact ih h
          by_cases hup : name = ".."
          · subst hup
            rw [follow_up] at h ⊢
            exact ih h
          have hactive : isIdle name = false := Bool.eq_false_iff.mpr hidle
          rw [follow_name_iff hactive hup] at h ⊢
          rcases h with ⟨hshort, ⟨inner, hchild, h⟩ | ⟨target, fewer, hchild, hlinks, h⟩⟩
          · exact ⟨hshort, Or.inl ⟨inner, hchild, ih h⟩⟩
          · refine ⟨hshort, Or.inr ⟨target, fewer, hchild, hlinks, ?_⟩⟩
            rw [← List.append_assoc]
            exact hfewer fewer (by omega) h

theorem follow_down (links : Nat) (hnames : ∀ name ∈ names, IsStep name)
    (hthere : root.get? (base ++ names) = some (.directory entries)) :
    follow root .target links base names = .ok (.entry (base ++ names) (.directory entries)) := by
  induction names generalizing base with
  | nil =>
      rw [List.append_nil] at hthere ⊢
      exact follow_nil_of_get? hthere
  | cons name names ih =>
      rw [List.forall_mem_cons] at hnames
      rw [List.append_cons] at hthere ⊢
      have hinner : root.HasDirectory (base ++ [name]) := by
        by_cases hlast : names = []
        · rw [hlast, List.append_nil] at hthere
          exact ⟨entries, hthere⟩
        · exact Node.hasDirectory_of_get? hthere hlast
      rcases hinner with ⟨inner, hinner⟩
      rw [Node.get?_snoc] at hinner
      rw [follow_name_iff hnames.left.active hnames.left.ne_up]
      exact ⟨hnames.left.short, Or.inl ⟨inner, hinner, ih hnames.right hthere⟩⟩

/-!
## The last name
-/

/-- When more names follow, a name stands for a directory or for a link. -/
theorem follow_onward_iff (hidle : isIdle name = false) (hup : name ≠ "..") (hrest : rest ≠ [])
    (hslash : rest ≠ [[]]) :
    follow root .name links base (name :: rest) = .ok place ↔
      byteLength name ≤ nameLimit ∧
        ((∃ inner, (root.get? base).bind (·.child? name) = some (.directory inner) ∧
            follow root .name links (base ++ [name]) rest = .ok place) ∨
          ∃ target fewer, (root.get? base).bind (·.child? name) = some (.link target) ∧
            links = fewer + 1 ∧
            follow root .name fewer (start target base) (route target ++ rest) = .ok place) := by
  by_cases hlong : nameLimit < byteLength name
  · have hskip : ¬ (decide (name = []) || decide (name = Text.ofString ".")) = true := by
      unfold isIdle at hidle
      simp [hidle]
    rw [follow, if_neg hskip, if_neg hup, if_neg (by simp), if_pos hlong]
    simp [Nat.not_le.mpr hlong]
  · have hshort : byteLength name ≤ nameLimit := Nat.le_of_not_lt hlong
    rw [follow_step ⟨hidle, hup, hshort⟩ (by simp), Node.get?_snoc]
    cases hchild : (root.get? base).bind (·.child? name) with
    | none => simp [hrest, hslash]
    | some child =>
        cases child with
        | directory inner => simp [hshort, hrest]
        | link target =>
            cases links with
            | zero => simp [hrest]
            | succ fewer => simp [hshort, hrest]
        | file content => simp [hrest]
        | device isFull => simp [hrest]

theorem follow_last_iff (hlast : IsStep last) :
    follow root .name links base [last] = .ok (.entry location node) ↔
      location = base ++ [last] ∧ root.get? location = some node := by
  rw [follow_step hlast (by simp)]
  cases hthere : root.get? (base ++ [last]) with
  | none =>
      simp only [decide_true, Bool.true_or, if_true, Except.ok.injEq, reduceCtorEq, false_iff]
      rintro ⟨rfl, hget⟩
      rw [hthere] at hget
      cases hget
  | some found =>
      have hends : (Except.ok (Place.entry (base ++ [last]) found) : Except FileFault Place) =
          .ok (.entry location node) ↔
            location = base ++ [last] ∧ root.get? location = some node := by
        constructor
        · intro h
          cases h
          exact ⟨rfl, hthere⟩
        · rintro ⟨rfl, hget⟩
          rw [hthere] at hget
          cases hget
          rfl
      cases found <;> exact hends

/-- A route leads to an entry when it leads to the directory of the entry without the last name. -/
theorem follow_concat_iff (hlast : IsStep last) :
    follow root .name links base (names ++ [last]) = .ok (.entry location node) ↔
      ∃ directory entries, follow root .target links base names =
          .ok (.entry directory (.directory entries)) ∧
        location = directory ++ [last] ∧ root.get? location = some node := by
  induction links using Nat.strongRecOn generalizing base names with
  | ind links hfewer =>
      induction names generalizing base with
      | nil =>
          rw [List.nil_append, follow_last_iff hlast]
          constructor
          · rintro ⟨rfl, hget⟩
            rcases Node.hasDirectory_of_child hget with ⟨entries, hentries⟩
            exact ⟨base, entries, follow_nil_of_get? hentries, rfl, hget⟩
          · rintro ⟨directory, entries, hfollow, rfl, hget⟩
            rw [eq_of_follow_nil hfollow] at hget ⊢
            exact ⟨rfl, hget⟩
      | cons name names ih =>
          have hrest : names ++ [last] ≠ [] := by simp
          have hslash : names ++ [last] ≠ [[]] := by
            intro h
            have hends := congrArg List.getLast? h
            simp [hlast.ne_nil] at hends
          rw [List.cons_append]
          by_cases hidle : isIdle name = true
          · simp only [follow_idle hidle]
            exact ih
          by_cases hup : name = ".."
          · subst hup
            simp only [follow_up]
            exact ih
          have hactive : isIdle name = false := Bool.eq_false_iff.mpr hidle
          rw [follow_onward_iff hactive hup hrest hslash]
          simp only [follow_name_iff hactive hup, ih]
          constructor
          · rintro ⟨hshort, ⟨inner, hchild, directory, entries, h, hend⟩ |
              ⟨target, fewer, hchild, hlinks, h⟩⟩
            · exact ⟨directory, entries, ⟨hshort, Or.inl ⟨inner, hchild, h⟩⟩, hend⟩
            · rw [← List.append_assoc, hfewer fewer (by omega)] at h
              rcases h with ⟨directory, entries, h, hend⟩
              exact ⟨directory, entries,
                ⟨hshort, Or.inr ⟨target, fewer, hchild, hlinks, h⟩⟩, hend⟩
          · rintro ⟨directory, entries, ⟨hshort, ⟨inner, hchild, h⟩ |
              ⟨target, fewer, hchild, hlinks, h⟩⟩, hend⟩
            · exact ⟨hshort, Or.inl ⟨inner, hchild, directory, entries, h, hend⟩⟩
            · refine ⟨hshort, Or.inr ⟨target, fewer, hchild, hlinks, ?_⟩⟩
              rw [← List.append_assoc, hfewer fewer (by omega)]
              exact ⟨directory, entries, h, hend⟩

end FileTree

end ImportAtlas
