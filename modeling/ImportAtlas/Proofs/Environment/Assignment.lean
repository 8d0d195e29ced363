import ImportAtlas.Environment.Load
import ImportAtlas.Proofs.Encoding.Decoded
import ImportAtlas.Proofs.Text.Lines
import ImportAtlas.Proofs.Text.Split
import ImportAtlas.Proofs.Text.Trim
import Mathlib.Data.List.Induction
import Mathlib.Data.List.Nodup

/-!
# Assignments of an environment file

The text of an environment file is well-formed, a name in it ends before its first equals sign, and
a line without a name assigns nothing.  So of all that can keep a variable from being set only a
zero is left.  Each name is assigned once, and the assignments before it do not touch it, so it can
be seen from the file and the environment alone whether setting the variables goes wrong.
-/

namespace ImportAtlas

variable {environment held assignments : Variables} {name value other content line t : Text}
  {entry : Text × Text}

/-!
## Parts of lines
-/

namespace EnvironmentFile

/-- A name and a value that can be set as long as they hold no zero. -/
structure IsAssignable (entry : Text × Text) : Prop where
  name_isWellFormed : entry.1.IsWellFormed
  value_isWellFormed : entry.2.IsWellFormed
  name_ne_nil : entry.1 ≠ []
  equals_not_mem : CodePoint.ofChar '=' ∉ entry.1

theorem withoutExport_subset (line : Text) : withoutExport line ⊆ line := by
  unfold withoutExport
  split
  case h_1 rest hafter =>
    rw [Text.eq_append_of_after? hafter]
    exact List.Subset.trans (Text.trimStart_subset rest) (List.subset_append_right _ _)
  case h_2 => exact List.Subset.refl _

theorem isAssignable_of_assignment? (hline : line.IsWellFormed)
    (h : assignment? line = some entry) : IsAssignable entry := by
  simp only [assignment?] at h
  split at h
  case isTrue => cases h
  case isFalse =>
    split at h
    case h_1 => cases h
    case h_2 before after hcut =>
      split at h
      case isTrue => cases h
      case isFalse hname =>
        rw [← Option.some.inj h]
        rcases Text.cut?_eq_some hcut with ⟨hequals, hbefore, hafter⟩
        have hparts : withoutExport (Text.trim line) ⊆ line :=
          List.Subset.trans (withoutExport_subset _) (Text.trim_subset line)
        have hvalue : unquote after ⊆ after :=
          List.Subset.trans
            (List.Subset.trans (Text.trimCopies_subset _ _) (Text.trimCopies_subset _ _))
            (Text.trim_subset after)
        exact {
          name_isWellFormed := hline.mono
            (List.Subset.trans (Text.trim_subset before) (List.Subset.trans hbefore hparts))
          value_isWellFormed := hline.mono
            (List.Subset.trans hvalue (List.Subset.trans hafter hparts))
          name_ne_nil := hname
          equals_not_mem := fun hmem => hequals (Text.trim_subset before hmem) }

end EnvironmentFile

/-!
## Lists of variables
-/

namespace Variables

open EnvironmentFile

theorem mem_put (h : entry ∈ put held name value) : entry ∈ held ∨ entry = (name, value) := by
  induction held with
  | nil => exact Or.inr (List.mem_singleton.mp h)
  | cons first held ih =>
      rcases first with ⟨known, old⟩
      simp only [put] at h
      split at h
      case isTrue hsame =>
        rcases List.mem_cons.mp h with rfl | h
        · exact Or.inr (by rw [hsame])
        · exact Or.inl (by simp [h])
      case isFalse =>
        rcases List.mem_cons.mp h with rfl | h
        · exact Or.inl (by simp)
        · rcases ih h with h | h
          · exact Or.inl (by simp [h])
          · exact Or.inr h

theorem mem_map_put (h : other ∈ (put held name value).map (·.1)) :
    other ∈ held.map (·.1) ∨ other = name := by
  rcases List.mem_map.mp h with ⟨entry, hentry, rfl⟩
  rcases mem_put hentry with hentry | rfl
  · exact Or.inl (List.mem_map.mpr ⟨entry, hentry, rfl⟩)
  · exact Or.inr rfl

theorem nodup_put (h : (held.map (·.1)).Nodup) : ((put held name value).map (·.1)).Nodup := by
  induction held with
  | nil => exact List.nodup_singleton name
  | cons first held ih =>
      rcases first with ⟨known, old⟩
      rw [List.map_cons, List.nodup_cons] at h
      simp only [put]
      split
      case isTrue =>
        rw [List.map_cons, List.nodup_cons]
        exact h
      case isFalse hother =>
        rw [List.map_cons, List.nodup_cons]
        refine ⟨?_, ih h.right⟩
        intro hmem
        rcases mem_map_put hmem with hmem | heq
        · exact h.left hmem
        · exact hother heq

theorem ofPairs_concat (pairs : List (Text × Text)) (pair : Text × Text) :
    ofPairs (pairs ++ [pair]) = put (ofPairs pairs) pair.1 pair.2 := by
  simp [ofPairs]

theorem mem_of_mem_ofPairs {pairs : List (Text × Text)} (h : entry ∈ ofPairs pairs) :
    entry ∈ pairs := by
  induction pairs using List.reverseRecOn with
  | nil => cases h
  | append_singleton pairs pair ih =>
      rw [ofPairs_concat] at h
      rw [List.mem_append, List.mem_singleton]
      rcases mem_put h with h | h
      · exact Or.inl (ih h)
      · exact Or.inr h

theorem nodup_ofPairs (pairs : List (Text × Text)) : ((ofPairs pairs).map (·.1)).Nodup := by
  induction pairs using List.reverseRecOn with
  | nil => exact List.nodup_nil
  | append_singleton pairs pair ih =>
      rw [ofPairs_concat]
      exact nodup_put ih

/-!
## Setting variables
-/

theorem holds_of_isWellFormed (h : name.IsWellFormed) :
    environment.holds name = (environment.get? name).isSome := by
  rw [holds, Utf8.strangeRun?_of_isWellFormed h, Utf8.canonicalName_of_isWellFormed h]
  rfl

/-- What can be assigned is refused for a zero alone. -/
theorem exists_fault?_iff (h : IsAssignable (name, value)) :
    (∃ fault, fault? name value = some fault) ↔ ∃ c ∈ name ++ value, c.val = 0 := by
  have hequals : name.contains (CodePoint.ofChar '=') = false := by
    simpa using h.equals_not_mem
  have hname : name ≠ [] := h.name_ne_nil
  have hany : (name ++ value).any (·.val = 0) = true ↔ ∃ c ∈ name ++ value, c.val = 0 := by
    simp only [List.any_eq_true, decide_eq_true_eq]
  unfold fault?
  rw [Utf8.strangeRun?_of_isWellFormed h.name_isWellFormed,
    Utf8.strangeRun?_of_isWellFormed h.value_isWellFormed, ← hany]
  simp only [Option.or_none, hequals, Bool.false_eq_true, hname, if_false]
  cases (name ++ value).any (·.val = 0) <;> simp

/-- An assignment to a name that is not there yet, with a zero in it. -/
def IsRefused (environment : Variables) (entry : Text × Text) : Prop :=
  environment.holds entry.1 = false ∧ ∃ c ∈ entry.1 ++ entry.2, c.val = 0

theorem isRefused_put (hname : name.IsWellFormed) (hentry : entry.1.IsWellFormed)
    (hne : name ≠ entry.1) :
    IsRefused (environment.put (Utf8.canonicalName name) value) entry ↔
      environment.IsRefused entry := by
  unfold IsRefused
  rw [holds_of_isWellFormed hentry, holds_of_isWellFormed hentry,
    Utf8.canonicalName_of_isWellFormed hname, get?_put, if_neg hne]

/-- Setting the variables of a file goes wrong exactly when one of its assignments is refused. -/
theorem apply_eq_some_iff (hnodup : (assignments.map (·.1)).Nodup)
    (h : ∀ entry ∈ assignments, IsAssignable entry) :
    (∃ fault, (environment.apply false assignments).2 = some fault) ↔
      ∃ entry ∈ assignments, environment.IsRefused entry := by
  induction assignments generalizing environment with
  | nil => simp [apply]
  | cons first assignments ih =>
      rcases first with ⟨name, value⟩
      rw [List.map_cons, List.nodup_cons] at hnodup
      rw [List.forall_mem_cons] at h
      have hrest : ∀ environment, (∃ fault, (apply environment false assignments).2 = some fault) ↔
          ∃ entry ∈ assignments, IsRefused environment entry :=
        fun _ => ih hnodup.right h.right
      simp only [apply, Bool.not_false, Bool.true_and]
      by_cases hholds : environment.holds name = true
      · have hfirst : ¬ environment.IsRefused (name, value) := by
          intro hrefused
          rw [hrefused.left] at hholds
          cases hholds
        rw [if_pos hholds, hrest]
        simp [hfirst]
      · rw [if_neg hholds]
        unfold set
        have hzero := exists_fault?_iff h.left
        cases hfault : fault? name value with
        | some fault =>
            constructor
            · intro _
              exact ⟨(name, value), by simp, by simpa using hholds, hzero.mp ⟨fault, hfault⟩⟩
            · intro _
              exact ⟨fault, rfl⟩
        | none =>
            have hfirst : ¬ environment.IsRefused (name, value) := by
              rintro ⟨_, hrefused⟩
              rcases hzero.mpr hrefused with ⟨fault, hfault'⟩
              rw [hfault] at hfault'
              cases hfault'
            have hput : ∀ entry ∈ assignments,
                IsRefused (environment.put (Utf8.canonicalName name) (Utf8.canonicalName value))
                  entry ↔ environment.IsRefused entry := by
              intro entry hentry
              apply isRefused_put h.left.name_isWellFormed (h.right entry hentry).name_isWellFormed
              intro heq
              exact hnodup.left (heq ▸ List.mem_map.mpr ⟨entry, hentry, rfl⟩)
            dsimp only
            rw [hrest]
            simp only [List.mem_cons, exists_eq_or_imp, hfirst, false_or]
            exact exists_congr fun entry => and_congr_right fun hentry => hput entry hentry

end Variables

/-!
## Loading a file
-/

namespace EnvironmentFile

variable {tree : FileTree} {path : Text} {paths : List Text}

theorem isAssignable_of_mem_parse (hcontent : content.IsWellFormed) (h : entry ∈ parse content) :
    IsAssignable entry := by
  rcases List.mem_filterMap.mp (Variables.mem_of_mem_ofPairs h) with ⟨line, hline, hassigned⟩
  exact isAssignable_of_assignment? (hcontent.mono (Text.subset_of_mem_lines hline)) hassigned

theorem nodup_parse (content : Text) : ((parse content).map (·.1)).Nodup :=
  Variables.nodup_ofPairs _

theorem exists_of_read? (h : read? tree path = .ok (some assignments)) :
    ∃ content, content.IsWellFormed ∧ assignments = parse content := by
  simp only [read?, FileTree.readText?] at h
  split at h
  case isTrue => cases h
  case isFalse =>
    split at h
    case h_1 => cases h
    case h_2 => cases h
    case h_3 =>
      cases hread : tree.readText "utf-8" path with
      | error fault =>
          rw [hread] at h
          cases h
      | ok content =>
          rw [hread] at h
          cases h
          exact ⟨content, FileTree.isWellFormed_of_readText Charset.select_utf8 hread, rfl⟩

theorem exists_of_first? (h : first? tree paths = .ok (some (path, assignments))) :
    ∃ content, content.IsWellFormed ∧ assignments = parse content := by
  induction paths with
  | nil => cases h
  | cons first paths ih =>
      simp only [first?] at h
      split at h
      case h_1 => cases h
      case h_2 => exact ih h
      case h_3 hread =>
        cases h
        exact exists_of_read? hread

theorem first?_eq_error {fault : LoadFault} (h : first? tree paths = .error fault) :
    ∃ path cause, fault = .unreadable path cause := by
  induction paths with
  | nil => cases h
  | cons first paths ih =>
      simp only [first?] at h
      split at h
      case h_1 cause _ =>
        cases h
        exact ⟨first, cause, rfl⟩
      case h_2 => exact ih h
      case h_3 => cases h

end EnvironmentFile

/-- Loading ends with a variable that cannot be set exactly when the file that is found assigns a
zero to a name that is not there yet, or has a zero in the name. -/
theorem Variables.load_eq_variable_iff {tree : FileTree} {choice : EnvironmentChoice} :
    (∃ fault, (environment.load tree choice).2.outcome = .error (.variable fault)) ↔
      ∃ path assignments,
        EnvironmentFile.first? tree choice.candidates = .ok (some (path, assignments)) ∧
          ∃ entry ∈ assignments, environment.IsRefused entry := by
  unfold load
  cases hfirst : EnvironmentFile.first? tree choice.candidates with
  | error fault =>
      rcases EnvironmentFile.first?_eq_error hfirst with ⟨path, cause, rfl⟩
      simp [Reported.fault]
  | ok found =>
      cases found with
      | none => simp
      | some found =>
          rcases found with ⟨path, assignments⟩
          rcases EnvironmentFile.exists_of_first? hfirst with ⟨content, hcontent, rfl⟩
          have hassigned : (∃ fault,
              (environment.apply false (EnvironmentFile.parse content)).2 = some fault) ↔
                ∃ entry ∈ EnvironmentFile.parse content, environment.IsRefused entry :=
            apply_eq_some_iff (EnvironmentFile.nodup_parse content) fun _ hentry =>
              EnvironmentFile.isAssignable_of_mem_parse hcontent hentry
          simp only [Except.ok.injEq, Option.some.injEq, Prod.mk.injEq, and_assoc,
            exists_and_left, exists_eq_left']
          rw [← hassigned]
          rcases environment.apply false (EnvironmentFile.parse content) with ⟨applied, fault?⟩
          cases fault? <;> simp [Reported.fault, Reported.record]

end ImportAtlas
