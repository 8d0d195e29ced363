import ImportAtlas.Proofs.Path.Directory

/-!
# Normal paths

When no file tree is looked at, a path leads so many directories above its start, which only a
relative path can climb, and from there down through names.  Such a place has one spelling, its
normal path.  Reading a path moves from place to place, one component after the other, and
normalizing it spells the place to which it leads.
-/

namespace ImportAtlas

open ImportAtlas.Path

/-- A path as a root, so many steps above the start, and names that lead down from there. -/
@[ext] structure NormalPath where
  root : Text
  climbs : Nat
  names : List Text
deriving DecidableEq

namespace NormalPath

variable {place other : NormalPath} {component : Text}

/-- A root is not climbed, and the names lead down. -/
structure IsReduced (place : NormalPath) : Prop where
  isRoot : IsRoot place.root
  grounded : place.root ≠ [] → place.climbs = 0
  plain : ∀ name ∈ place.names, IsPlain name

def parts (place : NormalPath) : List Text :=
  List.replicate place.climbs (Text.ofString "..") ++ place.names

def toText (place : NormalPath) : Text :=
  if spell place.root place.parts = [] then "." else spell place.root place.parts

/-- The place one directory further up.  Above a root there is none. -/
def up (place : NormalPath) : NormalPath :=
  if place.names ≠ [] then { place with names := place.names.dropLast }
  else if place.root = [] then { place with climbs := place.climbs + 1 }
  else place

def move (place : NormalPath) (component : Text) : NormalPath :=
  if component = [] ∨ component = "." then place
  else if component = ".." then place.up
  else { place with names := place.names ++ [component] }

def follow (place : NormalPath) (path : Text) : NormalPath :=
  (Text.splitOn '/' path).foldl move place

def directory (place : NormalPath) : NormalPath :=
  if place.names ≠ [] then { place with names := place.names.dropLast }
  else { place with climbs := place.climbs - 1 }

theorem isReduced_relative (climbs : Nat) {names : List Text}
    (h : ∀ name ∈ names, IsPlain name) : (NormalPath.mk [] climbs names).IsReduced where
  isRoot := Or.inl rfl
  grounded := fun hroot => absurd rfl hroot
  plain := h

/-!
## Parts
-/

theorem IsReduced.part (h : place.IsReduced) {part : Text} (hpart : part ∈ place.parts) :
    part ≠ [] ∧ part ≠ "." ∧ CodePoint.ofChar '/' ∉ part := by
  rcases List.mem_append.mp hpart with hup | hname
  · rw [List.eq_of_mem_replicate hup]
    decide
  · have hplain := h.plain part hname
    exact ⟨hplain.nonempty, hplain.ne_here, hplain.unslashed⟩

theorem IsReduced.ne_up (h : place.IsReduced) : ∀ name ∈ place.names, name ≠ Text.ofString ".." :=
  fun name hname => (h.plain name hname).ne_up

theorem IsReduced.names_join (h : place.IsReduced) :
    Path.names (Text.join "/" place.parts) = place.parts :=
  names_join_of_kept fun _ hpart => h.part hpart

theorem IsReduced.spell_eq_nil_iff (h : place.IsReduced) :
    spell place.root place.parts = [] ↔ place.root = [] ∧ place.parts = [] := by
  unfold spell
  rw [List.append_eq_nil_iff]
  constructor
  · intro hnil
    refine ⟨hnil.left, ?_⟩
    rw [← h.names_join, hnil.right]
    rfl
  · intro hnil
    rw [hnil.right]
    exact ⟨hnil.left, rfl⟩

theorem IsReduced.names_toText (h : place.IsReduced) : Path.names place.toText = place.parts := by
  unfold toText
  split
  case isTrue hnil =>
    rw [(h.spell_eq_nil_iff.mp hnil).right]
    rfl
  case isFalse => rw [spell, names_root_append h.isRoot, h.names_join]

theorem IsReduced.root_toText (h : place.IsReduced) : Path.root place.toText = place.root := by
  unfold toText
  split
  case isTrue hnil =>
    rw [(h.spell_eq_nil_iff.mp hnil).left]
    rfl
  case isFalse =>
    apply root_append h.isRoot
    have hstop := stops_isSlash_join_names (Text.join "/" place.parts)
    rw [h.names_join] at hstop
    exact hstop

/-!
## The directory of a place
-/

theorem parts_directory (place : NormalPath) : place.directory.parts = place.parts.dropLast := by
  unfold directory parts
  by_cases hne : place.names = []
  · rw [if_neg (not_not_intro hne), hne, List.append_nil, List.append_nil, List.dropLast_replicate]
  · rw [if_pos hne, List.dropLast_append_of_ne_nil hne]

theorem root_directory (place : NormalPath) : place.directory.root = place.root := by
  unfold directory
  split <;> rfl

theorem IsReduced.directory (h : place.IsReduced) : place.directory.IsReduced := by
  unfold NormalPath.directory
  split
  case isTrue =>
    exact ⟨h.isRoot, h.grounded, fun name hname => h.plain name (List.dropLast_subset _ hname)⟩
  case isFalse =>
    refine ⟨h.isRoot, ?_, h.plain⟩
    intro hroot
    show place.climbs - 1 = 0
    rw [h.grounded hroot]

theorem IsReduced.unslashed (h : place.IsReduced) {front : List Text} {last : Text}
    (hparts : place.parts = front ++ [last]) : CodePoint.ofChar '/' ∉ last :=
  (h.part (hparts ▸ List.mem_append_right front List.mem_cons_self)).right.right

theorem IsReduced.toText_concat (h : place.IsReduced) {front : List Text} {last : Text}
    (hparts : place.parts = front ++ [last]) : place.toText = stem place.root front ++ last := by
  have hne : spell place.root place.parts ≠ [] := by
    intro hnil
    have hempty := (h.spell_eq_nil_iff.mp hnil).right
    rw [hparts] at hempty
    cases (List.append_eq_nil_iff.mp hempty).right
  unfold toText
  rw [if_neg hne, hparts, spell_append _ _ (List.cons_ne_nil last [])]
  rfl

theorem IsReduced.fileName_toText (h : place.IsReduced) {front : List Text} {last : Text}
    (hparts : place.parts = front ++ [last]) : fileName place.toText = last := by
  rw [h.toText_concat hparts]
  exact fileName_append (stem_cases h.isRoot front) (h.unslashed hparts)

theorem IsReduced.names_directory (h : place.IsReduced) :
    Path.names (Path.directory place.toText) = place.directory.parts := by
  have hsplit := names_eq_append place.toText
  rw [h.names_toText] at hsplit
  rw [parts_directory]
  rcases List.eq_nil_or_concat place.parts with hnil | ⟨front, last, hconcat⟩
  · rw [hnil] at hsplit ⊢
    exact (List.append_eq_nil_iff.mp hsplit.symm).left
  · rw [List.concat_eq_append] at hconcat
    have hlast := h.part (hconcat ▸ List.mem_append_right front List.mem_cons_self)
    have hkept : ∀ name ∈ [last], name ≠ [] ∧ name ≠ "." ∧ CodePoint.ofChar '/' ∉ name := by
      intro name hname
      rw [List.mem_singleton.mp hname]
      exact hlast
    have hname : Path.names last = [last] := names_join_of_kept hkept
    rw [h.fileName_toText hconcat, hname, hconcat] at hsplit
    rw [hconcat, List.dropLast_concat]
    exact (List.append_cancel_right hsplit).symm

/-!
## Moving
-/

theorem root_up (place : NormalPath) : place.up.root = place.root := by
  unfold up
  split
  case isTrue => rfl
  case isFalse => split <;> rfl

theorem root_move (place : NormalPath) (component : Text) :
    (place.move component).root = place.root := by
  unfold move
  split
  case isTrue => rfl
  case isFalse =>
    split
    case isTrue => exact root_up place
    case isFalse => rfl

theorem IsReduced.up (h : place.IsReduced) : place.up.IsReduced := by
  unfold NormalPath.up
  split
  case isTrue =>
    exact ⟨h.isRoot, h.grounded, fun name hname => h.plain name (List.dropLast_subset _ hname)⟩
  case isFalse =>
    split
    case isTrue hroot => exact ⟨h.isRoot, fun hne => absurd hroot hne, h.plain⟩
    case isFalse => exact h

theorem IsReduced.move (h : place.IsReduced) (hcomponent : CodePoint.ofChar '/' ∉ component) :
    (place.move component).IsReduced := by
  unfold NormalPath.move
  split
  case isTrue => exact h
  case isFalse hkept =>
    rw [not_or] at hkept
    split
    case isTrue => exact h.up
    case isFalse hdown =>
      refine ⟨h.isRoot, h.grounded, ?_⟩
      intro name hname
      rcases List.mem_append.mp hname with hold | hnew
      · exact h.plain name hold
      · rw [List.mem_singleton.mp hnew]
        exact ⟨hkept.left, hkept.right, hdown, hcomponent⟩

/-- Going up takes the last name away, or it is recorded above the start, or it stays at a root. -/
theorem IsReduced.step_up (h : place.IsReduced) :
    step (place.root ≠ []) place.parts.reverse ".." = place.up.parts.reverse := by
  unfold parts NormalPath.up
  rcases List.eq_nil_or_concat place.names with hnil | ⟨front, last, hconcat⟩
  · rw [if_neg (not_not_intro hnil)]
    by_cases hroot : place.root = []
    · rw [if_pos hroot, hnil, hroot]
      cases place.climbs with
      | zero => rfl
      | succ climbs => simp [step, List.replicate_succ, ← List.replicate_succ']
    · rw [if_neg hroot, hnil, h.grounded hroot]
      simp [step, hroot]
  · rw [List.concat_eq_append] at hconcat
    have hlast : last ≠ Text.ofString ".." := h.ne_up last (by simp [hconcat])
    have hne : place.names ≠ [] := by simp [hconcat]
    rw [if_pos hne, hconcat, List.dropLast_concat, ← List.append_assoc, List.reverse_concat,
      Path.step_up hlast]

theorem IsReduced.step_move (h : place.IsReduced)
    (hkept : component ≠ [] ∧ component ≠ Text.ofString ".") :
    step (place.root ≠ []) place.parts.reverse component =
      (place.move component).parts.reverse := by
  unfold NormalPath.move
  rw [if_neg (not_or.mpr hkept)]
  by_cases hup : component = Text.ofString ".."
  · rw [if_pos hup, hup]
    exact h.step_up
  · rw [if_neg hup, step_down hup, parts, parts, ← List.append_assoc, List.reverse_concat]

theorem root_foldl_move (place : NormalPath) (components : List Text) :
    (components.foldl move place).root = place.root := by
  induction components generalizing place with
  | nil => rfl
  | cons component components ih => rw [List.foldl_cons, ih, root_move]

theorem IsReduced.foldl_move (h : place.IsReduced) {components : List Text}
    (hcomponents : ∀ component ∈ components, CodePoint.ofChar '/' ∉ component) :
    (components.foldl NormalPath.move place).IsReduced := by
  induction components generalizing place with
  | nil => exact h
  | cons component components ih =>
      rw [List.forall_mem_cons] at hcomponents
      exact ih (h.move hcomponents.left) hcomponents.right

theorem IsReduced.follow (h : place.IsReduced) (path : Text) : (place.follow path).IsReduced :=
  h.foldl_move fun _ hcomponent => Text.not_mem_of_mem_splitOn hcomponent

/-- The walk passes the parts of the places to which the components lead. -/
theorem IsReduced.walk_foldl_move (h : place.IsReduced) {components : List Text}
    (hcomponents : ∀ component ∈ components, CodePoint.ofChar '/' ∉ component) :
    walk (place.root ≠ []) place.parts.reverse
        (components.filter fun name => name ≠ [] && name ≠ ".") =
      (components.foldl NormalPath.move place).parts.reverse := by
  induction components generalizing place with
  | nil => rfl
  | cons component components ih =>
      rw [List.forall_mem_cons] at hcomponents
      have hrest := ih (h.move hcomponents.left) hcomponents.right
      rw [root_move] at hrest
      rw [List.foldl_cons, ← hrest]
      by_cases hkept : component ≠ [] ∧ component ≠ Text.ofString "."
      · rw [List.filter_cons_of_pos (by simp [hkept]), walk_cons, h.step_move hkept]
      · have hstay : place.move component = place := by
          apply if_pos
          by_contra hother
          exact hkept (not_or.mp hother)
        rw [List.filter_cons_of_neg (by simpa using hkept), hstay]

theorem IsReduced.walk_follow (h : place.IsReduced) (path : Text) :
    walk (place.root ≠ []) place.parts.reverse (Path.names path) =
      (place.follow path).parts.reverse :=
  h.walk_foldl_move fun _ hcomponent => Text.not_mem_of_mem_splitOn hcomponent

theorem root_follow (place : NormalPath) (path : Text) : (place.follow path).root = place.root :=
  root_foldl_move place _

/-!
## Normalizing
-/

theorem walk_climbs (climbs : Nat) :
    walk false [] (List.replicate climbs (Text.ofString "..")) =
      List.replicate climbs (Text.ofString "..") := by
  induction climbs with
  | zero => rfl
  | succ climbs ih =>
      rw [List.replicate_succ', walk_append, ih, ← List.replicate_succ']
      cases climbs with
      | zero => rfl
      | succ climbs => simp [step, List.replicate_succ]

theorem IsReduced.walk_parts (h : place.IsReduced) :
    walk (place.root ≠ []) [] place.parts = place.parts.reverse := by
  unfold parts
  rw [walk_append, List.reverse_append, List.reverse_replicate]
  by_cases hroot : place.root = []
  · have hrelative : decide (place.root ≠ []) = false := decide_eq_false (not_not_intro hroot)
    rw [hrelative, walk_climbs, walk_down h.ne_up]
  · rw [h.grounded hroot]
    exact walk_down h.ne_up _ []

/-- The place that a walk along a path reaches, spelled. -/
theorem IsReduced.toText_follow (h : place.IsReduced) (path : Text) :
    (place.follow path).toText =
      let spelled := spell place.root
        (walk (place.root ≠ []) place.parts.reverse (Path.names path)).reverse
      if spelled = [] then Text.ofString "." else spelled := by
  rw [h.walk_follow path, List.reverse_reverse]
  unfold toText
  rw [root_follow]

def start (path : Text) : NormalPath := ⟨Path.root path, 0, []⟩

theorem isReduced_start (path : Text) : (start path).IsReduced where
  isRoot := isRoot_root path
  grounded := fun _ => rfl
  plain := fun _ hname => absurd hname List.not_mem_nil

/-- Normalizing a path spells the place to which its components lead. -/
theorem normalize_eq_toText (path : Text) :
    Path.normalize path = ((start path).follow path).toText :=
  ((isReduced_start path).toText_follow path).symm

theorem IsReduced.normalize_toText (h : place.IsReduced) :
    Path.normalize place.toText = place.toText := by
  unfold Path.normalize
  rw [h.root_toText, h.names_toText]
  show (if spell place.root (walk _ [] place.parts).reverse = [] then Text.ofString "." else
    spell place.root (walk _ [] place.parts).reverse) = _
  rw [h.walk_parts, List.reverse_reverse]
  rfl

/-- The paths that normalizing keeps are the spelled places. -/
theorem normalize_eq_self_iff {path : Text} :
    Path.normalize path = path ↔ ∃ place : NormalPath, place.IsReduced ∧ place.toText = path := by
  constructor
  · intro hnormal
    exact ⟨_, (isReduced_start path).follow path, (normalize_eq_toText path).symm.trans hnormal⟩
  · intro h
    rcases h with ⟨place, hreduced, hpath⟩
    rw [← hpath, hreduced.normalize_toText]

theorem IsReduced.normalize_join_directory (h : place.IsReduced) {relative : Text}
    (hrelative : Text.stops isSlash relative = true) :
    Path.normalize (join (Path.directory place.toText) relative) =
      (place.directory.follow relative).toText := by
  have hdirectory := h.directory
  rw [normalize_join _ hrelative, Path.root_directory, h.root_toText, h.names_directory,
    hdirectory.toText_follow, root_directory, walk_append]
  have hparts := hdirectory.walk_parts
  rw [root_directory] at hparts
  rw [hparts]

end NormalPath

end ImportAtlas
