import ImportAtlas.Proofs.Path.Base
import ImportAtlas.Proofs.Path.Normal

/-!
# Normal spellings of a base

Normalizing a path spells its root and the names at which it ends.  As long as a path goes up before
all names, if at all, it ends at all of its names, and its normal spelling is the tidy one.
-/

namespace ImportAtlas

namespace Path

variable {path : Text}

theorem normalize_eq (path : Text) :
    normalize path = if spell (Path.root path) (destination path) = [] then Text.ofString "."
      else spell (Path.root path) (destination path) := rfl

theorem destination_eq_parts (path : Text) :
    destination path = ((NormalPath.start path).follow path).parts := by
  have hwalk := (NormalPath.isReduced_start path).walk_follow path
  unfold destination
  rw [← List.reverse_reverse ((NormalPath.start path).follow path).parts, ← hwalk]
  rfl

theorem names_normalize (path : Text) : Path.names (normalize path) = destination path := by
  rw [NormalPath.normalize_eq_toText, destination_eq_parts]
  exact ((NormalPath.isReduced_start path).follow path).names_toText

theorem root_normalize (path : Text) : Path.root (normalize path) = Path.root path := by
  rw [NormalPath.normalize_eq_toText, ((NormalPath.isReduced_start path).follow path).root_toText,
    NormalPath.root_follow]
  rfl

/-- What stands before the names below a path is its normal spelling, with a slash where one is
needed. -/
theorem names_stem_destination (path : Text) :
    Path.names (stem (Path.root path) (destination path)) = destination path := by
  have hnames := names_normalize path
  rw [normalize_eq] at hnames
  by_cases hne : destination path = []
  · rw [hne, stem_nil, ← List.append_nil (Path.root path), names_root_append (isRoot_root path)]
    rfl
  · have hspell : spell (Path.root path) (destination path) ≠ [] := by
      intro hnil
      rw [if_pos hnil] at hnames
      exact hne hnames.symm
    rw [if_neg hspell] at hnames
    rw [stem_of_ne_nil hne]
    show Path.names (_ ++ CodePoint.ofChar '/' :: []) = _
    rw [names_append_slash, hnames]
    exact List.append_nil _

/-- Going up, if at all, comes before all names. -/
def ClimbsFirst (path : Text) : Prop :=
  ∃ climbs downs, Path.names path = List.replicate climbs (Text.ofString "..") ++ downs ∧
    Text.ofString ".." ∉ downs ∧ (Path.root path ≠ [] → climbs = 0)

/-- Normalizing takes no names away when going up comes first. -/
theorem ClimbsFirst.destination_eq (h : ClimbsFirst path) :
    destination path = Path.names path := by
  rcases h with ⟨climbs, downs, hnames, hdowns, hgrounded⟩
  have hreduced : NormalPath.IsReduced ⟨Path.root path, climbs, downs⟩ := by
    refine ⟨isRoot_root path, hgrounded, ?_⟩
    intro name hname
    have hmem : name ∈ Path.names path := hnames ▸ List.mem_append_right _ hname
    exact isPlain_of_mem_names hmem fun heq => hdowns (heq ▸ hname)
  have hwalk := hreduced.walk_parts
  have hparts : NormalPath.parts ⟨Path.root path, climbs, downs⟩ = Path.names path := hnames.symm
  rw [hparts] at hwalk
  unfold destination
  rw [hwalk, List.reverse_reverse]

theorem ClimbsFirst.normalize_eq_toText (h : ClimbsFirst path) :
    normalize path = (TidyPath.ofText path).toText := by
  rw [normalize_eq, h.destination_eq]
  rfl

theorem root_underRoot (path : Text) {relative : Text} (h : Text.stops isSlash relative = true) :
    Path.root (underRoot path relative) = Path.root path := by
  rw [underRoot, root_normalize, root_join_relative (toText_ne_nil _) h, root_toText]

end Path

end ImportAtlas
