import ImportAtlas.Dot
import ImportAtlas.Proofs.Graph.Grouping
import ImportAtlas.Proofs.Text.Span
import Mathlib.Data.List.Forall2

/-!
# Identifiers of boxes

A drawing has a box for each directory, and a box is known by its identifier.  The identifier keeps
the ASCII letters and digits of the directory and shows everything else as an underscore, so two
directories that differ in nothing but such characters get the same one.
-/

namespace ImportAtlas

namespace Dot

open ImportAtlas.Graph

def boxName? (line : Text) : Option Text :=
  (Text.after? "  subgraph " line).map fun rest => rest.takeWhile isIdentifierPart

def boxNames (lines : List Text) : List Text := lines.filterMap boxName?

/-- An ASCII letter or digit, which an identifier keeps apart from all others. -/
def isKept (c : CodePoint) : Bool := c.isLetter || c.isDigit

/-- The texts are equal but for characters that no identifier keeps. -/
def LookAlike (first second : Text) : Prop :=
  List.Forall₂ (fun c d => c = d ∨ (isKept c = false ∧ isKept d = false)) first second

instance (first second : Text) : Decidable (LookAlike first second) :=
  inferInstanceAs (Decidable (List.Forall₂ _ _ _))

variable {settings : Settings} {graph : Graph} {first second line : Text}

/-!
## Identifiers of directories
-/

def shown (c : CodePoint) : CodePoint := if isIdentifierPart c then c else CodePoint.ofChar '_'

theorem clusterName_eq (directory : Text) :
    clusterName directory = "cluster_" ++ directory.map shown := rfl

theorem isIdentifierPart_shown (c : CodePoint) : isIdentifierPart (shown c) = true := by
  unfold shown
  split
  case isTrue h => exact h
  case isFalse => decide

theorem shown_of_isKept {c : CodePoint} (h : isKept c = true) : shown c = c := by
  have hpart : isIdentifierPart c = true := by
    rw [isKept] at h
    rw [isIdentifierPart, h, Bool.true_or]
  rw [shown, if_pos hpart]

theorem shown_of_not_isKept {c : CodePoint} (h : isKept c = false) :
    shown c = CodePoint.ofChar '_' := by
  rw [isKept] at h
  unfold shown
  split
  case isTrue hpart =>
    rw [isIdentifierPart, h, Bool.false_or] at hpart
    exact of_decide_eq_true hpart
  case isFalse => rfl

theorem isKept_shown (c : CodePoint) : isKept (shown c) = isKept c := by
  cases hc : isKept c with
  | true => rw [shown_of_isKept hc, hc]
  | false =>
      rw [shown_of_not_isKept hc]
      decide

/-- What is kept is told apart from everything else, and the rest is not told apart. -/
theorem shown_eq_iff {c d : CodePoint} :
    shown c = shown d ↔ c = d ∨ (isKept c = false ∧ isKept d = false) := by
  constructor
  · intro h
    have hsame : isKept d = isKept c := by rw [← isKept_shown d, ← h, isKept_shown]
    cases hc : isKept c with
    | true =>
        rw [hc] at hsame
        rw [shown_of_isKept hc, shown_of_isKept hsame] at h
        exact Or.inl h
    | false => exact Or.inr ⟨rfl, hsame.trans hc⟩
  · rintro (rfl | ⟨hc, hd⟩)
    · rfl
    · rw [shown_of_not_isKept hc, shown_of_not_isKept hd]

theorem isIdentifierPart_of_mem_clusterName {directory : Text} {c : CodePoint}
    (h : c ∈ clusterName directory) : isIdentifierPart c = true := by
  have hstart : ∀ c ∈ Text.ofString "cluster_", isIdentifierPart c = true := by decide
  rw [clusterName_eq, List.mem_append] at h
  rcases h with h | h
  · exact hstart c h
  · rcases List.mem_map.mp h with ⟨d, _, rfl⟩
    exact isIdentifierPart_shown d

/-- Directories share an identifier exactly when they look alike. -/
theorem clusterName_eq_iff : clusterName first = clusterName second ↔ LookAlike first second := by
  rw [clusterName_eq, clusterName_eq, List.append_cancel_left_eq, ← List.forall₂_eq_eq_eq,
    List.forall₂_map_left_iff, List.forall₂_map_right_iff]
  simp only [shown_eq_iff]
  rfl

/-!
## Identifiers in a document

Only the line that opens a box begins with the word for it; lines of files and edges begin with a
quote behind the space in front.
-/

theorem boxName?_opening (directory : Text) :
    boxName? ("  subgraph " ++ clusterName directory ++ " \x7b") =
      some (clusterName directory) := by
  have hname : ∀ c ∈ clusterName directory, isIdentifierPart c = true :=
    fun _ hc => isIdentifierPart_of_mem_clusterName hc
  rw [boxName?, List.append_assoc, Text.after?_append, Option.map_some,
    Text.takeWhile_append_of_stops hname (by decide)]

theorem boxName?_fileLine (path : Text) : boxName? (fileLine path) = none := rfl

theorem boxName?_edgeLine (edge : Edge) : boxName? (edgeLine edge) = none := by
  unfold edgeLine
  dsimp only
  split <;> rfl

theorem boxNames_append (before behind : List Text) :
    boxNames (before ++ behind) = boxNames before ++ boxNames behind :=
  List.filterMap_append

theorem boxNames_eq_nil {lines : List Text} (h : ∀ line ∈ lines, boxName? line = none) :
    boxNames lines = [] :=
  List.filterMap_eq_nil_iff.mpr h

theorem boxNames_clusterLines (color : Text) (group : DirectoryGroup) :
    boxNames (clusterLines color group) = [clusterName group.directory] := by
  have hstart : boxNames ["  subgraph " ++ clusterName group.directory ++ " \x7b",
      "    label = " ++ quote group.directory ++ ";",
      "    color = " ++ quote color ++ "; fontcolor=" ++ quote color ++ ";"] =
        [clusterName group.directory] := by
    rw [boxNames, List.filterMap_cons_some (boxName?_opening group.directory)]
    rfl
  have hfiles : boxNames (group.files.map fileLine) = [] := by
    apply boxNames_eq_nil
    rw [List.forall_mem_map]
    exact fun path _ => boxName?_fileLine path
  have hclose : boxNames [Text.ofString "  \x7d"] = [] := rfl
  rw [clusterLines, boxNames_append, boxNames_append, hstart, hfiles, hclose]
  rfl

theorem boxNames_flatMap_clusterLines (color : Text) (groups : List DirectoryGroup) :
    boxNames (groups.flatMap (clusterLines color)) =
      (groups.map (·.directory)).map clusterName := by
  induction groups with
  | nil => rfl
  | cons group groups ih =>
      rw [List.flatMap_cons, boxNames_append, ih, boxNames_clusterLines]
      rfl

theorem boxNames_lines (settings : Settings) (graph : Graph) :
    boxNames (lines settings graph) =
      (graph.directories.map (·.directory)).map clusterName := by
  have hheader : boxNames (headerLines settings) = [] := rfl
  have hedges : boxNames (graph.edges.map edgeLine) = [] := by
    apply boxNames_eq_nil
    rw [List.forall_mem_map]
    exact fun edge _ => boxName?_edgeLine edge
  have hclose : boxNames [Text.ofString "\x7d"] = [] := rfl
  rw [lines, boxNames_append, boxNames_append, boxNames_append, hheader,
    boxNames_flatMap_clusterLines, hedges, hclose]
  simp

/-- The boxes of a drawing have the identifiers of its directories, in order.  Directories share an
identifier exactly when they look alike, and so the boxes are told apart exactly when no two
directories do. -/
theorem boxNames_nodup_iff (settings : Settings) (h : graph.IsBuilt) :
    boxNames (lines settings graph) = (directoriesOf graph.files).map clusterName ∧
      (∀ first second, clusterName first = clusterName second ↔ LookAlike first second) ∧
      ((boxNames (lines settings graph)).Nodup ↔
        ∀ first ∈ directoriesOf graph.files, ∀ second ∈ directoriesOf graph.files,
          LookAlike first second → first = second) := by
  have hnames : boxNames (lines settings graph) =
      (directoriesOf graph.files).map clusterName := by
    rw [boxNames_lines, h.map_directory]
  refine ⟨hnames, fun _ _ => clusterName_eq_iff, ?_⟩
  rw [hnames, List.nodup_map_iff_inj_on (nodup_directoriesOf graph.files)]
  simp only [clusterName_eq_iff]

def dashedFiles : List Text := ["my-lib/a.ts", "src/b.ts", "my_lib/c.ts"]

theorem boxNames_dashedFiles :
    boxNames (lines .standard (Graph.ofFiles dashedFiles)) =
        ["cluster_my_lib", "cluster_src", "cluster_my_lib"] ∧
      ¬ (boxNames (lines .standard (Graph.ofFiles dashedFiles))).Nodup := by
  rcases boxNames_nodup_iff .standard (isBuilt_ofFiles dashedFiles) with ⟨hnames, _, hnodup⟩
  rw [files_ofFiles] at hnames hnodup
  constructor
  · rw [hnames]
    decide
  · rw [hnodup]
    intro hapart
    have hsame := hapart "my-lib" (by decide) "my_lib" (by decide)
      (by decide)
    exact absurd hsame (by decide)

theorem not_all_boxes_apart : ¬ ∀ (settings : Settings) (files : List Text),
    (boxNames (lines settings (Graph.ofFiles files))).Nodup := by
  intro hall
  exact absurd (hall .standard dashedFiles) (by decide)

end Dot

end ImportAtlas
