import ImportAtlas.Proofs.Dot.Identifiers
import ImportAtlas.Proofs.Graph.Build
import ImportAtlas.Proofs.Graph.Grouping
import ImportAtlas.Proofs.Json.Ascii
import ImportAtlas.Proofs.Path.Base
import ImportAtlas.Proofs.Settings.Valid
import ImportAtlas.Proofs.Statement.Label
import ImportAtlas.Run.Execution

/-!
# When a rendered graph is well-formed

A report is ASCII whatever the graph holds.  A drawing spells the paths of the files and the labels
of the edges as they are, and everything else in it comes from settings that have been checked.  So
a drawing is well-formed exactly when all paths and labels are.  Labels that are not come from files
in encodings of the machine only.
-/

namespace ImportAtlas

open Text (isWellFormed_append isWellFormed_cons isWellFormed_nil isWellFormed_ofString
  isWellFormed_join)

variable {settings : Settings} {graph : Graph} {reader : SourceReader} {files : List Text}
  {value file : Text} {group : DirectoryGroup} {edge : Edge}

/-!
## Settings
-/

namespace Settings

variable {given : Given} {name : Text}

theorem isSurrogate_of_isIdentifierPart {c : CodePoint} (h : isIdentifierPart c = true) :
    c.isSurrogate = false := by
  unfold isIdentifierPart at h
  simp only [Bool.or_eq_true, decide_eq_true_eq] at h
  rcases h with (hletter | hdigit) | rfl
  · simp only [CodePoint.isLetter, Bool.or_eq_true, Bool.and_eq_true, decide_eq_true_eq] at hletter
    simp only [CodePoint.isSurrogate, Bool.and_eq_false_iff, decide_eq_false_iff_not]
    omega
  · simp only [CodePoint.isDigit, Bool.and_eq_true, decide_eq_true_eq] at hdigit
    simp only [CodePoint.isSurrogate, Bool.and_eq_false_iff, decide_eq_false_iff_not]
    omega
  · rfl

theorem isWellFormed_of_isIdentifier (h : isIdentifier name = true) : name.IsWellFormed := by
  rcases exists_of_isIdentifier h with ⟨letters, _, hparts, hname⟩
  have hletters : Text.IsWellFormed letters :=
    fun c hc => isSurrogate_of_isIdentifierPart (hparts c hc)
  rcases hname with rfl | rfl
  · exact hletters
  · exact isWellFormed_append.mpr ⟨hletters, isWellFormed_ofString "\n"⟩

theorem isWellFormed_of_checkNonemptyText {json : Json} (h : checkNonemptyText json = .ok value) :
    value.IsWellFormed := by
  simpa [Text.IsWellFormed] using (eq_text_of_checkNonemptyText h).right

theorem IsValid.isWellFormed_clusterColor (h : settings.IsValid) :
    settings.clusterColor.IsWellFormed := by
  rcases h with ⟨given, hcheck⟩
  rcases eq_standard_or_of_checkField (passes_of_check hcheck).clusterColor with
    hcolor | ⟨_, _, hcolor⟩
  · rw [hcolor]
    exact isWellFormed_ofString _
  · exact isWellFormed_of_checkNonemptyText hcolor

end Settings

/-!
## Lines of a drawing
-/

namespace Dot

theorem isWellFormed_quote : (quote value).IsWellFormed ↔ value.IsWellFormed := by
  have hescape : (escape value).IsWellFormed ↔ value.IsWellFormed :=
    Text.isWellFormed_replace (Text.isSurrogate_ofChar '"') (isWellFormed_ofString _)
  simp [quote, isWellFormed_append, isWellFormed_ofString, hescape]

theorem isWellFormed_clusterName (directory : Text) : (clusterName directory).IsWellFormed :=
  fun _ hc => Settings.isSurrogate_of_isIdentifierPart (isIdentifierPart_of_mem_clusterName hc)

theorem nodeLabel_subset (path : Text) : nodeLabel path ⊆ path := by
  have hname : Path.fileName path ⊆ path := by
    intro c hc
    exact List.mem_reverse.mp ((List.takeWhile_sublist _).subset (List.mem_reverse.mp hc))
  simp only [nodeLabel]
  split
  case isTrue => exact hname
  case isFalse => exact List.Subset.trans (List.takeWhile_sublist _).subset hname

theorem isWellFormed_directoryOrHere (h : file.IsWellFormed) :
    (Path.directoryOrHere file).IsWellFormed := by
  rcases Path.directoryOrHere_cases file with hhere | hprefix
  · rw [hhere]
    exact isWellFormed_ofString "."
  · exact h.mono hprefix.subset

theorem isWellFormed_fileLine : (fileLine file).IsWellFormed ↔ file.IsWellFormed := by
  simp only [fileLine, isWellFormed_append, isWellFormed_quote, isWellFormed_ofString, and_true,
    true_and]
  exact and_iff_left_of_imp fun h => h.mono (nodeLabel_subset file)

theorem isWellFormed_edgeLine (hsource : edge.source.IsWellFormed)
    (htarget : edge.target.IsWellFormed) :
    (edgeLine edge).IsWellFormed ↔ edge.label.IsWellFormed := by
  simp only [edgeLine]
  split
  case isTrue hempty =>
    simp [isWellFormed_append, isWellFormed_quote, isWellFormed_ofString, hsource, htarget, hempty,
      isWellFormed_nil]
  case isFalse =>
    simp [isWellFormed_append, isWellFormed_quote, isWellFormed_ofString, hsource, htarget]

theorem isWellFormed_headerLines (h : settings.graphName.IsWellFormed) :
    ∀ line ∈ headerLines settings, line.IsWellFormed := by
  have hdirection : settings.rankDirection.name.IsWellFormed := by
    cases settings.rankDirection <;> exact isWellFormed_ofString _
  simp [headerLines, isWellFormed_append, isWellFormed_ofString, h, hdirection]

theorem isWellFormed_clusterLines (hcolor : value.IsWellFormed)
    (hdirectory : group.directory.IsWellFormed) :
    (∀ line ∈ clusterLines value group, line.IsWellFormed) ↔
      ∀ file ∈ group.files, file.IsWellFormed := by
  simp only [clusterLines, List.forall_mem_append, List.forall_mem_cons, isWellFormed_append,
    isWellFormed_quote, isWellFormed_ofString, hcolor, hdirectory, isWellFormed_clusterName,
    List.forall_mem_map, isWellFormed_fileLine]
  simp

/-- The lines of a drawing are well-formed exactly when the paths of the files and the labels of the
edges are, provided that the settings are. -/
theorem isWellFormed_lines_iff (hname : settings.graphName.IsWellFormed)
    (hcolor : settings.clusterColor.IsWellFormed) (hbuilt : graph.IsBuilt)
    (hends : ∀ edge ∈ graph.edges, edge.source ∈ graph.files ∧ edge.target ∈ graph.files) :
    (∀ line ∈ lines settings graph, line.IsWellFormed) ↔
      (∀ file ∈ graph.files, file.IsWellFormed) ∧
        ∀ edge ∈ graph.edges, edge.label.IsWellFormed := by
  have hedges (hfiles : ∀ file ∈ graph.files, file.IsWellFormed) :
      ∀ edge ∈ graph.edges, ((edgeLine edge).IsWellFormed ↔ edge.label.IsWellFormed) :=
    fun edge hedge => isWellFormed_edgeLine (hfiles _ (hends edge hedge).left)
      (hfiles _ (hends edge hedge).right)
  constructor
  · intro hlines
    have hfiles : ∀ file ∈ graph.files, file.IsWellFormed := by
      intro file hfile
      rcases hbuilt.exists_mem_directories_iff.mpr hfile with ⟨group, hgroup, hmem⟩
      apply isWellFormed_fileLine.mp
      apply hlines
      have hline : fileLine file ∈ clusterLines settings.clusterColor group := by
        simp only [clusterLines, List.mem_append, List.mem_map]
        exact Or.inl (Or.inr ⟨file, hmem, rfl⟩)
      simp only [lines, List.mem_append, List.mem_flatMap]
      exact Or.inl (Or.inl (Or.inr ⟨group, hgroup, hline⟩))
    refine ⟨hfiles, fun edge hedge => (hedges hfiles edge hedge).mp ?_⟩
    apply hlines
    simp only [lines, List.mem_append, List.mem_map]
    exact Or.inl (Or.inr ⟨edge, hedge, rfl⟩)
  · rintro ⟨hfiles, hlabels⟩
    have hclusters : ∀ group ∈ graph.directories,
        ∀ line ∈ clusterLines settings.clusterColor group, line.IsWellFormed := by
      intro group hgroup
      rcases hbuilt.exists_of_mem_directories hgroup with ⟨file, hfile, hdirectory⟩
      have hwellFormed : group.directory.IsWellFormed := by
        rw [← hdirectory]
        exact isWellFormed_directoryOrHere (hfiles file hfile)
      rw [isWellFormed_clusterLines hcolor hwellFormed]
      intro other hother
      exact hfiles other (hbuilt.exists_mem_directories_iff.mp ⟨group, hgroup, hother⟩)
    simp only [lines, List.forall_mem_append, List.forall_mem_singleton, List.forall_mem_map]
    refine ⟨⟨⟨isWellFormed_headerLines hname, ?_⟩, ?_⟩, isWellFormed_ofString _⟩
    · intro line hline
      rcases List.mem_flatMap.mp hline with ⟨group, hgroup, hline⟩
      exact hclusters group hgroup line hline
    · intro edge hedge
      exact (hedges hfiles edge hedge).mpr (hlabels edge hedge)

end Dot

/-!
## Rendered graphs
-/

theorem Report.isWellFormed_write (graph : Graph) : (Report.write graph).IsWellFormed := by
  intro c hc
  rcases Json.isAscii_write Json.Layout.isAscii_indented 0 (Report.ofGraph graph) c hc with rfl | hc
  · rfl
  · simp only [CodePoint.isSurrogate, Bool.and_eq_false_iff, decide_eq_false_iff_not]
    omega

namespace Graph

theorem exists_of_build (h : (build settings reader files).outcome = .ok graph) :
    graph.files = files ∧ graph.IsBuilt := by
  rw [outcome_build] at h
  cases hedges : (scanFiles settings reader files (byDirectory files)).outcome with
  | error fault =>
      rw [hedges] at h
      cases h
  | ok edges =>
      rw [hedges] at h
      cases h
      exact ⟨rfl, isBuilt_ofFiles_edges files edges⟩

end Graph

/-- A name or a label that is to be drawn is not well-formed. -/
def Graph.HasStrangeName (graph : Graph) : Prop :=
  (∃ file ∈ graph.files, ¬ file.IsWellFormed) ∨ ∃ edge ∈ graph.edges, ¬ edge.label.IsWellFormed

/-- In a graph of texts that are well-formed only the paths of files can be strange. -/
theorem Graph.hasStrangeName_iff
    (hreader : ∀ path content, reader path = .ok content → content.IsWellFormed)
    (h : (Graph.build settings reader files).outcome = .ok graph) :
    graph.HasStrangeName ↔ ∃ file ∈ files, ¬ file.IsWellFormed := by
  rw [HasStrangeName, (Graph.exists_of_build h).left, or_iff_left]
  rintro ⟨edge, hedge, hstrange⟩
  rcases (Graph.mem_edges_iff h edge).mp hedge with
    ⟨path, _, content, hcontent, statement, hstatement, _, _, rfl⟩
  exact hstrange
    (Statement.isWellFormed_items_of_mem_extract (hreader path content hcontent) hstatement)

/-- The text of a graph is well-formed exactly when it is a report or all names and labels are
well-formed. -/
theorem isWellFormed_render_iff {format : OptionValue OutputFormat} (hsettings : settings.IsValid)
    (h : (Graph.build settings reader files).outcome = .ok graph) :
    (render format settings graph).IsWellFormed ↔
      format = .value .json ∨ ¬ graph.HasStrangeName := by
  rcases Graph.exists_of_build h with ⟨rfl, hbuilt⟩
  have hends : ∀ edge ∈ graph.edges, edge.source ∈ graph.files ∧ edge.target ∈ graph.files := by
    intro edge hedge
    rcases (Graph.mem_edges_iff h edge).mp hedge with
      ⟨path, hpath, _, _, statement, _, target, htarget, rfl⟩
    have hknown := List.find?_some htarget
    exact ⟨hpath, by simpa using hknown⟩
  have hlines : (Text.join "\n" (Dot.lines settings graph) ++ "\n").IsWellFormed ↔
      ¬ graph.HasStrangeName := by
    have hnames : ¬ graph.HasStrangeName ↔ (∀ file ∈ graph.files, file.IsWellFormed) ∧
        ∀ edge ∈ graph.edges, edge.label.IsWellFormed := by
      simp [Graph.HasStrangeName]
    rw [hnames, ← Dot.isWellFormed_lines_iff
      (Settings.isWellFormed_of_isIdentifier hsettings.isIdentifier)
      hsettings.isWellFormed_clusterColor hbuilt hends, isWellFormed_append]
    constructor
    · intro hjoined line hline
      exact hjoined.left.mono (Text.subset_join hline)
    · intro hlines
      exact ⟨isWellFormed_join (isWellFormed_ofString "\n") hlines, isWellFormed_ofString "\n"⟩
  rcases format with _ | form
  · simpa [render] using hlines
  · cases form with
    | dot => simpa [render] using hlines
    | json =>
        simp [render, isWellFormed_append, Report.isWellFormed_write, isWellFormed_ofString]

end ImportAtlas
