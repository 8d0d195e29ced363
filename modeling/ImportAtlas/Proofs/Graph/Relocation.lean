import ImportAtlas.Proofs.Graph.Build
import ImportAtlas.Proofs.Path.Relocation

/-!
# Moving a whole tree

When files whose imports stay below the place where they are read are moved below a root, and hold
there what they held before, the graph moves with them.  Its files and edges are the same one by
one, spelled behind the root, and so are the directories, except that the place where the files were
read becomes the root itself.

Since different directories stay different, every file joins the same group as before.
-/

namespace ImportAtlas

def Edge.move (r : Text) (edge : Edge) : Edge :=
  ⟨Path.underRoot r edge.source, Path.underRoot r edge.target, edge.label⟩

def DirectoryGroup.move (r : Text) (group : DirectoryGroup) : DirectoryGroup :=
  ⟨Path.moveDirectory r group.directory, group.files.map (Path.underRoot r)⟩

namespace Graph

def move (r : Text) (graph : Graph) : Graph :=
  ⟨graph.files.map (Path.underRoot r), graph.directories.map (DirectoryGroup.move r),
    graph.edges.map (Edge.move r)⟩

/-- The files stand below the place where they are read, and so does all that they import. -/
structure StaysBelow (settings : Settings) (reader : SourceReader) (files : List Text) : Prop where
  isLocal : ∀ file ∈ files, Path.IsLocal file
  specifiers : ∀ file ∈ files, ∀ content, reader file = .ok content →
    ∀ statement ∈ Statement.extract settings.includeReexports content,
      Specifier.StaysBelow file statement.specifier

variable {settings : Settings} {reader movedReader : SourceReader} {files : List Text} {r : Text}

/-!
## Groups
-/

def AreGrouped (groups : List DirectoryGroup) : Prop :=
  ∀ group ∈ groups, group.directory = "." ∨ Path.IsLocal group.directory

theorem AreGrouped.addToGroup {groups : List DirectoryGroup} (h : AreGrouped groups)
    {directory : Text} (hdirectory : directory = "." ∨ Path.IsLocal directory) (file : Text) :
    AreGrouped (addToGroup directory file groups) := by
  induction groups with
  | nil =>
      intro group hgroup
      rw [List.mem_singleton.mp hgroup]
      exact hdirectory
  | cons first groups ih =>
      have hmore : AreGrouped groups := fun group hgroup => h group (by simp [hgroup])
      intro group hgroup
      by_cases hsame : first.directory = directory
      · simp only [Graph.addToGroup, hsame, if_true, List.mem_cons] at hgroup
        rcases hgroup with heq | hgroup
        · rw [heq]
          exact hdirectory
        · exact hmore group hgroup
      · simp only [Graph.addToGroup, hsame, if_false, List.mem_cons] at hgroup
        rcases hgroup with heq | hgroup
        · rw [heq]
          exact h first (by simp)
        · exact ih hmore group hgroup

theorem addToGroup_move (hr : Path.IsCanonical r) {groups : List DirectoryGroup}
    (h : AreGrouped groups) {directory : Text}
    (hdirectory : directory = "." ∨ Path.IsLocal directory) (file : Text) :
    addToGroup (Path.moveDirectory r directory) (Path.underRoot r file)
        (groups.map (DirectoryGroup.move r)) =
      (addToGroup directory file groups).map (DirectoryGroup.move r) := by
  induction groups with
  | nil => rfl
  | cons first groups ih =>
      have hmore := ih fun group hgroup => h group (by simp [hgroup])
      have hinj := Path.moveDirectory_inj hr (h first (by simp)) hdirectory
      by_cases hsame : first.directory = directory
      · have hmoved : (first.move r).directory = Path.moveDirectory r directory := hinj.mpr hsame
        simp only [List.map_cons, addToGroup, hsame, hmoved, if_true]
        simp [DirectoryGroup.move]
      · have hmoved : (first.move r).directory ≠ Path.moveDirectory r directory := by
          intro heq
          exact hsame (hinj.mp heq)
        simp only [List.map_cons, addToGroup, hsame, hmoved, if_false, hmore]

theorem foldl_addFile_move (hr : Path.IsCanonical r) (hfiles : ∀ file ∈ files, Path.IsLocal file)
    {graph : Graph} (hgraph : AreGrouped graph.directories) :
    (files.map (Path.underRoot r)).foldl addFile (graph.move r) =
      (files.foldl addFile graph).move r := by
  induction files generalizing graph with
  | nil => rfl
  | cons file files ih =>
      have hfile : Path.IsLocal file := hfiles file (by simp)
      have hplace := Path.directoryOrHere_of_isLocal hfile
      have hdirectory : Path.directoryOrHere (Path.underRoot r file) =
          Path.moveDirectory r (Path.directoryOrHere file) := by
        rw [Path.underRoot_of_isLocal hr hfile, Path.directoryOrHere_below hr hfile]
      have hstep : (graph.move r).addFile (Path.underRoot r file) =
          (graph.addFile file).move r := by
        simp only [addFile, move, hdirectory, addToGroup_move hr hgraph hplace]
        simp
      have hgrouped : AreGrouped (graph.addFile file).directories :=
        hgraph.addToGroup hplace file
      rw [List.map_cons, List.foldl_cons, List.foldl_cons, hstep]
      exact ih (fun other hother => hfiles other (by simp [hother])) hgrouped

theorem ofFiles_move (hr : Path.IsCanonical r) (hfiles : ∀ file ∈ files, Path.IsLocal file) :
    ofFiles (files.map (Path.underRoot r)) = (ofFiles files).move r := by
  have hempty : AreGrouped empty.directories := by
    intro group hgroup
    cases hgroup
  exact foldl_addFile_move hr hfiles hempty

theorem byDirectory_move (hr : Path.IsCanonical r) (hfiles : ∀ file ∈ files, Path.IsLocal file) :
    byDirectory (files.map (Path.underRoot r)) = (byDirectory files).map (Path.underRoot r) := by
  unfold byDirectory
  rw [ofFiles_move hr hfiles]
  simp [grouped, move, DirectoryGroup.move, List.flatMap_map, List.map_flatMap]

/-!
## Edges
-/

theorem target?_move (hr : Path.IsCanonical r) (h : StaysBelow settings reader files)
    {path : Text} (hpath : path ∈ files) {statement : Statement}
    (hstatement : Specifier.StaysBelow path statement.specifier) :
    target? settings (files.map (Path.underRoot r)) (Path.underRoot r path) statement =
      (target? settings files path statement).map (Path.underRoot r) := by
  have hmoved : files.map (Path.underRoot r) = files.map (Path.below r ++ ·) := by
    apply List.map_congr_left
    intro file hfile
    exact Path.underRoot_of_isLocal hr (h.isLocal file hfile)
  unfold target?
  rw [Path.underRoot_of_isLocal hr (h.isLocal path hpath),
    Specifier.path_below hr (h.isLocal path hpath) hstatement,
    Specifier.resolve?_append _ hmoved (Specifier.path_ne_nil hstatement)]
  cases htarget : Specifier.resolve? files (optionalExtensions settings)
      (Specifier.path path statement.specifier) with
  | none => rfl
  | some target =>
      have hknown : target ∈ files := by
        have hfound := List.find?_some htarget
        exact List.contains_iff_mem.mp hfound
      rw [Option.map_some, Option.map_some, Path.underRoot_of_isLocal hr (h.isLocal target hknown)]

theorem edgesOf_move (hr : Path.IsCanonical r) (h : StaysBelow settings reader files)
    {path : Text} (hpath : path ∈ files) {statements : List Statement}
    (hstatements : ∀ statement ∈ statements, Specifier.StaysBelow path statement.specifier) :
    edgesOf settings (files.map (Path.underRoot r)) (Path.underRoot r path) statements =
      (edgesOf settings files path statements).map (Edge.move r) := by
  induction statements with
  | nil => rfl
  | cons statement statements ih =>
      have htarget := target?_move hr h hpath (hstatements statement (by simp))
      have hmore := ih fun other hother => hstatements other (by simp [hother])
      unfold edgesOf at hmore ⊢
      rw [List.filterMap_cons, List.filterMap_cons, htarget, hmore]
      cases target? settings files path statement with
      | none => rfl
      | some target => rfl

theorem outcome_scanFile_move (hr : Path.IsCanonical r) (h : StaysBelow settings reader files)
    (hreader : ∀ file ∈ files, movedReader (Path.underRoot r file) = reader file)
    {path : Text} (hpath : path ∈ files) :
    (scanFile settings movedReader (files.map (Path.underRoot r)) (Path.underRoot r path)).outcome =
      (scanFile settings reader files path).outcome.map (List.map (Edge.move r)) := by
  have hread := hreader path hpath
  unfold scanFile readOrSkip
  rw [hread]
  cases hcontent : reader path with
  | ok content =>
      have hedges := edgesOf_move hr h hpath (h.specifiers path hpath content hcontent)
      simp only [Reported.outcome_bind, Reported.outcome_pure, Except.bind, hedges, Except.map]
  | error fault =>
      cases fault with
      | inaccessible fault => rfl
      | undecodable fault => cases fault <;> rfl

theorem outcome_scanFiles_move (hr : Path.IsCanonical r) (h : StaysBelow settings reader files)
    (hreader : ∀ file ∈ files, movedReader (Path.underRoot r file) = reader file)
    {paths : List Text} (hpaths : ∀ path ∈ paths, path ∈ files) :
    (scanFiles settings movedReader (files.map (Path.underRoot r))
        (paths.map (Path.underRoot r))).outcome =
      (scanFiles settings reader files paths).outcome.map (List.map (Edge.move r)) := by
  induction paths with
  | nil => rfl
  | cons path paths ih =>
      have hpath := outcome_scanFile_move hr h hreader (hpaths path (by simp))
      have hmore := ih fun other hother => hpaths other (by simp [hother])
      rw [List.map_cons, outcome_scanFiles_cons, outcome_scanFiles_cons, hpath, hmore]
      cases (scanFile settings reader files path).outcome with
      | error fault => rfl
      | ok edges =>
          cases (scanFiles settings reader files paths).outcome with
          | error fault => rfl
          | ok more => simp [Except.map, Except.bind]

/-- The graph of moved files is the moved graph. -/
theorem build_move (hr : Path.IsCanonical r) (h : StaysBelow settings reader files)
    (hreader : ∀ file ∈ files, movedReader (Path.underRoot r file) = reader file) :
    (build settings movedReader (files.map (Path.underRoot r))).outcome =
      (build settings reader files).outcome.map (move r) := by
  have hdirectories : (ofFiles (files.map (Path.underRoot r))).directories =
      (ofFiles files).directories.map (DirectoryGroup.move r) := by
    rw [ofFiles_move hr h.isLocal]
    rfl
  have hedges := outcome_scanFiles_move hr h hreader
    (fun path hpath => (byDirectory_perm files).mem_iff.mp hpath)
  rw [outcome_build, outcome_build, byDirectory_move hr h.isLocal, hedges, hdirectories]
  cases (scanFiles settings reader files (byDirectory files)).outcome with
  | error fault => rfl
  | ok edges => rfl

def neighbours : List Text := ["src/a.ts", "b.ts"]

def neighbourReader (start : Text) : SourceReader := fun path =>
  if path = start ++ "src/a.ts" then .ok "import B from \"../b\"" else .ok ""

theorem staysBelow_neighbours :
    StaysBelow Settings.standard (neighbourReader []) neighbours where
  isLocal := by
    intro file hfile
    simp only [neighbours, List.mem_cons, List.not_mem_nil, or_false] at hfile
    apply Path.isLocal_iff.mpr
    rw [Path.isCanonical_iff]
    rcases hfile with rfl | rfl
    · decide
    · decide
  specifiers := by
    intro file hfile content hcontent statement hstatement
    simp only [neighbours, List.mem_cons, List.not_mem_nil, or_false] at hfile
    rcases hfile with rfl | rfl
    · have htext : content = Text.ofString "import B from \"../b\"" := by
        simpa [neighbourReader] using hcontent.symm
      have hextract : Statement.extract Settings.standard.includeReexports content =
          [⟨.importing, "B", "../b"⟩] := by
        rw [htext]
        rfl
      rw [hextract, List.mem_singleton] at hstatement
      rw [hstatement]
      constructor <;> decide
    · have htext : content = Text.ofString "" := by
        have hother : Text.ofString "b.ts" ≠ Text.ofString "src/a.ts" := by decide
        simpa [neighbourReader, hother] using hcontent.symm
      rw [htext] at hstatement
      cases hstatement

theorem build_moved_neighbours :
    Path.IsCanonical "pkg" ∧ StaysBelow Settings.standard (neighbourReader []) neighbours ∧
      (build Settings.standard (neighbourReader "pkg/")
          (neighbours.map (Path.underRoot "pkg"))).outcome =
        .ok ⟨["pkg/src/a.ts", "pkg/b.ts"],
          [⟨"pkg/src", ["pkg/src/a.ts"]⟩, ⟨"pkg", ["pkg/b.ts"]⟩],
          [⟨"pkg/src/a.ts", "pkg/b.ts", "B"⟩]⟩ := by
  have hpkg : Path.IsCanonical "pkg" :=
    Path.isCanonical_iff.mpr ⟨by decide, by decide, by decide⟩
  have hreader : ∀ file ∈ neighbours,
      neighbourReader "pkg/" (Path.underRoot "pkg" file) = neighbourReader [] file := by
    intro file hfile
    simp only [neighbours, List.mem_cons, List.not_mem_nil, or_false] at hfile
    rcases hfile with rfl | rfl
    · rfl
    · rfl
  refine ⟨hpkg, staysBelow_neighbours, ?_⟩
  rw [build_move hpkg staysBelow_neighbours hreader]
  rfl

end Graph

end ImportAtlas
