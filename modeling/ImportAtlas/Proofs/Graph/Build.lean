import ImportAtlas.Graph.Build

/-!
# What building gives

Building looks at the files directory by directory.  Apart from what is reported, that is the same
as looking at the files one after another in the order of their directories, which is the order in
which the edges come.

Every edge belongs to a statement of a file that could be read, and every such statement whose
specifier leads to a listed file has its edge.
-/

namespace ImportAtlas

namespace Reported

variable {ε α β : Type}

theorem outcome_bind (first : Reported ε α) (next : α → Reported ε β) :
    (first >>= next).outcome = first.outcome.bind fun a => (next a).outcome := by
  rcases first with ⟨records, outcome⟩
  cases outcome with
  | error fault => rfl
  | ok a => rfl

theorem outcome_pure (a : α) : (pure a : Reported ε α).outcome = .ok a := rfl

end Reported

namespace Graph

variable {settings : Settings} {reader : SourceReader} {files : List Text}

/-!
## Files by directory
-/

def grouped (groups : List DirectoryGroup) : List Text := groups.flatMap (·.files)

/-- The files in the order in which they are read. -/
def byDirectory (files : List Text) : List Text := grouped (ofFiles files).directories

theorem grouped_addToGroup (directory file : Text) (groups : List DirectoryGroup) :
    (grouped (addToGroup directory file groups)).Perm (grouped groups ++ [file]) := by
  induction groups with
  | nil => exact List.Perm.refl _
  | cons group groups ih =>
      by_cases hsame : group.directory = directory
      · simp only [grouped, addToGroup, hsame, if_true, List.flatMap_cons, List.append_assoc]
        apply List.Perm.append_left
        exact List.perm_append_comm
      · simp only [grouped, addToGroup, hsame, if_false, List.flatMap_cons, List.append_assoc]
        exact List.Perm.append_left _ ih

theorem grouped_foldl_addFile (graph : Graph) (files : List Text) :
    (grouped (files.foldl addFile graph).directories).Perm
      (grouped graph.directories ++ files) := by
  induction files generalizing graph with
  | nil => simp
  | cons file files ih =>
      have hgroup := grouped_addToGroup (Path.directoryOrHere file) file graph.directories
      have hmore := ih (graph.addFile file)
      have happend := hgroup.append_right files
      rw [List.append_assoc] at happend
      exact hmore.trans happend

theorem byDirectory_perm (files : List Text) : (byDirectory files).Perm files :=
  grouped_foldl_addFile empty files

/-!
## Outcomes
-/

theorem outcome_scanFiles_cons (path : Text) (paths : List Text) :
    (scanFiles settings reader files (path :: paths)).outcome =
      (scanFile settings reader files path).outcome.bind fun edges =>
        (scanFiles settings reader files paths).outcome.map (edges ++ ·) := by
  simp only [scanFiles, Reported.outcome_bind, Reported.outcome_pure]
  rfl

theorem outcome_scanFiles_append (paths others : List Text) :
    (scanFiles settings reader files (paths ++ others)).outcome =
      (scanFiles settings reader files paths).outcome.bind fun edges =>
        (scanFiles settings reader files others).outcome.map (edges ++ ·) := by
  induction paths with
  | nil =>
      cases hothers : (scanFiles settings reader files others).outcome with
      | error fault => simp [hothers, scanFiles, Except.bind, Except.map]
      | ok more => simp [hothers, scanFiles, Except.bind, Except.map]
  | cons path paths ih =>
      rw [List.cons_append, outcome_scanFiles_cons, outcome_scanFiles_cons, ih]
      cases (scanFile settings reader files path).outcome with
      | error fault => rfl
      | ok own =>
          cases (scanFiles settings reader files paths).outcome with
          | error fault => rfl
          | ok edges =>
              cases (scanFiles settings reader files others).outcome with
              | error fault => rfl
              | ok more => simp [Except.bind, Except.map]

theorem outcome_scanGroups (groups : List DirectoryGroup) :
    (scanGroups settings reader files groups).outcome =
      (scanFiles settings reader files (grouped groups)).outcome := by
  induction groups with
  | nil => rfl
  | cons group groups ih =>
      show _ = (scanFiles settings reader files (group.files ++ grouped groups)).outcome
      rw [outcome_scanFiles_append, ← ih]
      simp only [scanGroups, Reported.outcome_bind, Reported.outcome_pure]
      rfl

theorem outcome_build (settings : Settings) (reader : SourceReader) (files : List Text) :
    (build settings reader files).outcome =
      (scanFiles settings reader files (byDirectory files)).outcome.map fun edges =>
        ⟨files, (ofFiles files).directories, edges⟩ := by
  rw [byDirectory, ← outcome_scanGroups]
  simp only [build, Reported.outcome_bind, Reported.outcome_pure, files_ofFiles]
  cases (scanGroups settings reader files (ofFiles files).directories).outcome with
  | error fault => rfl
  | ok edges => rfl

/-!
## Edges
-/

theorem outcome_readOrSkip_eq_some_iff {path content : Text} :
    (readOrSkip settings reader path).outcome = .ok (some content) ↔
      reader path = .ok content := by
  unfold readOrSkip
  cases hread : reader path with
  | ok text => simp
  | error fault =>
      cases fault with
      | inaccessible fault => simp
      | undecodable fault => cases fault <;> simp [Reported.fault]

theorem mem_outcome_scanFile_iff {path : Text} {edges : List Edge}
    (h : (scanFile settings reader files path).outcome = .ok edges) (edge : Edge) :
    edge ∈ edges ↔ ∃ content, reader path = .ok content ∧
      edge ∈ edgesOf settings files path
        (Statement.extract settings.includeReexports content) := by
  simp only [scanFile, Reported.outcome_bind] at h
  cases hread : (readOrSkip settings reader path).outcome with
  | error fault => rw [hread] at h; cases h
  | ok content? =>
      rw [hread] at h
      cases content? with
      | none =>
          have hnone : edges = [] := by
            simpa [Except.bind, Reported.outcome_pure] using h.symm
          rw [hnone]
          constructor
          · intro hedge
            cases hedge
          · rintro ⟨content, hcontent, _⟩
            rw [outcome_readOrSkip_eq_some_iff.mpr hcontent] at hread
            cases hread
      | some content =>
          have hcontent := outcome_readOrSkip_eq_some_iff.mp hread
          have hedges : edgesOf settings files path
              (Statement.extract settings.includeReexports content) = edges := by
            simpa [Except.bind] using h
          constructor
          · intro hedge
            exact ⟨content, hcontent, hedges ▸ hedge⟩
          · rintro ⟨content', hcontent', hedge⟩
            rw [hcontent] at hcontent'
            cases hcontent'
            exact hedges ▸ hedge

theorem mem_outcome_scanFiles_iff {paths : List Text} {edges : List Edge}
    (h : (scanFiles settings reader files paths).outcome = .ok edges) (edge : Edge) :
    edge ∈ edges ↔ ∃ path ∈ paths, ∃ content, reader path = .ok content ∧
      edge ∈ edgesOf settings files path
        (Statement.extract settings.includeReexports content) := by
  induction paths generalizing edges with
  | nil =>
      have hnil : edges = [] := by simpa [scanFiles, Reported.outcome_pure] using h.symm
      simp [hnil]
  | cons path paths ih =>
      rw [outcome_scanFiles_cons] at h
      cases hown : (scanFile settings reader files path).outcome with
      | error fault => rw [hown] at h; cases h
      | ok own =>
          rw [hown] at h
          cases hmore : (scanFiles settings reader files paths).outcome with
          | error fault => rw [hmore] at h; cases h
          | ok more =>
              rw [hmore] at h
              have hedges : own ++ more = edges := by
                simpa [Except.bind, Except.map] using h
              rw [← hedges, List.mem_append, mem_outcome_scanFile_iff hown, ih hmore]
              simp

theorem mem_edges_iff {graph : Graph}
    (h : (build settings reader files).outcome = .ok graph) (edge : Edge) :
    edge ∈ graph.edges ↔ ∃ path ∈ files, ∃ content, reader path = .ok content ∧
      ∃ statement ∈ Statement.extract settings.includeReexports content,
        ∃ target, target? settings files path statement = some target ∧
          edge = ⟨path, target, statement.items⟩ := by
  rw [outcome_build] at h
  cases hedges : (scanFiles settings reader files (byDirectory files)).outcome with
  | error fault => rw [hedges] at h; cases h
  | ok edges =>
      rw [hedges] at h
      have hgraph : graph.edges = edges := by
        simp only [Except.map, Except.ok.injEq] at h
        rw [← h]
      rw [hgraph, mem_outcome_scanFiles_iff hedges]
      simp only [(byDirectory_perm files).mem_iff, edgesOf, List.mem_filterMap,
        Option.map_eq_some_iff, eq_comm (a := edge)]

end Graph

end ImportAtlas
