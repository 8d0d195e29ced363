import ImportAtlas.Graph.Basic
import ImportAtlas.Proofs.Text.Distinct

/-!
# Groups of files

However a graph is put together from files and edges, its groups follow from its files: there is
one group for each directory that holds a file, in the order in which the directories were first
seen, and each group holds the files of its directory in their own order.
-/

namespace ImportAtlas

namespace Graph

inductive IsBuilt : Graph → Prop where
  | empty : IsBuilt empty
  | addFile {graph : Graph} (h : IsBuilt graph) (file : Text) : IsBuilt (graph.addFile file)
  | addEdge {graph : Graph} (h : IsBuilt graph) (edge : Edge) : IsBuilt (graph.addEdge edge)

/-- The directories that hold files, in the order in which they are first seen. -/
def directoriesOf (files : List Text) : List Text :=
  (files.map Path.directoryOrHere).eraseDups

def filesIn (files : List Text) (directory : Text) : List Text :=
  files.filter (Path.directoryOrHere · = directory)

def groupsOf (files : List Text) : List DirectoryGroup :=
  (directoriesOf files).map fun directory => ⟨directory, filesIn files directory⟩

variable {files : List Text} {file directory : Text} {graph : Graph}

/-!
## Directories and their files
-/

theorem mem_directoriesOf_iff :
    directory ∈ directoriesOf files ↔ ∃ file ∈ files, Path.directoryOrHere file = directory := by
  rw [directoriesOf, List.mem_eraseDups, List.mem_map]

theorem directoriesOf_concat (files : List Text) (file : Text) :
    directoriesOf (files ++ [file]) =
      if Path.directoryOrHere file ∈ directoriesOf files then directoriesOf files
      else directoriesOf files ++ [Path.directoryOrHere file] := by
  unfold directoriesOf
  rw [List.map_append, List.map_singleton, eraseDups_concat]
  simp only [List.mem_eraseDups]

theorem filesIn_concat (files : List Text) (file directory : Text) :
    filesIn (files ++ [file]) directory =
      if Path.directoryOrHere file = directory then filesIn files directory ++ [file]
      else filesIn files directory := by
  unfold filesIn
  rw [List.filter_append]
  by_cases hsame : Path.directoryOrHere file = directory <;> simp [hsame]

theorem nodup_directoriesOf (files : List Text) : (directoriesOf files).Nodup :=
  nodup_eraseDups _

/-!
## One more file
-/

theorem addToGroup_of_not_mem {directories : List Text} (h : directory ∉ directories)
    (listed : Text → List Text) (file : Text) :
    addToGroup directory file (directories.map fun known => ⟨known, listed known⟩) =
      (directories.map fun known => ⟨known, listed known⟩) ++ [⟨directory, [file]⟩] := by
  induction directories with
  | nil => rfl
  | cons first directories ih =>
      rw [List.mem_cons, not_or] at h
      simp only [List.map_cons, addToGroup, Ne.symm h.left, if_false, ih h.right,
        List.cons_append]

theorem addToGroup_of_mem {directories : List Text} (hnodup : directories.Nodup)
    (h : directory ∈ directories) (listed : Text → List Text) (file : Text) :
    addToGroup directory file (directories.map fun known => ⟨known, listed known⟩) =
      directories.map fun known =>
        ⟨known, if directory = known then listed known ++ [file] else listed known⟩ := by
  induction directories with
  | nil => cases h
  | cons first directories ih =>
      rw [List.nodup_cons] at hnodup
      by_cases hsame : first = directory
      · subst hsame
        have hothers : ∀ known ∈ directories,
            (⟨known, listed known⟩ : DirectoryGroup) =
              ⟨known, if first = known then listed known ++ [file] else listed known⟩ := by
          intro known hknown
          have hne : first ≠ known := by
            intro heq
            exact hnodup.left (heq ▸ hknown)
          rw [if_neg hne]
        simp only [List.map_cons, addToGroup, if_true]
        rw [List.map_congr_left hothers]
      · have hmem : directory ∈ directories := by
          rcases List.mem_cons.mp h with heq | hmem
          · exact absurd heq.symm hsame
          · exact hmem
        simp only [List.map_cons, addToGroup, hsame, if_false, ih hnodup.right hmem,
          Ne.symm hsame]

theorem groupsOf_concat (files : List Text) (file : Text) :
    groupsOf (files ++ [file]) =
      addToGroup (Path.directoryOrHere file) file (groupsOf files) := by
  unfold groupsOf
  rw [directoriesOf_concat]
  simp only [filesIn_concat]
  by_cases hmem : Path.directoryOrHere file ∈ directoriesOf files
  · rw [if_pos hmem, addToGroup_of_mem (nodup_directoriesOf files) hmem]
  · have hold : ∀ directory ∈ directoriesOf files,
        (⟨directory, if Path.directoryOrHere file = directory then filesIn files directory ++ [file]
          else filesIn files directory⟩ : DirectoryGroup) =
          ⟨directory, filesIn files directory⟩ := by
      intro directory hdirectory
      have hne : Path.directoryOrHere file ≠ directory := by
        intro heq
        exact hmem (heq ▸ hdirectory)
      rw [if_neg hne]
    have hnew : filesIn files (Path.directoryOrHere file) = [] := by
      unfold filesIn
      rw [List.filter_eq_nil_iff]
      intro other hother hsame
      exact hmem (mem_directoriesOf_iff.mpr ⟨other, hother, of_decide_eq_true hsame⟩)
    rw [if_neg hmem, addToGroup_of_not_mem hmem, List.map_append, List.map_congr_left hold]
    simp [hnew]

/-!
## Built graphs
-/

theorem isBuilt_ofFiles (files : List Text) : (ofFiles files).IsBuilt := by
  induction files using List.reverseRecOn with
  | nil => exact IsBuilt.empty
  | append_singleton files file ih =>
      rw [ofFiles, List.foldl_append]
      exact IsBuilt.addFile ih file

theorem edges_ofFiles (files : List Text) : (ofFiles files).edges = [] := by
  induction files using List.reverseRecOn with
  | nil => rfl
  | append_singleton files file ih =>
      rw [ofFiles, List.foldl_append]
      exact ih

theorem IsBuilt.append_edges (h : graph.IsBuilt) (edges : List Edge) :
    IsBuilt ⟨graph.files, graph.directories, graph.edges ++ edges⟩ := by
  induction edges using List.reverseRecOn with
  | nil => rwa [List.append_nil]
  | append_singleton edges edge ih =>
      rw [← List.append_assoc]
      exact IsBuilt.addEdge ih edge

theorem isBuilt_ofFiles_edges (files : List Text) (edges : List Edge) :
    IsBuilt ⟨files, (ofFiles files).directories, edges⟩ := by
  have hbuilt := (isBuilt_ofFiles files).append_edges edges
  rw [files_ofFiles, edges_ofFiles, List.nil_append] at hbuilt
  exact hbuilt

/-- The groups of a built graph are its files by directory. -/
theorem IsBuilt.directories_eq (h : graph.IsBuilt) : graph.directories = groupsOf graph.files := by
  induction h with
  | empty => rfl
  | addFile h file ih =>
      rw [files_addFile, groupsOf_concat, ← ih]
      rfl
  | addEdge h edge ih => exact ih

theorem IsBuilt.exists_mem_directories_iff (h : graph.IsBuilt) :
    (∃ group ∈ graph.directories, file ∈ group.files) ↔ file ∈ graph.files := by
  rw [h.directories_eq]
  simp only [groupsOf, List.mem_map, filesIn, exists_exists_and_eq_and, List.mem_filter,
    decide_eq_true_eq]
  constructor
  · rintro ⟨_, _, hfile, _⟩
    exact hfile
  · intro hfile
    exact ⟨_, mem_directoriesOf_iff.mpr ⟨file, hfile, rfl⟩, hfile, rfl⟩

theorem IsBuilt.exists_of_mem_directories (h : graph.IsBuilt) {group : DirectoryGroup}
    (hgroup : group ∈ graph.directories) :
    ∃ file ∈ graph.files, Path.directoryOrHere file = group.directory := by
  rw [h.directories_eq] at hgroup
  rcases List.mem_map.mp hgroup with ⟨directory, hdirectory, rfl⟩
  exact mem_directoriesOf_iff.mp hdirectory

theorem IsBuilt.map_directory (h : graph.IsBuilt) :
    graph.directories.map (·.directory) = directoriesOf graph.files := by
  rw [h.directories_eq, groupsOf, List.map_map]
  exact List.map_id _

theorem IsBuilt.nodup_directory (h : graph.IsBuilt) :
    (graph.directories.map (·.directory)).Nodup := by
  rw [h.map_directory]
  exact nodup_directoriesOf graph.files

end Graph

end ImportAtlas
