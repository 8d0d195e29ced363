import ImportAtlas.Proofs.Graph.Build
import ImportAtlas.Proofs.Graph.Grouping

/-!
# Directories divide the files

A graph grows by files and by edges, in any order and with repetitions.  At every moment the
directories divide its files among them, and they do so as if there had been no edges at all.
-/

namespace ImportAtlas

namespace Graph

inductive Addition where
  | file (path : Text)
  | edge (edge : Edge)

def Addition.file? : Addition → Option Text
  | .file path => some path
  | .edge _ => none

def add (graph : Graph) : Addition → Graph
  | .file path => graph.addFile path
  | .edge edge => graph.addEdge edge

def ofAdditions (additions : List Addition) : Graph := additions.foldl add empty

/-- The directories of a graph are different from each other, stand in the order in which the files
first show them, and divide the files among them. -/
structure Divides (graph : Graph) (files : List Text) : Prop where
  listed : graph.files = files
  distinct : (graph.directories.map (·.directory)).Nodup
  shown : ∀ directory, directory ∈ graph.directories.map (·.directory) ↔
    ∃ file ∈ files, Path.directoryOrHere file = directory
  ordered : (graph.directories.map (·.directory)).Pairwise fun first second =>
    (files.map Path.directoryOrHere).idxOf first < (files.map Path.directoryOrHere).idxOf second
  members : ∀ group ∈ graph.directories,
    group.files = files.filter (Path.directoryOrHere · = group.directory)
  nonempty : ∀ group ∈ graph.directories, group.files ≠ []
  complete : (graph.directories.flatMap (·.files)).Perm files

variable {graph : Graph}

/-!
## One addition
-/

theorem IsBuilt.add (h : graph.IsBuilt) (addition : Addition) : (graph.add addition).IsBuilt := by
  cases addition with
  | file path => exact IsBuilt.addFile h path
  | edge edge => exact IsBuilt.addEdge h edge

theorem files_add (graph : Graph) (addition : Addition) :
    (graph.add addition).files = graph.files ++ addition.file?.toList := by
  cases addition with
  | file path => rfl
  | edge edge => exact (List.append_nil _).symm

/-!
## All additions
-/

theorem ofAdditions_concat (additions : List Addition) (addition : Addition) :
    ofAdditions (additions ++ [addition]) = (ofAdditions additions).add addition :=
  List.foldl_append

theorem isBuilt_ofAdditions (additions : List Addition) : (ofAdditions additions).IsBuilt := by
  induction additions using List.reverseRecOn with
  | nil => exact IsBuilt.empty
  | append_singleton additions addition ih =>
      rw [ofAdditions_concat]
      exact ih.add addition

theorem files_ofAdditions (additions : List Addition) :
    (ofAdditions additions).files = additions.filterMap Addition.file? := by
  induction additions using List.reverseRecOn with
  | nil => rfl
  | append_singleton additions addition ih =>
      rw [ofAdditions_concat, files_add, ih, List.filterMap_append]
      cases addition with
      | file path => rfl
      | edge edge => rfl

/-!
## Division
-/

/-- The groups are those of the files alone. -/
theorem IsBuilt.directories_ofFiles (h : graph.IsBuilt) :
    graph.directories = (ofFiles graph.files).directories := by
  rw [h.directories_eq, (isBuilt_ofFiles graph.files).directories_eq, files_ofFiles]

theorem IsBuilt.divides (h : graph.IsBuilt) : graph.Divides graph.files where
  listed := rfl
  distinct := h.nodup_directory
  shown := by
    intro directory
    rw [h.map_directory]
    exact mem_directoriesOf_iff
  ordered := by
    rw [h.map_directory]
    exact pairwise_idxOf_eraseDups (graph.files.map Path.directoryOrHere)
  members := by
    intro group hgroup
    rw [h.directories_eq] at hgroup
    rcases List.mem_map.mp hgroup with ⟨directory, _, rfl⟩
    rfl
  nonempty := by
    intro group hgroup
    rcases h.exists_of_mem_directories hgroup with ⟨file, hfile, hdirectory⟩
    rw [h.directories_eq] at hgroup
    rcases List.mem_map.mp hgroup with ⟨directory, _, rfl⟩
    exact List.ne_nil_of_mem (List.mem_filter.mpr ⟨hfile, decide_eq_true hdirectory⟩)
  complete := by
    rw [h.directories_ofFiles]
    exact byDirectory_perm graph.files

/-- Whatever is added and in whichever order, the directories divide the added files among them, and
without the edges the files and directories are the same. -/
theorem directories_divide_files (additions : List Addition) :
    (ofAdditions additions).Divides (additions.filterMap Addition.file?) ∧
      (ofAdditions (additions.filter (·.file?.isSome))).files = (ofAdditions additions).files ∧
      (ofAdditions (additions.filter (·.file?.isSome))).directories =
        (ofAdditions additions).directories := by
  have hbuilt := isBuilt_ofAdditions additions
  have hbare := isBuilt_ofAdditions (additions.filter (·.file?.isSome))
  have hfiles : (ofAdditions (additions.filter (·.file?.isSome))).files =
      (ofAdditions additions).files := by
    rw [files_ofAdditions, files_ofAdditions, List.filterMap_filter]
    apply List.filterMap_congr
    intro addition _
    cases addition with
    | file path => rfl
    | edge edge => rfl
  refine ⟨?_, hfiles, ?_⟩
  · rw [← files_ofAdditions]
    exact hbuilt.divides
  · rw [hbare.directories_ofFiles, hbuilt.directories_ofFiles, hfiles]

end Graph

end ImportAtlas
