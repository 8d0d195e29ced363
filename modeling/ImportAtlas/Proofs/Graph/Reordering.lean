import ImportAtlas.Proofs.Graph.Grouping
import ImportAtlas.Proofs.Graph.Imports
import ImportAtlas.Proofs.Specifier.Resolution
import ImportAtlas.Proofs.Statement.Position

/-!
# The order in which files are listed

The order of the listed files decides in which order directories, files and edges come, and nothing
else.  Where an import leads depends on which files are listed; the edges come in blocks, one each
time that a file is read, and inside a block they follow the text of the file.
-/

namespace ImportAtlas

namespace Graph

variable {settings : Settings} {reader : SourceReader} {files others paths : List Text}

/-!
## Directories
-/

theorem directoriesOf_perm (h : others.Perm files) :
    (directoriesOf others).Perm (directoriesOf files) := by
  rw [List.perm_ext_iff_of_nodup (nodup_directoriesOf others) (nodup_directoriesOf files)]
  intro directory
  rw [mem_directoriesOf_iff, mem_directoriesOf_iff]
  simp only [h.mem_iff]

theorem IsBuilt.files_of_mem_directories {graph : Graph} (h : graph.IsBuilt)
    {group : DirectoryGroup} (hgroup : group ∈ graph.directories) :
    group.files = filesIn graph.files group.directory := by
  rw [h.directories_eq] at hgroup
  rcases List.mem_map.mp hgroup with ⟨directory, _, heq⟩
  rw [← heq]

/-!
## Edges
-/

/-- Which edge an import becomes depends on the set of listed files. -/
theorem edge?_congr (h : ∀ path, path ∈ others ↔ path ∈ files) :
    edge? settings others = edge? settings files := by
  funext found
  rw [edge?, edge?, target?, target?, Specifier.resolve?_congr h]

theorem importsOf_perm (h : others.Perm paths) :
    (importsOf settings reader others).Perm (importsOf settings reader paths) :=
  h.flatMap_right _

theorem edges_built_perm (h : others.Perm files) :
    (built settings reader others).edges.Perm (built settings reader files).edges := by
  have hread : (byDirectory others).Perm (byDirectory files) :=
    (byDirectory_perm others).trans (h.trans (byDirectory_perm files).symm)
  rw [edges_built, edges_built, edge?_congr fun path => h.mem_iff]
  exact (importsOf_perm hread).filterMap _

/-- The edges come file by file, each time that a file is listed in its group, and those of one file
come by the positions of the statements in its text. -/
structure FollowsTexts (settings : Settings) (reader : SourceReader) (files : List Text)
    (graph : Graph) : Prop where
  blocks : graph.edges = (graph.directories.flatMap (·.files)).flatMap fun path =>
    edgesOf settings files path (statementsOf settings reader path)
  statements : ∀ path content, reader path = .ok content →
    statementsOf settings reader path =
      (Statement.located settings.includeReexports content).map (·.2)
  positions : ∀ content,
    (Statement.located settings.includeReexports content).Pairwise fun a b => a.1 < b.1

theorem followsTexts_built (settings : Settings) (reader : SourceReader) (files : List Text) :
    FollowsTexts settings reader files (built settings reader files) where
  blocks := by
    show edgesAmong ((byDirectory files).flatMap (findingsOf settings reader files)) = _
    rw [edgesAmong, List.filterMap_flatMap]
    exact List.flatMap_congr fun path _ => (edgesOf_eq _).symm
  statements := by
    intro path content hread
    rw [statementsOf, hread]
    rfl
  positions := Statement.pairwise_located settings.includeReexports

/-- Two graphs have the same edges, directories and files up to their order, and each follows the
texts. -/
structure Rearranges (settings : Settings) (reader : SourceReader) (files others : List Text)
    (graph other : Graph) : Prop where
  edges : other.edges.Perm graph.edges
  directories : (other.directories.map (·.directory)).Perm (graph.directories.map (·.directory))
  groups : ∀ group ∈ graph.directories, ∀ same ∈ other.directories,
    same.directory = group.directory → same.files.Perm group.files
  follows : FollowsTexts settings reader files graph
  otherFollows : FollowsTexts settings reader others other

/-- Listing the files in another order rearranges the graph. -/
theorem build_perm (settings : Settings) (reader : SourceReader) (h : others.Perm files) :
    EndAlike reader files (Rearranges settings reader files others)
      (build settings reader files).outcome (build settings reader others).outcome := by
  apply endAlike_build fun path => h.mem_iff
  have hgraph : (built settings reader files).IsBuilt := isBuilt_ofFiles_edges files _
  have hother : (built settings reader others).IsBuilt := isBuilt_ofFiles_edges others _
  exact {
    edges := edges_built_perm h
    directories := by
      rw [hgraph.map_directory, hother.map_directory]
      exact directoriesOf_perm h
    groups := by
      intro group hgroup same hsame hdirectory
      rw [hgraph.files_of_mem_directories hgroup, hother.files_of_mem_directories hsame, hdirectory]
      exact h.filter _
    follows := followsTexts_built settings reader files
    otherFollows := followsTexts_built settings reader others }

def shelvedFiles : List Text := ["lib/b.ts", "a.ts", "lib/c.ts"]

def shelvedReader : SourceReader := fun path =>
  if path = "a.ts" then .ok "import C from './lib/c'; import B from './lib/b'"
  else if path = "lib/b.ts" then .ok "import D from './c'"
  else .ok ""

theorem build_shelvedFiles_reverse :
    shelvedFiles.reverse.Perm shelvedFiles ∧
      ∃ graph other,
        (build Settings.standard shelvedReader shelvedFiles).outcome = .ok graph ∧
        (build Settings.standard shelvedReader shelvedFiles.reverse).outcome = .ok other ∧
        graph.edges = [⟨"lib/b.ts", "lib/c.ts", "D"⟩, ⟨"a.ts", "lib/c.ts", "C"⟩,
          ⟨"a.ts", "lib/b.ts", "B"⟩] ∧
        other.directories = [⟨"lib", ["lib/c.ts", "lib/b.ts"]⟩, ⟨".", ["a.ts"]⟩] ∧
        Rearranges Settings.standard shelvedReader shelvedFiles shelvedFiles.reverse graph
          other := by
  have hperm := List.reverse_perm shelvedFiles
  have hgraph : (build Settings.standard shelvedReader shelvedFiles).outcome =
      .ok (built Settings.standard shelvedReader shelvedFiles) := by
    rfl
  have hother : (build Settings.standard shelvedReader shelvedFiles.reverse).outcome =
      .ok (built Settings.standard shelvedReader shelvedFiles.reverse) := by
    rfl
  have halike := build_perm Settings.standard shelvedReader hperm
  rw [hgraph, hother] at halike
  cases halike with
  | built hrearranges => exact ⟨hperm, _, _, hgraph, hother, rfl, rfl, hrearranges⟩

end Graph

end ImportAtlas
