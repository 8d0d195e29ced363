import ImportAtlas.Proofs.Graph.Grouping
import ImportAtlas.Proofs.Json.Ascii
import ImportAtlas.Proofs.Json.RoundTrip
import ImportAtlas.Proofs.Path.Base
import ImportAtlas.Report

/-!
# The report loses nothing

The report of a graph is plain ASCII, and reading it gives the graph back: its files, the
directories with their files, its edges, each in their order.  The members of the directories have
different names, since a built graph has one group for each directory, so a reader that keeps one
member of each name keeps them all.  Two graphs with the same report are equal.

Only texts in which a high surrogate stands directly before a low one are left out: they are
written like the code point that the two make together.
-/

namespace ImportAtlas

/-- No text that the graph was put together from holds a surrogate pair. -/
structure Graph.HasUnpairedTexts (graph : Graph) : Prop where
  files : ∀ file ∈ graph.files, file.IsUnpaired
  sources : ∀ edge ∈ graph.edges, edge.source.IsUnpaired
  targets : ∀ edge ∈ graph.edges, edge.target.IsUnpaired
  labels : ∀ edge ∈ graph.edges, edge.label.IsUnpaired

namespace Path

theorem isUnpaired_directoryOrHere {path : Text} (h : path.IsUnpaired) :
    (directoryOrHere path).IsUnpaired := by
  rcases directoryOrHere_cases path with hhere | hprefix
  · rw [hhere]
    decide
  · exact List.IsChain.prefix h hprefix

end Path

namespace Report

open Json

variable {graph other : Graph}

/-!
## The shape of a report
-/

theorem fitsIn_ofTexts {texts : List Text} (h : ∀ t ∈ texts, t.IsUnpaired) (room : Nat) :
    FitsIn (room + 1) (ofTexts texts) := by
  apply FitsIn.array
  intro item hitem
  rcases List.mem_map.mp hitem with ⟨t, ht, rfl⟩
  exact FitsIn.text (h t ht)

theorem fitsIn_ofEdge {edge : Edge} (hsource : edge.source.IsUnpaired)
    (htarget : edge.target.IsUnpaired) (hlabel : edge.label.IsUnpaired) (room : Nat) :
    FitsIn (room + 1) (ofEdge edge) := by
  apply FitsIn.object
  · simp only [List.forall_mem_cons]
    exact ⟨by decide, by decide, by decide, by simp⟩
  · simp only [List.forall_mem_cons]
    exact ⟨FitsIn.text hsource, FitsIn.text htarget, FitsIn.text hlabel, by simp⟩

theorem fitsIn_ofGraph (hbuilt : graph.IsBuilt) (htexts : graph.HasUnpairedTexts) (room : Nat) :
    FitsIn (room + 3) (ofGraph graph) := by
  have hgroups : ∀ member ∈ graph.directories.map fun group =>
      (group.directory, ofTexts group.files),
      member.1.IsUnpaired ∧ FitsIn (room + 1) member.2 := by
    rw [hbuilt.directories_eq, Graph.groupsOf, List.map_map]
    intro member hmember
    rcases List.mem_map.mp hmember with ⟨directory, hdirectory, rfl⟩
    rcases Graph.mem_directoriesOf_iff.mp hdirectory with ⟨file, hfile, rfl⟩
    refine ⟨Path.isUnpaired_directoryOrHere (htexts.files file hfile), ?_⟩
    apply fitsIn_ofTexts
    intro listed hlisted
    exact htexts.files listed (List.mem_of_mem_filter hlisted)
  have hedges : ∀ item ∈ graph.edges.map ofEdge, FitsIn (room + 1) item := by
    intro item hitem
    rcases List.mem_map.mp hitem with ⟨edge, hedge, rfl⟩
    exact fitsIn_ofEdge (htexts.sources edge hedge) (htexts.targets edge hedge)
      (htexts.labels edge hedge) room
  apply FitsIn.object
  · simp only [List.forall_mem_cons]
    exact ⟨by decide, by decide, by decide, by simp⟩
  · simp only [List.forall_mem_cons]
    refine ⟨fitsIn_ofTexts htexts.files (room + 1), ?_, FitsIn.array hedges, by simp⟩
    exact FitsIn.object (fun member hmember => (hgroups member hmember).left)
      (fun member hmember => (hgroups member hmember).right)

theorem read_write (hbuilt : graph.IsBuilt) (htexts : graph.HasUnpairedTexts) :
    Json.read (write graph) = .ok (ofGraph graph) :=
  Json.read_write Layout.isBlank_indented (fitsIn_ofGraph hbuilt htexts 977) 0

/-!
## Different graphs
-/

theorem ofTexts_injective {texts others : List Text} (h : ofTexts texts = ofTexts others) :
    texts = others := by
  unfold ofTexts at h
  rw [Json.array.injEq] at h
  exact (List.map_inj_right fun _ _ heq => Json.text.inj heq).mp h

theorem ofEdge_injective {edge other : Edge} (h : ofEdge edge = ofEdge other) : edge = other := by
  rcases edge with ⟨source, target, label⟩
  rcases other with ⟨source', target', label'⟩
  simpa [ofEdge] using h

theorem ofGraph_injective (h : ofGraph graph = ofGraph other) : graph = other := by
  rcases graph with ⟨files, directories, edges⟩
  rcases other with ⟨files', directories', edges'⟩
  simp only [ofGraph, Json.object.injEq, Json.array.injEq, List.cons.injEq, Prod.mk.injEq,
    true_and, and_true] at h
  rcases h with ⟨hfiles, hdirectories, hedges⟩
  have hgroup : ∀ group group' : DirectoryGroup,
      (group.directory, ofTexts group.files) = (group'.directory, ofTexts group'.files) →
        group = group' := by
    intro group group' heq
    rw [Prod.mk.injEq] at heq
    rcases group with ⟨directory, listed⟩
    rcases group' with ⟨directory', listed'⟩
    rw [DirectoryGroup.mk.injEq]
    exact ⟨heq.left, ofTexts_injective heq.right⟩
  rw [ofTexts_injective hfiles, (List.map_inj_right hgroup).mp hdirectories,
    (List.map_inj_right fun _ _ => ofEdge_injective).mp hedges]

/-!
## Reading a report
-/

/-- The report of a built graph is ASCII, it holds the files, directories and edges of the graph,
with one member for each directory in the order in which they were first seen, and no other graph
has the same report. -/
theorem write_lossless (hbuilt : graph.IsBuilt) (htexts : graph.HasUnpairedTexts) :
    (∀ c ∈ write graph, c = CodePoint.ofChar '\n' ∨ 0x20 ≤ c.val ∧ c.val ≤ 0x7E) ∧
      (∃ report, Json.read (write graph) = .ok report ∧
        report.member? "files" = some (.array (graph.files.map .text)) ∧
        report.member? "directories" =
          some (.object (graph.directories.map fun group =>
            (group.directory, .array (group.files.map .text)))) ∧
        report.member? "edges" =
          some (.array (graph.edges.map fun edge =>
            .object [("source", .text edge.source), ("target", .text edge.target),
              ("label", .text edge.label)]))) ∧
      (graph.directories.map (·.directory)).Nodup ∧
      graph.directories.map (·.directory) = Graph.directoriesOf graph.files ∧
      (∀ group ∈ graph.directories, group.files = Graph.filesIn graph.files group.directory) ∧
      ∀ other : Graph, other.IsBuilt → other.HasUnpairedTexts → write other = write graph →
        other = graph := by
  have hread := read_write hbuilt htexts
  refine ⟨?ascii, ⟨ofGraph graph, hread, ?files, ?directories, ?edges⟩, hbuilt.nodup_directory,
    hbuilt.map_directory, ?groups, ?others⟩
  case ascii =>
    exact isAscii_write Layout.isAscii_indented 0 (ofGraph graph)
  case files => rfl
  case directories => rfl
  case edges => rfl
  case groups =>
    rw [hbuilt.directories_eq, Graph.groupsOf]
    intro group hgroup
    rcases List.mem_map.mp hgroup with ⟨directory, _, rfl⟩
    rfl
  case others =>
    intro other hotherBuilt hotherTexts hsame
    have hotherRead := read_write hotherBuilt hotherTexts
    rw [hsame, hread] at hotherRead
    exact ofGraph_injective (Except.ok.inj hotherRead).symm

def strangeName : Text :=
  Text.ofString "src/" ++ [CodePoint.ofNat 0xD800, CodePoint.ofNat 0x7F, CodePoint.ofNat 0x1F600]

def brokenName : Text := [CodePoint.ofNat 0xDC80, CodePoint.ofNat 0, CodePoint.ofChar '"']

def strangeGraph : Graph :=
  ((Graph.empty.addFile strangeName).addFile brokenName).addEdge
    ⟨strangeName, brokenName, "a,\nb"⟩

theorem isBuilt_strangeGraph : strangeGraph.IsBuilt :=
  ((Graph.IsBuilt.empty.addFile _).addFile _).addEdge _

theorem hasUnpairedTexts_strangeGraph : strangeGraph.HasUnpairedTexts where
  files := by decide
  sources := by decide
  targets := by decide
  labels := by decide

theorem strangeGraph_lossless :
    ∃ report, Json.read (write strangeGraph) = .ok report ∧
      report.member? "files" = some (.array [.text strangeName, .text brokenName]) ∧
      report.member? "directories" =
        some (.object [("src", .array [.text strangeName]), (".", .array [.text brokenName])]) ∧
      report.member? "edges" =
        some (.array [.object [("source", .text strangeName), ("target", .text brokenName),
          ("label", .text "a,\nb")]]) :=
  (write_lossless isBuilt_strangeGraph hasUnpairedTexts_strangeGraph).right.left

end Report

end ImportAtlas
