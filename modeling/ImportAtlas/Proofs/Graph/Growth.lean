import ImportAtlas.Proofs.Graph.Imports
import ImportAtlas.Proofs.Specifier.Resolution
import Mathlib.Order.Fin.Basic

/-!
# Listing more files

When more files are listed behind those that are listed already, no dependency gets lost.  The old
files are read in the same order as before, with new ones in between, so their imports come in the
same order, and each that led to a listed file still does.  It may lead to another one only when
that file is new and is tried before the old one.
-/

namespace ImportAtlas

namespace Graph

variable {settings : Settings} {reader : SourceReader} {files more : List Text} {edge later : Edge}

/-!
## The order of reading
-/

theorem grouped_sublist_addToGroup (directory file : Text) (groups : List DirectoryGroup) :
    (grouped groups).Sublist (grouped (addToGroup directory file groups)) := by
  induction groups with
  | nil => exact List.nil_sublist _
  | cons group groups ih =>
      by_cases hsame : group.directory = directory
      · simp only [grouped, addToGroup, hsame, if_true, List.flatMap_cons]
        exact (List.sublist_append_left group.files [file]).append_right _
      · simp only [grouped, addToGroup, hsame, if_false, List.flatMap_cons]
        exact ih.append_left group.files

theorem grouped_sublist_foldl_addFile (graph : Graph) (files : List Text) :
    (grouped graph.directories).Sublist (grouped (files.foldl addFile graph).directories) := by
  induction files generalizing graph with
  | nil => exact List.Sublist.refl _
  | cons file files ih =>
      have hfile := grouped_sublist_addToGroup (Path.directoryOrHere file) file graph.directories
      exact hfile.trans (ih (graph.addFile file))

/-- New files come between the old ones, which stay in their order. -/
theorem byDirectory_sublist_append (files more : List Text) :
    (byDirectory files).Sublist (byDirectory (files ++ more)) := by
  unfold byDirectory ofFiles
  rw [List.foldl_append]
  exact grouped_sublist_foldl_addFile (files.foldl addFile empty) more

/-!
## Edges
-/

/-- What an edge becomes when more files are listed: the edge of the same statement, to the same
file or to a new one that is tried before it. -/
structure IsKeptAs (settings : Settings) (reader : SourceReader) (files more : List Text)
    (edge later : Edge) : Prop where
  source : later.source = edge.source
  label : later.label = edge.label
  target : ∃ statement ∈ statementsOf settings reader edge.source,
    statement.items = edge.label ∧
    target? settings files edge.source statement = some edge.target ∧
    target? settings (files ++ more) edge.source statement = some later.target ∧
    (later.target = edge.target ∨
      later.target ∈ more ∧ later.target ∉ files ∧
        Specifier.Precedes (optionalExtensions settings)
          (Specifier.path edge.source statement.specifier) later.target edge.target)
  same : settings.resolveExtensions = false → later.target = edge.target

theorem target_eq_of_exact {statement : Statement} {target : Text}
    (hexact : settings.resolveExtensions = false)
    (h : target? settings files edge.source statement = some target) :
    target = Specifier.path edge.source statement.specifier := by
  unfold target? optionalExtensions at h
  simp only [hexact, Bool.false_eq_true, if_false] at h
  exact (Specifier.resolve?_nil_eq_some_iff.mp h).left

theorem exists_edge?_append {found : Import} (more : List Text)
    (hstatement : found.statement ∈ statementsOf settings reader found.path)
    (h : edge? settings files found = some edge) :
    ∃ later, edge? settings (files ++ more) found = some later ∧
      IsKeptAs settings reader files more edge later := by
  rcases edge?_eq_some_iff.mp h with ⟨hold, hsource, hlabel⟩
  rcases Specifier.resolve?_append_known more hold with ⟨target, hnew, hkept⟩
  refine ⟨⟨found.path, target, found.statement.items⟩,
    edge?_eq_some_iff.mpr ⟨hnew, rfl, rfl⟩, ?_⟩
  rw [← hsource] at hold hnew hkept hstatement
  exact {
    source := hsource.symm
    label := hlabel.symm
    target := ⟨found.statement, hstatement, hlabel.symm, hold, hnew, hkept⟩
    same := by
      intro hexact
      rw [target_eq_of_exact hexact hold]
      exact target_eq_of_exact hexact hnew }

theorem edges_built_append (settings : Settings) (reader : SourceReader) (files more : List Text) :
    List.SublistForall₂ (IsKeptAs settings reader files more)
      (built settings reader files).edges (built settings reader (files ++ more)).edges := by
  rw [edges_built, edges_built]
  apply sublistForall₂_filterMap ((byDirectory_sublist_append files more).flatMap _)
  intro found hfound edge hedge
  exact exists_edge?_append more (mem_importsOf_iff.mp hfound).right hedge

theorem exists_orderEmbedding {α : Type} {R : α → α → Prop} {items more : List α}
    (h : List.SublistForall₂ R items more) :
    ∃ place : Fin items.length ↪o Fin more.length,
      ∀ i, R (items.get i) (more.get (place i)) := by
  rcases List.sublistForall₂_iff.mp h with ⟨held, hrelated, hheld⟩
  rcases List.sublist_iff_exists_fin_orderEmbedding_get_eq.mp hheld with ⟨place, hplace⟩
  have hlength := hrelated.length_eq
  refine ⟨(Fin.castOrderIso hlength).toOrderEmbedding.trans place, ?_⟩
  intro i
  have hget := List.Forall₂.get hrelated i.isLt (hlength ▸ i.isLt)
  have hi := hplace (Fin.cast hlength i)
  show R (items.get i) (more.get (place (Fin.cast hlength i)))
  rw [← hi]
  exact hget

/-- The edges of a graph have places among those of a graph with more files, in the same order. -/
structure KeepsEdges (settings : Settings) (reader : SourceReader) (files more : List Text)
    (graph extended : Graph) : Prop where
  listed : extended.files = graph.files ++ more
  edges : ∃ place : Fin graph.edges.length ↪o Fin extended.edges.length,
    ∀ i, IsKeptAs settings reader files more (graph.edges.get i) (extended.edges.get (place i))

/-- Listing more files keeps every edge, unless one of the files ends the building. -/
theorem build_append_keeps_edges (settings : Settings) (reader : SourceReader)
    (files more : List Text) :
    ((∃ extended, (build settings reader (files ++ more)).outcome = .ok extended) ↔
      ∀ path ∈ files ++ more, ¬ IsFatal reader path) ∧
    ∀ extended, (build settings reader (files ++ more)).outcome = .ok extended →
      ∃ graph, (build settings reader files).outcome = .ok graph ∧
        KeepsEdges settings reader files more graph extended := by
  constructor
  · constructor
    · intro h
      rcases h with ⟨extended, hextended⟩
      exact (outcome_build_eq_ok_iff.mp hextended).left
    · intro hsafe
      exact ⟨_, outcome_build_eq_ok_iff.mpr ⟨hsafe, rfl⟩⟩
  · intro extended hextended
    rcases outcome_build_eq_ok_iff.mp hextended with ⟨hsafe, rfl⟩
    have hfiles : ∀ path ∈ files, ¬ IsFatal reader path := by
      intro path hpath
      exact hsafe path (List.mem_append_left more hpath)
    refine ⟨built settings reader files, outcome_build_eq_ok_iff.mpr ⟨hfiles, rfl⟩, rfl, ?_⟩
    exact exists_orderEmbedding (edges_built_append settings reader files more)

def indexedFiles : List Text := ["a.ts", "lib/index.ts"]

def laterFiles : List Text := ["lib.ts"]

def indexedReader : SourceReader := fun path =>
  if path = "a.ts" then .ok "import L from './lib'" else .ok ""

theorem build_indexedFiles_append :
    (build Settings.standard indexedReader indexedFiles).outcome =
      .ok ⟨indexedFiles, [⟨".", ["a.ts"]⟩, ⟨"lib", ["lib/index.ts"]⟩],
        [⟨"a.ts", "lib/index.ts", "L"⟩]⟩ ∧
    ∃ graph extended, (build Settings.standard indexedReader indexedFiles).outcome = .ok graph ∧
      extended.edges = [⟨"a.ts", "lib.ts", "L"⟩] ∧
      KeepsEdges Settings.standard indexedReader indexedFiles laterFiles graph extended := by
  have hextended :
      (build Settings.standard indexedReader (indexedFiles ++ laterFiles)).outcome =
        .ok ⟨indexedFiles ++ laterFiles,
          [⟨".", ["a.ts", "lib.ts"]⟩, ⟨"lib", ["lib/index.ts"]⟩],
          [⟨"a.ts", "lib.ts", "L"⟩]⟩ := by
    rfl
  rcases (build_append_keeps_edges Settings.standard indexedReader indexedFiles laterFiles).right
    _ hextended with ⟨graph, hgraph, hkeeps⟩
  exact ⟨rfl, graph, _, hgraph, rfl, hkeeps⟩

end Graph

end ImportAtlas
