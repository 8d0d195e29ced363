import ImportAtlas.Proofs.Graph.Imports
import ImportAtlas.Proofs.Specifier.Resolution
import ImportAtlas.Proofs.Statement.Merging

/-!
# Settings that let more in

Two settings decide how much counts as an import of a file: specifiers may be completed, and
re-exports may count.  Turning either of them on only adds edges.  A specifier that names a listed
file exactly still leads to this file, since that is tried first, and re-exports are put between the
imports without moving these.
-/

namespace ImportAtlas

namespace Statement

/-- Re-exports come between the imports, which stay as they are. -/
theorem extract_sublist (t : Text) : (extract false t).Sublist (extract true t) := by
  have himports : located false t = (located true t).filter (·.2.kind = .importing) :=
    (filter_located .importing t).symm
  unfold extract
  rw [himports]
  exact List.filter_sublist.map _

end Statement

/-- The settings with specifiers completed or re-exports counted as well. -/
def Settings.widen (settings : Settings) (resolve reexports : Bool) : Settings :=
  { settings with
    resolveExtensions := settings.resolveExtensions || resolve
    includeReexports := settings.includeReexports || reexports }

namespace Graph

variable {settings : Settings} {reader : SourceReader} {files : List Text} {path : Text}

theorem statementsOf_widen (settings : Settings) (resolve reexports : Bool) (reader : SourceReader)
    (path : Text) :
    (statementsOf settings reader path).Sublist
      (statementsOf (settings.widen resolve reexports) reader path) := by
  unfold statementsOf
  cases reader path with
  | error fault => exact List.Sublist.refl _
  | ok content =>
      show (Statement.extract settings.includeReexports content).Sublist
        (Statement.extract (settings.includeReexports || reexports) content)
      cases settings.includeReexports with
      | true => exact List.Sublist.refl _
      | false =>
          cases reexports with
          | true => exact Statement.extract_sublist content
          | false => exact List.Sublist.refl _

theorem importsOf_widen (settings : Settings) (resolve reexports : Bool) (reader : SourceReader)
    (paths : List Text) :
    (importsOf settings reader paths).Sublist
      (importsOf (settings.widen resolve reexports) reader paths) := by
  apply List.Sublist.flatMap_right
  intro path _
  exact (statementsOf_widen settings resolve reexports reader path).map _

/-- A statement that leads to a listed file leads to the same file when more is let in. -/
theorem target?_widen {statement : Statement} {target : Text} (resolve reexports : Bool)
    (h : target? settings files path statement = some target) :
    target? (settings.widen resolve reexports) files path statement = some target := by
  cases hresolve : settings.resolveExtensions with
  | true =>
      have hextensions : optionalExtensions (settings.widen resolve reexports) =
          optionalExtensions settings := by
        simp [optionalExtensions, Settings.widen, hresolve]
      rw [target?, hextensions]
      exact h
  | false =>
      simp only [target?, optionalExtensions, hresolve, Bool.false_eq_true, if_false] at h
      rcases Specifier.resolve?_nil_eq_some_iff.mp h with ⟨htarget, hmem⟩
      rw [htarget]
      exact Specifier.resolve?_of_mem hmem

theorem edge?_widen {found : Import} {edge : Edge} (resolve reexports : Bool)
    (h : edge? settings files found = some edge) :
    edge? (settings.widen resolve reexports) files found = some edge := by
  rw [edge?_eq_some_iff] at h ⊢
  exact ⟨target?_widen resolve reexports h.left, h.right⟩

theorem edges_built_widen (settings : Settings) (resolve reexports : Bool) (reader : SourceReader)
    (files : List Text) :
    (built settings reader files).edges.Sublist
      (built (settings.widen resolve reexports) reader files).edges := by
  have hedges : List.SublistForall₂ Eq (built settings reader files).edges
      (built (settings.widen resolve reexports) reader files).edges := by
    rw [edges_built, edges_built]
    apply sublistForall₂_filterMap (importsOf_widen settings resolve reexports reader _)
    intro found _ edge hedge
    exact ⟨edge, edge?_widen resolve reexports hedge, rfl⟩
  rcases List.sublistForall₂_iff.mp hedges with ⟨kept, hsame, hkept⟩
  rw [List.forall₂_eq_eq_eq] at hsame
  rw [hsame]
  exact hkept

/-- The same files in the same groups, with edges put between the old ones. -/
structure AddsEdges (graph wider : Graph) : Prop where
  files : wider.files = graph.files
  directories : wider.directories = graph.directories
  edges : graph.edges.Sublist wider.edges

/-- Letting more in only adds edges. -/
theorem build_widen (settings : Settings) (resolve reexports : Bool) (reader : SourceReader)
    (files : List Text) :
    EndAlike reader files AddsEdges (build settings reader files).outcome
      (build (settings.widen resolve reexports) reader files).outcome :=
  endAlike_build (fun _ => Iff.rfl)
    ⟨rfl, rfl, edges_built_widen settings resolve reexports reader files⟩

end Graph

end ImportAtlas
