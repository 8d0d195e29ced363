import ImportAtlas.Proofs.Graph.Isolation
import Mathlib.Data.List.Forall2
import Mathlib.Data.List.NodupEquivFin

/-!
# Imports in the order of reading

Building decides import by import.  The imports are listed file by file in the order in which the
files are read, and each of them becomes an edge or not without regard to the others.  So two graphs
are compared by comparing their lists of imports and what becomes of a single import.

Building fails with what the first file shows that is at odds with the encoding, and this does not
depend on the imports at all.
-/

namespace ImportAtlas

structure Import where
  path : Text
  statement : Statement

namespace Graph

variable {settings : Settings} {reader : SourceReader} {files paths : List Text} {path : Text}

/-!
## Edges of imports
-/

def importsOf (settings : Settings) (reader : SourceReader) (paths : List Text) : List Import :=
  paths.flatMap fun path => (statementsOf settings reader path).map (Import.mk path)

def edge? (settings : Settings) (files : List Text) (found : Import) : Option Edge :=
  (target? settings files found.path found.statement).map fun target =>
    ⟨found.path, target, found.statement.items⟩

theorem edge?_eq_some_iff {found : Import} {edge : Edge} :
    edge? settings files found = some edge ↔
      target? settings files found.path found.statement = some edge.target ∧
        edge.source = found.path ∧ edge.label = found.statement.items := by
  rcases edge with ⟨source, target, label⟩
  unfold edge?
  rw [Option.map_eq_some_iff]
  constructor
  · intro h
    rcases h with ⟨target, htarget, heq⟩
    cases heq
    exact ⟨htarget, rfl, rfl⟩
  · intro h
    rcases h with ⟨htarget, hsource, hlabel⟩
    cases hsource
    cases hlabel
    exact ⟨target, htarget, rfl⟩

theorem edgesAmong_findingsOf (path : Text) :
    edgesAmong (findingsOf settings reader files path) =
      ((statementsOf settings reader path).map (Import.mk path)).filterMap
        (edge? settings files) := by
  rw [findingsOf, ← edgesOf_eq, edgesOf, List.filterMap_map]
  rfl

theorem edges_built (settings : Settings) (reader : SourceReader) (files : List Text) :
    (built settings reader files).edges =
      (importsOf settings reader (byDirectory files)).filterMap (edge? settings files) := by
  show edgesAmong (findings settings reader files) = _
  unfold findings importsOf
  rw [edgesAmong, List.filterMap_flatMap, List.filterMap_flatMap]
  exact List.flatMap_congr fun path _ => edgesAmong_findingsOf path

theorem mem_importsOf_iff {found : Import} :
    found ∈ importsOf settings reader paths ↔
      found.path ∈ paths ∧ found.statement ∈ statementsOf settings reader found.path := by
  unfold importsOf
  rw [List.mem_flatMap]
  constructor
  · intro h
    rcases h with ⟨path, hpath, hfound⟩
    rcases List.mem_map.mp hfound with ⟨statement, hstatement, heq⟩
    rw [← heq]
    exact ⟨hpath, hstatement⟩
  · intro h
    exact ⟨found.path, h.left, List.mem_map.mpr ⟨found.statement, h.right, rfl⟩⟩

theorem mem_importsOf_byDirectory {source content : Text} {statement : Statement}
    (hsource : source ∈ files) (hread : reader source = .ok content)
    (hstatement : statement ∈ Statement.extract settings.includeReexports content) :
    ⟨source, statement⟩ ∈ importsOf settings reader (byDirectory files) := by
  rw [mem_importsOf_iff, statementsOf, hread]
  exact ⟨(byDirectory_perm files).mem_iff.mpr hsource, hstatement⟩

/-- When more imports are listed and those that were listed become edges again, the new edges hold
the old ones in their order, each with what it has become. -/
theorem sublistForall₂_filterMap {α β : Type} {R : β → β → Prop} {old new : α → Option β}
    {items more : List α} (hmore : items.Sublist more)
    (h : ∀ item ∈ items, ∀ b, old item = some b → ∃ b', new item = some b' ∧ R b b') :
    List.SublistForall₂ R (items.filterMap old) (more.filterMap new) := by
  induction hmore with
  | slnil => exact List.SublistForall₂.nil
  | cons added _ ih =>
      have hrest := ih h
      rw [List.filterMap_cons]
      cases new added with
      | none => exact hrest
      | some b => exact List.SublistForall₂.cons_right hrest
  | cons_cons item _ ih =>
      have hrest := ih fun other hother => h other (List.mem_cons_of_mem item hother)
      rw [List.filterMap_cons, List.filterMap_cons]
      cases hold : old item with
      | none =>
          cases new item with
          | none => exact hrest
          | some b => exact List.SublistForall₂.cons_right hrest
      | some b =>
          rcases h item List.mem_cons_self b hold with ⟨b', hnew, hrelated⟩
          rw [hnew]
          exact List.SublistForall₂.cons hrelated hrest

/-!
## Faults

A file that is listed may end the building.  Which fault comes first depends on the order in which
the files are read, and whether there is one on the files alone.
-/

def fatalFault? (reader : SourceReader) (path : Text) : Option DecodeFault :=
  match reader path with
  | .error (.undecodable (.undecodable _)) => none
  | .error (.undecodable fault) => some fault
  | _ => none

/-- The fault that comes first when files are read directory by directory. -/
def firstFault? (reader : SourceReader) (files : List Text) : Option DecodeFault :=
  (byDirectory files).findSome? (fatalFault? reader)

theorem fatalFault?_eq_none_iff : fatalFault? reader path = none ↔ ¬ IsFatal reader path := by
  unfold fatalFault? IsFatal DecodeFault.IsFatal
  cases hread : reader path with
  | ok content => simp
  | error fault =>
      cases fault with
      | inaccessible fault => simp
      | undecodable fault => cases fault <;> simp

theorem firstFault?_eq_none_iff :
    firstFault? reader files = none ↔ ∀ path ∈ files, ¬ IsFatal reader path := by
  unfold firstFault?
  rw [List.findSome?_eq_none_iff]
  simp only [(byDirectory_perm files).mem_iff, fatalFault?_eq_none_iff]

theorem outcome_scanFile_of_fatalFault? {fault : DecodeFault}
    (h : fatalFault? reader path = some fault) :
    (scanFile settings reader files path).outcome = .error fault := by
  have hread : (readOrSkip settings reader path).outcome = .error fault := by
    unfold fatalFault? at h
    unfold readOrSkip
    cases hreader : reader path with
    | ok content => rw [hreader] at h; cases h
    | error found =>
        rw [hreader] at h
        cases found with
        | inaccessible found => cases h
        | undecodable found => cases found <;> cases h <;> rfl
  simp only [scanFile, Reported.outcome_bind, hread, Except.bind]

theorem outcome_scanFiles_of_findSome? {fault : DecodeFault}
    (h : paths.findSome? (fatalFault? reader) = some fault) :
    (scanFiles settings reader files paths).outcome = .error fault := by
  induction paths with
  | nil => cases h
  | cons path paths ih =>
      rw [outcome_scanFiles_cons]
      cases hpath : fatalFault? reader path with
      | some found =>
          rw [List.findSome?_cons, hpath] at h
          cases h
          rw [outcome_scanFile_of_fatalFault? hpath]
          rfl
      | none =>
          rw [List.findSome?_cons, hpath] at h
          rw [scanFile_eq (fatalFault?_eq_none_iff.mp hpath), ih h]
          rfl

/-- Building fails with the first fault, and comes to a graph when there is none. -/
theorem outcome_build_eq (settings : Settings) (reader : SourceReader) (files : List Text) :
    (build settings reader files).outcome =
      match firstFault? reader files with
      | some fault => .error fault
      | none => .ok (built settings reader files) := by
  cases hfault : firstFault? reader files with
  | some fault =>
      rw [outcome_build, outcome_scanFiles_of_findSome? hfault]
      rfl
  | none => rw [build_eq (firstFault?_eq_none_iff.mp hfault)]

theorem outcome_build_eq_ok_iff {graph : Graph} :
    (build settings reader files).outcome = .ok graph ↔
      (∀ path ∈ files, ¬ IsFatal reader path) ∧ graph = built settings reader files := by
  rw [outcome_build_eq, ← firstFault?_eq_none_iff]
  cases firstFault? reader files with
  | some fault => simp
  | none => simp [eq_comm]

/-!
## Two ways of building
-/

/-- Two ways of building end alike: they come to graphs that are related, or both of them fail,
which takes a file that ends the building. -/
inductive EndAlike (reader : SourceReader) (files : List Text) (Related : Graph → Graph → Prop) :
    Except DecodeFault Graph → Except DecodeFault Graph → Prop where
  | failed (fault other : DecodeFault) :
      (∃ path ∈ files, IsFatal reader path) →
      EndAlike reader files Related (.error fault) (.error other)
  | built {graph other : Graph} :
      Related graph other → EndAlike reader files Related (.ok graph) (.ok other)

theorem endAlike_build {Related : Graph → Graph → Prop} {others : List Text}
    {otherSettings : Settings} (hfiles : ∀ path, path ∈ others ↔ path ∈ files)
    (h : Related (built settings reader files) (built otherSettings reader others)) :
    EndAlike reader files Related (build settings reader files).outcome
      (build otherSettings reader others).outcome := by
  have hsafe : firstFault? reader others = none ↔ firstFault? reader files = none := by
    simp only [firstFault?_eq_none_iff, hfiles]
  rw [outcome_build_eq, outcome_build_eq]
  cases hfault : firstFault? reader files with
  | none =>
      rw [hsafe.mpr hfault]
      exact EndAlike.built h
  | some fault =>
      have hfatal : ∃ path ∈ files, IsFatal reader path := by
        by_contra hnone
        have hfree := firstFault?_eq_none_iff.mpr fun path hpath hfatal =>
          hnone ⟨path, hpath, hfatal⟩
        rw [hfault] at hfree
        cases hfree
      cases hother : firstFault? reader others with
      | none =>
          rw [hsafe.mp hother] at hfault
          cases hfault
      | some other => exact EndAlike.failed fault other hfatal

end Graph

end ImportAtlas
