import ImportAtlas.Proofs.Graph.Fault
import Mathlib.Data.List.Flatten
import Mathlib.Data.List.Perm.Basic

/-!
# Files that cannot be read

A file that cannot be read or decoded costs the graph the edges of that file and nothing else, and
it is reported once each time it is listed.  Every statement of the other files is accounted for: it
becomes one edge, or one record says that it leads nowhere.

As long as no file is at odds with the encoding itself, building is plain: files are read one after
another, and what each comes to depends on its own text and the list of files alone.
-/

namespace ImportAtlas

namespace Graph

variable {settings : Settings} {reader other : SourceReader} {files paths : List Text} {path : Text}
  {statement : Statement}

/-- Empty texts in place of those that cannot be had. -/
def emptied (reader : SourceReader) : SourceReader := fun path =>
  match reader path with
  | .ok content => .ok content
  | .error _ => .ok []

def statementsOf (settings : Settings) (reader : SourceReader) (path : Text) : List Statement :=
  match reader path with
  | .ok content => Statement.extract settings.includeReexports content
  | .error _ => []

/-- What a statement of a file comes to: an edge, or the record that it leads nowhere. -/
def finding (settings : Settings) (files : List Text) (path : Text) (statement : Statement) :
    Edge ⊕ LogRecord :=
  match target? settings files path statement with
  | some target => .inl ⟨path, target, statement.items⟩
  | none => .inr (untrackedRecord path statement.specifier)

def findingsOf (settings : Settings) (reader : SourceReader) (files : List Text) (path : Text) :
    List (Edge ⊕ LogRecord) :=
  (statementsOf settings reader path).map (finding settings files path)

/-- What all statements come to, file by file in the order in which the files are read. -/
def findings (settings : Settings) (reader : SourceReader) (files : List Text) :
    List (Edge ⊕ LogRecord) :=
  (byDirectory files).flatMap (findingsOf settings reader files)

def edgesAmong (findings : List (Edge ⊕ LogRecord)) : List Edge := findings.filterMap Sum.getLeft?

def recordsAmong (findings : List (Edge ⊕ LogRecord)) : List LogRecord :=
  findings.filterMap Sum.getRight?

/-- A statement is accounted for by an edge of its file to a listed file, with its items as label,
or by the record that it leads nowhere. -/
def AccountsFor (files : List Text) (path : Text) (statement : Statement) :
    Edge ⊕ LogRecord → Prop
  | .inl edge => edge.source = path ∧ edge.target ∈ files ∧ edge.label = statement.items
  | .inr record => record = untrackedRecord path statement.specifier

theorem accountsFor_finding (settings : Settings) (files : List Text) (path : Text)
    (statement : Statement) :
    AccountsFor files path statement (finding settings files path statement) := by
  unfold finding
  cases htarget : target? settings files path statement with
  | none => rfl
  | some target =>
      have hknown := List.find?_some htarget
      exact ⟨rfl, by simpa using hknown, rfl⟩

/-!
## What building comes to
-/

theorem edgesOf_eq (statements : List Statement) : edgesOf settings files path statements =
    edgesAmong (statements.map (finding settings files path)) := by
  unfold edgesOf edgesAmong
  rw [List.filterMap_map]
  apply List.filterMap_congr
  intro statement _
  simp only [Function.comp_apply, finding]
  cases target? settings files path statement <;> rfl

theorem untrackedRecords_eq (statements : List Statement) :
    untrackedRecords settings files path statements =
      recordsAmong (statements.map (finding settings files path)) := by
  unfold untrackedRecords recordsAmong
  rw [List.filterMap_map]
  apply List.filterMap_congr
  intro statement _
  simp only [Function.comp_apply, finding]
  cases target? settings files path statement <;> rfl

def skipReason (settings : Settings) (reader : SourceReader) (path : Text) : Text :=
  match reader path with
  | .error (.inaccessible fault) => fault.summary
  | .error (.undecodable (.undecodable failure)) =>
      "cannot decode as " ++ settings.encoding ++ " (" ++ failure.cause.message ++ ")"
  | _ => []

def skipRecords (settings : Settings) (reader : SourceReader) (path : Text) : List LogRecord :=
  if (reader path).isOk then [] else [skipRecord path (skipReason settings reader path)]

def fileRecords (settings : Settings) (reader : SourceReader) (files : List Text) (path : Text) :
    List LogRecord :=
  skipRecords settings reader path ++ recordsAmong (findingsOf settings reader files path)

theorem readOrSkip_eq (h : ¬ IsFatal reader path) : readOrSkip settings reader path =
    ⟨skipRecords settings reader path, .ok (reader path).toOption⟩ := by
  unfold readOrSkip skipRecords skipReason
  cases hread : reader path with
  | ok content => rfl
  | error fault =>
      cases fault with
      | inaccessible fault => rfl
      | undecodable fault =>
          cases fault with
          | undecodable failure => rfl
          | _ => exact absurd ⟨_, hread, fun _ heq => by cases heq⟩ h

theorem scanFile_eq (h : ¬ IsFatal reader path) : scanFile settings reader files path =
    ⟨fileRecords settings reader files path,
      .ok (edgesAmong (findingsOf settings reader files path))⟩ := by
  rw [scanFile, readOrSkip_eq h, Reported.bind_ok, fileRecords, findingsOf, statementsOf]
  cases reader path with
  | ok content => rw [← edgesOf_eq, ← untrackedRecords_eq]; rfl
  | error fault => rfl

theorem edgesAmong_append (found more : List (Edge ⊕ LogRecord)) :
    edgesAmong (found ++ more) = edgesAmong found ++ edgesAmong more :=
  List.filterMap_append

theorem scanFiles_eq (h : ∀ path ∈ paths, ¬ IsFatal reader path) :
    scanFiles settings reader files paths =
      ⟨paths.flatMap (fileRecords settings reader files),
        .ok (edgesAmong (paths.flatMap (findingsOf settings reader files)))⟩ := by
  induction paths with
  | nil => rfl
  | cons path paths ih =>
      rw [List.forall_mem_cons] at h
      rw [scanFiles, scanFile_eq h.left, ih h.right, Reported.bind_ok, Reported.bind_ok,
        Reported.pure_eq, List.append_nil, List.flatMap_cons, List.flatMap_cons, edgesAmong_append]

def groupRecords (settings : Settings) (reader : SourceReader) (files : List Text)
    (group : DirectoryGroup) : List LogRecord :=
  [scanRecord group] ++ group.files.flatMap (fileRecords settings reader files)

theorem scanGroups_eq {groups : List DirectoryGroup}
    (h : ∀ path ∈ grouped groups, ¬ IsFatal reader path) :
    scanGroups settings reader files groups =
      ⟨groups.flatMap (groupRecords settings reader files),
        .ok (edgesAmong ((grouped groups).flatMap (findingsOf settings reader files)))⟩ := by
  induction groups with
  | nil => rfl
  | cons group groups ih =>
      have hgrouped : grouped (group :: groups) = group.files ++ grouped groups := rfl
      rw [hgrouped, List.forall_mem_append] at h
      rw [scanGroups, scanFiles_eq h.left, ih h.right, hgrouped, List.flatMap_append,
        edgesAmong_append]
      simp [Reported.bind_ok, Reported.record, groupRecords]

def built (settings : Settings) (reader : SourceReader) (files : List Text) : Graph :=
  ⟨files, (ofFiles files).directories, edgesAmong (findings settings reader files)⟩

/-- Building reports directory by directory and comes to the edges among the findings. -/
theorem build_eq (h : ∀ path ∈ files, ¬ IsFatal reader path) : build settings reader files =
    ⟨(ofFiles files).directories.flatMap (groupRecords settings reader files) ++
        [summaryRecord (built settings reader files)],
      .ok (built settings reader files)⟩ := by
  have hgroups : ∀ path ∈ grouped (ofFiles files).directories, ¬ IsFatal reader path :=
    fun path hpath => h path ((byDirectory_perm files).mem_iff.mp hpath)
  rw [build, scanGroups_eq hgroups]
  simp only [files_ofFiles, Reported.bind_ok, Reported.record, Reported.pure_eq, List.append_nil]
  rfl

/-!
## Unreadable files count as empty
-/

theorem extract_nil (reexports : Bool) : Statement.extract reexports [] = [] := by
  cases reexports with
  | false => rfl
  | true => simp [Statement.extract, Statement.located, Statement.occurrences,
      Statement.occurrencesFrom]

theorem statementsOf_emptied (settings : Settings) (reader : SourceReader) (path : Text) :
    statementsOf settings (emptied reader) path = statementsOf settings reader path := by
  unfold statementsOf emptied
  cases reader path with
  | ok content => rfl
  | error fault => exact extract_nil settings.includeReexports

theorem not_isFatal_emptied (reader : SourceReader) (path : Text) :
    ¬ IsFatal (emptied reader) path := by
  rintro ⟨fault, hread, _⟩
  unfold emptied at hread
  split at hread <;> cases hread

theorem built_emptied (settings : Settings) (reader : SourceReader) (files : List Text) :
    built settings (emptied reader) files = built settings reader files := by
  have hfindings :
      findingsOf settings (emptied reader) files = findingsOf settings reader files := by
    funext path
    rw [findingsOf, findingsOf, statementsOf_emptied]
  rw [built, built, findings, findings, hfindings]

/-!
## What is reported
-/

theorem level_of_mem_recordsAmong {record : LogRecord}
    (h : record ∈ recordsAmong (findingsOf settings reader files path)) :
    record.level = .debug := by
  unfold recordsAmong findingsOf at h
  rw [List.filterMap_map, List.mem_filterMap] at h
  rcases h with ⟨statement, _, hrecord⟩
  have hfinding := accountsFor_finding settings files path statement
  simp only [Function.comp_apply, Sum.getRight?_eq_some_iff] at hrecord
  rw [hrecord] at hfinding
  rw [hfinding]
  rfl

theorem filter_warning_fileRecords :
    (fileRecords settings reader files path).filter (·.level = .warning) =
      skipRecords settings reader path := by
  have hnone : (recordsAmong (findingsOf settings reader files path)).filter
      (·.level = .warning) = [] := by
    rw [List.filter_eq_nil_iff]
    intro record hrecord
    simp [level_of_mem_recordsAmong hrecord]
  rw [fileRecords, List.filter_append, hnone, List.append_nil, skipRecords]
  split <;> rfl

theorem filter_debug_fileRecords :
    (fileRecords settings reader files path).filter (·.level = .debug) =
      recordsAmong (findingsOf settings reader files path) := by
  have hall : (recordsAmong (findingsOf settings reader files path)).filter
      (·.level = .debug) = recordsAmong (findingsOf settings reader files path) := by
    rw [List.filter_eq_self]
    intro record hrecord
    simp [level_of_mem_recordsAmong hrecord]
  rw [fileRecords, List.filter_append, hall, skipRecords]
  split <;> rfl

theorem flatMap_skipRecords (settings : Settings) (reader : SourceReader) (paths : List Text) :
    paths.flatMap (skipRecords settings reader) =
      (paths.filter fun path => !(reader path).isOk).map fun path =>
        skipRecord path (skipReason settings reader path) := by
  induction paths with
  | nil => rfl
  | cons path paths ih =>
      rw [List.flatMap_cons, ih, List.filter_cons, skipRecords]
      cases (reader path).isOk <;> rfl

theorem filter_warning_groupRecords (groups : List DirectoryGroup) :
    (groups.flatMap (groupRecords settings reader files)).filter (·.level = .warning) =
      (grouped groups).flatMap (skipRecords settings reader) := by
  have hgroup : ∀ group : DirectoryGroup,
      (groupRecords settings reader files group).filter (·.level = .warning) =
        group.files.flatMap (skipRecords settings reader) := by
    intro group
    have hscan : [scanRecord group].filter (·.level = .warning) = [] := rfl
    rw [groupRecords, List.filter_append, hscan, List.nil_append, List.filter_flatMap]
    simp only [filter_warning_fileRecords]
  rw [List.filter_flatMap, grouped, List.flatMap_assoc]
  simp only [hgroup]

theorem recordsAmong_append (found more : List (Edge ⊕ LogRecord)) :
    recordsAmong (found ++ more) = recordsAmong found ++ recordsAmong more :=
  List.filterMap_append

theorem filter_debug_groupRecords (groups : List DirectoryGroup) :
    ((groups.flatMap (groupRecords settings reader files)).filter (·.level = .debug)).Perm
      (groups.map scanRecord ++
        recordsAmong ((grouped groups).flatMap (findingsOf settings reader files))) := by
  have hgroup : ∀ group : DirectoryGroup,
      (groupRecords settings reader files group).filter (·.level = .debug) =
        scanRecord group :: recordsAmong (group.files.flatMap
          (findingsOf settings reader files)) := by
    intro group
    have hscan : [scanRecord group].filter (·.level = .debug) = [scanRecord group] := rfl
    rw [groupRecords, List.filter_append, hscan, List.filter_flatMap, recordsAmong,
      List.filterMap_flatMap]
    simp only [filter_debug_fileRecords]
    rfl
  induction groups with
  | nil => exact List.Perm.refl _
  | cons group groups ih =>
      have hgrouped : grouped (group :: groups) = group.files ++ grouped groups := rfl
      rw [hgrouped, List.flatMap_cons, List.filter_append, hgroup, List.map_cons,
        List.flatMap_append, recordsAmong_append, List.cons_append, List.cons_append]
      apply List.Perm.cons
      refine (ih.append_left _).trans ?_
      rw [← List.append_assoc, ← List.append_assoc]
      exact List.perm_append_comm.append_right _

theorem filter_warning_build (h : ∀ path ∈ files, ¬ IsFatal reader path) :
    ((build settings reader files).records.filter (·.level = .warning)).Perm
      ((files.filter fun path => !(reader path).isOk).map fun path =>
        skipRecord path (skipReason settings reader path)) := by
  have hsummary : [summaryRecord (built settings reader files)].filter (·.level = .warning) = [] :=
    rfl
  rw [build_eq h, List.filter_append, hsummary, List.append_nil, filter_warning_groupRecords,
    flatMap_skipRecords]
  exact ((byDirectory_perm files).filter _).map _

theorem filter_debug_build (h : ∀ path ∈ files, ¬ IsFatal reader path) :
    ((build settings reader files).records.filter (·.level = .debug)).Perm
      ((ofFiles files).directories.map scanRecord ++
        recordsAmong (findings settings reader files)) := by
  have hsummary : [summaryRecord (built settings reader files)].filter (·.level = .debug) = [] :=
    rfl
  rw [build_eq h, List.filter_append, hsummary, List.append_nil]
  exact filter_debug_groupRecords (ofFiles files).directories

/-!
## Every statement counts once

Files are read directory by directory, which is another order but takes each of them once.
-/

theorem length_edgesAmong_add (found : List (Edge ⊕ LogRecord)) :
    (edgesAmong found).length + (recordsAmong found).length = found.length := by
  induction found with
  | nil => rfl
  | cons first found ih =>
      cases first with
      | inl edge =>
          simp only [edgesAmong, recordsAmong, List.filterMap_cons, Sum.getLeft?_inl,
            Sum.getRight?_inl, List.length_cons] at ih ⊢
          omega
      | inr record =>
          simp only [edgesAmong, recordsAmong, List.filterMap_cons, Sum.getLeft?_inr,
            Sum.getRight?_inr, List.length_cons] at ih ⊢
          omega

theorem length_findings : (findings settings reader files).length =
    (files.flatMap (statementsOf settings reader)).length := by
  have hperm :=
    ((byDirectory_perm files).flatMap_right (findingsOf settings reader files)).length_eq
  rw [findings, hperm, List.length_flatMap, List.length_flatMap]
  simp only [findingsOf, List.length_map]

/-!
## One file does not matter to the others
-/

theorem source_of_mem_edgesAmong {edge : Edge}
    (h : edge ∈ edgesAmong (findingsOf settings reader files path)) : edge.source = path := by
  unfold edgesAmong findingsOf at h
  rw [List.filterMap_map, List.mem_filterMap] at h
  rcases h with ⟨statement, _, hedge⟩
  have hfinding := accountsFor_finding settings files path statement
  simp only [Function.comp_apply, Sum.getLeft?_eq_some_iff] at hedge
  rw [hedge] at hfinding
  exact hfinding.left

/-- The edges of all other files are the same, and in the same order. -/
theorem filter_edges_congr (h : ∀ place ≠ path, other place = reader place) :
    (built settings other files).edges.filter (·.source ≠ path) =
      (built settings reader files).edges.filter (·.source ≠ path) := by
  have hfile : ∀ place, (edgesAmong (findingsOf settings other files place)).filter
      (·.source ≠ path) = (edgesAmong (findingsOf settings reader files place)).filter
        (·.source ≠ path) := by
    intro place
    by_cases hplace : place = path
    · subst hplace
      have hnone : ∀ reader : SourceReader,
          (edgesAmong (findingsOf settings reader files place)).filter (·.source ≠ place) = [] := by
        intro reader
        rw [List.filter_eq_nil_iff]
        intro edge hedge
        simp [source_of_mem_edgesAmong hedge]
      rw [hnone, hnone]
    · rw [findingsOf, findingsOf, statementsOf, statementsOf, h place hplace]
  show (edgesAmong (findings settings other files)).filter _ =
    (edgesAmong (findings settings reader files)).filter _
  unfold edgesAmong at hfile ⊢
  rw [findings, findings]
  rw [List.filterMap_flatMap, List.filterMap_flatMap, List.filter_flatMap, List.filter_flatMap]
  exact List.flatMap_congr fun place _ => hfile place

/-- A graph and what is reported about it account for all files and all statements. -/
structure Accounts (settings : Settings) (reader : SourceReader) (files : List Text) (graph : Graph)
    (records : List LogRecord) : Prop where
  /-- Files that cannot be read count as empty. -/
  emptied : (build settings (emptied reader) files).outcome = .ok graph
  /-- There is one warning for each time that an unreadable file is listed. -/
  warned : ∃ reason : Text → Text, (records.filter (·.level = .warning)).Perm
    ((files.filter fun path => !(reader path).isOk).map fun path => skipRecord path (reason path))
  /-- What a statement comes to is an edge of its file or the record that it leads nowhere. -/
  accounted : ∀ path statement,
    AccountsFor files path statement (finding settings files path statement)
  /-- The edges are those that the statements come to. -/
  edges : graph.edges = edgesAmong (findings settings reader files)
  /-- Other than of directories, all that is said for debugging is that statements lead nowhere. -/
  ignored : (records.filter (·.level = .debug)).Perm
    (graph.directories.map scanRecord ++ recordsAmong (findings settings reader files))
  /-- No statement is lost, and none counts twice. -/
  balance : graph.edges.length + (recordsAmong (findings settings reader files)).length =
    (files.flatMap (statementsOf settings reader)).length
  /-- What is read of one file does not matter to the edges of all others. -/
  isolated : ∀ other path, (∀ file ∈ files, ¬ IsFatal other file) →
    (∀ place ≠ path, other place = reader place) →
    ∃ changed, (build settings other files).outcome = .ok changed ∧
      changed.edges.filter (·.source ≠ path) = graph.edges.filter (·.source ≠ path)

/-- Files that cannot be read are isolated from one another, and no statement is lost silently. -/
theorem build_isolates_unreadable_files (settings : Settings) (reader : SourceReader)
    (files : List Text) (h : ∀ path ∈ files, ¬ IsFatal reader path) :
    ∃ graph, (build settings reader files).outcome = .ok graph ∧
      Accounts settings reader files graph (build settings reader files).records := by
  refine ⟨built settings reader files, by rw [build_eq h], ?_⟩
  exact {
    emptied := by
      rw [build_eq fun path _ => not_isFatal_emptied reader path, built_emptied]
    warned := ⟨skipReason settings reader, filter_warning_build h⟩
    accounted := accountsFor_finding settings files
    edges := rfl
    ignored := filter_debug_build h
    balance := by
      rw [← length_findings]
      exact length_edgesAmong_add (findings settings reader files)
    isolated := by
      intro other path hother hsame
      exact ⟨built settings other files, by rw [build_eq hother], filter_edges_congr hsame⟩ }

def unevenFiles : List Text := ["a.ts", "lib/b.ts", "a.ts", "c.ts"]

def unevenReader : SourceReader := fun path =>
  if path = "a.ts" then .ok "import b from './lib/b'; import React from 'react'"
  else if path = "lib/b.ts" then
    .error (.undecodable (.undecodable ⟨"utf-8", 0, 1, 0xff, .invalidStart⟩))
  else .error (.inaccessible ⟨some 21, "Is a directory", some path⟩)

theorem build_unevenFiles :
    (∀ path ∈ unevenFiles, ¬ IsFatal unevenReader path) ∧
    ∃ graph, (build Settings.standard unevenReader unevenFiles).outcome = .ok graph ∧
      graph.edges = [⟨"a.ts", "lib/b.ts", "b"⟩, ⟨"a.ts", "lib/b.ts", "b"⟩] ∧
      Accounts Settings.standard unevenReader unevenFiles graph
        (build Settings.standard unevenReader unevenFiles).records := by
  have hsafe : ∀ path ∈ unevenFiles, ¬ IsFatal unevenReader path := by
    rintro path - ⟨fault, hread, hfatal⟩
    unfold unevenReader at hread
    split_ifs at hread <;> cases hread
    exact hfatal _ rfl
  rcases build_isolates_unreadable_files Settings.standard unevenReader unevenFiles hsafe with
    ⟨graph, hgraph, haccounts⟩
  have hedges : graph.edges = [⟨"a.ts", "lib/b.ts", "b"⟩, ⟨"a.ts", "lib/b.ts", "b"⟩] := by
    rw [haccounts.edges]
    rfl
  exact ⟨hsafe, graph, hgraph, hedges, haccounts⟩

end Graph

end ImportAtlas
