import ImportAtlas.Proofs.FileTree.Named
import ImportAtlas.Proofs.Graph.Relative
import ImportAtlas.Proofs.Path.Inside

/-!
# Imports of directories

A specifier may name a directory.  The path of the directory is completed with an extension or with
the name of an index file, and a file is found when this spells it as it is listed.  Below the place
where paths are read it does.  The directory there is called `.`, and its index file is looked for
behind a point and a slash, where no file is listed.  So the index file of that directory is reached
from nowhere.
-/

namespace ImportAtlas

namespace Specifier

open ImportAtlas.Path

variable {known extensions : List Text} {path source specifier directory : Text}

/-- A relative specifier in a file leads to a directory, component by component. -/
def Denotes (source specifier directory : Text) : Prop :=
  Text.startsWith "." specifier = true ∧
    ∃ base : NormalPath, base.IsReduced ∧ base.toText = source ∧
      (base.directory.follow specifier).toText = directory

theorem Denotes.path_eq (h : Denotes source specifier directory) :
    Specifier.path source specifier = directory := by
  rcases h with ⟨hrelative, base, hbase, hsource, hdirectory⟩
  rw [← hsource, path_toText hbase hrelative, hdirectory]

/-- Where neither the path nor the path with an extension is known, the index files are left. -/
theorem resolve?_of_unlisted (hpath : path ∉ known)
    (hcompleted : ∀ ext ∈ extensions, path ++ ext ∉ known) :
    resolve? known extensions path =
      (extensions.map fun ext => join path ("index" ++ ext)).find? (known.contains ·) := by
  have hskipped : (path :: extensions.map (path ++ ·)).find? (known.contains ·) = none := by
    rw [List.find?_eq_none]
    intro name hname
    rw [List.contains_iff_mem]
    rcases List.mem_cons.mp hname with heq | hname
    · rw [heq]
      exact hpath
    · rcases List.mem_map.mp hname with ⟨ext, hext, heq⟩
      rw [← heq]
      exact hcompleted ext hext
  unfold resolve? candidates
  rw [List.find?_append, hskipped, Option.none_or]

theorem find?_index_eq_none
    (h : ∀ ext ∈ extensions, join path ("index" ++ ext) ∉ known) :
    (extensions.map fun ext => join path ("index" ++ ext)).find? (known.contains ·) = none := by
  rw [List.find?_eq_none]
  intro name hname
  rw [List.contains_iff_mem]
  rcases List.mem_map.mp hname with ⟨ext, hext, heq⟩
  rw [← heq]
  exact h ext hext

end Specifier

namespace Graph

variable {settings : Settings} {reader : SourceReader} {files : List Text}
  {ext source specifier target content : Text} {statement : Statement}

/-- A listed file is the index of its directory with an extension, and an import of the directory
finds none of the files that come before it. -/
structure IsFirstIndex (extensions files : List Text) (ext target : Text) : Prop where
  listed : target ∈ files
  named : Path.fileName target = "index" ++ ext
  bare : Path.directoryOrHere target ∉ files
  completed : ∀ other ∈ extensions, Path.directoryOrHere target ++ other ∉ files
  first : ∃ before after, extensions = before ++ ext :: after ∧
    ∀ other ∈ before, Path.underRoot (Path.directoryOrHere target) ("index" ++ other) ∉ files

theorem resolve?_index {extensions : List Text}
    (hfiles : ∀ file ∈ files, Path.normalize file = file)
    (hindex : IsFirstIndex extensions files ext target) :
    Specifier.resolve? files extensions (Path.directoryOrHere target) =
      if Path.directoryOrHere target = "." then none else some target := by
  have hnormal := hfiles target hindex.listed
  have hunder := Path.underRoot_of_normal (Path.normalize_directoryOrHere hnormal)
  rw [Specifier.resolve?_of_unlisted hindex.bare hindex.completed]
  split
  case isTrue hhere =>
    apply Specifier.find?_index_eq_none
    intro other _ hlisted
    rw [hhere] at hlisted
    exact Path.normalize_join_here rfl (hfiles _ hlisted)
  case isFalse hthere =>
    rcases hindex.first with ⟨before, after, hextensions, hfirst⟩
    have hbefore : ∀ other ∈ before,
        Path.join (Path.directoryOrHere target) ("index" ++ other) ∉ files := by
      intro other hother hlisted
      have hsame := hfiles _ hlisted
      rw [← hunder] at hsame
      exact hfirst other hother (hsame ▸ hlisted)
    have htarget : Path.join (Path.directoryOrHere target) ("index" ++ ext) = target := by
      rw [← hindex.named]
      exact Path.join_directoryOrHere_fileName hnormal hthere
    have hknown : files.contains
        (Path.join (Path.directoryOrHere target) ("index" ++ ext)) = true := by
      rw [htarget, List.contains_iff_mem]
      exact hindex.listed
    rw [hextensions, List.map_append, List.find?_append, Specifier.find?_index_eq_none hbefore,
      Option.none_or, List.map_cons, List.find?_cons_of_pos hknown, htarget]

/-- An import of a directory becomes an edge to the index file there, except in the directory where
paths are read, where it becomes none. -/
theorem build_directory_import (hresolve : settings.resolveExtensions = true)
    (hfiles : ∀ file ∈ files, Path.normalize file = file)
    (hindex : IsFirstIndex settings.extensions files ext target) (hsource : source ∈ files)
    (hdenotes : Specifier.Denotes source specifier (Path.directoryOrHere target))
    (hsafe : ∀ path ∈ files, ¬ IsFatal reader path) (hread : reader source = .ok content)
    (hstatement : statement ∈ Statement.extract settings.includeReexports content)
    (hspecifier : statement.specifier = specifier) :
    ∃ graph, (build settings reader files).outcome = .ok graph ∧
      graph.edges =
        (importsOf settings reader (byDirectory files)).filterMap (edge? settings files) ∧
      ⟨source, statement⟩ ∈ importsOf settings reader (byDirectory files) ∧
      edge? settings files ⟨source, statement⟩ =
        if Path.directoryOrHere target = "." then none
        else some ⟨source, target, statement.items⟩ := by
  have hfound := mem_importsOf_byDirectory hsource hread hstatement
  have htarget : target? settings files source statement =
      if Path.directoryOrHere target = "." then none else some target := by
    rw [target?, optionalExtensions, if_pos hresolve, hspecifier, hdenotes.path_eq]
    exact resolve?_index hfiles hindex
  refine ⟨_, outcome_build_eq_ok_iff.mpr ⟨hsafe, rfl⟩, edges_built settings reader files, hfound,
    ?_⟩
  unfold edge?
  rw [htarget]
  split <;> rfl

def flatFiles : List Text := ["a.ts", "index.ts"]

def flatReader : SourceReader := fun path =>
  if path = "a.ts" then .ok "import x from '.'" else .ok ""

theorem isFirstIndex_flatFiles :
    IsFirstIndex Settings.standard.extensions flatFiles ".ts" "index.ts" where
  listed := by decide
  named := rfl
  bare := by decide
  completed := by decide
  first := ⟨[], [".js"], rfl, by decide⟩

theorem denotes_flatFiles : Specifier.Denotes "a.ts" "." "." := by
  have hplain : ∀ name ∈ [Text.ofString "a.ts"], Path.IsPlain name := by decide
  exact ⟨rfl, ⟨[], 0, ["a.ts"]⟩, NormalPath.isReduced_relative 0 hplain, rfl, rfl⟩

theorem build_flatFiles :
    (build Settings.standard flatReader flatFiles).outcome =
      .ok ⟨flatFiles, [⟨".", flatFiles⟩], []⟩ := by
  rfl

theorem not_all_directory_imports_reach_index :
    ¬ ∀ settings reader files ext target source specifier content statement,
      settings.resolveExtensions = true → (∀ file ∈ files, Path.normalize file = file) →
      IsFirstIndex settings.extensions files ext target → source ∈ files →
      Specifier.Denotes source specifier (Path.directoryOrHere target) →
      (∀ path ∈ files, ¬ IsFatal reader path) → reader source = .ok content →
      statement ∈ Statement.extract settings.includeReexports content →
      statement.specifier = specifier →
      ∃ graph, (build settings reader files).outcome = .ok graph ∧
        ⟨source, target, statement.items⟩ ∈ graph.edges := by
  intro hreach
  have hfound : (⟨.importing, "x", "."⟩ : Statement) ∈
      Statement.extract Settings.standard.includeReexports (Text.ofString "import x from '.'") := by
    decide
  have hedge := hreach Settings.standard flatReader flatFiles ".ts" "index.ts" "a.ts" "." _ _ rfl
    (by decide) isFirstIndex_flatFiles (by decide) denotes_flatFiles
    (firstFault?_eq_none_iff.mp rfl) rfl hfound rfl
  rcases hedge with ⟨graph, hbuild, hmem⟩
  rw [build_flatFiles] at hbuild
  cases hbuild
  cases hmem

def nestedFiles : List Text := ["src/app.ts", "src/lib/index.js"]

def nestedReader : SourceReader := fun path =>
  if path = "src/app.ts" then .ok "import lib from './lib/'" else .ok ""

theorem isFirstIndex_nestedFiles :
    IsFirstIndex Settings.standard.extensions nestedFiles ".js" "src/lib/index.js" where
  listed := by decide
  named := rfl
  bare := by decide
  completed := by decide
  first := ⟨[".ts"], [], rfl, by decide⟩

theorem denotes_nestedFiles : Specifier.Denotes "src/app.ts" "./lib/" "src/lib" := by
  have hplain : ∀ name ∈ [Text.ofString "src", Text.ofString "app.ts"], Path.IsPlain name := by
    decide
  exact ⟨rfl, ⟨[], 0, ["src", "app.ts"]⟩, NormalPath.isReduced_relative 0 hplain, rfl, rfl⟩

theorem build_nestedFiles :
    (∀ file ∈ nestedFiles, Path.normalize file = file) ∧
      IsFirstIndex Settings.standard.extensions nestedFiles ".js" "src/lib/index.js" ∧
      Specifier.Denotes "src/app.ts" "./lib/" "src/lib" ∧
      ∃ graph, (build Settings.standard nestedReader nestedFiles).outcome = .ok graph ∧
        graph.edges = [⟨"src/app.ts", "src/lib/index.js", "lib"⟩] ∧
        edge? Settings.standard nestedFiles
          ⟨"src/app.ts", ⟨.importing, "lib", "./lib/"⟩⟩ =
            some ⟨"src/app.ts", "src/lib/index.js", "lib"⟩ := by
  have hnormal : ∀ file ∈ nestedFiles, Path.normalize file = file := by decide
  have hread : nestedReader "src/app.ts" = .ok "import lib from './lib/'" := rfl
  have hfound : (⟨.importing, "lib", "./lib/"⟩ : Statement) ∈
      Statement.extract Settings.standard.includeReexports
        (Text.ofString "import lib from './lib/'") := by
    decide
  have hspecifier : (⟨.importing, "lib", "./lib/"⟩ : Statement).specifier = "./lib/" := rfl
  rcases build_directory_import rfl hnormal isFirstIndex_nestedFiles (by decide)
      denotes_nestedFiles (firstFault?_eq_none_iff.mp rfl) hread hfound hspecifier with
    ⟨graph, hbuild, _, _, hedge⟩
  have hgraph : (build Settings.standard nestedReader nestedFiles).outcome =
      .ok ⟨nestedFiles, [⟨"src", ["src/app.ts"]⟩, ⟨"src/lib", ["src/lib/index.js"]⟩],
        [⟨"src/app.ts", "src/lib/index.js", "lib"⟩]⟩ := by
    rfl
  rw [hbuild] at hgraph
  cases hgraph
  exact ⟨hnormal, isFirstIndex_nestedFiles, denotes_nestedFiles, _, hbuild, rfl, hedge⟩

end Graph

end ImportAtlas
