import ImportAtlas.Proofs.Discovery.Handover
import ImportAtlas.Proofs.Discovery.Places
import ImportAtlas.Proofs.Discovery.Spelling
import Mathlib

/-!
# Tracked files among the walked ones

The walk spells a file directory by directory, while a tracked file is spelled in one step from its
path below the root, and the two are compared as texts.  Both spellings are the same for the same
names and different for different ones, so the comparison keeps just the walked files whose names
are listed, in the order of the walk.  When nothing is known about tracked files, all are kept.

The listing has been handed over with its line endings unified, though.  So a tracked file with a
carriage return in its path is lost, and one that has a line feed there is found in its place.
-/

namespace ImportAtlas

namespace GitAnswer

/-- The output lists the paths, each written in bytes and ended by a zero. -/
def Lists (output : List UInt8) (listed : List Text) : Prop :=
  ∃ names : List (List UInt8), (∀ name ∈ names, name ≠ [] ∧ 0 ∉ name) ∧
    output = names.flatMap (· ++ [0]) ∧ listed = names.map Utf8.decodeName

/-- Git cannot tell which files are tracked. -/
def IsSilent : GitAnswer → Prop
  | .missing => True
  | .finished code _ _ => code ≠ 0

theorem Lists.listedPaths {output : List UInt8} {listed : List Text} (h : Lists output listed) :
    listedPaths output = listed := by
  rcases h with ⟨names, hnames, rfl, rfl⟩
  induction names with
  | nil => rfl
  | cons name names ih =>
      rcases hnames name (by simp) with ⟨hne, hzero⟩
      have hmore := ih fun other hother => hnames other (by simp [hother])
      have hbytes : (name :: names).flatMap (· ++ [0]) =
          name ++ 0 :: names.flatMap (· ++ [0]) := by
        simp
      unfold GitAnswer.listedPaths at hmore ⊢
      rw [hbytes, Utf8.decodeName_append (by decide)]
      show (Text.splitOn (CodePoint.ofNat 0) (_ ++ CodePoint.ofNat 0 :: _)).filter _ = _
      rw [Text.splitOn_append_sep, List.filter_append, hmore,
        Text.splitOn_of_not_mem (Utf8.zero_not_mem_decodeName hzero)]
      simp [Utf8.decodeName_ne_nil hne]

end GitAnswer

namespace Discovery

variable {tree : FileTree} {root : Text}

theorem contains_spellPlace_iff {listed : List Text} (hlisted : ∀ path ∈ listed, Path.IsLocal path)
    {node : Node} {place : Location} (hplace : node.HasPlace place) :
    (listed.map (Path.underRoot root)).contains (Node.spellPlace root place) = true ↔
      Text.join "/" place ∈ listed := by
  rw [List.contains_iff_mem, List.mem_map]
  constructor
  · rintro ⟨path, hpath, hsame⟩
    rcases hlisted path hpath with ⟨hne, names, hplain, rfl⟩
    have hnames : names ≠ [] := by
      intro hnil
      rw [hnil] at hne
      exact hne rfl
    have heq := (Path.underRoot_spell_inj hplain hnames hplace.right.left hplace.left).mp hsame
    rw [← heq]
    exact hpath
  · intro hpath
    exact ⟨_, hpath, rfl⟩

theorem filter_walk_spellPlace {listed : List Text} {places : List Location}
    (hlisted : ∀ path ∈ listed, Path.IsLocal path)
    (hplaces : ∀ place ∈ places, ∃ node : Node, node.HasPlace place) :
    (places.map (Node.spellPlace root)).filter ((listed.map (Path.underRoot root)).contains ·) =
      (places.filter fun place => Text.join "/" place ∈ listed).map (Node.spellPlace root) := by
  rw [List.filter_map]
  congr 1
  apply List.filter_congr
  intro place hplace
  rcases hplaces place hplace with ⟨node, hnode⟩
  rw [Bool.eq_iff_iff, decide_eq_true_eq]
  exact contains_spellPlace_iff hlisted hnode

/-!
## Paths with line endings
-/

/-- No place with a listed path has a carriage return there, and none has the unified path of
another that is listed. -/
def KeepsPaths (places : List Location) (listed : List Text) : Prop :=
  ∀ place ∈ places,
    (Text.join "/" place ∈ listed → CodePoint.ofChar '\r' ∉ Text.join "/" place) ∧
      ∀ path ∈ listed, Text.unifyNewlines path = Text.join "/" place → Text.join "/" place ∈ listed

theorem keepsPaths_iff {places : List Location} {listed : List Text} :
    KeepsPaths places listed ↔ ∀ place ∈ places,
      (Text.join "/" place ∈ listed.map Text.unifyNewlines ↔ Text.join "/" place ∈ listed) := by
  refine forall₂_congr fun place _ => ?_
  constructor
  · rintro ⟨hkept, hadded⟩
    constructor
    · intro hmem
      rcases List.mem_map.mp hmem with ⟨path, hpath, hunified⟩
      exact hadded path hpath hunified
    · intro hmem
      exact List.mem_map.mpr ⟨_, hmem, Text.unifyNewlines_of_not_mem (hkept hmem)⟩
  · intro hsame
    constructor
    · intro hmem
      rcases List.mem_map.mp (hsame.mpr hmem) with ⟨path, _, hunified⟩
      rw [← hunified]
      exact Text.return_not_mem_unifyNewlines path
    · intro path hpath hunified
      exact hsame.mp (List.mem_map.mpr ⟨path, hpath, hunified⟩)

theorem spellPlace_inj {node other : Node} {place place' : Location} (hplace : node.HasPlace place)
    (hplace' : other.HasPlace place')
    (h : Node.spellPlace root place = Node.spellPlace root place') : place = place' :=
  (Path.underRoot_spell_inj hplace.right.left hplace.left hplace'.right.left hplace'.left).mp h

/-- Two choices among the places of a walk are spelled alike only when they are the same. -/
theorem map_filter_spellPlace_eq_iff {places : List Location}
    (hplaces : ∀ place ∈ places, ∃ node : Node, node.HasPlace place) {p q : Location → Bool} :
    (places.filter p).map (Node.spellPlace root) = (places.filter q).map (Node.spellPlace root) ↔
      ∀ place ∈ places, p place = q place := by
  have hmem (r : Location → Bool) {place : Location} (hplace : place ∈ places) :
      Node.spellPlace root place ∈ (places.filter r).map (Node.spellPlace root) ↔
        r place = true := by
    rw [List.mem_map]
    constructor
    · rintro ⟨other, hother, hsame⟩
      rcases List.mem_filter.mp hother with ⟨hother, hr⟩
      rcases hplaces place hplace with ⟨_, hnode⟩
      rcases hplaces other hother with ⟨_, hnode'⟩
      rwa [← spellPlace_inj hnode' hnode hsame]
    · intro hr
      exact ⟨place, List.mem_filter.mpr ⟨hplace, hr⟩, rfl⟩
  constructor
  · intro hsame place hplace
    rw [Bool.eq_iff_iff, ← hmem p hplace, ← hmem q hplace, hsame]
  · intro hsame
    rw [List.filter_congr hsame]

/-!
## Source files
-/

structure SelectsTracked (tree : FileTree) (root : Text) (settings : Settings) : Prop where
  /-- The walk lists places of files below the root. -/
  walked : tree.walk (walkRule settings) root =
    (tree.places (walkRule settings) root).map (Node.spellPlace root)
  placed : ∀ place ∈ tree.places (walkRule settings) root, ∃ location node,
    tree.entry root = .ok (location, node) ∧ node.HasPlace place
  /-- When git is not asked or cannot tell, all of them are. -/
  unfiltered : ∀ (git : GitAnswer) (files : List Text),
    tree.walkFiles (walkRule settings) root = .ok files →
    settings.useGit = false ∨ tree.host.gitFault? root = none ∧ git.IsSilent →
      (sourceFiles tree settings git root).outcome = .ok files
  /-- When git lists paths, those are whose path is listed, once line endings are unified. -/
  filtered : ∀ (files : List Text) (output errors : List UInt8) (listed : List Text),
    tree.walkFiles (walkRule settings) root = .ok files → settings.useGit = true →
    tree.host.gitFault? root = none → GitAnswer.Lists output listed →
    (∀ path ∈ listed, Path.IsLocal path) →
      (sourceFiles tree settings (.ofPrinted 0 output errors) root).outcome =
        .ok (((tree.places (walkRule settings) root).filter
          fun place => Text.join "/" place ∈ listed.map Text.unifyNewlines).map
            (Node.spellPlace root))
  /-- Those are just the ones that are listed as long as line endings do not matter. -/
  exact_iff : ∀ (files : List Text) (output errors : List UInt8) (listed : List Text),
    tree.walkFiles (walkRule settings) root = .ok files → settings.useGit = true →
    tree.host.gitFault? root = none → GitAnswer.Lists output listed →
    (∀ path ∈ listed, Path.IsLocal path) →
      ((sourceFiles tree settings (.ofPrinted 0 output errors) root).outcome =
          .ok (((tree.places (walkRule settings) root).filter
            fun place => Text.join "/" place ∈ listed).map (Node.spellPlace root)) ↔
        KeepsPaths (tree.places (walkRule settings) root) listed)
  /-- When git is there and cannot be started, nothing is found. -/
  stopped : ∀ (git : GitAnswer) (files : List Text) (fault : SystemFault),
    tree.walkFiles (walkRule settings) root = .ok files → settings.useGit = true →
    tree.host.gitFault? root = some fault →
      (sourceFiles tree settings git root).outcome = .error (.inaccessible fault)

theorem trackedFiles_ofPrinted {output errors : List UInt8} {listed : List Text}
    (h : GitAnswer.Lists output listed) :
    ((GitAnswer.ofPrinted 0 output errors).trackedFiles root).1 =
      some ((listed.map Text.unifyNewlines).map (Path.underRoot root)) := by
  simp [GitAnswer.ofPrinted, GitAnswer.trackedFiles, GitAnswer.listedPaths_unifyNewlines,
    h.listedPaths]

theorem trackedFiles_of_isSilent {git : GitAnswer} (h : git.IsSilent) :
    (git.trackedFiles root).1 = none := by
  cases git with
  | missing => rfl
  | finished code output errors => simp [GitAnswer.trackedFiles, show code ≠ 0 from h]

section Asking

variable {settings : Settings} {git : GitAnswer} {files : List Text}

theorem outcome_of_unasked (hroot : tree.NamesDirectory root)
    (hfiles : tree.walkFiles (walkRule settings) root = .ok files)
    (hgit : settings.useGit = false) :
    (sourceFiles tree settings git root).outcome = .ok files := by
  rw [outcome_sourceFiles_eq, hroot.checkRoot, hfiles, hgit]
  rfl

theorem outcome_of_started (hroot : tree.NamesDirectory root)
    (hfiles : tree.walkFiles (walkRule settings) root = .ok files)
    (hgit : settings.useGit = true) (hstarted : tree.host.gitFault? root = none) :
    (sourceFiles tree settings git root).outcome = (selectTracked files git root).outcome := by
  rw [outcome_sourceFiles_eq, hroot.checkRoot, hfiles, hgit, hstarted]
  rfl

theorem outcome_of_stopped {fault : SystemFault} (hroot : tree.NamesDirectory root)
    (hfiles : tree.walkFiles (walkRule settings) root = .ok files)
    (hgit : settings.useGit = true) (hstopped : tree.host.gitFault? root = some fault) :
    (sourceFiles tree settings git root).outcome = .error (.inaccessible fault) := by
  rw [outcome_sourceFiles_eq, hroot.checkRoot, hfiles, hgit, hstopped]
  rfl

theorem exists_hasPlace (htree : tree.root.IsNamed) {place : Location}
    (hplace : place ∈ tree.places (walkRule settings) root) : ∃ node : Node, node.HasPlace place := by
  rcases FileTree.hasPlace_of_mem_places htree hplace with ⟨_, node, _, hnode⟩
  exact ⟨node, hnode⟩

theorem outcome_ofPrinted {output errors : List UInt8} {listed : List Text}
    (htree : tree.root.IsNamed) (hroot : tree.NamesDirectory root)
    (hfiles : tree.walkFiles (walkRule settings) root = .ok files)
    (hgit : settings.useGit = true) (hstarted : tree.host.gitFault? root = none)
    (hlists : GitAnswer.Lists output listed) (hlisted : ∀ path ∈ listed, Path.IsLocal path) :
    (sourceFiles tree settings (.ofPrinted 0 output errors) root).outcome =
      .ok (((tree.places (walkRule settings) root).filter
        fun place => Text.join "/" place ∈ listed.map Text.unifyNewlines).map
          (Node.spellPlace root)) := by
  have hunified : ∀ path ∈ listed.map Text.unifyNewlines, Path.IsLocal path := by
    intro path hpath
    rcases List.mem_map.mp hpath with ⟨printed, hprinted, rfl⟩
    exact (hlisted printed hprinted).unifyNewlines
  rw [outcome_of_started hroot hfiles hgit hstarted, outcome_selectTracked,
    trackedFiles_ofPrinted hlists, eq_walk_of_walkFiles hfiles,
    FileTree.walk_eq_map_places htree hroot,
    ← filter_walk_spellPlace hunified fun place hplace => exists_hasPlace htree hplace]
  rfl

end Asking

/-- Of the walked files those are kept whose path below the root is listed as tracked once line
endings are unified, in the order of the walk, and all of them when git cannot tell or is not asked.
-/
theorem selectsTracked (htree : tree.root.IsNamed) (hroot : tree.NamesDirectory root)
    (settings : Settings) : SelectsTracked tree root settings where
  walked := FileTree.walk_eq_map_places htree hroot
  placed place hplace := FileTree.hasPlace_of_mem_places htree hplace
  unfiltered := by
    rintro git files hfiles (hgit | ⟨hstarted, hsilent⟩)
    · exact outcome_of_unasked hroot hfiles hgit
    · cases hgit : settings.useGit with
      | false => exact outcome_of_unasked hroot hfiles hgit
      | true =>
          rw [outcome_of_started hroot hfiles hgit hstarted, outcome_selectTracked,
            trackedFiles_of_isSilent hsilent]
          rfl
  filtered _ _ _ _ hfiles hgit hstarted hlists hlisted :=
    outcome_ofPrinted htree hroot hfiles hgit hstarted hlists hlisted
  exact_iff := by
    intro files output errors listed hfiles hgit hstarted hlists hlisted
    rw [outcome_ofPrinted htree hroot hfiles hgit hstarted hlists hlisted, Except.ok.injEq,
      map_filter_spellPlace_eq_iff fun place hplace => exists_hasPlace htree hplace,
      keepsPaths_iff]
    simp
  stopped _ _ _ hfiles hgit hstopped := outcome_of_stopped hroot hfiles hgit hstopped

def sampleTree : FileTree where
  root := .directory [("home", .directory [("repo", .directory
    [("b.ts", .file []), ("lib", .directory [("notes.md", .file []), ("c.ts", .file [])]),
      ("a.ts", .file [])])])]
  here := ["home"]

def sampleRoot : Text := "./repo//lib/../"

def sampleListed : List Text := ["lib/c.ts", "README.md", "a.ts"]

def sampleOutput : List UInt8 := sampleListed.flatMap fun path => Utf8.encodeName path ++ [0]

theorem isNamed_sampleTree : sampleTree.root.IsNamed := by
  simp only [sampleTree, Node.IsNamed, Node.EveryListing, Node.EveryListingBelow]
  decide

theorem namesDirectory_sampleRoot : sampleTree.NamesDirectory sampleRoot where
  isPath := by decide
  exists_entry := ⟨_, _, by cbv⟩
  seen := rfl

theorem lists_sampleOutput : GitAnswer.Lists sampleOutput sampleListed :=
  ⟨sampleListed.map Utf8.encodeName, by decide, by decide, by decide⟩

theorem isLocal_of_mem_sampleListed : ∀ path ∈ sampleListed, Path.IsLocal path := by
  simp only [Path.isLocal_iff, Path.isCanonical_iff]
  decide

theorem sourceFiles_sampleTree :
    sampleTree.root.IsNamed ∧ sampleTree.NamesDirectory sampleRoot ∧
      GitAnswer.Lists sampleOutput sampleListed ∧ (∀ path ∈ sampleListed, Path.IsLocal path) ∧
      (sourceFiles sampleTree Settings.standard (.ofPrinted 0 sampleOutput []) sampleRoot).outcome =
        .ok ["repo/a.ts", "repo/lib/c.ts"] ∧
      (sourceFiles sampleTree Settings.standard .missing sampleRoot).outcome =
        .ok ["repo/a.ts", "repo/b.ts", "repo/lib/c.ts"] := by
  have hplaces : sampleTree.places (walkRule Settings.standard) sampleRoot =
      [[Text.ofString "a.ts"], [Text.ofString "b.ts"],
        [Text.ofString "lib", Text.ofString "c.ts"]] := by
    cbv
  have hselects := selectsTracked isNamed_sampleTree namesDirectory_sampleRoot Settings.standard
  have hfiles : sampleTree.walkFiles (walkRule Settings.standard) sampleRoot =
      .ok (sampleTree.walk (walkRule Settings.standard) sampleRoot) := rfl
  refine ⟨isNamed_sampleTree, namesDirectory_sampleRoot, lists_sampleOutput,
    isLocal_of_mem_sampleListed, ?_, ?_⟩
  · rw [hselects.filtered _ _ _ _ hfiles rfl rfl lists_sampleOutput isLocal_of_mem_sampleListed,
      hplaces]
    decide
  · rw [hselects.unfiltered .missing _ hfiles (Or.inr ⟨rfl, trivial⟩), hselects.walked, hplaces]
    decide

/-!
### A name with a carriage return

Of two files whose names differ in the ending of a line the one is tracked, and the other is found.
-/

def returnName : Text := "a\r.ts"

def lineFeedName : Text := "a\n.ts"

def twinTree : FileTree where
  root := .directory [(returnName, .file []), (lineFeedName, .file [])]
  here := []

theorem isNamed_twinTree : twinTree.root.IsNamed := by
  simp only [twinTree, Node.IsNamed, Node.EveryListing, Node.EveryListingBelow]
  decide

theorem namesDirectory_twinTree : twinTree.NamesDirectory "." where
  isPath := by decide
  exists_entry := ⟨_, _, by cbv⟩
  seen := rfl

theorem lists_returnName : GitAnswer.Lists (Utf8.encodeName returnName ++ [0]) [returnName] :=
  ⟨[Utf8.encodeName returnName], by decide, by decide, by decide⟩

/-- Not all tracked files are found, and files are found that are not tracked. -/
theorem not_all_tracked_files_found : ¬ ∀ (tree : FileTree) (root : Text) (settings : Settings)
    (files : List Text) (output errors : List UInt8) (listed : List Text),
    tree.root.IsNamed → tree.NamesDirectory root →
    tree.walkFiles (walkRule settings) root = .ok files → settings.useGit = true →
    tree.host.gitFault? root = none → GitAnswer.Lists output listed →
    (∀ path ∈ listed, Path.IsLocal path) →
      (sourceFiles tree settings (.ofPrinted 0 output errors) root).outcome =
        .ok (((tree.places (walkRule settings) root).filter
          fun place => Text.join "/" place ∈ listed).map (Node.spellPlace root)) := by
  intro hall
  have hlocal : ∀ path ∈ [returnName], Path.IsLocal path := by
    simp only [Path.isLocal_iff, Path.isCanonical_iff]
    decide
  have hfiles : twinTree.walkFiles (walkRule Settings.standard) "." =
      .ok (twinTree.walk (walkRule Settings.standard) ".") := rfl
  have hselects := selectsTracked isNamed_twinTree namesDirectory_twinTree Settings.standard
  have hkeeps := (hselects.exact_iff _ _ [] _ hfiles rfl rfl lists_returnName hlocal).mp
    (hall _ _ _ _ _ _ _ isNamed_twinTree namesDirectory_twinTree hfiles rfl rfl lists_returnName
      hlocal)
  have hplaces : twinTree.places (walkRule Settings.standard) "." =
      [[lineFeedName], [returnName]] := by
    cbv
  rw [hplaces] at hkeeps
  exact absurd ((hkeeps [returnName] (by simp)).left (by simp [Text.join])) (by decide)

end Discovery

end ImportAtlas
