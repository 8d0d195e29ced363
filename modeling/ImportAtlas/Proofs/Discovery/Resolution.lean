import ImportAtlas.Proofs.Discovery.Listing
import ImportAtlas.Proofs.Encoding.CodePointBytes
import ImportAtlas.Proofs.FileTree.Onward
import ImportAtlas.Proofs.FileTree.Stored
import ImportAtlas.Proofs.Path.Destination

/-!
# Where the paths of walked files lead

The walk follows its root as the system does, while the paths that it lists begin with the normal
spelling of the root, which no longer shows what is taken away by `..`.  Where that spelling leads to
the same directory, each path leads to the entry that the walk has come by, as long as the system
takes so long a path.
-/

namespace ImportAtlas

open ImportAtlas.Path

namespace FileTree

/-!
## Paths of files
-/

variable {tree : FileTree} {root : Text} {rule : WalkRule} {file : FilePlace} {location : Location}

/-- The path of a file that is read from the working directory leads to the entry that the walk has
come by: the one that the names of the file lead to from the directory to which the root leads. -/
def LeadsToFile (tree : FileTree) (root : Text) (file : FilePlace) : Prop :=
  ∃ location node entry, tree.entry root = .ok (location, node) ∧
    node.get? file.toLocation = some entry ∧
    tree.place .name (file.spell root) = .ok (.entry (location ++ file.toLocation) entry)

theorem spell_eq_stem_append (hroot : root ≠ [])
    (hplain : ∀ name ∈ file.toLocation, IsPlain name) : file.spell root =
      stem (Path.root root) (destination root) ++ spell [] file.toLocation := by
  have hne : file.toLocation ≠ [] := by simp [FilePlace.toLocation]
  rw [spell_eq_spellPlace hroot hplain]
  show underRoot root (spell [] file.toLocation) = _
  rw [underRoot_spell hplain hne, spell_append _ _ hne]

/-- The paths of files are followed along the normal spelling of the root and then along the names
of the file. -/
theorem exists_route_spell (tree : FileTree) (hroot : root ≠ [])
    (hplain : ∀ name ∈ file.toLocation, IsPlain name)
    (hstored : ∀ name ∈ file.toLocation, IsStored name) :
    ∃ names, route (file.spell root) = names ++ file.toLocation ∧
      active names = active (route (normalize root)) ∧
      start (file.spell root) tree.here = start (normalize root) tree.here := by
  have hne : file.toLocation ≠ [] := by simp [FilePlace.toLocation]
  have hspell := spell_eq_stem_append hroot hplain
  rcases exists_route (stem_cases (isRoot_root root) (destination root)) hplain hstored hne with
    ⟨names, hroute, hactive⟩
  refine ⟨names, hspell ▸ hroute, ?_, ?_⟩
  · rw [hactive, active_route, active_route, names_stem_destination, names_normalize]
  · have hroot' : Path.root (file.spell root) = Path.root (normalize root) := by
      rw [spell_eq_spellPlace hroot hplain, root_normalize]
      exact root_underRoot root (stops_isSlash_join hplain)
    have hstart : Text.startsWith "/" (file.spell root) = Text.startsWith "/" (normalize root) := by
      rw [Bool.eq_iff_iff, startsWith_slash_iff, startsWith_slash_iff, hroot']
    unfold start
    rw [hstart]

theorem spell_ne_nil (root : Text) (file : FilePlace) : file.spell root ≠ [] := normalize_ne_nil _

theorem place_spell_iff {node : Node} (hshort : isOverlong (file.spell root) = false) :
    tree.place .name (file.spell root) = .ok (.entry location node) ↔
      follow tree.root .name linkLimit (start (file.spell root) tree.here)
        (route (file.spell root)) = .ok (.entry location node) := by
  unfold place
  rw [if_neg (spell_ne_nil root file), hshort]
  rfl

/-- Where the normal spelling of the root leads to the same directory, the path of a file leads to
its entry. -/
theorem Reaches.leadsToFile (hreaches : tree.Reaches rule root file)
    (htree : tree.root.IsNamed) (hnames : tree.root.HasStoredNames) (hroot : root ≠ [])
    (hsame : tree.entry (normalize root) = tree.entry root)
    (hshort : isOverlong (file.spell root) = false) : tree.LeadsToFile root file := by
  have hplain := hreaches.isPlain htree
  rcases hreaches with ⟨location, node, hentry, hreaches⟩
  rcases Node.exists_of_isDirectory hreaches.isDirectory with ⟨entries, rfl⟩
  rcases hreaches.found with ⟨entry, hget, _⟩
  have hwhole : tree.root.get? (location ++ file.toLocation) = some entry := by
    rw [Node.get?_append, get?_of_entry hentry]
    exact hget
  have hstored : ∀ name ∈ file.toLocation, IsStored name := fun name hname =>
    hnames.isStored_of_get? hwhole name (List.mem_append_right _ hname)
  have hsteps : ∀ name ∈ file.toLocation, IsStep name := fun name hname =>
    isStep_of_isPlain (hplain name hname) (hstored name hname)
  rcases exists_route_spell tree hroot hplain hstored with
    ⟨names, hroute, hactive, hstart⟩
  rw [hentry, entry_eq_ok_iff] at hsame
  have hbase := follow_of_active_eq hactive.symm hsame.right.right
  have hlocation : location ++ file.toLocation = location ++ file.directories ++ [file.name] :=
    (List.append_assoc _ _ _).symm
  rw [hlocation] at hwhole
  rcases Node.hasDirectory_of_child hwhole with ⟨inner, hinner⟩
  have hdirectory := follow_append hbase fun links =>
    follow_down links (fun name hname => hsteps name (List.mem_append_left _ hname)) hinner
  refine ⟨location, .directory entries, entry, hentry, hget, ?_⟩
  rw [place_spell_iff hshort, hroute, hstart, FilePlace.toLocation, ← List.append_assoc,
    follow_concat_iff (hsteps file.name (by simp [FilePlace.toLocation])), ← List.append_assoc]
  exact ⟨_, inner, hdirectory, rfl, hwhole⟩

/-- The normal spelling of a root is no longer than the paths of its files. -/
theorem isOverlong_normalize (hroot : root ≠ [])
    (hplain : ∀ name ∈ file.toLocation, IsPlain name)
    (hshort : isOverlong (file.spell root) = false) : isOverlong (normalize root) = false := by
  rw [spell_eq_stem_append hroot hplain] at hshort
  rw [normalize_eq]
  split
  case isTrue => decide
  case isFalse =>
    have hle : byteLength (spell (Path.root root) (destination root)) ≤
        byteLength (stem (Path.root root) (destination root)) := by
      by_cases hne : destination root = []
      · rw [hne, stem_nil, spell_nil]
      · rw [stem_of_ne_nil hne, Node.byteLength_append]
        exact Nat.le_add_right _ _
    simp only [isOverlong, Node.byteLength_append, decide_eq_false_iff_not] at hshort ⊢
    omega

/-- A path leads to the entry of a file of the root itself only if the normal spelling of the root
leads to the same directory. -/
theorem LeadsToFile.entry_normalize (h : tree.LeadsToFile root file)
    (htree : tree.root.IsNamed) (hnames : tree.root.HasStoredNames) (hroot : root ≠ [])
    (hfile : file.directories = []) (hshort : isOverlong (file.spell root) = false) :
    tree.entry (normalize root) = tree.entry root := by
  rcases h with ⟨location, node, entry, hentry, hget, hplace⟩
  have hlocation : file.toLocation = [file.name] := by rw [FilePlace.toLocation, hfile]; rfl
  have hwhole : tree.root.get? (location ++ file.toLocation) = some entry := by
    rw [Node.get?_append, get?_of_entry hentry]
    exact hget
  have hplain : ∀ name ∈ file.toLocation, IsPlain name := fun name hname =>
    htree.isPlain_of_get? hwhole name (List.mem_append_right _ hname)
  have hstored : ∀ name ∈ file.toLocation, IsStored name := fun name hname =>
    hnames.isStored_of_get? hwhole name (List.mem_append_right _ hname)
  have hstep : IsStep file.name :=
    isStep_of_isPlain (hplain _ (by simp [hlocation])) (hstored _ (by simp [hlocation]))
  rcases exists_route_spell tree hroot hplain hstored with
    ⟨names, hroute, hactive, hstart⟩
  rw [place_spell_iff hshort, hroute, hstart, hlocation, follow_concat_iff hstep] at hplace
  rcases hplace with ⟨directory, entries, hfollow, hsame, _⟩
  rw [← List.append_cancel_right hsame] at hfollow
  have hnode : node = .directory entries := by
    have hthere := get?_of_follow hfollow
    rw [get?_of_entry hentry] at hthere
    exact Option.some.inj hthere
  rw [hentry, entry_eq_ok_iff, hnode]
  exact ⟨normalize_ne_nil root, by rw [isOverlong_normalize hroot hplain hshort]; decide,
    follow_of_active_eq hactive hfollow⟩

end FileTree

namespace Discovery

open FileTree

variable {tree : FileTree} {root : Text} {settings : Settings}

theorem outcome_sourceFiles_of_not_useGit (hroot : tree.NamesDirectory root)
    (hgit : settings.useGit = false) (git : GitAnswer) :
    (sourceFiles tree settings git root).outcome =
      (tree.walkFiles (walkRule settings) root).mapError RootFault.inaccessible := by
  unfold sourceFiles
  rw [hroot.checkRoot, hgit]
  cases tree.walkFiles (walkRule settings) root <;> rfl

/-- Without git each path that is listed leads to the entry that the walk has come by, provided that
the system takes so long a path and that the normal spelling of the root leads to the same directory
as the root.  The latter holds for every root that goes up, if at all, before all names, and files of
the root itself are not found without it.  Nothing is listed when the walk goes down too far. -/
theorem paths_lead_to_walked_files (htree : tree.root.IsNamed)
    (hnames : tree.root.HasStoredNames) (hroot : tree.NamesDirectory root)
    (hgit : settings.useGit = false) (git : GitAnswer) :
    ∃ files : List FilePlace,
      (sourceFiles tree settings git root).outcome =
          (if tree.walksTooDeep (walkRule settings) root then .error (.inaccessible .tooDeep)
          else .ok (files.map (FilePlace.spell root))) ∧
        (∀ file, file ∈ files ↔ tree.Lists (walkRule settings) root file) ∧
        (tree.entry (normalize root) = tree.entry root →
          ∀ file ∈ files, isOverlong (file.spell root) = false → tree.LeadsToFile root file) ∧
        (ClimbsFirst root → tree.entry (normalize root) = tree.entry root) ∧
        ∀ file ∈ files, file.directories = [] → isOverlong (file.spell root) = false →
          tree.LeadsToFile root file → tree.entry (normalize root) = tree.entry root := by
  have hne : root ≠ [] := hroot.ne_nil
  rcases exists_files htree hroot (walkRule settings) with ⟨files, hwalk, _, hmem⟩
  refine ⟨files, ?_, hmem, ?_, ?_, ?_⟩
  · rw [outcome_sourceFiles_of_not_useGit hroot hgit, walkFiles, hwalk]
    split <;> rfl
  · intro hsame file hfile hshort
    exact ((hmem file).mp hfile).reached.leadsToFile htree hnames hne hsame hshort
  · intro hclimbs
    rcases hroot.exists_entry with ⟨location, entries, hentry⟩
    rw [hclimbs.normalize_eq_toText, hentry]
    exact entry_toText hentry
  · intro file _ hdirectories hshort hleads
    exact hleads.entry_normalize htree hnames hne hdirectories hshort

def workTree : FileTree where
  root := .directory [("home", .directory [("repo", .directory
    [("a.ts", .file []), ("lib", .directory [("c.ts", .file [])])]), ("work", .link "repo")])]
  here := ["home"]

def walkOnly : Settings := { Settings.standard with useGit := false }

theorem entry_workTree : workTree.entry "work" = .ok (["home", "repo"], .directory
    [("a.ts", .file []), ("lib", .directory [("c.ts", .file [])])]) := by
  cbv

theorem leadsToFile_workTree :
    ∃ paths, (sourceFiles workTree walkOnly .missing "work").outcome = .ok paths ∧
      Text.ofString "work/lib/c.ts" ∈ paths ∧ workTree.LeadsToFile "work" ⟨["lib"], "c.ts"⟩ := by
  have htree : workTree.root.IsNamed := by
    simp only [workTree, Node.IsNamed, Node.EveryListing, Node.EveryListingBelow]
    decide
  have hnames : workTree.root.HasStoredNames := by
    simp only [workTree, Node.HasStoredNames, Node.EveryListing, Node.EveryListingBelow]
    decide
  have hroot : workTree.NamesDirectory "work" := ⟨by decide, ⟨_, _, entry_workTree⟩, rfl⟩
  have hclimbs : ClimbsFirst "work" := ⟨0, ["work"], by decide, by decide, fun _ => rfl⟩
  have hlists : workTree.Lists (walkRule walkOnly) "work" ⟨["lib"], "c.ts"⟩ :=
    lists_of_entry entry_workTree rfl (by decide) (by decide) (by decide)
  rcases paths_lead_to_walked_files htree hnames hroot (rfl : walkOnly.useGit = false) .missing with
    ⟨files, houtcome, hfiles, hlead, hnormal, _⟩
  have hfile := (hfiles _).mpr hlists
  have hspell : Text.ofString "work/lib/c.ts" = FilePlace.spell "work" ⟨["lib"], "c.ts"⟩ := by decide
  refine ⟨_, houtcome, ?_, hlead (hnormal hclimbs) _ hfile (by decide)⟩
  rw [hspell]
  exact List.mem_map_of_mem hfile

/-!
### Paths that lead elsewhere

From the directory behind a link `..` leads to another place than the name of the link is taken away
from.  And a root may be so long that the system takes no more names behind it.
-/

def climbedTree : FileTree :=
  { root := .directory [("a.ts", .file []), ("link", .link "x/sub"),
      ("x", .directory [("a.ts", .file [0x78]), ("sub", .directory [])])]
    here := [] }

theorem isNamed_climbedTree : climbedTree.root.IsNamed := by
  simp only [climbedTree, Node.IsNamed, Node.EveryListing, Node.EveryListingBelow]
  decide

theorem hasStoredNames_climbedTree : climbedTree.root.HasStoredNames := by
  simp only [climbedTree, Node.HasStoredNames, Node.EveryListing, Node.EveryListingBelow]
  decide

theorem entry_climbedTree : climbedTree.entry "link/.." =
    .ok (["x"], .directory [("a.ts", .file [0x78]), ("sub", .directory [])]) := by
  cbv

theorem namesDirectory_climbedTree : climbedTree.NamesDirectory "link/.." :=
  ⟨by decide, ⟨_, _, entry_climbedTree⟩, rfl⟩

theorem lists_climbedTree : climbedTree.Lists (walkRule walkOnly) "link/.." ⟨[], "a.ts"⟩ :=
  lists_of_entry entry_climbedTree rfl (by simp) (by decide) (by decide)

theorem place_climbedTree : climbedTree.place .name "a.ts" = .ok (.entry ["a.ts"] (.file [])) := by
  cbv

def longName : Text := List.replicate 255 (CodePoint.ofChar 'd')

def windingEntries : List (Text × Node) := [("a.ts", .file []), (longName, .link ".")]

def windingTree : FileTree := { root := .directory windingEntries, here := [] }

/-- Sixteen times along the link. -/
def windingRoot : Text := spell [] (List.replicate 16 longName)

theorem eq_of_mem_longName {c : CodePoint} (h : c ∈ longName) : c = CodePoint.ofChar 'd' :=
  (List.mem_replicate.mp h).right

theorem length_longName : longName.length = 255 := List.length_replicate

theorem ne_longName {name : Text} (h : name.length < 255) : longName ≠ name := by
  intro heq
  rw [← heq, length_longName] at h
  exact absurd h (Nat.lt_irrefl _)

theorem byteLength_longName : byteLength longName = 255 := Node.byteLength_replicate _ 255

theorem isPlain_longName : IsPlain longName where
  nonempty := ne_longName (by decide)
  ne_here := ne_longName (by decide)
  ne_up := ne_longName (by decide)
  unslashed hslash := absurd (eq_of_mem_longName hslash) (by decide)

theorem isStored_longName : IsStored longName where
  canonical := by
    refine Utf8.canonicalName_of_isWellFormed ?_
    intro c hc
    rw [eq_of_mem_longName hc]
    decide
  short := Nat.le_of_eq byteLength_longName

theorem windingRoot_eq_join : windingRoot = Text.join "/" (List.replicate 16 longName) := by
  unfold windingRoot spell
  exact List.nil_append _

theorem byteLength_windingRoot : byteLength windingRoot = 4095 := by
  rw [windingRoot_eq_join, Node.byteLength_join_replicate, byteLength_longName]

theorem nodup_windingEntries : (windingEntries.map (·.1)).Nodup := by
  show [Text.ofString "a.ts", longName].Nodup
  simp [(ne_longName (by decide) : longName ≠ "a.ts").symm]

theorem isNamed_windingTree : windingTree.root.IsNamed := by
  refine Node.isNamed_directory_iff.mpr ⟨nodup_windingEntries, ?_⟩
  simp only [windingEntries, List.forall_mem_cons]
  exact ⟨⟨by decide, trivial⟩, ⟨isPlain_longName, trivial⟩, by simp⟩

theorem hasStoredNames_windingTree : windingTree.root.HasStoredNames := by
  refine Node.everyListing_directory_iff.mpr ?_
  simp only [windingEntries, List.map_cons, List.map_nil, List.forall_mem_cons]
  exact ⟨⟨by decide, isStored_longName, by simp⟩, trivial, trivial, by simp⟩

theorem isPlain_of_mem_winding {n : Nat} {name : Text} (h : name ∈ List.replicate n longName) :
    IsPlain name := by
  rw [(List.mem_replicate.mp h).right]
  exact isPlain_longName

theorem names_windingRoot : Path.names windingRoot = List.replicate 16 longName :=
  names_spell (Or.inl rfl) fun _ hname => isPlain_of_mem_winding hname

theorem follow_winding (n links : Nat) :
    follow windingTree.root .target (links + n) [] (List.replicate n longName) =
      .ok (.entry [] windingTree.root) := by
  have hstep := isStep_of_isPlain isPlain_longName isStored_longName
  have hchild : (windingTree.root.get? []).bind (·.child? longName) = some (.link ".") := by
    rw [Node.get?, Option.bind_some]
    exact Node.child?_of_mem nodup_windingEntries (List.mem_cons_of_mem _ List.mem_cons_self)
  induction n with
  | zero => exact follow_nil_of_get? rfl
  | succ n ih =>
      rw [List.replicate_succ]
      refine (follow_name_iff hstep.active hstep.ne_up).mpr
        ⟨hstep.short, Or.inr ⟨".", links + n, hchild, rfl, ?_⟩⟩
      exact (follow_idle rfl).trans ih

theorem isOverlong_windingRoot : isOverlong windingRoot = false := by
  unfold isOverlong
  rw [byteLength_windingRoot]
  decide

theorem entry_windingRoot : windingTree.entry windingRoot = .ok ([], windingTree.root) := by
  have hplain : ∀ name ∈ List.replicate 16 longName, IsPlain name :=
    fun _ hname => isPlain_of_mem_winding hname
  have hstored : ∀ name ∈ List.replicate 16 longName, IsStored name := by
    intro name hname
    rw [(List.mem_replicate.mp hname).right]
    exact isStored_longName
  have hroot : windingRoot = [] ++ spell [] (List.replicate 16 longName) := by
    unfold windingRoot
    exact (List.nil_append _).symm
  rcases exists_route (Or.inl rfl) hplain hstored (by simp) with ⟨names, hroute, hnames⟩
  have hactive : active (List.replicate 16 longName) = active (route windingRoot) := by
    rw [hroot, hroute, active_append, hnames]
    rfl
  have hstart : start windingRoot windingTree.here = [] := ite_self _
  have hne : windingRoot ≠ [] := by
    intro hnil
    have hlength := byteLength_windingRoot
    rw [hnil] at hlength
    cases hlength
  refine entry_eq_ok_iff.mpr ⟨hne, by rw [isOverlong_windingRoot]; decide, ?_⟩
  rw [hstart]
  exact follow_of_active_eq hactive (follow_winding 16 24)

theorem namesDirectory_windingTree : windingTree.NamesDirectory windingRoot := by
  refine ⟨?_, ⟨_, _, entry_windingRoot⟩, rfl⟩
  rw [fault?_eq_none_iff]
  intro c hc
  rw [windingRoot_eq_join] at hc
  rcases Text.mem_join hc with hslash | ⟨name, hname, hc⟩
  · rw [List.mem_singleton.mp hslash]
    decide
  · rw [(List.mem_replicate.mp hname).right] at hc
    rw [eq_of_mem_longName hc]
    decide

theorem lists_windingTree : windingTree.Lists (walkRule walkOnly) windingRoot ⟨[], "a.ts"⟩ := by
  refine lists_of_entry entry_windingRoot rfl (by simp) (by decide) (isOpen_nil_iff.mpr ?_)
  rw [isClosed, isOverlong_windingRoot]
  rfl

theorem climbsFirst_windingRoot : ClimbsFirst windingRoot := by
  refine ⟨0, List.replicate 16 longName, names_windingRoot, ?_, fun _ => rfl⟩
  intro hup
  exact (isPlain_of_mem_winding hup).ne_up rfl

theorem isOverlong_spell_windingRoot :
    isOverlong (FilePlace.spell windingRoot ⟨[], "a.ts"⟩) = true := by
  have hroot : Path.root windingRoot = [] :=
    root_spell (Or.inl rfl) fun _ hname => isPlain_of_mem_winding hname
  have hspell : FilePlace.spell windingRoot ⟨[], "a.ts"⟩ = windingRoot ++ "/" ++ "a.ts" := by
    rw [spell_eq_stem_append namesDirectory_windingTree.ne_nil (by decide), hroot,
      climbsFirst_windingRoot.destination_eq, names_windingRoot, stem_of_ne_nil (by simp)]
    rfl
  rw [hspell, isOverlong, Node.byteLength_append, Node.byteLength_append, byteLength_windingRoot]
  decide

/-- Not all paths lead to the files they are listed for: neither when the system would take them all,
nor when the root goes up before all names. -/
theorem not_all_paths_lead_to_files :
    (¬ ∀ (tree : FileTree) (root : Text) (settings : Settings), tree.root.IsNamed →
      tree.root.HasStoredNames → tree.NamesDirectory root → settings.useGit = false →
      ∀ file, tree.Lists (walkRule settings) root file → isOverlong (file.spell root) = false →
        tree.LeadsToFile root file) ∧
    ¬ ∀ (tree : FileTree) (root : Text) (settings : Settings), tree.root.IsNamed →
      tree.root.HasStoredNames → tree.NamesDirectory root → settings.useGit = false →
      ∀ file, tree.Lists (walkRule settings) root file → ClimbsFirst root →
        tree.LeadsToFile root file := by
  constructor
  · intro hall
    rcases hall climbedTree "link/.." walkOnly isNamed_climbedTree hasStoredNames_climbedTree
      namesDirectory_climbedTree rfl ⟨[], "a.ts"⟩ lists_climbedTree (by decide) with
      ⟨location, node, entry, hentry, _, hplace⟩
    have hpath : FilePlace.spell "link/.." ⟨[], "a.ts"⟩ = Text.ofString "a.ts" := by decide
    rw [entry_climbedTree] at hentry
    cases hentry
    rw [hpath, place_climbedTree] at hplace
    cases hplace
  · intro hall
    rcases hall windingTree windingRoot walkOnly isNamed_windingTree hasStoredNames_windingTree
      namesDirectory_windingTree rfl ⟨[], "a.ts"⟩ lists_windingTree climbsFirst_windingRoot with
      ⟨location, node, entry, _, _, hplace⟩
    unfold place at hplace
    rw [if_neg (spell_ne_nil _ _), isOverlong_spell_windingRoot] at hplace
    cases hplace

end Discovery

end ImportAtlas
