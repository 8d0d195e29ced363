import ImportAtlas.Proofs.Discovery.Depth
import ImportAtlas.Proofs.FileTree.Relisting
import Mathlib

/-!
# What a walk lists

A walk that comes to its end lists the files that are reached from its root, each of them once and
in order, whatever the order in which the system lists the entries of a directory.  The one exception
are the files behind directories that are closed to it: those that may not be read, and those whose
paths are too long for the system.  Since the path of a directory begins with the spelling of the
root, it depends on this spelling which directories are too far away.
-/

namespace ImportAtlas

namespace FileTree

variable {tree other : FileTree} {rule : WalkRule} {root : Text} {file : FilePlace}

def Reaches (tree : FileTree) (rule : WalkRule) (root : Text) (file : FilePlace) : Prop :=
  ∃ location node, tree.entry root = .ok (location, node) ∧ node.Reaches tree rule root file

/-- A file is reached, through directories that are open to the walk. -/
structure Lists (tree : FileTree) (rule : WalkRule) (root : Text) (file : FilePlace) : Prop where
  reached : tree.Reaches rule root file
  isOpen : tree.IsOpen root file.directories

theorem lists_of_entry {location : Location} {node : Node} {content : List UInt8}
    (hentry : tree.entry root = .ok (location, node))
    (hget : node.get? file.toLocation = some (.file content))
    (hentered : ∀ directory ∈ file.directories, directory ∉ rule.excluded)
    (hadmits : rule.admits file.name = true)
    (hopen : tree.IsOpen root file.directories) : tree.Lists rule root file where
  reached := ⟨location, node, hentry, ⟨.file content, hget, Node.isListed_iff.mp rfl⟩, hentered,
    Node.admits_iff.mp hadmits⟩
  isOpen := hopen

theorem toLocation_mem_places_iff (htree : tree.root.IsNamed) :
    file.toLocation ∈ tree.places rule root ↔ tree.Lists rule root file := by
  unfold places
  cases hentry : tree.entry root with
  | error fault =>
      refine iff_of_false List.not_mem_nil ?_
      rintro ⟨⟨location, node, hfound, _⟩, _⟩
      rw [hentry] at hfound
      cases hfound
  | ok found =>
      rcases found with ⟨location, node⟩
      dsimp only
      rw [Node.mem_places_iff (htree.get? (get?_of_entry hentry))]
      constructor
      · rintro ⟨hreaches, hopen⟩
        exact ⟨⟨location, node, hentry, hreaches⟩, hopen⟩
      · rintro ⟨⟨location', node', hentry', hreaches⟩, hopen⟩
        rw [hentry] at hentry'
        cases hentry'
        exact ⟨hreaches, hopen⟩

/-!
## Spellings of files
-/

theorem spell_eq_spellPlace (hroot : root ≠ [])
    (hplain : ∀ name ∈ file.toLocation, Path.IsPlain name) :
    file.spell root = Node.spellPlace root file.toLocation := by
  rcases file with ⟨directories, name⟩
  induction directories generalizing root with
  | nil => rfl
  | cons first directories ih =>
      have hall : Path.IsPlain first ∧
          ∀ other ∈ FilePlace.toLocation ⟨directories, name⟩, Path.IsPlain other :=
        List.forall_mem_cons.mp hplain
      have hne : FilePlace.toLocation ⟨directories, name⟩ ≠ [] := by simp [FilePlace.toLocation]
      have hjoin : Path.join root first ≠ [] :=
        Path.join_ne_nil hroot (Path.stops_isSlash_of_plain hall.left)
      exact (ih hjoin hall.right).trans (Path.underRoot_join hroot hall.left hall.right hne)

theorem Reaches.isPlain (h : tree.Reaches rule root file) (htree : tree.root.IsNamed) :
    ∀ name ∈ file.toLocation, Path.IsPlain name := by
  rcases h with ⟨location, node, hentry, hreaches⟩
  rcases hreaches.found with ⟨entry, hget, _⟩
  exact (htree.get? (get?_of_entry hentry)).isPlain_of_get? hget

theorem Reaches.spell_inj {next : FilePlace} (h : tree.Reaches rule root file)
    (h' : tree.Reaches rule root next) (htree : tree.root.IsNamed) (hroot : root ≠ [])
    (hsame : file.spell root = next.spell root) : file = next := by
  have hplain := h.isPlain htree
  have hplain' := h'.isPlain htree
  rw [spell_eq_spellPlace hroot hplain, spell_eq_spellPlace hroot hplain'] at hsame
  apply FilePlace.toLocation_injective
  exact (Path.underRoot_spell_inj hplain (by simp [FilePlace.toLocation]) hplain'
    (by simp [FilePlace.toLocation])).mp hsame

/-!
## The walk
-/

theorem NamesDirectory.ne_nil (hroot : tree.NamesDirectory root) : root ≠ [] := by
  rcases hroot.exists_entry with ⟨_, _, hentry⟩
  exact (entry_eq_ok_iff.mp hentry).left

theorem exists_files (htree : tree.root.IsNamed) (hroot : tree.NamesDirectory root)
    (rule : WalkRule) : ∃ files : List FilePlace,
      tree.walk rule root = files.map (FilePlace.spell root) ∧
        files.Pairwise FilePlace.Precedes ∧ ∀ file, file ∈ files ↔ tree.Lists rule root file := by
  rcases exists_files_of_places tree rule root htree with ⟨files, hfiles, hordered⟩
  have hmem : ∀ file, file ∈ files ↔ tree.Lists rule root file := by
    intro file
    rw [← toLocation_mem_places_iff htree, ← hfiles]
    exact (List.mem_map_of_injective FilePlace.toLocation_injective).symm
  refine ⟨files, ?_, hordered, hmem⟩
  have hne : root ≠ [] := hroot.ne_nil
  rw [walk_eq_map_places htree hroot, ← hfiles, List.map_map]
  apply List.map_congr_left
  intro file hfile
  exact (spell_eq_spellPlace hne (((hmem file).mp hfile).reached.isPlain htree)).symm

theorem spell_mem_walk_iff (htree : tree.root.IsNamed) (hroot : tree.NamesDirectory root)
    (hfile : tree.Reaches rule root file) :
    file.spell root ∈ tree.walk rule root ↔ tree.IsOpen root file.directories := by
  have hne : root ≠ [] := hroot.ne_nil
  rcases exists_files htree hroot rule with ⟨files, hwalk, _, hmem⟩
  rw [hwalk, List.mem_map]
  constructor
  · rintro ⟨next, hnext, hsame⟩
    have hlists := (hmem next).mp hnext
    rw [← hlists.reached.spell_inj hfile htree hne hsame]
    exact hlists.isOpen
  · intro hopen
    exact ⟨file, (hmem file).mpr ⟨hfile, hopen⟩, rfl⟩

theorem nodup_walk (htree : tree.root.IsNamed) (hroot : tree.NamesDirectory root) :
    (tree.walk rule root).Nodup := by
  have hne : root ≠ [] := hroot.ne_nil
  rcases exists_files htree hroot rule with ⟨files, hwalk, hordered, hmem⟩
  rw [hwalk]
  refine (FilePlace.nodup_of_pairwise hordered).map_on ?_
  intro file hfile next hnext hsame
  exact ((hmem file).mp hfile).reached.spell_inj ((hmem next).mp hnext).reached htree hne hsame

/-!
## Other listings
-/

theorem Agrees.exists_below {location : Location} {node entry : Node} (h : tree.Agrees other)
    (hentry : tree.entry root = .ok (location, node))
    (hget : node.get? file.toLocation = some entry) :
    ∃ node' entry', other.entry root = .ok (location, node') ∧
      node'.get? file.toLocation = some entry' ∧ entry.face = entry'.face := by
  rcases h.exists_entry hentry with ⟨node', hentry', _⟩
  have hplace : tree.root.get? (location ++ file.toLocation) = some entry := by
    rw [Node.get?_append, get?_of_entry hentry]
    exact hget
  rcases h.root.exists_get? hplace with ⟨entry', hplace', hface⟩
  rw [Node.get?_append, get?_of_entry hentry'] at hplace'
  exact ⟨node', entry', hentry', hplace', hface⟩

theorem Agrees.isFile {path : Text} {entry entry' : Node} (h : tree.Agrees other)
    (hface : entry.face = entry'.face) (hfile : entry.IsFile tree path) :
    entry'.IsFile other path := by
  rw [Node.eq_of_face_eq hface hfile.not_directory]
  exact ⟨hfile.not_directory, fun target heq =>
    h.leadsToDirectory.trans (hfile.not_directory_link target heq)⟩

theorem Agrees.isOpen {path : Text} {names : List Text} (h : tree.Agrees other)
    (hopen : tree.IsOpen path names) : other.IsOpen path names :=
  fun passed hpassed => (h.isClosed _).trans (hopen passed hpassed)

theorem Lists.of_agrees (h : tree.Agrees other) (hlists : tree.Lists rule root file) :
    other.Lists rule root file := by
  rcases hlists with ⟨⟨location, node, hentry, ⟨entry, hget, hfile⟩, hentered, hadmitted⟩, hopen⟩
  rcases h.exists_below hentry hget with ⟨node', entry', hentry', hget', hface⟩
  exact ⟨⟨location, node', hentry', ⟨entry', hget', h.isFile hface hfile⟩, hentered, hadmitted⟩,
    h.isOpen hopen⟩

theorem StepsTo.of_agrees (h : tree.Agrees other) (hsteps : tree.StepsTo rule root file) :
    other.StepsTo rule root file := by
  rcases hsteps with ⟨location, node, hentry, ⟨entry, hget, hdirectory⟩, hentered, hopen⟩
  rcases h.exists_below hentry hget with ⟨node', entry', hentry', hget', hface⟩
  exact ⟨location, node', hentry',
    ⟨entry', hget', fun hfile => hdirectory (h.symm.isFile hface.symm hfile)⟩, hentered,
    h.isOpen hopen⟩

theorem OutrunsMachine.of_agrees (h : tree.Agrees other) (houtruns : tree.OutrunsMachine rule root) :
    other.OutrunsMachine rule root := by
  rcases houtruns with ⟨limit, place, hlimit, hsteps, hlength⟩
  exact ⟨limit, place, by rw [h.host, hlimit], hsteps.of_agrees h, hlength⟩

theorem Agrees.namesDirectory (h : tree.Agrees other) (hroot : tree.NamesDirectory root) :
    other.NamesDirectory root := by
  rcases hroot with ⟨hpath, ⟨location, entries, hentry⟩, hseen⟩
  rcases h.exists_entry hentry with ⟨found, hfound, hface⟩
  have hdirectory : found.isDirectory = true := (Node.isDirectory_of_face_eq hface).symm
  rcases Node.exists_of_isDirectory hdirectory with ⟨others, rfl⟩
  exact ⟨hpath, ⟨location, others, hfound⟩, by rw [h.host, hseen]⟩

theorem walk_of_relisted (h : tree.Relisted other) (htree : tree.root.IsNamed)
    (hroot : tree.NamesDirectory root) : other.walk rule root = tree.walk rule root := by
  have hagrees := h.agrees htree
  rcases exists_files htree hroot rule with ⟨files, hwalk, hordered, hmem⟩
  rcases exists_files (h.root.isNamed htree) (hagrees.namesDirectory hroot) rule with
    ⟨files', hwalk', hordered', hmem'⟩
  have hsame : files' = files := by
    refine FilePlace.eq_of_pairwise hordered' hordered fun file => ?_
    rw [hmem, hmem']
    exact ⟨Lists.of_agrees hagrees.symm, Lists.of_agrees hagrees⟩
  rw [hwalk, hwalk', hsame]

theorem walkFiles_of_relisted (h : tree.Relisted other) (htree : tree.root.IsNamed)
    (hroot : tree.NamesDirectory root) : other.walkFiles rule root = tree.walkFiles rule root := by
  have hagrees := h.agrees htree
  have hdeep : other.walksTooDeep rule root = tree.walksTooDeep rule root := by
    rw [Bool.eq_iff_iff, walksTooDeep_iff htree, walksTooDeep_iff (h.root.isNamed htree)]
    exact ⟨OutrunsMachine.of_agrees hagrees.symm, OutrunsMachine.of_agrees hagrees⟩
  unfold walkFiles
  rw [hdeep, walk_of_relisted h htree hroot]

theorem walkFiles_of_walkDepth_eq_none (h : tree.host.walkDepth = none) :
    tree.walkFiles rule root = .ok (tree.walk rule root) := by
  unfold walkFiles walksTooDeep
  rw [h]
  rfl

/-- A walk fails when it goes down further than the machine lets it.  Else it lists the files that
are reached through open directories, each of them once, the files of a directory before those of its
subdirectories and both in the order of their names.  It comes to the same for every listing of the
tree. -/
theorem walk_lists_reached_files (htree : tree.root.IsNamed) (hroot : tree.NamesDirectory root)
    (rule : WalkRule) :
    (tree.OutrunsMachine rule root → tree.walkFiles rule root = .error .tooDeep) ∧
      (¬ tree.OutrunsMachine rule root → ∃ files : List FilePlace,
        tree.walkFiles rule root = .ok (files.map (FilePlace.spell root)) ∧
          (files.map (FilePlace.spell root)).Nodup ∧ files.Pairwise FilePlace.Precedes ∧
          ∀ file, file ∈ files ↔ tree.Lists rule root file) ∧
      ∀ other, tree.Relisted other → other.walkFiles rule root = tree.walkFiles rule root := by
  refine ⟨?_, ?_, fun _ hother => walkFiles_of_relisted hother htree hroot⟩
  · intro houtruns
    unfold walkFiles
    rw [if_pos ((walksTooDeep_iff htree).mpr houtruns)]
  · intro hends
    rcases exists_files htree hroot rule with ⟨files, hwalk, hordered, hmem⟩
    refine ⟨files, ?_, ?_, hordered, hmem⟩
    · unfold walkFiles
      rw [if_neg (mt (walksTooDeep_iff htree).mp hends), hwalk]
    · rw [← hwalk]
      exact nodup_walk htree hroot

def linkedTree : FileTree :=
  { root := .directory [("z.ts", .file []),
      ("lib", .directory [("b.ts", .file []), ("a.ts", .file [])]), ("more", .link "lib")]
    here := [] }

def relistedTree : FileTree :=
  { root := .directory [("more", .link "lib"),
      ("lib", .directory [("a.ts", .file []), ("b.ts", .file [])]), ("z.ts", .file [])]
    here := [] }

theorem isNamed_linkedTree : linkedTree.root.IsNamed := by
  simp only [linkedTree, Node.IsNamed, Node.EveryListing, Node.EveryListingBelow]
  decide

theorem namesDirectory_linkedTree : linkedTree.NamesDirectory "." where
  isPath := by decide
  exists_entry := ⟨[], _, by cbv⟩
  seen := rfl

theorem relisted_linkedTree : linkedTree.Relisted relistedTree := by
  have hlib : Node.Relisted (.directory [("b.ts", .file []), ("a.ts", .file [])])
      (.directory [("a.ts", .file []), ("b.ts", .file [])]) := .listing (.swap _ _ _)
  have hinside := hlib.inside [("z.ts", .file [])] [("more", .link "lib")] "lib"
  exact ⟨hinside.trans (.listing (List.reverse_perm _).symm), rfl, rfl⟩

theorem lists_linkedTree :
    linkedTree.Lists ⟨["old"], some [".ts"]⟩ "." ⟨["lib"], "a.ts"⟩ where
  reached := by
    refine ⟨[], linkedTree.root, by cbv, ⟨.file [], rfl, rfl, fun _ h => nomatch h⟩, by decide, ?_⟩
    rintro _ ⟨rfl⟩
    exact ⟨".ts", List.mem_singleton_self _, by decide⟩
  isOpen := by decide

theorem not_outrunsMachine_linkedTree (rule : WalkRule) (root : Text) :
    ¬ linkedTree.OutrunsMachine rule root := by
  rintro ⟨limit, _, hlimit, _⟩
  cases hlimit

theorem walk_linkedTree : linkedTree.root.IsNamed ∧ linkedTree.NamesDirectory "." ∧
    ¬ linkedTree.OutrunsMachine ⟨["old"], some [".ts"]⟩ "." ∧ linkedTree.Relisted relistedTree ∧
      ∃ files, relistedTree.walkFiles ⟨["old"], some [".ts"]⟩ "." = .ok files ∧ files.Nodup ∧
        Text.ofString "lib/a.ts" ∈ files := by
  have hends := not_outrunsMachine_linkedTree ⟨["old"], some [".ts"]⟩ "."
  rcases walk_lists_reached_files isNamed_linkedTree namesDirectory_linkedTree
    ⟨["old"], some [".ts"]⟩ with ⟨_, hlisted, hrelisted⟩
  rcases hlisted hends with ⟨files, hwalk, hnodup, _, hfiles⟩
  have hspell : Text.ofString "lib/a.ts" = FilePlace.spell "." ⟨["lib"], "a.ts"⟩ := by decide
  refine ⟨isNamed_linkedTree, namesDirectory_linkedTree, hends, relisted_linkedTree, _, ?_, hnodup,
    ?_⟩
  · rw [hrelisted relistedTree relisted_linkedTree, hwalk]
  · rw [hspell]
    exact List.mem_map_of_mem ((hfiles _).mpr lists_linkedTree)

/-!
### A root with a long spelling

The root of this tree is spelled so long that it is just in reach, and its subdirectory no longer
is.
-/

def shallowTree : FileTree :=
  { root := .directory [("a.ts", .file []), ("lib", .directory [("b.ts", .file [])])], here := [] }

/-- A point and slashes. -/
def longRoot : Text := CodePoint.ofChar '.' :: List.replicate 4094 (CodePoint.ofChar '/')

def deepFile : FilePlace := ⟨["lib"], "b.ts"⟩

theorem isNamed_shallowTree : shallowTree.root.IsNamed := by
  simp only [shallowTree, Node.IsNamed, Node.EveryListing, Node.EveryListingBelow]
  decide

theorem byteLength_longRoot : byteLength longRoot = 4095 := by
  rw [longRoot, ← List.singleton_append, Node.byteLength_append, Node.byteLength_replicate]
  rfl

theorem names_longRoot : Path.names longRoot = [] := by
  have hslashes : ∀ c ∈ List.replicate 4093 (CodePoint.ofChar '/'), Path.isSlash c = true := by
    intro c hc
    rw [(List.mem_replicate.mp hc).right]
    rfl
  have hroot : longRoot = [CodePoint.ofChar '.'] ++
      CodePoint.ofChar '/' :: List.replicate 4093 (CodePoint.ofChar '/') := rfl
  rw [hroot, Path.names_append_slash, ← List.append_nil (List.replicate _ _),
    Path.names_append_of_slashes hslashes]
  rfl

theorem entry_longRoot : shallowTree.entry longRoot = .ok ([], shallowTree.root) := by
  have hactive : active (route longRoot) = [] := by
    rw [active_route, names_longRoot]
    rfl
  refine entry_eq_ok_iff.mpr ⟨List.cons_ne_nil _ _, ?_, ?_⟩
  · simp [isOverlong, byteLength_longRoot, pathLimit]
  · rw [follow_of_active_nil hactive]
    exact follow_nil_of_get? rfl

theorem namesDirectory_longRoot : shallowTree.NamesDirectory longRoot := by
  refine ⟨?_, ⟨_, _, entry_longRoot⟩, rfl⟩
  rw [fault?_eq_none_iff, longRoot, List.forall_mem_cons]
  refine ⟨by decide, ?_⟩
  intro c hc
  rw [(List.mem_replicate.mp hc).right]
  decide

theorem reaches_deepFile : shallowTree.Reaches ⟨[], none⟩ longRoot deepFile :=
  ⟨[], shallowTree.root, entry_longRoot, ⟨.file [], rfl, rfl, fun _ h => nomatch h⟩,
    by simp [deepFile], fun _ h => nomatch h⟩

theorem isOverlong_join {name : Text} (hname : Path.IsPlain name)
    (h : pathLimit ≤ byteLength root + byteLength name) :
    isOverlong (Path.join root name) = true :=
  decide_eq_true (h.trans (Node.byteLength_add_le_join root hname))

theorem isOverlong_deepFile :
    isOverlong (Path.descend longRoot deepFile.directories) = true := by
  rw [deepFile, Path.descend_cons, Path.descend_nil]
  apply isOverlong_join (by decide)
  rw [byteLength_longRoot]
  decide

theorem not_all_reached_files_listed : ¬ ∀ (tree : FileTree) (rule : WalkRule) (root : Text),
    tree.root.IsNamed → tree.NamesDirectory root → ∀ file, tree.Reaches rule root file →
      ∃ files, tree.walkFiles rule root = .ok files ∧ file.spell root ∈ files := by
  intro hall
  rcases hall shallowTree ⟨[], none⟩ longRoot isNamed_shallowTree namesDirectory_longRoot
    deepFile reaches_deepFile with ⟨files, hwalk, hlisted⟩
  rw [walkFiles_of_walkDepth_eq_none rfl, Except.ok.injEq] at hwalk
  rw [← hwalk, spell_mem_walk_iff isNamed_shallowTree namesDirectory_longRoot reaches_deepFile]
    at hlisted
  have hopen := hlisted deepFile.directories List.prefix_rfl
  rw [isClosed, isOverlong_deepFile] at hopen
  cases hopen

end FileTree

end ImportAtlas
