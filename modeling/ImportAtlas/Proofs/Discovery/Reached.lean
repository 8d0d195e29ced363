import ImportAtlas.Proofs.Discovery.Order
import Mathlib.Data.List.Infix

/-!
# Which files are walked

A file is reached from a directory when the names of its place lead to it through real directories,
none of them excluded, and its own name is admitted.  A link counts as a file unless the system
finds a directory at its path.  The walk lists exactly the files that are reached through directories
that are open to it: of one that is closed it lists nothing, nor of what is below.
-/

namespace ImportAtlas

namespace Path

def descend (path : Text) (names : List Text) : Text := names.foldl join path

@[simp] theorem descend_nil (path : Text) : descend path [] = path := rfl

@[simp] theorem descend_cons (path name : Text) (names : List Text) :
    descend path (name :: names) = descend (join path name) names := rfl

end Path

def FilePlace.path (root : Text) (file : FilePlace) : Text :=
  Path.join (Path.descend root file.directories) file.name

def FilePlace.spell (root : Text) (file : FilePlace) : Text :=
  Path.underRoot (Path.descend root file.directories) file.name

/-- The directories that are passed on the way from a path along names are open to the walk. -/
def FileTree.IsOpen (tree : FileTree) (path : Text) (names : List Text) : Prop :=
  ∀ passed, passed <+: names → tree.isClosed (Path.descend path passed) = false

instance (tree : FileTree) (path : Text) (names : List Text) : Decidable (tree.IsOpen path names) :=
  decidable_of_iff (∀ passed ∈ names.inits, tree.isClosed (Path.descend path passed) = false)
    (by simp only [List.mem_inits, FileTree.IsOpen])

namespace FileTree

variable {tree : FileTree} {path name : Text} {names : List Text}

theorem isOpen_nil_iff : tree.IsOpen path [] ↔ tree.isClosed path = false := by
  simp [IsOpen]

theorem isOpen_cons_iff : tree.IsOpen path (name :: names) ↔
    tree.isClosed path = false ∧ tree.IsOpen (Path.join path name) names := by
  constructor
  · intro h
    refine ⟨h [] List.nil_prefix, fun passed hpassed => ?_⟩
    exact h (name :: passed) (List.cons_prefix_cons.mpr ⟨rfl, hpassed⟩)
  · rintro ⟨hpath, hnames⟩ passed hpassed
    cases passed with
    | nil => exact hpath
    | cons first passed =>
        rcases List.cons_prefix_cons.mp hpassed with ⟨rfl, hmore⟩
        exact hnames passed hmore

theorem IsOpen.not_closed (h : tree.IsOpen path names) : tree.isClosed path = false :=
  h [] List.nil_prefix

end FileTree

namespace Node

/-- The entry that a path leads to is no directory, nor a link behind which one is found. -/
structure IsFile (tree : FileTree) (path : Text) (entry : Node) : Prop where
  not_directory : entry.isDirectory = false
  not_directory_link : ∀ target, entry = .link target → tree.leadsToDirectory path = false

/-- The place of a file leads to it from a directory with the path, through directories that are
not excluded, and its name is admitted. -/
structure Reaches (tree : FileTree) (rule : WalkRule) (path : Text) (node : Node)
    (file : FilePlace) : Prop where
  found : ∃ entry, node.get? file.toLocation = some entry ∧ entry.IsFile tree (file.path path)
  entered : ∀ directory ∈ file.directories, directory ∉ rule.excluded
  admitted : ∀ extensions, rule.extensions = some extensions →
    ∃ extension ∈ extensions, extension <:+ Text.lower file.name

variable {tree : FileTree} {rule : WalkRule} {path name next : Text} {place : Location}
  {entries : List (Text × Node)} {node child : Node} {file : FilePlace} {names : List Text}

/-!
## One directory
-/

theorem isListed_iff : node.isListed tree path = true ↔ node.IsFile tree path := by
  constructor
  · intro h
    cases node with
    | directory entries => cases h
    | file content => exact ⟨rfl, by simp⟩
    | link target => exact ⟨rfl, fun _ _ => by simpa [isListed] using h⟩
    | device isFull => exact ⟨rfl, by simp⟩
  · rintro ⟨hfile, hlink⟩
    cases node with
    | directory entries => cases hfile
    | file content => rfl
    | link target => simp [isListed, hlink target rfl]
    | device isFull => rfl

theorem admits_iff : rule.admits name = true ↔ ∀ extensions, rule.extensions = some extensions →
    ∃ extension ∈ extensions, extension <:+ Text.lower name := by
  unfold WalkRule.admits
  cases rule.extensions with
  | none => simp
  | some extensions => simp [Text.endsWith]

theorem mem_fileNames_iff (h : (entries.map (·.1)).Nodup) :
    name ∈ fileNames tree rule path entries ↔
      ∃ entry, (Node.directory entries).child? name = some entry ∧
        entry.IsFile tree (Path.join path name) ∧ rule.admits name = true := by
  unfold fileNames
  rw [List.mem_mergeSort, List.mem_map]
  constructor
  · rintro ⟨⟨_, entry⟩, hmem, rfl⟩
    rw [List.mem_filter, Bool.and_eq_true, isListed_iff] at hmem
    exact ⟨entry, child?_of_mem h hmem.left, hmem.right⟩
  · rintro ⟨entry, hchild, hkept⟩
    refine ⟨(name, entry), ?_, rfl⟩
    rw [List.mem_filter, Bool.and_eq_true, isListed_iff]
    exact ⟨mem_of_child? hchild, hkept⟩

theorem mem_placesOfEntries_iff {places : List Location} :
    (name, places) ∈ placesOfEntries tree rule path entries ↔
      ∃ child, (name, child) ∈ entries ∧ child.isDirectory = true ∧ name ∉ rule.excluded ∧
        places = (child.places tree rule (Path.join path name)).map (name :: ·) := by
  induction entries with
  | nil => simp [placesOfEntries]
  | cons entry entries ih =>
      rcases entry with ⟨known, node⟩
      rw [placesOfEntries]
      split
      case isTrue hentered =>
        simp only [Bool.and_eq_true, Bool.not_eq_true', List.contains_eq_mem,
          decide_eq_false_iff_not] at hentered
        rw [List.mem_cons, ih]
        constructor
        · rintro (heq | ⟨child, hmem, hrest⟩)
          · cases heq
            exact ⟨node, by simp, hentered.left, hentered.right, rfl⟩
          · exact ⟨child, by simp [hmem], hrest⟩
        · rintro ⟨child, hmem, hdirectory, hexcluded, rfl⟩
          rcases List.mem_cons.mp hmem with heq | hmem
          · cases heq
            exact Or.inl rfl
          · exact Or.inr ⟨child, hmem, hdirectory, hexcluded, rfl⟩
      case isFalse hpassed =>
        rw [ih]
        constructor
        · rintro ⟨child, hmem, hrest⟩
          exact ⟨child, by simp [hmem], hrest⟩
        · rintro ⟨child, hmem, hdirectory, hexcluded, rfl⟩
          rcases List.mem_cons.mp hmem with heq | hmem
          · cases heq
            simp [hdirectory, hexcluded] at hpassed
          · exact ⟨child, hmem, hdirectory, hexcluded, rfl⟩

theorem singleton_mem_places_iff :
    [name] ∈ (Node.directory entries).places tree rule path ↔
      tree.isClosed path = false ∧ name ∈ fileNames tree rule path entries := by
  rw [places]
  cases hclosed : tree.isClosed path with
  | true => simp
  | false =>
      simp only [Bool.false_eq_true, if_false, List.mem_append, List.mem_map,
        List.singleton_inj, exists_eq_right, true_and, or_iff_left_iff_imp]
      intro hbelow
      rcases List.mem_flatMap.mp hbelow with ⟨⟨next, inner⟩, hinner, hplace⟩
      rcases mem_placesOfEntries_iff.mp (List.mem_mergeSort.mp hinner) with ⟨child, _, _, _, rfl⟩
      rcases List.mem_map.mp hplace with ⟨rest, hrest, heq⟩
      exact absurd (List.cons.inj heq).right (ne_nil_of_mem_places hrest)

theorem cons_mem_places_iff (h : (entries.map (·.1)).Nodup) (hplace : place ≠ []) :
    name :: place ∈ (Node.directory entries).places tree rule path ↔
      tree.isClosed path = false ∧ name ∉ rule.excluded ∧
        ∃ child, (Node.directory entries).child? name = some child ∧
          place ∈ child.places tree rule (Path.join path name) := by
  rw [places]
  cases hclosed : tree.isClosed path with
  | true => simp
  | false =>
      simp only [Bool.false_eq_true, if_false, List.mem_append, List.mem_map, List.mem_flatMap,
        List.mem_mergeSort, true_and]
      constructor
      · rintro (⟨_, _, heq⟩ | ⟨⟨next, inner⟩, hinner, hmem⟩)
        · exact absurd (List.cons.inj heq).right.symm hplace
        · rcases mem_placesOfEntries_iff.mp hinner with ⟨child, hchild, _, hexcluded, rfl⟩
          rcases List.mem_map.mp hmem with ⟨rest, hrest, heq⟩
          cases heq
          exact ⟨hexcluded, child, child?_of_mem h hchild, hrest⟩
      · rintro ⟨hexcluded, child, hchild, hmem⟩
        have hdirectory : child.isDirectory = true := by
          rcases exists_of_mem_places hmem with ⟨_, _, _, rfl, _⟩
          rfl
        refine Or.inr ⟨(name, _), mem_placesOfEntries_iff.mpr
          ⟨child, mem_of_child? hchild, hdirectory, hexcluded, rfl⟩, ?_⟩
        exact List.mem_map.mpr ⟨place, hmem, rfl⟩

/-!
## Reaching a file
-/

theorem Reaches.isDirectory (h : node.Reaches tree rule path file) : node.isDirectory = true := by
  rcases file with ⟨directories, name⟩
  rcases h.found with ⟨entry, hget, _⟩
  cases node with
  | directory entries => rfl
  | file content => cases directories <;> cases hget
  | link target => cases directories <;> cases hget
  | device isFull => cases directories <;> cases hget

theorem reaches_nil_iff (h : (entries.map (·.1)).Nodup) :
    (Node.directory entries).Reaches tree rule path ⟨[], name⟩ ↔
      name ∈ fileNames tree rule path entries := by
  have hget : (Node.directory entries).get? (FilePlace.toLocation ⟨[], name⟩) =
      (Node.directory entries).child? name := by
    simp [FilePlace.toLocation, get?]
  rw [mem_fileNames_iff h, admits_iff]
  constructor
  · rintro ⟨⟨entry, hfound, hfile⟩, _, hadmitted⟩
    exact ⟨entry, hget ▸ hfound, hfile, hadmitted⟩
  · rintro ⟨entry, hchild, hfile, hadmitted⟩
    exact ⟨⟨entry, hget ▸ hchild, hfile⟩, by simp, hadmitted⟩

theorem reaches_cons_iff : (Node.directory entries).Reaches tree rule path ⟨next :: names, name⟩ ↔
    next ∉ rule.excluded ∧ ∃ child, (Node.directory entries).child? next = some child ∧
      child.Reaches tree rule (Path.join path next) ⟨names, name⟩ := by
  constructor
  · rintro ⟨⟨entry, hget, hfile⟩, hentered, hadmitted⟩
    rw [List.forall_mem_cons] at hentered
    rcases Option.bind_eq_some_iff.mp hget with ⟨child, hchild, hget⟩
    exact ⟨hentered.left, child, hchild, ⟨entry, hget, hfile⟩, hentered.right, hadmitted⟩
  · rintro ⟨hexcluded, child, hchild, ⟨entry, hget, hfile⟩, hentered, hadmitted⟩
    refine ⟨⟨entry, ?_, hfile⟩, List.forall_mem_cons.mpr ⟨hexcluded, hentered⟩, hadmitted⟩
    exact Option.bind_eq_some_iff.mpr ⟨child, hchild, hget⟩

/-!
## Paths that are too long
-/

theorem byteLength_append (s t : Text) :
    FileTree.byteLength (s ++ t) = FileTree.byteLength s + FileTree.byteLength t := by
  simp [FileTree.byteLength, Utf8.encodeName]

theorem byteLength_replicate (c : CodePoint) (n : Nat) :
    FileTree.byteLength (List.replicate n c) = n * FileTree.byteLength [c] := by
  induction n with
  | zero => rw [Nat.zero_mul]; rfl
  | succ n ih =>
      rw [List.replicate_succ, ← List.singleton_append, byteLength_append, ih, Nat.succ_mul,
        Nat.add_comm]

theorem byteLength_join_replicate (name : Text) (n : Nat) :
    FileTree.byteLength (Text.join "/" (List.replicate (n + 1) name)) =
      n * (FileTree.byteLength name + 1) + FileTree.byteLength name := by
  induction n with
  | zero =>
      show FileTree.byteLength name = 0 * _ + _
      rw [Nat.zero_mul, Nat.zero_add]
  | succ n ih =>
      have hslash : FileTree.byteLength "/" = 1 := rfl
      rw [List.replicate_succ, Text.join_cons _ _ (by simp), byteLength_append, byteLength_append,
        ih, hslash, Nat.succ_mul]
      omega

/-- Going on to a plain name makes a path longer by that name at least. -/
theorem byteLength_add_le_join (path : Text) (hname : Path.IsPlain name) :
    FileTree.byteLength path + FileTree.byteLength name ≤
      FileTree.byteLength (Path.join path name) := by
  unfold Path.join
  rw [Path.startsWith_slash (Path.stops_isSlash_of_plain hname)]
  simp only [Bool.false_eq_true, if_false]
  split
  case isTrue => rw [byteLength_append]
  case isFalse =>
    rw [byteLength_append, byteLength_append]
    omega

/-!
## All directories
-/

theorem mem_places_iff_of_not_directory {shown : Prop} (h : node.isDirectory = false) :
    place ∈ node.places tree rule path ↔ node.Reaches tree rule path file ∧ shown := by
  refine iff_of_false ?_ ?_
  · intro hplace
    rcases exists_of_mem_places hplace with ⟨_, _, _, rfl, _⟩
    cases h
  · rintro ⟨hreaches, _⟩
    rw [hreaches.isDirectory] at h
    cases h

/-- The walk lists the files that are reached through open directories. -/
theorem mem_places_iff (hnamed : node.IsNamed) :
    file.toLocation ∈ node.places tree rule path ↔
      node.Reaches tree rule path file ∧ tree.IsOpen path file.directories := by
  rcases file with ⟨directories, name⟩
  induction directories generalizing node path with
  | nil =>
      cases hdirectory : node.isDirectory with
      | false => exact mem_places_iff_of_not_directory hdirectory
      | true =>
          rcases exists_of_isDirectory hdirectory with ⟨entries, rfl⟩
          rw [reaches_nil_iff (isNamed_directory_iff.mp hnamed).left, FileTree.isOpen_nil_iff,
            and_comm]
          exact singleton_mem_places_iff
  | cons first directories ih =>
      cases hdirectory : node.isDirectory with
      | false => exact mem_places_iff_of_not_directory hdirectory
      | true =>
          rcases exists_of_isDirectory hdirectory with ⟨entries, rfl⟩
          rcases isNamed_directory_iff.mp hnamed with ⟨hnodup, hentries⟩
          have hplace : FilePlace.toLocation ⟨directories, name⟩ ≠ [] := by
            simp [FilePlace.toLocation]
          have hbelow : ∀ {child}, (Node.directory entries).child? first = some child →
              (FilePlace.toLocation ⟨directories, name⟩ ∈
                  child.places tree rule (Path.join path first) ↔
                child.Reaches tree rule (Path.join path first) ⟨directories, name⟩ ∧
                  tree.IsOpen (Path.join path first) directories) :=
            fun hchild => ih (hentries _ (mem_of_child? hchild)).right
          rw [show FilePlace.toLocation ⟨first :: directories, name⟩ =
              first :: FilePlace.toLocation ⟨directories, name⟩ from rfl,
            cons_mem_places_iff hnodup hplace, reaches_cons_iff, FileTree.isOpen_cons_iff]
          constructor
          · rintro ⟨hopen, hexcluded, child, hchild, hmem⟩
            rcases (hbelow hchild).mp hmem with ⟨hreaches, hmore⟩
            exact ⟨⟨hexcluded, child, hchild, hreaches⟩, hopen, hmore⟩
          · rintro ⟨⟨hexcluded, child, hchild, hreaches⟩, hopen, hmore⟩
            exact ⟨hopen, hexcluded, child, hchild, (hbelow hchild).mpr ⟨hreaches, hmore⟩⟩

end Node

end ImportAtlas
