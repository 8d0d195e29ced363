import ImportAtlas.Proofs.FileTree.Route

/-!
# Where the walked files are

The walk spells every file as it goes.  Here the same walk only notes the names that it descends
through.  Each list of names leads to an entry of the tree that is no directory, and the spelling
of the file follows from these names alone: it is that of one path read from the root, however the
root itself is spelled.
-/

namespace ImportAtlas

namespace Node

mutual

/-- The names through which the walk of a directory descends to each listed file, where a path
leads to the directory. -/
def places (tree : FileTree) (rule : WalkRule) (path : Text) : Node → List Location
  | .directory entries =>
      if tree.isClosed path then []
      else
        (fileNames tree rule path entries).map ([·]) ++
          ((placesOfEntries tree rule path entries).mergeSort
            fun a b => Text.le a.1 b.1).flatMap (·.2)
  | _ => []

def placesOfEntries (tree : FileTree) (rule : WalkRule) (path : Text) :
    List (Text × Node) → List (Text × List Location)
  | [] => []
  | (name, node) :: rest =>
      if node.isDirectory && !rule.excluded.contains name then
        (name, (places tree rule (Path.join path name) node).map (name :: ·)) ::
          placesOfEntries tree rule path rest
      else placesOfEntries tree rule path rest

end

variable {tree : FileTree} {rule : WalkRule} {path name : Text} {place : Location}
  {entries : List (Text × Node)} {node : Node}

/-!
## Places are in the tree
-/

/-- The place leads from a directory to an entry that is no directory. -/
def HasPlace (node : Node) (place : Location) : Prop :=
  place ≠ [] ∧ (∀ name ∈ place, Path.IsPlain name) ∧
    ∃ found, node.get? place = some found ∧ found.isDirectory = false

theorem exists_of_mem_fileNames (h : name ∈ fileNames tree rule path entries) :
    ∃ node, (name, node) ∈ entries ∧ node.isDirectory = false := by
  unfold fileNames at h
  rw [List.mem_mergeSort, List.mem_map] at h
  rcases h with ⟨⟨_, node⟩, hmem, rfl⟩
  rcases List.mem_filter.mp hmem with ⟨hentry, hlisted⟩
  refine ⟨node, hentry, ?_⟩
  cases node with
  | directory entries => simp [isListed] at hlisted
  | file content => rfl
  | link target => rfl
  | device isFull => rfl

theorem exists_of_mem_placesOfEntries {places : List Location}
    (h : (name, places) ∈ placesOfEntries tree rule path entries) :
    ∃ node, (name, node) ∈ entries ∧
      places = (node.places tree rule (Path.join path name)).map (name :: ·) := by
  induction entries with
  | nil => cases h
  | cons entry entries ih =>
      rcases entry with ⟨known, node⟩
      rw [placesOfEntries] at h
      split at h
      case isTrue =>
        rcases List.mem_cons.mp h with heq | h
        · cases heq
          exact ⟨node, by simp, rfl⟩
        · rcases ih h with ⟨other, hmem, hplaces⟩
          exact ⟨other, by simp [hmem], hplaces⟩
      case isFalse =>
        rcases ih h with ⟨other, hmem, hplaces⟩
        exact ⟨other, by simp [hmem], hplaces⟩

/-- The walk goes on from an entry, or ends at one that is no directory. -/
theorem exists_of_mem_places (h : place ∈ node.places tree rule path) :
    ∃ entries name found, node = .directory entries ∧ (name, found) ∈ entries ∧
      (place = [name] ∧ found.isDirectory = false ∨
        ∃ rest, place = name :: rest ∧ rest ∈ found.places tree rule (Path.join path name)) := by
  cases node with
  | directory entries =>
      rw [places] at h
      split at h
      case isTrue => cases h
      case isFalse =>
        rcases List.mem_append.mp h with h | h
        · rcases List.mem_map.mp h with ⟨name, hname, rfl⟩
          rcases exists_of_mem_fileNames hname with ⟨found, hmem, hfile⟩
          exact ⟨entries, name, found, rfl, hmem, Or.inl ⟨rfl, hfile⟩⟩
        · rcases List.mem_flatMap.mp h with ⟨⟨name, inner⟩, hinner, hplace⟩
          rw [List.mem_mergeSort] at hinner
          rcases exists_of_mem_placesOfEntries hinner with ⟨found, hmem, rfl⟩
          rcases List.mem_map.mp hplace with ⟨rest, hrest, rfl⟩
          exact ⟨entries, name, found, rfl, hmem, Or.inr ⟨rest, rfl, hrest⟩⟩
  | file content => cases h
  | link target => cases h
  | device isFull => cases h

theorem hasPlace_of_mem_places (hnamed : node.IsNamed)
    (hplace : place ∈ node.places tree rule path) : node.HasPlace place := by
  induction place generalizing node path with
  | nil =>
      rcases exists_of_mem_places hplace with ⟨_, _, _, _, _, ⟨heq, _⟩ | ⟨_, heq, _⟩⟩
      · cases heq
      · cases heq
  | cons name place ih =>
      rcases exists_of_mem_places hplace with ⟨entries, known, found, rfl, hmem, hmore⟩
      rw [isNamed_directory_iff] at hnamed
      have hfound := hnamed.right (known, found) hmem
      have hchild := child?_of_mem hnamed.left hmem
      rcases hmore with ⟨heq, hfile⟩ | ⟨rest, heq, hrest⟩
      · cases heq
        refine ⟨by simp, by simpa using hfound.left, found, ?_, hfile⟩
        simp [Node.get?, hchild]
      · cases heq
        rcases ih hfound.right hrest with ⟨_, hplain, last, hget, hfile⟩
        refine ⟨by simp, List.forall_mem_cons.mpr ⟨hfound.left, hplain⟩, last, ?_, hfile⟩
        simp [Node.get?, hchild, hget]

/-!
## Spellings of places
-/

def spellPlace (path : Text) (place : Location) : Text :=
  Path.underRoot path (Text.join "/" place)

theorem spellPlace_join (hpath : path ≠ []) (hname : Path.IsPlain name)
    (hplace : node.HasPlace place) :
    spellPlace (Path.join path name) place = spellPlace path (name :: place) :=
  Path.underRoot_join hpath hname hplace.right.left hplace.left

theorem mergeSort_spellPlaces (path : Text) (found : List (Text × List Location)) :
    (found.map fun entry => (entry.1, entry.2.map (spellPlace path))).mergeSort
        (fun a b => Text.le a.1 b.1) =
      (found.mergeSort fun a b => Text.le a.1 b.1).map fun entry =>
        (entry.1, entry.2.map (spellPlace path)) := by
  symm
  apply List.map_mergeSort
  intro a _ b _
  rfl

mutual

theorem walk_eq_map_places {start : Text} (hstart : start ≠ []) :
    (node : Node) → node.IsNamed →
      node.walk tree rule start = (node.places tree rule start).map (spellPlace start)
  | .directory entries, hnamed => by
      have hentries :=
        walkEntries_eq_map_places hstart entries (isNamed_directory_iff.mp hnamed).right
      rw [walk, places]
      split
      case isTrue => rfl
      case isFalse =>
        rw [List.map_append, List.map_map, List.map_flatMap, hentries, mergeSort_spellPlaces,
          List.flatMap_map]
        rfl
  | .file _, _ => rfl
  | .link _, _ => rfl
  | .device _, _ => rfl

theorem walkEntries_eq_map_places {start : Text} (hstart : start ≠ []) :
    (entries : List (Text × Node)) → (∀ entry ∈ entries, Path.IsPlain entry.1 ∧ entry.2.IsNamed) →
      walkEntries tree rule start entries =
        (placesOfEntries tree rule start entries).map fun found =>
          (found.1, found.2.map (spellPlace start))
  | [], _ => rfl
  | (name, node) :: rest, hnamed => by
      rcases List.forall_mem_cons.mp hnamed with ⟨⟨hname, hnode⟩, hrest⟩
      have hjoin : Path.join start name ≠ [] :=
        Path.join_ne_nil hstart (Path.stops_isSlash_of_plain hname)
      have hinner := walk_eq_map_places hjoin node hnode
      have hmore := walkEntries_eq_map_places hstart rest hrest
      have hspell : (node.places tree rule (Path.join start name)).map
            (spellPlace (Path.join start name)) =
          (node.places tree rule (Path.join start name)).map
            (spellPlace start ∘ (name :: ·)) := by
        apply List.map_congr_left
        intro place hplace
        exact spellPlace_join hstart hname (hasPlace_of_mem_places hnode hplace)
      rw [walkEntries, placesOfEntries, hmore]
      split
      case isTrue => rw [List.map_cons, hinner, hspell, List.map_map]
      case isFalse => rfl

end

end Node

namespace FileTree

variable {tree : FileTree} {rule : WalkRule} {root : Text}

def places (tree : FileTree) (rule : WalkRule) (root : Text) : List Location :=
  match tree.entry root with
  | .ok (_, node) => node.places tree rule root
  | .error _ => []

theorem walk_eq_map_places (htree : tree.root.IsNamed) (hroot : tree.NamesDirectory root) :
    tree.walk rule root = (tree.places rule root).map (Node.spellPlace root) := by
  rcases hroot.exists_entry with ⟨location, entries, hentry⟩
  have hnamed : (Node.directory entries).IsNamed := htree.get? (get?_of_entry hentry)
  have hne : root ≠ [] := (entry_eq_ok_iff.mp hentry).left
  unfold walk places
  rw [hentry]
  exact Node.walk_eq_map_places hne _ hnamed

theorem hasPlace_of_mem_places (htree : tree.root.IsNamed) {place : Location}
    (hplace : place ∈ tree.places rule root) :
    ∃ location node, tree.entry root = .ok (location, node) ∧ node.HasPlace place := by
  unfold places at hplace
  split at hplace
  case h_1 location node hentry =>
    exact ⟨location, node, hentry,
      Node.hasPlace_of_mem_places (htree.get? (get?_of_entry hentry)) hplace⟩
  case h_2 => cases hplace

end FileTree

end ImportAtlas
