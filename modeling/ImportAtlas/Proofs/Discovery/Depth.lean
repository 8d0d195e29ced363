import ImportAtlas.Proofs.Discovery.Reached

/-!
# How deep a walk goes

From a directory that is open to it a walk steps down to each directory among the entries and to
each link to one, unless the name is excluded; from a link it goes no further.  The depth of a walk
is the number of steps on the longest way down.
-/

namespace ImportAtlas

namespace Node

/-- The walk of a directory steps down to a place: a directory is there, or a link to one. -/
structure StepsTo (tree : FileTree) (rule : WalkRule) (path : Text) (node : Node)
    (place : FilePlace) : Prop where
  found : ∃ entry, node.get? place.toLocation = some entry ∧ ¬ entry.IsFile tree (place.path path)
  entered : ∀ name ∈ place.toLocation, name ∉ rule.excluded
  isOpen : tree.IsOpen path place.directories

variable {tree : FileTree} {rule : WalkRule} {path name next : Text} {names : Location}
  {entries : List (Text × Node)} {node child : Node} {place : FilePlace} {n : Nat}

theorem not_isFile_directory : ¬ (Node.directory entries).IsFile tree path :=
  fun h => nomatch h.not_directory

theorem StepsTo.isDirectory (h : node.StepsTo tree rule path place) : node.isDirectory = true := by
  rcases place with ⟨directories, name⟩
  rcases h.found with ⟨entry, hget, _⟩
  cases node with
  | directory entries => rfl
  | file content => cases directories <;> cases hget
  | link target => cases directories <;> cases hget
  | device isFull => cases directories <;> cases hget

theorem stepsTo_nil_iff : (Node.directory entries).StepsTo tree rule path ⟨[], name⟩ ↔
    tree.isClosed path = false ∧ name ∉ rule.excluded ∧
      ∃ child, (Node.directory entries).child? name = some child ∧
        ¬ child.IsFile tree (Path.join path name) := by
  have hget : (Node.directory entries).get? (FilePlace.toLocation ⟨[], name⟩) =
      (Node.directory entries).child? name := by
    simp [FilePlace.toLocation, get?]
  constructor
  · rintro ⟨⟨child, hfound, hchild⟩, hentered, hopen⟩
    exact ⟨hopen.not_closed, hentered name (List.mem_singleton_self _), child, hget ▸ hfound, hchild⟩
  · rintro ⟨hopen, hentered, child, hchild, hdirectory⟩
    exact ⟨⟨child, hget ▸ hchild, hdirectory⟩, by simpa [FilePlace.toLocation] using hentered,
      FileTree.isOpen_nil_iff.mpr hopen⟩

theorem stepsTo_cons_iff :
    (Node.directory entries).StepsTo tree rule path ⟨next :: names, name⟩ ↔
      tree.isClosed path = false ∧ next ∉ rule.excluded ∧
        ∃ child, (Node.directory entries).child? next = some child ∧
          child.StepsTo tree rule (Path.join path next) ⟨names, name⟩ := by
  constructor
  · rintro ⟨⟨entry, hget, hdirectory⟩, hentered, hopen⟩
    rcases Option.bind_eq_some_iff.mp hget with ⟨child, hchild, hget⟩
    rcases List.forall_mem_cons.mp hentered with ⟨hnext, hentered⟩
    rcases FileTree.isOpen_cons_iff.mp hopen with ⟨hpath, hopen⟩
    exact ⟨hpath, hnext, child, hchild, ⟨entry, hget, hdirectory⟩, hentered, hopen⟩
  · rintro ⟨hpath, hnext, child, hchild, ⟨entry, hget, hdirectory⟩, hentered, hopen⟩
    exact ⟨⟨entry, Option.bind_eq_some_iff.mpr ⟨child, hchild, hget⟩, hdirectory⟩,
      List.forall_mem_cons.mpr ⟨hnext, hentered⟩, FileTree.isOpen_cons_iff.mpr ⟨hpath, hopen⟩⟩

theorem lt_depthOfEntries_iff : n < depthOfEntries tree rule path entries ↔
    ∃ name child, (name, child) ∈ entries ∧ name ∉ rule.excluded ∧
      ¬ child.IsFile tree (Path.join path name) ∧
      n ≤ child.depth tree rule (Path.join path name) := by
  induction entries with
  | nil => simp [depthOfEntries]
  | cons entry entries ih =>
      rcases entry with ⟨name, node⟩
      rw [depthOfEntries]
      simp only [List.mem_cons, Prod.mk.injEq, ← isListed_iff]
      split
      case isTrue hentered =>
        have hkept : ¬ node.isListed tree (Path.join path name) = true ∧ name ∉ rule.excluded := by
          simpa using hentered
        have hmax : ∀ a b : Nat, n < max (a + 1) b ↔ n ≤ a ∨ n < b := by omega
        rw [hmax, ih]
        constructor
        · rintro (hdeep | ⟨other, child, hmem, hrest⟩)
          · exact ⟨name, node, Or.inl ⟨rfl, rfl⟩, hkept.right, hkept.left, hdeep⟩
          · exact ⟨other, child, Or.inr hmem, by simpa [← isListed_iff] using hrest⟩
        · rintro ⟨other, child, ⟨rfl, rfl⟩ | hmem, hexcluded, hlisted, hdeep⟩
          · exact Or.inl hdeep
          · exact Or.inr ⟨other, child, hmem, hexcluded, by rwa [← isListed_iff], hdeep⟩
      case isFalse hpassed =>
        rw [ih]
        constructor
        · rintro ⟨other, child, hmem, hrest⟩
          exact ⟨other, child, Or.inr hmem, by simpa [← isListed_iff] using hrest⟩
        · rintro ⟨other, child, ⟨rfl, rfl⟩ | hmem, hexcluded, hlisted, hdeep⟩
          · simp [hlisted, hexcluded] at hpassed
          · exact ⟨other, child, hmem, hexcluded, by rwa [← isListed_iff], hdeep⟩

theorem lt_depth_directory_iff (hnodup : (entries.map (·.1)).Nodup) :
    n < (Node.directory entries).depth tree rule path ↔ tree.isClosed path = false ∧
      ∃ name child, (Node.directory entries).child? name = some child ∧ name ∉ rule.excluded ∧
        ¬ child.IsFile tree (Path.join path name) ∧
        n ≤ child.depth tree rule (Path.join path name) := by
  have hmem : ∀ name child, (name, child) ∈ entries ↔
      (Node.directory entries).child? name = some child :=
    fun name child => ⟨child?_of_mem hnodup, mem_of_child?⟩
  rw [depth]
  cases hclosed : tree.isClosed path with
  | true => simp
  | false => simp [lt_depthOfEntries_iff, hmem]

theorem depth_of_not_directory (h : node.isDirectory = false) :
    node.depth tree rule path = 0 := by
  cases node with
  | directory entries => cases h
  | file content => rfl
  | link target => rfl
  | device isFull => rfl

theorem exists_stepsTo_iff :
    (∃ place, (Node.directory entries).StepsTo tree rule path place ∧
        n ≤ place.directories.length) ↔
      tree.isClosed path = false ∧
        ∃ name child, (Node.directory entries).child? name = some child ∧ name ∉ rule.excluded ∧
          ¬ child.IsFile tree (Path.join path name) ∧ ∀ m, n = m + 1 →
            ∃ place, child.StepsTo tree rule (Path.join path name) place ∧
              m ≤ place.directories.length := by
  constructor
  · rintro ⟨⟨_ | ⟨first, directories⟩, name⟩, hsteps, hlength⟩
    · rcases stepsTo_nil_iff.mp hsteps with ⟨hopen, hexcluded, child, hchild, hdirectory⟩
      refine ⟨hopen, name, child, hchild, hexcluded, hdirectory, ?_⟩
      rintro m rfl
      cases hlength
    · rcases stepsTo_cons_iff.mp hsteps with ⟨hopen, hexcluded, child, hchild, hsteps⟩
      have hdirectory : ¬ child.IsFile tree (Path.join path first) := by
        rcases exists_of_isDirectory hsteps.isDirectory with ⟨inner, rfl⟩
        exact not_isFile_directory
      refine ⟨hopen, first, child, hchild, hexcluded, hdirectory, ?_⟩
      rintro m rfl
      exact ⟨⟨directories, name⟩, hsteps, Nat.le_of_succ_le_succ hlength⟩
  · rintro ⟨hopen, name, child, hchild, hexcluded, hdirectory, hmore⟩
    cases n with
    | zero =>
        exact ⟨⟨[], name⟩, stepsTo_nil_iff.mpr ⟨hopen, hexcluded, child, hchild, hdirectory⟩,
          Nat.zero_le _⟩
    | succ n =>
        rcases hmore n rfl with ⟨place, hsteps, hlength⟩
        exact ⟨⟨name :: place.directories, place.name⟩,
          stepsTo_cons_iff.mpr ⟨hopen, hexcluded, child, hchild, hsteps⟩,
          Nat.succ_le_succ hlength⟩

/-- A walk goes deeper than a number of steps when it steps down to a place behind that many
directories. -/
theorem lt_depth_iff (hnamed : node.IsNamed) : n < node.depth tree rule path ↔
    ∃ place, node.StepsTo tree rule path place ∧ n ≤ place.directories.length := by
  induction n using Nat.strongRecOn generalizing node path with
  | ind n ih =>
      cases hdirectory : node.isDirectory with
      | false =>
          refine iff_of_false (by rw [depth_of_not_directory hdirectory]; omega) ?_
          rintro ⟨place, hsteps, _⟩
          rw [hsteps.isDirectory] at hdirectory
          cases hdirectory
      | true =>
          rcases exists_of_isDirectory hdirectory with ⟨entries, rfl⟩
          rcases isNamed_directory_iff.mp hnamed with ⟨hnodup, hentries⟩
          have hbelow : ∀ name child, (Node.directory entries).child? name = some child →
              (n ≤ child.depth tree rule (Path.join path name) ↔ ∀ m, n = m + 1 →
                ∃ place, child.StepsTo tree rule (Path.join path name) place ∧
                  m ≤ place.directories.length) := by
            intro name child hchild
            have hnamed := (hentries _ (mem_of_child? hchild)).right
            cases n with
            | zero => simp
            | succ n => simpa [Nat.succ_le_iff] using ih n (Nat.lt_succ_self n) hnamed
          rw [lt_depth_directory_iff hnodup, exists_stepsTo_iff]
          constructor
          · rintro ⟨hopen, name, child, hchild, hexcluded, hdirectory, hdeep⟩
            exact ⟨hopen, name, child, hchild, hexcluded, hdirectory,
              (hbelow name child hchild).mp hdeep⟩
          · rintro ⟨hopen, name, child, hchild, hexcluded, hdirectory, hdeep⟩
            exact ⟨hopen, name, child, hchild, hexcluded, hdirectory,
              (hbelow name child hchild).mpr hdeep⟩

end Node

namespace FileTree

variable {tree : FileTree} {rule : WalkRule} {root : Text} {n : Nat}

def StepsTo (tree : FileTree) (rule : WalkRule) (root : Text) (place : FilePlace) : Prop :=
  ∃ location node, tree.entry root = .ok (location, node) ∧ node.StepsTo tree rule root place

/-- The machine lets the walk below a path go down through fewer directories than it would. -/
def OutrunsMachine (tree : FileTree) (rule : WalkRule) (root : Text) : Prop :=
  ∃ limit place, tree.host.walkDepth = some limit ∧ tree.StepsTo rule root place ∧
    limit ≤ place.directories.length

theorem lt_walkSteps_iff (htree : tree.root.IsNamed) : n < tree.walkSteps rule root ↔
    ∃ place, tree.StepsTo rule root place ∧ n ≤ place.directories.length := by
  unfold walkSteps StepsTo
  cases hentry : tree.entry root with
  | error fault => simp
  | ok found =>
      rcases found with ⟨location, node⟩
      dsimp only
      rw [Node.lt_depth_iff (htree.get? (get?_of_entry hentry))]
      simp

theorem walksTooDeep_iff (htree : tree.root.IsNamed) :
    tree.walksTooDeep rule root = true ↔ tree.OutrunsMachine rule root := by
  unfold walksTooDeep OutrunsMachine
  cases tree.host.walkDepth with
  | none => simp
  | some limit => simp [lt_walkSteps_iff htree]

end FileTree

end ImportAtlas
