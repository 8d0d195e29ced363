import ImportAtlas.FileTree.Lookup
import ImportAtlas.Proofs.Path.Canonical

/-!
# Trees with proper names

In the tree of an operating system every name of an entry leads one directory down, and the entries
of one directory have different names.  What a path leads to is part of the tree, so its names are
proper as well.
-/

namespace ImportAtlas

instance (name : Text) : Decidable (Path.IsPlain name) :=
  decidable_of_iff
    (name ≠ [] ∧ name ≠ "." ∧ name ≠ ".." ∧ CodePoint.ofChar '/' ∉ name)
    ⟨fun ⟨nonempty, ne_here, ne_up, unslashed⟩ => ⟨nonempty, ne_here, ne_up, unslashed⟩,
      fun h => ⟨h.nonempty, h.ne_here, h.ne_up, h.unslashed⟩⟩

namespace Node

mutual

/-- The names in each directory of a tree have a property together. -/
def EveryListing (p : List Text → Prop) : Node → Prop
  | .directory entries => p (entries.map (·.1)) ∧ EveryListingBelow p entries
  | _ => True

def EveryListingBelow (p : List Text → Prop) : List (Text × Node) → Prop
  | [] => True
  | (_, node) :: rest => EveryListing p node ∧ EveryListingBelow p rest

end

/-- The entries of every directory have different names, each of which leads one directory down. -/
def IsNamed (node : Node) : Prop :=
  node.EveryListing fun names => names.Nodup ∧ ∀ name ∈ names, Path.IsPlain name

variable {node child : Node} {name : Text} {entries : List (Text × Node)} {location : Location}

theorem exists_of_isDirectory (h : node.isDirectory = true) :
    ∃ entries, node = .directory entries := by
  cases node with
  | directory entries => exact ⟨entries, rfl⟩
  | file content => cases h
  | link target => cases h
  | device isFull => cases h

theorem child?_of_mem (h : (entries.map (·.1)).Nodup) (hmem : (name, node) ∈ entries) :
    (Node.directory entries).child? name = some node := by
  induction entries with
  | nil => cases hmem
  | cons entry entries ih =>
      rw [List.map_cons, List.nodup_cons] at h
      simp only [Node.child?] at ih ⊢
      by_cases hsame : entry.1 = name
      · rcases List.mem_cons.mp hmem with heq | hmem
        · simp [← heq]
        · have hthere : name ∈ entries.map (·.1) := List.mem_map.mpr ⟨_, hmem, rfl⟩
          exact absurd (hsame ▸ hthere) h.left
      · rcases List.mem_cons.mp hmem with heq | hmem
        · exact absurd (heq ▸ rfl) hsame
        · simpa [hsame] using ih h.right hmem

theorem mem_of_child? (h : (Node.directory entries).child? name = some node) :
    (name, node) ∈ entries := by
  simp only [Node.child?, Option.map_eq_some_iff] at h
  rcases h with ⟨entry, hfind, rfl⟩
  have hname : entry.1 = name := by simpa using List.find?_some hfind
  rw [← hname]
  exact List.mem_of_find?_eq_some hfind

section Listings

variable {p : List Text → Prop}

theorem everyListingBelow_iff :
    EveryListingBelow p entries ↔ ∀ entry ∈ entries, entry.2.EveryListing p := by
  induction entries with
  | nil => simp [EveryListingBelow]
  | cons entry rest ih =>
      rcases entry with ⟨name, node⟩
      simp [EveryListingBelow, ih]

theorem everyListing_directory_iff : (directory entries).EveryListing p ↔
    p (entries.map (·.1)) ∧ ∀ entry ∈ entries, entry.2.EveryListing p := by
  rw [EveryListing, everyListingBelow_iff]

theorem EveryListing.child? (h : node.EveryListing p) (hchild : node.child? name = some child) :
    (∃ names, p names ∧ name ∈ names) ∧ child.EveryListing p := by
  cases node with
  | directory entries =>
      rw [everyListing_directory_iff] at h
      have hmem := mem_of_child? hchild
      exact ⟨⟨_, h.left, List.mem_map_of_mem hmem⟩, h.right _ hmem⟩
  | file content => cases hchild
  | link target => cases hchild
  | device isFull => cases hchild

theorem EveryListing.get? (h : node.EveryListing p) (hget : node.get? location = some child) :
    child.EveryListing p := by
  induction location generalizing node with
  | nil =>
      rw [Node.get?, Option.some.injEq] at hget
      exact hget ▸ h
  | cons name location ih =>
      rw [Node.get?, Option.bind_eq_some_iff] at hget
      rcases hget with ⟨next, hchild, hmore⟩
      exact ih (h.child? hchild).right hmore

/-- What all names in the directories have in common holds of the names that lead to an entry. -/
theorem EveryListing.forall_of_get? {q : Text → Prop} (h : node.EveryListing p)
    (hp : ∀ names, p names → ∀ name ∈ names, q name) (hget : node.get? location = some child) :
    ∀ name ∈ location, q name := by
  induction location generalizing node with
  | nil => simp
  | cons first location ih =>
      rcases Option.bind_eq_some_iff.mp hget with ⟨next, hnext, hget⟩
      rcases h.child? hnext with ⟨⟨names, hnames, hfirst⟩, hbelow⟩
      exact List.forall_mem_cons.mpr ⟨hp names hnames first hfirst, ih hbelow hget⟩

end Listings

theorem isNamed_directory_iff : (directory entries).IsNamed ↔ (entries.map (·.1)).Nodup ∧
    ∀ entry ∈ entries, Path.IsPlain entry.1 ∧ entry.2.IsNamed := by
  rw [IsNamed, everyListing_directory_iff, List.forall_mem_map, and_assoc, ← forall₂_and]
  rfl

theorem IsNamed.isPlain_of_get? (h : node.IsNamed) (hget : node.get? location = some child) :
    ∀ name ∈ location, Path.IsPlain name :=
  EveryListing.forall_of_get? h (fun _ hnames => hnames.right) hget

theorem IsNamed.get? (h : node.IsNamed) (hget : node.get? location = some child) :
    child.IsNamed :=
  EveryListing.get? h hget

theorem get?_snoc (location : Location) (name : Text) (node : Node) :
    node.get? (location ++ [name]) = (node.get? location).bind (·.child? name) := by
  rw [get?_append]
  cases node.get? location with
  | none => rfl
  | some found =>
      simp only [Option.bind_some, Node.get?]
      cases found.child? name <;> rfl

end Node

namespace FileTree

variable {root node : Node} {quest : Quest} {links : Nat} {base location : Location}
  {names : List Text} {tree : FileTree} {path : Text}

theorem get?_of_follow (h : follow root quest links base names = .ok (.entry location node)) :
    root.get? location = some node := by
  fun_induction follow root quest links base names <;> try cases h
  case case1 hget => exact hget
  case case3 ih => exact ih h
  case case4 ih => exact ih h
  case case9 hchild _ => rw [Node.get?_snoc, hchild]
  case case10 ih => exact ih h
  case case11 hchild _ => rw [Node.get?_snoc, hchild]
  case case13 ih => exact ih h
  case case14 hchild => rw [Node.get?_snoc, hchild]

theorem get?_of_entry (h : tree.entry path = .ok (location, node)) :
    tree.root.get? location = some node := by
  unfold entry place at h
  split at h
  case h_1 hplace =>
    cases h
    split_ifs at hplace
    exact get?_of_follow hplace
  case h_2 => cases h
  case h_3 => cases h

end FileTree

end ImportAtlas
