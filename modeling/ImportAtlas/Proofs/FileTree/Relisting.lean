import ImportAtlas.Proofs.FileTree.Named

/-!
# Other listings of a tree

The system may list the entries of a directory in any order.  What a path leads to does not depend
on that order, since the entries of one directory have different names: the same paths lead to the
same places in every listing of a tree.  This is shown by counting down the links on the way and,
between two of them, the names.
-/

namespace ImportAtlas

namespace Node

/-- The same tree, with the entries of any of its directories listed in another order. -/
inductive Relisted : Node → Node → Prop
  | refl (node : Node) : Relisted node node
  | listing {entries others : List (Text × Node)} (h : entries.Perm others) :
      Relisted (.directory entries) (.directory others)
  | inside {node other : Node} (before after : List (Text × Node)) (name : Text)
      (h : Relisted node other) :
      Relisted (.directory (before ++ (name, node) :: after))
        (.directory (before ++ (name, other) :: after))
  | trans {first second third : Node} (h : Relisted first second) (h' : Relisted second third) :
      Relisted first third

def face : Node → Node
  | .directory _ => .directory []
  | node => node

/-- The same names lead to the same entries, as far as these can be seen. -/
def Agrees (node other : Node) : Prop :=
  ∀ location, (node.get? location).map face = (other.get? location).map face

variable {node other child : Node} {name known : Text}
  {entries others before after : List (Text × Node)}
  {location : Location}

/-!
## Entries of a directory
-/

theorem child?_of_perm (hnames : (entries.map (·.1)).Nodup) (h : entries.Perm others) :
    (Node.directory entries).child? name = (Node.directory others).child? name := by
  have hnames' : (others.map (·.1)).Nodup := (h.map _).nodup_iff.mp hnames
  ext child
  constructor
  · intro hchild
    exact child?_of_mem hnames' (h.mem_iff.mp (mem_of_child? hchild))
  · intro hchild
    exact child?_of_mem hnames (h.mem_iff.mpr (mem_of_child? hchild))

theorem child?_between (hnames : ((before ++ (known, node) :: after).map (·.1)).Nodup) :
    (Node.directory (before ++ (known, node) :: after)).child? name =
      if known = name then some node else (Node.directory (before ++ after)).child? name := by
  split
  case isTrue hsame =>
    subst hsame
    exact child?_of_mem hnames (by simp)
  case isFalse hother => simp [Node.child?, List.find?_append, hother]

/-!
## Relisted trees
-/

theorem Relisted.isNamed (h : node.Relisted other) (hnamed : node.IsNamed) : other.IsNamed := by
  induction h with
  | refl => exact hnamed
  | listing hperm =>
      rw [isNamed_directory_iff] at hnamed ⊢
      refine ⟨(hperm.map _).nodup_iff.mp hnamed.left, fun entry hentry => ?_⟩
      exact hnamed.right entry (hperm.mem_iff.mpr hentry)
  | inside before after name _ ih =>
      rw [isNamed_directory_iff] at hnamed ⊢
      refine ⟨by simpa using hnamed.left, ?_⟩
      have hall := hnamed.right
      simp only [List.forall_mem_append, List.forall_mem_cons] at hall ⊢
      exact ⟨hall.left, ⟨hall.right.left.left, ih hall.right.left.right⟩, hall.right.right⟩
  | trans _ _ ih ih' => exact ih' (ih hnamed)

theorem Relisted.agrees (h : node.Relisted other) (hnamed : node.IsNamed) : node.Agrees other := by
  induction h with
  | refl => exact fun _ => rfl
  | listing hperm =>
      have hnames := (isNamed_directory_iff.mp hnamed).left
      intro location
      cases location with
      | nil => rfl
      | cons name location => simp only [get?, child?_of_perm hnames hperm]
  | @inside node other before after known hinner ih =>
      have hnamed' := (Relisted.inside before after known hinner).isNamed hnamed
      rw [isNamed_directory_iff] at hnamed hnamed'
      intro location
      cases location with
      | nil => rfl
      | cons name location =>
          simp only [get?, child?_between hnamed.left, child?_between hnamed'.left]
          split
          case isTrue => exact ih (hnamed.right (known, node) (by simp)).right location
          case isFalse => rfl
  | trans hfirst _ ih ih' =>
      intro location
      exact (ih hnamed location).trans (ih' (hfirst.isNamed hnamed) location)

/-!
## Trees that agree
-/

theorem isDirectory_of_face_eq (h : node.face = other.face) :
    node.isDirectory = other.isDirectory := by
  cases node <;> cases other <;> first | rfl | cases h

theorem eq_of_face_eq (h : node.face = other.face) (hnode : node.isDirectory = false) :
    other = node := by
  have hother : other.isDirectory = false := isDirectory_of_face_eq h ▸ hnode
  cases node with
  | directory entries => cases hnode
  | file content => cases other <;> first | exact h.symm | cases hother
  | link target => cases other <;> first | exact h.symm | cases hother
  | device isFull => cases other <;> first | exact h.symm | cases hother

theorem Agrees.get?_eq_none (h : node.Agrees other) (hget : node.get? location = none) :
    other.get? location = none := by
  have hface := h location
  rw [hget] at hface
  simpa using hface.symm

/-- Of a directory another listing is found, and every other entry as it is. -/
theorem Agrees.exists_get? (h : node.Agrees other) (hget : node.get? location = some child) :
    ∃ found, other.get? location = some found ∧ child.face = found.face := by
  have hface := h location
  rw [hget] at hface
  rcases Option.map_eq_some_iff.mp hface.symm with ⟨found, hfound, hsame⟩
  exact ⟨found, hfound, hsame.symm⟩

theorem Agrees.cases (h : node.Agrees other) (location : Location) :
    (∃ entries others, node.get? location = some (.directory entries) ∧
        other.get? location = some (.directory others)) ∨
      other.get? location = node.get? location := by
  cases hget : node.get? location with
  | none => exact Or.inr (h.get?_eq_none hget)
  | some child =>
      rcases h.exists_get? hget with ⟨found, hfound, hface⟩
      cases hchild : child.isDirectory with
      | false => exact Or.inr (by rw [hfound, eq_of_face_eq hface hchild])
      | true =>
          have hfound' : found.isDirectory = true := isDirectory_of_face_eq hface ▸ hchild
          rcases exists_of_isDirectory hchild with ⟨entries, rfl⟩
          rcases exists_of_isDirectory hfound' with ⟨others, rfl⟩
          exact Or.inl ⟨entries, others, rfl, hfound⟩

end Node

def Place.face : Place → Place
  | .entry location node => .entry location node.face
  | .free directory name => .free directory name

namespace FileTree

open Node

variable {root other : Node} {quest : Quest} {links : Nat} {base : Location} {names : List Text}

theorem map_ite {α β γ : Type} {p : Prop} [Decidable p] {f : α → β} {a b a' b' : Except γ α}
    (hyes : p → a.map f = a'.map f) (hno : ¬ p → b.map f = b'.map f) :
    (if p then a else b).map f = (if p then a' else b').map f := by
  split_ifs with h
  · exact hyes h
  · exact hno h

/-- Routes lead to the same places in trees that agree. -/
theorem follow_of_agrees (h : root.Agrees other) :
    (follow other quest links base names).map Place.face =
      (follow root quest links base names).map Place.face := by
  induction links using Nat.strongRecOn generalizing base names with
  | ind links hfewer =>
      induction names generalizing base with
      | nil =>
          cases hget : root.get? base with
          | none => rw [follow, follow, hget, h.get?_eq_none hget]
          | some node =>
              rcases h.exists_get? hget with ⟨found, hfound, hface⟩
              rw [follow, follow, hget, hfound]
              simp [Except.map, Place.face, hface]
      | cons name rest ih =>
          rw [follow, follow]
          refine map_ite (fun _ => ih) fun _ => ?_
          refine map_ite (fun _ => ih) fun _ => ?_
          refine map_ite (fun _ => rfl) fun _ => ?_
          refine map_ite (fun _ => rfl) fun _ => ?_
          rw [← get?_snoc, ← get?_snoc]
          rcases h.cases (base ++ [name]) with ⟨entries, others, hentries, hothers⟩ | hsame
          · rw [hentries, hothers]
            exact map_ite (fun _ => rfl) fun _ => ih
          · rw [hsame]
            cases root.get? (base ++ [name]) with
            | none => rfl
            | some child =>
                cases child with
                | directory entries => exact map_ite (fun _ => rfl) fun _ => ih
                | link target =>
                    refine map_ite (fun _ => rfl) fun _ => ?_
                    cases links with
                    | zero => rfl
                    | succ fewer => exact hfewer fewer (Nat.lt_succ_self fewer)
                | file content => rfl
                | device isFull => rfl

structure Relisted (tree other : FileTree) : Prop where
  root : tree.root.Relisted other.root
  here : other.here = tree.here
  host : other.host = tree.host

/-- The same locations lead to the same entries, relative paths start at the same one, and so far as
the machine is concerned there is no difference. -/
structure Agrees (tree other : FileTree) : Prop where
  root : tree.root.Agrees other.root
  here : other.here = tree.here
  host : other.host = tree.host

variable {tree second : FileTree} {path : Text} {location : Location} {node : Node}

theorem Relisted.agrees (h : tree.Relisted second) (htree : tree.root.IsNamed) :
    tree.Agrees second :=
  ⟨h.root.agrees htree, h.here, h.host⟩

theorem Agrees.symm (h : tree.Agrees second) : second.Agrees tree :=
  ⟨fun location => (h.root location).symm, h.here.symm, h.host.symm⟩

theorem Agrees.place (h : tree.Agrees second) (quest : Quest) (path : Text) :
    (second.place quest path).map Place.face = (tree.place quest path).map Place.face := by
  unfold FileTree.place
  rw [h.here]
  refine map_ite (fun _ => rfl) fun _ => ?_
  exact map_ite (fun _ => rfl) fun _ => follow_of_agrees h.root

theorem Agrees.exists_entry (h : tree.Agrees second)
    (hentry : tree.entry path = .ok (location, node)) :
    ∃ found, second.entry path = .ok (location, found) ∧ node.face = found.face := by
  have hplace := h.place .target path
  unfold entry at hentry ⊢
  split at hentry
  case h_1 hfound =>
    cases hentry
    rw [hfound] at hplace
    cases hother : second.place .target path with
    | error fault =>
        rw [hother] at hplace
        cases hplace
    | ok place =>
        rw [hother] at hplace
        cases place with
        | free directory name => cases hplace
        | entry location found =>
            simp only [Except.map, Place.face, Except.ok.injEq, Place.entry.injEq] at hplace
            rcases hplace with ⟨rfl, hface⟩
            exact ⟨found, rfl, hface.symm⟩
  case h_2 => cases hentry
  case h_3 => cases hentry

theorem Agrees.leadsToDirectory (h : tree.Agrees second) :
    second.leadsToDirectory path = tree.leadsToDirectory path := by
  have hforward : ∀ {tree second : FileTree}, tree.Agrees second →
      tree.leadsToDirectory path = true → second.leadsToDirectory path = true := by
    intro tree second h hleads
    unfold FileTree.leadsToDirectory look at hleads ⊢
    split at hleads
    case h_1 hlook =>
      rcases attempt_eq_ok_iff.mp hlook with ⟨hseen, hentry⟩
      rcases h.exists_entry hentry with ⟨found, hfound, hface⟩
      rw [attempt_of_none (by rw [h.host, hseen]), hfound, ← hleads]
      exact (isDirectory_of_face_eq hface).symm
    case h_2 => cases hleads
  rw [Bool.eq_iff_iff]
  exact ⟨hforward h.symm, hforward h⟩

theorem Agrees.isClosed (h : tree.Agrees second) (path : Text) :
    second.isClosed path = tree.isClosed path := by
  unfold FileTree.isClosed
  rw [h.host]

end FileTree

end ImportAtlas
