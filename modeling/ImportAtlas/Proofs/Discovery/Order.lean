import ImportAtlas.Proofs.Discovery.Places
import Mathlib.Data.List.Lex
import Mathlib.Data.List.Sort
import Mathlib.Data.Set.List

/-!
# The order of the walked files

A walked file is known by the directories that lead to it and by its own name.  The files of a
directory come before those of its subdirectories, and names are taken in the order of their code
points: this is the order of a dictionary over the directories, and within a directory the order of
the names.  Since it tells any two files apart, a list in this order has no repetitions and is
determined by its members.
-/

namespace ImportAtlas

namespace Text

def Before (s t : Text) : Prop := le s t = true ∧ s ≠ t

instance : Std.Asymm Before where
  asymm _ _ h h' := h.right (le_antisymm h.left h'.left)

theorem pairwise_before_mergeSort {α : Type} (name : α → Text) {items : List α}
    (h : (items.map name).Nodup) :
    (items.mergeSort fun a b => le (name a) (name b)).Pairwise
      fun a b => Before (name a) (name b) := by
  have hsorted : (items.mergeSort fun a b => le (name a) (name b)).Pairwise
      fun a b => le (name a) (name b) = true :=
    List.pairwise_mergeSort (fun a b c => le_trans (r := name a) (s := name b) (t := name c))
      (fun a b => le_total (name a) (name b)) items
  have hnodup :=
    ((List.mergeSort_perm items fun a b => le (name a) (name b)).map name).nodup_iff.mpr h
  exact hsorted.and (List.pairwise_map.mp hnodup)

end Text

/-- A file below a directory: the names of the directories through which it is reached, and its own
name. -/
structure FilePlace where
  directories : Location
  name : Text

namespace FilePlace

variable {file other : FilePlace} {place more : Location} {name next : Text}

def toLocation (file : FilePlace) : Location := file.directories ++ [file.name]

def Precedes (file other : FilePlace) : Prop :=
  List.Lex Text.Before file.directories other.directories ∨
    file.directories = other.directories ∧ Text.Before file.name other.name

instance : Std.Asymm Precedes where
  asymm file other h h' := by
    have hlex : Std.Asymm (List.Lex Text.Before) := List.Lex.asymm Text.Before
    rcases h with hdirectory | ⟨hsame, hname⟩
    · rcases h' with hdirectory' | ⟨hsame', _⟩
      · exact hlex.asymm _ _ hdirectory hdirectory'
      · rw [hsame'] at hdirectory
        exact hlex.asymm _ _ hdirectory hdirectory
    · rcases h' with hdirectory' | ⟨_, hname'⟩
      · rw [hsame] at hdirectory'
        exact hlex.asymm _ _ hdirectory' hdirectory'
      · exact Std.Asymm.asymm _ _ hname hname'

theorem nodup_of_pairwise {files : List FilePlace} (h : files.Pairwise Precedes) : files.Nodup := by
  refine h.imp fun hprecedes heq => ?_
  subst heq
  exact Std.Asymm.asymm _ _ hprecedes hprecedes

theorem eq_of_pairwise {files others : List FilePlace} (h : files.Pairwise Precedes)
    (h' : others.Pairwise Precedes) (hmem : ∀ file, file ∈ files ↔ file ∈ others) :
    files = others := by
  have hperm : files.Perm others :=
    (List.perm_ext_iff_of_nodup (nodup_of_pairwise h) (nodup_of_pairwise h')).mpr hmem
  exact hperm.eq_of_pairwise (fun _ _ _ _ hfirst hsecond =>
    absurd hsecond (Std.Asymm.asymm _ _ hfirst)) h h'

theorem toLocation_injective : Function.Injective toLocation := by
  intro file other h
  rcases file with ⟨directories, name⟩
  rcases other with ⟨directories', name'⟩
  rcases List.append_inj' h rfl with ⟨hdirectories, hname⟩
  rw [FilePlace.mk.injEq]
  exact ⟨hdirectories, List.singleton_inj.mp hname⟩

theorem exists_of_ne_nil (h : place ≠ []) : ∃ file : FilePlace, file.toLocation = place :=
  ⟨⟨place.dropLast, place.getLast h⟩, List.dropLast_append_getLast h⟩

end FilePlace

namespace Location

variable {place more : Location} {name next : Text}

def Precedes (place more : Location) : Prop :=
  ∃ file other : FilePlace, place = file.toLocation ∧ more = other.toLocation ∧ file.Precedes other

theorem precedes_toLocation_iff {file other : FilePlace} :
    Precedes file.toLocation other.toLocation ↔ file.Precedes other := by
  constructor
  · rintro ⟨first, second, hfile, hother, h⟩
    rw [FilePlace.toLocation_injective hfile, FilePlace.toLocation_injective hother]
    exact h
  · intro h
    exact ⟨file, other, rfl, rfl, h⟩

theorem precedes_singleton (h : Text.Before name next) : Precedes [name] [next] :=
  ⟨⟨[], name⟩, ⟨[], next⟩, rfl, rfl, Or.inr ⟨rfl, h⟩⟩

theorem precedes_of_ne_nil (name next : Text) (h : more ≠ []) : Precedes [name] (next :: more) := by
  rcases FilePlace.exists_of_ne_nil h with ⟨file, rfl⟩
  exact ⟨⟨[], name⟩, ⟨next :: file.directories, file.name⟩, rfl, rfl, Or.inl List.Lex.nil⟩

theorem precedes_of_before (h : Text.Before name next) (hplace : place ≠ []) (hmore : more ≠ []) :
    Precedes (name :: place) (next :: more) := by
  rcases FilePlace.exists_of_ne_nil hplace with ⟨file, rfl⟩
  rcases FilePlace.exists_of_ne_nil hmore with ⟨other, rfl⟩
  exact ⟨⟨name :: file.directories, file.name⟩, ⟨next :: other.directories, other.name⟩, rfl, rfl,
    Or.inl (List.Lex.rel h)⟩

theorem Precedes.cons (h : Precedes place more) (name : Text) :
    Precedes (name :: place) (name :: more) := by
  rcases h with ⟨file, other, rfl, rfl, h⟩
  refine ⟨⟨name :: file.directories, file.name⟩, ⟨name :: other.directories, other.name⟩, rfl, rfl,
    ?_⟩
  rcases h with hlex | ⟨hsame, hname⟩
  · exact Or.inl (List.Lex.cons hlex)
  · exact Or.inr ⟨congrArg (name :: ·) hsame, hname⟩

end Location

/-!
## The walk is in order
-/

namespace Node

variable {tree : FileTree} {rule : WalkRule} {path name : Text} {place : Location}
  {entries : List (Text × Node)} {node : Node}

theorem ne_nil_of_mem_places (h : place ∈ node.places tree rule path) : place ≠ [] := by
  rcases exists_of_mem_places h with ⟨_, _, _, _, _, ⟨rfl, _⟩ | ⟨_, rfl, _⟩⟩
  · exact List.cons_ne_nil _ _
  · exact List.cons_ne_nil _ _

theorem pairwise_fileNames (h : (entries.map (·.1)).Nodup) :
    (fileNames tree rule path entries).Pairwise Text.Before := by
  apply Text.pairwise_before_mergeSort id
  rw [List.map_id]
  exact (List.filter_sublist.map _).nodup h

theorem map_placesOfEntries_sublist (entries : List (Text × Node)) :
    ((placesOfEntries tree rule path entries).map (·.1)).Sublist (entries.map (·.1)) := by
  induction entries with
  | nil => exact List.Sublist.refl _
  | cons entry entries ih =>
      rcases entry with ⟨name, node⟩
      rw [placesOfEntries]
      split
      case isTrue => exact ih.cons_cons name
      case isFalse => exact ih.cons name

theorem pairwise_mergeSort_placesOfEntries (h : (entries.map (·.1)).Nodup) :
    ((placesOfEntries tree rule path entries).mergeSort fun a b => Text.le a.1 b.1).Pairwise
      fun a b => Text.Before a.1 b.1 :=
  Text.pairwise_before_mergeSort Prod.fst ((map_placesOfEntries_sublist entries).nodup h)

mutual

theorem pairwise_places : (node : Node) → node.IsNamed → (path : Text) →
    (node.places tree rule path).Pairwise Location.Precedes
  | .directory entries, hnamed, path => by
      rcases isNamed_directory_iff.mp hnamed with ⟨hnodup, hentries⟩
      have hbelow := pairwise_placesOfEntries entries hentries path
      rw [places]
      split
      case isTrue => exact List.Pairwise.nil
      case isFalse =>
        rw [List.pairwise_append]
        refine ⟨?files, ?directories, ?between⟩
        case files =>
          rw [List.pairwise_map]
          exact (pairwise_fileNames hnodup).imp Location.precedes_singleton
        case directories =>
          rw [List.pairwise_flatMap]
          refine ⟨fun found hfound => ?_, ?_⟩
          · exact (hbelow found (List.mem_mergeSort.mp hfound)).left
          · refine (pairwise_mergeSort_placesOfEntries hnodup).imp_of_mem ?_
            intro first second hfirst hsecond hbefore place hplace more hmore
            rcases (hbelow first (List.mem_mergeSort.mp hfirst)).right place hplace with
              ⟨rest, hrest, rfl⟩
            rcases (hbelow second (List.mem_mergeSort.mp hsecond)).right more hmore with
              ⟨rest', hrest', rfl⟩
            exact Location.precedes_of_before hbefore hrest hrest'
        case between =>
          intro place hplace more hmore
          rcases List.mem_map.mp hplace with ⟨name, _, rfl⟩
          rcases List.mem_flatMap.mp hmore with ⟨found, hfound, hmore⟩
          rcases (hbelow found (List.mem_mergeSort.mp hfound)).right more hmore with
            ⟨rest, hrest, rfl⟩
          exact Location.precedes_of_ne_nil name found.1 hrest
  | .file _, _, _ => List.Pairwise.nil
  | .link _, _, _ => List.Pairwise.nil
  | .device _, _, _ => List.Pairwise.nil

theorem pairwise_placesOfEntries : (entries : List (Text × Node)) →
    (∀ entry ∈ entries, Path.IsPlain entry.1 ∧ entry.2.IsNamed) → (path : Text) →
    ∀ found ∈ placesOfEntries tree rule path entries,
      found.2.Pairwise Location.Precedes ∧
        ∀ place ∈ found.2, ∃ rest, rest ≠ [] ∧ place = found.1 :: rest
  | [], _, _ => fun _ hfound => nomatch hfound
  | (name, node) :: rest, hnamed, path => by
      rcases List.forall_mem_cons.mp hnamed with ⟨⟨_, hnode⟩, hrest⟩
      have hmore := pairwise_placesOfEntries rest hrest path
      have hinner := pairwise_places node hnode (Path.join path name)
      rw [placesOfEntries]
      split
      case isTrue =>
        rw [List.forall_mem_cons]
        refine ⟨⟨?_, ?_⟩, hmore⟩
        · rw [List.pairwise_map]
          exact hinner.imp fun h => h.cons name
        · intro place hplace
          rcases List.mem_map.mp hplace with ⟨rest, hrest, rfl⟩
          exact ⟨rest, ne_nil_of_mem_places hrest, rfl⟩
      case isFalse => exact hmore

end

end Node

theorem FileTree.exists_files_of_places (tree : FileTree) (rule : WalkRule) (root : Text)
    (htree : tree.root.IsNamed) :
    ∃ files : List FilePlace, files.map FilePlace.toLocation = tree.places rule root ∧
      files.Pairwise FilePlace.Precedes := by
  have hfiles : tree.places rule root ∈ Set.range (List.map FilePlace.toLocation) := by
    rw [Set.range_list_map]
    intro place hplace
    rcases hasPlace_of_mem_places htree hplace with ⟨_, _, _, hne, _⟩
    exact FilePlace.exists_of_ne_nil hne
  rcases hfiles with ⟨files, hfiles⟩
  have hordered : (tree.places rule root).Pairwise Location.Precedes := by
    unfold places
    split
    case h_1 location node hentry =>
      exact Node.pairwise_places node (htree.get? (get?_of_entry hentry)) root
    case h_2 => exact List.Pairwise.nil
  rw [← hfiles, List.pairwise_map] at hordered
  exact ⟨files, hfiles, hordered.imp Location.precedes_toLocation_iff.mp⟩

end ImportAtlas
