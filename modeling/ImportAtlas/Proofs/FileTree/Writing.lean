import ImportAtlas.FileTree.Edit
import ImportAtlas.Proofs.FileTree.Leads
import ImportAtlas.Proofs.FileTree.Relisting

/-!
# Writing into a tree

An entry that is put into a tree is there afterwards, and everywhere else the tree is as it was.  So
a path that leads to a file to be filled still leads there once it is filled: none of its steps
passes the file itself.
-/

namespace ImportAtlas

namespace Node

variable {root other node new : Node} {name known : Text} {entries : List (Text × Node)}
  {location directory place : Location}

def IsBare (node : Node) : Prop := ∀ name, node.child? name = none

/-- The other tree has a new entry at a location and is the same everywhere else, as far as it can
be seen. -/
structure Alters (root other : Node) (location : Location) (new : Node) : Prop where
  there : other.get? location = some new
  elsewhere : ∀ place ≠ location, (other.get? place).map face = (root.get? place).map face

theorem child?_putEntry (entries : List (Text × Node)) :
    (Node.directory (putEntry known node entries)).child? name =
      if known = name then some node else (Node.directory entries).child? name := by
  induction entries with
  | nil => by_cases hname : known = name <;> simp [putEntry, child?, hname]
  | cons entry entries ih =>
      rcases entry with ⟨first, old⟩
      simp only [putEntry, child?] at ih ⊢
      by_cases hfirst : first = known
      · subst hfirst
        by_cases hname : first = name <;> simp [hname]
      · rw [if_neg hfirst]
        by_cases hname : first = name
        · subst hname
          simp [Ne.symm hfirst]
        · simpa [hname] using ih

theorem get?_of_isBare (h : node.IsBare) (name : Text) (location : Location) :
    node.get? (name :: location) = none := by
  rw [get?, h name]
  rfl

theorem hasDirectory_of_face {found : Node} (hfound : other.get? location = some found)
    (h : (Node.directory entries).face = found.face) : other.HasDirectory location := by
  have hdirectory : found.isDirectory = true := (isDirectory_of_face_eq h).symm
  rcases exists_of_isDirectory hdirectory with ⟨others, rfl⟩
  exact ⟨others, hfound⟩

theorem alters_putEntry (hnew : new.IsBare)
    (hold : ∀ old, (Node.directory entries).child? name = some old → old.IsBare) :
    (Node.directory entries).Alters (.directory (putEntry name new entries)) [name] new := by
  refine ⟨by simp [get?, child?_putEntry], ?_⟩
  intro place hplace
  cases place with
  | nil => rfl
  | cons first more =>
      simp only [get?, child?_putEntry]
      by_cases hname : name = first
      · subst hname
        cases more with
        | nil => exact absurd rfl hplace
        | cons next more =>
            rw [if_pos rfl, Option.bind_some, get?_of_isBare hnew]
            cases hchild : (Node.directory entries).child? name with
            | none => rfl
            | some old => rw [Option.bind_some, get?_of_isBare (hold old hchild)]
      · rw [if_neg hname]

/-- A change in a directory is one of the tree around it. -/
theorem Alters.around (h : node.Alters other location new)
    (hchild : (Node.directory entries).child? name = some node) :
    (Node.directory entries).Alters (.directory (putEntry name other entries))
      (name :: location) new := by
  refine ⟨by simpa [get?, child?_putEntry] using h.there, ?_⟩
  intro place hplace
  cases place with
  | nil => rfl
  | cons first more =>
      simp only [get?, child?_putEntry]
      by_cases hname : name = first
      · subst hname
        rw [if_pos rfl, hchild]
        exact h.elsewhere more fun hmore => hplace (by rw [hmore])
      · rw [if_neg hname]

/-- Putting an entry into a directory, at a free name or in the place of an entry that holds
nothing, changes the tree there alone. -/
theorem alters_put (hdirectory : root.HasDirectory directory) (hnew : new.IsBare)
    (hold : ∀ old, root.get? (directory ++ [name]) = some old → old.IsBare) :
    root.Alters (put new (directory ++ [name]) root) (directory ++ [name]) new := by
  induction directory generalizing root with
  | nil =>
      rcases hdirectory with ⟨entries, hentries⟩
      cases hentries
      apply alters_putEntry hnew
      intro old hchild
      exact hold old (by simp [get?, hchild])
  | cons outer directory ih =>
      rcases hdirectory with ⟨inner, hinner⟩
      rcases Option.bind_eq_some_iff.mp hinner with ⟨child, hchild, hbelow⟩
      cases root with
      | directory entries =>
          have hthere : (entries.find? (·.1 = outer)).map (·.2) = some child := hchild
          have hput : put new (outer :: directory ++ [name]) (.directory entries) =
              .directory (putEntry outer (put new (directory ++ [name]) child) entries) := by
            rw [List.cons_append, put, hthere]
            rfl
          rw [hput]
          exact (ih ⟨inner, hbelow⟩ (by simpa [get?, hchild] using hold)).around hchild
      | file content => cases hchild
      | link target => cases hchild
      | device isFull => cases hchild

theorem Alters.exists_get? (h : root.Alters other location new) (hplace : place ≠ location)
    (hget : root.get? place = some node) :
    ∃ found, other.get? place = some found ∧ node.face = found.face := by
  have hface := h.elsewhere place hplace
  rw [hget] at hface
  rcases Option.map_eq_some_iff.mp hface with ⟨found, hfound, hsame⟩
  exact ⟨found, hfound, hsame.symm⟩

theorem Alters.hasDirectory (h : root.Alters other location new) (hplace : place ≠ location)
    (hdirectory : root.HasDirectory place) : other.HasDirectory place := by
  rcases hdirectory with ⟨entries, hentries⟩
  rcases h.exists_get? hplace hentries with ⟨found, hfound, hsame⟩
  exact hasDirectory_of_face hfound hsame

theorem Alters.get?_eq (h : root.Alters other location new) (hplace : place ≠ location)
    (hget : root.get? place = some node) (hnode : node.isDirectory = false) :
    other.get? place = some node := by
  rcases h.exists_get? hplace hget with ⟨found, hfound, hsame⟩
  rw [hfound, eq_of_face_eq hsame hnode]

/-!
## More in a tree
-/

/-- Whatever is in the tree is in the other one as well, where directories may hold more. -/
def Extends (root other : Node) : Prop :=
  ∀ location node, root.get? location = some node →
    ∃ found, other.get? location = some found ∧ node.face = found.face

theorem Extends.refl (root : Node) : root.Extends root := fun _ node hget => ⟨node, hget, rfl⟩

theorem Extends.trans (h : root.Extends other) (h' : other.Extends new) : root.Extends new := by
  intro location node hget
  rcases h location node hget with ⟨found, hfound, hsame⟩
  rcases h' location found hfound with ⟨last, hlast, hsame'⟩
  exact ⟨last, hlast, hsame.trans hsame'⟩

theorem Extends.hasDirectory (h : root.Extends other) (hdirectory : root.HasDirectory location) :
    other.HasDirectory location := by
  rcases hdirectory with ⟨entries, hentries⟩
  rcases h location _ hentries with ⟨found, hfound, hsame⟩
  exact hasDirectory_of_face hfound hsame

theorem Extends.get?_eq (h : root.Extends other) (hget : root.get? location = some node)
    (hnode : node.isDirectory = false) : other.get? location = some node := by
  rcases h location node hget with ⟨found, hfound, hsame⟩
  rw [hfound, eq_of_face_eq hsame hnode]

theorem Alters.extends (h : root.Alters other location new) (habsent : root.get? location = none) :
    root.Extends other := by
  intro place node hget
  refine h.exists_get? ?_ hget
  rintro rfl
  rw [habsent] at hget
  cases hget

/-!
## Room for a file
-/

def HasFileAtMost (root : Node) (location : Location) : Prop :=
  ∀ node, root.get? location = some node → ∃ content, node = .file content

theorem HasFileAtMost.ne_of_hasDirectory (h : root.HasFileAtMost location)
    (hdirectory : root.HasDirectory place) : place ≠ location := by
  rintro rfl
  rcases hdirectory with ⟨entries, hentries⟩
  rcases h _ hentries with ⟨content, hcontent⟩
  cases hcontent

theorem HasFileAtMost.ne_of_link {target : Text} (h : root.HasFileAtMost location)
    (hlink : root.get? place = some (.link target)) : place ≠ location := by
  rintro rfl
  rcases h _ hlink with ⟨content, hcontent⟩
  cases hcontent

/-- A file can be put at the location: its directory is there, and at most a file is there yet. -/
structure Admits (root : Node) (location : Location) : Prop where
  inside : ∃ directory name, location = directory ++ [name] ∧ root.HasDirectory directory
  free : root.HasFileAtMost location

theorem admits_of_free (hdirectory : root.HasDirectory directory)
    (habsent : root.get? (directory ++ [name]) = none) : root.Admits (directory ++ [name]) := by
  refine ⟨⟨directory, name, rfl, hdirectory⟩, ?_⟩
  intro node hnode
  rw [habsent] at hnode
  cases hnode

theorem admits_of_file {content : List UInt8} (htop : root.HasDirectory [])
    (hfile : root.get? location = some (.file content)) : root.Admits location := by
  have hfree : root.HasFileAtMost location := by
    intro node hnode
    rw [hfile] at hnode
    cases hnode
    exact ⟨content, rfl⟩
  refine ⟨?_, hfree⟩
  induction location using List.reverseRecOn with
  | nil => exact absurd rfl (hfree.ne_of_hasDirectory htop)
  | append_singleton directory name _ =>
      exact ⟨directory, name, rfl, hasDirectory_of_child hfile⟩

theorem Admits.alters_put (h : root.Admits location) (content : List UInt8) :
    root.Alters (put (.file content) location root) location (.file content) := by
  rcases h.inside with ⟨directory, name, rfl, hdirectory⟩
  apply Node.alters_put hdirectory (fun _ => rfl)
  intro old hold
  rcases h.free old hold with ⟨content, rfl⟩
  exact fun _ => rfl

end Node

def Place.location : Place → Location
  | .entry location _ => location
  | .free directory name => directory ++ [name]

namespace FileTree

open Node

variable {root other node : Node} {quest asked : Quest} {links : Nat} {base location : Location}
  {names : List Text} {place : Place}

/-!
## The same ways in a changed tree

A file is no directory and no link, so of the steps of a way only the last one sees that it changes.
Nor can a file to be filled be asked for with a slash at the end, behind which only directories are
found.
-/

/-- What is no directory is still found when more is there, as a target and as a file to be filled
alike. -/
theorem Leads.extend (h : Leads root quest links base names (.entry location node))
    (hextends : root.Extends other) (hnode : node.isDirectory = false) (hquest : quest ≠ .name)
    (hasked : asked ≠ .name) : Leads other asked links base names (.entry location node) := by
  generalize hplace : Place.entry location node = place at h
  induction h with
  | stay =>
      cases hplace
      cases hnode
  | idle idle _ ih => exact .idle idle (ih hplace)
  | up _ ih => exact .up (ih hplace)
  | free => cases hplace
  | last step there wanted =>
      cases hplace
      exact .last step (hextends.get?_eq there hnode)
        fun target htarget => absurd (wanted target htarget) hquest
  | down step directory continues _ next ih =>
      refine .down step (hextends.hasDirectory directory) continues (fun _ hrest => ?_) (ih hplace)
      subst hrest hplace
      rw [next.isDirectory_of_slash (Or.inr rfl)] at hnode
      cases hnode
  | link step there _ _ next ih =>
      refine .link step (hextends.get?_eq there rfl) (fun _ => hasked) (fun _ hrest => ?_)
        (ih hplace)
      subst hrest hplace
      rw [next.isDirectory_of_slash (Or.inr (by simp))] at hnode
      cases hnode

theorem Leads.alter (h : Leads root .file links base names place)
    (hfree : root.HasFileAtMost place.location)
    (halters : root.Alters other place.location node) (hnode : ∀ target, node ≠ .link target)
    (hasked : asked ≠ .name) :
    Leads other asked links base names (.entry place.location node) := by
  induction h with
  | stay there => exact absurd rfl (hfree.ne_of_hasDirectory ⟨_, there⟩)
  | idle idle _ ih => exact .idle idle (ih hfree halters)
  | up _ ih => exact .up (ih hfree halters)
  | free step _ _ ends asks =>
      have hrest := ends.resolve_right (asks rfl)
      subst hrest
      exact .last step halters.there fun target htarget => absurd htarget (hnode target)
  | last step =>
      exact .last step halters.there fun target htarget => absurd htarget (hnode target)
  | down step directory continues asks _ ih =>
      have hdirectory := halters.hasDirectory (hfree.ne_of_hasDirectory directory) directory
      exact .down step hdirectory continues (fun _ => asks rfl) (ih hfree halters)
  | link step there _ asks _ ih =>
      have hthere := halters.get?_eq (hfree.ne_of_link there) there rfl
      exact .link step hthere (fun _ => hasked) (fun _ => asks rfl) (ih hfree halters)

/-!
## Grounded trees
-/

/-- Relative paths start at a directory that is there. -/
def IsGrounded (tree : FileTree) : Prop := tree.root.HasDirectory tree.here

variable {tree made written : FileTree} {path : Text} {old content : List UInt8}

theorem place_eq_ok_iff (h : tree.IsGrounded) :
    tree.place quest path = .ok place ↔ path ≠ [] ∧ ¬ isOverlong path = true ∧
      Leads tree.root quest linkLimit (start path tree.here) (route path) place := by
  rw [leads_iff (h.start path), FileTree.place]
  by_cases hnil : path = []
  · simp [hnil]
  · by_cases hlong : isOverlong path = true
    · simp [hnil, hlong]
    · simp [hnil, hlong]

theorem entry_eq_ok_iff_place : tree.entry path = .ok (location, node) ↔
    tree.place .target path = .ok (.entry location node) := by
  unfold entry
  rcases tree.place .target path with fault | place
  · simp
  · cases place <;> simp

structure Extends (tree other : FileTree) : Prop where
  root : tree.root.Extends other.root
  here : other.here = tree.here

theorem Extends.refl (tree : FileTree) : tree.Extends tree := ⟨.refl tree.root, rfl⟩

theorem Extends.trans (h : tree.Extends made) (h' : made.Extends written) : tree.Extends written :=
  ⟨h.root.trans h'.root, h'.here.trans h.here⟩

theorem Extends.isGrounded (h : tree.Extends made) (hgrounded : tree.IsGrounded) :
    made.IsGrounded := by
  rw [IsGrounded, h.here]
  exact h.root.hasDirectory hgrounded

theorem Extends.place_eq (h : tree.Extends made) (hgrounded : tree.IsGrounded)
    (hplace : tree.place quest path = .ok (.entry location node)) (hnode : node.isDirectory = false)
    (hquest : quest ≠ .name) (hasked : asked ≠ .name) :
    made.place asked path = .ok (.entry location node) := by
  rcases (place_eq_ok_iff hgrounded).mp hplace with ⟨hnil, hlong, hleads⟩
  rw [place_eq_ok_iff (h.isGrounded hgrounded), h.here]
  exact ⟨hnil, hlong, hleads.extend h.root hnode hquest hasked⟩

/-!
## Directories
-/

theorem extends_createDirectory (h : tree.IsGrounded)
    (hmade : tree.createDirectory path = .ok made) : tree.Extends made := by
  unfold createDirectory at hmade
  replace hmade := (attempt_eq_ok_iff.mp hmade).right
  unfold create at hmade
  split at hmade
  case h_1 => cases hmade
  case h_2 directory name hplace =>
    cases hmade
    have hleads := ((place_eq_ok_iff h).mp hplace).right.right
    rcases hleads.isEnd with ⟨hdirectory, habsent⟩
    have halters : tree.root.Alters (Node.put (.directory []) (directory ++ [name]) tree.root)
        (directory ++ [name]) (.directory []) := by
      apply alters_put hdirectory (fun _ => rfl)
      intro old hold
      rw [habsent] at hold
      cases hold
    exact ⟨halters.extends habsent, rfl⟩
  case h_3 => cases hmade

section Created

variable {R : FileTree → FileTree → Prop} (hrefl : ∀ tree, R tree tree)
  (htrans : ∀ {tree made written}, R tree made → R made written → R tree written)
  (hcreate : ∀ {tree made path}, createDirectory tree path = .ok made → R tree made)

include hrefl hcreate

theorem ensureDirectory_related (tree : FileTree) (path : Text) :
    R tree (tree.ensureDirectory path).1 := by
  unfold ensureDirectory
  cases hmade : tree.createDirectory path with
  | ok made => exact hcreate hmade
  | error fault =>
      dsimp only
      split <;> exact hrefl tree

include htrans

theorem ensureNames_related (tree : FileTree) (root : Text) (reversedNames : List Text) :
    R tree (tree.ensureNames root reversedNames).1 := by
  induction reversedNames generalizing tree with
  | nil => exact ensureDirectory_related hrefl hcreate tree _
  | cons name before ih =>
      simp only [ensureNames]
      split
      case h_1 =>
        have hbefore := ih tree
        split
        case h_1 made hnames =>
          rw [hnames] at hbefore
          exact htrans hbefore (ensureDirectory_related hrefl hcreate made _)
        case h_2 made fault hnames =>
          rw [hnames] at hbefore
          exact hbefore
      case h_2 => exact ensureDirectory_related hrefl hcreate tree _

/-- What holds of a tree and the tree with one more directory holds of a tree and the tree with all
directories of a path. -/
theorem ensureDirectories_related (tree : FileTree) (path : TidyPath) :
    R tree (tree.ensureDirectories path).1 :=
  ensureNames_related hrefl htrans hcreate tree path.root path.names.reverse

end Created

theorem extends_ensureDirectories (h : tree.IsGrounded) (path : TidyPath) :
    tree.Extends (tree.ensureDirectories path).1 :=
  ensureDirectories_related (R := fun tree made => tree.IsGrounded → tree.Extends made)
    (fun tree _ => .refl tree)
    (fun hmade hwritten h => (hmade h).trans (hwritten ((hmade h).isGrounded h)))
    (fun hmade h => extends_createDirectory h hmade) tree path h

/-!
## Files
-/

/-- Where a path leads to when a file is to be filled, a file can be put, or there is a directory or
a device. -/
theorem admits_of_place (h : tree.IsGrounded) (hplace : tree.place .file path = .ok place) :
    tree.root.Admits place.location ∨
      (∃ location entries, place = .entry location (.directory entries)) ∨
        ∃ location isFull, place = .entry location (.device isFull) := by
  have hleads := ((place_eq_ok_iff h).mp hplace).right.right
  cases place with
  | free directory name =>
      rcases hleads.isEnd with ⟨hdirectory, habsent⟩
      exact Or.inl (admits_of_free hdirectory habsent)
  | entry location node =>
      rcases hleads.isEnd with ⟨hthere, hwanted⟩
      cases node with
      | directory entries => exact Or.inr (Or.inl ⟨location, entries, rfl⟩)
      | device isFull => exact Or.inr (Or.inr ⟨location, isFull, rfl⟩)
      | link target => cases hwanted target rfl
      | file content => exact Or.inl (admits_of_file h.top hthere)

/-- A file that is put where a path leads to is what the path leads to from then on. -/
theorem place_put (h : tree.IsGrounded) (hplace : tree.place .file path = .ok place)
    (hadmits : tree.root.Admits place.location) (content : List UInt8) :
    (tree.put place.location (.file content)).IsGrounded ∧ ∀ asked ≠ .name,
      (tree.put place.location (.file content)).place asked path =
        .ok (.entry place.location (.file content)) := by
  have halters := hadmits.alters_put content
  have hgrounded : (tree.put place.location (.file content)).IsGrounded :=
    halters.hasDirectory (hadmits.free.ne_of_hasDirectory h) h
  refine ⟨hgrounded, ?_⟩
  intro asked hasked
  rcases (place_eq_ok_iff h).mp hplace with ⟨hnil, hlong, hleads⟩
  rw [place_eq_ok_iff hgrounded]
  exact ⟨hnil, hlong, hleads.alter hadmits.free halters (by simp) hasked⟩

theorem store_of_admits (h : tree.IsGrounded) (hplace : tree.place .file path = .ok place)
    (hadmits : tree.root.Admits place.location) (content : List UInt8) :
    tree.store path content = .ok (tree.put place.location (.file content)) := by
  have hleads := ((place_eq_ok_iff h).mp hplace).right.right
  simp only [store, hplace]
  cases place with
  | free directory name => rfl
  | entry location node =>
      rcases hadmits.free node hleads.isEnd.left with ⟨old, rfl⟩
      rfl

def Holds (tree : FileTree) (path : Text) (content : List UInt8) : Prop :=
  ∃ location, tree.entry path = .ok (location, .file content)

def LeadsToDevice (tree : FileTree) (path : Text) : Prop :=
  ∃ location isFull, tree.entry path = .ok (location, .device isFull)

theorem Holds.unique (h : tree.Holds path content) (h' : tree.Holds path old) : content = old := by
  rcases h with ⟨location, hentry⟩
  rcases h' with ⟨location', hentry'⟩
  rw [hentry] at hentry'
  cases hentry'
  rfl

theorem Extends.holds (h : tree.Extends made) (hgrounded : tree.IsGrounded)
    (hholds : tree.Holds path content) : made.Holds path content := by
  rcases hholds with ⟨location, hentry⟩
  refine ⟨location, entry_eq_ok_iff_place.mpr ?_⟩
  exact h.place_eq hgrounded (entry_eq_ok_iff_place.mp hentry) rfl (by decide) (by decide)

theorem holds_of_store (h : tree.IsGrounded) (hstore : tree.store path content = .ok written) :
    written.IsGrounded ∧ (written.Holds path content ∨ written.LeadsToDevice path) := by
  cases hplace : tree.place .file path with
  | error fault =>
      simp only [store, hplace] at hstore
      cases hstore
  | ok place =>
      rcases admits_of_place h hplace with
        hadmits | ⟨location, entries, rfl⟩ | ⟨location, isFull, rfl⟩
      · rw [store_of_admits h hplace hadmits] at hstore
        cases hstore
        rcases place_put h hplace hadmits content with ⟨hgrounded, hput⟩
        refine ⟨hgrounded, Or.inl ⟨place.location, ?_⟩⟩
        exact entry_eq_ok_iff_place.mpr (hput .target (by decide))
      · simp only [store, hplace] at hstore
        cases hstore
      · have hsame : written = tree := by
          cases isFull with
          | true =>
              by_cases hcontent : content = []
              · simpa [store, hplace, hcontent, eq_comm] using hstore
              · simp [store, hplace, hcontent] at hstore
          | false =>
              simp only [store, hplace, Except.ok.injEq] at hstore
              exact hstore.symm
        have htarget : tree.place .target path = .ok (.entry location (.device isFull)) :=
          (Extends.refl tree).place_eq h hplace rfl (by decide) (by decide)
        rw [hsame]
        exact ⟨h, Or.inr ⟨location, isFull, entry_eq_ok_iff_place.mpr htarget⟩⟩

theorem store_of_holds (h : tree.IsGrounded) (hholds : tree.Holds path old)
    (content : List UInt8) : ∃ written, tree.store path content = .ok written ∧
      written.IsGrounded ∧ written.Holds path content := by
  rcases hholds with ⟨location, hentry⟩
  have hplace : tree.place .file path = .ok (.entry location (.file old)) :=
    (Extends.refl tree).place_eq h (entry_eq_ok_iff_place.mp hentry) rfl (by decide) (by decide)
  have hadmits : tree.root.Admits location := admits_of_file h.top (get?_of_entry hentry)
  rcases place_put h hplace hadmits content with ⟨hgrounded, hput⟩
  refine ⟨_, store_of_admits h hplace hadmits content, hgrounded, location, ?_⟩
  exact entry_eq_ok_iff_place.mpr (hput .target (by decide))

/-!
## The machine

Whatever is written, the machine stays the same.
-/

theorem host_of_store (h : tree.store path content = .ok written) : written.host = tree.host := by
  unfold store at h
  repeat' split at h
  all_goals cases h <;> rfl

theorem host_of_createDirectory (h : tree.createDirectory path = .ok made) :
    made.host = tree.host := by
  unfold createDirectory at h
  replace h := (attempt_eq_ok_iff.mp h).right
  unfold create at h
  split at h <;> cases h
  rfl

theorem host_ensureDirectories (tree : FileTree) (path : TidyPath) :
    (tree.ensureDirectories path).1.host = tree.host :=
  ensureDirectories_related (R := fun tree made => made.host = tree.host) (fun _ => rfl)
    (fun hmade hwritten => hwritten.trans hmade) host_of_createDirectory tree path

end FileTree

end ImportAtlas
