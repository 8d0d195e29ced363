import ImportAtlas.FileTree.Basic

/-!
# Finding what a path leads to

A path is followed name by name.  A link on the way is replaced by the path it holds, and so is one
at the end unless the link itself is wanted.  At most forty links are followed, which also ends
every circle of links.

A slash at the end asks for a directory.  So a file to be filled is refused as soon as only a name
with a slash behind it is left, whatever the name may stand for.

Names are bytes, so they are looked for as the system gives them back.
-/

namespace ImportAtlas

inductive Quest where
  /-- What the path leads to in the end. -/
  | target
  /-- What has the last name, a link itself and not what it leads to. -/
  | name
  /-- A file to be filled, which may be new. -/
  | file
deriving DecidableEq

/-- Where a path leads: to an entry, or to a name that is free in an existing directory. -/
inductive Place where
  | entry (location : Location) (node : Node)
  | free (directory : Location) (name : Text)

namespace FileTree

def linkLimit : Nat := 40

def nameLimit : Nat := 255

def pathLimit : Nat := 4096

def byteLength (t : Text) : Nat := (Utf8.encodeName t).length

def isOverlong (path : Text) : Bool := pathLimit ≤ byteLength path

/-- The names of a path in the order in which they are followed.  A trailing slash counts as an
empty name, which asks for a directory. -/
def route (path : Text) : List Text :=
  let names := (Text.splitOn '/' (Utf8.canonicalName path)).filter (· ≠ [])
  if Text.endsWith "/" path then names ++ [[]] else names

def start (path : Text) (base : Location) : Location :=
  if Text.startsWith "/" path then [] else base

/-- Follow a route from a directory, through at most `links` links. -/
def follow (root : Node) (quest : Quest) :
    (links : Nat) → (base : Location) → (route : List Text) → Except FileFault Place
  | _, base, [] =>
      match root.get? base with
      | some node => .ok (.entry base node)
      | none => .error .notFound
  | links, base, name :: rest =>
      if name = [] || name = "." then follow root quest links base rest
      else if name = ".." then follow root quest links base.dropLast rest
      else if quest = .file && rest = [[]] then .error .isDirectory
      else if nameLimit < byteLength name then .error .nameTooLong
      else
        match (root.get? base).bind (·.child? name) with
        | none =>
            if rest = [] || rest = [[]] then .ok (.free base name) else .error .notFound
        | some (.directory entries) =>
            if rest = [] then .ok (.entry (base ++ [name]) (.directory entries))
            else follow root quest links (base ++ [name]) rest
        | some (.link target) =>
            if rest = [] && quest = .name then .ok (.entry (base ++ [name]) (.link target))
            else
              match links with
              | 0 => .error .tooManyLinks
              | links + 1 =>
                  follow root quest links (start target base) (route target ++ rest)
        | some node =>
            if rest = [] then .ok (.entry (base ++ [name]) node) else .error .notDirectory
termination_by links _ route => (links, route.length)

def place (tree : FileTree) (quest : Quest) (path : Text) : Except FileFault Place :=
  if path = [] then .error .notFound
  else if isOverlong path then .error .nameTooLong
  else follow tree.root quest linkLimit (start path tree.here) (route path)

def entry (tree : FileTree) (path : Text) : Except FileFault (Location × Node) :=
  match tree.place .target path with
  | .ok (.entry location node) => .ok (location, node)
  | .ok (.free _ _) => .error .notFound
  | .error fault => .error fault

def content (tree : FileTree) (path : Text) : Except FileFault (List UInt8) :=
  match tree.entry path with
  | .ok (_, .file content) => .ok content
  | .ok (_, .directory _) => .error .isDirectory
  | .ok _ => .ok []
  | .error fault => .error fault

/-!
## With leave of the machine
-/

/-- What comes of an access that the machine may refuse. -/
def attempt {α : Type} (tree : FileTree) (access : Access) (path : Text)
    (outcome : Except FileFault α) : Except FileFault α :=
  match tree.host.refusal access path with
  | some fault => .error fault
  | none => outcome

def look (tree : FileTree) (path : Text) : Except FileFault (Location × Node) :=
  tree.attempt .look path (tree.entry path)

def probe (tree : FileTree) (path : Text) : Except FileFault (Option Node) :=
  match tree.look path with
  | .ok (_, node) => .ok (some node)
  | .error fault => if fault.meansAbsent then .ok none else .error fault

def leadsToDirectory (tree : FileTree) (path : Text) : Bool :=
  match tree.look path with
  | .ok (_, node) => node.isDirectory
  | .error _ => false

def read (tree : FileTree) (path : Text) : Except FileFault (List UInt8) :=
  tree.attempt .read path (tree.content path)

def isClosed (tree : FileTree) (path : Text) : Bool :=
  isOverlong path || (tree.host.refusal .list path).isSome

section Attempt

variable {α : Type} {tree : FileTree} {access : Access} {path : Text} {outcome : Except FileFault α}

theorem attempt_of_none (h : tree.host.refusal access path = none) :
    tree.attempt access path outcome = outcome := by
  simp only [attempt, h]

theorem attempt_of_some {fault : FileFault} (h : tree.host.refusal access path = some fault) :
    tree.attempt access path outcome = .error fault := by
  simp only [attempt, h]

theorem attempt_eq_ok_iff {a : α} : tree.attempt access path outcome = .ok a ↔
    tree.host.refusal access path = none ∧ outcome = .ok a := by
  cases h : tree.host.refusal access path with
  | none => simp [attempt_of_none h]
  | some fault => simp [attempt_of_some h]

end Attempt

end FileTree

end ImportAtlas
