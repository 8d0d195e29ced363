import ImportAtlas.FileTree.Host

/-!
# File trees

A directory holds entries with names: files with their bytes, symbolic links with the path they
lead to, further directories, and devices, which swallow what is written to them or have no room for
it.  The order of the entries means nothing.

A location is the list of names that leads from the root of the tree to an entry without passing a
link.

Owners, permissions, quotas and the state of devices are not in the tree: what they come to is
decided by the machine that holds it.  A pipe that is written to counts as a device.  Left out are
what devices and pipes have to say themselves, files that have several names without a link, and
times.
-/

namespace ImportAtlas

inductive Node where
  | file (content : List UInt8)
  | link (target : Text)
  | device (isFull : Bool)
  | directory (entries : List (Text × Node))

instance : Inhabited Node := ⟨.directory []⟩

abbrev Location := List Text

/-- A tree with the directory from which relative paths are read, on a machine. -/
structure FileTree where
  root : Node
  here : Location
  host : Host := {}

namespace Node

def isDirectory : Node → Bool
  | .directory _ => true
  | _ => false

def child? (name : Text) : Node → Option Node
  | .directory entries => (entries.find? (·.1 = name)).map (·.2)
  | _ => none

def get? : Location → Node → Option Node
  | [], node => some node
  | name :: rest, node => (node.child? name).bind (get? rest)

theorem get?_append (first second : Location) (node : Node) :
    node.get? (first ++ second) = (node.get? first).bind (get? second) := by
  induction first generalizing node with
  | nil => rfl
  | cons name first ih =>
      simp only [List.cons_append, get?]
      cases node.child? name with
      | none => rfl
      | some child => exact ih child

def putEntry (name : Text) (node : Node) : List (Text × Node) → List (Text × Node)
  | [] => [(name, node)]
  | (known, old) :: rest =>
      if known = name then (name, node) :: rest else (known, old) :: putEntry name node rest

def put (new : Node) : Location → Node → Node
  | [], _ => new
  | name :: rest, .directory entries =>
      let old := ((entries.find? (·.1 = name)).map (·.2)).getD (.directory [])
      .directory (putEntry name (put new rest old) entries)
  | _ :: _, node => node

def remove : Location → Node → Node
  | [], node => node
  | [name], .directory entries => .directory (entries.filter (·.1 ≠ name))
  | name :: next :: rest, .directory entries =>
      match (entries.find? (·.1 = name)).map (·.2) with
      | none => .directory entries
      | some old => .directory (putEntry name (remove (next :: rest) old) entries)
  | _ :: _, node => node

end Node

end ImportAtlas
