import ImportAtlas.FileTree.Lookup
import ImportAtlas.Path
import ImportAtlas.Text.LowerCase

/-!
# Walking a directory

The files below a directory are listed directory by directory: first the files of a directory in the
order of their names, then those of its subdirectories in the order of theirs.  Links to directories
are not entered, and links that lead nowhere count as files, as do links that cannot be followed to
their end.  Of a directory that is closed to the walk nothing is listed: one that may not be read, or
whose path is too long.

A walk looks at every directory among the entries of a directory before it finds out whether it is a
link.  So on a machine where it can go down only so far, links to directories count for one step.
-/

namespace ImportAtlas

structure WalkRule where
  excluded : List Text
  /-- What names have to end in, when that matters. -/
  extensions : Option (List Text)

namespace WalkRule

def admits (rule : WalkRule) (name : Text) : Bool :=
  match rule.extensions with
  | none => true
  | some extensions => extensions.any fun ext => Text.endsWith ext (Text.lower name)

end WalkRule

namespace Node

/-- Whether an entry that a path leads to is listed as a file. -/
def isListed (tree : FileTree) (path : Text) : Node → Bool
  | .directory _ => false
  | .link _ => !tree.leadsToDirectory path
  | _ => true

def fileNames (tree : FileTree) (rule : WalkRule) (path : Text)
    (entries : List (Text × Node)) : List Text :=
  ((entries.filter fun entry =>
    entry.2.isListed tree (Path.join path entry.1) && rule.admits entry.1).map
      (·.1)).mergeSort Text.le

mutual

def walk (tree : FileTree) (rule : WalkRule) (path : Text) : Node → List Text
  | .directory entries =>
      if tree.isClosed path then []
      else
        (fileNames tree rule path entries).map (Path.underRoot path) ++
          ((walkEntries tree rule path entries).mergeSort
            fun a b => Text.le a.1 b.1).flatMap (·.2)
  | _ => []

def walkEntries (tree : FileTree) (rule : WalkRule) (path : Text) :
    List (Text × Node) → List (Text × List Text)
  | [] => []
  | (name, node) :: rest =>
      if node.isDirectory && !rule.excluded.contains name then
        (name, walk tree rule (Path.join path name) node) :: walkEntries tree rule path rest
      else walkEntries tree rule path rest

end

mutual

/-- How many steps a walk goes down from a directory that a path leads to. -/
def depth (tree : FileTree) (rule : WalkRule) (path : Text) : Node → Nat
  | .directory entries => if tree.isClosed path then 0 else depthOfEntries tree rule path entries
  | _ => 0

def depthOfEntries (tree : FileTree) (rule : WalkRule) (path : Text) : List (Text × Node) → Nat
  | [] => 0
  | (name, node) :: rest =>
      let next := Path.join path name
      if !node.isListed tree next && !rule.excluded.contains name then
        max (depth tree rule next node + 1) (depthOfEntries tree rule path rest)
      else depthOfEntries tree rule path rest

end

end Node

namespace FileTree

def walk (tree : FileTree) (rule : WalkRule) (root : Text) : List Text :=
  match tree.entry root with
  | .ok (_, node) => node.walk tree rule root
  | .error _ => []

/-- The files below what may be no path at all. -/
def walk? (tree : FileTree) (rule : WalkRule) (root : Text) : Except PathFault (List Text) :=
  match Path.fault? root with
  | some fault => .error fault
  | none => .ok (tree.walk rule root)

def walkSteps (tree : FileTree) (rule : WalkRule) (root : Text) : Nat :=
  match tree.entry root with
  | .ok (_, node) => node.depth tree rule root
  | .error _ => 0

/-- Whether the walk below a path goes down further than the machine lets it. -/
def walksTooDeep (tree : FileTree) (rule : WalkRule) (root : Text) : Bool :=
  tree.host.walkDepth.any (· < tree.walkSteps rule root)

def walkFiles (tree : FileTree) (rule : WalkRule) (root : Text) : Except SystemFault (List Text) :=
  if tree.walksTooDeep rule root then .error .tooDeep else .ok (tree.walk rule root)

end FileTree

end ImportAtlas
