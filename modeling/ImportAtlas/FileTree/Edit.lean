import ImportAtlas.FileTree.Lookup
import ImportAtlas.Path

/-!
# Changing a file tree

Writing a file replaces its bytes or creates it in an existing directory.  Creating a directory
with its parents goes up to the first existing one and down again.
-/

namespace ImportAtlas

namespace FileTree

def put (tree : FileTree) (location : Location) (node : Node) : FileTree :=
  { tree with root := Node.put node location tree.root }

/-- The tree with the bytes of a file.  A device swallows them, unless it is full. -/
def store (tree : FileTree) (path : Text) (content : List UInt8) : Except FileFault FileTree :=
  match tree.place .file path with
  | .error fault => .error fault
  | .ok (.free directory name) => .ok (tree.put (directory ++ [name]) (.file content))
  | .ok (.entry location (.file _)) => .ok (tree.put location (.file content))
  | .ok (.entry _ (.directory _)) => .error .isDirectory
  | .ok (.entry _ (.device true)) => if content = [] then .ok tree else .error .noSpace
  | .ok (.entry _ _) => .ok tree

def write (tree : FileTree) (path : Text) (content : List UInt8) : Except FileFault FileTree :=
  tree.attempt .empty path (tree.store path content)

def create (tree : FileTree) (path : Text) (node : Node) : Except FileFault FileTree :=
  match tree.place .name path with
  | .error fault => .error fault
  | .ok (.free directory name) => .ok (tree.put (directory ++ [name]) node)
  | .ok (.entry _ _) => .error .alreadyExists

/-- The tree without the file a path leads to, a link itself and not what it leads to. -/
def remove (tree : FileTree) (path : Text) : Except FileFault FileTree :=
  match tree.place .name path with
  | .error fault => .error fault
  | .ok (.free _ _) => .error .notFound
  | .ok (.entry _ (.directory _)) => .error .isDirectory
  | .ok (.entry location _) => .ok { tree with root := Node.remove location tree.root }

def createDirectory (tree : FileTree) (path : Text) : Except FileFault FileTree :=
  tree.attempt .make path (tree.create path (.directory []))

structure DirectoryFault where
  fault : FileFault
  path : Text
deriving DecidableEq

/-- Create a directory, with no objection to one that is there already.  Where it cannot be found
out whether one is there, that is the fault. -/
def ensureDirectory (tree : FileTree) (path : Text) : FileTree × Option DirectoryFault :=
  match tree.createDirectory path with
  | .ok tree => (tree, none)
  | .error fault =>
      match tree.probe path with
      | .error fault => (tree, some ⟨fault, path⟩)
      | .ok (some (.directory _)) => (tree, none)
      | .ok _ => (tree, some ⟨fault, path⟩)

def ensureNames (tree : FileTree) (root : Text) : (reversedNames : List Text) →
    FileTree × Option DirectoryFault
  | [] => tree.ensureDirectory (TidyPath.toText ⟨root, []⟩)
  | name :: before =>
      let path := TidyPath.toText ⟨root, (name :: before).reverse⟩
      match tree.createDirectory path with
      | .error .notFound =>
          match ensureNames tree root before with
          | (tree, none) => tree.ensureDirectory path
          | (tree, some fault) => (tree, some fault)
      | _ => tree.ensureDirectory path

/-- How many directories with the first names of a path are missing, as far as it shows while they
are created one after the other from the last. -/
def missingNames (tree : FileTree) (root : Text) : (reversedNames : List Text) → Nat
  | [] => 0
  | name :: before =>
      match tree.createDirectory (TidyPath.toText ⟨root, (name :: before).reverse⟩) with
      | .error .notFound => missingNames tree root before + 1
      | _ => 0

def isTooDeep (tree : FileTree) (path : TidyPath) : Bool :=
  tree.host.makeDepth.any (· < tree.missingNames path.root path.names.reverse)

/-- Create a directory and its parents as far as they are missing.  Those created before a fault
stay. -/
def ensureDirectories (tree : FileTree) (path : TidyPath) : FileTree × Option DirectoryFault :=
  ensureNames tree path.root path.names.reverse

end FileTree

end ImportAtlas
