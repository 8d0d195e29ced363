import ImportAtlas.Proofs.Discovery.Spelling
import ImportAtlas.Proofs.Environment.Assignment
import ImportAtlas.Proofs.FileTree.Fault
import ImportAtlas.Proofs.Graph.Fault
import ImportAtlas.Run.Execution

/-!
# What aborts the stages of a run

A run goes through its stages one after another, and each may end it: with a failure that has an
exit code, or by aborting it.  For every stage the inputs are named with which it aborts.
-/

namespace ImportAtlas

variable {α β ε : Type} {world : World} {invocation : Invocation} {environment : Variables}
  {tree : FileTree} {settings : Settings} {git : GitAnswer} {files : List Text} {text root : Text}
  {output : StandardOutput}

namespace RunFault

end RunFault

open RunFault

/-!
## Up to the files
-/

namespace FileTree

variable {path : TidyPath} {destination : Option (OptionValue TidyPath)}

/-- There is no path to the directory of a file, or there is one to the directory and none to the
file. -/
def CannotName (tree : FileTree) (path : TidyPath) : Prop :=
  Path.fault? path.parent.toText ≠ none ∨
    (∃ made, tree.ensureDirectories path.parent = (made, none)) ∧ Path.fault? path.toText ≠ none

def Empties (tree : FileTree) (path : TidyPath) : Prop :=
  ∃ made emptied, tree.ensureDirectories path.parent = (made, none) ∧
    made.write path.toText [] = .ok emptied

theorem encode_cases (text : Text) :
    (text.IsWellFormed ∧ ∃ bytes, Utf8.encode text = .ok bytes) ∨
      (¬ text.IsWellFormed ∧ ∃ failure, Utf8.encode text = .error failure) := by
  rw [← Utf8.exists_encode_eq_ok_iff]
  cases Utf8.encode text <;> simp

end FileTree

end ImportAtlas
