import ImportAtlas.Environment.File
import ImportAtlas.FileTree.Text
import ImportAtlas.Log.Reported

/-!
# Loading an environment file

Before a run the environment is completed from a file: the one that the user names, or else the
first of the usual ones that is there.  What the environment holds already stays as it is.
-/

namespace ImportAtlas

inductive LoadFault where
  | unreadable (path : Text) (fault : ReadFault)
  /-- The file assigns a variable that cannot be set. -/
  | variable (fault : VariableFault)
deriving DecidableEq

namespace ReadFault

def message : ReadFault → Text
  | .inaccessible fault => fault.message
  | .undecodable fault => fault.message

end ReadFault

namespace EnvironmentFile

def usualPaths : List Text := [".importgraph.env", ".env"]

def read? (tree : FileTree) (path : Text) : Except ReadFault (Option Variables) :=
  (tree.readText? "utf-8" path).map fun content => content.map parse

def loadedRecord (path : Text) : LogRecord :=
  ⟨.debug, .commandLine, "Loaded environment overrides from " ++ path⟩

def missingRecord (path : Text) : LogRecord :=
  ⟨.warning, .commandLine, "Environment file " ++ path ++ " does not exist"⟩

def first? (tree : FileTree) : List Text → Except LoadFault (Option (Text × Variables))
  | [] => .ok none
  | path :: paths =>
      match read? tree path with
      | .error fault => .error (.unreadable path fault)
      | .ok none => first? tree paths
      | .ok (some assignments) => .ok (some (path, assignments))

end EnvironmentFile

structure EnvironmentChoice where
  candidates : List Text
  /-- What the user called the file, to be told that there is none. -/
  called : Option Text

namespace EnvironmentChoice

def usual : EnvironmentChoice := ⟨EnvironmentFile.usualPaths, none⟩

def file (path : TidyPath) : EnvironmentChoice := ⟨[path.toText], some path.toText⟩

end EnvironmentChoice

namespace Variables

open EnvironmentFile in
/-- The environment completed from a file.  What could be set before a fault stays set. -/
def load (environment : Variables) (tree : FileTree) (choice : EnvironmentChoice) :
    Variables × Reported LoadFault Unit :=
  match first? tree choice.candidates with
  | .error fault => (environment, .fault fault)
  | .ok none => (environment, ⟨(choice.called.map missingRecord).toList, .ok ()⟩)
  | .ok (some (path, assignments)) =>
      match environment.apply false assignments with
      | (environment, some fault) => (environment, .fault (.variable fault))
      | (environment, none) => (environment, .record (loadedRecord path))

end Variables

end ImportAtlas
