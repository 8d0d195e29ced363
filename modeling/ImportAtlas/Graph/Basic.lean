import ImportAtlas.Path

/-!
# Import graphs

A graph lists files in the order in which they were added and edges in the order in which they were
found.  The files are grouped by directory as well, the directories in the order of their first
files.
-/

namespace ImportAtlas

structure Edge where
  source : Text
  target : Text
  label : Text
deriving DecidableEq

structure DirectoryGroup where
  directory : Text
  files : List Text
deriving DecidableEq

structure Graph where
  files : List Text
  directories : List DirectoryGroup
  edges : List Edge
deriving DecidableEq

namespace Graph

def empty : Graph := ⟨[], [], []⟩

def addToGroup (directory file : Text) : List DirectoryGroup → List DirectoryGroup
  | [] => [⟨directory, [file]⟩]
  | group :: groups =>
      if group.directory = directory then ⟨directory, group.files ++ [file]⟩ :: groups
      else group :: addToGroup directory file groups

def addFile (graph : Graph) (file : Text) : Graph where
  files := graph.files ++ [file]
  directories := addToGroup (Path.directoryOrHere file) file graph.directories
  edges := graph.edges

def addEdge (graph : Graph) (edge : Edge) : Graph :=
  { graph with edges := graph.edges ++ [edge] }

def ofFiles (files : List Text) : Graph := files.foldl addFile empty

@[simp] theorem files_addFile (graph : Graph) (file : Text) :
    (graph.addFile file).files = graph.files ++ [file] := rfl

@[simp] theorem edges_addFile (graph : Graph) (file : Text) :
    (graph.addFile file).edges = graph.edges := rfl

@[simp] theorem files_addEdge (graph : Graph) (edge : Edge) :
    (graph.addEdge edge).files = graph.files := rfl

@[simp] theorem directories_addEdge (graph : Graph) (edge : Edge) :
    (graph.addEdge edge).directories = graph.directories := rfl

@[simp] theorem edges_addEdge (graph : Graph) (edge : Edge) :
    (graph.addEdge edge).edges = graph.edges ++ [edge] := rfl

theorem files_foldl_addFile (graph : Graph) (files : List Text) :
    (files.foldl addFile graph).files = graph.files ++ files := by
  induction files generalizing graph with
  | nil => simp
  | cons file files ih => simp [ih]

theorem files_ofFiles (files : List Text) : (ofFiles files).files = files := by
  simp [ofFiles, files_foldl_addFile, empty]

end Graph

end ImportAtlas
