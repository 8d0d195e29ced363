import ImportAtlas.Graph.Basic
import ImportAtlas.Log.Reported
import ImportAtlas.Settings.Basic
import ImportAtlas.Source
import ImportAtlas.Specifier
import ImportAtlas.Statement.Occurrence

/-!
# Building the graph

Every file is read, directory by directory, and each of its statements whose specifier leads to a
listed file becomes an edge.  A file that cannot be read or decoded keeps its place in the graph and
has no edges; that is reported, and so is every import that leads to no listed file.
-/

namespace ImportAtlas

namespace Graph

def skipRecord (path reason : Text) : LogRecord :=
  ⟨.warning, .graph, "Skipping imports of " ++ path ++ ": " ++ reason⟩

/-- The text of a file, or none with a warning.  Only an encoding that cannot be used at all is a
fault. -/
def readOrSkip (settings : Settings) (reader : SourceReader) (path : Text) :
    Reported DecodeFault (Option Text) :=
  match reader path with
  | .ok content => pure (some content)
  | .error (.inaccessible fault) => ⟨[skipRecord path fault.summary], .ok none⟩
  | .error (.undecodable (.undecodable failure)) =>
      ⟨[skipRecord path
          ("cannot decode as " ++ settings.encoding ++ " (" ++ failure.cause.message ++ ")")],
        .ok none⟩
  | .error (.undecodable fault) => .fault fault

def optionalExtensions (settings : Settings) : List Text :=
  if settings.resolveExtensions then settings.extensions else []

def target? (settings : Settings) (files : List Text) (path : Text) (statement : Statement) :
    Option Text :=
  Specifier.resolve? files (optionalExtensions settings) (Specifier.path path statement.specifier)

def untrackedRecord (path specifier : Text) : LogRecord :=
  ⟨.debug, .graph, path ++ ": ignoring untracked import " ++ Text.quoted specifier⟩

def edgesOf (settings : Settings) (files : List Text) (path : Text)
    (statements : List Statement) : List Edge :=
  statements.filterMap fun statement =>
    (target? settings files path statement).map fun target => ⟨path, target, statement.items⟩

def untrackedRecords (settings : Settings) (files : List Text) (path : Text)
    (statements : List Statement) : List LogRecord :=
  statements.filterMap fun statement =>
    match target? settings files path statement with
    | some _ => none
    | none => some (untrackedRecord path statement.specifier)

def scanFile (settings : Settings) (reader : SourceReader) (files : List Text) (path : Text) :
    Reported DecodeFault (List Edge) := do
  match ← readOrSkip settings reader path with
  | none => return []
  | some content =>
      let statements := Statement.extract settings.includeReexports content
      ⟨untrackedRecords settings files path statements,
        .ok (edgesOf settings files path statements)⟩

def scanFiles (settings : Settings) (reader : SourceReader) (files : List Text) :
    (paths : List Text) → Reported DecodeFault (List Edge)
  | [] => return []
  | path :: paths => do
      let edges ← scanFile settings reader files path
      let more ← scanFiles settings reader files paths
      return edges ++ more

def scanRecord (group : DirectoryGroup) : LogRecord :=
  ⟨.debug, .graph,
    "Scanning " ++ Text.decimal group.files.length ++ " file(s) in " ++ group.directory⟩

def scanGroups (settings : Settings) (reader : SourceReader) (files : List Text) :
    List DirectoryGroup → Reported DecodeFault (List Edge)
  | [] => return []
  | group :: groups => do
      Reported.record (scanRecord group)
      let edges ← scanFiles settings reader files group.files
      let more ← scanGroups settings reader files groups
      return edges ++ more

def summaryRecord (graph : Graph) : LogRecord :=
  ⟨.info, .graph,
    "Collected " ++ Text.decimal graph.edges.length ++ " edge(s) across " ++
      Text.decimal graph.files.length ++ " file(s) in " ++
      Text.decimal graph.directories.length ++ " director(ies)"⟩

/-- The graph of the listed files and the imports between them. -/
def build (settings : Settings) (reader : SourceReader) (files : List Text) :
    Reported DecodeFault Graph := do
  let bare := ofFiles files
  let edges ← scanGroups settings reader files bare.directories
  let graph : Graph := { bare with edges := edges }
  Reported.record (summaryRecord graph)
  return graph

end Graph

end ImportAtlas
