import ImportAtlas.Clock.Moment
import ImportAtlas.Run.Execution

/-!
# The program

The outer layer takes a picture of the files and the environment, runs the library on it and carries
out what has changed: a file that was to be written, and what the user is shown.

The picture holds the names below the scanned directory, and contents where the run needs them.  A
link to a file is taken as the file, and one to a directory as a link to some directory, since the
walk does not enter it.  The outer layer starts no other program, so the run goes on as one where
git is missing: it reports that and keeps all files.  A caller who has the listing of git at hand
passes it to the library.
-/

namespace ImportAtlas

namespace Program

def spell (t : Text) : String := String.ofList (t.map fun c => Char.ofNat c.val)

def kind? (path : Text) : IO (Option IO.FS.FileType) := do
  try
    let real ← IO.FS.realPath (spell path)
    return some (← real.metadata).type
  catch _ => return none

/-- Entries of a directory and what is below them, without the contents of files. -/
partial def readEntries (entries : Array IO.FS.DirEntry) : IO (List (Text × Node)) :=
  entries.toList.mapM fun entry => do
    let name := Text.ofString entry.fileName
    match (← entry.path.symlinkMetadata).type with
    | .dir => return (name, .directory (← readEntries (← entry.path.readDir)))
    | .symlink =>
        match ← kind? (Text.ofString entry.path.toString) with
        | some .dir => return (name, .link "/")
        | some _ => return (name, .file [])
        | none => return (name, .link [CodePoint.ofNat 0])
    | _ => return (name, .file [])

def withDirectory (tree : FileTree) (path : Text) : FileTree :=
  (tree.ensureDirectories (TidyPath.ofText path)).1

/-- The tree with the contents of a file, in a directory that is made if need be. -/
def withFile (tree : FileTree) (path : Text) (content : List UInt8) : FileTree :=
  let tree := (tree.ensureDirectories (TidyPath.ofText path).parent).1
  (tree.write path content).toOption.getD tree

def capture (tree : FileTree) (path : Text) : IO FileTree := do
  match tree.entry path, ← kind? path with
  | .ok _, _ | _, none => return tree
  | .error _, some .dir => return withDirectory tree path
  | .error _, some _ => return withFile tree path []

def captureContent (tree : FileTree) (path : Text) : IO FileTree := do
  match ← kind? path with
  | some .file =>
      let content ← IO.FS.readBinFile (spell path)
      return withFile tree path content.toList
  | _ => capture tree path

def startingTree : IO FileTree := do
  let here := Path.names (Text.ofString (← IO.currentDir).toString)
  return withDirectory { root := .directory [], here } (TidyPath.toText ⟨"/", here⟩)

def captureRoot (tree : FileTree) (root : Text) : IO FileTree := do
  match ← kind? root with
  | some .dir =>
      let real ← IO.FS.realPath (spell root)
      let location := Path.names (Text.ofString real.toString)
      let node := Node.directory (← readEntries (← real.readDir))
      let tree := withDirectory tree (TidyPath.toText ⟨"/", location⟩)
      let tree := tree.put location node
      if tree.leadsToDirectory root then return tree
      else return (tree.create root (.link (TidyPath.toText ⟨"/", location⟩))).toOption.getD tree
  | _ => capture tree root

def outputFile (invocation : Invocation) : Option TidyPath :=
  invocation.output.bind OptionValue.value?

def ancestry (path : TidyPath) : List Text :=
  (List.range (path.names.length + 1)).map fun n =>
    TidyPath.toText ⟨path.root, path.names.take n⟩

def sourceFiles (invocation : Invocation) (world : World) : List Text :=
  let (environment, _) := world.environment.load world.tree invocation.environmentChoice
  match invocation.settings environment with
  | .error _ => []
  | .ok settings =>
      let found := Discovery.sourceFiles world.tree settings .missing invocation.root
      found.outcome.toOption.getD []

def picture (invocation : Invocation) (environment : Variables) : IO World := do
  let tree ← captureRoot (← startingTree) invocation.root
  let tree ← invocation.environmentChoice.candidates.foldlM captureContent tree
  let tree ← ((outputFile invocation).toList.flatMap ancestry).foldlM capture tree
  let tree ← (sourceFiles invocation ⟨tree, environment⟩).foldlM captureContent tree
  return ⟨tree, environment⟩

def environment : IO Variables := do
  let bytes ← IO.FS.readBinFile "/proc/self/environ"
  let entries := Text.splitOn (CodePoint.ofNat 0) (Utf8.decodeName bytes.toList)
  return Variables.ofPairs (entries.filterMap (Text.cut? '='))

def now : IO Moment := do
  let process ← IO.FS.realPath "/proc/self/environ"
  return ⟨(← process.metadata).modified.sec, 0⟩

def carryOut (invocation : Invocation) (before after : World) : IO Unit := do
  match outputFile invocation with
  | none => return
  | some path =>
      match before.tree.read path.toText, after.tree.read path.toText with
      | _, .error _ => return
      | old, .ok content =>
          if old.toOption ≠ some content || content ≠ [] then
            IO.FS.createDirAll (spell path.parent.toText)
            IO.FS.writeBinFile (spell path.toText) ⟨content.toArray⟩

end Program

end ImportAtlas

open ImportAtlas in
def main (arguments : List String) : IO UInt32 := do
  let words := arguments.map Text.ofString
  let environment ← Program.environment
  let world ←
    match Invocation.ofTexts words with
    | .ok invocation => Program.picture invocation environment
    | .error _ => pure ⟨{ root := .directory [], here := [] }, environment⟩
  let outcome := world.run words .missing .received
  if let .ok invocation := Invocation.ofTexts words then
    Program.carryOut invocation world outcome.world
  let moment ← Program.now
  IO.eprint (Program.spell (outcome.messages words (LogRecord.line moment)))
  match outcome.ending with
  | .aborted abort =>
      IO.eprintln (Program.spell abort.message)
      return 1
  | ending =>
      IO.print (Program.spell outcome.output)
      return UInt32.ofNat (ending.exitNumber?.getD 1)
