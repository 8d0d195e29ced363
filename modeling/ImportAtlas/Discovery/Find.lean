import ImportAtlas.Discovery.Tracked
import ImportAtlas.Discovery.Walk
import ImportAtlas.Log.Reported
import ImportAtlas.Settings.Basic

/-!
# Finding the source files

The source files below a root are those that the walk lists, less those that are not tracked when
that is wanted and git can tell.
-/

namespace ImportAtlas

inductive RootFault where
  | notDirectory (root : Text)
  | inaccessible (fault : SystemFault)
deriving DecidableEq

def RootFault.message : RootFault → Text
  | .notDirectory root => "'" ++ root ++ "' is not a directory"
  | .inaccessible fault => fault.message

namespace Discovery

def checkRoot (tree : FileTree) (root : Text) : Except RootFault Unit :=
  let path := (TidyPath.ofText root).toText
  if (Path.fault? path).isSome then .error (.notDirectory root)
  else
    match tree.probe path with
    | .error fault => .error (.inaccessible (fault.onPath path))
    | .ok (some (.directory _)) => .ok ()
    | .ok _ => .error (.notDirectory root)

def walkRule (settings : Settings) : WalkRule :=
  ⟨settings.excludedDirectories, some settings.extensions⟩

def skippedRecords (skipped : Nat) : List LogRecord :=
  if skipped = 0 then []
  else
    [⟨.debug, .discovery, "Ignoring " ++ Text.decimal skipped ++ " untracked source file(s)"⟩]

def selectTracked (walked : List Text) (git : GitAnswer) (root : Text) :
    Reported RootFault (List Text) :=
  match git.trackedFiles root with
  | (none, record) => ⟨[record], .ok walked⟩
  | (some tracked, record) =>
      let files := walked.filter (tracked.contains ·)
      ⟨record :: skippedRecords (walked.length - files.length), .ok files⟩

/-- The source files below a root, in the order of the walk. -/
def sourceFiles (tree : FileTree) (settings : Settings) (git : GitAnswer) (root : Text) :
    Reported RootFault (List Text) := do
  Reported.ofExcept (checkRoot tree root)
  let walked ← Reported.ofExcept
    ((tree.walkFiles (walkRule settings) root).mapError RootFault.inaccessible)
  if settings.useGit then
    match tree.host.gitFault? root with
    | some fault => .fault (.inaccessible fault)
    | none => selectTracked walked git root
  else
    ⟨[⟨.debug, .discovery,
        "git filtering disabled; using " ++ Text.decimal walked.length ++ " walked file(s)"⟩],
      .ok walked⟩

end Discovery

end ImportAtlas
