import ImportAtlas.Text.Basic

/-!
# Settings

Nine settings say which files are looked at, how they are read, which statements count and how the
graph is drawn.
-/

namespace ImportAtlas

inductive RankDirection where
  | leftToRight
  | rightToLeft
  | topToBottom
  | bottomToTop
deriving DecidableEq

namespace RankDirection

def name : RankDirection → Text
  | .leftToRight => "LR"
  | .rightToLeft => "RL"
  | .topToBottom => "TB"
  | .bottomToTop => "BT"

def all : List RankDirection := [.leftToRight, .rightToLeft, .topToBottom, .bottomToTop]

def ofName? (name : Text) : Option RankDirection := all.find? (·.name = name)

theorem ofName?_name (direction : RankDirection) : ofName? direction.name = some direction := by
  cases direction <;> decide

end RankDirection

structure Settings where
  /-- What names of source files end in. -/
  extensions : List Text
  /-- Whether files that are not tracked are left out. -/
  useGit : Bool
  /-- The names of directories that are not entered. -/
  excludedDirectories : List Text
  /-- Whether a specifier may leave out the extension, or name a directory for its index file. -/
  resolveExtensions : Bool
  /-- Whether re-exports count as imports. -/
  includeReexports : Bool
  /-- The encoding of the source files. -/
  encoding : Text
  /-- The identifier of the drawn graph. -/
  graphName : Text
  rankDirection : RankDirection
  /-- The colour of the box around a directory. -/
  clusterColor : Text
deriving DecidableEq

def Settings.standard : Settings where
  extensions := [".ts", ".js"]
  useGit := true
  excludedDirectories := [".git", "node_modules"]
  resolveExtensions := true
  includeReexports := false
  encoding := "utf-8"
  graphName := "TypeScriptImports"
  rankDirection := .leftToRight
  clusterColor := "blue"

/-- The settings one by one, for what is said about them from outside. -/
inductive SettingsField where
  | extensions
  | useGit
  | excludedDirectories
  | resolveExtensions
  | includeReexports
  | encoding
  | graphName
  | rankDirection
  | clusterColor
deriving DecidableEq

namespace SettingsField

def name : SettingsField → Text
  | .extensions => "extensions"
  | .useGit => "use_git"
  | .excludedDirectories => "exclude_dirs"
  | .resolveExtensions => "resolve_extensions"
  | .includeReexports => "include_reexports"
  | .encoding => "encoding"
  | .graphName => "graph_name"
  | .rankDirection => "rankdir"
  | .clusterColor => "cluster_color"

def all : List SettingsField :=
  [.extensions, .useGit, .excludedDirectories, .resolveExtensions, .includeReexports, .encoding,
    .graphName, .rankDirection, .clusterColor]

end SettingsField

end ImportAtlas
