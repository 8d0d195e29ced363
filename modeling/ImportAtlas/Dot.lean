import ImportAtlas.Graph.Basic
import ImportAtlas.Settings.Basic

/-!
# The graph as a drawing

A graph is drawn from a document in the DOT language: a box for each directory with its files, then
an arrow for each edge.  Double quotes inside strings get a backslash.
-/

namespace ImportAtlas

namespace Dot

def escape (value : Text) : Text := Text.replace '"' "\\\"" value

def quote (value : Text) : Text := "\"" ++ escape value ++ "\""

def isIdentifierPart (c : CodePoint) : Bool := c.isLetter || c.isDigit || c = '_'

def clusterName (directory : Text) : Text :=
  "cluster_" ++ directory.map fun c => if isIdentifierPart c then c else CodePoint.ofChar '_'

/-- The name of a file up to its first point, or all of it when it begins with one. -/
def nodeLabel (path : Text) : Text :=
  let name := Path.fileName path
  let stem := name.takeWhile (· ≠ CodePoint.ofChar '.')
  if stem = [] then name else stem

def fileLine (path : Text) : Text :=
  "    " ++ quote path ++ "[label=" ++ quote (nodeLabel path) ++ "];"

def clusterLines (color : Text) (group : DirectoryGroup) : List Text :=
  ["  subgraph " ++ clusterName group.directory ++ " \x7b",
    "    label = " ++ quote group.directory ++ ";",
    "    color = " ++ quote color ++ "; fontcolor=" ++ quote color ++ ";"] ++
    group.files.map fileLine ++ [Text.ofString "  \x7d"]

def edgeLine (edge : Edge) : Text :=
  let arrow := "  " ++ quote edge.source ++ " -> " ++ quote edge.target
  if edge.label = [] then arrow ++ ";" else arrow ++ " [label=" ++ quote edge.label ++ "];"

def headerLines (settings : Settings) : List Text :=
  ["strict digraph " ++ settings.graphName ++ " \x7b",
    "  node [shape=box];",
    "  edge [fontsize=8];",
    "  rankdir=\"" ++ settings.rankDirection.name ++ "\";"]

def lines (settings : Settings) (graph : Graph) : List Text :=
  headerLines settings ++ graph.directories.flatMap (clusterLines settings.clusterColor) ++
    graph.edges.map edgeLine ++ [Text.ofString "\x7d"]

end Dot

end ImportAtlas
