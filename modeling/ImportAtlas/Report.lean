import ImportAtlas.Graph.Basic
import ImportAtlas.Json.Writer

/-!
# The graph as data

For other programs the graph is written as one JSON object: the files, the files of each directory,
and the edges.
-/

namespace ImportAtlas

namespace Report

def ofTexts (texts : List Text) : Json := .array (texts.map Json.text)

def ofEdge (edge : Edge) : Json :=
  .object [("source", .text edge.source), ("target", .text edge.target),
    ("label", .text edge.label)]

def ofGraph (graph : Graph) : Json :=
  .object [("files", ofTexts graph.files),
    ("directories",
      .object (graph.directories.map fun group => (group.directory, ofTexts group.files))),
    ("edges", .array (graph.edges.map ofEdge))]

def write (graph : Graph) : Text := Json.write .indented 0 (ofGraph graph)

end Report

end ImportAtlas
