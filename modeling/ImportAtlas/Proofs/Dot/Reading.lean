import ImportAtlas.Proofs.Dot.Identifiers
import ImportAtlas.Proofs.Dot.Quoting
import ImportAtlas.Proofs.Dot.Reader
import ImportAtlas.Proofs.Settings.Valid
import ImportAtlas.Proofs.Text.Split

/-!
# Reading a written drawing

Reading the document of a graph gives its directories, each with its files and their labels, and its
edges.  Names may hold any delimiter of the language, line feeds included, so the document cannot be
taken apart into its lines; it is scanned as a whole, and the lines serve as parts that consist of
whole tokens.
-/

namespace ImportAtlas

namespace Dot

/-- Every text that a document shows between quotes has even runs of backslashes. -/
structure AreQuotable (settings : Settings) (graph : Graph) : Prop where
  color : HasEvenRuns settings.clusterColor
  directories : ∀ group ∈ graph.directories, HasEvenRuns group.directory
  paths : ∀ group ∈ graph.directories, ∀ path ∈ group.files, HasEvenRuns path
  nodeLabels : ∀ group ∈ graph.directories, ∀ path ∈ group.files, HasEvenRuns (nodeLabel path)
  sources : ∀ edge ∈ graph.edges, HasEvenRuns edge.source
  targets : ∀ edge ∈ graph.edges, HasEvenRuns edge.target
  labels : ∀ edge ∈ graph.edges, HasEvenRuns edge.label

variable {settings : Settings} {graph : Graph} {group : DirectoryGroup} {edge : Edge}
  {path color name letters directory : Text}

/-!
## Tokens of lines
-/

def endLine (line : Text) : Text := line ++ "\n"

def headerTokens (letters : Text) (direction : RankDirection) : List Token :=
  [.word "strict", .word "digraph", .word letters, .openBrace,
    .word "node", .openBracket, .word "shape", .equals, .word "box", .closeBracket, .semicolon,
    .word "edge", .openBracket, .word "fontsize", .equals, .word "8", .closeBracket, .semicolon,
    .word "rankdir", .equals, .quoted direction.name, .semicolon]

def boxTokens (color directory : Text) : List Token :=
  [.word "subgraph", .word (clusterName directory), .openBrace,
    .word "label", .equals, .quoted directory, .semicolon,
    .word "color", .equals, .quoted color, .semicolon,
    .word "fontcolor", .equals, .quoted color, .semicolon]

def fileTokens (path : Text) : List Token :=
  [.quoted path, .openBracket, .word "label", .equals, .quoted (nodeLabel path), .closeBracket,
    .semicolon]

def clusterTokens (color : Text) (group : DirectoryGroup) : List Token :=
  boxTokens color group.directory ++ group.files.flatMap fileTokens ++ [.closeBrace]

def labelTokens (label : Text) : List Token :=
  if label = [] then []
  else [.openBracket, .word "label", .equals, .quoted label, .closeBracket]

def edgeTokens (edge : Edge) : List Token :=
  .quoted edge.source :: .arrow :: .quoted edge.target :: (labelTokens edge.label ++ [.semicolon])

theorem scansTo_lineFeed : ScansTo "\n" [] := by decide

theorem isWordPart_clusterName (directory : Text) :
    ∀ c ∈ clusterName directory, isWordPart c = true := by
  intro c hc
  simp [isWordPart, isIdentifierPart_of_mem_clusterName hc]

/-- The name of a graph is a word, even with a line feed behind it. -/
theorem scansTo_graphName (h : Settings.isIdentifier name = true) :
    ∃ letters, ScansTo (name ++ " \x7b") [.word letters, .openBrace] := by
  rcases Settings.exists_of_isIdentifier h with ⟨letters, hne, hparts, hname⟩
  have hwords : ∀ c ∈ letters, isWordPart c = true := by
    intro c hc
    have hpart : isIdentifierPart c = true := hparts c hc
    simp [isWordPart, hpart]
  have hbrace : ScansTo " \x7b" [.openBrace] := by decide
  refine ⟨letters, ?_⟩
  rcases hname with rfl | rfl
  · exact scansTo_word hne hwords (by decide) hbrace
  · rw [List.append_assoc]
    exact scansTo_word hne hwords (by decide) (scansTo_lineFeed.append hbrace)

theorem scansTo_header (h : Settings.isIdentifier settings.graphName = true) :
    ∃ letters, ScansTo ((headerLines settings).flatMap endLine)
      (headerTokens letters settings.rankDirection) := by
  rcases scansTo_graphName h with ⟨letters, hname⟩
  have hstart : ScansTo "strict digraph " [.word "strict", .word "digraph"] := by decide
  have hnode : ScansTo "  node [shape=box];\n"
      [.word "node", .openBracket, .word "shape", .equals, .word "box", .closeBracket,
        .semicolon] := by decide
  have hedge : ScansTo "  edge [fontsize=8];\n"
      [.word "edge", .openBracket, .word "fontsize", .equals, .word "8", .closeBracket,
        .semicolon] := by decide
  have hdirection : ∀ direction : RankDirection,
      ScansTo ("  rankdir=\"" ++ direction.name ++ "\";" ++ "\n")
        [.word "rankdir", .equals, .quoted direction.name, .semicolon] := by
    intro direction
    cases direction <;> decide
  have hall := (((hstart.append hname).append scansTo_lineFeed).append hnode).append
    (hedge.append (hdirection settings.rankDirection))
  refine ⟨letters, ?_⟩
  simpa [headerLines, endLine, headerTokens, Text.ofString] using hall

theorem scansTo_fileLine (hpath : HasEvenRuns path) (hlabel : HasEvenRuns (nodeLabel path)) :
    ScansTo (endLine (fileLine path)) (fileTokens path) := by
  have hindent : ScansTo "    " [] := by decide
  have hbracket : ScansTo "[label=" [.openBracket, .word "label", .equals] := by decide
  have hend : ScansTo "];" [.closeBracket, .semicolon] := by decide
  have hall := ((((hindent.append (scansTo_quote hpath)).append hbracket).append
    (scansTo_quote hlabel)).append hend).append scansTo_lineFeed
  simpa [fileLine, fileTokens, endLine] using hall

theorem scansTo_boxLine (directory : Text) :
    ScansTo (endLine ("  subgraph " ++ clusterName directory ++ " \x7b"))
      [.word "subgraph", .word (clusterName directory), .openBrace] := by
  have hstart : ScansTo "  subgraph " [.word "subgraph"] := by decide
  have hbrace : ScansTo " \x7b" [.openBrace] := by decide
  have hname : ScansTo (clusterName directory ++ " \x7b")
      [.word (clusterName directory), .openBrace] :=
    scansTo_word (by simp [clusterName, Text.ofString]) (isWordPart_clusterName directory)
      (by decide) hbrace
  have hall := (hstart.append hname).append scansTo_lineFeed
  simpa [endLine] using hall

theorem scansTo_boxLabel (h : HasEvenRuns directory) :
    ScansTo (endLine ("    label = " ++ quote directory ++ ";"))
      [.word "label", .equals, .quoted directory, .semicolon] := by
  have hstart : ScansTo "    label = " [.word "label", .equals] := by decide
  have hend : ScansTo ";" [.semicolon] := by decide
  have hall := ((hstart.append (scansTo_quote h)).append hend).append scansTo_lineFeed
  simpa [endLine] using hall

theorem scansTo_boxColor (h : HasEvenRuns color) :
    ScansTo (endLine ("    color = " ++ quote color ++ "; fontcolor=" ++ quote color ++ ";"))
      [.word "color", .equals, .quoted color, .semicolon, .word "fontcolor", .equals,
        .quoted color, .semicolon] := by
  have hstart : ScansTo "    color = " [.word "color", .equals] := by decide
  have hmiddle : ScansTo "; fontcolor=" [.semicolon, .word "fontcolor", .equals] := by
    decide
  have hend : ScansTo ";" [.semicolon] := by decide
  have hall := ((((hstart.append (scansTo_quote h)).append hmiddle).append
    (scansTo_quote h)).append hend).append scansTo_lineFeed
  simpa [endLine] using hall

theorem scansTo_cluster (hcolor : HasEvenRuns color) (hdirectory : HasEvenRuns group.directory)
    (hpaths : ∀ path ∈ group.files, HasEvenRuns path)
    (hlabels : ∀ path ∈ group.files, HasEvenRuns (nodeLabel path)) :
    ScansTo ((clusterLines color group).flatMap endLine) (clusterTokens color group) := by
  have hbox := ((scansTo_boxLine group.directory).append (scansTo_boxLabel hdirectory)).append
    (scansTo_boxColor hcolor)
  have hfiles : ScansTo (group.files.flatMap fun path => endLine (fileLine path))
      (group.files.flatMap fileTokens) :=
    ScansTo.flatMap fun path hpath => scansTo_fileLine (hpaths path hpath) (hlabels path hpath)
  have hclose : ScansTo "  \x7d\n" [.closeBrace] := by decide
  have hall := (hbox.append hfiles).append hclose
  simpa [clusterLines, clusterTokens, boxTokens, List.flatMap_map, endLine, Text.ofString]
    using hall

theorem scansTo_edgeLine (hsource : HasEvenRuns edge.source) (htarget : HasEvenRuns edge.target)
    (hlabel : HasEvenRuns edge.label) :
    ScansTo (endLine (edgeLine edge)) (edgeTokens edge) := by
  have hindent : ScansTo "  " [] := by decide
  have harrow : ScansTo " -> " [.arrow] := by decide
  have hends := ((hindent.append (scansTo_quote hsource)).append harrow).append
    (scansTo_quote htarget)
  by_cases hempty : edge.label = []
  · have hend : ScansTo ";" [.semicolon] := by decide
    have hall := (hends.append hend).append scansTo_lineFeed
    simpa [edgeLine, edgeTokens, labelTokens, hempty, endLine] using hall
  · have hbracket : ScansTo " [label=" [.openBracket, .word "label", .equals] := by decide
    have hend : ScansTo "];" [.closeBracket, .semicolon] := by decide
    have hall := (((hends.append hbracket).append (scansTo_quote hlabel)).append hend).append
      scansTo_lineFeed
    simpa [edgeLine, edgeTokens, labelTokens, hempty, endLine] using hall

theorem scansTo_lines (hname : Settings.isIdentifier settings.graphName = true)
    (h : AreQuotable settings graph) :
    ∃ letters, ScansTo ((lines settings graph).flatMap endLine)
      (headerTokens letters settings.rankDirection ++
        graph.directories.flatMap (clusterTokens settings.clusterColor) ++
        graph.edges.flatMap edgeTokens ++ [.closeBrace]) := by
  rcases scansTo_header hname with ⟨letters, hheader⟩
  have hclusters := ScansTo.flatMap fun group hgroup =>
    scansTo_cluster h.color (h.directories group hgroup) (h.paths group hgroup)
      (h.nodeLabels group hgroup)
  have hedges := ScansTo.flatMap fun edge hedge =>
    scansTo_edgeLine (h.sources edge hedge) (h.targets edge hedge) (h.labels edge hedge)
  have hclose : ScansTo (endLine "\x7d") [.closeBrace] := by decide
  have hall := ((hheader.append hclusters).append hedges).append hclose
  refine ⟨letters, ?_⟩
  simpa [lines, List.flatMap_assoc, List.flatMap_map] using hall

theorem tokens?_lines (hname : Settings.isIdentifier settings.graphName = true)
    (h : AreQuotable settings graph) :
    ∃ letters, tokens? (Text.join "\n" (lines settings graph)) =
      some (headerTokens letters settings.rankDirection ++
        graph.directories.flatMap (clusterTokens settings.clusterColor) ++
        graph.edges.flatMap edgeTokens ++ [.closeBrace]) := by
  rcases scansTo_lines hname h with ⟨letters, hlines⟩
  have hjoin : (lines settings graph).flatMap endLine =
      Text.join "\n" (lines settings graph) ++ [CodePoint.ofChar '\n'] := by
    have hne : lines settings graph ≠ [] := by simp [lines]
    exact Text.flatMap_append_sep "\n" hne
  rw [hjoin] at hlines
  exact ⟨letters, tokens?_of_lineFeed hlines⟩

/-!
## Boxes and arrows
-/

namespace Reader

variable {drawing : Drawing}

theorem run?_header (letters : Text) (direction : RankDirection) :
    start.run? (headerTokens letters direction) = some ⟨[], .inDocument, ⟨[], []⟩⟩ := by
  rfl

theorem run?_box (color directory : Text) :
    Reader.run? ⟨[], .inDocument, drawing⟩ (boxTokens color directory) =
      some ⟨[], .inBox ⟨directory, []⟩, drawing⟩ := by
  rfl

theorem run?_files (directory : Text) (files : List Text) :
    Reader.run? ⟨[], .inBox ⟨directory, []⟩, drawing⟩ (files.flatMap fileTokens) =
      some ⟨[], .inBox ⟨directory, files.map fun path => (path, nodeLabel path)⟩, drawing⟩ := by
  have hitem : ∀ (read : List Text) (path : Text),
      Reader.run? ⟨[], .inBox ⟨directory, read.map fun path => (path, nodeLabel path)⟩, drawing⟩
          (fileTokens path) =
        some ⟨[], .inBox ⟨directory, (read ++ [path]).map fun path => (path, nodeLabel path)⟩,
          drawing⟩ := by
    intro read path
    rw [List.map_append]
    rfl
  exact run?_flatMap
    (fun read => ⟨[], .inBox ⟨directory, read.map fun path => (path, nodeLabel path)⟩, drawing⟩)
    hitem [] files

theorem run?_cluster (boxes : List Box) (arrows : List Edge) (color : Text)
    (group : DirectoryGroup) :
    Reader.run? ⟨[], .inDocument, ⟨boxes, arrows⟩⟩ (clusterTokens color group) =
      some ⟨[], .inDocument, ⟨boxes ++ [Box.ofGroup group], arrows⟩⟩ :=
  run?_append (run?_append (run?_box color group.directory) (run?_files _ group.files)) rfl

theorem run?_clusters (arrows : List Edge) (color : Text) (groups : List DirectoryGroup) :
    Reader.run? ⟨[], .inDocument, ⟨[], arrows⟩⟩ (groups.flatMap (clusterTokens color)) =
      some ⟨[], .inDocument, ⟨groups.map Box.ofGroup, arrows⟩⟩ := by
  have hitem : ∀ (read : List DirectoryGroup) (group : DirectoryGroup),
      Reader.run? ⟨[], .inDocument, ⟨read.map Box.ofGroup, arrows⟩⟩ (clusterTokens color group) =
        some ⟨[], .inDocument, ⟨(read ++ [group]).map Box.ofGroup, arrows⟩⟩ := by
    intro read group
    rw [List.map_append]
    exact run?_cluster _ arrows color group
  exact run?_flatMap (fun read => ⟨[], .inDocument, ⟨read.map Box.ofGroup, arrows⟩⟩) hitem []
    groups

theorem run?_edge (boxes : List Box) (arrows : List Edge) (edge : Edge) :
    Reader.run? ⟨[], .inDocument, ⟨boxes, arrows⟩⟩ (edgeTokens edge) =
      some ⟨[], .inDocument, ⟨boxes, arrows ++ [edge]⟩⟩ := by
  rcases edge with ⟨source, target, label⟩
  cases label <;> rfl

theorem run?_edges (boxes : List Box) (edges : List Edge) :
    Reader.run? ⟨[], .inDocument, ⟨boxes, []⟩⟩ (edges.flatMap edgeTokens) =
      some ⟨[], .inDocument, ⟨boxes, edges⟩⟩ :=
  run?_flatMap (fun read => ⟨[], .inDocument, ⟨boxes, read⟩⟩)
    (fun read edge => run?_edge boxes read edge) [] edges

theorem run?_document (letters color : Text) (direction : RankDirection) (graph : Graph) :
    start.run? (headerTokens letters direction ++ graph.directories.flatMap (clusterTokens color) ++
        graph.edges.flatMap edgeTokens ++ [.closeBrace]) =
      some ⟨[], .behind, Drawing.ofGraph graph⟩ := by
  have hclusters := run?_append (run?_header letters direction)
    (run?_clusters [] color graph.directories)
  have hedges := run?_append hclusters (run?_edges _ graph.edges)
  exact run?_append hedges rfl

end Reader

/-- Reading the document of a graph gives the drawing of the graph. -/
theorem read?_lines (hsettings : settings.IsValid) (h : AreQuotable settings graph) :
    read? (Text.join "\n" (lines settings graph)) = some (Drawing.ofGraph graph) := by
  rcases tokens?_lines hsettings.isIdentifier h with ⟨letters, htokens⟩
  have hrun := Reader.run?_document letters settings.clusterColor settings.rankDirection graph
  unfold read?
  simp only [htokens, Option.bind_eq_bind, Option.bind_some, hrun]
  rfl

def trickyGraph : Graph :=
  ((Graph.ofFiles ["di\\\\\"r\\\\/a\"b.ts", "x];\n  \x7d"]).addEdge
    ⟨"di\\\\\"r\\\\/a\"b.ts", "x];\n  \x7d", "*, \"a\""⟩).addEdge
    ⟨"x];\n  \x7d", "x];\n  \x7d", ""⟩

theorem areQuotable_trickyGraph : AreQuotable .standard trickyGraph where
  color := by decide
  directories := by decide
  paths := by decide
  nodeLabels := by decide
  sources := by decide
  targets := by decide
  labels := by decide

theorem read?_trickyGraph :
    read? (Text.join "\n" (lines .standard trickyGraph)) =
      some ⟨[⟨"di\\\\\"r\\\\", [("di\\\\\"r\\\\/a\"b.ts", "a\"b")]⟩,
        ⟨".", [("x];\n  \x7d", "x];\n  \x7d")]⟩],
        [⟨"di\\\\\"r\\\\/a\"b.ts", "x];\n  \x7d", "*, \"a\""⟩,
          ⟨"x];\n  \x7d", "x];\n  \x7d", ""⟩]⟩ := by
  have hdrawing := read?_lines Settings.isValid_standard areQuotable_trickyGraph
  rw [hdrawing]
  decide

end Dot

end ImportAtlas
