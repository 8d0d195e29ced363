import ImportAtlas.Proofs.Dot.Scanner

/-!
# Reading drawings

A drawing is read statement by statement.  A statement ends with a semicolon, a box begins and ends
with a brace, and the braces of the document enclose everything.  Files are drawn inside of boxes
and arrows outside of them; what the document says about looks is passed over.
-/

namespace ImportAtlas

namespace Dot

structure Box where
  label : Text
  files : List (Text × Text)
deriving DecidableEq

structure Drawing where
  boxes : List Box
  arrows : List Edge
deriving DecidableEq

def Box.ofGroup (group : DirectoryGroup) : Box :=
  ⟨group.directory, group.files.map fun path => (path, nodeLabel path)⟩

def Drawing.ofGraph (graph : Graph) : Drawing := ⟨graph.directories.map Box.ofGroup, graph.edges⟩

/-!
## Statements
-/

def Token.name? : Token → Option Text
  | .word letters => some letters
  | .quoted value => some value
  | _ => none

def attributes? : List Token → Option (List (Text × Text))
  | [.closeBracket] => some []
  | name :: .equals :: value :: rest => do
      let name ← name.name?
      let value ← value.name?
      let attributes ← attributes? rest
      return (name, value) :: attributes
  | _ => none

def labelOf (attributes : List (Text × Text)) : Text :=
  (attributes.lookup (Text.ofString "label")).getD []

inductive Statement where
  /-- An attribute of what the statement stands in. -/
  | attribute (name value : Text)
  /-- Attributes of everything of a kind. -/
  | defaults (attributes : List (Text × Text))
  | node (name : Text) (attributes : List (Text × Text))
  | edge (source target : Text) (attributes : List (Text × Text))
deriving DecidableEq

def kinds : List Text := ["graph", "node", "edge"]

def statement? : List Token → Option Statement
  | [name, .equals, value] => do
      return .attribute (← name.name?) (← value.name?)
  | [source, .arrow, target] => do
      return .edge (← source.name?) (← target.name?) []
  | source :: .arrow :: target :: .openBracket :: rest => do
      return .edge (← source.name?) (← target.name?) (← attributes? rest)
  | .word name :: .openBracket :: rest =>
      (attributes? rest).map fun attributes =>
        if name ∈ kinds then .defaults attributes else .node name attributes
  | .quoted name :: .openBracket :: rest => (attributes? rest).map (.node name)
  | _ => none

/-!
## Documents
-/

inductive Place where
  | before
  /-- Inside the document, outside of boxes. -/
  | inDocument
  | inBox (box : Box)
  | behind
deriving DecidableEq

structure Reader where
  /-- The tokens of the statement that has not ended. -/
  pending : List Token
  place : Place
  drawing : Drawing
deriving DecidableEq

namespace Reader

def start : Reader := ⟨[], .before, ⟨[], []⟩⟩

/-- The reader behind a statement.  Files belong into boxes and arrows do not. -/
def finishStatement? (reader : Reader) (statement : Statement) : Option Reader :=
  match reader.place, statement with
  | .inDocument, .attribute _ _ => some ⟨[], .inDocument, reader.drawing⟩
  | .inDocument, .defaults _ => some ⟨[], .inDocument, reader.drawing⟩
  | .inDocument, .edge source target attributes =>
      let arrow : Edge := ⟨source, target, labelOf attributes⟩
      some ⟨[], .inDocument, { reader.drawing with arrows := reader.drawing.arrows ++ [arrow] }⟩
  | .inBox box, .attribute name value =>
      let named := if name = "label" then { box with label := value } else box
      some ⟨[], .inBox named, reader.drawing⟩
  | .inBox box, .defaults _ => some ⟨[], .inBox box, reader.drawing⟩
  | .inBox box, .node name attributes =>
      let filled := { box with files := box.files ++ [(name, labelOf attributes)] }
      some ⟨[], .inBox filled, reader.drawing⟩
  | _, _ => none

/-- The reader behind an opening brace, which begins the document or a box. -/
def openBrace? (reader : Reader) : Option Reader :=
  match reader.place, reader.pending with
  | .before, [.word first, .word second, name] =>
      if first = "strict" ∧ second = "digraph" ∧ name.name?.isSome then
        some ⟨[], .inDocument, reader.drawing⟩
      else none
  | .inDocument, [.word first, name] =>
      if first = "subgraph" ∧ name.name?.isSome then
        some ⟨[], .inBox ⟨[], []⟩, reader.drawing⟩
      else none
  | _, _ => none

def closeBrace? (reader : Reader) : Option Reader :=
  match reader.place, reader.pending with
  | .inBox box, [] =>
      some ⟨[], .inDocument, { reader.drawing with boxes := reader.drawing.boxes ++ [box] }⟩
  | .inDocument, [] => some ⟨[], .behind, reader.drawing⟩
  | _, _ => none

def step? (reader : Reader) : Token → Option Reader
  | .semicolon => (statement? reader.pending).bind reader.finishStatement?
  | .openBrace => reader.openBrace?
  | .closeBrace => reader.closeBrace?
  | token => some { reader with pending := reader.pending ++ [token] }

def run? (reader : Reader) (tokens : List Token) : Option Reader := tokens.foldlM step? reader

end Reader

def read? (t : Text) : Option Drawing := do
  let tokens ← tokens? t
  let reader ← Reader.start.run? tokens
  if reader.place = .behind ∧ reader.pending = [] then return reader.drawing else none

namespace Reader

variable {reader next last : Reader} {tokens more : List Token}

theorem run?_append (hfirst : reader.run? tokens = some next) (hmore : next.run? more = some last) :
    reader.run? (tokens ++ more) = some last := by
  unfold run? at hfirst hmore ⊢
  rw [List.foldlM_append, hfirst]
  exact hmore

/-- Items are read one after another when each of them takes the reader from what has been read of
those before it to one more. -/
theorem run?_flatMap {α : Type} {spell : α → List Token} (state : List α → Reader)
    (hitem : ∀ read item, (state read).run? (spell item) = some (state (read ++ [item])))
    (read items : List α) :
    (state read).run? (items.flatMap spell) = some (state (read ++ items)) := by
  induction items generalizing read with
  | nil => simp [run?]
  | cons item items ih =>
      have hrest := ih (read ++ [item])
      rw [List.append_assoc, List.singleton_append] at hrest
      rw [List.flatMap_cons]
      exact run?_append (hitem read item) hrest

end Reader

end Dot

end ImportAtlas
