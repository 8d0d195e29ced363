import ImportAtlas.Text.Blank

/-!
# Import statements

A source file names other modules in two ways: it imports from them, or it exports again what they
export.  Either way the statement lists the bindings concerned and ends with a quoted module
specifier.  What the graph keeps of a statement is the specifier and a label with one binding a
line.
-/

namespace ImportAtlas

inductive StatementKind where
  | importing
  | reexporting
deriving DecidableEq

def StatementKind.name : StatementKind → Text
  | .importing => "import"
  | .reexporting => "reexport"

structure Statement where
  kind : StatementKind
  items : Text
  specifier : Text
deriving DecidableEq

/-- A line break inside a label, as graph drawing programs read it: a backslash and a small `n`. -/
def labelSeparator : Text := "\\n"

def bindingNames (listed : Text) : List Text :=
  ((Text.splitOn ',' listed).map Text.trim).filter (· ≠ [])

/-- The bindings of an import statement: a default binding, which may be renamed, and then a list
in braces or a namespace. -/
structure ImportClause where
  binding : Option Text
  renamed : Option Text
  listed : Option Text
  namespaceName : Option Text
deriving DecidableEq

namespace ImportClause

def items (clause : ImportClause) : List Text :=
  let first :=
    match clause.binding, clause.renamed with
    | none, _ => []
    | some name, none => [name]
    | some name, some newName => [name ++ " as " ++ newName]
  let listed :=
    match clause.listed with
    | none => []
    | some names => bindingNames names
  let last :=
    match clause.namespaceName with
    | none => []
    | some name => ["* as " ++ name]
  first ++ listed ++ last

def label (clause : ImportClause) : Text := Text.join labelSeparator clause.items

end ImportClause

/-- The bindings of a re-export: a list in braces, or everything, perhaps under one name. -/
inductive ReexportClause where
  | listed (names : Text)
  | everything (namespaceName : Option Text)
deriving DecidableEq

def ReexportClause.label : ReexportClause → Text
  | .listed names => Text.join labelSeparator (bindingNames names)
  | .everything none => "*"
  | .everything (some name) => "* as " ++ name

end ImportAtlas
