import ImportAtlas.Statement.Basic
import ImportAtlas.Text.Word

/-!
# Reading one statement

A statement is read from its first keyword on, without looking at what stands around it.  The
grammar is textual and forgiving: white space and line breaks may stand between the parts, `from`
may be missing in an import, and the two quotes of a specifier need not be of one kind.

Each part has one way to be read: a name is taken as a whole, and an optional part is taken when it
is there.  Two words call for care.  `type` is skipped when the rest can be read without it and is a
binding of that name otherwise.  And in a re-export under one name, `from` may be glued to the name.
-/

namespace ImportAtlas

namespace Statement

/-!
## Parts
-/

def spaces? : Text → Option Text
  | [] => none
  | c :: rest => if c.isBlank then some (Text.trimStart rest) else none

def name? (t : Text) : Option (Text × Text) :=
  match t.takeWhile CodePoint.isNamePart with
  | [] => none
  | c :: name => some (c :: name, t.dropWhile CodePoint.isNamePart)

def isBrace (c : CodePoint) : Bool := c = '\x7b' || c = '\x7d'

def isQuote (c : CodePoint) : Bool := c = '"' || c = '\''

def braces? (t : Text) : Option (Text × Text) := do
  let inside ← Text.after? "\x7b" t
  let rest ← Text.after? "\x7d" (inside.dropWhile (!isBrace ·))
  return (inside.takeWhile (!isBrace ·), rest)

def renaming? (t : Text) : Option (Text × Text) := do
  let t ← spaces? t
  let t ← Text.after? "as" t
  let t ← spaces? t
  name? t

def namespace? (t : Text) : Option (Text × Text) := do
  let t ← Text.after? "*" t
  let t ← Text.after? "as" (Text.trimStart t)
  let t ← spaces? t
  name? t

def skipComma (t : Text) : Text :=
  match Text.after? "," (Text.trimStart t) with
  | some rest => Text.trimStart rest
  | none => t

def specifier? : Text → Option (Text × Text)
  | [] => none
  | c :: t =>
      if isQuote c then
        match t.takeWhile (!isQuote ·), t.dropWhile (!isQuote ·) with
        | d :: specifier, _ :: rest => some (d :: specifier, rest)
        | _, _ => none
      else none

def source? (t : Text) : Option (Text × Text) := do
  let t ← Text.after? "from" (Text.trimStart t)
  specifier? (Text.trimStart t)

def sourceOrSpecifier? (t : Text) : Option (Text × Text) :=
  let t := Text.trimStart t
  match Text.after? "from" t with
  | some rest => specifier? (Text.trimStart rest)
  | none => specifier? t

/-!
## Imports
-/

/-- The default binding with its new name and the comma after it, as far as they are there. -/
def readBinding (t : Text) : ImportClause × Text :=
  match name? t with
  | none => (⟨none, none, none, none⟩, t)
  | some (name, rest) =>
      match renaming? rest with
      | none => (⟨some name, none, none, none⟩, skipComma rest)
      | some (newName, rest) => (⟨some name, some newName, none, none⟩, skipComma rest)

def readGroup (clause : ImportClause) (t : Text) : ImportClause × Text :=
  match braces? t with
  | some (names, rest) => ({ clause with listed := some names }, rest)
  | none =>
      match namespace? t with
      | some (name, rest) => ({ clause with namespaceName := some name }, rest)
      | none => (clause, t)

def importBody? (t : Text) : Option (Statement × Text) :=
  let (clause, rest) := readBinding t
  let (clause, rest) := readGroup clause rest
  match sourceOrSpecifier? rest with
  | none => none
  | some (specifier, rest) => some (⟨.importing, clause.label, specifier⟩, rest)

def typeWord? (t : Text) : Option Text := do
  let t ← Text.after? "type" t
  spaces? t

def readImport? (t : Text) : Option (Statement × Text) := do
  let t ← Text.after? "import" t
  let t ← spaces? t
  ((typeWord? t).bind importBody?).or (importBody? t)

/-!
## Re-exports
-/

/-- A name from which `from` is split off at the end, with at least one character left. -/
def splitFrom? (name : Text) : Option Text :=
  match Text.after? (Text.ofString "from").reverse name.reverse with
  | some (c :: reversed) => some (c :: reversed).reverse
  | _ => none

def everything? (t : Text) : Option (ReexportClause × Text × Text) :=
  match namespace? t with
  | some (name, rest) =>
      match source? rest with
      | some (specifier, rest) => some (.everything (some name), specifier, rest)
      | none => do
          let name ← splitFrom? name
          let (specifier, rest) ← specifier? (Text.trimStart rest)
          return (.everything (some name), specifier, rest)
  | none => do
      let rest ← Text.after? "*" t
      let (specifier, rest) ← source? rest
      return (.everything none, specifier, rest)

def reexportBody? (t : Text) : Option (Statement × Text) :=
  match braces? t with
  | some (names, rest) => do
      let (specifier, rest) ← source? rest
      return (⟨.reexporting, (ReexportClause.listed names).label, specifier⟩, rest)
  | none => do
      let (clause, specifier, rest) ← everything? t
      return (⟨.reexporting, clause.label, specifier⟩, rest)

def readReexport? (t : Text) : Option (Statement × Text) := do
  let t ← Text.after? "export" t
  let t ← spaces? t
  reexportBody? ((typeWord? t).getD t)

end Statement

end ImportAtlas
