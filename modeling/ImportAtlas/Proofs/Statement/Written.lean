import ImportAtlas.Proofs.Statement.Keyword
import ImportAtlas.Proofs.Statement.Settled
import ImportAtlas.Proofs.Text.Split

/-!
# Statements as they are written

Someone who writes a statement chooses its bindings, the white space between the parts and the kind
of the quotes.  Here a statement is such a choice.  It is printed as a text, and it has a kind, a
label and a specifier, which are said without looking at the text: the label lists the bindings in
their order, each item of a list as it is written between its first and its last word.

Names hide no keyword and a default binding is not called `type`.  A name is kept apart from the
words around it by white space; everywhere else white space may be missing.
-/

namespace ImportAtlas

namespace Statement

namespace Written

structure Identifier extends Name where
  keywordFree : ∀ kind, IsFreeOf kind text

inductive QuoteStyle where
  | double
  | single

def QuoteStyle.mark : QuoteStyle → CodePoint
  | .double => '"'
  | .single => '\''

structure ModuleName where
  style : QuoteStyle
  text : Text
  nonempty : text ≠ []
  unquoted : ∀ c ∈ text, isQuote c = false
  unspaced : ∀ c ∈ text, c.isBlank = false

structure NewName where
  before : Spaces
  after : Spaces
  name : Identifier

structure Default where
  name : Identifier
  ne_type : name.text ≠ "type"
  renamed : Option NewName

inductive Item where
  | plain (name : Identifier)
  | renamed (name : Identifier) (newName : NewName)
  | typed (after : Spaces) (name : Identifier)

structure Entry where
  before : Blanks
  item : Option Item
  after : Blanks

structure Everything where
  before : Blanks
  after : Spaces
  name : Identifier

inductive Group where
  | listed (entries : List Entry)
  | everything (all : Everything)

inductive Bindings where
  | default (binding : Default)
  | others (group : Group)
  | both (binding : Default) (comma : Comma) (group : Group)

inductive Exports where
  | listed (entries : List Entry)
  | everything
  | renamed (all : Everything)

/-!
## Spelling
-/

def ModuleName.spell (path : ModuleName) : Text :=
  path.style.mark :: (path.text ++ [path.style.mark])

def NewName.spell (newName : NewName) : Text :=
  newName.before.text ++ "as" ++ newName.after.text ++ newName.name.text

def Default.spell (binding : Default) : Text :=
  binding.name.text ++ binding.renamed.elim [] NewName.spell

def Item.spell : Item → Text
  | plain name => name.text
  | renamed name newName => name.text ++ newName.spell
  | typed after name => "type" ++ after.text ++ name.text

def Entry.spell (entry : Entry) : Text :=
  entry.before.text ++ entry.item.elim [] Item.spell ++ entry.after.text

def listText (entries : List Entry) : Text := Text.join "," (entries.map Entry.spell)

def Everything.spell (all : Everything) : Text :=
  "*" ++ all.before.text ++ "as" ++ all.after.text ++ all.name.text

def Group.spell : Group → Text
  | listed entries => "\x7b" ++ listText entries ++ "\x7d"
  | everything all => all.spell

def Bindings.spell : Bindings → Text
  | default binding => binding.spell
  | others group => group.spell
  | both binding comma group => binding.spell ++ comma.spell ++ group.spell

def Exports.spell : Exports → Text
  | listed entries => "\x7b" ++ listText entries ++ "\x7d"
  | everything => "*"
  | renamed all => all.spell

/-!
## Labels
-/

def Default.label (binding : Default) : Text :=
  binding.name.text ++
    binding.renamed.elim [] fun newName => Text.ofString " as " ++ newName.name.text

def itemLabels (entries : List Entry) : List Text :=
  entries.filterMap fun entry => entry.item.map Item.spell

def Everything.label (all : Everything) : Text := "* as " ++ all.name.text

def Group.labels : Group → List Text
  | listed entries => itemLabels entries
  | everything all => [all.label]

def Bindings.labels : Bindings → List Text
  | default binding => [binding.label]
  | others group => group.labels
  | both binding _ group => binding.label :: group.labels

def Exports.labels : Exports → List Text
  | listed entries => itemLabels entries
  | everything => ["*"]
  | renamed all => [all.label]

/-!
## Where a name comes last
-/

def Group.endsInName : Group → Bool
  | listed _ => false
  | everything _ => true

def Bindings.endsInName : Bindings → Bool
  | default _ => true
  | others group => group.endsInName
  | both _ _ group => group.endsInName

def Exports.endsInName : Exports → Bool
  | listed _ => false
  | everything => false
  | renamed _ => true

end Written

/-- A statement with all that is free in writing it. -/
inductive Written where
  | sideEffect (afterKeyword : Spaces) (path : Written.ModuleName)
  | importing (afterKeyword : Spaces) (typeWord : Option Spaces) (bindings : Written.Bindings)
      (beforeFrom afterFrom : Blanks)
      (apart : bindings.endsInName = true → beforeFrom.text ≠ []) (path : Written.ModuleName)
  | reexporting (afterKeyword : Spaces) (typeWord : Option Spaces) (bindings : Written.Exports)
      (beforeFrom afterFrom : Blanks)
      (apart : bindings.endsInName = true → beforeFrom.text ≠ []) (path : Written.ModuleName)

namespace Written

def kind : Written → StatementKind
  | sideEffect .. => .importing
  | importing .. => .importing
  | reexporting .. => .reexporting

def path : Written → ModuleName
  | sideEffect _ path => path
  | importing _ _ _ _ _ _ path => path
  | reexporting _ _ _ _ _ _ path => path

def labels : Written → List Text
  | sideEffect .. => []
  | importing _ _ bindings _ _ _ _ => bindings.labels
  | reexporting _ _ bindings _ _ _ _ => bindings.labels

def lead : Written → Text
  | sideEffect afterKeyword _ => "import" ++ afterKeyword.text
  | importing afterKeyword typeWord bindings beforeFrom afterFrom _ _ =>
      "import" ++ afterKeyword.text ++ typeWord.elim [] spellType ++ bindings.spell ++
        beforeFrom.text ++ "from" ++ afterFrom.text
  | reexporting afterKeyword typeWord bindings beforeFrom afterFrom _ _ =>
      "export" ++ afterKeyword.text ++ typeWord.elim [] spellType ++ bindings.spell ++
        beforeFrom.text ++ "from" ++ afterFrom.text

def spell (written : Written) : Text := written.lead ++ written.path.spell

def statement (written : Written) : Statement :=
  ⟨written.kind, Text.join labelSeparator written.labels, written.path.text⟩

end Written

end Statement

end ImportAtlas
