import ImportAtlas.Settings.Basic

/-!
# Options of the command line

Every option has a long spelling, and some have a letter as well.  Most are flags; the others expect
a value, which may be restricted to a few choices.

The two hyphens that separate operands from options are no value.  Attached to an option that
expects one they leave it blank, which is more than not giving the option.
-/

namespace ImportAtlas

inductive OutputFormat where
  | dot
  | json
deriving DecidableEq

namespace OutputFormat

def name : OutputFormat → Text
  | .dot => "dot"
  | .json => "json"

def all : List OutputFormat := [.dot, .json]

def ofName? (name : Text) : Option OutputFormat := all.find? (·.name = name)

end OutputFormat

inductive CommandOption where
  | help
  | verbose
  | quiet
  | environmentFile
  | format
  | output
  | extension
  | withoutGit
  | withoutResolving
  | includeReexports
  | rankDirection
  | graphName
deriving DecidableEq

namespace CommandOption

def all : List CommandOption :=
  [.help, .verbose, .quiet, .environmentFile, .format, .output, .extension, .withoutGit,
    .withoutResolving, .includeReexports, .rankDirection, .graphName]

def letter? : CommandOption → Option CodePoint
  | .help => some 'h'
  | .verbose => some 'v'
  | .quiet => some 'q'
  | .output => some 'o'
  | _ => none

def longSpelling : CommandOption → Text
  | .help => "--help"
  | .verbose => "--verbose"
  | .quiet => "--quiet"
  | .environmentFile => "--env-file"
  | .format => "--format"
  | .output => "--output"
  | .extension => "--ext"
  | .withoutGit => "--no-git"
  | .withoutResolving => "--no-resolve"
  | .includeReexports => "--include-reexports"
  | .rankDirection => "--rankdir"
  | .graphName => "--graph-name"

def shortSpelling? (option : CommandOption) : Option Text :=
  option.letter?.map fun letter => [CodePoint.ofChar '-', letter]

def label (option : CommandOption) : Text :=
  Text.join "/" (option.shortSpelling?.toList ++ [option.longSpelling])

def takesValue : CommandOption → Bool
  | .environmentFile | .format | .output | .extension | .rankDirection | .graphName => true
  | _ => false

def ofLetter? (letter : CodePoint) : Option CommandOption :=
  all.find? (·.letter? = some letter)

def ofSpelling? (spelling : Text) : Option (CommandOption × Bool) :=
  match all.find? (·.longSpelling = spelling) with
  | some option => some (option, true)
  | none => (all.find? (·.shortSpelling? = some spelling)).map fun option => (option, false)

def abbreviatedBy (start : Text) : List CommandOption :=
  all.filter fun option => Text.startsWith start option.longSpelling

end CommandOption

def separatorWord : Text := "--"

inductive OptionValue (α : Type) where
  | blank
  | value (a : α)
deriving DecidableEq

namespace OptionValue

def ofAttached (word : Text) : OptionValue Text :=
  if word = separatorWord then .blank else .value word

def map {α β : Type} (f : α → β) : OptionValue α → OptionValue β
  | .blank => .blank
  | .value a => .value (f a)

def value? {α : Type} : OptionValue α → Option α
  | .blank => none
  | .value a => some a

end OptionValue

end ImportAtlas
