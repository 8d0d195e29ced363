import ImportAtlas.Json.Basic
import ImportAtlas.Number.Binary64
import ImportAtlas.Settings.Basic
import ImportAtlas.Text.Blank
import ImportAtlas.Text.LowerCase
import ImportAtlas.Text.Quoted

/-!
# Checking given settings

Settings come from outside as JSON values, one for each that is given.  Each value is checked by
itself, and either all of them are in order or every objection is reported, in the order of the
settings.

The rules for a name, for the extensions and for a least length are those of the settings.  What
else a value of a kind may be is taken over from the library that checks them, as documented: which
words stand for truth values, whatever their case, that of the numbers zero and one do, that a text
holds no surrogate, that an array may be given for a tuple, and how each objection is worded.
-/

namespace ImportAtlas

inductive SettingsIssueCause where
  | notArray
  | notString
  | notUnicode
  | noExtension
  | emptyExtension
  | emptyString
  | notIdentifier (name : Text)
  | notDirection
  | uninterpretableBool
  | notBool
deriving DecidableEq

def SettingsIssueCause.kind : SettingsIssueCause → Text
  | .notArray => "tuple_type"
  | .notString => "string_type"
  | .notUnicode => "string_unicode"
  | .noExtension => "too_short"
  | .emptyExtension => "value_error"
  | .emptyString => "string_too_short"
  | .notIdentifier _ => "value_error"
  | .notDirection => "literal_error"
  | .uninterpretableBool => "bool_parsing"
  | .notBool => "bool_type"

def SettingsIssueCause.message : SettingsIssueCause → Text
  | .notArray => "Input should be a valid tuple"
  | .notString => "Input should be a valid string"
  | .notUnicode =>
      "Input should be a valid string, unable to parse raw data as a unicode string"
  | .noExtension => "Tuple should have at least 1 item after validation, not 0"
  | .emptyExtension => "Value error, extensions must not be empty"
  | .emptyString => "String should have at least 1 character"
  | .notIdentifier name =>
      "Value error, graph_name must be a DOT identifier, got " ++ Text.quoted name
  | .notDirection => "Input should be 'LR', 'RL', 'TB' or 'BT'"
  | .uninterpretableBool => "Input should be a valid boolean, unable to interpret input"
  | .notBool => "Input should be a valid boolean"

structure SettingsIssue where
  field : SettingsField
  index : Option Nat
  cause : SettingsIssueCause
deriving DecidableEq

/-- What the check of a value yields: the setting, or the objections with the items they concern. -/
abbrev Checked (α : Type) := Except (List (Option Nat × SettingsIssueCause)) α

namespace Settings

def reject {α : Type} (cause : SettingsIssueCause) : Checked α := .error [(none, cause)]

/-!
## Single values
-/

def falseWords : List String := ["0", "off", "f", "false", "n", "no"]

def trueWords : List String := ["1", "on", "t", "true", "y", "yes"]

def boolOfInteger (n : Int) : Checked Bool :=
  if n = 0 then .ok false
  else if n = 1 then .ok true
  else reject .uninterpretableBool

def checkBool : Json → Checked Bool
  | .bool value => .ok value
  | .text word =>
      let small := word.map CodePoint.toAsciiLower
      if word.any CodePoint.isSurrogate then reject .notUnicode
      else if falseWords.any fun (known : String) => small = known then .ok false
      else if trueWords.any fun (known : String) => small = known then .ok true
      else reject .uninterpretableBool
  | .integer n =>
      if -longLimit ≤ n && n < longLimit then boolOfInteger n else reject .notBool
  | .decimal mantissa exponent =>
      match Binary64.ofDecimal? mantissa exponent with
      | none => reject .notBool
      | some value =>
          let whole := value.num / value.den
          if value.num % value.den = 0 && -longLimit < whole && whole < longLimit then
            boolOfInteger whole
          else reject .notBool
  | _ => reject .notBool

def checkNonemptyText : Json → Checked Text
  | .text value =>
      if value.any CodePoint.isSurrogate then reject .notUnicode
      else if value = [] then reject .emptyString
      else .ok value
  | _ => reject .notString

def isIdentifierPart (c : CodePoint) : Bool := c.isLetter || c.isDigit || c = '_'

/-- Whether a text is an identifier, perhaps with a line feed behind it. -/
def isIdentifier (name : Text) : Bool :=
  match name with
  | [] => false
  | first :: rest =>
      isIdentifierPart first && !first.isDigit &&
        (rest.dropWhile isIdentifierPart = [] || rest.dropWhile isIdentifierPart = "\n")

def checkGraphName : Json → Checked Text
  | .text name => if isIdentifier name then .ok name else reject (.notIdentifier name)
  | _ => reject .notString

def checkRankDirection : Json → Checked RankDirection
  | .text name =>
      if name.any CodePoint.isSurrogate then reject .notUnicode
      else
        match RankDirection.ofName? name with
        | some direction => .ok direction
        | none => reject .notDirection
  | _ => reject .notDirection

/-!
## Arrays
-/

def textItems (items : List Json) : List Text :=
  items.filterMap fun
    | .text value => some value
    | _ => none

def itemIssues : (index : Nat) → List Json → List (Option Nat × SettingsIssueCause)
  | _, [] => []
  | index, .text _ :: items => itemIssues (index + 1) items
  | index, _ :: items => (some index, .notString) :: itemIssues (index + 1) items

def checkTexts : Json → Checked (List Text)
  | .array items =>
      match itemIssues 0 items with
      | [] => .ok (textItems items)
      | issues => .error issues
  | _ => reject .notArray

/-- An extension in lower case, without white space around it and with a point before it. -/
def normalizeExtension? (given : Text) : Option Text :=
  let small := Text.lower (Text.trim given)
  if small = [] || small = "." then none
  else if Text.startsWith "." small then some small
  else some ("." ++ small)

def firstOnes (items : List Text) : List Text :=
  items.foldl (fun kept item => if kept.contains item then kept else kept ++ [item]) []

def normalizeExtensions? (given : List Text) : Option (List Text) :=
  (given.mapM normalizeExtension?).map firstOnes

def checkExtensions : Json → Checked (List Text)
  | .array items =>
      match itemIssues 0 items, textItems items with
      | [], [] => reject .noExtension
      | [], given =>
          match normalizeExtensions? given with
          | some extensions => .ok extensions
          | none => reject .emptyExtension
      | issues, [] => .error (issues ++ [(none, .noExtension)])
      | issues, _ => .error issues
  | _ => reject .notArray

/-!
## All settings
-/

/-- The values given from outside, for the settings that are given. -/
abbrev Given := SettingsField → Option Json

/-- The first name among the members of an object that differs from a small one in case at most. -/
def spelling? (name : Text) : Json → Option Text
  | .object members => (members.find? fun entry => Text.lower entry.1 = name).map (·.1)
  | _ => none

/-- The values of an object, by the names of the settings.  Of names that differ in case only the
first counts. -/
def Given.ofJson (values : Json) : Given := fun field =>
  (spelling? field.name values).bind values.member?

def Given.none : Given := fun _ => Option.none

def Given.orElse (first second : Given) : Given := fun field => (first field).or (second field)

/-- The check of one setting, which is the standard where nothing is given. -/
def checkField {α : Type} (given : Given) (field : SettingsField) (standard : α)
    (check : Json → Checked α) : Except (List SettingsIssue) α :=
  match given field with
  | none => .ok standard
  | some value =>
      (check value).mapError fun issues => issues.map fun (index, cause) => ⟨field, index, cause⟩

def issuesOf {α : Type} : Except (List SettingsIssue) α → List SettingsIssue
  | .ok _ => []
  | .error issues => issues

def check (given : Given) : Except (List SettingsIssue) Settings :=
  let extensions := checkField given .extensions standard.extensions checkExtensions
  let useGit := checkField given .useGit standard.useGit checkBool
  let excluded :=
    checkField given .excludedDirectories standard.excludedDirectories checkTexts
  let resolve := checkField given .resolveExtensions standard.resolveExtensions checkBool
  let reexports := checkField given .includeReexports standard.includeReexports checkBool
  let encoding := checkField given .encoding standard.encoding checkNonemptyText
  let graphName := checkField given .graphName standard.graphName checkGraphName
  let direction := checkField given .rankDirection standard.rankDirection checkRankDirection
  let color := checkField given .clusterColor standard.clusterColor checkNonemptyText
  match extensions, useGit, excluded, resolve, reexports, encoding, graphName, direction, color with
  | .ok extensions, .ok useGit, .ok excluded, .ok resolve, .ok reexports, .ok encoding,
      .ok graphName, .ok direction, .ok color =>
      .ok ⟨extensions, useGit, excluded, resolve, reexports, encoding, graphName, direction, color⟩
  | extensions, useGit, excluded, resolve, reexports, encoding, graphName, direction, color =>
      .error
        (issuesOf extensions ++ issuesOf useGit ++ issuesOf excluded ++ issuesOf resolve ++
          issuesOf reexports ++ issuesOf encoding ++ issuesOf graphName ++ issuesOf direction ++
          issuesOf color)

end Settings

end ImportAtlas
