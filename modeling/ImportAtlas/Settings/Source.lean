import ImportAtlas.Environment.Variables
import ImportAtlas.Json.Reader
import ImportAtlas.Settings.Check

/-!
# Where settings come from

A setting given directly wins over the environment, and the environment over the standard.  Each
setting has an environment variable, whose name is compared without regard to case; of several
spellings the one set last counts.  The settings that hold several texts expect a JSON array, and
one that cannot be read is an error whatever is given directly.  Nesting that is too deep is a fault
of its own.

This is how the library that gathers the settings is documented to go about it, and it is taken for
granted here: the order of the sources, that names of variables are compared without case, that the
last spelling of a name counts, that an array is written as JSON, and that null stands for no value.
No other source of that library is in use.
-/

namespace ImportAtlas

inductive SettingsFault where
  /-- A variable is not JSON. -/
  | unreadable (field : SettingsField)
  /-- A variable is nested too deeply. -/
  | tooDeep (container : Json.Container)
  | invalid (issues : List SettingsIssue)
deriving DecidableEq

def SettingsFault.message : SettingsFault → Text
  | .unreadable field =>
      "error parsing value for field \"" ++ field.name ++ "\" from source \"EnvSettingsSource\""
  | .tooDeep container =>
      "maximum recursion depth exceeded while decoding a JSON " ++ container.name ++
        " from a unicode string"
  | .invalid issues =>
      Text.decimal issues.length ++ " validation " ++
        (if issues.length = 1 then Text.ofString "error" else "errors") ++ " for GraphSettings"

namespace SettingsField

def variableName (field : SettingsField) : Text := "importgraph_" ++ field.name

def isSequence : SettingsField → Bool
  | .extensions | .excludedDirectories => true
  | _ => false

def assigned? (environment : Variables) (field : SettingsField) : Option Text :=
  (environment.reverse.find? fun entry => Text.lower entry.1 = field.variableName).map (·.2)

end SettingsField

namespace Settings

/-- The value of the variable of a setting.  A JSON null counts as no value. -/
def ofVariable (field : SettingsField) (value : Text) : Except SettingsFault (Option Json) :=
  if field.isSequence then
    match Json.read value with
    | .error .malformed => .error (.unreadable field)
    | .error (.tooDeep container) => .error (.tooDeep container)
    | .ok .null => .ok none
    | .ok json => .ok (some json)
  else .ok (some (.text value))

def givenByEnvironment (environment : Variables) (field : SettingsField) :
    Except SettingsFault (Option Json) :=
  match field.assigned? environment with
  | none => .ok none
  | some value => ofVariable field value

def unreadable? (environment : Variables) : Option SettingsFault :=
  SettingsField.all.findSome? fun field =>
    match givenByEnvironment environment field with
    | .error fault => some fault
    | .ok _ => none

def Given.ofEnvironment (environment : Variables) : Given := fun field =>
  match givenByEnvironment environment field with
  | .error _ => Option.none
  | .ok value => value

def resolve (given : Given) (environment : Variables) : Except SettingsFault Settings :=
  match unreadable? environment with
  | some fault => .error fault
  | none => (check (given.orElse (Given.ofEnvironment environment))).mapError SettingsFault.invalid

end Settings

end ImportAtlas
