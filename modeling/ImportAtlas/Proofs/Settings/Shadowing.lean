import ImportAtlas.Proofs.Settings.Variable
import Mathlib

/-!
# Variables that shadow others

An environment file sets no variable that is there already, but to be there means to have the very
name, while settings are looked up without regard to case.  So a file that spells a name in another
way sets a second variable for the same setting, and since it is set last it is the one that counts.
A setting keeps its value through the loading of a file exactly when the file has no such variable,
or the last one says what the setting was before.
-/

namespace ImportAtlas

namespace Settings

open SettingsField EnvironmentFile

variable {field : SettingsField} {environment first second : Variables} {value : Text}
  {tree : FileTree} {choice : EnvironmentChoice} {found : Option (Text × Variables)}
  {settings completed : Settings}

/-- The variable of a setting that a file adds to an environment, the last one when there are
several. -/
def shadowing? (environment assignments : Variables) (field : SettingsField) : Option Text :=
  field.assigned? (environment.additions assignments)

/-- The settings when nothing is said but that one variable has a value. -/
def ofValue (field : SettingsField) (value : Text) : Except SettingsFault Settings :=
  resolve Given.none [(field.capitalName, value)]

theorem agreeOn_of_assigned? (hfirst : resolve Given.none first = .ok settings)
    (hsecond : resolve Given.none second = .ok completed)
    (h : field.assigned? first = field.assigned? second) : settings.AgreeOn completed field :=
  (passes_of_check (resolve_eq_ok_iff.mp hfirst).right).agreeOn
    (passes_of_check (resolve_eq_ok_iff.mp hsecond).right) (ofEnvironment_congr h)

/-- A variable that is in order among others is in order alone. -/
theorem exists_ofValue (h : resolve Given.none environment = .ok settings)
    (hvalue : field.assigned? environment = some value) :
    ∃ alone, ofValue field value = .ok alone := by
  rw [resolve_eq_ok_iff] at h
  have hsame : field.assigned? [(field.capitalName, value)] = field.assigned? environment := by
    rw [assigned?_singleton, if_pos rfl, hvalue]
  have hother : ∀ other, field ≠ other →
      other.assigned? [(field.capitalName, value)] = none := by
    intro other hne
    rw [assigned?_singleton, if_neg hne]
  have hpasses : ∃ alone,
      Passes (Given.none.orElse (Given.ofEnvironment [(field.capitalName, value)])) alone := by
    apply exists_passes
    intro other
    by_cases hne : field = other
    · subst hne
      exact ⟨_, settings, passes_of_check h.right, ofEnvironment_congr hsame⟩
    · refine ⟨Given.none, standard, passes_of_check rfl, ?_⟩
      simp [Given.orElse, Given.none, Given.ofEnvironment, givenByEnvironment, hother other hne]
  rcases hpasses with ⟨alone, halone⟩
  refine ⟨alone, resolve_eq_ok_iff.mpr ⟨?_, check_of_passes halone⟩⟩
  intro other
  by_cases hne : field = other
  · subst hne
    rw [givenByEnvironment_congr hsame]
    exact h.left field
  · exact ⟨none, by rw [givenByEnvironment, hother other hne]⟩

/-- Through the loading of a file a setting keeps its value exactly when no variable of the file
shadows it, or the one that does says the same. -/
theorem agreeOn_load_iff (hfound : first? tree choice.candidates = .ok found)
    (hloaded : (environment.load tree choice).2.outcome = .ok ())
    (hbefore : resolve Given.none environment = .ok settings)
    (hafter : resolve Given.none (environment.load tree choice).1 = .ok completed) :
    completed.AgreeOn settings field ↔
      ∀ value, shadowing? environment (Variables.ofFound found) field = some value →
        ∃ alone, ofValue field value = .ok alone ∧ alone.AgreeOn settings field := by
  rw [Variables.load_of_outcome hloaded hfound] at hafter
  have hassigned : field.assigned?
      (environment ++ environment.additions (Variables.ofFound found)) =
        (shadowing? environment (Variables.ofFound found) field).or
          (field.assigned? environment) := assigned?_append
  cases hshadow : shadowing? environment (Variables.ofFound found) field with
  | none =>
      rw [hshadow, Option.none_or] at hassigned
      exact iff_of_true (agreeOn_of_assigned? hafter hbefore hassigned) (by simp)
  | some value =>
      rw [hshadow, Option.some_or] at hassigned
      rcases exists_ofValue hafter hassigned with ⟨alone, halone⟩
      have hsame : completed.AgreeOn alone field := by
        apply agreeOn_of_assigned? hafter halone
        rw [hassigned, assigned?_singleton, if_pos rfl]
      constructor
      · intro hkept other hother
        cases hother
        exact ⟨alone, halone, hsame.symm.trans hkept⟩
      · intro hvalue
        rcases hvalue value rfl with ⟨other, hother, hagree⟩
        rw [halone] at hother
        cases hother
        exact hsame.trans hagree

/-!
### A name in small letters

A shell may set a variable in small letters, and settings take it.  A file that sets the same
variable in capitals is then not kept from doing so.
-/

def smallLetters : Variables := [("importgraph_encoding", "latin-1")]

def capitals : Variables := [("IMPORTGRAPH_ENCODING", "utf-16")]

def capitalsTree : FileTree where
  root := .directory
    [(".env", .file ("IMPORTGRAPH_ENCODING=utf-16".toList.map fun c => UInt8.ofNat c.toNat))]
  here := []

def latinSettings : Settings := { standard with encoding := "latin-1" }

def wideSettings : Settings := { standard with encoding := "utf-16" }

theorem first?_capitalsTree : first? capitalsTree EnvironmentChoice.usual.candidates =
    .ok (some (Text.ofString ".env", capitals)) := by cbv

theorem load_smallLetters : smallLetters.load capitalsTree .usual =
    (smallLetters ++ capitals, .record (loadedRecord ".env")) := by
  have happly : smallLetters.apply false capitals = (smallLetters ++ capitals, none) := by
    decide
  simp only [Variables.load, first?_capitalsTree, happly]

theorem resolve_smallLetters : resolve Given.none smallLetters = .ok latinSettings := by
  decide

theorem resolve_load_smallLetters :
    resolve Given.none (smallLetters.load capitalsTree .usual).1 = .ok wideSettings := by
  rw [load_smallLetters]
  decide

theorem outcome_load_smallLetters :
    (smallLetters.load capitalsTree .usual).2.outcome = .ok () := by
  rw [load_smallLetters]
  rfl

theorem wideSettings_encoding_ne : wideSettings.encoding ≠ latinSettings.encoding := by
  decide

theorem not_agreeOn_load_smallLetters :
    (smallLetters.load capitalsTree .usual).2.outcome = .ok () ∧
      ¬ wideSettings.AgreeOn latinSettings .encoding := by
  refine ⟨outcome_load_smallLetters, ?_⟩
  rw [agreeOn_load_iff first?_capitalsTree outcome_load_smallLetters resolve_smallLetters
    resolve_load_smallLetters]
  intro hsame
  have hshadow : shadowing? smallLetters capitals .encoding = some (Text.ofString "utf-16") := by
    decide
  have hvalue : ofValue .encoding "utf-16" = .ok wideSettings := by decide
  rcases hsame _ hshadow with ⟨alone, halone, hagree⟩
  rw [hvalue] at halone
  cases halone
  exact wideSettings_encoding_ne hagree

theorem not_all_shell_variables_win : ¬ ∀ (environment : Variables) (tree : FileTree)
    (choice : EnvironmentChoice) (field : SettingsField) (settings completed : Settings),
      (field.assigned? environment).isSome →
      (environment.load tree choice).2.outcome = .ok () →
      resolve Given.none environment = .ok settings →
      resolve Given.none (environment.load tree choice).1 = .ok completed →
      completed.AgreeOn settings field := by
  intro hall
  exact wideSettings_encoding_ne (hall smallLetters capitalsTree .usual .encoding latinSettings
    wideSettings (by decide) outcome_load_smallLetters resolve_smallLetters
    resolve_load_smallLetters)

end Settings

end ImportAtlas
