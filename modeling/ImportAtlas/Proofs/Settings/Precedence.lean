import ImportAtlas.Proofs.CommandLine.Options
import ImportAtlas.Proofs.Settings.Variable
import ImportAtlas.Run.Execution
import Mathlib

/-!
# Precedence of sources

A setting is taken from the options of the command line, or else from the environment, or else from
the environment file, and is standard where none of them speaks of it.  Only what is taken is
checked, so a value that is shadowed does not matter even if it is invalid, and an empty one is a
value like any other.

This holds as long as every variable of a setting is written in capitals, so that one name has one
spelling, and as long as the variables of settings that hold several texts are arrays.
-/

namespace ImportAtlas

variable {field : SettingsField} {environment held shell file : Variables} {value : Text}

namespace Variables

/-- The variables of settings are written in capitals. -/
def IsCapitalized (held : Variables) : Prop :=
  ∀ entry ∈ held, ∀ field : SettingsField, Text.lower entry.1 = field.variableName →
    entry.1 = field.capitalName

/-- The variables of settings that hold several texts are JSON arrays. -/
def HoldsArrays (held : Variables) : Prop :=
  ∀ field : SettingsField, field.isSequence → ∀ value, held.get? field.capitalName = some value →
    ∃ items, Json.read value = .ok (.array items)

/-- The variable of a setting in the shell, or else in the file. -/
def layered? (shell file : Variables) (field : SettingsField) : Option Text :=
  (shell.get? field.capitalName).or (file.get? field.capitalName)

theorem isCapitalized_of_all
    (h : ∀ entry ∈ held, ∀ field ∈ SettingsField.all, Text.lower entry.1 = field.variableName →
      entry.1 = field.capitalName) : held.IsCapitalized :=
  fun entry hentry field => h entry hentry field (SettingsField.mem_all field)

theorem IsCapitalized.append_additions (hshell : shell.IsCapitalized)
    (hfile : file.IsCapitalized) : (shell ++ shell.additions file).IsCapitalized := by
  intro entry hentry
  rcases List.mem_append.mp hentry with hentry | hentry
  · exact hshell entry hentry
  · exact hfile entry (mem_additions.mp hentry).left

/-- With one spelling of each name, the last variable of a setting is the only one. -/
theorem IsCapitalized.assigned?_eq (h : held.IsCapitalized) (hnodup : (held.map (·.1)).Nodup)
    (field : SettingsField) : field.assigned? held = held.get? field.capitalName := by
  induction held with
  | nil => rfl
  | cons entry held ih =>
      rw [List.map_cons, List.nodup_cons] at hnodup
      have hrest : field.assigned? held = get? held field.capitalName :=
        ih (fun other hother => h other (List.mem_cons_of_mem entry hother)) hnodup.right
      rw [← List.singleton_append, SettingsField.assigned?_append, hrest, List.singleton_append,
        get?_cons]
      by_cases hname : entry.1 = field.capitalName
      · have hnone : get? held field.capitalName = none := by
          rw [get?_eq_none_iff, ← hname]
          exact hnodup.left
        rw [hnone, Option.none_or, if_pos hname]
        simp [SettingsField.assigned?, hname, SettingsField.lower_capitalName]
      · have hother : Text.lower entry.1 ≠ field.variableName :=
          fun hlower => hname (h entry List.mem_cons_self field hlower)
        have hnone : field.assigned? [entry] = none := by simp [SettingsField.assigned?, hother]
        rw [hnone, Option.or_none, if_neg hname]

/-- The variable of a setting once a file is loaded. -/
theorem assigned?_append_additions (hnodup : (shell.map (·.1)).Nodup)
    (hfile_nodup : (file.map (·.1)).Nodup) (hshell : shell.IsCapitalized)
    (hfile : file.IsCapitalized) (field : SettingsField) :
    field.assigned? (shell ++ shell.additions file) = layered? shell file field := by
  rw [(hshell.append_additions hfile).assigned?_eq (nodup_append_additions hnodup hfile_nodup),
    get?_append_additions]
  rfl

theorem HoldsArrays.layered? (hshell : shell.HoldsArrays) (hfile : file.HoldsArrays)
    (hfield : field.isSequence) (h : layered? shell file field = some value) :
    ∃ items, Json.read value = .ok (.array items) := by
  rcases Option.or_eq_some_iff.mp h with hvalue | ⟨_, hvalue⟩
  · exact hshell field hfield value hvalue
  · exact hfile field hfield value hvalue

end Variables

def SettingsField.read? (field : SettingsField) (value : Text) : Option Json :=
  if field.isSequence then (Json.read value).toOption else some (.text value)

namespace Settings

/-- The value of each setting from the first source that speaks of it. -/
def Given.layered (options : Given) (shell file : Variables) : Given := fun field =>
  (options field).or ((Variables.layered? shell file field).bind field.read?)

theorem ofVariable_eq (h : field.isSequence → ∃ items, Json.read value = .ok (.array items)) :
    ofVariable field value = .ok (field.read? value) := by
  unfold ofVariable SettingsField.read?
  split
  case isTrue hfield =>
    rcases h hfield with ⟨items, hitems⟩
    rw [hitems]
    rfl
  case isFalse => rfl

theorem resolve_eq_check {options : Given}
    (h : ∀ field, field.assigned? environment = Variables.layered? shell file field)
    (hshell : shell.HoldsArrays) (hfile : file.HoldsArrays) :
    resolve options environment =
      (check (options.layered shell file)).mapError SettingsFault.invalid := by
  have hgiven : ∀ field, givenByEnvironment environment field =
      .ok ((Variables.layered? shell file field).bind field.read?) := by
    intro field
    rw [givenByEnvironment, h]
    cases hvalue : Variables.layered? shell file field with
    | none => rfl
    | some value => exact ofVariable_eq fun hfield => hshell.layered? hfile hfield hvalue
  have hreadable : unreadable? environment = none :=
    unreadable?_eq_none_iff.mpr fun field => ⟨_, hgiven field⟩
  have hlayered : options.orElse (Given.ofEnvironment environment) =
      options.layered shell file := by
    funext field
    simp only [Given.orElse, Given.ofEnvironment, Given.layered, hgiven]
  rw [resolve, hreadable, hlayered]

end Settings

namespace Invocation

open EnvironmentFile

variable {invocation : Invocation} {texts : List Text} {words : List CommandWord}
  {tree : FileTree} {found : Option (Text × Variables)}

theorem nodup_ofFound {paths : List Text} (h : first? tree paths = .ok found) :
    ((Variables.ofFound found).map (·.1)).Nodup := by
  rcases found with _ | ⟨path, assignments⟩
  · exact List.nodup_nil
  · rcases exists_of_first? h with ⟨content, _, rfl⟩
    exact nodup_parse content

/-- The settings of a run come from the options, the shell, whose names are distinct, and the
environment file, in this order, and are the outcome of checking what is taken from them. -/
theorem settings_load (hwords : CommandWord.ofTexts texts = .ok words)
    (hinvocation : Invocation.ofTexts texts = .ok invocation)
    (hfound : first? tree invocation.environmentChoice.candidates = .ok found)
    (hnodup : (shell.map (·.1)).Nodup)
    (hshell : shell.IsCapitalized) (hfile : (Variables.ofFound found).IsCapitalized)
    (hshell_arrays : shell.HoldsArrays) (hfile_arrays : (Variables.ofFound found).HoldsArrays)
    (hzero : ∀ entry ∈ Variables.ofFound found, ∀ c ∈ entry.1 ++ entry.2, c.val ≠ 0) :
    (shell.load tree invocation.environmentChoice).2.outcome = .ok () ∧
      invocation.settings (shell.load tree invocation.environmentChoice).1 =
        (Settings.check (Settings.Given.layered (givenBy (optionsOf words)) shell
          (Variables.ofFound found))).mapError fun issues =>
            .failure (.settings (.invalid issues)) := by
  have hloaded : (shell.load tree invocation.environmentChoice).2.outcome = .ok () :=
    Variables.outcome_load_of_forall hfound hzero
  have hgiven : invocation.given = givenBy (optionsOf words) := by
    rcases given_of_ofTexts hinvocation with ⟨others, hothers, hgiven⟩
    rw [hwords] at hothers
    cases hothers
    exact hgiven
  have hresolved : Settings.resolve invocation.given
      (shell ++ shell.additions (Variables.ofFound found)) =
        (Settings.check (Settings.Given.layered invocation.given shell
          (Variables.ofFound found))).mapError SettingsFault.invalid :=
    Settings.resolve_eq_check
      (Variables.assigned?_append_additions hnodup (nodup_ofFound hfound) hshell hfile)
      hshell_arrays hfile_arrays
  refine ⟨hloaded, ?_⟩
  rw [settings, Variables.load_of_outcome hloaded hfound, hresolved, hgiven]
  cases Settings.check (Settings.Given.layered (givenBy (optionsOf words)) shell
    (Variables.ofFound found)) <;> rfl

/-!
### An empty variable and a shadowed one

The shell has a direction that no drawing has, which an option shadows, and an empty name, which
shadows the one in the file.
-/

def layersTexts : List Text := ["--ext=TSX", "--rankdir", "TB", "--no-git", "--ext", ".vue"]

def layersWords : List CommandWord :=
  [.option .extension true (some "TSX"), .option .rankDirection true none, .operand "TB",
    .option .withoutGit true none, .option .extension true none, .operand ".vue"]

def layersInvocation : Invocation :=
  { Invocation.standard with
    extensions := some [.value "TSX", .value ".vue"]
    useGit := some false
    rankDirection := some (.value .topToBottom) }

def layersShell : Variables :=
  [("IMPORTGRAPH_RANKDIR", "XY"), ("HOME", "/"), ("IMPORTGRAPH_GRAPH_NAME", "")]

def layersFile : Variables :=
  [("IMPORTGRAPH_GRAPH_NAME", "Foo"), ("IMPORTGRAPH_EXCLUDE_DIRS", "[\"lib\"]")]

def layersTree : FileTree where
  root := .directory [(".env", .file
    ("IMPORTGRAPH_GRAPH_NAME=Foo\nIMPORTGRAPH_EXCLUDE_DIRS=[\"lib\"]".toList.map fun c =>
      UInt8.ofNat c.toNat))]
  here := []

theorem ofTexts_layersTexts : CommandWord.ofTexts layersTexts = .ok layersWords ∧
    Invocation.ofTexts layersTexts = .ok layersInvocation := by
  decide

theorem first?_layersTree : first? layersTree layersInvocation.environmentChoice.candidates =
    .ok (some (Text.ofString ".env", layersFile)) := by cbv

theorem isCapitalized_layers : layersShell.IsCapitalized ∧ layersFile.IsCapitalized := by
  constructor
  · apply Variables.isCapitalized_of_all
    decide
  · apply Variables.isCapitalized_of_all
    decide

theorem holdsArrays_layersShell : layersShell.HoldsArrays := by
  intro field hfield value hvalue
  have hnone : ∀ field ∈ SettingsField.all, field.isSequence →
      layersShell.get? field.capitalName = none := by decide
  rw [hnone field (SettingsField.mem_all field) hfield] at hvalue
  cases hvalue

theorem holdsArrays_layersFile : layersFile.HoldsArrays := by
  intro field hfield value hvalue
  have hextensions : layersFile.get? SettingsField.extensions.capitalName = none := by
    decide
  have hexcluded : layersFile.get? SettingsField.excludedDirectories.capitalName =
      some (Text.ofString "[\"lib\"]") := by decide
  cases field with
  | extensions =>
      rw [hextensions] at hvalue
      cases hvalue
  | excludedDirectories =>
      rw [hexcluded] at hvalue
      cases hvalue
      exact ⟨[.text "lib"], by cbv⟩
  | _ => cases hfield

theorem settings_load_layers :
    (layersShell.load layersTree layersInvocation.environmentChoice).2.outcome = .ok () ∧
      layersInvocation.settings
        (layersShell.load layersTree layersInvocation.environmentChoice).1 =
          .error (.failure (.settings (.invalid [⟨.graphName, none, .notIdentifier []⟩]))) := by
  have hcheck : Settings.check (Settings.Given.layered (givenBy (optionsOf layersWords))
      layersShell layersFile) = .error [⟨.graphName, none, .notIdentifier []⟩] := by
    decide
  rcases settings_load ofTexts_layersTexts.left ofTexts_layersTexts.right first?_layersTree
    (by decide) isCapitalized_layers.left isCapitalized_layers.right
    holdsArrays_layersShell holdsArrays_layersFile (by decide) with ⟨hloaded, hsettings⟩
  refine ⟨hloaded, hsettings.trans ?_⟩
  show Except.mapError _ (Settings.check (Settings.Given.layered (givenBy (optionsOf layersWords))
    layersShell layersFile)) = _
  rw [hcheck]
  rfl

end Invocation

end ImportAtlas
