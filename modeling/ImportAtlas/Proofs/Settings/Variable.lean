import ImportAtlas.Proofs.Environment.Growth
import ImportAtlas.Proofs.Settings.Valid
import ImportAtlas.Settings.Source

/-!
# Variables of settings

The environment speaks of a setting through variables whose names differ in case only.  What it
gives for a setting depends on the last of them alone, and a setting depends on nothing but what is
given for it.  Where all these names are written in capitals, looking a setting up by any spelling
is looking it up by the one in capitals.
-/

namespace ImportAtlas

namespace SettingsField

variable {field other : SettingsField} {first second : Variables}

def capitalName : SettingsField → Text
  | .extensions => "IMPORTGRAPH_EXTENSIONS"
  | .useGit => "IMPORTGRAPH_USE_GIT"
  | .excludedDirectories => "IMPORTGRAPH_EXCLUDE_DIRS"
  | .resolveExtensions => "IMPORTGRAPH_RESOLVE_EXTENSIONS"
  | .includeReexports => "IMPORTGRAPH_INCLUDE_REEXPORTS"
  | .encoding => "IMPORTGRAPH_ENCODING"
  | .graphName => "IMPORTGRAPH_GRAPH_NAME"
  | .rankDirection => "IMPORTGRAPH_RANKDIR"
  | .clusterColor => "IMPORTGRAPH_CLUSTER_COLOR"

theorem lower_capitalName (field : SettingsField) :
    Text.lower field.capitalName = field.variableName := by
  cases field <;> decide

theorem find?_variableName (field : SettingsField) :
    all.find? (·.variableName = field.variableName) = some field := by
  cases field <;> decide

theorem variableName_injective (h : field.variableName = other.variableName) : field = other := by
  have hfield := find?_variableName field
  rw [h, find?_variableName] at hfield
  exact (Option.some.inj hfield).symm

theorem mem_all (field : SettingsField) : field ∈ all := by
  cases field <;> decide

/-!
## Looking a setting up
-/

/-- The variable set last counts. -/
theorem assigned?_append : field.assigned? (first ++ second) =
    (field.assigned? second).or (field.assigned? first) := by
  unfold assigned?
  rw [List.reverse_append, List.find?_append]
  cases second.reverse.find? fun entry => Text.lower entry.1 = field.variableName <;> rfl

theorem assigned?_singleton (field other : SettingsField) (value : Text) :
    other.assigned? [(field.capitalName, value)] = if field = other then some value else none := by
  by_cases h : field = other
  · subst h
    simp [assigned?, lower_capitalName]
  · have hname : field.variableName ≠ other.variableName :=
      fun heq => h (variableName_injective heq)
    simp [assigned?, lower_capitalName, hname, h]

end SettingsField

namespace Settings

open SettingsField

variable {field : SettingsField} {environment first second : Variables} {given other : Given}
  {settings others : Settings}

theorem givenByEnvironment_congr (h : field.assigned? first = field.assigned? second) :
    givenByEnvironment first field = givenByEnvironment second field := by
  rw [givenByEnvironment, givenByEnvironment, h]

theorem ofEnvironment_congr (h : field.assigned? first = field.assigned? second) :
    Given.ofEnvironment first field = Given.ofEnvironment second field := by
  rw [Given.ofEnvironment, Given.ofEnvironment, givenByEnvironment_congr h]

theorem unreadable?_eq_none_iff : unreadable? environment = none ↔
    ∀ field, ∃ value, givenByEnvironment environment field = .ok value := by
  unfold unreadable?
  rw [List.findSome?_eq_none_iff]
  constructor
  · intro h field
    have hfield := h field (mem_all field)
    cases hgiven : givenByEnvironment environment field with
    | error fault => simp [hgiven] at hfield
    | ok value => exact ⟨value, rfl⟩
  · intro h field _
    rcases h field with ⟨value, hvalue⟩
    rw [hvalue]

theorem resolve_eq_ok_iff : resolve given environment = .ok settings ↔
    (∀ field, ∃ value, givenByEnvironment environment field = .ok value) ∧
      check (given.orElse (Given.ofEnvironment environment)) = .ok settings := by
  rw [← unreadable?_eq_none_iff, resolve]
  cases unreadable? environment with
  | some fault => simp
  | none => simp [mapError_eq_ok_iff]

/-!
## Settings field by field
-/

def AgreeOn (first second : Settings) : SettingsField → Prop
  | .extensions => first.extensions = second.extensions
  | .useGit => first.useGit = second.useGit
  | .excludedDirectories => first.excludedDirectories = second.excludedDirectories
  | .resolveExtensions => first.resolveExtensions = second.resolveExtensions
  | .includeReexports => first.includeReexports = second.includeReexports
  | .encoding => first.encoding = second.encoding
  | .graphName => first.graphName = second.graphName
  | .rankDirection => first.rankDirection = second.rankDirection
  | .clusterColor => first.clusterColor = second.clusterColor

theorem AgreeOn.symm (h : settings.AgreeOn others field) : others.AgreeOn settings field := by
  cases field <;> exact Eq.symm h

theorem AgreeOn.trans {last : Settings} (h : settings.AgreeOn others field)
    (hlast : others.AgreeOn last field) : settings.AgreeOn last field := by
  cases field <;> exact Eq.trans h hlast

theorem checkField_of_eq {α : Type} {standard value : α} {check : Json → Checked α}
    (hfield : given field = other field)
    (h : checkField other field standard check = .ok value) :
    checkField given field standard check = .ok value := by
  rw [checkField] at h ⊢
  rwa [hfield]

theorem eq_of_checkField {α : Type} {standard value last : α} {check : Json → Checked α}
    (hfield : given field = other field) (h : checkField given field standard check = .ok value)
    (hother : checkField other field standard check = .ok last) : value = last := by
  rw [checkField_of_eq hfield hother] at h
  exact (Except.ok.inj h).symm

theorem Passes.agreeOn (h : Passes given settings) (hother : Passes other others)
    (hfield : given field = other field) : settings.AgreeOn others field := by
  cases field with
  | extensions => exact eq_of_checkField hfield h.extensions hother.extensions
  | useGit => exact eq_of_checkField hfield h.useGit hother.useGit
  | excludedDirectories =>
      exact eq_of_checkField hfield h.excludedDirectories hother.excludedDirectories
  | resolveExtensions =>
      exact eq_of_checkField hfield h.resolveExtensions hother.resolveExtensions
  | includeReexports =>
      exact eq_of_checkField hfield h.includeReexports hother.includeReexports
  | encoding => exact eq_of_checkField hfield h.encoding hother.encoding
  | graphName => exact eq_of_checkField hfield h.graphName hother.graphName
  | rankDirection => exact eq_of_checkField hfield h.rankDirection hother.rankDirection
  | clusterColor => exact eq_of_checkField hfield h.clusterColor hother.clusterColor

theorem exists_passes
    (h : ∀ field, ∃ other settings, Passes other settings ∧ given field = other field) :
    ∃ settings, Passes given settings := by
  choose others accepted hpasses hfield using h
  exact ⟨{
    extensions := (accepted .extensions).extensions
    useGit := (accepted .useGit).useGit
    excludedDirectories := (accepted .excludedDirectories).excludedDirectories
    resolveExtensions := (accepted .resolveExtensions).resolveExtensions
    includeReexports := (accepted .includeReexports).includeReexports
    encoding := (accepted .encoding).encoding
    graphName := (accepted .graphName).graphName
    rankDirection := (accepted .rankDirection).rankDirection
    clusterColor := (accepted .clusterColor).clusterColor }, {
    extensions := checkField_of_eq (hfield _) (hpasses _).extensions
    useGit := checkField_of_eq (hfield _) (hpasses _).useGit
    excludedDirectories := checkField_of_eq (hfield _) (hpasses _).excludedDirectories
    resolveExtensions := checkField_of_eq (hfield _) (hpasses _).resolveExtensions
    includeReexports := checkField_of_eq (hfield _) (hpasses _).includeReexports
    encoding := checkField_of_eq (hfield _) (hpasses _).encoding
    graphName := checkField_of_eq (hfield _) (hpasses _).graphName
    rankDirection := checkField_of_eq (hfield _) (hpasses _).rankDirection
    clusterColor := checkField_of_eq (hfield _) (hpasses _).clusterColor }⟩

end Settings

end ImportAtlas
