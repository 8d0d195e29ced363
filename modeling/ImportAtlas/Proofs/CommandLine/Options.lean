import ImportAtlas.CommandLine.Invocation
import ImportAtlas.Log.Reported

/-!
# What the options of a command line give

The options of a command line act one after another, and in the end an invocation says of each
setting what its options say: all values of an option that may be repeated, the last value of one
that replaces, and whether a flag is there at all.
-/

namespace ImportAtlas

theorem exists_of_bind_eq_ok {α β ε : Type} {first : Except ε α} {next : α → Except ε β} {b : β}
    (h : first >>= next = .ok b) : ∃ a, first = .ok a ∧ next a = .ok b := by
  cases first with
  | error fault => cases h
  | ok a => exact ⟨a, rfl, h⟩

theorem RankDirection.name_of_ofName? {word : Text} {direction : RankDirection}
    (h : RankDirection.ofName? word = some direction) : direction.name = word := by
  simpa using List.find?_some h

namespace Invocation

variable {invocation next : Invocation} {options : List GivenOption}
  {words : List CommandWord} {progress last : Progress}

/-- The options of a command line in the order in which they act.  After a fault there are none. -/
def optionsOf : List CommandWord → List GivenOption
  | [] => []
  | .option option isLong attached :: words =>
      match unpack option isLong attached with
      | .error _ => []
      | .ok (given, none) => given ++ optionsOf words
      | .ok (given, some lacking) =>
          match words with
          | .operand value :: words => given ++ ⟨lacking, .value value⟩ :: optionsOf words
          | _ => []
  | _ :: words => optionsOf words

def valuesOf (option : CommandOption) (options : List GivenOption) : List (OptionValue Text) :=
  (options.filter (·.option = option)).map (·.value)

theorem valuesOf_concat (option : CommandOption) (options : List GivenOption)
    (given : GivenOption) : valuesOf option (options ++ [given]) =
      valuesOf option options ++ if given.option = option then [given.value] else [] := by
  unfold valuesOf
  by_cases h : given.option = option <;> simp [h]

def flagged (option : CommandOption) (meaning : Bool) (options : List GivenOption) : Option Bool :=
  if valuesOf option options = [] then none else some meaning

def givenBy (options : List GivenOption) : Settings.Given
  | .extensions =>
      if valuesOf .extension options = [] then none
      else some (.array ((valuesOf .extension options).map settingOf))
  | .useGit => (flagged .withoutGit false options).map Json.bool
  | .resolveExtensions => (flagged .withoutResolving false options).map Json.bool
  | .includeReexports => (flagged .includeReexports true options).map Json.bool
  | .rankDirection => (valuesOf .rankDirection options).getLast?.map settingOf
  | .graphName => (valuesOf .graphName options).getLast?.map settingOf
  | .excludedDirectories | .encoding | .clusterColor => none

/-- An invocation holds what options say about the settings. -/
structure Holds (invocation : Invocation) (options : List GivenOption) : Prop where
  extensions : invocation.extensions =
    if valuesOf .extension options = [] then none else some (valuesOf .extension options)
  useGit : invocation.useGit = flagged .withoutGit false options
  resolveExtensions : invocation.resolveExtensions = flagged .withoutResolving false options
  includeReexports : invocation.includeReexports = flagged .includeReexports true options
  rankDirection : invocation.rankDirection.map (·.map RankDirection.name) =
    (valuesOf .rankDirection options).getLast?
  graphName : invocation.graphName = (valuesOf .graphName options).getLast?

theorem holds_standard : standard.Holds [] where
  extensions := rfl
  useGit := rfl
  resolveExtensions := rfl
  includeReexports := rfl
  rankDirection := rfl
  graphName := rfl

theorem Holds.given (h : invocation.Holds options) : invocation.given = givenBy options := by
  funext field
  cases field with
  | extensions =>
      simp only [Invocation.given, givenBy, h.extensions]
      split <;> rfl
  | useGit => simp only [Invocation.given, givenBy, h.useGit]
  | resolveExtensions => simp only [Invocation.given, givenBy, h.resolveExtensions]
  | includeReexports => simp only [Invocation.given, givenBy, h.includeReexports]
  | rankDirection => simp only [Invocation.given, givenBy, ← h.rankDirection, Option.map_map]; rfl
  | graphName => simp only [Invocation.given, givenBy, h.graphName]
  | excludedDirectories => rfl
  | encoding => rfl
  | clusterColor => rfl

/-!
## Reading options
-/

theorem flagged_concat (option : CommandOption) (meaning : Bool) (options : List GivenOption)
    (given : GivenOption) : flagged option meaning (options ++ [given]) =
      if given.option = option then some meaning else flagged option meaning options := by
  unfold flagged
  rw [valuesOf_concat]
  by_cases h : given.option = option <;> simp [h]

theorem map_name_of_choose {α : Type} {ofName? : Text → Option α} {name : α → Text}
    {given : GivenOption} {choices : List Text} {chosen : OptionValue α}
    (hname : ∀ word choice, ofName? word = some choice → name choice = word)
    (h : choose given ofName? choices = .ok chosen) : chosen.map name = given.value := by
  unfold choose at h
  split at h
  case h_1 hvalue =>
    cases h
    exact hvalue.symm
  case h_2 word hvalue =>
    split at h
    case h_1 choice hchoice =>
      cases h
      rw [hvalue, OptionValue.map, hname word choice hchoice]
    case h_2 => cases h

theorem Holds.concat {given : GivenOption} (h : invocation.Holds options)
    (hgiven : invocation.apply given = .ok next) : next.Holds (options ++ [given]) := by
  rcases given with ⟨option, value⟩
  rcases h with ⟨hextensions, huseGit, hresolve, hreexports, hdirection, hname⟩
  cases option
  case help => cases hgiven
  case format =>
    rcases exists_of_bind_eq_ok hgiven with ⟨chosen, _, hnext⟩
    cases hnext
    constructor <;> simpa [valuesOf_concat, flagged_concat]
  case rankDirection =>
    rcases exists_of_bind_eq_ok hgiven with ⟨chosen, hchosen, hnext⟩
    cases hnext
    have hvalue : chosen.map RankDirection.name = value :=
      map_name_of_choose (fun _ _ => RankDirection.name_of_ofName?) hchosen
    constructor <;> simpa [valuesOf_concat, flagged_concat]
  case extension =>
    cases hgiven
    constructor
    case extensions =>
      rw [hextensions, valuesOf_concat]
      by_cases hnone : valuesOf .extension options = [] <;> simp [hnone]
    all_goals simpa [valuesOf_concat, flagged_concat]
  all_goals
    cases hgiven
    constructor <;> simp [valuesOf_concat, flagged_concat, *]

theorem Holds.append {given : List GivenOption} (h : invocation.Holds options)
    (hgiven : given.foldlM Invocation.apply invocation = .ok next) :
    next.Holds (options ++ given) := by
  induction given generalizing invocation options with
  | nil =>
      cases hgiven
      rwa [List.append_nil]
  | cons first given ih =>
      rw [List.foldlM_cons] at hgiven
      rcases exists_of_bind_eq_ok hgiven with ⟨after, hfirst, hrest⟩
      rw [List.append_cons]
      exact ih (h.concat hfirst) hrest

/-!
## Reading a command line

Operands, separators and unknown words leave the options alone.
-/

theorem Holds.withRoot (h : progress.invocation.Holds options) (root : Text) :
    (progress.withRoot root).invocation.Holds options :=
  ⟨h.extensions, h.useGit, h.resolveExtensions, h.includeReexports, h.rankDirection, h.graphName⟩

theorem Holds.exists_of_bind {given : List GivenOption} (h : progress.invocation.Holds options)
    (hread : (progress.withOptions given >>= fun progress => readWords progress words) = .ok last) :
    ∃ middle, middle.invocation.Holds (options ++ given) ∧ readWords middle words = .ok last := by
  rcases exists_of_bind_eq_ok hread with ⟨middle, hmiddle, hread⟩
  rcases exists_of_bind_eq_ok hmiddle with ⟨invocation, hgiven, hpure⟩
  cases hpure
  exact ⟨_, h.append hgiven, hread⟩

theorem Holds.readWords (h : progress.invocation.Holds options)
    (hread : readWords progress words = .ok last) :
    last.invocation.Holds (options ++ optionsOf words) := by
  fun_induction Invocation.readWords progress words generalizing options with
  | case1 =>
      cases hread
      rwa [optionsOf, List.append_nil]
  | case2 progress word words hroot ih => exact ih h hread
  | case3 progress word hroot words ih => exact ih (h.withRoot word) hread
  | case4 progress word hroot words hother ih => exact ih (h.withRoot word) hread
  | case5 progress words hroot ih => exact ih h hread
  | case6 progress words hroot ih => exact ih h hread
  | case7 progress word words ih => exact ih h hread
  | case8 => cases hread
  | case9 progress option isLong attached words given hunpack ih =>
      rcases h.exists_of_bind hread with ⟨middle, hmiddle, hread⟩
      simp only [optionsOf, hunpack, ← List.append_assoc]
      exact ih middle hmiddle hread
  | case10 progress option isLong attached given lacking hunpack value words ih =>
      rcases h.exists_of_bind hread with ⟨middle, hmiddle, hread⟩
      rw [← List.append_assoc] at hmiddle
      simp only [optionsOf, hunpack]
      rw [← List.append_assoc, List.append_cons]
      exact ih middle hmiddle hread
  | case11 => cases hread

theorem given_of_ofTexts {texts : List Text} (h : ofTexts texts = .ok invocation) :
    ∃ words, CommandWord.ofTexts texts = .ok words ∧
      invocation.given = givenBy (optionsOf words) := by
  rcases exists_of_bind_eq_ok h with ⟨words, hwords, h⟩
  rcases exists_of_bind_eq_ok h with ⟨last, hread, h⟩
  refine ⟨words, mapError_eq_ok_iff.mp hwords, ?_⟩
  split at h
  case isTrue =>
    cases h
    exact (holds_standard.readWords hread).given
  case isFalse => cases h

end Invocation

end ImportAtlas
