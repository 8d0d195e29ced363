import ImportAtlas.Log.Reported
import ImportAtlas.Settings.Check
import Mathlib.Data.List.TakeWhile

/-!
# Valid settings

Settings are valid when they are what the check makes of some given values.  Such settings have in
each field either the standard or what the check of that field accepts.
-/

namespace ImportAtlas

namespace Settings

def IsValid (settings : Settings) : Prop := ∃ given, check given = .ok settings

variable {given : Given} {settings : Settings} {name : Text}

theorem isValid_standard : standard.IsValid := ⟨Given.none, rfl⟩

structure Passes (given : Given) (settings : Settings) : Prop where
  extensions :
    checkField given .extensions standard.extensions checkExtensions = .ok settings.extensions
  useGit : checkField given .useGit standard.useGit checkBool = .ok settings.useGit
  excludedDirectories :
    checkField given .excludedDirectories standard.excludedDirectories checkTexts =
      .ok settings.excludedDirectories
  resolveExtensions :
    checkField given .resolveExtensions standard.resolveExtensions checkBool =
      .ok settings.resolveExtensions
  includeReexports :
    checkField given .includeReexports standard.includeReexports checkBool =
      .ok settings.includeReexports
  encoding :
    checkField given .encoding standard.encoding checkNonemptyText = .ok settings.encoding
  graphName :
    checkField given .graphName standard.graphName checkGraphName = .ok settings.graphName
  rankDirection :
    checkField given .rankDirection standard.rankDirection checkRankDirection =
      .ok settings.rankDirection
  clusterColor :
    checkField given .clusterColor standard.clusterColor checkNonemptyText =
      .ok settings.clusterColor

theorem passes_of_check (h : check given = .ok settings) : Passes given settings := by
  unfold check at h
  dsimp only at h
  split at h
  case h_1 =>
    cases h
    constructor <;> assumption
  case h_2 => cases h

theorem check_of_passes (h : Passes given settings) : check given = .ok settings := by
  unfold check
  dsimp only
  rw [h.extensions, h.useGit, h.excludedDirectories, h.resolveExtensions, h.includeReexports,
    h.encoding, h.graphName, h.rankDirection, h.clusterColor]

theorem eq_standard_or_of_checkField {α : Type} {field : SettingsField} {standard value : α}
    {check : Json → Checked α} (h : checkField given field standard check = .ok value) :
    value = standard ∨ ∃ json, given field = some json ∧ check json = .ok value := by
  unfold checkField at h
  cases hgiven : given field with
  | none =>
      rw [hgiven] at h
      exact Or.inl (Except.ok.inj h).symm
  | some json =>
      rw [hgiven] at h
      exact Or.inr ⟨json, rfl, mapError_eq_ok_iff.mp h⟩

theorem eq_text_of_checkNonemptyText {json : Json} {value : Text}
    (h : checkNonemptyText json = .ok value) :
    json = .text value ∧ value.any CodePoint.isSurrogate = false := by
  cases json with
  | text given =>
      simp only [checkNonemptyText] at h
      split at h
      case isTrue => cases h
      case isFalse hnone =>
        split at h
        case isTrue => cases h
        case isFalse =>
          cases h
          exact ⟨rfl, Bool.eq_false_iff.mpr hnone⟩
  | _ => cases h

theorem isIdentifier_of_checkGraphName {value : Json} (h : checkGraphName value = .ok name) :
    isIdentifier name = true := by
  cases value with
  | text given =>
      simp only [checkGraphName] at h
      split at h
      case isTrue hname =>
        cases h
        exact hname
      case isFalse => cases h
  | _ => cases h

theorem IsValid.isIdentifier (h : settings.IsValid) :
    Settings.isIdentifier settings.graphName = true := by
  rcases h with ⟨given, hcheck⟩
  rcases eq_standard_or_of_checkField (passes_of_check hcheck).graphName with hname | ⟨_, _, hname⟩
  · rw [hname]
    decide
  · exact isIdentifier_of_checkGraphName hname

theorem exists_of_isIdentifier (h : Settings.isIdentifier name = true) :
    ∃ letters, letters ≠ [] ∧ (∀ c ∈ letters, isIdentifierPart c = true) ∧
      (name = letters ∨ name = letters ++ [CodePoint.ofChar '\n']) := by
  cases name with
  | nil => cases h
  | cons first rest =>
      simp only [Settings.isIdentifier, Bool.and_eq_true, Bool.or_eq_true, decide_eq_true_eq] at h
      rcases h with ⟨⟨hfirst, _⟩, hrest⟩
      have hsplit : rest.takeWhile isIdentifierPart ++ rest.dropWhile isIdentifierPart = rest :=
        List.takeWhile_append_dropWhile
      have hall : ∀ c ∈ first :: rest.takeWhile isIdentifierPart, isIdentifierPart c = true := by
        rw [List.forall_mem_cons]
        exact ⟨hfirst, fun c hc => List.mem_takeWhile_imp hc⟩
      refine ⟨first :: rest.takeWhile isIdentifierPart, by simp, hall, ?_⟩
      rcases hrest with hnone | hlineFeed
      · rw [hnone, List.append_nil] at hsplit
        exact Or.inl (by rw [hsplit])
      · rw [hlineFeed] at hsplit
        exact Or.inr (congrArg (first :: ·) hsplit.symm)

end Settings

end ImportAtlas
