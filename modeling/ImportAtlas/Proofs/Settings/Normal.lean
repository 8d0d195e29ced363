import ImportAtlas.Proofs.Settings.Variable
import ImportAtlas.Proofs.Text.Distinct
import ImportAtlas.Proofs.Text.LowerCase

/-!
# Settings in normal form

The extensions of settings are trimmed, in lower case, behind a point and all different.  A list of
that kind is what its own check makes of it, and the other settings are checked without being
changed.  So settings that have come through the check can be given again, in the same environment,
and the same settings are built.
-/

namespace ImportAtlas

namespace Settings

variable {raw extension : Text} {raws extensions values : List Text} {json : Json}

/-!
## One extension
-/

def dotted (raw : Text) : Text :=
  let small := Text.lower (Text.trim raw)
  if Text.startsWith "." small then small else "." ++ small

structure IsNormal (extension : Text) : Prop where
  isTrimmed : Text.IsTrimmed CodePoint.isBlank extension
  isSmall : extension.IsSmall
  startsWith_point : Text.startsWith "." extension = true
  two_le_length : 2 ≤ extension.length

theorem normalizeExtension?_eq (raw : Text) : normalizeExtension? raw =
    if Text.lower (Text.trim raw) = [] ∨ Text.lower (Text.trim raw) = "." then none
    else some (dotted raw) := by
  simp only [normalizeExtension?, dotted, Bool.or_eq_true, decide_eq_true_eq]
  split_ifs <;> rfl

theorem normalizeExtension?_of_isNormal (h : IsNormal extension) :
    normalizeExtension? extension = some extension := by
  have hlower : Text.lower (Text.trim extension) = extension := by
    rw [Text.trim_eq, Text.trimEnds_of_isTrimmed h.isTrimmed, Text.lower_of_isSmall h.isSmall]
  have hlength := h.two_le_length
  rw [normalizeExtension?_eq, dotted, hlower, h.startsWith_point, if_pos rfl, if_neg]
  rintro (rfl | rfl)
  · cases hlength
  · cases hlength with
    | step hlength => cases hlength

theorem isNormal_point_append {rest : Text} (hne : rest ≠ [])
    (hfinal : Text.stops CodePoint.isBlank rest.reverse = true) (hrest : rest.IsSmall) :
    IsNormal ("." ++ rest) where
  isTrimmed := Text.isTrimmed_append (by decide) hne (by decide) hfinal
  isSmall := List.forall_mem_append.mpr ⟨by decide, hrest⟩
  startsWith_point := rfl
  two_le_length := by
    rw [List.length_append]
    exact Nat.add_le_add (Nat.le_refl 1) (List.length_pos_of_ne_nil hne)

/-- What the check makes of an extension is left as it is from then on. -/
theorem isNormal_of_normalizeExtension? (h : normalizeExtension? raw = some extension) :
    extension = dotted raw ∧ IsNormal extension := by
  rw [normalizeExtension?_eq] at h
  split at h
  case isTrue => cases h
  case isFalse hsmall =>
    rw [not_or] at hsmall
    have htrimmed : Text.IsTrimmed CodePoint.isBlank (Text.lower (Text.trim raw)) :=
      Text.isTrimmed_lower (Text.isTrimmed_trimEnds _ _)
    have hlower : (Text.lower (Text.trim raw)).IsSmall := Text.isSmall_lower _
    refine ⟨(Option.some.inj h).symm, ?_⟩
    rw [← Option.some.inj h, dotted]
    generalize Text.lower (Text.trim raw) = small at hsmall htrimmed hlower ⊢
    split
    case isTrue hpoint =>
      rcases List.isPrefixOf_iff_prefix.mp hpoint with ⟨rest, rfl⟩
      have hrest : rest ≠ [] := by
        rintro rfl
        exact hsmall.right (List.append_nil _)
      have hfinal := htrimmed.final
      rw [List.reverse_append, Text.stops_append_of_ne_nil (by simpa using hrest)] at hfinal
      exact isNormal_point_append hrest hfinal (List.forall_mem_append.mp hlower).right
    case isFalse => exact isNormal_point_append hsmall.left htrimmed.final hlower

/-!
## Lists of extensions
-/

theorem mapM_normalizeExtension? (h : raws.mapM normalizeExtension? = some extensions) :
    extensions = raws.map dotted ∧ ∀ extension ∈ extensions, IsNormal extension := by
  induction raws generalizing extensions with
  | nil =>
      cases h
      exact ⟨rfl, by simp⟩
  | cons raw raws ih =>
      cases hfirst : normalizeExtension? raw with
      | none => simp [hfirst] at h
      | some extension =>
          cases hrest : raws.mapM normalizeExtension? with
          | none => simp [hfirst, hrest] at h
          | some more =>
              have heq : extension :: more = extensions := by simpa [hfirst, hrest] using h
              rcases isNormal_of_normalizeExtension? hfirst with ⟨rfl, hnormal⟩
              rcases ih hrest with ⟨rfl, hmore⟩
              rw [← heq, List.forall_mem_cons]
              exact ⟨rfl, hnormal, hmore⟩

theorem mapM_of_isNormal (h : ∀ extension ∈ extensions, IsNormal extension) :
    extensions.mapM normalizeExtension? = some extensions := by
  induction extensions with
  | nil => rfl
  | cons extension extensions ih =>
      rw [List.forall_mem_cons] at h
      simp [normalizeExtension?_of_isNormal h.left, ih h.right]

theorem firstOnes_eq_eraseDups (items : List Text) : firstOnes items = items.eraseDups := by
  induction items using List.reverseRecOn with
  | nil => rfl
  | append_singleton items item ih =>
      have hstep : firstOnes (items ++ [item]) =
          if (firstOnes items).contains item then firstOnes items
          else firstOnes items ++ [item] := by simp [firstOnes]
      rw [hstep, ih, eraseDups_concat]
      by_cases hmem : item ∈ items <;> simp [hmem]

/-- The extensions of settings: all different and each as the check leaves it. -/
structure AreNormal (extensions : List Text) : Prop where
  nodup : extensions.Nodup
  isNormal : ∀ extension ∈ extensions, IsNormal extension

theorem normalizeExtensions?_eq_some (h : normalizeExtensions? raws = some extensions) :
    extensions = (raws.map dotted).eraseDups ∧ AreNormal extensions := by
  rcases Option.map_eq_some_iff.mp h with ⟨all, hall, rfl⟩
  rcases mapM_normalizeExtension? hall with ⟨rfl, hnormal⟩
  rw [firstOnes_eq_eraseDups]
  exact ⟨rfl, nodup_eraseDups _,
    fun extension hmem => hnormal extension (List.mem_eraseDups.mp hmem)⟩

theorem normalizeExtensions?_of_areNormal (h : AreNormal extensions) :
    normalizeExtensions? extensions = some extensions := by
  rw [normalizeExtensions?, mapM_of_isNormal h.isNormal, Option.map_some, firstOnes_eq_eraseDups,
    eraseDups_of_nodup h.nodup]

/-!
## Checking again
-/

/-- What a check accepts it accepts again, when it is written as JSON, and leaves as it is. -/
def Settles {α : Type} (check : Json → Checked α) (write : α → Json) : Prop :=
  ∀ json value, check json = .ok value → check (write value) = .ok value

def writeTexts (values : List Text) : Json := .array (values.map Json.text)

theorem itemIssues_map_text (index : Nat) (values : List Text) :
    itemIssues index (values.map Json.text) = [] := by
  induction values generalizing index with
  | nil => rfl
  | cons value values ih => exact ih (index + 1)

theorem textItems_map_text (values : List Text) : textItems (values.map Json.text) = values := by
  induction values with
  | nil => rfl
  | cons value values ih => exact congrArg (value :: ·) ih

theorem settles_checkBool : Settles checkBool Json.bool := fun _ _ _ => rfl

theorem settles_checkRankDirection :
    Settles checkRankDirection fun direction => .text direction.name := by
  intro json direction _
  cases direction <;> decide

theorem settles_checkTexts : Settles checkTexts writeTexts := by
  intro json values _
  simp only [checkTexts, writeTexts, itemIssues_map_text, textItems_map_text]

theorem settles_checkNonemptyText : Settles checkNonemptyText Json.text := by
  intro json value h
  rwa [(eq_text_of_checkNonemptyText h).left] at h

theorem settles_checkGraphName : Settles checkGraphName Json.text := by
  intro json name h
  rw [checkGraphName, isIdentifier_of_checkGraphName h]
  rfl

/-- Extensions that pass the check are normal, and there are some. -/
theorem areNormal_of_checkExtensions (h : checkExtensions json = .ok extensions) :
    extensions ≠ [] ∧ AreNormal extensions := by
  cases json with
  | array items =>
      simp only [checkExtensions] at h
      cases hissues : itemIssues 0 items with
      | cons issue issues =>
          cases hgiven : textItems items <;> simp [hissues, hgiven] at h
      | nil =>
          cases hgiven : textItems items with
          | nil => simp [hissues, hgiven, reject] at h
          | cons first rest =>
              simp only [hissues, hgiven] at h
              cases hnormalize : normalizeExtensions? (first :: rest) with
              | none => simp [hnormalize, reject] at h
              | some normal =>
                  simp only [hnormalize, Except.ok.injEq] at h
                  subst h
                  rcases normalizeExtensions?_eq_some hnormalize with ⟨rfl, hnormal⟩
                  have hfirst : dotted first ∈ ((first :: rest).map dotted).eraseDups := by simp
                  exact ⟨List.ne_nil_of_mem hfirst, hnormal⟩
  | _ => cases h

theorem settles_checkExtensions : Settles checkExtensions writeTexts := by
  intro json extensions h
  rcases areNormal_of_checkExtensions h with ⟨hne, hnormal⟩
  cases extensions with
  | nil => exact absurd rfl hne
  | cons first rest =>
      simp only [checkExtensions, writeTexts, itemIssues_map_text, textItems_map_text,
        normalizeExtensions?_of_areNormal hnormal]

/-!
## Giving settings again
-/

def Given.ofSettings (settings : Settings) : Given
  | .extensions => some (writeTexts settings.extensions)
  | .useGit => some (.bool settings.useGit)
  | .excludedDirectories => some (writeTexts settings.excludedDirectories)
  | .resolveExtensions => some (.bool settings.resolveExtensions)
  | .includeReexports => some (.bool settings.includeReexports)
  | .encoding => some (.text settings.encoding)
  | .graphName => some (.text settings.graphName)
  | .rankDirection => some (.text settings.rankDirection.name)
  | .clusterColor => some (.text settings.clusterColor)

variable {given again : Given} {settings : Settings}

theorem Settles.checkField {α : Type} {check : Json → Checked α} {write : α → Json}
    {field : SettingsField} {standard value : α} (hsettles : Settles check write)
    (hstandard : check (write standard) = .ok standard)
    (h : checkField given field standard check = .ok value)
    (hagain : again field = some (write value)) :
    Settings.checkField again field standard check = .ok value := by
  have hvalue : check (write value) = .ok value := by
    rcases eq_standard_or_of_checkField h with rfl | ⟨json, _, hjson⟩
    · exact hstandard
    · exact hsettles json value hjson
  rw [Settings.checkField, hagain]
  simp only [hvalue, Except.mapError]

/-- Settings that have passed the check pass it again, whatever would be given otherwise. -/
theorem check_ofSettings (h : settings.IsValid) (rest : Given) :
    check ((Given.ofSettings settings).orElse rest) = .ok settings := by
  rcases h with ⟨given, hcheck⟩
  have hpasses := passes_of_check hcheck
  exact check_of_passes {
    extensions := settles_checkExtensions.checkField (by decide) hpasses.extensions rfl
    useGit := settles_checkBool.checkField rfl hpasses.useGit rfl
    excludedDirectories :=
      settles_checkTexts.checkField (by decide) hpasses.excludedDirectories rfl
    resolveExtensions := settles_checkBool.checkField rfl hpasses.resolveExtensions rfl
    includeReexports := settles_checkBool.checkField rfl hpasses.includeReexports rfl
    encoding := settles_checkNonemptyText.checkField (by decide) hpasses.encoding rfl
    graphName := settles_checkGraphName.checkField (by decide) hpasses.graphName rfl
    rankDirection :=
      settles_checkRankDirection.checkField (by decide) hpasses.rankDirection rfl
    clusterColor :=
      settles_checkNonemptyText.checkField (by decide) hpasses.clusterColor rfl }

/-- Normalizing extensions again changes nothing, and neither does giving all values of settings
again. -/
theorem normalized_again :
    (∀ raws extensions, normalizeExtensions? raws = some extensions →
      extensions.Nodup ∧
        (∀ extension ∈ extensions, Text.startsWith "." extension = true ∧ 2 ≤ extension.length) ∧
        extensions = (raws.map dotted).eraseDups ∧
        normalizeExtensions? extensions = some extensions) ∧
    ∀ given environment settings, resolve given environment = .ok settings →
      resolve (Given.ofSettings settings) environment = .ok settings := by
  constructor
  · intro raws extensions h
    rcases normalizeExtensions?_eq_some h with ⟨heq, hnormal⟩
    exact ⟨hnormal.nodup,
      fun extension hmem =>
        ⟨(hnormal.isNormal extension hmem).startsWith_point,
          (hnormal.isNormal extension hmem).two_le_length⟩,
      heq, normalizeExtensions?_of_areNormal hnormal⟩
  · intro given environment settings h
    rw [resolve_eq_ok_iff] at h ⊢
    exact ⟨h.left, check_ofSettings ⟨_, h.right⟩ _⟩

/-!
Two spellings of one extension are given, and a word with a sigma at its end.
-/

def looseExtensions : List Text := [" .TSX ", "tsx", "ΣΑΣ"]

def tightExtensions : List Text := [".tsx", ".σας"]

def looseGiven : Given
  | .extensions => some (writeTexts looseExtensions)
  | .graphName => some (.text "Imports")
  | _ => none

def looseEnvironment : Variables := [("IMPORTGRAPH_RANKDIR", "TB"), ("importgraph_use_git", "Off")]

def tightSettings : Settings :=
  { standard with
    extensions := tightExtensions
    useGit := false
    graphName := "Imports"
    rankDirection := .topToBottom }

theorem normalized_again_loose :
    normalizeExtensions? looseExtensions = some tightExtensions ∧
      normalizeExtensions? tightExtensions = some tightExtensions ∧
      resolve looseGiven looseEnvironment = .ok tightSettings ∧
      resolve (Given.ofSettings tightSettings) looseEnvironment = .ok tightSettings := by
  have hextensions : normalizeExtensions? looseExtensions = some tightExtensions := by
    decide
  have hsettings : resolve looseGiven looseEnvironment = .ok tightSettings := by decide +kernel
  rcases normalized_again with ⟨hnormalized, hresolved⟩
  exact ⟨hextensions, (hnormalized _ _ hextensions).right.right.right, hsettings,
    hresolved _ _ _ hsettings⟩

end Settings

end ImportAtlas
