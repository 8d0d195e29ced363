import ImportAtlas.Proofs.Statement.Completeness

/-!
# Forms that are read as they are

A form is settled when its parts cannot run together: `from` is never glued to a name, a comma only
stands before a group, and a binding called `type` only stands behind the word `type`.  Of all forms
of its text, a settled form is the one that is read.
-/

namespace ImportAtlas

namespace Statement

def Origin.IsApart (origin : Origin) : Prop :=
  origin.fromWord ≠ none → origin.before.text ≠ []

structure ImportBody.IsSettled (body : ImportBody) : Prop where
  bare : body.binding = none → body.group = none →
    body.origin.before.text = [] ∧ body.origin.fromWord = none
  apart : body.listing? = none → body.origin.IsApart
  comma : ∀ binding, body.binding = some binding → binding.comma ≠ none → body.group ≠ none

theorem ImportBody.IsSettled.isApart {body : ImportBody} (h : body.IsSettled)
    (hgroup : body.group = none) : body.origin.IsApart := by
  apply h.apart
  simp [ImportBody.listing?, hgroup]

structure ImportForm.IsSettled (form : ImportForm) : Prop where
  body : form.body.IsSettled
  binding : ∀ binding, form.typeWord = none → form.body.binding = some binding →
    binding.name.text ≠ "type"

theorem ImportForm.isSettled_of_unbound {form : ImportForm} (hbinding : form.body.binding = none)
    (hbare : form.body.group = none →
      form.body.origin.before.text = [] ∧ form.body.origin.fromWord = none)
    (hapart : form.body.listing? = none → form.body.origin.IsApart) : form.IsSettled := by
  constructor
  · constructor
    · intro _
      exact hbare
    · exact hapart
    · intro binding hsome
      rw [hbinding] at hsome
      cases hsome
  · intro binding _ hsome
    rw [hbinding] at hsome
    cases hsome

theorem ImportForm.isSettled_of_binding {form : ImportForm} {binding : Binding}
    (hbinding : form.body.binding = some binding) (hcomma : binding.comma = none)
    (hapart : form.body.origin.IsApart)
    (htype : form.typeWord = none → binding.name.text ≠ "type") : form.IsSettled := by
  constructor
  · constructor
    · intro hnone
      rw [hbinding] at hnone
      cases hnone
    · intro _
      exact hapart
    · intro other hother hsome
      rw [hbinding] at hother
      cases hother
      exact absurd hcomma hsome
  · intro other hword hother
    rw [hbinding] at hother
    cases hother
    exact htype hword

def ReexportForm.IsSettled (form : ReexportForm) : Prop :=
  ∀ star, form.group = .renamed star → form.beforeFrom.text ≠ []

/-!
## Names that end where they should
-/

theorem Origin.stops_isNamePart {origin : Origin} (h : origin.IsApart) (rest : Text) :
    Text.stops CodePoint.isNamePart (origin.spell ++ rest) = true := by
  rcases origin with ⟨before, fromWord, quoted⟩
  have hquoted : Text.stops CodePoint.isNamePart (quoted.spell ++ rest) = true :=
    quoted.stops rfl rfl rest
  simp only [spell, List.append_assoc]
  cases fromWord with
  | none => exact before.stops_isNamePart hquoted
  | some after =>
      have hbefore : before.text ≠ [] := h (by simp)
      exact Spaces.stops_isNamePart ⟨before, hbefore⟩ _

theorem stops_commaText (comma : Option Comma) {group : Option Group} {origin : Origin}
    (h : group = none → origin.IsApart) (rest : Text) :
    Text.stops CodePoint.isNamePart (commaText comma group origin ++ rest) = true := by
  cases comma with
  | some comma =>
      simp only [commaText, Option.elim_some, Comma.spell, List.append_assoc]
      exact comma.before.stops_isNamePart rfl
  | none =>
      rcases group with _ | listing | star
      · simpa [commaText, groupText] using Origin.stops_isNamePart (h rfl) rest
      · rfl
      · rfl

theorem skipComma_settled {comma : Option Comma} {group : Option Group} (origin : Origin)
    (h : comma ≠ none → group ≠ none) (rest : Text) :
    skipComma (commaText comma group origin ++ rest) = groupText group origin ++ rest := by
  cases comma with
  | some comma =>
      simp only [commaText, Option.elim_some, List.append_assoc, skipComma_append]
      rcases group with _ | listing | star
      · exact absurd rfl (h (by simp))
      · rfl
      · rfl
  | none =>
      exact skipComma_of_none (after?_groupText_eq_none group origin rest rfl (by decide) rfl)

/-!
## Imports
-/

theorem readBinding_settled {body : ImportBody} (h : body.IsSettled) (rest : Text) :
    readBinding (body.spell ++ rest) =
      (⟨body.clause.binding, body.clause.renamed, none, none⟩,
        groupText body.group body.origin ++ rest) := by
  rcases body with ⟨binding, group, origin⟩
  cases binding with
  | none =>
      have hstop : Text.stops CodePoint.isNamePart (groupText group origin ++ rest) = true := by
        rcases group with _ | listing | star
        · have hbare := h.bare rfl rfl
          have hnone : origin.fromWord = none := hbare.right
          simpa [groupText] using Origin.stops_isNamePart (fun hfrom => absurd hnone hfrom) rest
        · rfl
        · rfl
      simp [ImportBody.spell_append, readBinding, name?_eq_none_of_stops hstop, ImportBody.clause]
  | some binding =>
      rcases binding with ⟨name, renamed, comma⟩
      have hstop := stops_commaText comma h.isApart rest
      have hskip : skipComma (commaText comma group origin ++ rest) =
          groupText group origin ++ rest := skipComma_settled origin (h.comma _ rfl) rest
      cases renamed with
      | none =>
          simp [ImportBody.spell_append, Binding.spell_append, readBinding,
            name?_append name hstop, renaming?_commaText, hskip, ImportBody.clause]
      | some renamed =>
          have hname := name?_append name
            (renamed.stops_isNamePart (commaText comma group origin ++ rest))
          simp [ImportBody.spell_append, Binding.spell_append, readBinding, hname, renaming?_spell,
            name?_append renamed.name hstop, hskip, ImportBody.clause]

theorem readGroup_settled (group : Option Group) {origin : Origin}
    (h : group.bind Group.listing? = none → origin.IsApart) (binding renamed : Option Text)
    (rest : Text) :
    readGroup ⟨binding, renamed, none, none⟩ (groupText group origin ++ rest) =
      (⟨binding, renamed, (group.bind Group.listing?).map (·.text),
        (group.bind Group.star?).map (·.name.text)⟩, origin.spell ++ rest) := by
  rcases group with _ | listing | star
  · simp [groupText, readGroup, braces?_origin, namespace?_origin]
  · simp [groupText, Group.spell, Group.listing?, Group.star?, readGroup, braces?_append]
  · have hname := name?_append star.name (Origin.stops_isNamePart (h rfl) rest)
    simp [groupText, Group.spell, Group.listing?, Group.star?, readGroup, braces?_star,
      Statement.namespace?_spell, hname]

theorem importBody?_settled {body : ImportBody} (h : body.IsSettled) (rest : Text) :
    importBody? (body.spell ++ rest) = some (body.statement, rest) := by
  have hgroup := readGroup_settled body.group h.apart body.clause.binding
    body.clause.renamed rest
  simp only [importBody?, readBinding_settled h, hgroup, sourceOrSpecifier?_append]
  rfl

theorem ImportBody.stops_isBlank {body : ImportBody} (h : body.IsSettled) (rest : Text) :
    Text.stops CodePoint.isBlank (body.spell ++ rest) = true := by
  rcases body with ⟨binding, group, origin⟩
  cases binding with
  | some binding =>
      simp only [spell, Binding.spell, Option.elim_some, List.append_assoc]
      exact binding.name.stops_isBlank _
  | none =>
      rcases group with _ | listing | star
      · rcases h.bare rfl rfl with ⟨hbefore, hfrom⟩
        simp only at hbefore hfrom
        simpa [spell, Origin.spell, hbefore, hfrom] using origin.quoted.stops rfl rfl rest
      · rfl
      · rfl

/-- The word `type` is a whole name where it is followed by white space. -/
theorem eq_type_of_typeWord? {name : Name} {rest : Text}
    (hrest : Text.stops CodePoint.isNamePart rest = true)
    (h : (typeWord? (name.text ++ rest)).isSome = true) : name.text = "type" := by
  rcases Option.isSome_iff_exists.mp h with ⟨behind, hbehind⟩
  rcases typeWord?_eq_some_iff.mp hbehind with ⟨after, hspell, _⟩
  have htype : ∀ c ∈ Text.ofString "type", c.isNamePart = true :=
    List.all_eq_true.mp (by rfl : (Text.ofString "type").all _ = true)
  simp only [spellType, List.append_assoc] at hspell
  exact (Text.append_inj_of_stops name.isNamePart hrest htype
    (after.stops_isNamePart behind) hspell).left

theorem typeWord?_settled {body : ImportBody} (h : body.IsSettled)
    (hbinding : ∀ binding, body.binding = some binding → binding.name.text ≠ "type")
    (rest : Text) : typeWord? (body.spell ++ rest) = none := by
  rcases body with ⟨binding, group, origin⟩
  cases binding with
  | some binding =>
      rcases binding with ⟨name, renamed, comma⟩
      have hstop : Text.stops CodePoint.isNamePart
          (renamed.elim [] Renaming.spell ++ (commaText comma group origin ++ rest)) = true := by
        cases renamed with
        | none => exact stops_commaText comma h.isApart rest
        | some renamed => exact renamed.stops_isNamePart _
      rw [ImportBody.spell_append, Option.elim_some, Binding.spell_append]
      cases hword : typeWord? (name.text ++
          (renamed.elim [] Renaming.spell ++ (commaText comma group origin ++ rest))) with
      | none => rfl
      | some behind =>
          exact absurd (eq_type_of_typeWord? hstop (by simp [hword])) (hbinding _ rfl)
  | none =>
      rcases group with _ | listing | star
      · rcases h.bare rfl rfl with ⟨hbefore, hfrom⟩
        simp only at hbefore hfrom
        have hword : Text.after? "type" (origin.quoted.spell ++ rest) = none :=
          Text.after?_eq_none_of_stops rfl (origin.quoted.stops rfl rfl rest)
        simp [ImportBody.spell, Origin.spell, hbefore, hfrom, typeWord?, hword]
      · rfl
      · rfl

theorem readImport?_settled {form : ImportForm} (h : form.IsSettled) (rest : Text) :
    readImport? (form.spell ++ rest) = some (form.body.statement, rest) := by
  rcases form with ⟨afterKeyword, typeWord, body⟩
  have hbody : importBody? (body.spell ++ rest) = some (body.statement, rest) :=
    importBody?_settled h.body rest
  have htrim : Text.trimStart (body.spell ++ rest) = body.spell ++ rest :=
    Text.trimStart_of_stops (ImportBody.stops_isBlank h.body rest)
  simp only [ImportForm.spell_append, readImport?, Text.after?_append, Option.bind_eq_bind,
    Option.bind_some, spaces?_append]
  cases typeWord with
  | none =>
      have hword := typeWord?_settled h.body (fun binding => h.binding binding rfl) rest
      simp [htrim, hword, hbody]
  | some after =>
      have hword : typeWord? (spellType after ++ (body.spell ++ rest)) =
          some (body.spell ++ rest) :=
        typeWord?_eq_some_iff.mpr ⟨after, rfl, ImportBody.stops_isBlank h.body rest⟩
      have htype : Text.trimStart (spellType after ++ (body.spell ++ rest)) =
          spellType after ++ (body.spell ++ rest) := rfl
      simp [htype, hword, hbody]

/-!
## Re-exports
-/

theorem reexportBody?_settled {group : ExportGroup} {before after : Blanks} {quoted : Quoted}
    (h : ∀ star, group = .renamed star → before.text ≠ []) (rest : Text) :
    reexportBody? (group.spell ++ ((Origin.mk before (some after) quoted).spell ++ rest)) =
      some (⟨.reexporting, group.clause.label, quoted.text⟩, rest) := by
  cases group with
  | listed listing =>
      simp [reexportBody?, ExportGroup.spell, ExportGroup.clause, braces?_append, source?_append]
  | everything =>
      have hbraces : braces? ("*" ++ ((Origin.mk before (some after) quoted).spell ++ rest)) =
          none := rfl
      have has : Text.after? "as"
          (Text.trimStart ((Origin.mk before (some after) quoted).spell ++ rest)) = none :=
        Origin.after?_trimStart_eq_none _ rest rfl (by decide) (by decide) (by decide) rfl
      simp [reexportBody?, everything?, Statement.namespace?, ExportGroup.spell,
        ExportGroup.clause, hbraces, Text.after?_append, has, source?_append]
  | renamed star =>
      have hapart : (Origin.mk before (some after) quoted).IsApart := fun _ => h star rfl
      have hstop := Origin.stops_isNamePart hapart rest
      simp [reexportBody?, everything?, ExportGroup.spell, ExportGroup.clause, braces?_star,
        Statement.namespace?_spell, name?_append star.name hstop, source?_append]

theorem readReexport?_settled {form : ReexportForm} (h : form.IsSettled) (rest : Text) :
    readReexport? (form.spell ++ rest) = some (form.statement, rest) := by
  rw [readReexport?_spell]
  exact reexportBody?_settled h rest

end Statement

end ImportAtlas
