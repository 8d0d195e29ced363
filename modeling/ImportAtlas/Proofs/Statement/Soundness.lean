import ImportAtlas.Proofs.Statement.Grammar

/-!
# What is read has a form

A statement read at the start of a text is the statement of a form that the text begins with, and
what follows the form is what the reader leaves.
-/

namespace ImportAtlas

namespace Statement

/-!
## Imports
-/

theorem readBinding_sound (t : Text) :
    ∃ binding : Option Binding, t = binding.elim [] Binding.spell ++ (readBinding t).2 ∧
      (readBinding t).1 = ⟨binding.map (·.name.text),
        binding.bind fun binding => binding.renamed.map (·.name.text), none, none⟩ := by
  cases hname : name? t with
  | none =>
      refine ⟨none, ?_, ?_⟩
      · simp [readBinding, hname]
      · simp [readBinding, hname]
  | some found =>
      rcases found with ⟨name, rest⟩
      rcases name?_eq_some_iff.mp hname with ⟨word, hword, ht, _⟩
      cases hrenaming : renaming? rest with
      | none =>
          have hread : readBinding t = (⟨some name, none, none, none⟩, skipComma rest) := by
            simp [readBinding, hname, hrenaming]
          rw [hread]
          rcases skipComma_cases rest with ⟨comma, hcomma⟩ | hcomma
          · refine ⟨some ⟨word, none, some comma⟩, ?_, by simp [hword]⟩
            simp [Binding.spell, ht, ← hcomma]
          · refine ⟨some ⟨word, none, none⟩, ?_, by simp [hword]⟩
            simp [Binding.spell, ht, hcomma]
      | some found =>
          rcases found with ⟨newName, behind⟩
          rcases renaming?_eq_some_iff.mp hrenaming with ⟨renamed, hrenamed, hrest, _⟩
          have hread : readBinding t =
              (⟨some name, some newName, none, none⟩, skipComma behind) := by
            simp [readBinding, hname, hrenaming]
          rw [hread]
          rcases skipComma_cases behind with ⟨comma, hcomma⟩ | hcomma
          · refine ⟨some ⟨word, some renamed, some comma⟩, ?_, by simp [hword, hrenamed]⟩
            simp [Binding.spell, ht, hrest, ← hcomma]
          · refine ⟨some ⟨word, some renamed, none⟩, ?_, by simp [hword, hrenamed]⟩
            simp [Binding.spell, ht, hrest, hcomma]

theorem readGroup_sound (binding renamed : Option Text) (t : Text) :
    ∃ group : Option Group,
      t = group.elim [] Group.spell ++ (readGroup ⟨binding, renamed, none, none⟩ t).2 ∧
      (readGroup ⟨binding, renamed, none, none⟩ t).1 = ⟨binding, renamed,
        (group.bind Group.listing?).map (·.text),
        (group.bind Group.star?).map (·.name.text)⟩ := by
  cases hbraces : braces? t with
  | some found =>
      rcases found with ⟨names, rest⟩
      rcases braces?_eq_some_iff.mp hbraces with ⟨listing, hlisting, ht⟩
      refine ⟨some (.listed listing), ?_, ?_⟩
      · simpa [readGroup, hbraces, Group.spell] using ht
      · simp [readGroup, hbraces, Group.listing?, Group.star?, hlisting]
  | none =>
      cases hnamespace : Statement.namespace? t with
      | some found =>
          rcases found with ⟨name, rest⟩
          rcases namespace?_eq_some_iff.mp hnamespace with ⟨star, hstar, ht, _⟩
          refine ⟨some (.everything star), ?_, ?_⟩
          · simpa [readGroup, hbraces, hnamespace, Group.spell] using ht
          · simp [readGroup, hbraces, hnamespace, Group.listing?, Group.star?, hstar]
      | none =>
          refine ⟨none, ?_, ?_⟩
          · simp [readGroup, hbraces, hnamespace]
          · simp [readGroup, hbraces, hnamespace]

theorem importBody?_sound {t rest : Text} {statement : Statement}
    (h : importBody? t = some (statement, rest)) :
    ∃ body : ImportBody, t = body.spell ++ rest ∧ body.statement = statement := by
  rcases readBinding_sound t with ⟨binding, hbinding, hclause⟩
  rcases readGroup_sound (binding.map (·.name.text))
    (binding.bind fun binding => binding.renamed.map (·.name.text)) (readBinding t).2
    with ⟨group, hgroup, hclause'⟩
  simp only [importBody?, hclause] at h
  split at h
  case h_1 => cases h
  case h_2 specifier behind horigin =>
    simp only [Option.some.injEq, Prod.mk.injEq] at h
    rcases h with ⟨hstatement, hrest⟩
    rcases sourceOrSpecifier?_eq_some_iff.mp horigin with ⟨origin, hspecifier, hspell⟩
    refine ⟨⟨binding, group, origin⟩, ?_, ?_⟩
    · rw [hbinding, hgroup, hspell, hrest]
      simp [ImportBody.spell]
    · rw [← hstatement, hclause', ← hspecifier]
      rfl

theorem typeWord?_eq_some_iff {t rest : Text} :
    typeWord? t = some rest ↔
      ∃ after : Spaces, t = spellType after ++ rest ∧
        Text.stops CodePoint.isBlank rest = true := by
  constructor
  · intro h
    simp only [typeWord?, Option.bind_eq_bind, Option.bind_eq_some_iff] at h
    rcases h with ⟨behind, htype, hspaces⟩
    rcases spaces?_eq_some_iff.mp hspaces with ⟨after, hbehind, hrest⟩
    rw [Text.after?_eq_some_iff] at htype
    refine ⟨after, ?_, hrest⟩
    simp [spellType, htype, hbehind]
  · rintro ⟨after, ht, hrest⟩
    have hspaces : spaces? (after.text ++ rest) = some rest :=
      spaces?_eq_some_iff.mpr ⟨after, rfl, hrest⟩
    simp only [typeWord?, ht, spellType, List.append_assoc, Text.after?_append,
      Option.bind_eq_bind, Option.bind_some, hspaces]

theorem readImport?_sound {t rest : Text} {statement : Statement}
    (h : readImport? t = some (statement, rest)) :
    ∃ form : ImportForm, t = form.spell ++ rest ∧ form.body.statement = statement := by
  simp only [readImport?, Option.bind_eq_bind, Option.bind_eq_some_iff, Option.or_eq_some_iff]
    at h
  rcases h with ⟨behindWord, hword, behind, hspaces, hbody⟩
  rcases spaces?_eq_some_iff.mp hspaces with ⟨afterKeyword, hbehindWord, _⟩
  rw [Text.after?_eq_some_iff] at hword
  rcases hbody with ⟨behindType, htype, hbody⟩ | ⟨_, hbody⟩
  · rcases typeWord?_eq_some_iff.mp htype with ⟨after, hbehind, _⟩
    rcases importBody?_sound hbody with ⟨body, hspell, hstatement⟩
    refine ⟨⟨afterKeyword, some after, body⟩, ?_, hstatement⟩
    simp [ImportForm.spell, hword, hbehindWord, hbehind, hspell]
  · rcases importBody?_sound hbody with ⟨body, hspell, hstatement⟩
    refine ⟨⟨afterKeyword, none, body⟩, ?_, hstatement⟩
    simp [ImportForm.spell, hword, hbehindWord, hspell]

/-!
## Re-exports

When `from` is glued to the name behind `as`, the reader has taken it for a part of the name and
splits it off again.
-/

theorem splitFrom?_eq_some_iff {name start : Text} :
    splitFrom? name = some start ↔ start ≠ [] ∧ name = start ++ "from" := by
  constructor
  · intro h
    simp only [splitFrom?] at h
    split at h
    case h_2 => cases h
    case h_1 c reversed hafter =>
      simp only [Option.some.injEq] at h
      rw [Text.after?_eq_some_iff] at hafter
      have hname : name = (c :: reversed).reverse ++ "from" := by
        rw [← List.reverse_reverse name, hafter, List.reverse_append,
          List.reverse_reverse]
      constructor
      · rw [← h]
        simp
      · rw [hname, h]
  · rintro ⟨hne, hname⟩
    have hafter : Text.after? (Text.ofString "from").reverse name.reverse =
        some start.reverse := by
      rw [Text.after?_eq_some_iff, hname, List.reverse_append]
    cases hstart : start.reverse with
    | nil => exact absurd (List.reverse_eq_nil_iff.mp hstart) hne
    | cons c reversed =>
        simp only [splitFrom?, hafter, hstart]
        rw [← hstart, List.reverse_reverse]

theorem everything?_sound {t specifier rest : Text} {clause : ReexportClause}
    (h : everything? t = some (clause, specifier, rest)) :
    ∃ (group : ExportGroup) (before after : Blanks) (quoted : Quoted),
      group.clause = clause ∧ quoted.text = specifier ∧
        t = group.spell ++ (Origin.mk before (some after) quoted).spell ++ rest := by
  simp only [everything?] at h
  cases hnamespace : Statement.namespace? t with
  | none =>
      simp only [hnamespace, Option.bind_eq_bind, Option.bind_eq_some_iff, Option.pure_def,
        Option.some.injEq, Prod.mk.injEq] at h
      rcases h with ⟨behind, hstar, found, hsource, hclause, hspecifier, hrest⟩
      rcases source?_eq_some_iff.mp hsource with ⟨before, after, quoted, hquoted, hbehind⟩
      rw [Text.after?_eq_some_iff] at hstar
      refine ⟨.everything, before, after, quoted, hclause, hquoted.trans hspecifier, ?_⟩
      rw [hstar, hbehind, hrest]
      simp [ExportGroup.spell]
  | some found =>
      rcases found with ⟨name, behind⟩
      rcases namespace?_eq_some_iff.mp hnamespace with ⟨star, hstar, ht, _⟩
      simp only [hnamespace] at h
      cases hsource : source? behind with
      | some found =>
          simp only [hsource, Option.some.injEq, Prod.mk.injEq] at h
          rcases h with ⟨hclause, hspecifier, hrest⟩
          rcases source?_eq_some_iff.mp hsource with ⟨before, after, quoted, hquoted, hbehind⟩
          refine ⟨.renamed star, before, after, quoted, ?_, hquoted.trans hspecifier, ?_⟩
          · rw [← hclause, ← hstar]
            rfl
          · rw [ht, hbehind, hrest]
            simp [ExportGroup.spell]
      | none =>
          simp only [hsource, Option.bind_eq_bind, Option.bind_eq_some_iff, Option.pure_def,
            Option.some.injEq, Prod.mk.injEq] at h
          rcases h with ⟨start, hsplit, found, hspecifier?, hclause, hspecifier, hrest⟩
          rcases splitFrom?_eq_some_iff.mp hsplit with ⟨hne, hname⟩
          rcases specifier?_eq_some_iff.mp hspecifier? with ⟨quoted, hquoted, hspell⟩
          rcases exists_blanks_trimStart behind with ⟨after, hafter⟩
          have hpart : ∀ c ∈ start, c.isNamePart = true := by
            intro c hc
            apply star.name.isNamePart
            rw [hstar, hname]
            simp [hc]
          refine ⟨.renamed ⟨star.before, star.after, ⟨start, hne, hpart⟩⟩, ⟨[], by simp⟩, after,
            quoted, hclause, hquoted.trans hspecifier, ?_⟩
          rw [ht, hafter, hspell, hrest]
          simp [ExportGroup.spell, Star.spell, Origin.spell, spellFrom, hstar, hname]

theorem reexportBody?_sound {t rest : Text} {statement : Statement}
    (h : reexportBody? t = some (statement, rest)) :
    ∃ (group : ExportGroup) (before after : Blanks) (quoted : Quoted),
      (⟨.reexporting, group.clause.label, quoted.text⟩ : Statement) = statement ∧
        t = group.spell ++ (Origin.mk before (some after) quoted).spell ++ rest := by
  simp only [reexportBody?] at h
  cases hbraces : braces? t with
  | some found =>
      rcases found with ⟨names, behind⟩
      rcases braces?_eq_some_iff.mp hbraces with ⟨listing, hlisting, ht⟩
      simp only [hbraces, Option.bind_eq_bind, Option.bind_eq_some_iff, Option.pure_def,
        Option.some.injEq, Prod.mk.injEq] at h
      rcases h with ⟨found, hsource, hstatement, hrest⟩
      rcases source?_eq_some_iff.mp hsource with ⟨before, after, quoted, hquoted, hbehind⟩
      refine ⟨.listed listing, before, after, quoted, ?_, ?_⟩
      · rw [← hstatement, ← hlisting, hquoted]
        rfl
      · rw [ht, hbehind, hrest]
        simp [ExportGroup.spell]
  | none =>
      simp only [hbraces, Option.bind_eq_bind, Option.bind_eq_some_iff, Option.pure_def,
        Option.some.injEq, Prod.mk.injEq] at h
      rcases h with ⟨found, heverything, hstatement, hrest⟩
      rcases everything?_sound heverything with
        ⟨group, before, after, quoted, hclause, hquoted, ht⟩
      refine ⟨group, before, after, quoted, ?_, ?_⟩
      · rw [← hstatement, hclause, hquoted]
      · rw [ht, hrest]

theorem readReexport?_sound {t rest : Text} {statement : Statement}
    (h : readReexport? t = some (statement, rest)) :
    ∃ form : ReexportForm, t = form.spell ++ rest ∧ form.statement = statement := by
  simp only [readReexport?, Option.bind_eq_bind, Option.bind_eq_some_iff] at h
  rcases h with ⟨behindWord, hword, behind, hspaces, hbody⟩
  rcases spaces?_eq_some_iff.mp hspaces with ⟨afterKeyword, hbehindWord, _⟩
  rw [Text.after?_eq_some_iff] at hword
  cases htype : typeWord? behind with
  | none =>
      rw [htype, Option.getD_none] at hbody
      rcases reexportBody?_sound hbody with ⟨group, before, after, quoted, hstatement, hspell⟩
      refine ⟨⟨afterKeyword, none, group, before, after, quoted⟩, ?_, hstatement⟩
      simp [ReexportForm.spell, ReexportForm.origin, hword, hbehindWord, hspell]
  | some behindType =>
      rw [htype, Option.getD_some] at hbody
      rcases typeWord?_eq_some_iff.mp htype with ⟨afterType, hbehind, _⟩
      rcases reexportBody?_sound hbody with ⟨group, before, after, quoted, hstatement, hspell⟩
      refine ⟨⟨afterKeyword, some afterType, group, before, after, quoted⟩, ?_, hstatement⟩
      simp [ReexportForm.spell, ReexportForm.origin, hword, hbehindWord, hbehind, hspell]

end Statement

end ImportAtlas
