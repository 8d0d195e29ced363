import ImportAtlas.Proofs.Statement.Soundness

/-!
# What has a form is read

A text that begins with a form is read as a statement.  The reader need not find the form that is
given: it takes a name as long as it gets, and white space with what stands before it.  What it
leaves behind each part is again of the shape that the remaining parts have, with `from` perhaps
swallowed by a name and white space perhaps gone.  That shape is what carries the proofs.
-/

namespace ImportAtlas

namespace Statement

/-!
## The end of a statement
-/

theorem Origin.stops (origin : Origin) {p : CodePoint → Bool}
    (hblank : ∀ c, c.isBlank = true → p c = false) (hfrom : p (CodePoint.ofChar 'f') = false)
    (hdouble : p (CodePoint.ofChar '"') = false) (hsingle : p (CodePoint.ofChar '\'') = false)
    (rest : Text) : Text.stops p (origin.spell ++ rest) = true := by
  rcases origin with ⟨before, fromWord, quoted⟩
  have hbefore : Text.stops p before.text = true :=
    Text.stops_of_forall_mem fun c hc => hblank c (before.isBlank c hc)
  simp only [Origin.spell, List.append_assoc]
  apply Text.stops_append hbefore
  cases fromWord with
  | none => exact quoted.stops hdouble hsingle rest
  | some after =>
      show (!p (CodePoint.ofChar 'f')) = true
      simp [hfrom]

def Origin.trimmed (origin : Origin) : Origin := { origin with before := ⟨[], by simp⟩ }

theorem Origin.trimStart_spell (origin : Origin) (rest : Text) :
    Text.trimStart (origin.spell ++ rest) = origin.trimmed.spell ++ rest := by
  rcases origin with ⟨before, fromWord, quoted⟩
  simp only [Origin.spell, Origin.trimmed, List.append_assoc, List.nil_append,
    Text.trimStart_append before.isBlank]
  cases fromWord with
  | none => exact quoted.trimStart_spell rest
  | some after => rfl

theorem isBlank_ne {c d : CodePoint} (hd : d.isBlank = false) (hc : c.isBlank = true) :
    decide (c = d) = false := by
  rw [decide_eq_false_iff_not]
  intro h
  rw [h, hd] at hc
  cases hc

theorem Origin.after?_trimStart_eq_none (origin : Origin) (rest : Text) {word : Text}
    {c : CodePoint} (hword : word.head? = some c) (hfrom : CodePoint.ofChar 'f' ≠ c)
    (hdouble : CodePoint.ofChar '"' ≠ c) (hsingle : CodePoint.ofChar '\'' ≠ c)
    (hblank : c.isBlank = false) :
    Text.after? word (Text.trimStart (origin.spell ++ rest)) = none := by
  rw [origin.trimStart_spell]
  exact Text.after?_eq_none_of_stops hword
    (origin.trimmed.stops (fun _ hc => isBlank_ne hblank hc) (by simp [hfrom]) (by simp [hdouble])
      (by simp [hsingle]) rest)

/-- A name with `from` glued to it. -/
def Name.withFrom (name : Name) : Name where
  text := name.text ++ "from"
  nonempty := by simp [name.nonempty]
  isNamePart := by
    intro c hc
    rcases List.mem_append.mp hc with hc | hc
    · exact name.isNamePart c hc
    · exact List.all_eq_true.mp (by rfl : (Text.ofString "from").all _ = true) c hc

/-- A name takes all of itself, or itself and the `from` that is glued to it. -/
theorem name?_origin (name : Name) (origin : Origin) (rest : Text) :
    ∃ (longer : Text) (behind : Origin),
      name? (name.text ++ (origin.spell ++ rest)) = some (longer, behind.spell ++ rest) := by
  rcases origin with ⟨⟨before, hbefore⟩, fromWord, quoted⟩
  have hquoted : Text.stops CodePoint.isNamePart (quoted.spell ++ rest) = true :=
    quoted.stops rfl rfl rest
  cases before with
  | cons c before =>
      refine ⟨name.text, ⟨⟨c :: before, hbefore⟩, fromWord, quoted⟩, name?_append name ?_⟩
      have hc := CodePoint.isNamePart_eq_false_of_isBlank (hbefore c (by simp))
      simp [Origin.spell, hc]
  | nil =>
      cases fromWord with
      | none =>
          refine ⟨name.text, ⟨⟨[], hbefore⟩, none, quoted⟩, name?_append name ?_⟩
          simpa [Origin.spell] using hquoted
      | some after =>
          have hread := name?_append name.withFrom (after.stops_isNamePart hquoted)
          refine ⟨name.withFrom.text, ⟨after, none, quoted⟩, ?_⟩
          simpa [Origin.spell, spellFrom, Name.withFrom] using hread

/-!
## The group of an import
-/

def groupText (group : Option Group) (origin : Origin) : Text :=
  group.elim [] Group.spell ++ origin.spell

theorem braces?_origin (origin : Origin) (rest : Text) :
    braces? (origin.spell ++ rest) = none := by
  have hopen : Text.after? "\x7b" (origin.spell ++ rest) = none :=
    Text.after?_eq_none_of_stops rfl
      (origin.stops (fun _ hc => isBlank_ne rfl hc) rfl rfl rfl rest)
  simp [braces?, hopen]

theorem namespace?_origin (origin : Origin) (rest : Text) :
    Statement.namespace? (origin.spell ++ rest) = none := by
  have hstar : Text.after? "*" (origin.spell ++ rest) = none :=
    Text.after?_eq_none_of_stops rfl
      (origin.stops (fun _ hc => isBlank_ne rfl hc) rfl rfl rfl rest)
  simp [Statement.namespace?, hstar]

theorem braces?_star (star : Star) (rest : Text) : braces? (star.spell ++ rest) = none := rfl

theorem readGroup_behind (clause : ImportClause) (group : Option Group) (origin : Origin)
    (rest : Text) :
    ∃ behind : Origin,
      (readGroup clause (groupText group origin ++ rest)).2 = behind.spell ++ rest := by
  rcases group with _ | listing | star
  · refine ⟨origin, ?_⟩
    simp [groupText, readGroup, braces?_origin, namespace?_origin]
  · refine ⟨origin, ?_⟩
    simp [groupText, Group.spell, readGroup, braces?_append]
  · rcases name?_origin star.name origin rest with ⟨longer, behind, hname⟩
    refine ⟨behind, ?_⟩
    simp [groupText, Group.spell, readGroup, braces?_star, namespace?_spell, hname]

theorem trimStart_groupText (group : Option Group) (origin : Origin) (rest : Text) :
    ∃ behind : Origin,
      Text.trimStart (groupText group origin ++ rest) = groupText group behind ++ rest := by
  rcases group with _ | listing | star
  · refine ⟨origin.trimmed, ?_⟩
    simpa [groupText] using origin.trimStart_spell rest
  · exact ⟨origin, rfl⟩
  · exact ⟨origin, rfl⟩

theorem after?_groupText_eq_none (group : Option Group) (origin : Origin) (rest : Text)
    {word : Text} {c : CodePoint} (hword : word.head? = some c)
    (hplain : c ∉ (Text.ofString "f\"'\x7b*")) (hblank : c.isBlank = false) :
    Text.after? word (Text.trimStart (groupText group origin ++ rest)) = none := by
  have hne : CodePoint.ofChar 'f' ≠ c ∧ CodePoint.ofChar '"' ≠ c ∧ CodePoint.ofChar '\'' ≠ c ∧
      CodePoint.ofChar '\x7b' ≠ c ∧ CodePoint.ofChar '*' ≠ c := by
    refine ⟨?_, ?_, ?_, ?_, ?_⟩ <;> rintro rfl <;> exact hplain (by decide)
  rcases hne with ⟨hfrom, hdouble, hsingle, hbrace, hstar⟩
  rcases group with _ | listing | star
  · simpa [groupText] using
      origin.after?_trimStart_eq_none rest hword hfrom hdouble hsingle hblank
  · apply Text.after?_eq_none_of_stops hword
    show (!decide (CodePoint.ofChar '\x7b' = c)) = true
    simp [hbrace]
  · apply Text.after?_eq_none_of_stops hword
    show (!decide (CodePoint.ofChar '*' = c)) = true
    simp [hstar]

/-!
## The default binding of an import
-/

def commaText (comma : Option Comma) (group : Option Group) (origin : Origin) : Text :=
  comma.elim [] Comma.spell ++ groupText group origin

theorem Binding.spell_append (name : Name) (renamed : Option Renaming) (comma : Option Comma)
    (group : Option Group) (origin : Origin) (rest : Text) :
    (Binding.mk name renamed comma).spell ++ (groupText group origin ++ rest) =
      name.text ++ (renamed.elim [] Renaming.spell ++ (commaText comma group origin ++ rest)) := by
  simp [Binding.spell, commaText]

theorem ImportBody.spell_append (binding : Option Binding) (group : Option Group)
    (origin : Origin) (rest : Text) :
    (ImportBody.mk binding group origin).spell ++ rest =
      binding.elim [] Binding.spell ++ (groupText group origin ++ rest) := by
  simp [ImportBody.spell, groupText]

theorem Renaming.stops_isNamePart (renamed : Renaming) (rest : Text) :
    Text.stops CodePoint.isNamePart (renamed.spell ++ rest) = true := by
  simp only [Renaming.spell, List.append_assoc]
  exact renamed.before.stops_isNamePart _

theorem name?_commaText (name : Name) (comma : Option Comma) (group : Option Group)
    (origin : Origin) (rest : Text) :
    ∃ (longer : Text) (behind : Origin),
      name? (name.text ++ (commaText comma group origin ++ rest)) =
        some (longer, commaText comma group behind ++ rest) := by
  cases comma with
  | some comma =>
      refine ⟨name.text, origin, name?_append name ?_⟩
      simp only [commaText, Option.elim_some, Comma.spell, List.append_assoc]
      exact comma.before.stops_isNamePart rfl
  | none =>
      rcases group with _ | listing | star
      · exact name?_origin name origin rest
      · exact ⟨name.text, origin, name?_append name rfl⟩
      · exact ⟨name.text, origin, name?_append name rfl⟩

theorem renaming?_commaText (comma : Option Comma) (group : Option Group) (origin : Origin)
    (rest : Text) : renaming? (commaText comma group origin ++ rest) = none := by
  apply renaming?_eq_none
  cases comma with
  | some comma =>
      simp only [commaText, Option.elim_some, Comma.spell, List.append_assoc,
        Text.trimStart_append comma.before.isBlank]
      rfl
  | none => exact after?_groupText_eq_none group origin rest rfl (by decide) rfl

theorem skipComma_commaText (comma : Option Comma) (group : Option Group) (origin : Origin)
    (rest : Text) :
    ∃ behind : Origin,
      skipComma (commaText comma group origin ++ rest) = groupText group behind ++ rest := by
  cases comma with
  | some comma =>
      simp only [commaText, Option.elim_some, List.append_assoc, skipComma_append]
      exact trimStart_groupText group origin rest
  | none =>
      exact ⟨origin, skipComma_of_none
        (after?_groupText_eq_none group origin rest rfl (by decide) rfl)⟩

theorem readBinding_of_binding (binding : Binding) (group : Option Group) (origin : Origin)
    (rest : Text) :
    ∃ behind : Origin,
      (readBinding (binding.spell ++ (groupText group origin ++ rest))).2 =
        groupText group behind ++ rest := by
  rcases binding with ⟨name, renamed, comma⟩
  rw [Binding.spell_append]
  cases renamed with
  | none =>
      rcases name?_commaText name comma group origin rest with ⟨longer, behind, hname⟩
      rcases skipComma_commaText comma group behind rest with ⟨behind', hskip⟩
      refine ⟨behind', ?_⟩
      simp [readBinding, hname, renaming?_commaText, hskip]
  | some renamed =>
      have hstop := renamed.stops_isNamePart (commaText comma group origin ++ rest)
      rcases name?_commaText renamed.name comma group origin rest with ⟨longer, behind, hname⟩
      rcases skipComma_commaText comma group behind rest with ⟨behind', hskip⟩
      refine ⟨behind', ?_⟩
      simp [readBinding, name?_append name hstop, renaming?_spell, hname, hskip]

theorem readBinding_of_none (group : Option Group) (origin : Origin) (rest : Text)
    (hbefore : origin.before.text = []) :
    ∃ behind : Origin,
      (readBinding (groupText group origin ++ rest)).2 = groupText group behind ++ rest := by
  rcases group with _ | listing | star
  · rcases origin with ⟨before, fromWord, quoted⟩
    have hquoted : Text.stops CodePoint.isNamePart (quoted.spell ++ rest) = true :=
      quoted.stops rfl rfl rest
    simp only at hbefore
    cases fromWord with
    | none =>
        refine ⟨⟨before, none, quoted⟩, ?_⟩
        simp [groupText, Origin.spell, hbefore, readBinding, name?_eq_none_of_stops hquoted]
    | some after =>
        have hname := name?_append ⟨"from", by decide, by decide⟩ (after.stops_isNamePart hquoted)
        have hbehind := renaming?_commaText none none ⟨after, none, quoted⟩ rest
        rcases skipComma_commaText none none ⟨after, none, quoted⟩ rest with ⟨behind, hskip⟩
        refine ⟨behind, ?_⟩
        simp only [commaText, groupText, Origin.spell, Option.elim_none, List.nil_append,
          List.append_nil, List.append_assoc] at hbehind hskip
        simp only [groupText, Origin.spell, hbefore, spellFrom, Option.elim_none, Option.elim_some,
          List.nil_append, List.append_assoc, readBinding, hname, hbehind]
        exact hskip
  · exact ⟨origin, rfl⟩
  · exact ⟨origin, rfl⟩

theorem importBody?_complete (body : ImportBody) (rest : Text) :
    (importBody? (Text.trimStart (body.spell ++ rest))).isSome = true := by
  rcases body with ⟨binding, group, origin⟩
  have hbinding : ∃ behind : Origin,
      (readBinding (Text.trimStart ((ImportBody.mk binding group origin).spell ++ rest))).2 =
        groupText group behind ++ rest := by
    rw [ImportBody.spell_append]
    cases binding with
    | some binding =>
        have hstop : Text.stops CodePoint.isBlank
            (binding.spell ++ (groupText group origin ++ rest)) = true := by
          simp only [Binding.spell, List.append_assoc]
          exact binding.name.stops_isBlank _
        rw [Option.elim_some, Text.trimStart_of_stops hstop]
        exact readBinding_of_binding binding group origin rest
    | none =>
        rw [Option.elim_none, List.nil_append]
        rcases group with _ | listing | star
        · have htrim := origin.trimStart_spell rest
          rcases readBinding_of_none none origin.trimmed rest rfl with ⟨behind, hread⟩
          refine ⟨behind, ?_⟩
          simpa [groupText, htrim] using hread
        · exact ⟨origin, rfl⟩
        · exact ⟨origin, rfl⟩
  rcases hbinding with ⟨behind, hread⟩
  rcases readGroup_behind
    (readBinding (Text.trimStart ((ImportBody.mk binding group origin).spell ++ rest))).1
    group behind rest with ⟨last, hgroup⟩
  simp only [importBody?]
  rw [hread, hgroup, sourceOrSpecifier?_append]
  rfl

theorem ImportForm.spell_append (afterKeyword : Spaces) (typeWord : Option Spaces)
    (body : ImportBody) (rest : Text) :
    (ImportForm.mk afterKeyword typeWord body).spell ++ rest =
      "import" ++ (afterKeyword.text ++
        (typeWord.elim [] spellType ++ (body.spell ++ rest))) := by
  simp [ImportForm.spell]

theorem readImport?_complete (form : ImportForm) (rest : Text) :
    (readImport? (form.spell ++ rest)).isSome = true := by
  rcases form with ⟨afterKeyword, typeWord, body⟩
  simp only [ImportForm.spell_append, readImport?, Text.after?_append, Option.bind_eq_bind,
    Option.bind_some, spaces?_append]
  cases typeWord with
  | none =>
      simp [importBody?_complete]
  | some after =>
      have htype : Text.trimStart (spellType after ++ (body.spell ++ rest)) =
          "type" ++ (after.text ++ (body.spell ++ rest)) := rfl
      have hword : typeWord? ("type" ++ (after.text ++ (body.spell ++ rest))) =
          some (Text.trimStart (body.spell ++ rest)) := by
        simp only [typeWord?, Text.after?_append, Option.bind_eq_bind, Option.bind_some,
          spaces?_append]
      simp [htype, hword, importBody?_complete]

/-!
## Re-exports
-/

theorem typeWord?_group (group : ExportGroup) (rest : Text) :
    typeWord? (group.spell ++ rest) = none := by
  cases group <;> rfl

theorem trimStart_group (group : ExportGroup) (rest : Text) :
    Text.trimStart (group.spell ++ rest) = group.spell ++ rest := by
  cases group <;> rfl

/-- Behind a star, a name either ends where `from` begins or has swallowed it. -/
theorem everything?_star (star : Star) (before after : Blanks) (quoted : Quoted) (rest : Text) :
    (everything? (star.spell ++
      ((Origin.mk before (some after) quoted).spell ++ rest))).isSome = true := by
  rcases before with ⟨before, hbefore⟩
  have hquoted : Text.stops CodePoint.isNamePart (quoted.spell ++ rest) = true :=
    quoted.stops rfl rfl rest
  cases before with
  | cons c before =>
      have hc := CodePoint.isNamePart_eq_false_of_isBlank (hbefore c (by simp))
      have hstop : Text.stops CodePoint.isNamePart
          ((Origin.mk ⟨c :: before, hbefore⟩ (some after) quoted).spell ++ rest) = true := by
        simp [Origin.spell, hc]
      have hname := name?_append star.name hstop
      simp [everything?, namespace?_spell, hname, source?_append]
  | nil =>
      have hname := name?_append star.name.withFrom (after.stops_isNamePart hquoted)
      have htrim : Text.trimStart (after.text ++ (quoted.spell ++ rest)) =
          quoted.spell ++ rest := by
        rw [Text.trimStart_append after.isBlank, quoted.trimStart_spell]
      have hsource : source? (after.text ++ (quoted.spell ++ rest)) = none := by
        apply source?_eq_none
        rw [htrim]
        exact Text.after?_eq_none_of_stops rfl (quoted.stops rfl rfl rest)
      have hsplit : splitFrom? star.name.withFrom.text = some star.name.text :=
        splitFrom?_eq_some_iff.mpr ⟨star.name.nonempty, rfl⟩
      have hspell : star.name.text ++
          ((Origin.mk ⟨[], hbefore⟩ (some after) quoted).spell ++ rest) =
            star.name.withFrom.text ++ (after.text ++ (quoted.spell ++ rest)) := by
        simp [Origin.spell, spellFrom, Name.withFrom]
      simp [everything?, namespace?_spell, hspell, hname, hsource, hsplit, htrim,
        specifier?_append]

theorem everything?_bare (before after : Blanks) (quoted : Quoted) (rest : Text) :
    (everything? ("*" ++
      ((Origin.mk before (some after) quoted).spell ++ rest))).isSome = true := by
  have has : Text.after? "as"
      (Text.trimStart ((Origin.mk before (some after) quoted).spell ++ rest)) = none :=
    Origin.after?_trimStart_eq_none _ rest rfl (by decide) (by decide) (by decide) rfl
  simp [everything?, Statement.namespace?, Text.after?_append, has, source?_append]

theorem reexportBody?_complete (group : ExportGroup) (before after : Blanks) (quoted : Quoted)
    (rest : Text) :
    (reexportBody? (group.spell ++
      ((Origin.mk before (some after) quoted).spell ++ rest))).isSome = true := by
  cases group with
  | listed listing =>
      simp [reexportBody?, ExportGroup.spell, braces?_append, source?_append]
  | everything =>
      have hbraces : braces? ("*" ++ ((Origin.mk before (some after) quoted).spell ++ rest)) =
          none := rfl
      rcases Option.isSome_iff_exists.mp (everything?_bare before after quoted rest) with
        ⟨found, hfound⟩
      simp [reexportBody?, ExportGroup.spell, hbraces, hfound]
  | renamed star =>
      rcases Option.isSome_iff_exists.mp (everything?_star star before after quoted rest) with
        ⟨found, hfound⟩
      simp [reexportBody?, ExportGroup.spell, braces?_star, hfound]

theorem readReexport?_spell (form : ReexportForm) (rest : Text) :
    readReexport? (form.spell ++ rest) =
      reexportBody? (form.group.spell ++ (form.origin.spell ++ rest)) := by
  rcases form with ⟨afterKeyword, typeWord, group, before, after, quoted⟩
  let body := group.spell ++ ((Origin.mk before (some after) quoted).spell ++ rest)
  have hspell : (ReexportForm.mk afterKeyword typeWord group before after quoted).spell ++ rest =
      "export" ++ (afterKeyword.text ++ (typeWord.elim [] spellType ++ body)) := by
    simp [body, ReexportForm.spell, ReexportForm.origin]
  have hstart : (typeWord? (Text.trimStart (typeWord.elim [] spellType ++ body))).getD
      (Text.trimStart (typeWord.elim [] spellType ++ body)) = body := by
    cases typeWord with
    | none =>
        rw [Option.elim_none, List.nil_append, trimStart_group, typeWord?_group, Option.getD_none]
    | some afterType =>
        have hword : typeWord? (spellType afterType ++ body) = some body := by
          apply typeWord?_eq_some_iff.mpr
          refine ⟨afterType, rfl, ?_⟩
          cases group <;> rfl
        show (typeWord? (spellType afterType ++ body)).getD _ = body
        rw [hword, Option.getD_some]
  simp only [hspell, readReexport?, Text.after?_append, Option.bind_eq_bind, Option.bind_some,
    spaces?_append, hstart]
  rfl

theorem readReexport?_complete (form : ReexportForm) (rest : Text) :
    (readReexport? (form.spell ++ rest)).isSome = true := by
  rw [readReexport?_spell]
  exact reexportBody?_complete form.group form.beforeFrom form.afterFrom form.quoted rest

end Statement

end ImportAtlas
