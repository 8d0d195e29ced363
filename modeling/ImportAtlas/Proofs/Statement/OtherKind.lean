import ImportAtlas.Proofs.Statement.Reading

/-!
# Statements hide no other keyword

The search for one kind of statements passes over the statements of the other kind.  Up to the
specifier their text does not contain the keyword: the text is followed from its end to its
beginning, and a keyword reaches neither over a character that belongs to no name nor over the end
of a name.  The specifier may contain it, but has no white space, without which no statement begins.
-/

namespace ImportAtlas

namespace Statement

namespace Written

/-- A text that hides no keyword, and none that begins in a name before it. -/
def IsClosed (kind : StatementKind) (t : Text) : Prop :=
  IsFreeOf kind t ∧ Text.stops CodePoint.isNamePart t = true

variable {kind : StatementKind} {rest : Text}

theorem isClosed_mark {c : CodePoint} (hc : c.isNamePart = false) (h : IsFreeOf kind rest) :
    IsClosed kind (c :: rest) := by
  constructor
  · have hgap : ∀ d ∈ [c], d.isNamePart = false := by
      intro d hd
      rw [List.mem_singleton.mp hd]
      exact hc
    exact isFreeOf_gap hgap h
  · simp [Text.stops, hc]

theorem isFreeOf_blanks (blanks : Blanks) (h : IsFreeOf kind rest) :
    IsFreeOf kind (blanks.text ++ rest) := by
  apply isFreeOf_gap _ h
  intro c hc
  exact CodePoint.isNamePart_eq_false_of_isBlank (blanks.isBlank c hc)

theorem isClosed_blanks (blanks : Blanks) (h : IsClosed kind rest) :
    IsClosed kind (blanks.text ++ rest) :=
  ⟨isFreeOf_blanks blanks h.left, blanks.stops_isNamePart h.right⟩

theorem isClosed_spaces (spaces : Spaces) (h : IsFreeOf kind rest) :
    IsClosed kind (spaces.text ++ rest) :=
  ⟨isFreeOf_blanks spaces.toBlanks h, spaces.stops_isNamePart rest⟩

theorem isFreeOf_as (h : IsClosed kind rest) : IsFreeOf kind ("as" ++ rest) :=
  isFreeOf_word (by cases kind <;> decide) h.right h.left

theorem isFreeOf_from (h : IsClosed kind rest) : IsFreeOf kind ("from" ++ rest) :=
  isFreeOf_word (by cases kind <;> decide) h.right h.left

theorem isFreeOf_type (h : IsClosed kind rest) : IsFreeOf kind ("type" ++ rest) :=
  isFreeOf_word (by cases kind <;> decide) h.right h.left

theorem isFreeOf_keyword {own : StatementKind} (hne : kind ≠ own) (h : IsClosed kind rest) :
    IsFreeOf kind (own.keyword ++ rest) := by
  refine isFreeOf_word ?_ h.right h.left
  cases kind with
  | importing =>
      cases own with
      | importing => exact absurd rfl hne
      | reexporting => decide
  | reexporting =>
      cases own with
      | importing => decide
      | reexporting => exact absurd rfl hne

theorem isFreeOf_identifier (name : Identifier) (h : IsClosed kind rest) :
    IsFreeOf kind (name.text ++ rest) :=
  isFreeOf_word (name.keywordFree kind) h.right h.left

theorem isFreeOf_typeWord (typeWord : Option Spaces) (h : IsFreeOf kind rest) :
    IsFreeOf kind (typeWord.elim [] spellType ++ rest) := by
  cases typeWord with
  | none => exact h
  | some after =>
      simp only [Option.elim_some, spellType, List.append_assoc]
      exact isFreeOf_type (isClosed_spaces after h)

theorem isClosed_newName (newName : NewName) (h : IsClosed kind rest) :
    IsClosed kind (newName.spell ++ rest) := by
  simp only [NewName.spell, List.append_assoc]
  apply isClosed_spaces
  apply isFreeOf_as
  apply isClosed_spaces
  exact isFreeOf_identifier newName.name h

theorem isFreeOf_default (binding : Default) (h : IsClosed kind rest) :
    IsFreeOf kind (binding.spell ++ rest) := by
  rcases binding with ⟨name, hne, renamed⟩
  simp only [Default.spell, List.append_assoc]
  apply isFreeOf_identifier
  cases renamed with
  | none => exact h
  | some newName => exact isClosed_newName newName h

theorem isFreeOf_item (item : Item) (h : IsClosed kind rest) :
    IsFreeOf kind (item.spell ++ rest) := by
  cases item with
  | plain name => exact isFreeOf_identifier name h
  | renamed name newName =>
      simp only [Item.spell, List.append_assoc]
      exact isFreeOf_identifier name (isClosed_newName newName h)
  | typed after name =>
      simp only [Item.spell, List.append_assoc]
      exact isFreeOf_type (isClosed_spaces after (isFreeOf_identifier name h))

theorem isFreeOf_entry (entry : Entry) (h : IsClosed kind rest) :
    IsFreeOf kind (entry.spell ++ rest) := by
  rcases entry with ⟨before, item, after⟩
  simp only [Entry.spell, List.append_assoc]
  apply isFreeOf_blanks
  have hafter := isClosed_blanks after h
  cases item with
  | none => exact hafter.left
  | some item => exact isFreeOf_item item hafter

theorem isFreeOf_listText (entries : List Entry) (h : IsClosed kind rest) :
    IsFreeOf kind (listText entries ++ rest) := by
  induction entries with
  | nil => exact h.left
  | cons entry entries ih =>
      cases entries with
      | nil => exact isFreeOf_entry entry h
      | cons next entries =>
          have hspell : listText (entry :: next :: entries) ++ rest =
              entry.spell ++ (CodePoint.ofChar ',' :: (listText (next :: entries) ++ rest)) := by
            simp [listText, Text.join, Text.ofString]
          rw [hspell]
          exact isFreeOf_entry entry (isClosed_mark rfl ih)

theorem isClosed_braces (entries : List Entry) (h : IsFreeOf kind rest) :
    IsClosed kind (("\x7b" ++ listText entries ++ "\x7d") ++ rest) := by
  simp only [List.append_assoc]
  exact isClosed_mark rfl (isFreeOf_listText entries (isClosed_mark rfl h))

theorem isClosed_everything (all : Everything) (h : IsClosed kind rest) :
    IsClosed kind (all.spell ++ rest) := by
  simp only [Everything.spell, List.append_assoc]
  apply isClosed_mark rfl
  apply isFreeOf_blanks
  exact isFreeOf_as (isClosed_spaces all.after (isFreeOf_identifier all.name h))

theorem isClosed_group (group : Group) (h : IsFreeOf kind rest)
    (hclosed : group.endsInName = true → IsClosed kind rest) :
    IsClosed kind (group.spell ++ rest) := by
  cases group with
  | listed entries => exact isClosed_braces entries h
  | everything all => exact isClosed_everything all (hclosed rfl)

theorem isFreeOf_bindings (bindings : Bindings) (h : IsFreeOf kind rest)
    (hclosed : bindings.endsInName = true → IsClosed kind rest) :
    IsFreeOf kind (bindings.spell ++ rest) := by
  cases bindings with
  | default binding => exact isFreeOf_default binding (hclosed rfl)
  | others group => exact (isClosed_group group h hclosed).left
  | both binding comma group =>
      simp only [Bindings.spell, Comma.spell, List.append_assoc]
      apply isFreeOf_default
      apply isClosed_blanks
      apply isClosed_mark rfl
      apply isFreeOf_blanks
      exact (isClosed_group group h hclosed).left

theorem isFreeOf_exports (bindings : Exports) (h : IsFreeOf kind rest)
    (hclosed : bindings.endsInName = true → IsClosed kind rest) :
    IsFreeOf kind (bindings.spell ++ rest) := by
  cases bindings with
  | listed entries => exact (isClosed_braces entries h).left
  | everything => exact (isClosed_mark rfl h).left
  | renamed all => exact (isClosed_everything all (hclosed rfl)).left

theorem isFreeOf_beforeFrom {beforeFrom : Blanks} (h : IsFreeOf kind rest) {endsInName : Bool}
    (hapart : endsInName = true → beforeFrom.text ≠ []) :
    IsFreeOf kind (beforeFrom.text ++ rest) ∧
      (endsInName = true → IsClosed kind (beforeFrom.text ++ rest)) := by
  constructor
  · exact isFreeOf_blanks beforeFrom h
  · intro hend
    exact isClosed_spaces ⟨beforeFrom, hapart hend⟩ h

theorem isFreeOf_lead {written : Written} (hne : kind ≠ written.kind) {mark : CodePoint}
    (hmark : mark.isNamePart = false) : IsFreeOf kind (written.lead ++ [mark]) := by
  have hend : IsClosed kind [mark] := isClosed_mark hmark (isFreeOf_nil kind)
  cases written with
  | sideEffect afterKeyword path =>
      simp only [lead, List.append_assoc]
      exact isFreeOf_keyword hne (isClosed_spaces afterKeyword hend.left)
  | importing afterKeyword typeWord bindings beforeFrom afterFrom hapart path =>
      have hfrom := isFreeOf_beforeFrom (isFreeOf_from (isClosed_blanks afterFrom hend)) hapart
      simp only [lead, List.append_assoc]
      apply isFreeOf_keyword hne
      apply isClosed_spaces
      apply isFreeOf_typeWord
      exact isFreeOf_bindings bindings hfrom.left hfrom.right
  | reexporting afterKeyword typeWord bindings beforeFrom afterFrom hapart path =>
      have hfrom := isFreeOf_beforeFrom (isFreeOf_from (isClosed_blanks afterFrom hend)) hapart
      simp only [lead, List.append_assoc]
      apply isFreeOf_keyword hne
      apply isClosed_spaces
      apply isFreeOf_typeWord
      exact isFreeOf_exports bindings hfrom.left hfrom.right

theorem QuoteStyle.isNamePart_mark (style : QuoteStyle) : style.mark.isNamePart = false := by
  cases style <;> rfl

theorem QuoteStyle.isWord_mark (style : QuoteStyle) : style.mark.isWord = false := by
  cases style <;> rfl

theorem QuoteStyle.isBlank_mark (style : QuoteStyle) : style.mark.isBlank = false := by
  cases style <;> rfl

theorem endsInWord_spell (written : Written) : endsInWord written.spell = false := by
  have hspell : written.spell =
      (written.lead ++ written.path.style.mark :: written.path.text) ++
        [written.path.style.mark] := by
    simp [spell, ModuleName.spell]
  rw [hspell, endsInWord_append_singleton]
  exact written.path.style.isWord_mark

theorem spell_ne_nil (written : Written) : written.spell ≠ [] := by
  simp [spell, ModuleName.spell]

theorem occurrencesFrom_otherKind {written : Written} (hne : kind ≠ written.kind)
    (before rest : Text) :
    occurrencesFrom kind.read? 0 (endsInWord before) before.length (written.spell ++ rest) =
      occurrencesFrom kind.read? 0 (endsInWord (before ++ written.spell))
        (before ++ written.spell).length rest := by
  have hspell : written.spell = (written.lead ++ [written.path.style.mark]) ++
      (written.path.text ++ [written.path.style.mark]) := by
    simp [spell, ModuleName.spell]
  have hlead : IsSilent kind (written.lead ++ [written.path.style.mark])
      ((written.path.text ++ [written.path.style.mark]) ++ rest) := by
    apply isSilent_of_isFreeOf (isFreeOf_lead hne written.path.style.isNamePart_mark)
    rw [endsInWord_append_singleton]
    exact written.path.style.isWord_mark
  have hpath : IsSilent kind (written.path.text ++ [written.path.style.mark]) rest := by
    apply isSilent_of_unspaced
    · intro c hc
      rcases List.mem_append.mp hc with hc | hc
      · exact written.path.unspaced c hc
      · rw [List.mem_singleton.mp hc]
        exact written.path.style.isBlank_mark
    · rw [endsInWord_append_singleton]
      exact written.path.style.isWord_mark
  rw [hspell, List.append_assoc, occurrencesFrom_silent hlead, occurrencesFrom_silent hpath,
    List.append_assoc before]

end Written

end Statement

end ImportAtlas
