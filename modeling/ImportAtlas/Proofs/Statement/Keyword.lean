import ImportAtlas.Proofs.Statement.Leftmost

/-!
# Text without statements

The search passes over text in which no statement begins.  A statement begins with its keyword and
white space.  So nothing is read in a text that does not contain the keyword, nor in a text without
white space, provided that such a text does not end in a word: otherwise its end and what follows
might make up a keyword together.
-/

namespace ImportAtlas

namespace StatementKind

def keyword : StatementKind → Text
  | .importing => "import"
  | .reexporting => "export"

def read? : StatementKind → Text → Option (Statement × Text)
  | .importing => Statement.readImport?
  | .reexporting => Statement.readReexport?

theorem isWord_of_mem_keyword {kind : StatementKind} {c : CodePoint} (hc : c ∈ kind.keyword) :
    c.isWord = true := by
  cases kind with
  | importing => exact List.all_eq_true.mp (by rfl : (Text.ofString "import").all _ = true) c hc
  | reexporting => exact List.all_eq_true.mp (by rfl : (Text.ofString "export").all _ = true) c hc

theorem keyword_ne_nil (kind : StatementKind) : kind.keyword ≠ [] := by
  cases kind <;> decide

theorem exists_of_read? {kind : StatementKind} {t : Text} (h : kind.read? t ≠ none) :
    ∃ (spaces : Statement.Spaces) (rest : Text), t = kind.keyword ++ (spaces.text ++ rest) := by
  rcases Option.ne_none_iff_exists'.mp h with ⟨⟨statement, rest⟩, hread⟩
  cases kind with
  | importing =>
      rcases Statement.readImport?_sound hread with ⟨form, ht, _⟩
      refine ⟨form.afterKeyword, form.typeWord.elim [] Statement.spellType ++
        (form.body.spell ++ rest), ?_⟩
      simp [ht, Statement.ImportForm.spell, keyword]
  | reexporting =>
      rcases Statement.readReexport?_sound hread with ⟨form, ht, _⟩
      refine ⟨form.afterKeyword, form.typeWord.elim [] Statement.spellType ++
        (form.group.spell ++ (form.origin.spell ++ rest)), ?_⟩
      simp [ht, Statement.ReexportForm.spell, keyword]

end StatementKind

namespace Statement

/-!
## Texts without a keyword
-/

def IsFreeOf (kind : StatementKind) (t : Text) : Prop := ¬ kind.keyword <:+: t

instance (kind : StatementKind) (t : Text) : Decidable (IsFreeOf kind t) :=
  inferInstanceAs (Decidable (¬ kind.keyword <:+: t))

theorem isFreeOf_nil (kind : StatementKind) : IsFreeOf kind [] := by
  intro h
  exact kind.keyword_ne_nil (List.infix_nil.mp h)

theorem isFreeOf_gap {kind : StatementKind} {gap rest : Text}
    (hgap : ∀ c ∈ gap, c.isNamePart = false) (hrest : IsFreeOf kind rest) :
    IsFreeOf kind (gap ++ rest) := by
  induction gap with
  | nil => exact hrest
  | cons c gap ih =>
      intro h
      rw [List.cons_append, List.infix_cons_iff] at h
      rcases h with hhead | htail
      · cases hkeyword : kind.keyword with
        | nil => exact kind.keyword_ne_nil hkeyword
        | cons d keyword =>
            have hmem : d ∈ kind.keyword := by simp [hkeyword]
            have hd : d.isWord = true := StatementKind.isWord_of_mem_keyword hmem
            rw [hkeyword, List.cons_prefix_cons] at hhead
            have hc := hgap c (by simp)
            rw [← hhead.left, CodePoint.isNamePart_of_isWord hd] at hc
            cases hc
      · exact ih (fun d hd => hgap d (by simp [hd])) htail

theorem prefix_of_prefix_append {kind : StatementKind} {word rest : Text}
    (hrest : Text.stops CodePoint.isNamePart rest = true)
    (h : kind.keyword <+: word ++ rest) : kind.keyword <+: word := by
  rcases List.prefix_or_prefix_of_prefix h (List.prefix_append word rest) with hshort | hlong
  · exact hshort
  · rcases hlong with ⟨more, hkeyword⟩
    cases more with
    | nil =>
        have hword : kind.keyword = word := by rw [← hkeyword, List.append_nil]
        exact hword ▸ List.prefix_refl kind.keyword
    | cons d more =>
        have hmem : d ∈ kind.keyword := by simp [← hkeyword]
        have hd : d.isWord = true := StatementKind.isWord_of_mem_keyword hmem
        rw [← hkeyword, List.prefix_append_right_inj] at h
        rcases h with ⟨last, hlast⟩
        rw [← hlast] at hrest
        have hd' := CodePoint.isNamePart_of_isWord hd
        simp [hd'] at hrest

theorem isFreeOf_word {kind : StatementKind} {word rest : Text} (hword : IsFreeOf kind word)
    (hstop : Text.stops CodePoint.isNamePart rest = true) (hrest : IsFreeOf kind rest) :
    IsFreeOf kind (word ++ rest) := by
  induction word with
  | nil => exact hrest
  | cons c word ih =>
      intro h
      rw [List.cons_append, List.infix_cons_iff] at h
      rcases h with hhead | htail
      · exact hword (prefix_of_prefix_append hstop hhead).isInfix
      · exact ih (fun hinfix => hword (List.infix_cons_iff.mpr (Or.inr hinfix))) htail

/-!
## Silent texts
-/

/-- Nothing is read anywhere in a text, whatever of `rest` is needed to see that. -/
def IsSilent (kind : StatementKind) (t rest : Text) : Prop :=
  ∀ before after, t = before ++ after → after ≠ [] → kind.read? (after ++ rest) = none

theorem isWord_getLast_of_endsInWord {before after : Text} (hne : after ≠ [])
    (h : endsInWord (before ++ after) = false) : (after.getLast hne).isWord = false := by
  simpa [endsInWord, List.getLast?_append, List.getLast?_eq_some_getLast hne] using h

/-- Where a keyword and white space begin in a text that does not end in a word, the text holds the
whole keyword and at least one character behind it. -/
theorem exists_of_keyword {kind : StatementKind} {before after rest : Text} {spaces : Spaces}
    {tail : Text} (hne : after ≠ []) (hend : endsInWord (before ++ after) = false)
    (h : after ++ rest = kind.keyword ++ (spaces.text ++ tail)) :
    ∃ c more, c.isBlank = true ∧ after = kind.keyword ++ c :: more := by
  have hlast := isWord_getLast_of_endsInWord hne hend
  have hnot : ∀ more, after ++ more ≠ kind.keyword := by
    intro more hmore
    have hmem : after.getLast hne ∈ kind.keyword := by
      rw [← hmore]
      exact List.mem_append_left _ (List.getLast_mem hne)
    rw [StatementKind.isWord_of_mem_keyword hmem] at hlast
    cases hlast
  rcases List.append_eq_append_iff.mp h with ⟨more, hkeyword, _⟩ | ⟨more, hafter, hspaces⟩
  · exact (hnot more hkeyword.symm).elim
  · cases more with
    | nil => exact (hnot [] (by simp [hafter])).elim
    | cons c more =>
        refine ⟨c, more, ?_, hafter⟩
        rcases spaces with ⟨⟨text, hblank⟩, hspacesNe⟩
        cases text with
        | nil => exact absurd rfl hspacesNe
        | cons d text =>
            simp only [List.cons_append, List.cons.injEq] at hspaces
            rw [← hspaces.left]
            exact hblank d (by simp)

theorem isSilent_of_isFreeOf {kind : StatementKind} {t : Text} (hfree : IsFreeOf kind t)
    (hend : endsInWord t = false) (rest : Text) : IsSilent kind t rest := by
  intro before after ht hne
  apply Classical.byContradiction
  intro hread
  rcases StatementKind.exists_of_read? hread with ⟨spaces, tail, hkeyword⟩
  rw [ht] at hend
  rcases exists_of_keyword hne hend hkeyword with ⟨c, more, _, hafter⟩
  apply hfree
  refine ⟨before, c :: more, ?_⟩
  rw [ht, hafter, List.append_assoc]

/-- At the end of the whole text there is nothing that a word could go on with. -/
theorem isSilent_of_isFreeOf_nil {kind : StatementKind} {t : Text} (hfree : IsFreeOf kind t) :
    IsSilent kind t [] := by
  intro before after ht hne
  apply Classical.byContradiction
  intro hread
  rcases StatementKind.exists_of_read? hread with ⟨spaces, tail, hkeyword⟩
  apply hfree
  refine ⟨before, spaces.text ++ tail, ?_⟩
  rw [List.append_nil] at hkeyword
  rw [ht, hkeyword, List.append_assoc]

theorem isSilent_of_unspaced {kind : StatementKind} {t : Text}
    (hunspaced : ∀ c ∈ t, c.isBlank = false) (hend : endsInWord t = false) (rest : Text) :
    IsSilent kind t rest := by
  intro before after ht hne
  apply Classical.byContradiction
  intro hread
  rcases StatementKind.exists_of_read? hread with ⟨spaces, tail, hkeyword⟩
  rw [ht] at hend
  rcases exists_of_keyword hne hend hkeyword with ⟨c, more, hblank, hafter⟩
  have hc := hunspaced c (by simp [ht, hafter])
  rw [hblank] at hc
  cases hc

/-!
## The search over silent texts and over statements
-/

theorem endsInWord_append {before t : Text} (hbefore : endsInWord before = false)
    (ht : endsInWord t = false) : endsInWord (before ++ t) = false := by
  cases hlast : t.getLast? with
  | none =>
      rw [List.getLast?_eq_none_iff] at hlast
      simpa [hlast] using hbefore
  | some c =>
      have hc : c.isWord = false := by simpa [endsInWord, hlast] using ht
      simp [endsInWord, List.getLast?_append, hlast, hc]

theorem occurrencesFrom_silent {kind : StatementKind} {t rest : Text}
    (h : IsSilent kind t rest) (before : Text) :
    occurrencesFrom kind.read? 0 (endsInWord before) before.length (t ++ rest) =
      occurrencesFrom kind.read? 0 (endsInWord (before ++ t)) (before ++ t).length rest := by
  induction t generalizing before with
  | nil => simp
  | cons c t ih =>
      have htail : IsSilent kind t rest := by
        intro start after ht hne
        exact h (c :: start) after (by simp [ht]) hne
      have hread : kind.read? (c :: (t ++ rest)) = none := h [] (c :: t) rfl (by simp)
      have hstep := ih htail (before ++ [c])
      simp only [endsInWord_append_singleton, List.length_append, List.length_cons,
        List.length_nil, List.append_assoc, List.singleton_append] at hstep
      simp [occurrencesFrom, hread, hstep]

theorem occurrencesFrom_skip {α : Type} (read? : Text → Option (α × Text)) (before t rest : Text)
    (word : Bool) (hword : t = [] → word = endsInWord before) :
    occurrencesFrom read? t.length word before.length (t ++ rest) =
      occurrencesFrom read? 0 (endsInWord (before ++ t)) (before ++ t).length rest := by
  induction t generalizing before word with
  | nil => simp [hword rfl]
  | cons c t ih =>
      have hstep := ih (before ++ [c]) c.isWord (fun _ => by simp)
      simp only [List.length_append, List.length_cons, List.length_nil, List.append_assoc,
        List.singleton_append] at hstep
      simp [occurrencesFrom, hstep]

theorem occurrencesFrom_read {α : Type} {read? : Text → Option (α × Text)} {before t rest : Text}
    {value : α} (hbefore : endsInWord before = false) (hne : t ≠ [])
    (hread : read? (t ++ rest) = some (value, rest)) :
    occurrencesFrom read? 0 (endsInWord before) before.length (t ++ rest) =
      (before.length, value) ::
        occurrencesFrom read? 0 (endsInWord (before ++ t)) (before ++ t).length rest := by
  cases t with
  | nil => exact absurd rfl hne
  | cons c t =>
      have hskip := occurrencesFrom_skip read? (before ++ [c]) t rest c.isWord (fun _ => by simp)
      have hlength : (t ++ rest).length - rest.length = t.length := by simp
      simp only [List.length_append, List.length_cons, List.length_nil, List.append_assoc,
        List.singleton_append] at hskip hlength
      rw [List.cons_append] at hread
      simp [occurrencesFrom, hbefore, hread, hlength, hskip]

end Statement

end ImportAtlas
