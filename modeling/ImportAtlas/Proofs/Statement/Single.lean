import ImportAtlas.Proofs.Statement.Reading
import ImportAtlas.Text.Lines

/-!
# Single imports

A text that begins with an import is read up to the quote that closes the specifier, and the search
goes on behind it as in a text of its own.

What is read in a text that is one import is not always what stands there for a reader who knows the
language.  Where `type` is the default binding, it is taken for the word `type`, and as the word
`from` may be missing, the `from` that is there becomes the binding.  And a specifier ends at the
next quote, of whichever kind, as the two quotes need not be of one kind.
-/

namespace ImportAtlas

namespace Statement

/-!
## Behind a statement and behind a silent text
-/

theorem map_occurrencesFrom {α : Type} (read? : Text → Option (α × Text)) (skip : Nat)
    (afterWord : Bool) (position start : Nat) (t : Text) :
    (occurrencesFrom read? skip afterWord position t).map (·.2) =
      (occurrencesFrom read? skip afterWord start t).map (·.2) := by
  induction t generalizing skip afterWord position start with
  | nil => rfl
  | cons c rest ih =>
      cases skip with
      | succ skip => exact ih skip c.isWord (position + 1) (start + 1)
      | zero =>
          simp only [occurrencesFrom]
          cases if afterWord then none else read? (c :: rest) with
          | none => exact ih 0 c.isWord (position + 1) (start + 1)
          | some found =>
              simp [ih (rest.length - found.2.length) c.isWord (position + 1) (start + 1)]

variable {t rest : Text}

theorem map_occurrencesFrom_behind (hend : endsInWord t = false) :
    (occurrencesFrom readImport? 0 (endsInWord t) t.length rest).map (·.2) = extract false rest := by
  rw [hend]
  exact map_occurrencesFrom readImport? 0 false t.length 0 rest

theorem extract_read {statement : Statement} (hend : endsInWord t = false) (hne : t ≠ [])
    (hread : readImport? (t ++ rest) = some (statement, rest)) :
    extract false (t ++ rest) = statement :: extract false rest := by
  have hstart : endsInWord [] = false := rfl
  have hsearch := congrArg (List.map (·.2)) (occurrencesFrom_read hstart hne hread)
  rw [List.map_cons, List.nil_append, map_occurrencesFrom_behind hend] at hsearch
  exact hsearch

theorem extract_silent (hend : endsInWord t = false) (h : IsSilent .importing t rest) :
    extract false (t ++ rest) = extract false rest := by
  have hsearch := congrArg (List.map (·.2)) (occurrencesFrom_silent h [])
  rw [List.nil_append, StatementKind.read?, map_occurrencesFrom_behind hend] at hsearch
  exact hsearch

theorem isSilent_cons {kind : StatementKind} {c : CodePoint}
    (hread : kind.read? (c :: (t ++ rest)) = none) (h : IsSilent kind t rest) :
    IsSilent kind (c :: t) rest := by
  intro before after ht hne
  cases before with
  | nil =>
      rw [List.nil_append] at ht
      rw [← ht]
      exact hread
  | cons d before =>
      rw [List.cons_append, List.cons.injEq] at ht
      exact h before after ht.right hne

theorem ImportForm.endsInWord_spell (form : ImportForm) : endsInWord form.spell = false := by
  rw [← form.spell_outline, Outline.spell, Quoted.spell, ← List.cons_append, ← List.append_assoc,
    endsInWord_append_singleton]
  exact eq_false_of_isQuote form.outline.quoted.isQuote_closing rfl rfl

theorem extract_settled {form : ImportForm} (h : form.IsSettled) (rest : Text) :
    extract false (form.spell ++ rest) = form.body.statement :: extract false rest :=
  extract_read form.endsInWord_spell (importGrammar_readBy.nonempty form)
    (readImport?_settled h rest)

/-!
## Default bindings
-/

theorem isBlank_of_mem_space : ∀ c ∈ Text.ofString " ", c.isBlank = true := by decide

def space : Spaces := ⟨⟨" ", isBlank_of_mem_space⟩, by decide⟩

def fromName : Name := ⟨"from", by decide, by decide⟩

/-- The form in which the import of a default binding is read: behind the word `type`, the word
`from` is the binding. -/
def defaultForm (name : Name) (quoted : Quoted) : ImportForm :=
  if name.text = "type" then
    ⟨space, some space, ⟨some ⟨fromName, none, none⟩, none, ⟨space.toBlanks, none, quoted⟩⟩⟩
  else
    ⟨space, none,
      ⟨some ⟨name, none, none⟩, none, ⟨space.toBlanks, some space.toBlanks, quoted⟩⟩⟩

theorem spell_defaultForm (name : Name) (quoted : Quoted) :
    (defaultForm name quoted).spell = "import " ++ name.text ++ " from " ++ quoted.spell := by
  unfold defaultForm
  split
  case isTrue htype =>
    rw [htype]
    rfl
  case isFalse =>
    simp [ImportForm.spell, ImportBody.spell, Binding.spell, Origin.spell, spellFrom, space,
      Text.ofString]

theorem defaultForm_isSettled (name : Name) (quoted : Quoted) :
    (defaultForm name quoted).IsSettled := by
  unfold defaultForm
  split
  case isTrue =>
    apply ImportForm.isSettled_of_binding rfl rfl
    · intro hfrom
      exact absurd rfl hfrom
    · intro htype
      cases htype
  case isFalse hname =>
    apply ImportForm.isSettled_of_binding rfl rfl
    · intro _
      exact space.nonempty
    · intro _
      exact hname

/-- The label of a default import is its binding, unless this is called `type`. -/
theorem extract_default_import (name : Name) (quoted : Quoted) :
    extract false ("import " ++ name.text ++ " from " ++ quoted.spell) =
      [⟨.importing, if name.text = "type" then "from" else name.text, quoted.text⟩] := by
  have hread := extract_settled (defaultForm_isSettled name quoted) []
  rw [List.append_nil, spell_defaultForm] at hread
  rw [hread]
  unfold defaultForm
  split
  case isTrue => rfl
  case isFalse => rfl

theorem not_all_default_imports_labelled :
    ¬ ∀ (name : Name) (quoted : Quoted),
      extract false ("import " ++ name.text ++ " from " ++ quoted.spell) =
        [⟨.importing, name.text, quoted.text⟩] := by
  intro hlabelled
  have hread : extract false "import type from \"p\"" = [⟨.importing, "from", "p"⟩] := rfl
  have hlabel := hlabelled ⟨"type", by decide, by decide⟩
    ⟨'"', "p", '"', rfl, rfl, by decide, by decide⟩
  exact absurd (hread.symm.trans hlabel) (by decide)

/-!
## Specifiers between quotes
-/

/-- What stands before the specifier in an import for its effects and in an import of one listed
name, each with its label. -/
def leads : List (Text × Text) := [("import ", ""), ("import \x7b a \x7d from ", "a")]

def effectForm (quoted : Quoted) : ImportForm :=
  ⟨space, none, ⟨none, none, ⟨Written.noBlanks, none, quoted⟩⟩⟩

theorem effectForm_isSettled (quoted : Quoted) : (effectForm quoted).IsSettled := by
  apply ImportForm.isSettled_of_unbound rfl
  · intro _
    exact ⟨rfl, rfl⟩
  · intro _ hfrom
    exact absurd rfl hfrom

def listForm (quoted : Quoted) : ImportForm :=
  ⟨space, none,
    ⟨none, some (.listed ⟨" a ", by decide⟩), ⟨space.toBlanks, some space.toBlanks, quoted⟩⟩⟩

theorem listForm_isSettled (quoted : Quoted) : (listForm quoted).IsSettled := by
  apply ImportForm.isSettled_of_unbound rfl
  · intro hgroup
    cases hgroup
  · intro hlisting
    cases hlisting

variable {lead label : Text} {mark other : CodePoint}

theorem eq_of_mem_leads (hlead : (lead, label) ∈ leads) :
    (lead = "import " ∧ label = "") ∨ (lead = "import \x7b a \x7d from " ∧ label = "a") := by
  simpa [leads] using hlead

theorem extract_lead_append (hlead : (lead, label) ∈ leads) (quoted : Quoted) (rest : Text) :
    extract false (lead ++ (quoted.spell ++ rest)) =
      ⟨.importing, label, quoted.text⟩ :: extract false rest := by
  rcases eq_of_mem_leads hlead with ⟨rfl, rfl⟩ | ⟨rfl, rfl⟩
  · exact extract_settled (effectForm_isSettled quoted) rest
  · exact extract_settled (listForm_isSettled quoted) rest

theorem readImport?_of_adjacent (hlead : (lead, label) ∈ leads) (hmark : isQuote mark = true)
    (hother : isQuote other = true) (rest : Text) :
    readImport? (lead ++ ([mark, other] ++ rest)) = none := by
  simp only [isQuote, Bool.or_eq_true, decide_eq_true_eq] at hmark hother
  rcases eq_of_mem_leads hlead with ⟨rfl, rfl⟩ | ⟨rfl, rfl⟩ <;>
    rcases hmark with rfl | rfl <;>
    rcases hother with rfl | rfl <;>
    rfl

theorem isSilent_of_adjacent (hlead : (lead, label) ∈ leads) (hmark : isQuote mark = true)
    (hother : isQuote other = true) (rest : Text) :
    IsSilent .importing lead ([mark, other] ++ rest) := by
  have hread := readImport?_of_adjacent hlead hmark hother rest
  rcases eq_of_mem_leads hlead with ⟨rfl, _⟩ | ⟨rfl, _⟩
  · exact isSilent_cons hread (isSilent_of_isFreeOf (by decide +kernel) rfl _)
  · exact isSilent_cons hread (isSilent_of_isFreeOf (by decide +kernel) rfl _)

theorem extract_of_adjacent (hlead : (lead, label) ∈ leads) (hmark : isQuote mark = true)
    (hother : isQuote other = true) (rest : Text) :
    extract false (lead ++ ([mark, other] ++ rest)) = extract false rest := by
  have hword : other.isWord = false := eq_false_of_isQuote hother rfl rfl
  have hlast : endsInWord [mark, other] = false := hword
  have hquotes : IsSilent .importing [mark, other] rest := by
    apply isSilent_of_unspaced _ hlast
    have hmarkBlank : mark.isBlank = false := eq_false_of_isQuote hmark rfl rfl
    have hotherBlank : other.isBlank = false := eq_false_of_isQuote hother rfl rfl
    simp [hmarkBlank, hotherBlank]
  have hend : endsInWord lead = false := by
    rcases eq_of_mem_leads hlead with ⟨rfl, _⟩ | ⟨rfl, _⟩
    · rfl
    · rfl
  rw [extract_silent hend (isSilent_of_adjacent hlead hmark hother rest),
    extract_silent hlast hquotes]

/-- A specifier is read up to the next quote, and the search goes on behind it. -/
theorem extract_up_to_quote (hlead : (lead, label) ∈ leads) (hmark : isQuote mark = true)
    (hother : isQuote other = true) {cut : Text} (hcut : ∀ c ∈ cut, isQuote c = false)
    (rest : Text) :
    extract false (lead ++ mark :: (cut ++ other :: rest)) =
      (if cut = [] then [] else [⟨.importing, label, cut⟩]) ++ extract false rest := by
  split
  case isTrue hnil =>
    rw [hnil]
    exact extract_of_adjacent hlead hmark hother rest
  case isFalse hne =>
    have hread := extract_lead_append hlead ⟨mark, cut, other, hmark, hother, hne, hcut⟩ rest
    simpa [Quoted.spell] using hread

/-- An import with its specifier between two quotes of one kind gives the whole specifier just when
this holds no quote.  In general the specifier is read up to its first quote. -/
theorem extract_quoted_specifier (hlead : (lead, label) ∈ leads) (hmark : isQuote mark = true) :
    (∀ specifier, specifier ≠ [] →
      ((extract false (lead ++ mark :: (specifier ++ [mark]))).map (·.specifier) = [specifier] ↔
        ∀ c ∈ specifier, isQuote c = false)) ∧
      ∀ cut other rest, (∀ c ∈ cut, isQuote c = false) → isQuote other = true →
        extract false (lead ++ mark :: (cut ++ other :: rest)) =
          (if cut = [] then [] else [⟨.importing, label, cut⟩]) ++ extract false rest := by
  constructor
  · intro specifier hne
    constructor
    · intro hwhole
      have hmem : specifier ∈
          (extract false (lead ++ mark :: (specifier ++ [mark]))).map (·.specifier) := by
        rw [hwhole]
        exact List.mem_singleton_self specifier
      rcases List.mem_map.mp hmem with ⟨statement, hstatement, heq⟩
      rcases exists_quoted_of_mem_extract hstatement with ⟨quoted, hquoted⟩
      rw [← heq, hquoted]
      exact quoted.unquoted
    · intro hunquoted
      rw [extract_up_to_quote hlead hmark hmark hunquoted, if_neg hne]
      rfl
  · intro cut other rest hcut hother
    exact extract_up_to_quote hlead hmark hother hcut rest

theorem not_all_specifiers_whole :
    ¬ ∀ lead label mark specifier, (lead, label) ∈ leads → isQuote mark = true →
      specifier ≠ [] → mark ∉ specifier → (∀ c ∈ specifier, c.isLineBreak = false) →
        (extract false (lead ++ mark :: (specifier ++ [mark]))).map (·.specifier) = [specifier] := by
  intro hwhole
  have hread : extract false "import \"it's\"" = [⟨.importing, "", "it"⟩] := rfl
  have hspecifiers := hwhole "import " "" '"' "it's" (by simp [leads]) rfl (by decide) (by decide)
    (by decide)
  exact absurd ((congrArg (List.map (·.specifier)) hread).symm.trans hspecifiers) (by decide)

theorem extract_specifier_with_apostrophe :
    (Text.ofString "import \x7b a \x7d from ", Text.ofString "a") ∈ leads ∧
      isQuote (CodePoint.ofChar '"') = true ∧
      (∀ c ∈ Text.ofString "it", isQuote c = false) ∧ isQuote (CodePoint.ofChar '\'') = true ∧
      (extract false "import \x7b a \x7d from \"it's\"").map (·.specifier) ≠
        [Text.ofString "it's"] ∧
      extract false "import \x7b a \x7d from \"it's\"" = [⟨.importing, "a", "it"⟩] := by
  have hlead : (Text.ofString "import \x7b a \x7d from ", Text.ofString "a") ∈ leads := by
    simp [leads]
  have hcut : ∀ c ∈ Text.ofString "it", isQuote c = false := by decide
  have hread := extract_quoted_specifier hlead (show isQuote (CodePoint.ofChar '"') = true from rfl)
  refine ⟨hlead, rfl, hcut, rfl, ?_, ?_⟩
  · intro hwhole
    have hunquoted := (hread.left "it's" (by decide)).mp hwhole
    exact absurd hunquoted (by decide)
  · exact hread.right "it" '\'' "s\"" hcut rfl

end Statement

end ImportAtlas
