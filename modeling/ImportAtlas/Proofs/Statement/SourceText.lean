import ImportAtlas.Proofs.Statement.OtherKind

/-!
# Whole source texts

A source text is written as statements with other text before, between and behind them, which hides
no keyword and does not run into a statement.  What is extracted from it are the statements, in
their order.

Each of the two searches runs over the whole text.  It reads the statements of its own kind, since
they are settled forms, and passes over all else.  The two lists of what they found are merged by
position, and the statements stand at positions that grow.
-/

namespace ImportAtlas

namespace Statement

structure Filler where
  text : Text
  keywordFree : ∀ kind, IsFreeOf kind text

structure Piece where
  filler : Filler
  apart : endsInWord filler.text = false
  written : Written

structure SourceText where
  pieces : List Piece
  last : Filler

def Piece.spell (piece : Piece) : Text := piece.filler.text ++ piece.written.spell

def spellPieces (pieces : List Piece) : Text := pieces.flatMap Piece.spell

namespace SourceText

def spell (source : SourceText) : Text := spellPieces source.pieces ++ source.last.text

def statements (source : SourceText) : List Statement :=
  source.pieces.map (·.written.statement)

end SourceText

/-- The statements with their positions, where the first piece begins at `start`. -/
def locatedFrom (start : Nat) : List Piece → List (Nat × Statement)
  | [] => []
  | piece :: more =>
      (start + piece.filler.text.length, piece.written.statement) ::
        locatedFrom (start + piece.spell.length) more

theorem map_locatedFrom (start : Nat) (pieces : List Piece) :
    (locatedFrom start pieces).map (·.2) = pieces.map (·.written.statement) := by
  induction pieces generalizing start with
  | nil => rfl
  | cons piece more ih => simp [locatedFrom, ih]

theorem le_of_mem_locatedFrom {start : Nat} {pieces : List Piece} {found : Nat × Statement}
    (h : found ∈ locatedFrom start pieces) : start ≤ found.1 := by
  induction pieces generalizing start with
  | nil => cases h
  | cons piece more ih =>
      rcases List.mem_cons.mp h with heq | hmore
      · rw [heq]
        exact Nat.le_add_right _ _
      · exact Nat.le_trans (Nat.le_add_right _ _) (ih hmore)

theorem pairwise_locatedFrom (start : Nat) (pieces : List Piece) :
    (locatedFrom start pieces).Pairwise fun a b => a.1 < b.1 := by
  induction pieces generalizing start with
  | nil => exact List.Pairwise.nil
  | cons piece more ih =>
      apply List.Pairwise.cons _ (ih _)
      intro found hfound
      have hlater := le_of_mem_locatedFrom hfound
      have hlength := List.length_pos_iff.mpr piece.written.spell_ne_nil
      simp only [Piece.spell, List.length_append] at hlater
      omega

/-!
## The two searches
-/

theorem Written.occurrencesFrom_spell {kind : StatementKind} (written : Written)
    {before : Text} (hbefore : endsInWord before = false) (rest : Text) :
    occurrencesFrom kind.read? 0 (endsInWord before) before.length (written.spell ++ rest) =
      ([(before.length, written.statement)].filter (·.2.kind = kind)) ++
        occurrencesFrom kind.read? 0 (endsInWord (before ++ written.spell))
          (before ++ written.spell).length rest := by
  have hkind : written.statement.kind = written.kind := rfl
  by_cases hsame : written.kind = kind
  · have hread := written.read?_spell rest
    rw [hsame] at hread
    rw [occurrencesFrom_read hbefore written.spell_ne_nil hread]
    simp [hkind, hsame]
  · rw [occurrencesFrom_otherKind (Ne.symm hsame)]
    simp [hkind, hsame]

/-- Each search lists the statements of its kind.  Before every piece the text ends outside a word,
since statements end in a quote. -/
theorem occurrencesFrom_spellPieces (kind : StatementKind) (pieces : List Piece) (last : Filler)
    {before : Text} (hbefore : endsInWord before = false) :
    occurrencesFrom kind.read? 0 (endsInWord before) before.length
        (spellPieces pieces ++ last.text) =
      (locatedFrom before.length pieces).filter (·.2.kind = kind) := by
  induction pieces generalizing before with
  | nil =>
      have hlast := occurrencesFrom_silent
        (isSilent_of_isFreeOf_nil (last.keywordFree kind)) before
      rw [List.append_nil] at hlast
      simpa [spellPieces, locatedFrom, occurrencesFrom] using hlast
  | cons piece more ih =>
      rcases piece with ⟨filler, hapart, written⟩
      have hspell : spellPieces (⟨filler, hapart, written⟩ :: more) ++ last.text =
          filler.text ++ (written.spell ++ (spellPieces more ++ last.text)) := by
        simp [spellPieces, Piece.spell]
      have hfiller : IsSilent kind filler.text (written.spell ++ (spellPieces more ++ last.text)) :=
        isSilent_of_isFreeOf (filler.keywordFree kind) hapart _
      have hstart : endsInWord (before ++ filler.text) = false :=
        endsInWord_append hbefore hapart
      have hend : endsInWord (before ++ filler.text ++ written.spell) = false :=
        endsInWord_append hstart written.endsInWord_spell
      rw [hspell, occurrencesFrom_silent hfiller, written.occurrencesFrom_spell hstart, ih hend]
      simp [locatedFrom, Piece.spell, ← List.filter_append]

theorem occurrences_spell (kind : StatementKind) (source : SourceText) :
    occurrences kind.read? source.spell =
      (locatedFrom 0 source.pieces).filter (·.2.kind = kind) := by
  have hstart : endsInWord [] = false := rfl
  exact occurrencesFrom_spellPieces kind source.pieces source.last hstart

/-!
## Merging by position
-/

theorem merge_filter {α : Type} (key : α → Nat) (p : α → Bool) {l : List α}
    (h : l.Pairwise fun a b => key a < key b) :
    List.merge (l.filter p) (l.filter fun a => !p a) (fun a b => key a ≤ key b) = l := by
  induction l with
  | nil => simp
  | cons a l ih =>
      rw [List.pairwise_cons] at h
      have hmore := ih h.right
      cases ha : p a with
      | true =>
          rw [List.filter_cons_of_pos ha, List.filter_cons_of_neg (by simp [ha])]
          cases hothers : l.filter fun a => !p a with
          | nil =>
              rw [hothers, List.merge_right] at hmore
              rw [List.merge_right, hmore]
          | cons b others =>
              have hb : b ∈ l.filter fun a => !p a := by simp [hothers]
              have hle : key a ≤ key b := Nat.le_of_lt (h.left b (List.mem_filter.mp hb).left)
              rw [List.cons_merge_cons_pos _ _ _ (by simpa using hle), ← hothers, hmore]
      | false =>
          rw [List.filter_cons_of_neg (by simp [ha]), List.filter_cons_of_pos (by simp [ha])]
          cases hones : l.filter p with
          | nil =>
              rw [hones, List.nil_merge] at hmore
              rw [List.nil_merge, hmore]
          | cons b ones =>
              have hb : b ∈ l.filter p := by simp [hones]
              have hlt : key a < key b := h.left b (List.mem_filter.mp hb).left
              rw [List.cons_merge_cons_neg _ _ _ (by simpa using hlt), ← hones, hmore]

theorem located_spell (source : SourceText) :
    located true source.spell = locatedFrom 0 source.pieces := by
  have hmerge := merge_filter (fun found : Nat × Statement => found.1)
    (fun found => found.2.kind = .importing) (pairwise_locatedFrom 0 source.pieces)
  have hother : (fun found : Nat × Statement => !decide (found.2.kind = .importing)) =
      fun found => decide (found.2.kind = .reexporting) := by
    funext found
    cases found.2.kind <;> rfl
  have himports := occurrences_spell .importing source
  have hreexports := occurrences_spell .reexporting source
  simp only [StatementKind.read?] at himports hreexports
  rw [hother, ← himports, ← hreexports] at hmerge
  simpa [located] using hmerge

/-- What is extracted from a source text are the statements written in it, in their order, and
without re-exports the imports among them. -/
theorem extract_spell (source : SourceText) :
    extract true source.spell = source.statements ∧
      extract false source.spell = source.statements.filter (·.kind = .importing) := by
  constructor
  · rw [extract, located_spell, map_locatedFrom]
    rfl
  · have himports := occurrences_spell .importing source
    simp only [StatementKind.read?] at himports
    simp only [extract, located, Bool.false_eq_true, if_false, himports, SourceText.statements,
      ← map_locatedFrom 0, List.filter_map]
    rfl

/-- An import with a comma behind its only item and an import of a module alone, around a re-export
of everything under a name, with other text before, between and behind them. -/
def sampleSource : SourceText :=
  let gap : Blanks := ⟨" ", by decide⟩
  let space : Spaces := ⟨gap, by decide⟩
  let b : Written.Identifier :=
    ⟨⟨"b", by decide, by decide⟩, fun kind => by cases kind <;> decide⟩
  let e : Written.Identifier :=
    ⟨⟨"e", by decide, by decide⟩, fun kind => by cases kind <;> decide⟩
  let bindings : Written.Bindings :=
    .others (.listed [⟨gap, some (.plain b), Written.noBlanks⟩, ⟨gap, none, Written.noBlanks⟩])
  let listed : Written :=
    .importing space none bindings gap gap (by decide)
      ⟨.single, "c", by decide, by decide, by decide⟩
  let everything : Written :=
    .reexporting space (some space) (.renamed ⟨gap, space, e⟩) gap Written.noBlanks (by decide)
      ⟨.double, "./f", by decide, by decide, by decide⟩
  let alone : Written := .sideEffect space ⟨.single, "g", by decide, by decide, by decide⟩
  let comment : Filler := ⟨"// a\n", fun kind => by cases kind <;> decide⟩
  let between : Filler := ⟨";\nb;\n", fun kind => by cases kind <;> decide⟩
  let lineEnd : Filler := ⟨"\n", fun kind => by cases kind <;> decide⟩
  ⟨[⟨comment, by decide, listed⟩, ⟨between, by decide, everything⟩, ⟨lineEnd, by decide, alone⟩],
    ⟨";", fun kind => by cases kind <;> decide⟩⟩

theorem extract_sampleSource :
    sampleSource.spell = "// a\nimport { b, } from 'c';\nb;\n" ++
        "export type * as e from\"./f\"\nimport 'g';" ∧
      extract true sampleSource.spell =
        [⟨.importing, "b", "c"⟩, ⟨.reexporting, "* as e", "./f"⟩, ⟨.importing, "", "g"⟩] ∧
      extract false sampleSource.spell = [⟨.importing, "b", "c"⟩, ⟨.importing, "", "g"⟩] :=
  ⟨rfl, extract_spell sampleSource⟩

end Statement

end ImportAtlas
