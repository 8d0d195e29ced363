import ImportAtlas.Proofs.Statement.Completeness
import ImportAtlas.Statement.Occurrence

/-!
# Leftmost occurrences

A form occurs at a position of a text when the text has its spelling there and no word character
before it.  The leftmost occurrences of a grammar, apart from each other, are given by a relation
that knows nothing of the search: the first one comes before all others, and the next ones are the
leftmost behind its end.

The search from left to right finds exactly these for every reader that reads its grammar.
-/

namespace ImportAtlas

namespace Statement

/-- A kind of statements: its forms, how they are spelled, and what they stand for. -/
structure Grammar where
  Form : Type
  spell : Form → Text
  statement : Form → Statement
  listing? : Form → Option Listing

def importGrammar : Grammar where
  Form := ImportForm
  spell := ImportForm.spell
  statement form := form.body.statement
  listing? form := form.body.listing?

def reexportGrammar : Grammar where
  Form := ReexportForm
  spell := ReexportForm.spell
  statement := ReexportForm.statement
  listing? form := form.group.listing?

def endsInWord (t : Text) : Bool := t.getLast?.any CodePoint.isWord

@[simp] theorem endsInWord_append_singleton (t : Text) (c : CodePoint) :
    endsInWord (t ++ [c]) = c.isWord := by
  simp [endsInWord]

def readAt? (read? : Text → Option (Statement × Text)) (t : Text) (position : Nat) :
    Option (Statement × Text) :=
  if endsInWord (t.take position) then none else read? (t.drop position)

namespace Grammar

variable {G : Grammar} {read? : Text → Option (Statement × Text)}

def OccursAt (G : Grammar) (t : Text) (position : Nat) (form : G.Form) : Prop :=
  ∃ before after, t = before ++ (G.spell form ++ after) ∧ before.length = position ∧
    endsInWord before = false

def behind (G : Grammar) (position : Nat) (form : G.Form) : Nat :=
  position + (G.spell form).length

inductive Leftmost (G : Grammar) (t : Text) : Nat → List (Nat × G.Form) → Prop where
  | done {start : Nat} :
      (∀ position form, start ≤ position → ¬ G.OccursAt t position form) → Leftmost G t start []
  | next {start position : Nat} {form : G.Form} {more : List (Nat × G.Form)} :
      start ≤ position →
      G.OccursAt t position form →
      (∀ earlier other, start ≤ earlier → earlier < position → ¬ G.OccursAt t earlier other) →
      Leftmost G t (G.behind position form) more →
      Leftmost G t start ((position, form) :: more)

/-- A reader reads a grammar when it finds a form wherever there is one, and only there.  No form is
empty, and the forms at one place agree in everything but the plain text. -/
structure ReadBy (G : Grammar) (read? : Text → Option (Statement × Text)) : Prop where
  sound : ∀ {t rest statement}, read? t = some (statement, rest) →
    ∃ form, t = G.spell form ++ rest ∧ G.statement form = statement
  complete : ∀ form rest, (read? (G.spell form ++ rest)).isSome = true
  nonempty : ∀ form, G.spell form ≠ []
  unambiguous : ∀ {form other rest rest'}, G.spell form ++ rest = G.spell other ++ rest' →
    (G.listing? form).map (·.text) = (G.listing? other).map (·.text) ∧
      (G.statement form).specifier = (G.statement other).specifier ∧ rest = rest'

theorem occursAt_unambiguous (h : G.ReadBy read?) {t : Text} {position : Nat}
    {form other : G.Form} (hform : G.OccursAt t position form)
    (hother : G.OccursAt t position other) :
    G.behind position form = G.behind position other ∧
      (G.statement form).specifier = (G.statement other).specifier ∧
      (G.listing? form).map (·.text) = (G.listing? other).map (·.text) := by
  rcases hform with ⟨before, after, ht, hlength, _⟩
  rcases hother with ⟨before', after', ht', hlength', _⟩
  have hsplit := List.append_inj (ht.symm.trans ht') (hlength.trans hlength'.symm)
  rcases h.unambiguous hsplit.right with ⟨hlisting, hspecifier, hafter⟩
  have hspell : (G.spell form).length = (G.spell other).length := by
    have hlengths := congrArg List.length hsplit.right
    simp only [List.length_append, hafter] at hlengths
    omega
  refine ⟨?_, hspecifier, hlisting⟩
  rw [behind, behind, hspell]

theorem readAt?_sound (h : G.ReadBy read?) {t rest : Text} {position : Nat}
    {statement : Statement} (hread : readAt? read? t position = some (statement, rest)) :
    ∃ form, G.OccursAt t position form ∧ G.statement form = statement ∧
      rest = t.drop (G.behind position form) := by
  simp only [readAt?] at hread
  split at hread
  case isTrue => cases hread
  case isFalse hword =>
    rcases h.sound hread with ⟨form, hdrop, hstatement⟩
    have hle : position ≤ t.length := by
      apply Nat.le_of_lt
      apply Nat.lt_of_not_le
      intro hle
      rw [List.drop_eq_nil_of_le hle] at hdrop
      exact h.nonempty form (List.append_eq_nil_iff.mp hdrop.symm).left
    refine ⟨form, ⟨t.take position, rest, ?_, ?_, ?_⟩, hstatement, ?_⟩
    · rw [← hdrop, List.take_append_drop]
    · exact List.length_take_of_le hle
    · simpa using hword
    · rw [behind, ← List.drop_drop, hdrop, List.drop_left]

theorem readAt?_complete (h : G.ReadBy read?) {t : Text} {position : Nat} {form : G.Form}
    (hform : G.OccursAt t position form) : (readAt? read? t position).isSome = true := by
  rcases hform with ⟨before, after, ht, hlength, hword⟩
  have htake : t.take position = before := by rw [ht, ← hlength, List.take_left]
  have hdrop : t.drop position = G.spell form ++ after := by rw [ht, ← hlength, List.drop_left]
  rw [readAt?, htake, hdrop, hword]
  exact h.complete form after

theorem lt_length_of_occursAt (h : G.ReadBy read?) {t : Text} {position : Nat} {form : G.Form}
    (hform : G.OccursAt t position form) : position < t.length := by
  rcases hform with ⟨before, after, ht, hlength, _⟩
  have hspell := List.length_pos_iff.mpr (h.nonempty form)
  rw [ht]
  simp only [List.length_append]
  omega

/-!
## The search

The search is followed one code point at a time.  Behind a form it passes over the rest of the form
without reading, so the invariant speaks of the occurrences from the end of the part passed over.
-/

theorem Leftmost.of_succ {t : Text} {start : Nat} {found : List (Nat × G.Form)}
    (hnone : ∀ form, ¬ G.OccursAt t start form) (h : G.Leftmost t (start + 1) found) :
    G.Leftmost t start found := by
  cases h with
  | done hlater =>
      apply Leftmost.done
      intro position form hstart hform
      rcases Nat.eq_or_lt_of_le hstart with heq | hlt
      · exact hnone form (heq ▸ hform)
      · exact hlater position form hlt hform
  | next hstart hform hfirst hmore =>
      apply Leftmost.next (Nat.le_of_succ_le hstart) hform _ hmore
      intro earlier other hle hlt hother
      rcases Nat.eq_or_lt_of_le hle with heq | hlater
      · exact hnone other (heq ▸ hother)
      · exact hfirst earlier other hlater hlt hother

theorem length_skipped (h : G.ReadBy read?) {before rest behind : Text} {c : CodePoint}
    {form : G.Form} (hform : G.OccursAt (before ++ c :: rest) before.length form)
    (hbehind : behind = (before ++ c :: rest).drop (G.behind before.length form)) :
    before.length + 1 + (rest.length - behind.length) = G.behind before.length form := by
  rcases hform with ⟨before', after, ht, hbefore', _⟩
  have hpositive := List.length_pos_iff.mpr (h.nonempty form)
  have hlengths := congrArg List.length ht
  simp only [List.length_append, List.length_cons] at hlengths
  have hrest := congrArg List.length hbehind
  simp only [List.length_drop, List.length_append, List.length_cons] at hrest
  rw [Grammar.behind] at hrest ⊢
  omega

def listed (found : List (Nat × G.Form)) : List (Nat × Statement) :=
  found.map fun occurrence => (occurrence.1, G.statement occurrence.2)

theorem occurrencesFrom_leftmost (h : G.ReadBy read?) (before t : Text) (skip : Nat)
    (hskip : skip ≤ t.length) :
    ∃ found, G.Leftmost (before ++ t) (before.length + skip) found ∧
      occurrencesFrom read? skip (endsInWord before) before.length t = listed found := by
  induction t generalizing before skip with
  | nil =>
      refine ⟨[], Leftmost.done ?_, rfl⟩
      intro position form hstart hform
      have hlt := lt_length_of_occursAt h hform
      rw [List.append_nil] at hlt
      omega
  | cons c rest ih =>
      have hsplit : before ++ c :: rest = before ++ [c] ++ rest := by simp
      have hlength : (before ++ [c]).length = before.length + 1 := by simp
      cases skip with
      | succ skip =>
          rcases ih (before ++ [c]) skip (by simpa using hskip) with ⟨found, hfound, hsearch⟩
          refine ⟨found, ?_, ?_⟩
          · rw [hsplit]
            rw [hlength] at hfound
            exact (show before.length + 1 + skip = before.length + (skip + 1) by omega) ▸ hfound
          · simpa [occurrencesFrom] using hsearch
      | zero =>
          have hread : readAt? read? (before ++ c :: rest) before.length =
              if endsInWord before then none else read? (c :: rest) := by
            rw [readAt?, List.take_left, List.drop_left]
          simp only [occurrencesFrom, ← hread]
          cases hhere : readAt? read? (before ++ c :: rest) before.length with
          | none =>
              rcases ih (before ++ [c]) 0 (Nat.zero_le _) with ⟨found, hfound, hsearch⟩
              refine ⟨found, Leftmost.of_succ ?_ ?_, ?_⟩
              · intro form hform
                have hsome := readAt?_complete h hform
                rw [Nat.add_zero, hhere] at hsome
                cases hsome
              · rw [hsplit, Nat.add_zero, ← hlength]
                exact hfound
              · simpa using hsearch
          | some value =>
              rcases value with ⟨statement, behind⟩
              rcases readAt?_sound h hhere with ⟨form, hform, hstatement, hbehind⟩
              rcases ih (before ++ [c]) (rest.length - behind.length) (Nat.sub_le _ _) with
                ⟨found, hfound, hsearch⟩
              refine ⟨(before.length, form) :: found, ?_, ?_⟩
              · apply Leftmost.next (Nat.le_refl _) hform
                · intro earlier other hle hlt
                  omega
                · rw [hsplit]
                  rw [hlength] at hfound
                  exact length_skipped h hform hbehind ▸ hfound
              · simpa [listed, hstatement] using hsearch

/-- Two lists of leftmost occurrences differ at most in the plain text of their forms. -/
theorem Leftmost.unique (h : G.ReadBy read?) {t : Text} {start : Nat}
    {found others : List (Nat × G.Form)} (hfound : G.Leftmost t start found)
    (hothers : G.Leftmost t start others) :
    found.map (fun occurrence => (occurrence.1, (G.statement occurrence.2).specifier)) =
      others.map fun occurrence => (occurrence.1, (G.statement occurrence.2).specifier) := by
  induction hfound generalizing others with
  | done hnone =>
      cases hothers with
      | done _ => rfl
      | next hstart hother _ _ => exact (hnone _ _ hstart hother).elim
  | next hstart hform hfirst hmore ih =>
      rename_i position form more
      cases hothers with
      | done hnone => exact (hnone _ _ hstart hform).elim
      | next hstart' hother hfirst' hmore' =>
          rename_i position' other more'
          have hsame : position = position' := by
            apply Nat.le_antisymm
            · exact Nat.le_of_not_lt fun hlt => hfirst _ _ hstart' hlt hother
            · exact Nat.le_of_not_lt fun hlt => hfirst' _ _ hstart hlt hform
          subst hsame
          rcases occursAt_unambiguous h hform hother with ⟨hbehind, hspecifier, _⟩
          rw [← hbehind] at hmore'
          simp [hspecifier, ih hmore']

theorem occurrences_leftmost (h : G.ReadBy read?) (t : Text) :
    ∃ found, G.Leftmost t 0 found ∧ occurrences read? t = listed found :=
  occurrencesFrom_leftmost h [] t 0 (Nat.zero_le _)

theorem Leftmost.occursAt {t : Text} {start : Nat} {found : List (Nat × G.Form)}
    (h : G.Leftmost t start found) {occurrence : Nat × G.Form} (hmem : occurrence ∈ found) :
    start ≤ occurrence.1 ∧ G.OccursAt t occurrence.1 occurrence.2 := by
  induction h with
  | done _ => cases hmem
  | next hstart hform _ _ ih =>
      rcases List.mem_cons.mp hmem with heq | hmore
      · rw [heq]
        exact ⟨hstart, hform⟩
      · rcases ih hmore with ⟨hbehind, hoccurs⟩
        unfold Grammar.behind at hbehind
        exact ⟨by omega, hoccurs⟩

theorem exists_form_of_mem_occurrences (h : G.ReadBy read?) {t : Text} {found : Nat × Statement}
    (hmem : found ∈ occurrences read? t) :
    ∃ form, G.OccursAt t found.1 form ∧ G.statement form = found.2 := by
  rcases occurrences_leftmost h t with ⟨forms, hforms, hsearch⟩
  rw [hsearch] at hmem
  rcases List.mem_map.mp hmem with ⟨occurrence, hoccurrence, heq⟩
  rw [← heq]
  exact ⟨occurrence.2, (hforms.occursAt hoccurrence).right, rfl⟩

/-- The occurrences of a grammar in a text are read where they begin, their ends, specifiers and
lists depend on nothing but the text, and the search lists the leftmost ones, whichever forms they
are given. -/
structure FoundBy (G : Grammar) (read? : Text → Option (Statement × Text)) (t : Text) : Prop where
  read_iff : ∀ position,
    (readAt? read? t position).isSome = true ↔ ∃ form, G.OccursAt t position form
  read_form : ∀ position statement rest, readAt? read? t position = some (statement, rest) →
    ∃ form, G.OccursAt t position form ∧ G.statement form = statement ∧
      rest = t.drop (G.behind position form)
  unambiguous : ∀ position form other,
    G.OccursAt t position form → G.OccursAt t position other →
      G.behind position form = G.behind position other ∧
        (G.statement form).specifier = (G.statement other).specifier ∧
        (G.listing? form).map (·.text) = (G.listing? other).map (·.text)
  leftmost : ∃ found, G.Leftmost t 0 found ∧ occurrences read? t = listed found
  only : ∀ found, G.Leftmost t 0 found →
    (occurrences read? t).map (fun occurrence => (occurrence.1, occurrence.2.specifier)) =
      found.map fun occurrence => (occurrence.1, (G.statement occurrence.2).specifier)

theorem ReadBy.foundBy (h : G.ReadBy read?) (t : Text) : G.FoundBy read? t where
  read_iff position := by
    constructor
    · intro hsome
      rcases Option.isSome_iff_exists.mp hsome with ⟨⟨statement, rest⟩, hread⟩
      rcases readAt?_sound h hread with ⟨form, hform, _⟩
      exact ⟨form, hform⟩
    · rintro ⟨form, hform⟩
      exact readAt?_complete h hform
  read_form _ _ _ := readAt?_sound h
  unambiguous _ _ _ := occursAt_unambiguous h
  leftmost := occurrences_leftmost h t
  only found hfound := by
    rcases occurrences_leftmost h t with ⟨others, hothers, hsearch⟩
    rw [hsearch, ← Leftmost.unique h hothers hfound]
    simp [listed]

end Grammar

/-!
## The two grammars
-/

theorem importGrammar_readBy : importGrammar.ReadBy readImport? where
  sound := readImport?_sound
  complete := readImport?_complete
  nonempty form := by
    show ("import" ++ _ ++ _ ++ _ : Text) ≠ []
    simp [Text.ofString]
  unambiguous h := ImportForm.unambiguous h

theorem reexportGrammar_readBy : reexportGrammar.ReadBy readReexport? where
  sound := readReexport?_sound
  complete := readReexport?_complete
  nonempty form := by
    show ("export" ++ _ ++ _ ++ _ : Text) ≠ []
    simp [Text.ofString]
  unambiguous h := ReexportForm.unambiguous h

theorem mem_located_cases {reexports : Bool} {t : Text} {found : Nat × Statement}
    (h : found ∈ located reexports t) :
    found ∈ occurrences readImport? t ∨ found ∈ occurrences readReexport? t := by
  cases reexports with
  | false => exact Or.inl h
  | true => exact List.mem_merge.mp h

theorem exists_quoted_of_mem_extract {reexports : Bool} {t : Text} {statement : Statement}
    (h : statement ∈ extract reexports t) :
    ∃ quoted : Quoted, statement.specifier = quoted.text := by
  rcases List.mem_map.mp h with ⟨found, hfound, heq⟩
  rw [← heq]
  rcases mem_located_cases hfound with himport | hreexport
  · rcases Grammar.exists_form_of_mem_occurrences importGrammar_readBy himport with
      ⟨form, _, hform⟩
    rw [← hform]
    exact ⟨form.body.origin.quoted, rfl⟩
  · rcases Grammar.exists_form_of_mem_occurrences reexportGrammar_readBy hreexport with
      ⟨form, _, hform⟩
    rw [← hform]
    exact ⟨form.quoted, rfl⟩

/-- The imports of a text are the leftmost occurrences of their grammar and the re-exports those of
theirs, and the two are listed together by their positions. -/
theorem located_leftmost_occurrences (t : Text) :
    importGrammar.FoundBy readImport? t ∧ reexportGrammar.FoundBy readReexport? t ∧
      located false t = occurrences readImport? t ∧
      located true t = List.merge (occurrences readImport? t) (occurrences readReexport? t)
        (fun a b => a.1 ≤ b.1) ∧
      (∀ reexports, extract reexports t = (located reexports t).map (·.2)) :=
  ⟨importGrammar_readBy.foundBy t, reexportGrammar_readBy.foundBy t, rfl, rfl, fun _ => rfl⟩

end Statement

end ImportAtlas
