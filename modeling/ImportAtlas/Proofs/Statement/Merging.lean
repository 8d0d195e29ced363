import ImportAtlas.Proofs.Statement.Position

/-!
# Imports and re-exports together

When re-exports count, two searches run over the same text, and what they find is merged by
position.  The searches do not know of each other, and their statements may overlap in any way.
Still merging takes nothing away and moves nothing: the imports in the merged list are those that
are found without re-exports, the others are the leftmost re-exports, and each statement has a
position of its own.
-/

namespace ImportAtlas

namespace Statement

/-- Of what only one of two lists has, the merged list has the same in the same order. -/
theorem filter_merge {α : Type} (le : α → α → Bool) (p : α → Bool) {items others : List α}
    (h : (∀ item ∈ items, p item = false) ∨ ∀ other ∈ others, p other = false) :
    (List.merge items others le).filter p = items.filter p ++ others.filter p := by
  induction items generalizing others with
  | nil => simp
  | cons item items ih =>
      induction others with
      | nil => simp
      | cons other others ihOthers =>
          rw [List.forall_mem_cons, List.forall_mem_cons] at h
          cases hle : le item other with
          | true =>
              have hrest := ih (h.imp And.right List.forall_mem_cons.mpr)
              rw [List.cons_merge_cons_pos _ _ _ hle]
              cases hitem : p item with
              | true =>
                  rw [List.filter_cons_of_pos hitem, List.filter_cons_of_pos hitem, hrest,
                    List.cons_append]
              | false =>
                  have hskip : ¬ p item = true := by simp [hitem]
                  rw [List.filter_cons_of_neg hskip, List.filter_cons_of_neg hskip, hrest]
          | false =>
              have hrest := ihOthers (h.imp List.forall_mem_cons.mpr And.right)
              rw [List.cons_merge_cons_neg _ _ _ (by simp [hle])]
              cases hother : p other with
              | true =>
                  have hnone : ¬ (p other = false ∧ ∀ next ∈ others, p next = false) := by
                    simp [hother]
                  have hitems : (item :: items).filter p = [] := by
                    rw [List.filter_eq_nil_iff, List.forall_mem_cons]
                    simpa using h.resolve_right hnone
                  rw [List.filter_cons_of_pos hother, List.filter_cons_of_pos hother, hrest, hitems]
                  rfl
              | false =>
                  have hskip : ¬ p other = true := by simp [hother]
                  rw [List.filter_cons_of_neg hskip, List.filter_cons_of_neg hskip, hrest]

/-!
## The two kinds
-/

theorem kind_of_mem_occurrences {own : StatementKind} {t : Text} {found : Nat × Statement}
    (h : found ∈ occurrences own.read? t) : found.2.kind = own := by
  cases own with
  | importing =>
      rcases Grammar.exists_form_of_mem_occurrences importGrammar_readBy h with ⟨form, _, hform⟩
      rw [← hform]
      rfl
  | reexporting =>
      rcases Grammar.exists_form_of_mem_occurrences reexportGrammar_readBy h with ⟨form, _, hform⟩
      rw [← hform]
      rfl

theorem filter_occurrences_self (own : StatementKind) (t : Text) :
    (occurrences own.read? t).filter (·.2.kind = own) = occurrences own.read? t := by
  rw [List.filter_eq_self]
  intro found hfound
  exact decide_eq_true (kind_of_mem_occurrences hfound)

theorem kind_ne_of_mem_occurrences {own kind : StatementKind} (hne : own ≠ kind) (t : Text) :
    ∀ found ∈ occurrences own.read? t, decide (found.2.kind = kind) = false := by
  intro found hfound
  rw [kind_of_mem_occurrences hfound]
  exact decide_eq_false hne

theorem filter_occurrences_of_ne {own kind : StatementKind} (hne : own ≠ kind) (t : Text) :
    (occurrences own.read? t).filter (·.2.kind = kind) = [] := by
  rw [List.filter_eq_nil_iff]
  intro found hfound
  rw [kind_ne_of_mem_occurrences hne t found hfound]
  exact Bool.false_ne_true

theorem filter_located (kind : StatementKind) (t : Text) :
    (located true t).filter (·.2.kind = kind) = occurrences kind.read? t := by
  show (List.merge (occurrences StatementKind.importing.read? t)
    (occurrences StatementKind.reexporting.read? t) fun a b => a.1 ≤ b.1).filter _ = _
  cases kind with
  | importing =>
      have hne : StatementKind.reexporting ≠ .importing := by decide
      rw [filter_merge _ _ (Or.inr (kind_ne_of_mem_occurrences hne t)), filter_occurrences_self,
        filter_occurrences_of_ne hne, List.append_nil]
  | reexporting =>
      have hne : StatementKind.importing ≠ .reexporting := by decide
      rw [filter_merge _ _ (Or.inl (kind_ne_of_mem_occurrences hne t)), filter_occurrences_self,
        filter_occurrences_of_ne hne, List.nil_append]

theorem filter_extract (kind : StatementKind) (t : Text) :
    (extract true t).filter (·.kind = kind) = (occurrences kind.read? t).map (·.2) := by
  rw [← filter_located kind t, extract, List.filter_map]
  rfl

/-- The imports and the re-exports of a text make up one list, each kind as it is found alone, in
the order of their positions and no two at one position. -/
structure AreMerged (t : Text) : Prop where
  extracted : extract true t = (located true t).map (·.2)
  imports : (extract true t).filter (·.kind = .importing) = extract false t
  importsAt : (located true t).filter (·.2.kind = .importing) = located false t
  reexports : ∃ found, reexportGrammar.Leftmost t 0 found ∧
    (located true t).filter (·.2.kind = .reexporting) = Grammar.listed found ∧
    (extract true t).filter (·.kind = .reexporting) = (Grammar.listed found).map (·.2)
  growing : (located true t).Pairwise fun a b => a.1 < b.1
  apart : ∀ first ∈ located true t, ∀ second ∈ located true t,
    first.2.kind = .importing → second.2.kind = .reexporting → first.1 ≠ second.1

/-- Counting re-exports only puts them between the imports. -/
theorem extract_merges (t : Text) : AreMerged t where
  extracted := rfl
  imports := filter_extract .importing t
  importsAt := filter_located .importing t
  reexports := by
    rcases Grammar.occurrences_leftmost reexportGrammar_readBy t with ⟨found, hleftmost, hfound⟩
    have hreexports := filter_extract .reexporting t
    rw [StatementKind.read?, hfound] at hreexports
    exact ⟨found, hleftmost, (filter_located .reexporting t).trans hfound, hreexports⟩
  growing := pairwise_located true t
  apart := by
    intro first hfirst second hsecond himport hreexport
    have hfirst' : first ∈ (located true t).filter (·.2.kind = .importing) :=
      List.mem_filter.mpr ⟨hfirst, decide_eq_true himport⟩
    have hsecond' : second ∈ (located true t).filter (·.2.kind = .reexporting) :=
      List.mem_filter.mpr ⟨hsecond, decide_eq_true hreexport⟩
    rw [filter_located] at hfirst' hsecond'
    exact position_ne hfirst' hsecond'

/-- A re-export may stand inside an import. -/
example : located true "import \x7bexport * from 'a'\x7d from 'b'" =
    [(0, ⟨.importing, "export * from 'a'", "b"⟩), (8, ⟨.reexporting, "*", "a"⟩)] := by
  cbv

end Statement

end ImportAtlas
