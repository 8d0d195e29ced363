import ImportAtlas.Proofs.Encoding.WellFormed
import ImportAtlas.Proofs.Statement.Leftmost
import ImportAtlas.Proofs.Text.Trim

/-!
# Labels of well-formed texts

A label is put together from names and list items of a statement and from literals, and a statement
is a part of the text it is found in.  So whatever is extracted from a well-formed text has a
well-formed label.
-/

namespace ImportAtlas

open Text (isWellFormed_append isWellFormed_nil isWellFormed_ofString isWellFormed_join)

/-!
## Clauses
-/

theorem isWellFormed_bindingNames {listed : Text} (h : listed.IsWellFormed) :
    ∀ name ∈ bindingNames listed, name.IsWellFormed := by
  intro name hname
  rcases List.mem_map.mp (List.mem_filter.mp hname).left with ⟨piece, hpiece, rfl⟩
  exact h.mono (List.Subset.trans (Text.trim_subset piece) (Text.subset_of_mem_splitOn hpiece))

theorem isWellFormed_labelSeparator : labelSeparator.IsWellFormed := isWellFormed_ofString _

structure ImportClause.IsWellFormed (clause : ImportClause) : Prop where
  binding : ∀ name ∈ clause.binding, name.IsWellFormed
  renamed : ∀ name ∈ clause.renamed, name.IsWellFormed
  listed : ∀ names ∈ clause.listed, names.IsWellFormed
  namespaceName : ∀ name ∈ clause.namespaceName, name.IsWellFormed

theorem ImportClause.IsWellFormed.label {clause : ImportClause} (h : clause.IsWellFormed) :
    clause.label.IsWellFormed := by
  apply isWellFormed_join isWellFormed_labelSeparator
  intro item hitem
  rcases clause with ⟨binding, renamed, listed, namespaceName⟩
  simp only [items, List.mem_append] at hitem
  rcases hitem with (hfirst | hlisted) | hlast
  · cases binding with
    | none => cases hfirst
    | some name =>
        have hname : name.IsWellFormed := h.binding name rfl
        cases renamed with
        | none =>
            rw [List.mem_singleton.mp hfirst]
            exact hname
        | some newName =>
            rw [List.mem_singleton.mp hfirst]
            exact isWellFormed_append.mpr
              ⟨isWellFormed_append.mpr ⟨hname, isWellFormed_ofString _⟩, h.renamed newName rfl⟩
  · cases listed with
    | none => cases hlisted
    | some names => exact isWellFormed_bindingNames (h.listed names rfl) item hlisted
  · cases namespaceName with
    | none => cases hlast
    | some name =>
        rw [List.mem_singleton.mp hlast]
        exact isWellFormed_append.mpr ⟨isWellFormed_ofString _, h.namespaceName name rfl⟩

namespace Statement

/-!
## Forms
-/

theorem ImportForm.isWellFormed_items {form : ImportForm} (h : form.spell.IsWellFormed) :
    form.body.statement.items.IsWellFormed := by
  rcases form with ⟨afterKeyword, typeWord, binding, group, origin⟩
  simp only [ImportForm.spell, ImportBody.spell, isWellFormed_append] at h
  rcases h with ⟨_, ⟨hbinding, hgroup⟩, _⟩
  apply ImportClause.IsWellFormed.label
  have hname : ∀ found ∈ binding, found.name.text.IsWellFormed ∧
      ∀ renamed ∈ found.renamed, renamed.name.text.IsWellFormed := by
    rintro ⟨name, renamed, comma⟩ rfl
    simp only [Option.elim_some, Binding.spell, isWellFormed_append] at hbinding
    refine ⟨hbinding.left.left, ?_⟩
    rintro renamed rfl
    have hrenamed := hbinding.left.right
    simp only [Option.elim_some, Renaming.spell, isWellFormed_append] at hrenamed
    exact hrenamed.right
  exact {
    binding := by
      intro name hmem
      rcases Option.map_eq_some_iff.mp hmem with ⟨found, hfound, rfl⟩
      exact (hname found hfound).left
    renamed := by
      intro name hmem
      rcases Option.bind_eq_some_iff.mp hmem with ⟨found, hfound, hmem⟩
      rcases Option.map_eq_some_iff.mp hmem with ⟨renamed, hrenamed, rfl⟩
      exact (hname found hfound).right renamed hrenamed
    listed := by
      intro names hmem
      rcases group with _ | listing | star
      · cases hmem
      · cases hmem
        simp only [Option.elim_some, Group.spell, Listing.spell, isWellFormed_append] at hgroup
        exact hgroup.left.right
      · cases hmem
    namespaceName := by
      intro name hmem
      rcases group with _ | listing | star
      · cases hmem
      · cases hmem
      · cases hmem
        simp only [Option.elim_some, Group.spell, Star.spell, isWellFormed_append] at hgroup
        exact hgroup.right }

theorem ReexportForm.isWellFormed_items {form : ReexportForm} (h : form.spell.IsWellFormed) :
    form.statement.items.IsWellFormed := by
  rcases form with ⟨afterKeyword, typeWord, group, before, after, quoted⟩
  simp only [ReexportForm.spell, isWellFormed_append] at h
  have hgroup : group.spell.IsWellFormed := h.right.left
  cases group with
  | listed listing =>
      simp only [ExportGroup.spell, Listing.spell, isWellFormed_append] at hgroup
      exact isWellFormed_join isWellFormed_labelSeparator
        (isWellFormed_bindingNames hgroup.left.right)
  | everything => exact isWellFormed_ofString _
  | renamed star =>
      simp only [ExportGroup.spell, Star.spell, isWellFormed_append] at hgroup
      exact isWellFormed_append.mpr ⟨isWellFormed_ofString _, hgroup.right⟩

/-!
## Whole texts
-/

theorem exists_of_mem_occurrencesFrom {α : Type} {read? : Text → Option (α × Text)} {skip : Nat}
    {afterWord : Bool} {position : Nat} {t : Text} {found : Nat × α}
    (h : found ∈ occurrencesFrom read? skip afterWord position t) :
    ∃ start rest, start <:+ t ∧ read? start = some (found.2, rest) := by
  fun_induction occurrencesFrom read? skip afterWord position t with
  | case1 => cases h
  | case2 _ _ _ c _ ih =>
      rcases ih h with ⟨start, rest, hstart, hread⟩
      exact ⟨start, rest, hstart.trans (List.suffix_cons c _), hread⟩
  | case3 _ _ c _ _ ih =>
      rcases ih h with ⟨start, rest, hstart, hread⟩
      exact ⟨start, rest, hstart.trans (List.suffix_cons c _), hread⟩
  | case4 _ _ c rest value behind hread ih =>
      rcases List.mem_cons.mp h with rfl | h
      · split at hread
        case isTrue => cases hread
        case isFalse => exact ⟨_, behind, List.suffix_refl _, hread⟩
      · rcases ih h with ⟨start, rest, hstart, hread⟩
        exact ⟨start, rest, hstart.trans (List.suffix_cons c _), hread⟩

theorem isWellFormed_items_of_readImport? {t rest : Text} {statement : Statement}
    (ht : t.IsWellFormed) (h : readImport? t = some (statement, rest)) :
    statement.items.IsWellFormed := by
  rcases readImport?_sound h with ⟨form, rfl, rfl⟩
  exact form.isWellFormed_items (isWellFormed_append.mp ht).left

theorem isWellFormed_items_of_readReexport? {t rest : Text} {statement : Statement}
    (ht : t.IsWellFormed) (h : readReexport? t = some (statement, rest)) :
    statement.items.IsWellFormed := by
  rcases readReexport?_sound h with ⟨form, rfl, rfl⟩
  exact form.isWellFormed_items (isWellFormed_append.mp ht).left

theorem isWellFormed_items_of_mem_extract {reexports : Bool} {t : Text} {statement : Statement}
    (ht : t.IsWellFormed) (h : statement ∈ extract reexports t) :
    statement.items.IsWellFormed := by
  rcases List.mem_map.mp h with ⟨found, hfound, rfl⟩
  rcases mem_located_cases hfound with himport | hreexport
  · rcases exists_of_mem_occurrencesFrom himport with ⟨start, rest, hstart, hread⟩
    exact isWellFormed_items_of_readImport? (ht.mono hstart.subset) hread
  · rcases exists_of_mem_occurrencesFrom hreexport with ⟨start, rest, hstart, hread⟩
    exact isWellFormed_items_of_readReexport? (ht.mono hstart.subset) hread

end Statement

end ImportAtlas
