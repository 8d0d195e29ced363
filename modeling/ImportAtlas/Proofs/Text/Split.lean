import ImportAtlas.Proofs.Text.Span

/-!
# Splitting and joining

A text splits at a separator into pieces without separators.  Splitting undoes joining such pieces,
and it may be done on either side of a separator on its own.  Cutting stops at the first separator.
-/

namespace ImportAtlas

namespace Text

theorem splitOn_cons_self (sep : CodePoint) (t : Text) :
    splitOn sep (sep :: t) = [] :: splitOn sep t := by
  simp [splitOn]

theorem splitOn_append_sep (sep : CodePoint) (s t : Text) :
    splitOn sep (s ++ sep :: t) = splitOn sep s ++ splitOn sep t := by
  induction s with
  | nil => simp [splitOn]
  | cons c s ih =>
      rw [List.cons_append]
      by_cases hc : c = sep
      · rw [hc, splitOn_cons_self, splitOn_cons_self, ih, List.cons_append]
      · cases hpieces : splitOn sep s with
        | nil => exact absurd hpieces (splitOn_ne_nil sep s)
        | cons piece pieces =>
            rw [hpieces] at ih
            simp [splitOn, hc, ih, hpieces]

theorem splitOn_of_not_mem {sep : CodePoint} {t : Text} (h : sep ∉ t) : splitOn sep t = [t] := by
  induction t with
  | nil => rfl
  | cons c t ih =>
      rw [List.mem_cons, not_or] at h
      simp [splitOn, Ne.symm h.left, ih h.right]

theorem splitOn_join {sep : CodePoint} {pieces : List Text} (hne : pieces ≠ [])
    (h : ∀ piece ∈ pieces, sep ∉ piece) : splitOn sep (join [sep] pieces) = pieces := by
  induction pieces with
  | nil => exact absurd rfl hne
  | cons piece pieces ih =>
      have hpiece : sep ∉ piece := h piece (by simp)
      cases pieces with
      | nil => exact splitOn_of_not_mem hpiece
      | cons next pieces =>
          have hrest := ih (by simp) fun other hother => h other (by simp [hother])
          rw [join_cons _ _ (by simp), List.append_assoc, List.singleton_append,
            splitOn_append_sep, hrest, splitOn_of_not_mem hpiece, List.singleton_append]

theorem not_mem_of_mem_splitOn {sep : CodePoint} {piece t : Text}
    (h : piece ∈ splitOn sep t) : sep ∉ piece := by
  induction t generalizing piece with
  | nil =>
      have hpiece : piece = [] := by simpa [splitOn] using h
      simp [hpiece]
  | cons c t ih =>
      by_cases hc : c = sep
      · rw [hc, splitOn_cons_self, List.mem_cons] at h
        rcases h with hpiece | hpiece
        · simp [hpiece]
        · exact ih hpiece
      · cases hpieces : splitOn sep t with
        | nil => exact absurd hpieces (splitOn_ne_nil sep t)
        | cons first pieces =>
            have hfirst : sep ∉ first := ih (by simp [hpieces])
            simp only [splitOn, hc, if_false, hpieces, List.mem_cons] at h
            rcases h with hpiece | hpiece
            · rw [hpiece]
              simp [Ne.symm hc, hfirst]
            · exact ih (by simp [hpieces, hpiece])

theorem join_append (sep : Text) {pieces others : List Text} (hpieces : pieces ≠ [])
    (hothers : others ≠ []) :
    join sep (pieces ++ others) = join sep pieces ++ sep ++ join sep others := by
  induction pieces with
  | nil => exact absurd rfl hpieces
  | cons piece pieces ih =>
      rw [List.cons_append, join_cons _ _ (by simp [hothers])]
      cases pieces with
      | nil => rfl
      | cons next pieces =>
          rw [ih (by simp), join_cons sep piece (by simp)]
          simp

theorem flatMap_append_sep (sep : Text) {pieces : List Text} (hpieces : pieces ≠ []) :
    pieces.flatMap (fun piece => piece ++ sep) = join sep pieces ++ sep := by
  induction pieces with
  | nil => exact absurd rfl hpieces
  | cons piece pieces ih =>
      cases pieces with
      | nil => simp [join]
      | cons next pieces =>
          rw [List.flatMap_cons, ih (by simp), join_cons sep piece (by simp)]
          simp

theorem mem_join {sep : Text} {c : CodePoint} {pieces : List Text} (h : c ∈ join sep pieces) :
    c ∈ sep ∨ ∃ piece ∈ pieces, c ∈ piece := by
  induction pieces with
  | nil => cases h
  | cons piece pieces ih =>
      cases pieces with
      | nil => exact Or.inr ⟨piece, by simp, h⟩
      | cons next pieces =>
          rw [join_cons _ _ (by simp), List.mem_append, List.mem_append] at h
          rcases h with (hpiece | hsep) | hrest
          · exact Or.inr ⟨piece, by simp, hpiece⟩
          · exact Or.inl hsep
          · rcases ih hrest with hsep | ⟨other, hother, hc⟩
            · exact Or.inl hsep
            · exact Or.inr ⟨other, by simp [hother], hc⟩

theorem subset_join {sep piece : Text} {pieces : List Text} (h : piece ∈ pieces) :
    piece ⊆ join sep pieces := by
  induction pieces with
  | nil => cases h
  | cons first pieces ih =>
      cases pieces with
      | nil => rw [List.mem_singleton.mp h, join]; exact List.Subset.refl _
      | cons next pieces =>
          rw [join_cons sep first (by simp)]
          rcases List.mem_cons.mp h with rfl | h
          · exact List.Subset.trans (List.subset_append_left _ _) (List.subset_append_left _ _)
          · exact List.Subset.trans (ih h) (List.subset_append_right _ _)

theorem subset_of_mem_splitOn {sep : CodePoint} {piece t : Text} (h : piece ∈ splitOn sep t) :
    piece ⊆ t := by
  have hsubset : piece ⊆ join [sep] (splitOn sep t) := subset_join h
  rwa [join_splitOn] at hsubset

/-!
## Cutting
-/

theorem cut?_append {sep : CodePoint} {before : Text} (h : sep ∉ before) (after : Text) :
    cut? sep (before ++ sep :: after) = some (before, after) := by
  have hbefore : ∀ c ∈ before, decide (c ≠ sep) = true := by
    intro c hc
    exact decide_eq_true fun heq => h (heq ▸ hc)
  have hstops : stops (· ≠ sep) (sep :: after) = true := by simp
  rw [cut?, dropWhile_append_of_stops hbefore hstops, takeWhile_append_of_stops hbefore hstops]

theorem cut?_of_not_mem {sep : CodePoint} {t : Text} (h : sep ∉ t) : cut? sep t = none := by
  have hnone : t.dropWhile (· ≠ sep) = [] := by
    rw [List.dropWhile_eq_nil_iff]
    intro c hc
    exact decide_eq_true fun heq => h (heq ▸ hc)
  rw [cut?, hnone]

theorem cut?_eq_some {sep : CodePoint} {before after t : Text}
    (h : cut? sep t = some (before, after)) : sep ∉ before ∧ before ⊆ t ∧ after ⊆ t := by
  unfold cut? at h
  split at h
  case h_1 => cases h
  case h_2 c rest hrest =>
    simp only [Option.some.injEq, Prod.mk.injEq] at h
    rcases h with ⟨rfl, rfl⟩
    have htail : c :: rest ⊆ t := by
      rw [← hrest]
      exact (List.dropWhile_sublist _).subset
    refine ⟨?_, (List.takeWhile_sublist _).subset,
      List.Subset.trans (List.subset_cons_self c rest) htail⟩
    intro hsep
    simpa using List.mem_takeWhile_imp hsep

end Text

end ImportAtlas
