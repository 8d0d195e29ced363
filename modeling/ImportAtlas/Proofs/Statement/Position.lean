import ImportAtlas.Proofs.Statement.Keyword

/-!
# Positions of statements

The statements of a text are listed by growing positions.  Each search finds them so, since it goes
on behind a statement; and where the two searches are put together no position is listed twice,
since no keyword is the other one.
-/

namespace ImportAtlas

namespace Statement

namespace Grammar

variable {G : Grammar} {read? : Text → Option (Statement × Text)} {t : Text} {start : Nat}
  {found : List (Nat × G.Form)}

theorem Leftmost.pairwise (hread : G.ReadBy read?) (h : G.Leftmost t start found) :
    found.Pairwise fun a b => a.1 < b.1 := by
  induction h with
  | done _ => exact List.Pairwise.nil
  | @next _ position form _ _ _ _ hmore ih =>
      apply List.Pairwise.cons _ ih
      intro occurrence hmem
      have hlength := List.length_pos_iff.mpr (hread.nonempty form)
      have hbehind := (hmore.occursAt hmem).left
      unfold Grammar.behind at hbehind
      show position < occurrence.1
      omega

theorem pairwise_occurrences (hread : G.ReadBy read?) (t : Text) :
    (occurrences read? t).Pairwise fun a b => a.1 < b.1 := by
  rcases occurrences_leftmost hread t with ⟨found, hfound, hsearch⟩
  rw [hsearch]
  exact List.pairwise_map.mpr (hfound.pairwise hread)

theorem read?_ne_none_of_mem_occurrences (hread : G.ReadBy read?) {occurrence : Nat × Statement}
    (hmem : occurrence ∈ occurrences read? t) : read? (t.drop occurrence.1) ≠ none := by
  rcases exists_form_of_mem_occurrences hread hmem with ⟨form, hoccurs, _⟩
  intro hnone
  have hsome := readAt?_complete hread hoccurs
  rw [readAt?, hnone, ite_self] at hsome
  cases hsome

end Grammar

/-- An import and a re-export do not begin at the same place. -/
theorem position_ne {t : Text} {first second : Nat × Statement}
    (hfirst : first ∈ occurrences readImport? t)
    (hsecond : second ∈ occurrences readReexport? t) : first.1 ≠ second.1 := by
  intro heq
  have himport : StatementKind.importing.read? (t.drop first.1) ≠ none :=
    Grammar.read?_ne_none_of_mem_occurrences importGrammar_readBy hfirst
  have hreexport : StatementKind.reexporting.read? (t.drop second.1) ≠ none :=
    Grammar.read?_ne_none_of_mem_occurrences reexportGrammar_readBy hsecond
  rcases StatementKind.exists_of_read? himport with ⟨spaces, rest, hspelled⟩
  rcases StatementKind.exists_of_read? hreexport with ⟨spaces', rest', hspelled'⟩
  rw [heq, hspelled'] at hspelled
  have hletters := congrArg List.head? hspelled
  exact absurd hletters (by simp [StatementKind.keyword, Text.ofString, CodePoint.ofChar_inj])

theorem pairwise_merge_positions {found others : List (Nat × Statement)}
    (hfound : found.Pairwise fun a b => a.1 < b.1) (hothers : others.Pairwise fun a b => a.1 < b.1)
    (hapart : ∀ a ∈ found, ∀ b ∈ others, a.1 ≠ b.1) :
    (List.merge found others fun a b => a.1 ≤ b.1).Pairwise fun a b => a.1 < b.1 := by
  have htrans : ∀ a b c : Nat × Statement, decide (a.1 ≤ b.1) = true →
      decide (b.1 ≤ c.1) = true → decide (a.1 ≤ c.1) = true := by
    intro a b c hab hbc
    exact decide_eq_true (Nat.le_trans (of_decide_eq_true hab) (of_decide_eq_true hbc))
  have htotal : ∀ a b : Nat × Statement, (decide (a.1 ≤ b.1) || decide (b.1 ≤ a.1)) = true := by
    intro a b
    rw [Bool.or_eq_true, decide_eq_true_eq, decide_eq_true_eq]
    exact Nat.le_total a.1 b.1
  have hle := List.pairwise_merge htrans htotal found others
    (hfound.imp fun hlt => decide_eq_true (Nat.le_of_lt hlt))
    (hothers.imp fun hlt => decide_eq_true (Nat.le_of_lt hlt))
  have happend : (found ++ others).Pairwise fun a b => a.1 ≠ b.1 := by
    rw [List.pairwise_append]
    exact ⟨hfound.imp Nat.ne_of_lt, hothers.imp Nat.ne_of_lt, hapart⟩
  have hne := ((List.merge_perm_append fun a b : Nat × Statement => a.1 ≤ b.1).pairwise_iff
    Ne.symm).mpr happend
  apply (hle.and hne).imp
  intro a b hboth
  exact Nat.lt_of_le_of_ne (of_decide_eq_true hboth.left) hboth.right

theorem pairwise_located (reexports : Bool) (t : Text) :
    (located reexports t).Pairwise fun a b => a.1 < b.1 := by
  have himports := Grammar.pairwise_occurrences importGrammar_readBy t
  cases reexports with
  | false => exact himports
  | true =>
      exact pairwise_merge_positions himports
        (Grammar.pairwise_occurrences reexportGrammar_readBy t)
        fun first hfirst second hsecond => position_ne hfirst hsecond

end Statement

end ImportAtlas
