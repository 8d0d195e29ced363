import ImportAtlas.Proofs.Text.Split
import ImportAtlas.Text.Lines

/-!
# Lines and their endings

A text is written line by line, each line ended by a line feed, a carriage return or both.  Once
every ending has become a line feed the text splits into these lines again, with one exception: a
carriage return and the line feed of an empty line behind it are taken for one ending.  So the lines
come back as far as nothing is asked of the empty ones.
-/

namespace ImportAtlas

inductive LineEnd where
  | lineFeed
  | carriageReturn
  | both

def LineEnd.spell : LineEnd → Text
  | lineFeed => "\n"
  | carriageReturn => "\r"
  | both => "\r\n"

namespace Text

variable {line rest done s t : Text} {c : CodePoint} {afterReturn : Bool}

def IsUnbroken (t : Text) : Prop := ∀ c ∈ t, c.isLineBreak = false

instance (t : Text) : Decidable t.IsUnbroken :=
  inferInstanceAs (Decidable (∀ c ∈ t, c.isLineBreak = false))

theorem isUnbroken_cons : IsUnbroken (c :: t) ↔ c.isLineBreak = false ∧ IsUnbroken t :=
  List.forall_mem_cons

theorem isUnbroken_append : IsUnbroken (s ++ t) ↔ IsUnbroken s ∧ IsUnbroken t :=
  List.forall_mem_append

theorem IsUnbroken.return_not_mem (h : IsUnbroken t) : CodePoint.ofChar '\r' ∉ t :=
  fun hmem => absurd (h _ hmem) (by decide)

theorem lines_append (hline : IsUnbroken line) (hc : c.isLineBreak = true) (rest : Text) :
    lines (line ++ c :: rest) = line :: lines rest := by
  induction line with
  | nil => simp [lines, hc]
  | cons d line ih =>
      rw [isUnbroken_cons] at hline
      rw [List.cons_append, lines, if_neg (by simp [hline.left]), ih hline.right]

theorem subset_of_mem_lines (h : line ∈ lines t) : line ⊆ t := by
  induction t generalizing line with
  | nil => cases h
  | cons c t ih =>
      simp only [lines] at h
      split at h
      case isTrue =>
        rcases List.mem_cons.mp h with rfl | h
        · exact List.nil_subset _
        · exact List.Subset.trans (ih h) (List.subset_cons_self c t)
      case isFalse =>
        cases hlines : lines t with
        | nil =>
            rw [hlines] at h
            rw [List.mem_singleton.mp h]
            exact List.cons_subset_cons c (List.nil_subset t)
        | cons first more =>
            rw [hlines] at h ih
            rcases List.mem_cons.mp h with rfl | h
            · exact List.cons_subset_cons c (ih (by simp))
            · exact List.Subset.trans (ih (List.mem_cons_of_mem _ h)) (List.subset_cons_self c t)

theorem unifyNewlinesFrom_eq (done : Text) (afterReturn : Bool) (t : Text) :
    unifyNewlinesFrom done afterReturn t =
      done.reverse ++ unifyNewlinesFrom [] afterReturn t := by
  induction t generalizing done afterReturn with
  | nil => simp [unifyNewlinesFrom]
  | cons c t ih =>
      simp only [unifyNewlinesFrom]
      split
      case isTrue =>
        rw [ih (CodePoint.ofChar '\n' :: done), ih [CodePoint.ofChar '\n']]
        simp
      case isFalse =>
        split
        case isTrue => exact ih done false
        case isFalse =>
          rw [ih (c :: done), ih [c]]
          simp

theorem unifyNewlinesFrom_append (hline : CodePoint.ofChar '\r' ∉ line) (rest : Text) :
    unifyNewlinesFrom [] false (line ++ rest) = line ++ unifyNewlinesFrom [] false rest := by
  induction line with
  | nil => rfl
  | cons c line ih =>
      rw [List.mem_cons, not_or] at hline
      have hstep : unifyNewlinesFrom [] false (c :: (line ++ rest)) =
          unifyNewlinesFrom [c] false (line ++ rest) := by
        simp [unifyNewlinesFrom, Ne.symm hline.left]
      rw [List.cons_append, hstep, unifyNewlinesFrom_eq, ih hline.right]
      rfl

/-- A carriage return before a text matters only where the text begins with a line feed. -/
theorem unifyNewlinesFrom_true (h : ∀ more, t ≠ CodePoint.ofChar '\n' :: more) :
    unifyNewlinesFrom [] true t = unifyNewlinesFrom [] false t := by
  cases t with
  | nil => rfl
  | cons c t =>
      have hlineFeed : c ≠ CodePoint.ofChar '\n' := by
        rintro rfl
        exact h t rfl
      simp [unifyNewlinesFrom, hlineFeed]

theorem exists_unifyNewlinesFrom_lineEnd (ending : LineEnd) (rest : Text) :
    ∃ afterReturn, unifyNewlinesFrom [] false (ending.spell ++ rest) =
      CodePoint.ofChar '\n' :: unifyNewlinesFrom [] afterReturn rest := by
  cases ending with
  | lineFeed => exact ⟨false, unifyNewlinesFrom_eq [CodePoint.ofChar '\n'] false rest⟩
  | carriageReturn => exact ⟨true, unifyNewlinesFrom_eq [CodePoint.ofChar '\n'] true rest⟩
  | both => exact ⟨false, unifyNewlinesFrom_eq [CodePoint.ofChar '\n'] false rest⟩

def ofLines (lines : List (Text × LineEnd)) : Text :=
  lines.flatMap fun line => line.1 ++ line.2.spell

@[simp] theorem ofLines_cons (line : Text × LineEnd) (lines : List (Text × LineEnd)) :
    ofLines (line :: lines) = line.1 ++ (line.2.spell ++ ofLines lines) := by
  simp [ofLines]

theorem filterMap_lines_unifyNewlinesFrom {α : Type} {read : Text → Option α}
    (hempty : read [] = none) {written : List (Text × LineEnd)}
    (h : ∀ line ∈ written, IsUnbroken line.1) (afterReturn : Bool) :
    (lines (unifyNewlinesFrom [] afterReturn (ofLines written))).filterMap read =
      (written.map (·.1)).filterMap read := by
  induction written generalizing afterReturn with
  | nil => rfl
  | cons line written ih =>
      rcases line with ⟨line, ending⟩
      rw [List.forall_mem_cons] at h
      have hplain : (lines (unifyNewlinesFrom [] false (ofLines ((line, ending) :: written)))
          ).filterMap read = ((line :: written.map (·.1)).filterMap read) := by
        rcases exists_unifyNewlinesFrom_lineEnd ending (ofLines written) with ⟨after, hafter⟩
        rw [ofLines_cons, unifyNewlinesFrom_append h.left.return_not_mem, hafter,
          lines_append h.left (by decide), List.filterMap_cons, List.filterMap_cons, ih h.right]
      cases afterReturn with
      | false => exact hplain
      | true =>
          cases line with
          | nil =>
              cases ending with
              | lineFeed =>
                  have hlost : unifyNewlinesFrom [] true (ofLines (([], .lineFeed) :: written)) =
                      unifyNewlinesFrom [] false (ofLines written) := rfl
                  rw [hlost, ih h.right, List.map_cons, List.filterMap_cons, hempty]
              | carriageReturn => exact hplain
              | both => exact hplain
          | cons c line =>
              rw [unifyNewlinesFrom_true]
              · exact hplain
              · intro more hmore
                have hc : c = CodePoint.ofChar '\n' := (List.cons.inj hmore).left
                exact absurd ((isUnbroken_cons.mp h.left).left) (by rw [hc]; decide)

/-!
## Texts in which a line may end

Of the code points other than the two that end lines none is lost and none is added.
-/

theorem unifyNewlines_of_not_mem (h : CodePoint.ofChar '\r' ∉ t) : unifyNewlines t = t := by
  simpa [unifyNewlines, unifyNewlinesFrom] using unifyNewlinesFrom_append h []

theorem unifyNewlines_append_return (hline : CodePoint.ofChar '\r' ∉ line) (rest : Text) :
    unifyNewlines (line ++ CodePoint.ofChar '\r' :: rest) =
      line ++ CodePoint.ofChar '\n' :: unifyNewlinesFrom [] true rest := by
  have hreturn : unifyNewlinesFrom [] false (CodePoint.ofChar '\r' :: rest) =
      unifyNewlinesFrom [CodePoint.ofChar '\n'] true rest := rfl
  rw [unifyNewlines, unifyNewlinesFrom_append hline, hreturn, unifyNewlinesFrom_eq]
  rfl

theorem unifyNewlines_append_both (hline : CodePoint.ofChar '\r' ∉ line) (rest : Text) :
    unifyNewlines (line ++ CodePoint.ofChar '\r' :: CodePoint.ofChar '\n' :: rest) =
      line ++ CodePoint.ofChar '\n' :: unifyNewlines rest := by
  rw [unifyNewlines_append_return hline]
  rfl

theorem return_not_mem_unifyNewlinesFrom (hdone : CodePoint.ofChar '\r' ∉ done)
    (afterReturn : Bool) (t : Text) :
    CodePoint.ofChar '\r' ∉ unifyNewlinesFrom done afterReturn t := by
  induction t generalizing done afterReturn with
  | nil => simpa [unifyNewlinesFrom] using hdone
  | cons c t ih =>
      simp only [unifyNewlinesFrom]
      split
      case isTrue => exact ih (by simpa using hdone) true
      case isFalse hc =>
        split
        case isTrue => exact ih hdone false
        case isFalse => exact ih (by simp [hdone, Ne.symm hc]) false

theorem return_not_mem_unifyNewlines (t : Text) : CodePoint.ofChar '\r' ∉ unifyNewlines t :=
  return_not_mem_unifyNewlinesFrom List.not_mem_nil false t

/-- A text whose line endings come to no line feed has none. -/
theorem eq_of_unifyNewlines_eq (h : unifyNewlines t = s) (hs : CodePoint.ofChar '\n' ∉ s) :
    t = s := by
  by_cases hreturn : CodePoint.ofChar '\r' ∈ t
  · rcases List.eq_append_cons_of_mem hreturn with ⟨line, rest, rfl, hline⟩
    rw [unifyNewlines_append_return hline] at h
    rw [← h] at hs
    simp at hs
  · rw [← h, unifyNewlines_of_not_mem hreturn]

theorem unifyNewlinesFrom_append_cons (hreturn : c ≠ CodePoint.ofChar '\r')
    (hlineFeed : c ≠ CodePoint.ofChar '\n') (afterReturn : Bool) (s t : Text) :
    unifyNewlinesFrom [] afterReturn (s ++ c :: t) =
      unifyNewlinesFrom [] afterReturn s ++ c :: unifyNewlines t := by
  induction s generalizing afterReturn with
  | nil =>
      have hstep : unifyNewlinesFrom [] afterReturn (c :: t) = unifyNewlinesFrom [c] false t := by
        simp [unifyNewlinesFrom, hreturn, hlineFeed]
      rw [List.nil_append, hstep, unifyNewlinesFrom_eq]
      rfl
  | cons d s ih =>
      simp only [List.cons_append, unifyNewlinesFrom]
      split
      case isTrue =>
        rw [unifyNewlinesFrom_eq, ih, unifyNewlinesFrom_eq [CodePoint.ofChar '\n'] true s]
        simp
      case isFalse =>
        split
        case isTrue => exact ih false
        case isFalse =>
          rw [unifyNewlinesFrom_eq, ih, unifyNewlinesFrom_eq [d] false s]
          simp

theorem mem_of_mem_unifyNewlinesFrom (hlineFeed : c ≠ CodePoint.ofChar '\n')
    (h : c ∈ unifyNewlinesFrom done afterReturn t) : c ∈ done ∨ c ∈ t := by
  induction t generalizing done afterReturn with
  | nil => exact Or.inl (by simpa [unifyNewlinesFrom] using h)
  | cons d t ih =>
      simp only [unifyNewlinesFrom] at h
      split at h
      case isTrue =>
        rcases ih h with hdone | ht
        · exact Or.inl (by simpa [hlineFeed] using hdone)
        · exact Or.inr (List.mem_cons_of_mem _ ht)
      case isFalse =>
        split at h
        case isTrue => exact (ih h).imp_right (List.mem_cons_of_mem _)
        case isFalse =>
          rcases ih h with hdone | ht
          · rcases List.mem_cons.mp hdone with rfl | hdone
            · exact Or.inr List.mem_cons_self
            · exact Or.inl hdone
          · exact Or.inr (List.mem_cons_of_mem _ ht)

theorem unifyNewlines_join (hreturn : c ≠ CodePoint.ofChar '\r')
    (hlineFeed : c ≠ CodePoint.ofChar '\n') (pieces : List Text) :
    unifyNewlines (join [c] pieces) = join [c] (pieces.map unifyNewlines) := by
  induction pieces with
  | nil => rfl
  | cons piece pieces ih =>
      by_cases hne : pieces = []
      · rw [hne]
        rfl
      · rw [List.map_cons, join_cons _ _ hne, join_cons _ _ (by simpa using hne), ← ih,
          List.append_assoc, List.append_assoc]
        exact unifyNewlinesFrom_append_cons hreturn hlineFeed false piece _

theorem splitOn_unifyNewlines (hreturn : c ≠ CodePoint.ofChar '\r')
    (hlineFeed : c ≠ CodePoint.ofChar '\n') (t : Text) :
    splitOn c (unifyNewlines t) = (splitOn c t).map unifyNewlines := by
  have hpieces : ∀ piece ∈ (splitOn c t).map unifyNewlines, c ∉ piece := by
    intro piece hpiece hc
    rcases List.mem_map.mp hpiece with ⟨whole, hwhole, rfl⟩
    rcases mem_of_mem_unifyNewlinesFrom hlineFeed hc with hc | hc
    · cases hc
    · exact not_mem_of_mem_splitOn hwhole hc
  have hjoined : join [c] ((splitOn c t).map unifyNewlines) = unifyNewlines t := by
    rw [← unifyNewlines_join hreturn hlineFeed, join_splitOn]
  rw [← hjoined]
  exact splitOn_join (by simpa using splitOn_ne_nil c t) hpieces

end Text

end ImportAtlas
