import ImportAtlas.Proofs.Text.Span

/-!
# Trimming

Trimming takes away the members of a class at both ends of a text, be they white space or copies of
one quote.  What is left has no member of the class at either end, and a text that has none is left
as it is.
-/

namespace ImportAtlas

namespace Text

variable {p : CodePoint → Bool} {before core after s t : Text}

structure IsTrimmed (p : CodePoint → Bool) (t : Text) : Prop where
  start : stops p t = true
  final : stops p t.reverse = true

def trimEnds (p : CodePoint → Bool) (t : Text) : Text :=
  ((t.dropWhile p).reverse.dropWhile p).reverse

theorem trim_eq (t : Text) : trim t = trimEnds CodePoint.isBlank t := rfl

theorem trimCopies_eq (c : CodePoint) (t : Text) : trimCopies c t = trimEnds (· = c) t := rfl

instance (p : CodePoint → Bool) (t : Text) : Decidable (IsTrimmed p t) :=
  decidable_of_iff (stops p t = true ∧ stops p t.reverse = true)
    ⟨fun h => ⟨h.left, h.right⟩, fun h => ⟨h.start, h.final⟩⟩

theorem isTrimmed_nil (p : CodePoint → Bool) : IsTrimmed p [] := ⟨rfl, rfl⟩

theorem isTrimmed_append (hs : s ≠ []) (ht : t ≠ []) (hstart : stops p s = true)
    (hfinal : stops p t.reverse = true) : IsTrimmed p (s ++ t) where
  start := by rwa [stops_append_of_ne_nil hs]
  final := by rwa [List.reverse_append, stops_append_of_ne_nil (by simpa using ht)]

/-- A text between two copies of a code point is trimmed of all that this is not. -/
theorem isTrimmed_enclosed {c : CodePoint} (hc : p c = false) (t : Text) :
    IsTrimmed p ([c] ++ (t ++ [c])) where
  start := by simp [hc]
  final := by simp [hc]

/-- What stands around a text without members of the class at its ends is taken away. -/
theorem trimEnds_append (hbefore : ∀ c ∈ before, p c = true) (hafter : ∀ c ∈ after, p c = true)
    (hcore : IsTrimmed p core) : trimEnds p (before ++ (core ++ after)) = core := by
  have hafter' : ∀ c ∈ after.reverse, p c = true := fun c hc => hafter c (List.mem_reverse.mp hc)
  cases core with
  | nil =>
      have hall : ∀ c ∈ before ++ ([] ++ after), p c = true := by
        rw [List.nil_append, List.forall_mem_append]
        exact ⟨hbefore, hafter⟩
      rw [trimEnds, List.dropWhile_eq_nil_iff.mpr hall]
      rfl
  | cons c core =>
      have hstart : stops p (c :: core ++ after) = true := hcore.start
      rw [trimEnds, dropWhile_append_of_stops hbefore hstart, List.reverse_append,
        dropWhile_append_of_stops hafter' hcore.final, List.reverse_reverse]

theorem trimEnds_of_isTrimmed (h : IsTrimmed p t) : trimEnds p t = t := by
  have hplain : trimEnds p ([] ++ (t ++ [])) = t := trimEnds_append (by simp) (by simp) h
  rwa [List.nil_append, List.append_nil] at hplain

theorem isTrimmed_trimEnds (p : CodePoint → Bool) (t : Text) : IsTrimmed p (trimEnds p t) where
  start := stops_of_isPrefix (isPrefix_dropWhile_reverse p _) (stops_dropWhile p t)
  final := by
    rw [trimEnds, List.reverse_reverse]
    exact stops_dropWhile p _

theorem trimEnds_subset (p : CodePoint → Bool) (t : Text) : trimEnds p t ⊆ t :=
  List.Subset.trans (isPrefix_dropWhile_reverse p _).subset (List.dropWhile_sublist p).subset

/-!
## White space
-/

theorem trim_append (hbefore : ∀ c ∈ before, c.isBlank = true)
    (hafter : ∀ c ∈ after, c.isBlank = true) (hcore : IsTrimmed CodePoint.isBlank core) :
    trim (before ++ (core ++ after)) = core :=
  trimEnds_append hbefore hafter hcore

theorem trimEnd_append_of_stops (hs : stops CodePoint.isBlank s.reverse = true) (t : Text) :
    trimEnd (s ++ t) = s ++ trimEnd t := by
  simp only [trimEnd, List.reverse_append, List.dropWhile_append]
  split
  case isTrue hempty => simp [dropWhile_of_stops hs, List.isEmpty_iff.mp hempty]
  case isFalse => simp

theorem exists_eq_trimEnd_append (t : Text) :
    ∃ blanks, (∀ c ∈ blanks, c.isBlank = true) ∧ t = trimEnd t ++ blanks := by
  refine ⟨(t.reverse.takeWhile CodePoint.isBlank).reverse, ?_, ?_⟩
  · intro c hc
    exact List.mem_takeWhile_imp (List.mem_reverse.mp hc)
  · rw [trimEnd, ← List.reverse_append, List.takeWhile_append_dropWhile, List.reverse_reverse]

theorem trim_append_right (hafter : ∀ c ∈ after, c.isBlank = true) (t : Text) :
    trim (t ++ after) = trim t := by
  have hafter' : ∀ c ∈ after.reverse, c.isBlank = true :=
    fun c hc => hafter c (List.mem_reverse.mp hc)
  unfold trim trimStart
  rw [List.dropWhile_append]
  split
  case isTrue hempty =>
    rw [List.isEmpty_iff.mp hempty, List.dropWhile_eq_nil_iff.mpr hafter]
  case isFalse =>
    rw [trimEnd, List.reverse_append, List.dropWhile_append_of_pos hafter', trimEnd]

theorem trim_append_left (hbefore : ∀ c ∈ before, c.isBlank = true) (t : Text) :
    trim (before ++ t) = trim t := by
  rw [trim, trimStart_append hbefore, trim]

theorem trim_append_of_isTrimmed (hs : IsTrimmed CodePoint.isBlank s) (hne : s ≠ []) (t : Text) :
    trim (s ++ t) = s ++ trimEnd t := by
  have hstart : stops CodePoint.isBlank (s ++ t) = true := by
    rw [stops_append_of_ne_nil hne]
    exact hs.start
  rw [trim, trimStart_of_stops hstart, trimEnd_append_of_stops hs.final]

theorem trim_trimEnd (t : Text) : trim (trimEnd t) = trim t := by
  rcases exists_eq_trimEnd_append t with ⟨blanks, hblanks, ht⟩
  calc
    trim (trimEnd t) = trim (trimEnd t ++ blanks) := (trim_append_right hblanks _).symm
    _ = trim t := by rw [← ht]

theorem trimStart_subset (t : Text) : trimStart t ⊆ t := (List.dropWhile_sublist _).subset

theorem trim_subset (t : Text) : trim t ⊆ t := trimEnds_subset _ t

theorem trimCopies_subset (c : CodePoint) (t : Text) : trimCopies c t ⊆ t := trimEnds_subset _ t

end Text

end ImportAtlas
