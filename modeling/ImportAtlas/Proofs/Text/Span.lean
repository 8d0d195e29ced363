import ImportAtlas.Text.Blank
import ImportAtlas.Text.Word
import Mathlib.Data.List.TakeWhile

/-!
# Runs of a class of code points

Readers take code points of one class as long as they come.  A text stops a class when it does not
begin with one of its members, and a run before such a text is taken as a whole.  Hence a text
splits in one way only into a run and a text that stops it.
-/

namespace ImportAtlas

namespace Text

def stops (p : CodePoint → Bool) : Text → Bool
  | [] => true
  | c :: _ => !p c

@[simp] theorem stops_nil (p : CodePoint → Bool) : stops p [] = true := rfl

@[simp] theorem stops_cons (p : CodePoint → Bool) (c : CodePoint) (t : Text) :
    stops p (c :: t) = !p c := rfl

theorem stops_append_of_ne_nil {p : CodePoint → Bool} {start : Text} (hne : start ≠ [])
    (rest : Text) : stops p (start ++ rest) = stops p start := by
  cases start with
  | nil => exact absurd rfl hne
  | cons c start => rfl

theorem stops_append {p : CodePoint → Bool} {start rest : Text} (hstart : stops p start = true)
    (hrest : stops p rest = true) : stops p (start ++ rest) = true := by
  cases start with
  | nil => exact hrest
  | cons c start => exact hstart

theorem stops_of_forall_mem {p : CodePoint → Bool} {t : Text} (ht : ∀ c ∈ t, p c = false) :
    stops p t = true := by
  cases t with
  | nil => rfl
  | cons c t => simp [ht c (by simp)]

theorem stops_of_isPrefix {p : CodePoint → Bool} {s t : Text} (h : s <+: t)
    (ht : stops p t = true) : stops p s = true := by
  rcases h with ⟨rest, rfl⟩
  cases s with
  | nil => rfl
  | cons c s => exact ht

theorem isPrefix_dropWhile_reverse (p : CodePoint → Bool) (t : Text) :
    (t.reverse.dropWhile p).reverse <+: t := by
  rw [← List.reverse_suffix, List.reverse_reverse]
  exact List.dropWhile_suffix p

theorem stops_dropWhile (p : CodePoint → Bool) (t : Text) : stops p (t.dropWhile p) = true := by
  cases hrest : t.dropWhile p with
  | nil => rfl
  | cons c rest =>
      have hhead := List.head?_dropWhile_not p t
      rw [hrest] at hhead
      simpa using hhead

theorem takeWhile_eq_nil_of_stops {p : CodePoint → Bool} {t : Text} (ht : stops p t = true) :
    t.takeWhile p = [] := by
  cases t with
  | nil => rfl
  | cons c t =>
      have hc : p c = false := by simpa using ht
      simp [hc]

theorem dropWhile_of_stops {p : CodePoint → Bool} {t : Text} (ht : stops p t = true) :
    t.dropWhile p = t := by
  cases t with
  | nil => rfl
  | cons c t =>
      have hc : p c = false := by simpa using ht
      simp [hc]

theorem takeWhile_append_of_stops {p : CodePoint → Bool} {run rest : Text}
    (hrun : ∀ c ∈ run, p c = true) (hrest : stops p rest = true) :
    (run ++ rest).takeWhile p = run := by
  rw [List.takeWhile_append_of_pos hrun, takeWhile_eq_nil_of_stops hrest, List.append_nil]

theorem dropWhile_append_of_stops {p : CodePoint → Bool} {run rest : Text}
    (hrun : ∀ c ∈ run, p c = true) (hrest : stops p rest = true) :
    (run ++ rest).dropWhile p = rest := by
  rw [List.dropWhile_append_of_pos hrun, dropWhile_of_stops hrest]

/-- A run and the text that stops it are determined by the text they make up. -/
theorem append_inj_of_stops {p : CodePoint → Bool} {run run' rest rest' : Text}
    (hrun : ∀ c ∈ run, p c = true) (hrest : stops p rest = true)
    (hrun' : ∀ c ∈ run', p c = true) (hrest' : stops p rest' = true)
    (h : run ++ rest = run' ++ rest') : run = run' ∧ rest = rest' := by
  constructor
  · rw [← takeWhile_append_of_stops hrun hrest, h, takeWhile_append_of_stops hrun' hrest']
  · rw [← dropWhile_append_of_stops hrun hrest, h, dropWhile_append_of_stops hrun' hrest']

/-!
## Leading parts

Reading a fixed word and trimming white space in front are the two ways in which a reader moves on
without taking a value.
-/

theorem after?_eq_some_iff {start t rest : Text} :
    after? start t = some rest ↔ t = start ++ rest := by
  constructor
  · exact eq_append_of_after?
  · intro h
    rw [h]
    exact after?_append start rest

theorem startsWith_singleton (c : CodePoint) (t : Text) :
    startsWith [c] t = !stops (· = c) t := by
  cases t with
  | nil => rfl
  | cons d t =>
      by_cases hd : d = c
      · simp [startsWith, hd]
      · simp [startsWith, List.isPrefixOf, hd, Ne.symm hd]

theorem after?_eq_none_of_stops {word t : Text} {c : CodePoint} (hword : word.head? = some c)
    (ht : stops (· = c) t = true) : after? word t = none := by
  cases word with
  | nil => cases hword
  | cons d word =>
      cases t with
      | nil => rfl
      | cons e t =>
          have hd : d = c := by simpa using hword
          have he : e ≠ c := by simpa using ht
          rw [hd]
          simp [after?, Ne.symm he]

/-- A text does not make up a word together with what follows it, when it has neither all of the
word nor all but the last code point, and what follows begins with none of the others. -/
theorem after?_append_of_stops {word t rest : Text} {c : CodePoint} (hne : t ≠ word)
    (ht : startsWith (word ++ [c]) t = false) (hrest : stops (word.contains ·) rest = true) :
    after? (word ++ [c]) (t ++ rest) = none := by
  have hword : ¬ word ++ [c] <+: t := by
    intro hprefix
    rw [startsWith, List.isPrefixOf_iff_prefix.mpr hprefix] at ht
    cases ht
  cases hafter : after? (word ++ [c]) (t ++ rest) with
  | none => rfl
  | some more =>
      have heq : t ++ rest = word ++ [c] ++ more := eq_append_of_after? hafter
      have hpart : t <+: word ++ [c] :=
        (List.prefix_or_prefix_of_prefix ⟨rest, heq⟩
          (List.prefix_append _ more)).resolve_right hword
      rcases List.prefix_concat_iff.mp hpart with hall | ⟨left, hleft⟩
      · exact absurd (hall ▸ List.prefix_refl _) hword
      · cases left with
        | nil => exact absurd (by simpa using hleft) hne
        | cons d left =>
            rw [← hleft, List.append_assoc, List.append_assoc, List.append_cancel_left_eq] at heq
            have hd : d ∈ word := by simp [← hleft]
            rw [heq] at hrest
            simp [hd] at hrest

theorem trimStart_append {blanks : Text} (hblanks : ∀ c ∈ blanks, c.isBlank = true) (t : Text) :
    trimStart (blanks ++ t) = trimStart t :=
  List.dropWhile_append_of_pos hblanks

theorem trimStart_of_stops {t : Text} (ht : stops CodePoint.isBlank t = true) :
    trimStart t = t :=
  dropWhile_of_stops ht

theorem stops_trimStart (t : Text) : stops CodePoint.isBlank (trimStart t) = true :=
  stops_dropWhile CodePoint.isBlank t

end Text

/-!
## Classes apart

White space, the characters of names, quotes and braces are classes without common members.  For
the two classes that follow a table it is enough to compare the tables range by range.
-/

namespace Ranges

theorem exists_of_contains {ranges : Ranges} {n : Nat} (h : contains ranges n = true) :
    ∃ range ∈ ranges, range.1 ≤ n ∧ n ≤ range.2 := by
  induction ranges with
  | nil => cases h
  | cons range rest ih =>
      rcases range with ⟨low, high⟩
      simp only [contains] at h
      split at h
      · cases h
      · rename_i hlow
        split at h
        · rename_i hhigh
          exact ⟨(low, high), by simp, Nat.not_lt.mp hlow, hhigh⟩
        · rcases ih h with ⟨range, hmem, hrange⟩
          exact ⟨range, List.mem_cons_of_mem _ hmem, hrange⟩

theorem contains_eq_false_of_apart {ranges others : Ranges} {n : Nat}
    (hapart : ∀ range ∈ ranges, ∀ other ∈ others, range.2 < other.1 ∨ other.2 < range.1)
    (h : contains ranges n = true) : contains others n = false := by
  cases hother : contains others n with
  | false => rfl
  | true =>
      rcases exists_of_contains h with ⟨range, hrange, hlow, hhigh⟩
      rcases exists_of_contains hother with ⟨other, hother, hlow', hhigh'⟩
      have := hapart range hrange other hother
      omega

end Ranges

namespace CodePoint

theorem isWord_eq_false_of_isBlank {c : CodePoint} (h : c.isBlank = true) : c.isWord = false :=
  Ranges.contains_eq_false_of_apart (by decide +kernel) h

theorem isNamePart_eq_false_of_isBlank {c : CodePoint} (h : c.isBlank = true) :
    c.isNamePart = false := by
  have hdollar : c ≠ ofChar '$' := by
    intro heq
    rw [heq] at h
    exact absurd h (by decide)
  simp [isNamePart, hdollar, isWord_eq_false_of_isBlank h]

theorem isBlank_eq_false_of_isNamePart {c : CodePoint} (h : c.isNamePart = true) :
    c.isBlank = false := by
  cases hblank : c.isBlank with
  | false => rfl
  | true =>
      rw [isNamePart_eq_false_of_isBlank hblank] at h
      cases h

theorem isNamePart_of_isWord {c : CodePoint} (h : c.isWord = true) : c.isNamePart = true := by
  simp [isNamePart, h]

end CodePoint

end ImportAtlas
