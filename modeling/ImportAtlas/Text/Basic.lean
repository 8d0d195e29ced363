import ImportAtlas.Text.CodePoint

/-!
# Texts

A text is a list of code points.  String literals stand for texts through a coercion, so messages
and keywords are written in place.
-/

namespace ImportAtlas

abbrev Text := List CodePoint

namespace Text

def ofString (s : String) : Text := s.toList.map CodePoint.ofChar

instance : Coe String Text := ⟨ofString⟩

def after? : Text → Text → Option Text
  | [], t => some t
  | _ :: _, [] => none
  | c :: start, d :: t => if c = d then after? start t else none

theorem after?_append (start rest : Text) : after? start (start ++ rest) = some rest := by
  induction start with
  | nil => rfl
  | cons c start ih => simp [after?, ih]

theorem eq_append_of_after? {start t rest : Text} (h : after? start t = some rest) :
    t = start ++ rest := by
  induction start generalizing t with
  | nil =>
      simp only [after?, Option.some.injEq] at h
      simp [h]
  | cons c start ih =>
      cases t with
      | nil => simp [after?] at h
      | cons d t =>
          simp only [after?] at h
          split at h
          case isTrue same => simp [same, ih h]
          case isFalse => simp at h

def startsWith (start t : Text) : Bool := start.isPrefixOf t

def endsWith (final t : Text) : Bool := final.isSuffixOf t

/-!
# Splitting and joining

A text with `n` separators has `n + 1` pieces, so joining the pieces with the separator gives the
text back.
-/

def splitOn (sep : CodePoint) : Text → List Text
  | [] => [[]]
  | c :: rest =>
      if c = sep then [] :: splitOn sep rest
      else
        match splitOn sep rest with
        | [] => [[c]]
        | piece :: pieces => (c :: piece) :: pieces

theorem splitOn_ne_nil (sep : CodePoint) (t : Text) : splitOn sep t ≠ [] := by
  cases t with
  | nil => simp [splitOn]
  | cons c rest =>
      simp only [splitOn]
      split
      · simp
      · split <;> simp

def join (sep : Text) : List Text → Text
  | [] => []
  | [piece] => piece
  | piece :: next :: pieces => piece ++ sep ++ join sep (next :: pieces)

theorem join_cons (sep piece : Text) {pieces : List Text} (h : pieces ≠ []) :
    join sep (piece :: pieces) = piece ++ sep ++ join sep pieces := by
  cases pieces with
  | nil => exact absurd rfl h
  | cons next pieces => rfl

theorem join_splitOn (sep : CodePoint) (t : Text) : join [sep] (splitOn sep t) = t := by
  induction t with
  | nil => rfl
  | cons c rest ih =>
      simp only [splitOn]
      split
      case isTrue same =>
        rw [join_cons _ _ (splitOn_ne_nil sep rest), ih, same]
        rfl
      case isFalse =>
        cases pieces : splitOn sep rest with
        | nil => exact absurd pieces (splitOn_ne_nil sep rest)
        | cons piece more =>
            rw [pieces] at ih
            cases more with
            | nil =>
                simp only [join] at ih ⊢
                rw [ih]
            | cons next more =>
                simp only [join] at ih ⊢
                simp only [List.cons_append, List.append_assoc] at ih ⊢
                rw [ih]

def cut? (sep : CodePoint) (t : Text) : Option (Text × Text) :=
  match t.dropWhile (· ≠ sep) with
  | [] => none
  | _ :: rest => some (t.takeWhile (· ≠ sep), rest)

def replace (old : CodePoint) (new : Text) (t : Text) : Text :=
  t.flatMap fun c => if c = old then new else [c]

/-!
# Order

Names are listed in the order of their code points, which is the order of a dictionary: the first
difference decides, and a text comes before its extensions.
-/

def le : Text → Text → Bool
  | [], _ => true
  | _ :: _, [] => false
  | a :: s, b :: t =>
      if a.val < b.val then true
      else if b.val < a.val then false
      else le s t

theorem le_refl (t : Text) : le t t = true := by
  induction t with
  | nil => rfl
  | cons c t ih => simp [le, ih]

theorem le_total (s t : Text) : (le s t || le t s) = true := by
  induction s generalizing t with
  | nil => simp [le]
  | cons a s ih =>
      cases t with
      | nil => simp [le]
      | cons b t =>
          by_cases hab : a.val < b.val
          · simp [le, hab]
          · by_cases hba : b.val < a.val
            · simp [le, hba]
            · simpa [le, hab, hba] using ih t

theorem le_trans {r s t : Text} (h : le r s = true) (h' : le s t = true) : le r t = true := by
  induction r generalizing s t with
  | nil => rfl
  | cons a r ih =>
      cases s with
      | nil => simp [le] at h
      | cons b s =>
          cases t with
          | nil => simp [le] at h'
          | cons c t =>
              simp only [le] at h h' ⊢
              by_cases hab : a.val < b.val
              · by_cases hbc : b.val < c.val
                · simp [Nat.lt_trans hab hbc]
                · by_cases hcb : c.val < b.val
                  · simp [hbc, hcb] at h'
                  · have : a.val < c.val := by omega
                    simp [this]
              · by_cases hba : b.val < a.val
                · simp [hab, hba] at h
                · simp only [hab, hba, if_false] at h
                  have same : a.val = b.val := by omega
                  rw [same]
                  by_cases hbc : b.val < c.val
                  · simp [hbc]
                  · by_cases hcb : c.val < b.val
                    · simp [hbc, hcb] at h'
                    · simp only [hbc, hcb, if_false] at h' ⊢
                      exact ih h h'

theorem le_antisymm {s t : Text} (h : le s t = true) (h' : le t s = true) : s = t := by
  induction s generalizing t with
  | nil =>
      cases t with
      | nil => rfl
      | cons b t => simp [le] at h'
  | cons a s ih =>
      cases t with
      | nil => simp [le] at h
      | cons b t =>
          simp only [le] at h h'
          by_cases hab : a.val < b.val
          · simp [hab, Nat.not_lt.2 (Nat.le_of_lt hab)] at h'
          · by_cases hba : b.val < a.val
            · simp [hab, hba] at h
            · simp only [hab, hba, if_false] at h h'
              have same : a = b := CodePoint.ext (by omega)
              rw [same, ih h h']

end Text

end ImportAtlas
