import ImportAtlas.Proofs.Path.Normal

/-!
# Files of a directory

A normal path is its directory, a slash, and its file name; only a root brings its slash along.  So
reading the file name from the directory spells the file again.  There is one exception.  The place
where paths are read has no spelling of its own and is written as a point.  A path read from that
point keeps it in front, which no normal path does.
-/

namespace ImportAtlas

open ImportAtlas.Path

namespace Path

variable {base root name path : Text}

/-!
## Directories as texts
-/

theorem directory_append_slash (hbase : base ≠ [])
    (hend : Text.stops isSlash base.reverse = true) (hname : CodePoint.ofChar '/' ∉ name) :
    directory (base ++ "/" ++ name) = base := by
  have hfront : base ++ Text.ofString "/" = [] ∨
      ∃ more, base ++ Text.ofString "/" = more ++ [CodePoint.ofChar '/'] := Or.inr ⟨base, rfl⟩
  have hhead : ((base ++ "/" ++ name).reverse.dropWhile (· ≠ CodePoint.ofChar '/')).reverse =
      base ++ Text.ofString "/" := by
    rw [(cut_append hfront hname).right, List.reverse_reverse]
  have hother : ¬ (base ++ Text.ofString "/").all isSlash = true := by
    intro hall
    cases hreverse : base.reverse with
    | nil => exact hbase (List.reverse_eq_nil_iff.mp hreverse)
    | cons c more =>
        rw [hreverse, Text.stops_cons, Bool.not_eq_true'] at hend
        have hmem : c ∈ base ++ Text.ofString "/" :=
          List.mem_append_left _ (List.mem_reverse.mp (hreverse ▸ List.mem_cons_self))
        rw [List.all_eq_true.mp hall c hmem] at hend
        cases hend
  unfold directory
  rw [hhead]
  refine (if_neg hother).trans ?_
  rw [List.reverse_append]
  show ((CodePoint.ofChar '/' :: base.reverse).dropWhile isSlash).reverse = base
  rw [List.dropWhile_cons_of_pos rfl, Text.dropWhile_of_stops hend, List.reverse_reverse]

theorem directory_root_append (hroot : IsRoot root) (hname : CodePoint.ofChar '/' ∉ name) :
    directory (root ++ name) = root := by
  have hfront : root = [] ∨ ∃ more, root = more ++ [CodePoint.ofChar '/'] := by
    have hstem := stem_cases hroot []
    rw [stem_nil] at hstem
    exact hstem
  unfold directory
  rw [(cut_append hfront hname).right, List.reverse_reverse]
  exact if_pos (all_isSlash_of_isRoot hroot)

theorem join_of_stops (hbase : base ≠ []) (hend : Text.stops isSlash base.reverse = true)
    (hpath : Text.stops isSlash path = true) : join base path = base ++ "/" ++ path := by
  unfold join
  rw [startsWith_slash hpath, endsWith_slash hend]
  simp [hbase]

theorem join_root (hroot : IsRoot root) (hpath : Text.stops isSlash path = true) :
    join root path = root ++ path := by
  have hplain : ∀ name ∈ ([] : List Text), IsPlain name := by
    intro name hname
    cases hname
  have hjoin := join_spell hroot hplain hpath
  rw [spell_nil, stem_nil] at hjoin
  exact hjoin

end Path

namespace NormalPath

variable {place : NormalPath} {front : List Text} {last : Text}

theorem stops_isSlash_spell_concat (root : Text) (hne : last ≠ [])
    (hlast : CodePoint.ofChar '/' ∉ last) :
    Text.stops isSlash (spell root (front ++ [last])).reverse = true := by
  rw [spell_append root front (List.cons_ne_nil last []), List.reverse_append]
  show Text.stops isSlash (last.reverse ++ _) = true
  rw [Text.stops_append_of_ne_nil (by simpa using hne)]
  apply stops_isSlash_of_unslashed
  rw [List.mem_reverse]
  exact hlast

theorem IsReduced.spell_front (h : place.IsReduced) (hparts : place.parts = front ++ [last])
    (hfront : front ≠ []) : spell place.root front ≠ [] ∧
      Text.stops isSlash (spell place.root front).reverse = true := by
  rcases List.eq_nil_or_concat front with hnil | ⟨more, next, hconcat⟩
  · exact absurd hnil hfront
  · rw [List.concat_eq_append] at hconcat
    have hmem : next ∈ place.parts := by simp [hparts, hconcat]
    have hnext := h.part hmem
    rw [hconcat]
    refine ⟨?_, stops_isSlash_spell_concat place.root hnext.left hnext.right.right⟩
    rw [spell_append _ _ (List.cons_ne_nil next [])]
    intro hnil
    exact hnext.left (List.append_eq_nil_iff.mp hnil).right

theorem IsReduced.directory_toText (h : place.IsReduced) :
    Path.directory place.toText = spell place.root place.directory.parts := by
  rw [parts_directory]
  rcases List.eq_nil_or_concat place.parts with hnil | ⟨front, last, hconcat⟩
  · unfold toText
    rw [hnil, List.dropLast_nil, spell_nil]
    rcases h.isRoot with hroot | hroot | hroot <;> rw [hroot] <;> rfl
  · rw [List.concat_eq_append] at hconcat
    have hlast := h.unslashed hconcat
    rw [h.toText_concat hconcat, hconcat, List.dropLast_concat]
    by_cases hfront : front = []
    · rw [hfront, stem_nil, spell_nil]
      exact directory_root_append h.isRoot hlast
    · rcases h.spell_front hconcat hfront with ⟨hne, hstop⟩
      rw [stem_of_ne_nil hfront]
      exact directory_append_slash hne hstop hlast

theorem IsReduced.directoryOrHere_toText (h : place.IsReduced) :
    directoryOrHere place.toText = place.directory.toText := by
  have hspell : place.directory.toText =
      if spell place.root place.directory.parts = [] then Text.ofString "."
      else spell place.root place.directory.parts := by
    unfold toText
    rw [root_directory]
  unfold directoryOrHere
  rw [hspell, h.directory_toText]

theorem IsReduced.join_front (h : place.IsReduced) (hparts : place.parts = front ++ [last])
    (hne : spell place.root front ≠ []) :
    join (spell place.root front) last = place.toText := by
  have hlast := stops_isSlash_of_unslashed (h.unslashed hparts)
  rw [h.toText_concat hparts]
  by_cases hfront : front = []
  · rw [hfront, spell_nil, stem_nil]
    exact join_root h.isRoot hlast
  · rw [stem_of_ne_nil hfront]
    exact join_of_stops hne (h.spell_front hparts hfront).right hlast

theorem IsReduced.toText_ofText (h : place.IsReduced) :
    (TidyPath.ofText place.toText).toText = place.toText := by
  unfold TidyPath.ofText TidyPath.toText
  rw [h.root_toText, h.names_toText]
  rfl

end NormalPath

namespace Path

open ImportAtlas.NormalPath

variable {path name : Text}

/-!
## Reading a file name from its directory
-/

theorem normalize_normalize (path : Text) : normalize (normalize path) = normalize path := by
  rw [normalize_eq_toText path]
  exact ((isReduced_start path).follow path).normalize_toText

theorem normalize_directoryOrHere (h : normalize path = path) :
    normalize (directoryOrHere path) = directoryOrHere path := by
  rcases normalize_eq_self_iff.mp h with ⟨place, hplace, hpath⟩
  rw [← hpath, hplace.directoryOrHere_toText]
  exact hplace.directory.normalize_toText

/-- A file name read from the directory of the file spells the file, unless the directory is the
place where paths are read. -/
theorem join_directoryOrHere_fileName (h : normalize path = path)
    (hdirectory : directoryOrHere path ≠ ".") :
    join (directoryOrHere path) (fileName path) = path := by
  rcases normalize_eq_self_iff.mp h with ⟨place, hplace, hpath⟩
  rw [← hpath] at hdirectory ⊢
  unfold directoryOrHere at hdirectory ⊢
  rw [hplace.directory_toText, parts_directory] at hdirectory ⊢
  have hne : spell place.root place.parts.dropLast ≠ [] := by
    intro hnil
    rw [hnil] at hdirectory
    exact hdirectory rfl
  show join (if spell place.root place.parts.dropLast = [] then _ else _) _ = _
  rw [if_neg hne]
  rcases List.eq_nil_or_concat place.parts with hnil | ⟨front, last, hconcat⟩
  · rw [hnil, List.dropLast_nil, spell_nil] at hne ⊢
    unfold NormalPath.toText
    rw [hnil, spell_nil]
    rcases hplace.isRoot with hroot | hroot | hroot
    · exact absurd hroot hne
    · rw [hroot]
      rfl
    · rw [hroot]
      rfl
  · rw [List.concat_eq_append] at hconcat
    rw [hconcat, List.dropLast_concat] at hne ⊢
    rw [hplace.fileName_toText hconcat]
    exact hplace.join_front hconcat hne

theorem underRoot_of_normal (h : normalize path = path) (name : Text) :
    underRoot path name = normalize (join path name) := by
  rcases normalize_eq_self_iff.mp h with ⟨place, hplace, hpath⟩
  unfold underRoot
  rw [← hpath, hplace.toText_ofText]

theorem normalize_join_here (hname : Text.stops isSlash name = true) :
    normalize (join "." name) ≠ join "." name := by
  intro hnormal
  rcases normalize_eq_self_iff.mp hnormal with ⟨place, hplace, hpath⟩
  have hne : Text.ofString "." ≠ [] := by decide
  have hjoin : join "." name = Text.ofString "." ++ CodePoint.ofChar '/' :: name := by
    rw [join_of_stops hne rfl hname, List.append_assoc]
    rfl
  have hroot : place.root = [] := by
    rw [← hplace.root_toText, hpath, hjoin]
    rfl
  have hsplit : Text.splitOn '/' place.toText = Text.ofString "." :: Text.splitOn '/' name := by
    rw [hpath, hjoin, Text.splitOn_append_sep]
    rfl
  by_cases hnil : place.parts = []
  · have hhere : place.toText = Text.ofString "." :=
      if_pos (hplace.spell_eq_nil_iff.mpr ⟨hroot, hnil⟩)
    rw [hhere] at hsplit
    exact Text.splitOn_ne_nil _ _ (List.cons.inj hsplit).right.symm
  · have hspell : place.toText = Text.join "/" place.parts := by
      have hsome : spell place.root place.parts ≠ [] := by
        intro hempty
        exact hnil (hplace.spell_eq_nil_iff.mp hempty).right
      unfold toText
      rw [if_neg hsome, spell, hroot, List.nil_append]
    have hpieces : Text.splitOn '/' (Text.join "/" place.parts) = place.parts :=
      Text.splitOn_join hnil fun part hpart => (hplace.part hpart).right.right
    rw [hspell, hpieces] at hsplit
    have hpoint : Text.ofString "." ∈ place.parts := by
      rw [hsplit]
      exact List.mem_cons_self
    exact (hplace.part hpoint).right.left rfl

end Path

end ImportAtlas
