import ImportAtlas.Proofs.Path.Canonical
import ImportAtlas.Specifier

/-!
# Moving paths below a root

Files that go down from where they are read can be moved below a root: the root comes before their
paths, with a slash where it needs one.  Their directories move along with them, and so do the paths
that their specifiers name, as long as these stay below the place where the files were.  What a
specifier leaves out is found behind the root as it was found without it.
-/

namespace ImportAtlas

namespace Path

def below (r : Text) : Text := if Text.endsWith "/" r then r else r ++ "/"

def moveDirectory (r directory : Text) : Text :=
  if directory = "." then r else underRoot r directory

theorem below_spell {root : Text} (hroot : IsRoot root) {ns : List Text}
    (hplain : ∀ name ∈ ns, IsPlain name) (hne : spell root ns ≠ []) :
    below (spell root ns) = stem root ns := by
  unfold below
  by_cases hnil : ns = []
  · rw [hnil, spell_nil] at hne
    rw [hnil, spell_nil, stem_nil]
    rcases hroot with h | h | h
    · exact absurd h hne
    · rw [h]
      rfl
    · rw [h]
      rfl
  · rcases stops_isSlash_spell hplain hnil with ⟨_, _, hend⟩
    rw [endsWith_slash (hend root), stem_of_ne_nil hnil]
    rfl

theorem below_append_spell {root : Text} (hroot : IsRoot root) {base : List Text}
    (hbase : ∀ name ∈ base, IsPlain name) (hne : spell root base ≠ []) {ns : List Text}
    (hns : ns ≠ []) : below (spell root base) ++ spell [] ns = spell root (base ++ ns) := by
  rw [below_spell hroot hbase hne, spell_append root base hns]

theorem toText_spell {root : Text} (hroot : IsRoot root) {ns : List Text}
    (hplain : ∀ name ∈ ns, IsPlain name) (hne : spell root ns ≠ []) :
    (TidyPath.ofText (spell root ns)).toText = spell root ns := by
  unfold TidyPath.ofText TidyPath.toText
  rw [root_spell hroot hplain, names_spell hroot hplain]
  exact if_neg hne

/-- Files move below a root by having it in front. -/
theorem underRoot_of_isLocal {r path : Text} (hr : IsCanonical r) (hpath : IsLocal path) :
    underRoot r path = below r ++ path := by
  rcases hr with ⟨hne, root, base, hroot, hbase, rfl⟩
  rcases hpath with ⟨hpathNe, ns, hplain, rfl⟩
  have hns : ns ≠ [] := by
    intro hnil
    rw [hnil] at hpathNe
    exact hpathNe rfl
  unfold underRoot
  rw [toText_spell hroot hbase hne, normalize_join_spell hroot hbase hplain hns,
    below_spell hroot hbase hne]

/-!
## Directories
-/

theorem IsLocal.exists_last {path : Text} (h : IsLocal path) :
    ∃ ns last, (∀ name ∈ ns, IsPlain name) ∧ IsPlain last ∧ path = spell [] (ns ++ [last]) := by
  rcases h with ⟨hne, names, hplain, hpath⟩
  rcases List.eq_nil_or_concat names with hnil | ⟨ns, last, hconcat⟩
  · rw [hnil] at hpath
    exact absurd hpath hne
  · rw [List.concat_eq_append] at hconcat
    subst hconcat
    refine ⟨ns, last, ?_, hplain last (by simp), hpath⟩
    intro name hname
    exact hplain name (by simp [hname])

theorem directoryOrHere_spell {root : Text} (hroot : IsRoot root) {ns : List Text}
    (hplain : ∀ name ∈ ns, IsPlain name) {last : Text} (hlast : IsPlain last) :
    directoryOrHere (spell root (ns ++ [last])) =
      if spell root ns = [] then Text.ofString "." else spell root ns := by
  unfold directoryOrHere
  rw [directory_spell hroot hplain hlast]

theorem directoryOrHere_of_isLocal {path : Text} (h : IsLocal path) :
    directoryOrHere path = "." ∨ IsLocal (directoryOrHere path) := by
  rcases h.exists_last with ⟨ns, last, hplain, hlast, hpath⟩
  rw [hpath, directoryOrHere_spell (Or.inl rfl) hplain hlast]
  by_cases hnil : spell [] ns = []
  · rw [if_pos hnil]
    exact Or.inl rfl
  · rw [if_neg hnil]
    exact Or.inr ⟨hnil, ns, hplain, rfl⟩

theorem IsLocal.ne_here {path : Text} (h : IsLocal path) : path ≠ "." :=
  (isCanonical_iff.mp (isLocal_iff.mp h).left).right.left

theorem directoryOrHere_below {r path : Text} (hr : IsCanonical r) (hpath : IsLocal path) :
    directoryOrHere (below r ++ path) = moveDirectory r (directoryOrHere path) := by
  rcases hpath.exists_last with ⟨ns, last, hplain, hlast, rfl⟩
  have hcanonical := hr
  rcases hr with ⟨hne, root, base, hroot, hbase, rfl⟩
  have hall : ∀ name ∈ base ++ ns, IsPlain name := List.forall_mem_append.mpr ⟨hbase, hplain⟩
  rw [below_append_spell hroot hbase hne (by simp), ← List.append_assoc,
    directoryOrHere_spell hroot hall hlast, directoryOrHere_spell (Or.inl rfl) hplain hlast]
  unfold moveDirectory
  by_cases hnil : ns = []
  · subst hnil
    rw [List.append_nil, if_neg hne, if_pos (spell_nil []), if_pos rfl]
  · have hlocal : IsLocal (spell [] ns) :=
      ⟨(stops_isSlash_spell hplain hnil).left, ns, hplain, rfl⟩
    have hthere : spell root (base ++ ns) ≠ [] := by
      rw [spell_append root base hnil]
      simp [hlocal.left]
    rw [if_neg hthere, if_neg hlocal.left, if_neg hlocal.ne_here,
      underRoot_of_isLocal hcanonical hlocal, below_append_spell hroot hbase hne hnil]

theorem ne_below_append {r path : Text} (hpath : path ≠ []) : r ≠ below r ++ path := by
  intro heq
  have hlength := congrArg List.length heq
  have hpositive := List.length_pos_iff.mpr hpath
  unfold below at hlength
  split at hlength
  · rw [List.length_append] at hlength
    omega
  · rw [List.length_append, List.length_append] at hlength
    omega

theorem moveDirectory_inj {r directory other : Text} (hr : IsCanonical r)
    (hdirectory : directory = "." ∨ IsLocal directory) (hother : other = "." ∨ IsLocal other) :
    moveDirectory r directory = moveDirectory r other ↔ directory = other := by
  have hhere : moveDirectory r "." = r := if_pos rfl
  have hthere : ∀ path, IsLocal path → moveDirectory r path = below r ++ path := by
    intro path hpath
    rw [moveDirectory, if_neg hpath.ne_here, underRoot_of_isLocal hr hpath]
  constructor
  · intro heq
    rcases hdirectory with rfl | hdirectory
    · rcases hother with rfl | hother
      · rfl
      · rw [hhere, hthere other hother] at heq
        exact absurd heq (ne_below_append hother.left)
    · rcases hother with rfl | hother
      · rw [hhere, hthere directory hdirectory] at heq
        exact absurd heq.symm (ne_below_append hdirectory.left)
      · rw [hthere directory hdirectory, hthere other hother] at heq
        exact List.append_cancel_left heq
  · intro heq
    rw [heq]

end Path

/-!
## Specifiers
-/

namespace Specifier

open ImportAtlas.Path

/-- The specifier is relative, and it names something below the place where the file is read. -/
structure StaysBelow (file specifier : Text) : Prop where
  relative : Text.startsWith "." specifier = true
  ne_here : path file specifier ≠ "."
  unclimbed : (Text.splitOn '/' (path file specifier)).head? ≠ some (Text.ofString "..")

theorem stops_isSlash_of_relative {specifier : Text}
    (h : Text.startsWith "." specifier = true) : Text.stops isSlash specifier = true := by
  cases specifier with
  | nil => rfl
  | cons c rest =>
      have hc : c = CodePoint.ofChar '.' := by
        change (CodePoint.ofChar '.' == c && true) = true at h
        exact Eq.symm (by simpa using h)
      rw [hc]
      rfl

/-- A path that climbs is spelled with two points in front. -/
theorem head?_splitOn_of_hasClimbed {passed : List Text} (h : HasClimbed passed) :
    (Text.splitOn '/' (spell [] passed.reverse)).head? = some (Text.ofString "..") := by
  rcases h with ⟨later, hpassed⟩
  rw [hpassed, List.reverse_append]
  show (Text.splitOn '/' (Text.join "/" (Text.ofString ".." :: later.reverse))).head? = _
  by_cases hlater : later.reverse = []
  · rw [hlater]
    rfl
  · rw [Text.join_cons _ _ hlater, List.append_assoc]
    show (Text.splitOn '/' (Text.ofString ".." ++ CodePoint.ofChar '/' :: _)).head? = _
    rw [Text.splitOn_append_sep]
    rfl

/-- What a relative specifier in a file names is found on a walk from the directory of the file. -/
theorem path_spell {root : Text} (hroot : IsRoot root) {ns : List Text}
    (hplain : ∀ name ∈ ns, IsPlain name) {last : Text} (hlast : IsPlain last) {specifier : Text}
    (hrelative : Text.startsWith "." specifier = true) :
    path (spell root (ns ++ [last])) specifier =
      let spelled := spell root (walk (root ≠ []) ns.reverse (names specifier)).reverse
      if spelled = [] then Text.ofString "." else spelled := by
  have hstop := stops_isSlash_of_relative hrelative
  unfold path
  rw [if_pos hrelative, directory_spell hroot hplain hlast, join_spell hroot hplain hstop,
    normalize_stem_append hroot hplain hstop]

theorem path_of_staysBelow {ns : List Text} (hplain : ∀ name ∈ ns, IsPlain name) {last : Text}
    (hlast : IsPlain last) {specifier : Text}
    (h : StaysBelow (spell [] (ns ++ [last])) specifier) :
    path (spell [] (ns ++ [last])) specifier =
        spell [] (walk false ns.reverse (names specifier)).reverse ∧
      spell [] (walk false ns.reverse (names specifier)).reverse ≠ [] ∧
      ¬ HasClimbed (walk false ns.reverse (names specifier)) := by
  rcases h with ⟨hrelative, hhere, hunclimbed⟩
  have hlocal := path_spell (Or.inl rfl) hplain hlast hrelative
  have hne : spell [] (walk false ns.reverse (names specifier)).reverse ≠ [] := by
    intro hnil
    apply hhere
    rw [hlocal]
    exact if_pos hnil
  have hpath := hlocal.trans (if_neg hne)
  refine ⟨hpath, hne, ?_⟩
  intro hclimbed
  rw [hpath] at hunclimbed
  exact hunclimbed (head?_splitOn_of_hasClimbed hclimbed)

/-- The file that a specifier names moves along with the file that names it. -/
theorem path_below {r file specifier : Text} (hr : IsCanonical r) (hfile : IsLocal file)
    (h : StaysBelow file specifier) :
    path (below r ++ file) specifier = below r ++ path file specifier := by
  rcases hr with ⟨hne, root, base, hroot, hbase, rfl⟩
  rcases hfile.exists_last with ⟨ns, last, hplain, hlast, rfl⟩
  rcases path_of_staysBelow hplain hlast h with ⟨hpath, hspelled, hunclimbed⟩
  have hall : ∀ name ∈ base ++ ns, IsPlain name := List.forall_mem_append.mpr ⟨hbase, hplain⟩
  have hpassed : ∀ name ∈ ns.reverse, name ≠ Text.ofString ".." := by
    intro name hname
    exact (hplain name (List.mem_reverse.mp hname)).ne_up
  have hwalk := walk_below hpassed hunclimbed (decide (root ≠ [])) base.reverse
  have hsome : (walk false ns.reverse (names specifier)).reverse ≠ [] := by
    intro hempty
    rw [hempty] at hspelled
    exact hspelled rfl
  rw [hpath, below_append_spell hroot hbase hne (by simp), below_append_spell hroot hbase hne hsome,
    ← List.append_assoc, path_spell hroot hall hlast h.relative, List.reverse_append, hwalk,
    List.reverse_append, List.reverse_reverse]
  apply if_neg
  rw [spell_append root base hsome]
  simp [hspelled]

theorem path_ne_nil {file specifier : Text} (h : StaysBelow file specifier) :
    path file specifier ≠ [] := by
  unfold path
  rw [if_pos h.relative]
  exact normalize_ne_nil _

theorem join_append {start path rest : Text} (hpath : path ≠ [])
    (hrest : Text.startsWith "/" rest = false) :
    Path.join (start ++ path) rest = start ++ Path.join path rest := by
  have hend : Text.endsWith "/" (start ++ path) = Text.endsWith "/" path := by
    unfold Text.endsWith List.isSuffixOf
    rw [List.reverse_append]
    cases hreverse : path.reverse with
    | nil => exact absurd (List.reverse_eq_nil_iff.mp hreverse) hpath
    | cons c more => rfl
  unfold Path.join
  rw [hrest, hend]
  by_cases hslash : Text.endsWith "/" path = true
  · simp [hslash]
  · simp [hslash, hpath]

/-- What may be meant by a path is meant behind a start when the path stands there. -/
theorem candidates_append (extensions : List Text) (start : Text) {path : Text} (h : path ≠ []) :
    candidates extensions (start ++ path) = (candidates extensions path).map (start ++ ·) := by
  have hindex : ∀ ext, Path.join (start ++ path) (Text.ofString "index" ++ ext) =
      start ++ Path.join path (Text.ofString "index" ++ ext) := by
    intro ext
    exact join_append h rfl
  simp [candidates, hindex, Function.comp_def]

theorem resolve?_append {known moved extensions : List Text} (start : Text) {path : Text}
    (hmoved : moved = known.map (start ++ ·)) (h : path ≠ []) :
    resolve? moved extensions (start ++ path) =
      (resolve? known extensions path).map (start ++ ·) := by
  have hknown : ∀ name, moved.contains (start ++ name) = known.contains name := by
    intro name
    rw [hmoved]
    simp [List.contains_eq_mem]
  unfold resolve?
  rw [candidates_append extensions start h, List.find?_map]
  congr 1
  congr 1
  funext name
  exact hknown name

end Specifier

end ImportAtlas
