import ImportAtlas.Proofs.Path.Canonical

/-!
# Files below a base

The base from which files are looked for may be spelled in any way: with repeated slashes, with
names that stay or go up, with a slash at its end.  However it is spelled, it ends at certain names
behind its root, and a file below it is spelled with these names and those that lead on to it.  So
it does not matter whether the file is reached in one step or directory by directory, and different
files have different spellings.
-/

namespace ImportAtlas

namespace Path

variable {base path relative name : Text} {ns ms : List Text}

/-- The names at which a path ends. -/
def destination (path : Text) : List Text :=
  (walk (root path ≠ []) [] (names path)).reverse

/-!
## The names of a path
-/

theorem ne_nil_of_mem_names (h : name ∈ names path) : name ≠ [] := by
  rcases List.mem_filter.mp h with ⟨_, hkept⟩
  simp only [ne_eq, Bool.and_eq_true, decide_eq_true_eq] at hkept
  exact hkept.left

theorem unslashed_of_mem_names (h : name ∈ names path) : CodePoint.ofChar '/' ∉ name :=
  Text.not_mem_of_mem_splitOn (List.mem_filter.mp h).left

theorem ne_here_of_mem_names (h : name ∈ names path) : name ≠ "." := by
  rcases List.mem_filter.mp h with ⟨_, hkept⟩
  simp only [ne_eq, Bool.and_eq_true, decide_eq_true_eq] at hkept
  exact hkept.right

theorem names_join_names (path : Text) : names (Text.join "/" (names path)) = names path := by
  apply names_join_of_kept
  intro name hname
  exact ⟨ne_nil_of_mem_names hname, ne_here_of_mem_names hname, unslashed_of_mem_names hname⟩

theorem stops_isSlash_join_names (path : Text) :
    Text.stops isSlash (Text.join "/" (names path)) = true := by
  cases hnames : names path with
  | nil => rfl
  | cons name more =>
      have hmem : name ∈ names path := by simp [hnames]
      have hstart := stops_isSlash_of_unslashed (unslashed_of_mem_names hmem)
      cases more with
      | nil => exact hstart
      | cons next more =>
          rw [Text.join_cons _ _ (by simp), List.append_assoc,
            Text.stops_append_of_ne_nil (ne_nil_of_mem_names hmem)]
          exact hstart

theorem join_names_eq_nil_iff : Text.join "/" (names path) = [] ↔ names path = [] := by
  constructor
  · intro h
    rw [← names_join_names, h]
    rfl
  · intro h
    rw [h]
    rfl

/-!
## Tidying
-/

theorem toText_ne_nil (path : TidyPath) : path.toText ≠ [] := by
  unfold TidyPath.toText
  dsimp only
  split
  case isTrue => decide
  case isFalse hne => exact hne

theorem names_toText (path : Text) : names (TidyPath.ofText path).toText = names path := by
  unfold TidyPath.ofText TidyPath.toText
  dsimp only
  split
  case isTrue hnil =>
    rw [join_names_eq_nil_iff.mp (List.append_eq_nil_iff.mp hnil).right]
    rfl
  case isFalse => rw [names_root_append (isRoot_root path), names_join_names]

theorem root_toText (path : Text) : Path.root (TidyPath.ofText path).toText = Path.root path := by
  unfold TidyPath.ofText TidyPath.toText
  dsimp only
  split
  case isTrue hnil =>
    rw [(List.append_eq_nil_iff.mp hnil).left]
    rfl
  case isFalse => exact root_append (isRoot_root path) (stops_isSlash_join_names path)

theorem join_filter_sublist (sep : Text) (p : Text → Bool) (pieces : List Text) :
    (Text.join sep (pieces.filter p)).Sublist (Text.join sep pieces) := by
  induction pieces with
  | nil => exact List.Sublist.refl _
  | cons piece pieces ih =>
      by_cases hnil : pieces = []
      · subst hnil
        by_cases hpiece : p piece = true <;> simp [hpiece, Text.join]
      · rw [Text.join_cons sep piece hnil, List.filter_cons]
        split
        case isTrue =>
          by_cases hkept : pieces.filter p = []
          · rw [hkept, List.append_assoc]
            exact List.sublist_append_left piece _
          · rw [Text.join_cons sep piece hkept]
            exact ih.append_left _
        case isFalse => exact ih.trans (List.sublist_append_right _ _)

theorem names_append_of_slashes {slashes : Text} (h : ∀ c ∈ slashes, isSlash c = true)
    (rest : Text) : names (slashes ++ rest) = names rest := by
  induction slashes with
  | nil => rfl
  | cons c slashes ih =>
      have hc : c = CodePoint.ofChar '/' := by simpa [isSlash] using h c (by simp)
      rw [hc, List.cons_append]
      exact (names_append_slash [] _).trans (ih fun other hother => h other (by simp [hother]))

theorem root_sublist_takeWhile (path : Text) :
    (Path.root path).Sublist (path.takeWhile isSlash) := by
  have hall : path.takeWhile isSlash =
      List.replicate (path.takeWhile isSlash).length (CodePoint.ofChar '/') := by
    rw [List.eq_replicate_iff]
    refine ⟨rfl, ?_⟩
    intro c hc
    simpa [isSlash] using List.mem_takeWhile_imp hc
  have hroot : ∃ n, n ≤ (path.takeWhile isSlash).length ∧
      Path.root path = List.replicate n (CodePoint.ofChar '/') := by
    unfold Path.root isSlash
    split
    case h_1 => exact ⟨0, Nat.zero_le _, rfl⟩
    case h_2 hlength => exact ⟨2, hlength.ge, rfl⟩
    case h_3 hzero _ => exact ⟨1, Nat.pos_of_ne_zero hzero, rfl⟩
  rcases hroot with ⟨n, hn, hreplicate⟩
  rw [hreplicate, hall]
  exact List.replicate_sublist_replicate _ |>.mpr hn

/-- Tidying only takes away, unless nothing is left. -/
theorem toText_sublist (path : Text) :
    (TidyPath.ofText path).toText = "." ∨ (TidyPath.ofText path).toText.Sublist path := by
  have hsplit : path.takeWhile isSlash ++ path.dropWhile isSlash = path :=
    List.takeWhile_append_dropWhile
  have hnames : names path = names (path.dropWhile isSlash) := by
    have hslashes : ∀ c ∈ path.takeWhile isSlash, isSlash c = true :=
      fun c hc => List.mem_takeWhile_imp hc
    rw [← names_append_of_slashes hslashes (path.dropWhile isSlash), hsplit]
  have hjoin : (Text.join "/" (names path)).Sublist (path.dropWhile isSlash) := by
    have hsublist := join_filter_sublist "/" (fun name => name ≠ [] && name ≠ ".")
      (Text.splitOn '/' (path.dropWhile isSlash))
    rw [hnames]
    exact hsublist.trans (Text.join_splitOn _ _ ▸ List.Sublist.refl _)
  unfold TidyPath.ofText TidyPath.toText
  dsimp only
  split
  case isTrue => exact Or.inl rfl
  case isFalse =>
    refine Or.inr ?_
    have happend := (root_sublist_takeWhile path).append hjoin
    rw [hsplit] at happend
    exact happend

/-!
## Going on from a base
-/

theorem exists_of_endsWith_slash (h : Text.endsWith "/" base = true) :
    ∃ front, base = front ++ [CodePoint.ofChar '/'] := by
  rcases List.isSuffixOf_iff_suffix.mp h with ⟨front, hfront⟩
  exact ⟨front, hfront.symm⟩

theorem names_join_relative (hbase : base ≠ []) (hrelative : Text.stops isSlash relative = true) :
    names (join base relative) = names base ++ names relative := by
  unfold join
  rw [startsWith_slash hrelative]
  cases hend : Text.endsWith "/" base with
  | true =>
      rcases exists_of_endsWith_slash hend with ⟨front, rfl⟩
      have hfront : names (front ++ [CodePoint.ofChar '/']) = names front := by
        rw [names_append_slash]
        exact List.append_nil _
      rw [hfront]
      simp [names_append_slash]
  | false =>
      have hsplit : base ++ Text.ofString "/" ++ relative =
          base ++ CodePoint.ofChar '/' :: relative := by
        rw [List.append_assoc]
        rfl
      simp [hbase, hsplit, names_append_slash]

theorem root_eq_of_takeWhile {other : Text}
    (h : path.takeWhile isSlash = other.takeWhile isSlash) : Path.root path = Path.root other := by
  unfold Path.root
  unfold isSlash at h
  rw [h]

theorem root_append_of_mem {c : CodePoint} (hc : c ∈ base) (hslash : isSlash c = false)
    (more : Text) : Path.root (base ++ more) = Path.root base := by
  apply root_eq_of_takeWhile
  rw [List.takeWhile_append, if_neg]
  intro hlength
  have hall : base.takeWhile isSlash = base :=
    (List.takeWhile_prefix isSlash).eq_of_length hlength
  have hmem := List.takeWhile_eq_self_iff.mp hall c hc
  rw [hslash] at hmem
  cases hmem

theorem root_join_relative (hbase : base ≠ []) (hrelative : Text.stops isSlash relative = true) :
    Path.root (join base relative) = Path.root base := by
  unfold join
  rw [startsWith_slash hrelative]
  by_cases hall : ∀ c ∈ base, isSlash c = true
  · rcases List.eq_nil_or_concat base with hnil | ⟨front, last, hconcat⟩
    · exact absurd hnil hbase
    · have hlast : last = CodePoint.ofChar '/' := by
        have hslash := hall last (by simp [hconcat])
        simpa [isSlash] using hslash
      have hend : Text.endsWith "/" base = true := by
        rw [hconcat, hlast, List.concat_eq_append]
        exact List.isSuffixOf_iff_suffix.mpr ⟨front, rfl⟩
      simp only [hend, Bool.or_true, Bool.false_eq_true, if_false, if_true]
      apply root_eq_of_takeWhile
      rw [Text.takeWhile_append_of_stops hall hrelative, List.takeWhile_eq_self_iff.mpr hall]
  · simp only [not_forall] at hall
    rcases hall with ⟨c, hc, hslash⟩
    have hother : isSlash c = false := by simpa using hslash
    simp only [Bool.false_eq_true, if_false]
    split
    case isTrue => exact root_append_of_mem hc hother relative
    case isFalse =>
      rw [List.append_assoc]
      exact root_append_of_mem hc hother _

theorem stops_isSlash_of_plain (h : IsPlain name) : Text.stops isSlash name = true :=
  (stops_isSlash_of_isPlain h).left

theorem names_of_isPlain (h : IsPlain name) : names name = [name] := by
  have hplain : ∀ other ∈ [name], IsPlain other := by simpa using h
  exact names_join hplain

theorem join_ne_nil (hbase : base ≠ []) (hrelative : Text.stops isSlash relative = true) :
    join base relative ≠ [] := by
  unfold join
  rw [startsWith_slash hrelative]
  simp only [Bool.false_eq_true, if_false]
  split <;> simp [hbase]

/-- The path of a file is the root of the base, the names at which the base ends, and the names
that lead on. -/
theorem underRoot_spell (hplain : ∀ name ∈ ns, IsPlain name) (hne : ns ≠ []) :
    underRoot base (spell [] ns) = spell (Path.root base) (destination base ++ ns) := by
  have hstop := stops_isSlash_join hplain
  have htidy := toText_ne_nil (TidyPath.ofText base)
  have hup : ∀ name ∈ ns, name ≠ Text.ofString ".." := fun name hname => (hplain name hname).ne_up
  have hroot : Path.root (join (TidyPath.ofText base).toText (spell [] ns)) = Path.root base := by
    rw [root_join_relative htidy hstop, root_toText]
  have hnames : names (join (TidyPath.ofText base).toText (spell [] ns)) = names base ++ ns := by
    rw [names_join_relative htidy hstop, names_toText, names_spell (Or.inl rfl) hplain]
  have hspell : spell (Path.root base) (destination base ++ ns) ≠ [] := by
    rw [spell_append _ _ hne]
    simp [(stops_isSlash_spell hplain hne).left]
  unfold underRoot normalize
  rw [hroot, hnames]
  show (if spell (Path.root base) (walk _ [] (names base ++ ns)).reverse = [] then
    Text.ofString "." else spell (Path.root base) (walk _ [] (names base ++ ns)).reverse) = _
  rw [walk_append, walk_down hup, List.reverse_append, List.reverse_reverse]
  exact if_neg hspell

theorem destination_join (hbase : base ≠ []) (hname : IsPlain name) :
    destination (join base name) = destination base ++ [name] := by
  have hstop := stops_isSlash_of_plain hname
  unfold destination
  rw [root_join_relative hbase hstop, names_join_relative hbase hstop, names_of_isPlain hname,
    walk_append, walk_cons, walk_nil, step_down hname.ne_up, List.reverse_cons]

/-- A file is spelled alike whether its directory is entered first or not. -/
theorem underRoot_join (hbase : base ≠ []) (hname : IsPlain name)
    (hplain : ∀ name ∈ ns, IsPlain name) (hne : ns ≠ []) :
    underRoot (join base name) (spell [] ns) = underRoot base (spell [] (name :: ns)) := by
  have hall : ∀ other ∈ name :: ns, IsPlain other := List.forall_mem_cons.mpr ⟨hname, hplain⟩
  rw [underRoot_spell hplain hne, underRoot_spell hall (by simp),
    root_join_relative hbase (stops_isSlash_of_plain hname), destination_join hbase hname,
    List.append_assoc]
  rfl

/-!
## Different files
-/

theorem unslashed_of_mem_walk {absolute : Bool} {passed names : List Text}
    (hpassed : ∀ name ∈ passed, CodePoint.ofChar '/' ∉ name)
    (hnames : ∀ name ∈ names, CodePoint.ofChar '/' ∉ name) :
    ∀ name ∈ walk absolute passed names, CodePoint.ofChar '/' ∉ name := by
  induction names generalizing passed with
  | nil => exact hpassed
  | cons first names ih =>
      rw [walk_cons]
      apply ih
      · intro name hname
        unfold step at hname
        split at hname
        case isTrue =>
          rcases List.mem_cons.mp hname with heq | hname
          · rw [heq]
            exact hnames first (by simp)
          · exact hpassed name hname
        case isFalse =>
          have hdots : CodePoint.ofChar '/' ∉ Text.ofString ".." := by decide
          cases passed with
          | nil =>
              cases absolute with
              | true => cases hname
              | false =>
                  rw [List.mem_singleton.mp hname]
                  exact hdots
          | cons last before =>
              dsimp only at hname
              split at hname
              case isTrue =>
                rcases List.mem_cons.mp hname with heq | hname
                · rw [heq]
                  exact hdots
                · exact hpassed name hname
              case isFalse => exact hpassed name (by simp [hname])
      · intro name hname
        exact hnames name (by simp [hname])

theorem unslashed_of_mem_destination (h : name ∈ destination base) :
    CodePoint.ofChar '/' ∉ name := by
  refine unslashed_of_mem_walk ?_ ?_ name (List.mem_reverse.mp h)
  · intro other hother
    cases hother
  · intro other hother
    exact unslashed_of_mem_names hother

/-- Files with different names below a base are spelled differently. -/
theorem underRoot_spell_inj (hns : ∀ name ∈ ns, IsPlain name) (hnsNe : ns ≠ [])
    (hms : ∀ name ∈ ms, IsPlain name) (hmsNe : ms ≠ []) :
    underRoot base (spell [] ns) = underRoot base (spell [] ms) ↔ ns = ms := by
  constructor
  · intro h
    rw [underRoot_spell hns hnsNe, underRoot_spell hms hmsNe] at h
    have hjoin := List.append_cancel_left h
    have hunslashed : ∀ {others : List Text}, (∀ name ∈ others, IsPlain name) →
        ∀ name ∈ destination base ++ others, CodePoint.ofChar '/' ∉ name := by
      intro others hothers name hname
      rcases List.mem_append.mp hname with hname | hname
      · exact unslashed_of_mem_destination hname
      · exact (hothers name hname).unslashed
    have hnames : destination base ++ ns = destination base ++ ms := by
      rw [← Text.splitOn_join (by simp [hnsNe]) (hunslashed hns),
        ← Text.splitOn_join (by simp [hmsNe]) (hunslashed hms)]
      exact congrArg (Text.splitOn '/') hjoin
    exact List.append_cancel_left hnames
  · intro h
    rw [h]

/-!
## Directories of files
-/

theorem isPrefix_directory (path : Text) : directory path <+: path := by
  have hhead := Text.isPrefix_dropWhile_reverse (· ≠ CodePoint.ofChar '/') path
  simp only [directory]
  split
  case isTrue => exact hhead
  case isFalse => exact (Text.isPrefix_dropWhile_reverse _ _).trans hhead

theorem directoryOrHere_cases (path : Text) :
    directoryOrHere path = "." ∨ directoryOrHere path <+: path := by
  simp only [directoryOrHere]
  split
  case isTrue => exact Or.inl rfl
  case isFalse => exact Or.inr (isPrefix_directory path)

end Path

end ImportAtlas
