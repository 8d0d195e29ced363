import ImportAtlas.Proofs.Path.Walk
import ImportAtlas.Proofs.Text.Split

/-!
# Canonical paths

A canonical path is a root with names that lead down, one slash between each two.  What can be done
with such a path is done with its root and its names: its directory loses the last name, and a path
read from it goes on behind its last name.
-/

namespace ImportAtlas

namespace Path

/-- A name that leads one directory down. -/
structure IsPlain (name : Text) : Prop where
  nonempty : name ≠ []
  ne_here : name ≠ "."
  ne_up : name ≠ ".."
  unslashed : CodePoint.ofChar '/' ∉ name

def IsRoot (root : Text) : Prop := root = [] ∨ root = "/" ∨ root = "//"

def spell (root : Text) (names : List Text) : Text := root ++ Text.join "/" names

def stem (root : Text) (names : List Text) : Text :=
  if names = [] then root else spell root names ++ "/"

/-- The path goes down from its root without needless parts. -/
def IsCanonical (path : Text) : Prop :=
  path ≠ [] ∧ ∃ root names, IsRoot root ∧ (∀ name ∈ names, IsPlain name) ∧ path = spell root names

/-- The path is canonical and goes down from where it is read. -/
def IsLocal (path : Text) : Prop :=
  path ≠ [] ∧ ∃ names, (∀ name ∈ names, IsPlain name) ∧ path = spell [] names

def isSlash (c : CodePoint) : Bool := c = CodePoint.ofChar '/'

/-!
## Spelling
-/

@[simp] theorem spell_nil (root : Text) : spell root [] = root := by
  simp [spell, Text.join]

@[simp] theorem stem_nil (root : Text) : stem root [] = root := by
  simp [stem]

theorem stem_of_ne_nil {names : List Text} (h : names ≠ []) (root : Text) :
    stem root names = spell root names ++ "/" := by
  simp [stem, h]

theorem spell_append (root : Text) (names : List Text) {others : List Text} (h : others ≠ []) :
    spell root (names ++ others) = stem root names ++ spell [] others := by
  by_cases hne : names = []
  · rw [hne, stem_nil]
    rfl
  · rw [stem_of_ne_nil hne, spell, Text.join_append "/" hne h]
    simp [spell]

theorem stops_isSlash_of_unslashed {name : Text} (h : CodePoint.ofChar '/' ∉ name) :
    Text.stops isSlash name = true := by
  apply Text.stops_of_forall_mem
  intro c hc
  apply decide_eq_false
  intro hslash
  exact h (hslash ▸ hc)

theorem stops_isSlash_of_isPlain {name : Text} (h : IsPlain name) :
    Text.stops isSlash name = true ∧ Text.stops isSlash name.reverse = true := by
  constructor
  · exact stops_isSlash_of_unslashed h.unslashed
  · apply stops_isSlash_of_unslashed
    rw [List.mem_reverse]
    exact h.unslashed

theorem stops_isSlash_spell {names : List Text} (hplain : ∀ name ∈ names, IsPlain name)
    (hne : names ≠ []) :
    spell [] names ≠ [] ∧ Text.stops isSlash (spell [] names) = true ∧
      ∀ root, Text.stops isSlash (spell root names).reverse = true := by
  induction names with
  | nil => exact absurd rfl hne
  | cons name names ih =>
      have hname : IsPlain name := hplain name (by simp)
      rcases stops_isSlash_of_isPlain hname with ⟨hstart, hend⟩
      cases names with
      | nil =>
          refine ⟨hname.nonempty, hstart, ?_⟩
          intro root
          show Text.stops isSlash (root ++ name).reverse = true
          rw [List.reverse_append, Text.stops_append_of_ne_nil (by simp [hname.nonempty])]
          exact hend
      | cons next names =>
          have hmore := ih (fun other hother => hplain other (by simp [hother])) (by simp)
          have hspell : ∀ root, spell root (name :: next :: names) =
              (root ++ name ++ "/") ++ spell [] (next :: names) := by
            intro root
            have hne : next :: names ≠ [] := by simp
            have happend := spell_append root [name] hne
            rw [stem_of_ne_nil (by simp)] at happend
            exact happend
          refine ⟨?_, ?_, ?_⟩
          · rw [hspell]
            simp [hmore.left]
          · rw [hspell, List.append_assoc, List.append_assoc]
            show Text.stops isSlash (name ++ _) = true
            rw [Text.stops_append_of_ne_nil hname.nonempty]
            exact hstart
          · intro root
            rw [hspell, List.reverse_append,
              Text.stops_append_of_ne_nil (by simpa using hmore.left)]
            exact hmore.right.right ""

theorem all_isSlash_of_isRoot {root : Text} (h : IsRoot root) : root.all isSlash = true := by
  rcases h with h | h | h <;> rw [h] <;> rfl

/-!
## Root and names
-/

theorem names_append_slash (path rest : Text) :
    names (path ++ CodePoint.ofChar '/' :: rest) = names path ++ names rest := by
  unfold names
  rw [Text.splitOn_append_sep, List.filter_append]

theorem names_root_append {root : Text} (h : IsRoot root) (rest : Text) :
    names (root ++ rest) = names rest := by
  rcases h with h | h | h
  · rw [h]
    rfl
  · rw [h]
    exact names_append_slash "" rest
  · rw [h]
    exact names_append_slash "/" rest

theorem names_join_of_kept {ns : List Text}
    (hkept : ∀ name ∈ ns, name ≠ [] ∧ name ≠ "." ∧ CodePoint.ofChar '/' ∉ name) :
    names (Text.join "/" ns) = ns := by
  by_cases hne : ns = []
  · rw [hne]
    rfl
  · have hsplit : Text.splitOn '/' (Text.join "/" ns) = ns :=
      Text.splitOn_join hne fun name hname => (hkept name hname).right.right
    unfold names
    rw [hsplit, List.filter_eq_self]
    intro name hname
    simp [(hkept name hname).left, (hkept name hname).right.left]

theorem names_join {ns : List Text} (hplain : ∀ name ∈ ns, IsPlain name) :
    names (Text.join "/" ns) = ns := by
  apply names_join_of_kept
  intro name hname
  have h := hplain name hname
  exact ⟨h.nonempty, h.ne_here, h.unslashed⟩

theorem names_stem_append {root : Text} (hroot : IsRoot root) {ns : List Text}
    (hplain : ∀ name ∈ ns, IsPlain name) (rest : Text) :
    names (stem root ns ++ rest) = ns ++ names rest := by
  by_cases hne : ns = []
  · rw [hne, stem_nil]
    exact names_root_append hroot rest
  · rw [stem_of_ne_nil hne, List.append_assoc]
    show names (spell root ns ++ CodePoint.ofChar '/' :: rest) = _
    rw [names_append_slash, spell, names_root_append hroot, names_join hplain]

theorem root_append {root : Text} (hroot : IsRoot root) {rest : Text}
    (hrest : Text.stops isSlash rest = true) : Path.root (root ++ rest) = root := by
  have hall : ∀ c ∈ root, isSlash c = true := List.all_eq_true.mp (all_isSlash_of_isRoot hroot)
  have htake : (root ++ rest).takeWhile (· = CodePoint.ofChar '/') = root :=
    Text.takeWhile_append_of_stops hall hrest
  unfold Path.root
  rw [htake]
  rcases hroot with h | h | h <;> rw [h] <;> rfl

theorem root_stem_append {root : Text} (hroot : IsRoot root) {ns : List Text}
    (hplain : ∀ name ∈ ns, IsPlain name) {rest : Text} (hrest : Text.stops isSlash rest = true) :
    Path.root (stem root ns ++ rest) = root := by
  by_cases hne : ns = []
  · rw [hne, stem_nil]
    exact root_append hroot hrest
  · rcases stops_isSlash_spell hplain hne with ⟨hspell, hstart, _⟩
    have hsplit : stem root ns ++ rest = root ++ (spell [] ns ++ ("/" ++ rest)) := by
      rw [stem_of_ne_nil hne]
      simp [spell, Text.ofString]
    rw [hsplit]
    apply root_append hroot
    rw [Text.stops_append_of_ne_nil hspell]
    exact hstart

/-!
## Reading a path from another
-/

theorem startsWith_slash {path : Text} (h : Text.stops isSlash path = true) :
    Text.startsWith "/" path = false := by
  cases path with
  | nil => rfl
  | cons c rest =>
      have hc : c ≠ CodePoint.ofChar '/' := by simpa [isSlash] using h
      show (CodePoint.ofChar '/' == c && true) = false
      simp [Ne.symm hc]

theorem endsWith_slash {path : Text} (h : Text.stops isSlash path.reverse = true) :
    Text.endsWith "/" path = false :=
  startsWith_slash h

theorem join_spell {root : Text} (hroot : IsRoot root) {ns : List Text}
    (hplain : ∀ name ∈ ns, IsPlain name) {path : Text}
    (hpath : Text.stops isSlash path = true) :
    join (spell root ns) path = stem root ns ++ path := by
  unfold join
  rw [startsWith_slash hpath]
  by_cases hne : ns = []
  · rw [hne, spell_nil, stem_nil]
    rcases hroot with h | h | h <;> rw [h] <;> rfl
  · rcases stops_isSlash_spell hplain hne with ⟨_, _, hend⟩
    have hspell : spell root ns ≠ [] := by
      intro hnil
      rw [spell, List.append_eq_nil_iff] at hnil
      exact (stops_isSlash_spell hplain hne).left hnil.right
    rw [stem_of_ne_nil hne, endsWith_slash (hend root)]
    simp [hspell]

theorem stem_cases {root : Text} (hroot : IsRoot root) (ns : List Text) :
    stem root ns = [] ∨ ∃ more, stem root ns = more ++ [CodePoint.ofChar '/'] := by
  by_cases hne : ns = []
  · rw [hne, stem_nil]
    rcases hroot with h | h | h
    · exact Or.inl h
    · exact Or.inr ⟨[], h⟩
    · exact Or.inr ⟨"/", h⟩
  · exact Or.inr ⟨spell root ns, stem_of_ne_nil hne root⟩

/-- Behind its last slash a path is cut in two. -/
theorem cut_append {front name : Text}
    (hfront : front = [] ∨ ∃ more, front = more ++ [CodePoint.ofChar '/'])
    (hname : CodePoint.ofChar '/' ∉ name) :
    (front ++ name).reverse.takeWhile (· ≠ CodePoint.ofChar '/') = name.reverse ∧
      (front ++ name).reverse.dropWhile (· ≠ CodePoint.ofChar '/') = front.reverse := by
  have hplain : ∀ c ∈ name.reverse, decide (c ≠ CodePoint.ofChar '/') = true := by
    intro c hc
    apply decide_eq_true
    intro hslash
    exact hname (hslash ▸ List.mem_reverse.mp hc)
  have hstop : Text.stops (fun c => decide (c ≠ CodePoint.ofChar '/')) front.reverse = true := by
    rcases hfront with hnil | ⟨more, hmore⟩
    · rw [hnil]
      rfl
    · rw [hmore, List.reverse_append]
      rfl
  rw [List.reverse_append]
  exact ⟨Text.takeWhile_append_of_stops hplain hstop, Text.dropWhile_append_of_stops hplain hstop⟩

theorem directory_spell {root : Text} (hroot : IsRoot root) {ns : List Text}
    (hplain : ∀ name ∈ ns, IsPlain name) {last : Text} (hlast : IsPlain last) :
    directory (spell root (ns ++ [last])) = spell root ns := by
  have hspell : spell root (ns ++ [last]) = stem root ns ++ last := by
    rw [spell_append root ns (by simp)]
    rfl
  have hhead : ((spell root (ns ++ [last])).reverse.dropWhile
      (· ≠ CodePoint.ofChar '/')).reverse = stem root ns := by
    rw [hspell, (cut_append (stem_cases hroot ns) hlast.unslashed).right, List.reverse_reverse]
  unfold directory
  rw [hhead]
  by_cases hne : ns = []
  · have hall : (stem root ns).all (· = CodePoint.ofChar '/') = true := by
      rw [hne, stem_nil]
      exact all_isSlash_of_isRoot hroot
    rw [if_pos hall, hne, stem_nil, spell_nil]
  · rcases stops_isSlash_spell hplain hne with ⟨hnonempty, hstart, hend⟩
    have hnot : ¬ (stem root ns).all (· = CodePoint.ofChar '/') = true := by
      rw [stem_of_ne_nil hne, spell, List.all_append, List.all_append]
      intro hall
      cases hnames : Text.join "/" ns with
      | nil => exact hnonempty hnames
      | cons c rest =>
          have hc : isSlash c = false := by simpa [spell, hnames] using hstart
          simp [hnames] at hall
          simp [isSlash, hall] at hc
    rw [if_neg hnot, stem_of_ne_nil hne, List.reverse_append]
    show ((CodePoint.ofChar '/' :: (spell root ns).reverse).dropWhile isSlash).reverse = _
    rw [List.dropWhile_cons_of_pos (by rfl), Text.dropWhile_of_stops (hend root),
      List.reverse_reverse]

/-- Normalizing a path behind a canonical one walks on from the names of that one. -/
theorem normalize_stem_append {root : Text} (hroot : IsRoot root) {ns : List Text}
    (hplain : ∀ name ∈ ns, IsPlain name) {rest : Text} (hrest : Text.stops isSlash rest = true) :
    normalize (stem root ns ++ rest) =
      let spelled := spell root (walk (root ≠ []) ns.reverse (names rest)).reverse
      if spelled = [] then Text.ofString "." else spelled := by
  have hwalk : ∀ absolute, walk absolute [] (ns ++ names rest) =
      walk absolute ns.reverse (names rest) := by
    intro absolute
    have hdown := walk_down (fun name hname => (hplain name hname).ne_up) absolute []
    rw [walk_append, hdown, List.append_nil]
  unfold normalize
  rw [root_stem_append hroot hplain hrest, names_stem_append hroot hplain]
  show (if spell root (walk _ [] (ns ++ names rest)).reverse = [] then Text.ofString "." else
    spell root (walk _ [] (ns ++ names rest)).reverse) = _
  rw [hwalk]

theorem names_spell {root : Text} (hroot : IsRoot root) {ns : List Text}
    (hplain : ∀ name ∈ ns, IsPlain name) : names (spell root ns) = ns := by
  rw [spell, names_root_append hroot, names_join hplain]

theorem stops_isSlash_join {ns : List Text} (hplain : ∀ name ∈ ns, IsPlain name) :
    Text.stops isSlash (spell [] ns) = true := by
  by_cases hne : ns = []
  · rw [hne]
    rfl
  · exact (stops_isSlash_spell hplain hne).right.left

theorem normalize_join_spell {root : Text} (hroot : IsRoot root) {base : List Text}
    (hbase : ∀ name ∈ base, IsPlain name) {ns : List Text} (hplain : ∀ name ∈ ns, IsPlain name)
    (hne : ns ≠ []) :
    normalize (join (spell root base) (spell [] ns)) = stem root base ++ spell [] ns := by
  have hstop := stops_isSlash_join hplain
  have hup : ∀ name ∈ ns, name ≠ Text.ofString ".." := fun name hname => (hplain name hname).ne_up
  have hspell : spell root (base ++ ns) ≠ [] := by
    rw [spell_append root base hne]
    simp [(stops_isSlash_spell hplain hne).left]
  rw [join_spell hroot hbase hstop, normalize_stem_append hroot hbase hstop,
    names_spell (Or.inl rfl) hplain, walk_down hup, List.reverse_append, List.reverse_reverse,
    List.reverse_reverse, if_neg hspell, spell_append root base hne]

/-!
## Canonical paths are normal
-/

theorem normalize_ne_nil (path : Text) : normalize path ≠ [] := by
  unfold normalize
  dsimp only
  split
  case isTrue => decide
  case isFalse hne => exact hne

theorem isRoot_root (path : Text) : IsRoot (Path.root path) := by
  unfold Path.root
  split
  · exact Or.inl rfl
  · exact Or.inr (Or.inr rfl)
  · exact Or.inr (Or.inl rfl)

theorem isPlain_of_mem_names {path name : Text} (h : name ∈ names path) (hup : name ≠ "..") :
    IsPlain name := by
  rcases List.mem_filter.mp h with ⟨hsplit, hkept⟩
  simp only [ne_eq, Bool.and_eq_true, decide_eq_true_eq] at hkept
  exact ⟨hkept.left, hkept.right, hup, Text.not_mem_of_mem_splitOn hsplit⟩

theorem normalize_of_not_mem {path : Text} (h : Text.ofString ".." ∉ names path) :
    normalize path =
      if spell (Path.root path) (names path) = [] then Text.ofString "."
      else spell (Path.root path) (names path) := by
  have hup : ∀ name ∈ names path, name ≠ Text.ofString ".." := by
    intro name hname heq
    exact h (heq ▸ hname)
  have hwalk := walk_down hup (decide (Path.root path ≠ [])) []
  rw [List.append_nil] at hwalk
  unfold normalize
  show (if spell (Path.root path) (walk _ [] (names path)).reverse = [] then
    Text.ofString "." else spell (Path.root path) (walk _ [] (names path)).reverse) = _
  rw [hwalk, List.reverse_reverse]

theorem root_spell {root : Text} (hroot : IsRoot root) {ns : List Text}
    (hplain : ∀ name ∈ ns, IsPlain name) : Path.root (spell root ns) = root :=
  root_append hroot (stops_isSlash_join hplain)

/-- The canonical paths are the normal ones that go down and somewhere. -/
theorem isCanonical_iff {path : Text} :
    IsCanonical path ↔
      normalize path = path ∧ path ≠ "." ∧ Text.ofString ".." ∉ names path := by
  constructor
  · rintro ⟨hne, root, ns, hroot, hplain, hpath⟩
    have hnames : names path = ns := by rw [hpath, names_spell hroot hplain]
    have hstart : Path.root path = root := by rw [hpath, root_spell hroot hplain]
    have hdown : Text.ofString ".." ∉ names path := by
      intro hmem
      rw [hnames] at hmem
      exact (hplain _ hmem).ne_up rfl
    refine ⟨?_, ?_, hdown⟩
    · rw [normalize_of_not_mem hdown, hstart, hnames, ← hpath]
      exact if_neg hne
    · intro hhere
      have hnil : ns = [] := by
        rw [← hnames, hhere]
        rfl
      rw [hnil, spell_nil, hhere] at hpath
      rcases hroot with h | h | h
      · exact absurd (hpath.trans h) (by decide)
      · exact absurd (hpath.trans h) (by decide)
      · exact absurd (hpath.trans h) (by decide)
  · rintro ⟨hnormal, hhere, hdown⟩
    rw [normalize_of_not_mem hdown] at hnormal
    by_cases hnil : spell (Path.root path) (names path) = []
    · rw [if_pos hnil] at hnormal
      exact absurd hnormal.symm hhere
    · rw [if_neg hnil] at hnormal
      refine ⟨?_, Path.root path, names path, isRoot_root path, ?_, hnormal.symm⟩
      · rw [← hnormal]
        exact hnil
      · intro name hname
        exact isPlain_of_mem_names hname fun heq => hdown (heq ▸ hname)

theorem isLocal_iff {path : Text} :
    IsLocal path ↔ IsCanonical path ∧ Text.startsWith "/" path = false := by
  constructor
  · rintro ⟨hne, ns, hplain, hpath⟩
    refine ⟨⟨hne, [], ns, Or.inl rfl, hplain, hpath⟩, ?_⟩
    rw [hpath]
    exact startsWith_slash (stops_isSlash_join hplain)
  · rintro ⟨⟨hne, root, ns, hroot, hplain, hpath⟩, hstart⟩
    refine ⟨hne, ns, hplain, ?_⟩
    rcases hroot with h | h | h
    · rw [hpath, h]
    · rw [hpath, h] at hstart
      cases hstart
    · rw [hpath, h] at hstart
      cases hstart

end Path

end ImportAtlas
