import ImportAtlas.Discovery.Find
import ImportAtlas.Proofs.Encoding.Separator
import ImportAtlas.Proofs.Encoding.WellFormed
import ImportAtlas.Proofs.FileTree.Named
import ImportAtlas.Proofs.Path.Base
import Mathlib.Data.List.Flatten

/-!
# Spellings of a directory

A path that leads to a directory keeps leading there when it is tidied.  Empty names and names that
stay where they are do not matter on the way to a directory, and the other names are followed as
before, since they are given back by the system one by one.  The tidy spelling is no longer than the
given one, so it is in reach as well.  Along two ways the links are counted down together and,
between two of them, the names that lead somewhere else.
-/

namespace ImportAtlas

namespace FileTree

variable {root : Node} {links : Nat} {base location : Location} {name : Text}
  {rest names others : List Text} {entries : List (Text × Node)} {path : Text} {tree : FileTree}

def isIdle (name : Text) : Bool := name = [] || name = "."

def active (route : List Text) : List Text := route.filter (!isIdle ·)

/-!
## Steps towards a directory
-/

theorem follow_idle {quest : Quest} (h : isIdle name = true) :
    follow root quest links base (name :: rest) = follow root quest links base rest := by
  rw [follow]
  exact if_pos h

theorem follow_up {quest : Quest} :
    follow root quest links base (Text.ofString ".." :: rest) =
      follow root quest links base.dropLast rest := by
  rw [follow]
  rfl

theorem follow_nil_of_get? {quest : Quest} {node : Node} (h : root.get? base = some node) :
    follow root quest links base [] = .ok (.entry base node) := by
  rw [follow, h]

theorem follow_name_iff (hidle : isIdle name = false) (hup : name ≠ "..") :
    follow root .target links base (name :: rest) = .ok (.entry location (.directory entries)) ↔
      byteLength name ≤ nameLimit ∧
        ((∃ inner, (root.get? base).bind (·.child? name) = some (.directory inner) ∧
            follow root .target links (base ++ [name]) rest =
              .ok (.entry location (.directory entries))) ∨
          ∃ target fewer, (root.get? base).bind (·.child? name) = some (.link target) ∧
            links = fewer + 1 ∧
            follow root .target fewer (start target base) (route target ++ rest) =
              .ok (.entry location (.directory entries))) := by
  have hskip : ¬ (decide (name = []) || decide (name = Text.ofString ".")) = true := by
    unfold isIdle at hidle
    simp [hidle]
  rw [follow, if_neg hskip, if_neg hup, if_neg (by simp)]
  by_cases hlong : nameLimit < byteLength name
  · simp [hlong, Nat.not_le.mpr hlong]
  · rw [if_neg hlong]
    have hshort : byteLength name ≤ nameLimit := Nat.le_of_not_lt hlong
    cases hchild : (root.get? base).bind (·.child? name) with
    | none => by_cases hrest : rest = [] ∨ rest = [[]] <;> simp [hrest]
    | some child =>
        cases child with
        | directory inner =>
            have hthere : root.get? (base ++ [name]) = some (.directory inner) := by
              rw [Node.get?_snoc, hchild]
            by_cases hrest : rest = []
            · subst hrest
              rw [follow_nil_of_get? hthere]
              simp [hshort]
            · simp [hshort, hrest]
        | link target =>
            cases links with
            | zero => simp
            | succ fewer => simp [hshort]
        | file content => by_cases hrest : rest = [] <;> simp [hrest]
        | device isFull => by_cases hrest : rest = [] <;> simp [hrest]

/-!
## Names that do not matter
-/

theorem active_append (names others : List Text) :
    active (names ++ others) = active names ++ active others :=
  List.filter_append names others

theorem follow_of_active_nil {quest : Quest} (h : active names = []) :
    follow root quest links base names = follow root quest links base [] := by
  induction names with
  | nil => rfl
  | cons first names ih =>
      unfold active at h
      rw [List.filter_cons] at h
      split at h
      case isTrue => cases h
      case isFalse hidle =>
        have hidle : isIdle first = true := by simpa using hidle
        rw [follow_idle hidle, ih h]

theorem exists_of_active_cons {quest : Quest} (h : active names = name :: others) :
    isIdle name = false ∧ ∃ rest, active rest = others ∧
      ∀ links base, follow root quest links base names =
        follow root quest links base (name :: rest) := by
  induction names with
  | nil => cases h
  | cons first names ih =>
      unfold active at h
      rw [List.filter_cons] at h
      split at h
      case isTrue hactive =>
        rw [List.cons.injEq] at h
        rcases h with ⟨rfl, hothers⟩
        exact ⟨by simpa using hactive, names, hothers, fun _ _ => rfl⟩
      case isFalse hidle =>
        have hidle : isIdle first = true := by simpa using hidle
        rcases ih h with ⟨hname, rest, hrest, hfollow⟩
        refine ⟨hname, rest, hrest, ?_⟩
        intro links base
        rw [follow_idle hidle, hfollow]

/-- Routes with the same active names lead to the same directory. -/
theorem follow_of_active_eq (hactive : active names = active others)
    (h : follow root .target links base names = .ok (.entry location (.directory entries))) :
    follow root .target links base others = .ok (.entry location (.directory entries)) := by
  induction links using Nat.strongRecOn generalizing base names others with
  | ind links hfewer =>
      generalize hshared : active others = shared at hactive
      induction shared generalizing base names others with
      | nil =>
          rw [follow_of_active_nil hactive] at h
          rw [follow_of_active_nil hshared]
          exact h
      | cons name shared ih =>
          rcases exists_of_active_cons hactive with ⟨hidle, rest, hrest, hfollow⟩
          rcases exists_of_active_cons hshared with ⟨_, rest', hrest', hfollow'⟩
          rw [hfollow] at h
          rw [hfollow']
          by_cases hup : name = ".."
          · subst hup
            rw [follow_up] at h ⊢
            exact ih h hrest' hrest
          · rw [follow_name_iff hidle hup] at h ⊢
            rcases h with ⟨hshort, ⟨inner, hchild, hmore⟩ | ⟨target, fewer, hchild, hlinks, hmore⟩⟩
            · exact ⟨hshort, Or.inl ⟨inner, hchild, ih hmore hrest' hrest⟩⟩
            · have hroute : active (route target ++ rest) = active (route target ++ rest') := by
                rw [active_append, active_append, hrest, hrest']
              exact ⟨hshort, Or.inr ⟨target, fewer, hchild, hlinks,
                hfewer fewer (by omega) hroute hmore⟩⟩

/-!
## Tidy spellings
-/

/-- A path is followed along its names as the system gives them back. -/
theorem active_route (path : Text) :
    active (route path) =
      active ((Path.names path).flatMap fun name =>
        Text.splitOn '/' (Utf8.canonicalName name)) := by
  have hkept : ∀ parts : List Text,
      active (parts.flatMap fun part => Text.splitOn '/' (Utf8.canonicalName part)) =
        active ((parts.filter fun part => part ≠ [] && part ≠ ".").flatMap fun part =>
          Text.splitOn '/' (Utf8.canonicalName part)) := by
    intro parts
    induction parts with
    | nil => rfl
    | cons part parts ih =>
        rw [List.flatMap_cons, active_append, ih]
        by_cases hidle : part = [] ∨ part = "."
        · have hnone : active (Text.splitOn '/' (Utf8.canonicalName part)) = [] := by
            rcases hidle with rfl | rfl
            · decide
            · decide
          have hdropped : ¬ (decide (part ≠ []) && decide (part ≠ Text.ofString ".")) = true := by
            rcases hidle with rfl | rfl
            · decide
            · decide
          rw [hnone, List.filter_cons, if_neg hdropped, List.nil_append]
        · have hpart : (decide (part ≠ []) && decide (part ≠ Text.ofString ".")) = true := by
            simpa [not_or] using hidle
          rw [List.filter_cons, if_pos hpart, List.flatMap_cons, active_append]
  have hnonempty : ∀ names : List Text, active (names.filter (· ≠ [])) = active names := by
    intro names
    unfold active
    rw [List.filter_filter]
    apply List.filter_congr
    intro name _
    by_cases hname : name = [] <;> simp [isIdle, hname]
  have hslash : active [[]] = [] := rfl
  unfold route Path.names
  rw [← hkept, ← Utf8.splitOn_canonicalName]
  dsimp only
  split
  case isTrue => rw [active_append, hslash, List.append_nil, hnonempty]
  case isFalse => exact hnonempty _

theorem startsWith_slash_iff : Text.startsWith "/" path = true ↔ Path.root path ≠ [] := by
  cases path with
  | nil => decide
  | cons c rest =>
      have hstart : Text.startsWith "/" (c :: rest) = (CodePoint.ofChar '/' == c) := by
        simp [Text.startsWith, Text.ofString, List.isPrefixOf]
      rw [hstart, beq_iff_eq]
      by_cases hc : c = CodePoint.ofChar '/'
      · rw [Path.root, List.takeWhile_cons_of_pos (by simp [hc])]
        simp only [hc, true_iff, List.length_cons]
        split
        case h_1 hlength => cases hlength
        case h_2 => decide
        case h_3 => decide
      · rw [Path.root, List.takeWhile_cons_of_neg (by simp [hc])]
        simp [Ne.symm hc, Text.ofString]

theorem start_toText (path : Text) (base : Location) :
    start (TidyPath.ofText path).toText base = start path base := by
  have hroot : Text.startsWith "/" (TidyPath.ofText path).toText = Text.startsWith "/" path := by
    rw [Bool.eq_iff_iff, startsWith_slash_iff, startsWith_slash_iff, Path.root_toText]
  unfold start
  rw [hroot]

theorem not_isOverlong_toText (h : ¬ isOverlong path = true) :
    ¬ isOverlong (TidyPath.ofText path).toText = true := by
  unfold isOverlong at h ⊢
  rcases Path.toText_sublist path with hhere | hsublist
  · rw [hhere]
    decide
  · have hle : byteLength (TidyPath.ofText path).toText ≤ byteLength path :=
      (hsublist.flatMap _).length_le
    simp only [decide_eq_true_eq] at h ⊢
    omega

theorem entry_eq_ok_iff {location : Location} {node : Node} :
    tree.entry path = .ok (location, node) ↔ path ≠ [] ∧ ¬ isOverlong path = true ∧
      follow tree.root .target linkLimit (start path tree.here) (route path) =
        .ok (.entry location node) := by
  unfold entry place
  by_cases hnil : path = []
  · simp [hnil]
  · rw [if_neg hnil]
    by_cases hlong : isOverlong path = true
    · simp [hlong]
    · rw [if_neg hlong]
      cases hfollow : follow tree.root .target linkLimit (start path tree.here) (route path) with
      | error fault => simp
      | ok place => cases place <;> simp [hnil, hlong]

/-- The tidy spelling of a path leads to the same directory. -/
theorem entry_toText (h : tree.entry path = .ok (location, .directory entries)) :
    tree.entry (TidyPath.ofText path).toText = .ok (location, .directory entries) := by
  rw [entry_eq_ok_iff] at h ⊢
  rcases h with ⟨_, hshort, hfollow⟩
  have hactive : active (route path) = active (route (TidyPath.ofText path).toText) := by
    rw [active_route, active_route, Path.names_toText]
  refine ⟨Path.toText_ne_nil _, not_isOverlong_toText hshort, ?_⟩
  rw [start_toText]
  exact follow_of_active_eq hactive hfollow

/-!
## Roots
-/

/-- The text can be a path, the path leads to a directory, and that can be found out. -/
structure NamesDirectory (tree : FileTree) (path : Text) : Prop where
  isPath : Path.fault? path = none
  exists_entry : ∃ location entries, tree.entry path = .ok (location, .directory entries)
  seen : tree.host.refusal .look (TidyPath.ofText path).toText = none

theorem fault?_eq_none_iff :
    Path.fault? path = none ↔
      ∀ c ∈ path, (c.isSurrogate && (Utf8.strayByte? c).isNone) = false ∧ c.val ≠ 0 := by
  unfold Path.fault? Utf8.strangeRun?
  cases hrun : Utf8.surrogateRun? (fun c => c.isSurrogate && (Utf8.strayByte? c).isNone) path with
  | some failure =>
      have hsome : ¬ ∀ c ∈ path, (c.isSurrogate && (Utf8.strayByte? c).isNone) = false := by
        intro hall
        rw [Utf8.surrogateRun?_eq_none_iff.mpr hall] at hrun
        cases hrun
      constructor
      · intro h
        cases h
      · intro h
        exact absurd (fun c hc => (h c hc).left) hsome
  | none =>
      have hall := Utf8.surrogateRun?_eq_none_iff.mp hrun
      constructor
      · intro h c hc
        refine ⟨hall c hc, ?_⟩
        intro hzero
        have hany : path.any (·.val = 0) = true := List.any_eq_true.mpr ⟨c, hc, by simp [hzero]⟩
        simp [hany] at h
      · intro h
        have hany : path.any (·.val = 0) = false := by
          rw [List.any_eq_false]
          intro c hc
          simpa using (h c hc).right
        simp [hany]

theorem fault?_toText (h : Path.fault? path = none) :
    Path.fault? (TidyPath.ofText path).toText = none := by
  rcases Path.toText_sublist path with hhere | hsublist
  · rw [hhere]
    decide
  · rw [fault?_eq_none_iff] at h ⊢
    intro c hc
    exact h c (hsublist.subset hc)

theorem NamesDirectory.checkRoot (h : tree.NamesDirectory path) :
    Discovery.checkRoot tree path = .ok () := by
  rcases h.exists_entry with ⟨location, entries, hentry⟩
  unfold Discovery.checkRoot probe look
  dsimp only
  rw [fault?_toText h.isPath, attempt_of_none h.seen, entry_toText hentry]
  rfl

end FileTree

end ImportAtlas
