import ImportAtlas.Proofs.FileTree.Leads

/-!
# Names as the system stores them

The names in the tree of an operating system are bounded in length, and the system gives them back
as they are.  Where such names stand at the end of a path, its route ends in them, whatever stands
before them.
-/

namespace ImportAtlas

open ImportAtlas.Path

namespace FileTree

/-- A name that the system stores as it is given. -/
structure IsStored (name : Text) : Prop where
  canonical : Utf8.canonicalName name = name
  short : byteLength name ≤ nameLimit

instance (name : Text) : Decidable (IsStored name) :=
  decidable_of_iff (Utf8.canonicalName name = name ∧ byteLength name ≤ nameLimit)
    ⟨fun ⟨canonical, short⟩ => ⟨canonical, short⟩, fun h => ⟨h.canonical, h.short⟩⟩

end FileTree

namespace Node

def HasStoredNames (node : Node) : Prop :=
  node.EveryListing fun names => ∀ name ∈ names, FileTree.IsStored name

variable {node child : Node} {location : Location}

theorem HasStoredNames.isStored_of_get? (h : node.HasStoredNames)
    (hget : node.get? location = some child) : ∀ name ∈ location, FileTree.IsStored name :=
  EveryListing.forall_of_get? h (fun _ hnames => hnames) hget

end Node

namespace FileTree

variable {front : Text} {names ns : List Text}

/-!
## Routes along stored names
-/

theorem canonicalName_spell (hstored : ∀ name ∈ ns, IsStored name) :
    Utf8.canonicalName (spell [] ns) = spell [] ns := by
  induction ns with
  | nil => rfl
  | cons name ns ih =>
      rw [List.forall_mem_cons] at hstored
      by_cases hne : ns = []
      · rw [hne]
        exact hstored.left.canonical
      · have hspell : spell [] (name :: ns) = name ++ CodePoint.ofChar '/' :: spell [] ns := by
          rw [spell, Text.join_cons _ _ hne]
          simp [spell, Text.ofString]
        rw [hspell, Utf8.canonicalName_append_slash, hstored.left.canonical, ih hstored.right]

/-- The route of a path ends in the stored names at its end, and what stands before them does not
depend on these. -/
theorem exists_route (hfront : front = [] ∨ ∃ more, front = more ++ [CodePoint.ofChar '/'])
    (hplain : ∀ name ∈ ns, IsPlain name) (hstored : ∀ name ∈ ns, IsStored name) (hne : ns ≠ []) :
    ∃ names, route (front ++ spell [] ns) = names ++ ns ∧ active names = active (route front) := by
  have hends : Text.endsWith "/" (front ++ spell [] ns) = false :=
    endsWith_slash ((stops_isSlash_spell hplain hne).right.right front)
  have hsplit : Text.splitOn '/' (spell [] ns) = ns :=
    Text.splitOn_join hne fun name hname => (hplain name hname).unslashed
  have hkept : ns.filter (· ≠ []) = ns := by
    rw [List.filter_eq_self]
    intro name hname
    simpa using (hplain name hname).nonempty
  rcases hfront with rfl | ⟨more, rfl⟩
  · refine ⟨[], ?_, rfl⟩
    rw [List.nil_append] at hends ⊢
    unfold route
    rw [canonicalName_spell hstored, hsplit, hkept, hends]
    rfl
  · refine ⟨(Text.splitOn '/' (Utf8.canonicalName more)).filter (· ≠ []), ?_, ?_⟩
    · have hpath : more ++ [CodePoint.ofChar '/'] ++ spell [] ns =
          more ++ CodePoint.ofChar '/' :: spell [] ns := by simp
      rw [hpath] at hends ⊢
      unfold route
      rw [hends, Utf8.canonicalName_append_slash, Text.splitOn_append_sep,
        canonicalName_spell hstored, hsplit, List.filter_append, hkept]
      rfl
    · have hslash : Text.endsWith "/" (more ++ [CodePoint.ofChar '/']) = true :=
        List.isSuffixOf_iff_suffix.mpr ⟨more, rfl⟩
      unfold route
      rw [hslash, Utf8.canonicalName_append_slash, Text.splitOn_append_sep, List.filter_append]
      show _ = active (_ ++ [] ++ [[]])
      rw [List.append_nil, active_append]
      exact (List.append_nil _).symm

theorem isStep_of_isPlain {name : Text} (hplain : IsPlain name) (hstored : IsStored name) :
    IsStep name where
  active := by simp [isIdle, hplain.nonempty, hplain.ne_here]
  ne_up := hplain.ne_up
  short := hstored.short

/-!
## Files in the root
-/

variable {tree : FileTree} {name : Text} {content : List UInt8}

theorem route_of_isStored (hplain : IsPlain name) (hstored : IsStored name) :
    route name = [name] := by
  have hends : Text.endsWith "/" name = false :=
    endsWith_slash (stops_isSlash_of_isPlain hplain).right
  have hplains : ∀ piece ∈ [name], CodePoint.ofChar '/' ∉ piece := by simpa using hplain.unslashed
  have hsplit : Text.splitOn '/' name = [name] := Text.splitOn_join (List.cons_ne_nil _ _) hplains
  unfold route
  rw [hstored.canonical, hsplit, hends]
  simp [hplain.nonempty]

theorem read_of_child? (hread : tree.host.refusal .read name = none) (hhere : tree.here = [])
    (hplain : IsPlain name) (hstored : IsStored name)
    (hchild : tree.root.child? name = some (.file content)) : tree.read name = .ok content := by
  have hshort : isOverlong name = false := by
    have hle := hstored.short
    unfold nameLimit at hle
    exact decide_eq_false (Nat.not_le.mpr (Nat.lt_of_le_of_lt hle (by decide)))
  have hstart : start name tree.here = [] := by
    rw [hhere]
    exact ite_self _
  have hchild' : (tree.root.get? []).bind (·.child? name) = some (.file content) := hchild
  have hplace : tree.place .target name = .ok (.entry [name] (.file content)) := by
    unfold place
    rw [if_neg hplain.nonempty, hshort, hstart, route_of_isStored hplain hstored, follow, hchild']
    simp [hplain.nonempty, hplain.ne_here, hplain.ne_up, hstored.short]
  unfold read FileTree.content entry
  rw [attempt_of_none hread, hplace]

end FileTree

end ImportAtlas
