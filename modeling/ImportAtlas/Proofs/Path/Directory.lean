import ImportAtlas.Proofs.Path.Base

/-!
# Directory and file name

A path splits behind its last slash into a head and a file name.  The directory is the head without
the slashes that end it, which changes neither its root nor its names.  So however a path is
spelled, its directory has the same root, and its names are those of the directory and the file name
together.
-/

namespace ImportAtlas

namespace Path

def head (path : Text) : Text := (path.reverse.dropWhile (· ≠ CodePoint.ofChar '/')).reverse

theorem head_append_fileName (path : Text) : head path ++ fileName path = path := by
  unfold head fileName
  rw [← List.reverse_append, List.takeWhile_append_dropWhile, List.reverse_reverse]

theorem unslashed_fileName (path : Text) : CodePoint.ofChar '/' ∉ fileName path := by
  intro hmem
  have hslash := List.mem_takeWhile_imp (List.mem_reverse.mp hmem)
  simp at hslash

theorem fileName_append {front name : Text}
    (hfront : front = [] ∨ ∃ more, front = more ++ [CodePoint.ofChar '/'])
    (hname : CodePoint.ofChar '/' ∉ name) : fileName (front ++ name) = name := by
  unfold fileName
  rw [(cut_append hfront hname).left, List.reverse_reverse]

theorem head_cases (path : Text) :
    head path = [] ∨ ∃ front, head path = front ++ [CodePoint.ofChar '/'] := by
  have hstop := Text.stops_dropWhile (fun c => decide (c ≠ CodePoint.ofChar '/')) path.reverse
  unfold head
  cases hrest : path.reverse.dropWhile (fun c => decide (c ≠ CodePoint.ofChar '/')) with
  | nil => exact Or.inl rfl
  | cons c rest =>
      rw [hrest] at hstop
      have hc : c = CodePoint.ofChar '/' := by simpa using hstop
      exact Or.inr ⟨rest.reverse, by rw [hc, List.reverse_cons]⟩

/-- The directory is the head, or the head without slashes at its end but with something else. -/
theorem directory_cases (path : Text) :
    (∀ c ∈ head path, isSlash c = true) ∧ directory path = head path ∨
      ∃ slashes, (∀ c ∈ slashes, isSlash c = true) ∧ head path = directory path ++ slashes ∧
        ∃ c ∈ directory path, isSlash c = false := by
  have hdirectory : directory path = if (head path).all isSlash then head path
      else ((head path).reverse.dropWhile isSlash).reverse := rfl
  rw [hdirectory]
  by_cases hall : (head path).all isSlash = true
  · rw [if_pos hall]
    exact Or.inl ⟨List.all_eq_true.mp hall, rfl⟩
  · rw [if_neg hall]
    have hsplit : ((head path).reverse.dropWhile isSlash).reverse ++
        ((head path).reverse.takeWhile isSlash).reverse = head path := by
      rw [← List.reverse_append, List.takeWhile_append_dropWhile, List.reverse_reverse]
    have hslashes : ∀ c ∈ ((head path).reverse.takeWhile isSlash).reverse, isSlash c = true :=
      fun c hc => List.mem_takeWhile_imp (List.mem_reverse.mp hc)
    refine Or.inr ⟨_, hslashes, hsplit.symm, ?_⟩
    by_contra hnone
    apply hall
    rw [← hsplit, List.all_append, Bool.and_eq_true, List.all_eq_true, List.all_eq_true]
    refine ⟨?_, hslashes⟩
    intro c hc
    by_contra hc'
    exact hnone ⟨c, hc, by simpa using hc'⟩

theorem root_directory (path : Text) : Path.root (directory path) = Path.root path := by
  have hname := stops_isSlash_of_unslashed (unslashed_fileName path)
  rcases directory_cases path with ⟨hall, hdirectory⟩ | ⟨slashes, _, hhead, c, hc, hother⟩
  · rw [hdirectory]
    apply root_eq_of_takeWhile
    rw [← head_append_fileName path, Text.takeWhile_append_of_stops hall hname,
      head_append_fileName]
    exact List.takeWhile_eq_self_iff.mpr hall
  · have hsplit : path = directory path ++ (slashes ++ fileName path) := by
      rw [← List.append_assoc, ← hhead, head_append_fileName]
    have hroot := root_append_of_mem hc hother (slashes ++ fileName path)
    rw [← hsplit] at hroot
    exact hroot.symm

theorem names_append_slashes {slashes : Text} (h : ∀ c ∈ slashes, isSlash c = true)
    (path : Text) : names (path ++ slashes) = names path := by
  cases slashes with
  | nil => rw [List.append_nil]
  | cons c slashes =>
      have hc : c = CodePoint.ofChar '/' := by simpa [isSlash] using h c List.mem_cons_self
      have hnone : names slashes = [] := by
        have hrest := names_append_of_slashes (fun d hd => h d (List.mem_cons_of_mem c hd)) []
        rw [List.append_nil] at hrest
        exact hrest
      rw [hc, names_append_slash, hnone, List.append_nil]

theorem names_head (path : Text) : names (head path) = names (directory path) := by
  rcases directory_cases path with ⟨_, hdirectory⟩ | ⟨slashes, hslashes, hhead, _⟩
  · rw [hdirectory]
  · rw [hhead, names_append_slashes hslashes]

theorem names_eq_append (path : Text) :
    names path = names (directory path) ++ names (fileName path) := by
  have hsplit := head_append_fileName path
  rw [← names_head]
  rcases head_cases path with hnil | ⟨front, hfront⟩
  · rw [hnil, List.nil_append] at hsplit
    rw [hnil, hsplit]
    rfl
  · have hpath : path = front ++ CodePoint.ofChar '/' :: fileName path := by
      rw [hfront, List.append_assoc] at hsplit
      exact hsplit.symm
    have hhead : names (head path) = names front := by
      rw [hfront, names_append_slash]
      exact List.append_nil _
    rw [hhead, ← names_append_slash, ← hpath]

theorem normalize_join (base : Text) {relative : Text}
    (hrelative : Text.stops isSlash relative = true) :
    normalize (join base relative) =
      let spelled := spell (Path.root base)
        (walk (Path.root base ≠ []) [] (names base ++ names relative)).reverse
      if spelled = [] then Text.ofString "." else spelled := by
  have hparts : Path.root (join base relative) = Path.root base ∧
      names (join base relative) = names base ++ names relative := by
    by_cases hbase : base = []
    · have hjoin : join base relative = relative := by
        rw [hbase, join, startsWith_slash hrelative]
        rfl
      rw [hjoin, hbase]
      exact ⟨root_append (Or.inl rfl) hrelative, rfl⟩
    · exact ⟨root_join_relative hbase hrelative, names_join_relative hbase hrelative⟩
  unfold normalize
  rw [hparts.left, hparts.right]
  rfl

end Path

end ImportAtlas
