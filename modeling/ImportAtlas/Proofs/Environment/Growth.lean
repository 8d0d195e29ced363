import ImportAtlas.Proofs.Environment.Assignment

/-!
# Growth of an environment

Setting a name that is not there adds it behind all others, and a file is never allowed to set one
that is.  So completing an environment from a file leaves it as it is and adds some of the file's
variables behind it.  Where no fault ends the loading, these are all variables of the file that the
environment lacked.
-/

namespace ImportAtlas

namespace Variables

variable {environment held first second assignments : Variables} {name value : Text}
  {entry : Text × Text}

/-!
## Looking names up
-/

theorem get?_cons (entry : Text × Text) (held : Variables) (name : Text) :
    get? (entry :: held) name = if entry.1 = name then some entry.2 else get? held name := by
  by_cases h : entry.1 = name <;> simp [get?, h]

theorem get?_append (first second : Variables) (name : Text) :
    get? (first ++ second) name = (get? first name).or (get? second name) := by
  unfold get?
  rw [List.find?_append]
  cases first.find? (·.1 = name) <;> rfl

theorem get?_eq_none_iff : held.get? name = none ↔ name ∉ held.map (·.1) := by
  simp only [get?, Option.map_eq_none_iff, List.find?_eq_none, decide_eq_true_eq, List.mem_map,
    not_exists, not_and]

theorem isSome_get?_of_mem (h : entry ∈ held) : (held.get? entry.1).isSome := by
  rw [Option.isSome_iff_ne_none, ne_eq, get?_eq_none_iff, not_not]
  exact List.mem_map_of_mem h

theorem put_of_get?_eq_none (h : held.get? name = none) :
    held.put name value = held ++ [(name, value)] := by
  rw [get?_eq_none_iff] at h
  induction held with
  | nil => rfl
  | cons entry held ih =>
      rcases entry with ⟨known, old⟩
      rw [List.map_cons, List.mem_cons, not_or] at h
      rw [put, if_neg (Ne.symm h.left), ih h.right]
      rfl

/-!
## Additions
-/

/-- The assignments to names that the environment lacks. -/
def additions (environment assignments : Variables) : Variables :=
  assignments.filter fun entry => (environment.get? entry.1).isNone

theorem mem_additions : entry ∈ environment.additions assignments ↔
    entry ∈ assignments ∧ environment.get? entry.1 = none := by
  simp [additions]

theorem get?_additions (h : environment.get? name = none) :
    (environment.additions assignments).get? name = assignments.get? name := by
  induction assignments with
  | nil => rfl
  | cons entry assignments ih =>
      by_cases hname : entry.1 = name
      · subst hname
        simp [additions, get?_cons, h]
      · cases hentry : environment.get? entry.1 with
        | none => simpa [additions, get?_cons, hname, hentry] using ih
        | some value => simpa [additions, get?_cons, hname, hentry] using ih

theorem get?_append_additions (environment assignments : Variables) (name : Text) :
    (environment ++ environment.additions assignments).get? name =
      (environment.get? name).or (assignments.get? name) := by
  rw [get?_append]
  cases hname : environment.get? name with
  | none => rw [Option.none_or, Option.none_or, get?_additions hname]
  | some value => rfl

theorem nodup_append_additions (h : (environment.map (·.1)).Nodup)
    (hassignments : (assignments.map (·.1)).Nodup) :
    ((environment ++ environment.additions assignments).map (·.1)).Nodup := by
  rw [List.map_append]
  refine h.append (hassignments.sublist (List.filter_sublist.map _)) ?_
  intro name hname hadded
  rcases List.mem_map.mp hadded with ⟨entry, hentry, rfl⟩
  exact get?_eq_none_iff.mp (mem_additions.mp hentry).right hname

theorem additions_append_singleton (hname : name ∉ assignments.map (·.1)) :
    (environment ++ [(name, value)]).additions assignments = environment.additions assignments := by
  unfold additions
  apply List.filter_congr
  intro entry hentry
  have hne : name ≠ entry.1 := by
    intro heq
    exact hname (heq ▸ List.mem_map_of_mem hentry)
  rw [get?_append]
  have hother : get? [(name, value)] entry.1 = none := by simp [get?, hne]
  rw [hother, Option.or_none]

open EnvironmentFile

theorem set_of_isAssignable (h : IsAssignable (name, value)) (hname : environment.get? name = none)
    {after : Variables} (hset : environment.set name value = .ok after) :
    after = environment ++ [(name, value)] := by
  unfold set at hset
  split at hset
  case h_1 => cases hset
  case h_2 =>
    rw [Utf8.canonicalName_of_isWellFormed h.name_isWellFormed,
      Utf8.canonicalName_of_isWellFormed h.value_isWellFormed, put_of_get?_eq_none hname] at hset
    exact (Except.ok.inj hset).symm

/-- Applying a file adds what the environment lacks, up to the first variable that cannot be
set: the names are distinct, so what is set does not change what the others find. -/
theorem exists_apply (environment : Variables) (hnodup : (assignments.map (·.1)).Nodup)
    (h : ∀ entry ∈ assignments, IsAssignable entry) :
    ∃ done rest, assignments = done ++ rest ∧
      (environment.apply false assignments).1 = environment ++ environment.additions done ∧
      ((environment.apply false assignments).2 = none → rest = []) := by
  induction assignments generalizing environment with
  | nil => exact ⟨[], [], rfl, by simp [apply, additions], fun _ => rfl⟩
  | cons first assignments ih =>
      rcases first with ⟨name, value⟩
      rw [List.map_cons, List.nodup_cons] at hnodup
      rw [List.forall_mem_cons] at h
      have hholds : environment.holds name = (environment.get? name).isSome :=
        holds_of_isWellFormed h.left.name_isWellFormed
      simp only [apply, Bool.not_false, Bool.true_and, hholds]
      cases hname : environment.get? name with
      | some old =>
          rcases ih environment hnodup.right h.right with ⟨done, rest, rfl, happly, hrest⟩
          refine ⟨(name, value) :: done, rest, rfl, ?_, hrest⟩
          simpa [additions, hname] using happly
      | none =>
          cases hset : environment.set name value with
          | error fault =>
              exact ⟨[], (name, value) :: assignments, rfl, by simp [additions], by simp⟩
          | ok after =>
              rcases ih after hnodup.right h.right with ⟨done, rest, rfl, happly, hrest⟩
              refine ⟨(name, value) :: done, rest, rfl, ?_, hrest⟩
              have hdone : name ∉ done.map (·.1) := by
                intro hmem
                exact hnodup.left (by simp [hmem])
              rw [set_of_isAssignable h.left hname hset] at happly ⊢
              rw [additions_append_singleton hdone] at happly
              simpa [additions, hname] using happly

end Variables

/-!
## Looking for a file
-/

/-- There is nothing at a path: it is no path at all, or it leads nowhere. -/
def FileTree.Lacks (tree : FileTree) (path : Text) : Prop :=
  Path.fault? path ≠ none ∨ tree.probe path = .ok none

namespace EnvironmentFile

variable {tree other : FileTree} {path : Text} {paths : List Text} {assignments : Variables}

theorem read?_eq_none_iff : read? tree path = .ok none ↔ tree.Lacks path := by
  unfold read? FileTree.readText? FileTree.Lacks
  cases hpath : Path.fault? path with
  | some fault => simp [Except.map]
  | none =>
      rcases hprobe : tree.probe path with fault | _ | node
      · simp [Except.map]
      · simp [Except.map]
      · cases tree.readText "utf-8" path <;> simp [Except.map]

theorem first?_eq_some_iff : first? tree paths = .ok (some (path, assignments)) ↔
    ∃ earlier later, paths = earlier ++ path :: later ∧
      (∀ absent ∈ earlier, tree.Lacks absent) ∧
      read? tree path = .ok (some assignments) := by
  simp only [← read?_eq_none_iff]
  induction paths with
  | nil => simp [first?]
  | cons first paths ih =>
      rw [first?]
      constructor
      · intro h
        split at h
        case h_1 => cases h
        case h_2 habsent =>
          rcases ih.mp h with ⟨earlier, later, rfl, hearlier, hread⟩
          exact ⟨first :: earlier, later, rfl, List.forall_mem_cons.mpr ⟨habsent, hearlier⟩, hread⟩
        case h_3 hread =>
          cases h
          exact ⟨[], paths, rfl, by simp, hread⟩
      · rintro ⟨earlier, later, hpaths, hearlier, hread⟩
        cases earlier with
        | nil =>
            cases hpaths
            rw [hread]
        | cons absent earlier =>
            cases hpaths
            rw [hearlier first (by simp)]
            exact ih.mpr ⟨earlier, later, rfl, fun p hp => hearlier p (by simp [hp]), hread⟩

/-- The files that are looked at: all up to the first that is there. -/
def inspected (tree : FileTree) : List Text → List Text
  | [] => []
  | path :: paths =>
      match read? tree path with
      | .ok none => path :: inspected tree paths
      | _ => [path]

theorem first?_congr (h : ∀ path ∈ inspected tree paths, read? other path = read? tree path) :
    first? other paths = first? tree paths := by
  induction paths with
  | nil => rfl
  | cons first paths ih =>
      rw [inspected] at h
      rw [first?, first?]
      rcases hread : read? tree first with fault | _ | assignments
      · rw [hread] at h
        rw [h first (by simp), hread]
      · rw [hread, List.forall_mem_cons] at h
        rw [h.left, hread]
        exact ih h.right
      · rw [hread] at h
        rw [h first (by simp), hread]

end EnvironmentFile

namespace Variables

open EnvironmentFile

variable {environment assignments : Variables} {tree other : FileTree} {choice : EnvironmentChoice}
  {path : Text} {found : Option (Text × Variables)}

/-!
## Loading a file
-/

theorem load_congr (h : first? other choice.candidates = first? tree choice.candidates) :
    environment.load other choice = environment.load tree choice := by
  rw [load, load, h]

theorem load_of_error {fault : LoadFault} (h : first? tree choice.candidates = .error fault) :
    (environment.load tree choice).1 = environment := by
  simp only [load, h]

theorem load_of_none (h : first? tree choice.candidates = .ok none) :
    environment.load tree choice =
      (environment, ⟨(choice.called.map missingRecord).toList, .ok ()⟩) := by
  simp only [load, h]

/-- Loading leaves the environment as it is and adds variables of the file that is found, and all
that were lacking when nothing goes wrong. -/
theorem exists_load_of_some (environment : Variables)
    (h : first? tree choice.candidates = .ok (some (path, assignments))) :
    ∃ done rest, assignments = done ++ rest ∧
      (environment.load tree choice).1 = environment ++ environment.additions done ∧
      ((environment.load tree choice).2.outcome = .ok () → rest = []) := by
  rcases exists_of_first? h with ⟨content, hcontent, rfl⟩
  rcases exists_apply environment (nodup_parse content)
    (fun _ hentry => isAssignable_of_mem_parse hcontent hentry) with
      ⟨done, rest, hparse, happly, hrest⟩
  refine ⟨done, rest, hparse, ?_⟩
  rcases happlied : environment.apply false (parse content) with ⟨after, fault?⟩
  rw [happlied] at happly hrest
  simp only [load, h, happlied]
  cases fault? with
  | none => exact ⟨happly, fun _ => hrest rfl⟩
  | some fault =>
      refine ⟨happly, ?_⟩
      intro hloaded
      cases hloaded

def ofFound : Option (Text × Variables) → Variables
  | none => []
  | some (_, assignments) => assignments

theorem outcome_load_of_forall (hfound : first? tree choice.candidates = .ok found)
    (h : ∀ entry ∈ ofFound found, ∀ c ∈ entry.1 ++ entry.2, c.val ≠ 0) :
    (environment.load tree choice).2.outcome = .ok () := by
  rcases found with _ | ⟨path, assignments⟩
  · rw [load_of_none hfound]
  · rcases happlied : environment.apply false assignments with ⟨after, _ | fault⟩
    · simp only [load, hfound, happlied]
      rfl
    · have hfault : ∃ fault, (environment.load tree choice).2.outcome = .error (.variable fault) :=
        ⟨fault, by simp only [load, hfound, happlied]; rfl⟩
      rcases load_eq_variable_iff.mp hfault with ⟨_, _, hother, entry, hentry, _, c, hc, hzero⟩
      rw [hfound] at hother
      cases hother
      exact absurd hzero (h entry hentry c hc)

theorem load_of_outcome (h : (environment.load tree choice).2.outcome = .ok ())
    (hfound : first? tree choice.candidates = .ok found) :
    (environment.load tree choice).1 = environment ++ environment.additions (ofFound found) := by
  rcases found with _ | ⟨path, assignments⟩
  · rw [load_of_none hfound]
    exact (List.append_nil environment).symm
  · rcases exists_load_of_some environment hfound with ⟨done, rest, rfl, hload, hrest⟩
    rw [hload, hrest h, List.append_nil]
    rfl

end Variables

end ImportAtlas
