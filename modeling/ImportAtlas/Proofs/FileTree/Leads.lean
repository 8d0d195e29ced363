import ImportAtlas.Proofs.FileTree.Route
import Mathlib.Data.List.Induction

/-!
# Ways that lead somewhere

A route that leads somewhere is followed in steps of a few kinds: over names that lead nowhere else,
up, down into a directory, and on from a link; and it ends in a directory, at an entry with the last
name, or at a name that is free.  Whatever holds of all successful ways is shown by induction on
their steps, and faults do not get in the way.
-/

namespace ImportAtlas

namespace Node

variable {root node : Node} {location : Location} {name : Text}

def HasDirectory (root : Node) (location : Location) : Prop :=
  ∃ entries, root.get? location = some (.directory entries)

theorem hasDirectory_of_child (h : root.get? (location ++ [name]) = some node) :
    root.HasDirectory location := by
  rw [get?_snoc, Option.bind_eq_some_iff] at h
  rcases h with ⟨found, hfound, hchild⟩
  cases found with
  | directory entries => exact ⟨entries, hfound⟩
  | file content => cases hchild
  | link target => cases hchild
  | device isFull => cases hchild

theorem HasDirectory.dropLast (h : root.HasDirectory location) :
    root.HasDirectory location.dropLast := by
  induction location using List.reverseRecOn with
  | nil => exact h
  | append_singleton before name _ =>
      rcases h with ⟨entries, hget⟩
      rw [List.dropLast_concat]
      exact hasDirectory_of_child hget

theorem HasDirectory.top (h : root.HasDirectory location) : root.HasDirectory [] := by
  induction location using List.reverseRecOn with
  | nil => exact h
  | append_singleton before name ih =>
      apply ih
      rcases h with ⟨entries, hget⟩
      exact hasDirectory_of_child hget

theorem HasDirectory.start (h : root.HasDirectory location) (path : Text) :
    root.HasDirectory (FileTree.start path location) := by
  unfold FileTree.start
  split
  case isTrue => exact h.top
  case isFalse => exact h

end Node

namespace FileTree

open Node

structure IsStep (name : Text) : Prop where
  active : isIdle name = false
  ne_up : name ≠ ".."
  short : byteLength name ≤ nameLimit

/-- A route leads to a place, through at most so many links. -/
inductive Leads (root : Node) (quest : Quest) :
    (links : Nat) → (base : Location) → (route : List Text) → Place → Prop where
  /-- The route ends in a directory. -/
  | stay {links : Nat} {base : Location} {entries : List (Text × Node)}
      (there : root.get? base = some (.directory entries)) :
      Leads root quest links base [] (.entry base (.directory entries))
  /-- A name leads nowhere else. -/
  | idle {links : Nat} {base : Location} {name : Text} {rest : List Text} {place : Place}
      (idle : isIdle name = true) (next : Leads root quest links base rest place) :
      Leads root quest links base (name :: rest) place
  /-- One directory up. -/
  | up {links : Nat} {base : Location} {rest : List Text} {place : Place}
      (next : Leads root quest links base.dropLast rest place) :
      Leads root quest links base (Text.ofString ".." :: rest) place
  /-- The last name is free. -/
  | free {links : Nat} {base : Location} {name : Text} {rest : List Text} (step : IsStep name)
      (directory : root.HasDirectory base) (absent : root.get? (base ++ [name]) = none)
      (ends : rest = [] ∨ rest = [[]]) (asks : quest = .file → rest ≠ [[]]) :
      Leads root quest links base (name :: rest) (.free base name)
  /-- The last name is that of an entry, which is a link only when it is wanted itself. -/
  | last {links : Nat} {base : Location} {name : Text} {node : Node} (step : IsStep name)
      (there : root.get? (base ++ [name]) = some node)
      (wanted : ∀ target, node = .link target → quest = .name) :
      Leads root quest links base [name] (.entry (base ++ [name]) node)
  /-- Down into a directory. -/
  | down {links : Nat} {base : Location} {name : Text} {rest : List Text} {place : Place}
      (step : IsStep name) (directory : root.HasDirectory (base ++ [name])) (continues : rest ≠ [])
      (asks : quest = .file → rest ≠ [[]])
      (next : Leads root quest links (base ++ [name]) rest place) :
      Leads root quest links base (name :: rest) place
  /-- On from a link. -/
  | link {links : Nat} {base : Location} {name target : Text} {rest : List Text} {place : Place}
      (step : IsStep name) (there : root.get? (base ++ [name]) = some (.link target))
      (wanted : rest = [] → quest ≠ .name) (asks : quest = .file → rest ≠ [[]])
      (next : Leads root quest links (start target base) (route target ++ rest) place) :
      Leads root quest (links + 1) base (name :: rest) place

variable {root node : Node} {quest : Quest} {links : Nat} {base directory location : Location}
  {name : Text} {rest names : List Text} {place : Place}

/-!
## Following is finding a way
-/

theorem follow_step (hname : IsStep name) (hasks : quest = .file → rest ≠ [[]]) :
    follow root quest links base (name :: rest) =
      match root.get? (base ++ [name]) with
      | none => if rest = [] || rest = [[]] then .ok (.free base name) else .error .notFound
      | some (.directory entries) =>
          if rest = [] then .ok (.entry (base ++ [name]) (.directory entries))
          else follow root quest links (base ++ [name]) rest
      | some (.link target) =>
          if rest = [] && quest = .name then .ok (.entry (base ++ [name]) (.link target))
          else
            match links with
            | 0 => .error .tooManyLinks
            | links + 1 => follow root quest links (start target base) (route target ++ rest)
      | some node =>
          if rest = [] then .ok (.entry (base ++ [name]) node) else .error .notDirectory := by
  have hidle : ¬ (decide (name = []) || decide (name = Text.ofString ".")) = true := by
    have hactive := hname.active
    unfold isIdle at hactive
    simp [hactive]
  have hfile : ¬ (decide (quest = .file) && decide (rest = [[]])) = true := by
    simpa using hasks
  rw [get?_snoc, follow, if_neg hidle, if_neg hname.ne_up, if_neg hfile]
  exact if_neg (Nat.not_lt.mpr hname.short)

theorem follow_of_leads (h : Leads root quest links base names place) :
    follow root quest links base names = .ok place := by
  induction h with
  | stay there => exact follow_nil_of_get? there
  | idle idle _ ih => rw [follow_idle idle, ih]
  | up _ ih => rw [follow_up, ih]
  | free step _ absent ends asks =>
      rw [follow_step step asks, absent]
      exact if_pos (by simpa using ends)
  | @last _ _ _ node step there wanted =>
      rw [follow_step step (by simp), there]
      cases node with
      | directory entries => rfl
      | file content => rfl
      | device isFull => rfl
      | link target => simp [wanted target rfl]
  | down step directory continues asks _ ih =>
      rcases directory with ⟨entries, hthere⟩
      rw [follow_step step asks, hthere]
      simp only [if_neg continues, ih]
  | @link _ _ _ _ rest _ step there wanted asks _ ih =>
      rw [follow_step step asks, there]
      have hgoes : ¬ (decide (rest = []) && decide (quest = .name)) = true := by
        simpa using wanted
      exact (if_neg hgoes).trans ih

theorem isStep_of_not (hidle : ¬ (decide (name = []) || decide (name = Text.ofString ".")) = true)
    (hup : ¬ name = Text.ofString "..") (hlong : ¬ nameLimit < byteLength name) : IsStep name :=
  ⟨Bool.eq_false_iff.mpr hidle, hup, Nat.not_lt.mp hlong⟩

/-- From a directory every route that is followed to a place leads there. -/
theorem leads_of_follow (hbase : root.HasDirectory base)
    (h : follow root quest links base names = .ok place) :
    Leads root quest links base names place := by
  fun_induction follow root quest links base names <;> try cases h
  case case1 hget =>
    rcases hbase with ⟨entries, hentries⟩
    rw [hget, Option.some.injEq] at hentries
    subst hentries
    exact .stay hget
  case case3 hidle ih => exact .idle hidle (ih hbase h)
  case case4 ih => exact .up (ih hbase.dropLast h)
  case case7 hidle hup hasks hshort hchild hends =>
    exact .free (isStep_of_not hidle hup hshort) hbase (by rw [get?_snoc, hchild])
      (by simpa using hends) (by simpa using hasks)
  case case9 hidle hup hshort entries hchild hasks =>
    exact .last (isStep_of_not hidle hup hshort) (by rw [get?_snoc, hchild]) (by simp)
  case case10 hidle hup hasks hshort entries hchild hrest ih =>
    have hdirectory : root.HasDirectory _ := ⟨entries, by rw [get?_snoc, hchild]⟩
    exact .down (isStep_of_not hidle hup hshort) hdirectory hrest (by simpa using hasks)
      (ih hdirectory h)
  case case11 hidle hup hasks hshort target hchild hwanted =>
    simp only [Bool.and_eq_true, decide_eq_true_eq] at hwanted
    rcases hwanted with ⟨rfl, rfl⟩
    exact .last (isStep_of_not hidle hup hshort) (by rw [get?_snoc, hchild]) (fun _ _ => rfl)
  case case13 hidle hup hasks hshort target hchild hgoes fewer ih =>
    exact .link (isStep_of_not hidle hup hshort) (by rw [get?_snoc, hchild]) (by simpa using hgoes)
      (by simpa using hasks) (ih (hbase.start target) h)
  case case14 hidle hup hshort node _ hlink hchild hasks =>
    exact .last (isStep_of_not hidle hup hshort) (by rw [get?_snoc, hchild])
      (fun target htarget => absurd htarget (hlink target))

theorem leads_iff (hbase : root.HasDirectory base) :
    Leads root quest links base names place ↔
      follow root quest links base names = .ok place :=
  ⟨follow_of_leads, leads_of_follow hbase⟩

/-!
## Where ways end

A slash at the end of a route stays there when the target of a link is put in front.
-/

/-- What is where a way ends: a free name in a directory, or an entry, which is a link only when it
is wanted itself. -/
def IsEnd (root : Node) (quest : Quest) : Place → Prop
  | .free directory name =>
      root.HasDirectory directory ∧ root.get? (directory ++ [name]) = none
  | .entry location node =>
      root.get? location = some node ∧ ∀ target, node = .link target → quest = .name

theorem Leads.isEnd (h : Leads root quest links base names place) : IsEnd root quest place := by
  induction h with
  | stay there => exact ⟨there, fun _ htarget => by cases htarget⟩
  | idle _ _ ih => exact ih
  | up _ ih => exact ih
  | free _ directory absent => exact ⟨directory, absent⟩
  | last _ there wanted => exact ⟨there, wanted⟩
  | down _ _ _ _ _ ih => exact ih
  | link _ _ _ _ _ ih => exact ih

theorem IsStep.ne_nil (h : IsStep name) : name ≠ [] := by
  rintro rfl
  cases h.active

theorem slash_of_cons (h : name :: rest = [] ∨ (name :: rest).getLast? = some ([] : Text)) :
    rest = [] ∧ name = [] ∨ rest.getLast? = some [] := by
  cases rest with
  | nil => exact Or.inl ⟨rfl, by simpa using h⟩
  | cons next rest => exact Or.inr (by simpa using h)

/-- With a slash at its end a route only leads to directories. -/
theorem Leads.isDirectory_of_slash (h : Leads root quest links base names (.entry location node))
    (hslash : names = [] ∨ names.getLast? = some []) : node.isDirectory = true := by
  generalize hplace : Place.entry location node = place at h
  induction h with
  | stay =>
      cases hplace
      rfl
  | idle _ _ ih => exact ih ((slash_of_cons hslash).imp_left And.left) hplace
  | up _ ih => exact ih ((slash_of_cons hslash).imp_left And.left) hplace
  | free => cases hplace
  | last step =>
      rcases slash_of_cons hslash with ⟨_, hname⟩ | hrest
      · exact absurd hname step.ne_nil
      · cases hrest
  | down step _ _ _ _ ih =>
      have hrest := (slash_of_cons hslash).resolve_left fun h => step.ne_nil h.right
      exact ih (Or.inr hrest) hplace
  | link step _ _ _ _ ih =>
      have hrest := (slash_of_cons hslash).resolve_left fun h => step.ne_nil h.right
      exact ih (Or.inr (by simp [List.getLast?_append, hrest])) hplace

end FileTree

end ImportAtlas
