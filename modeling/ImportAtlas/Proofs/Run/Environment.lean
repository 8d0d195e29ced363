import ImportAtlas.Proofs.Environment.Growth
import ImportAtlas.Run.Execution
import Mathlib

/-!
# The environment from run to run

The runs of one process share its environment.  A run only ever adds to it, and what it adds comes
from one file: the one that the command line names, or the first of the usual ones that is there.
So whatever the runs are, and however they end, a variable keeps its value through all of them.
-/

namespace ImportAtlas

structure Call where
  words : List Text
  tree : FileTree
  git : GitAnswer
  output : StandardOutput

namespace Call

open EnvironmentFile

variable {call : Call} {environment before after : Variables} {invocation : Invocation}
  {path name value : Text} {assignments : Variables}

def leave (call : Call) (environment : Variables) : Variables :=
  (World.run ⟨call.tree, environment⟩ call.words call.git call.output).world.environment

def leaveAll (environment : Variables) (calls : List Call) : Variables :=
  calls.foldl (fun environment call => call.leave environment) environment

/-- The files that a call may take, the first that is there.  A file that is named stands alone, but
a name left blank counts as none. -/
def candidates (call : Call) : List Text :=
  match Invocation.ofTexts call.words with
  | .error _ => []
  | .ok invocation =>
      match invocation.environmentFile with
      | some (.value path) => [path.toText]
      | none | some .blank => [".importgraph.env", ".env"]

/-- The file that a call takes, with its assignments: the first candidate that is there. -/
def Takes (call : Call) (path : Text) (assignments : Variables) : Prop :=
  ∃ earlier later, call.candidates = earlier ++ path :: later ∧
    (∀ absent ∈ earlier, call.tree.Lacks absent) ∧
    read? call.tree path = .ok (some assignments)

def Completes (call : Call) (environment : Variables) : Prop :=
  ∃ invocation, Invocation.ofTexts call.words = .ok invocation ∧
    (environment.load call.tree invocation.environmentChoice).2.outcome = .ok ()

structure Grows (call : Call) (before after : Variables) : Prop where
  /-- No variable is changed or removed. -/
  keeps : ∀ name value, before.get? name = some value → after.get? name = some value
  /-- What there was stands before what is added. -/
  isPrefix : before <+: after
  /-- What is added comes from the file that the call takes. -/
  adds : after = before ∨ ∃ path assignments, call.Takes path assignments ∧
    ∀ entry ∈ after, entry ∈ before ∨ entry ∈ assignments
  /-- Once the environment is completed, all variables of that file are set. -/
  completes : call.Completes before → ∀ path assignments, call.Takes path assignments →
    ∀ entry ∈ assignments, (after.get? entry.1).isSome
  /-- No file behind the one that is taken matters. -/
  ignores : ∀ tree, (∀ path ∈ inspected call.tree call.candidates,
    read? tree path = read? call.tree path) → leave { call with tree := tree } before = after

/-!
## One call
-/

theorem leave_of_ofTexts (h : Invocation.ofTexts call.words = .ok invocation) :
    call.leave environment = (environment.load call.tree invocation.environmentChoice).1 := by
  simp only [leave, World.run, h, Invocation.run]
  split <;> rfl

theorem leave_of_halt {halt : Halt} (h : Invocation.ofTexts call.words = .error halt) :
    call.leave environment = environment := by
  cases halt with
  | help =>
      simp only [leave, World.run, h, World.help]
      split <;> rfl
  | refused fault => simp only [leave, World.run, h]

theorem candidates_of_ofTexts (h : Invocation.ofTexts call.words = .ok invocation) :
    call.candidates = invocation.environmentChoice.candidates := by
  simp only [candidates, h, Invocation.environmentChoice]
  rcases invocation.environmentFile with _ | _ | path <;> rfl

theorem takes_iff (h : Invocation.ofTexts call.words = .ok invocation) :
    call.Takes path assignments ↔
      first? call.tree invocation.environmentChoice.candidates =
        .ok (some (path, assignments)) := by
  rw [Takes, candidates_of_ofTexts h, first?_eq_some_iff]

theorem not_takes_of_halt {halt : Halt} (h : Invocation.ofTexts call.words = .error halt) :
    ¬ call.Takes path assignments := by
  rintro ⟨earlier, later, hcandidates, _⟩
  simp [candidates, h] at hcandidates

theorem Takes.unique {other : Text} {others : Variables} (h : call.Takes path assignments)
    (hother : call.Takes other others) : other = path ∧ others = assignments := by
  cases hwords : Invocation.ofTexts call.words with
  | error halt => exact absurd h (not_takes_of_halt hwords)
  | ok invocation =>
      rw [takes_iff hwords] at h hother
      rw [h] at hother
      cases hother
      exact ⟨rfl, rfl⟩

theorem keeps_of_isPrefix (h : before <+: after) (hname : before.get? name = some value) :
    after.get? name = some value := by
  rcases h with ⟨added, rfl⟩
  rw [Variables.get?_append, hname, Option.some_or]

theorem leave_ignores (environment : Variables) {tree : FileTree}
    (h : ∀ path ∈ inspected call.tree call.candidates, read? tree path = read? call.tree path) :
    leave { call with tree := tree } environment = call.leave environment := by
  cases hwords : Invocation.ofTexts call.words with
  | error halt =>
      have hother : Invocation.ofTexts ({ call with tree := tree } : Call).words = .error halt :=
        hwords
      rw [leave_of_halt hwords, leave_of_halt hother]
  | ok invocation =>
      have hother : Invocation.ofTexts ({ call with tree := tree } : Call).words = .ok invocation :=
        hwords
      rw [candidates_of_ofTexts hwords] at h
      rw [leave_of_ofTexts hwords, leave_of_ofTexts hother, Variables.load_congr (first?_congr h)]

/-- A call adds some variables of the file that it takes, or none when it takes none. -/
theorem exists_leave (call : Call) (environment : Variables) :
    ((∀ path assignments, ¬ call.Takes path assignments) ∧ call.leave environment = environment) ∨
      ∃ path done rest, call.Takes path (done ++ rest) ∧
        call.leave environment = environment ++ environment.additions done ∧
        (call.Completes environment → rest = []) := by
  cases hwords : Invocation.ofTexts call.words with
  | error halt => exact Or.inl ⟨fun _ _ => not_takes_of_halt hwords, leave_of_halt hwords⟩
  | ok invocation =>
      rw [leave_of_ofTexts hwords]
      simp only [takes_iff hwords]
      rcases hfirst : first? call.tree invocation.environmentChoice.candidates with
        fault | _ | ⟨path, assignments⟩
      · exact Or.inl ⟨by simp, Variables.load_of_error hfirst⟩
      · exact Or.inl ⟨by simp, by rw [Variables.load_of_none hfirst]⟩
      · rcases Variables.exists_load_of_some environment hfirst with
          ⟨done, rest, rfl, hload, hrest⟩
        refine Or.inr ⟨path, done, rest, rfl, hload, ?_⟩
        rintro ⟨other, hother, hloaded⟩
        rw [hwords] at hother
        cases hother
        exact hrest hloaded

theorem grows_leave (call : Call) (environment : Variables) :
    call.Grows environment (call.leave environment) := by
  rcases exists_leave call environment with ⟨hnone, hsame⟩ |
    ⟨path, done, rest, htakes, hleave, hrest⟩
  · exact {
      keeps := fun name value hname => by rwa [hsame]
      isPrefix := ⟨[], by rw [List.append_nil, hsame]⟩
      adds := Or.inl hsame
      completes := fun _ path assignments htakes => absurd htakes (hnone path assignments)
      ignores := fun tree htree => leave_ignores environment htree }
  · have hprefix : environment <+: call.leave environment := by
      rw [hleave]
      exact List.prefix_append _ _
    exact {
      keeps := fun name value => keeps_of_isPrefix hprefix
      isPrefix := hprefix
      adds := by
        refine Or.inr ⟨path, done ++ rest, htakes, ?_⟩
        intro entry hentry
        rw [hleave, List.mem_append, Variables.mem_additions] at hentry
        rcases hentry with hentry | ⟨hentry, _⟩
        · exact Or.inl hentry
        · exact Or.inr (List.mem_append_left rest hentry)
      completes := by
        intro hcompletes other assignments hother entry hentry
        rw [(htakes.unique hother).right, hrest hcompletes, List.append_nil] at hentry
        rw [hleave, Variables.get?_append_additions, Option.isSome_or,
          Variables.isSome_get?_of_mem hentry, Bool.or_true]
      ignores := fun tree htree => leave_ignores environment htree }

/-!
## All calls
-/

theorem isPrefix_leaveAll (environment : Variables) (calls : List Call) :
    environment <+: leaveAll environment calls := by
  induction calls generalizing environment with
  | nil => exact List.prefix_refl environment
  | cons call calls ih =>
      exact (grows_leave call environment).isPrefix.trans (ih (call.leave environment))

theorem leaveAll_append (environment : Variables) (earlier later : List Call) :
    leaveAll environment (earlier ++ later) = leaveAll (leaveAll environment earlier) later :=
  List.foldl_append

/-- Whatever calls came before, a call adds to the environment at most, from one file, and no later
call changes or removes what is there after it. -/
theorem environment_grows (environment : Variables) (earlier later : List Call) (call : Call) :
    call.Grows (leaveAll environment earlier) (leaveAll environment (earlier ++ [call])) ∧
      leaveAll environment (earlier ++ [call]) <+:
        leaveAll environment (earlier ++ [call] ++ later) ∧
      ∀ name value, (leaveAll environment (earlier ++ [call])).get? name = some value →
        (leaveAll environment (earlier ++ [call] ++ later)).get? name = some value := by
  have hlater : leaveAll environment (earlier ++ [call]) <+:
      leaveAll environment (earlier ++ [call] ++ later) := by
    rw [leaveAll_append environment (earlier ++ [call]) later]
    exact isPrefix_leaveAll _ later
  refine ⟨?_, hlater, fun name value => keeps_of_isPrefix hlater⟩
  rw [leaveAll_append]
  exact grows_leave call _

/-!
### A name left blank

The argument of an option is left blank by a separator written right behind it.  Such a name is no
file, but it does not keep the usual ones from being taken.
-/

def usualAssignments : Variables := [("IMPORTGRAPH_GRAPH_NAME", "Foo")]

def usualTree : FileTree where
  root := .directory
    [(".env", .file ("IMPORTGRAPH_GRAPH_NAME=Foo".toList.map fun c => UInt8.ofNat c.toNat))]
  here := []

def blankName : Call := ⟨["--env-file=--", "--no-git", "-qqq"], usualTree, .missing, .received⟩

def blankNameRun : Invocation :=
  { Invocation.standard with environmentFile := some .blank, useGit := some false, quiet := 3 }

theorem ofTexts_blankName : Invocation.ofTexts blankName.words = .ok blankNameRun := by
  decide

theorem leave_blankName : blankName.leave [] = usualAssignments := by
  have hfirst : first? usualTree blankNameRun.environmentChoice.candidates =
      .ok (some (Text.ofString ".env", usualAssignments)) := by cbv
  have happly : Variables.apply [] false usualAssignments = (usualAssignments, none) := by
    decide
  rw [leave_of_ofTexts ofTexts_blankName]
  show (Variables.load [] usualTree blankNameRun.environmentChoice).1 = _
  simp only [Variables.load, hfirst, happly]

theorem not_all_named_files_alone : ¬ ∀ (call : Call) (invocation : Invocation)
    (environment : Variables), Invocation.ofTexts call.words = .ok invocation →
      invocation.environmentFile ≠ none →
      ∀ entry ∈ call.leave environment, entry ∈ environment ∨
        ∃ path assignments, invocation.environmentFile = some (.value path) ∧
          read? call.tree path.toText = .ok (some assignments) ∧ entry ∈ assignments := by
  intro hall
  have hentry := hall blankName blankNameRun [] ofTexts_blankName (by decide)
    ("IMPORTGRAPH_GRAPH_NAME", "Foo") (by rw [leave_blankName]; decide)
  rcases hentry with hentry | ⟨path, _, hpath, _⟩
  · cases hentry
  · cases hpath

end Call

end ImportAtlas
