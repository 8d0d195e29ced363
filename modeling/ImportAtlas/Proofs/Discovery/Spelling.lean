import ImportAtlas.Discovery.Find
import ImportAtlas.Proofs.Path.Inside

/-!
# The spelling of found files

However the root is spelled and wherever in the tree a file is found, its path has been normalized.
So the files that are looked for below a root are listed by normal paths, and a path that is not
normal is none of them.  They are looked for in three steps, each of which may fail: the root is
checked, the files below it are walked, and git is asked which of them it tracks.
-/

namespace ImportAtlas

namespace Node

variable {tree : FileTree} {rule : WalkRule} {file : Text}

theorem normalize_underRoot (directory relative : Text) :
    Path.normalize (Path.underRoot directory relative) = Path.underRoot directory relative :=
  Path.normalize_normalize _

mutual

theorem normalize_of_mem_walk {path : Text} :
    (node : Node) → file ∈ node.walk tree rule path → Path.normalize file = file
  | .directory entries, hfile => by
      rw [walk] at hfile
      split at hfile
      case isTrue => cases hfile
      case isFalse =>
        rcases List.mem_append.mp hfile with hfile | hfile
        · rcases List.mem_map.mp hfile with ⟨name, _, heq⟩
          rw [← heq]
          exact normalize_underRoot path name
        · rcases List.mem_flatMap.mp hfile with ⟨found, hfound, hfile⟩
          rw [List.mem_mergeSort] at hfound
          exact normalize_of_mem_walkEntries entries hfound hfile
  | .file _, hfile => by cases hfile
  | .link _, hfile => by cases hfile
  | .device _, hfile => by cases hfile

theorem normalize_of_mem_walkEntries {path : Text} {found : Text × List Text} :
    (entries : List (Text × Node)) → found ∈ walkEntries tree rule path entries →
      file ∈ found.2 → Path.normalize file = file
  | [], hfound, _ => by cases hfound
  | (name, node) :: rest, hfound, hfile => by
      rw [walkEntries] at hfound
      split at hfound
      case isTrue =>
        rcases List.mem_cons.mp hfound with heq | hfound
        · rw [heq] at hfile
          exact normalize_of_mem_walk node hfile
        · exact normalize_of_mem_walkEntries rest hfound hfile
      case isFalse => exact normalize_of_mem_walkEntries rest hfound hfile

end

end Node

namespace Discovery

variable {tree : FileTree} {rule : WalkRule} {settings : Settings} {git : GitAnswer}
  {root file : Text} {files : List Text}

theorem normalize_of_mem_walk (h : file ∈ tree.walk rule root) : Path.normalize file = file := by
  unfold FileTree.walk at h
  split at h
  case h_1 location node hentry => exact Node.normalize_of_mem_walk node h
  case h_2 => cases h

theorem outcome_selectTracked (walked : List Text) :
    (selectTracked walked git root).outcome =
      .ok (((git.trackedFiles root).1.map fun tracked =>
        walked.filter (tracked.contains ·)).getD walked) := by
  unfold selectTracked
  rcases git.trackedFiles root with ⟨_ | tracked, record⟩ <;> rfl

theorem outcome_sourceFiles_eq : (sourceFiles tree settings git root).outcome =
    (checkRoot tree root).bind fun _ =>
      ((tree.walkFiles (walkRule settings) root).mapError RootFault.inaccessible).bind fun walked =>
        if settings.useGit then
          match tree.host.gitFault? root with
          | some fault => .error (.inaccessible fault)
          | none => (selectTracked walked git root).outcome
        else .ok walked := by
  unfold sourceFiles
  cases checkRoot tree root with
  | error fault => rfl
  | ok _ =>
      cases tree.walkFiles (walkRule settings) root with
      | error fault => rfl
      | ok walked =>
          cases settings.useGit with
          | false => rfl
          | true => cases tree.host.gitFault? root <;> rfl

theorem eq_walk_of_walkFiles {walked : List Text} (h : tree.walkFiles rule root = .ok walked) :
    walked = tree.walk rule root := by
  unfold FileTree.walkFiles at h
  split at h
  case isTrue => cases h
  case isFalse => exact (Except.ok.inj h).symm

theorem sublist_walk_of_sourceFiles
    (h : (sourceFiles tree settings git root).outcome = .ok files) :
    files.Sublist (tree.walk (walkRule settings) root) := by
  rw [outcome_sourceFiles_eq] at h
  cases hroot : checkRoot tree root with
  | error fault =>
      rw [hroot] at h
      cases h
  | ok _ =>
      cases hwalk : tree.walkFiles (walkRule settings) root with
      | error fault =>
          rw [hroot, hwalk] at h
          cases h
      | ok walked =>
          rw [hroot, hwalk] at h
          rw [← eq_walk_of_walkFiles hwalk]
          simp only [Except.bind, mapError_ok, outcome_selectTracked] at h
          split at h
          case isTrue =>
            split at h
            case h_1 => cases h
            case h_2 =>
              cases h
              cases (git.trackedFiles root).1 with
              | none => exact List.Sublist.refl _
              | some tracked => exact List.filter_sublist
          case isFalse =>
            cases h
            exact List.Sublist.refl _

theorem normalize_of_mem_sourceFiles
    (h : (sourceFiles tree settings git root).outcome = .ok files) (hfile : file ∈ files) :
    Path.normalize file = file :=
  normalize_of_mem_walk ((sublist_walk_of_sourceFiles h).subset hfile)

end Discovery

end ImportAtlas
