import ImportAtlas.Proofs.Environment.Repetition
import ImportAtlas.Proofs.Run.Ending

/-!
# Repeated runs

A run leaves variables of an environment file behind, and the next run in the same process starts
with them.  It comes to the same nevertheless: loading the file again changes nothing, and from
there on a run depends on the environment that is loaded and on the files, which only a run that
writes a file changes.
-/

namespace ImportAtlas

namespace Invocation

variable {invocation : Invocation} {world : World} {git : GitAnswer} {output : StandardOutput}

theorem environment_run (invocation : Invocation) (world : World) (git : GitAnswer)
    (output : StandardOutput) : (invocation.run world git output).world.environment =
      (world.environment.load world.tree invocation.environmentChoice).1 := by
  simp only [run]
  split <;> rfl

theorem tree_run_of_output_eq_none (h : invocation.output = none) :
    (invocation.run world git output).world.tree = world.tree := by
  simp only [run]
  split
  case h_1 => rfl
  case h_2 text _ =>
    rw [h]
    show (Delivery.toOutput world.tree output text).tree = world.tree
    unfold Delivery.toOutput
    split <;> rfl

/-- A run in the environment that it leaves behind is the run itself. -/
theorem run_again (invocation : Invocation) (world : World) (git : GitAnswer)
    (output : StandardOutput) :
    invocation.run ⟨world.tree, (invocation.run world git output).world.environment⟩ git output =
      invocation.run world git output := by
  rw [environment_run]
  simp only [run, Variables.load_again]

end Invocation

namespace World

variable {world : World} {words : List Text}

theorem run_of_halt {halt : Halt} (h : Invocation.ofTexts words = .error halt) (git : GitAnswer)
    (output : StandardOutput) : (world.run words git output).world = world := by
  cases halt with
  | refused fault => simp only [run, h]
  | help =>
      simp only [run, h, help]
      split <;> rfl

/-- A run that writes no file leaves the files as they are, and with what it leaves behind the next
run of the same words has the same outcome: what it prints, what it reports, how it ends and what it
leaves behind in turn. -/
theorem run_run (world : World) (words : List Text) (git : GitAnswer) (output : StandardOutput)
    (h : ∀ invocation, Invocation.ofTexts words = .ok invocation → invocation.output = none) :
    (world.run words git output).world.tree = world.tree ∧
      (world.run words git output).world.run words git output = world.run words git output := by
  cases hwords : Invocation.ofTexts words with
  | error halt =>
      rw [run_of_halt hwords]
      exact ⟨rfl, rfl⟩
  | ok invocation =>
      rw [run_of_ofTexts hwords, run_of_ofTexts hwords]
      have htree : (invocation.run world git output).world.tree = world.tree :=
        Invocation.tree_run_of_output_eq_none (h invocation hwords)
      refine ⟨htree, ?_⟩
      have hworld : (invocation.run world git output).world =
          ⟨world.tree, (invocation.run world git output).world.environment⟩ := by
        rw [← htree]
      rw [hworld]
      exact Invocation.run_again invocation world git output

/-!
### A file that is loaded half-way

A file may set some variables before it comes to one that cannot be set.
-/

/-- What an environment file assigns: a setting in two spellings, a value with a zero, and one more
variable. -/
def halfwayText : String :=
  "IMPORTGRAPH_GRAPH_NAME=Foo\nimportgraph_graph_name=Bar\nZERO=\x00\nLAST=1\n"

def halfway : World where
  tree := {
    root := .directory [(".env", .file (halfwayText.toList.map fun c => UInt8.ofNat c.toNat))]
    here := [] }
  environment := []

def halfwayVariables : Variables :=
  [("IMPORTGRAPH_GRAPH_NAME", "Foo"), ("importgraph_graph_name", "Bar")]

theorem environment_run_halfway :
    (halfway.run ["--no-git", "-qqq"] .missing .received).world.environment =
      halfwayVariables := by
  have hfirst : EnvironmentFile.first? halfway.tree quietRun.environmentChoice.candidates =
      .ok (some (Text.ofString ".env", EnvironmentFile.parse halfwayText)) := by cbv
  have happly : Variables.apply [] false (EnvironmentFile.parse halfwayText) =
      (halfwayVariables, some .zero) := by decide
  rw [run_of_ofTexts ofTexts_quietRun, Invocation.environment_run]
  show (Variables.load [] halfway.tree quietRun.environmentChoice).1 = _
  simp only [Variables.load, hfirst, happly]

theorem run_run_halfway : (∀ invocation,
      Invocation.ofTexts ["--no-git", "-qqq"] = .ok invocation → invocation.output = none) ∧
    (halfway.run ["--no-git", "-qqq"] .missing .received).world.environment = halfwayVariables ∧
    (halfway.run ["--no-git", "-qqq"] .missing .received).world.run ["--no-git", "-qqq"] .missing
      .received = halfway.run ["--no-git", "-qqq"] .missing .received := by
  have hnone : ∀ invocation,
      Invocation.ofTexts ["--no-git", "-qqq"] = .ok invocation → invocation.output = none := by
    intro invocation h
    rw [ofTexts_quietRun] at h
    cases h
    rfl
  exact ⟨hnone, environment_run_halfway, (run_run halfway _ .missing .received hnone).right⟩

end World

end ImportAtlas
