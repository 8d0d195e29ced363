import ImportAtlas.CommandLine.Invocation
import ImportAtlas.Dot
import ImportAtlas.FileTree.Text
import ImportAtlas.Graph.Build
import ImportAtlas.Report
import ImportAtlas.Run.Delivery
import ImportAtlas.Text.Surrogate

/-!
# Runs

A run completes the environment, decides the settings, finds the source files, builds their graph
and delivers it.  It changes the world in two places only: the environment and the file that it is
told to write.
-/

namespace ImportAtlas

structure World where
  tree : FileTree
  environment : Variables

inductive Ending where
  | finished (code : ExitCode)
  | helped
  | refused (fault : UsageFault)
  | aborted (abort : Abort)
deriving DecidableEq

structure Outcome where
  world : World
  /-- What standard output has received. -/
  output : Text
  records : List LogRecord
  ending : Ending

/-- The text of a graph.  A blank format is the standard one. -/
def render (format : OptionValue OutputFormat) (settings : Settings) (graph : Graph) : Text :=
  match format with
  | .value .json => Report.write graph ++ "\n"
  | .value .dot | .blank => Text.join "\n" (Dot.lines settings graph) ++ "\n"

namespace Invocation

def foundRecord (count : Nat) (root : Text) : LogRecord :=
  ⟨.info, .commandLine, "Found " ++ Text.decimal count ++ " source file(s) below " ++ root⟩

/-- The environment files to look for.  A blank choice stands for the usual ones, but is named when
none of them is there. -/
def environmentChoice (invocation : Invocation) : EnvironmentChoice :=
  match invocation.environmentFile with
  | none => .usual
  | some (.value path) => .file path
  | some .blank => { EnvironmentChoice.usual with called := some "[]" }

def settings (invocation : Invocation) (environment : Variables) : Except RunFault Settings :=
  (Settings.resolve invocation.given environment).mapError RunFault.ofSettings

def graph (invocation : Invocation) (tree : FileTree) (git : GitAnswer) (settings : Settings) :
    Reported RunFault Graph := do
  let files ←
    (Discovery.sourceFiles tree settings git invocation.root).mapFault RunFault.ofRoot
  Reported.record (foundRecord files.length invocation.root)
  (Graph.build settings (tree.readText settings.encoding) files).mapFault fun fault =>
    .abort (.encoding fault)

def text (invocation : Invocation) (world : World) (git : GitAnswer) : Reported RunFault Text := do
  let settings ← Reported.ofExcept (invocation.settings world.environment)
  let graph ← invocation.graph world.tree git settings
  return render invocation.format settings graph

def conclude (records : List LogRecord) : Except RunFault Unit → List LogRecord × Ending
  | .ok () => (records, .finished .success)
  | .error (.failure failure) =>
      (records ++ [⟨.error, .commandLine, failure.message⟩], .finished failure.exitCode)
  | .error (.abort abort) => (records, .aborted abort)

def run (invocation : Invocation) (world : World) (git : GitAnswer) (output : StandardOutput) :
    Outcome :=
  let (environment, loading) := world.environment.load world.tree invocation.environmentChoice
  let loaded : World := ⟨world.tree, environment⟩
  let report := loading.mapFault RunFault.ofLoad >>= fun _ => invocation.text loaded git
  match report.outcome with
  | .error fault =>
      let (records, ending) := conclude report.records (.error fault)
      ⟨loaded, [], records, ending⟩
  | .ok text =>
      let delivery := world.tree.deliver output invocation.output text
      let (records, ending) :=
        conclude (report.records ++ delivery.report.records) delivery.report.outcome
      ⟨⟨delivery.tree, environment⟩, delivery.output, records, ending⟩

def threshold (invocation : Invocation) : Int :=
  LogLevel.threshold invocation.verbose invocation.quiet

end Invocation

namespace World

/-- The help that is asked for, which needs a standard output that can be written to. -/
def help (world : World) (output : StandardOutput) : Outcome :=
  match output.refusal? Usage.help, output with
  | some fault, _ => ⟨world, [], [], .aborted (.text fault)⟩
  | none, .broken => ⟨world, [], [], .aborted .brokenOutput⟩
  | none, _ => ⟨world, Usage.help, [], .helped⟩

def run (world : World) (words : List Text) (git : GitAnswer) (output : StandardOutput) :
    Outcome :=
  match Invocation.ofTexts words with
  | .ok invocation => invocation.run world git output
  | .error .help => world.help output
  | .error (.refused fault) => ⟨world, [], [], .refused fault⟩

end World

/-- What the user is shown beside the output: the complaint about the command line, or the records
from the asked rank on, each on a line written by `line`. -/
def Outcome.messages (outcome : Outcome) (words : List Text) (line : LogRecord → Text) : Text :=
  match outcome.ending, Invocation.ofTexts words with
  | .refused fault, _ => Text.escapeSurrogates (Usage.complaint fault)
  | _, .error _ => []
  | _, .ok invocation =>
      (outcome.records.filter (·.isShown invocation.threshold)).flatMap fun record =>
        Text.escapeSurrogates (line record) ++ "\n"

def Ending.exitNumber? : Ending → Option Nat
  | .finished code => some code.number
  | .helped => some 0
  | .refused _ => some 2
  | .aborted _ => none

end ImportAtlas
