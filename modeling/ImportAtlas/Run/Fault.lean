import ImportAtlas.Environment.Load
import ImportAtlas.Discovery.Find
import ImportAtlas.Settings.Source

/-!
# How a run can fail

Failures that a user can bring about are reported and have exit codes.  Other faults abort the run
and are passed on as they are.
-/

namespace ImportAtlas

inductive ExitCode where
  | success
  | invalidArguments
  | ioFailure
  | internalError
  | interrupted
deriving DecidableEq

namespace ExitCode

def number : ExitCode → Nat
  | .success => 0
  | .invalidArguments => 64
  | .ioFailure => 71
  | .internalError => 1
  | .interrupted => 130

def name : ExitCode → Text
  | .success => "success"
  | .invalidArguments => "invalid_arguments"
  | .ioFailure => "io_failure"
  | .internalError => "internal_error"
  | .interrupted => "interrupted"

def all : List ExitCode :=
  [.success, .invalidArguments, .ioFailure, .internalError, .interrupted]

end ExitCode

inductive Failure where
  | settings (fault : SettingsFault)
  | root (path : Text)
  | environmentFile (path : Text) (fault : ReadFault)
  | output (path : Text) (fault : SystemFault)
deriving DecidableEq

namespace Failure

def exitCode : Failure → ExitCode
  | .settings _ | .root _ | .environmentFile _ _ => .invalidArguments
  | .output _ _ => .ioFailure

def message : Failure → Text
  | .settings fault => "Invalid configuration: " ++ fault.message
  | .root path => (RootFault.notDirectory path).message
  | .environmentFile path fault =>
      "Unable to read environment file " ++ path ++ ": " ++ fault.message
  | .output path fault => "Unable to write " ++ path ++ ": " ++ fault.message

end Failure

inductive Nesting where
  /-- A setting of the environment. -/
  | json (container : Json.Container)
  /-- Directories that are to be created. -/
  | directories
deriving DecidableEq

def Nesting.message : Nesting → Text
  | .json container => (SettingsFault.tooDeep container).message
  | .directories => SystemFault.tooDeep.message

inductive TextFault where
  | utf8 (failure : Utf8.EncodeFailure)
  | other (message : Text)
deriving DecidableEq

def TextFault.message : TextFault → Text
  | .utf8 failure => failure.message
  | .other message => message

inductive Abort where
  | variable (fault : VariableFault)
  | nesting (nesting : Nesting)
  | root (fault : SystemFault)
  | encoding (fault : DecodeFault)
  /-- The graph cannot be encoded. -/
  | text (fault : TextFault)
  /-- The file to be written cannot be named. -/
  | path (fault : PathFault)
  /-- The file to be written is left blank. -/
  | noFile
  /-- The help cannot be shown. -/
  | brokenOutput
deriving DecidableEq

namespace Abort

def message : Abort → Text
  | .variable fault => fault.message
  | .nesting kind => kind.message
  | .root fault => fault.message
  | .encoding fault => fault.message
  | .text fault => fault.message
  | .path fault => fault.message
  | .noFile => "'list' object has no attribute 'parent'"
  | .brokenOutput => SystemFault.message ⟨some 32, "Broken pipe", none⟩

end Abort

inductive RunFault where
  | failure (failure : Failure)
  | abort (abort : Abort)
deriving DecidableEq

namespace RunFault

def ofSettings : SettingsFault → RunFault
  | .tooDeep container => .abort (.nesting (.json container))
  | fault => .failure (.settings fault)

def ofRoot : RootFault → RunFault
  | .notDirectory path => .failure (.root path)
  | .inaccessible fault => .abort (.root fault)

def ofLoad : LoadFault → RunFault
  | .unreadable path fault => .failure (.environmentFile path fault)
  | .variable fault => .abort (.variable fault)

end RunFault

end ImportAtlas
