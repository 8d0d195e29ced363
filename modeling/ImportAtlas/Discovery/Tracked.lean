import ImportAtlas.Encoding.Utf8
import ImportAtlas.Log.Basic
import ImportAtlas.Path
import ImportAtlas.Text.Blank

/-!
# Tracked files

The files under version control are listed by `git ls-files -z`, each name ended by a zero.  Git may
be missing or fail; then nothing is known about the files, which is reported with the reason.  That
git is there and cannot be started is another matter, which is up to the machine.

What git prints is taken for text, and text is handed over with a line feed for every line ending.
This also befalls names that hold a carriage return.  Left out is how git comes to its listing: the
answer is what it printed, whatever that is.
-/

namespace ImportAtlas

/-- What came of asking git: its output is what has been handed over. -/
inductive GitAnswer where
  | missing
  | finished (code : Int) (output errors : List UInt8)

namespace GitAnswer

def unifyNewlines : List UInt8 → List UInt8
  | [] => []
  | 13 :: 10 :: rest => 10 :: unifyNewlines rest
  | 13 :: rest => 10 :: unifyNewlines rest
  | byte :: rest => byte :: unifyNewlines rest

/-- What is handed over of what a process prints. -/
def ofPrinted (code : Int) (output errors : List UInt8) : GitAnswer :=
  .finished code (unifyNewlines output) (unifyNewlines errors)

def signalNames : List (Nat × String) :=
  [(1, "SIGHUP"), (2, "SIGINT"), (3, "SIGQUIT"), (4, "SIGILL"), (5, "SIGTRAP"), (6, "SIGABRT"),
    (7, "SIGBUS"), (8, "SIGFPE"), (9, "SIGKILL"), (10, "SIGUSR1"), (11, "SIGSEGV"),
    (12, "SIGUSR2"), (13, "SIGPIPE"), (14, "SIGALRM"), (15, "SIGTERM"), (16, "SIGSTKFLT"),
    (17, "SIGCHLD"), (18, "SIGCONT"), (19, "SIGSTOP"), (20, "SIGTSTP"), (21, "SIGTTIN"),
    (22, "SIGTTOU"), (23, "SIGURG"), (24, "SIGXCPU"), (25, "SIGXFSZ"), (26, "SIGVTALRM"),
    (27, "SIGPROF"), (28, "SIGWINCH"), (29, "SIGIO"), (30, "SIGPWR"), (31, "SIGSYS"),
    (34, "SIGRTMIN"), (64, "SIGRTMAX")]

def ending (code : Int) : Text :=
  if code < 0 then
    match signalNames.find? (·.1 = code.natAbs) with
    | some (number, name) => "died with <Signals." ++ name ++ ": " ++ Text.decimal number ++ ">."
    | none => "died with unknown signal " ++ Text.decimal code.natAbs ++ "."
  else "returned non-zero exit status " ++ Text.integer code ++ "."

def failureReason (code : Int) (errors : List UInt8) : Text :=
  match Text.trim (Utf8.decodeName errors) with
  | [] => "Command '['git', 'ls-files', '-z']' " ++ ending code
  | words => words

def listedPaths (output : List UInt8) : List Text :=
  (Text.splitOn (CodePoint.ofNat 0) (Utf8.decodeName output)).filter (· ≠ [])

/-- The tracked files below a root as nodes of the graph, or none when git cannot tell. -/
def trackedFiles (root : Text) : GitAnswer → Option (List Text) × LogRecord
  | .missing =>
      (none, ⟨.warning, .discovery,
        "git is not available; falling back to a full directory walk."⟩)
  | .finished code output errors =>
      if code = 0 then
        let files := (listedPaths output).map (Path.underRoot root)
        (some files, ⟨.debug, .discovery,
          "git reports " ++ Text.decimal files.length ++ " tracked file(s) below " ++ root⟩)
      else
        (none, ⟨.warning, .discovery,
          "Unable to list git tracked files (" ++ failureReason code errors ++
            "); falling back to a full directory walk."⟩)

end GitAnswer

end ImportAtlas
