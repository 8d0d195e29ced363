import ImportAtlas.CommandLine.Option
import ImportAtlas.Encoding.Utf8
import ImportAtlas.Text.Quoted

/-!
# Help and complaints

The user asks for help or makes a mistake.  The help explains every option; a complaint repeats the
usage and names the mistake.
-/

namespace ImportAtlas

inductive UsageFault where
  /-- A beginning of several options. -/
  | ambiguous (word : Text) (options : List CommandOption)
  | missingValue (option : CommandOption)
  /-- A value for an option that takes none. -/
  | needlessValue (option : CommandOption) (value : Text)
  | invalidChoice (option : CommandOption) (value : Text) (choices : List Text)
  | unrecognized (words : List Text)
deriving DecidableEq

namespace UsageFault

def about (option : CommandOption) (complaint : Text) : Text :=
  "argument " ++ option.label ++ ": " ++ complaint

def message : UsageFault → Text
  | .ambiguous word options =>
      "ambiguous option: " ++ word ++ " could match " ++
        Text.join ", " (options.map CommandOption.longSpelling)
  | .missingValue option => about option "expected one argument"
  | .needlessValue option value => about option ("ignored explicit argument " ++ Text.quoted value)
  | .invalidChoice option value choices =>
      about option ("invalid choice: " ++ Text.quoted value ++ " (choose from " ++
        Text.join ", " (choices.map Text.quoted) ++ ")")
  | .unrecognized words => "unrecognized arguments: " ++ Text.join " " words

end UsageFault

namespace Usage

def usageLines : List String :=
  ["usage: importgraph [-h] [-v] [-q] [--env-file ENV_FILE] [--format \x7bdot,json\x7d]",
    "                   [-o OUTPUT] [--ext EXT] [--no-git] [--no-resolve]",
    "                   [--include-reexports] [--rankdir \x7bLR,RL,TB,BT\x7d]",
    "                   [--graph-name GRAPH_NAME]",
    "                   [root]"]

def explanationLines : List String :=
  ["",
    "Print the import dependency graph of a JavaScript/TypeScript tree as DOT.",
    "",
    "positional arguments:",
    "  root                  Directory to scan (defaults to the current directory).",
    "",
    "options:",
    "  -h, --help            show this help message and exit",
    "  -v, --verbose         Increase log verbosity (can be provided multiple",
    "                        times).",
    "  -q, --quiet           Decrease log verbosity (can be provided multiple",
    "                        times).",
    "  --env-file ENV_FILE   Explicit path to an environment file. Defaults to",
    "                        .importgraph.env then .env.",
    "  --format \x7bdot,json\x7d   Output format (default: dot).",
    "  -o OUTPUT, --output OUTPUT",
    "                        Write the graph to this file instead of stdout.",
    "  --ext EXT             Source file extension to include (repeatable, default:",
    "                        .ts and .js).",
    "  --no-git              Do not filter files through 'git ls-files'.",
    "  --no-resolve          Only link imports whose specifier names a tracked file",
    "                        exactly.",
    "  --include-reexports   Also draw edges for 'export ... from' statements.",
    "  --rankdir \x7bLR,RL,TB,BT\x7d",
    "  --graph-name GRAPH_NAME"]

def ofLines (lines : List String) : Text := lines.flatMap fun line => Text.ofString (line ++ "\n")

def usage : Text := ofLines usageLines

def help : Text := usage ++ ofLines explanationLines

def objection (fault : UsageFault) : Text := "importgraph: error: " ++ fault.message ++ "\n"

def complaint (fault : UsageFault) : Text := usage ++ objection fault

/-- The complaint for a reader of UTF-8, who cannot be shown every word. -/
def encodableComplaint (fault : UsageFault) : Except Utf8.EncodeFailure Text :=
  (Utf8.encode (objection fault)).map fun _ => complaint fault

end Usage

end ImportAtlas
