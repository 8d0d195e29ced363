import ImportAtlas.Environment.Variables
import ImportAtlas.Text.Blank
import ImportAtlas.Text.Lines

/-!
# Environment files

An environment file assigns values to names, one a line.  Blank lines and lines that begin with a
hash sign are comments, `export` may stand before a name, and a value may be quoted.  A line without
an equals sign, or without a name, says nothing.
-/

namespace ImportAtlas

namespace EnvironmentFile

def unquote (value : Text) : Text :=
  Text.trimCopies '\'' (Text.trimCopies '"' (Text.trim value))

def withoutExport (line : Text) : Text :=
  match Text.after? "export " line with
  | some rest => Text.trimStart rest
  | none => line

def assignment? (line : Text) : Option (Text × Text) :=
  let line := Text.trim line
  if Text.startsWith "#" line then none
  else
    match Text.cut? '=' (withoutExport line) with
    | none => none
    | some (name, value) =>
        let name := Text.trim name
        if name = [] then none else some (name, unquote value)

/-- The assignments of the text of a file, with the last value of each name at its first place. -/
def parse (content : Text) : Variables :=
  Variables.ofPairs ((Text.lines content).filterMap assignment?)

end EnvironmentFile

end ImportAtlas
