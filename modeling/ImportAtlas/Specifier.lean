import ImportAtlas.Path

/-!
# Module specifiers

A specifier that begins with a point names a file relative to the importing one; any other names a
package or an address and is left alone.  The file may be named exactly, without its extension, or
by the directory whose index file it is.
-/

namespace ImportAtlas

namespace Specifier

def path (file specifier : Text) : Text :=
  if Text.startsWith "." specifier then
    Path.normalize (Path.join (Path.directory file) specifier)
  else specifier

/-- The files that a path may stand for, the most exact first. -/
def candidates (extensions : List Text) (path : Text) : List Text :=
  path :: extensions.map (path ++ ·) ++ extensions.map fun ext => Path.join path ("index" ++ ext)

def resolve? (known extensions : List Text) (path : Text) : Option Text :=
  (candidates extensions path).find? (known.contains ·)

end Specifier

end ImportAtlas
