import ImportAtlas.Encoding.Utf8

/-!
# Paths as texts

Paths are separated by slashes.  The operations here look at the spelling of a path alone and never
at a file tree: splitting off the last component, joining, normalizing.

A leading slash makes a path absolute.  Exactly two leading slashes are a root of their own, which
normalizing keeps; three or more count as one.

Not every text can be a path: it has to have bytes, none of them zero.
-/

namespace ImportAtlas

inductive PathFault where
  | unencodable (failure : Utf8.EncodeFailure)
  | zero
deriving DecidableEq

def PathFault.message : PathFault → Text
  | .unencodable failure => failure.message
  | .zero => "embedded null byte"

namespace Path

def fault? (path : Text) : Option PathFault :=
  match Utf8.strangeRun? path with
  | some failure => some (.unencodable failure)
  | none => if path.any (·.val = 0) then some .zero else none

/-- What stands up to the last slash, without the slashes that end it.  A root keeps them. -/
def directory (path : Text) : Text :=
  let head := (path.reverse.dropWhile (· ≠ CodePoint.ofChar '/')).reverse
  if head.all (· = CodePoint.ofChar '/') then head
  else (head.reverse.dropWhile (· = CodePoint.ofChar '/')).reverse

def fileName (path : Text) : Text :=
  (path.reverse.takeWhile (· ≠ CodePoint.ofChar '/')).reverse

/-- The directory that holds a file, which for a bare file name is `.`. -/
def directoryOrHere (path : Text) : Text :=
  let head := directory path
  if head = [] then "." else head

/-- A path read from a base directory.  An absolute path forgets the base. -/
def join (base path : Text) : Text :=
  if Text.startsWith "/" path then path
  else if base = [] || Text.endsWith "/" base then base ++ path
  else base ++ "/" ++ path

def root (path : Text) : Text :=
  match (path.takeWhile (· = CodePoint.ofChar '/')).length with
  | 0 => ""
  | 2 => "//"
  | _ => "/"

/-- The names between the slashes, without empty ones and without `.`. -/
def names (path : Text) : List Text :=
  (Text.splitOn '/' path).filter fun name => name ≠ [] && name ≠ "."

/-!
# Normal form

The names are walked one by one, keeping those passed so far with the last one first.  Going up
takes the last name away.  Above the start of a relative path it is recorded, and at a root it
stays there.
-/

def step (absolute : Bool) (passed : List Text) (name : Text) : List Text :=
  if name ≠ ".." then name :: passed
  else
    match passed with
    | [] => if absolute then [] else [".."]
    | last :: before => if last = ".." then ".." :: passed else before

/-- The shortest spelling of a path that needs no look at the file tree. -/
def normalize (path : Text) : Text :=
  let start := root path
  let passed := (names path).foldl (step (start ≠ [])) []
  let spelled := start ++ Text.join "/" passed.reverse
  if spelled = [] then "." else spelled

end Path

/-!
# Tidy paths

File names given by the user are tidied before use: repeated slashes, `.` components and a trailing
slash go away, while `..` stays, since it may lead through a link.
-/

structure TidyPath where
  root : Text
  names : List Text
deriving DecidableEq

namespace TidyPath

def ofText (path : Text) : TidyPath := ⟨Path.root path, Path.names path⟩

def toText (path : TidyPath) : Text :=
  let spelled := path.root ++ Text.join "/" path.names
  if spelled = [] then "." else spelled

def parent (path : TidyPath) : TidyPath := ⟨path.root, path.names.dropLast⟩

end TidyPath

namespace Path

/-- A file of a directory, spelled the way the nodes of the graph are. -/
def underRoot (directory relative : Text) : Text :=
  normalize (join (TidyPath.ofText directory).toText relative)

end Path

end ImportAtlas
