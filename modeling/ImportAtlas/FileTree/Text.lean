import ImportAtlas.FileTree.Lookup
import ImportAtlas.Path
import ImportAtlas.Source

/-!
# Files as texts

A file of a tree is read as the text that its bytes stand for in an encoding, which may be one that
only the machine knows.  That a file cannot be found comes before anything that is wrong with the
encoding.
-/

namespace ImportAtlas

namespace FileTree

def decode (tree : FileTree) (encoding : Text) (content : List UInt8) : Except DecodeFault Text :=
  match decodeFile encoding content with
  | .error (.unknownEncoding name) =>
      match tree.host.codec? name with
      | some decode => (decode content).map Text.unifyNewlines
      | none => .error (.unknownEncoding name)
  | outcome => outcome

def readText (tree : FileTree) (encoding : Text) : SourceReader := fun path =>
  match tree.read path with
  | .error fault => .error (.inaccessible (fault.onPath path))
  | .ok content => (tree.decode encoding content).mapError ReadFault.undecodable

def readText? (tree : FileTree) (encoding path : Text) : Except ReadFault (Option Text) :=
  if (Path.fault? path).isSome then .ok none
  else
    match tree.probe path with
    | .error fault => .error (.inaccessible (fault.onPath path))
    | .ok none => .ok none
    | .ok (some _) => (tree.readText encoding path).map some

end FileTree

end ImportAtlas
