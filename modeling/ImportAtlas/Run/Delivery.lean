import ImportAtlas.CommandLine.Option
import ImportAtlas.FileTree.Edit
import ImportAtlas.Run.Fault

/-!
# Delivering a text

The finished text goes to standard output or into a file.  A reader of standard output may have gone
away, which is no failure.  For a file the missing directories are created, and the file is emptied
before it is filled.  So a text that has no place in UTF-8 leaves it empty, and when writing breaks
off, the file is left with the bytes that have been written by then.

Standard output is in UTF-8, or in an encoding of which only matters what it cannot take: how an
encoding replaces what it takes is not told here.  What the machine objects to on the way to a file,
and after how many bytes, is up to the machine.  Left out are a standard output that fails in other
ways than that its reader is gone, and a file to be written that is standard error by another name,
where the log records go.
-/

namespace ImportAtlas

inductive StandardOutput where
  | received
  /-- It is received in another encoding, unless that complains about it. -/
  | encoded (complaint : Text → Option Text)
  /-- The reader has gone away, which shows when the bytes of the text are sent. -/
  | abandoned
  /-- Writing fails before the text is looked at. -/
  | broken

namespace StandardOutput

instance (output : StandardOutput) : Decidable (output = .received) :=
  match output with
  | .received => .isTrue rfl
  | .encoded _ | .abandoned | .broken => .isFalse nofun

def refusal? (text : Text) : StandardOutput → Option TextFault
  | .received | .abandoned =>
      match Utf8.encode text with
      | .error failure => some (.utf8 failure)
      | .ok _ => none
  | .encoded complaint => (complaint text).map .other
  | .broken => none

end StandardOutput

structure Delivery where
  tree : FileTree
  /-- What standard output has received. -/
  output : Text
  report : Reported RunFault Unit

namespace Delivery

def refuse (tree : FileTree) (fault : RunFault) : Delivery := ⟨tree, [], .fault fault⟩

def closedRecord : LogRecord :=
  ⟨.debug, .commandLine, "stdout closed before the graph was fully written"⟩

def writtenRecord (path : Text) : LogRecord :=
  ⟨.info, .commandLine, "Wrote graph to " ++ path⟩

/-- Nothing more is delivered, with no objection. -/
def abandon (tree : FileTree) : Delivery := ⟨tree, [], .record closedRecord⟩

def toOutput (tree : FileTree) (output : StandardOutput) (text : Text) : Delivery :=
  match output.refusal? text, output with
  | some fault, _ => refuse tree (.abort (.text fault))
  | none, .received | none, .encoded _ => ⟨tree, text, .value ()⟩
  | none, .abandoned | none, .broken => abandon tree

def shown (tree : FileTree) (path : Text) (sent : List UInt8) : Text :=
  if tree.host.isOutlet path then Utf8.decodeName sent else []

/-- Bytes have been sent to a path, possibly until something broke it off. -/
def settle (tree : FileTree) (path : Text) (sent : List UInt8) (stop : Option SystemFault) :
    Delivery :=
  match tree.store path sent, stop with
  | .error fault, _ => refuse tree (.failure (.output path (fault.onPath path)))
  | .ok filled, some fault => ⟨filled, shown tree path sent, .fault (.failure (.output path fault))⟩
  | .ok filled, none => ⟨filled, shown tree path sent, .record (writtenRecord path)⟩

/-- Send bytes to a path at which a file has been emptied for them. -/
def send (tree : FileTree) (path : Text) (bytes : List UInt8) : Delivery :=
  match tree.host.breakOff path bytes with
  | none => settle tree path bytes none
  | some (count, fault) => settle tree path (bytes.take count) (some fault)

def fill (tree : FileTree) (path text : Text) : Delivery :=
  match Path.fault? path, tree.write path [] with
  | some fault, _ => refuse tree (.abort (.path fault))
  | none, .error fault => refuse tree (.failure (.output path (fault.onPath path)))
  | none, .ok emptied =>
      match Utf8.encode text with
      | .error failure => refuse emptied (.abort (.text (.utf8 failure)))
      | .ok bytes => send emptied path bytes

def toFile (tree : FileTree) (path : TidyPath) (text : Text) : Delivery :=
  match Path.fault? path.parent.toText with
  | some fault => refuse tree (.abort (.path fault))
  | none =>
      if tree.isTooDeep path.parent then refuse tree (.abort (.nesting .directories))
      else
        match tree.ensureDirectories path.parent with
        | (tree, some ⟨fault, directory⟩) =>
            refuse tree (.failure (.output path.toText (fault.onPath directory)))
        | (tree, none) => fill tree path.toText text

end Delivery

def FileTree.deliver (tree : FileTree) (output : StandardOutput)
    (destination : Option (OptionValue TidyPath)) (text : Text) : Delivery :=
  match destination with
  | none => Delivery.toOutput tree output text
  | some (.value path) => Delivery.toFile tree path text
  | some .blank => Delivery.refuse tree (.abort .noFile)

end ImportAtlas
