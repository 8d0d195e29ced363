import ImportAtlas.Encoding.Charset
import ImportAtlas.SystemFault

/-!
# The machine that holds a file tree

The entries of a tree tell what a path leads to.  Whether the program may then look at it, read it
or fill it is up to the machine: to permissions, quotas, the state of its devices.  A machine can
refuse any access at any path, and it can break off writing after any number of bytes.  What a
refusal is due to does not matter, so a directory on the way that may not be searched shows in what
is refused at the paths through it.

A machine also bounds how deeply the calls of a program may be nested, which some machines use up by
one call for every directory that a walk goes down or that is missing on the way to a new one.  It
may keep git from being started, know further encodings, and hold devices that lead back to
standard output.

A machine does not change its mind during a run.  Left out are other programs that change the tree
meanwhile, running out of memory, and signals.  A further encoding tells of what it cannot decode in
the words of the known ones.
-/

namespace ImportAtlas

/-- A fault of a kind that the program treats like any other: the numbers that it looks at are
excluded. -/
structure Refusal where
  number : Int
  description : Text
  ordinary : number ∉ [2, 9, 17, 20, 40]
deriving DecidableEq

inductive FileFault where
  | notFound
  | alreadyExists
  | notDirectory
  | isDirectory
  | noSpace
  | tooManyLinks
  | nameTooLong
  | refused (refusal : Refusal)
deriving DecidableEq

namespace FileFault

def number : FileFault → Int
  | .notFound => 2
  | .alreadyExists => 17
  | .notDirectory => 20
  | .isDirectory => 21
  | .noSpace => 28
  | .nameTooLong => 36
  | .tooManyLinks => 40
  | .refused refusal => refusal.number

def description : FileFault → Text
  | .notFound => "No such file or directory"
  | .alreadyExists => "File exists"
  | .notDirectory => "Not a directory"
  | .isDirectory => "Is a directory"
  | .noSpace => "No space left on device"
  | .nameTooLong => "File name too long"
  | .tooManyLinks => "Too many levels of symbolic links"
  | .refused refusal => refusal.description

/-- The fault as the system reports it for a path, which a lack of space has nothing to do with. -/
def onPath (fault : FileFault) (path : Text) : SystemFault :=
  ⟨some fault.number, fault.description, if fault = .noSpace then none else some path⟩

def meansAbsent : FileFault → Bool
  | .notFound | .notDirectory | .tooManyLinks => true
  | _ => false

end FileFault

inductive Access where
  /-- Finding out what is there. -/
  | look
  | read
  /-- Listing the entries of a directory. -/
  | list
  /-- Creating a directory. -/
  | make
  /-- Opening a file to be filled, which empties it. -/
  | empty
deriving DecidableEq

/-- What a machine decides by itself.  One that is left to the defaults stands in nobody's way. -/
structure Host where
  refusal : Access → Text → Option FileFault := fun _ _ => none
  /-- After how many of the bytes that are written to a path writing breaks off, and why. -/
  breakOff : Text → List UInt8 → Option (Nat × SystemFault) := fun _ _ => none
  /-- Whether what is written to a path arrives at standard output. -/
  isOutlet : Text → Bool := fun _ => false
  /-- How many directories deep a walk can go, if that matters. -/
  walkDepth : Option Nat := none
  /-- How many missing directories can be created in one go, if that matters. -/
  makeDepth : Option Nat := none
  /-- What keeps git from being started in a directory, unless there is no git. -/
  gitFault? : Text → Option SystemFault := fun _ => none
  /-- How a further encoding decodes the bytes of a file. -/
  codec? : Text → Option (List UInt8 → Except DecodeFault Text) := fun _ => none

end ImportAtlas
