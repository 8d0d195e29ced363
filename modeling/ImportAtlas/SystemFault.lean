import ImportAtlas.Text.Quoted

/-!
# Faults of the operating system

What the operating system objects to has a number and a description, and mostly concerns a file.
-/

namespace ImportAtlas

/-- A fault of the operating system: its number, its description and the file it concerns. -/
structure SystemFault where
  number : Option Int
  description : Text
  file : Option Text
deriving DecidableEq

namespace SystemFault

def message (fault : SystemFault) : Text :=
  match fault.number with
  | none => fault.description
  | some number =>
      let numbered := "[Errno " ++ Text.integer number ++ "] " ++ fault.description
      match fault.file with
      | none => numbered
      | some file => numbered ++ ": " ++ Text.quoted file

def tooDeep : SystemFault := ⟨none, "maximum recursion depth exceeded", none⟩

def summary (fault : SystemFault) : Text :=
  if fault.description = [] then fault.message else fault.description

end SystemFault

end ImportAtlas
