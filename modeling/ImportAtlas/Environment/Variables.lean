import ImportAtlas.Encoding.Utf8

/-!
# Environment variables

Variables are pairs of names and values in the order in which the names were first set.  Setting a
name again changes its value and keeps its place.

The environment of a process admits only names that are not empty and have no equals sign, and
neither names nor values with a zero.  It holds bytes, so names and values are as the system gives
them back.
-/

namespace ImportAtlas

/-- Names with values, each name once. -/
abbrev Variables := List (Text × Text)

namespace Variables

def get? (held : Variables) (name : Text) : Option Text :=
  (held.find? (·.1 = name)).map (·.2)

def put : Variables → Text → Text → Variables
  | [], name, value => [(name, value)]
  | (known, old) :: rest, name, value =>
      if known = name then (known, value) :: rest else (known, old) :: put rest name value

def ofPairs (pairs : List (Text × Text)) : Variables :=
  pairs.foldl (fun held pair => put held pair.1 pair.2) []

theorem get?_put (held : Variables) (name value other : Text) :
    get? (put held name value) other =
      if name = other then some value else get? held other := by
  induction held with
  | nil =>
      simp only [put, get?, List.find?_cons, List.find?_nil]
      by_cases same : name = other <;> simp [same]
  | cons entry rest ih =>
      obtain ⟨known, old⟩ := entry
      simp only [put]
      by_cases here : known = name
      · subst here
        by_cases same : known = other <;> simp [get?, same]
      · simp only [here, if_false]
        by_cases first : known = other
        · have : name ≠ other := fun h => here (first.trans h.symm)
          simp [get?, first, this]
        · simpa [get?, first] using ih

end Variables

inductive VariableFault where
  | unencodable (failure : Utf8.EncodeFailure)
  | zero
  | equalsInName
  | emptyName
deriving DecidableEq

def VariableFault.message : VariableFault → Text
  | .unencodable failure => failure.message
  | .zero => "embedded null byte"
  | .equalsInName => "illegal environment variable name"
  | .emptyName => "[Errno 22] Invalid argument"

namespace Variables

def fault? (name value : Text) : Option VariableFault :=
  match (Utf8.strangeRun? name).or (Utf8.strangeRun? value) with
  | some failure => some (.unencodable failure)
  | none =>
      if (name ++ value).any (·.val = 0) then some .zero
      else if name.contains (CodePoint.ofChar '=') then some .equalsInName
      else if name = [] then some .emptyName
      else none

def set (environment : Variables) (name value : Text) : Except VariableFault Variables :=
  match fault? name value with
  | some fault => .error fault
  | none => .ok (environment.put (Utf8.canonicalName name) (Utf8.canonicalName value))

def holds (environment : Variables) (name : Text) : Bool :=
  (Utf8.strangeRun? name).isNone && (environment.get? (Utf8.canonicalName name)).isSome

/-- The environment after setting the given variables one by one, up to the first that cannot be
set.  Variables that are there already are left alone unless they are to be overridden. -/
def apply (environment : Variables) (override : Bool) :
    List (Text × Text) → Variables × Option VariableFault
  | [] => (environment, none)
  | (name, value) :: rest =>
      if !override && environment.holds name then apply environment override rest
      else
        match environment.set name value with
        | .ok environment => apply environment override rest
        | .error fault => (environment, some fault)

end Variables

end ImportAtlas
