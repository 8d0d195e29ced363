import ImportAtlas.Statement.Reader

/-!
# Statements of a source text

A statement begins at a keyword that does not continue a word.  The statements of a text are found
from left to right: each is taken at the first position where one can be read, and the search goes
on behind it.  Comments and string literals are searched like everything else.
-/

namespace ImportAtlas

namespace Statement

/-- The values read in a text from left to right, each with its position.  `skip` code points belong
to the value read last, and `afterWord` tells whether the code point before is a word character. -/
def occurrencesFrom {α : Type} (read? : Text → Option (α × Text)) :
    (skip : Nat) → (afterWord : Bool) → (position : Nat) → Text → List (Nat × α)
  | _, _, _, [] => []
  | skip + 1, _, position, c :: rest =>
      occurrencesFrom read? skip c.isWord (position + 1) rest
  | 0, afterWord, position, c :: rest =>
      match if afterWord then none else read? (c :: rest) with
      | none => occurrencesFrom read? 0 c.isWord (position + 1) rest
      | some (value, behind) =>
          (position, value) ::
            occurrencesFrom read? (rest.length - behind.length) c.isWord (position + 1) rest

/-- The values read in a text, leftmost first and apart from each other, with their positions. -/
def occurrences {α : Type} (read? : Text → Option (α × Text)) (t : Text) : List (Nat × α) :=
  occurrencesFrom read? 0 false 0 t

def located (reexports : Bool) (t : Text) : List (Nat × Statement) :=
  let imports := occurrences readImport? t
  if reexports then
    List.merge imports (occurrences readReexport? t) fun a b => a.1 ≤ b.1
  else imports

def extract (reexports : Bool) (t : Text) : List Statement :=
  (located reexports t).map (·.2)

end Statement

end ImportAtlas
