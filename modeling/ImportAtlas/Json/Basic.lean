import ImportAtlas.Text.Basic

/-!
# JSON values

Numbers are kept as written: a whole number, or a mantissa with a power of ten when there is a point
or an exponent.  The words for numbers that are not finite are accepted where numbers are.  Texts
may hold lone surrogates, and an object keeps its members in order.
-/

namespace ImportAtlas

inductive Json where
  | null
  | bool (value : Bool)
  | integer (value : Int)
  | decimal (mantissa exponent : Int)
  | notANumber
  | infinite (isNegative : Bool)
  | text (value : Text)
  | array (items : List Json)
  | object (members : List (Text × Json))

namespace Json

instance : Inhabited Json := ⟨.null⟩

def member? (name : Text) : Json → Option Json
  | .object members => (members.reverse.find? (·.1 = name)).map (·.2)
  | _ => none

end Json

end ImportAtlas
