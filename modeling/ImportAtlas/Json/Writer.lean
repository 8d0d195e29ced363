import ImportAtlas.Json.Basic
import ImportAtlas.Text.Numeral

/-!
# Writing JSON

The written text is printable ASCII: everything else appears as an escape, beyond the basic plane
as the escapes of a surrogate pair.  A layout says what stands before an item at each depth, so one
writer makes single lines and indented documents.
-/

namespace ImportAtlas

namespace Json

def unitEscape (n : Nat) : Text := "\\u" ++ Text.fixed 16 4 n

def escaped (c : CodePoint) : Text :=
  if c = '"' then "\\\""
  else if c = '\\' then "\\\\"
  else if c = '\n' then "\\n"
  else if c = '\r' then "\\r"
  else if c = '\t' then "\\t"
  else if c.val = 8 then "\\b"
  else if c.val = 12 then "\\f"
  else if 0x20 ≤ c.val && c.val ≤ 0x7E then [c]
  else if c.val < 0x10000 then unitEscape c.val
  else
    unitEscape (0xD800 + (c.val - 0x10000) / 0x400) ++
      unitEscape (0xDC00 + (c.val - 0x10000) % 0x400)

def writeText (t : Text) : Text := "\"" ++ t.flatMap escaped ++ "\""

structure Layout where
  /-- What stands before an item or a closing bracket at a depth. -/
  lineBreak : (depth : Nat) → Text

def Layout.compact : Layout := ⟨fun _ => ""⟩

def Layout.indented : Layout :=
  ⟨fun depth => CodePoint.ofChar '\n' :: List.replicate (2 * depth) (CodePoint.ofChar ' ')⟩

mutual

def write (layout : Layout) (depth : Nat) : Json → Text
  | .null => "null"
  | .bool true => "true"
  | .bool false => "false"
  | .integer n => Text.integer n
  | .decimal mantissa exponent => Text.integer mantissa ++ "e" ++ Text.integer exponent
  | .notANumber => "NaN"
  | .infinite false => "Infinity"
  | .infinite true => "-Infinity"
  | .text value => writeText value
  | .array [] => "[]"
  | .array (item :: items) =>
      "[" ++ Text.join "," (writeItems layout (depth + 1) (item :: items)) ++
        layout.lineBreak depth ++ "]"
  | .object [] => "\x7b\x7d"
  | .object (entry :: entries) =>
      "\x7b" ++ Text.join "," (writeMembers layout (depth + 1) (entry :: entries)) ++
        layout.lineBreak depth ++ "\x7d"

def writeItems (layout : Layout) (depth : Nat) : List Json → List Text
  | [] => []
  | item :: items =>
      (layout.lineBreak depth ++ write layout depth item) :: writeItems layout depth items

def writeMembers (layout : Layout) (depth : Nat) : List (Text × Json) → List Text
  | [] => []
  | (name, value) :: members =>
      (layout.lineBreak depth ++ writeText name ++ ": " ++ write layout depth value) ::
        writeMembers layout depth members

end

end Json

end ImportAtlas
