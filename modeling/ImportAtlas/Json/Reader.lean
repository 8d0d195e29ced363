import ImportAtlas.Json.Basic
import ImportAtlas.Text.Numeral

/-!
# Reading JSON

The reader takes a whole text or none of it.  White space is the four ASCII characters of the
format, control characters are not allowed in strings, and the escapes of a surrogate pair make one
code point while a lone one stays.  Beside the format proper it knows the words `NaN`, `Infinity`
and `-Infinity`, and it refuses whole numbers of excessive length and values nested too deeply.
-/

namespace ImportAtlas

namespace Json

def integerDigitLimit : Nat := 4300

def isSpace (c : CodePoint) : Bool := c = ' ' || c = '\t' || c = '\n' || c = '\r'

def skipSpaces (t : Text) : Text := t.dropWhile isSpace

/-!
## Strings
-/

def hexNumber? (a b c d : CodePoint) : Option Nat := do
  let a ← a.hexDigit?
  let b ← b.hexDigit?
  let c ← c.hexDigit?
  let d ← d.hexDigit?
  return ((a * 16 + b) * 16 + c) * 16 + d

def simpleEscape? (c : CodePoint) : Option CodePoint :=
  if c = '"' || c = '\\' || c = '/' then some c
  else if c = 'b' then some (CodePoint.ofNat 8)
  else if c = 'f' then some (CodePoint.ofNat 12)
  else if c = 'n' then some (CodePoint.ofNat 10)
  else if c = 'r' then some (CodePoint.ofNat 13)
  else if c = 't' then some (CodePoint.ofNat 9)
  else none

def ofSurrogates (high low : Nat) : CodePoint :=
  CodePoint.ofNat (0x10000 + (high - 0xD800) * 0x400 + (low - 0xDC00))

def unicodeEscape? : Text → Option Nat
  | backslash :: u :: a :: b :: c :: d :: _ =>
      if backslash = '\\' && u = 'u' then hexNumber? a b c d else none
  | _ => none

/-- The string that follows an opening quote, and what follows it.  `skip` code points belong to an
escape that has been read already. -/
def stringFrom? : (skip : Nat) → Text → Option (Text × Text)
  | _, [] => none
  | skip + 1, _ :: rest => stringFrom? skip rest
  | 0, c :: rest =>
      let push (decoded : CodePoint) (skip : Nat) : Option (Text × Text) :=
        (stringFrom? skip rest).map fun (value, behind) => (decoded :: value, behind)
      if c = '"' then some ([], rest)
      else if c.val < 0x20 then none
      else if c ≠ '\\' then push c 0
      else
        match unicodeEscape? (c :: rest) with
        | some n =>
            match unicodeEscape? (rest.drop 5) with
            | some m =>
                if 0xD800 ≤ n && n < 0xDC00 && 0xDC00 ≤ m && m < 0xE000 then
                  push (ofSurrogates n m) 11
                else push (CodePoint.ofNat n) 5
            | none => push (CodePoint.ofNat n) 5
        | none =>
            match rest.head?.bind simpleEscape? with
            | some decoded => push decoded 1
            | none => none

/-!
## Numbers
-/

def fraction (t : Text) : Text × Text :=
  match Text.after? "." t with
  | none => ([], t)
  | some rest =>
      match rest.takeWhile CodePoint.isDigit with
      | [] => ([], t)
      | digit :: digits => (digit :: digits, rest.dropWhile CodePoint.isDigit)

def exponent? : Text → Option (Int × Text)
  | [] => none
  | c :: t =>
      if c = 'e' || c = 'E' then
        let (negative, rest) :=
          match Text.after? "-" t, Text.after? "+" t with
          | some rest, _ => (true, rest)
          | none, some rest => (false, rest)
          | none, none => (false, t)
        match rest.takeWhile CodePoint.isDigit with
        | [] => none
        | digit :: digits =>
            let size : Int := Text.digitsValue (digit :: digits)
            some (if negative then -size else size, rest.dropWhile CodePoint.isDigit)
      else none

/-- The digits of a number before the point: a zero alone, or digits that do not start with one. -/
def wholeDigits? : Text → Option (Text × Text)
  | [] => none
  | c :: rest =>
      if c = '0' then some ([c], rest)
      else if c.isDigit then
        some (c :: rest.takeWhile CodePoint.isDigit, rest.dropWhile CodePoint.isDigit)
      else none

def number? (t : Text) : Option (Json × Text) := do
  let (negative, t) :=
    match Text.after? "-" t with
    | some rest => (true, rest)
    | none => (false, t)
  let signed (size : Nat) : Int := if negative then -size else size
  let (whole, rest) ← wholeDigits? t
  let (places, rest) := fraction rest
  match places, exponent? rest with
  | [], none =>
      if integerDigitLimit < whole.length then none
      else some (.integer (signed (Text.digitsValue whole)), rest)
  | places, none =>
      some (.decimal (signed (Text.digitsValue (whole ++ places))) (-places.length), rest)
  | places, some (power, rest) =>
      some (.decimal (signed (Text.digitsValue (whole ++ places))) (power - places.length), rest)

def word? (t : Text) : Option (Json × Text) :=
  let words : List (Text × Json) :=
    [("null", .null), ("true", .bool true), ("false", .bool false), ("NaN", .notANumber),
      ("Infinity", .infinite false), ("-Infinity", .infinite true)]
  words.findSome? fun (word, value) => (Text.after? word t).map fun rest => (value, rest)

/-!
## Values

A value is followed into its items and members.  Every two steps consume a code point, so twice the
length of the text, and one, bounds the depth of the calls.
-/

inductive Container where
  | array
  | object
deriving DecidableEq

def Container.name : Container → Text
  | .array => "array"
  | .object => "object"

inductive Fault where
  | malformed
  /-- Values are nested too deeply where one of a kind opens. -/
  | tooDeep (container : Container)
deriving DecidableEq

/-- So many arrays and objects may be open at once. -/
def nestingLimit : Nat := 980

def orMalformed {α : Type} : Option α → Except Fault α
  | some a => .ok a
  | none => .error .malformed

mutual

/-- A value at the start of a text, in which `room` arrays and objects may be open at once. -/
def valueFrom : (fuel room : Nat) → Text → Except Fault (Json × Text)
  | 0, _, _ => .error .malformed
  | fuel + 1, room, t =>
      match t with
      | [] => .error .malformed
      | c :: rest =>
          if c = '"' then
            orMalformed ((stringFrom? 0 rest).map fun (value, rest) => (.text value, rest))
          else if c = '[' then
            match room, Text.after? "]" (skipSpaces rest) with
            | 0, _ => .error (.tooDeep .array)
            | _ + 1, some rest => .ok (.array [], rest)
            | room + 1, none => do
                let (items, rest) ← itemsFrom fuel room (skipSpaces rest)
                return (.array items, rest)
          else if c = '\x7b' then
            match room, Text.after? "\x7d" (skipSpaces rest) with
            | 0, _ => .error (.tooDeep .object)
            | _ + 1, some rest => .ok (.object [], rest)
            | room + 1, none => do
                let (members, rest) ← membersFrom fuel room (skipSpaces rest)
                return (.object members, rest)
          else orMalformed ((word? t).or (number? t))

def itemsFrom : (fuel room : Nat) → Text → Except Fault (List Json × Text)
  | 0, _, _ => .error .malformed
  | fuel + 1, room, t => do
      let (item, rest) ← valueFrom fuel room t
      match Text.after? "," (skipSpaces rest) with
      | some rest =>
          let (items, rest) ← itemsFrom fuel room (skipSpaces rest)
          return (item :: items, rest)
      | none =>
          let rest ← orMalformed (Text.after? "]" (skipSpaces rest))
          return ([item], rest)

def membersFrom : (fuel room : Nat) → Text → Except Fault (List (Text × Json) × Text)
  | 0, _, _ => .error .malformed
  | fuel + 1, room, t => do
      let t ← orMalformed (Text.after? "\"" t)
      let (name, rest) ← orMalformed (stringFrom? 0 t)
      let rest ← orMalformed (Text.after? ":" (skipSpaces rest))
      let (value, rest) ← valueFrom fuel room (skipSpaces rest)
      match Text.after? "," (skipSpaces rest) with
      | some rest =>
          let (members, rest) ← membersFrom fuel room (skipSpaces rest)
          return ((name, value) :: members, rest)
      | none =>
          let rest ← orMalformed (Text.after? "\x7d" (skipSpaces rest))
          return ([(name, value)], rest)

end

def read (t : Text) : Except Fault Json := do
  let (value, rest) ← valueFrom (2 * t.length + 1) nestingLimit (skipSpaces t)
  if skipSpaces rest = [] then return value else throw .malformed

end Json

end ImportAtlas
