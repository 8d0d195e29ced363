import ImportAtlas.CommandLine.Usage
import ImportAtlas.Text.DecimalDigit

/-!
# Words of the command line

A word that begins with a hyphen is an option.  A long option may be shortened to any beginning
that no other option shares, and a value may be attached to it by an equals sign.  What follows the
letter of an option in the same word is its value or more letters.

A hyphen alone, a negative number and a word with a space are no options.  After a word of two
hyphens nothing is.
-/

namespace ImportAtlas

inductive CommandWord where
  | operand (word : Text)
  /-- The word after which there are only operands. -/
  | separator
  | option (option : CommandOption) (isLong : Bool) (attached : Option Text)
  | unknown (word : Text)
deriving DecidableEq

namespace CommandWord

/-- Whether a word is a negative number, perhaps with a line feed behind it. -/
def isNegativeNumber (word : Text) : Bool :=
  match Text.after? "-" (if Text.endsWith "\n" word then word.dropLast else word) with
  | none => false
  | some number =>
      match Text.cut? '.' number with
      | none => number ≠ [] && number.all CodePoint.isDecimalDigit
      | some (whole, part) =>
          whole.all CodePoint.isDecimalDigit && part ≠ [] && part.all CodePoint.isDecimalDigit

def spelled? (word : Text) : Option CommandWord :=
  match CommandOption.ofSpelling? word with
  | some (found, isLong) => some (.option found isLong none)
  | none =>
      match Text.cut? '=' word with
      | none => none
      | some (spelling, value) =>
          (CommandOption.ofSpelling? spelling).map fun (found, isLong) =>
            .option found isLong (some value)

def abbreviation (word : Text) : Text × Option Text :=
  match Text.cut? '=' word with
  | some (start, value) => (start, some value)
  | none => (word, none)

def shortened? (word : Text) : Except UsageFault (Option CommandWord) :=
  match word with
  | _ :: second :: rest =>
      if second = '-' then
        let (start, attached) := abbreviation word
        match CommandOption.abbreviatedBy start with
        | [] => .ok none
        | [found] => .ok (some (.option found true attached))
        | found => .error (.ambiguous word found)
      else
        .ok ((CommandOption.ofLetter? second).map fun found => .option found false (some rest))
  | _ => .ok none

def ofText (word : Text) : Except UsageFault CommandWord :=
  if word = "-" || !Text.startsWith "-" word then .ok (.operand word)
  else
    match spelled? word with
    | some found => .ok found
    | none => do
        match ← shortened? word with
        | some found => return found
        | none =>
            if isNegativeNumber word || word.contains (CodePoint.ofChar ' ') then
              return .operand word
            else return .unknown word

def ofTexts : List Text → Except UsageFault (List CommandWord)
  | [] => return []
  | word :: words =>
      if word = separatorWord then return .separator :: words.map operand
      else do
        let first ← ofText word
        let others ← ofTexts words
        return first :: others

end CommandWord

end ImportAtlas
