import ImportAtlas.Clock.Moment
import ImportAtlas.Encoding.Utf8

/-!
# Patterns for moments

A pattern is a text in which a percent sign starts a directive: flags, a width, a modifier, and a
letter that names a part of the moment.  Names of days and months are English.  Whatever is no
directive stands for itself.

A pattern has room for so much text, depending on its length.  One that asks for more, by the widths
of its directives, stands for nothing at all.
-/

namespace ImportAtlas

namespace Moment

def weekdayNames : List String :=
  ["Sunday", "Monday", "Tuesday", "Wednesday", "Thursday", "Friday", "Saturday"]

def monthNames : List String :=
  ["January", "February", "March", "April", "May", "June", "July", "August", "September",
    "October", "November", "December"]

def weekday (moment : Moment) : Nat := Date.weekdayOfDays moment.days

def weekdayName (moment : Moment) : Text := weekdayNames.getD moment.weekday ""

def monthName (moment : Moment) : Text := monthNames.getD (moment.date.month - 1) ""

def hour12 (moment : Moment) : Nat := if moment.hour % 12 = 0 then 12 else moment.hour % 12

/-- The number of the week when weeks begin on a weekday, from Sunday as 0, and the days before the
first such day are week 0. -/
def weekFrom (first : Nat) (moment : Moment) : Nat :=
  (moment.date.dayOfYear + 7 - (moment.weekday + 7 - first) % 7) / 7

/-- The year and the number of the week when weeks begin on Monday and belong to the year of their
Thursday. -/
def isoWeek (moment : Moment) : Int × Nat :=
  let thursday := Date.ofDays (moment.days - ((moment.weekday + 6) % 7 : Nat) + 3)
  (thursday.year, thursday.dayOfYear / 7 + 1)

end Moment

/-!
## Parts of a moment
-/

inductive MomentPart where
  /-- A number with its usual width, filled with zeros. -/
  | number (value : Int) (width : Nat)
  /-- A number with its usual width, filled with blanks. -/
  | blankNumber (value : Int) (width : Nat)
  /-- A name in capitals where they are asked for. -/
  | name (value : Text)
  /-- A name in capitals, and in small letters where the other case is asked for. -/
  | capitalName (value : Text)
  /-- A text that has one form only. -/
  | literal (value : Text)
  /-- A combination of directives. -/
  | combined (pattern : String)

namespace Moment

def part? (moment : Moment) (letter : Char) : Option MomentPart :=
  let date := moment.date
  match letter with
  | 'a' => some (.name (moment.weekdayName.take 3))
  | 'A' => some (.name moment.weekdayName)
  | 'b' | 'h' => some (.name (moment.monthName.take 3))
  | 'B' => some (.name moment.monthName)
  | 'C' => some (.number (date.year / 100) 1)
  | 'd' => some (.number date.day 2)
  | 'e' => some (.blankNumber date.day 2)
  | 'G' => some (.number moment.isoWeek.1 1)
  | 'g' => some (.number (moment.isoWeek.1 % 100) 2)
  | 'H' => some (.number moment.hour 2)
  | 'I' => some (.number moment.hour12 2)
  | 'j' => some (.number (date.dayOfYear + 1) 3)
  | 'k' => some (.blankNumber moment.hour 2)
  | 'l' => some (.blankNumber moment.hour12 2)
  | 'M' => some (.number moment.minute 2)
  | 'm' => some (.number date.month 2)
  | 'n' => some (.literal "\n")
  | 'P' => some (.literal (if moment.hour < 12 then "am" else "pm"))
  | 'p' => some (.capitalName (if moment.hour < 12 then "AM" else "PM"))
  | 'S' => some (.number moment.second 2)
  | 's' => some (.literal (Text.integer moment.seconds))
  | 't' => some (.literal "\t")
  | 'U' => some (.number (moment.weekFrom 0) 2)
  | 'u' => some (.number ((moment.weekday + 6) % 7 + 1 : Nat) 1)
  | 'V' => some (.number moment.isoWeek.2 2)
  | 'W' => some (.number (moment.weekFrom 1) 2)
  | 'w' => some (.number moment.weekday 1)
  | 'Y' => some (.number date.year 1)
  | 'y' => some (.number (date.year % 100) 2)
  | 'Z' => some (.literal "")
  | '%' => some (.literal "%")
  | 'c' => some (.combined "%a %b %e %H:%M:%S %Y")
  | 'D' | 'x' => some (.combined "%m/%d/%y")
  | 'F' => some (.combined "%Y-%m-%d")
  | 'R' => some (.combined "%H:%M")
  | 'r' => some (.combined "%I:%M:%S %p")
  | 'T' | 'X' => some (.combined "%H:%M:%S")
  | _ => none

end Moment

/-!
## Directives

A directive is a percent sign, flags, a width, a modifier and a letter.  The modifiers ask for the
eras and digits of a language, of which there are none here, so they change nothing; but not every
letter admits them.
-/

structure DirectiveStyle where
  /-- `-`, `_` or `0`. -/
  fill : Option CodePoint
  /-- `^`: capitals. -/
  capitals : Bool
  /-- `#`: the other case. -/
  otherCase : Bool
  width : Nat
  /-- `E` or `O`. -/
  modifier : Option CodePoint

namespace DirectiveStyle

def plain : DirectiveStyle := ⟨none, false, false, 0, none⟩

def capitalize (t : Text) : Text :=
  t.map fun c => if 97 ≤ c.val && c.val ≤ 122 then CodePoint.ofNat (c.val - 32) else c

def fillWith (filler : CodePoint) (width : Nat) (t : Text) : Text :=
  List.replicate (width - t.length) filler ++ t

def fillTo (style : DirectiveStyle) (t : Text) : Text :=
  fillWith (if style.fill = some (CodePoint.ofChar '0') then '0' else ' ') style.width t

def writeNumber (style : DirectiveStyle) (filler : CodePoint) (value : Int) (width : Nat) : Text :=
  let digits := Text.integer value
  style.fillTo
    (if style.fill = some (CodePoint.ofChar '-') then digits
    else
      let filler : CodePoint :=
        if style.fill = some (CodePoint.ofChar '0') then '0'
        else if style.fill = some (CodePoint.ofChar '_') then ' '
        else filler
      fillWith filler (max width style.width) digits)

/-- The letters that admit the modifier `E` only. -/
def eraLetters : String := "cxXY"

/-- The letters that admit the modifier `O` only. -/
def digitLetters : String := "bhBdeHIkljMmSUVgGWw"

def freeLetters : String := "CynPpRrsTtuZz"

def admits (style : DirectiveStyle) (letter : Char) : Bool :=
  match style.modifier with
  | none => true
  | some modifier =>
      freeLetters.toList.contains letter ||
        (if modifier = 'E' then eraLetters else digitLetters).toList.contains letter

end DirectiveStyle

def readFlags (style : DirectiveStyle) : Text → DirectiveStyle × Text
  | [] => (style, [])
  | c :: rest =>
      if c = '-' || c = '_' || c = '0' then readFlags { style with fill := some c } rest
      else if c = '^' then readFlags { style with capitals := true } rest
      else if c = '#' then readFlags { style with otherCase := true } rest
      else (style, c :: rest)

def readStyle (t : Text) : DirectiveStyle × Text :=
  let (style, t) := readFlags .plain t
  let digits := t.takeWhile CodePoint.isDigit
  let style := { style with width := Text.digitsValue digits }
  match t.dropWhile CodePoint.isDigit with
  | [] => (style, [])
  | c :: rest =>
      if c = 'E' || c = 'O' then ({ style with modifier := some c }, rest) else (style, c :: rest)

namespace Moment

def writePart (combined : Text → Text) (style : DirectiveStyle) : MomentPart → Text
  | .number value width => style.writeNumber '0' value width
  | .blankNumber value width => style.writeNumber ' ' value width
  | .name value =>
      style.fillTo (if style.capitals || style.otherCase then DirectiveStyle.capitalize value
        else value)
  | .capitalName value =>
      style.fillTo (if style.otherCase then value.map CodePoint.toAsciiLower else value)
  | .literal value => style.fillTo value
  | .combined pattern =>
      let text := combined pattern
      style.fillTo (if style.capitals then DirectiveStyle.capitalize text else text)

def writeUnknown (style : DirectiveStyle) (directive : Text) : Text :=
  style.fillTo (if style.capitals then DirectiveStyle.capitalize directive else directive)

/-- The style of a directive that names nothing.  Beside the letter of a short name of a month the
other case means capitals, even where the modifier keeps the name from being written. -/
def unknownStyle (style : DirectiveStyle) (letter : Char) : DirectiveStyle :=
  { style with
    capitals := style.capitals || style.otherCase && (letter = 'b' || letter = 'h') }

/-- A directive behind its percent sign, and how long it is.  No more than `room` code points are
filled. -/
def writeDirective (combined : Text → Text) (room : Nat) (moment : Moment) (t : Text) :
    Text × Nat :=
  let (style, rest) := readStyle t
  let style := { style with width := min room style.width }
  let length := t.length - rest.length
  match rest with
  | [] => (writeUnknown style ("%" ++ t), length)
  | letter :: _ =>
      let letter := Char.ofNat letter.val
      match if style.admits letter then moment.part? letter else none with
      | some part => (writePart combined style part, length + 1)
      | none =>
          if letter = 'z' then ("", length + 1)
          else if letter = '%' then (writeUnknown style "%", length + 1)
          else
            (writeUnknown (unknownStyle style letter) ("%" ++ t.take (length + 1)), length + 1)

/-- The text of a pattern, with a way to write combinations.  `skip` code points belong to a
directive that has been written. -/
def writeFrom (combined : Text → Text) (room : Nat) (moment : Moment) :
    (skip : Nat) → Text → Text
  | _, [] => []
  | skip + 1, _ :: rest => writeFrom combined room moment skip rest
  | 0, c :: rest =>
      if c ≠ '%' then c :: writeFrom combined room moment 0 rest
      else
        let (written, length) := writeDirective combined room moment rest
        written ++ writeFrom combined room moment length rest

/-- The pattern with the parts of a second and the zone written out where a percent sign is followed
by their letter at once. -/
def writeExact (moment : Moment) : Text → Text
  | c :: d :: rest =>
      if c ≠ '%' then c :: writeExact moment (d :: rest)
      else if d = 'f' then Text.fixed 10 6 moment.micros ++ writeExact moment rest
      else if d = 'z' then "+0000" ++ writeExact moment rest
      else if d = 'Z' then "UTC" ++ writeExact moment rest
      else c :: d :: writeExact moment rest
  | t => t

def leastRoom : Nat := 1024

def roomFor (needed : Nat) : (doublings : Nat) → (room : Nat) → Nat
  | 0, room => room
  | doublings + 1, room => if needed ≤ room then room else roomFor needed doublings (2 * room)

/-- The room for what a pattern of some length writes: 256 times as much at least. -/
def room (length : Nat) : Nat := roomFor (256 * length) (256 * length) leastRoom

/-- The moment as a pattern says, which ends at a zero, and nothing where there is no room for it.
Combinations hold no further ones. -/
def writePattern (moment : Moment) (pattern : Text) : Text :=
  let exact := moment.writeExact (pattern.takeWhile (·.val ≠ 0))
  let room := room exact.length
  let text := writeFrom (writeFrom (fun _ => []) room moment 0) room moment 0 exact
  if text.length < room then text else []

/-- The moment as a pattern says that has a place in UTF-8.  The empty pattern stands for the date
and time to the second. -/
def write (moment : Moment) (pattern : Text) : Except Utf8.EncodeFailure Text :=
  match Utf8.encode pattern with
  | .error failure => .error failure
  | .ok _ => .ok (if pattern = [] then moment.iso else moment.writePattern pattern)

end Moment

end ImportAtlas
