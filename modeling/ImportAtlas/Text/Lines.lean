import ImportAtlas.Text.Basic

/-!
# Lines

Text files end their lines with a line feed, a carriage return or both in this order.  Reading a
file as text leaves line feeds alone.  Splitting a text into lines honours the other line and
paragraph breaks of Unicode too.
-/

namespace ImportAtlas

def CodePoint.isLineBreak (c : CodePoint) : Bool :=
  (0x0A ≤ c.val && c.val ≤ 0x0D) || (0x1C ≤ c.val && c.val ≤ 0x1E) || c.val = 0x85 ||
    c.val = 0x2028 || c.val = 0x2029

namespace Text

/-- Make every line ending one line feed.  `done` holds what has been read, the last code point
first, and `afterReturn` tells whether that was a carriage return. -/
def unifyNewlinesFrom (done : Text) (afterReturn : Bool) : Text → Text
  | [] => done.reverse
  | c :: rest =>
      if c = '\r' then unifyNewlinesFrom (CodePoint.ofChar '\n' :: done) true rest
      else if c = '\n' && afterReturn then unifyNewlinesFrom done false rest
      else unifyNewlinesFrom (c :: done) false rest

def unifyNewlines (t : Text) : Text := unifyNewlinesFrom [] false t

/-- The lines of a text whose line endings are single code points.  A break ends its line, so
nothing follows the last one. -/
def lines : Text → List Text
  | [] => []
  | c :: rest =>
      if c.isLineBreak then [] :: lines rest
      else
        match lines rest with
        | [] => [[c]]
        | line :: more => (c :: line) :: more

end Text

end ImportAtlas
