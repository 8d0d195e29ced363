import ImportAtlas.Text.Numeral
import ImportAtlas.Text.Printable

/-!
# Quoted texts in messages

A message that names a value shows it in quotes and on one line.  Apostrophes quote it, unless the
value itself holds an apostrophe and no double quote.  Inside, a backslash stands before a backslash
and before the enclosing quote, the usual line and tab escapes are used, and whatever cannot be
printed appears by its number.
-/

namespace ImportAtlas

namespace Text

def enclosingQuote (t : Text) : CodePoint :=
  if t.contains (CodePoint.ofChar '\'') && !t.contains (CodePoint.ofChar '"') then '"' else '\''

def quotedPoint (quote c : CodePoint) : Text :=
  if c = quote || c = '\\' then ['\\', c]
  else if c = '\n' then "\\n"
  else if c = '\r' then "\\r"
  else if c = '\t' then "\\t"
  else if c.isPrintable then [c]
  else if c.val < 0x100 then "\\x" ++ fixed 16 2 c.val
  else if c.val < 0x10000 then "\\u" ++ fixed 16 4 c.val
  else "\\U" ++ fixed 16 8 c.val

def quoted (t : Text) : Text :=
  let quote := enclosingQuote t
  quote :: t.flatMap (quotedPoint quote) ++ [quote]

end Text

end ImportAtlas
