import ImportAtlas.Text.Numeral

/-!
# Surrogates on a terminal

Messages may name files whose names are not well-formed text.  A terminal is shown each surrogate by
its number, and everything else as it is.
-/

namespace ImportAtlas

namespace Text

def escapeSurrogates (t : Text) : Text :=
  t.flatMap fun c => if c.isSurrogate then "\\u" ++ fixed 16 4 c.val else [c]

end Text

end ImportAtlas
