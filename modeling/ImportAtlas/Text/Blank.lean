import ImportAtlas.Text.Basic
import ImportAtlas.Text.Ranges

/-!
# White space

White space is what Unicode gives the bidirectional class of a space or a separator: the ASCII
blanks, the four information separators U+001C to U+001F, NEL and the space separators.  The zero
width space and the byte order mark are not among them.
-/

namespace ImportAtlas

def blankRanges : Ranges :=
  [(0x9, 0xd), (0x1c, 0x20), (0x85, 0x85), (0xa0, 0xa0), (0x1680, 0x1680), (0x2000, 0x200a),
    (0x2028, 0x2029), (0x202f, 0x202f), (0x205f, 0x205f), (0x3000, 0x3000)]

def CodePoint.isBlank (c : CodePoint) : Bool := blankRanges.contains c.val

namespace Text

def trimStart (t : Text) : Text := t.dropWhile CodePoint.isBlank

def trimEnd (t : Text) : Text := (t.reverse.dropWhile CodePoint.isBlank).reverse

def trim (t : Text) : Text := trimEnd (trimStart t)

def trimCopies (c : CodePoint) (t : Text) : Text :=
  ((t.dropWhile (· = c)).reverse.dropWhile (· = c)).reverse

end Text

end ImportAtlas
