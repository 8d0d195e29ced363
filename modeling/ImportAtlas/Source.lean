import ImportAtlas.Encoding.Charset
import ImportAtlas.SystemFault

/-!
# Sources

The text of a file may be out of reach for two reasons: the file cannot be read, or its bytes are no
text in the encoding that is asked for.
-/

namespace ImportAtlas

inductive ReadFault where
  | inaccessible (fault : SystemFault)
  | undecodable (fault : DecodeFault)
deriving DecidableEq

abbrev SourceReader := (path : Text) → Except ReadFault Text

end ImportAtlas
