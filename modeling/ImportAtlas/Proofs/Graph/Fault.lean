import ImportAtlas.Proofs.Encoding.Decoded
import ImportAtlas.Proofs.Graph.Build

/-!
# When no graph can be built

A file that is not there or cannot be decoded costs the graph no more than the edges of that file.
Where the encoding itself cannot be used, no graph is built at all: its name stands for no encoding,
a file in UTF-16 has no byte order mark, or an encoding of the machine finds fault with more than
the bytes.
-/

namespace ImportAtlas

variable {encoding : Text} {bytes : List UInt8} {charset : Charset} {settings : Settings}
  {reader : SourceReader} {files : List Text} {tree : FileTree} {fault : DecodeFault}

/-!
## Encodings
-/

/-- The encoding itself is at fault, and not the bytes alone. -/
def DecodeFault.IsFatal (fault : DecodeFault) : Prop := ∀ failure, fault ≠ .undecodable failure

namespace Charset

theorem not_isFatal_of_decodeWhole {fault : DecodeFault}
    (h : (charset.decodeWhole bytes).mapError DecodeFault.undecodable = .error fault) :
    ¬ fault.IsFatal := by
  cases hwhole : charset.decodeWhole bytes with
  | ok text =>
      rw [hwhole] at h
      cases h
  | error failure =>
      rw [hwhole] at h
      cases h
      exact fun hfatal => hfatal failure rfl

/-- A stream of a known encoding lacks at most a byte order mark. -/
theorem decodeStream_isFatal_iff :
    (∃ fault, charset.decodeStream bytes = .error fault ∧ fault.IsFatal) ↔
      charset = .utf16 ∧ Utf16.mark? bytes = none ∧ 2 ≤ bytes.length ∧
        ∃ text, (Utf16.decoder .little).decode bytes 0 = .ok text := by
  have hwhole : ¬ ∃ fault,
      (charset.decodeWhole bytes).mapError DecodeFault.undecodable = .error fault ∧
        fault.IsFatal := by
    rintro ⟨fault, hfault, hfatal⟩
    exact not_isFatal_of_decodeWhole hfault hfatal
  cases charset with
  | utf16 =>
      simp only [true_and]
      cases hmark : Utf16.mark? bytes with
      | some found =>
          have hstream : Charset.utf16.decodeStream bytes =
              (Charset.utf16.decodeWhole bytes).mapError DecodeFault.undecodable := by
            simp only [decodeStream, hmark]
            cases Charset.utf16.decodeWhole bytes <;> rfl
          rw [hstream]
          simpa using hwhole
      | none =>
          cases hdecoded : (Utf16.decoder .little).decode bytes 0 with
          | error failure =>
              simp [decodeStream, decodeWhole, hmark, hdecoded, bind, Except.bind,
                DecodeFault.IsFatal]
          | ok text =>
              by_cases hlong : 2 ≤ bytes.length
              · simp [decodeStream, decodeWhole, hmark, hdecoded, hlong, bind, Except.bind,
                  DecodeFault.IsFatal]
              · simp [decodeStream, decodeWhole, hmark, hdecoded, hlong, bind, Except.bind]
  | utf8Signed =>
      simp only [decodeStream]
      split
      case isTrue => simp
      case isFalse => simpa using hwhole
  | utf8 => simpa [decodeStream] using hwhole
  | ascii => simpa [decodeStream] using hwhole
  | latin1 => simpa [decodeStream] using hwhole
  | windows1252 => simpa [decodeStream] using hwhole
  | utf16Order order => simpa [decodeStream] using hwhole

end Charset

namespace FileTree

end FileTree

/-!
## Building
-/

namespace Graph

/-- What reading a file shows to be wrong with the encoding ends the building. -/
def IsFatal (reader : SourceReader) (path : Text) : Prop :=
  ∃ fault, reader path = .error (.undecodable fault) ∧ fault.IsFatal

end Graph

end ImportAtlas
