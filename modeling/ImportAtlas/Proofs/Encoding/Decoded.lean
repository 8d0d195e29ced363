import ImportAtlas.Encoding.Charset
import ImportAtlas.FileTree.Text
import ImportAtlas.Log.Reported
import ImportAtlas.Proofs.Encoding.CodePointBytes

/-!
# Decoded texts

Whatever bytes a file holds and whichever of the known encodings it is read in, its text is
well-formed.  Stray surrogates come from file names and from words of the command line, and from
contents only in an encoding of the machine.
-/

namespace ImportAtlas

open Text

variable {decoder : Decoder} {decoded t : Text} {bytes : List UInt8} {charset : Charset}

namespace Decoder

def IsSound (decoder : Decoder) : Prop :=
  ∀ byte rest c length, decoder.read byte rest = .point c length → c.isSurrogate = false

theorem IsSound.decodeFrom (hsound : decoder.IsSound) {skip position : Nat}
    (hdecoded : decoded.IsWellFormed)
    (h : decoder.decodeFrom decoded skip position bytes = .ok t) : t.IsWellFormed := by
  induction bytes generalizing decoded skip position with
  | nil =>
      have ht : decoded.reverse = t := by
        cases skip <;> exact Except.ok.inj h
      rw [← ht]
      exact hdecoded.mono (List.reverse_subset.mpr (List.Subset.refl _))
  | cons byte rest ih =>
      cases skip with
      | succ skip => exact ih hdecoded h
      | zero =>
          simp only [Decoder.decodeFrom] at h
          split at h
          case h_1 c length hread =>
            exact ih (isWellFormed_cons.mpr ⟨hsound byte rest c length hread, hdecoded⟩) h
          case h_2 => cases h

theorem IsSound.decode (hsound : decoder.IsSound) {offset : Nat}
    (h : decoder.decode bytes offset = .ok t) : t.IsWellFormed :=
  hsound.decodeFrom isWellFormed_nil h

theorem isSurrogate_ofByte (byte : UInt8) : (ofByte byte).isSurrogate = false := by
  have := byte.toNat_lt
  exact Utf8.isSurrogate_ofNat (Or.inl (by omega))

theorem isSound_ascii : ascii.IsSound := by
  intro byte rest c length h
  simp only [ascii] at h
  split at h
  case isTrue =>
    cases h
    exact isSurrogate_ofByte byte
  case isFalse => cases h

theorem isSound_latin1 : latin1.IsSound := by
  intro byte rest c length h
  cases h
  exact isSurrogate_ofByte byte

theorem windows1252Upper_lt (index : Nat) : windows1252Upper.getD index 0 < 0xD800 := by
  have hall : ∀ n ∈ windows1252Upper, n < 0xD800 := by decide
  rw [List.getD_eq_getElem?_getD]
  cases hindex : windows1252Upper[index]? with
  | none => decide
  | some n => exact hall n (List.mem_of_getElem? hindex)

theorem isSound_windows1252 : windows1252.IsSound := by
  intro byte rest c length h
  simp only [windows1252] at h
  split at h
  case isFalse =>
    cases h
    exact isSurrogate_ofByte byte
  case isTrue =>
    have hupper := windows1252Upper_lt (byte.toNat - 0x80)
    split at h
    case h_1 => cases h
    case h_2 n hn =>
      cases h
      rw [hn] at hupper
      exact Utf8.isSurrogate_ofNat (Or.inl hupper)

end Decoder

theorem Utf8.isSound_decoder : Utf8.decoder.IsSound :=
  fun _ _ _ _ h => Utf8.isSurrogate_of_read h

theorem Utf16.isSound_decoder (order : ByteOrder) : (Utf16.decoder order).IsSound := by
  intro byte rest c length h
  simp only [Utf16.decoder] at h
  split at h
  case h_1 => cases h
  case h_2 second rest =>
    split at h
    case isTrue hplain =>
      cases h
      simp only [Bool.or_eq_true, decide_eq_true_eq] at hplain
      exact Utf8.isSurrogate_ofNat (by omega)
    case isFalse =>
      split at h
      case isTrue => cases h
      case isFalse =>
        split at h
        case h_1 => cases h
        case h_2 =>
          split at h
          case isTrue =>
            rw [Reading.point.injEq] at h
            rw [← h.left]
            exact Utf8.isSurrogate_ofNat (Or.inr (by omega))
          case isFalse => cases h

/-!
## Files
-/

theorem Charset.isWellFormed_decodeWhole (h : charset.decodeWhole bytes = .ok t) :
    t.IsWellFormed := by
  cases charset with
  | utf8 => exact Utf8.isSound_decoder.decode h
  | utf8Signed =>
      simp only [decodeWhole] at h
      split at h
      case isTrue => exact Utf8.isSound_decoder.decode h
      case isFalse => exact Utf8.isSound_decoder.decode h
  | ascii => exact Decoder.isSound_ascii.decode h
  | latin1 => exact Decoder.isSound_latin1.decode h
  | windows1252 => exact Decoder.isSound_windows1252.decode h
  | utf16 =>
      simp only [decodeWhole] at h
      split at h
      case h_1 order rest _ => exact (Utf16.isSound_decoder order).decode h
      case h_2 => exact (Utf16.isSound_decoder .little).decode h
  | utf16Order order => exact (Utf16.isSound_decoder order).decode h

theorem Charset.isWellFormed_decodeStream (h : charset.decodeStream bytes = .ok t) :
    t.IsWellFormed := by
  have hwhole : ∀ {t}, (charset.decodeWhole bytes).mapError DecodeFault.undecodable = .ok t →
      t.IsWellFormed := by
    intro t ht
    exact isWellFormed_decodeWhole (mapError_eq_ok_iff.mp ht)
  cases charset with
  | utf8Signed =>
      simp only [decodeStream] at h
      split at h
      case isTrue =>
        cases h
        exact isWellFormed_nil
      case isFalse => exact hwhole h
  | utf16 =>
      simp only [decodeStream, bind, Except.bind] at h
      split at h
      case h_1 => cases h
      case h_2 text htext =>
        split at h
        case isTrue => cases h
        case isFalse =>
          cases h
          exact hwhole htext
  | utf8 => exact hwhole h
  | ascii => exact hwhole h
  | latin1 => exact hwhole h
  | windows1252 => exact hwhole h
  | utf16Order order => exact hwhole h

theorem Text.isWellFormed_unifyNewlinesFrom {done : Text} {afterReturn : Bool}
    (hdone : done.IsWellFormed) (ht : t.IsWellFormed) :
    (unifyNewlinesFrom done afterReturn t).IsWellFormed := by
  induction t generalizing done afterReturn with
  | nil => exact hdone.mono (List.reverse_subset.mpr (List.Subset.refl _))
  | cons c t ih =>
      rw [isWellFormed_cons] at ht
      simp only [unifyNewlinesFrom]
      split
      case isTrue =>
        exact ih (isWellFormed_cons.mpr ⟨isSurrogate_ofChar '\n', hdone⟩) ht.right
      case isFalse =>
        split
        case isTrue => exact ih hdone ht.right
        case isFalse => exact ih (isWellFormed_cons.mpr ⟨ht.left, hdone⟩) ht.right

theorem isWellFormed_decodeFile {encoding : Text} (h : decodeFile encoding bytes = .ok t) :
    t.IsWellFormed := by
  simp only [decodeFile, bind, Except.bind] at h
  split at h
  case h_1 => cases h
  case h_2 charset _ =>
    split at h
    case h_1 => cases h
    case h_2 text htext =>
      cases h
      exact isWellFormed_unifyNewlinesFrom isWellFormed_nil
        (Charset.isWellFormed_decodeStream htext)

theorem Charset.select_utf8 : select "utf-8" "codecs.open()" = .ok .utf8 := by decide

/-- A text that has been written to a file is read from it, but for its line endings. -/
theorem decodeFile_of_encode (h : Utf8.encode t = .ok bytes) :
    decodeFile "utf-8" bytes = .ok (unifyNewlines t) := by
  have hstream : Charset.utf8.decodeStream bytes = .ok t := by
    simp only [Charset.decodeStream, Charset.decodeWhole, Utf8.decode_of_encode h, Except.mapError]
  rw [decodeFile, Charset.select_utf8]
  simp only [bind, Except.bind, hstream]
  rfl

/-!
## Files of a tree

What only the machine knows comes into play with names that stand for no encoding here.  It may find
surrogates in the bytes.
-/

namespace Charset

theorem decodeStream_ne_unknownEncoding (charset : Charset) (bytes : List UInt8) (name : Text) :
    charset.decodeStream bytes ≠ .error (.unknownEncoding name) := by
  have hwhole : (charset.decodeWhole bytes).mapError DecodeFault.undecodable ≠
      .error (.unknownEncoding name) := by
    cases charset.decodeWhole bytes <;> simp
  cases charset with
  | utf8Signed =>
      simp only [decodeStream]
      split
      case isTrue => simp
      case isFalse => exact hwhole
  | utf16 =>
      simp only [decodeStream]
      cases hdecoded : (decodeWhole .utf16 bytes).mapError DecodeFault.undecodable with
      | error fault =>
          rw [hdecoded] at hwhole
          exact hwhole
      | ok text =>
          simp only [bind, Except.bind]
          split <;> simp
  | _ => exact hwhole

end Charset

namespace FileTree

variable {tree : FileTree} {encoding path : Text}

theorem decode_of_select (h : Charset.select encoding "codecs.open()" = .ok charset) :
    tree.decode encoding bytes = decodeFile encoding bytes := by
  have hknown (name : Text) : decodeFile encoding bytes ≠ .error (.unknownEncoding name) := by
    simp only [decodeFile, h, bind, Except.bind]
    have hstream := charset.decodeStream_ne_unknownEncoding bytes name
    cases hdecoded : charset.decodeStream bytes with
    | error fault =>
        rw [hdecoded] at hstream
        exact hstream
    | ok text => simp [pure, Except.pure]
  unfold decode
  split
  case h_1 name hunknown => exact absurd hunknown (hknown name)
  case h_2 => rfl

theorem isWellFormed_of_readText (hselect : Charset.select encoding "codecs.open()" = .ok charset)
    (h : tree.readText encoding path = .ok t) : t.IsWellFormed := by
  simp only [readText, decode_of_select hselect] at h
  split at h
  case h_1 => cases h
  case h_2 => exact isWellFormed_decodeFile (mapError_eq_ok_iff.mp h)

end FileTree

end ImportAtlas
