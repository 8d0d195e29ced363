import ImportAtlas.Proofs.Encoding.Spelled

/-!
# Contents of files

Which bytes are valid in an encoding, and as what text, can be told without a decoder: they are the
bytes of that text, behind a byte order mark or a signature where the encoding has one.  Exactly
these contents are read from a file, each as its text.
-/

namespace ImportAtlas

variable {t : Text} {bytes rest : List UInt8}

def Utf16.mark : ByteOrder → List UInt8
  | .little => [0xFF, 0xFE]
  | .big => [0xFE, 0xFF]

theorem Utf16.mark?_mark (order : ByteOrder) (bytes : List UInt8) :
    mark? (mark order ++ bytes) = some (order, bytes) := by
  cases order <;> rfl

theorem Utf16.eq_of_mark? {order : ByteOrder} (h : mark? bytes = some (order, rest)) :
    bytes = mark order ++ rest := by
  unfold mark? at h
  split at h <;> cases h <;> rfl

theorem Utf16.mark?_eq_none_iff :
    mark? bytes = none ↔ ∀ order, ¬ mark order <+: bytes := by
  constructor
  · rintro hnone order ⟨rest, rfl⟩
    rw [mark?_mark] at hnone
    cases hnone
  · intro h
    cases hmark : mark? bytes with
    | none => rfl
    | some found => exact absurd ⟨found.2, (eq_of_mark? hmark).symm⟩ (h found.1)

namespace Charset

variable {charset : Charset}

/-- The bytes of a file stand for a text.  A UTF-8 signature may be missing, and the beginning of one
with nothing behind it stands for the empty text.  UTF-16 without a byte order in its name needs a
mark unless there are no bytes. -/
def Spells : Charset → Text → List UInt8 → Prop
  | utf8, t, bytes => SpelledBy Utf8.write? t bytes
  | utf8Signed, t, bytes =>
      (∃ rest, bytes = signature ++ rest ∧ SpelledBy Utf8.write? t rest) ∨
        (¬ signature <+: bytes ∧ SpelledBy Utf8.write? t bytes) ∨
        (t = [] ∧ bytes <+: signature ∧ bytes ≠ signature)
  | ascii, t, bytes => SpelledBy (byteBelow? 0x80) t bytes
  | latin1, t, bytes => SpelledBy (byteBelow? 0x100) t bytes
  | windows1252, t, bytes => SpelledBy windows1252Byte? t bytes
  | utf16, t, bytes =>
      (t = [] ∧ bytes = []) ∨
        ∃ order rest, bytes = Utf16.mark order ++ rest ∧ SpelledBy (Utf16.write? order) t rest
  | utf16Order order, t, bytes => SpelledBy (Utf16.write? order) t bytes

/-- The beginning of a signature stands for nothing else. -/
theorem eq_nil_of_decode_cut (hbegin : bytes <+: signature) (hcut : bytes ≠ signature)
    (h : Utf8.decode bytes = .ok t) : t = [] := by
  simp only [signature, List.prefix_cons_iff, List.prefix_nil] at hbegin
  rcases hbegin with rfl | ⟨_, rfl, rfl | ⟨_, rfl, rfl | ⟨_, rfl, rfl⟩⟩⟩
  · exact (Except.ok.inj h).symm
  · cases h
  · cases h
  · exact absurd rfl hcut

theorem length_lt_three_iff (h : bytes <+: signature) : bytes.length < 3 ↔ bytes ≠ signature := by
  constructor
  · rintro hshort rfl
    exact absurd hshort (by decide)
  · intro hcut
    exact Nat.lt_of_le_of_ne h.length_le fun hlength => hcut (h.eq_of_length hlength)

theorem decodeStream_utf8Signed_eq_ok_iff :
    utf8Signed.decodeStream bytes = .ok t ↔ utf8Signed.Spells t bytes := by
  have hdecode : ∀ {bytes t}, Utf8.decode bytes = .ok t ↔ SpelledBy Utf8.write? t bytes :=
    Utf8.inverts_decoder.decode_eq_ok_iff 0
  simp only [Spells, decodeStream, decodeWhole, ← hdecode, Bool.and_eq_true, decide_eq_true_eq,
    List.isPrefixOf_iff_prefix]
  by_cases hsigned : signature <+: bytes
  · rcases hsigned with ⟨rest, rfl⟩
    have hlong : ¬ (signature ++ rest).length < 3 := by simp [signature]
    rw [if_neg fun h => hlong h.left, if_pos ⟨rest, rfl⟩, mapError_eq_ok_iff]
    show Utf8.decode rest = .ok t ↔ _
    constructor
    · exact fun h => Or.inl ⟨rest, rfl, h⟩
    · rintro (⟨other, hsame, h⟩ | ⟨hbare, _⟩ | ⟨_, hbegin, hcut⟩)
      · rw [List.append_cancel_left hsame]
        exact h
      · exact absurd ⟨rest, rfl⟩ hbare
      · exact absurd ((length_lt_three_iff hbegin).mpr hcut) hlong
  · by_cases hbegin : bytes <+: signature
    · have hcut : bytes ≠ signature := fun h => hsigned (h ▸ List.prefix_rfl)
      rw [if_pos ⟨(length_lt_three_iff hbegin).mpr hcut, hbegin⟩, Except.ok.injEq]
      constructor
      · exact fun h => Or.inr (Or.inr ⟨h.symm, hbegin, hcut⟩)
      · rintro (⟨rest, hrest, _⟩ | ⟨_, h⟩ | ⟨h, _⟩)
        · exact absurd ⟨rest, hrest.symm⟩ hsigned
        · exact (eq_nil_of_decode_cut hbegin hcut h).symm
        · exact h.symm
    · rw [if_neg fun h => hbegin h.right, if_neg hsigned, mapError_eq_ok_iff]
      constructor
      · exact fun h => Or.inr (Or.inl ⟨hsigned, h⟩)
      · rintro (⟨rest, hrest, _⟩ | ⟨_, h⟩ | ⟨_, h, _⟩)
        · exact absurd ⟨rest, hrest.symm⟩ hsigned
        · exact h
        · exact absurd h hbegin

theorem decodeStream_utf16_eq_ok_iff :
    utf16.decodeStream bytes = .ok t ↔ utf16.Spells t bytes := by
  cases hmark : Utf16.mark? bytes with
  | some found =>
      rcases found with ⟨order, rest⟩
      have hstream : utf16.decodeStream bytes =
          ((Utf16.decoder order).decode rest 2).mapError DecodeFault.undecodable := by
        simp only [decodeStream, decodeWhole, hmark]
        cases (Utf16.decoder order).decode rest 2 <;> rfl
      rw [hstream, mapError_eq_ok_iff, (Utf16.inverts_decoder order).decode_eq_ok_iff]
      constructor
      · exact fun h => Or.inr ⟨order, rest, Utf16.eq_of_mark? hmark, h⟩
      · rintro (⟨rfl, rfl⟩ | ⟨found, other, rfl, h⟩)
        · cases hmark
        · rw [Utf16.mark?_mark] at hmark
          cases hmark
          exact h
  | none =>
      have hunmarked : ∀ order rest, bytes ≠ Utf16.mark order ++ rest := by
        intro order rest h
        exact Utf16.mark?_eq_none_iff.mp hmark order ⟨rest, h.symm⟩
      have hspells : utf16.Spells t bytes ↔ t = [] ∧ bytes = [] := by
        simp [Spells, hunmarked]
      rw [hspells]
      rcases bytes with _ | ⟨first, _ | ⟨second, rest⟩⟩
      · exact ⟨fun h => ⟨(Except.ok.inj h).symm, rfl⟩, fun h => congrArg Except.ok h.left.symm⟩
      · have hcut : (Utf16.decoder .little).decode [first] 0 =
            .error ⟨"utf-16-le", 0, 1, first, .truncated⟩ := rfl
        simp [decodeStream, decodeWhole, hmark, hcut, bind, Except.bind, Except.mapError]
      · simp only [decodeStream, decodeWhole, hmark]
        cases (Utf16.decoder .little).decode (first :: second :: rest) 0 <;>
          simp [bind, Except.bind, Except.mapError]

/-- What is read from a file is what its bytes stand for. -/
theorem decodeStream_eq_ok_iff : charset.decodeStream bytes = .ok t ↔ charset.Spells t bytes := by
  cases charset with
  | utf8Signed => exact decodeStream_utf8Signed_eq_ok_iff
  | utf16 => exact decodeStream_utf16_eq_ok_iff
  | utf8 => exact mapError_eq_ok_iff.trans (Utf8.inverts_decoder.decode_eq_ok_iff 0)
  | ascii => exact mapError_eq_ok_iff.trans (Decoder.inverts_ascii.decode_eq_ok_iff 0)
  | latin1 => exact mapError_eq_ok_iff.trans (Decoder.inverts_latin1.decode_eq_ok_iff 0)
  | windows1252 => exact mapError_eq_ok_iff.trans (Decoder.inverts_windows1252.decode_eq_ok_iff 0)
  | utf16Order order =>
      exact mapError_eq_ok_iff.trans ((Utf16.inverts_decoder order).decode_eq_ok_iff 0)

def IsText (charset : Charset) (bytes : List UInt8) : Prop := ∃ t, charset.Spells t bytes

theorem isOk_decodeStream_iff : (charset.decodeStream bytes).isOk = true ↔ charset.IsText bytes := by
  simp only [IsText, ← decodeStream_eq_ok_iff]
  cases charset.decodeStream bytes <;> simp [Except.isOk, Except.toBool]

instance (charset : Charset) (bytes : List UInt8) : Decidable (charset.IsText bytes) :=
  decidable_of_iff _ isOk_decodeStream_iff

end Charset

end ImportAtlas
