import ImportAtlas.Encoding.Utf8
import ImportAtlas.Proofs.Text.Split

/-!
# Names between separators

An ASCII byte is never part of a longer code point.  So wherever one stands among the bytes of a
name it separates: what comes before it and what comes after it are decoded as if they stood alone,
however broken they may be.  The parts of a path are told apart in this way.
-/

namespace ImportAtlas

namespace Utf8

variable {taken bits owed length : Nat} {low high byte separator : UInt8} {rest : List UInt8}
  {c : CodePoint}

/-!
## Reading one code point
-/

theorem length_of_readTail (h : readTail taken bits low high owed rest = .point c length) :
    length = taken + owed ∧ owed ≤ rest.length := by
  induction owed generalizing taken bits low high rest with
  | zero =>
      simp only [readTail, Reading.point.injEq] at h
      exact ⟨h.right.symm, Nat.zero_le _⟩
  | succ owed ih =>
      cases rest with
      | nil => cases h
      | cons byte rest =>
          simp only [readTail] at h
          split at h
          case isTrue hrange =>
            rcases ih h with ⟨hlength, howed⟩
            simp only [List.length_cons]
            omega
          case isFalse => cases h

/-- What follows an ASCII byte does not help to complete a code point before it. -/
theorem readTail_append (hlow : 0x80 ≤ low) (hseparator : separator < 0x80) (more : List UInt8) :
    readTail taken bits low high owed (rest ++ separator :: more) = .point c length ↔
      readTail taken bits low high owed rest = .point c length := by
  induction owed generalizing taken bits low high rest with
  | zero => simp [readTail]
  | succ owed ih =>
      cases rest with
      | nil =>
          have hout : ¬ low ≤ separator := by
            rw [UInt8.not_le]
            exact UInt8.lt_of_lt_of_le hseparator hlow
          simp [readTail, hout]
      | cons byte rest =>
          simp only [List.cons_append, readTail]
          split
          case isTrue => exact ih (by decide)
          case isFalse => simp

theorem le_low_of_lead? {owed bits : Nat} (h : lead? byte = some (owed, low, high, bits)) :
    0x80 ≤ low := by
  unfold lead? at h
  repeat' split at h
  all_goals cases h
  all_goals decide

theorem read_append (hseparator : separator < 0x80) (more : List UInt8) :
    decoder.read byte (rest ++ separator :: more) = .point c length ↔
      decoder.read byte rest = .point c length := by
  simp only [decoder]
  cases hlead : lead? byte with
  | none => simp
  | some found =>
      rcases found with ⟨owed, low, high, bits⟩
      exact readTail_append (le_low_of_lead? hlead) hseparator more

theorem length_of_read (h : decoder.read byte rest = .point c length) :
    length - 1 ≤ rest.length := by
  simp only [decoder] at h
  cases hlead : lead? byte with
  | none =>
      rw [hlead] at h
      cases h
  | some found =>
      rcases found with ⟨owed, low, high, bits⟩
      rw [hlead] at h
      have := length_of_readTail h
      omega

theorem read_ascii (h : byte < 0x80) (rest : List UInt8) :
    decoder.read byte rest = .point (CodePoint.ofNat byte.toNat) 1 := by
  simp [decoder, lead?, h, readTail]

/-!
## Reading a name
-/

theorem decodeNameFrom_eq (decoded : Text) (skip : Nat) (bytes : List UInt8) :
    decodeNameFrom decoded skip bytes = decoded.reverse ++ decodeNameFrom [] skip bytes := by
  induction bytes generalizing decoded skip with
  | nil => cases skip <;> simp [decodeNameFrom]
  | cons byte rest ih =>
      cases skip with
      | succ skip => exact ih decoded skip
      | zero =>
          simp only [decodeNameFrom]
          cases decoder.read byte rest with
          | point c length =>
              dsimp only
              rw [ih (c :: decoded), ih [c]]
              simp
          | fault cause length =>
              dsimp only
              rw [ih (ofStrayByte byte :: decoded), ih [ofStrayByte byte]]
              simp

theorem decodeNameFrom_point (h : decoder.read byte rest = .point c length) :
    decodeNameFrom [] 0 (byte :: rest) = c :: decodeNameFrom [] (length - 1) rest := by
  simp only [decodeNameFrom, h]
  rw [decodeNameFrom_eq]
  rfl

theorem decodeNameFrom_stray (h : ∀ c length, decoder.read byte rest ≠ .point c length) :
    decodeNameFrom [] 0 (byte :: rest) = ofStrayByte byte :: decodeNameFrom [] 0 rest := by
  simp only [decodeNameFrom]
  cases hread : decoder.read byte rest with
  | point c length => exact absurd hread (h c length)
  | fault cause length =>
      dsimp only
      rw [decodeNameFrom_eq]
      rfl

theorem decodeNameFrom_append (hseparator : separator < 0x80) {skip : Nat} {bytes : List UInt8}
    (hskip : skip ≤ bytes.length) (more : List UInt8) :
    decodeNameFrom [] skip (bytes ++ separator :: more) =
      decodeNameFrom [] skip bytes ++ CodePoint.ofNat separator.toNat :: decodeName more := by
  induction bytes generalizing skip with
  | nil =>
      have hzero : skip = 0 := by simpa using hskip
      rw [hzero, List.nil_append, decodeNameFrom_point (read_ascii hseparator more)]
      rfl
  | cons byte rest ih =>
      cases skip with
      | succ skip => exact ih (by simpa using hskip)
      | zero =>
          by_cases hpoint : ∃ c length, decoder.read byte rest = .point c length
          · rcases hpoint with ⟨c, length, hread⟩
            have hmore := (read_append hseparator more).mpr hread
            rw [List.cons_append, decodeNameFrom_point hmore, decodeNameFrom_point hread,
              ih (length_of_read hread), List.cons_append]
          · have hstray : ∀ c length, decoder.read byte rest ≠ .point c length := by
              intro c length hread
              exact hpoint ⟨c, length, hread⟩
            have hmore : ∀ c length,
                decoder.read byte (rest ++ separator :: more) ≠ .point c length := by
              intro c length hread
              exact hstray c length ((read_append hseparator more).mp hread)
            rw [List.cons_append, decodeNameFrom_stray hmore, decodeNameFrom_stray hstray,
              ih (Nat.zero_le _), List.cons_append]

/-- Bytes are decoded on either side of an ASCII byte on their own. -/
theorem decodeName_append (hseparator : separator < 0x80) (bytes more : List UInt8) :
    decodeName (bytes ++ separator :: more) =
      decodeName bytes ++ CodePoint.ofNat separator.toNat :: decodeName more :=
  decodeNameFrom_append hseparator (Nat.zero_le _) more

/-!
## Parts of a path
-/

theorem canonicalName_append_slash (s t : Text) :
    canonicalName (s ++ CodePoint.ofChar '/' :: t) =
      canonicalName s ++ CodePoint.ofChar '/' :: canonicalName t := by
  have hbytes : encodeName (s ++ CodePoint.ofChar '/' :: t) =
      encodeName s ++ 0x2F :: encodeName t := by
    unfold encodeName
    rw [List.flatMap_append, List.flatMap_cons]
    rfl
  unfold canonicalName
  rw [hbytes, decodeName_append (by decide)]
  rfl

theorem splitOn_canonicalName (path : Text) :
    Text.splitOn '/' (canonicalName path) =
      (Text.splitOn '/' path).flatMap fun part => Text.splitOn '/' (canonicalName part) := by
  have hparts : ∀ parts : List Text, parts ≠ [] →
      Text.splitOn '/' (canonicalName (Text.join [CodePoint.ofChar '/'] parts)) =
        parts.flatMap fun part => Text.splitOn '/' (canonicalName part) := by
    intro parts hne
    induction parts with
    | nil => exact absurd rfl hne
    | cons part parts ih =>
        cases parts with
        | nil => simp [Text.join]
        | cons next parts =>
            rw [Text.join_cons _ _ (by simp), List.append_assoc, List.singleton_append,
              canonicalName_append_slash, Text.splitOn_append_sep, ih (by simp)]
            rfl
  have hpath := hparts (Text.splitOn '/' path) (Text.splitOn_ne_nil _ _)
  rw [Text.join_splitOn] at hpath
  exact hpath

end Utf8

end ImportAtlas
