import ImportAtlas.Proofs.Encoding.Spelled

/-!
# ASCII among the bytes of a name

A code point of a name that is in ASCII stands for a byte of its own.  So what is not among the
bytes of a name, such as a zero or the end of a line, does not turn up in the name either.
-/

namespace ImportAtlas

namespace Utf8

variable {byte : UInt8} {rest bytes : List UInt8} {c : CodePoint} {t : Text} {length : Nat}

theorem eq_of_read (h : decoder.read byte rest = .point c length) (hc : c.val < 0x80) :
    byte = UInt8.ofNat c.val := by
  rcases exists_of_read h with ⟨tail, more, _, _, hbytes⟩
  rw [encodePoint, if_pos hc] at hbytes
  exact (List.cons.inj hbytes).left.symm

theorem val_ofStrayByte (byte : UInt8) : (ofStrayByte byte).val = 0xDC00 + byte.toNat := by
  have := byte.toNat_lt
  exact CodePoint.val_ofNat (by omega)

/-- A name begins as its first byte says: with the code point that is read there, or a stray byte.
-/
theorem decodeNameFrom_cons_cases (byte : UInt8) (rest : List UInt8) :
    (∃ c length, decoder.read byte rest = .point c length ∧
        decodeNameFrom [] 0 (byte :: rest) = c :: decodeNameFrom [] (length - 1) rest) ∨
      decodeNameFrom [] 0 (byte :: rest) = ofStrayByte byte :: decodeNameFrom [] 0 rest := by
  by_cases hpoint : ∃ c length, decoder.read byte rest = .point c length
  · rcases hpoint with ⟨c, length, hread⟩
    exact Or.inl ⟨c, length, hread, decodeNameFrom_point hread⟩
  · exact Or.inr (decodeNameFrom_stray fun c length hread => hpoint ⟨c, length, hread⟩)

theorem decodeName_ne_nil (h : bytes ≠ []) : decodeName bytes ≠ [] := by
  cases bytes with
  | nil => exact absurd rfl h
  | cons byte rest =>
      unfold decodeName
      rcases decodeNameFrom_cons_cases byte rest with ⟨c, length, _, hname⟩ | hname
      · rw [hname]
        exact List.cons_ne_nil _ _
      · rw [hname]
        exact List.cons_ne_nil _ _

theorem exists_of_decodeName_eq_cons (hc : c.val < 0x80) (h : decodeName bytes = c :: t) :
    ∃ more, bytes = UInt8.ofNat c.val :: more := by
  cases bytes with
  | nil => cases h
  | cons byte rest =>
      unfold decodeName at h
      rcases decodeNameFrom_cons_cases byte rest with ⟨first, length, hread, hname⟩ | hname
      · rw [hname] at h
        cases h
        exact ⟨rest, by rw [eq_of_read hread hc]⟩
      · rw [hname] at h
        have hfirst := congrArg CodePoint.val (List.cons.inj h).left
        rw [val_ofStrayByte] at hfirst
        omega

theorem mem_of_mem_decodeNameFrom {skip : Nat} (hc : c.val < 0x80)
    (h : c ∈ decodeNameFrom [] skip bytes) : UInt8.ofNat c.val ∈ bytes := by
  induction bytes generalizing skip with
  | nil => cases skip <;> cases h
  | cons byte rest ih =>
      cases skip with
      | succ skip => exact List.mem_cons_of_mem _ (ih h)
      | zero =>
          rcases decodeNameFrom_cons_cases byte rest with ⟨first, length, hread, hname⟩ | hname
          · rw [hname] at h
            rcases List.mem_cons.mp h with rfl | h
            · rw [eq_of_read hread hc]
              exact List.mem_cons_self
            · exact List.mem_cons_of_mem _ (ih h)
          · rw [hname] at h
            rcases List.mem_cons.mp h with rfl | h
            · rw [val_ofStrayByte] at hc
              omega
            · exact List.mem_cons_of_mem _ (ih h)

theorem zero_not_mem_decodeName (h : 0 ∉ bytes) : CodePoint.ofNat 0 ∉ decodeName bytes :=
  fun hzero => h (mem_of_mem_decodeNameFrom (by decide) hzero)

theorem return_not_mem_decodeName (h : 13 ∉ bytes) : CodePoint.ofChar '\r' ∉ decodeName bytes :=
  fun hreturn => h (mem_of_mem_decodeNameFrom (by decide) hreturn)

end Utf8

end ImportAtlas
