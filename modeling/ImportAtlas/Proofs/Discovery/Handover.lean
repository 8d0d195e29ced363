import ImportAtlas.Discovery.Tracked
import ImportAtlas.Proofs.Encoding.Ascii
import ImportAtlas.Proofs.Path.Canonical
import ImportAtlas.Proofs.Text.Lines

/-!
# What is handed over of a listing

The bytes that git prints are handed over with a line feed for every line ending.  Decoded they are
the printed text with its line endings unified, so the paths are told apart as before, and each is
handed over as the path that it becomes.
-/

namespace ImportAtlas

namespace GitAnswer

variable {front rest bytes output : List UInt8} {path : Text}

theorem unifyNewlines_append (hfront : 13 ∉ front) (rest : List UInt8) :
    unifyNewlines (front ++ rest) = front ++ unifyNewlines rest := by
  induction front with
  | nil => rfl
  | cons byte front ih =>
      rw [List.mem_cons, not_or] at hfront
      have hbyte : unifyNewlines (byte :: (front ++ rest)) =
          byte :: unifyNewlines (front ++ rest) := by
        simp [unifyNewlines, Ne.symm hfront.left]
      rw [List.cons_append, hbyte, ih hfront.right]
      rfl

theorem unifyNewlines_return (h : ∀ more, rest ≠ 10 :: more) :
    unifyNewlines (13 :: rest) = 10 :: unifyNewlines rest := by
  cases rest with
  | nil => rfl
  | cons byte rest =>
      have hbyte : byte ≠ 10 := by
        rintro rfl
        exact h rest rfl
      rw [unifyNewlines]
      simpa using hbyte

theorem decodeName_append_return (front rest : List UInt8) : Utf8.decodeName (front ++ 13 :: rest) =
    Utf8.decodeName front ++ CodePoint.ofChar '\r' :: Utf8.decodeName rest :=
  Utf8.decodeName_append (by decide) front rest

theorem decodeName_append_lineFeed (front rest : List UInt8) :
    Utf8.decodeName (front ++ 10 :: rest) =
      Utf8.decodeName front ++ CodePoint.ofChar '\n' :: Utf8.decodeName rest :=
  Utf8.decodeName_append (by decide) front rest

/-- Unifying the line endings of bytes unifies those of the text that they stand for. -/
theorem decodeName_unifyNewlines (bytes : List UInt8) :
    Utf8.decodeName (unifyNewlines bytes) = Text.unifyNewlines (Utf8.decodeName bytes) := by
  induction hlength : bytes.length using Nat.strongRecOn generalizing bytes with
  | ind n ih =>
      by_cases hreturn : 13 ∈ bytes
      · rcases List.eq_append_cons_of_mem hreturn with ⟨front, rest, rfl, hfront⟩
        have hdecoded := Utf8.return_not_mem_decodeName hfront
        rw [List.length_append, List.length_cons] at hlength
        rw [unifyNewlines_append hfront, decodeName_append_return]
        by_cases hfeed : ∃ more, rest = 10 :: more
        · rcases hfeed with ⟨more, rfl⟩
          rw [List.length_cons] at hlength
          have hfirst : Utf8.decodeName (10 :: more) =
              CodePoint.ofChar '\n' :: Utf8.decodeName more :=
            decodeName_append_lineFeed [] more
          have hboth : unifyNewlines (13 :: 10 :: more) = 10 :: unifyNewlines more := rfl
          rw [hboth, decodeName_append_lineFeed, ih more.length (by omega) more rfl, hfirst,
            Text.unifyNewlines_append_both hdecoded]
        · have hnone : ∀ more, Utf8.decodeName rest ≠ CodePoint.ofChar '\n' :: more :=
            fun more hmore => hfeed (Utf8.exists_of_decodeName_eq_cons (by decide) hmore)
          rw [unifyNewlines_return (fun more hmore => hfeed ⟨more, hmore⟩),
            decodeName_append_lineFeed, ih rest.length (by omega) rest rfl,
            Text.unifyNewlines_append_return hdecoded, Text.unifyNewlinesFrom_true hnone]
          rfl
      · have hsame : unifyNewlines bytes = bytes := by
          simpa [unifyNewlines] using unifyNewlines_append hreturn []
        rw [hsame, Text.unifyNewlines_of_not_mem (Utf8.return_not_mem_decodeName hreturn)]

theorem listedPaths_unifyNewlines (output : List UInt8) :
    listedPaths (unifyNewlines output) = (listedPaths output).map Text.unifyNewlines := by
  unfold listedPaths
  rw [decodeName_unifyNewlines, Text.splitOn_unifyNewlines (by decide) (by decide),
    List.filter_map]
  congr 1
  apply List.filter_congr
  intro piece _
  have hempty : Text.unifyNewlines piece = [] ↔ piece = [] := by
    constructor
    · intro h
      exact Text.eq_of_unifyNewlines_eq h List.not_mem_nil
    · rintro rfl
      rfl
  simp [hempty]

end GitAnswer

namespace Path

variable {name path : Text}

theorem IsPlain.unifyNewlines (h : IsPlain name) : IsPlain (Text.unifyNewlines name) where
  nonempty hempty := h.nonempty (Text.eq_of_unifyNewlines_eq hempty List.not_mem_nil)
  ne_here hhere := h.ne_here (Text.eq_of_unifyNewlines_eq hhere (by decide))
  ne_up hup := h.ne_up (Text.eq_of_unifyNewlines_eq hup (by decide))
  unslashed hslash := by
    rcases Text.mem_of_mem_unifyNewlinesFrom (by decide) hslash with hslash | hslash
    · cases hslash
    · exact h.unslashed hslash

theorem IsLocal.unifyNewlines (h : IsLocal path) : IsLocal (Text.unifyNewlines path) := by
  rcases h with ⟨hne, names, hplain, rfl⟩
  refine ⟨fun hempty => hne (Text.eq_of_unifyNewlines_eq hempty List.not_mem_nil),
    names.map Text.unifyNewlines, ?_, ?_⟩
  · intro name hname
    rcases List.mem_map.mp hname with ⟨other, hother, rfl⟩
    exact (hplain other hother).unifyNewlines
  · exact Text.unifyNewlines_join (c := CodePoint.ofChar '/') (by decide) (by decide) names

end Path

end ImportAtlas
