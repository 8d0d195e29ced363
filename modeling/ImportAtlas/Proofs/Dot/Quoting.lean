import ImportAtlas.Proofs.Dot.Scanner

/-!
# Quoting and the rule of pairs

Only double quotes get a backslash when a text is quoted, and the backslashes of the text itself are
written as they are.  A reader takes backslashes in pairs, so the text comes back exactly when no
backslash is left over where a pair would swallow a quote: before a double quote, whose own
backslash has to begin a pair, and at the end, where the closing quote stands.

Undoing the replacement, without looking for pairs, gives back every text.
-/

namespace ImportAtlas

namespace Dot

/-- Every longest run of backslashes that ends the text or stands directly before a double quote has
an even length. -/
def HasEvenRuns (t : Text) : Prop :=
  ∀ before run behind, t = before ++ (List.replicate run (CodePoint.ofChar '\\') ++ behind) →
    before.getLast? ≠ some (CodePoint.ofChar '\\') →
    (behind = [] ∨ behind.head? = some (CodePoint.ofChar '"')) → run % 2 = 0

/-- The same rule followed along a text that stands behind a run of backslashes. -/
def hasEvenRunsBehind : (run : Nat) → Text → Bool
  | run, [] => run % 2 = 0
  | run, c :: t =>
      if c = '\\' then hasEvenRunsBehind (run + 1) t
      else (c ≠ '"' || run % 2 = 0) && hasEvenRunsBehind 0 t

variable {c d : CodePoint} {t s : Text} {run other : Nat}

theorem hasEvenRunsBehind_backslash (run : Nat) (t : Text) :
    hasEvenRunsBehind run (CodePoint.ofChar '\\' :: t) = hasEvenRunsBehind (run + 1) t := by
  simp [hasEvenRunsBehind]

theorem hasEvenRunsBehind_plain (hquote : c ≠ CodePoint.ofChar '"')
    (hbackslash : c ≠ CodePoint.ofChar '\\') (run : Nat) (t : Text) :
    hasEvenRunsBehind run (c :: t) = hasEvenRunsBehind 0 t := by
  simp [hasEvenRunsBehind, hquote, hbackslash]

/-!
## The rule along a text
-/

theorem replicate_append_inj (hs : s.head? ≠ some c) (ht : t.head? ≠ some c)
    (h : List.replicate run c ++ s = List.replicate other c ++ t) : run = other ∧ s = t := by
  induction run generalizing other with
  | zero =>
      cases other with
      | zero => exact ⟨rfl, h⟩
      | succ other =>
          rw [List.replicate_zero, List.nil_append] at h
          rw [h] at hs
          exact absurd rfl hs
  | succ run ih =>
      cases other with
      | zero =>
          rw [List.replicate_zero, List.nil_append] at h
          rw [← h] at ht
          exact absurd rfl ht
      | succ other =>
          rcases ih (List.cons.inj h).right with ⟨rfl, hrest⟩
          exact ⟨rfl, hrest⟩

theorem HasEvenRuns.later (h : HasEvenRuns t)
    {before behind : Text} {first : Nat}
    (heq : List.replicate first (CodePoint.ofChar '\\') ++ c :: t =
      before ++ (List.replicate run (CodePoint.ofChar '\\') ++ behind))
    (hne : before ≠ []) (hlast : before.getLast? ≠ some (CodePoint.ofChar '\\'))
    (hbehind : behind = [] ∨ behind.head? = some (CodePoint.ofChar '"')) : run % 2 = 0 := by
  induction first generalizing before with
  | zero =>
      cases before with
      | nil => exact absurd rfl hne
      | cons d before =>
          apply h before run behind (List.cons.inj heq).right
          · intro hsame
            rw [List.getLast?_cons, hsame] at hlast
            exact hlast rfl
          · exact hbehind
  | succ first ih =>
      cases before with
      | nil => exact absurd rfl hne
      | cons d before =>
          rcases List.cons.inj heq with ⟨hd, hrest⟩
          cases before with
          | nil => exact absurd (congrArg some hd.symm) hlast
          | cons e before => exact ih hrest (by simp) (by simpa using hlast)

theorem hasEvenRuns_replicate_cons (hc : c ≠ CodePoint.ofChar '\\') :
    HasEvenRuns (List.replicate run (CodePoint.ofChar '\\') ++ c :: t) ↔
      (c ≠ CodePoint.ofChar '"' ∨ run % 2 = 0) ∧ HasEvenRuns t := by
  constructor
  · intro h
    constructor
    · by_cases hquote : c = CodePoint.ofChar '"'
      · exact Or.inr (h [] run (c :: t) rfl (by simp) (Or.inr (by rw [hquote]; rfl)))
      · exact Or.inl hquote
    · intro before other behind heq hlast hbehind
      apply h (List.replicate run (CodePoint.ofChar '\\') ++ c :: before) other behind
      · rw [heq]
        simp
      · cases before with
        | nil => simpa using hc
        | cons d before => simpa using hlast
      · exact hbehind
  · rintro ⟨hfirst, hrest⟩ before other behind heq hlast hbehind
    cases before with
    | nil =>
        have hstop : behind.head? ≠ some (CodePoint.ofChar '\\') := by
          rcases hbehind with rfl | hbehind
          · simp
          · rw [hbehind]
            decide
        rcases replicate_append_inj (by simpa using hc) hstop heq with ⟨rfl, rfl⟩
        rcases hbehind with hbehind | hbehind
        · cases hbehind
        · rcases hfirst with hquote | heven
          · exact absurd (Option.some.inj hbehind) hquote
          · exact heven
    | cons d before => exact hrest.later heq (by simp) hlast hbehind

theorem hasEvenRuns_replicate :
    HasEvenRuns (List.replicate run (CodePoint.ofChar '\\')) ↔ run % 2 = 0 := by
  constructor
  · intro h
    exact h [] run [] (by simp) (by simp) (Or.inl rfl)
  · intro heven before other behind heq hlast hbehind
    cases before with
    | nil =>
        have hstop : behind.head? ≠ some (CodePoint.ofChar '\\') := by
          rcases hbehind with rfl | hbehind
          · simp
          · rw [hbehind]
            decide
        have hsplit : List.replicate run (CodePoint.ofChar '\\') ++ [] =
            List.replicate other (CodePoint.ofChar '\\') ++ behind := by
          rw [List.append_nil]
          exact heq
        rcases replicate_append_inj (by simp) hstop hsplit with ⟨rfl, _⟩
        exact heven
    | cons d before =>
        exfalso
        have hmem :
            (d :: before).getLast (by simp) ∈ List.replicate run (CodePoint.ofChar '\\') := by
          rw [heq]
          exact List.mem_append_left _ (List.getLast_mem _)
        apply hlast
        rw [List.getLast?_eq_some_getLast (by simp), (List.mem_replicate.mp hmem).right]

theorem hasEvenRunsBehind_iff :
    hasEvenRunsBehind run t = true ↔
      HasEvenRuns (List.replicate run (CodePoint.ofChar '\\') ++ t) := by
  induction t generalizing run with
  | nil => simp [hasEvenRunsBehind, hasEvenRuns_replicate]
  | cons c t ih =>
      by_cases hc : c = CodePoint.ofChar '\\'
      · have hmore : List.replicate run (CodePoint.ofChar '\\') ++ c :: t =
            List.replicate (run + 1) (CodePoint.ofChar '\\') ++ t := by
          rw [hc, List.replicate_succ', List.append_assoc, List.singleton_append]
        rw [hmore, ← ih, hc, hasEvenRunsBehind_backslash]
      · have hrest : hasEvenRunsBehind 0 t = true ↔ HasEvenRuns t := ih
        rw [hasEvenRuns_replicate_cons hc, ← hrest]
        simp [hasEvenRunsBehind, hc]

theorem hasEvenRuns_iff : HasEvenRuns t ↔ hasEvenRunsBehind 0 t = true := by
  rw [hasEvenRunsBehind_iff]
  rfl

instance (t : Text) : Decidable (HasEvenRuns t) :=
  decidable_of_iff _ hasEvenRuns_iff.symm

/-!
## Strings
-/

def readAlso (front : Text) (read : Text × Text) : Text × Text := (front ++ read.1, read.2)

/-- The value of a string from behind its opening quote, and what follows its closing one.  A
backslash takes a double quote or a backslash behind it along, and with a quote it stands for the
quote. -/
def readString? : Text → Option (Text × Text)
  | [] => none
  | c :: t =>
      if c = '"' then some ([], t)
      else if c = '\\' then
        match t with
        | [] => none
        | d :: rest =>
            if d = '"' then (readString? rest).map (readAlso [d])
            else if d = '\\' then (readString? rest).map (readAlso [c, d])
            else (readString? (d :: rest)).map (readAlso [c])
      else (readString? t).map (readAlso [c])

/-- Every backslash directly before a double quote is left out. -/
def unescape : Text → Text
  | [] => []
  | c :: t =>
      match t with
      | [] => [c]
      | d :: rest => if c = '\\' ∧ d = '"' then d :: unescape rest else c :: unescape (d :: rest)

theorem map_readAlso_eq_some {read : Option (Text × Text)} {front value rest : Text} :
    read.map (readAlso front) = some (value, rest) ↔
      ∃ later, read = some (later, rest) ∧ value = front ++ later := by
  rcases read with _ | ⟨later, behind⟩
  · simp
  · simp only [Option.map_some, readAlso, Option.some.injEq, Prod.mk.injEq]
    constructor
    · rintro ⟨rfl, rfl⟩
      exact ⟨later, ⟨rfl, rfl⟩, rfl⟩
    · rintro ⟨_, ⟨rfl, rfl⟩, rfl⟩
      exact ⟨rfl, rfl⟩

/-- When all that can be read is one value, that value is read with what stands before it. -/
theorem map_readAlso_iff {read : Option (Text × Text)} {p : Prop} {front t value rest : Text}
    (h : ∀ later, read = some (later, rest) ↔ p ∧ later = t) :
    read.map (readAlso front) = some (value, rest) ↔ p ∧ value = front ++ t := by
  rw [map_readAlso_eq_some]
  constructor
  · rintro ⟨later, hlater, rfl⟩
    rcases (h later).mp hlater with ⟨hp, rfl⟩
    exact ⟨hp, rfl⟩
  · rintro ⟨hp, rfl⟩
    exact ⟨t, (h t).mpr ⟨hp, rfl⟩, rfl⟩

section

attribute [local simp] readString?

theorem readString?_quote (t : Text) : readString? (CodePoint.ofChar '"' :: t) = some ([], t) := by
  cases t <;> simp

theorem readString?_plain (hquote : c ≠ CodePoint.ofChar '"')
    (hbackslash : c ≠ CodePoint.ofChar '\\') (t : Text) :
    readString? (c :: t) = (readString? t).map (readAlso [c]) := by
  cases t <;> simp [hquote, hbackslash]

theorem readString?_backslash_quote (t : Text) :
    readString? (CodePoint.ofChar '\\' :: CodePoint.ofChar '"' :: t) =
      (readString? t).map (readAlso [CodePoint.ofChar '"']) := by
  simp

theorem readString?_backslash_backslash (t : Text) :
    readString? (CodePoint.ofChar '\\' :: CodePoint.ofChar '\\' :: t) =
      (readString? t).map (readAlso [CodePoint.ofChar '\\', CodePoint.ofChar '\\']) := by
  simp

theorem readString?_backslash_plain (hquote : d ≠ CodePoint.ofChar '"')
    (hbackslash : d ≠ CodePoint.ofChar '\\') (t : Text) :
    readString? (CodePoint.ofChar '\\' :: d :: t) =
      (readString? (d :: t)).map (readAlso [CodePoint.ofChar '\\']) := by
  simp [hquote, hbackslash]

end

theorem length_lt_of_readString? {value rest : Text} (h : readString? t = some (value, rest)) :
    rest.length < t.length := by
  fun_induction readString? t generalizing value with
  | case1 => cases h
  | case2 t =>
      cases h
      exact Nat.lt_succ_self _
  | case3 => cases h
  | case4 behind _ ih | case5 behind _ _ ih | case6 d behind _ _ _ ih | case7 c behind _ _ ih =>
      rcases map_readAlso_eq_some.mp h with ⟨later, hlater, _⟩
      have := ih hlater
      simp only [List.length_cons] at this ⊢
      omega

/-!
### Strings as tokens
-/

theorem scanStep?_backslash (value : Text) :
    scanStep? (.inString value) (CodePoint.ofChar '\\') = some ([], .behindBackslash value) := by
  simp [scanStep?]

theorem scanStep?_plain (hquote : c ≠ CodePoint.ofChar '"') (hbackslash : c ≠ CodePoint.ofChar '\\')
    (value : Text) : scanStep? (.inString value) c = some ([], .inString (value ++ [c])) := by
  simp [scanStep?, hquote, hbackslash]

theorem scanStep?_quote_behind (value : Text) :
    scanStep? (.behindBackslash value) (CodePoint.ofChar '"') =
      some ([], .inString (value ++ [CodePoint.ofChar '"'])) := by
  simp [scanStep?]

theorem scanStep?_behind (hquote : c ≠ CodePoint.ofChar '"') (value : Text) :
    scanStep? (.behindBackslash value) c =
      some ([], .inString (value ++ [CodePoint.ofChar '\\', c])) := by
  simp [scanStep?, hquote]

theorem scan?_behindBackslash (hquote : c ≠ CodePoint.ofChar '"')
    (hbackslash : c ≠ CodePoint.ofChar '\\') (read : Text) :
    scan? (.behindBackslash read) (c :: t) =
      scan? (.inString (read ++ [CodePoint.ofChar '\\'])) (c :: t) := by
  simp [scan?, scanStep?_behind hquote, scanStep?_plain hquote hbackslash]

theorem scan?_inString {value rest : Text} {more : List Token} {last : Scan} (read : Text)
    (h : readString? t = some (value, rest)) (hrest : scan? .between rest = some (more, last)) :
    scan? (.inString read) t = some (.quoted (read ++ value) :: more, last) := by
  fun_induction readString? t generalizing read value with
  | case1 => cases h
  | case2 t =>
      cases h
      have hclose : scanStep? (.inString read) (CodePoint.ofChar '"') =
          some ([.quoted read], .between) := by simp [scanStep?]
      simpa using scan?_cons_eq_some hclose hrest
  | case3 => cases h
  | case4 behind _ ih =>
      rcases map_readAlso_eq_some.mp h with ⟨later, hlater, rfl⟩
      simpa using scan?_cons_eq_some (scanStep?_backslash read)
        (scan?_cons_eq_some (scanStep?_quote_behind read) (ih _ hlater))
  | case5 behind _ _ ih =>
      rcases map_readAlso_eq_some.mp h with ⟨later, hlater, rfl⟩
      simpa using scan?_cons_eq_some (scanStep?_backslash read)
        (scan?_cons_eq_some (scanStep?_behind (by decide) read) (ih _ hlater))
  | case6 d behind hquote hbackslash _ ih =>
      rcases map_readAlso_eq_some.mp h with ⟨later, hlater, rfl⟩
      have hbehind := ih (read ++ [CodePoint.ofChar '\\']) hlater
      rw [← scan?_behindBackslash hquote hbackslash] at hbehind
      simpa using scan?_cons_eq_some (scanStep?_backslash read) hbehind
  | case7 c behind hquote hbackslash ih =>
      rcases map_readAlso_eq_some.mp h with ⟨later, hlater, rfl⟩
      simpa using scan?_cons_eq_some (scanStep?_plain hquote hbackslash read) (ih _ hlater)

/-!
## Quoted texts
-/

theorem escape_quote_cons (t : Text) : escape (CodePoint.ofChar '"' :: t) =
    CodePoint.ofChar '\\' :: CodePoint.ofChar '"' :: escape t := by
  simp [escape, Text.replace, Text.ofString]

theorem escape_cons (hquote : c ≠ CodePoint.ofChar '"') (t : Text) :
    escape (c :: t) = c :: escape t := by
  simp [escape, Text.replace, hquote]

theorem unescape_cons_escape (c : CodePoint) (t : Text) :
    unescape (c :: escape t) = c :: unescape (escape t) := by
  cases t with
  | nil => rfl
  | cons d t =>
      by_cases hd : d = CodePoint.ofChar '"'
      · subst hd
        rw [escape_quote_cons, unescape]
        simp
      · rw [escape_cons hd, unescape]
        simp [hd]

theorem unescape_escape (t : Text) : unescape (escape t) = t := by
  induction t with
  | nil => rfl
  | cons c t ih =>
      by_cases hc : c = CodePoint.ofChar '"'
      · subst hc
        rw [escape_quote_cons, unescape, if_pos ⟨rfl, rfl⟩, ih]
      · rw [escape_cons hc, unescape_cons_escape, ih]

theorem readString?_pair_ne (value behind : Text) :
    readString? (CodePoint.ofChar '\\' :: CodePoint.ofChar '"' :: behind) ≠
      some (value, behind) := by
  rw [readString?_backslash_quote, ne_eq, map_readAlso_eq_some]
  rintro ⟨later, hlater, _⟩
  exact absurd (length_lt_of_readString? hlater) (Nat.lt_irrefl _)

theorem readString?_behind_pair_ne (value t behind : Text) :
    readString? (CodePoint.ofChar '\\' :: CodePoint.ofChar '\\' :: CodePoint.ofChar '"' ::
      (t ++ CodePoint.ofChar '"' :: behind)) ≠ some (value, behind) := by
  rw [readString?_backslash_backslash, ne_eq, map_readAlso_eq_some, readString?_quote]
  rintro ⟨later, hlater, _⟩
  have hlength := congrArg List.length (Prod.mk.inj (Option.some.inj hlater)).right
  simp only [List.length_append, List.length_cons] at hlength
  omega

/-- A text inside quotes is read back if the rule holds along it, and otherwise its string ends
elsewhere.  The first part is about reading from where a pair begins, the second from its middle. -/
theorem readString?_escape_iff (run : Nat) (t value behind : Text) :
    (run % 2 = 0 →
        (readString? (escape t ++ CodePoint.ofChar '"' :: behind) = some (value, behind) ↔
          hasEvenRunsBehind run t = true ∧ value = t)) ∧
      (run % 2 = 1 →
        (readString? (CodePoint.ofChar '\\' :: (escape t ++ CodePoint.ofChar '"' :: behind)) =
            some (value, behind) ↔
          hasEvenRunsBehind run t = true ∧ value = CodePoint.ofChar '\\' :: t)) := by
  induction t generalizing run value with
  | nil =>
      rw [escape, Text.replace, List.flatMap_nil, List.nil_append]
      constructor
      · intro heven
        rw [readString?_quote]
        simp [hasEvenRunsBehind, heven, eq_comm]
      · intro hodd
        simp [hasEvenRunsBehind, hodd, readString?_pair_ne]
  | cons c t ih =>
      by_cases hbackslash : c = CodePoint.ofChar '\\'
      · subst hbackslash
        rw [hasEvenRunsBehind_backslash, escape_cons (by decide), List.cons_append]
        constructor
        · intro heven
          exact (ih (run + 1) value).right (by omega)
        · intro hodd
          rw [readString?_backslash_backslash]
          exact map_readAlso_iff fun later => (ih (run + 1) later).left (by omega)
      · by_cases hquote : c = CodePoint.ofChar '"'
        · subst hquote
          rw [escape_quote_cons, List.cons_append, List.cons_append]
          constructor
          · intro heven
            have hrest : hasEvenRunsBehind run (CodePoint.ofChar '"' :: t) =
                hasEvenRunsBehind 0 t := by simp [hasEvenRunsBehind, heven]
            rw [hrest, readString?_backslash_quote]
            exact map_readAlso_iff fun later => (ih 0 later).left rfl
          · intro hodd
            simp [hasEvenRunsBehind, hodd, readString?_behind_pair_ne]
        · rw [hasEvenRunsBehind_plain hquote hbackslash, escape_cons hquote, List.cons_append]
          constructor
          · intro _
            rw [readString?_plain hquote hbackslash]
            exact map_readAlso_iff fun later => (ih 0 later).left rfl
          · intro _
            rw [readString?_backslash_plain hquote hbackslash,
              readString?_plain hquote hbackslash]
            exact map_readAlso_iff fun more =>
              map_readAlso_iff fun later => (ih 0 later).left rfl

theorem scansTo_quote (h : HasEvenRuns t) : ScansTo (quote t) [.quoted t] := by
  have hopen : scan? .between (Text.ofString "\"") = some ([], .inString []) := by decide
  have hvalue : readString? (escape t ++ CodePoint.ofChar '"' :: []) = some (t, []) :=
    ((readString?_escape_iff 0 t t []).left rfl).mpr ⟨hasEvenRuns_iff.mp h, rfl⟩
  have hscan := scan?_append_eq_some hopen (scan?_inString [] hvalue rfl)
  simpa [ScansTo, quote, Text.ofString] using hscan

/-- What stands between quotes ends at its closing quote and is read as the text exactly when the
text has even runs of backslashes, whatever follows.  Leaving out the added backslashes gives back
every text, so no two texts are written alike. -/
theorem escape_safe_iff (t : Text) :
    (∀ behind, readString? (escape t ++ CodePoint.ofChar '"' :: behind) = some (t, behind) ↔
        HasEvenRuns t) ∧
      unescape (escape t) = t ∧ ∀ other, escape other = escape t → other = t := by
  refine ⟨?_, unescape_escape t, ?_⟩
  · intro behind
    rw [hasEvenRuns_iff, (readString?_escape_iff 0 t t behind).left rfl]
    simp
  · intro other hsame
    rw [← unescape_escape t, ← hsame, unescape_escape]

end Dot

end ImportAtlas
