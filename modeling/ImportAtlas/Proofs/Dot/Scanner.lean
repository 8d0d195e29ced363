import ImportAtlas.Dot

/-!
# Scanning drawings

The drawing language is made of words, texts between double quotes and a few signs.  Inside quotes a
backslash belongs together with the character behind it: the text ends at the first double quote
that is no such second character.  A backslash with a quote stands for the quote, and every other
pair stands for itself.

The scanner goes through a document character by character.  What it yields for a document is what
it yields for the parts of the document, as long as no part ends inside a token.
-/

namespace ImportAtlas

namespace Dot

inductive Token where
  | word (letters : Text)
  /-- A text between double quotes. -/
  | quoted (value : Text)
  | openBrace
  | closeBrace
  | openBracket
  | closeBracket
  | equals
  | semicolon
  | arrow
deriving DecidableEq

/-- Where the scanner stands, with what it has read of an unfinished token. -/
inductive Scan where
  | between
  | inWord (letters : Text)
  | inString (value : Text)
  /-- Inside a string, behind the first character of a pair. -/
  | behindBackslash (value : Text)
  | behindDash
deriving DecidableEq

def isGap (c : CodePoint) : Bool := c = ' ' || c = '\t' || c = '\n' || c = '\r'

/-- Words may hold any character beyond ASCII. -/
def isWordPart (c : CodePoint) : Bool := isIdentifierPart c || 0x80 ≤ c.val

def sign? (c : CodePoint) : Option Token :=
  if c = '\x7b' then some .openBrace
  else if c = '\x7d' then some .closeBrace
  else if c = '[' then some .openBracket
  else if c = ']' then some .closeBracket
  else if c = '=' then some .equals
  else if c = ';' then some .semicolon
  else none

def scanFirst? (c : CodePoint) : Option (List Token × Scan) :=
  if isGap c then some ([], .between)
  else if c = '"' then some ([], .inString [])
  else if c = '-' then some ([], .behindDash)
  else if isWordPart c then some ([], .inWord [c])
  else (sign? c).map fun token => ([token], .between)

def scanStep? : Scan → CodePoint → Option (List Token × Scan)
  | .between, c => scanFirst? c
  | .inWord letters, c =>
      if isWordPart c then some ([], .inWord (letters ++ [c]))
      else (scanFirst? c).map fun (tokens, scan) => (.word letters :: tokens, scan)
  | .inString value, c =>
      if c = '"' then some ([.quoted value], .between)
      else if c = '\\' then some ([], .behindBackslash value)
      else some ([], .inString (value ++ [c]))
  | .behindBackslash value, c =>
      if c = '"' then some ([], .inString (value ++ [c]))
      else some ([], .inString (value ++ [CodePoint.ofChar '\\', c]))
  | .behindDash, c => if c = '>' then some ([.arrow], .between) else none

def scan? : Scan → Text → Option (List Token × Scan)
  | scan, [] => some ([], scan)
  | scan, c :: t => do
      let (first, next) ← scanStep? scan c
      let (more, last) ← scan? next t
      return (first ++ more, last)

def Scan.finish? : Scan → Option (List Token)
  | .between => some []
  | .inWord letters => some [.word letters]
  | _ => none

def tokens? (t : Text) : Option (List Token) := do
  let (tokens, last) ← scan? .between t
  let more ← last.finish?
  return tokens ++ more

variable {scan next last : Scan} {c : CodePoint} {s t word : Text} {first more tokens : List Token}

/-!
## Parts of documents
-/

theorem scan?_cons_eq_some (hstep : scanStep? scan c = some (first, next))
    (hrest : scan? next t = some (more, last)) :
    scan? scan (c :: t) = some (first ++ more, last) := by
  simp [scan?, hstep, hrest]

theorem scan?_append (scan : Scan) (s t : Text) :
    scan? scan (s ++ t) =
      (scan? scan s).bind fun (tokens, next) =>
        (scan? next t).map fun (more, last) => (tokens ++ more, last) := by
  induction s generalizing scan with
  | nil => simp [scan?]
  | cons c s ih =>
      cases hstep : scanStep? scan c with
      | none => simp [scan?, hstep]
      | some found =>
          rcases found with ⟨first, next⟩
          rw [List.cons_append]
          simp only [scan?, hstep, Option.bind_eq_bind, Option.bind_some, ih]
          cases hrest : scan? next s with
          | none => rfl
          | some read =>
              rcases read with ⟨more, last⟩
              cases hend : scan? last t <;> simp [hend]

theorem scan?_append_eq_some (hs : scan? scan s = some (first, next))
    (ht : scan? next t = some (more, last)) :
    scan? scan (s ++ t) = some (first ++ more, last) := by
  rw [scan?_append, hs]
  simp [ht]

/-- The text consists of whole tokens and gaps. -/
def ScansTo (t : Text) (tokens : List Token) : Prop := scan? .between t = some (tokens, .between)

instance (t : Text) (tokens : List Token) : Decidable (ScansTo t tokens) :=
  inferInstanceAs (Decidable (_ = _))

theorem ScansTo.nil : ScansTo [] [] := rfl

theorem ScansTo.append (hs : ScansTo s first) (ht : ScansTo t more) :
    ScansTo (s ++ t) (first ++ more) :=
  scan?_append_eq_some hs ht

theorem ScansTo.flatMap {α : Type} {items : List α} {spell : α → Text} {tokens : α → List Token}
    (h : ∀ item ∈ items, ScansTo (spell item) (tokens item)) :
    ScansTo (items.flatMap spell) (items.flatMap tokens) := by
  induction items with
  | nil => exact ScansTo.nil
  | cons item items ih =>
      have hrest := ih fun other hother => h other (by simp [hother])
      exact (h item (by simp)).append hrest

theorem Scan.finish?_eq_some
    (h : scanStep? scan (CodePoint.ofChar '\n') = some (tokens, .between)) :
    scan.finish? = some tokens := by
  have hgap : scanFirst? (CodePoint.ofChar '\n') = some ([], .between) := by decide
  have hword : isWordPart (CodePoint.ofChar '\n') = false := by decide
  cases scan with
  | between =>
      rw [scanStep?, hgap] at h
      cases h
      rfl
  | inWord letters =>
      simp only [scanStep?, hword, hgap, Bool.false_eq_true, if_false] at h
      cases h
      rfl
  | inString value =>
      simp [scanStep?] at h
  | behindBackslash value =>
      simp [scanStep?] at h
  | behindDash =>
      simp [scanStep?] at h

theorem tokens?_of_lineFeed (h : ScansTo (t ++ [CodePoint.ofChar '\n']) tokens) :
    tokens? t = some tokens := by
  unfold ScansTo at h
  rw [scan?_append] at h
  cases hscan : scan? .between t with
  | none => simp [hscan] at h
  | some read =>
      rcases read with ⟨before, last⟩
      cases hstep : scanStep? last (CodePoint.ofChar '\n') with
      | none => simp [hscan, scan?, hstep] at h
      | some found =>
          rcases found with ⟨more, behind⟩
          simp only [hscan, scan?, hstep, Option.bind_some, Option.bind_eq_bind, Option.map_some,
            Option.pure_def, List.append_nil, Option.some.injEq, Prod.mk.injEq] at h
          rcases h with ⟨rfl, rfl⟩
          simp [tokens?, hscan, Scan.finish?_eq_some hstep]

/-!
## Words
-/

theorem scan?_inWord (h : ∀ c ∈ word, isWordPart c = true) (letters : Text) :
    scan? (.inWord letters) word = some ([], .inWord (letters ++ word)) := by
  induction word generalizing letters with
  | nil => simp [scan?]
  | cons c word ih =>
      rw [List.forall_mem_cons] at h
      have hstep : scanStep? (.inWord letters) c = some ([], .inWord (letters ++ [c])) := by
        simp [scanStep?, h.left]
      have hrest := ih h.right (letters ++ [c])
      rw [List.append_assoc, List.singleton_append] at hrest
      exact scan?_cons_eq_some hstep hrest

theorem isGap_of_isWordPart (h : isWordPart c = true) : isGap c = false := by
  cases hgap : isGap c with
  | false => rfl
  | true =>
      simp only [isGap, Bool.or_eq_true, decide_eq_true_eq] at hgap
      rcases hgap with ((rfl | rfl) | rfl) | rfl <;> exact absurd h (by decide)

theorem scanFirst?_of_isWordPart (h : isWordPart c = true) :
    scanFirst? c = some ([], .inWord [c]) := by
  have hquote : c ≠ CodePoint.ofChar '"' := by
    rintro rfl
    exact absurd h (by decide)
  have hdash : c ≠ CodePoint.ofChar '-' := by
    rintro rfl
    exact absurd h (by decide)
  simp [scanFirst?, isGap_of_isWordPart h, hquote, hdash, h]

theorem scansTo_word (hne : word ≠ []) (h : ∀ c ∈ word, isWordPart c = true)
    (hstop : t.head?.map isWordPart = some false) (hrest : ScansTo t tokens) :
    ScansTo (word ++ t) (.word word :: tokens) := by
  have hword : scan? .between word = some ([], .inWord word) := by
    cases word with
    | nil => exact absurd rfl hne
    | cons d word =>
        rw [List.forall_mem_cons] at h
        have hfirst : scanStep? .between d = some ([], .inWord [d]) :=
          scanFirst?_of_isWordPart h.left
        exact scan?_cons_eq_some hfirst (scan?_inWord h.right [d])
  have hbehind : scan? (.inWord word) t = some (.word word :: tokens, .between) := by
    cases t with
    | nil => cases hstop
    | cons c t =>
        have hc : isWordPart c = false := by simpa using hstop
        unfold ScansTo at hrest
        cases hstep : scanFirst? c with
        | none => simp [scan?, scanStep?, hstep] at hrest
        | some found =>
            rcases found with ⟨first, next⟩
            cases hmore : scan? next t with
            | none => simp [scan?, scanStep?, hstep, hmore] at hrest
            | some read =>
                rcases read with ⟨more, last⟩
                simp only [scan?, scanStep?, hstep, hmore, Option.bind_eq_bind, Option.bind_some,
                  Option.pure_def, Option.some.injEq, Prod.mk.injEq] at hrest
                rcases hrest with ⟨rfl, rfl⟩
                simp [scan?, scanStep?, hc, hstep, hmore]
  exact scan?_append_eq_some hword hbehind

end Dot

end ImportAtlas
