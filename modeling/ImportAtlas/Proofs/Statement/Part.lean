import ImportAtlas.Proofs.Text.Span
import ImportAtlas.Statement.Reader

/-!
# Parts of a statement

A statement is written as a sequence of parts: keywords, white space, names, a list in braces, a
quoted specifier.  Each part is a text of a certain class, and the type of the part carries the
proof that its text is of that class.  The readers of single parts read exactly these parts: a
reader yields a value on a text if and only if the text begins with a part of that value.
-/

namespace ImportAtlas

namespace Statement

structure Blanks where
  text : Text
  isBlank : ∀ c ∈ text, c.isBlank = true

structure Spaces extends Blanks where
  nonempty : text ≠ []

structure Name where
  text : Text
  nonempty : text ≠ []
  isNamePart : ∀ c ∈ text, c.isNamePart = true

structure Listing where
  text : Text
  unbraced : ∀ c ∈ text, isBrace c = false

/-- A specifier between quotes, which need not be of one kind. -/
structure Quoted where
  opening : CodePoint
  text : Text
  closing : CodePoint
  isQuote_opening : isQuote opening = true
  isQuote_closing : isQuote closing = true
  nonempty : text ≠ []
  unquoted : ∀ c ∈ text, isQuote c = false

structure Renaming where
  before : Spaces
  after : Spaces
  name : Name

structure Star where
  before : Blanks
  after : Spaces
  name : Name

structure Comma where
  before : Blanks
  after : Blanks

structure Origin where
  before : Blanks
  fromWord : Option Blanks
  quoted : Quoted

def Listing.spell (listing : Listing) : Text := "\x7b" ++ listing.text ++ "\x7d"

def Quoted.spell (quoted : Quoted) : Text := quoted.opening :: (quoted.text ++ [quoted.closing])

def Renaming.spell (renamed : Renaming) : Text :=
  renamed.before.text ++ "as" ++ renamed.after.text ++ renamed.name.text

def Star.spell (star : Star) : Text :=
  "*" ++ star.before.text ++ "as" ++ star.after.text ++ star.name.text

def Comma.spell (comma : Comma) : Text := comma.before.text ++ "," ++ comma.after.text

def spellFrom (after : Blanks) : Text := "from" ++ after.text

def Origin.spell (origin : Origin) : Text :=
  origin.before.text ++ origin.fromWord.elim [] spellFrom ++ origin.quoted.spell

/-!
## White space and names
-/

theorem Name.stops_isBlank (name : Name) (rest : Text) :
    Text.stops CodePoint.isBlank (name.text ++ rest) = true := by
  rw [Text.stops_append_of_ne_nil name.nonempty]
  apply Text.stops_of_forall_mem
  intro c hc
  exact CodePoint.isBlank_eq_false_of_isNamePart (name.isNamePart c hc)

theorem Blanks.stops_isNamePart (blanks : Blanks) {rest : Text}
    (hrest : Text.stops CodePoint.isNamePart rest = true) :
    Text.stops CodePoint.isNamePart (blanks.text ++ rest) = true := by
  apply Text.stops_append _ hrest
  apply Text.stops_of_forall_mem
  intro c hc
  exact CodePoint.isNamePart_eq_false_of_isBlank (blanks.isBlank c hc)

theorem Spaces.stops_isNamePart (spaces : Spaces) (rest : Text) :
    Text.stops CodePoint.isNamePart (spaces.text ++ rest) = true := by
  rw [Text.stops_append_of_ne_nil spaces.nonempty]
  apply Text.stops_of_forall_mem
  intro c hc
  exact CodePoint.isNamePart_eq_false_of_isBlank (spaces.isBlank c hc)

theorem exists_blanks_trimStart (t : Text) :
    ∃ blanks : Blanks, t = blanks.text ++ Text.trimStart t :=
  ⟨⟨t.takeWhile CodePoint.isBlank, fun _ hc => List.mem_takeWhile_imp hc⟩,
    List.takeWhile_append_dropWhile.symm⟩

theorem spaces?_append (spaces : Spaces) (rest : Text) :
    spaces? (spaces.text ++ rest) = some (Text.trimStart rest) := by
  rcases spaces with ⟨⟨text, hblank⟩, hne⟩
  cases text with
  | nil => exact absurd rfl hne
  | cons c text =>
      have hc : c.isBlank = true := hblank c (by simp)
      have htext : ∀ d ∈ text, d.isBlank = true := fun d hd => hblank d (by simp [hd])
      simp [spaces?, hc, Text.trimStart_append htext]

theorem spaces?_eq_some_iff {t rest : Text} :
    spaces? t = some rest ↔
      ∃ spaces : Spaces, t = spaces.text ++ rest ∧ Text.stops CodePoint.isBlank rest = true := by
  constructor
  · intro h
    cases t with
    | nil => cases h
    | cons c t =>
        simp only [spaces?] at h
        split at h
        case isFalse => cases h
        case isTrue hc =>
          injection h with h
          refine ⟨⟨⟨c :: t.takeWhile CodePoint.isBlank, ?_⟩, by simp⟩, ?_, ?_⟩
          · intro d hd
            rcases List.mem_cons.mp hd with hd | hd
            · rw [hd]
              exact hc
            · exact List.mem_takeWhile_imp hd
          · rw [← h]
            simp [Text.trimStart]
          · rw [← h]
            exact Text.stops_trimStart t
  · rintro ⟨spaces, ht, hrest⟩
    rw [ht, spaces?_append, Text.trimStart_of_stops hrest]

theorem name?_eq_none_of_stops {t : Text} (ht : Text.stops CodePoint.isNamePart t = true) :
    name? t = none := by
  simp [name?, Text.takeWhile_eq_nil_of_stops ht]

theorem name?_append (name : Name) {rest : Text}
    (hrest : Text.stops CodePoint.isNamePart rest = true) :
    name? (name.text ++ rest) = some (name.text, rest) := by
  rcases name with ⟨text, hne, hpart⟩
  cases text with
  | nil => exact absurd rfl hne
  | cons c text =>
      simp only [name?]
      rw [Text.takeWhile_append_of_stops hpart hrest, Text.dropWhile_append_of_stops hpart hrest]

theorem name?_eq_some_iff {t name rest : Text} :
    name? t = some (name, rest) ↔
      ∃ word : Name, word.text = name ∧ t = word.text ++ rest ∧
        Text.stops CodePoint.isNamePart rest = true := by
  constructor
  · intro h
    simp only [name?] at h
    cases hrun : t.takeWhile CodePoint.isNamePart with
    | nil =>
        rw [hrun] at h
        cases h
    | cons c run =>
        rw [hrun] at h
        simp only [Option.some.injEq, Prod.mk.injEq] at h
        rcases h with ⟨hname, hrest⟩
        refine ⟨⟨c :: run, by simp, ?_⟩, hname, ?_, ?_⟩
        · intro d hd
          rw [← hrun] at hd
          exact List.mem_takeWhile_imp hd
        · show t = (c :: run) ++ rest
          rw [← hrun, ← hrest]
          exact List.takeWhile_append_dropWhile.symm
        · rw [← hrest]
          exact Text.stops_dropWhile _ t
  · rintro ⟨word, hname, ht, hrest⟩
    rw [ht, name?_append word hrest, hname]

/-!
## Lists, new names and commas
-/

theorem braces?_append (listing : Listing) (rest : Text) :
    braces? (listing.spell ++ rest) = some (listing.text, rest) := by
  have hrun : ∀ c ∈ listing.text, (!isBrace c) = true := by
    intro c hc
    simp [listing.unbraced c hc]
  have hstop : Text.stops (!isBrace ·) ("\x7d" ++ rest) = true := rfl
  have hopen : Text.after? "\x7b" (listing.spell ++ rest) =
      some (listing.text ++ ("\x7d" ++ rest)) := by
    rw [Text.after?_eq_some_iff]
    simp [Listing.spell]
  have hclose : Text.after? "\x7d" ("\x7d" ++ rest) = some rest := Text.after?_append _ rest
  simp only [braces?, hopen, Option.bind_eq_bind, Option.bind_some,
    Text.dropWhile_append_of_stops hrun hstop, Text.takeWhile_append_of_stops hrun hstop, hclose]
  rfl

theorem braces?_eq_some_iff {t names rest : Text} :
    braces? t = some (names, rest) ↔
      ∃ listing : Listing, listing.text = names ∧ t = listing.spell ++ rest := by
  constructor
  · intro h
    simp only [braces?, Option.bind_eq_bind, Option.bind_eq_some_iff, Option.pure_def,
      Option.some.injEq, Prod.mk.injEq] at h
    rcases h with ⟨inside, hopen, behind, hclose, hnames, hrest⟩
    rw [Text.after?_eq_some_iff] at hopen hclose
    refine ⟨⟨names, ?_⟩, rfl, ?_⟩
    · intro c hc
      rw [← hnames] at hc
      simpa using List.mem_takeWhile_imp hc
    · have hinside : inside = names ++ ("\x7d" ++ rest) := by
        rw [← hnames, ← hrest, ← hclose]
        exact List.takeWhile_append_dropWhile.symm
      simp [Listing.spell, hopen, ← hinside]
  · rintro ⟨listing, hnames, ht⟩
    rw [ht, braces?_append, hnames]

/-- Behind white space, `as` and white space, reading a new name is reading a name. -/
theorem renaming?_spell (renamed : Renaming) (rest : Text) :
    renaming? (renamed.spell ++ rest) = name? (renamed.name.text ++ rest) := by
  rcases renamed with ⟨before, after, name⟩
  have hbefore : spaces? (before.text ++ ("as" ++ (after.text ++ (name.text ++ rest)))) =
      some ("as" ++ (after.text ++ (name.text ++ rest))) := spaces?_append before _
  have hafter : spaces? (after.text ++ (name.text ++ rest)) = some (name.text ++ rest) := by
    rw [spaces?_append, Text.trimStart_of_stops (name.stops_isBlank rest)]
  simp only [renaming?, Renaming.spell, List.append_assoc, Option.bind_eq_bind, hbefore,
    Option.bind_some, Text.after?_append, hafter]

theorem renaming?_eq_some_iff {t name rest : Text} :
    renaming? t = some (name, rest) ↔
      ∃ renamed : Renaming, renamed.name.text = name ∧ t = renamed.spell ++ rest ∧
        Text.stops CodePoint.isNamePart rest = true := by
  constructor
  · intro h
    simp only [renaming?, Option.bind_eq_bind, Option.bind_eq_some_iff] at h
    rcases h with ⟨fromAs, hbefore, behindAs, has, fromName, hafter, hname⟩
    rcases spaces?_eq_some_iff.mp hbefore with ⟨before, ht, _⟩
    rcases spaces?_eq_some_iff.mp hafter with ⟨after, hbehind, _⟩
    rcases name?_eq_some_iff.mp hname with ⟨word, hword, hfromName, hrest⟩
    rw [Text.after?_eq_some_iff] at has
    refine ⟨⟨before, after, word⟩, hword, ?_, hrest⟩
    simp [Renaming.spell, ht, has, hbehind, hfromName]
  · rintro ⟨renamed, hname, ht, hrest⟩
    rw [ht, renaming?_spell, name?_append renamed.name hrest, hname]

theorem renaming?_eq_none {t : Text} (ht : Text.after? "as" (Text.trimStart t) = none) :
    renaming? t = none := by
  cases hspaces : spaces? t with
  | none => simp [renaming?, hspaces]
  | some rest =>
      rcases spaces?_eq_some_iff.mp hspaces with ⟨spaces, hsplit, hrest⟩
      rw [hsplit, Text.trimStart_append spaces.isBlank, Text.trimStart_of_stops hrest] at ht
      simp [renaming?, hspaces, ht]

theorem namespace?_spell (star : Star) (rest : Text) :
    Statement.namespace? (star.spell ++ rest) = name? (star.name.text ++ rest) := by
  rcases star with ⟨before, after, name⟩
  have hbefore : Text.trimStart (before.text ++ ("as" ++ (after.text ++ (name.text ++ rest)))) =
      "as" ++ (after.text ++ (name.text ++ rest)) := Text.trimStart_append before.isBlank _
  have hafter : spaces? (after.text ++ (name.text ++ rest)) = some (name.text ++ rest) := by
    rw [spaces?_append, Text.trimStart_of_stops (name.stops_isBlank rest)]
  simp only [namespace?, Star.spell, List.append_assoc, Option.bind_eq_bind, Text.after?_append,
    Option.bind_some, hbefore, hafter]

theorem namespace?_eq_some_iff {t name rest : Text} :
    Statement.namespace? t = some (name, rest) ↔
      ∃ star : Star, star.name.text = name ∧ t = star.spell ++ rest ∧
        Text.stops CodePoint.isNamePart rest = true := by
  constructor
  · intro h
    simp only [namespace?, Option.bind_eq_bind, Option.bind_eq_some_iff] at h
    rcases h with ⟨behindStar, hstar, behindAs, has, fromName, hafter, hname⟩
    rcases exists_blanks_trimStart behindStar with ⟨before, hbefore⟩
    rcases spaces?_eq_some_iff.mp hafter with ⟨after, hbehind, _⟩
    rcases name?_eq_some_iff.mp hname with ⟨word, hword, hfromName, hrest⟩
    rw [Text.after?_eq_some_iff] at hstar has
    refine ⟨⟨before, after, word⟩, hword, ?_, hrest⟩
    rw [hstar, hbefore, has, hbehind, hfromName]
    simp [Star.spell]
  · rintro ⟨star, hname, ht, hrest⟩
    rw [ht, namespace?_spell, name?_append star.name hrest, hname]

theorem skipComma_append (comma : Comma) (rest : Text) :
    skipComma (comma.spell ++ rest) = Text.trimStart rest := by
  have hbefore : Text.trimStart (comma.spell ++ rest) = "," ++ (comma.after.text ++ rest) := by
    rw [Comma.spell, List.append_assoc, List.append_assoc,
      Text.trimStart_append comma.before.isBlank]
    rfl
  rw [skipComma, hbefore, Text.after?_append]
  exact Text.trimStart_append comma.after.isBlank rest

theorem skipComma_of_none {t : Text} (ht : Text.after? "," (Text.trimStart t) = none) :
    skipComma t = t := by
  simp [skipComma, ht]

theorem skipComma_cases (t : Text) :
    (∃ comma : Comma, t = comma.spell ++ skipComma t) ∨ skipComma t = t := by
  cases hcomma : Text.after? "," (Text.trimStart t) with
  | none => exact Or.inr (skipComma_of_none hcomma)
  | some rest =>
      apply Or.inl
      rcases exists_blanks_trimStart t with ⟨before, hbefore⟩
      rcases exists_blanks_trimStart rest with ⟨after, hafter⟩
      have hskip : skipComma t = Text.trimStart rest := by simp [skipComma, hcomma]
      rw [Text.after?_eq_some_iff] at hcomma
      refine ⟨⟨before, after⟩, ?_⟩
      simp only [Comma.spell, List.append_assoc, hskip]
      rw [← hafter, ← hcomma, ← hbefore]

/-!
## Specifiers
-/

theorem specifier?_append (quoted : Quoted) (rest : Text) :
    specifier? (quoted.spell ++ rest) = some (quoted.text, rest) := by
  rcases quoted with ⟨opening, text, closing, hopening, hclosing, hne, hunquoted⟩
  have hrun : ∀ c ∈ text, (!isQuote c) = true := by
    intro c hc
    simp [hunquoted c hc]
  have hstop : Text.stops (!isQuote ·) (closing :: rest) = true := by simp [hclosing]
  cases text with
  | nil => exact absurd rfl hne
  | cons c text =>
      have hsplit : c :: text ++ [closing] ++ rest = c :: text ++ closing :: rest := by simp
      simp only [Quoted.spell, List.cons_append, specifier?, hopening, if_true]
      rw [← List.cons_append, ← List.cons_append, hsplit,
        Text.takeWhile_append_of_stops hrun hstop, Text.dropWhile_append_of_stops hrun hstop]

theorem specifier?_eq_some_iff {t specifier rest : Text} :
    specifier? t = some (specifier, rest) ↔
      ∃ quoted : Quoted, quoted.text = specifier ∧ t = quoted.spell ++ rest := by
  constructor
  · intro h
    cases t with
    | nil => cases h
    | cons opening t =>
        simp only [specifier?] at h
        split at h
        case isFalse => cases h
        case isTrue hopening =>
          split at h
          case h_2 => cases h
          case h_1 c text closing behind hrun hstop =>
            simp only [Option.some.injEq, Prod.mk.injEq] at h
            rcases h with ⟨hspecifier, hrest⟩
            have hclosing : isQuote closing = true := by
              have hstops := Text.stops_dropWhile (!isQuote ·) t
              rw [hstop] at hstops
              simpa using hstops
            have hunquoted : ∀ d ∈ c :: text, isQuote d = false := by
              intro d hd
              rw [← hrun] at hd
              simpa using List.mem_takeWhile_imp hd
            have ht : t = (c :: text) ++ closing :: behind := by
              rw [← hrun, ← hstop]
              exact List.takeWhile_append_dropWhile.symm
            refine ⟨⟨opening, c :: text, closing, hopening, hclosing, by simp, hunquoted⟩,
              hspecifier, ?_⟩
            simp [Quoted.spell, ht, hrest]
  · rintro ⟨quoted, hspecifier, ht⟩
    rw [ht, specifier?_append, hspecifier]

theorem eq_false_of_isQuote {p : CodePoint → Bool} {c : CodePoint} (hc : isQuote c = true)
    (hdouble : p (CodePoint.ofChar '"') = false) (hsingle : p (CodePoint.ofChar '\'') = false) :
    p c = false := by
  simp only [isQuote, Bool.or_eq_true, decide_eq_true_eq] at hc
  rcases hc with heq | heq
  · rw [heq, hdouble]
  · rw [heq, hsingle]

theorem Quoted.stops (quoted : Quoted) {p : CodePoint → Bool}
    (hdouble : p (CodePoint.ofChar '"') = false) (hsingle : p (CodePoint.ofChar '\'') = false)
    (rest : Text) : Text.stops p (quoted.spell ++ rest) = true := by
  have hopening := eq_false_of_isQuote quoted.isQuote_opening hdouble hsingle
  simp [Quoted.spell, hopening]

theorem Quoted.trimStart_spell (quoted : Quoted) (rest : Text) :
    Text.trimStart (quoted.spell ++ rest) = quoted.spell ++ rest :=
  Text.trimStart_of_stops (quoted.stops rfl rfl rest)

theorem source?_append (before after : Blanks) (quoted : Quoted) (rest : Text) :
    source? ((Origin.mk before (some after) quoted).spell ++ rest) = some (quoted.text, rest) := by
  have hbefore : Text.trimStart ((Origin.mk before (some after) quoted).spell ++ rest) =
      "from" ++ (after.text ++ (quoted.spell ++ rest)) := by
    simp only [Origin.spell, spellFrom, List.append_assoc, Option.elim_some,
      Text.trimStart_append before.isBlank]
    rfl
  have hafter : Text.trimStart (after.text ++ (quoted.spell ++ rest)) = quoted.spell ++ rest := by
    rw [Text.trimStart_append after.isBlank, quoted.trimStart_spell]
  simp only [source?, hbefore, Text.after?_append, Option.bind_eq_bind, Option.bind_some, hafter,
    specifier?_append]

theorem source?_eq_some_iff {t specifier rest : Text} :
    source? t = some (specifier, rest) ↔
      ∃ (before after : Blanks) (quoted : Quoted), quoted.text = specifier ∧
        t = (Origin.mk before (some after) quoted).spell ++ rest := by
  constructor
  · intro h
    simp only [source?, Option.bind_eq_bind, Option.bind_eq_some_iff] at h
    rcases h with ⟨behindFrom, hfrom, hspecifier⟩
    rcases exists_blanks_trimStart t with ⟨before, hbefore⟩
    rcases exists_blanks_trimStart behindFrom with ⟨after, hafter⟩
    rcases specifier?_eq_some_iff.mp hspecifier with ⟨quoted, hquoted, hspell⟩
    rw [Text.after?_eq_some_iff] at hfrom
    refine ⟨before, after, quoted, hquoted, ?_⟩
    rw [hbefore, hfrom, hafter, hspell]
    simp [Origin.spell, spellFrom]
  · rintro ⟨before, after, quoted, hquoted, ht⟩
    rw [ht, source?_append, hquoted]

theorem source?_eq_none {t : Text} (ht : Text.after? "from" (Text.trimStart t) = none) :
    source? t = none := by
  simp [source?, ht]

theorem sourceOrSpecifier?_append (origin : Origin) (rest : Text) :
    sourceOrSpecifier? (origin.spell ++ rest) = some (origin.quoted.text, rest) := by
  rcases origin with ⟨before, fromWord, quoted⟩
  cases fromWord with
  | none =>
      have hbefore : Text.trimStart ((Origin.mk before none quoted).spell ++ rest) =
          quoted.spell ++ rest := by
        simp only [Origin.spell, List.append_assoc, Option.elim_none, List.nil_append,
          Text.trimStart_append before.isBlank, quoted.trimStart_spell]
      have hfrom : Text.after? "from" (quoted.spell ++ rest) = none :=
        Text.after?_eq_none_of_stops rfl (quoted.stops rfl rfl rest)
      simp only [sourceOrSpecifier?, hbefore, hfrom, specifier?_append]
  | some after =>
      have hbefore : Text.trimStart ((Origin.mk before (some after) quoted).spell ++ rest) =
          "from" ++ (after.text ++ (quoted.spell ++ rest)) := by
        simp only [Origin.spell, spellFrom, List.append_assoc, Option.elim_some,
          Text.trimStart_append before.isBlank]
        rfl
      have hafter : Text.trimStart (after.text ++ (quoted.spell ++ rest)) =
          quoted.spell ++ rest := by
        rw [Text.trimStart_append after.isBlank, quoted.trimStart_spell]
      simp only [sourceOrSpecifier?, hbefore, Text.after?_append, hafter, specifier?_append]

theorem sourceOrSpecifier?_eq_some_iff {t specifier rest : Text} :
    sourceOrSpecifier? t = some (specifier, rest) ↔
      ∃ origin : Origin, origin.quoted.text = specifier ∧ t = origin.spell ++ rest := by
  constructor
  · intro h
    rcases exists_blanks_trimStart t with ⟨before, hbefore⟩
    cases hfrom : Text.after? "from" (Text.trimStart t) with
    | none =>
        simp only [sourceOrSpecifier?, hfrom] at h
        rcases specifier?_eq_some_iff.mp h with ⟨quoted, hquoted, hspell⟩
        refine ⟨⟨before, none, quoted⟩, hquoted, ?_⟩
        rw [hbefore, hspell]
        simp [Origin.spell]
    | some behindFrom =>
        simp only [sourceOrSpecifier?, hfrom] at h
        rcases exists_blanks_trimStart behindFrom with ⟨after, hafter⟩
        rcases specifier?_eq_some_iff.mp h with ⟨quoted, hquoted, hspell⟩
        rw [Text.after?_eq_some_iff] at hfrom
        refine ⟨⟨before, some after, quoted⟩, hquoted, ?_⟩
        rw [hbefore, hfrom, hafter, hspell]
        simp [Origin.spell, spellFrom]
  · rintro ⟨origin, hspecifier, ht⟩
    rw [ht, sourceOrSpecifier?_append, hspecifier]

end Statement

end ImportAtlas
