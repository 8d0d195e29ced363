import ImportAtlas.Proofs.Statement.Part

/-!
# The grammar of statements

An import and a re-export are described by the parts they are made of.  Such a form is spelled as a
text and stands for a statement.  Nothing is said here about how a text is read: a name may end
where the next part could still be taken for its continuation, and white space may be shared out
between neighbouring parts in any way, so one text can have several forms.
-/

namespace ImportAtlas

namespace Statement

structure Binding where
  name : Name
  renamed : Option Renaming
  comma : Option Comma

def Binding.spell (binding : Binding) : Text :=
  binding.name.text ++ binding.renamed.elim [] Renaming.spell ++
    binding.comma.elim [] Comma.spell

inductive Group where
  | listed (listing : Listing)
  | everything (star : Star)

namespace Group

def spell : Group → Text
  | listed listing => listing.spell
  | everything star => star.spell

def listing? : Group → Option Listing
  | listed listing => some listing
  | everything _ => none

def star? : Group → Option Star
  | listed _ => none
  | everything star => some star

end Group

def spellType (after : Spaces) : Text := "type" ++ after.text

structure ImportBody where
  binding : Option Binding
  group : Option Group
  origin : Origin

namespace ImportBody

def spell (body : ImportBody) : Text :=
  body.binding.elim [] Binding.spell ++ body.group.elim [] Group.spell ++ body.origin.spell

def listing? (body : ImportBody) : Option Listing := body.group.bind Group.listing?

def star? (body : ImportBody) : Option Star := body.group.bind Group.star?

def clause (body : ImportBody) : ImportClause where
  binding := body.binding.map (·.name.text)
  renamed := body.binding.bind fun binding => binding.renamed.map (·.name.text)
  listed := body.listing?.map (·.text)
  namespaceName := body.star?.map (·.name.text)

def statement (body : ImportBody) : Statement :=
  ⟨.importing, body.clause.label, body.origin.quoted.text⟩

end ImportBody

structure ImportForm where
  afterKeyword : Spaces
  typeWord : Option Spaces
  body : ImportBody

def ImportForm.spell (form : ImportForm) : Text :=
  "import" ++ form.afterKeyword.text ++ form.typeWord.elim [] spellType ++ form.body.spell

inductive ExportGroup where
  | listed (listing : Listing)
  | everything
  | renamed (star : Star)

namespace ExportGroup

def spell : ExportGroup → Text
  | listed listing => listing.spell
  | everything => "*"
  | renamed star => star.spell

def listing? : ExportGroup → Option Listing
  | listed listing => some listing
  | everything => none
  | renamed _ => none

def plainText : ExportGroup → Text
  | listed _ => []
  | everything => "*"
  | renamed star => star.spell

def clause : ExportGroup → ReexportClause
  | listed listing => .listed listing.text
  | everything => .everything none
  | renamed star => .everything (some star.name.text)

end ExportGroup

structure ReexportForm where
  afterKeyword : Spaces
  typeWord : Option Spaces
  group : ExportGroup
  beforeFrom : Blanks
  afterFrom : Blanks
  quoted : Quoted

namespace ReexportForm

def origin (form : ReexportForm) : Origin :=
  ⟨form.beforeFrom, some form.afterFrom, form.quoted⟩

def spell (form : ReexportForm) : Text :=
  "export" ++ form.afterKeyword.text ++ form.typeWord.elim [] spellType ++
    (form.group.spell ++ form.origin.spell)

def statement (form : ReexportForm) : Statement :=
  ⟨.reexporting, form.group.clause.label, form.quoted.text⟩

end ReexportForm

/-!
## Outlines

Braces and quotes stand nowhere but around the list and around the specifier.  The outline of a form
keeps the list and the specifier and forgets what the plain text around them is made of.
-/

def isPlain (c : CodePoint) : Bool := !isBrace c && !isQuote c

def IsPlain (t : Text) : Prop := ∀ c ∈ t, isPlain c = true

theorem isPlain_append {s t : Text} (hs : IsPlain s) (ht : IsPlain t) : IsPlain (s ++ t) := by
  intro c hc
  rcases List.mem_append.mp hc with hc | hc
  · exact hs c hc
  · exact ht c hc

theorem isPlain_nil : IsPlain [] := by
  intro c hc
  cases hc

theorem isPlain_elim {α : Type} {spell : α → Text} (h : ∀ a, IsPlain (spell a))
    (part : Option α) : IsPlain (part.elim [] spell) := by
  cases part with
  | none => exact isPlain_nil
  | some a => exact h a

theorem isPlain_of_class {p : CodePoint → Bool} {c : CodePoint} (hc : p c = true)
    (hopen : p (CodePoint.ofChar '\x7b') = false) (hclose : p (CodePoint.ofChar '\x7d') = false)
    (hdouble : p (CodePoint.ofChar '"') = false) (hsingle : p (CodePoint.ofChar '\'') = false) :
    isPlain c = true := by
  have hne : ∀ d, p d = false → c ≠ d := by
    intro d hd heq
    rw [heq, hd] at hc
    cases hc
  simp [isPlain, isBrace, isQuote, hne _ hopen, hne _ hclose, hne _ hdouble, hne _ hsingle]

theorem Blanks.isPlain (blanks : Blanks) : IsPlain blanks.text := by
  intro c hc
  exact isPlain_of_class (blanks.isBlank c hc) rfl rfl rfl rfl

theorem Name.isPlain (name : Name) : IsPlain name.text := by
  intro c hc
  exact isPlain_of_class (name.isNamePart c hc) rfl rfl rfl rfl

theorem isPlain_word {word : Text} (h : word.all Statement.isPlain = true) : IsPlain word := by
  intro c hc
  exact List.all_eq_true.mp h c hc

theorem Renaming.isPlain (renamed : Renaming) : IsPlain renamed.spell :=
  isPlain_append
    (isPlain_append (isPlain_append renamed.before.isPlain (isPlain_word rfl))
      renamed.after.isPlain)
    renamed.name.isPlain

theorem Star.isPlain (star : Star) : IsPlain star.spell :=
  isPlain_append
    (isPlain_append
      (isPlain_append (isPlain_append (isPlain_word rfl) star.before.isPlain) (isPlain_word rfl))
      star.after.isPlain)
    star.name.isPlain

theorem Comma.isPlain (comma : Comma) : IsPlain comma.spell :=
  isPlain_append (isPlain_append comma.before.isPlain (isPlain_word rfl)) comma.after.isPlain

theorem Binding.isPlain (binding : Binding) : IsPlain binding.spell :=
  isPlain_append
    (isPlain_append binding.name.isPlain (isPlain_elim Renaming.isPlain binding.renamed))
    (isPlain_elim Comma.isPlain binding.comma)

theorem isPlain_spellType (after : Spaces) : IsPlain (spellType after) :=
  isPlain_append (isPlain_word rfl) after.isPlain

theorem isPlain_spellFrom (after : Blanks) : IsPlain (spellFrom after) :=
  isPlain_append (isPlain_word rfl) after.isPlain

theorem ExportGroup.isPlain (group : ExportGroup) : IsPlain group.plainText := by
  cases group with
  | listed listing => exact isPlain_nil
  | everything => exact isPlain_word rfl
  | renamed star => exact star.isPlain

/-- Plain text, perhaps a list, plain text, and a specifier. -/
structure Outline where
  head : Text
  listing? : Option Listing
  middle : Text
  quoted : Quoted
  head_plain : IsPlain head
  middle_plain : IsPlain middle

namespace Outline

def spell (outline : Outline) : Text :=
  outline.head ++ outline.listing?.elim [] Listing.spell ++ outline.middle ++
    outline.quoted.spell

theorem stops_isPlain_quoted (quoted : Quoted) (rest : Text) :
    Text.stops Statement.isPlain (quoted.spell ++ rest) = true :=
  quoted.stops rfl rfl rest

theorem stops_isPlain_listing (listing : Listing) (rest : Text) :
    Text.stops Statement.isPlain (listing.spell ++ rest) = true := rfl

theorem braces?_quoted (quoted : Quoted) (rest : Text) :
    braces? (quoted.spell ++ rest) = none := by
  have hopen : Text.after? "\x7b" (quoted.spell ++ rest) = none :=
    Text.after?_eq_none_of_stops rfl (quoted.stops rfl rfl rest)
  simp [braces?, hopen]

theorem append_eq_of_listing (outline : Outline) {listing : Listing}
    (hlisting : outline.listing? = some listing) (rest : Text) :
    outline.spell ++ rest =
      outline.head ++ (listing.spell ++ (outline.middle ++ (outline.quoted.spell ++ rest))) := by
  simp [spell, hlisting]

theorem append_eq_of_no_listing (outline : Outline) (hlisting : outline.listing? = none)
    (rest : Text) :
    outline.spell ++ rest =
      (outline.head ++ outline.middle) ++ (outline.quoted.spell ++ rest) := by
  simp [spell, hlisting]

/-- The list comes before the specifier, so a text does not begin both with an outline that has a
list and with one that has none. -/
theorem not_mixed {outline other : Outline} {rest rest' : Text} {listing : Listing}
    (hlisting : outline.listing? = some listing) (hnone : other.listing? = none)
    (h : outline.spell ++ rest = other.spell ++ rest') : False := by
  rw [append_eq_of_listing outline hlisting, append_eq_of_no_listing other hnone] at h
  have hsplit := Text.append_inj_of_stops outline.head_plain (stops_isPlain_listing _ _)
    (isPlain_append other.head_plain other.middle_plain) (stops_isPlain_quoted _ _) h
  have hbraces := braces?_append listing (outline.middle ++ (outline.quoted.spell ++ rest))
  rw [hsplit.right, braces?_quoted] at hbraces
  cases hbraces

/-- An outline at the start of a text is determined by the text, up to the plain parts. -/
theorem unambiguous {outline other : Outline} {rest rest' : Text}
    (h : outline.spell ++ rest = other.spell ++ rest') :
    outline.listing?.map (·.text) = other.listing?.map (·.text) ∧
      outline.quoted.text = other.quoted.text ∧ rest = rest' := by
  cases hlisting : outline.listing? with
  | none =>
      cases hlisting' : other.listing? with
      | some listing' => exact (not_mixed hlisting' hlisting h.symm).elim
      | none =>
          rw [append_eq_of_no_listing outline hlisting,
            append_eq_of_no_listing other hlisting'] at h
          have hsplit := Text.append_inj_of_stops
            (isPlain_append outline.head_plain outline.middle_plain) (stops_isPlain_quoted _ _)
            (isPlain_append other.head_plain other.middle_plain) (stops_isPlain_quoted _ _) h
          have hread := specifier?_append outline.quoted rest
          rw [hsplit.right, specifier?_append] at hread
          simp only [Option.some.injEq, Prod.mk.injEq] at hread
          exact ⟨rfl, hread.left.symm, hread.right.symm⟩
  | some listing =>
      cases hlisting' : other.listing? with
      | none => exact (not_mixed hlisting hlisting' h).elim
      | some listing' =>
          rw [append_eq_of_listing outline hlisting, append_eq_of_listing other hlisting'] at h
          have hhead := Text.append_inj_of_stops outline.head_plain (stops_isPlain_listing _ _)
            other.head_plain (stops_isPlain_listing _ _) h
          have hlist := braces?_append listing
            (outline.middle ++ (outline.quoted.spell ++ rest))
          rw [hhead.right, braces?_append] at hlist
          simp only [Option.some.injEq, Prod.mk.injEq] at hlist
          have hmiddle := Text.append_inj_of_stops other.middle_plain (stops_isPlain_quoted _ _)
            outline.middle_plain (stops_isPlain_quoted _ _) hlist.right
          have hread := specifier?_append outline.quoted rest
          rw [← hmiddle.right, specifier?_append] at hread
          simp only [Option.some.injEq, Prod.mk.injEq] at hread
          refine ⟨?_, hread.left.symm, hread.right.symm⟩
          simp [hlist.left]

end Outline

def ImportForm.outline (form : ImportForm) : Outline where
  head := "import" ++ form.afterKeyword.text ++ form.typeWord.elim [] spellType ++
    form.body.binding.elim [] Binding.spell
  listing? := form.body.listing?
  middle := form.body.star?.elim [] Star.spell ++ form.body.origin.before.text ++
    form.body.origin.fromWord.elim [] spellFrom
  quoted := form.body.origin.quoted
  head_plain :=
    isPlain_append
      (isPlain_append (isPlain_append (isPlain_word rfl) form.afterKeyword.isPlain)
        (isPlain_elim isPlain_spellType _))
      (isPlain_elim Binding.isPlain _)
  middle_plain :=
    isPlain_append (isPlain_append (isPlain_elim Star.isPlain _) form.body.origin.before.isPlain)
      (isPlain_elim isPlain_spellFrom _)

theorem ImportForm.spell_outline (form : ImportForm) : form.outline.spell = form.spell := by
  rcases form with ⟨afterKeyword, typeWord, binding, group, origin⟩
  rcases group with _ | listing | star <;>
    simp [outline, Outline.spell, spell, ImportBody.spell, ImportBody.listing?, ImportBody.star?,
      Group.listing?, Group.star?, Group.spell, Origin.spell]

theorem ImportForm.unambiguous {form other : ImportForm} {rest rest' : Text}
    (h : form.spell ++ rest = other.spell ++ rest') :
    form.body.listing?.map (·.text) = other.body.listing?.map (·.text) ∧
      form.body.statement.specifier = other.body.statement.specifier ∧ rest = rest' := by
  rw [← form.spell_outline, ← other.spell_outline] at h
  exact Outline.unambiguous h

def ReexportForm.outline (form : ReexportForm) : Outline where
  head := "export" ++ form.afterKeyword.text ++ form.typeWord.elim [] spellType
  listing? := form.group.listing?
  middle := form.group.plainText ++ form.beforeFrom.text ++ spellFrom form.afterFrom
  quoted := form.quoted
  head_plain :=
    isPlain_append (isPlain_append (isPlain_word rfl) form.afterKeyword.isPlain)
      (isPlain_elim isPlain_spellType _)
  middle_plain :=
    isPlain_append (isPlain_append form.group.isPlain form.beforeFrom.isPlain)
      (isPlain_spellFrom _)

theorem ReexportForm.spell_outline (form : ReexportForm) : form.outline.spell = form.spell := by
  rcases form with ⟨afterKeyword, typeWord, group, beforeFrom, afterFrom, quoted⟩
  cases group <;>
    simp [outline, Outline.spell, spell, ExportGroup.listing?, ExportGroup.plainText,
      ExportGroup.spell, origin, Origin.spell]

theorem ReexportForm.unambiguous {form other : ReexportForm} {rest rest' : Text}
    (h : form.spell ++ rest = other.spell ++ rest') :
    form.group.listing?.map (·.text) = other.group.listing?.map (·.text) ∧
      form.statement.specifier = other.statement.specifier ∧ rest = rest' := by
  rw [← form.spell_outline, ← other.spell_outline] at h
  exact Outline.unambiguous h

end Statement

end ImportAtlas
