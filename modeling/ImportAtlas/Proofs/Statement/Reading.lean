import ImportAtlas.Proofs.Statement.Written
import ImportAtlas.Proofs.Text.Trim

/-!
# Reading what is written

A written statement is a settled form: the white space that it asks for keeps its parts from running
together.  So it is read as the statement that it stands for, whatever follows it.

The items of a list consist of white space and characters of names.  They hold neither a comma nor a
brace, so that a list is taken apart where it was put together.
-/

namespace ImportAtlas

namespace Statement

namespace Written

/-!
## Lists in braces
-/

def isEntryPart (c : CodePoint) : Bool := c.isBlank || c.isNamePart

theorem isEntryPart_of_name (name : Identifier) {c : CodePoint} (hc : c ∈ name.text) :
    isEntryPart c = true := by
  simp [isEntryPart, name.isNamePart c hc]

theorem isEntryPart_of_blanks (blanks : Blanks) {c : CodePoint} (hc : c ∈ blanks.text) :
    isEntryPart c = true := by
  simp [isEntryPart, blanks.isBlank c hc]

theorem isEntryPart_of_word {word : Text} (h : word.all isEntryPart = true) {c : CodePoint}
    (hc : c ∈ word) : isEntryPart c = true :=
  List.all_eq_true.mp h c hc

theorem isEntryPart_of_newName (newName : NewName) {c : CodePoint} (hc : c ∈ newName.spell) :
    isEntryPart c = true := by
  simp only [NewName.spell, List.mem_append] at hc
  rcases hc with ((hc | hc) | hc) | hc
  · exact isEntryPart_of_blanks newName.before.toBlanks hc
  · exact isEntryPart_of_word rfl hc
  · exact isEntryPart_of_blanks newName.after.toBlanks hc
  · exact isEntryPart_of_name newName.name hc

theorem isEntryPart_of_item (item : Item) {c : CodePoint} (hc : c ∈ item.spell) :
    isEntryPart c = true := by
  cases item with
  | plain name => exact isEntryPart_of_name name hc
  | renamed name newName =>
      rcases List.mem_append.mp hc with hc | hc
      · exact isEntryPart_of_name name hc
      · exact isEntryPart_of_newName newName hc
  | typed after name =>
      simp only [Item.spell, List.mem_append] at hc
      rcases hc with (hc | hc) | hc
      · exact isEntryPart_of_word rfl hc
      · exact isEntryPart_of_blanks after.toBlanks hc
      · exact isEntryPart_of_name name hc

theorem isEntryPart_of_entry (entry : Entry) {c : CodePoint} (hc : c ∈ entry.spell) :
    isEntryPart c = true := by
  rcases entry with ⟨before, item, after⟩
  simp only [Entry.spell, List.mem_append] at hc
  rcases hc with (hc | hc) | hc
  · exact isEntryPart_of_blanks before hc
  · cases item with
    | none => cases hc
    | some item => exact isEntryPart_of_item item hc
  · exact isEntryPart_of_blanks after hc

theorem comma_not_mem_entry (entry : Entry) : CodePoint.ofChar ',' ∉ entry.spell := by
  intro hc
  have := isEntryPart_of_entry entry hc
  exact absurd this (by decide)

theorem isBrace_listText (entries : List Entry) {c : CodePoint} (hc : c ∈ listText entries) :
    isBrace c = false := by
  have hne : ∀ d, isEntryPart d = false → CodePoint.ofChar ',' ≠ d → c ≠ d := by
    intro d hd hcomma heq
    rcases Text.mem_join hc with hsep | ⟨piece, hpiece, hmem⟩
    · have hsep' : c = CodePoint.ofChar ',' := by simpa [Text.ofString] using hsep
      exact hcomma (hsep'.symm.trans heq)
    · rcases List.mem_map.mp hpiece with ⟨entry, _, hentry⟩
      rw [← hentry] at hmem
      rw [heq] at hmem
      rw [isEntryPart_of_entry entry hmem] at hd
      cases hd
  have hopen := hne (CodePoint.ofChar '\x7b') (by decide) (by decide)
  have hclose := hne (CodePoint.ofChar '\x7d') (by decide) (by decide)
  simp [isBrace, hopen, hclose]

def listing (entries : List Entry) : Listing where
  text := listText entries
  unbraced _ hc := isBrace_listText entries hc

theorem stops_isBlank_of_ends (name : Identifier) (rest : Text) :
    Text.stops CodePoint.isBlank (rest ++ name.text).reverse = true := by
  have hne : name.text.reverse ≠ [] := by simp [name.nonempty]
  rw [List.reverse_append, Text.stops_append_of_ne_nil hne]
  apply Text.stops_of_forall_mem
  intro c hc
  exact CodePoint.isBlank_eq_false_of_isNamePart (name.isNamePart c (List.mem_reverse.mp hc))

theorem Item.trim_spell (item : Item) (before after : Blanks) :
    item.spell ≠ [] ∧ Text.trim (before.text ++ item.spell ++ after.text) = item.spell := by
  have hends : item.spell ≠ [] ∧ Text.stops CodePoint.isBlank item.spell = true ∧
      Text.stops CodePoint.isBlank item.spell.reverse = true := by
    cases item with
    | plain name =>
        have hstart := name.stops_isBlank []
        have hend := stops_isBlank_of_ends name []
        rw [List.append_nil] at hstart
        exact ⟨name.nonempty, hstart, hend⟩
    | renamed name newName =>
        refine ⟨by simp [spell, name.nonempty], name.stops_isBlank _, ?_⟩
        have hend := stops_isBlank_of_ends newName.name
          (name.text ++ (newName.before.text ++ "as" ++ newName.after.text))
        simpa only [spell, NewName.spell, List.append_assoc] using hend
    | typed after name =>
        exact ⟨by simp [spell, name.nonempty], rfl, stops_isBlank_of_ends name _⟩
  rcases hends with ⟨hne, hstart, hend⟩
  refine ⟨hne, ?_⟩
  rw [List.append_assoc]
  exact Text.trim_append before.isBlank after.isBlank ⟨hstart, hend⟩

theorem Entry.trim_spell (entry : Entry) :
    Text.trim entry.spell = entry.item.elim [] Item.spell := by
  rcases entry with ⟨before, item, after⟩
  cases item with
  | some item => exact (item.trim_spell before after).right
  | none =>
      have hblank := Text.trim_append before.isBlank after.isBlank (Text.isTrimmed_nil _)
      simpa [Entry.spell] using hblank

theorem bindingNames_listText (entries : List Entry) :
    bindingNames (listText entries) = itemLabels entries := by
  have hpieces : Text.splitOn ',' (listText entries) =
      if entries = [] then [[]] else entries.map Entry.spell := by
    split
    case isTrue hnil => simp [hnil, listText, Text.join, Text.splitOn]
    case isFalse hne =>
      apply Text.splitOn_join (by simpa using hne)
      intro piece hpiece
      rcases List.mem_map.mp hpiece with ⟨entry, _, hentry⟩
      rw [← hentry]
      exact comma_not_mem_entry entry
  have hitems : ∀ more : List Entry,
      ((more.map Entry.spell).map Text.trim).filter (· ≠ []) = itemLabels more := by
    intro more
    induction more with
    | nil => rfl
    | cons entry more ih =>
        simp only [List.map_cons, List.filter_cons, entry.trim_spell, ih, itemLabels,
          List.filterMap_cons]
        cases hitem : entry.item with
        | none => simp
        | some item => simp [(item.trim_spell entry.before entry.after).left]
  rw [bindingNames, hpieces]
  split
  case isTrue hnil => simp [hnil, itemLabels, Text.trim, Text.trimStart, Text.trimEnd]
  case isFalse => exact hitems entries

/-!
## Written statements are settled forms
-/

def ModuleName.quoted (path : ModuleName) : Quoted where
  opening := path.style.mark
  text := path.text
  closing := path.style.mark
  isQuote_opening := by cases path.style <;> rfl
  isQuote_closing := by cases path.style <;> rfl
  nonempty := path.nonempty
  unquoted := path.unquoted

def NewName.renaming (newName : NewName) : Renaming :=
  ⟨newName.before, newName.after, newName.name.toName⟩

def Default.binding (binding : Default) (comma : Option Comma) : Binding :=
  ⟨binding.name.toName, binding.renamed.map NewName.renaming, comma⟩

def Everything.star (all : Everything) : Star := ⟨all.before, all.after, all.name.toName⟩

def Group.group : Group → Statement.Group
  | listed entries => .listed (listing entries)
  | everything all => .everything all.star

def Bindings.binding? : Bindings → Option Binding
  | default binding => some (binding.binding none)
  | others _ => none
  | both binding comma _ => some (binding.binding (some comma))

def Bindings.group? : Bindings → Option Statement.Group
  | default _ => none
  | others group => some group.group
  | both _ _ group => some group.group

def Exports.group : Exports → ExportGroup
  | listed entries => .listed (listing entries)
  | everything => .everything
  | renamed all => .renamed all.star

def noBlanks : Blanks where
  text := []
  isBlank _ hc := nomatch hc

def sideEffectForm (afterKeyword : Spaces) (path : ModuleName) : ImportForm :=
  ⟨afterKeyword, none, ⟨none, none, ⟨noBlanks, none, path.quoted⟩⟩⟩

def importForm (afterKeyword : Spaces) (typeWord : Option Spaces) (bindings : Bindings)
    (beforeFrom afterFrom : Blanks) (path : ModuleName) : ImportForm :=
  ⟨afterKeyword, typeWord,
    ⟨bindings.binding?, bindings.group?, ⟨beforeFrom, some afterFrom, path.quoted⟩⟩⟩

def reexportForm (afterKeyword : Spaces) (typeWord : Option Spaces) (bindings : Exports)
    (beforeFrom afterFrom : Blanks) (path : ModuleName) : ReexportForm :=
  ⟨afterKeyword, typeWord, bindings.group, beforeFrom, afterFrom, path.quoted⟩

theorem Default.spell_binding (binding : Default) (comma : Option Comma) :
    (binding.binding comma).spell = binding.spell ++ comma.elim [] Comma.spell := by
  rcases binding with ⟨name, hne, renamed⟩
  cases renamed <;> rfl

theorem Group.spell_group (group : Group) : group.group.spell = group.spell := by
  cases group <;> rfl

theorem Exports.spell_group (bindings : Exports) : bindings.group.spell = bindings.spell := by
  cases bindings <;> rfl

theorem Bindings.spell_parts (bindings : Bindings) :
    bindings.binding?.elim [] Binding.spell ++ bindings.group?.elim [] Statement.Group.spell =
      bindings.spell := by
  cases bindings <;> simp [binding?, group?, spell, Default.spell_binding, Group.spell_group]

theorem Default.label_binding (binding : Default) (comma : Option Comma)
    (listed namespaceName : Option Text) :
    ImportClause.items ⟨some (binding.binding comma).name.text,
        (binding.binding comma).renamed.map (·.name.text), listed, namespaceName⟩ =
      binding.label :: ImportClause.items ⟨none, none, listed, namespaceName⟩ := by
  rcases binding with ⟨name, hne, renamed⟩
  cases renamed <;>
    simp [ImportClause.items, binding, label, NewName.renaming]

theorem Group.labels_group (group : Group) :
    ImportClause.items ⟨none, none, group.group.listing?.map (·.text),
      group.group.star?.map (·.name.text)⟩ = group.labels := by
  cases group with
  | listed entries =>
      simp [ImportClause.items, Group.group, Statement.Group.listing?, Statement.Group.star?,
        listing, labels, bindingNames_listText]
  | everything all =>
      simp [ImportClause.items, Group.group, Statement.Group.listing?, Statement.Group.star?,
        labels, Everything.label, Everything.star]

theorem Bindings.items_clause (bindings : Bindings) (origin : Origin) :
    (ImportBody.mk bindings.binding? bindings.group? origin).clause.items = bindings.labels := by
  cases bindings with
  | default binding =>
      have hlabel := binding.label_binding none none none
      simpa [ImportBody.clause, ImportBody.listing?, ImportBody.star?, binding?, group?, labels,
        ImportClause.items] using hlabel
  | others group =>
      have hlabels := group.labels_group
      simpa [ImportBody.clause, ImportBody.listing?, ImportBody.star?, binding?, group?, labels]
        using hlabels
  | both binding comma group =>
      have hlabel := binding.label_binding (some comma) (group.group.listing?.map (·.text))
        (group.group.star?.map (·.name.text))
      rw [group.labels_group] at hlabel
      simpa [ImportBody.clause, ImportBody.listing?, ImportBody.star?, binding?, group?, labels]
        using hlabel

theorem Exports.label_clause (bindings : Exports) :
    bindings.group.clause.label = Text.join labelSeparator bindings.labels := by
  cases bindings with
  | listed entries =>
      simp [Exports.group, ExportGroup.clause, ReexportClause.label, labels, listing,
        bindingNames_listText]
  | everything => rfl
  | renamed all => rfl

theorem importForm_isSettled {afterKeyword : Spaces} {typeWord : Option Spaces}
    {bindings : Bindings} {beforeFrom afterFrom : Blanks}
    (hapart : bindings.endsInName = true → beforeFrom.text ≠ []) (path : ModuleName) :
    (importForm afterKeyword typeWord bindings beforeFrom afterFrom path).IsSettled where
  body := by
    constructor
    · intro hbinding hgroup
      cases bindings <;> simp [importForm, Bindings.binding?, Bindings.group?] at hbinding hgroup
    · intro hlisting _
      apply hapart
      rcases bindings with binding | group | ⟨binding, comma, group⟩
      · rfl
      · cases group with
        | listed entries => cases hlisting
        | everything all => rfl
      · cases group with
        | listed entries => cases hlisting
        | everything all => rfl
    · intro binding hbinding hcomma hgroup
      cases bindings with
      | default binding =>
          simp only [importForm, Bindings.binding?, Option.some.injEq] at hbinding
          exact hcomma (hbinding ▸ rfl)
      | others group => cases hbinding
      | both binding comma group => cases hgroup
  binding := by
    intro binding _ hbinding
    cases bindings with
    | default written =>
        simp only [importForm, Bindings.binding?, Option.some.injEq] at hbinding
        rw [← hbinding]
        exact written.ne_type
    | others group => cases hbinding
    | both written comma group =>
        simp only [importForm, Bindings.binding?, Option.some.injEq] at hbinding
        rw [← hbinding]
        exact written.ne_type

theorem sideEffectForm_isSettled (afterKeyword : Spaces) (path : ModuleName) :
    (sideEffectForm afterKeyword path).IsSettled := by
  apply ImportForm.isSettled_of_unbound rfl
  · intro _
    exact ⟨rfl, rfl⟩
  · intro _ hfrom
    exact absurd rfl hfrom

theorem reexportForm_isSettled {afterKeyword : Spaces} {typeWord : Option Spaces}
    {bindings : Exports} {beforeFrom afterFrom : Blanks}
    (hapart : bindings.endsInName = true → beforeFrom.text ≠ []) (path : ModuleName) :
    (reexportForm afterKeyword typeWord bindings beforeFrom afterFrom path).IsSettled := by
  intro star hstar
  apply hapart
  cases bindings with
  | listed entries => cases hstar
  | everything => cases hstar
  | renamed all => rfl

/-- A written statement is read as the statement that it stands for. -/
theorem read?_spell (written : Written) (rest : Text) :
    written.kind.read? (written.spell ++ rest) = some (written.statement, rest) := by
  cases written with
  | sideEffect afterKeyword path =>
      have hread := readImport?_settled (sideEffectForm_isSettled afterKeyword path) rest
      have hspell : (sideEffectForm afterKeyword path).spell =
          (sideEffect afterKeyword path).spell := by
        simp [sideEffectForm, noBlanks, ImportForm.spell, ImportBody.spell, Origin.spell, spell,
          lead, Written.path, ModuleName.spell, ModuleName.quoted, Quoted.spell]
      rw [hspell] at hread
      exact hread
  | importing afterKeyword typeWord bindings beforeFrom afterFrom hapart path =>
      have hsettled :
          (importForm afterKeyword typeWord bindings beforeFrom afterFrom path).IsSettled :=
        importForm_isSettled hapart path
      have hread := readImport?_settled hsettled rest
      have hspell : (importForm afterKeyword typeWord bindings beforeFrom afterFrom path).spell =
          (importing afterKeyword typeWord bindings beforeFrom afterFrom hapart path).spell := by
        simp [importForm, ImportForm.spell, ImportBody.spell, Origin.spell, spellFrom, spell, lead,
          Written.path, ModuleName.spell, ModuleName.quoted, Quoted.spell, ← bindings.spell_parts]
      have hlabel : (importForm afterKeyword typeWord bindings beforeFrom afterFrom
          path).body.clause.label = Text.join labelSeparator bindings.labels := by
        rw [← bindings.items_clause ⟨beforeFrom, some afterFrom, path.quoted⟩]
        rfl
      rw [hspell, ImportBody.statement, hlabel] at hread
      exact hread
  | reexporting afterKeyword typeWord bindings beforeFrom afterFrom hapart path =>
      have hsettled :
          (reexportForm afterKeyword typeWord bindings beforeFrom afterFrom path).IsSettled :=
        reexportForm_isSettled hapart path
      have hread := readReexport?_settled hsettled rest
      have hspell :
          (reexportForm afterKeyword typeWord bindings beforeFrom afterFrom path).spell =
            (reexporting afterKeyword typeWord bindings beforeFrom afterFrom hapart
              path).spell := by
        simp [reexportForm, ReexportForm.spell, ReexportForm.origin, Origin.spell, spellFrom, spell,
          lead, Written.path, ModuleName.spell, ModuleName.quoted, Quoted.spell,
          Exports.spell_group]
      have hlabel : (reexportForm afterKeyword typeWord bindings beforeFrom afterFrom
          path).group.clause.label = Text.join labelSeparator bindings.labels :=
        bindings.label_clause
      rw [hspell, ReexportForm.statement, hlabel] at hread
      exact hread

end Written

end Statement

end ImportAtlas
