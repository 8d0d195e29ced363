import ImportAtlas.Proofs.Json.Escape
import ImportAtlas.Proofs.Text.Span

/-!
# Reading written values

Values made of strings, arrays and objects are read as they were written, whatever white space the
layout puts between their parts.  The reader has to have room for the arrays and objects that are
open at once, and it takes no more steps than twice the length of what it reads.
-/

namespace ImportAtlas

namespace Json

def Layout.IsBlank (layout : Layout) : Prop :=
  ∀ depth, ∀ c ∈ layout.lineBreak depth, isSpace c = true

theorem Layout.isBlank_indented : Layout.indented.IsBlank := by
  intro depth c hc
  rcases List.mem_cons.mp hc with heq | hc
  · rw [heq]
    decide
  · rw [(List.mem_replicate.mp hc).right]
    decide

/-- The value is made of strings without surrogate pairs, arrays and objects, of which no more than
`room` are open at once. -/
inductive FitsIn : (room : Nat) → Json → Prop where
  | text {room : Nat} {t : Text} (ht : t.IsUnpaired) : FitsIn room (.text t)
  | array {room : Nat} {items : List Json} (hitems : ∀ item ∈ items, FitsIn room item) :
      FitsIn (room + 1) (.array items)
  | object {room : Nat} {members : List (Text × Json)}
      (hnames : ∀ member ∈ members, member.1.IsUnpaired)
      (hvalues : ∀ member ∈ members, FitsIn room member.2) : FitsIn (room + 1) (.object members)

variable {layout : Layout} {room depth fuel : Nat} {value : Json} {items : List Json}
  {members : List (Text × Json)} {t rest behind : Text}

/-!
## White space
-/

theorem skipSpaces_lineBreak (h : layout.IsBlank) (depth : Nat) (t : Text) :
    skipSpaces (layout.lineBreak depth ++ t) = skipSpaces t :=
  List.dropWhile_append_of_pos (h depth)

theorem skipSpaces_of_stops (h : Text.stops isSpace t = true) : skipSpaces t = t :=
  Text.dropWhile_of_stops h

theorem skipSpaces_cons {c : CodePoint} (h : isSpace c = false) (t : Text) :
    skipSpaces (c :: t) = c :: t :=
  skipSpaces_of_stops (by simp [h])

theorem writeText_append (t rest : Text) :
    writeText t ++ rest =
      CodePoint.ofChar '"' :: (t.flatMap escaped ++ CodePoint.ofChar '"' :: rest) := by
  simp [writeText, Text.ofString]

/-- A written value begins with a quote or an opening bracket. -/
theorem stops_write (h : FitsIn room value) {p : CodePoint → Bool} (hquote : p '"' = false)
    (hbracket : p '[' = false) (hbrace : p '\x7b' = false) (rest : Text) :
    Text.stops p (write layout depth value ++ rest) = true := by
  cases h with
  | text ht => simp [write, writeText_append, hquote]
  | @array room items hitems => cases items <;> simp [write, Text.ofString, hbracket]
  | @object room members hnames hvalues =>
      cases members <;> simp [write, Text.ofString, hbrace]

/-!
## Items and members
-/

theorem itemsFrom_last (hvalue : valueFrom fuel room t = .ok (value, behind))
    (hbehind : skipSpaces behind = CodePoint.ofChar ']' :: rest) :
    itemsFrom (fuel + 1) room t = .ok ([value], rest) := by
  simp [itemsFrom, hvalue, hbehind, Text.after?, Text.ofString, orMalformed, bind, Except.bind,
    pure, Except.pure]

theorem itemsFrom_next {next : Text} (hvalue : valueFrom fuel room t = .ok (value, behind))
    (hbehind : skipSpaces behind = CodePoint.ofChar ',' :: next)
    (hnext : itemsFrom fuel room (skipSpaces next) = .ok (items, rest)) :
    itemsFrom (fuel + 1) room t = .ok (value :: items, rest) := by
  simp [itemsFrom, hvalue, hbehind, hnext, Text.after?, Text.ofString, bind, Except.bind,
    pure, Except.pure]

theorem membersFrom_last {name afterName beforeValue : Text}
    (hname : stringFrom? 0 t = some (name, afterName))
    (hafter : skipSpaces afterName = CodePoint.ofChar ':' :: beforeValue)
    (hvalue : valueFrom fuel room (skipSpaces beforeValue) = .ok (value, behind))
    (hbehind : skipSpaces behind = CodePoint.ofChar '\x7d' :: rest) :
    membersFrom (fuel + 1) room (CodePoint.ofChar '"' :: t) = .ok ([(name, value)], rest) := by
  simp [membersFrom, hname, hafter, hvalue, hbehind, Text.after?, Text.ofString, orMalformed, bind,
    Except.bind, pure, Except.pure]

theorem membersFrom_next {name afterName beforeValue next : Text}
    (hname : stringFrom? 0 t = some (name, afterName))
    (hafter : skipSpaces afterName = CodePoint.ofChar ':' :: beforeValue)
    (hvalue : valueFrom fuel room (skipSpaces beforeValue) = .ok (value, behind))
    (hbehind : skipSpaces behind = CodePoint.ofChar ',' :: next)
    (hnext : membersFrom fuel room (skipSpaces next) = .ok (members, rest)) :
    membersFrom (fuel + 1) room (CodePoint.ofChar '"' :: t) =
      .ok ((name, value) :: members, rest) := by
  simp [membersFrom, hname, hafter, hvalue, hbehind, hnext, Text.after?, Text.ofString,
    orMalformed, bind, Except.bind, pure, Except.pure]

def ReadsBack (layout : Layout) (room : Nat) (value : Json) : Prop :=
  ∀ depth fuel rest, 2 * (write layout depth value).length ≤ fuel →
    valueFrom fuel room (write layout depth value ++ rest) = .ok (value, rest)

theorem skipSpaces_write (hlayout : layout.IsBlank) (hfits : FitsIn room value)
    (depth depth' : Nat) (rest : Text) :
    skipSpaces (layout.lineBreak depth ++ (write layout depth' value ++ rest)) =
      write layout depth' value ++ rest := by
  rw [skipSpaces_lineBreak hlayout, skipSpaces_of_stops]
  exact stops_write hfits (by decide) (by decide) (by decide) rest

theorem itemsFrom_write (hlayout : layout.IsBlank) (hne : items ≠ [])
    (hfits : ∀ item ∈ items, FitsIn room item)
    (hread : ∀ item ∈ items, ReadsBack layout room item)
    (hbehind : skipSpaces behind = CodePoint.ofChar ']' :: rest)
    (hfuel : 2 * (Text.join "," (writeItems layout depth items)).length + 1 ≤ fuel) :
    itemsFrom fuel room (skipSpaces (Text.join "," (writeItems layout depth items) ++ behind)) =
      .ok (items, rest) := by
  induction items generalizing fuel with
  | nil => exact absurd rfl hne
  | cons item items ih =>
      cases fuel with
      | zero => cases hfuel
      | succ fuel =>
          have hspaces := skipSpaces_write hlayout (hfits item (by simp)) depth depth
          cases items with
          | nil =>
              simp only [writeItems, Text.join, List.length_append] at hfuel
              have hvalue := hread item (by simp) depth fuel behind (by omega)
              simp only [writeItems, Text.join, List.append_assoc, hspaces]
              exact itemsFrom_last hvalue hbehind
          | cons next items =>
              have hmore : writeItems layout depth (next :: items) ≠ [] := by simp [writeItems]
              rw [writeItems, Text.join_cons _ _ hmore] at hfuel ⊢
              simp only [List.length_append] at hfuel
              have hcomma : (Text.ofString ",").length = 1 := rfl
              have hvalue := hread item (by simp) depth fuel
                (CodePoint.ofChar ',' :: (Text.join "," (writeItems layout depth (next :: items)) ++
                  behind)) (by omega)
              have hnext := ih (by simp) (fun other hother => hfits other (by simp [hother]))
                (fun other hother => hread other (by simp [hother]))
                (show 2 * (Text.join "," (writeItems layout depth (next :: items))).length + 1 ≤
                  fuel by omega)
              simp only [List.append_assoc, hspaces]
              exact itemsFrom_next hvalue (skipSpaces_cons (by decide) _) hnext

theorem skipSpaces_memberValue (hfits : FitsIn room value) (depth : Nat) (rest : Text) :
    skipSpaces (CodePoint.ofChar ' ' :: (write layout depth value ++ rest)) =
      write layout depth value ++ rest := by
  have hblank : skipSpaces (CodePoint.ofChar ' ' :: (write layout depth value ++ rest)) =
      skipSpaces (write layout depth value ++ rest) :=
    List.dropWhile_cons_of_pos (by decide)
  rw [hblank, skipSpaces_of_stops]
  exact stops_write hfits (by decide) (by decide) (by decide) rest

theorem writeMember_append (hlayout : layout.IsBlank) (depth : Nat) (name rest : Text)
    (value : Json) :
    skipSpaces (layout.lineBreak depth ++ writeText name ++ ": " ++ write layout depth value ++
        rest) =
      CodePoint.ofChar '"' :: (name.flatMap escaped ++ CodePoint.ofChar '"' ::
        CodePoint.ofChar ':' :: CodePoint.ofChar ' ' :: (write layout depth value ++ rest)) := by
  simp only [List.append_assoc]
  rw [skipSpaces_lineBreak hlayout, writeText_append, skipSpaces_cons (by decide)]
  rfl

theorem membersFrom_write (hlayout : layout.IsBlank) (hne : members ≠ [])
    (hnames : ∀ member ∈ members, member.1.IsUnpaired)
    (hfits : ∀ member ∈ members, FitsIn room member.2)
    (hread : ∀ member ∈ members, ReadsBack layout room member.2)
    (hbehind : skipSpaces behind = CodePoint.ofChar '\x7d' :: rest)
    (hfuel : 2 * (Text.join "," (writeMembers layout depth members)).length + 1 ≤ fuel) :
    membersFrom fuel room
        (skipSpaces (Text.join "," (writeMembers layout depth members) ++ behind)) =
      .ok (members, rest) := by
  induction members generalizing fuel with
  | nil => exact absurd rfl hne
  | cons member members ih =>
      rcases member with ⟨name, value⟩
      have hname := fun more => stringFrom?_escapes (hnames (name, value) (by simp)) more
      have hcolon : ∀ more, skipSpaces (CodePoint.ofChar ':' :: more) =
          CodePoint.ofChar ':' :: more := fun more => skipSpaces_cons (by decide) more
      have hvalueFits : FitsIn room value := hfits (name, value) (by simp)
      have hvalueRead : ReadsBack layout room value := hread (name, value) (by simp)
      have hspaces : ∀ more, skipSpaces (CodePoint.ofChar ' ' ::
          (write layout depth value ++ more)) = write layout depth value ++ more :=
        skipSpaces_memberValue hvalueFits depth
      cases fuel with
      | zero => cases hfuel
      | succ fuel =>
          cases members with
          | nil =>
              simp only [writeMembers, Text.join, List.length_append] at hfuel
              have hvalue := hvalueRead depth fuel behind (by omega)
              rw [← hspaces] at hvalue
              simp only [writeMembers, Text.join, writeMember_append hlayout]
              exact membersFrom_last (hname _) (hcolon _) hvalue hbehind
          | cons next members =>
              have hmore : writeMembers layout depth (next :: members) ≠ [] := by
                simp [writeMembers]
              rw [writeMembers, Text.join_cons _ _ hmore] at hfuel ⊢
              simp only [List.length_append] at hfuel
              have hcomma : (Text.ofString ",").length = 1 := rfl
              have hvalue := hvalueRead depth fuel
                (CodePoint.ofChar ',' ::
                  (Text.join "," (writeMembers layout depth (next :: members)) ++ behind))
                (by omega)
              rw [← hspaces] at hvalue
              have hnext := ih (by simp) (fun other hother => hnames other (by simp [hother]))
                (fun other hother => hfits other (by simp [hother]))
                (fun other hother => hread other (by simp [hother]))
                (show 2 * (Text.join "," (writeMembers layout depth (next :: members))).length + 1 ≤
                  fuel by omega)
              rw [List.append_assoc, List.append_assoc, writeMember_append hlayout]
              exact membersFrom_next (hname _) (hcolon _) hvalue
                (skipSpaces_cons (by decide) _) hnext

/-!
## Values
-/

theorem valueFrom_array (hempty : Text.after? "]" (skipSpaces t) = none)
    (hitems : itemsFrom fuel room (skipSpaces t) = .ok (items, rest)) :
    valueFrom (fuel + 1) (room + 1) (CodePoint.ofChar '[' :: t) = .ok (.array items, rest) := by
  have hquote : CodePoint.ofChar '[' ≠ CodePoint.ofChar '"' := by decide
  simp [valueFrom, hquote, hempty, hitems, bind, Except.bind, pure, Except.pure]

theorem valueFrom_object (hempty : Text.after? "\x7d" (skipSpaces t) = none)
    (hmembers : membersFrom fuel room (skipSpaces t) = .ok (members, rest)) :
    valueFrom (fuel + 1) (room + 1) (CodePoint.ofChar '\x7b' :: t) =
      .ok (.object members, rest) := by
  have hquote : CodePoint.ofChar '\x7b' ≠ CodePoint.ofChar '"' := by decide
  have hbracket : CodePoint.ofChar '\x7b' ≠ CodePoint.ofChar '[' := by decide
  simp [valueFrom, hquote, hbracket, hempty, hmembers, bind, Except.bind, pure, Except.pure]

theorem join_cons_append (sep piece : Text) (pieces : List Text) (behind : Text) :
    ∃ more, Text.join sep (piece :: pieces) ++ behind = piece ++ more := by
  cases pieces with
  | nil => exact ⟨behind, rfl⟩
  | cons next pieces => exact ⟨sep ++ Text.join sep (next :: pieces) ++ behind, by simp [Text.join]⟩

theorem after?_items (hlayout : layout.IsBlank) {item : Json} (hfits : FitsIn room item)
    (items : List Json) (depth : Nat) (behind : Text) :
    Text.after? "]"
        (skipSpaces (Text.join "," (writeItems layout depth (item :: items)) ++ behind)) =
      none := by
  rcases join_cons_append "," (layout.lineBreak depth ++ write layout depth item)
    (writeItems layout depth items) behind with ⟨more, hmore⟩
  rw [writeItems, hmore, List.append_assoc, skipSpaces_write hlayout hfits]
  exact Text.after?_eq_none_of_stops rfl
    (stops_write hfits (by decide) (by decide) (by decide) more)

theorem after?_members (hlayout : layout.IsBlank) (name : Text) (value : Json)
    (members : List (Text × Json)) (depth : Nat) (behind : Text) :
    Text.after? "\x7d"
        (skipSpaces (Text.join "," (writeMembers layout depth ((name, value) :: members)) ++
          behind)) =
      none := by
  rcases join_cons_append ","
    (layout.lineBreak depth ++ writeText name ++ ": " ++ write layout depth value)
    (writeMembers layout depth members) behind with ⟨more, hmore⟩
  rw [writeMembers, hmore, writeMember_append hlayout]
  apply Text.after?_eq_none_of_stops rfl
  rw [Text.stops_cons]
  decide

theorem write_array_append (layout : Layout) (depth : Nat) (item : Json) (items : List Json)
    (rest : Text) :
    write layout depth (.array (item :: items)) ++ rest =
      CodePoint.ofChar '[' ::
        (Text.join "," (writeItems layout (depth + 1) (item :: items)) ++
          (layout.lineBreak depth ++ CodePoint.ofChar ']' :: rest)) := by
  simp [write, Text.ofString]

theorem write_object_append (layout : Layout) (depth : Nat) (member : Text × Json)
    (members : List (Text × Json)) (rest : Text) :
    write layout depth (.object (member :: members)) ++ rest =
      CodePoint.ofChar '\x7b' ::
        (Text.join "," (writeMembers layout (depth + 1) (member :: members)) ++
          (layout.lineBreak depth ++ CodePoint.ofChar '\x7d' :: rest)) := by
  simp [write, Text.ofString]

theorem skipSpaces_close (hlayout : layout.IsBlank) (depth : Nat) {close : CodePoint}
    (hclose : isSpace close = false) (rest : Text) :
    skipSpaces (layout.lineBreak depth ++ close :: rest) = close :: rest := by
  rw [skipSpaces_lineBreak hlayout, skipSpaces_cons hclose]

theorem readsBack_of_fitsIn (hlayout : layout.IsBlank) (h : FitsIn room value) :
    ReadsBack layout room value := by
  induction h with
  | @text room t ht =>
      intro depth fuel rest hfuel
      have hstring := stringFrom?_escapes ht rest
      cases fuel with
      | zero => simp [write, writeText, Text.ofString] at hfuel
      | succ fuel =>
          simp only [write, writeText_append, valueFrom, if_true, hstring]
          rfl
  | @array room items hitems ih =>
      intro depth fuel rest hfuel
      cases fuel with
      | zero => cases items <;> simp [write, Text.ofString] at hfuel
      | succ fuel =>
          cases items with
          | nil => rfl
          | cons item items =>
              have hlength := congrArg List.length (write_array_append layout depth item items [])
              simp only [List.append_nil, List.length_cons, List.length_append] at hlength
              rw [write_array_append]
              exact valueFrom_array (after?_items hlayout (hitems item (by simp)) _ _ _)
                (itemsFrom_write hlayout (by simp) hitems ih
                  (skipSpaces_close hlayout depth (by decide) rest) (by omega))
  | @object room members hnames hvalues ih =>
      intro depth fuel rest hfuel
      cases fuel with
      | zero => cases members <;> simp [write, Text.ofString] at hfuel
      | succ fuel =>
          cases members with
          | nil => rfl
          | cons member members =>
              have hlength :=
                congrArg List.length (write_object_append layout depth member members [])
              simp only [List.append_nil, List.length_cons, List.length_append] at hlength
              rw [write_object_append]
              exact valueFrom_object (after?_members hlayout member.1 member.2 _ _ _)
                (membersFrom_write hlayout (by simp) hnames hvalues ih
                  (skipSpaces_close hlayout depth (by decide) rest) (by omega))

/-- A written value is read back from the whole text. -/
theorem read_write (hlayout : layout.IsBlank) (h : FitsIn nestingLimit value) (depth : Nat) :
    read (write layout depth value) = .ok value := by
  have hstart : skipSpaces (write layout depth value) = write layout depth value := by
    have hstops : Text.stops isSpace (write layout depth value ++ []) = true :=
      stops_write h (by decide) (by decide) (by decide) []
    rw [List.append_nil] at hstops
    exact skipSpaces_of_stops hstops
  have hvalue := readsBack_of_fitsIn hlayout h depth (2 * (write layout depth value).length + 1) []
    (by omega)
  rw [List.append_nil] at hvalue
  unfold read
  rw [hstart, hvalue]
  rfl

end Json

end ImportAtlas
