import ImportAtlas.Proofs.Environment.Growth
import ImportAtlas.Proofs.FileTree.Writing
import ImportAtlas.Proofs.Text.Distinct
import ImportAtlas.Proofs.Text.Lines
import ImportAtlas.Proofs.Text.Split
import Mathlib

/-!
# Environment files as they are written

A file is written as a list of lines, each with its ending: blank ones, comments, lines without an
equals sign, and assignments with any white space around their parts, with or without `export` in
front and quotes around the value.  Reading such a file gives back what its assignments say, each
name at the place of its first assignment and with the value of its last one.
-/

namespace ImportAtlas

namespace EnvironmentFile

/-!
## Parts of a line
-/

structure Inline where
  text : Text
  isUnbroken : text.IsUnbroken

structure Gap extends Inline where
  isBlank : ∀ c ∈ text, c.isBlank = true

/-- A name that can be told from what is written around it. -/
structure Name extends Inline where
  ne_nil : text ≠ []
  isTrimmed : Text.IsTrimmed CodePoint.isBlank text
  equals_not_mem : CodePoint.ofChar '=' ∉ text
  not_comment : Text.startsWith "#" text = false
  ne_export : text ≠ "export"
  not_exported : Text.startsWith "export " text = false

inductive Quoting where
  | bare
  | double
  | single
deriving DecidableEq

def Quoting.mark : Quoting → Text
  | bare => []
  | double => [CodePoint.ofChar '"']
  | single => [CodePoint.ofChar '\'']

/-- A value without quotes of its own at its ends. -/
structure Value extends Inline where
  quoting : Quoting
  isTrimmed_double : Text.IsTrimmed (· = CodePoint.ofChar '"') text
  isTrimmed_single : Text.IsTrimmed (· = CodePoint.ofChar '\'') text
  /-- White space at the ends of a value is kept by quotes only. -/
  isTrimmed_of_bare : quoting = .bare → Text.IsTrimmed CodePoint.isBlank text

structure Assignment where
  before : Gap
  /-- The number of spaces behind `export`, when that stands before the name. -/
  exported : Option { spaces : Nat // 0 < spaces }
  name : Name
  beforeEquals : Gap
  afterEquals : Gap
  value : Value
  after : Gap

inductive Line where
  | blank (gap : Gap)
  | comment (before : Gap) (words : Inline)
  | other (words : Inline) (h : CodePoint.ofChar '=' ∉ words.text)
  | assignment (assigned : Assignment)

def Value.spell (value : Value) : Text := value.quoting.mark ++ (value.text ++ value.quoting.mark)

namespace Assignment

def lead (assigned : Assignment) : Text :=
  match assigned.exported with
  | none => []
  | some spaces => "export" ++ List.replicate spaces (CodePoint.ofChar ' ')

def side (assigned : Assignment) : Text := assigned.name.text ++ assigned.beforeEquals.text

def spell (assigned : Assignment) : Text :=
  assigned.before.text ++ (assigned.lead ++ (assigned.side ++ CodePoint.ofChar '=' ::
    (assigned.afterEquals.text ++ (assigned.value.spell ++ assigned.after.text))))

def entry (assigned : Assignment) : Text × Text := (assigned.name.text, assigned.value.text)

end Assignment

namespace Line

def spell : Line → Text
  | blank gap => gap.text
  | comment before words => before.text ++ CodePoint.ofChar '#' :: words.text
  | other words _ => words.text
  | assignment assigned => assigned.spell

def assigned? : Line → Option (Text × Text)
  | assignment assigned => some assigned.entry
  | _ => none

end Line

def spell (file : List (Line × LineEnd)) : Text :=
  Text.ofLines (file.map fun line => (line.1.spell, line.2))

def entries (file : List (Line × LineEnd)) : List (Text × Text) := file.filterMap (·.1.assigned?)

variable {value : Value} {assigned : Assignment} {t : Text}

/-!
## Reading an assignment
-/

theorem startsWith_hash (t : Text) :
    Text.startsWith "#" t = !Text.stops (· = CodePoint.ofChar '#') t :=
  Text.startsWith_singleton (CodePoint.ofChar '#') t

theorem Gap.not_mem {c : CodePoint} (hc : c.isBlank = false) (gap : Gap) : c ∉ gap.text := by
  intro hmem
  rw [gap.isBlank c hmem] at hc
  cases hc

theorem Value.isTrimmed_spell (value : Value) :
    Text.IsTrimmed CodePoint.isBlank value.spell := by
  unfold Value.spell
  cases hquoting : value.quoting with
  | bare => simpa [Quoting.mark] using value.isTrimmed_of_bare hquoting
  | double => exact Text.isTrimmed_enclosed (by decide) _
  | single => exact Text.isTrimmed_enclosed (by decide) _

theorem unquote_of_trim (h : Text.trim t = value.spell) : unquote t = value.text := by
  have hmark : ∀ {c d : CodePoint}, c ∈ ([d] : Text) → decide (c = d) = true := by
    intro c d hc
    exact decide_eq_true (List.mem_singleton.mp hc)
  rw [unquote, h, Value.spell, Text.trimCopies_eq, Text.trimCopies_eq]
  cases value.quoting with
  | bare =>
      simp only [Quoting.mark, List.nil_append, List.append_nil]
      rw [Text.trimEnds_of_isTrimmed value.isTrimmed_double,
        Text.trimEnds_of_isTrimmed value.isTrimmed_single]
  | double =>
      rw [Quoting.mark,
        Text.trimEnds_append (fun _ => hmark) (fun _ => hmark) value.isTrimmed_double,
        Text.trimEnds_of_isTrimmed value.isTrimmed_single]
  | single =>
      have hother : Text.IsTrimmed (· = CodePoint.ofChar '"')
          (Quoting.single.mark ++ (value.text ++ Quoting.single.mark)) :=
        Text.isTrimmed_enclosed (by decide) _
      rw [Text.trimEnds_of_isTrimmed hother, Quoting.mark,
        Text.trimEnds_append (fun _ => hmark) (fun _ => hmark) value.isTrimmed_single]

namespace Assignment

theorem stops_side_append {p : CodePoint → Bool} (hname : Text.stops p assigned.name.text = true)
    (rest : Text) : Text.stops p (assigned.side ++ rest) = true := by
  rw [side, List.append_assoc, Text.stops_append_of_ne_nil assigned.name.ne_nil]
  exact hname

theorem stops_lead_append {p : CodePoint → Bool} (hexport : p (CodePoint.ofChar 'e') = false)
    (hname : Text.stops p assigned.name.text = true) (rest : Text) :
    Text.stops p (assigned.lead ++ (assigned.side ++ rest)) = true := by
  apply Text.stops_append ?_ (stops_side_append hname rest)
  unfold lead
  cases assigned.exported with
  | none => rfl
  | some spaces =>
      show (!p (CodePoint.ofChar 'e')) = true
      rw [hexport]
      rfl

theorem not_mem_side (assigned : Assignment) : CodePoint.ofChar '=' ∉ assigned.side := by
  rw [side, List.mem_append, not_or]
  exact ⟨assigned.name.equals_not_mem, assigned.beforeEquals.not_mem (by decide)⟩

theorem trim_side (assigned : Assignment) : Text.trim assigned.side = assigned.name.text := by
  rw [side, Text.trim_append_right assigned.beforeEquals.isBlank, Text.trim_eq,
    Text.trimEnds_of_isTrimmed assigned.name.isTrimmed]

theorem trim_spell (assigned : Assignment) :
    Text.trim assigned.spell =
      assigned.lead ++ (assigned.side ++ CodePoint.ofChar '=' :: Text.trimEnd
        (assigned.afterEquals.text ++ (assigned.value.spell ++ assigned.after.text))) := by
  have hcore : Text.IsTrimmed CodePoint.isBlank
      (assigned.lead ++ (assigned.side ++ [CodePoint.ofChar '='])) := {
    start := stops_lead_append (by decide) assigned.name.isTrimmed.start _
    final := by
      simp only [List.reverse_append, List.reverse_singleton, List.singleton_append]
      rfl }
  have htrim := Text.trim_append_of_isTrimmed hcore (by simp)
    (assigned.afterEquals.text ++ (assigned.value.spell ++ assigned.after.text))
  rw [spell, Text.trim_append_left assigned.before.isBlank]
  simpa using htrim

/-- A name that is no `export` itself does not begin like one: neither white space nor an equals
sign goes on with the word. -/
theorem after?_side (assigned : Assignment) (rest : Text) :
    Text.after? "export " (assigned.side ++ CodePoint.ofChar '=' :: rest) = none := by
  have hexport : ∀ c ∈ Text.ofString "export", c.isBlank = false := by decide
  have hgap : ∀ c ∈ assigned.beforeEquals.text, (Text.ofString "export").contains c = false := by
    intro c hc
    cases hmem : (Text.ofString "export").contains c with
    | false => rfl
    | true =>
        have hblank := hexport c (List.contains_iff_mem.mp hmem)
        rw [assigned.beforeEquals.isBlank c hc] at hblank
        cases hblank
  rw [side, List.append_assoc]
  exact Text.after?_append_of_stops assigned.name.ne_export assigned.name.not_exported
    (Text.stops_append (Text.stops_of_forall_mem hgap) rfl)

theorem withoutExport_lead (assigned : Assignment) (rest : Text) :
    withoutExport (assigned.lead ++ (assigned.side ++ CodePoint.ofChar '=' :: rest)) =
      assigned.side ++ CodePoint.ofChar '=' :: rest := by
  unfold withoutExport lead
  cases assigned.exported with
  | none => rw [List.nil_append, after?_side]
  | some spaces =>
      rcases spaces with ⟨spaces, hspaces⟩
      rcases Nat.exists_eq_add_one.mpr hspaces with ⟨more, rfl⟩
      have hmore : ∀ c ∈ List.replicate more (CodePoint.ofChar ' '), c.isBlank = true := by
        intro c hc
        rw [List.eq_of_mem_replicate hc]
        decide
      have hword : Text.ofString "export" ++ List.replicate (more + 1) (CodePoint.ofChar ' ') =
          Text.ofString "export " ++ List.replicate more (CodePoint.ofChar ' ') := rfl
      dsimp only
      rw [hword, List.append_assoc, Text.after?_append]
      exact (Text.trimStart_append hmore _).trans
        (Text.trimStart_of_stops (stops_side_append assigned.name.isTrimmed.start _))

theorem assignment?_spell (assigned : Assignment) :
    assignment? assigned.spell = some assigned.entry := by
  have hvalue : unquote (Text.trimEnd
      (assigned.afterEquals.text ++ (assigned.value.spell ++ assigned.after.text))) =
        assigned.value.text := by
    apply unquote_of_trim
    rw [Text.trim_trimEnd]
    exact Text.trim_append assigned.afterEquals.isBlank assigned.after.isBlank
      assigned.value.isTrimmed_spell
  have hcomment : Text.startsWith "#" (Text.trim assigned.spell) = false := by
    have hname := assigned.name.not_comment
    rw [startsWith_hash, Bool.not_eq_false'] at hname
    rw [startsWith_hash, trim_spell, stops_lead_append (by decide) hname]
    rfl
  simp only [assignment?, hcomment, Bool.false_eq_true, if_false]
  rw [trim_spell, withoutExport_lead, Text.cut?_append assigned.not_mem_side]
  simp only [trim_side, hvalue, assigned.name.ne_nil, if_false]
  rfl

end Assignment

/-!
## Reading a line
-/

theorem assignment?_of_not_mem (h : CodePoint.ofChar '=' ∉ t) : assignment? t = none := by
  have hcut : Text.cut? (CodePoint.ofChar '=') (withoutExport (Text.trim t)) = none := by
    apply Text.cut?_of_not_mem
    intro hmem
    exact h (Text.trim_subset t (withoutExport_subset _ hmem))
  simp only [assignment?, hcut, ite_self]

theorem assignment?_line (line : Line) : assignment? line.spell = line.assigned? := by
  cases line with
  | blank gap => exact assignment?_of_not_mem (gap.not_mem (by decide))
  | other words h => exact assignment?_of_not_mem h
  | assignment assigned => exact assigned.assignment?_spell
  | comment before words =>
      have hcore : Text.IsTrimmed CodePoint.isBlank [CodePoint.ofChar '#'] := by decide
      have htrim : Text.trim (Line.comment before words).spell =
          [CodePoint.ofChar '#'] ++ Text.trimEnd words.text := by
        rw [Line.spell, Text.trim_append_left before.isBlank]
        exact Text.trim_append_of_isTrimmed hcore (by simp) words.text
      simp only [assignment?, htrim]
      rfl

open Text in
theorem Line.isUnbroken_spell (line : Line) : line.spell.IsUnbroken := by
  cases line with
  | blank gap => exact gap.isUnbroken
  | other words h => exact words.isUnbroken
  | comment before words =>
      exact isUnbroken_append.mpr
        ⟨before.isUnbroken, isUnbroken_cons.mpr ⟨by decide, words.isUnbroken⟩⟩
  | assignment assigned =>
      have hlead : assigned.lead.IsUnbroken := by
        unfold Assignment.lead
        cases assigned.exported with
        | none => exact (by decide : IsUnbroken [])
        | some spaces =>
            refine isUnbroken_append.mpr ⟨by decide, ?_⟩
            intro c hc
            rw [List.eq_of_mem_replicate hc]
            decide
      have hmark : assigned.value.quoting.mark.IsUnbroken := by
        cases assigned.value.quoting <;> decide
      simp only [Line.spell, Assignment.spell, Assignment.side, Value.spell, isUnbroken_append,
        isUnbroken_cons]
      exact ⟨assigned.before.isUnbroken, hlead,
        ⟨assigned.name.isUnbroken, assigned.beforeEquals.isUnbroken⟩, by decide,
        assigned.afterEquals.isUnbroken, ⟨hmark, assigned.value.isUnbroken, hmark⟩,
        assigned.after.isUnbroken⟩

end EnvironmentFile

/-!
## Reading a file
-/

namespace Variables

variable {names : List Text} {name value : Text} {find : Text → Option (Text × Text)}

def last? (pairs : List (Text × Text)) (name : Text) : Option (Text × Text) :=
  pairs.reverse.find? (·.1 = name)

/-- The names in the order in which they are first assigned, each with what is assigned last. -/
def lastAssigned (pairs : List (Text × Text)) : Variables :=
  (pairs.map (·.1)).eraseDups.filterMap (last? pairs)

theorem last?_concat (pairs : List (Text × Text)) (pair : Text × Text) (name : Text) :
    last? (pairs ++ [pair]) name = if pair.1 = name then some pair else last? pairs name := by
  by_cases hname : pair.1 = name <;> simp [last?, hname]

theorem exists_last? {pairs : List (Text × Text)} (h : name ∈ pairs.map (·.1)) :
    ∃ value, last? pairs name = some (name, value) := by
  induction pairs using List.reverseRecOn with
  | nil => cases h
  | append_singleton pairs pair ih =>
      rw [last?_concat]
      by_cases hname : pair.1 = name
      · exact ⟨pair.2, by rw [if_pos hname, ← hname]⟩
      · rw [if_neg hname]
        apply ih
        simpa [Ne.symm hname] using h

/-- Setting a variable changes what is found for its name, which becomes the last one if it is
new. -/
theorem put_filterMap (hnodup : names.Nodup)
    (hfind : ∀ name ∈ names, ∃ value, find name = some (name, value)) (name value : Text) :
    put (names.filterMap find) name value =
      (if name ∈ names then names else names ++ [name]).filterMap
        fun other => if name = other then some (name, value) else find other := by
  induction names with
  | nil => simp [put]
  | cons first names ih =>
      rw [List.nodup_cons] at hnodup
      rw [List.forall_mem_cons] at hfind
      rcases hfind.left with ⟨old, hold⟩
      have hrest := ih hnodup.right hfind.right
      by_cases hname : first = name
      · subst hname
        have hsame : names.filterMap (fun other =>
            if first = other then some (first, value) else find other) = names.filterMap find := by
          apply List.filterMap_congr
          intro other hother
          rw [if_neg]
          rintro rfl
          exact hnodup.left hother
        simp [hold, put, hsame]
      · have hput : put ((first :: names).filterMap find) name value =
            (first, old) :: put (names.filterMap find) name value := by
          simp [hold, put, hname]
        rw [hput, hrest]
        by_cases hmem : name ∈ names <;> simp [hmem, hold, Ne.symm hname]

/-- What is set pair by pair is what is assigned last. -/
theorem ofPairs_eq_lastAssigned (pairs : List (Text × Text)) :
    ofPairs pairs = lastAssigned pairs := by
  induction pairs using List.reverseRecOn with
  | nil => rfl
  | append_singleton pairs pair ih =>
      have hfind : ∀ name ∈ (pairs.map (·.1)).eraseDups,
          ∃ value, last? pairs name = some (name, value) :=
        fun name hname => exists_last? (List.mem_eraseDups.mp hname)
      rw [ofPairs_concat, ih, lastAssigned, put_filterMap (nodup_eraseDups _) hfind, lastAssigned,
        List.map_append, List.map_singleton, eraseDups_concat]
      simp only [List.mem_eraseDups, last?_concat]

end Variables

namespace EnvironmentFile

variable {tree : FileTree} {path : Text} {bytes : List UInt8} {content : Text}

/-- The lines of a file are read as they were written, whatever ends them. -/
theorem parse_unifyNewlines_spell (file : List (Line × LineEnd)) :
    parse (Text.unifyNewlines (spell file)) = Variables.lastAssigned (entries file) := by
  have hunbroken : ∀ line ∈ file.map (fun line => (line.1.spell, line.2)),
      Text.IsUnbroken line.1 := by
    intro line hline
    rcases List.mem_map.mp hline with ⟨written, _, rfl⟩
    exact written.1.isUnbroken_spell
  have hlines : (Text.lines (Text.unifyNewlines (spell file))).filterMap assignment? =
      entries file := by
    calc
      (Text.lines (Text.unifyNewlines (spell file))).filterMap assignment? =
          ((file.map fun line => (line.1.spell, line.2)).map (·.1)).filterMap assignment? :=
        Text.filterMap_lines_unifyNewlinesFrom rfl hunbroken false
      _ = file.filterMap (fun line => assignment? line.1.spell) := by
        rw [List.map_map, List.filterMap_map]
        rfl
      _ = entries file := List.filterMap_congr fun line _ => assignment?_line line.1
  rw [parse, hlines, Variables.ofPairs_eq_lastAssigned]

theorem read?_of_holds (hpath : Path.fault? path = none)
    (hseen : tree.host.refusal .look path = none) (hopened : tree.host.refusal .read path = none)
    (hholds : tree.Holds path bytes) (hbytes : Utf8.encode content = .ok bytes) :
    read? tree path = .ok (some (parse (Text.unifyNewlines content))) := by
  rcases hholds with ⟨location, hentry⟩
  have hread : tree.read path = .ok bytes := by
    rw [FileTree.read, FileTree.attempt_of_none hopened, FileTree.content, hentry]
  have hprobe : tree.probe path = .ok (some (.file bytes)) := by
    rw [FileTree.probe, FileTree.look, FileTree.attempt_of_none hseen, hentry]
  have htext : tree.readText "utf-8" path = .ok (Text.unifyNewlines content) := by
    simp only [FileTree.readText, hread, FileTree.decode_of_select Charset.select_utf8,
      decodeFile_of_encode hbytes]
    rfl
  rw [read?, FileTree.readText?, hpath, if_neg (by simp), hprobe]
  dsimp only
  rw [htext]
  rfl

/-- A file that the machine lets the program read is read as it was written. -/
theorem read?_written (file : List (Line × LineEnd)) (hpath : Path.fault? path = none)
    (hseen : tree.host.refusal .look path = none) (hopened : tree.host.refusal .read path = none)
    (hbytes : Utf8.encode (spell file) = .ok bytes) (hholds : tree.Holds path bytes) :
    read? tree path = .ok (some (Variables.lastAssigned (entries file))) := by
  rw [read?_of_holds hpath hseen hopened hholds hbytes, parse_unifyNewlines_spell]

/-!
One file holds lines of every form with all three endings.  A carriage return is followed by the
line feed of an empty line, and one name is assigned twice.
-/

def Gap.nothing : Gap := ⟨⟨[], by decide⟩, by decide⟩

def Gap.space : Gap := ⟨⟨" ", by decide⟩, by decide⟩

def colorName : Name where
  text := "COLOR"
  isUnbroken := by decide
  ne_nil := by decide
  isTrimmed := by decide
  equals_not_mem := by decide
  not_comment := by decide
  ne_export := by decide
  not_exported := by decide

def titleName : Name where
  text := "TITLE"
  isUnbroken := by decide
  ne_nil := by decide
  isTrimmed := by decide
  equals_not_mem := by decide
  not_comment := by decide
  ne_export := by decide
  not_exported := by decide

def blue : Value := ⟨⟨"blue", by decide⟩, .bare, by decide, by decide, by decide⟩

def red : Value := ⟨⟨"red", by decide⟩, .single, by decide, by decide, by decide⟩

def spacedTitle : Value := ⟨⟨" all imports ", by decide⟩, .double, by decide, by decide, by decide⟩

def mixedLines : List (Line × LineEnd) :=
  [(.comment .space ⟨" how graphs look", by decide⟩, .both),
    (.assignment ⟨.space, some ⟨2, by decide⟩, colorName, .space, .space, blue, .space⟩,
      .carriageReturn),
    (.blank .nothing, .lineFeed),
    (.other ⟨"export COLOR", by decide⟩ (by decide), .lineFeed),
    (.assignment ⟨.nothing, none, titleName, .nothing, .space, spacedTitle, .nothing⟩, .both),
    (.assignment ⟨.nothing, none, colorName, .nothing, .nothing, red, .space⟩, .lineFeed)]

def mixedBytes : List UInt8 :=
  (" # how graphs look\r\n export  COLOR = blue \r\nexport COLOR\nTITLE= \" all imports \"\r\n" ++
    "COLOR='red' \n").toList.map fun c => UInt8.ofNat c.toNat

def mixedAssignments : Variables := [("COLOR", "red"), ("TITLE", " all imports ")]

def lonelyTree (content : List UInt8) : FileTree where
  root := .directory [(".env", .file content)]
  here := []

theorem holds_lonelyTree (content : List UInt8) : (lonelyTree content).Holds ".env" content :=
  ⟨[".env"], by cbv⟩

theorem read?_mixedLines :
    Path.fault? ".env" = none ∧
      (lonelyTree mixedBytes).host.refusal .look ".env" = none ∧
      (lonelyTree mixedBytes).host.refusal .read ".env" = none ∧
      Utf8.encode (spell mixedLines) = .ok mixedBytes ∧
      (lonelyTree mixedBytes).Holds ".env" mixedBytes ∧
      read? (lonelyTree mixedBytes) ".env" = .ok (some mixedAssignments) := by
  have hpath : Path.fault? ".env" = none := by decide
  have hbytes : Utf8.encode (spell mixedLines) = .ok mixedBytes := by decide
  have hholds := holds_lonelyTree mixedBytes
  have hassigned : Variables.lastAssigned (entries mixedLines) = mixedAssignments := by
    decide
  refine ⟨hpath, rfl, rfl, hbytes, hholds, ?_⟩
  rw [read?_written mixedLines hpath rfl rfl hbytes hholds, hassigned]

end EnvironmentFile

end ImportAtlas
