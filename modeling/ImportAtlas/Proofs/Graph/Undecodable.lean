import ImportAtlas.Proofs.Encoding.Contents
import ImportAtlas.Proofs.FileTree.Stored
import ImportAtlas.Proofs.Graph.Imports

/-!
# Files that are no text

Which bytes are valid in an encoding is a matter of the encoding alone.  A file whose bytes are not
is passed over with a warning, in whichever way they fail, and the graph keeps its place.  There is
one exception: units of UTF-16 that no mark announces end the building.
-/

namespace ImportAtlas

variable {encoding : Text} {bytes : List UInt8} {charset : Charset} {fault : DecodeFault}

namespace Charset

/-!
## Named encodings
-/

def IsNamed (charset : Charset) (name : Text) : Prop := select name "codecs.open()" = .ok charset

def name : Charset → Text
  | utf8 => "utf-8"
  | utf8Signed => "utf-8-sig"
  | ascii => "ascii"
  | latin1 => "latin-1"
  | windows1252 => "cp1252"
  | utf16 => "utf-16"
  | utf16Order .little => "utf-16-le"
  | utf16Order .big => "utf-16-be"

theorem isNamed_name (charset : Charset) : charset.IsNamed charset.name := by
  unfold IsNamed
  cases charset with
  | utf16Order order => cases order <;> decide
  | _ => decide

/-!
## Units without a mark
-/

/-- The bytes of a file make up units of UTF-16 that stand for a text, but no mark announces their
order. -/
structure IsUnmarked (charset : Charset) (bytes : List UInt8) : Prop where
  utf16 : charset = .utf16
  nonempty : bytes ≠ []
  bare : ∀ order, ¬ Utf16.mark order <+: bytes
  spelled : ∃ t, SpelledBy (Utf16.write? .little) t bytes

theorem isUnmarked_iff : charset.IsUnmarked bytes ↔
    ∃ fault, charset.decodeStream bytes = .error fault ∧ fault.IsFatal := by
  rw [decodeStream_isFatal_iff]
  simp only [(Utf16.inverts_decoder .little).decode_eq_ok_iff, Utf16.mark?_eq_none_iff]
  constructor
  · rintro ⟨hcharset, hnonempty, hbare, t, ht⟩
    refine ⟨hcharset, hbare, ?_, t, ht⟩
    match bytes, hnonempty, ht with
    | [byte], _, ht =>
        rw [← (Utf16.inverts_decoder .little).decode_eq_ok_iff 0] at ht
        cases ht
    | _ :: _ :: _, _, _ => simp
  · rintro ⟨hcharset, hbare, hlong, hspelled⟩
    refine ⟨hcharset, ?_, hbare, hspelled⟩
    rintro rfl
    exact absurd hlong (by decide)

/-- All that a stream can find wrong beyond its bytes is that there is no mark. -/
theorem eq_missingMark_of_isFatal (h : charset.decodeStream bytes = .error fault)
    (hfatal : fault.IsFatal) : fault = .missingMark := by
  cases charset with
  | utf8Signed =>
      simp only [decodeStream] at h
      split at h
      case isTrue => cases h
      case isFalse => exact absurd hfatal (not_isFatal_of_decodeWhole h)
  | utf16 =>
      cases hwhole : utf16.decodeWhole bytes with
      | error failure =>
          simp only [decodeStream, hwhole] at h
          cases h
          exact absurd rfl (hfatal failure)
      | ok text =>
          simp only [decodeStream, hwhole, bind, Except.bind, Except.mapError] at h
          split at h <;> cases h
          rfl
  | _ => exact absurd hfatal (not_isFatal_of_decodeWhole h)

end Charset

namespace Graph

variable {settings : Settings} {tree : FileTree} {files : List Text} {path : Text}
  {content : Text → List UInt8}

/-!
## Building
-/

/-- The graph has every file as a node, and files that are no text have no edges.  There is one
warning for each time that such a file is listed. -/
structure SkipsUndecodable (settings : Settings) (charset : Charset)
    (content : Text → List UInt8) (files : List Text) (graph : Graph) (records : List LogRecord) :
    Prop where
  nodes : graph.files = files
  edgeless : ∀ path ∈ files, ¬ charset.IsText (content path) → ∀ edge ∈ graph.edges,
    edge.source ≠ path
  warned : ∃ cause : Text → DecodeCause, (records.filter (·.level = .warning)).Perm
    ((files.filter fun path => ¬ charset.IsText (content path)).map fun path =>
      skipRecord path
        ("cannot decode as " ++ settings.encoding ++ " (" ++ (cause path).message ++ ")"))

theorem readText_eq (hnamed : charset.IsNamed encoding)
    (hread : tree.read path = .ok bytes) :
    tree.readText encoding path =
      ((charset.decodeStream bytes).map Text.unifyNewlines).mapError ReadFault.undecodable := by
  unfold Charset.IsNamed at hnamed
  simp only [FileTree.readText, hread, FileTree.decode_of_select hnamed, decodeFile, hnamed, bind,
    Except.bind]
  cases charset.decodeStream bytes <;> rfl

theorem isOk_readText_iff (hnamed : charset.IsNamed encoding)
    (hread : tree.read path = .ok bytes) :
    (tree.readText encoding path).isOk = true ↔ charset.IsText bytes := by
  rw [readText_eq hnamed hread, ← Charset.isOk_decodeStream_iff]
  cases charset.decodeStream bytes <;> rfl

theorem isFatal_readText_iff (hnamed : charset.IsNamed encoding)
    (hread : tree.read path = .ok bytes) :
    IsFatal (tree.readText encoding) path ↔ charset.IsUnmarked bytes := by
  rw [IsFatal, readText_eq hnamed hread, Charset.isUnmarked_iff]
  cases charset.decodeStream bytes <;> simp [Except.map, Except.mapError]

def skipCause (reader : SourceReader) (path : Text) : DecodeCause :=
  match reader path with
  | .error (.undecodable (.undecodable failure)) => failure.cause
  | _ => .truncated

theorem skipReason_readText (hnamed : charset.IsNamed settings.encoding)
    (hread : tree.read path = .ok bytes) (hmarked : ¬ charset.IsUnmarked bytes)
    (htext : ¬ charset.IsText bytes) :
    skipReason settings (tree.readText settings.encoding) path =
      "cannot decode as " ++ settings.encoding ++ " (" ++
        (skipCause (tree.readText settings.encoding) path).message ++ ")" := by
  rw [Charset.isUnmarked_iff] at hmarked
  rw [← Charset.isOk_decodeStream_iff] at htext
  unfold skipReason skipCause
  rw [readText_eq hnamed hread]
  cases hstream : charset.decodeStream bytes with
  | ok text => exact absurd (by rw [hstream]; rfl) htext
  | error fault =>
      cases fault with
      | undecodable failure => rfl
      | _ => exact absurd ⟨_, hstream, fun _ h => by cases h⟩ hmarked

theorem skipsUndecodable_built (hnamed : charset.IsNamed settings.encoding)
    (hread : ∀ path ∈ files, tree.read path = .ok (content path))
    (hmarked : ∀ path ∈ files, ¬ charset.IsUnmarked (content path)) :
    SkipsUndecodable settings charset content files
      (built settings (tree.readText settings.encoding) files)
      (build settings (tree.readText settings.encoding) files).records := by
  have hsafe : ∀ path ∈ files, ¬ IsFatal (tree.readText settings.encoding) path := by
    intro path hpath
    rw [isFatal_readText_iff hnamed (hread path hpath)]
    exact hmarked path hpath
  refine ⟨rfl, ?_, skipCause (tree.readText settings.encoding), ?_⟩
  · intro path hpath htext edge hedge hsource
    have hbuild : (build settings (tree.readText settings.encoding) files).outcome =
        .ok (built settings (tree.readText settings.encoding) files) := by
      rw [build_eq hsafe]
    rcases (mem_edges_iff hbuild edge).mp hedge with
      ⟨source, _, text, htext', statement, _, target, _, rfl⟩
    cases hsource
    apply htext
    rw [← isOk_readText_iff hnamed (hread source hpath), htext']
    rfl
  · refine (filter_warning_build hsafe).trans (List.Perm.of_eq ?_)
    have hfilter : (files.filter fun path => !(tree.readText settings.encoding path).isOk) =
        files.filter fun path => ¬ charset.IsText (content path) := by
      apply List.filter_congr
      intro path hpath
      rw [Bool.eq_iff_iff]
      simp [← isOk_readText_iff hnamed (hread path hpath)]
    rw [hfilter]
    apply List.map_congr_left
    intro path hpath
    rw [List.mem_filter, decide_eq_true_eq] at hpath
    rw [skipReason_readText hnamed (hread path hpath.left) (hmarked path hpath.left) hpath.right]

theorem eq_missingMark_of_fatalFault? (hnamed : charset.IsNamed encoding)
    (hread : tree.read path = .ok bytes)
    (h : fatalFault? (tree.readText encoding) path = some fault) : fault = .missingMark := by
  unfold fatalFault? at h
  rw [readText_eq hnamed hread] at h
  cases hstream : charset.decodeStream bytes with
  | ok text =>
      rw [hstream] at h
      cases h
  | error found =>
      rw [hstream] at h
      cases found with
      | undecodable failure => cases h
      | _ =>
          cases h
          exact Charset.eq_missingMark_of_isFatal hstream fun _ heq => by cases heq

theorem outcome_build_of_isUnmarked (hnamed : charset.IsNamed settings.encoding)
    (hread : ∀ path ∈ files, tree.read path = .ok (content path))
    (h : ∃ path ∈ files, charset.IsUnmarked (content path)) :
    (build settings (tree.readText settings.encoding) files).outcome = .error .missingMark := by
  rw [outcome_build_eq]
  cases hfault : firstFault? (tree.readText settings.encoding) files with
  | none =>
      rcases h with ⟨path, hpath, hunmarked⟩
      rw [← isFatal_readText_iff hnamed (hread path hpath)] at hunmarked
      exact absurd hunmarked (firstFault?_eq_none_iff.mp hfault path hpath)
  | some fault =>
      rcases List.exists_of_findSome?_eq_some hfault with ⟨path, hpath, hfound⟩
      rw [(byDirectory_perm files).mem_iff] at hpath
      rw [eq_missingMark_of_fatalFault? hnamed (hread path hpath) hfound]

/-- Files whose bytes are not valid in the encoding cost the graph their edges and nothing else, and
are reported, unless one of them has units of UTF-16 that no mark announces.  Then no graph is
built. -/
theorem skips_undecodable_files_iff (settings : Settings) (charset : Charset) (tree : FileTree)
    (files : List Text) (content : Text → List UInt8)
    (hnamed : charset.IsNamed settings.encoding)
    (hread : ∀ path ∈ files, tree.read path = .ok (content path)) :
    ((∃ graph, (build settings (tree.readText settings.encoding) files).outcome = .ok graph ∧
        SkipsUndecodable settings charset content files graph
          (build settings (tree.readText settings.encoding) files).records) ↔
      ∀ path ∈ files, ¬ charset.IsUnmarked (content path)) ∧
    ((∃ path ∈ files, charset.IsUnmarked (content path)) →
      (build settings (tree.readText settings.encoding) files).outcome = .error .missingMark) := by
  refine ⟨⟨?_, ?_⟩, outcome_build_of_isUnmarked hnamed hread⟩
  · rintro ⟨graph, hgraph, _⟩ path hpath hunmarked
    rw [outcome_build_of_isUnmarked hnamed hread ⟨path, hpath, hunmarked⟩] at hgraph
    cases hgraph
  · intro hmarked
    have hsafe : ∀ path ∈ files, ¬ IsFatal (tree.readText settings.encoding) path := by
      intro path hpath
      rw [isFatal_readText_iff hnamed (hread path hpath)]
      exact hmarked path hpath
    exact ⟨_, by rw [build_eq hsafe], skipsUndecodable_built hnamed hread hmarked⟩

def brokenTree : FileTree where
  root := .directory [("a.ts", .file ("import './b'".toList.map fun c => UInt8.ofNat c.toNat)),
    ("b.ts", .file [0x78, 0xE2, 0x82])]
  here := []

def brokenContent (path : Text) : List UInt8 :=
  if path = "a.ts" then "import './b'".toList.map fun c => UInt8.ofNat c.toNat
  else [0x78, 0xE2, 0x82]

theorem skips_brokenTree :
    ¬ Charset.utf8.IsText (brokenContent "b.ts") ∧
    ∃ graph, (build Settings.standard (brokenTree.readText Settings.standard.encoding)
        ["a.ts", "b.ts"]).outcome = .ok graph ∧
      SkipsUndecodable Settings.standard .utf8 brokenContent ["a.ts", "b.ts"] graph
        (build Settings.standard (brokenTree.readText Settings.standard.encoding)
          ["a.ts", "b.ts"]).records := by
  have hread : ∀ path ∈ (["a.ts", "b.ts"] : List Text),
      brokenTree.read path = .ok (brokenContent path) := by
    intro path hpath
    simp only [List.mem_cons, List.not_mem_nil, or_false] at hpath
    rcases hpath with rfl | rfl
    · exact FileTree.read_of_child? rfl rfl (by decide) (by decide) rfl
    · exact FileTree.read_of_child? rfl rfl (by decide) (by decide) rfl
  have hmarked : ∀ path ∈ (["a.ts", "b.ts"] : List Text),
      ¬ Charset.utf8.IsUnmarked (brokenContent path) := by
    intro path _ hunmarked
    cases hunmarked.utf16
  refine ⟨by decide, ?_⟩
  exact (skips_undecodable_files_iff Settings.standard .utf8 brokenTree ["a.ts", "b.ts"]
    brokenContent (Charset.isNamed_name .utf8) hread).left.mpr hmarked

def unmarkedTree : FileTree where
  root := .directory [("a.ts", .file [0x61, 0x00, 0x62, 0x00])]
  here := []

theorem not_all_undecodable_files_skipped :
    ¬ ∀ (settings : Settings) (charset : Charset) (tree : FileTree) (files : List Text)
        (content : Text → List UInt8), charset.IsNamed settings.encoding →
        (∀ path ∈ files, tree.read path = .ok (content path)) →
        ∃ graph, (build settings (tree.readText settings.encoding) files).outcome = .ok graph ∧
          SkipsUndecodable settings charset content files graph
            (build settings (tree.readText settings.encoding) files).records := by
  intro h
  have hread : ∀ path ∈ (["a.ts"] : List Text),
      unmarkedTree.read path = .ok [0x61, 0x00, 0x62, 0x00] := by
    intro path hpath
    rw [List.mem_singleton.mp hpath]
    exact FileTree.read_of_child? rfl rfl (by decide) (by decide) rfl
  have hspelled : SpelledBy (Utf16.write? .little) "ab" ([0x61, 0x00] ++ ([0x62, 0x00] ++ [])) :=
    .cons (by decide) (.cons (by decide) .nil)
  have hunmarked : Charset.utf16.IsUnmarked [0x61, 0x00, 0x62, 0x00] :=
    ⟨rfl, by decide, by intro order; cases order <;> decide, _, hspelled⟩
  have hnamed : Charset.utf16.IsNamed "utf-16" := Charset.isNamed_name .utf16
  rcases h { Settings.standard with encoding := "utf-16" } .utf16 unmarkedTree ["a.ts"]
    (fun _ => [0x61, 0x00, 0x62, 0x00]) hnamed hread with ⟨graph, hgraph, _⟩
  rw [outcome_build_of_isUnmarked hnamed hread ⟨"a.ts", by simp, hunmarked⟩] at hgraph
  cases hgraph

end Graph

end ImportAtlas
