import ImportAtlas.Proofs.Run.Delivery

/-!
# What becomes of an older graph

The file that a run is told to write may hold an older graph.  A run that fails leaves it there,
with one exception: the file is emptied before it is filled.  So a graph that has no place in UTF-8
costs the older one, and so does a machine that breaks off while the new one is being written.
-/

namespace ImportAtlas

structure FileTree.Opens (tree : FileTree) (path : TidyPath) : Prop where
  named : ¬ tree.CannotName path
  shallow : tree.isTooDeep path.parent = false
  empties : tree.Empties path

namespace Delivery

variable {tree : FileTree} {text : Text} {path : TidyPath} {old left : List UInt8}

/-!
## Filling a file that is there
-/

/-- What is left in a file that has been emptied for a text and is not filled with it. -/
inductive Leaves (tree : FileTree) (path text : Text) : List UInt8 → Prop where
  | strange (h : ¬ text.IsWellFormed) : Leaves tree path text []
  | broken {bytes : List UInt8} {count : Nat} {fault : SystemFault}
      (encoded : Utf8.encode text = .ok bytes)
      (stopped : tree.host.breakOff path bytes = some (count, fault)) :
      Leaves tree path text (bytes.take count)

theorem leaves_congr {made : FileTree} {path : Text} (h : made.host = tree.host) :
    Leaves made path text left ↔ Leaves tree path text left := by
  constructor
  · intro hleaves
    cases hleaves with
    | strange h => exact .strange h
    | broken encoded stopped => exact .broken encoded (h ▸ stopped)
  · intro hleaves
    cases hleaves with
    | strange h => exact .strange h
    | broken encoded stopped => exact .broken encoded (h.symm ▸ stopped)

theorem holds_of_send {path : Text} {bytes : List UInt8} {count : Nat} {fault : SystemFault}
    (hgrounded : tree.IsGrounded) (hholds : tree.Holds path old)
    (h : tree.host.breakOff path bytes = some (count, fault)) :
    (send tree path bytes).tree.Holds path (bytes.take count) := by
  rcases FileTree.store_of_holds hgrounded hholds (bytes.take count) with ⟨filled, hstore, _, hheld⟩
  rw [send_of_some h, (settle_of_store hstore).right]
  exact hheld

theorem outcome_send {path : Text} {bytes : List UInt8} (hgrounded : tree.IsGrounded)
    (hholds : tree.Holds path old) :
    (send tree path bytes).report.outcome = .ok () ↔ tree.host.breakOff path bytes = none := by
  cases hstop : tree.host.breakOff path bytes with
  | none =>
      rcases FileTree.store_of_holds hgrounded hholds bytes with ⟨filled, hstore, _⟩
      rw [send_of_none hstop, (settle_of_store hstore).left]
      simp [Reported.record]
  | some stop =>
      rw [send_of_some hstop]
      simpa using outcome_settle_some path _ _

/-- A file that is emptied for a text is left with what there is then, or it is filled. -/
theorem holds_of_fill {path : Text} {emptied : FileTree} (hgrounded : tree.IsGrounded)
    (hholds : tree.Holds path old) (hpath : Path.fault? path = none)
    (hempty : tree.write path [] = .ok emptied) :
    (∀ left, Leaves tree path text left → (fill tree path text).tree.Holds path left ∧
        (fill tree path text).report.outcome ≠ .ok ()) ∧
      ((fill tree path text).report.outcome ≠ .ok () → ∃ left, Leaves tree path text left) := by
  rcases FileTree.store_of_holds hgrounded hholds [] with ⟨stored, hstore, hgrounded', hnothing⟩
  have hsame : stored = emptied := by
    rw [(FileTree.attempt_eq_ok_iff.mp hempty).right] at hstore
    exact (Except.ok.inj hstore).symm
  subst hsame
  have hhost := host_of_write hempty
  rcases fill_cases tree path text with
    ⟨fault, _, hclosed | hclosed, _⟩ | ⟨found, _, hfound, hrest⟩
  · exact absurd hpath hclosed
  · exact absurd hempty (hclosed stored)
  rw [hempty] at hfound
  cases hfound
  rcases hrest with ⟨fault, _, hill, hfill⟩ | ⟨bytes, hbytes, hfill⟩
  · rw [hfill]
    refine ⟨?_, fun _ => ⟨[], .strange hill⟩⟩
    intro left hleft
    cases hleft with
    | strange => exact ⟨hnothing, nofun⟩
    | broken encoded => exact absurd (Utf8.exists_encode_eq_ok_iff.mp ⟨_, encoded⟩) hill
  · rw [hfill]
    constructor
    · intro left hleft
      cases hleft with
      | strange hill => exact absurd (Utf8.exists_encode_eq_ok_iff.mp ⟨bytes, hbytes⟩) hill
      | broken encoded stopped =>
          rw [hbytes] at encoded
          cases encoded
          rw [← hhost] at stopped
          refine ⟨holds_of_send hgrounded' hnothing stopped, ?_⟩
          rw [Ne, outcome_send hgrounded' hnothing, stopped]
          simp
    · intro hfails
      rw [Ne, outcome_send hgrounded' hnothing, hhost] at hfails
      rcases Option.ne_none_iff_exists'.mp hfails with ⟨stop, hstop⟩
      exact ⟨_, .broken hbytes hstop⟩

theorem holds_of_leaves (hgrounded : tree.IsGrounded) (hholds : tree.Holds path.toText old)
    (hopens : tree.Opens path) (h : Leaves tree path.toText text left) :
    (toFile tree path text).tree.Holds path.toText left ∧
      (toFile tree path text).report.outcome ≠ .ok () := by
  rcases hopens with ⟨hnamed, hshallow, made, emptied, hmade, hempty⟩
  simp only [FileTree.CannotName, not_or, not_and, not_not] at hnamed
  have hextends := FileTree.extends_ensureDirectories hgrounded path.parent
  have hhost := FileTree.host_ensureDirectories tree path.parent
  rw [hmade] at hextends hhost
  have hfile : toFile tree path text = fill made path.toText text := by
    simp [toFile, hnamed.left, hshallow, hmade]
  rw [hfile]
  exact (holds_of_fill (hextends.isGrounded hgrounded) (hextends.holds hgrounded hholds)
    (hnamed.right ⟨made, hmade⟩) hempty).left left ((leaves_congr hhost).mpr h)

theorem holds_of_not_leaves (hgrounded : tree.IsGrounded) (hholds : tree.Holds path.toText old)
    (h : tree.Opens path → ∀ left, ¬ Leaves tree path.toText text left)
    (hfails : (toFile tree path text).report.outcome ≠ .ok ()) :
    (toFile tree path text).tree.Holds path.toText old := by
  have hextends := FileTree.extends_ensureDirectories hgrounded path.parent
  rcases toFile_cases tree path text with
    ⟨_, fault, _, rfl | rfl, hfile⟩ | ⟨made, hparent, hshallow, hmade, hfile⟩
  · rw [hfile]
    exact hholds
  · rw [hfile]
    exact hextends.holds hgrounded hholds
  · have hhost := FileTree.host_ensureDirectories tree path.parent
    rw [hmade] at hextends hhost
    have hkept := hextends.holds hgrounded hholds
    rcases fill_cases made path.toText text with
      ⟨fault, _, _, hfill⟩ | ⟨emptied, hpath, hempty, _⟩
    · rw [hfile, hfill]
      exact hkept
    · rw [hfile] at hfails
      rcases (holds_of_fill (hextends.isGrounded hgrounded) hkept hpath hempty).right hfails with
        ⟨left, hleft⟩
      have hopens : tree.Opens path :=
        ⟨by simp [FileTree.CannotName, hparent, hpath], hshallow, made, emptied, hmade, hempty⟩
      exact absurd ((leaves_congr hhost).mp hleft) (h hopens left)

end Delivery

namespace Invocation

variable {invocation : Invocation} {world : World} {git : GitAnswer} {output : StandardOutput}
  {path : TidyPath} {old left : List UInt8}

/-- What a run leaves in a file that it empties and does not fill: nothing, when it draws a graph
with a name that cannot be encoded, or what the machine has written when it breaks off. -/
inductive Spoils (invocation : Invocation) (world : World) (git : GitAnswer) (path : TidyPath) :
    List UInt8 → Prop where
  | strange (opens : world.tree.Opens path) (draws : invocation.DrawsStrangeName world git) :
      Spoils invocation world git path []
  | broken {text : Text} {bytes : List UInt8} {count : Nat} {fault : SystemFault}
      (opens : world.tree.Opens path) (renders : invocation.Renders world git text)
      (encoded : Utf8.encode text = .ok bytes)
      (stopped : world.tree.host.breakOff path.toText bytes = some (count, fault)) :
      Spoils invocation world git path (bytes.take count)

theorem drawsStrangeName_iff : invocation.DrawsStrangeName world git ↔
    ∃ text, invocation.Renders world git text ∧ ¬ text.IsWellFormed := by
  constructor
  · rintro ⟨hdrawn, settings, files, graph, hfinds, hbuild, hstrange⟩
    refine ⟨_, ⟨settings, files, graph, hfinds, hbuild, rfl⟩, ?_⟩
    rw [hfinds.isWellFormed_render_iff hbuild, not_or, not_not]
    exact ⟨hdrawn, hstrange⟩
  · rintro ⟨_, ⟨settings, files, graph, hfinds, hbuild, rfl⟩, hstrange⟩
    rw [hfinds.isWellFormed_render_iff hbuild, not_or, not_not] at hstrange
    exact ⟨hstrange.left, settings, files, graph, hfinds, hbuild, hstrange.right⟩

theorem spoils_iff : invocation.Spoils world git path left ↔ world.tree.Opens path ∧
    ∃ text, invocation.Renders world git text ∧
      Delivery.Leaves world.tree path.toText text left := by
  constructor
  · intro h
    cases h with
    | strange opens draws =>
        rcases drawsStrangeName_iff.mp draws with ⟨text, htext, hill⟩
        exact ⟨opens, text, htext, .strange hill⟩
    | broken opens renders encoded stopped =>
        exact ⟨opens, _, renders, .broken encoded stopped⟩
  · rintro ⟨hopens, text, htext, hleaves⟩
    cases hleaves with
    | strange hill => exact .strange hopens (drawsStrangeName_iff.mpr ⟨text, htext, hill⟩)
    | broken encoded stopped => exact .broken hopens htext encoded stopped

theorem holds_of_spoils (hgrounded : world.tree.IsGrounded)
    (hholds : world.tree.Holds path.toText old) (hpath : invocation.output = some (.value path))
    (h : invocation.Spoils world git path left) :
    (invocation.run world git output).world.tree.Holds path.toText left ∧
      (invocation.run world git output).ending ≠ .finished .success := by
  rcases spoils_iff.mp h with ⟨hopens, text, htext, hleaves⟩
  rcases run_of_renders htext with ⟨htree, _, hending⟩
  rcases Delivery.holds_of_leaves hgrounded hholds hopens hleaves with ⟨hleft, hfails⟩
  rw [hpath] at htree hending
  rw [htree, hending]
  exact ⟨hleft, fun hsuccess => hfails (eq_ok_of_conclude hsuccess)⟩

theorem holds_of_not_spoils (hgrounded : world.tree.IsGrounded)
    (hholds : world.tree.Holds path.toText old) (hpath : invocation.output = some (.value path))
    (h : ∀ left, ¬ invocation.Spoils world git path left)
    (hfails : (invocation.run world git output).ending ≠ .finished .success) :
    (invocation.run world git output).world.tree.Holds path.toText old := by
  rcases invocation.exists_fault_or_renders world git with ⟨fault, hfault⟩ | ⟨text, htext⟩
  · rw [(run_of_prepare_eq_error hfault).left]
    exact hholds
  · rcases run_of_renders htext with ⟨htree, _, hending⟩
    rw [hpath] at htree hending
    rw [htree]
    rw [hending] at hfails
    apply Delivery.holds_of_not_leaves hgrounded hholds
    · exact fun hopens left hleaves => h left (spoils_iff.mpr ⟨hopens, text, htext, hleaves⟩)
    · intro hsuccess
      exact hfails (congrArg (fun outcome => (conclude [] outcome).2) hsuccess)

end Invocation

namespace World

variable {world : World} {words : List Text} {path : TidyPath} {content : List UInt8}

/-- A run that fails keeps what the file that it is told to write holds, exactly unless it leaves
something else there, having emptied the file for a graph that cannot be encoded or that the machine
did not let it write as a whole. -/
theorem run_keeps_file_iff (git : GitAnswer) (output : StandardOutput)
    (hgrounded : world.tree.IsGrounded) (hholds : world.tree.Holds path.toText content)
    (hwords : ∀ invocation, Invocation.ofTexts words = .ok invocation →
      invocation.output = some (.value path))
    (hfails : (world.run words git output).ending ≠ .finished .success) :
    (world.run words git output).world.tree.Holds path.toText content ↔
      ∀ invocation left, Invocation.ofTexts words = .ok invocation →
        invocation.Spoils world git path left → left = content := by
  cases h : Invocation.ofTexts words with
  | error halt => simpa [run_of_halt h] using hholds
  | ok invocation =>
      have hpath := hwords invocation h
      rw [run_of_ofTexts h] at hfails ⊢
      constructor
      · rintro hkept _ left ⟨rfl⟩ hspoils
        exact ((Invocation.holds_of_spoils hgrounded hholds hpath hspoils).left.unique hkept)
      · intro hall
        by_cases hspoils : ∃ left, invocation.Spoils world git path left
        · rcases hspoils with ⟨left, hspoils⟩
          rw [← hall invocation left rfl hspoils]
          exact (Invocation.holds_of_spoils hgrounded hholds hpath hspoils).left
        · exact Invocation.holds_of_not_spoils hgrounded hholds hpath
            (not_exists.mp hspoils) hfails

/-!
### A name that is not UTF-8

One file with such a name is enough to empty the file with the older graph.
-/

def strangeName : Text := ⟨0xDCFF, by decide⟩ :: Text.ofString ".ts"

def olderGraph : List UInt8 := [0x6F, 0x6C, 0x64, 0x0A]

def withStrangeName : World where
  tree := {
    root := .directory [(strangeName, .file [0x78]), ("graph.dot", .file olderGraph)]
    here := [] }
  environment := []

def graphRun : Invocation := { quietRun with output := some (.value ⟨"", ["graph.dot"]⟩) }

theorem ofTexts_graphRun :
    Invocation.ofTexts ["--no-git", "-qqq", "-o", "graph.dot"] = .ok graphRun := by
  decide

set_option maxRecDepth 2048 in
theorem finds_withStrangeName :
    graphRun.Finds withStrangeName .missing quietSettings [strangeName] :=
  .of_no_file (by cbv) (by decide) (by cbv)

theorem holds_withStrangeName :
    withStrangeName.tree.Holds (TidyPath.toText ⟨"", ["graph.dot"]⟩) olderGraph :=
  ⟨["graph.dot"], by cbv⟩

theorem opens_withStrangeName : withStrangeName.tree.Opens ⟨"", ["graph.dot"]⟩ where
  named := by
    have hparent : Path.fault? (TidyPath.toText ⟨"", []⟩) = none := by decide
    have hpath : Path.fault? (TidyPath.toText ⟨"", ["graph.dot"]⟩) = none := by decide
    rintro (hfault | ⟨_, hfault⟩)
    · exact hfault hparent
    · exact hfault hpath
  shallow := rfl
  empties := by
    have hmade : withStrangeName.tree.ensureDirectories ⟨"", []⟩ =
        (withStrangeName.tree, none) := by cbv
    rcases FileTree.store_of_holds ⟨_, rfl⟩ holds_withStrangeName [] with ⟨emptied, hempty, _⟩
    exact ⟨_, emptied, hmade, hempty⟩

set_option maxRecDepth 2048 in
theorem spoils_withStrangeName :
    graphRun.Spoils withStrangeName .missing ⟨"", ["graph.dot"]⟩ [] := by
  have hbuild : (Graph.build quietSettings (withStrangeName.tree.readText quietSettings.encoding)
      [strangeName]).outcome = .ok ⟨[strangeName], [⟨".", [strangeName]⟩], []⟩ := by
    cbv
  have hstrange : ¬ strangeName.IsWellFormed := by decide
  exact .strange opens_withStrangeName
    ⟨by decide, quietSettings, _, _, finds_withStrangeName, hbuild,
      Or.inl ⟨strangeName, List.mem_singleton_self _, hstrange⟩⟩

theorem fails_withStrangeName :
    (withStrangeName.run ["--no-git", "-qqq", "-o", "graph.dot"] .missing .received).ending ≠
      .finished .success := by
  rw [run_of_ofTexts ofTexts_graphRun]
  exact (Invocation.holds_of_spoils ⟨_, rfl⟩ holds_withStrangeName rfl spoils_withStrangeName).right

theorem not_all_failures_keep_file : ¬ ∀ (world : World) (words : List Text) (git : GitAnswer)
    (output : StandardOutput) (invocation : Invocation) (path : TidyPath) (content : List UInt8),
    world.tree.IsGrounded → Invocation.ofTexts words = .ok invocation →
    invocation.output = some (.value path) → world.tree.Holds path.toText content →
    (world.run words git output).ending ≠ .finished .success →
      (world.run words git output).world.tree.Holds path.toText content := by
  intro hall
  have hkept := hall withStrangeName _ .missing .received graphRun ⟨"", ["graph.dot"]⟩ olderGraph
    ⟨_, rfl⟩ ofTexts_graphRun rfl holds_withStrangeName fails_withStrangeName
  have hnothing : (graphRun.run withStrangeName .missing .received).world.tree.Holds
      (TidyPath.toText ⟨"", ["graph.dot"]⟩) [] :=
    (Invocation.holds_of_spoils ⟨_, rfl⟩ holds_withStrangeName rfl spoils_withStrangeName).left
  rw [run_of_ofTexts ofTexts_graphRun] at hkept
  cases hkept.unique hnothing

theorem run_loses_olderGraph : withStrangeName.tree.IsGrounded ∧
    withStrangeName.tree.Holds (TidyPath.toText ⟨"", ["graph.dot"]⟩) olderGraph ∧
    Invocation.ofTexts ["--no-git", "-qqq", "-o", "graph.dot"] = .ok graphRun ∧
    graphRun.Spoils withStrangeName .missing ⟨"", ["graph.dot"]⟩ [] ∧
    ¬ (withStrangeName.run ["--no-git", "-qqq", "-o", "graph.dot"] .missing
      .received).world.tree.Holds (TidyPath.toText ⟨"", ["graph.dot"]⟩) olderGraph := by
  have hwords : ∀ invocation,
      Invocation.ofTexts ["--no-git", "-qqq", "-o", "graph.dot"] = .ok invocation →
        invocation.output = some (.value ⟨"", ["graph.dot"]⟩) := by
    intro invocation h
    rw [ofTexts_graphRun] at h
    cases h
    rfl
  refine ⟨⟨_, rfl⟩, holds_withStrangeName, ofTexts_graphRun, spoils_withStrangeName, ?_⟩
  rw [run_keeps_file_iff .missing .received ⟨_, rfl⟩ holds_withStrangeName hwords
    fails_withStrangeName]
  intro hkept
  cases hkept graphRun [] ofTexts_graphRun spoils_withStrangeName

end World

end ImportAtlas
