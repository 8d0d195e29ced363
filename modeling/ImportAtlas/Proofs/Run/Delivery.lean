import ImportAtlas.Proofs.Environment.Growth
import ImportAtlas.Proofs.FileTree.Writing
import ImportAtlas.Proofs.Run.Repetition

/-!
# What a run delivers

All that can go wrong on the user's side goes wrong before anything is delivered: such a run prints
nothing and leaves every file as it is.  A run that succeeds has delivered the whole rendered graph
of the files that it found, to standard output or into the file that it was told to write.  Nothing
else is ever printed by a run, and no log record is.

The file to be written can be standard output by another name.  Then the graph is printed after all,
or what has been sent of it when writing breaks off.
-/

namespace ImportAtlas

/-- The file to be written leads back to standard output. -/
def FileTree.LeadsToOutput (tree : FileTree) (destination : Option (OptionValue TidyPath)) : Prop :=
  ∃ path, destination = some (.value path) ∧ tree.host.isOutlet path.toText = true

inductive StandardOutput.IsOpen : StandardOutput → Prop where
  | received : IsOpen .received
  | encoded (complaint : Text → Option Text) : IsOpen (.encoded complaint)

namespace Delivery

variable {tree : FileTree} {output : StandardOutput} {text : Text} {path : TidyPath}
  {destination : Option (OptionValue TidyPath)} {failure : Failure}

/-!
## Where a text goes
-/

theorem output_toOutput_cases (tree : FileTree) (output : StandardOutput) (text : Text) :
    (toOutput tree output text).output = [] ∨ (toOutput tree output text).output = text := by
  unfold toOutput
  split
  case h_2 => exact Or.inr rfl
  case h_3 => exact Or.inr rfl
  all_goals exact Or.inl rfl

theorem output_toOutput_of_isOpen (hopen : output.IsOpen)
    (h : (toOutput tree output text).report.outcome = .ok ()) :
    (toOutput tree output text).output = text := by
  unfold toOutput at h ⊢
  cases hrefusal : output.refusal? text with
  | some fault =>
      rw [hrefusal] at h
      cases h
  | none => cases hopen <;> rfl

theorem output_settle_cases (tree : FileTree) (path : Text) (sent : List UInt8)
    (stop : Option SystemFault) : (settle tree path sent stop).output = [] ∨
      tree.host.isOutlet path = true ∧
        (settle tree path sent stop).output = Utf8.decodeName sent := by
  have hshown : shown tree path sent = [] ∨
      tree.host.isOutlet path = true ∧ shown tree path sent = Utf8.decodeName sent := by
    unfold shown
    by_cases houtlet : tree.host.isOutlet path = true
    · exact Or.inr ⟨houtlet, if_pos houtlet⟩
    · exact Or.inl (if_neg houtlet)
  unfold settle
  split
  case h_1 => exact Or.inl rfl
  case h_2 => exact hshown
  case h_3 => exact hshown

/-- Bytes arrive at standard output only when the path leads there, and then a front part of them
does. -/
theorem output_send_cases (tree : FileTree) (path : Text) (bytes : List UInt8) :
    (send tree path bytes).output = [] ∨ tree.host.isOutlet path = true ∧
      ∃ sent, sent <+: bytes ∧ (send tree path bytes).output = Utf8.decodeName sent := by
  unfold send
  split
  case h_1 =>
    exact (output_settle_cases tree path bytes none).imp_right fun h =>
      ⟨h.left, bytes, List.prefix_rfl, h.right⟩
  case h_2 count fault _ =>
    exact (output_settle_cases tree path (bytes.take count) (some fault)).imp_right fun h =>
      ⟨h.left, _, List.take_prefix count bytes, h.right⟩

theorem send_of_none {path : Text} {bytes : List UInt8}
    (h : tree.host.breakOff path bytes = none) :
    send tree path bytes = settle tree path bytes none := by
  simp only [send, h]

theorem send_of_some {path : Text} {bytes : List UInt8} {count : Nat} {fault : SystemFault}
    (h : tree.host.breakOff path bytes = some (count, fault)) :
    send tree path bytes = settle tree path (bytes.take count) (some fault) := by
  simp only [send, h]

theorem settle_of_store {path : Text} {sent : List UInt8} {filled : FileTree}
    (h : tree.store path sent = .ok filled) :
    settle tree path sent none =
        ⟨filled, shown tree path sent, .record (writtenRecord path)⟩ ∧
      ∀ fault, settle tree path sent (some fault) =
        ⟨filled, shown tree path sent, .fault (.failure (.output path fault))⟩ := by
  simp only [settle, h]
  exact ⟨trivial, fun _ => trivial⟩

theorem outcome_settle_some (path : Text) (sent : List UInt8) (fault : SystemFault) :
    (settle tree path sent (some fault)).report.outcome ≠ .ok () := by
  cases hstore : tree.store path sent with
  | error found => simp [settle, hstore, refuse, Reported.fault]
  | ok filled => simp [(settle_of_store hstore).right, Reported.fault]

theorem send_eq_of_outcome {path : Text} {bytes : List UInt8}
    (h : (send tree path bytes).report.outcome = .ok ()) : ∃ filled,
      tree.store path bytes = .ok filled ∧
        send tree path bytes = ⟨filled, shown tree path bytes, .record (writtenRecord path)⟩ := by
  cases hstop : tree.host.breakOff path bytes with
  | none =>
      rw [send_of_none hstop] at h ⊢
      cases hstore : tree.store path bytes with
      | error fault => simp [settle, hstore, refuse, Reported.fault] at h
      | ok filled => exact ⟨filled, rfl, (settle_of_store hstore).left⟩
  | some stop =>
      rw [send_of_some hstop] at h
      exact absurd h (outcome_settle_some _ _ _)

theorem host_of_write {path : Text} {content : List UInt8} {written : FileTree}
    (h : tree.write path content = .ok written) : written.host = tree.host :=
  FileTree.host_of_store (FileTree.attempt_eq_ok_iff.mp h).right

def ConcernsWriting (fault : RunFault) : Prop :=
  ∀ failure, fault = .failure failure → failure.exitCode = .ioFailure

theorem concernsWriting_abort (abort : Abort) : ConcernsWriting (.abort abort) := by
  intro failure h
  cases h

theorem concernsWriting_output (path : Text) (fault : SystemFault) :
    ConcernsWriting (.failure (.output path fault)) := by
  intro failure h
  cases h
  rfl

theorem fill_cases (tree : FileTree) (path text : Text) :
    (∃ fault, ConcernsWriting fault ∧
        (Path.fault? path ≠ none ∨ ∀ emptied, tree.write path [] ≠ .ok emptied) ∧
        fill tree path text = refuse tree fault) ∨
      ∃ emptied, Path.fault? path = none ∧ tree.write path [] = .ok emptied ∧
        ((∃ fault, ConcernsWriting fault ∧ ¬ text.IsWellFormed ∧
            fill tree path text = refuse emptied fault) ∨
          ∃ bytes, Utf8.encode text = .ok bytes ∧
            fill tree path text = send emptied path bytes) := by
  unfold fill
  cases Path.fault? path with
  | some fault => exact Or.inl ⟨_, concernsWriting_abort _, Or.inl (by simp), rfl⟩
  | none =>
      cases tree.write path [] with
      | error fault => exact Or.inl ⟨_, concernsWriting_output _ _, Or.inr (by simp), rfl⟩
      | ok emptied =>
          refine Or.inr ⟨emptied, rfl, rfl, ?_⟩
          rcases FileTree.encode_cases text with ⟨_, bytes, hbytes⟩ | ⟨hill, failure, hfailure⟩
          · rw [hbytes]
            exact Or.inr ⟨bytes, rfl, rfl⟩
          · rw [hfailure]
            exact Or.inl ⟨_, concernsWriting_abort _, hill, rfl⟩

theorem toFile_cases (tree : FileTree) (path : TidyPath) (text : Text) :
    (∃ made fault, ConcernsWriting fault ∧
        (made = tree ∨ made = (tree.ensureDirectories path.parent).1) ∧
        toFile tree path text = refuse made fault) ∨
      ∃ made, Path.fault? path.parent.toText = none ∧ tree.isTooDeep path.parent = false ∧
        tree.ensureDirectories path.parent = (made, none) ∧
        toFile tree path text = fill made path.toText text := by
  unfold toFile
  cases Path.fault? path.parent.toText with
  | some fault => exact Or.inl ⟨tree, _, concernsWriting_abort _, Or.inl rfl, rfl⟩
  | none =>
      cases tree.isTooDeep path.parent with
      | true => exact Or.inl ⟨tree, _, concernsWriting_abort _, Or.inl rfl, rfl⟩
      | false =>
          rcases tree.ensureDirectories path.parent with ⟨made, fault?⟩
          cases fault? with
          | some fault => exact Or.inl ⟨made, _, concernsWriting_output _ _, Or.inr rfl, rfl⟩
          | none => exact Or.inr ⟨made, rfl, rfl, rfl, rfl⟩

/-- What is printed of a text that goes into a file: nothing, or a front part of its bytes when the
file leads back to standard output. -/
def Echoes (tree : FileTree) (path text printed : Text) : Prop :=
  printed = [] ∨ tree.host.isOutlet path = true ∧ ∃ bytes sent, Utf8.encode text = .ok bytes ∧
    sent <+: bytes ∧ printed = Utf8.decodeName sent

theorem echoes_fill (tree : FileTree) (path text : Text) :
    Echoes tree path text (fill tree path text).output := by
  rcases fill_cases tree path text with
    ⟨fault, _, _, hfill⟩ | ⟨emptied, _, hempty, ⟨fault, _, _, hfill⟩ | ⟨bytes, hbytes, hfill⟩⟩
  · exact Or.inl (by rw [hfill]; rfl)
  · exact Or.inl (by rw [hfill]; rfl)
  · rw [Echoes, hfill, ← host_of_write hempty]
    exact (output_send_cases emptied path bytes).imp_right fun ⟨houtlet, sent, hsent, hprinted⟩ =>
      ⟨houtlet, bytes, sent, hbytes, hsent, hprinted⟩

theorem echoes_toFile (tree : FileTree) (path : TidyPath) (text : Text) :
    Echoes tree path.toText text (toFile tree path text).output := by
  rcases toFile_cases tree path text with ⟨made, fault, _, _, hfile⟩ | ⟨made, _, _, hmade, hfile⟩
  · exact Or.inl (by rw [hfile]; rfl)
  · have hhost := FileTree.host_ensureDirectories tree path.parent
    rw [hmade] at hhost
    rw [Echoes, hfile, ← hhost]
    exact echoes_fill made path.toText text

/-!
## Failures

The user's mistakes are found before a text is delivered, and what fails from then on is writing.
-/

theorem exitCode_of_refuse {fault : RunFault} (hfault : ConcernsWriting fault)
    (h : (refuse tree fault).report.outcome = .error (.failure failure)) :
    failure.exitCode = .ioFailure :=
  hfault failure (Except.error.inj h)

theorem exitCode_of_toOutput
    (h : (toOutput tree output text).report.outcome = .error (.failure failure)) :
    failure.exitCode = .ioFailure := by
  unfold toOutput at h
  split at h <;> cases h

theorem exitCode_of_send {path : Text} {bytes : List UInt8}
    (h : (send tree path bytes).report.outcome = .error (.failure failure)) :
    failure.exitCode = .ioFailure := by
  unfold send settle at h
  repeat' split at h
  all_goals cases h <;> rfl

theorem exitCode_of_fill {path : Text}
    (h : (fill tree path text).report.outcome = .error (.failure failure)) :
    failure.exitCode = .ioFailure := by
  rcases fill_cases tree path text with
    ⟨fault, hfault, _, hfill⟩ | ⟨emptied, _, _, ⟨fault, hfault, _, hfill⟩ | ⟨bytes, _, hfill⟩⟩
  · exact exitCode_of_refuse hfault (hfill ▸ h)
  · exact exitCode_of_refuse hfault (hfill ▸ h)
  · exact exitCode_of_send (hfill ▸ h)

theorem exitCode_of_deliver
    (h : (tree.deliver output destination text).report.outcome = .error (.failure failure)) :
    failure.exitCode = .ioFailure := by
  rcases destination with _ | _ | path
  · exact exitCode_of_toOutput h
  · cases h
  · rcases toFile_cases tree path text with ⟨made, fault, hfault, _, hfile⟩ | ⟨made, _, _, _, hfile⟩
    · rw [FileTree.deliver, hfile] at h
      exact exitCode_of_refuse hfault h
    · rw [FileTree.deliver, hfile] at h
      exact exitCode_of_fill h

/-!
## Files

Once a text is delivered into a file, the file holds its bytes.
-/

/-- The text has been delivered into a file, and printed when the file leads to standard output. -/
structure Fills (tree : FileTree) (path text : Text) (delivery : Delivery) : Prop where
  held : tree.IsGrounded → ∃ content, Utf8.encode text = .ok content ∧
    (delivery.tree.Holds path content ∨ delivery.tree.LeadsToDevice path)
  printed : tree.host.isOutlet path = true → delivery.output = text

theorem fills_fill {path : Text} (h : (fill tree path text).report.outcome = .ok ()) :
    Fills tree path text (fill tree path text) := by
  rcases fill_cases tree path text with
    ⟨fault, _, _, hfill⟩ | ⟨emptied, _, hempty, ⟨fault, _, _, hfill⟩ | ⟨bytes, hbytes, hfill⟩⟩
  · rw [hfill] at h
    cases h
  · rw [hfill] at h
    cases h
  · rw [hfill] at h ⊢
    rcases send_eq_of_outcome h with ⟨filled, hstore, hsend⟩
    rw [hsend]
    constructor
    · intro hgrounded
      have hemptied := FileTree.holds_of_store hgrounded
        (FileTree.attempt_eq_ok_iff.mp hempty).right
      exact ⟨bytes, hbytes, (FileTree.holds_of_store hemptied.left hstore).right⟩
    · intro houtlet
      rw [← host_of_write hempty] at houtlet
      exact (if_pos houtlet).trans (Utf8.decodeName_of_encode hbytes)

theorem fills_toFile (h : (toFile tree path text).report.outcome = .ok ()) :
    Fills tree path.toText text (toFile tree path text) := by
  rcases toFile_cases tree path text with ⟨made, fault, _, _, hfile⟩ | ⟨made, _, _, hmade, hfile⟩
  · rw [hfile] at h
    cases h
  · have hhost := FileTree.host_ensureDirectories tree path.parent
    rw [hmade] at hhost
    rw [hfile] at h ⊢
    have hfills := fills_fill h
    constructor
    · intro hgrounded
      have hextends := FileTree.extends_ensureDirectories hgrounded path.parent
      rw [hmade] at hextends
      exact hfills.held (hextends.isGrounded hgrounded)
    · intro houtlet
      exact hfills.printed (by rwa [hhost])

theorem held_of_deliver {value : OptionValue TidyPath} (hgrounded : tree.IsGrounded)
    (h : (tree.deliver output (some value) text).report.outcome = .ok ()) :
    ∃ path content, value = .value path ∧ Utf8.encode text = .ok content ∧
      ((tree.deliver output (some value) text).tree.Holds path.toText content ∨
        (tree.deliver output (some value) text).tree.LeadsToDevice path.toText) := by
  cases value with
  | blank => cases h
  | value path =>
      rcases (fills_toFile h).held hgrounded with ⟨content, hcontent, hholds⟩
      exact ⟨path, content, rfl, hcontent, hholds⟩

theorem output_deliver_eq (h : (tree.deliver output destination text).report.outcome = .ok ())
    (hprinted : destination = none ∧ output.IsOpen ∨ tree.LeadsToOutput destination) :
    (tree.deliver output destination text).output = text := by
  rcases hprinted with ⟨rfl, hopen⟩ | ⟨path, rfl, houtlet⟩
  · exact output_toOutput_of_isOpen hopen h
  · exact (fills_toFile h).printed houtlet

theorem output_deliver_cases (tree : FileTree) (output : StandardOutput)
    (destination : Option (OptionValue TidyPath)) (text : Text) :
    (tree.deliver output destination text).output = [] ∨
      destination = none ∧ (tree.deliver output destination text).output = text ∨
      tree.LeadsToOutput destination ∧ ∃ bytes sent, Utf8.encode text = .ok bytes ∧
        sent <+: bytes ∧ (tree.deliver output destination text).output = Utf8.decodeName sent := by
  rcases destination with _ | _ | path
  · rcases output_toOutput_cases tree output text with hnothing | hprinted
    · exact Or.inl hnothing
    · exact Or.inr (Or.inl ⟨rfl, hprinted⟩)
  · exact Or.inl rfl
  · rcases echoes_toFile tree path text with hnothing | ⟨houtlet, hshown⟩
    · exact Or.inl hnothing
    · exact Or.inr (Or.inr ⟨⟨path, rfl, houtlet⟩, hshown⟩)

end Delivery

namespace Invocation

variable {invocation : Invocation} {world : World} {git : GitAnswer} {output : StandardOutput}
  {text : Text} {fault : RunFault}

/-!
## The text of a run
-/

theorem bind_eq_ok_iff {α β ε : Type} {first : Except ε α} {next : α → Except ε β} {b : β} :
    first.bind next = .ok b ↔ ∃ a, first = .ok a ∧ next a = .ok b := by
  cases first <;> simp [Except.bind]

/-- The text is the rendered graph of the source files that the run finds. -/
def Renders (invocation : Invocation) (world : World) (git : GitAnswer) (text : Text) : Prop :=
  ∃ settings files graph, invocation.Finds world git settings files ∧
    (Graph.build settings (world.tree.readText settings.encoding) files).outcome = .ok graph ∧
    text = render invocation.format settings graph

def prepare (invocation : Invocation) (world : World) (git : GitAnswer) : Reported RunFault Text :=
  let (environment, loading) := world.environment.load world.tree invocation.environmentChoice
  loading.mapFault RunFault.ofLoad >>= fun _ => invocation.text ⟨world.tree, environment⟩ git

theorem outcome_prepare_eq_ok_iff :
    (invocation.prepare world git).outcome = .ok text ↔ invocation.Renders world git text := by
  simp only [prepare, Invocation.text, Invocation.graph, Reported.outcome_bind, Reported.mapFault,
    Reported.ofExcept, Reported.record, Reported.outcome_pure, bind_eq_ok_iff, mapError_eq_ok_iff]
  constructor
  · rintro ⟨_, hloaded, settings, hsettings, graph, ⟨files, hfiles, _, _, hbuild⟩, htext⟩
    exact ⟨settings, files, graph, ⟨⟨hloaded, hsettings⟩, hfiles⟩, hbuild,
      (Except.ok.inj htext).symm⟩
  · rintro ⟨settings, files, graph, hfinds, hbuild, rfl⟩
    exact ⟨(), hfinds.loaded, settings, hfinds.decided, graph,
      ⟨files, hfinds.found, (), trivial, hbuild⟩, rfl⟩

/-- A run that comes to no text leaves all files as they are and prints nothing. -/
theorem run_of_prepare_eq_error (h : (invocation.prepare world git).outcome = .error fault) :
    (invocation.run world git output).world.tree = world.tree ∧
      (invocation.run world git output).output = [] ∧
      (invocation.run world git output).ending ≠ .finished .success := by
  have hending : (conclude (invocation.prepare world git).records
      (.error fault : Except RunFault Unit)).2 ≠ .finished .success := by
    rcases fault with failure | abort
    · cases failure <;> simp [conclude, Failure.exitCode]
    · simp [conclude]
  simp only [prepare] at h hending
  simp only [run, h]
  exact ⟨trivial, trivial, hending⟩

/-- A run that comes to a text delivers it. -/
theorem run_of_renders (h : invocation.Renders world git text) :
    (invocation.run world git output).world.tree =
        (world.tree.deliver output invocation.output text).tree ∧
      (invocation.run world git output).output =
        (world.tree.deliver output invocation.output text).output ∧
      (invocation.run world git output).ending =
        (conclude [] (world.tree.deliver output invocation.output text).report.outcome).2 := by
  have hprepare := outcome_prepare_eq_ok_iff.mpr h
  simp only [prepare] at hprepare
  simp only [run, hprepare]
  exact ⟨trivial, trivial, conclude_ending _ _⟩

/-- Without an environment file the environment itself decides. -/
theorem Finds.of_no_file {settings : Settings} {files : List Text}
    (hnone : EnvironmentFile.first? world.tree invocation.environmentChoice.candidates = .ok none)
    (hdecided : invocation.settings world.environment = .ok settings)
    (hfound : (Discovery.sourceFiles world.tree settings git invocation.root).outcome = .ok files) :
    invocation.Finds world git settings files where
  loaded := by rw [Variables.load_of_none hnone]
  decided := by rwa [Variables.load_of_none hnone]
  found := hfound

theorem exists_fault_or_renders (invocation : Invocation) (world : World) (git : GitAnswer) :
    (∃ fault, (invocation.prepare world git).outcome = .error fault) ∨
      ∃ text, invocation.Renders world git text := by
  cases hprepare : (invocation.prepare world git).outcome with
  | error fault => exact Or.inl ⟨fault, rfl⟩
  | ok text => exact Or.inr ⟨text, outcome_prepare_eq_ok_iff.mp hprepare⟩

theorem eq_ok_of_conclude {outcome : Except RunFault Unit}
    (h : (conclude [] outcome).2 = .finished .success) : outcome = .ok () := by
  rcases outcome with (failure | abort) | _
  · cases failure <;> cases h
  · cases h
  · rfl

theorem exitNumber?_deliver {tree : FileTree} {destination : Option (OptionValue TidyPath)} :
    (conclude [] (tree.deliver output destination text).report.outcome).2.exitNumber? ∈
      [some 0, some 71, none] := by
  cases houtcome : (tree.deliver output destination text).report.outcome with
  | ok _ => simp [conclude, Ending.exitNumber?, ExitCode.number]
  | error fault =>
      cases fault with
      | abort abort => simp [conclude, Ending.exitNumber?]
      | failure failure =>
          simp [conclude, Ending.exitNumber?, Delivery.exitCode_of_deliver houtcome,
            ExitCode.number]

end Invocation

namespace World

/-- What a run writes, it writes as a whole, and what it rejects it does not write. -/
structure WritesAllOrNothing (world : World) (words : List Text) (git : GitAnswer)
    (output : StandardOutput) : Prop where
  /-- What is rejected prints nothing and changes no file. -/
  rejected : (world.run words git output).ending.exitNumber? ∈ [some 64, some 2] →
    (world.run words git output).output = [] ∧
      (world.run words git output).world.tree = world.tree
  /-- With a file to be written nothing is printed, unless the file leads to standard output. -/
  diverted : ∀ invocation, Invocation.ofTexts words = .ok invocation →
    invocation.output ≠ none → ¬ world.tree.LeadsToOutput invocation.output →
      (world.run words git output).output = []
  /-- On success the file to be written holds the whole text, unless it is a device. -/
  filled : world.tree.IsGrounded → ∀ invocation value, Invocation.ofTexts words = .ok invocation →
    invocation.output = some value → (world.run words git output).ending = .finished .success →
      ∃ path text content, value = .value path ∧ invocation.Renders world git text ∧
        Utf8.encode text = .ok content ∧
        ((world.run words git output).world.tree.Holds path.toText content ∨
          (world.run words git output).world.tree.LeadsToDevice path.toText)
  /-- On success the text is printed when there is no file to be written, or one that leads to
  standard output. -/
  printed : ∀ invocation, Invocation.ofTexts words = .ok invocation →
    invocation.output = none ∧ output.IsOpen ∨ world.tree.LeadsToOutput invocation.output →
      (world.run words git output).ending = .finished .success →
        invocation.Renders world git (world.run words git output).output
  /-- Nothing but help and the text is ever printed, so no log record is.  A text that goes to a
  file that leads to standard output may be cut off. -/
  unlogged : (world.run words git output).output = [] ∨
    (Invocation.ofTexts words = .error .help ∧
      (world.run words git output).output = Usage.help) ∨
    ∃ invocation text, Invocation.ofTexts words = .ok invocation ∧
      invocation.Renders world git text ∧
      (invocation.output = none ∧ (world.run words git output).output = text ∨
        world.tree.LeadsToOutput invocation.output ∧
          ∃ bytes sent, Utf8.encode text = .ok bytes ∧ sent <+: bytes ∧
            (world.run words git output).output = Utf8.decodeName sent)

variable {world : World} {words : List Text} {invocation : Invocation} {git : GitAnswer}
  {output : StandardOutput}

/-- A run that comes to no text writes nothing at all. -/
theorem writesAllOrNothing_of_error {fault : RunFault}
    (h : Invocation.ofTexts words = .ok invocation)
    (hfault : (invocation.prepare world git).outcome = .error fault) :
    world.WritesAllOrNothing words git output := by
  rcases Invocation.run_of_prepare_eq_error hfault with ⟨htree, houtput, hending⟩
  rw [← run_of_ofTexts h git output] at htree houtput hending
  exact {
    rejected := fun _ => ⟨houtput, htree⟩
    diverted := fun _ _ _ _ => houtput
    filled := fun _ _ _ _ _ hsuccess => absurd hsuccess hending
    printed := fun _ _ _ hsuccess => absurd hsuccess hending
    unlogged := Or.inl houtput }

theorem writesAllOrNothing_of_renders {text : Text}
    (h : Invocation.ofTexts words = .ok invocation)
    (htext : invocation.Renders world git text) : world.WritesAllOrNothing words git output := by
  rcases Invocation.run_of_renders htext with ⟨htree, houtput, hending⟩
  rw [← run_of_ofTexts h git output] at htree houtput hending
  have hsame : ∀ {other}, Invocation.ofTexts words = .ok other → other = invocation := by
    intro other hother
    rw [h] at hother
    exact (Except.ok.inj hother).symm
  exact {
    rejected := by
      intro hcode
      have hdelivered : (world.run words git output).ending.exitNumber? ∈
          [some 0, some 71, none] := by
        rw [hending]
        exact Invocation.exitNumber?_deliver
      simp only [List.mem_cons, List.not_mem_nil, or_false] at hcode hdelivered
      rcases hcode with hcode | hcode <;> simp [hcode] at hdelivered
    diverted := by
      intro other hother hdestination hoff
      rw [hsame hother] at hdestination hoff
      rw [houtput]
      rcases Delivery.output_deliver_cases world.tree output invocation.output text with
        hnothing | ⟨hnone, _⟩ | ⟨hleads, _⟩
      · exact hnothing
      · exact absurd hnone hdestination
      · exact absurd hleads hoff
    filled := by
      intro hgrounded other value hother hvalue hsuccess
      rw [hsame hother] at hvalue ⊢
      rw [hending, hvalue] at hsuccess
      rcases Delivery.held_of_deliver hgrounded (Invocation.eq_ok_of_conclude hsuccess) with
        ⟨path, content, rfl, hcontent, hholds⟩
      rw [htree, hvalue]
      exact ⟨path, text, content, rfl, htext, hcontent, hholds⟩
    printed := by
      intro other hother hprinted hsuccess
      rw [hsame hother] at hprinted ⊢
      rw [hending] at hsuccess
      rw [houtput,
        Delivery.output_deliver_eq (Invocation.eq_ok_of_conclude hsuccess) hprinted]
      exact htext
    unlogged := by
      rw [houtput]
      rcases Delivery.output_deliver_cases world.tree output invocation.output text with
        hnothing | hprinted | hshown
      · exact Or.inl hnothing
      · exact Or.inr (Or.inr ⟨invocation, text, h, htext, Or.inl hprinted⟩)
      · exact Or.inr (Or.inr ⟨invocation, text, h, htext, Or.inr hshown⟩) }

/-- A command line that asks for no run changes nothing, and at most it prints the help. -/
theorem writesAllOrNothing_of_halt {halt : Halt} (h : Invocation.ofTexts words = .error halt) :
    world.WritesAllOrNothing words git output := by
  have hnone : ∀ {invocation}, Invocation.ofTexts words ≠ .ok invocation := by
    intro invocation hok
    rw [h] at hok
    cases hok
  have houtput : (world.run words git output).output = [] ∨
      halt = .help ∧ (world.run words git output).output = Usage.help ∧
        (world.run words git output).ending = .helped := by
    cases halt with
    | refused fault => exact Or.inl (by simp only [run, h])
    | help =>
        simp only [run, h, help]
        split <;> simp
  exact {
    rejected := by
      intro hcode
      refine ⟨?_, by rw [run_of_halt h]⟩
      rcases houtput with hnothing | ⟨_, _, hhelped⟩
      · exact hnothing
      · simp [hhelped, Ending.exitNumber?] at hcode
    diverted := fun _ hok => absurd hok hnone
    filled := fun _ _ _ hok => absurd hok hnone
    printed := fun _ hok => absurd hok hnone
    unlogged := by
      rcases houtput with hnothing | ⟨rfl, hprinted, _⟩
      · exact Or.inl hnothing
      · exact Or.inr (Or.inl ⟨h, hprinted⟩) }

/-- Every run writes all or nothing. -/
theorem run_writesAllOrNothing (world : World) (words : List Text) (git : GitAnswer)
    (output : StandardOutput) : world.WritesAllOrNothing words git output := by
  cases h : Invocation.ofTexts words with
  | ok invocation =>
      rcases invocation.exists_fault_or_renders world git with ⟨fault, hfault⟩ | ⟨text, htext⟩
      · exact writesAllOrNothing_of_error h hfault
      · exact writesAllOrNothing_of_renders h htext
  | error halt => exact writesAllOrNothing_of_halt h

/-!
### A destination that holds nothing

A device takes a text as any file does, and has nothing to show for it.
-/

def withDevice : World where
  tree := {
    root := .directory [("a.ts", .file [0x78]), ("dev", .directory [("null", .device false)])]
    here := [] }
  environment := []

def deviceRun : Invocation := { quietRun with output := some (.value ⟨"/", ["dev", "null"]⟩) }

def quietSettings : Settings := { Settings.standard with useGit := false }

theorem ofTexts_deviceRun :
    Invocation.ofTexts ["--no-git", "-qqq", "-o", "/dev/null"] = .ok deviceRun := by
  decide

theorem finds_withDevice :
    deviceRun.Finds withDevice .missing quietSettings [Text.ofString "a.ts"] :=
  .of_no_file (by cbv) (by decide) (by cbv)

def lonelyGraph : Graph := ⟨["a.ts"], [⟨".", ["a.ts"]⟩], []⟩

theorem renders_withDevice : deviceRun.Renders withDevice .missing
    (render deviceRun.format quietSettings lonelyGraph) := by
  have hbuild : (Graph.build quietSettings (withDevice.tree.readText quietSettings.encoding)
      ["a.ts"]).outcome = .ok lonelyGraph := by
    cbv
  exact ⟨quietSettings, _, lonelyGraph, finds_withDevice, hbuild, rfl⟩

theorem store_device (content : List UInt8) :
    withDevice.tree.store "/dev/null" content = .ok withDevice.tree := by
  have hplace : withDevice.tree.place .file "/dev/null" =
      .ok (.entry ["dev", "null"] (.device false)) := by cbv
  simp only [FileTree.store, hplace]

theorem deliver_device : withDevice.tree.deliver .received deviceRun.output
      (render deviceRun.format quietSettings lonelyGraph) =
    ⟨withDevice.tree, [], .record (Delivery.writtenRecord "/dev/null")⟩ := by
  have hparent : Path.fault? (TidyPath.toText ⟨"/", ["dev"]⟩) = none := by decide
  have hpath : Path.fault? "/dev/null" = none := by decide
  have hmade : withDevice.tree.ensureDirectories ⟨"/", ["dev"]⟩ = (withDevice.tree, none) := by cbv
  have hempty : withDevice.tree.write "/dev/null" [] = .ok withDevice.tree := store_device []
  have hencode : ∃ content, Utf8.encode (render deviceRun.format quietSettings lonelyGraph) =
      .ok content := ⟨_, rfl⟩
  rcases hencode with ⟨content, hcontent⟩
  have hsend : Delivery.send withDevice.tree "/dev/null" content =
      ⟨withDevice.tree, [], .record (Delivery.writtenRecord "/dev/null")⟩ := by
    show Delivery.settle withDevice.tree "/dev/null" content none = _
    simp only [Delivery.settle, store_device]
    rfl
  have hname : TidyPath.toText ⟨"/", ["dev", "null"]⟩ = Text.ofString "/dev/null" := by decide
  have hdirectory : TidyPath.parent ⟨"/", ["dev", "null"]⟩ = ⟨"/", ["dev"]⟩ := rfl
  have hshallow : withDevice.tree.isTooDeep ⟨"/", ["dev"]⟩ = false := rfl
  show Delivery.toFile withDevice.tree ⟨"/", ["dev", "null"]⟩ _ = _
  simp only [Delivery.toFile, hdirectory, hparent, hshallow, hmade, hname, Delivery.fill, hpath,
    hempty, hcontent, hsend, Bool.false_eq_true, if_false]

theorem not_all_destinations_filled : ¬ ∀ (world : World) (words : List Text) (git : GitAnswer)
    (output : StandardOutput) (invocation : Invocation) (path : TidyPath),
    world.tree.IsGrounded → Invocation.ofTexts words = .ok invocation →
    invocation.output = some (.value path) →
    (world.run words git output).ending = .finished .success →
      ∃ text content, invocation.Renders world git text ∧ Utf8.encode text = .ok content ∧
        (world.run words git output).world.tree.Holds path.toText content := by
  intro hall
  rcases Invocation.run_of_renders renders_withDevice with ⟨htree, _, hending⟩
  rw [← run_of_ofTexts ofTexts_deviceRun .missing .received, deliver_device] at htree hending
  rcases hall withDevice _ .missing .received deviceRun ⟨"/", ["dev", "null"]⟩ ⟨_, rfl⟩
    ofTexts_deviceRun rfl hending with ⟨text, content, _, _, location, hentry⟩
  rw [htree] at hentry
  have hdevice : withDevice.tree.entry "/dev/null" =
      .ok (["dev", "null"], .device false) := by cbv
  have hname : TidyPath.toText ⟨"/", ["dev", "null"]⟩ = Text.ofString "/dev/null" := by decide
  rw [hname, hdevice] at hentry
  cases hentry

end World

end ImportAtlas
