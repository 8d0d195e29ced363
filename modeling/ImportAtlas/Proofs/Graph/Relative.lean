import ImportAtlas.Proofs.Graph.Imports
import ImportAtlas.Proofs.Path.Normal
import ImportAtlas.Proofs.Path.Relocation
import ImportAtlas.Proofs.Specifier.Resolution

/-!
# Relative imports

A relative specifier names a place and not a spelling: the place to which its components lead from
the directory of the importing file.  When that place is listed, the import leads there and nowhere
else, since the exact file is tried before the path is completed in any way.
-/

namespace ImportAtlas

namespace Specifier

/-- A relative specifier in a file names the place to which it leads from the directory there. -/
theorem path_toText {base : NormalPath} (hbase : base.IsReduced) {specifier : Text}
    (hrelative : Text.startsWith "." specifier = true) :
    path base.toText specifier = (base.directory.follow specifier).toText := by
  unfold path
  rw [if_pos hrelative]
  exact hbase.normalize_join_directory (stops_isSlash_of_relative hrelative)

end Specifier

namespace Graph

variable {settings : Settings} {reader : SourceReader} {files : List Text}

theorem target?_of_mem {source : Text} {statement : Statement}
    (h : Specifier.path source statement.specifier ∈ files) :
    target? settings files source statement = some (Specifier.path source statement.specifier) :=
  Specifier.resolve?_of_mem h

theorem mem_edges_built {source content : Text} (hsource : source ∈ files)
    (hread : reader source = .ok content) {statement : Statement}
    (hstatement : statement ∈ Statement.extract settings.includeReexports content)
    (h : Specifier.path source statement.specifier ∈ files) :
    ⟨source, Specifier.path source statement.specifier, statement.items⟩ ∈
      (built settings reader files).edges := by
  have hfound := mem_importsOf_byDirectory hsource hread hstatement
  rw [edges_built, List.mem_filterMap]
  exact ⟨_, hfound, edge?_eq_some_iff.mpr ⟨target?_of_mem h, rfl, rfl⟩⟩

/-- Imports of a specifier in a file lead to one listed file, whatever the settings are. -/
structure LeadsTo (files : List Text) (source specifier target : Text) : Prop where
  resolved : ∀ (settings : Settings) (statement : Statement), statement.specifier = specifier →
    target? settings files source statement = some target
  edge : ∀ (settings : Settings) (reader : SourceReader),
    (∀ path ∈ files, ¬ IsFatal reader path) → ∀ content, reader source = .ok content →
    ∀ statement ∈ Statement.extract settings.includeReexports content,
      statement.specifier = specifier →
      ∃ graph, (build settings reader files).outcome = .ok graph ∧
        ⟨source, target, statement.items⟩ ∈ graph.edges

/-- A relative specifier is resolved to the place to which its components lead. -/
theorem relative_specifier_leads_to_place {base : NormalPath} (hbase : base.IsReduced)
    {specifier : Text} (hrelative : Text.startsWith "." specifier = true) :
    Specifier.path base.toText specifier = (base.directory.follow specifier).toText ∧
      ∀ target, base.directory.follow specifier = target →
        ∀ files : List Text, base.toText ∈ files → target.toText ∈ files →
          LeadsTo files base.toText specifier target.toText := by
  have hpath := Specifier.path_toText hbase hrelative
  refine ⟨hpath, ?_⟩
  intro target htarget files hsource hlisted
  rw [← htarget, ← hpath] at hlisted ⊢
  constructor
  · intro settings statement hspecifier
    subst hspecifier
    exact target?_of_mem hlisted
  · intro settings reader hsafe content hread statement hstatement hspecifier
    subst hspecifier
    exact ⟨_, outcome_build_eq_ok_iff.mpr ⟨hsafe, rfl⟩,
      mem_edges_built hsource hread hstatement hlisted⟩

def climbingFiles : List Text := ["../lib/a.ts", "../../up/b.ts"]

def climbingReader : SourceReader := fun path =>
  if path = "../lib/a.ts" then .ok "import B from '..//../up/./b.ts/'" else .ok ""

def climbingPlace : NormalPath := ⟨[], 1, ["lib", "a.ts"]⟩

theorem isReduced_climbingPlace : climbingPlace.IsReduced := by
  apply NormalPath.isReduced_relative 1
  intro name hname
  rcases List.mem_cons.mp hname with heq | hname
  · rw [heq]
    constructor <;> decide
  · rw [List.mem_singleton.mp hname]
    constructor <;> decide

theorem climbingFiles_leadsTo :
    climbingPlace.IsReduced ∧ climbingPlace.toText = "../lib/a.ts" ∧
      Text.startsWith "." "..//../up/./b.ts/" = true ∧
      LeadsTo climbingFiles "../lib/a.ts" "..//../up/./b.ts/" "../../up/b.ts" ∧
      (build Settings.standard climbingReader climbingFiles).outcome =
        .ok ⟨climbingFiles, [⟨"../lib", ["../lib/a.ts"]⟩, ⟨"../../up", ["../../up/b.ts"]⟩],
          [⟨"../lib/a.ts", "../../up/b.ts", "B"⟩]⟩ := by
  have hrelative : Text.startsWith "." "..//../up/./b.ts/" = true := rfl
  have hleads := (relative_specifier_leads_to_place isReduced_climbingPlace hrelative).right
    ⟨[], 2, ["up", "b.ts"]⟩ rfl climbingFiles List.mem_cons_self
    (List.mem_cons_of_mem _ List.mem_cons_self)
  exact ⟨isReduced_climbingPlace, rfl, hrelative, hleads, rfl⟩

end Graph

end ImportAtlas
