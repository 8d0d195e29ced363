import ImportAtlas.Proofs.Graph.Build
import ImportAtlas.Proofs.Statement.Leftmost

/-!
# Packages that are listed files

A specifier that begins with neither a point nor a slash names a package.  It is looked up among the
listed files all the same, as it is spelled.  So a package import leads nowhere unless its name,
completed or not, happens to be the spelling of a listed file; then it becomes an edge.

A file that is spelled with a leading point or slash is never taken for a package.
-/

namespace ImportAtlas

namespace Specifier

/-- The specifier names a package, or something else outside the files. -/
def IsBare (specifier : Text) : Prop :=
  Text.startsWith "." specifier = false ∧ Text.startsWith "/" specifier = false

instance (specifier : Text) : Decidable (IsBare specifier) :=
  inferInstanceAs (Decidable (_ ∧ _))

theorem path_of_isBare {specifier : Text} (h : IsBare specifier) (file : Text) :
    path file specifier = specifier := by
  simp [path, h.left]

theorem exists_resolve?_iff {known extensions : List Text} {path : Text} :
    (∃ target, resolve? known extensions path = some target) ↔
      ∃ name ∈ known, name ∈ candidates extensions path := by
  unfold resolve?
  rw [← Option.isSome_iff_exists, List.find?_isSome]
  constructor
  · rintro ⟨name, hname, hknown⟩
    exact ⟨name, List.contains_iff_mem.mp hknown, hname⟩
  · rintro ⟨name, hknown, hname⟩
    exact ⟨name, hname, List.contains_iff_mem.mpr hknown⟩

/-- The candidates of a specifier begin like the specifier. -/
theorem isBare_of_mem_candidates {extensions : List Text} {specifier name : Text}
    (hne : specifier ≠ []) (h : IsBare specifier) (hname : name ∈ candidates extensions specifier) :
    IsBare name := by
  have happend : ∀ more, IsBare (specifier ++ more) := by
    intro more
    cases specifier with
    | nil => exact absurd rfl hne
    | cons c rest => exact h
  simp only [candidates, List.cons_append, List.mem_cons, List.mem_append, List.mem_map] at hname
  rcases hname with heq | ⟨ext, _, heq⟩ | ⟨ext, _, heq⟩
  · rw [heq]
    exact h
  · rw [← heq]
    exact happend ext
  · have hrelative : Text.startsWith "/" (Text.ofString "index" ++ ext) = false := rfl
    rw [← heq, Path.join, hrelative]
    simp only [Bool.false_eq_true, if_false]
    split
    · exact happend _
    · rw [List.append_assoc]
      exact happend _

end Specifier

namespace Statement

theorem specifier_ne_nil_of_mem_extract {reexports : Bool} {t : Text} {statement : Statement}
    (h : statement ∈ extract reexports t) : statement.specifier ≠ [] := by
  rcases exists_quoted_of_mem_extract h with ⟨quoted, hquoted⟩
  rw [hquoted]
  exact quoted.nonempty

end Statement

namespace Graph

variable {settings : Settings} {reader : SourceReader} {files : List Text} {graph : Graph}
  {file : Text}

def ImportsPackages (settings : Settings) (reader : SourceReader) (file : Text) : Prop :=
  ∀ content, reader file = .ok content →
    ∀ statement ∈ Statement.extract settings.includeReexports content,
      Specifier.IsBare statement.specifier

theorem exists_target?_iff {statement : Statement} (h : Specifier.IsBare statement.specifier) :
    (∃ target, target? settings files file statement = some target) ↔
      ∃ name ∈ files,
        name ∈ Specifier.candidates (optionalExtensions settings) statement.specifier := by
  unfold target?
  rw [Specifier.path_of_isBare h, Specifier.exists_resolve?_iff]

/-- Package imports become edges just where a listed file is spelled like a package. -/
theorem exists_edge_iff_spelled_like_package
    (hbuild : (build settings reader files).outcome = .ok graph)
    (hbare : ImportsPackages settings reader file) :
    (∃ edge ∈ graph.edges, edge.source = file) ↔
      file ∈ files ∧ ∃ content, reader file = .ok content ∧
        ∃ statement ∈ Statement.extract settings.includeReexports content, ∃ name ∈ files,
          name ∈ Specifier.candidates (optionalExtensions settings) statement.specifier := by
  constructor
  · rintro ⟨edge, hedge, hsource⟩
    rcases (mem_edges_iff hbuild edge).mp hedge with
      ⟨path, hpath, content, hcontent, statement, hstatement, target, htarget, heq⟩
    have hfile : path = file := by rw [← hsource, heq]
    subst hfile
    have hspelled := (exists_target?_iff (hbare content hcontent statement hstatement)).mp
      ⟨target, htarget⟩
    exact ⟨hpath, content, hcontent, statement, hstatement, hspelled⟩
  · rintro ⟨hfile, content, hcontent, statement, hstatement, hspelled⟩
    rcases (exists_target?_iff (hbare content hcontent statement hstatement)).mpr hspelled with
      ⟨target, htarget⟩
    refine ⟨⟨file, target, statement.items⟩, ?_, rfl⟩
    apply (mem_edges_iff hbuild _).mpr
    exact ⟨file, hfile, content, hcontent, statement, hstatement, target, htarget, rfl⟩

def lookalikes : List Text := ["a.ts", "react.ts"]

def lookalikeReader : SourceReader := fun path =>
  if path = "a.ts" then .ok "import React from \"react\";" else .ok ""

theorem importsPackages_lookalike : ImportsPackages Settings.standard lookalikeReader "a.ts" := by
  intro content hcontent
  have htext : content = Text.ofString "import React from \"react\";" := by
    simpa [lookalikeReader] using hcontent.symm
  rw [htext]
  decide

theorem build_lookalikes :
    (build Settings.standard lookalikeReader lookalikes).outcome =
      .ok ⟨lookalikes, [⟨".", lookalikes⟩], [⟨"a.ts", "react.ts", "React"⟩]⟩ := by
  rfl

theorem not_all_packages_dropped :
    ¬ ∀ settings reader files file graph, (build settings reader files).outcome = .ok graph →
      ImportsPackages settings reader file → ∀ edge ∈ graph.edges, edge.source ≠ file := by
  intro hdropped
  exact hdropped _ _ _ _ _ build_lookalikes importsPackages_lookalike
    ⟨"a.ts", "react.ts", "React"⟩ (by simp) rfl

theorem lookalike_spelled_like_package :
    ∃ graph, (build Settings.standard lookalikeReader lookalikes).outcome = .ok graph ∧
      ImportsPackages Settings.standard lookalikeReader "a.ts" ∧
      ((∃ edge ∈ graph.edges, edge.source = "a.ts") ↔
        Text.ofString "a.ts" ∈ lookalikes ∧ ∃ content, lookalikeReader "a.ts" = .ok content ∧
          ∃ statement ∈ Statement.extract Settings.standard.includeReexports content,
            ∃ name ∈ lookalikes, name ∈ Specifier.candidates
              (optionalExtensions Settings.standard) statement.specifier) :=
  ⟨_, build_lookalikes, importsPackages_lookalike,
    exists_edge_iff_spelled_like_package build_lookalikes importsPackages_lookalike⟩

/-- Packages are apart from files that are spelled with a leading point or slash. -/
theorem source_ne_of_anchored (hbuild : (build settings reader files).outcome = .ok graph)
    (hbare : ImportsPackages settings reader file)
    (hanchored : ∀ name ∈ files, ¬ Specifier.IsBare name) :
    ∀ edge ∈ graph.edges, edge.source ≠ file := by
  intro edge hedge hsource
  rcases (mem_edges_iff hbuild edge).mp hedge with
    ⟨path, _, content, hcontent, statement, hstatement, target, htarget, heq⟩
  have hfile : path = file := by rw [← hsource, heq]
  subst hfile
  have hpackage := hbare content hcontent statement hstatement
  rcases (exists_target?_iff hpackage).mp ⟨target, htarget⟩ with ⟨name, hname, hcandidate⟩
  have hne := Statement.specifier_ne_nil_of_mem_extract hstatement
  exact hanchored name hname (Specifier.isBare_of_mem_candidates hne hpackage hcandidate)

end Graph

end ImportAtlas
