import Mathlib.Data.List.Basic
import ModuleLint.Proofs.Checks
import ModuleLint.Proofs.Stems

/-!
# The name and the place of definition files

Two rules look at the definition file of a module, one at its name and one at its path. The name is
judged by its stem, the path by its end. If the name of the module is one segment, a file whose path
ends as it should is also called as it should, so that every misnamed file is misplaced too. A file
with the right name may still lie in the wrong directory.
-/

namespace ModuleLint.Rules

/-- A check reports a file. -/
def Reports (check : Context → List Finding) (ctx : Context) (f : SourceFile) : Prop :=
  ∃ g ∈ check ctx, g.file = f.path

instance (check : Context → List Finding) (ctx : Context) (f : SourceFile) :
    Decidable (Reports check ctx f) :=
  inferInstanceAs (Decidable (∃ g ∈ check ctx, _))

/-- A definition file is called after a module. -/
def IsNamedAfter (module_ : String) (f : SourceFile) : Prop :=
  f.name = module_ ++ ".module" ++ f.extension

/-- A definition file lies in a directory that is called like a module, and is called after that
module. The directory may be the first of the path. -/
def LiesInPlace (module_ : String) (f : SourceFile) : Prop :=
  ∃ outer, (outer = "" ∨ ∃ dirs, outer = dirs ++ "/") ∧
    f.path = outer ++ (module_ ++ "/" ++ (module_ ++ ".module") ++ f.extension)

section Files

variable {module_ : String} {f : SourceFile}

/-- The stem of a file is the one asked for just if the file is called after the module. -/
theorem stem_eq_iff : Path.stem f.name = module_ ++ ".module" ↔ IsNamedAfter module_ f := by
  have hname : Path.stem f.name ++ f.extension = f.name := by
    rw [Path.stem, SourceFile.name, Path.name_name]
    exact Path.stem_append_extension _
  rw [IsNamedAfter, ← String.append_left_inj f.extension, hname]

/-- A path ends as it should just if the file lies in place. -/
theorem path_ends_iff (expected : String)
    (hexpected : expected = module_ ++ "/" ++ (module_ ++ ".module") ++ f.extension) :
    (f.path = expected ∨ ("/" ++ expected).toList <:+ f.path.toList) ↔ LiesInPlace module_ f := by
  rw [LiesInPlace, ← hexpected]
  constructor
  · rintro (heq | ⟨before, hbefore⟩)
    · exact ⟨"", .inl rfl, by simpa using heq⟩
    · refine ⟨String.ofList before ++ "/", .inr ⟨_, rfl⟩, String.toList_injective ?_⟩
      rw [← hbefore]
      simp
  · rintro ⟨outer, rfl | ⟨dirs, rfl⟩, hpath⟩
    · exact .inl (by simpa using hpath)
    · refine .inr ⟨dirs.toList, ?_⟩
      rw [hpath]
      simp

/-- What a definition file of a module is called is a segment, if the module is called by one. -/
theorem isSegment_definition (hslash : '/' ∉ module_.toList) :
    Path.IsSegment (module_ ++ ".module" ++ f.extension) where
  ne_empty := by
    intro hempty
    simpa using congrArg String.length hempty
  ne_here := by
    intro hhere
    have hlength := congrArg String.length hhere
    have hwords : ".module".length = 7 ∧ ".".length = 1 := by decide
    rw [String.length_append, String.length_append] at hlength
    omega
  no_slash := by
    have hextension : '/' ∉ f.extension.toList := Path.slash_notMem_extension f.path
    simp [hslash, hextension]

/-- A file that lies in place is called after its module. -/
theorem LiesInPlace.isNamedAfter (hslash : '/' ∉ module_.toList) (h : LiesInPlace module_ f) :
    IsNamedAfter module_ f := by
  obtain ⟨outer, -, hpath⟩ := h
  refine Path.name_eq_of_isSuffix (isSegment_definition hslash) ⟨(outer ++ module_).toList, ?_⟩
  rw [hpath]
  simp

end Files

instance (module_ : String) (f : SourceFile) : Decidable (IsNamedAfter module_ f) :=
  inferInstanceAs (Decidable (_ = _))

instance (module_ : String) (f : SourceFile) : Decidable (LiesInPlace module_ f) :=
  decidable_of_iff _ (path_ends_iff _ rfl)

section Findings

variable {ctx : Context}

/-- Outside the application's own module the definition files that are not called after the module
are reported, in their order. -/
theorem map_file_moduleNaming (hname : ctx.module_ ≠ Grouping.applicationModule) :
    (moduleNaming ctx).map (·.file) =
      ((ctx.withRole [.definition]).filter fun f => ¬ IsNamedAfter ctx.module_ f).map (·.path) := by
  have happ : ¬ isApplication ctx = true := by simpa [isApplication] using hname
  rw [moduleNaming, if_neg happ, flatMap_whenever, List.map_map]
  refine congrArg (List.map _) (List.filter_congr fun f _ => ?_)
  rw [definitionStem, Bool.eq_iff_iff, bne_iff_ne, decide_eq_true_eq, ne_eq, stem_eq_iff]

/-- Outside the application's own module the definition files that do not lie in place are
reported, in their order. -/
theorem map_file_modulePath (hname : ctx.module_ ≠ Grouping.applicationModule) :
    (modulePath ctx).map (·.file) =
      ((ctx.withRole [.definition]).filter fun f => ¬ LiesInPlace ctx.module_ f).map (·.path) := by
  have happ : ¬ isApplication ctx = true := by simpa [isApplication] using hname
  rw [modulePath, if_neg happ, flatMap_whenever, List.map_map]
  refine congrArg (List.map _) (List.filter_congr fun f _ => ?_)
  rw [definitionStem, Bool.eq_iff_iff, Bool.and_eq_true, bne_iff_ne, Bool.not_eq_true',
    ← Bool.not_eq_true, List.isSuffixOf_iff_suffix, decide_eq_true_eq, ← path_ends_iff _ rfl,
    not_or]

/-- In the application's own module no definition file is reported. -/
theorem definitions_of_application (hname : ctx.module_ = Grouping.applicationModule) :
    moduleNaming ctx = [] ∧ modulePath ctx = [] := by
  have happ : isApplication ctx = true := by simpa [isApplication] using hname
  exact ⟨if_pos happ, if_pos happ⟩

/-- A check that tells the paths of the files that fail a test reports just those, if the test looks
at the paths alone. -/
theorem reports_iff_not {check : Context → List Finding} {files : List SourceFile}
    {test : SourceFile → Prop} [DecidablePred test]
    (hcheck : (check ctx).map (·.file) = (files.filter fun f => ¬ test f).map (·.path))
    (htest : ∀ f f' : SourceFile, f.path = f'.path → (test f ↔ test f'))
    {f : SourceFile} (hf : f ∈ files) : Reports check ctx f ↔ ¬ test f := by
  rw [Reports, ← List.mem_map, hcheck]
  constructor
  · intro hmem
    -- The file that the check saw may be another one with the same path.
    obtain ⟨f', hf', hpath⟩ := List.mem_map.mp hmem
    have hfails : ¬ test f' := by simpa using (List.mem_filter.mp hf').2
    exact fun hpasses => hfails ((htest f' f hpath).mpr hpasses)
  · exact fun h => List.mem_map.mpr ⟨f, List.mem_filter.mpr ⟨hf, by simpa using h⟩, rfl⟩

/-- A definition file is reported for its name just if it is not called after its module, and that
is not the application's own. -/
theorem reports_moduleNaming_iff {f : SourceFile} (hf : f ∈ ctx.withRole [.definition]) :
    Reports moduleNaming ctx f ↔
      ctx.module_ ≠ Grouping.applicationModule ∧ ¬ IsNamedAfter ctx.module_ f := by
  by_cases hname : ctx.module_ = Grouping.applicationModule
  · simp [Reports, (definitions_of_application hname).1, hname]
  · rw [and_iff_right hname]
    refine reports_iff_not (map_file_moduleNaming hname) (fun f f' hpath => ?_) hf
    rw [IsNamedAfter, IsNamedAfter, SourceFile.name, SourceFile.extension, hpath]
    rfl

/-- A definition file is reported for its path just if it does not lie in place, and its module is
not the application's own. -/
theorem reports_modulePath_iff {f : SourceFile} (hf : f ∈ ctx.withRole [.definition]) :
    Reports modulePath ctx f ↔
      ctx.module_ ≠ Grouping.applicationModule ∧ ¬ LiesInPlace ctx.module_ f := by
  by_cases hname : ctx.module_ = Grouping.applicationModule
  · simp [Reports, (definitions_of_application hname).2, hname]
  · rw [and_iff_right hname]
    refine reports_iff_not (map_file_modulePath hname) (fun f f' hpath => ?_) hf
    rw [LiesInPlace, LiesInPlace, SourceFile.extension, hpath]
    rfl

/-- In a module that is called by one segment, every definition file that is reported for its name
is reported for its path too, as often and in the same order. What is reported for its name is not
called after the module, what is reported for its path does not lie in place, and what lies in place
is called after the module. In the application's own module neither is reported. -/
theorem misplaced_of_misnamed (ctx : Context) (hslash : '/' ∉ ctx.module_.toList) :
    (∀ f ∈ ctx.files, f.role = .definition →
      (Reports moduleNaming ctx f → Reports modulePath ctx f) ∧
      (LiesInPlace ctx.module_ f → IsNamedAfter ctx.module_ f) ∧
      (Reports moduleNaming ctx f ↔
        ctx.module_ ≠ Grouping.applicationModule ∧ ¬ IsNamedAfter ctx.module_ f) ∧
      (Reports modulePath ctx f ↔
        ctx.module_ ≠ Grouping.applicationModule ∧ ¬ LiesInPlace ctx.module_ f)) ∧
    ((moduleNaming ctx).map (·.file)).Sublist ((modulePath ctx).map (·.file)) ∧
    (ctx.module_ = Grouping.applicationModule → moduleNaming ctx = [] ∧ modulePath ctx = []) := by
  refine ⟨fun f hf hrole => ?_, ?_, definitions_of_application⟩
  · have hmem : f ∈ ctx.withRole [.definition] := List.mem_filter.mpr ⟨hf, by simp [hrole]⟩
    have hnaming := reports_moduleNaming_iff hmem
    have hpath := reports_modulePath_iff hmem
    refine ⟨fun hreports => ?_, LiesInPlace.isNamedAfter hslash, hnaming, hpath⟩
    obtain ⟨hname, hmisnamed⟩ := hnaming.mp hreports
    exact hpath.mpr ⟨hname, fun hplace => hmisnamed (hplace.isNamedAfter hslash)⟩
  · by_cases hname : ctx.module_ = Grouping.applicationModule
    · rw [(definitions_of_application hname).1]
      exact List.nil_sublist _
    · rw [map_file_moduleNaming hname, map_file_modulePath hname]
      refine (List.monotone_filter_right _ fun f hmisnamed => ?_).map _
      rw [decide_eq_true_eq] at hmisnamed ⊢
      exact fun hplace => hmisnamed (hplace.isNamedAfter hslash)

end Findings

/-- A module with three definition files: one with the wrong name, one with the right name in the
wrong directory, and one in place. -/
def scatteredModule : Context where
  module_ := "user"
  files := [.ofPath "src/user/users.module.ts", .ofPath "src/user/parts/user.module.ts",
    .ofPath "src/user/user.module.ts"]
  parsed := fun _ => none
  resolverFields := []

/-- The first is reported for its name and its path, the second for its path alone, and the third
not at all. -/
theorem misplaced_of_misnamed_scattered :
    '/' ∉ scatteredModule.module_.toList ∧
      (∀ f ∈ scatteredModule.files, f.role = .definition) ∧
      Reports modulePath scatteredModule (.ofPath "src/user/users.module.ts") ∧
      ¬ Reports moduleNaming scatteredModule (.ofPath "src/user/parts/user.module.ts") ∧
      Reports modulePath scatteredModule (.ofPath "src/user/parts/user.module.ts") ∧
      ¬ Reports moduleNaming scatteredModule (.ofPath "src/user/user.module.ts") ∧
      ¬ Reports modulePath scatteredModule (.ofPath "src/user/user.module.ts") := by
  have hslash : '/' ∉ scatteredModule.module_.toList := by decide
  have hroles : ∀ f ∈ scatteredModule.files, f.role = .definition := by decide +kernel
  have hfiles := (misplaced_of_misnamed scatteredModule hslash).1
  obtain ⟨hboth, -, hfirst, -⟩ := hfiles _ List.mem_cons_self (hroles _ List.mem_cons_self)
  have hsecond : SourceFile.ofPath "src/user/parts/user.module.ts" ∈ scatteredModule.files :=
    .tail _ (.head _)
  have hthird : SourceFile.ofPath "src/user/user.module.ts" ∈ scatteredModule.files :=
    .tail _ (.tail _ (.head _))
  obtain ⟨-, -, hnaming, hpath⟩ := hfiles _ hsecond (hroles _ hsecond)
  obtain ⟨-, hcalled, hnaming', hpath'⟩ := hfiles _ hthird (hroles _ hthird)
  have hplace : LiesInPlace "user" (.ofPath "src/user/user.module.ts") := by decide +kernel
  refine ⟨hslash, hroles, hboth (hfirst.mpr ⟨by decide, by decide +kernel⟩), ?_,
    hpath.mpr ⟨by decide, by decide +kernel⟩, ?_, ?_⟩
  · exact fun h => (hnaming.mp h).2 (by decide +kernel)
  · exact fun h => (hnaming'.mp h).2 (hcalled hplace)
  · exact fun h => (hpath'.mp h).2 hplace

end ModuleLint.Rules
