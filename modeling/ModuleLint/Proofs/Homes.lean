import ModuleLint.Proofs.Placement

/-!
# Classes with one home

A class can be put where no check of its place reports it just if all of its marks have the same
home. Every single mark has one. Two marks may ask for different ones, and there is no role that
would do for both: each mark is judged by itself.
-/

namespace ModuleLint.Rules

/-- The marks of a class agree on its home. -/
def HasOneHome (c : Declaration) : Prop :=
  ∀ mark ∈ Mark.ofClasses, ∀ mark' ∈ Mark.ofClasses, mark.IsOn c → mark'.IsOn c →
    mark.home c = mark'.home c

instance (c : Declaration) : Decidable (HasOneHome c) :=
  inferInstanceAs (Decidable (∀ mark ∈ Mark.ofClasses, ∀ mark' ∈ Mark.ofClasses, _))

section Classes

variable {c : Declaration}

/-- No mark of a class is misplaced in files of a role just if the role is the home of each. -/
theorem misplacedMarks_eq_nil_iff {role : Role} :
    misplacedMarks role c = [] ↔ ∀ mark ∈ Mark.ofClasses, mark.IsOn c → role = mark.home c := by
  rw [misplacedMarks, List.filter_eq_nil_iff]
  refine forall₂_congr fun mark _ => ?_
  rw [decide_eq_true_eq, Mark.IsMisplaced, not_and, not_not]

/-- Some role is the home of each mark of a class just if these agree on it. -/
theorem exists_misplacedMarks_eq_nil_iff :
    (∃ role, misplacedMarks role c = []) ↔ HasOneHome c := by
  simp only [misplacedMarks_eq_nil_iff]
  constructor
  · intro h mark hmark mark' hmark' hon hon'
    obtain ⟨role, hrole⟩ := h
    exact (hrole mark hmark hon).symm.trans (hrole mark' hmark' hon')
  · intro h
    by_cases hsome : ∃ mark ∈ Mark.ofClasses, mark.IsOn c
    · obtain ⟨mark, hmark, hon⟩ := hsome
      exact ⟨mark.home c, fun mark' hmark' hon' => h mark hmark mark' hmark' hon hon'⟩
    · -- A class without marks is at home everywhere.
      exact ⟨.other, fun mark hmark hon => absurd ⟨mark, hmark, hon⟩ hsome⟩

/-- The marks of a class agree on its home unless it is an input type and has another mark, or is
both persisted and a response type. -/
theorem hasOneHome_iff : HasOneHome c ↔
    ¬ (Mark.inputType.IsOn c ∧ (Mark.objectType.IsOn c ∨ Mark.entity.IsOn c)) ∧
    ¬ (Mark.objectType.IsOn c ∧ Mark.entity.IsOn c ∧ IsNamedResponse c) := by
  have hobject : Mark.objectType.home c = if IsNamedResponse c then Role.response else .model := rfl
  have hinput : Mark.inputType.home c = .input := rfl
  have hentity : Mark.entity.home c = .model := rfl
  simp only [HasOneHome, Mark.ofClasses, List.forall_mem_cons, List.not_mem_nil, IsEmpty.forall_iff,
    implies_true, and_true, hinput, hobject, hentity]
  -- With the name settled each mark has one home, and what remains is about the marks alone.
  by_cases hresponse : IsNamedResponse c
  · simp only [hresponse, if_true]
    tauto
  · simp only [hresponse, if_false]
    tauto

/-- Nothing is found of the place of a class that a module holds alone just if the role of its file
is the home of each of its marks. -/
theorem Context.HoldsAlone.classPlacements_eq_nil_iff {ctx : Context} {f : SourceFile}
    (h : ctx.HoldsAlone f c) : classPlacements ctx = [] ↔ misplacedMarks f.role c = [] := by
  rw [← List.length_eq_zero_iff, h.length_classPlacements, List.length_eq_zero_iff]

end Classes

/-- A module that holds a class alone, in a file of a role. -/
def holding (role : Role) (c : Declaration) : Context where
  module_ := "a"
  files := [⟨"a.ts", role⟩]
  parsed := fun path => some ⟨path, [c], []⟩
  resolverFields := []

/-- It does. -/
theorem holdsAlone_holding (role : Role) (c : Declaration) :
    (holding role c).HoldsAlone ⟨"a.ts", role⟩ c :=
  ⟨rfl, _, rfl, rfl⟩

/-- A class can be put where no check of its place reports it just if its marks agree on a home: it
is no input type with another mark, and not both persisted and a response type. Where they do not,
it is reported in files of every role. -/
theorem exists_role_iff_hasOneHome (c : Declaration) :
    ((∃ role, ∀ ctx f, Context.HoldsAlone ctx f c → f.role = role →
      inputLocation ctx = [] ∧ responseLocation ctx = [] ∧ modelLocation ctx = []) ↔ HasOneHome c) ∧
    (HasOneHome c ↔
      ¬ (Mark.inputType.IsOn c ∧ (Mark.objectType.IsOn c ∨ Mark.entity.IsOn c)) ∧
      ¬ (Mark.objectType.IsOn c ∧ Mark.entity.IsOn c ∧ IsNamedResponse c)) ∧
    (¬ HasOneHome c → ∀ ctx f, Context.HoldsAlone ctx f c →
      ¬ (inputLocation ctx = [] ∧ responseLocation ctx = [] ∧ modelLocation ctx = [])) := by
  have hnone (ctx : Context) (f : SourceFile) (halone : ctx.HoldsAlone f c) :
      (inputLocation ctx = [] ∧ responseLocation ctx = [] ∧ modelLocation ctx = []) ↔
        misplacedMarks f.role c = [] := by
    rw [← halone.classPlacements_eq_nil_iff, classPlacements, List.append_eq_nil_iff,
      List.append_eq_nil_iff, and_assoc]
  refine ⟨?_, hasOneHome_iff, fun hconflict ctx f halone hempty => ?_⟩
  · rw [← exists_misplacedMarks_eq_nil_iff]
    refine exists_congr fun role => ⟨fun h => ?_, fun h ctx f halone hrole => ?_⟩
    · have halone := holdsAlone_holding role c
      exact (hnone _ _ halone).mp (h _ _ halone rfl)
    · exact (hnone ctx f halone).mpr (hrole ▸ h)
  · exact hconflict (exists_misplacedMarks_eq_nil_iff.mp ⟨f.role, (hnone ctx f halone).mp hempty⟩)

/-- A persisted class that is an object type too, and no response. -/
def sharedClass : Declaration where
  kind := .classType
  name := some "Survey"
  line := 1
  decorators := [⟨"Entity", 1, []⟩, ⟨"ObjectType", 2, []⟩]
  members := []
  parameters := []
  base := none

/-- A persisted class that is an input type too. -/
def tornClass : Declaration :=
  { sharedClass with decorators := [⟨"Entity", 1, []⟩, ⟨"InputType", 2, []⟩] }

/-- Nothing is found of the place of the first in a model file, while the second is reported in
files of every role. -/
theorem exists_role_iff_hasOneHome_shared :
    HasOneHome sharedClass ∧
      (∃ role, ∀ ctx f, Context.HoldsAlone ctx f sharedClass → f.role = role →
        inputLocation ctx = [] ∧ responseLocation ctx = [] ∧ modelLocation ctx = []) ∧
      ¬ HasOneHome tornClass ∧
      ∀ role, ¬ (inputLocation (holding role tornClass) = [] ∧
        responseLocation (holding role tornClass) = [] ∧
        modelLocation (holding role tornClass) = []) := by
  have hshared : HasOneHome sharedClass := by decide +kernel
  have htorn : ¬ HasOneHome tornClass := by decide +kernel
  exact ⟨hshared, (exists_role_iff_hasOneHome sharedClass).1.mpr hshared, htorn, fun role =>
    (exists_role_iff_hasOneHome tornClass).2.2 htorn _ _ (holdsAlone_holding role tornClass)⟩

/-- It is not so that each class has a role in whose files nothing is found of its place. -/
theorem not_forall_exists_role :
    ¬ ∀ c : Declaration, c.kind = .classType →
      ∃ role, ∀ ctx f, Context.HoldsAlone ctx f c → f.role = role →
        inputLocation ctx = [] ∧ responseLocation ctx = [] ∧ modelLocation ctx = [] := by
  intro hclaim
  obtain ⟨role, hrole⟩ := hclaim tornClass rfl
  obtain ⟨hinput, -, hmodel⟩ := hrole _ _ (holdsAlone_holding role tornClass) rfl
  cases role with
  | input => exact absurd hmodel (by decide +kernel)
  | _ => exact absurd hinput (by decide +kernel)

end ModuleLint.Rules
