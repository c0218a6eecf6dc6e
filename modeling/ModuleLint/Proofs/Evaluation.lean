import Mathlib.Logic.Function.Defs
import ModuleLint.Proofs.Checks

/-!
# Checks under their rules

Every registered check reports only the rule that it is registered under. Whether a rule is
enabled can therefore be read off its findings: running the enabled checks gives the same as
running all of them and keeping the findings of enabled rules.
-/

namespace ModuleLint

/-- Rules with the same identifier are the same. -/
theorem Rule.id_injective : Function.Injective Rule.id := by
  intro r r' h
  have hfound := Rule.ofId?_id r
  rw [h, Rule.ofId?_id] at hfound
  exact (Option.some.inj hfound).symm

/-- Whether the rule that a finding names is enabled. -/
def RuleSet.admits (rules : RuleSet) (g : Finding) : Bool :=
  (Rule.ofId? g.rule).any rules.isEnabled

/-- A finding is admitted just if its rule is enabled. -/
theorem RuleSet.admits_of_rule_eq {rules : RuleSet} {rule : Rule} {g : Finding}
    (h : g.rule = rule.id) : rules.admits g = rules.isEnabled rule := by
  rw [RuleSet.admits, h, Rule.ofId?_id]
  rfl

/-- With no switches at all every rule is enabled. -/
theorem RuleSet.isEnabled_default (rule : Rule) : ({} : RuleSet).isEnabled rule = true := by
  cases rule <;> rfl

namespace Evaluation

open ModuleLint.Rules (Context Filewise)

/-- Checks of which each reports only the rule that it stands under. -/
def Truthful {α : Type} (checks : List (Rule × (α → List Finding))) : Prop :=
  ∀ c ∈ checks, ∀ a, ∀ g ∈ c.2 a, g.rule = c.1.id

section Checks

variable {α : Type} {checks : List (Rule × (α → List Finding))}

/-- All checks are enabled if nothing is switched. -/
theorem enabled_default : enabled {} checks = checks :=
  List.filter_eq_self.mpr fun c _ => RuleSet.isEnabled_default c.1

/-- The findings of the enabled checks are those findings of all checks whose rules are
enabled. -/
theorem flatMap_enabled (htruthful : Truthful checks) (rules : RuleSet) (a : α) :
    (enabled rules checks).flatMap (fun c => c.2 a) =
      (checks.flatMap fun c => c.2 a).filter rules.admits := by
  induction checks with
  | nil => rfl
  | cons c cs ih =>
    have hrest := ih fun c' hc' => htruthful c' (List.mem_cons_of_mem _ hc')
    have hadmits : ∀ g ∈ c.2 a, rules.admits g = rules.isEnabled c.1 := fun g hg =>
      RuleSet.admits_of_rule_eq (htruthful c List.mem_cons_self a g hg)
    rw [List.flatMap_cons, List.filter_append, List.filter_congr hadmits, ← hrest, enabled]
    cases hc : rules.isEnabled c.1 with
    | false => simp [hc, enabled]
    | true => simp [hc, enabled, List.filter_eq_self.mpr]

/-- Checks that stand under other rules report nothing of a rule. -/
theorem filter_flatMap_of_ne (htruthful : Truthful checks) {rule : Rule}
    (hne : ∀ c ∈ checks, c.1 ≠ rule) (a : α) :
    (checks.flatMap fun c => c.2 a).filter (fun g => g.rule == rule.id) = [] := by
  rw [List.filter_eq_nil_iff]
  intro g hg
  obtain ⟨c, hc, hg⟩ := List.mem_flatMap.mp hg
  have hid := htruthful c hc a g hg
  simpa [hid] using fun heq => hne c hc (Rule.id_injective heq)

/-- The findings of one rule among those of all checks are the findings of its own check, if no
other check stands under it. -/
theorem filter_flatMap_eq (htruthful : Truthful checks)
    (hdistinct : (checks.map Prod.fst).Nodup) {rule : Rule} {check : α → List Finding}
    (hmem : (rule, check) ∈ checks) (a : α) :
    (checks.flatMap fun c => c.2 a).filter (fun g => g.rule == rule.id) = check a := by
  obtain ⟨before, after, rfl⟩ := List.append_of_mem hmem
  simp only [List.map_append, List.map_cons, List.nodup_append, List.nodup_cons] at hdistinct
  obtain ⟨-, ⟨hafter, -⟩, hbefore⟩ := hdistinct
  have hown : ∀ g ∈ check a, (g.rule == rule.id) = true := fun g hg => by
    simpa using htruthful _ hmem a g hg
  have hnone : ∀ cs, cs ⊆ before ++ (rule, check) :: after → (∀ c ∈ cs, c.1 ≠ rule) →
      (cs.flatMap fun c => c.2 a).filter (fun g => g.rule == rule.id) = [] :=
    fun cs hcs hne => filter_flatMap_of_ne (fun c hc => htruthful c (hcs hc)) hne a
  rw [List.flatMap_append, List.flatMap_cons, List.filter_append, List.filter_append,
    List.filter_eq_self.mpr hown, hnone before (by simp), hnone after (by simp),
    List.nil_append, List.append_nil]
  · exact fun c hc heq => hafter (heq ▸ List.mem_map_of_mem hc)
  · exact fun c hc => hbefore _ (List.mem_map_of_mem hc) _ List.mem_cons_self

/-- The findings of an enabled rule among those of the enabled checks are the findings of its own
check, if no other check stands under it. -/
theorem filter_flatMap_enabled (htruthful : Truthful checks)
    (hdistinct : (checks.map Prod.fst).Nodup) {rule : Rule} {check : α → List Finding}
    (hmem : (rule, check) ∈ checks) {rules : RuleSet} (henabled : rules.isEnabled rule = true)
    (a : α) :
    ((enabled rules checks).flatMap fun c => c.2 a).filter (fun g => g.rule == rule.id) =
      check a := by
  have hadmits (g : Finding) : (g.rule == rule.id && rules.admits g) = (g.rule == rule.id) := by
    by_cases hid : g.rule = rule.id
    · simp [RuleSet.admits_of_rule_eq hid, henabled]
    · simp [hid]
  rw [flatMap_enabled htruthful, List.filter_filter]
  simp only [hadmits]
  exact filter_flatMap_eq htruthful hdistinct hmem a

end Checks

/-- No rule has two checks of modules. -/
theorem nodup_moduleRules : (moduleRules.map Prod.fst).Nodup := by
  decide

/-- All checks of modules but one go file by file. -/
theorem filewise_of_mem : ∀ c ∈ moduleRules, c.1 ≠ .missingModule → Filewise c.1 c.2 := by
  simp only [moduleRules, List.forall_mem_cons]
  exact ⟨fun _ => Rules.modelLocation_filewise, fun _ => Rules.inputLocation_filewise,
    fun _ => Rules.responseLocation_filewise, fun _ => Rules.missingEntityDecorator_filewise,
    fun _ => Rules.missingPrimaryColumn_filewise, fun _ => Rules.missingColumnDecorator_filewise,
    fun _ => Rules.unnecessaryValidation_filewise, fun _ => Rules.resolverClass_filewise,
    fun _ => Rules.emptyResolver_filewise, fun _ => Rules.serviceClass_filewise,
    fun h => absurd rfl h, fun _ => Rules.moduleNaming_filewise,
    fun _ => Rules.modulePath_filewise, fun _ => Rules.resolverLocation_filewise,
    fun _ => Rules.multipleArgsDecorators_filewise, fun _ => Rules.eventInResolver_filewise,
    nofun⟩

/-- The check under the rule for missing definitions is the one for them. -/
theorem eq_missingModule_of_mem {check : Context → List Finding}
    (h : (Rule.missingModule, check) ∈ moduleRules) : check = Rules.missingModule := by
  simpa [moduleRules] using h

/-- What a check of modules reports, it reports under its rule about a file of the module, or
about the module itself if a definition is missing. -/
theorem exists_makes {c : Rule × (Context → List Finding)} (hc : c ∈ moduleRules) {ctx : Context}
    {g : Finding} (hg : g ∈ c.2 ctx) :
    ∃ file, (file = ctx.module_ ∧ c.1 = .missingModule ∨ ∃ f ∈ ctx.files, file = f.path) ∧
      c.1.Makes file g := by
  by_cases hrule : c.1 = .missingModule
  · obtain ⟨rule, check⟩ := c
    subst hrule
    rw [eq_missingModule_of_mem hc] at hg
    exact ⟨_, .inl ⟨rfl, rfl⟩, Rules.missingModule_makes ctx g hg⟩
  · obtain ⟨f, hf, hmakes⟩ := (filewise_of_mem c hc hrule).exists_makes hg
    exact ⟨_, .inr ⟨f, hf, rfl⟩, hmakes⟩

/-- The checks of modules report only their own rules. -/
theorem truthful_moduleRules : Truthful moduleRules := by
  intro c hc ctx g hg
  obtain ⟨file, -, hmakes⟩ := exists_makes hc hg
  exact hmakes.rule_eq

/-- The checks of the whole project report only their own rules. -/
theorem truthful_projectRules : Truthful projectRules := by
  intro c hc files g hg
  obtain rfl := List.mem_singleton.mp hc
  obtain ⟨f, -, hmakes⟩ := Rules.entityFileNotAllowed_makes files g hg
  exact hmakes.rule_eq

end Evaluation

end ModuleLint
