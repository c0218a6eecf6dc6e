import ModuleLint.Proofs.Composing
import ModuleLint.Proofs.Strictness

/-!
# Ways to switch rules

Switches reach a run in a configuration document, further rules to be disabled there or on the command
line, and a caller may pass a rule set of its own. Which way they take does not matter: a report depends
only on which rules run, and that follows from the switches and from the rules that are named.
-/

namespace ModuleLint

open ModuleLint.Text (CharacterNames)

/-- A report on a survey depends on a rule set by the rules that it runs alone. -/
theorem Survey.report_congr_isEnabled (s : Survey) {rules rules' : RuleSet}
    (h : rules.isEnabled = rules'.isEnabled) (read : String → Option String) :
    s.report rules read = s.report rules' read := by
  simp only [report, findings, Evaluation.evaluateProject, Evaluation.evaluateModule,
    Evaluation.enabled, h]

namespace Validation

variable [CharacterNames]

/-- A run depends on a rule set by the rules that it runs alone. -/
theorem validateUnder_congr {rules rules' : RuleSet} (h : rules.isEnabled = rules'.isEnabled)
    (tree : Directory) (root : String) (settings : Discovery.Settings) :
    validateUnder tree root rules settings = validateUnder tree root rules' settings := by
  simp only [validateUnder, Survey.report_congr_isEnabled _ h]

/-- A run whose rules can be told is a run under them. -/
theorem validate_eq_validateUnder {switches : Option (List (Data × Data))} {config : Config}
    {rules : RuleSet} (h : rulesOf switches config = .ok rules) (tree : Directory)
    (root : String) :
    validate tree root switches config = validateUnder tree root rules config.discovery := by
  rw [validate, h]
  rfl

end Validation

namespace RuleSet

/-- Disabling rules one by one puts them behind those that are disabled. -/
theorem foldl_disable (disabled : List Rule) (rules : RuleSet) :
    disabled.foldl disable rules = { rules with disabled := rules.disabled ++ disabled } := by
  induction disabled generalizing rules with
  | nil => simp
  | cons rule disabled ih => rw [List.foldl_cons, ih, disable, List.append_assoc]; rfl

/-- Disabling rules one by one is disabling them by their identifiers. -/
theorem without_map_id (rules : RuleSet) (disabled : List Rule) :
    rules.without (disabled.map Rule.id) = .ok (disabled.foldl disable rules) := by
  have hknown : (disabled.map Rule.id).filter (fun id => (Rule.ofId? id).isNone) = [] := by
    simp [Rule.ofId?_id]
  have hrules : (disabled.map Rule.id).filterMap Rule.ofId? = disabled := by
    simp [List.filterMap_map, Rule.ofId?_id]
  rw [without, hknown, hrules, foldl_disable]
  rfl

section Alike

variable {switches switches' : List (String × Data)} {lists lists' : List (List String)}
  {rules rules' : RuleSet}

/-- Rule sets that are put together from switches with the same ones off, and lists that name the same
rules, run the same rules. -/
theorem isEnabled_eq_of_composed (hkeys : (switches.map Prod.fst).Nodup)
    (hkeys' : (switches'.map Prod.fst).Nodup) (h : composed switches lists = .ok rules)
    (h' : composed switches' lists' = .ok rules')
    (hswitches : ∀ name, (name, Data.bool false) ∈ switches ↔ (name, .bool false) ∈ switches')
    (hlists : ∀ id, (∃ ids ∈ lists, id ∈ ids) ↔ ∃ ids ∈ lists', id ∈ ids) :
    rules'.isEnabled = rules.isEnabled :=
  ((reflects_of_composed hkeys h).isEnabled_eq (reflects_of_composed hkeys' h') hswitches
    hlists).symm

/-- Neither the order of switches nor that of lists matters. -/
theorem exists_composed_of_perm (hkeys : (switches.map Prod.fst).Nodup)
    (h : composed switches lists = .ok rules) (hswitches : switches'.Perm switches)
    (hlists : lists'.Perm lists) :
    ∃ rules', composed switches' lists' = .ok rules' ∧ rules'.isEnabled = rules.isEnabled := by
  obtain ⟨hgood, hnames⟩ := exists_composed_iff.mp ⟨rules, h⟩
  have hgood' : ∀ e ∈ switches', Data.IsSwitch (.text e.1, e.2) :=
    fun e he => hgood e (hswitches.mem_iff.mp he)
  have hnames' : ∀ ids ∈ lists', ∀ id ∈ ids, ∃ rule : Rule, rule.id = id :=
    fun ids hids => hnames ids (hlists.mem_iff.mp hids)
  have hkeys' : (switches'.map Prod.fst).Nodup := (hswitches.map Prod.fst).nodup_iff.mpr hkeys
  obtain ⟨rules', h'⟩ := exists_composed_iff.mpr ⟨hgood', hnames'⟩
  refine ⟨rules', h', isEnabled_eq_of_composed hkeys hkeys' h h' ?_ ?_⟩
  · intro name
    rw [hswitches.mem_iff]
  · intro id
    simp only [hlists.mem_iff]

/-- A switch that is on can as well be left out. -/
theorem exists_composed_of_on {before after : List (String × Data)} {name : String}
    (hkeys : ((before ++ (name, .bool true) :: after).map Prod.fst).Nodup)
    (h : composed (before ++ (name, .bool true) :: after) lists = .ok rules) :
    ∃ rules', composed (before ++ after) lists = .ok rules' ∧
      rules'.isEnabled = rules.isEnabled := by
  obtain ⟨hgood, hnames⟩ := exists_composed_iff.mp ⟨rules, h⟩
  have hsub : (before ++ after).Sublist (before ++ (name, .bool true) :: after) :=
    (List.sublist_cons_self _ _).append_left before
  obtain ⟨rules', h'⟩ :=
    exists_composed_iff.mpr ⟨fun e he => hgood e (hsub.subset he), hnames⟩
  refine ⟨rules', h', isEnabled_eq_of_composed hkeys ((hsub.map Prod.fst).nodup hkeys) h h' ?_ ?_⟩
  · intro name'
    simp
  · intro id
    rfl

end Alike

end RuleSet

namespace Config

variable {doc : Document} {config : Config} {switches : List (String × Data)} {ids : List String}

/-- A document describes a configuration by switches and by rules that it disables. -/
structure Document.Gives (doc : Document) (config : Config) (switches : List (String × Data))
    (ids : List String) : Prop where
  describes : ofData (.mapping doc) = .ok config
  switches_eq : switchesOf doc = .ok (RuleSet.asData switches)
  disabled_eq : textsOf doc "disable" = .ok ids

/-- The rules of a configuration are put together from the switches of the document and the rules
that it disables. -/
theorem Document.Gives.composed (h : doc.Gives config switches ids) :
    RuleSet.composed switches [ids] = .ok config.rules := by
  have hrules : rulesOf doc = .ok config.rules := by
    have hdescribes := h.describes
    simp only [ofData, ofDocument, Outcome.bind_eq_ok_iff, Outcome.pure_eq_ok_iff] at hdescribes
    obtain ⟨-, -, -, -, rules, hrules, file, -, extensions, -, texts, -, rfl⟩ := hdescribes
    exact hrules
  simp only [rulesOf, h.switches_eq, h.disabled_eq, Outcome.bind_eq_ok_iff, Except.ok.injEq,
    exists_eq_left', Outcome.mapError_eq_ok_iff] at hrules
  obtain ⟨first, hfirst, hwithout⟩ := hrules
  rw [RuleSet.composed, hfirst]
  change ([ids].foldlM RuleSet.without first : Except RuleFault RuleSet) = _
  rw [List.foldlM_cons, hwithout]
  rfl

end Config

namespace Command

variable {tree : Directory} {request : Request}

/-- The option `--disable` takes the argument behind it. -/
theorem read_disable_cons (id : String) (args : List String) :
    Arguments.read validateSwitches true ("--disable" :: id :: args) =
      (Arguments.read validateSwitches true args).map
        (Arguments.withGiven [(.disable, some id)]) := by
  have hoption : Arguments.isOption "--disable" = true := by decide +kernel
  have hname : Arguments.nameAndValue "--disable" = ("--disable", none) := by decide +kernel
  have hfind : validateSwitches.find? (fun s => s.name == "--disable") =
      some ⟨.disable, "--disable", none, true⟩ := by
    simp [validateSwitches]
  rw [Arguments.read, if_neg (by decide), if_pos hoption]
  simp [hname, hfind]

/-- The arguments that disable rules. -/
def disableArguments (disabled : List Rule) : List String :=
  disabled.flatMap fun rule => ["--disable", rule.id]

/-- What is read of the arguments that disable rules. -/
def disabling (disabled : List Rule) : Arguments ValidateOption :=
  ⟨disabled.map fun rule => (.disable, some rule.id), []⟩

/-- Arguments that disable rules are read as such. -/
theorem read_disableArguments (disabled : List Rule) :
    Arguments.read validateSwitches true (disableArguments disabled) = .ok (disabling disabled) := by
  induction disabled with
  | nil => rfl
  | cons rule disabled ih =>
    change Arguments.read validateSwitches true
      ("--disable" :: rule.id :: disableArguments disabled) = _
    rw [read_disable_cons, ih]
    rfl

/-- Arguments that disable rules have no other options. -/
theorem eq_disable_of_mem_options {disabled : List Rule} {option : ValidateOption}
    (h : option ∈ (disabling disabled).options) : option = .disable := by
  obtain ⟨value, hmem⟩ := Arguments.mem_options_iff.mp h
  obtain ⟨rule, -, heq⟩ := List.mem_map.mp hmem
  exact (Prod.ext_iff.mp heq).1.symm

/-- Arguments that disable rules give their identifiers. -/
theorem values_disable (disabled : List Rule) :
    (disabling disabled).values .disable = disabled.map Rule.id := by
  induction disabled with
  | nil => rfl
  | cons rule disabled ih => exact congrArg (rule.id :: ·) ih

/-- Arguments that disable rules give no other values. -/
theorem values_of_ne {option : ValidateOption} (h : option ≠ .disable) (disabled : List Rule) :
    (disabling disabled).values option = [] := by
  simp [disabling, Arguments.values, h.symm]

/-- Arguments that disable rules do not have another option. -/
theorem has_of_ne {option : ValidateOption} (h : option ≠ .disable) (disabled : List Rule) :
    (disabling disabled).has option = false := by
  simp [disabling, Arguments.has, h.symm]

/-- Arguments that disable rules make a request without them. -/
theorem requestOf_disabling (disabled : List Rule) :
    requestOf (disabling disabled) = { disabled := disabled } := by
  have hrules : (disabled.map Rule.id).filterMap Rule.ofId? = disabled := by
    simp [List.filterMap_map, Rule.ofId?_id]
  have hvalue {option : ValidateOption} (h : option ≠ .disable) :
      (disabling disabled).value? option = none := by
    rw [Arguments.value?, values_of_ne h]
    rfl
  rw [requestOf, values_disable, hrules, hvalue (by decide), hvalue (by decide),
    hvalue (by decide), has_of_ne (by decide), has_of_ne (by decide)]
  rfl

/-- A command line that disables rules asks for a run without them. -/
theorem read_validate_disableArguments (tree : Directory) (disabled : List Rule) :
    Invocation.read tree (validateCommand :: disableArguments disabled) =
      .ok (.validate false { disabled := disabled }) := by
  have hoption : Arguments.isOption validateCommand = false := by decide +kernel
  have hprogram : readProgram (validateCommand :: disableArguments disabled) =
      .ok ⟨[], validateCommand :: disableArguments disabled⟩ := by
    rw [readProgram, Arguments.read, if_neg (by decide), if_neg (by simp [hoption]),
      if_neg Bool.false_ne_true]
    rfl
  rw [read_of_readProgram hprogram rfl rfl]
  refine readValidate_eq_ok_iff.mpr ⟨disabling disabled, read_disableArguments disabled,
    has_of_ne (by decide) disabled, ?_, rfl, rfl, requestOf_disabling disabled⟩
  intro option hoption'
  obtain rfl := eq_disable_of_mem_options hoption'
  change ((disabling disabled).values .disable).forM checkRuleValue = .ok ()
  rw [values_disable, Outcome.forM_eq_ok_iff]
  intro id hid
  obtain ⟨rule, -, rfl⟩ := List.mem_map.mp hid
  simp [checkRuleValue, Rule.ofId?_id]

/-- The configuration of a run with further rules disabled. -/
theorem configOf_eq_ok {request : Request} {config : Config}
    (h : Config.resolve tree request.root request.config = .ok config) :
    configOf tree request =
      .ok { config with rules := request.disabled.foldl RuleSet.disable config.rules } := by
  rw [configOf, h]
  rfl

/-- A run that disables further rules than its configuration reports as the project does under the
rule set of both. -/
theorem reports_iff [CharacterNames] {args : List String} {verbose : Bool} {request : Request}
    {config : Config} {report : Report} {rules : RuleSet}
    (hasks : Invocation.read tree args = .ok (.validate verbose request))
    (hresolve : Config.resolve tree request.root request.config = .ok config)
    (hrules : (request.disabled.foldl RuleSet.disable config.rules).isEnabled = rules.isEnabled) :
    Reports tree args verbose request report ↔
      Validation.validateUnder tree request.root rules config.discovery = .ok report := by
  have hrun : Validation.validate tree request.root none
      { config with rules := request.disabled.foldl RuleSet.disable config.rules } =
        Validation.validateUnder tree request.root rules config.discovery := by
    rw [Validation.validate_eq_validateUnder rfl]
    exact Validation.validateUnder_congr hrules tree request.root config.discovery
  constructor
  · intro h
    obtain ⟨config', hconfig, hvalidates⟩ := h.validates
    obtain rfl := Except.ok.inj ((configOf_eq_ok hresolve).symm.trans hconfig)
    rw [← hrun, hvalidates]
  · intro h
    exact ⟨hasks, _, configOf_eq_ok hresolve, hrun.trans h⟩

end Command

namespace RuleSet

open Command (Invocation Reports disableArguments validateCommand)
open Validation (validate validateUnder)

/-- What a rule set that is made of switches and lists owes to them. -/
structure IsPointwise (switches : List (String × Data)) (lists : List (List String))
    (rules : RuleSet) : Prop where
  /-- A rule runs just if neither its family nor the rule is switched off and no list names it. -/
  isEnabled_iff : ∀ rule : Rule, rules.isEnabled rule = true ↔
    (rule.family.key, .bool false) ∉ switches ∧ (rule.id, .bool false) ∉ switches ∧
      ∀ ids ∈ lists, rule.id ∉ ids
  /-- The order of the switches and that of the lists do not matter. -/
  perm : ∀ switches' lists', switches'.Perm switches → lists'.Perm lists →
    ∃ rules', composed switches' lists' = .ok rules' ∧ rules'.isEnabled = rules.isEnabled
  /-- A switch that is on can as well be left out. -/
  on : ∀ before after name, switches = before ++ (name, .bool true) :: after →
    ∃ rules', composed (before ++ after) lists = .ok rules' ∧ rules'.isEnabled = rules.isEnabled

/-- A project gets the report of a rule set by every way on which switches and the names in lists reach
a run. -/
structure IsReportedByAllRoutes [CharacterNames] (switches : List (String × Data))
    (lists : List (List String)) (rules : RuleSet) : Prop where
  /-- The switches are passed as such, and no rule is named. -/
  mapping : lists = [] → ∀ tree root config,
    validate tree root (some (asData switches)) config =
      validateUnder tree root rules config.discovery
  /-- A configuration document has the switches and disables the rules. -/
  document : ∀ (doc : Config.Document) config ids, doc.Gives config switches ids →
    (∀ id, id ∈ ids ↔ ∃ ids' ∈ lists, id ∈ ids') → ∀ tree root,
      validate tree root none config = validateUnder tree root rules config.discovery
  /-- The configuration of a command line has the switches and disables some of the rules, and the
  command line disables the others. -/
  commandLine : ∀ tree args verbose request (doc : Config.Document) config ids,
    Invocation.read tree args = .ok (.validate verbose request) →
    Config.resolve tree request.root request.config = .ok config →
    doc.Gives config switches ids →
    (∀ id, id ∈ ids ∨ id ∈ request.disabled.map Rule.id ↔ ∃ ids' ∈ lists, id ∈ ids') →
      ∀ report, Reports tree args verbose request report ↔
        validateUnder tree request.root rules config.discovery = .ok report

section Composed

variable {switches : List (String × Data)} {lists : List (List String)} {rules : RuleSet}

/-- A rule set that is put together owes to switches and lists what it should. -/
theorem isPointwise_of_composed (hkeys : (switches.map Prod.fst).Nodup)
    (h : composed switches lists = .ok rules) : IsPointwise switches lists rules where
  isEnabled_iff := (reflects_of_composed hkeys h).isEnabled_iff
  perm := fun _ _ => exists_composed_of_perm hkeys h
  on := by
    rintro before after name rfl
    exact exists_composed_of_on hkeys h

/-- One more list disables its rules in the rule set of those before it. -/
theorem composed_concat (h : composed switches lists = .ok rules) (ids : List String) :
    composed switches (lists ++ [ids]) = rules.without ids := by
  obtain ⟨first, hfirst, hrest⟩ := Outcome.bind_eq_ok_iff.mp h
  rw [composed, hfirst]
  change (lists ++ [ids]).foldlM RuleSet.without first = _
  rw [List.foldlM_append, hrest]
  exact bind_pure (rules.without ids)

/-- A project gets the report of a rule set that is put together by every way. -/
theorem isReportedByAllRoutes_of_composed [CharacterNames] (hkeys : (switches.map Prod.fst).Nodup)
    (h : composed switches lists = .ok rules) : IsReportedByAllRoutes switches lists rules where
  mapping := by
    rintro rfl tree root config
    obtain ⟨first, hfirst, hrest⟩ := Outcome.bind_eq_ok_iff.mp h
    obtain rfl := Outcome.pure_eq_ok_iff.mp hrest
    have hrules : Validation.rulesOf (some (asData switches)) config = .ok first :=
      Outcome.mapError_eq_ok_iff.mpr hfirst
    exact Validation.validate_eq_validateUnder hrules tree root
  document := by
    intro doc config ids hgives hids tree root
    rw [Validation.validate_eq_validateUnder rfl]
    apply Validation.validateUnder_congr
    apply isEnabled_eq_of_composed hkeys hkeys h hgives.composed
    · exact fun name => Iff.rfl
    · intro id
      simpa using (hids id).symm
  commandLine := by
    intro tree args verbose request doc config ids hasks hresolve hgives hids report
    have hboth : composed switches [ids, request.disabled.map Rule.id] =
        .ok (request.disabled.foldl disable config.rules) := by
      rw [← without_map_id]
      exact composed_concat hgives.composed _
    apply Command.reports_iff hasks hresolve
    apply isEnabled_eq_of_composed hkeys hkeys h hboth
    · exact fun name => Iff.rfl
    · intro id
      simpa using (hids id).symm

end Composed

/-- Switches make a rule set just if each is that of a family or of a rule, and rules can be disabled
just if they are known; what is refused is refused for a switch or for names in a list. In the rule set
that switches and lists make, a rule runs just if neither its family nor the rule itself is switched off
and no list names it, and a project gets the same report by every way on which they reach a run. Rules
can be disabled on a command line, one after another. -/
theorem composed_pointwise [CharacterNames] {switches : List (String × Data)}
    (hkeys : (switches.map Prod.fst).Nodup) (lists : List (List String)) :
    ((∃ rules, ofSwitches (asData switches) = .ok rules) ↔
      ∀ e ∈ switches, Data.IsSwitch (.text e.1, e.2)) ∧
    (∀ (rules : RuleSet) (ids : List String), (∃ rules', rules.without ids = .ok rules') ↔
      ∀ id ∈ ids, ∃ rule : Rule, rule.id = id) ∧
    (∀ fault, composed switches lists = .error fault →
      (∃ e ∈ switches, fault.TellsOf e) ∨ ∃ ids ∈ lists, fault.TellsOfNames ids) ∧
    (∀ rules, composed switches lists = .ok rules →
      IsPointwise switches lists rules ∧ IsReportedByAllRoutes switches lists rules) ∧
    ∀ tree disabled, Invocation.read tree (validateCommand :: disableArguments disabled) =
      .ok (.validate false { disabled := disabled }) := by
  refine ⟨exists_ofSwitches_asData_iff, fun rules ids => Config.exists_without_iff rules, ?_, ?_, ?_⟩
  · intro fault
    exact exists_of_composed_eq_error
  · intro rules h
    exact ⟨isPointwise_of_composed hkeys h, isReportedByAllRoutes_of_composed hkeys h⟩
  · intro tree disabled
    exact Command.read_validate_disableArguments tree disabled

/-- A switch that is off. -/
def mixedSwitches : List (String × Data) :=
  [("check_entity_files", .bool false)]

/-- A document with this switch. -/
def mixedDocument : Config.Document :=
  [(.text "rules", .mapping (asData mixedSwitches))]

/-- A project with a forbidden entity file and a misnamed definition file, whose configuration file
has this switch. -/
def mixedProject : Directory :=
  [(Config.fileName, .file (Text.Utf8.encode "\"rules\":\n \"check_entity_files\": no")),
    ("src", .directory [("user", .directory
      [("user.entity.ts", .file []), ("users.module.ts", .file [])])])]

/-- With this switch and without the rule on names of definition files, the rule on paths runs and
neither of these two does. The project gets the same report from a document that disables the rule, too,
and from a command line that does so. -/
theorem composed_pointwise_mixed :
    (mixedSwitches.map Prod.fst).Nodup ∧ ∃ rules,
      composed mixedSwitches [["module-naming"]] = .ok rules ∧
      rules.isEnabled .modulePath = true ∧ rules.isEnabled .entityFileNotAllowed = false ∧
      rules.isEnabled .moduleNaming = false ∧
      (∃ config : Config, Config.ofData (.mapping
          ((.text "disable", .list [.text "module-naming"]) :: mixedDocument)) = .ok config ∧
        validate mixedProject "." none config = validateUnder mixedProject "." rules {}) ∧
      ∀ report, Reports mixedProject ["validate", "--disable", "module-naming"] false
          { disabled := [.moduleNaming] } report ↔
        validateUnder mixedProject "." rules {} = .ok report := by
  have hkeys : (mixedSwitches.map Prod.fst).Nodup := by decide
  have hcomposed : composed mixedSwitches [["module-naming"]] =
      .ok ⟨[(.entityFiles, false)], [.moduleNaming]⟩ := rfl
  have hconfigures : Config.Configures mixedProject { disabled := [.moduleNaming] }
      (.mapping mixedDocument) :=
    ⟨".structlint.yml", "\"rules\":\n \"check_entity_files\": no", by decide +kernel, by cbv, by cbv⟩
  have hdescribes : Config.ofData (.mapping mixedDocument) =
      .ok { rules := ⟨[(.entityFiles, false)], []⟩ } := rfl
  have hresolve : Config.resolve mixedProject "." none =
      .ok { rules := ⟨[(.entityFiles, false)], []⟩ } := by
    have h := Config.resolve_of_configures hconfigures
    rw [hdescribes] at h
    exact h
  have hasks : Invocation.read mixedProject ["validate", "--disable", "module-naming"] =
      .ok (.validate false { disabled := [.moduleNaming] }) :=
    (composed_pointwise hkeys []).2.2.2.2 mixedProject [.moduleNaming]
  obtain ⟨hpointwise, hroutes⟩ :=
    (composed_pointwise hkeys [["module-naming"]]).2.2.2.1 _ hcomposed
  refine ⟨hkeys, _, hcomposed, ?_, rfl, rfl, ?_, ?_⟩
  · rw [hpointwise.isEnabled_iff]
    simp [mixedSwitches, Rule.family, Family.key, Rule.id]
  · have hgives : Config.Document.Gives
        ((.text "disable", .list [.text "module-naming"]) :: mixedDocument)
        { rules := ⟨[(.entityFiles, false)], [.moduleNaming]⟩ } mixedSwitches ["module-naming"] :=
      ⟨rfl, rfl, rfl⟩
    exact ⟨_, hgives.describes, hroutes.document _ _ _ hgives (by simp) _ _⟩
  · exact hroutes.commandLine _ _ _ _ mixedDocument _ [] hasks hresolve ⟨hdescribes, rfl, rfl⟩
      (by simp [Rule.id])

end RuleSet

end ModuleLint
