import Mathlib.Data.List.Forall2
import ModuleLint.Proofs.Checks

/-!
# Other lines, the same findings

Checks take lines from declarations and pass them on. They do not compare, sort, offset or print
them. So if every line in the known declarations of a module is replaced by its image under a
function, the findings stay the same but for their lines, each of which is replaced by its image.
Code that moves down by some lines takes its findings with it.
-/

namespace ModuleLint

/-- A decorator on another line. -/
def Decorator.mapLine (g : Int → Int) (d : Decorator) : Decorator :=
  { d with line := g d.line }

namespace Declaration

mutual

/-- A declaration with all its lines replaced: its own, and those of its decorators, its members
and its parameters. -/
def mapLines (g : Int → Int) : Declaration → Declaration
  | ⟨kind, name, line, decorators, members, parameters, base⟩ =>
    ⟨kind, name, g line, decorators.map (Decorator.mapLine g), mapAllLines g members,
      mapAllLines g parameters, base⟩

/-- Declarations with all their lines replaced. -/
def mapAllLines (g : Int → Int) : List Declaration → List Declaration
  | [] => []
  | d :: ds => d.mapLines g :: mapAllLines g ds

end

variable {g : Int → Int} {d : Declaration}

/-- The lines of declarations are replaced one declaration after the other. -/
theorem mapAllLines_eq_map (g : Int → Int) (ds : List Declaration) :
    mapAllLines g ds = ds.map (mapLines g) := by
  induction ds with
  | nil => rfl
  | cons d ds ih => rw [mapAllLines, ih, List.map_cons]

/-- A declaration with all its lines replaced, part by part. -/
theorem mapLines_eq (g : Int → Int) (d : Declaration) :
    d.mapLines g = ⟨d.kind, d.name, g d.line, d.decorators.map (Decorator.mapLine g),
      d.members.map (mapLines g), d.parameters.map (mapLines g), d.base⟩ := by
  cases d
  rw [mapLines, mapAllLines_eq_map, mapAllLines_eq_map]

@[simp] theorem mapLines_kind : (d.mapLines g).kind = d.kind := by
  rw [mapLines_eq]

@[simp] theorem mapLines_name : (d.mapLines g).name = d.name := by
  rw [mapLines_eq]

@[simp] theorem mapLines_line : (d.mapLines g).line = g d.line := by
  rw [mapLines_eq]

@[simp] theorem mapLines_decorators :
    (d.mapLines g).decorators = d.decorators.map (Decorator.mapLine g) := by
  rw [mapLines_eq]

@[simp] theorem mapLines_members : (d.mapLines g).members = d.members.map (mapLines g) := by
  rw [mapLines_eq]

@[simp] theorem mapLines_parameters :
    (d.mapLines g).parameters = d.parameters.map (mapLines g) := by
  rw [mapLines_eq]

@[simp] theorem mapLines_base : (d.mapLines g).base = d.base := by
  rw [mapLines_eq]

@[simp] theorem nameOrEmpty_mapLines : (d.mapLines g).nameOrEmpty = d.nameOrEmpty := by
  rw [nameOrEmpty, mapLines_name, nameOrEmpty]

@[simp] theorem shownName_mapLines : (d.mapLines g).shownName = d.shownName := by
  rw [shownName, nameOrEmpty_mapLines, shownName]

@[simp] theorem hasDecorator_mapLines (names : List String) :
    (d.mapLines g).hasDecorator names = d.hasDecorator names := by
  rw [hasDecorator, mapLines_decorators, List.any_map, hasDecorator]
  rfl

@[simp] theorem methods_mapLines : (d.mapLines g).methods = d.methods.map (mapLines g) := by
  simp [methods, List.filter_map, Function.comp_def]

@[simp] theorem properties_mapLines :
    (d.mapLines g).properties = d.properties.map (mapLines g) := by
  simp [properties, List.filter_map, Function.comp_def]

end Declaration

/-- A call on another line. -/
def CallSite.mapLine (g : Int → Int) (c : CallSite) : CallSite :=
  { c with line := g c.line }

namespace ParsedFile

/-- The declarations and calls of a file with all their lines replaced. -/
def mapLines (g : Int → Int) (p : ParsedFile) : ParsedFile where
  path := p.path
  classes := p.classes.map (Declaration.mapLines g)
  calls := p.calls.map (CallSite.mapLine g)

variable {g : Int → Int} {p : ParsedFile}

@[simp] theorem mapLines_classes :
    (p.mapLines g).classes = p.classes.map (Declaration.mapLines g) := by
  rw [mapLines]

@[simp] theorem methods_mapLines :
    (p.mapLines g).methods = p.methods.map (Declaration.mapLines g) := by
  simp [methods, List.flatMap_map, List.map_flatMap]

end ParsedFile

/-- A finding on another line, if it has one. -/
def Finding.mapLine (g : Int → Int) (f : Finding) : Finding :=
  { f with line := f.line.map g }

namespace Rules

/-- A module with all lines in its known declarations replaced. -/
def Context.mapLines (g : Int → Int) (ctx : Context) : Context :=
  { ctx with parsed := fun path => (ctx.parsed path).map (ParsedFile.mapLines g) }

/-- A check passes lines through: where the lines of a module are replaced, so are those of its
findings, and nothing else changes. -/
def PassesLines (check : Context → List Finding) : Prop :=
  ∀ (g : Int → Int) (ctx : Context), check (ctx.mapLines g) = (check ctx).map (Finding.mapLine g)

section Parts

variable {g : Int → Int}

/-- A conditional finding is on another line under the same condition. -/
theorem map_whenever (condition : Bool) (finding : Finding) :
    (whenever condition finding).map (Finding.mapLine g) =
      whenever condition (finding.mapLine g) := by
  cases condition <;> rfl

/-- What is found of items with replaced lines is what is found of the items, with replaced
lines. -/
theorem flatMap_map_eq_map_flatMap {α β : Type} {items : List α} {change : α → β}
    {check : α → List Finding} {check' : β → List Finding}
    (h : ∀ a ∈ items, check' (change a) = (check a).map (Finding.mapLine g)) :
    (items.map change).flatMap check' = (items.flatMap check).map (Finding.mapLine g) := by
  rw [List.flatMap_map, List.map_flatMap]
  exact List.flatMap_congr h

/-- What is found of those items with replaced lines that pass a test is what is found of those items
that pass it, with replaced lines. -/
theorem map_filter_map_eq_map_map_filter {α : Type} {items : List α} {change : α → α}
    {keeps : α → Bool} {finding finding' : α → Finding}
    (hkeeps : ∀ a, keeps (change a) = keeps a)
    (hfinding : ∀ a, finding' (change a) = (finding a).mapLine g) :
    ((items.map change).filter keeps).map finding' =
      ((items.filter keeps).map finding).map (Finding.mapLine g) := by
  have hcomp : keeps ∘ change = keeps := funext hkeeps
  rw [List.filter_map, hcomp, List.map_map, List.map_map]
  exact List.map_congr_left fun a _ => hfinding a

end Parts

/-- A check passes lines through if what it says of the known declarations of each file it looks
into does. -/
theorem PassesLines.of_inParsed {check : Context → List Finding}
    {keeps : SourceFile → Bool} {body : Context → SourceFile → ParsedFile → List Finding}
    (hcheck : ∀ ctx, check ctx = ctx.inParsed (ctx.files.filter keeps) (body ctx))
    (hbody : ∀ (g : Int → Int) ctx f p,
      body (ctx.mapLines g) f (p.mapLines g) = (body ctx f p).map (Finding.mapLine g)) :
    PassesLines check := by
  intro g ctx
  rw [hcheck, hcheck, Context.inParsed, Context.inParsed, List.map_flatMap]
  refine List.flatMap_congr fun f _ => ?_
  have hparsed : (ctx.mapLines g).parsed f.path = (ctx.parsed f.path).map (ParsedFile.mapLines g) :=
    rfl
  rw [hparsed]
  cases ctx.parsed f.path with
  | none => rfl
  | some p => exact hbody g ctx f p

/-- A check passes lines through if it makes at most one finding about each class, or each method,
at the line of that, and does not look at lines to decide. -/
theorem PassesLines.of_whenever {rule : Rule} {check : Context → List Finding}
    {keeps : SourceFile → Bool} {items : ParsedFile → List Declaration}
    {condition : Declaration → Bool} {message : SourceFile → Declaration → String}
    (hcheck : ∀ ctx, check ctx = ctx.inParsed (ctx.files.filter keeps) fun f p =>
      (items p).flatMap fun i =>
        whenever (condition i) (rule.finding f.path (message f i) i.line))
    (hitems : ∀ (g : Int → Int) (p : ParsedFile),
      items (p.mapLines g) = (items p).map (Declaration.mapLines g))
    (hcondition : ∀ (g : Int → Int) i, condition (i.mapLines g) = condition i)
    (hmessage : ∀ (g : Int → Int) f i, message f (i.mapLines g) = message f i) :
    PassesLines check := by
  refine .of_inParsed hcheck fun g ctx f p => ?_
  rw [hitems]
  refine flatMap_map_eq_map_flatMap fun i _ => ?_
  rw [hcondition, hmessage, Declaration.mapLines_line, map_whenever]
  rfl

/-- A check passes lines through if it tells no lines, and does not look at lines to decide. -/
theorem PassesLines.of_file {rule : Rule} {check : Context → List Finding}
    {keeps : SourceFile → Bool} {condition : ParsedFile → Bool} {message : String}
    (hcheck : ∀ ctx, check ctx = ctx.inParsed (ctx.files.filter keeps) fun f p =>
      whenever (condition p) (rule.finding f.path message none))
    (hcondition : ∀ (g : Int → Int) p, condition (p.mapLines g) = condition p) :
    PassesLines check := by
  refine .of_inParsed hcheck fun g ctx f p => ?_
  rw [hcondition, map_whenever]
  rfl

section Conditions

variable {g : Int → Int} {d : Declaration} {p : ParsedFile}

@[simp] theorem isResponse_mapLines : isResponse (d.mapLines g) = isResponse d := by
  rw [isResponse, Declaration.nameOrEmpty_mapLines, isResponse]

@[simp] theorem isPersisted_mapLines : isPersisted (d.mapLines g) = isPersisted d := by
  rw [isPersisted, Declaration.hasDecorator_mapLines, isPersisted]

@[simp] theorem lacksColumn_mapLines (computed : List String) :
    lacksColumn computed (d.mapLines g) = lacksColumn computed d := by
  simp [lacksColumn]

@[simp] theorem isService_mapLines : isService (d.mapLines g) = isService d := by
  rw [isService, Declaration.hasDecorator_mapLines, Declaration.nameOrEmpty_mapLines, isService]

@[simp] theorem hasResolver_mapLines : hasResolver (p.mapLines g) = hasResolver p := by
  simp [hasResolver, Function.comp_def]

end Conditions

section Checks

/-- Misplaced object types and persisted classes keep to their classes. -/
theorem modelLocation_passesLines : PassesLines modelLocation := by
  refine .of_inParsed (fun _ => rfl) fun g ctx f p => ?_
  rw [ParsedFile.mapLines_classes]
  refine flatMap_map_eq_map_flatMap fun c _ => ?_
  rw [List.map_append, map_whenever, map_whenever]
  simp [Rule.finding, Finding.mapLine]

/-- Misplaced input types keep to their classes. -/
theorem inputLocation_passesLines : PassesLines inputLocation :=
  .of_whenever (fun _ => rfl) (fun _ _ => ParsedFile.mapLines_classes) (by simp) fun _ _ _ => rfl

/-- Misplaced response types keep to their classes. -/
theorem responseLocation_passesLines : PassesLines responseLocation :=
  .of_whenever (fun _ => rfl) (fun _ _ => ParsedFile.mapLines_classes) (by simp)
    fun _ _ _ => rfl

/-- Misplaced operations keep to their methods. -/
theorem resolverLocation_passesLines : PassesLines resolverLocation :=
  .of_whenever (fun _ => rfl) (fun _ _ => ParsedFile.methods_mapLines) (by simp) fun _ _ _ => rfl

/-- Unmarked persisted classes keep to their classes. -/
theorem missingEntityDecorator_passesLines : PassesLines missingEntityDecorator :=
  .of_whenever (fun _ => rfl) (fun _ _ => ParsedFile.mapLines_classes)
    (by simp [Function.comp_def]) (by simp)

/-- Persisted classes without a key keep to their classes. -/
theorem missingPrimaryColumn_passesLines : PassesLines missingPrimaryColumn :=
  .of_whenever (fun _ => rfl) (fun _ _ => ParsedFile.mapLines_classes)
    (by simp [Function.comp_def]) fun _ _ _ => rfl

/-- Properties that are neither stored nor computed keep to their lines. -/
theorem missingColumnDecorator_passesLines : PassesLines missingColumnDecorator := by
  refine .of_inParsed (fun _ => rfl) fun g ctx f p => ?_
  rw [ParsedFile.mapLines_classes]
  refine flatMap_map_eq_map_flatMap fun c _ => ?_
  have hfields : (ctx.mapLines g).resolverFields = ctx.resolverFields := rfl
  simp only [Declaration.hasDecorator_mapLines, Declaration.nameOrEmpty_mapLines, hfields]
  split
  · rw [Declaration.properties_mapLines]
    refine map_filter_map_eq_map_map_filter (fun m => lacksColumn_mapLines _) fun m => ?_
    rw [Declaration.mapLines_line]
    rfl
  · rfl

/-- Needless type checks keep to the lines of their decorators. -/
theorem unnecessaryValidation_passesLines : PassesLines unnecessaryValidation := by
  refine .of_inParsed (fun _ => rfl) fun g ctx f p => ?_
  rw [ParsedFile.mapLines_classes]
  refine flatMap_map_eq_map_flatMap fun c _ => ?_
  simp only [Declaration.hasDecorator_mapLines]
  split
  · rw [Declaration.properties_mapLines]
    refine flatMap_map_eq_map_flatMap fun m _ => ?_
    simp only [Declaration.hasDecorator_mapLines]
    split
    · rw [Declaration.mapLines_decorators]
      refine map_filter_map_eq_map_map_filter (fun _ => rfl) fun d => ?_
      rw [validationFinding, validationFinding, Declaration.shownName_mapLines]
      rfl
    · rfl
  · rfl

/-- The arguments that a method binds keep to the lines of its parameters. -/
theorem argumentBindings_mapLines (g : Int → Int) (m : Declaration) :
    argumentBindings (m.mapLines g) = (argumentBindings m).map fun b => (b.1, g b.2) := by
  rw [argumentBindings, argumentBindings, Declaration.mapLines_parameters, List.flatMap_map,
    List.map_flatMap]
  refine List.flatMap_congr fun p _ => ?_
  rw [Declaration.mapLines_decorators, List.filter_map, List.map_map, List.map_map]
  simp [Function.comp_def, boundName, Decorator.stringArgument?, Decorator.mapLine]

/-- Operations with several arguments keep to their lines, and so do the arguments. -/
theorem multipleArgsDecorators_passesLines : PassesLines multipleArgsDecorators := by
  refine .of_inParsed (fun _ => rfl) fun g ctx f p => ?_
  rw [ParsedFile.methods_mapLines]
  refine flatMap_map_eq_map_flatMap fun m _ => ?_
  simp only [Declaration.hasDecorator_mapLines, argumentBindings_mapLines, List.length_map]
  split
  · simp [summaryFinding, argumentFinding, Function.comp_def, Rule.finding, Finding.mapLine]
  · rfl

/-- Events published by resolvers keep to the lines of the calls. -/
theorem eventInResolver_passesLines : PassesLines eventInResolver := by
  refine .of_inParsed (fun _ => rfl) fun g ctx f p => ?_
  have hcalls : (p.mapLines g).calls = p.calls.map (CallSite.mapLine g) := rfl
  rw [hcalls]
  exact map_filter_map_eq_map_map_filter (fun _ => rfl) fun _ => rfl

/-- Resolver files without a resolver have no lines to tell. -/
theorem resolverClass_passesLines : PassesLines resolverClass :=
  .of_file (fun _ => rfl) fun _ _ => by rw [hasResolver_mapLines]

/-- Resolvers that resolve nothing have no lines to tell. -/
theorem emptyResolver_passesLines : PassesLines emptyResolver :=
  .of_file (fun _ => rfl) (by simp [Function.comp_def])

/-- Service files without a service have no lines to tell. -/
theorem serviceClass_passesLines : PassesLines serviceClass :=
  .of_file (fun _ => rfl) (by simp [Function.comp_def])

/-- A check that neither looks into files nor has lines to tell passes lines through. -/
theorem PassesLines.of_not_isLocated {rule : Rule} {check : Context → List Finding}
    (hcheck : ∀ (g : Int → Int) ctx, check (ctx.mapLines g) = check ctx)
    (hmakes : ∀ ctx, ∀ x ∈ check ctx, ∃ file, rule.Makes file x)
    (hrule : rule.isLocated = false) : PassesLines check := by
  intro g ctx
  have hnone : ∀ x ∈ check ctx, x.mapLine g = x := by
    intro x hx
    obtain ⟨file, hmakes⟩ := hmakes ctx x hx
    have hline : x.line = none := by simpa [hrule] using hmakes.isSome_line
    rw [Finding.mapLine, hline, Option.map_none, ← hline]
  rw [hcheck, List.map_congr_left hnone, List.map_id']

/-- A missing definition has no line. -/
theorem missingModule_passesLines : PassesLines missingModule :=
  .of_not_isLocated (fun _ _ => rfl) (fun ctx x hx => ⟨_, missingModule_makes ctx x hx⟩) rfl

/-- A check of files whose declarations do not matter has no lines to tell. -/
theorem PassesLines.of_definitions {rule : Rule} {check : Context → List Finding}
    (hfilewise : Filewise rule check)
    (hcheck : ∀ (g : Int → Int) ctx, check (ctx.mapLines g) = check ctx)
    (hrule : rule.isLocated = false) : PassesLines check := by
  refine .of_not_isLocated hcheck (fun ctx x hx => ?_) hrule
  obtain ⟨f, -, hmakes⟩ := hfilewise.exists_makes hx
  exact ⟨_, hmakes⟩

end Checks

end Rules

namespace ResolverIndex

open ModuleLint.Rules

variable {g : Int → Int}

/-- A class computes fields of the same entity on other lines. -/
theorem entityOf_mapLines (c : Declaration) : entityOf (c.mapLines g) = entityOf c := by
  have hfind : (c.mapLines g).findDecorator? resolver =
      (c.findDecorator? resolver).map (Decorator.mapLine g) := by
    rw [Declaration.findDecorator?, Declaration.mapLines_decorators, List.find?_map]
    rfl
  rw [entityOf, hfind, Option.bind_map, Declaration.nameOrEmpty_mapLines]
  rfl

/-- A method computes the same fields on other lines. -/
theorem fieldsOf_mapLines (m : Declaration) : fieldsOf (m.mapLines g) = fieldsOf m := by
  have hfield (d : Decorator) : fieldOf? (m.mapLines g) (d.mapLine g) = fieldOf? m d := by
    rw [fieldOf?, Declaration.mapLines_name]
    rfl
  rw [fieldsOf, Declaration.mapLines_decorators, List.filterMap_map]
  exact List.filterMap_congr fun d _ => hfield d

/-- A class adds the same fields on other lines. -/
theorem addClass_mapLines (index : ResolverIndex) (c : Declaration) :
    index.addClass (c.mapLines g) = index.addClass c := by
  have hnames : (c.mapLines g).methods.flatMap fieldsOf = c.methods.flatMap fieldsOf := by
    rw [Declaration.methods_mapLines, List.flatMap_map]
    exact List.flatMap_congr fun m _ => fieldsOf_mapLines m
  rw [addClass, Declaration.hasDecorator_mapLines, hnames, entityOf_mapLines, addClass]

/-- The index of computed fields knows no lines. -/
theorem collect_mapLines (g : Int → Int) (files : List ParsedFile) :
    collect (files.map (ParsedFile.mapLines g)) = collect files := by
  simp only [collect, List.foldl_map, ParsedFile.mapLines_classes, addClass_mapLines]

end ResolverIndex

/-- A finding is another one, moved down by some lines if it has a line. -/
structure Finding.IsMovedDown (k : Int) (x y : Finding) : Prop where
  file_eq : y.file = x.file
  rule_eq : y.rule = x.rule
  message_eq : y.message = x.message
  severity_eq : y.severity = x.severity
  line_eq : y.line = x.line.map (· + k)
  snippet_eq : y.snippet = x.snippet

namespace Evaluation

open ModuleLint.Rules

/-- All checks of modules pass lines through. -/
theorem passesLines_of_mem : ∀ c ∈ moduleRules, PassesLines c.2 := by
  simp only [moduleRules, List.forall_mem_cons]
  exact ⟨modelLocation_passesLines, inputLocation_passesLines, responseLocation_passesLines,
    missingEntityDecorator_passesLines, missingPrimaryColumn_passesLines,
    missingColumnDecorator_passesLines, unnecessaryValidation_passesLines,
    resolverClass_passesLines, emptyResolver_passesLines, serviceClass_passesLines,
    missingModule_passesLines, .of_definitions moduleNaming_filewise (fun _ _ => rfl) rfl,
    .of_definitions modulePath_filewise (fun _ _ => rfl) rfl, resolverLocation_passesLines,
    multipleArgsDecorators_passesLines, eventInResolver_passesLines,
    fun _ h => (List.not_mem_nil h).elim⟩

/-- The enabled checks find the same on other lines, but for the lines. -/
theorem map_mapLine_evaluateModule (g : Int → Int) (ctx : Context) (rules : RuleSet) :
    evaluateModule (ctx.mapLines g) rules =
      (evaluateModule ctx rules).map (Finding.mapLine g) := by
  rw [evaluateModule, evaluateModule, List.map_flatMap]
  exact List.flatMap_congr fun c hc => passesLines_of_mem c (List.mem_filter.mp hc).1 g ctx

/-- If every line in the known declarations of a module is replaced by its image, what the enabled
checks find stays the same but for the lines of the findings, which are replaced by their images. If
all code moves down by some lines, each finding with a line moves down by as many. What resolvers
are known to compute does not hang on lines either. -/
theorem evaluateModule_mapLines (g : Int → Int) (ctx : Context) (rules : RuleSet) :
    evaluateModule (ctx.mapLines g) rules =
      (evaluateModule ctx rules).map (Finding.mapLine g) ∧
    (∀ k : Int, List.Forall₂ (Finding.IsMovedDown k) (evaluateModule ctx rules)
      (evaluateModule (ctx.mapLines (· + k)) rules)) ∧
    ∀ files, ResolverIndex.collect (files.map (ParsedFile.mapLines g)) =
      ResolverIndex.collect files := by
  refine ⟨map_mapLine_evaluateModule g ctx rules, fun k => ?_, ResolverIndex.collect_mapLines g⟩
  rw [map_mapLine_evaluateModule, List.forall₂_map_right_iff, List.forall₂_same]
  exact fun x _ => ⟨rfl, rfl, rfl, rfl, rfl, rfl⟩

end Evaluation

end ModuleLint
