import ModuleLint.Evaluation

/-!
# What single checks report

A check reports its own rule and no other. All checks but the one for missing definitions go
file by file: what they say of a file follows from the file, from its own declarations, from
the name of its module and from the computed fields, and it is reported in that file.
-/

namespace ModuleLint

/-- Whether the findings of a rule have a line. The other rules mean a whole file or module. -/
def Rule.isLocated : Rule → Bool
  | .entityFileNotAllowed | .resolverClass | .emptyResolver | .serviceClass | .missingModule
  | .moduleNaming | .modulePath => false
  | _ => true

/-- A finding as a check of the rule makes it about a file: without a snippet yet. -/
def Rule.Makes (rule : Rule) (file : String) (g : Finding) : Prop :=
  ∃ message line, g = rule.finding file message line ∧ line.isSome = rule.isLocated

namespace Rule.Makes

variable {rule : Rule} {file : String} {g : Finding}

/-- A finding names the rule it was made by. -/
theorem rule_eq (h : rule.Makes file g) : g.rule = rule.id := by
  obtain ⟨message, line, rfl, -⟩ := h
  rfl

/-- A finding names the file it was made about. -/
theorem file_eq (h : rule.Makes file g) : g.file = file := by
  obtain ⟨message, line, rfl, -⟩ := h
  rfl

/-- A finding has a line just if its rule locates its findings. -/
theorem isSome_line (h : rule.Makes file g) : g.line.isSome = rule.isLocated := by
  obtain ⟨message, line, rfl, hline⟩ := h
  exact hline

/-- A finding weighs as much as the rule it was made by. -/
theorem severity_eq (h : rule.Makes file g) : g.severity = rule.severity.word := by
  obtain ⟨message, line, rfl, -⟩ := h
  rfl

/-- A finding is made without a snippet. -/
theorem snippet_eq_none (h : rule.Makes file g) : g.snippet = none := by
  obtain ⟨message, line, rfl, -⟩ := h
  rfl

/-- A finding is an error just if its rule says so. -/
theorem isError_eq (h : rule.Makes file g) : g.isError = decide (rule.severity = .error) := by
  obtain ⟨message, line, rfl, -⟩ := h
  rw [Finding.isError, Rule.finding]
  cases rule.severity <;> rfl

end Rule.Makes

namespace Rules

/-- The module reduced to one of its files, with nothing known of the declarations of others. -/
def Context.only (ctx : Context) (f : SourceFile) : Context :=
  ⟨ctx.module_, [f], fun _ => ctx.parsed f.path, ctx.resolverFields⟩

/-- A check that goes file by file: it says of a module what it says of the files one by one,
and what it says of a file is reported there. -/
structure Filewise (rule : Rule) (check : Context → List Finding) : Prop where
  eq_flatMap : ∀ ctx : Context, check ctx = ctx.files.flatMap fun f => check (ctx.only f)
  makes : ∀ (ctx : Context) (f : SourceFile), ∀ g ∈ check (ctx.only f), rule.Makes f.path g

/-- A conditional finding is there just if its condition holds. -/
@[simp] theorem mem_whenever {condition : Bool} {finding g : Finding} :
    g ∈ whenever condition finding ↔ condition = true ∧ g = finding := by
  unfold whenever
  split <;> simp_all

/-- Going through the items that pass a test is going through all items and skipping the others. -/
theorem flatMap_filter {α β : Type} (items : List α) (keeps : α → Bool) (f : α → List β) :
    (items.filter keeps).flatMap f = items.flatMap fun a => if keeps a then f a else [] := by
  induction items with
  | nil => rfl
  | cons a items ih =>
    by_cases ha : keeps a
    · simp [List.filter_cons_of_pos ha, ha, ih]
    · simp [List.filter_cons_of_neg ha, ha, ih]

/-- Going through items with at most one finding about each is telling the findings about those that
pass the test. -/
theorem flatMap_whenever {α : Type} (items : List α) (condition : α → Bool) (f : α → Finding) :
    (items.flatMap fun a => whenever (condition a) (f a)) = (items.filter condition).map f := by
  rw [List.map_eq_flatMap, flatMap_filter]
  rfl

/-- What is said of the files that pass a test and whose declarations are known, is said of all
files one by one. -/
theorem Context.inParsed_filter (ctx : Context) (keeps : SourceFile → Bool)
    (body : SourceFile → ParsedFile → List Finding) :
    ctx.inParsed (ctx.files.filter keeps) body =
      ctx.files.flatMap fun f =>
        if keeps f then ((ctx.parsed f.path).map (body f)).getD [] else [] := by
  rw [Context.inParsed, flatMap_filter]

/-- A check goes file by file if it looks into the known declarations of files that pass a test,
knows nothing else of the other files, and makes its findings about the file it looks into. -/
theorem Filewise.of_inParsed {rule : Rule} {check : Context → List Finding}
    {keeps : SourceFile → Bool} {body : Context → SourceFile → ParsedFile → List Finding}
    (hcheck : ∀ ctx, check ctx = ctx.inParsed (ctx.files.filter keeps) (body ctx))
    (hbody : ∀ ctx f, body (ctx.only f) = body ctx)
    (hmakes : ∀ ctx f p, ∀ g ∈ body ctx f p, rule.Makes f.path g) : Filewise rule check := by
  have honly (ctx : Context) (f : SourceFile) :
      check (ctx.only f) =
        if keeps f then ((ctx.parsed f.path).map (body ctx f)).getD [] else [] := by
    rw [hcheck, Context.inParsed_filter, hbody]
    simp [Context.only]
  constructor
  · intro ctx
    rw [hcheck, Context.inParsed_filter]
    simp only [honly]
  · intro ctx f g hg
    rw [honly] at hg
    split at hg
    · cases hp : ctx.parsed f.path with
      | none => simp [hp] at hg
      | some p => exact hmakes ctx f p g (by simpa [hp] using hg)
    · simp at hg

/-- A check goes file by file if it makes at most one finding about each class, or each method,
in the known declarations of files that pass a test. -/
theorem Filewise.of_whenever {Item : Type} {rule : Rule} {check : Context → List Finding}
    {keeps : SourceFile → Bool} (items : ParsedFile → List Item)
    {condition : SourceFile → Item → Bool} {message : SourceFile → Item → String}
    {line : SourceFile → Item → Option Int}
    (hcheck : ∀ ctx, check ctx = ctx.inParsed (ctx.files.filter keeps) fun f p =>
      (items p).flatMap fun i =>
        whenever (condition f i) (rule.finding f.path (message f i) (line f i)))
    (hline : ∀ f i, (line f i).isSome = rule.isLocated) : Filewise rule check := by
  refine .of_inParsed hcheck (fun _ _ => rfl) fun ctx f p g hg => ?_
  simp only [List.mem_flatMap, mem_whenever] at hg
  obtain ⟨i, -, -, rfl⟩ := hg
  exact ⟨_, _, rfl, hline f i⟩

/-- Misplaced object types and persisted classes are sought file by file. -/
theorem modelLocation_filewise : Filewise .modelLocation modelLocation := by
  refine .of_inParsed (fun _ => rfl) (fun _ _ => rfl) fun ctx f p g hg => ?_
  simp only [List.mem_flatMap, List.mem_append, mem_whenever] at hg
  obtain ⟨c, -, ⟨-, rfl⟩ | ⟨-, rfl⟩⟩ := hg <;> exact ⟨_, _, rfl, rfl⟩

/-- Misplaced input types are sought file by file. -/
theorem inputLocation_filewise : Filewise .inputLocation inputLocation :=
  .of_whenever ParsedFile.classes (fun _ => rfl) fun _ _ => rfl

/-- Misplaced response types are sought file by file. -/
theorem responseLocation_filewise : Filewise .responseLocation responseLocation :=
  .of_whenever ParsedFile.classes (fun _ => rfl) fun _ _ => rfl

/-- Misplaced operations are sought file by file. -/
theorem resolverLocation_filewise : Filewise .resolverLocation resolverLocation :=
  .of_whenever ParsedFile.methods (fun _ => rfl) fun _ _ => rfl

/-- Unmarked persisted classes are sought file by file. -/
theorem missingEntityDecorator_filewise :
    Filewise .missingEntityDecorator missingEntityDecorator :=
  .of_whenever ParsedFile.classes (fun _ => rfl) fun _ _ => rfl

/-- Persisted classes without a key are sought file by file. -/
theorem missingPrimaryColumn_filewise : Filewise .missingPrimaryColumn missingPrimaryColumn :=
  .of_whenever ParsedFile.classes (fun _ => rfl) fun _ _ => rfl

/-- Properties that are neither stored nor computed are sought file by file. -/
theorem missingColumnDecorator_filewise :
    Filewise .missingColumnDecorator missingColumnDecorator := by
  refine .of_inParsed (fun _ => rfl) (fun _ _ => rfl) fun ctx f p g hg => ?_
  obtain ⟨c, -, hg⟩ := List.mem_flatMap.mp hg
  dsimp only at hg
  split at hg
  · obtain ⟨property, -, rfl⟩ := List.mem_map.mp hg
    exact ⟨_, _, rfl, rfl⟩
  · cases hg

/-- Needless type checks are sought file by file. -/
theorem unnecessaryValidation_filewise :
    Filewise .unnecessaryValidation unnecessaryValidation := by
  refine .of_inParsed (fun _ => rfl) (fun _ _ => rfl) fun ctx f p g hg => ?_
  obtain ⟨c, -, hg⟩ := List.mem_flatMap.mp hg
  dsimp only at hg
  split at hg
  · obtain ⟨property, -, hg⟩ := List.mem_flatMap.mp hg
    split at hg
    · obtain ⟨d, -, rfl⟩ := List.mem_map.mp hg
      exact ⟨_, _, rfl, rfl⟩
    · cases hg
  · cases hg

/-- A check goes file by file if it makes at most one finding about each file that passes a test and
whose declarations are known. -/
theorem Filewise.of_file {rule : Rule} {check : Context → List Finding}
    {keeps : SourceFile → Bool} {condition : ParsedFile → Bool} {message : String}
    (hcheck : ∀ ctx, check ctx = ctx.inParsed (ctx.files.filter keeps) fun f p =>
      whenever (condition p) (rule.finding f.path message none))
    (hrule : rule.isLocated = false) : Filewise rule check := by
  refine .of_inParsed hcheck (fun _ _ => rfl) fun ctx f p g hg => ?_
  obtain ⟨-, rfl⟩ := mem_whenever.mp hg
  exact ⟨_, _, rfl, hrule.symm⟩

/-- Resolver files without a resolver are sought file by file. -/
theorem resolverClass_filewise : Filewise .resolverClass resolverClass :=
  .of_file (fun _ => rfl) rfl

/-- Resolvers that resolve nothing are sought file by file. -/
theorem emptyResolver_filewise : Filewise .emptyResolver emptyResolver :=
  .of_file (fun _ => rfl) rfl

/-- Service files without a service are sought file by file. -/
theorem serviceClass_filewise : Filewise .serviceClass serviceClass :=
  .of_file (fun _ => rfl) rfl

/-- Operations with several arguments are sought file by file. -/
theorem multipleArgsDecorators_filewise :
    Filewise .multipleArgsDecorators multipleArgsDecorators := by
  refine .of_inParsed (fun _ => rfl) (fun _ _ => rfl) fun ctx f p g hg => ?_
  obtain ⟨m, -, hg⟩ := List.mem_flatMap.mp hg
  dsimp only at hg
  split at hg
  · rcases List.mem_cons.mp hg with rfl | hg
    · exact ⟨_, _, rfl, rfl⟩
    · obtain ⟨binding, -, rfl⟩ := List.mem_map.mp hg
      exact ⟨_, _, rfl, rfl⟩
  · cases hg

/-- Events published by resolvers are sought file by file. -/
theorem eventInResolver_filewise : Filewise .eventInResolver eventInResolver := by
  refine .of_inParsed (fun _ => rfl) (fun _ _ => rfl) fun ctx f p g hg => ?_
  obtain ⟨call, -, rfl⟩ := List.mem_map.mp hg
  exact ⟨_, _, rfl, rfl⟩

/-- A check of definition files goes file by file if it makes at most one finding about each of
them and none in the application's own module, whatever is declared in them. -/
theorem Filewise.of_definitions {rule : Rule} {check : Context → List Finding}
    {condition : Context → SourceFile → Bool} {message : Context → SourceFile → String}
    (hcheck : ∀ ctx, check ctx = if isApplication ctx then [] else
      (ctx.withRole [.definition]).flatMap fun f =>
        whenever (condition ctx f) (rule.finding f.path (message ctx f) none))
    (hcondition : ∀ ctx f, condition (ctx.only f) = condition ctx)
    (hmessage : ∀ ctx f, message (ctx.only f) = message ctx)
    (hrule : rule.isLocated = false) : Filewise rule check := by
  have honly (ctx : Context) (f : SourceFile) :
      check (ctx.only f) = if isApplication ctx || !([Role.definition].contains f.role) then []
        else whenever (condition ctx f) (rule.finding f.path (message ctx f) none) := by
    rw [hcheck, hcondition, hmessage]
    cases happ : isApplication ctx <;> cases hrole : [Role.definition].contains f.role <;>
      simp_all [isApplication, Context.only, Context.withRole]
  constructor
  · intro ctx
    simp only [honly]
    rw [hcheck]
    cases happ : isApplication ctx with
    | true => simp
    | false =>
      rw [if_neg Bool.false_ne_true, Context.withRole, flatMap_filter]
      congr 1
      funext f
      cases [Role.definition].contains f.role <;> rfl
  · intro ctx f g hg
    rw [honly] at hg
    split at hg
    · cases hg
    · obtain ⟨-, rfl⟩ := mem_whenever.mp hg
      exact ⟨_, _, rfl, hrule.symm⟩

/-- Misnamed definition files are sought file by file. -/
theorem moduleNaming_filewise : Filewise .moduleNaming moduleNaming :=
  .of_definitions (fun _ => rfl) (fun _ _ => rfl) (fun _ _ => rfl) rfl

/-- Misplaced definition files are sought file by file. -/
theorem modulePath_filewise : Filewise .modulePath modulePath :=
  .of_definitions (fun _ => rfl) (fun _ _ => rfl) (fun _ _ => rfl) rfl

/-- A missing definition is reported of the module as a whole. -/
theorem missingModule_makes (ctx : Context) :
    ∀ g ∈ missingModule ctx, Rule.missingModule.Makes ctx.module_ g := by
  intro g hg
  obtain ⟨-, rfl⟩ := mem_whenever.mp hg
  exact ⟨_, _, rfl, rfl⟩

/-- Forbidden entity files are reported one by one. -/
theorem entityFileNotAllowed_makes (files : List SourceFile) :
    ∀ g ∈ entityFileNotAllowed files, ∃ f ∈ files, Rule.entityFileNotAllowed.Makes f.path g := by
  intro g hg
  obtain ⟨f, hf, rfl⟩ := List.mem_map.mp hg
  exact ⟨f, (List.mem_filter.mp hf).1, _, _, rfl, rfl⟩

/-- What a check reports that goes file by file, it reports about a file of the module. -/
theorem Filewise.exists_makes {rule : Rule} {check : Context → List Finding}
    (h : Filewise rule check) {ctx : Context} {g : Finding} (hg : g ∈ check ctx) :
    ∃ f ∈ ctx.files, rule.Makes f.path g := by
  rw [h.eq_flatMap] at hg
  obtain ⟨f, hf, hg⟩ := List.mem_flatMap.mp hg
  exact ⟨f, hf, h.makes ctx f g hg⟩

end Rules

end ModuleLint
