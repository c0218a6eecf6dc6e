import ModuleLint.Proofs.Declarations
import ModuleLint.Proofs.Survey

/-!
# Where findings point

A finding with a line is about a file whose declarations are known, and these mention the line. The
declarations of a discovered file mention no lines but those of its text, so every line in a report
is one of the file that the finding names.
-/

namespace ModuleLint

namespace ParsedFile

variable {p : ParsedFile}

/-- The declarations of a file mention the lines of its classes. -/
theorem mentions_class {c : Declaration} (hc : c ∈ p.classes) : p.Mentions c.line :=
  .inl ⟨c, hc, .own rfl⟩

/-- The declarations of a file mention the lines that a property of a class mentions. -/
theorem mentions_of_property {c m : Declaration} (hc : c ∈ p.classes) (hm : m ∈ c.properties)
    {line : Int} (h : m.Mentions line) : p.Mentions line :=
  .inl ⟨c, hc, .member (List.mem_filter.mp hm).1 h⟩

/-- The declarations of a file mention the lines that a method mentions. -/
theorem mentions_of_method {m : Declaration} (hm : m ∈ p.methods) {line : Int}
    (h : m.Mentions line) : p.Mentions line := by
  obtain ⟨c, hc, hm⟩ := List.mem_flatMap.mp hm
  exact .inl ⟨c, hc, .member (List.mem_filter.mp hm).1 h⟩

end ParsedFile

namespace Rules

/-- The line of a finding, if it has one, is mentioned by the declarations of a file. -/
def IsMentioned (p : ParsedFile) (g : Finding) : Prop :=
  ∀ line, g.line = some line → p.Mentions line

/-- A check points to mentioned lines: a finding with a line is about a file of the module whose
declarations mention the line. -/
def Points (check : Context → List Finding) : Prop :=
  ∀ ctx : Context, ∀ g ∈ check ctx, ∀ line, g.line = some line →
    ∃ f ∈ ctx.files, g.file = f.path ∧ ∃ p, ctx.parsed f.path = some p ∧ p.Mentions line

/-- A finding on a mentioned line is on a mentioned line. -/
theorem isMentioned_finding {p : ParsedFile} {line : Int} (h : p.Mentions line) (rule : Rule)
    (file message : String) : IsMentioned p (rule.finding file message line) := by
  intro line' hline
  obtain rfl : line = line' := Option.some.inj hline
  exact h

/-- A check that goes file by file points to mentioned lines if, of each file it looks into, it
mentions lines that the declarations in the file mention. -/
theorem Points.of_inParsed {rule : Rule} {check : Context → List Finding}
    {keeps : SourceFile → Bool} {body : Context → SourceFile → ParsedFile → List Finding}
    (hfilewise : Filewise rule check)
    (hcheck : ∀ ctx, check ctx = ctx.inParsed (ctx.files.filter keeps) (body ctx))
    (hbody : ∀ ctx f p, ∀ g ∈ body ctx f p, IsMentioned p g) : Points check := by
  intro ctx g hg line hline
  rw [hfilewise.eq_flatMap] at hg
  obtain ⟨f, hf, hg⟩ := List.mem_flatMap.mp hg
  refine ⟨f, hf, (hfilewise.makes ctx f g hg).file_eq, ?_⟩
  rw [hcheck] at hg
  obtain ⟨f', hf', hg⟩ := List.mem_flatMap.mp hg
  obtain rfl : f' = f := List.mem_singleton.mp (List.mem_filter.mp hf').1
  cases hp : (ctx.only f').parsed f'.path with
  | none => simp [hp] at hg
  | some p => exact ⟨p, hp, hbody _ f' p g (by simpa [hp] using hg) line hline⟩

/-- A check that makes at most one finding about each class, or each method, points to mentioned
lines if it points to the lines of these. -/
theorem Points.of_whenever {rule : Rule} {check : Context → List Finding}
    {keeps : SourceFile → Bool} (items : ParsedFile → List Declaration)
    {condition : SourceFile → Declaration → Bool} {message : SourceFile → Declaration → String}
    (hfilewise : Filewise rule check)
    (hcheck : ∀ ctx, check ctx = ctx.inParsed (ctx.files.filter keeps) fun f p =>
      (items p).flatMap fun i =>
        whenever (condition f i) (rule.finding f.path (message f i) i.line))
    (hitems : ∀ p : ParsedFile, ∀ i ∈ items p, p.Mentions i.line) : Points check := by
  refine .of_inParsed hfilewise hcheck fun _ f p g hg => ?_
  simp only [List.mem_flatMap, mem_whenever] at hg
  obtain ⟨i, hi, -, rfl⟩ := hg
  exact isMentioned_finding (hitems p i hi) _ _ _

/-- A check that goes file by file and has no line to tell points to mentioned lines. -/
theorem Points.of_not_isLocated {rule : Rule} {check : Context → List Finding}
    (hfilewise : Filewise rule check) (hrule : rule.isLocated = false) : Points check := by
  intro ctx g hg line hline
  obtain ⟨f, -, hmakes⟩ := hfilewise.exists_makes hg
  simpa [hline, hrule] using hmakes.isSome_line

/-- Misplaced object types and persisted classes are pointed to. -/
theorem modelLocation_points : Points modelLocation := by
  refine .of_inParsed modelLocation_filewise (fun _ => rfl) fun _ f p g hg => ?_
  simp only [List.mem_flatMap, List.mem_append, mem_whenever] at hg
  obtain ⟨c, hc, ⟨-, rfl⟩ | ⟨-, rfl⟩⟩ := hg <;>
    exact isMentioned_finding (ParsedFile.mentions_class hc) _ _ _

/-- Misplaced input types are pointed to. -/
theorem inputLocation_points : Points inputLocation :=
  .of_whenever ParsedFile.classes inputLocation_filewise (fun _ => rfl)
    fun _ _ => ParsedFile.mentions_class

/-- Misplaced response types are pointed to. -/
theorem responseLocation_points : Points responseLocation :=
  .of_whenever ParsedFile.classes responseLocation_filewise (fun _ => rfl)
    fun _ _ => ParsedFile.mentions_class

/-- Misplaced operations are pointed to. -/
theorem resolverLocation_points : Points resolverLocation :=
  .of_whenever ParsedFile.methods resolverLocation_filewise (fun _ => rfl)
    fun _ _ hm => ParsedFile.mentions_of_method hm (.own rfl)

/-- Unmarked persisted classes are pointed to. -/
theorem missingEntityDecorator_points : Points missingEntityDecorator :=
  .of_whenever ParsedFile.classes missingEntityDecorator_filewise (fun _ => rfl)
    fun _ _ => ParsedFile.mentions_class

/-- Persisted classes without a key are pointed to. -/
theorem missingPrimaryColumn_points : Points missingPrimaryColumn :=
  .of_whenever ParsedFile.classes missingPrimaryColumn_filewise (fun _ => rfl)
    fun _ _ => ParsedFile.mentions_class

/-- Properties that are neither stored nor computed are pointed to. -/
theorem missingColumnDecorator_points : Points missingColumnDecorator := by
  refine .of_inParsed missingColumnDecorator_filewise (fun _ => rfl) fun _ f p g hg => ?_
  obtain ⟨c, hc, hg⟩ := List.mem_flatMap.mp hg
  dsimp only at hg
  split at hg
  · obtain ⟨property, hproperty, rfl⟩ := List.mem_map.mp hg
    have hmentions : p.Mentions property.line :=
      ParsedFile.mentions_of_property hc (List.mem_filter.mp hproperty).1 (.own rfl)
    exact isMentioned_finding hmentions _ _ _
  · cases hg

/-- Needless type checks are pointed to, each by its own line. -/
theorem unnecessaryValidation_points : Points unnecessaryValidation := by
  refine .of_inParsed unnecessaryValidation_filewise (fun _ => rfl) fun _ f p g hg => ?_
  obtain ⟨c, hc, hg⟩ := List.mem_flatMap.mp hg
  dsimp only at hg
  split at hg
  · obtain ⟨property, hproperty, hg⟩ := List.mem_flatMap.mp hg
    split at hg
    · obtain ⟨d, hd, rfl⟩ := List.mem_map.mp hg
      have hmentions : p.Mentions d.line :=
        ParsedFile.mentions_of_property hc hproperty (.decorator (List.mem_filter.mp hd).1 rfl)
      exact isMentioned_finding hmentions _ _ _
    · cases hg
  · cases hg

/-- The arguments that a method binds are on lines of its parameters. -/
theorem mentions_of_mem_argumentBindings {m : Declaration} {binding : String × Int}
    (h : binding ∈ argumentBindings m) : m.Mentions binding.2 := by
  obtain ⟨parameter, hparameter, hbinding⟩ := List.mem_flatMap.mp h
  obtain ⟨d, -, rfl⟩ := List.mem_map.mp hbinding
  exact .parameter hparameter (.own rfl)

/-- Operations with several arguments are pointed to, and so are the arguments. -/
theorem multipleArgsDecorators_points : Points multipleArgsDecorators := by
  refine .of_inParsed multipleArgsDecorators_filewise (fun _ => rfl) fun _ f p g hg => ?_
  obtain ⟨m, hm, hg⟩ := List.mem_flatMap.mp hg
  dsimp only at hg
  split at hg
  · rcases List.mem_cons.mp hg with rfl | hg
    · exact isMentioned_finding (ParsedFile.mentions_of_method hm (.own rfl)) _ _ _
    · obtain ⟨binding, hbinding, rfl⟩ := List.mem_map.mp hg
      have hmentions : p.Mentions binding.2 :=
        ParsedFile.mentions_of_method hm (mentions_of_mem_argumentBindings hbinding)
      exact isMentioned_finding hmentions _ _ _
  · cases hg

/-- Events published by resolvers are pointed to. -/
theorem eventInResolver_points : Points eventInResolver := by
  refine .of_inParsed eventInResolver_filewise (fun _ => rfl) fun _ f p g hg => ?_
  obtain ⟨call, hcall, rfl⟩ := List.mem_map.mp hg
  exact isMentioned_finding (.inr ⟨call, (List.mem_filter.mp hcall).1, rfl⟩) _ _ _

/-- A missing definition has no line. -/
theorem missingModule_points : Points missingModule := by
  intro ctx g hg line hline
  simpa [hline, Rule.isLocated] using (missingModule_makes ctx g hg).isSome_line

end Rules

/-- All checks of modules point to mentioned lines. -/
theorem Evaluation.points_of_mem : ∀ c ∈ moduleRules, Rules.Points c.2 := by
  simp only [moduleRules, List.forall_mem_cons]
  exact ⟨Rules.modelLocation_points, Rules.inputLocation_points, Rules.responseLocation_points,
    Rules.missingEntityDecorator_points, Rules.missingPrimaryColumn_points,
    Rules.missingColumnDecorator_points, Rules.unnecessaryValidation_points,
    .of_not_isLocated Rules.resolverClass_filewise rfl,
    .of_not_isLocated Rules.emptyResolver_filewise rfl,
    .of_not_isLocated Rules.serviceClass_filewise rfl, Rules.missingModule_points,
    .of_not_isLocated Rules.moduleNaming_filewise rfl,
    .of_not_isLocated Rules.modulePath_filewise rfl, Rules.resolverLocation_points,
    Rules.multipleArgsDecorators_points, Rules.eventInResolver_points,
    fun _ h => (List.not_mem_nil h).elim⟩

/-- Every finding with a line in a survey is about a file of some module whose declarations are
known and mention the line. -/
theorem Survey.exists_mentions {s : Survey} {rules : RuleSet} {g : Finding}
    (hg : g ∈ s.findings rules) {line : Int} (hline : g.line = some line) :
    ∃ f ∈ s.moduleFiles, g.file = f.path ∧ ∃ p, s.parsed f.path = some p ∧ p.Mentions line := by
  rcases mem_findings_iff.mp hg with ⟨-, hg⟩ | ⟨group, hgroup, c, hc, -, hg⟩
  · obtain ⟨f, -, hmakes⟩ := Rules.entityFileNotAllowed_makes s.files g hg
    simpa [hline, Rule.isLocated] using hmakes.isSome_line
  · obtain ⟨f, hf, hfile, hp⟩ := Evaluation.points_of_mem c hc (s.context group) g hg line hline
    exact ⟨f, List.mem_flatMap.mpr ⟨group, hgroup, hf⟩, hfile, hp⟩

/-- Every line in the findings of a survey is one of the text of the file it is told of. -/
theorem Validation.exists_readText {tree : Directory} {root : String}
    {extensions paths : List String} {rules : RuleSet} {g : Finding}
    (hg : g ∈ (Survey.ofPaths extensions paths (Parsing.ofFile tree root)).findings rules)
    {line : Int} (hline : g.line = some line) :
    ∃ text, readText tree root g.file = some text ∧
      1 ≤ line ∧ line ≤ text.toList.count '\n' + 1 := by
  obtain ⟨f, hf, hfile, p, hp, hmentions⟩ := Survey.exists_mentions hg hline
  rw [Survey.parsed_ofPaths hf, Parsing.ofFile] at hp
  cases htext : tree.text (Path.join root f.path) with
  | error fault => simp [htext] at hp
  | ok text =>
    rw [htext] at hp
    refine ⟨text, ?_, Parsing.mem_lines_of_mentions hp hmentions⟩
    rw [readText, hfile, htext]
    rfl

end ModuleLint
