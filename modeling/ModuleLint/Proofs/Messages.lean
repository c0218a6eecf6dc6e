import Mathlib.Data.List.Basic
import ModuleLint.Proofs.Excerpts
import ModuleLint.Proofs.OneLine
import ModuleLint.Proofs.Partition
import ModuleLint.Proofs.Stems

/-!
# What messages are made of

The words of a message are fixed and stand on one line. What is put between them is the name of a
module, a part of the path of the file in question, or a name that the declarations of that file
lend to it. So a message breaks off its line only at a line feed in one of these.
-/

namespace ModuleLint

open Text (IsOneLine)

namespace Path

variable {path segment : String}

/-- The name of a path is made of characters of the path. -/
theorem name_subset (path : String) : (name path).toList ⊆ path.toList := by
  unfold name
  split
  · exact List.nil_subset _
  next s hlast =>
    split
    · exact List.nil_subset _
    · exact subset_of_mem_segments (List.mem_of_getLast? hlast)

end Path

namespace Grouping

/-- The module that a bare file name tells is made of characters of the name. -/
theorem subset_of_bareModule? {extensions : List String} {fileName name : String}
    (h : bareModule? extensions fileName = some name) : name.toList ⊆ fileName.toList := by
  unfold bareModule? at h
  split at h
  · cases h
  next stem _ _ hstem =>
    split at h
    · cases h
    · split at h
      next =>
        obtain rfl := Option.some.inj h
        rw [List.span_eq_takeWhile_dropWhile] at hstem
        rw [String.toList_ofList, ← (Prod.mk.inj hstem).1]
        exact List.takeWhile_subset _
      next => cases h

/-- The name of a module is made of characters of the paths that tell it. -/
theorem subset_of_moduleOf? {extensions : List String} {path name : String}
    (h : moduleOf? extensions path = some name) : name.toList ⊆ path.toList := by
  have hneighbours {test : String × String → Bool} {pair : String × String}
      (hfind : (neighbours (Path.segments path)).find? test = some pair) :
      pair.1.toList ⊆ path.toList ∧ pair.2.toList ⊆ path.toList := by
    obtain ⟨hfirst, hsecond, -⟩ := mem_of_find?_neighbours hfind
    exact ⟨Path.subset_of_mem_segments hfirst,
      Path.subset_of_mem_segments (List.mem_of_mem_tail hsecond)⟩
  rw [moduleOf?, moduleOfSegments?, Option.orElse_eq_some, Option.orElse_eq_some,
    Option.orElse_eq_some] at h
  rcases h with h | ⟨-, h | ⟨-, h | ⟨-, h⟩⟩⟩
  · obtain ⟨pair, hfind, rfl⟩ := Option.map_eq_some_iff.mp h
    exact (hneighbours hfind).2
  · obtain ⟨pair, hfind, rfl⟩ := Option.map_eq_some_iff.mp h
    exact (hneighbours hfind).2
  · obtain ⟨pair, hfind, rfl⟩ := Option.map_eq_some_iff.mp h
    exact (hneighbours hfind).1
  · obtain ⟨fileName, hlast, h⟩ := Option.bind_eq_some_iff.mp h
    have hfile : fileName.toList ⊆ path.toList :=
      Path.subset_of_mem_segments (List.mem_of_getLast? hlast)
    exact List.Subset.trans (subset_of_bareModule? h) hfile

end Grouping

namespace ParsedFile

/-- The names that the declarations of a file can lend to a message: those of classes and members,
and those by which the parameters of members are known. -/
def quotedNames (p : ParsedFile) : List String :=
  p.classes.flatMap fun c => c.name.toList ++ c.members.flatMap fun m => m.name.toList ++
    m.parameters.flatMap fun parameter => parameter.name.toList ++
      parameter.decorators.filterMap fun d => d.stringArgument? 0

variable {p : ParsedFile} {c m parameter : Declaration} {name : String}

/-- A file lends the names of its classes. -/
theorem mem_quotedNames_of_class (hc : c ∈ p.classes) (hname : c.name = some name) :
    name ∈ p.quotedNames :=
  List.mem_flatMap.mpr ⟨c, hc, List.mem_append_left _ (Option.mem_toList.mpr hname)⟩

/-- A file lends the names of the members of its classes. -/
theorem mem_quotedNames_of_member (hc : c ∈ p.classes) (hm : m ∈ c.members)
    (hname : m.name = some name) : name ∈ p.quotedNames :=
  List.mem_flatMap.mpr ⟨c, hc, List.mem_append_right _ (List.mem_flatMap.mpr
    ⟨m, hm, List.mem_append_left _ (Option.mem_toList.mpr hname)⟩)⟩

/-- A file lends the names of the parameters in its classes, and what their decorators name. -/
theorem mem_quotedNames_of_parameter (hc : c ∈ p.classes) (hm : m ∈ c.members)
    (hparameter : parameter ∈ m.parameters) (hname : parameter.name = some name ∨
      ∃ d ∈ parameter.decorators, d.stringArgument? 0 = some name) : name ∈ p.quotedNames := by
  refine List.mem_flatMap.mpr ⟨c, hc, List.mem_append_right _ (List.mem_flatMap.mpr
    ⟨m, hm, List.mem_append_right _ (List.mem_flatMap.mpr ⟨parameter, hparameter, ?_⟩)⟩)⟩
  rcases hname with hname | ⟨d, hd, hname⟩
  · exact List.mem_append_left _ (Option.mem_toList.mpr hname)
  · exact List.mem_append_right _ (List.mem_filterMap.mpr ⟨d, hd, hname⟩)

end ParsedFile

namespace Rules

/-- All that messages about a file can be made of stands on one line: the name of the module, the
path of the file, and the names that its declarations lend. -/
structure Context.IsOneLine (ctx : Context) (f : SourceFile) : Prop where
  module_ : Text.IsOneLine ctx.module_
  path : Text.IsOneLine f.path
  names : ∀ p, ctx.parsed f.path = some p → ∀ name ∈ p.quotedNames, Text.IsOneLine name

/-- A check keeps to the line: its messages about a file stand on one line if all they can be made
of does. -/
def KeepsToLine (check : Context → List Finding) : Prop :=
  ∀ (ctx : Context) (f : SourceFile), ctx.IsOneLine f →
    ∀ g ∈ check (ctx.only f), Text.IsOneLine g.message

section Parts

variable {ctx : Context} {f : SourceFile}

/-- The name of a file stands on one line if its path does. -/
theorem Context.IsOneLine.name (h : ctx.IsOneLine f) : Text.IsOneLine f.name :=
  h.path.of_subset (Path.name_subset f.path)

/-- The extension of a file stands on one line if its path does. -/
theorem Context.IsOneLine.extension (h : ctx.IsOneLine f) : Text.IsOneLine f.extension :=
  h.name.of_subset (Path.stemAndExtension_subset f.name).2

/-- The stem of a file stands on one line if its path does. -/
theorem Context.IsOneLine.stem (h : ctx.IsOneLine f) : Text.IsOneLine (Path.stem f.name) :=
  (h.name.of_subset (Path.name_subset f.name)).of_subset
    (Path.stemAndExtension_subset (Path.name f.name)).1

/-- What is said of where something was found stands on one line if the path of the file does. -/
theorem Context.IsOneLine.foundIn (h : ctx.IsOneLine f) : Text.IsOneLine (Rules.foundIn f) :=
  .append (.words (by decide)) h.name

/-- The name shown for a declaration stands on one line if its name does. -/
theorem isOneLine_shownName {d : Declaration}
    (h : ∀ name, d.name = some name → Text.IsOneLine name) : Text.IsOneLine d.shownName := by
  rw [Declaration.shownName]
  split
  · exact .words (by decide)
  next hne =>
    rw [Declaration.nameOrEmpty] at hne ⊢
    cases hname : d.name with
    | none => simp [hname] at hne
    | some name => exact h name hname

/-- A text that is kept if it is not empty is the text. -/
theorem eq_some_of_nonEmpty? {text : Option String} {s : String} (h : nonEmpty? text = some s) :
    text = some s :=
  (Option.filter_eq_some_iff.mp h).1

/-- The names that a method binds to arguments stand on one line if the names of its parameters and
the arguments of their decorators do. -/
theorem isOneLine_binding {m : Declaration} {binding : String × Int}
    (hbinding : binding ∈ argumentBindings m)
    (h : ∀ parameter ∈ m.parameters, ∀ name, (parameter.name = some name ∨
      ∃ d ∈ parameter.decorators, d.stringArgument? 0 = some name) → Text.IsOneLine name) :
    Text.IsOneLine binding.1 := by
  obtain ⟨parameter, hparameter, hbinding⟩ := List.mem_flatMap.mp hbinding
  obtain ⟨d, hd, rfl⟩ := List.mem_map.mp hbinding
  rw [boundName]
  cases hname : nonEmpty? (d.stringArgument? 0) <|> nonEmpty? parameter.name with
  | none =>
    change Text.IsOneLine "unknown"
    exact .words (by decide)
  | some name =>
    rw [Option.orElse_eq_some] at hname
    rcases hname with hname | ⟨-, hname⟩
    · exact h parameter hparameter name
        (.inr ⟨d, (List.mem_filter.mp hd).1, eq_some_of_nonEmpty? hname⟩)
    · exact h parameter hparameter name (.inl (eq_some_of_nonEmpty? hname))

end Parts

/-- A check keeps to the line if what it says of each file it looks into does. -/
theorem KeepsToLine.of_inParsed {check : Context → List Finding}
    {keeps : SourceFile → Bool} {body : Context → SourceFile → ParsedFile → List Finding}
    (hcheck : ∀ ctx, check ctx = ctx.inParsed (ctx.files.filter keeps) (body ctx))
    (hbody : ∀ (ctx : Context) f p, ctx.IsOneLine f → ctx.parsed f.path = some p →
      ∀ g ∈ body (ctx.only f) f p, Text.IsOneLine g.message) : KeepsToLine check := by
  intro ctx f hf g hg
  rw [hcheck] at hg
  obtain ⟨f', hf', hg⟩ := List.mem_flatMap.mp hg
  obtain rfl : f' = f := List.mem_singleton.mp (List.mem_filter.mp hf').1
  cases hp : ctx.parsed f'.path with
  | none => simp [Context.only, hp] at hg
  | some p => exact hbody ctx f' p hf hp g (by simpa [Context.only, hp] using hg)

/-- A check that makes at most one finding about each class, or each method, keeps to the line if
the messages about these do. -/
theorem KeepsToLine.of_whenever {rule : Rule} {Item : Type} {check : Context → List Finding}
    {keeps : SourceFile → Bool} (items : ParsedFile → List Item)
    {condition : SourceFile → Item → Bool} {message : SourceFile → Item → String}
    {line : SourceFile → Item → Option Int}
    (hcheck : ∀ ctx, check ctx = ctx.inParsed (ctx.files.filter keeps) fun f p =>
      (items p).flatMap fun i =>
        whenever (condition f i) (rule.finding f.path (message f i) (line f i)))
    (hmessage : ∀ (ctx : Context) f p, ctx.IsOneLine f → ctx.parsed f.path = some p →
      ∀ i ∈ items p, Text.IsOneLine (message f i)) : KeepsToLine check := by
  refine .of_inParsed hcheck fun ctx f p hf hp g hg => ?_
  simp only [List.mem_flatMap, mem_whenever] at hg
  obtain ⟨i, hi, -, rfl⟩ := hg
  exact hmessage ctx f p hf hp i hi

/-- Messages on misplaced object types and persisted classes keep to the line. -/
theorem modelLocation_keepsToLine : KeepsToLine modelLocation := by
  refine .of_inParsed (fun _ => rfl) fun ctx f p hf hp g hg => ?_
  simp only [List.mem_flatMap, List.mem_append, mem_whenever] at hg
  obtain ⟨c, -, ⟨-, rfl⟩ | ⟨-, rfl⟩⟩ := hg
  · exact .append (.append (.words (by decide)) hf.extension) hf.foundIn
  · exact .append (.append (.words (by decide)) hf.extension) hf.foundIn

/-- Messages on misplaced input types keep to the line. -/
theorem inputLocation_keepsToLine : KeepsToLine inputLocation := by
  refine .of_whenever ParsedFile.classes (fun _ => rfl) fun ctx f p hf hp c hc => ?_
  exact .append (.append (.words (by decide)) hf.extension) hf.foundIn

/-- Messages on misplaced response types keep to the line. -/
theorem responseLocation_keepsToLine : KeepsToLine responseLocation := by
  refine .of_whenever ParsedFile.classes (fun _ => rfl) fun ctx f p hf hp c hc => ?_
  exact .append (.append (.words (by decide)) hf.extension) hf.foundIn

/-- Messages on misplaced operations keep to the line. -/
theorem resolverLocation_keepsToLine : KeepsToLine resolverLocation := by
  refine .of_whenever ParsedFile.methods (fun _ => rfl) fun ctx f p hf hp m hm => ?_
  exact .append (.append (.append (.words (by decide)) (.words (by decide))) hf.extension)
    (.words (by decide))

/-- Messages on unmarked persisted classes keep to the line. -/
theorem missingEntityDecorator_keepsToLine : KeepsToLine missingEntityDecorator := by
  refine .of_whenever ParsedFile.classes (fun _ => rfl) fun ctx f p hf hp c hc => ?_
  have hname : Text.IsOneLine c.shownName :=
    isOneLine_shownName fun name hname =>
      hf.names p hp name (ParsedFile.mem_quotedNames_of_class hc hname)
  exact .append (.append (.append (.words (by decide)) hname) (.words (by decide)))
    (.words (by decide))

/-- Messages on persisted classes without a key keep to the line. -/
theorem missingPrimaryColumn_keepsToLine : KeepsToLine missingPrimaryColumn :=
  .of_whenever ParsedFile.classes (fun _ => rfl) fun _ _ _ _ _ _ _ => .words (by decide)

/-- Messages on properties that are neither stored nor computed keep to the line. -/
theorem missingColumnDecorator_keepsToLine : KeepsToLine missingColumnDecorator := by
  refine .of_inParsed (fun _ => rfl) fun ctx f p hf hp g hg => ?_
  obtain ⟨c, hc, hg⟩ := List.mem_flatMap.mp hg
  dsimp only at hg
  split at hg
  · obtain ⟨property, -, rfl⟩ := List.mem_map.mp hg
    exact .append (.words (by decide)) (.words (by decide))
  · cases hg

/-- Messages on needless type checks keep to the line. -/
theorem unnecessaryValidation_keepsToLine : KeepsToLine unnecessaryValidation := by
  have hvalidators : ∀ name ∈ typeValidators, Text.IsOneLine name := by
    simp only [typeValidators, List.forall_mem_cons, List.not_mem_nil, IsEmpty.forall_iff,
      implies_true, and_true]
    and_intros <;> exact .words (by decide)
  refine .of_inParsed (fun _ => rfl) fun ctx f p hf hp g hg => ?_
  obtain ⟨c, hc, hg⟩ := List.mem_flatMap.mp hg
  dsimp only at hg
  split at hg
  · obtain ⟨property, hproperty, hg⟩ := List.mem_flatMap.mp hg
    split at hg
    · obtain ⟨d, hd, rfl⟩ := List.mem_map.mp hg
      have hdecorator : Text.IsOneLine d.name :=
        hvalidators d.name (List.contains_iff_mem.mp (List.mem_filter.mp hd).2)
      have hname : Text.IsOneLine property.shownName := isOneLine_shownName fun name hname =>
        hf.names p hp name
          (ParsedFile.mem_quotedNames_of_member hc (List.mem_filter.mp hproperty).1 hname)
      exact .append (.append (.append (.append (.append (.words (by decide)) hdecorator)
        (.words (by decide))) (.words (by decide))) hname) (.words (by decide))
    · cases hg
  · cases hg

/-- A check that makes at most one finding about each file it looks into keeps to the line if its
message does. -/
theorem KeepsToLine.of_file {rule : Rule} {check : Context → List Finding}
    {keeps : SourceFile → Bool} {condition : ParsedFile → Bool} {message : String}
    (hcheck : ∀ ctx, check ctx = ctx.inParsed (ctx.files.filter keeps) fun f p =>
      whenever (condition p) (rule.finding f.path message none))
    (hmessage : Text.IsOneLine message) : KeepsToLine check := by
  refine .of_inParsed hcheck fun ctx f p hf hp g hg => ?_
  obtain ⟨-, rfl⟩ := mem_whenever.mp hg
  exact hmessage

/-- Messages on resolver files without a resolver keep to the line. -/
theorem resolverClass_keepsToLine : KeepsToLine resolverClass :=
  .of_file (fun _ => rfl) (.words (by decide))

/-- Messages on resolvers that resolve nothing keep to the line. -/
theorem emptyResolver_keepsToLine : KeepsToLine emptyResolver :=
  .of_file (fun _ => rfl) (.words (by decide))

/-- Messages on service files without a service keep to the line. -/
theorem serviceClass_keepsToLine : KeepsToLine serviceClass :=
  .of_file (fun _ => rfl) (.append (.words (by decide)) (.words (by decide)))

/-- Messages on operations with several arguments keep to the line, and so do those on the
arguments. -/
theorem multipleArgsDecorators_keepsToLine : KeepsToLine multipleArgsDecorators := by
  refine .of_inParsed (fun _ => rfl) fun ctx f p hf hp g hg => ?_
  obtain ⟨m, hm, hg⟩ := List.mem_flatMap.mp hg
  obtain ⟨c, hc, hmethod⟩ := List.mem_flatMap.mp hm
  have hmember : m ∈ c.members := (List.mem_filter.mp hmethod).1
  have hname : Text.IsOneLine m.shownName := isOneLine_shownName fun name hname =>
    hf.names p hp name (ParsedFile.mem_quotedNames_of_member hc hmember hname)
  have hbindings : ∀ b ∈ argumentBindings m, Text.IsOneLine b.1 := fun b hb =>
    isOneLine_binding hb fun parameter hparameter name hname =>
      hf.names p hp name (ParsedFile.mem_quotedNames_of_parameter hc hmember hparameter hname)
  dsimp only at hg
  split at hg
  · rcases List.mem_cons.mp hg with rfl | hg
    · have hlisted : Text.IsOneLine (", ".intercalate
          ((argumentBindings m).map fun b => "@Args('" ++ b.1 ++ "')")) := by
        refine Text.isOneLine_intercalate (.words (by decide)) fun s hs => ?_
        obtain ⟨b, hb, rfl⟩ := List.mem_map.mp hs
        exact .append (.append (.words (by decide)) (hbindings b hb)) (.words (by decide))
      have hcount : Text.IsOneLine (toString (argumentBindings m).length) :=
        Text.isOneLine_toString_nat _
      exact .append (.append (.append (.append (.append (.append (.words (by decide)) hname)
        (.words (by decide))) hcount) (.words (by decide))) hlisted) (.words (by decide))
    · obtain ⟨b, hb, rfl⟩ := List.mem_map.mp hg
      exact .append (.append (.append (.words (by decide)) (hbindings b hb)) (.words (by decide)))
        (.words (by decide))
  · cases hg

/-- Messages on events published by resolvers keep to the line. -/
theorem eventInResolver_keepsToLine : KeepsToLine eventInResolver := by
  have hmethods : ∀ name ∈ eventMethods, Text.IsOneLine name := by
    simp only [eventMethods, List.forall_mem_cons, List.not_mem_nil, IsEmpty.forall_iff,
      implies_true, and_true]
    and_intros <;> exact .words (by decide)
  refine .of_inParsed (fun _ => rfl) fun ctx f p hf hp g hg => ?_
  obtain ⟨call, hcall, rfl⟩ := List.mem_map.mp hg
  have hname : Text.IsOneLine call.method :=
    hmethods call.method (List.contains_iff_mem.mp (List.mem_filter.mp hcall).2)
  exact .append (.append (.words (by decide)) hname) (.words (by decide))

/-- A check of definition files keeps to the line if what it says of one of them does. -/
theorem KeepsToLine.of_definitions {rule : Rule} {check : Context → List Finding}
    {condition : Context → SourceFile → Bool} {message : Context → SourceFile → String}
    (hcheck : ∀ ctx, check ctx = if isApplication ctx then [] else
      (ctx.withRole [.definition]).flatMap fun f =>
        whenever (condition ctx f) (rule.finding f.path (message ctx f) none))
    (hmessage : ∀ (ctx : Context) f, ctx.IsOneLine f → Text.IsOneLine (message (ctx.only f) f)) :
    KeepsToLine check := by
  intro ctx f hf g hg
  rw [hcheck] at hg
  split at hg
  · cases hg
  · obtain ⟨f', hf', hg⟩ := List.mem_flatMap.mp hg
    obtain rfl : f' = f := List.mem_singleton.mp (List.mem_filter.mp hf').1
    obtain ⟨-, rfl⟩ := mem_whenever.mp hg
    exact hmessage ctx f' hf

/-- The stem that a definition file should have stands on one line if the name of its module
does. -/
theorem Context.IsOneLine.definitionStem {ctx : Context} {f : SourceFile} (h : ctx.IsOneLine f) :
    Text.IsOneLine (Rules.definitionStem ctx) :=
  .append h.module_ (.words (by decide))

/-- Messages on misnamed definition files keep to the line. -/
theorem moduleNaming_keepsToLine : KeepsToLine moduleNaming := by
  refine .of_definitions (fun _ => rfl) fun ctx f hf => ?_
  exact .append (.append (.append (.append (.append (.append (.words (by decide))
    hf.definitionStem) hf.extension) (.words (by decide))) hf.stem) hf.extension)
    (.words (by decide))

/-- Messages on misplaced definition files keep to the line. -/
theorem modulePath_keepsToLine : KeepsToLine modulePath := by
  refine .of_definitions (fun _ => rfl) fun ctx f hf => ?_
  have hexpected : Text.IsOneLine (ctx.module_ ++ "/" ++ definitionStem ctx ++ f.extension) :=
    .append (.append (.append hf.module_ (.words (by decide))) hf.definitionStem) hf.extension
  exact .append (.append (.append (.append (.words (by decide)) hexpected) (.words (by decide)))
    hf.path) (.words (by decide))

/-- The message on a missing definition stands on one line if the name of the module does. -/
theorem isOneLine_missingModule {ctx : Context} (h : Text.IsOneLine ctx.module_) :
    ∀ g ∈ missingModule ctx, Text.IsOneLine g.message := by
  intro g hg
  obtain ⟨-, rfl⟩ := mem_whenever.mp hg
  exact .append (.append (.words (by decide)) h) (.words (by decide))

/-- The message on an entity file stands on one line if its path does. -/
theorem isOneLine_entityFileNotAllowed {files : List SourceFile} {g : Finding}
    (hg : g ∈ entityFileNotAllowed files) (hfile : Text.IsOneLine g.file) :
    Text.IsOneLine g.message := by
  obtain ⟨f, -, rfl⟩ := List.mem_map.mp hg
  have hname : Text.IsOneLine (Path.name f.path) := hfile.of_subset (Path.name_subset f.path)
  have hextension : Text.IsOneLine f.extension :=
    hname.of_subset (Path.stemAndExtension_subset (Path.name f.path)).2
  exact .append (.append (.append (.append (.append (.words (by decide)) hextension)
    (.words (by decide))) (.words (by decide))) hextension) (.words (by decide))

end Rules

/-- All checks that go file by file keep to the line. -/
theorem Evaluation.keepsToLine_of_mem :
    ∀ c ∈ moduleRules, c.1 ≠ .missingModule → Rules.KeepsToLine c.2 := by
  simp only [moduleRules, List.forall_mem_cons]
  exact ⟨fun _ => Rules.modelLocation_keepsToLine, fun _ => Rules.inputLocation_keepsToLine,
    fun _ => Rules.responseLocation_keepsToLine, fun _ => Rules.missingEntityDecorator_keepsToLine,
    fun _ => Rules.missingPrimaryColumn_keepsToLine,
    fun _ => Rules.missingColumnDecorator_keepsToLine,
    fun _ => Rules.unnecessaryValidation_keepsToLine, fun _ => Rules.resolverClass_keepsToLine,
    fun _ => Rules.emptyResolver_keepsToLine, fun _ => Rules.serviceClass_keepsToLine,
    fun hrule => (hrule rfl).elim, fun _ => Rules.moduleNaming_keepsToLine,
    fun _ => Rules.modulePath_keepsToLine, fun _ => Rules.resolverLocation_keepsToLine,
    fun _ => Rules.multipleArgsDecorators_keepsToLine, fun _ => Rules.eventInResolver_keepsToLine,
    fun _ h => (List.not_mem_nil h).elim⟩

/-- A message in a survey stands on one line if the name of its file or module does, and the names
that the declarations of the file lend. -/
theorem Survey.isOneLine_message {extensions paths : List String}
    {parse : String → Option ParsedFile} {rules : RuleSet} {g : Finding}
    (hg : g ∈ (ofPaths extensions paths parse).findings rules) (hfile : IsOneLine g.file)
    (hnames : ∀ p, parse g.file = some p → ∀ name ∈ p.quotedNames, IsOneLine name) :
    IsOneLine g.message := by
  rcases mem_findings_iff.mp hg with ⟨-, hg⟩ | ⟨group, hgroup, c, hc, -, hg⟩
  · exact Rules.isOneLine_entityFileNotAllowed hg hfile
  · by_cases hrule : c.1 = .missingModule
    · obtain ⟨rule, check⟩ := c
      obtain rfl : rule = .missingModule := hrule
      rw [Evaluation.eq_missingModule_of_mem hc] at hg
      rw [(Rules.missingModule_makes _ g hg).file_eq] at hfile
      exact Rules.isOneLine_missingModule hfile g hg
    · have hfilewise := Evaluation.filewise_of_mem c hc hrule
      rw [hfilewise.eq_flatMap] at hg
      obtain ⟨f, hf, hg⟩ := List.mem_flatMap.mp hg
      rw [(hfilewise.makes _ f g hg).file_eq] at hfile hnames
      have hmodule : Grouping.moduleOf? extensions f.path = some group.name :=
        (((Grouping.isGrouping_groups extensions _).mem_files_iff hgroup).mp hf).2
      have hparsed : (ofPaths extensions paths parse).parsed f.path = parse f.path :=
        parsed_ofPaths (List.mem_flatMap.mpr ⟨group, hgroup, hf⟩)
      refine Evaluation.keepsToLine_of_mem c hc hrule _ f ⟨?_, hfile, ?_⟩ g hg
      · exact hfile.of_subset (Grouping.subset_of_moduleOf? hmodule)
      · intro p hp
        exact hnames p (hparsed ▸ hp)

end ModuleLint
