import Mathlib.Data.List.Basic
import Mathlib.Data.List.Perm.Basic
import ModuleLint.Proofs.Checks

/-!
# Misplaced declarations

Decorators mark a class or method as one that has its home in files of a role. Four checks look for
declarations away from home, and their subjects overlap: a class can have several marks, and the
home of an object type hangs on its name. Together they find each misplaced mark once, however often
it is written.
-/

namespace ModuleLint

/-- A text occurs in another just if that one reads it somewhere. -/
theorem Text.occursIn_iff {part cs : List Char} : occursIn part cs = true ↔ part <:+: cs := by
  rw [occursIn]
  induction cs with
  | nil =>
    rw [cutAt?, List.infix_nil]
    cases part <;> simp
  | cons c cs ih =>
    rw [cutAt?, List.infix_cons_iff, ← ih]
    by_cases hhead : part <+: c :: cs
    · simp [hhead]
    · simp [hhead]

/-- What a finding says but for its words: its rule, its file and its line. -/
def Finding.sighting (g : Finding) : String × String × Option Int := (g.rule, g.file, g.line)

namespace Rules

/-- The name of a class tells that it is a response. -/
def IsNamedResponse (d : Declaration) : Prop := "Response".toList <:+: d.nameOrEmpty.toList

instance (d : Declaration) : Decidable (IsNamedResponse d) :=
  inferInstanceAs (Decidable (_ <:+: _))

/-- What decorators can mark a declaration as. -/
inductive Mark
  | inputType
  | objectType
  | entity
  | endpoint
  deriving DecidableEq, Repr

namespace Mark

/-- The decorators that make a mark. -/
def decorators : Mark → List String
  | inputType => ["InputType"]
  | objectType => ["ObjectType"]
  | entity => ["Entity"]
  | endpoint => ["Query", "Mutation", "Subscription", "ResolveField", "FieldResolver"]

/-- The role of the files in which a declaration with a mark is at home. -/
def home (d : Declaration) : Mark → Role
  | inputType => .input
  | objectType => if IsNamedResponse d then .response else .model
  | entity => .model
  | endpoint => .resolver

/-- The rule that a declaration with a mark breaks away from home. -/
def rule (d : Declaration) : Mark → Rule
  | inputType => .inputLocation
  | objectType => if IsNamedResponse d then .responseLocation else .modelLocation
  | entity => .modelLocation
  | endpoint => .resolverLocation

/-- The marks that classes can have. -/
def ofClasses : List Mark := [inputType, objectType, entity]

/-- A declaration has a mark: some decorator makes it. -/
def IsOn (mark : Mark) (d : Declaration) : Prop := ∃ dec ∈ d.decorators, dec.name ∈ mark.decorators

instance (mark : Mark) (d : Declaration) : Decidable (mark.IsOn d) :=
  inferInstanceAs (Decidable (∃ dec ∈ d.decorators, _))

/-- A declaration with a mark stands in a file of a role that is not its home. -/
def IsMisplaced (mark : Mark) (role : Role) (d : Declaration) : Prop :=
  mark.IsOn d ∧ role ≠ mark.home d

instance (mark : Mark) (role : Role) (d : Declaration) : Decidable (mark.IsMisplaced role d) :=
  inferInstanceAs (Decidable (_ ∧ _))

/-- A declaration has a mark just if it has one of the decorators. -/
theorem hasDecorator_eq (mark : Mark) (d : Declaration) :
    d.hasDecorator mark.decorators = decide (mark.IsOn d) := by
  rw [Bool.eq_iff_iff, decide_eq_true_eq]
  simp [Declaration.hasDecorator, IsOn]

end Mark

/-- A class is a response type just if its name tells. -/
theorem isResponse_eq (d : Declaration) : isResponse d = decide (IsNamedResponse d) := by
  rw [isResponse, Bool.eq_iff_iff, Text.occursIn_iff, decide_eq_true_eq, IsNamedResponse]

/-- The marks of a class that are misplaced in a file of a role. -/
def misplacedMarks (role : Role) (c : Declaration) : List Mark :=
  Mark.ofClasses.filter fun mark => mark.IsMisplaced role c

/-- A declaration in a file, with one of its marks. -/
structure Misplacement where
  file : SourceFile
  mark : Mark
  declaration : Declaration

/-- What a finding about a misplaced declaration has to say. -/
def Misplacement.sighting (m : Misplacement) : String × String × Option Int :=
  ((m.mark.rule m.declaration).id, m.file.path, some m.declaration.line)

/-- The declarations of a kind that are known of a module, each with its file. -/
def Context.declared (ctx : Context) (items : ParsedFile → List Declaration) :
    List (SourceFile × Declaration) :=
  ctx.files.flatMap fun f => (ctx.parsed f.path).toList.flatMap fun p =>
    (items p).map fun d => (f, d)

/-- The misplaced marks of the classes in a module. -/
def misplacedClasses (ctx : Context) : List Misplacement :=
  (ctx.declared ParsedFile.classes).flatMap fun (f, c) =>
    (misplacedMarks f.role c).map fun mark => ⟨f, mark, c⟩

/-- The misplaced endpoints among the methods in a module. -/
def misplacedMethods (ctx : Context) : List Misplacement :=
  ((ctx.declared ParsedFile.methods).filter fun (f, m) => Mark.endpoint.IsMisplaced f.role m).map
    fun (f, m) => ⟨f, .endpoint, m⟩

/-- The findings about misplaced classes. -/
def classPlacements (ctx : Context) : List Finding :=
  inputLocation ctx ++ responseLocation ctx ++ modelLocation ctx

section Checks

variable {ctx : Context}

/-- A check of declarations that passes over the files of a role goes through all declarations and
passes over those in such files. -/
theorem inParsed_withoutRole (role : Role) (items : ParsedFile → List Declaration)
    (body : SourceFile → Declaration → List Finding) :
    ctx.inParsed (ctx.withoutRole [role]) (fun f p => (items p).flatMap (body f)) =
      (ctx.declared items).flatMap fun (f, d) => if f.role = role then [] else body f d := by
  rw [Context.withoutRole, Context.inParsed_filter, Context.declared, List.flatMap_assoc]
  refine List.flatMap_congr fun f _ => ?_
  cases ctx.parsed f.path with
  | none => simp
  | some p =>
    rw [Option.map_some, Option.getD_some, Option.toList_some, List.flatMap_singleton,
      List.flatMap_map]
    by_cases hrole : f.role = role <;> simp [hrole]

/-- What is to say of a mark of a declaration: nothing, if it is not misplaced. -/
def Mark.sightings (f : SourceFile) (d : Declaration) (mark : Mark) :
    List (String × String × Option Int) :=
  if mark.IsMisplaced f.role d then [(⟨f, mark, d⟩ : Misplacement).sighting] else []

/-- A check for a mark that passes over its home says what is to say of it. -/
theorem map_sighting_check {f : SourceFile} {d : Declaration} {mark : Mark} {home : Role}
    {rule : Rule} {condition : Bool} {message : String} (hcondition : condition = decide (mark.IsOn d))
    (hhome : mark.home d = home) (hrule : mark.rule d = rule) :
    (if f.role = home then [] else
      whenever condition (rule.finding f.path message d.line)).map Finding.sighting =
        mark.sightings f d := by
  subst hcondition hhome hrule
  by_cases hrole : f.role = mark.home d
  · simp [Mark.sightings, Mark.IsMisplaced, hrole]
  · by_cases hon : mark.IsOn d
    · simp [Mark.sightings, Mark.IsMisplaced, hrole, hon, whenever, Finding.sighting, Rule.finding,
        Misplacement.sighting]
    · simp [Mark.sightings, Mark.IsMisplaced, hon, whenever]

/-- What is to say of a class is to say of its marks one by one. -/
theorem map_sighting_misplacedMarks (f : SourceFile) (c : Declaration) :
    ((misplacedMarks f.role c).map fun mark => (⟨f, mark, c⟩ : Misplacement)).map
        Misplacement.sighting = Mark.ofClasses.flatMap (Mark.sightings f c) := by
  rw [misplacedMarks, List.map_map, List.map_eq_flatMap, flatMap_filter]
  refine List.flatMap_congr fun mark _ => ?_
  simp [Mark.sightings]

/-- The check of input types says what is to say of their marks. -/
theorem map_sighting_inputLocation (ctx : Context) :
    (inputLocation ctx).map Finding.sighting =
      (ctx.declared ParsedFile.classes).flatMap fun (f, c) => Mark.inputType.sightings f c := by
  rw [inputLocation, Context.inClasses, inParsed_withoutRole, List.map_flatMap]
  exact List.flatMap_congr fun _ _ =>
    map_sighting_check (Mark.hasDecorator_eq .inputType _) rfl rfl

/-- The check of response types says what is to say of the marks of object types whose names tell
that they are responses. -/
theorem map_sighting_responseLocation (ctx : Context) :
    (responseLocation ctx).map Finding.sighting =
      (ctx.declared ParsedFile.classes).flatMap fun (f, c) =>
        if IsNamedResponse c then Mark.objectType.sightings f c else [] := by
  rw [responseLocation, Context.inClasses, inParsed_withoutRole, List.map_flatMap]
  refine List.flatMap_congr fun (f, c) _ => ?_
  have hobject : c.hasDecorator [objectType] = decide (Mark.objectType.IsOn c) :=
    Mark.hasDecorator_eq .objectType c
  dsimp only
  by_cases hresponse : IsNamedResponse c
  · rw [if_pos hresponse]
    exact map_sighting_check (by simp [hobject, isResponse_eq, hresponse]) (if_pos hresponse)
      (if_pos hresponse)
  · simp [isResponse_eq, hresponse, whenever]

/-- The check of models says what is to say of the marks of persisted classes, and of those of the
other object types. -/
theorem map_sighting_modelLocation (ctx : Context) :
    (modelLocation ctx).map Finding.sighting =
      (ctx.declared ParsedFile.classes).flatMap fun (f, c) =>
        Mark.entity.sightings f c ++
          if IsNamedResponse c then [] else Mark.objectType.sightings f c := by
  rw [modelLocation, Context.inClasses, inParsed_withoutRole, List.map_flatMap]
  refine List.flatMap_congr fun (f, c) _ => ?_
  have hobject : c.hasDecorator [objectType] = decide (Mark.objectType.IsOn c) :=
    Mark.hasDecorator_eq .objectType c
  have hsplit (findings findings' : List Finding) :
      (if f.role = .model then [] else findings ++ findings') =
        (if f.role = .model then [] else findings) ++
          if f.role = .model then [] else findings' := by
    split <;> rfl
  dsimp only
  rw [hsplit, List.map_append]
  refine congrArg₂ _ (map_sighting_check (Mark.hasDecorator_eq .entity c) rfl rfl) ?_
  by_cases hresponse : IsNamedResponse c
  · simp [isResponse_eq, hresponse, whenever]
  · rw [if_neg hresponse]
    exact map_sighting_check (by simp [hobject, isResponse_eq, hresponse]) (if_neg hresponse)
      (if_neg hresponse)

/-- The check of operations says what is to say of the marks of methods. -/
theorem map_sighting_resolverLocation (ctx : Context) :
    (resolverLocation ctx).map Finding.sighting =
      (misplacedMethods ctx).map Misplacement.sighting := by
  rw [resolverLocation, Context.inMethods, inParsed_withoutRole, List.map_flatMap, misplacedMethods,
    List.map_map, List.map_eq_flatMap, flatMap_filter]
  refine List.flatMap_congr fun (f, m) _ => ?_
  refine (map_sighting_check (Mark.hasDecorator_eq .endpoint m) rfl rfl).trans ?_
  simp [Mark.sightings]

/-- The three checks of classes say what is to say of the misplaced marks of classes. -/
theorem map_sighting_classPlacements_perm (ctx : Context) :
    ((classPlacements ctx).map Finding.sighting).Perm
      ((misplacedClasses ctx).map Misplacement.sighting) := by
  rw [classPlacements, List.map_append, List.map_append, map_sighting_inputLocation,
    map_sighting_responseLocation, map_sighting_modelLocation, misplacedClasses, List.map_flatMap]
  refine ((List.flatMap_append_perm _ _ _).append_right _).trans
    ((List.flatMap_append_perm _ _ _).trans (List.Perm.flatMap_left _ fun (f, c) _ => ?_))
  rw [map_sighting_misplacedMarks]
  simp only [Mark.ofClasses, List.flatMap_cons, List.flatMap_nil, List.append_nil,
    List.append_assoc]
  -- An object type is found by the check of responses, or else by that of models, which looks for
  -- persisted classes first.
  refine List.Perm.append_left _ ?_
  split
  · simp
  · simpa using List.perm_append_comm

end Checks

section Redecorating

variable {g : List Decorator → List Decorator}

/-- A change of decorators that keeps the marks they make, such as to write one twice, or to drop
one that makes a mark which another makes too. -/
def KeepsMarks (g : List Decorator → List Decorator) : Prop :=
  ∀ (mark : Mark) (ds : List Decorator),
    (∃ dec ∈ g ds, dec.name ∈ mark.decorators) ↔ ∃ dec ∈ ds, dec.name ∈ mark.decorators

/-- A declaration with its decorators changed. -/
def redecorateOne (g : List Decorator → List Decorator) (d : Declaration) : Declaration :=
  { d with decorators := g d.decorators }

/-- A class with its decorators and those of its members changed. -/
def redecorate (g : List Decorator → List Decorator) (c : Declaration) : Declaration :=
  { redecorateOne g c with members := c.members.map (redecorateOne g) }

/-- A module with the decorators in all its classes changed. -/
def Context.redecorate (ctx : Context) (g : List Decorator → List Decorator) : Context :=
  { ctx with
    parsed := fun path => (ctx.parsed path).map fun p =>
      { p with classes := p.classes.map (Rules.redecorate g) } }

/-- A change that keeps the marks keeps every test for one. -/
theorem KeepsMarks.hasDecorator_eq (h : KeepsMarks g) (mark : Mark) (d : Declaration) :
    (redecorateOne g d).hasDecorator mark.decorators = d.hasDecorator mark.decorators := by
  rw [Mark.hasDecorator_eq, Mark.hasDecorator_eq]
  exact decide_eq_decide.mpr (h mark d.decorators)

/-- The methods of a class with other decorators are its methods with other decorators. -/
theorem methods_redecorate (g : List Decorator → List Decorator) (c : Declaration) :
    (redecorate g c).methods = c.methods.map (redecorateOne g) := by
  rw [Declaration.methods, Declaration.methods, redecorate, List.filter_map]
  rfl

/-- A check finds the same with other decorators if it says the same of each declaration. -/
theorem inParsed_redecorate (items : ParsedFile → List Declaration)
    (change : Declaration → Declaration) {ctx : Context} {role : Role}
    {body : SourceFile → Declaration → List Finding}
    (hitems : ∀ p : ParsedFile, items { p with classes := p.classes.map (redecorate g) } =
      (items p).map change) (hbody : ∀ f d, body f (change d) = body f d) :
    (ctx.redecorate g).inParsed ((ctx.redecorate g).withoutRole [role])
        (fun f p => (items p).flatMap (body f)) =
      ctx.inParsed (ctx.withoutRole [role]) fun f p => (items p).flatMap (body f) := by
  refine List.flatMap_congr fun f _ => ?_
  have hparsed : (ctx.redecorate g).parsed f.path = (ctx.parsed f.path).map fun p =>
      { p with classes := p.classes.map (redecorate g) } := rfl
  rw [hparsed]
  cases ctx.parsed f.path with
  | none => rfl
  | some p => simp [hitems, List.flatMap_map, hbody]

/-- To change decorators and keep the marks changes nothing that is found of classes. -/
theorem KeepsMarks.classPlacements_eq (h : KeepsMarks g) (ctx : Context) :
    classPlacements (ctx.redecorate g) = classPlacements ctx := by
  have hinput (c : Declaration) : (redecorate g c).hasDecorator [inputType] =
      c.hasDecorator [inputType] := h.hasDecorator_eq .inputType c
  have hobject (c : Declaration) : (redecorate g c).hasDecorator [objectType] =
      c.hasDecorator [objectType] := h.hasDecorator_eq .objectType c
  have hentity (c : Declaration) : (redecorate g c).hasDecorator [entity] =
      c.hasDecorator [entity] := h.hasDecorator_eq .entity c
  refine congrArg₂ _ (congrArg₂ _ ?_ ?_) ?_
  · refine inParsed_redecorate ParsedFile.classes (redecorate g) (fun _ => rfl) fun f c => ?_
    rw [hinput]
    rfl
  · refine inParsed_redecorate ParsedFile.classes (redecorate g) (fun _ => rfl) fun f c => ?_
    rw [hobject]
    rfl
  · refine inParsed_redecorate ParsedFile.classes (redecorate g) (fun _ => rfl) fun f c => ?_
    rw [hobject, hentity]
    rfl

/-- To change decorators and keep the marks changes nothing that is found of methods. -/
theorem KeepsMarks.resolverLocation_eq (h : KeepsMarks g) (ctx : Context) :
    resolverLocation (ctx.redecorate g) = resolverLocation ctx := by
  refine inParsed_redecorate ParsedFile.methods (redecorateOne g) (fun p => ?_) fun f m => ?_
  · simp [ParsedFile.methods, List.flatMap_map, List.map_flatMap, methods_redecorate]
  · have hendpoint : (redecorateOne g m).hasDecorator endpointDecorators =
        m.hasDecorator endpointDecorators := h.hasDecorator_eq .endpoint m
    rw [hendpoint]
    rfl

end Redecorating

/-- A module holds a class alone: it is the only class that is known of its only file. -/
structure Context.HoldsAlone (ctx : Context) (f : SourceFile) (c : Declaration) : Prop where
  files_eq : ctx.files = [f]
  exists_parsed : ∃ p, ctx.parsed f.path = some p ∧ p.classes = [c]

/-- In a module that holds a class alone the misplaced marks are those of the class. -/
theorem Context.HoldsAlone.misplacedClasses_eq {ctx : Context} {f : SourceFile} {c : Declaration}
    (h : ctx.HoldsAlone f c) :
    misplacedClasses ctx = (misplacedMarks f.role c).map fun mark => ⟨f, mark, c⟩ := by
  obtain ⟨p, hp, hclasses⟩ := h.exists_parsed
  rw [misplacedClasses, Context.declared, h.files_eq]
  simp [hp, hclasses]

/-- About a class that a module holds alone there is one finding for each mark that is misplaced. -/
theorem Context.HoldsAlone.length_classPlacements {ctx : Context} {f : SourceFile} {c : Declaration}
    (h : ctx.HoldsAlone f c) : (classPlacements ctx).length = (misplacedMarks f.role c).length := by
  have hlength := (map_sighting_classPlacements_perm ctx).length_eq
  rwa [h.misplacedClasses_eq, List.length_map, List.length_map, List.length_map] at hlength

/-- A class with all the marks that classes can have, each written twice. -/
def markedClass : Declaration where
  kind := .classType
  name := some "SurveyResponse"
  line := 3
  decorators := ["InputType", "ObjectType", "Entity", "Entity", "ObjectType", "InputType"].map
    fun name => ⟨name, 3, []⟩
  members := [⟨.method, some "load", 5, [⟨"Query", 5, []⟩, ⟨"ResolveField", 6, []⟩], [], [], none⟩]
  parameters := []
  base := none

/-- A module that holds this class alone, in a service file. -/
def markedModule : Context where
  module_ := "survey"
  files := [.ofPath "src/survey/survey.service.ts"]
  parsed := fun path => some ⟨path, [markedClass], []⟩
  resolverFields := []

/-- It does. -/
theorem holdsAlone_markedModule :
    markedModule.HoldsAlone (.ofPath "src/survey/survey.service.ts") markedClass :=
  ⟨rfl, _, rfl, rfl⟩

/-- The four checks together have one finding for each misplaced mark of a class or method in a
module, and no other, under the rule of the mark, in the file and at the line of the declaration.
How often the decorators of a mark are written does not matter. About one class there are at most
three findings, one for each mark that classes can have, and about some there are as many. -/
theorem placements_exact (ctx : Context) :
    ((classPlacements ctx ++ resolverLocation ctx).map Finding.sighting).Perm
      ((misplacedClasses ctx ++ misplacedMethods ctx).map Misplacement.sighting) ∧
    (∀ g, KeepsMarks g → classPlacements (ctx.redecorate g) = classPlacements ctx ∧
      resolverLocation (ctx.redecorate g) = resolverLocation ctx) ∧
    (∀ f c, ctx.HoldsAlone f c →
      (classPlacements ctx).length = (misplacedMarks f.role c).length ∧
      (misplacedMarks f.role c).Sublist Mark.ofClasses ∧ (classPlacements ctx).length ≤ 3) ∧
    ∃ module_ f c, Context.HoldsAlone module_ f c ∧ (classPlacements module_).length = 3 := by
  refine ⟨?_, fun g hg => ⟨hg.classPlacements_eq ctx, hg.resolverLocation_eq ctx⟩,
    fun f c hc => ?_, markedModule, _, _, holdsAlone_markedModule, by decide +kernel⟩
  · rw [List.map_append, List.map_append, map_sighting_resolverLocation]
    exact (map_sighting_classPlacements_perm ctx).append_right _
  · have hsublist : (misplacedMarks f.role c).Sublist Mark.ofClasses := List.filter_sublist
    refine ⟨hc.length_classPlacements, hsublist, ?_⟩
    rw [hc.length_classPlacements]
    exact hsublist.length_le

/-- To write all decorators once more keeps the marks. -/
theorem keepsMarks_append_self : KeepsMarks fun ds => ds ++ ds := by
  intro mark ds
  simp

/-- About the marked class there are three findings, and one about its method, also with all
decorators written once more. -/
theorem placements_exact_marked :
    (KeepsMarks fun ds => ds ++ ds) ∧
      markedModule.HoldsAlone (.ofPath "src/survey/survey.service.ts") markedClass ∧
      ((classPlacements (markedModule.redecorate fun ds => ds ++ ds) ++
        resolverLocation (markedModule.redecorate fun ds => ds ++ ds)).map Finding.sighting).Perm
        [("input-location", "src/survey/survey.service.ts", some 3),
          ("response-location", "src/survey/survey.service.ts", some 3),
          ("model-location", "src/survey/survey.service.ts", some 3),
          ("resolver-location", "src/survey/survey.service.ts", some 5)] ∧
      (classPlacements markedModule).length ≤ 3 := by
  obtain ⟨hperm, hkeeps, halone, -⟩ := placements_exact markedModule
  obtain ⟨hclasses, hmethods⟩ := hkeeps _ keepsMarks_append_self
  have hmisplaced : (misplacedClasses markedModule ++ misplacedMethods markedModule).map
      Misplacement.sighting =
        [("input-location", "src/survey/survey.service.ts", some 3),
          ("response-location", "src/survey/survey.service.ts", some 3),
          ("model-location", "src/survey/survey.service.ts", some 3),
          ("resolver-location", "src/survey/survey.service.ts", some 5)] := by decide +kernel
  rw [hclasses, hmethods, ← hmisplaced]
  exact ⟨keepsMarks_append_self, holdsAlone_markedModule, hperm,
    (halone _ _ holdsAlone_markedModule).2.2⟩

end Rules

end ModuleLint
