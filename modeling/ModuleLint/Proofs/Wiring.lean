import Mathlib.Data.List.Basic
import ModuleLint.Proofs.Checks

/-!
# Files that ask for a definition

The files of a module ask for its definition by their names: those of resolvers, services, models
and controllers do. A name announces its category by the last part but one, and only if it does not
begin with a dot. The test for controllers is the exception, and takes a file that is called by a
category and an extension alone for a controller.
-/

namespace ModuleLint

namespace Role

/-- A name has three parts at least, of which `first` is the first one and `category` the last but
one. -/
def HasParts (name first category : String) : Prop :=
  ∃ middle extension, nameParts name = first :: (middle ++ [category, extension])

/-- A name announces a category: it has such parts, and the first is not empty. -/
def Announces (name category : String) : Prop :=
  ∃ first, first ≠ "" ∧ HasParts name first category

section Names

variable {name first category : String}

/-- The last element but one is that behind which one more follows. -/
theorem getLast?_dropLast_eq_some_iff {parts : List String} :
    parts.dropLast.getLast? = some category ↔
      ∃ middle extension, parts = middle ++ [category, extension] := by
  constructor
  · intro h
    obtain ⟨middle, hmiddle⟩ := List.getLast?_eq_some_iff.mp h
    have hne : parts ≠ [] := by
      rintro rfl
      simp at hmiddle
    refine ⟨middle, parts.getLast hne, ?_⟩
    calc parts = parts.dropLast ++ [parts.getLast hne] := (List.dropLast_append_getLast hne).symm
      _ = middle ++ [category, parts.getLast hne] := by rw [hmiddle, List.append_assoc]; rfl
  · rintro ⟨middle, extension, rfl⟩
    simp [List.dropLast_append_of_ne_nil]

/-- A name has certain parts just if they are found at its ends. -/
theorem hasParts_iff : HasParts name first category ↔
    (nameParts name).head? = some first ∧
      (nameParts name).tail.dropLast.getLast? = some category := by
  rw [getLast?_dropLast_eq_some_iff, HasParts]
  cases nameParts name <;> simp

instance : Decidable (HasParts name first category) :=
  decidable_of_iff' _ hasParts_iff

/-- The category of a name is the one that it announces. -/
theorem categoryOf?_eq_some_iff : categoryOf? name = some category ↔ Announces name category := by
  rw [categoryOf?]
  simp only [Announces, hasParts_iff]
  cases nameParts name with
  | nil => simp
  | cons first rest =>
    simp only [List.head?_cons, List.tail_cons, Option.some.injEq]
    constructor
    · intro h
      split at h
      · cases h
      next hshort =>
        have hempty : first.isEmpty ≠ true := fun hempty => hshort (by simp [hempty])
        exact ⟨first, by simpa using hempty, rfl, h⟩
    · rintro ⟨_, hempty, rfl, h⟩
      obtain ⟨middle, extension, hrest⟩ := getLast?_dropLast_eq_some_iff.mp h
      have hlong : ¬ (rest.length < 2 || first.isEmpty) = true := by simp [hrest, hempty]
      rw [if_neg hlong, h]

instance : Decidable (Announces name category) :=
  decidable_of_iff _ categoryOf?_eq_some_iff

/-- A file has a role, unless it has none of its own, just if its name announces the category of the
role. -/
theorem ofPath_eq_iff {path : String} {role : Role} (hrole : role ≠ other) :
    ofPath path = role ↔ Announces (Path.name path) role.category := by
  rw [← categoryOf?_eq_some_iff, ofPath]
  cases categoryOf? (Path.name path) with
  | none => simp [Ne.symm hrole]
  | some category =>
    rw [Option.some.injEq]
    constructor
    · intro h
      cases hfind : announced.find? fun r => r.category == category with
      | none => exact absurd (by simpa [hfind] using h.symm) hrole
      | some r =>
        obtain rfl : r = role := by simpa [hfind] using h
        have hcategory := List.find?_some hfind
        exact (beq_iff_eq.mp hcategory).symm
    · intro h
      subst h
      cases role with
      | other => exact absurd rfl hrole
      | _ => rfl

end Names

end Role

namespace Rules

/-- The categories of files that a definition must wire up. -/
def wiredCategories : List String := ["resolver", "service", "model", "controller"]

/-- A name asks for a definition: it announces one of these categories. -/
def AsksForDefinition (name : String) : Prop :=
  ∃ category ∈ wiredCategories, Role.Announces name category

instance (name : String) : Decidable (AsksForDefinition name) :=
  inferInstanceAs (Decidable (∃ category ∈ wiredCategories, _))

/-- A name is that of a controller but for its first part, which is empty. -/
def IsNamelessController (name : String) : Prop :=
  Role.HasParts name "" "controller"

instance (name : String) : Decidable (IsNamelessController name) :=
  inferInstanceAs (Decidable (Role.HasParts _ _ _))

/-- What is said of a module that misses its definition. -/
def missingDefinition (module_ : String) : Finding :=
  Rule.missingModule.finding module_
    ("Module \"" ++ module_ ++ "\" is missing a .module.ts file") none

/-- A file is taken for that of a controller just if its name announces one, or would but for its
first part, which is empty. -/
theorem isController_iff {f : SourceFile} :
    isController f = true ↔ Role.Announces f.name "controller" ∨ IsNamelessController f.name := by
  have hparts : isController f = true ↔ ∃ first, Role.HasParts f.name first "controller" := by
    rw [isController, Bool.and_eq_true, beq_iff_eq, Role.getLast?_dropLast_eq_some_iff,
      decide_eq_true_eq]
    -- Three parts are asked for just so that one stands before the last two.
    constructor
    · rintro ⟨hlong, middle, extension, heq⟩
      cases middle with
      | nil => simp [heq] at hlong
      | cons first middle => exact ⟨first, middle, extension, heq⟩
    · rintro ⟨first, middle, extension, heq⟩
      exact ⟨by simp [heq], first :: middle, extension, heq⟩
  rw [hparts]
  constructor
  · rintro ⟨first, h⟩
    by_cases hempty : first = ""
    · subst hempty
      exact .inr h
    · exact .inl ⟨first, hempty, h⟩
  · rintro (⟨first, -, h⟩ | h)
    · exact ⟨first, h⟩
    · exact ⟨"", h⟩

/-- A module whose files have the roles of their paths has files to wire up just if the name of one
asks for a definition or is that of a nameless controller. -/
theorem isWired_iff {ctx : Context} (hroles : ∀ f ∈ ctx.files, f.role = Role.ofPath f.path) :
    isWired ctx = true ↔
      ∃ f ∈ ctx.files, AsksForDefinition f.name ∨ IsNamelessController f.name := by
  have hwired (f : SourceFile) (hf : f ∈ ctx.files) :
      ([Role.resolver, .service, .model].contains f.role = true ∨ isController f = true) ↔
        AsksForDefinition f.name ∨ IsNamelessController f.name := by
    have hrole (role : Role) (hother : role ≠ .other) :
        f.role = role ↔ Role.Announces f.name role.category := by
      rw [hroles f hf]
      exact Role.ofPath_eq_iff hother
    rw [isController_iff, ← or_assoc, List.contains_iff_mem]
    refine or_congr_left ?_
    simp only [AsksForDefinition, wiredCategories, List.mem_cons, List.not_mem_nil, or_false,
      exists_eq_or_imp, exists_eq_left, or_assoc]
    rw [hrole .resolver (by decide), hrole .service (by decide), hrole .model (by decide)]
    rfl
  have hsplit : isWired ctx = true ↔ ∃ f ∈ ctx.files,
      [Role.resolver, .service, .model].contains f.role = true ∨ isController f = true := by
    rw [isWired, Bool.or_eq_true, Bool.not_eq_true', List.isEmpty_eq_false_iff_exists_mem,
      List.any_eq_true]
    simp only [Context.withRole, List.mem_filter, and_or_left, exists_or]
  rw [hsplit]
  exact exists_congr fun f => and_congr_right (hwired f)

section Missing

variable {ctx : Context}

/-- Outside the application's own module, a module without a definition file is reported once, or
not at all if it has no files to wire up. -/
theorem missingModule_eq (hname : ctx.module_ ≠ Grouping.applicationModule)
    (hnone : ∀ f ∈ ctx.files, f.role ≠ .definition) :
    missingModule ctx = whenever (isWired ctx) (missingDefinition ctx.module_) := by
  have happ : isApplication ctx = false := beq_eq_false_iff_ne.mpr hname
  have hdefinition : ctx.withRole [.definition] = [] :=
    List.filter_eq_nil_iff.mpr fun f hf => by simpa using hnone f hf
  rw [missingModule, happ, hdefinition]
  rfl

/-- A module other than the application's own without a definition file, whose files have the roles
of their paths, is reported just once or not at all. It is reported just if the name of some file
asks for a definition, or is that of a nameless controller. So without such controllers it is
reported just if some name asks for a definition. -/
theorem missingModule_exact (ctx : Context) (hname : ctx.module_ ≠ Grouping.applicationModule)
    (hroles : ∀ f ∈ ctx.files, f.role = Role.ofPath f.path)
    (hnone : ∀ f ∈ ctx.files, f.role ≠ .definition) :
    (missingModule ctx = [missingDefinition ctx.module_] ∨ missingModule ctx = []) ∧
    (missingModule ctx = [missingDefinition ctx.module_] ↔
      ∃ f ∈ ctx.files, AsksForDefinition f.name ∨ IsNamelessController f.name) ∧
    ((∀ f ∈ ctx.files, ¬ IsNamelessController f.name) →
      (missingModule ctx = [missingDefinition ctx.module_] ↔
        ∃ f ∈ ctx.files, AsksForDefinition f.name)) := by
  have hwired : missingModule ctx = [missingDefinition ctx.module_] ↔
      ∃ f ∈ ctx.files, AsksForDefinition f.name ∨ IsNamelessController f.name := by
    rw [← isWired_iff hroles, missingModule_eq hname hnone]
    cases isWired ctx <;> simp [whenever]
  refine ⟨?_, hwired, fun hnameless => ?_⟩
  · rw [missingModule_eq hname hnone]
    cases isWired ctx
    · exact .inr rfl
    · exact .inl rfl
  · rw [hwired]
    exact exists_congr fun f => and_congr_right fun hf => or_iff_left (hnameless f hf)

end Missing

/-- A module with a controller and an input file. -/
def controllerModule : Context where
  module_ := "user"
  files := [.ofPath "src/user/user.input.ts", .ofPath "src/user/user.v1.controller.ts"]
  parsed := fun _ => none
  resolverFields := []

/-- It misses its definition, since the controller asks for one. -/
theorem missingModule_exact_controller :
    controllerModule.module_ ≠ Grouping.applicationModule ∧
      (∀ f ∈ controllerModule.files, f.role = Role.ofPath f.path) ∧
      (∀ f ∈ controllerModule.files, f.role ≠ .definition) ∧
      (∀ f ∈ controllerModule.files, ¬ IsNamelessController f.name) ∧
      missingModule controllerModule = [missingDefinition "user"] := by
  have hname : controllerModule.module_ ≠ Grouping.applicationModule := by decide
  have hroles : ∀ f ∈ controllerModule.files, f.role = Role.ofPath f.path := by decide +kernel
  have hnone : ∀ f ∈ controllerModule.files, f.role ≠ .definition := by decide +kernel
  have hnameless : ∀ f ∈ controllerModule.files, ¬ IsNamelessController f.name := by
    decide +kernel
  have hasks : ∃ f ∈ controllerModule.files, AsksForDefinition f.name := by decide +kernel
  obtain ⟨-, -, hiff⟩ := missingModule_exact controllerModule hname hroles hnone
  exact ⟨hname, hroles, hnone, hnameless, (hiff hnameless).mpr hasks⟩

/-- A module whose only file is called by a category and an extension alone. -/
def namelessModule : Context where
  module_ := "user"
  files := [.ofPath "src/user/.controller.ts"]
  parsed := fun _ => none
  resolverFields := []

/-- It is not so that a module is reported just if the name of one of its files asks for a
definition. -/
theorem not_forall_missingModule_iff :
    ¬ ∀ ctx : Context, ctx.module_ ≠ Grouping.applicationModule →
      (∀ f ∈ ctx.files, f.role = Role.ofPath f.path) →
      (∀ f ∈ ctx.files, f.role ≠ .definition) →
      ((∃ message, missingModule ctx = [Rule.missingModule.finding ctx.module_ message none]) ↔
        ∃ f ∈ ctx.files, AsksForDefinition f.name) := by
  intro hclaim
  have hreported : missingModule namelessModule = [missingDefinition "user"] := by decide +kernel
  have hasks := (hclaim namelessModule (by decide) (by decide +kernel) (by decide +kernel)).mp
    ⟨_, hreported⟩
  exact absurd hasks (by decide +kernel)

end Rules

end ModuleLint
