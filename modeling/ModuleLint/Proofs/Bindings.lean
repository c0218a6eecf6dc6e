import Mathlib.Data.List.Forall2
import ModuleLint.Proofs.Placement

/-!
# Operations that bind several arguments

Decorators bind parameters to arguments, and several of them can stand on one parameter. About an
operation that binds several arguments there is a group of findings: a summary, which counts and
lists all of them, and then one finding about each at the line of its parameter. The groups stand
in the order of the methods, and nothing is said of any other method.
-/

namespace ModuleLint.Rules

/-- A decorator that binds a parameter to an argument. -/
structure Binding where
  parameter : Declaration
  decorator : Decorator

namespace Binding

/-- The decorator gives the argument a name: its first argument is a text, which is not empty. -/
def Gives (b : Binding) (name : String) : Prop :=
  ∃ a, b.decorator.arguments.head? = some a ∧ a.kind = .string ∧ a.value = some name ∧ name ≠ ""

/-- What an argument is called: as its decorator says, else like its parameter, and `unknown` if
that has no name either. -/
inductive IsCalled (b : Binding) : String → Prop
  | given {name : String} (h : b.Gives name) : b.IsCalled name
  | parameter {name : String} (hgiven : ∀ name', ¬ b.Gives name')
      (h : b.parameter.name = some name) (hne : name ≠ "") : b.IsCalled name
  | unknown (hgiven : ∀ name, ¬ b.Gives name)
      (h : b.parameter.name = none ∨ b.parameter.name = some "") : b.IsCalled "unknown"

/-- The name of the argument. -/
def name (b : Binding) : String := boundName b.parameter b.decorator

end Binding

/-- The bindings of a method, parameter by parameter. -/
def bindings (m : Declaration) : List Binding :=
  m.parameters.flatMap fun p =>
    (p.decorators.filter fun d => d.name == "Args").map fun d => ⟨p, d⟩

/-- A method is an operation. To compute a field is none. -/
def IsOperation (m : Declaration) : Prop :=
  ∃ d ∈ m.decorators, d.name ∈ ["Query", "Mutation", "Subscription"]

instance (m : Declaration) : Decidable (IsOperation m) :=
  inferInstanceAs (Decidable (∃ d ∈ m.decorators, _))

/-- What the summary says of a method that binds arguments of the given names. -/
def summaryMessage (method : String) (names : List String) : String :=
  "GraphQL endpoints should have maximum 1 @Args() decorator. Method '" ++ method ++ "' has " ++
    toString names.length ++ " @Args() decorators (" ++
    ", ".intercalate (names.map fun name => "@Args('" ++ name ++ "')") ++
    "). When there are multiple arguments, combine them into a single input type."

/-- What is said of each of several arguments. -/
def argumentMessage (name : String) : String :=
  "Parameter '" ++ name ++ "' should be part of an input type instead of using @Args() " ++
    "directly"

/-- The group of findings about a method in a file that binds arguments of the given names. -/
structure IsGroup (f : SourceFile) (m : Declaration) (names : List String)
    (group : List Finding) : Prop where
  /-- The names are those of all bindings, in their order. -/
  called : List.Forall₂ Binding.IsCalled (bindings m) names
  /-- After the summary there is one finding about each argument. -/
  length_eq : group.length = names.length + 1
  /-- The summary comes first, at the line of the method. -/
  summary : group[0]? = some
    (Rule.multipleArgsDecorators.finding f.path (summaryMessage m.shownName names) m.line)
  /-- The findings about arguments follow in their order, each at the line of the parameter. -/
  each : ∀ (i : Nat) (b : Binding) (name : String), (bindings m)[i]? = some b →
    names[i]? = some name → group[i + 1]? = some
      (Rule.multipleArgsDecorators.finding f.path (argumentMessage name) b.parameter.line)

/-- What is to report about a method in a file: a group, if it is an operation that binds several
arguments, and nothing otherwise. -/
inductive ReportsBindings (f : SourceFile) (m : Declaration) : List Finding → Prop
  | group {names : List String} {found : List Finding} (hoperation : IsOperation m)
      (hseveral : 2 ≤ (bindings m).length) (h : IsGroup f m names found) : ReportsBindings f m found
  | nothing (h : ¬ IsOperation m ∨ (bindings m).length ≤ 1) : ReportsBindings f m []

/-- The methods in resolver files that are known of a module, each with its file. -/
def resolverMethods (ctx : Context) : List (SourceFile × Declaration) :=
  (ctx.declared ParsedFile.methods).filter fun (f, _) => f.role == .resolver

section Parts

variable {f : SourceFile} {m : Declaration} {b : Binding}

/-- A decorator gives a name just if its first argument is a text, which is kept. -/
theorem Binding.gives_iff {name : String} :
    b.Gives name ↔ nonEmpty? (b.decorator.stringArgument? 0) = some name := by
  rw [nonEmpty?, Option.filter_eq_some_iff, Decorator.stringArgument?, Option.bind_eq_some_iff,
    ← List.head?_eq_getElem?]
  simp only [Gives, Argument.stringValue?, Option.ite_none_right_eq_some, Bool.not_eq_eq_eq_not,
    Bool.not_true, String.isEmpty_eq_false_iff]
  exact ⟨fun ⟨a, ha, hkind, hvalue, hne⟩ => ⟨⟨a, ha, hkind, hvalue⟩, hne⟩,
    fun ⟨⟨a, ha, hkind, hvalue⟩, hne⟩ => ⟨a, ha, hkind, hvalue, hne⟩⟩

/-- An argument is called by its name. -/
theorem Binding.isCalled_name (b : Binding) : b.IsCalled b.name := by
  rw [name, boundName]
  cases hgiven : nonEmpty? (b.decorator.stringArgument? 0) with
  | some name => exact .given (gives_iff.mpr hgiven)
  | none =>
    have hnone (name : String) : ¬ b.Gives name := by simp [gives_iff, hgiven]
    cases hname : b.parameter.name with
    | none => exact .unknown hnone (.inl hname)
    | some name =>
      by_cases hempty : name = ""
      · subst hempty
        exact .unknown hnone (.inr hname)
      · have hkept : nonEmpty? (some name) = some name := by
          simp [nonEmpty?, Option.filter, hempty]
        rw [hkept]
        exact .parameter hnone hname hempty

/-- A method's bindings are the arguments that it is told to bind. -/
theorem argumentBindings_eq (m : Declaration) :
    argumentBindings m = (bindings m).map fun b => (b.name, b.parameter.line) := by
  rw [argumentBindings, bindings, List.map_flatMap]
  simp only [List.map_map]
  rfl

/-- A method is an operation just if it has one of their decorators. -/
theorem isOperation_iff : IsOperation m ↔ m.hasDecorator operationDecorators = true := by
  simp [IsOperation, Declaration.hasDecorator, operationDecorators]

/-- The summary counts and lists the names of all bindings. -/
theorem summaryFinding_eq (f : SourceFile) (m : Declaration) :
    summaryFinding f m (argumentBindings m) =
      Rule.multipleArgsDecorators.finding f.path
        (summaryMessage m.shownName ((bindings m).map Binding.name)) m.line := by
  unfold summaryMessage
  rw [summaryFinding, argumentBindings_eq, List.length_map, List.length_map, List.map_map,
    List.map_map]
  rfl

/-- A summary and a finding about each argument make a group. -/
theorem isGroup_bindings (f : SourceFile) (m : Declaration) :
    IsGroup f m ((bindings m).map Binding.name)
      (summaryFinding f m (argumentBindings m) :: (argumentBindings m).map (argumentFinding f)) where
  called := by
    rw [List.forall₂_map_right_iff, List.forall₂_same]
    exact fun b _ => b.isCalled_name
  length_eq := by simp [argumentBindings_eq]
  summary := by
    rw [List.getElem?_cons_zero, summaryFinding_eq]
  each := by
    intro i b name hb hname
    obtain rfl : b.name = name := by simpa [hb] using hname
    have hfound : argumentFinding f (b.name, b.parameter.line) =
        Rule.multipleArgsDecorators.finding f.path (argumentMessage b.name) b.parameter.line := rfl
    rw [List.getElem?_cons_succ, argumentBindings_eq, List.getElem?_map, List.getElem?_map, hb,
      Option.map_some, Option.map_some, hfound]

/-- The check reports of each method what is to report. -/
theorem reportsBindings (f : SourceFile) (m : Declaration) :
    ReportsBindings f m
      (if m.hasDecorator operationDecorators && 1 < (argumentBindings m).length then
        summaryFinding f m (argumentBindings m) :: (argumentBindings m).map (argumentFinding f)
      else []) := by
  have hlength : (argumentBindings m).length = (bindings m).length := by
    rw [argumentBindings_eq, List.length_map]
  rw [hlength]
  split
  next h =>
    rw [Bool.and_eq_true, decide_eq_true_eq, ← isOperation_iff] at h
    exact .group h.1 h.2 (isGroup_bindings f m)
  next h =>
    rw [Bool.and_eq_true, decide_eq_true_eq, ← isOperation_iff, not_and_or, Nat.not_lt] at h
    exact .nothing h

end Parts

/-- A check of methods that looks into resolver files alone goes through the methods in these. -/
theorem inMethods_resolver (ctx : Context) (body : SourceFile → Declaration → List Finding) :
    ctx.inMethods (ctx.withRole [.resolver]) body =
      (resolverMethods ctx).flatMap fun (f, m) => body f m := by
  rw [Context.inMethods, Context.withRole, Context.inParsed_filter, resolverMethods, flatMap_filter,
    Context.declared, List.flatMap_assoc]
  refine List.flatMap_congr fun f _ => ?_
  cases ctx.parsed f.path with
  | none => simp
  | some p => cases hrole : f.role <;> simp [hrole, List.flatMap_map]

/-- What a check of the methods in resolver files finds falls into what it finds of each of them. -/
theorem exists_flatten_eq_inMethods (ctx : Context)
    {body : SourceFile → Declaration → List Finding}
    {Reports : SourceFile → Declaration → List Finding → Prop}
    (h : ∀ f m, Reports f m (body f m)) :
    ∃ groups, ctx.inMethods (ctx.withRole [.resolver]) body = groups.flatten ∧
      List.Forall₂ (fun fm found => Reports fm.1 fm.2 found) (resolverMethods ctx) groups := by
  refine ⟨(resolverMethods ctx).map fun fm => body fm.1 fm.2, ?_, ?_⟩
  · rw [inMethods_resolver, List.flatMap_def]
  · rw [List.forall₂_map_right_iff, List.forall₂_same]
    exact fun fm _ => h fm.1 fm.2

/-- What is found of operations with several arguments is a group for each of them, in the order of
the methods in resolver files, and nothing about any other method. A method that only computes
fields is no operation. -/
theorem multipleArgsDecorators_groups (ctx : Context) :
    (∃ groups, multipleArgsDecorators ctx = groups.flatten ∧
      List.Forall₂ (fun fm found => ReportsBindings fm.1 fm.2 found) (resolverMethods ctx) groups) ∧
    ∀ m : Declaration, (∀ d ∈ m.decorators, d.name ∈ ["ResolveField", "FieldResolver"]) →
      ¬ IsOperation m := by
  refine ⟨exists_flatten_eq_inMethods ctx reportsBindings, fun m honly hoperation => ?_⟩
  obtain ⟨d, hd, hname⟩ := hoperation
  have hfields : d.name = "ResolveField" ∨ d.name = "FieldResolver" := by simpa using honly d hd
  rcases hfields with hfields | hfields <;> simp [hfields] at hname

/-- A method with a decorator that binds three arguments to two parameters. -/
def searchMethod (decorator : String) : Declaration where
  kind := .method
  name := some "search"
  line := 3
  decorators := [⟨decorator, 3, []⟩]
  members := []
  parameters :=
    [⟨.parameter, some "text", 5, [⟨"Args", 5, [⟨.string, some "query", []⟩]⟩,
      ⟨"Args", 6, [⟨.string, some "", []⟩]⟩], [], [], none⟩,
    ⟨.parameter, none, 7, [⟨"Args", 7, []⟩], [], [], none⟩]
  base := none

/-- A module in which such a method is an operation, and another computes a field. -/
def searchModule : Context where
  module_ := "user"
  files := [.ofPath "src/user/user.resolver.ts"]
  parsed := fun path => some ⟨path, [⟨.classType, some "UserResolver", 1, [⟨"Resolver", 1, []⟩],
    [searchMethod "Query", searchMethod "ResolveField"], [], none⟩], []⟩
  resolverFields := []

/-- There are four findings about the operation, and none about the other method. -/
theorem multipleArgsDecorators_groups_search :
    (∀ d ∈ (searchMethod "ResolveField").decorators, d.name ∈ ["ResolveField", "FieldResolver"]) ∧
      ¬ IsOperation (searchMethod "ResolveField") ∧
      ∃ group, ReportsBindings (.ofPath "src/user/user.resolver.ts") (searchMethod "Query") group ∧
        multipleArgsDecorators searchModule = group ∧
        group.map Finding.line = [some 3, some 5, some 5, some 7] := by
  have honly : ∀ d ∈ (searchMethod "ResolveField").decorators,
      d.name ∈ ["ResolveField", "FieldResolver"] := by decide +kernel
  obtain ⟨⟨groups, hgroups, hreports⟩, hfields⟩ := multipleArgsDecorators_groups searchModule
  have hmethods : resolverMethods searchModule =
      [(.ofPath "src/user/user.resolver.ts", searchMethod "Query"),
        (.ofPath "src/user/user.resolver.ts", searchMethod "ResolveField")] := rfl
  rw [hmethods] at hreports
  obtain _ | ⟨hquery, _ | ⟨hfield, ⟨⟩⟩⟩ := hreports
  have hlines : (multipleArgsDecorators searchModule).map Finding.line =
      [some 3, some 5, some 5, some 7] := by decide +kernel
  cases hfield with
  | group hoperation => exact (hfields _ honly hoperation).elim
  | nothing =>
    rw [List.flatten_cons, List.flatten_cons, List.flatten_nil, List.append_nil,
      List.append_nil] at hgroups
    exact ⟨honly, hfields _ honly, _, hquery, hgroups, hgroups ▸ hlines⟩

end ModuleLint.Rules
