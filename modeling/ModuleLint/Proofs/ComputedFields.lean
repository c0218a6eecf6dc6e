import ModuleLint.ResolverIndex

/-!
# What the resolver index holds

The index says of an entity just the fields that some resolver class for it computes, wherever
that class stands: nothing is lost or mixed up when the classes of many files are merged. Which
entity a class is for, and which field a method computes, is told here without the functions that
the index is collected with.
-/

namespace ModuleLint.ResolverIndex

open ModuleLint.Rules

/-- The decorator of a resolver class names its entity: the first one that marks the class as a
resolver has a name or a thunk of a name as its first argument. -/
def Marks (c : Declaration) (entity : String) : Prop :=
  ∃ d, c.findDecorator? resolver = some d ∧ ∃ a, d.arguments.head? = some a ∧
    (a.kind = .thunk ∨ a.kind = .identifier) ∧ a.value = some entity ∧ entity ≠ ""

/-- A resolver class is for an entity: its decorator names it, or else the class is named after it,
with the word `Resolver` at the end. -/
def Targets (c : Declaration) (entity : String) : Prop :=
  Marks c entity ∨ (∀ marked, ¬ Marks c marked) ∧ entity = withoutEnding c.nameOrEmpty

/-- The field that a decorator of a method makes it compute. -/
inductive Exposes (m : Declaration) (d : Decorator) : String → Prop
  /-- A text as the first argument names the field. -/
  | text {a : Argument} {field : String} (first : d.arguments[0]? = some a)
      (kind : a.kind = .string) (value : a.value = some field) : Exposes m d field
  /-- Else a text under `name` in an object as the second argument does. -/
  | option {o a : Argument} {field : String} (first : d.stringArgument? 0 = none)
      (second : d.arguments[1]? = some o) (object : o.kind = .object)
      (property : o.property? "name" = some a) (kind : a.kind = .string)
      (value : a.value = some field) : Exposes m d field
  /-- Else the method itself is named after the field. -/
  | method {field : String} (first : d.stringArgument? 0 = none) (second : optionName? d = none)
      (name : m.name = some field) : Exposes m d field

/-- A class computes a field of an entity: it is a resolver for it, and one of its methods is
decorated so as to compute the field. An empty text is the name of neither. -/
def Computes (c : Declaration) (entity field : String) : Prop :=
  c.hasDecorator [resolver] = true ∧ Targets c entity ∧ entity ≠ "" ∧ field ≠ "" ∧
    ∃ m ∈ c.methods, ∃ d ∈ m.decorators, d.name ∈ fieldResolverDecorators ∧ Exposes m d field

/-- The entity that a decorator names is the one that is read off it. -/
theorem marks_iff {c : Declaration} {entity : String} :
    Marks c entity ↔
      ((c.findDecorator? resolver).bind fun d => d.arguments.head?).bind entityOfArgument? =
        some entity := by
  simp only [Marks, Option.bind_eq_some_iff, entityOfArgument?]
  constructor
  · intro h
    obtain ⟨d, hd, a, ha, hkind, hvalue, hne⟩ := h
    exact ⟨a, ⟨d, hd, ha⟩, by simp [hkind, hvalue, hne]⟩
  · intro h
    obtain ⟨a, ⟨d, hd, ha⟩, hentity⟩ := h
    split at hentity
    · next hkind =>
      obtain ⟨hvalue, hne⟩ := Option.filter_eq_some_iff.mp hentity
      exact ⟨d, hd, a, ha, hkind, hvalue, by simpa using hne⟩
    · cases hentity

/-- The entity that a resolver class is for is the one that the index files it under. -/
theorem targets_iff {c : Declaration} {entity : String} :
    Targets c entity ↔ entityOf c = entity := by
  unfold Targets
  simp only [marks_iff, entityOf]
  cases ((c.findDecorator? resolver).bind fun d => d.arguments.head?).bind entityOfArgument? with
  | none => simp [eq_comm]
  | some marked => simp

/-- The field that a decorator exposes is the first of those that its arguments and the method
name. -/
theorem exposes_iff {m : Declaration} {d : Decorator} {field : String} :
    Exposes m d field ↔
      (d.stringArgument? 0 <|> optionName? d <|> m.name) = some field := by
  constructor
  · intro h
    cases h with
    | text first kind value =>
      simp [Decorator.stringArgument?, first, Argument.stringValue?, kind, value]
    | option first second object property kind value =>
      simp [first, optionName?, second, object, property, Argument.stringValue?, kind, value]
    | method first second name => simp [first, second, name]
  · intro h
    cases hfirst : d.stringArgument? 0 with
    | some text =>
      obtain rfl : text = field := by simpa [hfirst] using h
      obtain ⟨a, ha, htext⟩ := Option.bind_eq_some_iff.mp hfirst
      obtain ⟨hkind, hvalue⟩ := by simpa [Argument.stringValue?] using htext
      exact .text ha hkind hvalue
    | none =>
      cases hsecond : optionName? d with
      | some text =>
        obtain rfl : text = field := by simpa [hfirst, hsecond] using h
        unfold optionName? at hsecond
        split at hsecond
        · next o ho =>
          split at hsecond
          · next hobject =>
            obtain ⟨a, ha, htext⟩ := Option.bind_eq_some_iff.mp hsecond
            obtain ⟨hkind, hvalue⟩ := by simpa [Argument.stringValue?] using htext
            exact .option hfirst ho hobject ha hkind hvalue
          · cases hsecond
        · cases hsecond
      | none => exact .method hfirst hsecond (by simpa [hfirst, hsecond] using h)

instance (c : Declaration) (entity : String) : Decidable (Targets c entity) :=
  decidable_of_iff _ targets_iff.symm

instance (m : Declaration) (d : Decorator) (field : String) : Decidable (Exposes m d field) :=
  decidable_of_iff _ exposes_iff.symm

instance (c : Declaration) (entity field : String) : Decidable (Computes c entity field) :=
  inferInstanceAs (Decidable (_ ∧ _))

/-- A name is in the union of two lists just if it is in one of them. -/
theorem mem_union {names more : List String} {n : String} :
    n ∈ union names more ↔ n ∈ names ∨ n ∈ more := by
  unfold union
  induction more generalizing names with
  | nil => simp
  | cons m more ih =>
    rw [List.foldl_cons, ih, List.mem_cons]
    split
    · next hm =>
      have hmem : m ∈ names := by simpa using hm
      constructor
      · intro hor
        rcases hor with h | h
        · exact .inl h
        · exact .inr (.inr h)
      · intro hor
        rcases hor with h | rfl | h
        · exact .inl h
        · exact .inl hmem
        · exact .inr h
    · simp [or_assoc]

/-- The fields of an entity in an index with an entry in front. -/
theorem fields_cons (e : String × List String) (index : ResolverIndex) (entity : String) :
    fields (e :: index) entity = if entity = e.1 then e.2 else fields index entity := by
  obtain ⟨key, names⟩ := e
  by_cases h : entity = key
  · simp [fields, h]
  · have hne : (entity == key) = false := beq_eq_false_iff_ne.mpr h
    simp [fields, List.lookup_cons, hne, h]

/-- Adding fields of one entity adds just these fields, and only to that entity. -/
theorem mem_fields_add {index : ResolverIndex} {entity other n : String} {names : List String} :
    n ∈ (index.add entity names).fields other ↔
      n ∈ index.fields other ∨ other = entity ∧ n ∈ names := by
  induction index with
  | nil =>
    rw [add, fields_cons]
    split
    · next h => simp [mem_union, h, fields]
    · next h => simp [h]
  | cons e es ih =>
    rw [add]
    split
    · next hkey =>
      subst hkey
      rw [fields_cons, fields_cons]
      split
      · next h => simp [mem_union, h]
      · next h => simp [h]
    · next hkey =>
      rw [fields_cons, fields_cons]
      split
      · next h =>
        have hne : other ≠ entity := fun heq => hkey (h.symm.trans heq)
        simp [hne]
      · exact ih

/-- The fields that a method computes are those that its decorators expose, the empty text
aside. -/
theorem mem_fieldsOf {m : Declaration} {field : String} :
    field ∈ fieldsOf m ↔
      field ≠ "" ∧ ∃ d ∈ m.decorators, d.name ∈ fieldResolverDecorators ∧ Exposes m d field := by
  simp only [fieldsOf, List.mem_filterMap, fieldOf?, exposes_iff]
  constructor
  · intro h
    obtain ⟨d, hd, hfield⟩ := h
    split at hfield
    · next hname =>
      obtain ⟨hexposed, hne⟩ := Option.filter_eq_some_iff.mp hfield
      exact ⟨by simpa using hne, d, hd, by simpa using hname, hexposed⟩
    · cases hfield
  · intro h
    obtain ⟨hne, d, hd, hname, hexposed⟩ := h
    refine ⟨d, hd, ?_⟩
    rw [if_pos (by simpa using hname)]
    exact Option.filter_eq_some_iff.mpr ⟨hexposed, by simpa using hne⟩

/-- A class adds to the index just the fields that it computes. -/
theorem mem_fields_addClass {index : ResolverIndex} {c : Declaration} {entity field : String} :
    field ∈ (index.addClass c).fields entity ↔
      field ∈ index.fields entity ∨ Computes c entity field := by
  have hcomputes : Computes c entity field ↔ c.hasDecorator [resolver] = true ∧
      entityOf c = entity ∧ entity ≠ "" ∧ field ∈ c.methods.flatMap fieldsOf := by
    simp only [Computes, targets_iff, List.mem_flatMap, mem_fieldsOf]
    constructor
    · intro hall
      obtain ⟨hresolver, htarget, hentity, hfield, m, hm, h⟩ := hall
      exact ⟨hresolver, htarget, hentity, m, hm, hfield, h⟩
    · intro hall
      obtain ⟨hresolver, htarget, hentity, m, hm, hfield, h⟩ := hall
      exact ⟨hresolver, htarget, hentity, hfield, m, hm, h⟩
  rw [hcomputes, addClass]
  split
  · next hresolver =>
    dsimp only
    split
    · next hempty =>
      refine ⟨.inl, fun hor => ?_⟩
      rcases hor with h | ⟨-, rfl, hentity, hfield⟩
      · exact h
      · rcases Bool.or_eq_true_iff.mp hempty with hempty | hempty
        · exact (hentity (String.isEmpty_iff.mp hempty)).elim
        · rw [List.isEmpty_iff.mp hempty] at hfield
          cases hfield
    · next hnonempty =>
      rw [mem_fields_add]
      constructor
      · intro hor
        rcases hor with h | ⟨rfl, hfield⟩
        · exact .inl h
        · refine .inr ⟨hresolver, rfl, ?_, hfield⟩
          intro hentity
          simp [hentity] at hnonempty
      · intro hor
        rcases hor with h | ⟨-, rfl, -, hfield⟩
        · exact .inl h
        · exact .inr ⟨rfl, hfield⟩
  · next hresolver => simp [hresolver]

/-- The index of files says of an entity just the fields that some class in one of the files
computes. -/
theorem mem_fields_collect {files : List ParsedFile} {entity field : String} :
    field ∈ (collect files).fields entity ↔
      ∃ file ∈ files, ∃ c ∈ file.classes, Computes c entity field := by
  have hclasses (classes : List Declaration) (index : ResolverIndex) :
      field ∈ (classes.foldl addClass index).fields entity ↔
        field ∈ index.fields entity ∨ ∃ c ∈ classes, Computes c entity field := by
    induction classes generalizing index with
    | nil => simp
    | cons c classes ih => simp [ih, mem_fields_addClass, or_assoc]
  have hfiles (index : ResolverIndex) :
      field ∈ (files.foldl (fun index file => file.classes.foldl addClass index) index).fields
          entity ↔
        field ∈ index.fields entity ∨
          ∃ file ∈ files, ∃ c ∈ file.classes, Computes c entity field := by
    induction files generalizing index with
    | nil => simp
    | cons file files ih => simp [ih, hclasses, or_assoc]
  simpa [collect, fields] using hfiles []

end ModuleLint.ResolverIndex
