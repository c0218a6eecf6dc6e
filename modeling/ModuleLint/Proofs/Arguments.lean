import ModuleLint.Command.Invocation
import ModuleLint.Proofs.Outcome

/-!
# Arguments one after another

Arguments are read from left to right, so what stands behind options that are complete is read as if
it stood alone. Where an option that takes no value is put in between, the request is the same but
for what the option says.
-/

namespace ModuleLint.Command

namespace Arguments

variable {α : Type}

/-- Arguments with others behind them. -/
def followedBy (a b : Arguments α) : Arguments α :=
  ⟨a.given ++ b.given, a.rest ++ b.rest⟩

/-- Options before arguments stay before them when others follow. -/
theorem withGiven_followedBy (given : List (α × Option String)) (a b : Arguments α) :
    withGiven given (a.followedBy b) = (withGiven given a).followedBy b := by
  simp [withGiven, followedBy]

/-- What is done to arguments can be done before others follow. -/
theorem map_followedBy {f : Arguments α → Arguments α} {a : Arguments α}
    (hf : ∀ b, f (a.followedBy b) = (f a).followedBy b) (x : Except ArgumentFault (Arguments α)) :
    (x.map a.followedBy).map f = x.map (f a).followedBy := by
  cases x with
  | error fault => rfl
  | ok b => exact congrArg Except.ok (hf b)

variable {switches : List (Switch α)} {interspersed : Bool} {a : Arguments α}

/-- An option that can be read brings what it says, and its value if that is an argument of its own.
What follows is read as if it stood alone. -/
theorem exists_of_read_option {arg : String} {args : List String} (hne : arg ≠ "--")
    (hoption : isOption arg = true) (h : read switches interspersed (arg :: args) = .ok a) :
    ∃ given value rest b, args = value ++ rest ∧ read switches interspersed rest = .ok b ∧
      b.withGiven given = a ∧ ∀ rest', read switches interspersed (arg :: (value ++ rest')) =
        (read switches interspersed rest').map (withGiven given) := by
  rw [read.eq_def] at h
  simp only [if_neg hne, if_pos hoption] at h
  split at h
  next s hfind =>
    split at h
    next htakes =>
      split at h
      next v hvalue =>
        obtain ⟨b, hb, rfl⟩ := Outcome.map_eq_ok_iff.mp h
        refine ⟨[(s.option, some v)], [], args, b, rfl, hb, rfl, fun rest' => ?_⟩
        rw [read.eq_def]
        simp [hne, hoption, hfind, htakes, hvalue]
      next hvalue =>
        split at h
        next => cases h
        next v args =>
          obtain ⟨b, hb, rfl⟩ := Outcome.map_eq_ok_iff.mp h
          refine ⟨[(s.option, some v)], [v], args, b, rfl, hb, rfl, fun rest' => ?_⟩
          rw [read.eq_def]
          simp [hne, hoption, hfind, htakes, hvalue]
    next htakes =>
      split at h
      next => cases h
      next hvalue =>
        obtain ⟨b, hb, rfl⟩ := Outcome.map_eq_ok_iff.mp h
        refine ⟨[(s.option, none)], [], args, b, rfl, hb, rfl, fun rest' => ?_⟩
        rw [read.eq_def]
        simp [hne, hoption, hfind, htakes, hvalue]
  next hfind =>
    split at h
    next => cases h
    next hlong =>
      split at h
      next given hletters =>
        obtain ⟨b, hb, rfl⟩ := Outcome.map_eq_ok_iff.mp h
        refine ⟨given, [], args, b, rfl, hb, rfl, fun rest' => ?_⟩
        rw [read.eq_def]
        simp only [List.nil_append, if_neg hne, if_pos hoption, hfind, if_neg hlong, hletters]
      next => cases h

/-- Arguments behind complete ones are read as if they stood alone, unless nothing is an option any
more. -/
theorem read_append {before : List String} (h : read switches true before = .ok a)
    (hend : "--" ∉ before) (after : List String) :
    read switches true (before ++ after) = (read switches true after).map a.followedBy := by
  -- an option may take the argument behind it, so the induction is on the number of arguments
  induction hlength : before.length using Nat.strongRecOn generalizing before a with
  | ind n ih =>
    cases before with
    | nil =>
      obtain rfl := Except.ok.inj h
      rw [List.nil_append]
      cases read switches true after with
      | error fault => rfl
      | ok b => rfl
    | cons arg args =>
      have hne : arg ≠ "--" := fun heq => hend (heq ▸ List.mem_cons_self)
      have hend' : "--" ∉ args := fun hmem => hend (List.mem_cons_of_mem _ hmem)
      rw [List.length_cons] at hlength
      by_cases hoption : isOption arg = true
      · obtain ⟨given, value, rest, b, rfl, hb, rfl, hread⟩ := exists_of_read_option hne hoption h
        have hend'' : "--" ∉ rest := fun hmem => hend' (List.mem_append_right _ hmem)
        rw [List.length_append] at hlength
        rw [List.cons_append, List.append_assoc, hread, ih _ (by omega) hb hend'' rfl,
          map_followedBy]
        exact withGiven_followedBy given b
      · rw [read, if_neg hne, if_neg hoption, if_pos rfl] at h
        obtain ⟨b, hb, rfl⟩ := Outcome.map_eq_ok_iff.mp h
        rw [List.cons_append, read, if_neg hne, if_neg hoption, if_pos rfl,
          ih _ (by omega) hb hend' rfl, map_followedBy]
        intro c
        rfl

/-- Where nothing is an option after the first argument that is none, what stands behind this
argument is not looked at. -/
theorem exists_eq_append_of_read {args : List String} {name : String} {rest : List String}
    (h : read switches false args = .ok a) (hrest : a.rest = name :: rest) :
    ∃ before, args = before ++ name :: rest ∧
      ∀ rest', read switches false (before ++ name :: rest') = .ok ⟨a.given, name :: rest'⟩ := by
  induction hlength : args.length using Nat.strongRecOn generalizing args a with
  | ind n ih =>
    cases args with
    | nil =>
      obtain rfl := Except.ok.inj h
      cases hrest
    | cons arg args =>
      rw [List.length_cons] at hlength
      by_cases hne : arg = "--"
      · rw [read, if_pos hne] at h
        obtain rfl := Except.ok.inj h
        obtain rfl : args = name :: rest := hrest
        exact ⟨[arg], rfl, fun rest' => by rw [List.singleton_append, read, if_pos hne]⟩
      · by_cases hoption : isOption arg = true
        · obtain ⟨given, value, args', b, rfl, hb, rfl, hread⟩ :=
            exists_of_read_option hne hoption h
          rw [List.length_append] at hlength
          obtain ⟨before, rfl, hbefore⟩ := ih _ (by omega) hb hrest rfl
          refine ⟨arg :: (value ++ before), by simp, fun rest' => ?_⟩
          rw [List.cons_append, List.append_assoc, hread, hbefore rest']
          rfl
        · rw [read, if_neg hne, if_neg hoption, if_neg Bool.false_ne_true] at h
          obtain rfl := Except.ok.inj h
          obtain ⟨rfl, rfl⟩ := List.cons.inj hrest
          refine ⟨[], rfl, fun rest' => ?_⟩
          rw [List.nil_append, read, if_neg hne, if_neg hoption, if_neg Bool.false_ne_true]

/-- An option that is given has been read somewhere. -/
theorem mem_options_iff [BEq α] [LawfulBEq α] {a : Arguments α} {option : α} :
    option ∈ a.options ↔ ∃ value, (option, value) ∈ a.given := by
  rw [options, List.mem_eraseDups]
  simp

end Arguments

/-- The arguments with one more `--strict`, behind some of them. -/
def Arguments.withStrict (a b : Arguments ValidateOption) : Arguments ValidateOption :=
  a.followedBy (b.withGiven [(.strict, none)])

section Strict

variable {a b : Arguments ValidateOption}

/-- The option `--strict` stands by itself. -/
theorem read_strict_cons (args : List String) :
    Arguments.read validateSwitches true ("--strict" :: args) =
      (Arguments.read validateSwitches true args).map (Arguments.withGiven [(.strict, none)]) := by
  have hoption : Arguments.isOption "--strict" = true := by decide +kernel
  have hname : Arguments.nameAndValue "--strict" = ("--strict", none) := by decide +kernel
  have hfind : validateSwitches.find? (fun s => s.name == "--strict") =
      some ⟨.strict, "--strict", none, false⟩ := by
    simp [validateSwitches]
  rw [Arguments.read, if_neg (by decide), if_pos hoption]
  simp [hname, hfind]

/-- One more `--strict` brings no values. -/
theorem values_withStrict (option : ValidateOption) :
    (a.withStrict b).values option = (a.followedBy b).values option := by
  simp only [Arguments.withStrict, Arguments.followedBy, Arguments.withGiven, Arguments.values,
    List.filter_append, List.filterMap_append]
  by_cases hstrict : ValidateOption.strict == option
  · simp [List.filter_cons_of_pos, hstrict]
  · simp [List.filter_cons_of_neg, hstrict]

/-- One more `--strict` gives no other option. -/
theorem has_withStrict {option : ValidateOption} (h : option ≠ .strict) :
    (a.withStrict b).has option = (a.followedBy b).has option := by
  have hstrict : (ValidateOption.strict == option) = false := by simpa using Ne.symm h
  simp [Arguments.withStrict, Arguments.followedBy, Arguments.withGiven, Arguments.has, hstrict]

/-- One more `--strict` makes the same request, but a strict one. -/
theorem requestOf_withStrict :
    requestOf (a.withStrict b) = { requestOf (a.followedBy b) with strict := true } := by
  have hstrict : (a.withStrict b).has .strict = true := by
    simp [Arguments.withStrict, Arguments.followedBy, Arguments.withGiven, Arguments.has]
  have hjson : (a.withStrict b).has .json = (a.followedBy b).has .json :=
    has_withStrict (by decide)
  simp only [requestOf, Arguments.value?, values_withStrict, hstrict, hjson]

/-- The options that are given with one more `--strict` are this one and those given without it. -/
theorem mem_options_withStrict {option : ValidateOption}
    (h : option ∈ (a.withStrict b).options) :
    option = .strict ∨ option ∈ (a.followedBy b).options := by
  rw [Arguments.mem_options_iff] at h ⊢
  obtain ⟨value, hmem⟩ := h
  simp only [Arguments.withStrict, Arguments.followedBy, Arguments.withGiven, List.mem_append,
    List.mem_cons, List.not_mem_nil, or_false, Prod.mk.injEq] at hmem ⊢
  rcases hmem with hmem | ⟨hstrict, -⟩ | hmem
  · exact .inr ⟨value, .inl hmem⟩
  · exact .inl hstrict
  · exact .inr ⟨value, .inr hmem⟩

end Strict

section Requests

variable {tree : Directory} {verbose : Bool} {request : Request}

/-- Arguments ask for a run just if they can be read, help is not among them, the values of their
options are of use, and there is nothing but options. -/
theorem readValidate_eq_ok_iff {args : List String} {verbose' : Bool} :
    readValidate tree verbose args = .ok (.validate verbose' request) ↔
      ∃ a, Arguments.read validateSwitches true args = .ok a ∧ a.has .help = false ∧
        (∀ option ∈ a.options, checkOption tree a option = .ok ()) ∧ a.rest = [] ∧
        verbose = verbose' ∧ requestOf a = request := by
  rw [readValidate, Outcome.bind_eq_ok_iff]
  refine exists_congr fun a => ?_
  rw [Outcome.mapError_eq_ok_iff]
  refine and_congr_right fun _ => ?_
  cases hhelp : a.has .help with
  | true => simp [Outcome.pure_eq_ok_iff]
  | false =>
    rw [if_neg Bool.false_ne_true, and_iff_right rfl, ← Outcome.forM_eq_ok_iff]
    change ((a.options.forM (checkOption tree a)) >>= fun _ => _) = _ ↔ _
    rw [Outcome.bind_eq_ok_iff]
    cases a.rest with
    | nil =>
      constructor
      · intro h
        obtain ⟨u, hvalues, hrequest⟩ := h
        cases hrequest
        exact ⟨hvalues, rfl, rfl, rfl⟩
      · intro h
        obtain ⟨hvalues, -, rfl, rfl⟩ := h
        exact ⟨(), hvalues, rfl⟩
    | cons arg args => simp [throw, throwThe, MonadExceptOf.throw]

/-- The values of an option are of use with one more `--strict` just if they are without it. -/
theorem checkOption_withStrict (a b : Arguments ValidateOption) (option : ValidateOption) :
    checkOption tree (a.withStrict b) option = checkOption tree (a.followedBy b) option := by
  cases option <;> simp only [checkOption, Arguments.value?, values_withStrict]

/-- What arguments ask for, they ask for with one more `--strict` behind some that are complete, but
strictly. -/
theorem readValidate_strict {before after : List String} {a : Arguments ValidateOption}
    (hbefore : Arguments.read validateSwitches true before = .ok a) (hend : "--" ∉ before)
    (h : readValidate tree verbose (before ++ after) = .ok (.validate verbose request)) :
    readValidate tree verbose (before ++ "--strict" :: after) =
      .ok (.validate verbose { request with strict := true }) := by
  obtain ⟨c, hread, hhelp, hvalues, hrest, -, rfl⟩ := readValidate_eq_ok_iff.mp h
  rw [Arguments.read_append hbefore hend] at hread
  obtain ⟨b, hafter, rfl⟩ := Outcome.map_eq_ok_iff.mp hread
  have hread' : Arguments.read validateSwitches true (before ++ "--strict" :: after) =
      .ok (a.withStrict b) := by
    rw [Arguments.read_append hbefore hend, read_strict_cons, hafter]
    rfl
  refine readValidate_eq_ok_iff.mpr
    ⟨a.withStrict b, hread', ?_, ?_, hrest, rfl, requestOf_withStrict⟩
  · rw [has_withStrict (by decide), hhelp]
  · intro option hoption
    rw [checkOption_withStrict]
    rcases mem_options_withStrict hoption with rfl | hgiven
    · rfl
    · exact hvalues option hgiven

/-- The options of the program ask for no run. -/
theorem immediate?_ne_validate (a : Arguments ProgramOption) :
    immediate? a ≠ some (.validate verbose request) := by
  intro h
  obtain ⟨⟨option, value⟩, -, hg⟩ := List.exists_of_findSome?_eq_some h
  cases option <;> cases hg

/-- The options of the program ask for no run before a fault is told either. -/
theorem answer_ne_validate {fault : UsageFault} (a : Arguments ProgramOption) :
    (match immediate? a with
      | some invocation => pure invocation
      | none => throw fault) ≠ (.ok (.validate verbose request) : Except UsageFault Invocation) := by
  intro h
  split at h
  next invocation himmediate =>
    obtain rfl := Outcome.pure_eq_ok_iff.mp h
    exact immediate?_ne_validate a himmediate
  next => cases h

/-- A command line that names the command behind options of the program asks it what stands behind
the name. -/
theorem read_of_readProgram {args options : List String} {a : Arguments ProgramOption}
    (hread : readProgram args = .ok a) (hnone : immediate? a = none)
    (hrest : a.rest = validateCommand :: options) :
    Invocation.read tree args = readValidate tree (a.has .verbose) options := by
  have hne : args.isEmpty = false := by
    cases args with
    | nil =>
      obtain rfl := Except.ok.inj hread
      cases hrest
    | cons arg args => rfl
  rw [Invocation.read, if_neg (by simp [hne])]
  simp only [hread, bind, Except.bind, hnone, hrest, beq_self_eq_true, if_true]

/-- A command line that asks for a run names the command behind options of the program. -/
theorem exists_readProgram_of_asks {args : List String}
    (h : Invocation.read tree args = .ok (.validate verbose request)) :
    ∃ a options, readProgram args = .ok a ∧ immediate? a = none ∧
      a.rest = validateCommand :: options ∧ a.has .verbose = verbose := by
  unfold Invocation.read at h
  split at h
  next => cases h
  next =>
    obtain ⟨a, hread, h⟩ := Outcome.bind_eq_ok_iff.mp h
    split at h
    next invocation himmediate =>
      obtain rfl := Outcome.pure_eq_ok_iff.mp h
      exact (immediate?_ne_validate a himmediate).elim
    next => cases h
    next name options himmediate hrest =>
      split at h
      next hname =>
        obtain rfl := beq_iff_eq.mp hname
        obtain ⟨-, -, -, -, -, hverbose, -⟩ := readValidate_eq_ok_iff.mp h
        exact ⟨a, options, hread, himmediate, hrest, hverbose⟩
      next =>
        -- another command is refused, or help or the version comes first
        split at h
        all_goals
          obtain ⟨again, -, h⟩ := Outcome.bind_eq_ok_iff.mp h
          exact (answer_ne_validate again h).elim

/-- A command line that asks for a run names the command, and asks it what stands behind the
name. -/
theorem exists_eq_append_of_asks {args : List String}
    (h : Invocation.read tree args = .ok (.validate verbose request)) :
    ∃ before options, args = before ++ validateCommand :: options ∧ ∀ options',
      Invocation.read tree (before ++ validateCommand :: options') =
        readValidate tree verbose options' := by
  obtain ⟨a, options, hread, himmediate, hrest, rfl⟩ := exists_readProgram_of_asks h
  obtain ⟨before, hargs, hbefore⟩ :=
    Arguments.exists_eq_append_of_read (Outcome.mapError_eq_ok_iff.mp hread) hrest
  refine ⟨before, options, hargs, fun options' => ?_⟩
  have hread' : readProgram (before ++ validateCommand :: options') =
      .ok ⟨a.given, validateCommand :: options'⟩ :=
    Outcome.mapError_eq_ok_iff.mpr (hbefore options')
  have hnone : immediate? ⟨a.given, validateCommand :: options'⟩ = none := himmediate
  rw [read_of_readProgram hread' hnone rfl]
  rfl

end Requests

end ModuleLint.Command
