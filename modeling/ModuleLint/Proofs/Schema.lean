import Mathlib.Data.List.Basic
import ModuleLint.Config
import ModuleLint.Proofs.Outcome

/-!
# Which configurations are accepted

A document is accepted just if each of its keys means something and has a value of the right kind.
Two keys are less strict than documented: every value that equals one passes for a version, and
every value that counts as nothing passes for the switches of rules.
-/

namespace ModuleLint

/-- A key tells a family just if it is that of the family. -/
theorem Family.ofKey?_eq_some_iff {key : String} {family : Family} :
    ofKey? key = some family ↔ family.key = key := by
  constructor
  · intro h
    rw [ofKey?] at h
    have hkey := List.find?_some h
    exact eq_of_beq hkey
  · rintro rfl
    exact ofKey?_key family

/-- An identifier tells a rule just if it is that of the rule. -/
theorem Rule.ofId?_eq_some_iff {id : String} {rule : Rule} :
    ofId? id = some rule ↔ rule.id = id := by
  constructor
  · intro h
    rw [ofId?] at h
    have hid := List.find?_some h
    exact eq_of_beq hid
  · rintro rfl
    exact ofId?_id rule

namespace Data

/-- A value that counts as the number one. -/
def CountsAsOne (d : Data) : Prop :=
  d = .int 1 ∨ d = .bool true ∨ ∃ x, d = .float x ∧ (x == 1) = true

/-- A value that counts as nothing. -/
def CountsAsNothing (d : Data) : Prop :=
  d = .null ∨ d = .bool false ∨ d = .int 0 ∨ (∃ x, d = .float x ∧ (x == 0) = true) ∨ d = .text "" ∨
    d = .bytes [] ∨ d = .list [] ∨ d = .mapping [] ∨ d = .set []

/-- The test for the number one tells the values that count as it. -/
theorem isOne_iff {d : Data} : d.isOne = true ↔ d.CountsAsOne := by
  cases d <;> simp [isOne, CountsAsOne]

/-- The test for blank values tells those that count as nothing. -/
theorem isBlank_iff {d : Data} : d.isBlank = true ↔ d.CountsAsNothing := by
  cases d <;> simp [isBlank, CountsAsNothing]

/-- A value has a text just if it is that text. -/
theorem text?_eq_some_iff {d : Data} {s : String} : d.text? = some s ↔ d = .text s := by
  cases d <;> simp [text?]

/-- A value tells an item by its text just if it is the name of the item. -/
theorem bind_text?_eq_some_iff {α : Type} {find? : String → Option α} {name : α → String}
    (hfind : ∀ {s a}, find? s = some a ↔ name a = s) {d : Data} {a : α} :
    d.text?.bind find? = some a ↔ d = .text (name a) := by
  simp only [Option.bind_eq_some_iff, text?_eq_some_iff, hfind]
  constructor
  · rintro ⟨_, rfl, rfl⟩
    rfl
  · rintro rfl
    exact ⟨_, rfl, rfl⟩

/-- A switch: the key of a family or the identifier of a rule, and a truth value. -/
def IsSwitch (entry : Data × Data) : Prop :=
  ((∃ family : Family, entry.1 = .text family.key) ∨ ∃ rule : Rule, entry.1 = .text rule.id) ∧
    ∃ on, entry.2 = .bool on

/-- A mapping of switches. -/
def IsSwitches (d : Data) : Prop :=
  ∃ switches, d = .mapping switches ∧ ∀ entry ∈ switches, IsSwitch entry

end Data

namespace Config

/-- A document lists texts of a kind under a key, or nothing: the key is missing or null. -/
def Document.Lists (doc : Document) (key : String) (proper : String → Prop) : Prop :=
  ∀ value ∈ doc.get? key, value = .null ∨
    ∃ texts : List String, value = .list (texts.map .text) ∧ ∀ text ∈ texts, proper text

/-- A document conforms to the schema in which the version and the switches of rules are values of
the given kinds. -/
structure Document.Conforms (version switches : Data → Prop) (doc : Document) : Prop where
  keys : ∀ entry ∈ doc, ∃ key ∈ knownKeys, entry.1 = .text key
  version : ∀ value ∈ doc.get? "version", version value
  rules : ∀ value ∈ doc.get? "rules", switches value
  disable : doc.Lists "disable" fun text => ∃ rule : Rule, rule.id = text
  ignore : doc.Lists "ignore" fun _ => True
  ignoreFile : ∀ value ∈ doc.get? "ignore_file", value = .null ∨ ∃ name, value = .text name
  extensions : doc.Lists "extensions" fun text => text ∈ TypeScript.Dialect.extensions

/-- A configuration conforms to such a schema if it is empty or a document that conforms to it. -/
def Conforms (version switches : Data → Prop) (d : Data) : Prop :=
  d = .null ∨ ∃ doc : Document, d = .mapping doc ∧ doc.Conforms version switches

/-- The documented schema: the version is the number one, and the switches of rules are null or a
mapping of switches. -/
def Documented (d : Data) : Prop :=
  Conforms (· = .int 1) (fun value => value = .null ∨ value.IsSwitches) d

section Documents

variable {doc : Document} {key : String}

/-- A document passes the check of keys just if all its keys mean something. -/
theorem checkKeys_eq_ok_iff :
    checkKeys doc = .ok () ↔ ∀ entry ∈ doc, ∃ key ∈ knownKeys, entry.1 = .text key := by
  have hunknown : doc.unknownKeys = [] ↔ ∀ entry ∈ doc, ∃ key ∈ knownKeys, entry.1 = .text key := by
    simp [Document.unknownKeys, Option.any_eq_true, Data.text?_eq_some_iff, and_comm]
  rw [← hunknown, checkKeys]
  split
  next hnil => simp [hnil]
  next hcons =>
    constructor
    · intro h
      split at h <;> cases h
    · exact fun h => (hcons h).elim

/-- A document passes the check of its version just if that counts as the number one. -/
theorem checkVersion_eq_ok_iff :
    checkVersion doc = .ok () ↔ ∀ value ∈ doc.get? "version", value.CountsAsOne := by
  unfold checkVersion
  split
  next hget => simp [hget]
  -- lists, mappings and loops, which cannot be looked up
  next hget => simp [hget, Data.CountsAsOne]
  next hget => simp [hget, Data.CountsAsOne]
  next hget => simp [hget, Data.CountsAsOne]
  next version _ _ _ hget =>
    simp only [hget, Option.mem_some_iff, forall_eq', ← Data.isOne_iff]
    cases version.isOne <;> simp

/-- The texts of a list can be had just if it holds nothing else. -/
theorem allTexts?_eq_some_iff {items : List Data} {texts : List String} :
    allTexts? items = some texts ↔ items = texts.map .text := by
  induction items generalizing texts with
  | nil => cases texts <;> simp [allTexts?]
  | cons d items ih =>
    have hcons : allTexts? (d :: items) =
        d.text?.bind fun s => (allTexts? items).map fun rest => s :: rest := by
      rw [allTexts?]
      cases d.text? <;> cases allTexts? items <;> rfl
    simp only [hcons, Option.bind_eq_some_iff, Option.map_eq_some_iff, Data.text?_eq_some_iff, ih]
    constructor
    · rintro ⟨s, rfl, rest, rfl, rfl⟩
      rfl
    · intro h
      obtain ⟨s, rest, rfl, hs, hrest⟩ := List.map_eq_cons_iff.mp h.symm
      exact ⟨s, hs.symm, rest, hrest.symm, rfl⟩

/-- The texts under a key can be had just if it has a list of them, or if it has nothing and there
are none. -/
theorem textsOf_eq_ok_iff {texts : List String} :
    textsOf doc key = .ok texts ↔
      (∀ value ∈ doc.get? key, value = .null) ∧ texts = [] ∨
        doc.get? key = some (.list (texts.map .text)) := by
  unfold textsOf
  split
  next hget => simp [hget, eq_comm]
  next hget => simp [hget, eq_comm]
  next items hget =>
    simp only [hget, Option.mem_some_iff, forall_eq', reduceCtorEq, false_and, false_or,
      Option.some.injEq, Data.list.injEq, ← allTexts?_eq_some_iff]
    cases allTexts? items <;> simp
  next value hnull hlist hget =>
    have hne : value ≠ .null := hnull
    have hne' : value ≠ .list (texts.map .text) := hlist _
    simp [hget, hne, hne']

/-- The texts under a key can be had and are of a kind just if the document lists such texts there,
or nothing. -/
theorem exists_textsOf_iff {proper : String → Prop} :
    (∃ texts, textsOf doc key = .ok texts ∧ ∀ text ∈ texts, proper text) ↔
      doc.Lists key proper := by
  simp only [textsOf_eq_ok_iff]
  constructor
  · rintro ⟨texts, ⟨hnull, -⟩ | hlist, hproper⟩ value hvalue
    · exact .inl (hnull value hvalue)
    · exact .inr ⟨texts, Option.some.inj (hvalue.symm.trans hlist), hproper⟩
  · intro h
    cases hget : doc.get? key with
    | none => exact ⟨[], .inl ⟨nofun, rfl⟩, nofun⟩
    | some value =>
      rcases h value hget with rfl | ⟨texts, rfl, hproper⟩
      · exact ⟨[], .inl ⟨by simp, rfl⟩, nofun⟩
      · exact ⟨texts, .inr rfl, hproper⟩

/-- The ignore file of a document can be told just if it is null or a text, or the default. -/
theorem exists_ignoreFileOf_iff :
    (∃ file, ignoreFileOf doc = .ok file) ↔
      ∀ value ∈ doc.get? "ignore_file", value = .null ∨ ∃ name, value = .text name := by
  unfold ignoreFileOf
  split
  next hget => simp [hget]
  next hget => simp [hget]
  next hget => simp [hget]
  next value hnull htext hget =>
    have hne : value ≠ .null := hnull
    have hne' (name : String) : value ≠ .text name := htext name
    simp [hget, hne, hne']

/-- The extensions of a document can be told just if all that it lists are those of dialects. -/
theorem exists_extensionsOf_iff :
    (∃ extensions, extensionsOf doc = .ok extensions) ↔
      doc.Lists "extensions" fun text => text ∈ TypeScript.Dialect.extensions := by
  rw [← exists_textsOf_iff]
  simp only [extensionsOf, Outcome.bind_eq_ok_iff]
  rw [exists_comm]
  refine exists_congr fun listed => ?_
  rw [exists_and_left, and_congr_right_iff]
  intro hlisted
  split
  next e hfind =>
    have hunsupported : e ∉ TypeScript.Dialect.extensions := by simpa using List.find?_some hfind
    constructor
    · intro h
      cases h.choose_spec
    · intro h
      exact (hunsupported (h e (List.mem_of_find?_eq_some hfind))).elim
  next hfind =>
    constructor
    · intro _ e he
      simpa using List.find?_eq_none.mp hfind e he
    · intro _
      exact ⟨_, rfl⟩

/-- The switches of a document are those of a mapping, or the document if that is its own rules, or
none if there is nothing. -/
theorem switchesOf_eq_ok_iff {switches : List (Data × Data)} :
    switchesOf doc = .ok switches ↔
      (∀ value ∈ doc.get? "rules", value.CountsAsNothing) ∧ switches = [] ∨
        doc.get? "rules" = some (.mapping switches) ∨
        doc.get? "rules" = some (.loop true) ∧ switches = doc.unrolled := by
  unfold switchesOf
  split
  next hget => simp [hget, eq_comm]
  next entries hget =>
    simp only [hget, Option.mem_some_iff, forall_eq', Except.ok.injEq, Option.some.injEq,
      Data.mapping.injEq, reduceCtorEq, false_and, or_false]
    refine ⟨.inr, ?_⟩
    rintro (⟨hnothing, rfl⟩ | rfl)
    · simpa [Data.CountsAsNothing] using hnothing
    · rfl
  next hget =>
    have hloop : ¬ (Data.loop true).CountsAsNothing := by simp [Data.CountsAsNothing]
    simp [hget, hloop, eq_comm]
  next value hmapping hloop hget =>
    have hne : value ≠ .mapping switches := hmapping _
    have hne' : value ≠ .loop true := hloop
    simp only [hget, Option.mem_some_iff, forall_eq', ← Data.isBlank_iff, Option.some.injEq, hne,
      hne', false_and, or_false]
    cases value.isBlank <;> simp [eq_comm]

/-- A document that is its own rules holds something that is no switch: the rules. -/
theorem exists_not_isSwitch_of_loop (hget : doc.get? "rules" = some (.loop true)) :
    ∃ entry ∈ doc.unrolled, ¬ Data.IsSwitch entry := by
  obtain ⟨⟨key, value⟩, hfind, rfl⟩ := Option.map_eq_some_iff.mp hget
  refine ⟨(key, .mapping doc), List.mem_map.mpr ⟨_, List.mem_of_find?_eq_some hfind, rfl⟩, ?_⟩
  simp [Data.IsSwitch]

end Documents

section Rules

/-- A switch can be taken in just if it is one. -/
theorem exists_applySwitch_iff (rules : RuleSet) (entry : Data × Data) :
    (∃ rules', rules.applySwitch entry.1 entry.2 = .ok rules') ↔ Data.IsSwitch entry := by
  obtain ⟨key, value⟩ := entry
  simp only [Data.IsSwitch, ← Data.bind_text?_eq_some_iff Family.ofKey?_eq_some_iff,
    ← Data.bind_text?_eq_some_iff Rule.ofId?_eq_some_iff]
  unfold RuleSet.applySwitch
  split
  next on =>
    split
    next family _ hfamily => simp [hfamily]
    next rule hfamily hrule => simp [hfamily, hrule]
    next hfamily hrule => simp [hfamily, hrule]
  next hvalue =>
    have hne (on : Bool) : value ≠ .bool on := hvalue on
    simp [hne]

/-- Switches can be taken in just if each of them is one. -/
theorem exists_ofSwitches_iff {switches : List (Data × Data)} :
    (∃ rules, RuleSet.ofSwitches switches = .ok rules) ↔
      ∀ entry ∈ switches, Data.IsSwitch entry :=
  Outcome.exists_foldlM_eq_ok_iff exists_applySwitch_iff switches {}

/-- Rules can be disabled just if each of them is one. -/
theorem exists_without_iff (rules : RuleSet) {ids : List String} :
    (∃ rules', rules.without ids = .ok rules') ↔ ∀ id ∈ ids, ∃ rule : Rule, rule.id = id := by
  have hunknown : (ids.filter fun id => (Rule.ofId? id).isNone).isEmpty = true ↔
      ∀ id ∈ ids, ∃ rule : Rule, rule.id = id := by
    simp only [← Rule.ofId?_eq_some_iff, ← Option.isSome_iff_exists, List.isEmpty_iff,
      List.filter_eq_nil_iff, Bool.not_eq_true, Option.isNone_eq_false_iff]
  rw [← hunknown, RuleSet.without]
  cases (ids.filter fun id => (Rule.ofId? id).isNone).isEmpty <;> simp

/-- The rules of a document can be told just if it has a mapping of switches, or nothing, and
disables rules alone. -/
theorem exists_rulesOf_iff {doc : Document} :
    (∃ rules, rulesOf doc = .ok rules) ↔
      (∀ value ∈ doc.get? "rules", value.CountsAsNothing ∨ value.IsSwitches) ∧
        doc.Lists "disable" fun text => ∃ rule : Rule, rule.id = text := by
  simp only [rulesOf, Outcome.bind_eq_ok_iff, Outcome.mapError_eq_ok_iff, ← exists_textsOf_iff]
  constructor
  · rintro ⟨rules', switches, hswitches, texts, htexts, rules, hrules, hdisabled⟩
    have hall := exists_ofSwitches_iff.mp ⟨rules, hrules⟩
    refine ⟨fun value hvalue => ?_, texts, htexts, (exists_without_iff rules).mp ⟨_, hdisabled⟩⟩
    rcases switchesOf_eq_ok_iff.mp hswitches with ⟨hnothing, -⟩ | hmapping | ⟨hloop, rfl⟩
    · exact .inl (hnothing value hvalue)
    · exact .inr ⟨switches, Option.some.inj (hvalue.symm.trans hmapping), hall⟩
    · obtain ⟨entry, hentry, hnone⟩ := exists_not_isSwitch_of_loop hloop
      exact (hnone (hall entry hentry)).elim
  · rintro ⟨hvalue, texts, htexts, hids⟩
    have hswitches : ∃ switches, switchesOf doc = .ok switches ∧
        ∀ entry ∈ switches, Data.IsSwitch entry := by
      simp only [switchesOf_eq_ok_iff]
      cases hget : doc.get? "rules" with
      | none => exact ⟨[], .inl ⟨nofun, rfl⟩, nofun⟩
      | some value =>
        rcases hvalue value hget with hnothing | ⟨switches, rfl, hall⟩
        · exact ⟨[], .inl ⟨by simpa using hnothing, rfl⟩, nofun⟩
        · exact ⟨switches, .inr (.inl rfl), hall⟩
    obtain ⟨switches, hswitches, hall⟩ := hswitches
    obtain ⟨rules, hrules⟩ := exists_ofSwitches_iff.mpr hall
    obtain ⟨rules', hdisabled⟩ := (exists_without_iff rules).mpr hids
    exact ⟨rules', switches, hswitches, texts, htexts, rules, hrules, hdisabled⟩

end Rules

/-- A document describes a configuration just if it conforms to the schema in which every value
that counts as one is a version, and every value that counts as nothing switches nothing. -/
theorem exists_ofDocument_iff {doc : Document} :
    (∃ config, ofDocument doc = .ok config) ↔ doc.Conforms Data.CountsAsOne
      fun value => value.CountsAsNothing ∨ value.IsSwitches := by
  have hignore : (∃ texts, textsOf doc "ignore" = .ok texts) ↔
      doc.Lists "ignore" fun _ => True := by
    simp only [← exists_textsOf_iff, implies_true, and_true]
  simp only [ofDocument, Outcome.bind_eq_ok_iff, Outcome.pure_eq_ok_iff]
  constructor
  · rintro ⟨_, ⟨⟩, hkeys, ⟨⟩, hversion, rules, hrules, file, hfile, extensions, hextensions, texts,
      htexts, -⟩
    obtain ⟨hswitches, hdisable⟩ := exists_rulesOf_iff.mp ⟨rules, hrules⟩
    exact ⟨checkKeys_eq_ok_iff.mp hkeys, checkVersion_eq_ok_iff.mp hversion, hswitches, hdisable,
      hignore.mp ⟨texts, htexts⟩, exists_ignoreFileOf_iff.mp ⟨file, hfile⟩,
      exists_extensionsOf_iff.mp ⟨extensions, hextensions⟩⟩
  · intro h
    obtain ⟨rules, hrules⟩ := exists_rulesOf_iff.mpr ⟨h.rules, h.disable⟩
    obtain ⟨file, hfile⟩ := exists_ignoreFileOf_iff.mpr h.ignoreFile
    obtain ⟨extensions, hextensions⟩ := exists_extensionsOf_iff.mpr h.extensions
    obtain ⟨texts, htexts⟩ := hignore.mpr h.ignore
    exact ⟨_, (), checkKeys_eq_ok_iff.mpr h.keys, (), checkVersion_eq_ok_iff.mpr h.version, rules,
      hrules, file, hfile, extensions, hextensions, texts, htexts, rfl⟩

/-- A document conforms to another schema if its version and its switches are of the kinds of that
one. -/
theorem Document.Conforms.imp {version version' switches switches' : Data → Prop} {doc : Document}
    (h : doc.Conforms version switches)
    (hversion : ∀ value ∈ doc.get? "version", version value → version' value)
    (hswitches : ∀ value ∈ doc.get? "rules", switches value → switches' value) :
    doc.Conforms version' switches' :=
  { h with
    version := fun value hvalue => hversion value hvalue (h.version value hvalue)
    rules := fun value hvalue => hswitches value hvalue (h.rules value hvalue) }

/-- A configuration is accepted just if it conforms to the schema in which every value that counts
as one is a version, and every value that counts as nothing switches nothing. -/
theorem exists_ofData_iff {d : Data} :
    (∃ config, ofData d = .ok config) ↔ Conforms Data.CountsAsOne
      (fun value => value.CountsAsNothing ∨ value.IsSwitches) d := by
  unfold ofData
  split
  next => simp [Conforms]
  next doc => simp [Conforms, exists_ofDocument_iff]
  next hnull hmapping =>
    have hne : d ≠ .null := hnull
    have hne' (doc : Document) : d ≠ .mapping doc := hmapping doc
    simp [Conforms, hne, hne']

/-- All that the documented schema allows is accepted. -/
theorem Documented.exists_config {d : Data} (h : Documented d) :
    ∃ config, ofData d = .ok config := by
  refine exists_ofData_iff.mpr ?_
  rcases h with hnull | ⟨doc, rfl, hdoc⟩
  · exact .inl hnull
  · exact .inr ⟨doc, rfl, hdoc.imp (fun _ _ hone => .inl hone) fun _ _ => Or.imp_left .inl⟩

/-- A configuration in which no value stands for another: its version does not count as one without
being it, and its switches do not count as nothing without being null or an empty mapping. -/
def IsStrict (d : Data) : Prop :=
  ∀ doc : Document, d = .mapping doc →
    (∀ value ∈ doc.get? "version", value.CountsAsOne → value = .int 1) ∧
      ∀ value ∈ doc.get? "rules", value.CountsAsNothing → value = .null ∨ value = .mapping []

/-- A configuration is accepted just if it conforms to the schema in which every value that counts
as one is a version, and every value that counts as nothing switches nothing. So it is accepted just
if the documented schema allows it, unless some value in it stands for another. -/
theorem ofData_accepts (d : Data) :
    ((∃ config, ofData d = .ok config) ↔ Conforms Data.CountsAsOne
      (fun value => value.CountsAsNothing ∨ value.IsSwitches) d) ∧
    (IsStrict d → ((∃ config, ofData d = .ok config) ↔ Documented d)) := by
  refine ⟨exists_ofData_iff, fun hstrict => ⟨fun haccepted => ?_, Documented.exists_config⟩⟩
  rcases exists_ofData_iff.mp haccepted with hnull | ⟨doc, hmapping, hdoc⟩
  · exact .inl hnull
  · obtain ⟨hversion, hrules⟩ := hstrict doc hmapping
    refine .inr ⟨doc, hmapping, hdoc.imp hversion fun value hvalue => ?_⟩
    rintro (hnothing | hswitches)
    · rcases hrules value hvalue hnothing with hnull | hempty
      · exact .inl hnull
      · exact .inr ⟨[], hempty, nofun⟩
    · exact .inr hswitches

example : ofData (.mapping [(.text "version", .bool true)]) = .ok {} := rfl

/-- A document that uses all keys as documented. -/
def documentedExample : Document :=
  [(.text "version", .int 1),
    (.text "rules", .mapping [(.text "check_entity_files", .bool false)]),
    (.text "disable", .list [.text "module-path"]), (.text "ignore", .list [.text "legacy/**"]),
    (.text "ignore_file", .text ".gitignore"), (.text "extensions", .list [.text ".ts"])]

/-- No value in that document stands for another, and it is accepted as the documented schema allows
it. -/
theorem ofData_accepts_documentedExample :
    IsStrict (.mapping documentedExample) ∧ Documented (.mapping documentedExample) ∧
      ∃ config, ofData (.mapping documentedExample) = .ok config := by
  have hconforms : documentedExample.Conforms (· = .int 1)
      fun value => value = .null ∨ value.IsSwitches := by
    constructor
    · simp [documentedExample, knownKeys]
    · rintro value ⟨⟩
      rfl
    · rintro value ⟨⟩
      refine .inr ⟨_, rfl, ?_⟩
      rw [List.forall_mem_singleton]
      exact ⟨.inl ⟨.entityFiles, rfl⟩, false, rfl⟩
    · rintro value ⟨⟩
      exact .inr ⟨["module-path"], rfl, by rw [List.forall_mem_singleton]; exact ⟨.modulePath, rfl⟩⟩
    · rintro value ⟨⟩
      exact .inr ⟨["legacy/**"], rfl, fun _ _ => trivial⟩
    · rintro value ⟨⟩
      exact .inr ⟨_, rfl⟩
    · rintro value ⟨⟩
      exact .inr ⟨[".ts"], rfl, by decide⟩
  have hdocumented : Documented (.mapping documentedExample) := .inr ⟨_, rfl, hconforms⟩
  have hstrict : IsStrict (.mapping documentedExample) := by
    rintro doc ⟨⟩
    refine ⟨?_, ?_⟩
    · rintro value ⟨⟩ -
      rfl
    · rintro value ⟨⟩ hnothing
      simp [Data.CountsAsNothing] at hnothing
  exact ⟨hstrict, hdocumented, ((ofData_accepts _).2 hstrict).mpr hdocumented⟩

/-- Not only what the documented schema allows is accepted: so is a truth value for the switches of
rules. -/
theorem not_forall_documented :
    ¬ ∀ d, (∃ config, ofData d = .ok config) ↔ Documented d := by
  intro h
  have haccepted : ofData (.mapping [(.text "rules", .bool false)]) = .ok {} := rfl
  rcases (h _).mp ⟨_, haccepted⟩ with hnull | ⟨doc, hdoc, hconforms⟩
  · cases hnull
  · obtain rfl := Data.mapping.inj hdoc
    have hget : Document.get? [(.text "rules", .bool false)] "rules" = some (.bool false) := rfl
    rcases hconforms.rules _ hget with hnull | ⟨switches, hswitches, -⟩
    · cases hnull
    · cases hswitches

end Config

end ModuleLint
