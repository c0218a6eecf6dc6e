import Mathlib
import ModuleLint.Command.Run
import ModuleLint.Proofs.Schema

/-!
# How bad configurations are refused

A bad configuration is refused with a message, unless the check of it breaks off. It does so on keys
that mean nothing and cannot be put in the order in which they would be told, and on a version that
is a collection and cannot be looked up. The program answers a message with an error line and status
two, and it has no answer where the check breaks off.
-/

namespace ModuleLint

open ModuleLint.Text (CharacterNames)

namespace Data

/-- Values have no order just if there are several and they are not all of one kind that has one. -/
theorem areComparable_eq_false_iff {ds : List Data} :
    areComparable ds = false ↔
      1 < ds.length ∧ ∀ kind : OrderKind, ∃ d ∈ ds, d.orderKind? ≠ some kind := by
  fun_cases areComparable ds with
  | case1 => simp
  | case2 d => simp
  | case3 d ds hds =>
    have hlength : 1 < (d :: ds).length := by
      have hpos : 0 < ds.length := List.length_pos_iff.mpr hds
      rw [List.length_cons]
      omega
    rw [and_iff_right hlength]
    cases hkind : d.orderKind? with
    | none => simp [hkind]
    | some kind =>
      simp only [Option.isSome_some, Bool.true_and, List.all_eq_false, beq_iff_eq]
      constructor
      · intro h kind'
        obtain ⟨e, he, hne⟩ := h
        by_cases hsame : kind' = kind
        · exact ⟨e, List.mem_cons_of_mem _ he, hsame ▸ hne⟩
        · exact ⟨d, List.mem_cons_self, by simpa [hkind] using Ne.symm hsame⟩
      · intro h
        obtain ⟨e, he, hne⟩ := h kind
        rcases List.mem_cons.mp he with rfl | he
        · exact (hne hkind).elim
        · exact ⟨e, he, hne⟩

end Data

namespace Config

/-- A step fails without a message. -/
def BreaksOff {α : Type} (step : Except ConfigFault α) : Prop :=
  ∃ fault, step = .error fault ∧ fault.message? = none

section Steps

variable {α β : Type}

/-- A step that succeeds does not break off. -/
theorem not_breaksOff_ok (a : α) : ¬ BreaksOff (.ok a : Except ConfigFault α) := by
  rintro ⟨fault, ⟨⟩, -⟩

/-- A step that fails breaks off just if its fault has no message. -/
theorem breaksOff_error_iff {fault : ConfigFault} :
    BreaksOff (.error fault : Except ConfigFault α) ↔ fault.message? = none := by
  simp [BreaksOff]

/-- A step that fails with a message does not break off. -/
theorem not_breaksOff_error {fault : ConfigFault} {detail : String}
    (h : fault.detail? = some detail) : ¬ BreaksOff (.error fault : Except ConfigFault α) := by
  simp [breaksOff_error_iff, ConfigFault.message?, h]

/-- Steps one after another break off as the first does, or as the second does on its result. -/
theorem breaksOff_bind_iff {step : Except ConfigFault α} {next : α → Except ConfigFault β} :
    BreaksOff (step >>= next) ↔
      BreaksOff step ∨ ∃ a, step = .ok a ∧ BreaksOff (next a) := by
  cases step with
  | error fault => simp [BreaksOff, bind, Except.bind]
  | ok a => simp [BreaksOff, bind, Except.bind]

/-- A step whose faults are told with messages does not break off. -/
theorem not_breaksOff_mapError {Fault : Type} {step : Except Fault α} {tell : Fault → ConfigFault}
    (htell : ∀ fault, (tell fault).message? ≠ none) : ¬ BreaksOff (step.mapError tell) := by
  rintro ⟨fault, hfault, hnone⟩
  obtain ⟨fault', -, rfl⟩ := Outcome.mapError_eq_error_iff.mp hfault
  exact htell fault' hnone

end Steps

/-- The keys of a document that mean nothing have no order: there are several, and they are not all
of one kind that has an order. -/
def Document.HasUnorderedKeys (doc : Document) : Prop :=
  1 < doc.unknownKeys.length ∧
    ∀ kind : OrderKind, ∃ key ∈ doc.unknownKeys, key.orderKind? ≠ some kind

/-- The version of a document is a collection. -/
def Document.HasCompoundVersion (doc : Document) : Prop :=
  ∃ version ∈ doc.get? "version", (∃ items, version = .list items) ∨
    (∃ entries, version = .mapping entries) ∨ ∃ isMapping, version = .loop isMapping

section Documents

variable {doc : Document} {key : String}

/-- The check of keys passes just if there are none that mean nothing. -/
theorem checkKeys_eq_ok_iff_unknownKeys {u : Unit} :
    checkKeys doc = .ok u ↔ doc.unknownKeys = [] := by
  unfold checkKeys
  split
  next hnil => simp [hnil]
  next hcons =>
    refine iff_of_false ?_ hcons
    split <;> simp

/-- The check of keys breaks off just if those that mean nothing have no order. -/
theorem breaksOff_checkKeys_iff : BreaksOff (checkKeys doc) ↔ doc.HasUnorderedKeys := by
  rw [Document.HasUnorderedKeys, ← Data.areComparable_eq_false_iff]
  unfold checkKeys
  split
  next hnil => simp [hnil, not_breaksOff_ok, Data.areComparable]
  next =>
    rw [Data.sorted?]
    cases Data.areComparable doc.unknownKeys with
    | true => exact iff_of_false (not_breaksOff_error rfl) (by decide)
    | false => exact iff_of_true (breaksOff_error_iff.mpr rfl) rfl

/-- The check of the version breaks off just if that is a collection. -/
theorem breaksOff_checkVersion_iff : BreaksOff (checkVersion doc) ↔ doc.HasCompoundVersion := by
  unfold checkVersion Document.HasCompoundVersion
  split
  next hget => simp [hget, not_breaksOff_ok]
  -- lists, mappings and loops
  next items hget => exact iff_of_true (breaksOff_error_iff.mpr rfl) ⟨_, hget, .inl ⟨items, rfl⟩⟩
  next entries hget =>
    exact iff_of_true (breaksOff_error_iff.mpr rfl) ⟨_, hget, .inr (.inl ⟨entries, rfl⟩)⟩
  next isMapping hget =>
    exact iff_of_true (breaksOff_error_iff.mpr rfl) ⟨_, hget, .inr (.inr ⟨isMapping, rfl⟩)⟩
  next version hlist hmapping hloop hget =>
    have hne (items : List Data) : version ≠ .list items := hlist items
    have hne' (entries : List (Data × Data)) : version ≠ .mapping entries := hmapping entries
    have hne'' (isMapping : Bool) : version ≠ .loop isMapping := hloop isMapping
    simp only [hget, Option.mem_some_iff, exists_eq_left', hne, hne', hne'', exists_false, or_self,
      iff_false]
    split
    · exact not_breaksOff_ok ()
    · exact not_breaksOff_error rfl

/-- A setting that is no list of texts is refused with a message. -/
theorem not_breaksOff_textsOf : ¬ BreaksOff (textsOf doc key) := by
  unfold textsOf
  split
  · exact not_breaksOff_ok _
  · exact not_breaksOff_ok _
  · split
    · exact not_breaksOff_ok _
    · exact not_breaksOff_error rfl
  · exact not_breaksOff_error rfl

/-- Switches that are no mapping are refused with a message. -/
theorem not_breaksOff_switchesOf : ¬ BreaksOff (switchesOf doc) := by
  unfold switchesOf
  split
  · exact not_breaksOff_ok _
  · exact not_breaksOff_ok _
  · exact not_breaksOff_ok _
  · split
    · exact not_breaksOff_ok _
    · exact not_breaksOff_error rfl

/-- Rules that make no sense are refused with a message. -/
theorem not_breaksOff_rulesOf : ¬ BreaksOff (rulesOf doc) := by
  have htell (fault : RuleFault) : (ConfigFault.badRules fault).message? ≠ none := by
    simp [ConfigFault.message?, ConfigFault.detail?]
  simp only [rulesOf, breaksOff_bind_iff, not_breaksOff_switchesOf, not_breaksOff_textsOf,
    not_breaksOff_mapError htell, and_false, exists_false, or_self, not_false_eq_true]

/-- The name of an ignore file that is no text is refused with a message. -/
theorem not_breaksOff_ignoreFileOf : ¬ BreaksOff (ignoreFileOf doc) := by
  unfold ignoreFileOf
  split
  · exact not_breaksOff_ok _
  · exact not_breaksOff_ok _
  · exact not_breaksOff_ok _
  · exact not_breaksOff_error rfl

/-- Extensions that no dialect has are refused with a message. -/
theorem not_breaksOff_extensionsOf : ¬ BreaksOff (extensionsOf doc) := by
  rw [extensionsOf, breaksOff_bind_iff]
  rintro (htexts | ⟨listed, -, hlisted⟩)
  · exact not_breaksOff_textsOf htexts
  · split at hlisted
    · exact not_breaksOff_error rfl hlisted
    · exact not_breaksOff_ok _ hlisted

/-- The check of a document breaks off just if that of its keys does, or if all of them mean
something and that of its version does. -/
theorem breaksOff_ofDocument_iff :
    BreaksOff (ofDocument doc) ↔
      doc.HasUnorderedKeys ∨ doc.unknownKeys = [] ∧ doc.HasCompoundVersion := by
  have hpure (config : Config) : ¬ BreaksOff (pure config) := not_breaksOff_ok config
  simp only [ofDocument, breaksOff_bind_iff, breaksOff_checkKeys_iff, breaksOff_checkVersion_iff,
    not_breaksOff_rulesOf, not_breaksOff_ignoreFileOf, not_breaksOff_extensionsOf,
    not_breaksOff_textsOf, hpure, and_false, exists_false, or_false, exists_const,
    checkKeys_eq_ok_iff_unknownKeys]

end Documents

/-- The check of a configuration breaks off just if it is a document whose keys that mean nothing
have no order, or a document without such keys whose version is a collection. -/
theorem breaksOff_ofData_iff {d : Data} :
    BreaksOff (ofData d) ↔ ∃ doc : Document, d = .mapping doc ∧
      (doc.HasUnorderedKeys ∨ doc.unknownKeys = [] ∧ doc.HasCompoundVersion) := by
  unfold ofData
  split
  next => simp [not_breaksOff_ok]
  next doc => simp [breaksOff_ofDocument_iff]
  next hnull hmapping =>
    refine iff_of_false (not_breaksOff_error rfl) ?_
    rintro ⟨doc, hdoc, -⟩
    exact hmapping doc hdoc

/-- A run is configured by what the text of its configuration file stands for. -/
def Configures (tree : Directory) (request : Command.Request) (d : Data) : Prop :=
  ∃ path text, path? tree request.root request.config = some path ∧
    tree.text (Path.segments path) = .ok text ∧ Yaml.read text = .ok d

/-- The configuration of a run is that of what configures the run. -/
theorem resolve_of_configures {tree : Directory} {request : Command.Request} {d : Data}
    (hd : Configures tree request d) :
    resolve tree request.root request.config = (ofData d).mapError .badDocument := by
  obtain ⟨path, text, hpath, htext, hread⟩ := hd
  have htext' : ofText text = (ofData d).mapError .badDocument := by
    rw [ofText, hread]
    rfl
  rw [resolve, hpath]
  simp only [load, htext]
  exact htext'

/-- The configuration of a run fails as what configures the run does. -/
theorem resolve_eq_error {tree : Directory} {request : Command.Request} {d : Data}
    {fault : ConfigFault} (hd : Configures tree request d) (hfault : ofData d = .error fault) :
    resolve tree request.root request.config = .error (.badDocument fault) := by
  rw [resolve_of_configures hd, hfault]
  rfl

end Config

namespace Command

section Validate

variable {tree : Directory} {colour verbose : Bool} {request : Request} {fault : ConfigFileFault}

/-- A run whose configuration is refused with a message writes it and exits with status two. -/
theorem validate_of_message [CharacterNames] {message : String}
    (hfault : Config.resolve tree request.root request.config = .error fault)
    (hmessage : fault.message? = some message) :
    validate tree colour verbose request = .ok ⟨2, "", "Error: " ++ message ++ "\n"⟩ := by
  have hconfig : configOf tree request = .error fault := by
    rw [configOf, hfault]
    rfl
  rw [validate, hconfig]
  simp [hmessage, refusal, Log.text]

/-- A run whose configuration is refused without a message fails. -/
theorem validate_of_no_message [CharacterNames]
    (hfault : Config.resolve tree request.root request.config = .error fault)
    (hmessage : fault.message? = none) :
    validate tree colour verbose request = .error (.config fault) := by
  have hconfig : configOf tree request = .error fault := by
    rw [configOf, hfault]
    rfl
  rw [validate, hconfig]
  simp [hmessage]

/-- A command line that asks for a run is answered by the run. -/
theorem run_eq_validate [CharacterNames] {args : List String}
    (hargs : Invocation.read tree args = .ok (.validate verbose request)) :
    run tree colour args = validate tree colour verbose request := by
  rw [run, hargs]

end Validate

end Command

namespace Config

open ModuleLint.Command (Invocation Request run)

/-- The check of a configuration breaks off just if it is a document whose keys that mean nothing
have no order, or a document without such keys whose version is a collection. Any other
configuration is accepted, or refused with a message; a run that it configures then has no
configuration, and the program writes the message as an error and exits with status two. Only where
the check breaks off does the program fail without an answer. -/
theorem refused_with_message_iff [CharacterNames] (d : Data) :
    ((∃ config, ofData d = .ok config) ∨
      (∃ fault message, ofData d = .error fault ∧ fault.message? = some message) ↔
        ¬ ∃ doc : Document, d = .mapping doc ∧
          (doc.HasUnorderedKeys ∨ doc.unknownKeys = [] ∧ doc.HasCompoundVersion)) ∧
    ∀ (tree : Directory) (args : List String) (colour verbose : Bool) (request : Request)
      (fault : ConfigFault), Invocation.read tree args = .ok (.validate verbose request) →
      Configures tree request d → ofData d = .error fault →
        resolve tree request.root request.config = .error (.badDocument fault) ∧
        (∀ message, fault.message? = some message → run tree colour args =
          .ok ⟨2, "", "Error: Invalid configuration: " ++ message ++ "\n"⟩) ∧
        (fault.message? = none → run tree colour args = .error (.config (.badDocument fault))) := by
  constructor
  · rw [← breaksOff_ofData_iff]
    cases hd : ofData d with
    | ok config => simp [not_breaksOff_ok]
    | error fault => simp [breaksOff_error_iff, Option.ne_none_iff_exists']
  · intro tree args colour verbose request fault hargs hconfigures hfault
    have hresolve := resolve_eq_error hconfigures hfault
    refine ⟨hresolve, ?_, ?_⟩
    · intro message hmessage
      have htold : (ConfigFileFault.badDocument fault).message? =
          some ("Invalid configuration: " ++ message) := by
        simp [ConfigFileFault.message?, ConfigFileFault.detail?, hmessage]
      have hline : "Error: " ++ ("Invalid configuration: " ++ message) ++ "\n" =
          "Error: Invalid configuration: " ++ message ++ "\n" := by
        rw [← String.append_assoc]
        rfl
      rw [Command.run_eq_validate hargs, Command.validate_of_message hresolve htold, hline]
    · intro hmessage
      have htold : (ConfigFileFault.badDocument fault).message? = none := by
        simp [ConfigFileFault.message?, ConfigFileFault.detail?, hmessage]
      rw [Command.run_eq_validate hargs, Command.validate_of_no_message hresolve htold]

example : ofData (.mapping [(.text "b", .null), (.int 1, .null)]) = .error .unorderedKeys := by
  cbv

/-- A project whose configuration file has a version that is not supported. -/
def outdatedProject : Directory :=
  [(fileName, .file (Text.Utf8.encode "\"version\": \"7\"\n"))]

/-- What configures that project. -/
def outdatedData : Data := .mapping [(.text "version", .text "7")]

/-- The version of that project is refused with a message, which the program writes before it exits
with status two. -/
theorem refused_with_message_iff_outdated :
    Invocation.read outdatedProject ["validate"] = .ok (.validate false {}) ∧
      Configures outdatedProject {} outdatedData ∧
      ofData outdatedData = .error (.unsupportedVersion (.text "7")) ∧
      run outdatedProject false ["validate"] = .ok ⟨2, "", "Error: Invalid configuration: " ++
        ".structlint.yml: unsupported version 7, expected one of [1]" ++ "\n"⟩ := by
  have hargs : Invocation.read outdatedProject ["validate"] = .ok (.validate false {}) := by cbv
  have hconfigures : Configures outdatedProject {} outdatedData :=
    ⟨".structlint.yml", "\"version\": \"7\"\n", by decide +kernel, by cbv, by cbv⟩
  have hfault : ofData outdatedData = .error (.unsupportedVersion (.text "7")) := rfl
  have hmessage : (ConfigFault.unsupportedVersion (.text "7")).message? =
      some ".structlint.yml: unsupported version 7, expected one of [1]" := by decide +kernel
  obtain ⟨-, htold, -⟩ := (refused_with_message_iff _).2 _ _ false _ _ _ hargs hconfigures hfault
  exact ⟨hargs, hconfigures, hfault, htold _ hmessage⟩

/-- Not every configuration is accepted or refused with a message: a version that is a list is
neither. -/
theorem not_forall_refused_with_message :
    ¬ ∀ d, (∃ config, ofData d = .ok config) ∨
      ∃ fault message, ofData d = .error fault ∧ fault.message? = some message := by
  intro h
  have hfault : ofData (.mapping [(.text "version", .list [.int 1])]) = .error .unusableVersion :=
    rfl
  obtain ⟨config, hconfig⟩ | ⟨fault, message, hfault', hmessage⟩ :=
    h (.mapping [(.text "version", .list [.int 1])])
  · rw [hfault] at hconfig
    cases hconfig
  · rw [hfault] at hfault'
    cases hfault'
    cases hmessage

end Config

end ModuleLint
