import ModuleLint.Data.Order
import ModuleLint.Discovery
import ModuleLint.RuleSet
import ModuleLint.TypeScript.Reader

/-!
# Configurations

A configuration document is a mapping of settings: which rules run, what is looked for, and
what is ignored. What is wrong with a document is found in a fixed order: keys that mean
nothing, the version, the rules, the ignore file, the extensions, the ignore lines.
-/

namespace ModuleLint

/-- Everything that a run needs besides the project. -/
structure Config where
  /-- The rules that run. -/
  rules : RuleSet := {}
  /-- What is looked for and what is ignored. -/
  discovery : Discovery.Settings := {}
  deriving DecidableEq, Repr

/-- What is wrong with a configuration document. -/
inductive ConfigFault
  /-- The document is no mapping. -/
  | notMapping
  /-- Keys mean nothing. -/
  | unknownKeys (keys : List Data)
  /-- Keys mean nothing and have no order in which to name them. -/
  | unorderedKeys
  /-- The version is not supported. -/
  | unsupportedVersion (version : Data)
  /-- The version is a value that cannot be looked up at all. -/
  | unusableVersion
  /-- The switches of the rules are no mapping. -/
  | rulesNotMapping
  /-- A setting is no list of texts. -/
  | notTexts (key : String)
  /-- The rules are switched in a way that makes no sense. -/
  | badRules (fault : RuleFault)
  /-- The name of the ignore file is no text. -/
  | badIgnoreFile
  /-- Files with an extension cannot be parsed. -/
  | unsupportedExtension (extension : String)
  deriving Repr

namespace Config

/-- The name of the configuration file of a project. -/
def fileName : String := ".structlint.yml"

/-- The keys of a configuration document. -/
def knownKeys : List String :=
  ["version", "rules", "disable", "ignore", "ignore_file", "extensions"]

end Config

/-- What a fault's message says of the document, unless the fault has no message. -/
def ConfigFault.detail? : ConfigFault → Option String
  | notMapping => some " must be a YAML mapping"
  | unknownKeys keys => some (": unknown key(s): " ++ commaJoined (keys.map Data.plain))
  | unsupportedVersion version =>
    some (": unsupported version " ++ version.plain ++ ", expected one of [1]")
  | rulesNotMapping => some ": 'rules' must be a mapping of rule family to true/false"
  | notTexts key => some (": '" ++ key ++ "' must be a list of strings")
  | badRules fault => some (": " ++ fault.message)
  | badIgnoreFile => some ": 'ignore_file' must be a string or null"
  | unsupportedExtension extension =>
    some (": unsupported extension '" ++ extension ++ "', must be one of " ++
      (Data.list (TypeScript.Dialect.extensions.map .text)).shown)
  | unorderedKeys | unusableVersion => none

/-- The wording of a fault, if it has one. -/
def ConfigFault.message? (fault : ConfigFault) : Option String :=
  fault.detail?.map fun detail => Config.fileName ++ detail

namespace Config

/-- The entries of a document by key. -/
abbrev Document := List (Data × Data)

/-- The value of a key, if the document has it. -/
def Document.get? (doc : Document) (key : String) : Option Data :=
  (doc.find? fun e => e.1.text? == some key).map (·.2)

/-- The keys of a document that mean nothing. -/
def Document.unknownKeys (doc : Document) : List Data :=
  (doc.map (·.1)).filter fun k => !(k.text?.any knownKeys.contains)

/-- Refuses a document with keys that mean nothing. -/
def checkKeys (doc : Document) : Except ConfigFault Unit :=
  match doc.unknownKeys with
  | [] => .ok ()
  | keys =>
    match Data.sorted? keys with
    | some keys => .error (.unknownKeys keys)
    | none => .error .unorderedKeys

/-- Refuses a version other than one. A document without a version has version one. -/
def checkVersion (doc : Document) : Except ConfigFault Unit :=
  match doc.get? "version" with
  | none => .ok ()
  | some (.list _) => .error .unusableVersion
  | some (.mapping _) => .error .unusableVersion
  | some (.loop _) => .error .unusableVersion
  | some version => if version.isOne then .ok () else .error (.unsupportedVersion version)

/-- The texts of a list that holds nothing else. -/
def allTexts? : List Data → Option (List String)
  | [] => some []
  | d :: ds =>
    match d.text?, allTexts? ds with
    | some s, some rest => some (s :: rest)
    | _, _ => none

/-- The texts listed under a key, none if the key is missing or null. -/
def textsOf (doc : Document) (key : String) : Except ConfigFault (List String) :=
  match doc.get? key with
  | none => .ok []
  | some .null => .ok []
  | some (.list items) =>
    match allTexts? items with
    | some texts => .ok texts
    | none => .error (.notTexts key)
  | some _ => .error (.notTexts key)

/-- The document with itself in place of the values that lead back to it. -/
def Document.unrolled (doc : Document) : Document :=
  doc.map fun (key, value) =>
    match value with
    | .loop true => (key, .mapping doc)
    | value => (key, value)

/-- The switches of the rules. A value that counts as nothing switches nothing, and rules that lead
back to the document are the document. -/
def switchesOf (doc : Document) : Except ConfigFault (List (Data × Data)) :=
  match doc.get? "rules" with
  | none => .ok []
  | some (.mapping switches) => .ok switches
  | some (.loop true) => .ok doc.unrolled
  | some d => if d.isBlank then .ok [] else .error .rulesNotMapping

/-- The rules that a document asks for. -/
def rulesOf (doc : Document) : Except ConfigFault RuleSet := do
  let switches ← switchesOf doc
  let disabled ← textsOf doc "disable"
  let rules ← (RuleSet.ofSwitches switches).mapError .badRules
  (rules.without disabled).mapError .badRules

/-- The ignore file that a document asks for. -/
def ignoreFileOf (doc : Document) : Except ConfigFault (Option String) :=
  match doc.get? "ignore_file" with
  | none => .ok (some Discovery.defaultIgnoreFile)
  | some .null => .ok none
  | some (.text name) => .ok (some name)
  | some _ => .error .badIgnoreFile

/-- The extensions that a document asks for, the default ones if it lists none. -/
def extensionsOf (doc : Document) : Except ConfigFault (List String) := do
  let listed ← textsOf doc "extensions"
  match listed.find? fun e => !TypeScript.Dialect.extensions.contains e with
  | some e => throw (.unsupportedExtension e)
  | none => return if listed.isEmpty then Grouping.defaultExtensions else listed

/-- The configuration that a mapping describes. -/
def ofDocument (doc : Document) : Except ConfigFault Config := do
  checkKeys doc
  checkVersion doc
  let rules ← rulesOf doc
  let ignoreFile ← ignoreFileOf doc
  let extensions ← extensionsOf doc
  let ignore ← textsOf doc "ignore"
  return ⟨rules, ⟨extensions, ignoreFile, ignore⟩⟩

/-- The configuration that a document describes. An empty document describes the default. -/
def ofData : Data → Except ConfigFault Config
  | .null => .ok {}
  | .mapping doc => ofDocument doc
  | _ => .error .notMapping

end Config

end ModuleLint
