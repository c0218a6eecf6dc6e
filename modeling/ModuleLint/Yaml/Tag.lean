import ModuleLint.Yaml.Number
import ModuleLint.Yaml.Time

/-!
# Tags

A tag says what kind of value a node stands for. A plain scalar without a tag has the tag that
its text suggests, and every other node without a tag that of texts, sequences or mappings.
-/

namespace ModuleLint.Yaml

/-- What a node stands for. -/
inductive Tag
  | null
  | bool
  | int
  | float
  | binary
  | time
  /-- A list of pairs, whose order matters. -/
  | orderedMapping
  /-- A list of pairs. -/
  | pairs
  | set
  | text
  | sequence
  | mapping
  /-- The key that merges other mappings into one. -/
  | merge
  /-- The key of what a mapping stands for as a scalar. -/
  | value
  /-- A tag that nothing is known of. -/
  | other (name : String)
  deriving DecidableEq, Repr, Inhabited

/-- What the names of the known tags begin with. -/
def tagNamespace : String := "tag:yaml.org,2002:"

namespace Tag

/-- The known tags by what follows the namespace in their names. -/
def known : List (String × Tag) :=
  [("null", null), ("bool", bool), ("int", int), ("float", float), ("binary", binary),
    ("timestamp", time), ("omap", orderedMapping), ("pairs", pairs), ("set", set), ("str", text),
    ("seq", sequence), ("map", mapping), ("merge", merge), ("value", value)]

/-- The tag with a name. -/
def ofName (name : String) : Tag :=
  ((known.find? fun k => tagNamespace ++ k.1 == name).map (·.2)).getD (other name)

/-- The spellings of truth values. -/
def truthWords : List String :=
  ["yes", "Yes", "YES", "no", "No", "NO", "true", "True", "TRUE", "false", "False", "FALSE", "on",
    "On", "ON", "off", "Off", "OFF"]

/-- The spellings of nothing. -/
def nullWords : List String := ["", "~", "null", "Null", "NULL"]

/-- The tag that the text of a plain scalar suggests. -/
def ofPlain (text : String) : Tag :=
  let cs := text.toList
  if truthWords.contains text then bool
  else if isFractional cs then float
  else if isInteger cs then int
  else if text == "<<" then merge
  else if nullWords.contains text then null
  else if isTime cs then time
  else if text == "=" then value
  else if text == "!" || text == "&" || text == "*" then other (tagNamespace ++ "yaml")
  else Tag.text

end Tag

end ModuleLint.Yaml
