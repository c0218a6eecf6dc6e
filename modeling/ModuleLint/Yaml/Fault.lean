import ModuleLint.Text.Quoted

/-!
# What is wrong with a YAML text

A text may not be well formed, which includes tags that nothing is known of. A well-formed text
may still hold a scalar that does not suit its tag.
-/

namespace ModuleLint.Yaml

/-- Why a text is not well formed. -/
inductive Malformation
  /-- A character that no text may hold. -/
  | unprintable (c : Char)
  /-- A character that can begin nothing where it stands. -/
  | unexpectedCharacter (c : Char)
  /-- A quoted scalar does not end. -/
  | unclosedQuote
  /-- A backslash is followed by no known escape. -/
  | unknownEscape
  /-- An anchor, an alias or a tag is not written as one. -/
  | badName
  /-- The first line of a block scalar is not written as one. -/
  | badBlockHeader
  /-- A directive is not written as one, or is repeated. -/
  | badDirective
  /-- A key lacks its colon. -/
  | missingColon
  /-- An item, a key or a value stands where none can. -/
  | misplaced
  /-- A bracket closes nothing. -/
  | unmatchedBracket
  /-- A piece of the text stands where none of its kind can. -/
  | unexpectedPiece
  /-- An alias has no anchor. -/
  | undefinedAnchor (name : String)
  /-- Two nodes have one anchor. -/
  | repeatedAnchor (name : String)
  /-- The handle of a tag stands for nothing. -/
  | undefinedHandle (handle : String)
  /-- A second document begins. -/
  | secondDocument
  /-- Nothing is known of a tag. -/
  | unknownTag (tag : String)
  /-- A tag is given to a node of another kind. -/
  | unsuitableTag
  /-- A key is a collection. -/
  | compoundKey
  /-- What is merged into a mapping is no mapping. -/
  | badMerge
  /-- Binary data is not written as such. -/
  | badBinary
  deriving Repr

/-- The wording of a malformation. -/
def Malformation.message : Malformation → String
  | unprintable c => "a text cannot hold the character " ++ Text.quoted (String.singleton c)
  | unexpectedCharacter c =>
    "the character " ++ Text.quoted (String.singleton c) ++ " can begin nothing here"
  | unclosedQuote => "a quoted scalar does not end"
  | unknownEscape => "a backslash is followed by no known escape"
  | badName => "an anchor, alias or tag is not written as one"
  | badBlockHeader => "the first line of a block scalar is not written as one"
  | badDirective => "a directive is not written as one, or is repeated"
  | missingColon => "a key lacks its colon"
  | misplaced => "an item, key or value cannot stand here"
  | unmatchedBracket => "a bracket closes nothing"
  | unexpectedPiece => "this cannot stand here"
  | undefinedAnchor name => "nothing has the anchor " ++ Text.quoted name
  | repeatedAnchor name => "two nodes have the anchor " ++ Text.quoted name
  | undefinedHandle handle => "the tag handle " ++ Text.quoted handle ++ " stands for nothing"
  | secondDocument => "a second document begins"
  | unknownTag tag => "nothing is known of the tag " ++ Text.quoted tag
  | unsuitableTag => "a tag is given to a node of another kind"
  | compoundKey => "a key is a collection"
  | badMerge => "only mappings can be merged into a mapping"
  | badBinary => "binary data is not written as such"

/-- What is wrong with the numbers of a day or a time. -/
inductive CalendarFault
  | year (n : Nat)
  | month
  | day
  | hour
  | minute
  | second
  /-- The clock is a day or more ahead, or a day or more behind. -/
  | offset (seconds : Int)
  deriving Repr

/-- A span of seconds as a message shows it. -/
def spanShown (span : Int) : String :=
  let days := Int.fdiv span 86400
  let seconds := Int.fmod span 86400
  let parts := (if days = 0 then [] else ["days=" ++ toString days]) ++
    (if seconds = 0 then [] else ["seconds=" ++ toString seconds])
  "datetime.timedelta(" ++ (if parts.isEmpty then "0" else ", ".intercalate parts) ++ ")"

/-- The wording of a calendar fault. -/
def CalendarFault.message : CalendarFault → String
  | year n => "year " ++ toString n ++ " is out of range"
  | month => "month must be in 1..12"
  | day => "day is out of range for month"
  | hour => "hour must be in 0..23"
  | minute => "minute must be in 0..59"
  | second => "second must be in 0..59"
  | offset seconds =>
    "offset must be a timedelta strictly between -timedelta(hours=24) and " ++
      "timedelta(hours=24), not " ++ spanShown seconds ++ "."

/-- What is wrong with a text. -/
inductive Fault
  /-- The text is not well formed. -/
  | malformed (m : Malformation)
  /-- An integer is not written as one in its base. -/
  | notInteger (base : Nat) (text : String)
  /-- A number is not written as one. -/
  | notNumber (text : String)
  /-- A day or a time does not exist. -/
  | calendar (fault : CalendarFault)
  /-- An escape stands for no character. -/
  | noCharacter
  /-- The number of an escape is beyond all bounds. -/
  | escapeOverflow
  /-- A truth value is not written as one. -/
  | notTruth
  /-- A number has no digits. -/
  | emptyNumber
  /-- A time is not written as one. -/
  | notTime
  deriving Repr

/-- The wording of a fault that has one. -/
def Fault.message? : Fault → Option String
  | malformed m => some m.message
  | notInteger base text =>
    some ("invalid literal for int() with base " ++ toString base ++ ": " ++ Text.quoted text)
  | notNumber text => some ("could not convert string to float: " ++ Text.quoted text)
  | calendar fault => some fault.message
  | noCharacter => some "chr() arg not in range(0x110000)"
  | escapeOverflow | notTruth | emptyNumber | notTime => none

end ModuleLint.Yaml
