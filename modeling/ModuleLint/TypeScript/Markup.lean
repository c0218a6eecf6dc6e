import ModuleLint.TypeScript.Expression

/-!
# Markup elements

Elements that stand for expressions: a tag with attributes, and text, expressions in braces and
further elements between it and its closing tag.
-/

namespace ModuleLint.TypeScript

open ModuleLint.Syntax ModuleLint.TypeScript.Parser

/-- A character of the name of an element or attribute. -/
def isElementNamePart (c : Char) : Bool :=
  isNamePart c || c == '-' || c == '.' || c == ':'

/-- The name of an element or attribute. -/
def elementName : Parser Unit := do
  blank
  charWhere isNameStart
  skipWhile isElementNamePart

/-- An expression in braces, which may be missing. -/
def bracedExpression (inner : Inner) : Parser (List Outline) :=
  between "\x7b" "\x7d" do
    let _ ← optional (mark "...")
    maybe (one (inner .expression))

/-- A string in a tag, which knows no escapes. -/
def attributeString : Parser Unit := do
  blank
  match ← peek? with
  | some c => do
    require (c == '\'' || c == '"')
    advance 1
    skipWhile (· != c)
    advance 1
  | none => failure

/-- An attribute of a tag. -/
def tagAttribute (inner : Inner) : Parser (List Outline) :=
  bracedExpression inner <|> (do
    elementName
    maybe do
      mark "="
      (attributeString *> pure []) <|> bracedExpression inner <|> one (inner .element))

/-- What stands between an element's tags. -/
def elementContent (inner : Inner) : Parser (List Outline) :=
  manyOutlines do
    match ← peek? with
    | none => failure
    | some '\x7b' => bracedExpression inner
    | some '<' => do
      require (!(← seesMark "</"))
      one (inner .element)
    | some _ => do
      skipWhile fun c => c != '<' && c != '\x7b'
      return []

/-- A markup element. -/
def elementNode (inner : Inner) : Parser Outline :=
  node .other do
    mark "<"
    if ← seesMark ">" then do
      mark ">"
      let content ← elementContent inner
      closingTag
      return content
    else do
      elementName
      let types ← maybe (typeArguments inner)
      let attributes ← manyOutlines (tagAttribute inner)
      if ← seesMark "/>" then do
        mark "/>"
        return types ++ attributes
      else do
        mark ">"
        let content ← elementContent inner
        closingTag
        return types ++ attributes ++ content
where
  /-- A closing tag. -/
  closingTag : Parser Unit := do
    mark "<"
    mark "/"
    let _ ← optional elementName
    mark ">"

end ModuleLint.TypeScript
