import ModuleLint.TypeScript.Statement

/-!
# Reading TypeScript

The syntax tree of a TypeScript source text. The grammar is a system of parsers for phrases
that refer to each other; a phrase inside a phrase is read with one unit of fuel less, and as
each begins behind at least one character of the phrase around it or takes a step towards an
operand, a few units per character are enough.
-/

namespace ModuleLint.TypeScript

open ModuleLint.Syntax ModuleLint.TypeScript.Parser

/-- The dialects of the language. -/
inductive Dialect
  /-- Plain sources. -/
  | plain
  /-- Sources in which markup elements are expressions. -/
  | markup
  deriving DecidableEq, Repr

/-- The dialect of files with the given extension. -/
def Dialect.ofExtension? (extension : String) : Option Dialect :=
  if extension = ".ts" then some .plain
  else if extension = ".tsx" then some .markup
  else none

/-- The extensions of files of a known dialect, in order. -/
def Dialect.extensions : List String := [".ts", ".tsx"]

/-- The files of a known dialect are those with one of the listed extensions. -/
theorem Dialect.isSome_ofExtension?_iff (extension : String) :
    (Dialect.ofExtension? extension).isSome ↔ extension ∈ Dialect.extensions := by
  unfold ofExtension? extensions
  by_cases plain : extension = ".ts" <;> by_cases markup : extension = ".tsx" <;>
    simp [plain, markup]

/-- The parser of a phrase, given the parsers of the phrases inside it. -/
def phraseNode (inner : Inner) : Phrase → Parser Outline
  | .statement => statementNode inner
  | .expression => expressionNode inner
  | .assignment => assignmentNode inner (operandNode inner (classExpression inner)) true
  | .plainAssignment => assignmentNode inner (operandNode inner (classExpression inner)) false
  | .operand => operandNode inner (classExpression inner)
  | .type => typeNode inner
  | .binding => bindingNode inner
  | .element => elementNode inner
  | .constructed => chainNode inner (classExpression inner) false

/-- The parser of a phrase in which phrases are nested at most `fuel` deep. -/
def phrase : Nat → Inner
  | 0, _ => failure
  | fuel + 1, p => phraseNode (phrase fuel) p

/-- The first line of a text that names a program to run it with. -/
def interpreterLine : Parser Unit := do
  exact ['#', '!']
  skipWhile fun c => !endsLine c

/-- A whole source text. What is no statement is passed over. -/
def programNode (inner : Inner) : Parser Outline := do
  let start ← place
  let _ ← optional interpreterLine
  let statements ← manyOutlines do
    let before ← comments
    match ← peek? with
    | none => do require (!before.isEmpty); return before
    | some '\x7d' => return before ++ [← strayToken]
    | some _ => return before ++ [← inner .statement <|> strayToken]
  nodeFrom .program start statements

/-- The outline of a source text. -/
def outline (dialect : Dialect) (text : Array Char) : Outline :=
  let fuel := 4 * text.size + 16
  match programNode (phrase fuel) ⟨text, dialect = .markup⟩ 0 with
  | some (o, _) => o
  | none => ⟨.program, none, 0, text.size, []⟩

/-- The syntax tree of a source text. -/
def read (dialect : Dialect) (text : String) : Node :=
  let source := Source.ofList text.toList
  (outline dialect source.text).toNode source

end ModuleLint.TypeScript
