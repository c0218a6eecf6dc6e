import ModuleLint.Report
import ModuleLint.Report.Highlight

/-!
# Reports for a terminal

A report as text for people: how much was found, each finding with the lines around it, and
how the run ended. Colour is optional and says nothing that the text does not say.
-/

namespace ModuleLint.Report.Terminal

/-- A count with its noun. -/
def counted (n : Int) (noun : String) : String :=
  toString n ++ " " ++ noun ++ (if n = 1 then "" else "s")

/-- The mark of a severity. -/
def mark (severity : String) : String :=
  if severity == Severity.error.word then "✖"
  else if severity == Severity.warning.word then "⚠" else "?"

/-- The colour of a severity. -/
def colour (severity : String) : Colour :=
  if severity == Severity.error.word then .red
  else if severity == Severity.warning.word then .yellow else .white

/-- Dim letters. -/
def dim : Style := { dim := true }

/-- One row of a snippet. The row that the finding is about stands out; a row without a bar
between number and code is shown as it is. -/
def snippetRow (severity : String) (row : List Char) : StyledText :=
  let indent := Piece.of .plain "    "
  match Text.cutAt? " | ".toList row with
  | none => [indent, ⟨dim, row⟩]
  | some (number, code) =>
    let isTarget := row.head? == some '>'
    let style := if isTarget then Style.boldIn (colour severity) else dim
    [indent, ⟨style, number ++ " | ".toList⟩] ++ Highlight.highlight (!isTarget) code

/-- The rows of a snippet. Nothing is shown of an empty one. -/
def snippetRows (f : Finding) : List StyledText :=
  match f.snippet with
  | none => []
  | some "" => []
  | some snippet => (Text.split '\n' snippet.toList).map (snippetRow f.severity)

/-- Where a finding lies. -/
def location (f : Finding) : String :=
  match f.line with
  | none => f.file
  | some line => f.file ++ ":" ++ toString line

/-- What a finding says. -/
def message (f : Finding) : StyledText :=
  [Piece.of .plain "  ", Piece.of { colour := some (colour f.severity) } (mark f.severity ++ " "),
    Piece.of .plain f.message, Piece.of dim (" [" ++ f.rule ++ "]")]

/-- A finding, and an empty line. -/
def finding (f : Finding) : List StyledText :=
  [[Piece.of (.boldIn .cyan) (location f)], message f] ++ snippetRows f ++ [[]]

/-- Findings under a title, which has the colour of the first of them. -/
def section_ (title : String) : List Finding → List StyledText
  | [] => []
  | f :: fs =>
    [[Piece.of (.boldIn (colour f.severity))
      (title ++ " (" ++ toString (f :: fs).length ++ ")")], []] ++ (f :: fs).flatMap finding

/-- How much was found, and all findings. -/
def findings (r : Report) : List StyledText :=
  if r.findings.isEmpty then []
  else
    [[Piece.of { bold := true } ("Found " ++ counted r.errors.length "error" ++ " and " ++
      counted r.warnings.length "warning")], []] ++
      section_ "Errors" r.errors ++ section_ "Warnings" r.warnings

/-- How the run ended. -/
def outcome (r : Report) (strict : Bool) : List StyledText :=
  if !r.isValid then [[Piece.of (.boldIn .red) "✖ Validation failed"]]
  else if r.warnings.isEmpty then [[Piece.of (.boldIn .green) "✓ All checks passed"]]
  else
    [Piece.of (.boldIn .yellow) "⚠ Validation completed with warnings"] ::
      if strict then [] else [[Piece.of dim "Use --strict to treat warnings as errors"]]

/-- How much was looked at. -/
def scope (r : Report) : StyledText :=
  [Piece.of dim ("Checked " ++ counted r.checkedFiles "file" ++ " in " ++
    counted r.modules.length "module")]

/-- The texts of a report. -/
def texts (r : Report) (strict : Bool) : List StyledText :=
  findings r ++ scope r :: outcome r strict

end Terminal

/-- The report for a terminal. -/
def forTerminal (r : Report) (strict colour : Bool) : String :=
  let written := (Terminal.texts r strict).flatMap (StyledText.write colour)
  String.ofList (Text.dropEndWhile (· == '\n') written)

end ModuleLint.Report
