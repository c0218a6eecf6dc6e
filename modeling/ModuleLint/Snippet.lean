import ModuleLint.Finding
import ModuleLint.Text.Lines

/-!
# Snippets

The lines around a finding: the line before it, its own line, and the line after it, each with
its number. A mark stands before the line of the finding itself.
-/

namespace ModuleLint.Snippet

/-- A number at the right end of a column of the given width. -/
def rightAligned (width n : Nat) : List Char :=
  let digits := (toString n).toList
  List.replicate (width - digits.length) ' ' ++ digits

/-- One row of a snippet about the line `target`: the line `number`, which reads `text`. -/
def row (target : Int) (width : Nat) (text : List Char) (number : Nat) : List Char :=
  (if (number : Int) = target then '>' else ' ') :: ' ' :: rightAligned width number ++
    " | ".toList ++ text

/-- The lines from the one before `target` to the one after it, with their numbers. -/
def around (target : Int) (lines : List (List Char)) : List (List Char × Nat) :=
  (lines.zipIdx 1).filter fun l => target - 1 ≤ l.2 && (l.2 : Int) ≤ target + 1

/-- The width of the column of the numbers. -/
def numberWidth (shown : List (List Char × Nat)) : Nat :=
  (shown.getLast?.map fun l => (toString l.2).length).getD 0

/-- The snippet about a line of a text, if there is such a line or the text ends just before
it. Lines are counted from one. -/
def extract (content : String) (target : Int) : Option String :=
  if target < 1 then none
  else
    match around target (Text.split '\n' content.toList) with
    | [] => none
    | shown =>
      let rows := shown.map fun l => row target (numberWidth shown) l.1 l.2
      some (String.ofList (Text.joinWith ['\n'] rows))

/-- A finding with the snippet about its line, where `read` gives the text of a file. A finding
that has a snippet keeps it. -/
def attachTo (read : String → Option String) (f : Finding) : Finding :=
  match f.line, f.snippet with
  | some line, none => { f with snippet := (read f.file).bind fun text => extract text line }
  | _, _ => f

/-- A snippet changes nothing else about a finding. -/
theorem attachTo_eq_withSnippet (read : String → Option String) (f : Finding) :
    ∃ snippet, attachTo read f = { f with snippet } := by
  unfold attachTo
  split
  · exact ⟨_, rfl⟩
  · exact ⟨f.snippet, rfl⟩

@[simp] theorem attachTo_file (read : String → Option String) (f : Finding) :
    (attachTo read f).file = f.file := by
  obtain ⟨snippet, h⟩ := attachTo_eq_withSnippet read f
  rw [h]

@[simp] theorem attachTo_rule (read : String → Option String) (f : Finding) :
    (attachTo read f).rule = f.rule := by
  obtain ⟨snippet, h⟩ := attachTo_eq_withSnippet read f
  rw [h]

@[simp] theorem attachTo_line (read : String → Option String) (f : Finding) :
    (attachTo read f).line = f.line := by
  obtain ⟨snippet, h⟩ := attachTo_eq_withSnippet read f
  rw [h]

@[simp] theorem isError_attachTo (read : String → Option String) (f : Finding) :
    (attachTo read f).isError = f.isError := by
  obtain ⟨snippet, h⟩ := attachTo_eq_withSnippet read f
  rw [h]
  rfl

/-- The texts of the files that were read so far, `none` for a file that cannot be read. -/
abbrev Known := List (String × Option String)

/-- The text of a file, and the texts known then. A file is read only if it was not read before. -/
def readOnce (read : String → Option String) (known : Known) (file : String) :
    Option String × Known :=
  match known.lookup file with
  | some text => (text, known)
  | none => (read file, (file, read file) :: known)

/-- A finding with the snippet about its line, and the texts known then. -/
def attachNext (read : String → Option String) (known : Known) (f : Finding) : Finding × Known :=
  match f.line, f.snippet with
  | some line, none =>
    let (text, known) := readOnce read known f.file
    ({ f with snippet := text.bind fun text => extract text line }, known)
  | _, _ => (f, known)

/-- Findings with their snippets, where some texts are known. -/
def attachFrom (read : String → Option String) (known : Known) : List Finding → List Finding
  | [] => []
  | f :: fs =>
    let (f, known) := attachNext read known f
    f :: attachFrom read known fs

/-- Findings with their snippets. Each file is read once. -/
def attach (read : String → Option String) (findings : List Finding) : List Finding :=
  attachFrom read [] findings

/-- Whether a finding gets its snippet from its file: it has a line but no snippet. -/
def awaitsText (f : Finding) : Bool :=
  f.line.isSome && f.snippet.isNone

end ModuleLint.Snippet
