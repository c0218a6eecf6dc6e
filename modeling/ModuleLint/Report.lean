import ModuleLint.Finding

/-!
# Reports

What a run has found: its errors and its warnings, and how much it has looked at.
-/

namespace ModuleLint

/-- The result of a run. -/
structure Report where
  /-- The findings that are errors. -/
  errors : List Finding := []
  /-- All other findings. -/
  warnings : List Finding := []
  /-- The number of files that belong to modules. -/
  checkedFiles : Int := 0
  /-- The names of the modules. -/
  modules : List String := []
  deriving DecidableEq, Repr, Inhabited

namespace Report

/-- Whether there are no errors. -/
def isValid (r : Report) : Bool :=
  r.errors.isEmpty

/-- All findings, the errors first. -/
def findings (r : Report) : List Finding :=
  r.errors ++ r.warnings

/-- The report on findings, which are errors or warnings by their severity. -/
def ofFindings (findings : List Finding) (checkedFiles : Int) (modules : List String) : Report :=
  ⟨findings.filter Finding.isError, findings.filter fun f => !f.isError, checkedFiles, modules⟩

/-- Whether a run passes: it has no errors, and under `strict` no warnings either. -/
def passes (r : Report) (strict : Bool) : Bool :=
  r.isValid && !(strict && !r.warnings.isEmpty)

end Report

end ModuleLint
