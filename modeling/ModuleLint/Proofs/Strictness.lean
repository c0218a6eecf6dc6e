import Mathlib.Tactic.SplitIfs
import ModuleLint.Proofs.Arguments
import ModuleLint.Proofs.Excerpts
import ModuleLint.Proofs.Refusal

/-!
# Exit statuses and strictness

A run that gives a report fails just if there are errors, or warnings under `--strict`, whatever the
format of the report. To be strict changes nothing else in what is written for programs. What is
written for people then lacks the hint at `--strict`, which is the last line after warnings alone.
-/

namespace ModuleLint

open ModuleLint.Text (CharacterNames)

namespace Report.Terminal

/-- What is written last if there are errors. -/
def failed : Piece := Piece.of (.boldIn .red) "✖ Validation failed"

/-- What is written last if nothing was found. -/
def passed : Piece := Piece.of (.boldIn .green) "✓ All checks passed"

/-- What is written last if there are warnings alone, unless the hint follows. -/
def completed : Piece := Piece.of (.boldIn .yellow) "⚠ Validation completed with warnings"

/-- The hint at `--strict`. -/
def hint : Piece := Piece.of dim "Use --strict to treat warnings as errors"

/-- The last line of a report. -/
def lastLine (r : Report) (strict : Bool) : Piece :=
  if !r.isValid then failed
  else if r.warnings.isEmpty then passed
  else if strict then completed else hint

/-- The lines of a report before the last one. -/
def linesBefore (r : Report) (strict : Bool) : List StyledText :=
  findings r ++ scope r :: if r.isValid && !r.warnings.isEmpty && !strict then [[completed]] else []

/-- A report has a last line. -/
theorem texts_eq (r : Report) (strict : Bool) :
    texts r strict = linesBefore r strict ++ [[lastLine r strict]] := by
  rw [texts, linesBefore, lastLine, outcome]
  cases r.isValid <;> cases r.warnings.isEmpty <;> cases strict <;>
    simp [failed, passed, completed, hint]

/-- The last line of a report is one of four. -/
theorem lastLine_mem (r : Report) (strict : Bool) :
    lastLine r strict ∈ [failed, passed, completed, hint] := by
  rw [lastLine]
  split_ifs <;> simp

/-- What can be written last is written as one line. -/
theorem write_of_mem {p : Piece} (hp : p ∈ [failed, passed, completed, hint]) (colour : Bool) :
    StyledText.write colour [p] = p.write colour ++ ['\n'] ∧ '\n' ∉ p.write colour ∧
      p.write colour ≠ [] := by
  revert colour
  revert p
  decide +kernel

/-- The hint is written like nothing else that can be written last. -/
theorem write_eq_hint_iff {p : Piece} (hp : p ∈ [failed, passed, completed, hint])
    (colour : Bool) : p.write colour = hint.write colour ↔ p = hint := by
  revert colour
  revert p
  decide +kernel

/-- The hint is the last line just if there are warnings alone and the run is not strict. -/
theorem lastLine_eq_hint_iff {r : Report} {strict : Bool} :
    lastLine r strict = hint ↔ r.errors = [] ∧ r.warnings ≠ [] ∧ strict = false := by
  have hne : failed ≠ hint ∧ passed ≠ hint ∧ completed ≠ hint := by decide +kernel
  rw [lastLine, isValid]
  cases r.errors with
  | cons f fs => simp [hne.1]
  | nil =>
    cases r.warnings with
    | nil => simp [hne.2.1]
    | cons f fs => cases strict <;> simp [hne.2.2]

/-- Some texts are written with a line feed at their end. -/
theorem exists_flatMap_write_eq {texts : List StyledText} (h : texts ≠ []) (colour : Bool) :
    ∃ cs, texts.flatMap (StyledText.write colour) = cs ++ ['\n'] := by
  obtain ⟨before, last, rfl⟩ := (List.eq_nil_or_concat' _).resolve_left h
  rw [List.flatMap_append, List.flatMap_singleton, StyledText.write, ← List.append_assoc]
  exact ⟨_, rfl⟩

/-- There are lines before the last one. -/
theorem linesBefore_ne_nil (r : Report) (strict : Bool) : linesBefore r strict ≠ [] := by
  simp [linesBefore]

/-- A row of a snippet is not the hint. -/
theorem snippetRow_ne_hint (severity : String) (row : List Char) :
    snippetRow severity row ≠ [hint] := by
  unfold snippetRow
  split <;> simp

/-- No text of a finding is the hint. -/
theorem hint_notMem_finding (f : Finding) : [hint] ∉ finding f := by
  have hlocation : Piece.of (.boldIn .cyan) (location f) ≠ hint := by
    simp [Piece.of, hint, Style.boldIn, dim]
  have hrows : [hint] ∉ snippetRows f := by
    unfold snippetRows
    split
    · simp
    · simp
    · rw [List.mem_map]
      rintro ⟨row, -, hrow⟩
      exact snippetRow_ne_hint _ _ hrow
  simp [finding, message, hlocation.symm, hrows]

/-- No text of findings under a title is the hint. -/
theorem hint_notMem_section (title : String) (fs : List Finding) : [hint] ∉ section_ title fs := by
  cases fs with
  | nil => simp [section_]
  | cons f fs =>
    have htitle (c : Colour) (text : String) : hint ≠ Piece.of (.boldIn c) text := by
      simp [Piece.of, hint, Style.boldIn, dim]
    simp [section_, htitle, hint_notMem_finding]

/-- No text about what was found is the hint. -/
theorem hint_notMem_findings (r : Report) : [hint] ∉ findings r := by
  have htitle (text : String) : hint ≠ Piece.of { bold := true } text := by
    simp [Piece.of, hint, dim]
  unfold findings
  split
  · simp
  · simp [htitle, hint_notMem_section]

/-- How much was looked at is not the hint. -/
theorem scope_ne_hint (r : Report) : scope r ≠ [hint] := by
  intro h
  have hfirst := congrArg (fun text : StyledText => text.flatMap fun p => p.text.take 1) h
  simp [scope, Piece.of, hint] at hfirst

/-- The hint is a text of a report once if there are warnings alone and the run is not strict, and
never otherwise. -/
theorem count_hint (r : Report) (strict : Bool) :
    (texts r strict).count [hint] =
      if r.errors = [] ∧ r.warnings ≠ [] ∧ strict = false then 1 else 0 := by
  have hcompleted : completed ≠ hint := by decide +kernel
  have hbefore : (linesBefore r strict).count [hint] = 0 := by
    rw [List.count_eq_zero, linesBefore]
    split <;> simp [hint_notMem_findings, Ne.symm (scope_ne_hint r), hcompleted.symm]
  rw [texts_eq, List.count_append, hbefore, Nat.zero_add, List.count_singleton]
  simp only [beq_iff_eq, List.cons.injEq, and_true, lastLine_eq_hint_iff]

end Report.Terminal

namespace Report

open Terminal

variable {r : Report} {strict colour : Bool}

/-- A report for a terminal is its lines, without a line feed after the last one. -/
theorem toList_forTerminal (r : Report) (strict colour : Bool) :
    (r.forTerminal strict colour).toList =
      (linesBefore r strict).flatMap (StyledText.write colour) ++
        (lastLine r strict).write colour := by
  obtain ⟨hwrite, hline, hne⟩ := write_of_mem (lastLine_mem r strict) colour
  obtain ⟨cs, c, hlast⟩ := (List.eq_nil_or_concat' _).resolve_left hne
  have hc : (c == '\n') = false := by
    rw [beq_eq_false_iff_ne]
    rintro rfl
    exact hline (by simp [hlast])
  rw [forTerminal, String.toList_ofList, texts_eq, List.flatMap_append, List.flatMap_singleton,
    hwrite, hlast, ← List.append_assoc, ← List.append_assoc,
    Text.dropEndWhile_concat_of_pos (by decide),
    Text.dropEndWhile_concat_of_neg (p := (· == '\n')) hc]

/-- The last line of a report for a terminal is the hint just if there are warnings alone and the
run is not strict. -/
theorem getLast?_split_forTerminal :
    (Text.split '\n' (r.forTerminal strict colour).toList).getLast? = some (hint.write colour) ↔
      r.errors = [] ∧ r.warnings ≠ [] ∧ strict = false := by
  obtain ⟨-, hline, -⟩ := write_of_mem (lastLine_mem r strict) colour
  obtain ⟨cs, hcs⟩ := exists_flatMap_write_eq (linesBefore_ne_nil r strict) colour
  rw [toList_forTerminal, hcs, List.append_assoc, List.singleton_append,
    Text.getLast?_split_append_cons hline, Option.some.injEq,
    write_eq_hint_iff (lastLine_mem r strict), lastLine_eq_hint_iff]

/-- After warnings alone, a report that is not strict has the hint as one more line. -/
theorem forTerminal_of_warnings (herrors : r.errors = []) (hwarnings : r.warnings ≠ []) :
    (r.forTerminal false colour).toList =
      (r.forTerminal true colour).toList ++ '\n' :: hint.write colour := by
  have hcompleted : StyledText.write colour [completed] = completed.write colour ++ ['\n'] :=
    (write_of_mem (by simp) colour).1
  have hlines : linesBefore r false = linesBefore r true ++ [[completed]] := by
    simp [linesBefore, isValid, herrors, hwarnings]
  have hhint : lastLine r false = hint :=
    lastLine_eq_hint_iff.mpr ⟨herrors, hwarnings, rfl⟩
  have hlast : lastLine r true = completed := by
    simp [lastLine, isValid, herrors, hwarnings]
  rw [toList_forTerminal, toList_forTerminal, hlines, hhint, hlast, List.flatMap_append,
    List.flatMap_singleton, hcompleted, List.append_assoc, List.append_assoc, List.append_assoc,
    List.singleton_append]

/-- Unless there are warnings alone, a report is the same whether it is strict or not. -/
theorem forTerminal_congr (h : ¬ (r.errors = [] ∧ r.warnings ≠ [])) :
    r.forTerminal false colour = r.forTerminal true colour := by
  have houtcome : outcome r false = outcome r true := by
    rw [outcome, outcome, isValid]
    cases herrors : r.errors with
    | cons f fs => rfl
    | nil =>
      cases hwarnings : r.warnings with
      | cons f fs => exact (h ⟨herrors, by simp [hwarnings]⟩).elim
      | nil => rfl
  rw [forTerminal, forTerminal, texts, texts, houtcome]

end Report

namespace Command

variable {tree : Directory} {args : List String} {colour verbose : Bool} {request : Request}
  {report : Report}

/-- The last line that the program writes to standard output, without its line feed. -/
def Output.lastLine? (output : Output) : Option (List Char) :=
  (Text.split '\n' output.out.toList).dropLast.getLast?

/-- The output after a report, but for what is written to standard error. -/
def IsOutputOf (report : Report) (colour : Bool) (request : Request) (output : Output) : Prop :=
  output.status = exitStatus report request.strict ∧
    output.out = reportText report request.strict colour request.format

section Runs

variable [CharacterNames]

/-- A command line asks for a run, and the run gives a report. -/
structure Reports (tree : Directory) (args : List String) (verbose : Bool) (request : Request)
    (report : Report) : Prop where
  /-- The command line asks for the run. -/
  asks : Invocation.read tree args = .ok (.validate verbose request)
  /-- The run has a configuration, under which it gives the report. -/
  validates : ∃ config, configOf tree request = .ok config ∧
    Validation.validate tree request.root none config = .ok report

/-- A run under a configuration writes the report that the project has under it. -/
theorem exists_validateWith_eq_ok {config : Config}
    (h : Validation.validate tree request.root none config = .ok report) (log : List LogEvent) :
    ∃ output, validateWith tree colour verbose request config log = .ok output ∧
      IsOutputOf report colour request output := by
  obtain ⟨hroot, rules, hrules, paths, hpaths, rfl⟩ := Validation.validate_eq_ok_iff.mp h
  obtain rfl : config.rules = rules := Except.ok.inj hrules
  rw [validateWith, hroot, Validation.survey_eq_ok hpaths]
  exact ⟨_, rfl, rfl, rfl⟩

/-- A run that has no report under a configuration exits with status two, if it exits. -/
theorem status_validateWith {config : Config} {log : List LogEvent} {output : Output}
    (h : validateWith tree colour verbose request config log = .ok output)
    (hnone : ∀ report, Validation.validate tree request.root none config ≠ .ok report) :
    output.status = 2 := by
  simp only [validateWith] at h
  generalize hsurveyed : (Validation.checkRoot tree request.root >>= fun _ =>
    Validation.survey tree request.root config.discovery) = surveyed at h
  cases surveyed with
  | error fault =>
    cases fault with
    | badPattern fault => cases h
    | _ =>
      obtain rfl := Except.ok.inj h
      rfl
  | ok s =>
    obtain ⟨u, hroot, hsurvey⟩ := Outcome.bind_eq_ok_iff.mp hsurveyed
    refine (hnone (s.report config.rules (Validation.readText tree request.root)) ?_).elim
    rw [Validation.validate, hroot]
    change (Validation.survey tree request.root config.discovery >>= fun s => _) = _
    rw [hsurvey]
    rfl

/-- A run that gives a report writes it. -/
theorem Reports.exists_run_eq_ok (h : Reports tree args verbose request report) (colour : Bool) :
    ∃ output, run tree colour args = .ok output ∧ IsOutputOf report colour request output := by
  obtain ⟨config, hconfig, hreport⟩ := h.validates
  rw [run_eq_validate h.asks, validate, hconfig]
  exact exists_validateWith_eq_ok hreport _

/-- A run that a command line asks for gives a report just if it exits, and not with status two. -/
theorem exists_reports_iff (hasks : Invocation.read tree args = .ok (.validate verbose request)) :
    (∃ report, Reports tree args verbose request report) ↔
      ∃ output, run tree colour args = .ok output ∧ output.status ≠ 2 := by
  constructor
  · intro h
    obtain ⟨report, hreport⟩ := h
    obtain ⟨output, hrun, hstatus, -⟩ := hreport.exists_run_eq_ok colour
    refine ⟨output, hrun, ?_⟩
    rw [hstatus, exitStatus]
    split <;> decide
  · intro h
    obtain ⟨output, hrun, hstatus⟩ := h
    rw [run_eq_validate hasks, validate] at hrun
    cases hconfig : configOf tree request with
    | error fault =>
      cases hmessage : fault.message? <;> simp only [hconfig, hmessage] at hrun
      · cases hrun
      · obtain rfl := Except.ok.inj hrun
        exact (hstatus rfl).elim
    | ok config =>
      simp only [hconfig] at hrun
      by_contra hnone
      refine hstatus (status_validateWith hrun fun report hreport => ?_)
      exact hnone ⟨report, hasks, config, hconfig, hreport⟩

/-- A report does not depend on strictness or on the format. -/
theorem Reports.congr (h : Reports tree args verbose request report) {args' : List String}
    {verbose' : Bool} {request' : Request}
    (hasks : Invocation.read tree args' = .ok (.validate verbose' request'))
    (hroot : request'.root = request.root) (hconfig : request'.config = request.config)
    (hdisabled : request'.disabled = request.disabled) :
    Reports tree args' verbose' request' report := by
  refine ⟨hasks, ?_⟩
  rw [configOf, hroot, hconfig, hdisabled]
  exact h.validates

end Runs

/-- A run exits with one just if there are errors, or warnings under `--strict`. -/
theorem exitStatus_eq (report : Report) (strict : Bool) :
    exitStatus report strict =
      if report.errors ≠ [] ∨ strict = true ∧ report.warnings ≠ [] then 1 else 0 := by
  rw [exitStatus, Report.passes, Report.isValid]
  cases report.errors with
  | cons f fs => simp
  | nil => cases strict <;> cases report.warnings <;> simp

/-- A report for people is written with a line feed at its end. -/
theorem reportText_rich (report : Report) (strict colour : Bool) :
    reportText report strict colour .rich = report.forTerminal strict colour ++ "\n" := by
  have hne : (report.forTerminal strict colour).isEmpty = false := by
    rw [Bool.eq_false_iff, ne_eq, String.isEmpty_iff, ← String.toList_eq_nil_iff,
      Report.toList_forTerminal, List.append_eq_nil_iff, not_and]
    exact fun _ => (Report.Terminal.write_of_mem (Report.Terminal.lastLine_mem _ _) colour).2.2
  simp [reportText, hne]

/-- The last line that is written after a report for people is the hint just if there are warnings
alone and the run is not strict. -/
theorem IsOutputOf.lastLine?_eq_hint_iff {output : Output}
    (h : IsOutputOf report colour request output) (hformat : request.format = .rich) :
    output.lastLine? = some (Report.Terminal.hint.write colour) ↔
      report.errors = [] ∧ report.warnings ≠ [] ∧ request.strict = false := by
  have hlines : Text.split '\n' output.out.toList =
      Text.split '\n' (report.forTerminal request.strict colour).toList ++ [[]] := by
    rw [h.2, hformat, reportText_rich, String.toList_append, Text.split_eq_splitOn,
      Text.split_eq_splitOn]
    exact List.splitOn_append_cons_self _ _
  rw [Output.lastLine?, hlines, List.dropLast_concat, Report.getLast?_split_forTerminal]

/-- What is written before the last line after a report for people is written as lines. -/
theorem IsOutputOf.mem_split_of_mem_linesBefore {output : Output}
    (h : IsOutputOf report colour request output) (hformat : request.format = .rich)
    {line : List Char} (hline : line ∈ Text.split '\n'
      ((Report.Terminal.linesBefore report request.strict).flatMap (StyledText.write colour)))
    (hne : line ≠ []) : line ∈ Text.split '\n' output.out.toList := by
  obtain ⟨cs, hcs⟩ := Report.Terminal.exists_flatMap_write_eq
    (Report.Terminal.linesBefore_ne_nil report request.strict) colour
  rw [hcs, Text.split_eq_splitOn, List.splitOn_append_cons_self, List.mem_append] at hline
  rw [h.2, hformat, reportText_rich, String.toList_append, Report.toList_forTerminal, hcs,
    List.append_assoc, List.append_assoc, List.singleton_append, Text.split_eq_splitOn,
    List.splitOn_append_cons_self]
  exact List.mem_append_left _ (hline.resolve_right fun hlast => hne (by simpa using hlast))

/-- To be strict changes what is written only for people, and only after warnings alone, where it
takes the hint away. -/
theorem reportText_strict (report : Report) (strict colour : Bool) (format : Format) :
    (reportText report strict colour format).toList =
      (reportText report true colour format).toList ++
        if format = .rich ∧ report.errors = [] ∧ report.warnings ≠ [] ∧ strict = false then
          Report.Terminal.hint.write colour ++ ['\n'] else [] := by
  cases format with
  | json => simp [reportText]
  | porcelain => simp [reportText]
  | rich =>
    rw [reportText_rich, reportText_rich]
    cases strict with
    | true => simp
    | false =>
      by_cases halone : report.errors = [] ∧ report.warnings ≠ []
      · rw [if_pos ⟨rfl, halone.1, halone.2, rfl⟩, String.toList_append, String.toList_append,
          Report.forTerminal_of_warnings halone.1 halone.2]
        simp
      · rw [if_neg fun h => halone ⟨h.2.1, h.2.2.1⟩, Report.forTerminal_congr halone,
          List.append_nil]

/-- A run that gives a report exits with one just if there are errors, or warnings under `--strict`,
and with zero otherwise. What is written for people ends with the hint at `--strict` just if there
are warnings alone and the run is not strict. The status is the same in all formats. To be strict
takes that hint away and changes nothing else that is written. The option can be put among the
others wherever those before it are complete. -/
theorem Reports.status_and_strictness [CharacterNames]
    (h : Reports tree args verbose request report) (colour : Bool) :
    ∃ output, run tree colour args = .ok output ∧
      output.status =
        (if report.errors ≠ [] ∨ request.strict = true ∧ report.warnings ≠ [] then 1 else 0) ∧
      (request.format = .rich →
        (output.lastLine? = some (Report.Terminal.hint.write colour) ↔
          report.errors = [] ∧ report.warnings ≠ [] ∧ request.strict = false) ∧
        (Report.Terminal.texts report request.strict).count [Report.Terminal.hint] =
          if report.errors = [] ∧ report.warnings ≠ [] ∧ request.strict = false then 1 else 0) ∧
      (∀ args' verbose' format,
        Invocation.read tree args' = .ok (.validate verbose' { request with format := format }) →
          ∃ output', run tree colour args' = .ok output' ∧ output'.status = output.status) ∧
      (∀ args' verbose',
        Invocation.read tree args' = .ok (.validate verbose' { request with strict := true }) →
          ∃ output', run tree colour args' = .ok output' ∧
            output'.status = (if report.errors ≠ [] ∨ report.warnings ≠ [] then 1 else 0) ∧
            output.out.toList = output'.out.toList ++
              if request.format = .rich ∧ report.errors = [] ∧ report.warnings ≠ [] ∧
                request.strict = false then Report.Terminal.hint.write colour ++ ['\n'] else []) ∧
      ∃ program options, args = program ++ validateCommand :: options ∧
        ∀ before after a, options = before ++ after → "--" ∉ before →
          Arguments.read validateSwitches true before = .ok a →
            Invocation.read tree (program ++ validateCommand :: (before ++ "--strict" :: after)) =
              .ok (.validate verbose { request with strict := true }) := by
  obtain ⟨output, hrun, houtput⟩ := h.exists_run_eq_ok colour
  refine ⟨output, hrun, ?_, ?_, ?_, ?_, ?_⟩
  · rw [houtput.1, exitStatus_eq]
  · intro hformat
    exact ⟨houtput.lastLine?_eq_hint_iff hformat, Report.Terminal.count_hint report request.strict⟩
  · intro args' verbose' format hasks
    obtain ⟨output', hrun', houtput'⟩ := (h.congr hasks rfl rfl rfl).exists_run_eq_ok colour
    exact ⟨output', hrun', by rw [houtput.1, houtput'.1]⟩
  · intro args' verbose' hasks
    obtain ⟨output', hrun', houtput'⟩ := (h.congr hasks rfl rfl rfl).exists_run_eq_ok colour
    refine ⟨output', hrun', ?_, ?_⟩
    · rw [houtput'.1, exitStatus_eq]
      simp only [true_and]
    · rw [houtput.2, houtput'.2, reportText_strict]
  · obtain ⟨program, options, rfl, hcommand⟩ := exists_eq_append_of_asks h.asks
    refine ⟨program, options, rfl, ?_⟩
    rintro before after a rfl hend hbefore
    have hasks := h.asks
    rw [hcommand] at hasks ⊢
    exact readValidate_strict hbefore hend hasks

/-- A project with a service that no module holds. -/
def warnedProject : Directory :=
  [("src", .directory [("user", .directory [("user.service.ts", .file (Text.Utf8.encode
    "export class UserService \x7b\x7d\n"))])])]

/-- A run in that project passes with the hint, and a strict run fails without it. -/
theorem status_and_strictness_warned :
    ∃ report, Reports warnedProject ["validate"] false {} report ∧ report.errors = [] ∧
      report.warnings.length = 1 ∧ ∃ output output',
        run warnedProject false ["validate"] = .ok output ∧ output.status = 0 ∧
        output.lastLine? = some "Use --strict to treat warnings as errors".toList ∧
        run warnedProject false ["validate", "--strict"] = .ok output' ∧ output'.status = 1 ∧
        output.out.toList =
          output'.out.toList ++ ("Use --strict to treat warnings as errors".toList ++ ['\n']) := by
  have hasks : Invocation.read warnedProject ["validate"] = .ok (.validate false {}) := by cbv
  have hconfig : configOf warnedProject {} = .ok {} := by cbv
  have hpaths : Discovery.discover warnedProject "." {} = .ok ["src/user/user.service.ts"] := by cbv
  obtain ⟨report, hreport, herrors, hwarnings⟩ : ∃ report,
      Validation.validate warnedProject "." none {} = .ok report ∧ report.errors = [] ∧
        report.warnings.length = 1 :=
    ⟨_, Validation.validate_default_eq_ok rfl hpaths, by decide +kernel⟩
  have h : Reports warnedProject ["validate"] false {} report := ⟨hasks, {}, hconfig, hreport⟩
  have hne : report.warnings ≠ [] := List.ne_nil_of_length_pos (by omega)
  obtain ⟨output, hrun, hstatus, hrich, -, hstrict, -⟩ := h.status_and_strictness false
  have hasks' : Invocation.read warnedProject ["validate", "--strict"] =
      .ok (.validate false { strict := true }) := by cbv
  obtain ⟨output', hrun', hstatus', hout⟩ := hstrict _ _ hasks'
  refine ⟨report, h, herrors, hwarnings, output, output', hrun, ?_, ?_, hrun', ?_, ?_⟩
  · simpa [herrors] using hstatus
  · exact (hrich rfl).1.mpr ⟨herrors, hne, rfl⟩
  · simpa [herrors, hne] using hstatus'
  · rw [hout, if_pos ⟨rfl, herrors, hne, rfl⟩]
    rfl

/-- A project with a service that no module holds, in a directory that is named like the hint. -/
def hintProject : Directory :=
  [("src", .directory [("Use --strict to treat warnings as errors", .directory [("user.service.ts",
    .file (Text.Utf8.encode "export class UserService \x7b\x7d\n"))])])]

/-- A line that is spelt like the hint need not be the hint: where a module has that name, a strict
run writes the name on a line of its own. -/
theorem not_forall_hint_mem_iff :
    ¬ ∀ (tree : Directory) (args : List String) (verbose : Bool) (request : Request)
        (report : Report) (output : Output), Reports tree args verbose request report →
      run tree false args = .ok output → request.format = .rich →
        ("Use --strict to treat warnings as errors".toList ∈ Text.split '\n' output.out.toList ↔
          report.errors = [] ∧ report.warnings ≠ [] ∧ request.strict = false) := by
  intro h
  have hasks : Invocation.read hintProject ["validate", "--strict"] =
      .ok (.validate false { strict := true }) := by cbv
  have hconfig : configOf hintProject { strict := true } = .ok {} := by cbv
  have hpaths : Discovery.discover hintProject "." {} =
      .ok ["src/Use --strict to treat warnings as errors/user.service.ts"] := by decide +kernel
  obtain ⟨report, hreport, hline⟩ : ∃ report,
      Validation.validate hintProject "." none {} = .ok report ∧
        "Use --strict to treat warnings as errors".toList ∈ Text.split '\n'
          ((Report.Terminal.linesBefore report true).flatMap (StyledText.write false)) :=
    ⟨_, Validation.validate_default_eq_ok rfl hpaths, by decide +kernel⟩
  have hreports : Reports hintProject ["validate", "--strict"] false { strict := true } report :=
    ⟨hasks, {}, hconfig, hreport⟩
  obtain ⟨output, hrun, houtput⟩ := hreports.exists_run_eq_ok false
  have hwritten := houtput.mem_split_of_mem_linesBefore rfl hline (by decide)
  have hstrict : true = false := ((h _ _ _ _ _ _ hreports hrun rfl).mp hwritten).2.2
  cases hstrict

end Command

end ModuleLint
