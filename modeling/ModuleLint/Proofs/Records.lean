import ModuleLint.Proofs.Lossless
import ModuleLint.Proofs.Messages

/-!
# Records and lines

The records of a report are put together line by line, but the fields of a record are written as
they are. So a report takes one line more for every line feed in a field, and its lines are its
records just if there is none. In a report on a project the rule and the severity have none, and the
message has none but from the path or the names in the file it is about.
-/

namespace ModuleLint

open ModuleLint.Text (CharacterNames)

namespace Text

variable {sep : Char}

/-- Pieces that are put together and cut again are cut themselves. -/
theorem split_joinWith_eq_flatMap {pieces : List (List Char)} (hne : pieces ≠ []) :
    split sep (joinWith [sep] pieces) = pieces.flatMap (split sep) := by
  fun_induction joinWith [sep] pieces with
  | case1 => exact (hne rfl).elim
  | case2 piece => simp
  | case3 piece pieces hpieces ih =>
    have htail : split sep (joinWith [sep] pieces) = pieces.flatMap (split sep) := ih hpieces
    calc
      split sep (piece ++ [sep] ++ joinWith [sep] pieces) =
          split sep piece ++ split sep (joinWith [sep] pieces) := by
        rw [List.append_assoc, List.singleton_append, split_eq_splitOn, split_eq_splitOn,
          split_eq_splitOn, List.splitOn_append_cons_self]
      _ = (piece :: pieces).flatMap (split sep) := by rw [htail, List.flatMap_cons]

/-- A text is one piece just if it does not hold the separator. -/
theorem split_eq_singleton_iff {cs : List Char} : split sep cs = [cs] ↔ sep ∉ cs := by
  constructor
  · intro h
    exact notMem_of_mem_split (h ▸ List.mem_singleton_self cs)
  · intro h
    rw [split_eq_splitOn, List.splitOn_eq_singleton h]

/-- An integer is written with digits, and a sign if it is negative. -/
theorem mem_toString_int {n : Int} {c : Char} (h : c ∈ (toString n).toList) :
    c = '-' ∨ c.isDigit = true := by
  rw [Json.toList_toString_int, List.mem_append] at h
  refine h.imp (fun hsign => ?_) (Nat.isDigit_of_mem_toDigits (by decide) (by decide))
  rw [Json.sign] at hsign
  split at hsign
  · exact List.mem_singleton.mp hsign
  · cases hsign

/-- An integer stands on one line. -/
@[simp] theorem isOneLine_toString_int (n : Int) : IsOneLine (toString n) := by
  intro hmem
  rcases mem_toString_int hmem with hsign | hdigit
  · exact absurd hsign (by decide)
  · exact absurd hdigit (by decide)

end Text

open Text (IsOneLine)

namespace Report

/-- The lines of the records of a report. -/
def recordLines (r : Report) : List (List Char) :=
  Text.split '\n' r.asRecords.toList

/-- None of the texts that a record tells of a finding has a line feed. -/
structure FitsLine (g : Finding) : Prop where
  severity : IsOneLine g.severity
  rule : IsOneLine g.rule
  file : IsOneLine g.file
  message : IsOneLine g.message

/-- The line in a record stands on one line. -/
theorem isOneLine_line (line : Option Int) :
    IsOneLine ((line.map fun n => toString n).getD "") := by
  cases line with
  | none => exact .words List.not_mem_nil
  | some n => exact Text.isOneLine_toString_int n

/-- A record stands on one line just if the texts that it tells of the finding do. -/
theorem isOneLine_record_iff {g : Finding} : IsOneLine (record g) ↔ FitsLine g := by
  have hcolon : IsOneLine ":" := .words (by decide)
  have hrecord : record g = g.severity ++ ":" ++ (g.rule ++ ":" ++ (g.file ++ ":" ++
      ((g.line.map fun n => toString n).getD "" ++ ":" ++ g.message))) := by
    rw [record, String.intercalate_cons_cons, String.intercalate_cons_cons,
      String.intercalate_cons_cons, String.intercalate_cons_cons, String.intercalate_singleton]
  rw [hrecord]
  simp only [Text.isOneLine_append, hcolon, isOneLine_line, and_true, true_and]
  constructor
  · intro h
    exact ⟨h.1, h.2.1, h.2.2.1, h.2.2.2⟩
  · intro h
    exact ⟨h.severity, h.rule, h.file, h.message⟩

variable {r : Report}

/-- The lines of a report are the lines of its records, in order. -/
theorem recordLines_eq_flatMap (hne : r.findings ≠ []) :
    r.recordLines = r.findings.flatMap fun g => Text.split '\n' (record g).toList := by
  have hpieces : (r.findings.map record).map String.toList ≠ [] := by simpa using hne
  calc
    r.recordLines =
        Text.split '\n' (Text.joinWith ['\n'] ((r.findings.map record).map String.toList)) := by
      rw [recordLines, asRecords, String.toList_intercalate, Text.joinWith_eq_intercalate]
      rfl
    _ = ((r.findings.map record).map String.toList).flatMap (Text.split '\n') :=
      Text.split_joinWith_eq_flatMap hpieces
    _ = r.findings.flatMap fun g => Text.split '\n' (record g).toList := by
      rw [List.map_map, List.flatMap_map]
      rfl

/-- The lines of a report are its records just if no record tells a text with a line feed. -/
theorem recordLines_eq_map_iff (hne : r.findings ≠ []) :
    r.recordLines = r.findings.map (fun g => (record g).toList) ↔
      ∀ g ∈ r.findings, FitsLine g := by
  constructor
  · intro h g hg
    rw [← isOneLine_record_iff]
    have hmem : (record g).toList ∈ r.recordLines :=
      h ▸ List.mem_map_of_mem (f := fun g => (record g).toList) hg
    exact Text.notMem_of_mem_split hmem
  · intro h
    rw [recordLines_eq_flatMap hne, ← List.flatMap_singleton' (r.findings.map _), List.flatMap_map]
    refine List.flatMap_congr fun g hg => ?_
    exact Text.split_eq_singleton_iff.mpr (isOneLine_record_iff.mpr (h g hg))

/-- A report has one line for each finding, and one more for each line feed in a record. -/
theorem length_recordLines (hne : r.findings ≠ []) :
    r.recordLines.length =
      r.findings.length + (r.findings.map fun g => (record g).toList.count '\n').sum := by
  have hlength (g : Finding) : (Text.split '\n' (record g).toList).length =
      1 + (record g).toList.count '\n' := by
    rw [Text.length_split, Nat.add_comm]
  rw [recordLines_eq_flatMap hne, List.length_flatMap]
  simp only [hlength, List.sum_map_add, List.map_const', List.sum_replicate, smul_eq_mul, mul_one]

/-- A report has as many lines as findings just if no record tells a text with a line feed. -/
theorem length_recordLines_iff (hne : r.findings ≠ []) :
    r.recordLines.length = r.findings.length ↔ ∀ g ∈ r.findings, FitsLine g := by
  rw [length_recordLines hne, Nat.add_eq_left, List.sum_eq_zero_iff, List.forall_mem_map]
  refine forall₂_congr fun g hg => ?_
  rw [List.count_eq_zero, ← isOneLine_record_iff]
  rfl

end Report

namespace Validation

/-- The word for a severity stands on one line. -/
theorem isOneLine_word (severity : Severity) : IsOneLine severity.word := by
  cases severity <;> exact .words (by decide)

/-- The identifier of a rule stands on one line. -/
theorem isOneLine_id (rule : Rule) : IsOneLine rule.id := by
  cases rule <;> exact .words (by decide)

/-- A record of a report on a project stands on one line if the path or module in it does, and the
names that the declarations of the file lend. -/
theorem fitsLine_of_mem_findings [CharacterNames] {tree : Directory} {root : String}
    {switches : Option (List (Data × Data))} {config : Config} {report : Report}
    (h : validate tree root switches config = .ok report) {g : Finding}
    (hg : g ∈ report.findings) (hfile : IsOneLine g.file)
    (hnames : ∀ p, Parsing.ofFile tree root g.file = some p →
      ∀ name ∈ p.quotedNames, IsOneLine name) : Report.FitsLine g := by
  obtain ⟨-, rules, -, paths, -, rfl⟩ := validate_eq_ok_iff.mp h
  obtain ⟨g', hg', -, rfl⟩ := Survey.exists_of_mem_report hg
  obtain ⟨rule, file, hmakes, -⟩ := Survey.exists_makes hg'
  obtain ⟨snippet, hattach⟩ :=
    Snippet.attachTo_eq_withSnippet (readText tree root) g'
  rw [hattach] at hfile hnames ⊢
  have hmessage : IsOneLine g'.message := Survey.isOneLine_message hg' hfile hnames
  refine ⟨?_, ?_, hfile, hmessage⟩
  · exact hmakes.severity_eq ▸ isOneLine_word rule.severity
  · exact hmakes.rule_eq ▸ isOneLine_id rule

/-- The records of a report take the lines that each of them takes, in the order of the findings.
There are as many lines as findings, and the lines are the records, just if no record tells a text
with a line feed. In a report on a project a record tells none if the path or module in it has no
line feed, and no name that the declarations of the file lend. -/
theorem recordLines_of_findings [CharacterNames] (report : Report) (hne : report.findings ≠ []) :
    report.recordLines =
      (report.findings.flatMap fun g => Text.split '\n' (Report.record g).toList) ∧
    (report.recordLines.length = report.findings.length ↔
      ∀ g ∈ report.findings, Report.FitsLine g) ∧
    (report.recordLines = report.findings.map (fun g => (Report.record g).toList) ↔
      ∀ g ∈ report.findings, Report.FitsLine g) ∧
    ∀ tree root switches config, validate tree root switches config = .ok report →
      ∀ g ∈ report.findings, IsOneLine g.file →
        (∀ p, Parsing.ofFile tree root g.file = some p →
          ∀ name ∈ p.quotedNames, IsOneLine name) → Report.FitsLine g := by
  refine ⟨Report.recordLines_eq_flatMap hne, Report.length_recordLines_iff hne,
    Report.recordLines_eq_map_iff hne, ?_⟩
  intro tree root switches config h g hg hfile hnames
  exact fitsLine_of_mem_findings h hg hfile hnames

/-- A project with an input type that checks the type of its field. -/
def plainProject : Directory :=
  [("src", .directory [("a", .directory [("a.input.ts", .file (Text.Utf8.encode
    "@InputType()\nclass A \x7b\n  @Field() @IsString() b: string\n\x7d"))])])]

/-- The report on that project has one finding, no name in the file has a line feed, and so there is
one line. -/
theorem recordLines_of_findings_plain :
    ∃ report, validate plainProject "" none {} = .ok report ∧ report.findings.length = 1 ∧
      (∀ g ∈ report.findings, IsOneLine g.file ∧ ∀ p, Parsing.ofFile plainProject "" g.file =
        some p → ∀ name ∈ p.quotedNames, IsOneLine name) ∧
      report.recordLines = report.findings.map fun g => (Report.record g).toList := by
  have hpaths : Discovery.discover plainProject "" {} = .ok ["src/a/a.input.ts"] := by cbv
  obtain ⟨report, hrun, hlength, hplain⟩ : ∃ report, validate plainProject "" none {} = .ok report ∧
      report.findings.length = 1 ∧ ∀ g ∈ report.findings, IsOneLine g.file ∧
        ((Parsing.ofFile plainProject "" g.file).all fun p =>
          p.quotedNames.all fun name => IsOneLine name) = true :=
    ⟨_, validate_default_eq_ok rfl hpaths, by decide +kernel⟩
  have hnames : ∀ g ∈ report.findings, IsOneLine g.file ∧
      ∀ p, Parsing.ofFile plainProject "" g.file = some p →
        ∀ name ∈ p.quotedNames, IsOneLine name := by
    intro g hg
    refine ⟨(hplain g hg).1, fun p hp => ?_⟩
    simpa [hp] using (hplain g hg).2
  have hne : report.findings ≠ [] := List.ne_nil_of_length_pos (by omega)
  obtain ⟨-, -, hrecords, hfits⟩ := recordLines_of_findings report hne
  refine ⟨report, hrun, hlength, hnames, hrecords.mpr ?_⟩
  intro g hg
  exact hfits _ _ _ _ hrun g hg (hnames g hg).1 (hnames g hg).2

/-- A project with an input type that checks the type of a field whose name spans three lines. -/
def brokenProject : Directory :=
  [("src", .directory [("a", .directory [("a.input.ts", .file (Text.Utf8.encode
    "@InputType()\nclass A \x7b\n  @Field() @IsString() [\n'b'\n]: string\n\x7d"))])])]

/-- Not every report has as many lines as findings: the one on that project has one finding and
three lines. -/
theorem not_forall_length_recordLines : ¬ ∀ tree root switches config report,
    validate tree root switches config = .ok report → report.findings ≠ [] →
      report.recordLines.length = report.findings.length := by
  intro h
  have hpaths : Discovery.discover brokenProject "" {} = .ok ["src/a/a.input.ts"] := by cbv
  obtain ⟨report, hrun, hlength, hlines⟩ : ∃ report,
      validate brokenProject "" none {} = .ok report ∧ report.findings.length = 1 ∧
        report.recordLines.length = 3 :=
    ⟨_, validate_default_eq_ok rfl hpaths, by decide +kernel⟩
  have hne : report.findings ≠ [] := List.ne_nil_of_length_pos (by omega)
  have hequal := h _ _ _ _ report hrun hne
  omega

end Validation

end ModuleLint
