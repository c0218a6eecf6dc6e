import Mathlib.Data.List.Forall2
import ModuleLint.Proofs.Caching
import ModuleLint.Proofs.Outcome
import ModuleLint.Validation

/-!
# Snippets for many findings

Whichever findings are given their snippets together, each gets the one that it would get by itself, and
nothing else about it changes. That is refused only if a text would have to be looked for at a path that
cannot be one, and it does no more when it is done again.
-/

namespace ModuleLint

namespace Snippet

variable {read : String → Option String} {f : Finding}

/-- A finding without a line, or with a snippet, stays as it is. -/
theorem attachTo_of_settled (h : f.line = none ∨ f.snippet ≠ none) : attachTo read f = f := by
  unfold attachTo
  split
  next hline hsnippet => simp [hline, hsnippet] at h
  next => rfl

/-- A finding with a line but no snippet gets the snippet about its line. -/
theorem attachTo_of_line {line : Int} (hline : f.line = some line) (hsnippet : f.snippet = none) :
    attachTo read f =
      { f with snippet := (read f.file).bind fun text => extract text line } := by
  rw [attachTo, hline, hsnippet]

/-- A finding gets no other snippet when it is to get one again. -/
theorem attachTo_attachTo (read : String → Option String) (f : Finding) :
    attachTo read (attachTo read f) = attachTo read f := by
  by_cases h : f.line = none ∨ f.snippet ≠ none
  · rw [attachTo_of_settled h, attachTo_of_settled h]
  · obtain ⟨hline, hsnippet⟩ := not_or.mp h
    obtain ⟨line, hline⟩ := Option.ne_none_iff_exists'.mp hline
    rw [attachTo_of_line hline (not_not.mp hsnippet)]
    generalize hshown : ((read f.file).bind fun text => extract text line) = shown
    cases shown with
    | none =>
      have hunshown : ({ f with snippet := none } : Finding).line = some line := hline
      rw [attachTo_of_line hunshown rfl, hshown]
    | some snippet => exact attachTo_of_settled (.inr (Option.some_ne_none snippet))

/-- A finding that awaits its snippet has a line but no snippet. -/
theorem awaitsText_iff : awaitsText f = true ↔ f.line ≠ none ∧ f.snippet = none := by
  simp [awaitsText, Option.isSome_iff_ne_none]

end Snippet

namespace Validation

open ModuleLint.Snippet (attachTo awaitsText awaitsText_iff extract)

/-- A path can be one, if it is that of a finding whose text is to be looked for. -/
def HasProperPath (root : String) (f : Finding) : Prop :=
  f.line ≠ none → f.snippet = none → Path.holdsNul (Path.join root f.file) = false

/-- What becomes of a finding that gets its snippet from the files below `root`. -/
structure IsAttached (tree : Directory) (root : String) (f g : Finding) : Prop where
  /-- Nothing but the snippet changes. -/
  others : g = { f with snippet := g.snippet }
  /-- Without a line, or with a snippet, nothing changes at all. -/
  settled : f.line = none ∨ f.snippet ≠ none → g = f
  /-- Else the snippet is the one about the line of the finding in the text of its file. -/
  shown : ∀ line text, f.line = some line → f.snippet = none →
    tree.text (Path.join root f.file) = .ok text → g.snippet = extract text line
  /-- There is none if the file cannot be read. -/
  unread : ∀ fault, f.line ≠ none → f.snippet = none →
    tree.text (Path.join root f.file) = .error fault → g.snippet = none

variable {tree : Directory} {root : String} {findings : List Finding}

/-- A finding that gets its snippet by itself becomes what it should. -/
theorem isAttached_attachTo (tree : Directory) (root : String) (f : Finding) :
    IsAttached tree root f (attachTo (readText tree root) f) where
  others := by
    obtain ⟨snippet, h⟩ := Snippet.attachTo_eq_withSnippet (readText tree root) f
    rw [h]
  settled := Snippet.attachTo_of_settled
  shown := by
    intro line text hline hsnippet htext
    rw [Snippet.attachTo_of_line hline hsnippet, readText, htext]
    rfl
  unread := by
    intro fault hline hsnippet hfault
    obtain ⟨line, hline⟩ := Option.ne_none_iff_exists'.mp hline
    rw [Snippet.attachTo_of_line hline hsnippet, readText, hfault]
    rfl

/-- A finding is not refused just if its path is proper. -/
theorem checkPath_eq_ok_iff {f : Finding} : checkPath root f = .ok () ↔ HasProperPath root f := by
  unfold checkPath
  split
  next h =>
    rw [Bool.and_eq_true, awaitsText_iff] at h
    exact iff_of_false nofun fun hproper => by simp [hproper h.1.1 h.1.2] at h
  next h =>
    rw [Bool.and_eq_true, awaitsText_iff, not_and, Bool.not_eq_true] at h
    exact iff_of_true rfl fun hline hsnippet => h ⟨hline, hsnippet⟩

/-- Findings get their snippets just if their paths are proper, and then each gets the one that it
would get by itself. -/
theorem attachSnippets_eq_ok_iff {result : List Finding} :
    attachSnippets tree root findings = .ok result ↔
      (∀ f ∈ findings, HasProperPath root f) ∧
        findings.map (attachTo (readText tree root)) = result := by
  rw [attachSnippets, Outcome.bind_eq_ok_iff, Snippet.attach_eq_map]
  simp only [Outcome.pure_eq_ok_iff, exists_and_right, ← checkPath_eq_ok_iff,
    ← Outcome.forM_eq_ok_iff]
  exact and_congr_left fun _ => ⟨fun ⟨_, h⟩ => h, fun h => ⟨(), h⟩⟩

/-- Findings are refused just if the path of one of them is not proper. -/
theorem attachSnippets_eq_error_iff :
    attachSnippets tree root findings = .error .embeddedNul ↔
      ∃ f ∈ findings, ¬ HasProperPath root f := by
  cases h : attachSnippets tree root findings with
  | ok result =>
    obtain ⟨hproper, -⟩ := attachSnippets_eq_ok_iff.mp h
    refine iff_of_false nofun ?_
    rintro ⟨f, hf, himproper⟩
    exact himproper (hproper f hf)
  | error fault =>
    cases fault
    refine iff_of_true rfl ?_
    by_contra hnone
    have hproper : ∀ f ∈ findings, HasProperPath root f := by simpa using hnone
    rw [attachSnippets_eq_ok_iff.mpr ⟨hproper, rfl⟩] at h
    cases h

/-- Findings with proper paths keep them when they get their snippets. -/
theorem HasProperPath.attachTo {f : Finding} (h : HasProperPath root f)
    (read : String → Option String) : HasProperPath root (attachTo read f) := by
  by_cases hsettled : f.line = none ∨ f.snippet ≠ none
  · rwa [Snippet.attachTo_of_settled hsettled]
  · obtain ⟨hline, hsnippet⟩ := not_or.mp hsettled
    intro _ _
    rw [Snippet.attachTo_file]
    exact h hline (not_not.mp hsnippet)

/-- Findings get their snippets just if the path is proper of each whose text is to be looked for, and
are refused else. What comes out are as many findings in the same order, and each is what becomes of
the one in its place by itself. They do not change when they are to get their snippets again. -/
theorem attachSnippets_pointwise (tree : Directory) (root : String) (findings : List Finding) :
    (attachSnippets tree root findings = .error .embeddedNul ↔
      ∃ f ∈ findings, ¬ HasProperPath root f) ∧
    ((∀ f ∈ findings, HasProperPath root f) → ∃ result,
      attachSnippets tree root findings = .ok result ∧
      List.Forall₂ (IsAttached tree root) findings result ∧
      result = findings.map (attachTo (readText tree root)) ∧
      attachSnippets tree root result = .ok result) := by
  refine ⟨attachSnippets_eq_error_iff, fun hproper => ?_⟩
  have hagain : (findings.map (attachTo (readText tree root))).map (attachTo (readText tree root)) =
      findings.map (attachTo (readText tree root)) := by
    rw [List.map_map]
    exact List.map_congr_left fun f _ => Snippet.attachTo_attachTo _ f
  refine ⟨_, attachSnippets_eq_ok_iff.mpr ⟨hproper, rfl⟩, ?_, rfl,
    attachSnippets_eq_ok_iff.mpr ⟨?_, hagain⟩⟩
  · rw [List.forall₂_map_right_iff, List.forall₂_same]
    exact fun f _ => isAttached_attachTo tree root f
  · intro g hg
    obtain ⟨f, hf, rfl⟩ := List.mem_map.mp hg
    exact (hproper f hf).attachTo _

/-- A project with two files of source text. -/
def twoTexts : Directory :=
  [("a.ts", .file (Text.Utf8.encode "x\ny")), ("b.ts", .file (Text.Utf8.encode "z"))]

/-- A finding in a file of that project. -/
def findingIn (file : String) (line : Option Int) (snippet : Option String) : Finding :=
  ⟨file, "model-location", "m", "error", line, snippet⟩

/-- Findings in these files by turns, one with a snippet, one without a line, and one in a file that
does not exist. -/
def mixedFindings : List Finding :=
  [findingIn "a.ts" (some 2) none, findingIn "b.ts" (some 1) none,
    findingIn "a.ts" (some 1) (some "kept"), findingIn "c.ts" (some 1) none,
    findingIn "a.ts" none none, findingIn "a.ts" (some 1) none]

/-- They get the snippets that each would get by itself. -/
theorem attachSnippets_pointwise_mixed :
    (∀ f ∈ mixedFindings, HasProperPath "." f) ∧ ∃ result,
      attachSnippets twoTexts "." mixedFindings = .ok result ∧
      List.Forall₂ (IsAttached twoTexts ".") mixedFindings result ∧
      result.map (·.snippet) = [some "  1 | x\n> 2 | y", some "> 1 | z", some "kept", none, none,
        some "> 1 | x\n  2 | y"] ∧
      attachSnippets twoTexts "." result = .ok result := by
  have hproper : ∀ f ∈ mixedFindings, HasProperPath "." f := by
    unfold HasProperPath
    decide +kernel
  obtain ⟨result, hresult, hattached, rfl, hagain⟩ :=
    (attachSnippets_pointwise twoTexts "." mixedFindings).2 hproper
  exact ⟨hproper, _, hresult, hattached, by decide +kernel, hagain⟩

/-- Not all findings get their snippets: the text of one is looked for at a path that cannot be one. -/
theorem not_forall_exists_attachSnippets :
    ¬ ∀ (tree : Directory) (root : String) (findings : List Finding),
      ∃ result, attachSnippets tree root findings = .ok result := by
  intro h
  obtain ⟨result, hresult⟩ := h [] "." [findingIn "a\x00b" (some 1) none]
  have hrefused : attachSnippets [] "." [findingIn "a\x00b" (some 1) none] =
      .error .embeddedNul := by
    decide +kernel
  rw [hrefused] at hresult
  cases hresult

end Validation

end ModuleLint
