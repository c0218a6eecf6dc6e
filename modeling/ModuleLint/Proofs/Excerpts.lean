import Mathlib
import ModuleLint.Proofs.Locations
import ModuleLint.Proofs.OneLine

/-!
# What snippets show

The snippet of a finding shows the line of the finding and the lines next to it, as they stand in
the file, each with its number. The mark stands before the line of the finding and before no other.
A finding has a snippet just if it has a line.
-/

namespace ModuleLint

open ModuleLint.Text (CharacterNames)

namespace Text

/-- Pieces are put together as the library does it. -/
theorem joinWith_eq_intercalate (sep : List Char) (pieces : List (List Char)) :
    joinWith sep pieces = sep.intercalate pieces := by
  fun_induction joinWith sep pieces with
  | case1 => rfl
  | case2 piece => simp
  | case3 piece pieces hpieces ih =>
    cases pieces with
    | nil => exact (hpieces rfl).elim
    | cons next pieces => rw [ih, List.intercalate_cons_cons]

/-- Pieces without the separator come back when they are put together and cut again. -/
theorem split_joinWith {sep : Char} {pieces : List (List Char)} (hne : pieces ≠ [])
    (hpieces : ∀ piece ∈ pieces, sep ∉ piece) : split sep (joinWith [sep] pieces) = pieces := by
  rw [joinWith_eq_intercalate, split_eq_splitOn, List.splitOn_intercalate sep hpieces hne]

/-- A text has one more piece than separators. -/
theorem length_split (sep : Char) (cs : List Char) :
    (split sep cs).length = cs.count sep + 1 := by
  induction cs with
  | nil => rfl
  | cons c cs ih =>
    rw [split]
    split
    next hc => rw [hc, List.length_cons, ih, List.count_cons_self]
    next hc =>
      rw [List.count_cons_of_ne hc]
      split
      next heq => simp [heq] at ih
      next heq => simpa [heq] using ih

end Text

namespace Snippet

/-- The lines of a text. -/
def linesOf (content : String) : List (List Char) :=
  Text.split '\n' content.toList

/-- A text has at least one line. -/
theorem length_linesOf_pos (content : String) : 0 < (linesOf content).length := by
  rw [linesOf, Text.length_split]
  exact Nat.succ_pos _

/-- A row shows a line: after a mark and a blank comes the number of the line, which may be pushed
to the right, and then, behind a bar, what the line reads. -/
def Shows (mark : Char) (number : Nat) (text row : List Char) : Prop :=
  ∃ pad, row = mark :: ' ' :: (List.replicate pad ' ' ++ (toString number).toList ++
    " | ".toList ++ text)

/-- The first line that an excerpt about a line shows. -/
def firstShown (target : Nat) : Nat := max 1 (target - 1)

/-- A snippet is the excerpt about a line of a text: its rows show the lines from the one before to
the one after, as far as there are such lines, and just one of them is marked, that of the line. -/
structure IsExcerpt (content : String) (target : Nat) (snippet : String) : Prop where
  inText : 1 ≤ target ∧ target ≤ (linesOf content).length
  length : (linesOf snippet).length =
    min (linesOf content).length (target + 1) + 1 - firstShown target
  rows : ∀ (i : Nat) (row : List Char), (linesOf snippet)[i]? = some row →
    ∃ text, (linesOf content)[firstShown target + i - 1]? = some text ∧
      Shows (if firstShown target + i = target then '>' else ' ') (firstShown target + i) text row
  marked : ∃ i row text, (linesOf snippet)[i]? = some row ∧
    (linesOf content)[target - 1]? = some text ∧ Shows '>' target text row ∧
    ∀ (j : Nat) (other : List Char), (linesOf snippet)[j]? = some other →
      other.head? = some '>' → j = i

/-- The lines with numbers between two bounds are a stretch of the lines. -/
theorem filter_zipIdx {α : Type} (low high : Nat) (items : List α) (start : Nat) :
    (items.zipIdx start).filter (fun l => decide (low ≤ l.2) && decide (l.2 ≤ high)) =
      ((items.take (high + 1 - start)).drop (low - start)).zipIdx (max low start) := by
  induction items generalizing start with
  | nil => simp
  | cons item items ih =>
    rw [List.zipIdx_cons, List.filter_cons, ih]
    by_cases hlow : low ≤ start
    · by_cases hhigh : start ≤ high
      · have htake : high + 1 - start = (high + 1 - (start + 1)) + 1 := by omega
        have hdrop : low - start = 0 ∧ low - (start + 1) = 0 := by omega
        have hmax : max low start = start ∧ max low (start + 1) = start + 1 := by omega
        simp [hlow, hhigh, htake, hdrop, hmax]
      · have htake : high + 1 - start = 0 ∧ high + 1 - (start + 1) = 0 := by omega
        simp [hhigh, htake]
    · have hdrop : low - start = (low - (start + 1)) + 1 := by omega
      have hmax : max low start = max low (start + 1) := by omega
      simp only [hlow, decide_false, Bool.false_and, Bool.false_eq_true, if_false, hmax, hdrop]
      by_cases hhigh : start ≤ high
      · have htake : high + 1 - start = (high + 1 - (start + 1)) + 1 := by omega
        rw [htake, List.take_succ_cons, List.drop_succ_cons]
      · have htake : high + 1 - start = 0 ∧ high + 1 - (start + 1) = 0 := by omega
        simp [htake]

section Around

variable {lines : List (List Char)} {target : Nat}

/-- The lines around a line, with their numbers. -/
theorem around_eq (htarget : 1 ≤ target) :
    around target lines =
      ((lines.take (target + 1)).drop (firstShown target - 1)).zipIdx (firstShown target) := by
  have htest (l : List Char × Nat) :
      (decide ((target : Int) - 1 ≤ l.2) && decide ((l.2 : Int) ≤ target + 1)) =
        (decide (target - 1 ≤ l.2) && decide (l.2 ≤ target + 1)) := by
    congr 2
    · exact propext (by omega)
    · exact propext (by omega)
  have hdrop : target - 1 - 1 = firstShown target - 1 := by
    rw [firstShown]
    omega
  rw [around]
  simp only [htest]
  rw [filter_zipIdx, hdrop, Nat.max_comm, Nat.add_sub_cancel]
  rfl

/-- How many lines stand around a line. -/
theorem length_around (htarget : 1 ≤ target) :
    (around target lines).length =
      min lines.length (target + 1) + 1 - firstShown target := by
  rw [around_eq htarget, List.length_zipIdx, List.length_drop, List.length_take, firstShown]
  omega

/-- The lines around a line have numbers one after another. -/
theorem exists_of_getElem?_around (htarget : 1 ≤ target) {i : Nat} {l : List Char × Nat}
    (h : (around target lines)[i]? = some l) :
    lines[firstShown target + i - 1]? = some l.1 ∧ l.2 = firstShown target + i := by
  rw [around_eq htarget, List.getElem?_zipIdx, List.getElem?_drop] at h
  obtain ⟨text, htext, rfl⟩ := Option.map_eq_some_iff.mp h
  have hindex : firstShown target - 1 + i = firstShown target + i - 1 := by
    rw [firstShown]
    omega
  rw [List.getElem?_take, hindex] at htext
  split at htext
  · exact ⟨htext, rfl⟩
  · cases htext

end Around

/-- A row shows its line, and is marked if the line is the one in question. -/
theorem shows_row (target width : Nat) (text : List Char) (number : Nat) :
    Shows (if number = target then '>' else ' ') number text (row target width text number) := by
  have hmark : (if (number : Int) = target then '>' else ' ') =
      if number = target then '>' else ' ' := by
    simp only [Int.ofNat_inj]
  refine ⟨width - (toString number).toList.length, ?_⟩
  simp only [row, rightAligned, hmark, List.cons_append, List.append_assoc]

/-- A row shows one mark only. -/
theorem Shows.head? {mark : Char} {number : Nat} {text row : List Char}
    (h : Shows mark number text row) : row.head? = some mark := by
  obtain ⟨pad, rfl⟩ := h
  rfl

/-- A row that shows a line goes over one line. -/
theorem Shows.newline_notMem {mark : Char} {number : Nat} {text row : List Char}
    (h : Shows mark number text row) (hmark : mark ≠ '\n') (htext : '\n' ∉ text) :
    '\n' ∉ row := by
  obtain ⟨pad, rfl⟩ := h
  have hdigits : '\n' ∉ Nat.toDigits 10 number := fun hmem =>
    absurd (Nat.isDigit_of_mem_toDigits (by decide) (by decide) hmem) (by decide)
  simp [hmark.symm, hdigits, htext, List.mem_replicate]

/-- The snippet about a line of a text, or about the one behind the last, has the rows about the lines
around it. -/
theorem exists_extract {content : String} {target : Nat} (htarget : 1 ≤ target)
    (hlines : target ≤ (linesOf content).length + 1) :
    ∃ snippet, extract content target = some snippet ∧
      linesOf snippet = (around target (linesOf content)).map fun l =>
        row target (numberWidth (around target (linesOf content))) l.1 l.2 := by
  have hpos := length_linesOf_pos content
  have hne : around target (linesOf content) ≠ [] := by
    refine List.ne_nil_of_length_pos ?_
    rw [length_around htarget, firstShown]
    omega
  have hnewline (width : Nat) :
      ∀ r ∈ (around target (linesOf content)).map (fun l => row target width l.1 l.2),
        '\n' ∉ r := by
    intro r hr
    obtain ⟨l, hl, rfl⟩ := List.mem_map.mp hr
    obtain ⟨i, hi⟩ := List.getElem?_of_mem hl
    have htext := List.mem_of_getElem? (exists_of_getElem?_around htarget hi).1
    refine (shows_row target width l.1 l.2).newline_notMem ?_ (Text.notMem_of_mem_split htext)
    split <;> decide
  rw [extract, if_neg (by omega)]
  split
  next hempty => exact (hne hempty).elim
  next =>
    refine ⟨_, rfl, ?_⟩
    rw [linesOf, String.toList_ofList]
    exact Text.split_joinWith (fun hempty => hne (List.map_eq_nil_iff.mp hempty)) (hnewline _)

/-- The snippet about a line of a text is the excerpt about it. -/
theorem exists_isExcerpt {content : String} {target : Nat} (htarget : 1 ≤ target)
    (hlines : target ≤ (linesOf content).length) :
    ∃ snippet, extract content target = some snippet ∧ IsExcerpt content target snippet := by
  obtain ⟨snippet, hsnippet, hrows⟩ := exists_extract htarget (Nat.le_succ_of_le hlines)
  generalize numberWidth (around target (linesOf content)) = width at hrows
  refine ⟨snippet, hsnippet, ⟨htarget, hlines⟩, ?_, ?_, ?_⟩
  · rw [hrows, List.length_map, length_around htarget]
  · intro i r hr
    rw [hrows, List.getElem?_map] at hr
    obtain ⟨l, hl, rfl⟩ := Option.map_eq_some_iff.mp hr
    obtain ⟨htext, hnumber⟩ := exists_of_getElem?_around htarget hl
    exact ⟨l.1, htext, hnumber ▸ shows_row target width l.1 l.2⟩
  · have hfirst : firstShown target ≤ target ∧ target ≤ firstShown target + 1 := by
      rw [firstShown]
      omega
    have hlength : target - firstShown target < (around target (linesOf content)).length := by
      rw [length_around htarget]
      omega
    have hl := List.getElem?_eq_getElem hlength
    generalize (around target (linesOf content))[target - firstShown target] = l at hl
    obtain ⟨htext, hnumber⟩ := exists_of_getElem?_around htarget hl
    rw [Nat.add_sub_of_le hfirst.1] at htext hnumber
    refine ⟨target - firstShown target, row target width l.1 l.2, l.1, ?_, htext, ?_, ?_⟩
    · rw [hrows, List.getElem?_map, hl]
      rfl
    · simpa [hnumber] using shows_row target width l.1 l.2
    · intro j other hother hmark
      rw [hrows, List.getElem?_map] at hother
      obtain ⟨l', hl', rfl⟩ := Option.map_eq_some_iff.mp hother
      have hnumber' := (exists_of_getElem?_around htarget hl').2
      rw [(shows_row target width l'.1 l'.2).head?] at hmark
      split at hmark
      · omega
      · cases hmark

end Snippet

namespace Validation

open ModuleLint.Snippet (IsExcerpt)

/-- In every report, a finding without a line has no snippet, and the snippet of a finding with a
line is the excerpt about that line of the file it names. -/
theorem snippet_of_mem_findings [CharacterNames] {tree : Directory} {root : String}
    {switches : Option (List (Data × Data))} {config : Config} {report : Report}
    (h : validate tree root switches config = .ok report) :
    ∀ g ∈ report.findings, (g.line = none → g.snippet = none) ∧
      ∀ line, g.line = some line → ∃ (number : Nat) (text snippet : String), line = number ∧
        readText tree root g.file = some text ∧ g.snippet = some snippet ∧
        IsExcerpt text number snippet := by
  obtain ⟨-, rules, -, paths, -, rfl⟩ := validate_eq_ok_iff.mp h
  intro g hg
  obtain ⟨g', hg', hnone, rfl⟩ := Survey.exists_of_mem_report hg
  rw [Snippet.attachTo_line, Snippet.attachTo_file]
  constructor
  · intro hline
    rw [Snippet.attachTo, hline]
    exact hnone
  · intro line hline
    obtain ⟨text, htext, hfirst, hlast⟩ := exists_readText hg' hline
    obtain ⟨number, rfl⟩ : ∃ number : Nat, line = number := ⟨line.toNat, by omega⟩
    have hlines : number ≤ (Snippet.linesOf text).length := by
      rw [Snippet.linesOf, Text.length_split]
      omega
    obtain ⟨snippet, hsnippet, hexcerpt⟩ := Snippet.exists_isExcerpt (by omega) hlines
    refine ⟨number, text, snippet, rfl, htext, ?_, hexcerpt⟩
    rw [Snippet.attachTo, hline, hnone, htext]
    exact hsnippet

/-- A project with an input type that checks the type of its field. -/
def checkedProject : Directory :=
  [("src", .directory [("a", .directory [("a.input.ts", .file (Text.Utf8.encode
    "@InputType()\nclass A \x7b\n  @Field()\n  @IsString()\n  b: string;\n\x7d"))])])]

/-- The snippet of the finding in that project is the excerpt about the fourth line of the file. -/
theorem snippet_of_mem_findings_checked :
    ∃ report, validate checkedProject "" none {} = .ok report ∧
      ∃ g ∈ report.findings, g.line = some 4 ∧
        g.snippet = some "  3 |   @Field()\n> 4 |   @IsString()\n  5 |   b: string;" ∧
        ∃ text snippet, readText checkedProject "" g.file = some text ∧
          g.snippet = some snippet ∧ IsExcerpt text 4 snippet := by
  have hpaths : Discovery.discover checkedProject "" {} = .ok ["src/a/a.input.ts"] := by cbv
  have hrun : validate checkedProject "" none {} =
      .ok ((Survey.ofPaths [".ts"] ["src/a/a.input.ts"] (Parsing.ofFile checkedProject "")).report
        {} (readText checkedProject "")) :=
    validate_eq_ok_iff.mpr ⟨rfl, {}, rfl, _, hpaths, rfl⟩
  obtain ⟨g, hg, hline, hshown⟩ : ∃ g ∈ ((Survey.ofPaths [".ts"] ["src/a/a.input.ts"]
      (Parsing.ofFile checkedProject "")).report {} (readText checkedProject "")).findings,
      g.line = some 4 ∧
        g.snippet = some "  3 |   @Field()\n> 4 |   @IsString()\n  5 |   b: string;" := by
    decide +kernel
  obtain ⟨number, text, snippet, hnumber, htext, hsnippet, hexcerpt⟩ :=
    (snippet_of_mem_findings hrun g hg).2 4 hline
  obtain rfl : number = 4 := by omega
  exact ⟨_, hrun, g, hg, hline, hshown, text, snippet, htext, hsnippet, hexcerpt⟩

end Validation

end ModuleLint
