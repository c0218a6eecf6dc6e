import ModuleLint.Proofs.Records
import ModuleLint.Proofs.Strictness

/-!
# Colour is decoration

A text gets its style from sequences around it, each of which begins with an escape character. Pieces
without escape characters stay so whatever is cut out of them and whichever tabs of theirs are
expanded, so the sequences are all that colour adds: taken out of a report in colour, they leave the
report without colour. The argument goes along the way a report is written, piece by piece, line by
line and text by text.
-/

namespace ModuleLint

namespace Text

/-- A text has no escape character. -/
def IsPlain (cs : List Char) : Prop :=
  '\x1b' ∉ cs

instance (cs : List Char) : Decidable (IsPlain cs) :=
  inferInstanceAs (Decidable (¬ _))

/-- A character of the numbers in a sequence that selects a style. -/
def isParameter (c : Char) : Bool :=
  c.isDigit || c == ';'

/-- The length of the sequence that selects a style at the beginning of a text, or zero if there is
none. -/
def sgrLength : List Char → Nat
  | '\x1b' :: '[' :: cs =>
    let n := (cs.takeWhile isParameter).length
    if (cs.drop n).head? = some 'm' then n + 3 else 0
  | _ => 0

/-- A text without its first `skip` characters and without the sequences that select styles in what
is left. -/
def dropSgr : Nat → List Char → List Char
  | _, [] => []
  | skip + 1, _ :: cs => dropSgr skip cs
  | 0, c :: cs =>
    match sgrLength (c :: cs) with
    | 0 => c :: dropSgr 0 cs
    | n + 1 => dropSgr n cs

/-- A text without the sequences that select styles. -/
def withoutSgr (cs : List Char) : List Char :=
  dropSgr 0 cs

section Plain

variable {cs ds : List Char}

@[simp] theorem isPlain_nil : IsPlain [] := by simp [IsPlain]

@[simp] theorem isPlain_cons {c : Char} : IsPlain (c :: cs) ↔ c ≠ '\x1b' ∧ IsPlain cs := by
  simp [IsPlain, eq_comm]

@[simp] theorem isPlain_append : IsPlain (cs ++ ds) ↔ IsPlain cs ∧ IsPlain ds := by
  simp [IsPlain]

/-- A text is plain if its characters are those of a plain one, blanks and line feeds. -/
theorem IsPlain.of_forall_mem (h : IsPlain cs) (hmem : ∀ c ∈ ds, c ∈ cs ∨ c = ' ' ∨ c = '\n') :
    IsPlain ds := by
  intro hescape
  rcases hmem _ hescape with hcs | hblank | hfeed
  · exact h hcs
  · exact absurd hblank (by decide)
  · exact absurd hfeed (by decide)

/-- A text is plain if its characters are those of a plain one. -/
theorem IsPlain.of_subset (h : IsPlain cs) (hsubset : ds ⊆ cs) : IsPlain ds :=
  fun hescape => h (hsubset hescape)

/-- A number is plain. -/
theorem isPlain_toString_nat (n : Nat) : IsPlain (toString n).toList :=
  fun hmem => absurd (isDigit_of_mem_toString hmem) (by decide)

/-- An integer is plain. -/
theorem isPlain_toString_int (n : Int) : IsPlain (toString n).toList := by
  intro hmem
  rcases mem_toString_int hmem with hsign | hdigit
  · exact absurd hsign (by decide)
  · exact absurd hdigit (by decide)

/-- The pieces of a plain text are plain. -/
theorem IsPlain.of_mem_split (h : IsPlain cs) {sep : Char} (hds : ds ∈ split sep cs) : IsPlain ds :=
  h.of_subset (subset_of_mem_split hds)

/-- A text is what stands before a separator, the separator, and what stands behind it. -/
theorem eq_of_cutAt? {sep before after : List Char} (h : cutAt? sep cs = some (before, after)) :
    cs = before ++ sep ++ after := by
  induction cs generalizing before with
  | nil =>
    rw [cutAt?] at h
    split at h
    · next hsep => simp_all
    · cases h
  | cons c cs ih =>
    rw [cutAt?] at h
    split at h
    · next hsep =>
      obtain ⟨rfl, rfl⟩ := Prod.mk.inj (Option.some.inj h)
      exact (List.prefix_iff_eq_append.mp (List.isPrefixOf_iff_prefix.mp hsep)).symm
    · obtain ⟨⟨before', after'⟩, hcut, heq⟩ := Option.map_eq_some_iff.mp h
      obtain ⟨rfl, rfl⟩ := Prod.mk.inj heq
      rw [ih hcut]
      rfl

/-- Bringing line ends to one form adds line feeds alone. -/
theorem mem_of_mem_unifyLineEnds {c : Char} (h : c ∈ unifyLineEnds cs) : c ∈ cs ∨ c = '\n' := by
  fun_induction unifyLineEnds cs with grind

end Plain

/-- To skip characters is to drop them first. -/
theorem dropSgr_eq (skip : Nat) (cs : List Char) : dropSgr skip cs = withoutSgr (cs.drop skip) := by
  induction cs generalizing skip with
  | nil => simp [dropSgr, withoutSgr]
  | cons c cs ih =>
    cases skip with
    | zero => rfl
    | succ skip => rw [dropSgr, ih, List.drop_succ_cons]

/-- A sequence that selects a style is taken out. -/
theorem withoutSgr_of_sgrLength {cs : List Char} {n : Nat} (h : sgrLength cs = n + 1) :
    withoutSgr cs = withoutSgr (cs.drop (n + 1)) := by
  cases cs with
  | nil => cases h
  | cons c cs => rw [withoutSgr, dropSgr, h, List.drop_succ_cons, ← dropSgr_eq]

/-- A plain text is left as it is. -/
theorem withoutSgr_append {cs : List Char} (h : IsPlain cs) (rest : List Char) :
    withoutSgr (cs ++ rest) = cs ++ withoutSgr rest := by
  induction cs with
  | nil => rfl
  | cons c cs ih =>
    have hc : c ≠ '\x1b' := fun heq => h (heq ▸ List.mem_cons_self)
    have hcs : IsPlain cs := fun hmem => h (List.mem_cons_of_mem _ hmem)
    have hnone : sgrLength (c :: (cs ++ rest)) = 0 := by
      unfold sgrLength
      split
      · next heq => exact (hc (List.cons.inj heq).1).elim
      · rfl
    rw [List.cons_append, withoutSgr, dropSgr, hnone]
    exact congrArg (c :: ·) (ih hcs)

/-- The numbers of a style are written with parameter characters. -/
theorem isParameter_of_mem_numbers {codes : List Nat} {c : Char}
    (h : c ∈ (";".intercalate (codes.map toString)).toList) : isParameter c = true := by
  have hseparator : ∀ c ∈ ";".toList, isParameter c = true := by simp [isParameter]
  rcases mem_of_mem_intercalate h with hsep | ⟨s, hs, hdigit⟩
  · exact hseparator c hsep
  · obtain ⟨n, -, rfl⟩ := List.mem_map.mp hs
    rw [isParameter, isDigit_of_mem_toString hdigit, Bool.true_or]

/-- The sequence of a style is taken out. -/
theorem withoutSgr_escape (codes : List Nat) (rest : List Char) :
    withoutSgr (Style.escape codes ++ rest) = withoutSgr rest := by
  have hnumbers : ∀ c ∈ (";".intercalate (codes.map toString)).toList, isParameter c = true :=
    fun c hc => isParameter_of_mem_numbers hc
  rw [Style.escape]
  generalize (";".intercalate (codes.map toString)).toList = numbers at hnumbers
  have htake : (numbers ++ 'm' :: rest).takeWhile isParameter = numbers := by
    rw [List.takeWhile_append_of_pos hnumbers]
    simp [isParameter]
  have hlength : sgrLength ('\x1b' :: '[' :: (numbers ++ 'm' :: rest)) = numbers.length + 2 + 1 := by
    simp [sgrLength, htake]
  have hmark : '\x1b' :: '[' :: numbers ++ ['m'] ++ rest =
      '\x1b' :: '[' :: (numbers ++ 'm' :: rest) := by simp
  rw [hmark, withoutSgr_of_sgrLength hlength]
  simp

/-- A text without the sequences that select styles is another text, wherever it stands, and that
one is plain. -/
structure Decorates (coloured text : List Char) : Prop where
  /-- Without the sequences in it, the one is the other. -/
  withoutSgr_append : ∀ rest, withoutSgr (coloured ++ rest) = text ++ withoutSgr rest
  /-- The other is plain. -/
  isPlain : IsPlain text

namespace Decorates

variable {coloured coloured' text text' : List Char}

/-- A plain text decorates itself. -/
theorem of_isPlain (h : IsPlain text) : Decorates text text :=
  ⟨Text.withoutSgr_append h, h⟩

/-- Texts that decorate others do so in a row. -/
theorem append (h : Decorates coloured text) (h' : Decorates coloured' text') :
    Decorates (coloured ++ coloured') (text ++ text') := by
  refine ⟨fun rest => ?_, isPlain_append.mpr ⟨h.isPlain, h'.isPlain⟩⟩
  rw [List.append_assoc, h.withoutSgr_append, h'.withoutSgr_append, List.append_assoc]

/-- A plain text in a style decorates that text. -/
theorem paint (h : IsPlain text) (s : Style) : Decorates (s.paint text) text := by
  rw [Style.paint]
  split
  · exact of_isPlain h
  · refine ⟨fun rest => ?_, h⟩
    rw [List.append_assoc, List.append_assoc, withoutSgr_escape, Text.withoutSgr_append h,
      withoutSgr_escape]

variable {α : Type} {xs : List α} {f g : α → List Char}

/-- Texts that decorate others do so one after the other. -/
theorem flatMap (h : ∀ x ∈ xs, Decorates (f x) (g x)) : Decorates (xs.flatMap f) (xs.flatMap g) := by
  induction xs with
  | nil => exact of_isPlain isPlain_nil
  | cons x xs ih =>
    rw [List.flatMap_cons, List.flatMap_cons]
    exact (h x List.mem_cons_self).append (ih fun y hy => h y (List.mem_cons_of_mem _ hy))

/-- Texts that decorate others do so with a plain text between each two. -/
theorem joinWith {sep : List Char} (hsep : IsPlain sep) (h : ∀ x ∈ xs, Decorates (f x) (g x)) :
    Decorates (Text.joinWith sep (xs.map f)) (Text.joinWith sep (xs.map g)) := by
  induction xs with
  | nil => exact of_isPlain isPlain_nil
  | cons x xs ih =>
    have hx : Decorates (f x) (g x) := h x List.mem_cons_self
    have hxs := ih fun y hy => h y (List.mem_cons_of_mem _ hy)
    cases xs with
    | nil => exact hx
    | cons y ys => exact (hx.append (of_isPlain hsep)).append hxs

/-- What decorates a text is that text without the sequences that select styles. -/
theorem withoutSgr_eq (h : Decorates coloured text) : withoutSgr coloured = text := by
  have heq := h.withoutSgr_append []
  have hnil : withoutSgr [] = [] := rfl
  rwa [List.append_nil, hnil, List.append_nil] at heq

end Decorates

end Text

open Text (IsPlain Decorates)

namespace StyledText

/-- No piece of a styled text has an escape character. -/
def IsPlain (text : StyledText) : Prop :=
  ∀ p ∈ text, Text.IsPlain p.text

variable {text line : StyledText} {p : Piece}

@[simp] theorem isPlain_nil : IsPlain [] := by simp [IsPlain]

@[simp] theorem isPlain_cons : IsPlain (p :: text) ↔ Text.IsPlain p.text ∧ IsPlain text := by
  simp [IsPlain]

@[simp] theorem isPlain_append {more : StyledText} :
    IsPlain (text ++ more) ↔ IsPlain text ∧ IsPlain more := by
  simp only [IsPlain, List.forall_mem_append]

/-- A styled text stays plain without the controls that move the cursor. -/
theorem IsPlain.withoutControls (h : IsPlain text) : IsPlain (text.map withoutControls) := by
  rw [IsPlain, List.forall_mem_map]
  exact fun p hp => (h p hp).of_subset (List.filter_subset_self _)

/-- The lines that a piece makes are plain if the piece and the lines that follow are. -/
theorem isPlain_of_mem_cutPiece {style : Style} {following : List StyledText}
    (hfollowing : ∀ line ∈ following, IsPlain line) {pieces : List (List Char)}
    (hpieces : ∀ cs ∈ pieces, Text.IsPlain cs) (h : line ∈ cutPiece style following pieces) :
    IsPlain line := by
  fun_induction cutPiece style following pieces with
  | case1 => exact hfollowing line h
  | case2 cs =>
    have hcs : Text.IsPlain cs := hpieces cs (by simp)
    cases following with
    | nil => simp_all [onFirst]
    | cons first rest =>
      simp only [onFirst, List.mem_cons] at h
      rcases h with rfl | h
      · exact isPlain_cons.mpr ⟨hcs, hfollowing first List.mem_cons_self⟩
      · exact hfollowing line (List.mem_cons_of_mem _ h)
  | case3 cs rest hrest ih =>
    rcases List.mem_cons.mp h with rfl | h
    · exact isPlain_cons.mpr ⟨hpieces cs List.mem_cons_self, isPlain_nil⟩
    · exact ih (fun ds hds => hpieces ds (List.mem_cons_of_mem _ hds)) h

/-- The lines of a plain text are plain. -/
theorem IsPlain.of_mem_lines (h : IsPlain text) (hline : line ∈ lines text) : IsPlain line := by
  induction text generalizing line with
  | nil => simp_all [lines]
  | cons p text ih =>
    obtain ⟨hp, htext⟩ := isPlain_cons.mp h
    exact isPlain_of_mem_cutPiece (fun _ => ih htext) (fun _ => hp.of_mem_split) hline

/-- What is cut after its tabs is made of its parts. -/
theorem flatten_cutAfterTabs (cs : List Char) : (cutAfterTabs cs).flatten = cs := by
  fun_induction cutAfterTabs cs <;> simp_all

/-- A part stays plain when its tab is expanded. -/
theorem isPlain_expandPart {cs : List Char} (h : Text.IsPlain cs) (column : Nat) :
    Text.IsPlain (expandPart column cs) := by
  refine h.of_forall_mem fun c hc => ?_
  rw [expandPart] at hc
  split at hc
  · rcases List.mem_append.mp hc with hbefore | hblank
    · exact .inl (List.dropLast_subset _ hbefore)
    · exact .inr (.inl (List.eq_of_mem_replicate hblank))
  · exact .inl hc

/-- Parts stay plain when their tabs are expanded. -/
theorem isPlain_expandParts {parts : List (List Char)} (h : ∀ part ∈ parts, Text.IsPlain part)
    (style : Style) (column : Nat) : IsPlain (expandParts style column parts).1 := by
  induction parts generalizing column with
  | nil => exact isPlain_nil
  | cons part parts ih =>
    exact isPlain_cons.mpr ⟨isPlain_expandPart (h part List.mem_cons_self) column,
      ih (fun cs hcs => h cs (List.mem_cons_of_mem _ hcs)) _⟩

/-- A line stays plain when its tabs are expanded. -/
theorem IsPlain.expandTabs (h : IsPlain line) (column : Nat) :
    IsPlain (line.expandTabs column) := by
  induction line generalizing column with
  | nil => exact isPlain_nil
  | cons p line ih =>
    obtain ⟨hp, hline⟩ := isPlain_cons.mp h
    have hparts : ∀ part ∈ cutAfterTabs p.text, Text.IsPlain part := fun part hpart =>
      hp.of_subset fun c hc => flatten_cutAfterTabs p.text ▸ List.mem_flatten_of_mem hpart hc
    exact isPlain_append.mpr ⟨isPlain_expandParts hparts p.style column, ih hline _⟩

/-- A plain line in colour decorates that line. -/
theorem IsPlain.decorates_writeLine (h : IsPlain line) :
    Decorates (line.writeLine true) (line.writeLine false) := by
  have hpieces {pieces : StyledText} (hpieces : IsPlain pieces) :
      Decorates (pieces.flatMap (Piece.write true)) (pieces.flatMap (Piece.write false)) :=
    .flatMap fun p hp => .paint (hpieces p hp) p.style
  rw [writeLine, writeLine]
  split
  · exact hpieces (h.expandTabs 0)
  · exact hpieces h

/-- A plain text in colour decorates that text. -/
theorem IsPlain.decorates_write (h : IsPlain text) :
    Decorates (text.write true) (text.write false) := by
  have hfeed : Text.IsPlain ['\n'] := by decide
  refine .append (.joinWith hfeed fun line hline => ?_) (.of_isPlain hfeed)
  exact (h.withoutControls.of_mem_lines hline).decorates_writeLine

end StyledText

namespace Highlight

variable {code : List Char}

/-- Expanding tabs adds blanks alone. -/
theorem mem_of_mem_expandTabs {column : Nat} {c : Char} (h : c ∈ expandTabs column code) :
    c ∈ code ∨ c = ' ' := by
  fun_induction expandTabs column code with grind

/-- Plain code is plain as it is shown. -/
theorem isPlain_shown (h : IsPlain code) : IsPlain (shown code) := by
  refine h.of_forall_mem fun c hc => ?_
  rcases mem_of_mem_expandTabs hc with hc | hblank
  · rcases Text.mem_of_mem_unifyLineEnds hc with hc | hfeed
    · -- A byte order mark at the beginning is not shown.
      split at hc
      · exact .inl (List.mem_cons_of_mem _ hc)
      · exact .inl hc
    · exact .inr (.inr hfeed)
  · exact .inr (.inl hblank)

/-- Joining neighbours changes nothing in the text of the lexemes. -/
theorem flatMap_joinOthers (ls : List (Kind × List Char)) :
    (joinOthers ls).flatMap (·.2) = ls.flatMap (·.2) := by
  fun_induction joinOthers ls <;> simp_all

/-- The lexemes of a plain text are plain, joined or not. -/
theorem isPlain_of_mem_joinOthers {ls : List (Kind × List Char)} (h : IsPlain (ls.flatMap (·.2)))
    {l : Kind × List Char} (hl : l ∈ joinOthers ls) : IsPlain l.2 :=
  h.of_subset fun _ hc => flatMap_joinOthers ls ▸ List.mem_flatMap.mpr ⟨l, hl, hc⟩

/-- Dropping a line feed leaves pieces of a plain text plain. -/
theorem isPlain_dropLineEnd {text : StyledText} (h : text.IsPlain) : (dropLineEnd text).IsPlain := by
  fun_induction dropLineEnd text with
  | case1 => exact h
  | case2 p =>
    rw [StyledText.isPlain_cons] at h ⊢
    refine ⟨h.1.of_subset ?_, h.2⟩
    split
    · exact List.dropLast_subset _
    · exact List.Subset.refl _
  | case3 p ps hps ih =>
    rw [StyledText.isPlain_cons] at h ⊢
    exact ⟨h.1, ih h.2⟩

/-- Plain code stays plain when its lexemes get their styles. -/
theorem isPlain_highlight (h : IsPlain code) (dim : Bool) : (highlight dim code).IsPlain := by
  refine isPlain_dropLineEnd (List.forall_mem_map.mpr fun l hl => ?_)
  refine isPlain_of_mem_joinOthers ?_ hl
  rw [flatMap_lexemes]
  split
  · exact isPlain_shown h
  · exact Text.isPlain_append.mpr ⟨isPlain_shown h, by decide⟩

end Highlight

/-- The texts of a finding. -/
def Finding.strings (f : Finding) : List String :=
  [f.file, f.rule, f.message, f.severity] ++ f.snippet.toList

/-- The texts of a report. -/
def Report.strings (r : Report) : List String :=
  r.findings.flatMap Finding.strings ++ r.modules

namespace Report.Terminal

variable {f : Finding} {r : Report} {text : StyledText}

/-- A plain row of a snippet stays plain. -/
theorem isPlain_snippetRow {row : List Char} (h : IsPlain row) (severity : String) :
    (snippetRow severity row).IsPlain := by
  rw [snippetRow]
  split
  · simp [Piece.of, h]
  · next number code hcut =>
    obtain ⟨⟨hnumber, -⟩, hcode⟩ : (IsPlain number ∧ IsPlain " | ".toList) ∧ IsPlain code := by
      rwa [Text.eq_of_cutAt? hcut, Text.isPlain_append, Text.isPlain_append] at h
    simp [Piece.of, hnumber, Highlight.isPlain_highlight hcode]

/-- Where a plain finding lies is plain. -/
theorem isPlain_location (h : IsPlain f.file.toList) : IsPlain (location f).toList := by
  rw [location]
  split
  · exact h
  · have hcolon : IsPlain ":".toList := by simp
    simp only [String.toList_append, Text.isPlain_append, Text.isPlain_toString_int, h, hcolon,
      and_self]

/-- What a plain finding says is plain. -/
theorem isPlain_message (hrule : IsPlain f.rule.toList) (hmessage : IsPlain f.message.toList) :
    (message f).IsPlain := by
  have hmark : IsPlain (mark f.severity).toList := by
    rw [mark]
    split_ifs <;> simp
  simp [message, Piece.of, hrule, hmessage, hmark]

/-- The rows of a plain snippet are plain. -/
theorem isPlain_of_mem_snippetRows (h : ∀ s ∈ f.snippet, IsPlain s.toList)
    (htext : text ∈ snippetRows f) : text.IsPlain := by
  rw [snippetRows] at htext
  split at htext
  · cases htext
  · cases htext
  · next snippet _ hsnippet =>
    obtain ⟨row, hrow, rfl⟩ := List.mem_map.mp htext
    exact isPlain_snippetRow ((h snippet hsnippet).of_mem_split hrow) _

/-- The texts about a plain finding are plain. -/
theorem isPlain_of_mem_finding (h : ∀ s ∈ f.strings, IsPlain s.toList) (htext : text ∈ finding f) :
    text.IsPlain := by
  simp only [Finding.strings, List.forall_mem_append, List.forall_mem_cons,
    Option.mem_toList] at h
  obtain ⟨⟨hfile, hrule, hmessage, -⟩, hsnippet⟩ := h
  simp only [finding, List.mem_append, List.mem_cons, List.not_mem_nil, or_false] at htext
  rcases htext with ((rfl | rfl) | hrow) | rfl
  · exact StyledText.isPlain_cons.mpr ⟨isPlain_location hfile, StyledText.isPlain_nil⟩
  · exact isPlain_message hrule hmessage
  · exact isPlain_of_mem_snippetRows hsnippet hrow
  · exact StyledText.isPlain_nil

/-- The texts about plain findings under a plain title are plain. -/
theorem isPlain_of_mem_section {title : String} (htitle : IsPlain title.toList)
    {fs : List Finding} (h : ∀ f ∈ fs, ∀ s ∈ f.strings, IsPlain s.toList)
    (htext : text ∈ section_ title fs) : text.IsPlain := by
  cases fs with
  | nil => cases htext
  | cons f fs =>
    simp only [section_, List.mem_append, List.mem_cons, List.not_mem_nil, or_false] at htext
    rcases htext with (rfl | rfl) | hfinding
    · have hopening : IsPlain " (".toList := by simp
      have hclosing : IsPlain ")".toList := by simp
      simp only [Piece.of, StyledText.isPlain_cons, StyledText.isPlain_nil, String.toList_append,
        Text.isPlain_append, Text.isPlain_toString_nat, htitle, hopening, hclosing, and_self]
    · exact StyledText.isPlain_nil
    · obtain ⟨g, hg, htext⟩ := List.mem_flatMap.mp hfinding
      exact isPlain_of_mem_finding (h g hg) htext

/-- A count with a plain noun is plain. -/
theorem isPlain_counted (n : Int) {noun : String} (h : IsPlain noun.toList) :
    IsPlain (counted n noun).toList := by
  have hblank : IsPlain " ".toList := by simp
  have hplural : IsPlain (if n = 1 then "" else "s").toList := by split_ifs <;> simp
  unfold counted
  simp only [String.toList_append, Text.isPlain_append, Text.isPlain_toString_int, h, hblank,
    hplural, and_self]

/-- The texts about what a plain report has found are plain. -/
theorem isPlain_of_mem_findings (h : ∀ f ∈ r.findings, ∀ s ∈ f.strings, IsPlain s.toList)
    (htext : text ∈ findings r) : text.IsPlain := by
  rw [findings] at htext
  split at htext
  · cases htext
  · simp only [List.mem_append, List.mem_cons, List.not_mem_nil, or_false] at htext
    obtain ⟨herrors, hwarnings⟩ := List.forall_mem_append.mp h
    rcases htext with ((rfl | rfl) | herror) | hwarning
    · have hcounts : IsPlain (counted r.errors.length "error").toList ∧
          IsPlain (counted r.warnings.length "warning").toList :=
        ⟨isPlain_counted _ (by simp), isPlain_counted _ (by simp)⟩
      simp [Piece.of, hcounts]
    · exact StyledText.isPlain_nil
    · exact isPlain_of_mem_section (by simp) herrors herror
    · exact isPlain_of_mem_section (by simp) hwarnings hwarning

/-- How much was looked at is plain. -/
theorem isPlain_scope (r : Report) : (scope r).IsPlain := by
  have hfiles : IsPlain (counted r.checkedFiles "file").toList := isPlain_counted _ (by simp)
  have hmodules : IsPlain (counted r.modules.length "module").toList := isPlain_counted _ (by simp)
  simp [scope, Piece.of, hfiles, hmodules]

/-- What can be written last is plain. -/
theorem isPlain_of_mem {p : Piece} (h : p ∈ [failed, passed, completed, hint]) :
    IsPlain p.text := by
  revert p
  decide +kernel

/-- The lines of a plain report before the last one are plain. -/
theorem isPlain_of_mem_linesBefore {strict : Bool}
    (h : ∀ f ∈ r.findings, ∀ s ∈ f.strings, IsPlain s.toList)
    (htext : text ∈ linesBefore r strict) : text.IsPlain := by
  rw [linesBefore, List.mem_append, List.mem_cons] at htext
  rcases htext with hfindings | rfl | hcompleted
  · exact isPlain_of_mem_findings h hfindings
  · exact isPlain_scope r
  · split at hcompleted
    · obtain rfl := List.mem_singleton.mp hcompleted
      exact StyledText.isPlain_cons.mpr ⟨isPlain_of_mem (by simp), StyledText.isPlain_nil⟩
    · cases hcompleted

end Report.Terminal

namespace Report

open Terminal

/-- A report on a line that begins with a tab and ends in a comment. -/
def emittingReport : Report where
  errors := [⟨"src/user/user.resolver.ts", "event-in-resolver", "Events belong in services",
    "error", some 7, some "  6 |\n> 7 | \tthis.emit('made'); // done\r"⟩]
  checkedFiles := 4
  modules := ["user"]

end Report

end ModuleLint
