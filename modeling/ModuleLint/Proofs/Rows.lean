import ModuleLint.Proofs.Excerpts

/-!
# Rows of snippets

The rows of a snippet show the line in question and the lines next to it, with numbers in a column that
is as wide as the last of them. Just the line in question is marked. The line behind the last one of a
text has a snippet, too: it shows that last line, and no line is marked.
-/

namespace ModuleLint.Snippet

/-- The last line of a text with so many lines that an excerpt about a line shows. -/
def lastShown (count target : Nat) : Nat := min count (target + 1)

/-- The numbers of the lines that an excerpt about a line shows. -/
def shownNumbers (count target : Nat) : List Nat :=
  List.range' (firstShown target) (lastShown count target + 1 - firstShown target)

/-- A row of the excerpt about a line of a text: a mark if it shows that line, a blank, the number of
the line it shows, pushed to the right in a column, and behind a bar what that line reads. -/
def IsRow (content : String) (target width number : Nat) (row : List Char) : Prop :=
  ∃ text pad, (linesOf content)[number - 1]? = some text ∧
    pad + (toString number).length = width ∧
    row = (if number = target then '>' else ' ') :: ' ' ::
      (List.replicate pad ' ' ++ (toString number).toList ++ " | ".toList ++ text)

section Around

variable {lines : List (List Char)} {target : Nat}

/-- The lines around a line have the numbers of those that are shown. -/
theorem map_snd_around (htarget : 1 ≤ target) :
    (around target lines).map Prod.snd = shownNumbers lines.length target := by
  have hlength : (around target lines).length =
      min lines.length (target + 1) + 1 - firstShown target := length_around htarget
  rw [around_eq htarget, List.length_zipIdx] at hlength
  rw [around_eq htarget, List.zipIdx_map_snd, hlength]
  rfl

/-- The line in question is among those that are shown just if there is such a line. -/
theorem mem_shownNumbers_iff (htarget : 1 ≤ target) {count : Nat} :
    target ∈ shownNumbers count target ↔ target ≤ count := by
  rw [shownNumbers, List.mem_range'_1, lastShown, firstShown]
  omega

/-- No number that is shown is greater than the last one. -/
theorem le_lastShown {count number : Nat} (h : number ∈ shownNumbers count target) :
    number ≤ lastShown count target := by
  rw [shownNumbers, List.mem_range'_1] at h
  omega

/-- A greater number is no shorter. -/
theorem length_toString_mono {m n : Nat} (h : m ≤ n) :
    (toString m).length ≤ (toString n).length := by
  have hpos : 0 < (toString n).length := Nat.length_repr_pos
  exact (Nat.length_repr_le_iff hpos).mpr (h.trans_lt ((Nat.length_repr_le_iff hpos).mp le_rfl))

/-- The column of the numbers is as wide as the last of them. -/
theorem numberWidth_around (htarget : 1 ≤ target) (hlines : target ≤ lines.length + 1)
    (hpos : 0 < lines.length) :
    numberWidth (around target lines) = (toString (lastShown lines.length target)).length := by
  have hlast : ((around target lines).map Prod.snd).getLast? =
      some (lastShown lines.length target) := by
    rw [map_snd_around htarget, shownNumbers, List.getLast?_range', lastShown, firstShown,
      if_neg (by omega)]
    congr 1
    omega
  rw [List.getLast?_map] at hlast
  obtain ⟨l, hl, hnumber⟩ := Option.map_eq_some_iff.mp hlast
  rw [numberWidth, hl, ← hnumber]
  rfl

end Around

section Extract

variable {content : String}

/-- There is no snippet just for lines before the first one and for those further than one behind the
last. -/
theorem extract_eq_none_iff {line : Int} :
    extract content line = none ↔ line < 1 ∨ (linesOf content).length + 1 < line := by
  by_cases hfirst : line < 1
  · exact iff_of_true (by rw [extract, if_pos hfirst]) (.inl hfirst)
  · obtain ⟨target, rfl⟩ : ∃ target : Nat, line = target := ⟨line.toNat, by omega⟩
    by_cases hlast : (linesOf content).length + 1 < target
    · have hempty : around target (linesOf content) = [] := by
        refine List.eq_nil_of_length_eq_zero ?_
        rw [length_around (by omega), firstShown]
        omega
      refine iff_of_true ?_ (.inr (by omega))
      rw [linesOf] at hempty
      rw [extract, if_neg hfirst, hempty]
    · have htarget : 1 ≤ target := by omega
      have hlines : target ≤ (linesOf content).length + 1 := by omega
      obtain ⟨snippet, hsnippet, -⟩ := exists_extract htarget hlines
      rw [hsnippet]
      exact iff_of_false (Option.some_ne_none snippet) (by omega)

/-- The rows about the lines around a line are the rows about the numbers that are shown. -/
theorem isRow_of_mem_around {target : Nat} (htarget : 1 ≤ target) {l : List Char × Nat}
    (h : l ∈ around target (linesOf content)) :
    IsRow content target (toString (lastShown (linesOf content).length target)).length l.2
      (row target (toString (lastShown (linesOf content).length target)).length l.1 l.2) := by
  have hshown : l.2 ∈ shownNumbers (linesOf content).length target := by
    rw [← map_snd_around htarget]
    exact List.mem_map_of_mem h
  have hwidth := length_toString_mono (le_lastShown hshown)
  obtain ⟨i, hi⟩ := List.getElem?_of_mem h
  obtain ⟨htext, hnumber⟩ := exists_of_getElem?_around htarget hi
  refine ⟨l.1, _, hnumber ▸ htext, Nat.sub_add_cancel hwidth, ?_⟩
  simp only [row, rightAligned, String.length_toList, Int.ofNat_inj, List.cons_append,
    List.append_assoc]

/-- Just the row about the line in question is marked, if it is among those that are shown. -/
theorem countP_marked {target width : Nat} (htarget : 1 ≤ target) (lines : List (List Char)) :
    ((around target lines).map fun l => row target width l.1 l.2).countP
      (fun r => r.head? == some '>') = if target ≤ lines.length then 1 else 0 := by
  have hmarked (l : List Char × Nat) :
      ((row target width l.1 l.2).head? == some '>') = (l.2 == target) := by
    rw [(shows_row target width l.1 l.2).head?]
    by_cases h : l.2 = target
    · simp [h]
    · simp [h]
  have hcount : ((around target lines).map fun l => row target width l.1 l.2).countP
      (fun r => r.head? == some '>') = (shownNumbers lines.length target).count target := by
    rw [← map_snd_around htarget, List.count, List.countP_map, List.countP_map]
    exact List.countP_congr fun l _ => by simp [hmarked]
  have hnodup : (shownNumbers lines.length target).Nodup := List.nodup_range'
  rw [hcount, hnodup.count]
  simp only [mem_shownNumbers_iff htarget]

/-- A snippet exists just for the lines of a text and the one behind the last, for every text and every
number of a line. Its rows show the line in question and the lines next to it, as far as there are any,
with numbers in a column that is as wide as the last of them. Just one row is marked, that of the line
in question, and none is if that is the line behind the last. -/
theorem extract_exact (content : String) (line : Int) :
    (extract content line = none ↔ line < 1 ∨ (linesOf content).length + 1 < line) ∧
    ∀ target : Nat, line = target → 1 ≤ target → target ≤ (linesOf content).length + 1 →
      ∃ snippet, extract content line = some snippet ∧
        List.Forall₂ (IsRow content target
          (toString (lastShown (linesOf content).length target)).length)
          (shownNumbers (linesOf content).length target) (linesOf snippet) ∧
        (linesOf snippet).countP (fun r => r.head? == some '>') =
          if target ≤ (linesOf content).length then 1 else 0 := by
  refine ⟨extract_eq_none_iff, ?_⟩
  rintro target rfl htarget hlines
  obtain ⟨snippet, hsnippet, hrows⟩ := exists_extract htarget hlines
  rw [numberWidth_around htarget hlines (length_linesOf_pos content)] at hrows
  refine ⟨snippet, hsnippet, ?_, ?_⟩
  · rw [hrows, ← map_snd_around htarget, List.forall₂_map_left_iff, List.forall₂_map_right_iff,
      List.forall₂_same]
    exact fun l hl => isRow_of_mem_around htarget hl
  · rw [hrows, countP_marked htarget]

end Extract

/-- A text of ten lines. -/
def tenLines : String := "a\nb\nc\nd\ne\nf\ng\nh\ni\nj"

/-- The snippet about the ninth of them has its numbers in a column of width two. -/
theorem extract_exact_ninth :
    9 ≤ (linesOf tenLines).length + 1 ∧ ∃ snippet, extract tenLines 9 = some snippet ∧
      snippet = "   8 | h\n>  9 | i\n  10 | j" ∧
      List.Forall₂ (IsRow tenLines 9 2) [8, 9, 10] (linesOf snippet) ∧
      (linesOf snippet).countP (fun r => r.head? == some '>') = 1 := by
  have hlength : (linesOf tenLines).length = 10 := by decide +kernel
  have htext : extract tenLines 9 = some "   8 | h\n>  9 | i\n  10 | j" := by decide +kernel
  have hlines : 9 ≤ (linesOf tenLines).length + 1 := by omega
  obtain ⟨snippet, hsnippet, hrows, hmarked⟩ :=
    (extract_exact tenLines 9).2 9 rfl (by decide) hlines
  rw [hlength] at hrows hmarked
  exact ⟨hlines, snippet, hsnippet, Option.some.inj (hsnippet.symm.trans htext), hrows, hmarked⟩

/-- There is no snippet for lines before the first one, but there are some for lines that the text does
not have. -/
theorem not_forall_extract_eq_none :
    ¬ ∀ (content : String) (line : Int),
      extract content line = none ↔ line < 1 ∨ (linesOf content).length < line := by
  intro h
  have hlength : (linesOf "a").length = 1 := by decide +kernel
  have hsnippet : extract "a" 2 = some "  1 | a" := by decide +kernel
  have hnone := (h "a" 2).mpr (.inr (by omega))
  rw [hsnippet] at hnone
  cases hnone

end ModuleLint.Snippet
