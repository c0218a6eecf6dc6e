import Mathlib.Data.List.Basic
import ModuleLint.Proofs.Exclusion
import ModuleLint.Proofs.GlobLanguage
import ModuleLint.Proofs.Marks
import ModuleLint.Proofs.OneLine

/-!
# Globs for names at any depth

A glob without slashes is matched with the names along the way to a path, one by one. Behind `**/`
it is matched with the paths of the directories on the way instead, from the root on. Since the
directories that `**/` stands for may be any, or none, this is the same for every path that begins
at no root.
-/

namespace ModuleLint.Ignore

open ModuleLint.Path (ofNames)
open ModuleLint.Text (CharacterNames IsOneLine)

/-- A glob for single names, fit for a line: it has no slash, no bracket and no two stars in a row,
and its ends are plain. -/
structure IsNameGlob (glob : String) : Prop extends HasPlainEnds glob.toList where
  ne_empty : glob ≠ ""
  no_slash : '/' ∉ glob.toList
  no_bracket : '[' ∉ glob.toList
  no_stars : ¬ ['*', '*'] <:+: glob.toList

/-- The glob that asks for the same names behind any directories. -/
def atAnyDepth (glob : String) : String :=
  "**/" ++ glob

/-- The characters of such a glob. -/
@[simp] theorem toList_atAnyDepth (glob : String) :
    (atAnyDepth glob).toList = '*' :: '*' :: '/' :: glob.toList := by
  simp [atAnyDepth]

section Language

variable {glob text : List Char} {dirs : List String} {name : String}

/-- A glob for single names stands for texts without slashes only. -/
theorem StandsFor.slash_notMem (h : StandsFor glob text) (hslash : '/' ∉ glob)
    (hstars : ¬ ['*', '*'] <:+: glob) : '/' ∉ text := by
  have htail {c : Char} {cs : List Char} (h : ¬ ['*', '*'] <:+: c :: cs) :
      ¬ ['*', '*'] <:+: cs :=
    fun hcs => h (hcs.trans (List.suffix_cons c cs).isInfix)
  induction h with
  | nil => exact List.not_mem_nil
  | noDirectories => simp at hslash
  | directories => simp at hslash
  | anything => exact absurd ⟨[], _, rfl⟩ hstars
  | part run within next rest ih =>
    have hrest := ih (List.not_mem_of_not_mem_cons hslash) (htail hstars)
    exact fun hmem => (List.mem_append.mp hmem).elim within hrest
  | single c within rest ih =>
    have hrest := ih (List.not_mem_of_not_mem_cons hslash) (htail hstars)
    exact List.not_mem_cons_of_ne_of_not_mem (Ne.symm within) hrest
  | escaped c rest ih =>
    obtain ⟨hc, hglob⟩ := not_or.mp (mt List.mem_cons.mpr (List.not_mem_of_not_mem_cons hslash))
    exact List.not_mem_cons_of_ne_of_not_mem hc (ih hglob (htail (htail hstars)))
  | literal c plain last rest ih =>
    obtain ⟨hc, hglob⟩ := not_or.mp (mt List.mem_cons.mpr hslash)
    exact List.not_mem_cons_of_ne_of_not_mem hc (ih hglob (htail hstars))

/-- Behind `**/` a glob for single names stands for a path just if it stands for the last name. -/
theorem standsFor_atAnyDepth_iff (hslash : '/' ∉ glob) (hstars : ¬ ['*', '*'] <:+: glob)
    (hname : '/' ∉ name.toList) :
    StandsFor ('*' :: '*' :: '/' :: glob) (ofNames (dirs ++ [name])).toList ↔
      StandsFor glob name.toList := by
  rw [StandsFor.subtree_iff]
  by_cases hdirs : dirs = []
  · subst hdirs
    refine or_iff_left fun h => ?_
    obtain ⟨before, rest, heq, -⟩ := h
    have htext : name.toList = before ++ '/' :: rest := by simpa [ofNames] using heq
    exact hname (htext ▸ List.mem_append_right before List.mem_cons_self)
  · rw [Path.toList_ofNames_concat hdirs]
    constructor
    · intro h
      rcases h with h | ⟨before, rest, heq, h⟩
      · exact absurd (by simp) (h.slash_notMem hslash hstars)
      · -- What follows the last slash is the last name.
        have hlast := congrArg (fun cs => (Text.split '/' cs).getLast?) heq
        simp only [Text.getLast?_split_append_cons hname,
          Text.getLast?_split_append_cons (h.slash_notMem hslash hstars)] at hlast
        rwa [Option.some.inj hlast]
    · exact fun h => .inr ⟨_, _, rfl, h⟩

end Language

section Candidates

variable {p q : Pattern} {names : List String} {path : String} {regex : Regex}

/-- Two patterns hit alike along a way if they match alike each path made of the names up to some of
the way. -/
theorem Pattern.any_texts_congr {test test' : String × Bool → Bool}
    (h : ∀ dirs name isDirectory, dirs ++ [name] <+: names →
      test (if p.anchored then ofNames (dirs ++ [name]) else name, isDirectory) =
        test' (if q.anchored then ofNames (dirs ++ [name]) else name, isDirectory))
    {flags : List Bool} (hflags : flags.length = names.length) :
    ((p.texts names).zip flags).any test = ((q.texts names).zip flags).any test' := by
  induction names using List.reverseRecOn generalizing flags with
  | nil => simp [texts, beginnings]
  | append_singleton dirs name ih =>
    rcases List.eq_nil_or_concat' flags with rfl | ⟨flags, isDirectory, rfl⟩
    · simp at hflags
    · have hlength : flags.length = dirs.length := by simpa using hflags
      rw [texts_concat, texts_concat, List.zip_append (by simp [hlength]),
        List.zip_append (by simp [hlength]), List.any_append, List.any_append,
        ih (fun dirs' name' isDirectory hway =>
          h dirs' name' isDirectory (hway.trans (List.prefix_append dirs [name]))) hlength]
      simp [h dirs name isDirectory (List.prefix_refl _)]

/-- Two patterns hit a path alike if they match alike each path made of its first names. -/
theorem Pattern.any_candidates_congr {test test' : String × Bool → Bool} (path : String)
    (isDirectory : Bool)
    (h : ∀ dirs name isDirectory, dirs ++ [name] <+: Path.segments path →
      test (if p.anchored then ofNames (dirs ++ [name]) else name, isDirectory) =
        test' (if q.anchored then ofNames (dirs ++ [name]) else name, isDirectory)) :
    (p.candidates path isDirectory).any test = (q.candidates path isDirectory).any test' := by
  change ((p.texts (Path.segments path)).zip _).any _ =
    ((q.texts (Path.segments path)).zip _).any _
  cases hsegments : Path.segments path with
  | nil => simp [texts, beginnings]
  | cons segment rest =>
    rw [← hsegments]
    exact Pattern.any_texts_congr h (by simp [hsegments])

end Candidates

section Globs

variable {glob : String}

/-- A glob for single names is read off its line, and is not tied to the root. -/
theorem IsNameGlob.pattern_eq (h : IsNameGlob glob) (negated directoryOnly : Bool) :
    patternOfLine? (markedLine negated directoryOnly glob) =
      some ⟨glob, negated, false, directoryOnly⟩ := by
  have hfits : FitsLine glob.toList :=
    ⟨h.toHasPlainEnds, mt String.toList_eq_nil_iff.mp h.ne_empty,
      fun hc => h.no_slash (List.mem_of_mem_head? hc),
      fun hc => h.no_slash (List.mem_of_mem_getLast? hc)⟩
  have hend : dropSubtreeEnd glob.toList = glob.toList := by
    refine if_neg fun hsuffix => h.no_slash ?_
    exact (List.isSuffixOf_iff_suffix.mp hsuffix).subset List.mem_cons_self
  rw [patternOfLine?_markedLine negated directoryOnly hfits, hend, String.ofList_toList,
    List.contains_eq_mem, decide_eq_false h.no_slash]

/-- Behind `**/` it still does not end in `/**`. -/
theorem IsNameGlob.dropSubtreeEnd_eq (h : IsNameGlob glob) :
    dropSubtreeEnd (atAnyDepth glob).toList = (atAnyDepth glob).toList := by
  refine if_neg fun hsuffix => ?_
  obtain ⟨before, heq⟩ := List.isSuffixOf_iff_suffix.mp hsuffix
  -- The slash of `/**` would be the one before the glob, since the glob has none.
  have hlast := congrArg (fun cs => (Text.split '/' cs).getLast?) heq
  have hglob : (atAnyDepth glob).toList = ['*', '*'] ++ '/' :: glob.toList := toList_atAnyDepth glob
  simp only [hglob, Text.getLast?_split_append_cons h.no_slash,
    Text.getLast?_split_append_cons (show '/' ∉ ['*', '*'] by decide)] at hlast
  exact h.no_stars (Option.some.inj hlast ▸ List.infix_rfl)

/-- Behind `**/` it is read off its line too, and is tied to the root. -/
theorem IsNameGlob.pattern_atAnyDepth_eq (h : IsNameGlob glob) (negated directoryOnly : Bool) :
    patternOfLine? (markedLine negated directoryOnly (atAnyDepth glob)) =
      some ⟨atAnyDepth glob, negated, true, directoryOnly⟩ := by
  have hne : glob.toList ≠ [] := mt String.toList_eq_nil_iff.mp h.ne_empty
  have hlast : (atAnyDepth glob).toList.getLast? = glob.toList.getLast? := by
    rw [toList_atAnyDepth]
    exact List.getLast?_append_of_ne_nil ['*', '*', '/'] hne
  have hends : HasPlainEnds (atAnyDepth glob).toList := by
    refine ⟨fun c hc => ?_, hlast ▸ h.last⟩
    obtain rfl : '*' = c := by simpa using hc
    decide
  have hfits : FitsLine (atAnyDepth glob).toList :=
    ⟨hends, by simp, by simp,
      fun hc => h.no_slash (List.mem_of_mem_getLast? (hlast ▸ hc))⟩
  rw [patternOfLine?_markedLine negated directoryOnly hfits, h.dropSubtreeEnd_eq,
    String.ofList_toList, List.contains_eq_mem, decide_eq_true (by simp)]

/-- Both globs can be read, and on one line the one tests the names on a way just as the other tests
the paths that lead to them. -/
theorem IsNameGlob.exists_regex [CharacterNames] (h : IsNameGlob glob) :
    ∃ regex regex', compile glob = .ok regex ∧ compile (atAnyDepth glob) = .ok regex' ∧
      ∀ dirs name, (∀ n ∈ dirs ++ [name], '/' ∉ n.toList ∧ IsOneLine n) →
        regex'.fullMatch (ofNames (dirs ++ [name])).toList = regex.fullMatch name.toList := by
  have hbracket : '[' ∉ (atAnyDepth glob).toList := by simpa using h.no_bracket
  have hrule : MatchesLanguage ((globTokens glob.toList).map GlobToken.piece) glob.toList :=
    matchesLanguage_globTokensFrom h.no_bracket
  have hrule' : MatchesLanguage ((globTokens (atAnyDepth glob).toList).map GlobToken.piece)
      (atAnyDepth glob).toList := matchesLanguage_globTokensFrom hbracket
  refine ⟨_, _, compile_eq_ok (isPlain_of_mem_globTokensFrom h.no_bracket),
    compile_eq_ok (isPlain_of_mem_globTokensFrom hbracket), fun dirs name hnames => ?_⟩
  have hname := hnames name (by simp)
  have hway : IsOneLine (ofNames (dirs ++ [name])) :=
    Text.isOneLine_intercalate (by decide) fun n hn => (hnames n hn).2
  rw [Bool.eq_iff_iff]
  refine (hrule' _ hway).trans (Iff.trans ?_ (hrule _ hname.2).symm)
  rw [toList_atAnyDepth]
  exact standsFor_atAnyDepth_iff h.no_slash h.no_stars hname.1

/-- A glob for single names, and the same glob behind `**/`, are read off their lines with the same
marks. The one pattern is matched with names and the other with whole paths, and yet they hit the
same paths, of those that begin at no root and stand on one line. -/
theorem hits_atAnyDepth [CharacterNames] (h : IsNameGlob glob) (negated directoryOnly : Bool) :
    patternsOfLines [markedLine negated directoryOnly glob] =
        [⟨glob, negated, false, directoryOnly⟩] ∧
      patternsOfLines [markedLine negated directoryOnly (atAnyDepth glob)] =
        [⟨atAnyDepth glob, negated, true, directoryOnly⟩] ∧
      ∀ path isDirectory, path.toList.head? ≠ some '/' → IsOneLine path →
        ∃ hit, (⟨glob, negated, false, directoryOnly⟩ : Pattern).hits path isDirectory = .ok hit ∧
          (⟨atAnyDepth glob, negated, true, directoryOnly⟩ : Pattern).hits path isDirectory =
            .ok hit := by
  refine ⟨by simp [patternsOfLines, h.pattern_eq],
    by simp [patternsOfLines, h.pattern_atAnyDepth_eq], fun path isDirectory hpath hline => ?_⟩
  obtain ⟨regex, regex', hregex, hregex', hsame⟩ := h.exists_regex
  let p : Pattern := ⟨glob, negated, false, directoryOnly⟩
  let q : Pattern := ⟨atAnyDepth glob, negated, true, directoryOnly⟩
  refine ⟨_, Pattern.hits_eq_ok (p := p) hregex path isDirectory, ?_⟩
  refine (Pattern.hits_eq_ok (p := q) hregex' path isDirectory).trans (congrArg Except.ok ?_)
  refine Pattern.any_candidates_congr path isDirectory fun dirs name isDirectory hway => ?_
  have hnames : ∀ n ∈ dirs ++ [name], '/' ∉ n.toList ∧ IsOneLine n := fun n hn =>
    ⟨Path.slash_notMem_of_mem_segments hpath (hway.subset hn),
      hline.of_subset (Path.subset_of_mem_segments (hway.subset hn))⟩
  simp [p, q, hsame dirs name hnames]

/-- The glob `g?n`, for directories only, hits a path through such a directory either way. -/
theorem hits_atAnyDepth_directory :
    IsNameGlob "g?n" ∧ "src/gen/x.ts".toList.head? ≠ some '/' ∧ IsOneLine "src/gen/x.ts" ∧
      patternsOfLines ["!g?n/"] = [⟨"g?n", true, false, true⟩] ∧
      patternsOfLines ["!**/g?n/"] = [⟨"**/g?n", true, true, true⟩] ∧
      (⟨"g?n", true, false, true⟩ : Pattern).hits "src/gen/x.ts" false = .ok true ∧
      (⟨"**/g?n", true, true, true⟩ : Pattern).hits "src/gen/x.ts" false = .ok true := by
  have hglob : IsNameGlob "g?n" := by
    constructor <;> decide +kernel
  have hpath : "src/gen/x.ts".toList.head? ≠ some '/' := by decide
  have hline : IsOneLine "src/gen/x.ts" := by decide
  obtain ⟨hone, hother, hhits⟩ := hits_atAnyDepth hglob true true
  obtain ⟨hit, hhit, hhit'⟩ := hhits "src/gen/x.ts" false hpath hline
  have htrue : (⟨"g?n", true, false, true⟩ : Pattern).hits "src/gen/x.ts" false = .ok true := by
    decide +kernel
  obtain rfl : hit = true := Except.ok.inj (hhit.symm.trans htrue)
  exact ⟨hglob, hpath, hline, hone, hother, hhit, hhit'⟩

end Globs

end ModuleLint.Ignore
