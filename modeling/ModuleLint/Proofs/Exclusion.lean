import Mathlib.Data.List.Infix
import ModuleLint.Proofs.Discovery

/-!
# Which pattern decides

Of the patterns that match a path or one of the directories it lies in, the last decides whether the
path is left out, and a file is found unless it or one of those directories is. A stricter rule
lets a pattern speak only for the very path that it matches. The two rules agree about a file
unless a pattern that takes paths in again matches one of the directories on the way to it: by the
stricter rule such a pattern opens the directory alone, but here it takes in all that lies below.
-/

namespace ModuleLint

open ModuleLint.Text (CharacterNames)

namespace Ignore

open ModuleLint.Path (ofNames)

/-- Whether the last of the patterns that pass a test leaves paths out. None does if there is no
such pattern. -/
def lastExcludes (test : Pattern → Bool) (patterns : List Pattern) : Bool :=
  (patterns.filter test).getLast?.any fun p => !p.negated

/-- Going through patterns, each of which decides if it passes a test, leaves it to the last one
that does. -/
theorem foldl_decide_eq_lastExcludes (test : Pattern → Bool) (patterns : List Pattern) :
    patterns.foldl (fun ignored p => if test p then !p.negated else ignored) false =
      lastExcludes test patterns := by
  induction patterns using List.reverseRecOn with
  | nil => rfl
  | append_singleton patterns p ih =>
    rw [List.foldl_concat, ih, lastExcludes, lastExcludes, List.filter_append]
    cases hp : test p <;> simp [hp]

section LastExcludes

variable {patterns : List Pattern}

/-- Where no pattern that passes a test takes paths in again, the last one that passes leaves a path
out, if there is any. -/
theorem lastExcludes_of_not_negated {test : Pattern → Bool}
    (h : ∀ p ∈ patterns, test p = true → p.negated = false) :
    lastExcludes test patterns = patterns.any test := by
  rw [lastExcludes]
  cases hlast : (patterns.filter test).getLast? with
  | none =>
    have hempty := List.getLast?_eq_none_iff.mp hlast
    rw [List.filter_eq_nil_iff] at hempty
    exact (List.any_eq_false.mpr hempty).symm
  | some p =>
    obtain ⟨hp, htest⟩ := List.mem_filter.mp (List.mem_of_getLast? hlast)
    rw [List.any_eq_true.mpr ⟨p, hp, htest⟩]
    simp [h p hp htest]

/-- The last pattern that passes a test depends only on which patterns pass it. -/
theorem lastExcludes_congr {test test' : Pattern → Bool}
    (h : ∀ p ∈ patterns, test p = test' p) :
    lastExcludes test patterns = lastExcludes test' patterns := by
  rw [lastExcludes, lastExcludes, List.filter_congr h]

end LastExcludes

section Texts

variable {p : Pattern} {dirs names : List String}

/-- The texts that a pattern is matched with along a way, one for each name. -/
def Pattern.texts (p : Pattern) (names : List String) : List String :=
  if p.anchored then beginnings names else names

/-- There is one text for each name. -/
@[simp] theorem Pattern.length_texts : (p.texts names).length = names.length := by
  rw [texts]
  split <;> simp [beginnings]

/-- A way that goes on by one name has one more text. -/
theorem Pattern.texts_concat (name : String) :
    p.texts (dirs ++ [name]) =
      p.texts dirs ++ [if p.anchored then ofNames (dirs ++ [name]) else name] := by
  have hbeginnings :
      beginnings (dirs ++ [name]) = beginnings dirs ++ [ofNames (dirs ++ [name])] := by
    simp only [beginnings, List.length_append, List.length_singleton, List.range_succ,
      List.map_append]
    congr 1
    · refine List.map_congr_left fun i hi => ?_
      rw [List.take_append_of_le_length (List.mem_range.mp hi)]
    · simp [ofNames, List.take_of_length_le]
  unfold texts
  split
  · exact hbeginnings
  · rfl

/-- A path is matched after the directories on the way to it. -/
theorem Pattern.candidates_concat {name : String} (hnames : ∀ n ∈ dirs ++ [name], Path.IsName n)
    (isDirectory : Bool) :
    p.candidates (ofNames (dirs ++ [name])) isDirectory =
      (p.texts dirs).zip (List.replicate dirs.length true) ++
        [(if p.anchored then ofNames (dirs ++ [name]) else name, isDirectory)] := by
  rw [candidates, Path.segments_ofNames hnames, List.length_append, List.length_singleton,
    Nat.add_sub_cancel]
  change (p.texts (dirs ++ [name])).zip _ = _
  rw [texts_concat, List.zip_append (by simp)]
  rfl

end Texts

section Names

variable [CharacterNames]

/-- Whether a pattern matches the very path made of names, by the whole path if it is anchored and
else by the last name. -/
def Pattern.matchesPath (p : Pattern) (names : List String) (isDirectory : Bool) : Bool :=
  match compile p.glob, names.getLast? with
  | .ok regex, some last =>
    (isDirectory || !p.directoryOnly) &&
      regex.fullMatch (if p.anchored then ofNames names else last).toList
  | _, _ => false

/-- Whether a pattern matches the path made of names or one of the directories on the way. -/
def Pattern.matchesWithin (p : Pattern) (names : List String) (isDirectory : Bool) : Bool :=
  p.matchesPath names isDirectory || names.dropLast.inits.any fun way => p.matchesPath way true

/-- The rule in force: a pattern speaks for what it matches and for all that lies below. -/
def excludes (patterns : List Pattern) (names : List String) (isDirectory : Bool) : Bool :=
  lastExcludes (·.matchesWithin names isDirectory) patterns

/-- The stricter rule: a pattern speaks only for the very paths that it matches. -/
def excludesStrictly (patterns : List Pattern) (names : List String) (isDirectory : Bool) : Bool :=
  lastExcludes (·.matchesPath names isDirectory) patterns

section Candidates

variable {p : Pattern} {dirs names : List String} {regex : Regex}

/-- No pattern matches the path that goes nowhere. -/
@[simp] theorem Pattern.matchesPath_nil (isDirectory : Bool) :
    p.matchesPath [] isDirectory = false := by
  unfold matchesPath
  split <;> simp_all

/-- A pattern that can be read matches a path just if its glob matches the text for it. -/
theorem Pattern.matchesPath_concat (hregex : compile p.glob = .ok regex) (name : String)
    (isDirectory : Bool) :
    p.matchesPath (dirs ++ [name]) isDirectory =
      ((isDirectory || !p.directoryOnly) &&
        regex.fullMatch (if p.anchored then ofNames (dirs ++ [name]) else name).toList) := by
  simp [matchesPath, hregex]

/-- The directories on a way are matched one by one. -/
theorem Pattern.any_texts (hregex : compile p.glob = .ok regex) :
    ((p.texts dirs).zip (List.replicate dirs.length true)).any (fun (text, isDirectory) =>
      (isDirectory || !p.directoryOnly) && regex.fullMatch text.toList) =
      dirs.inits.any fun way => p.matchesPath way true := by
  induction dirs using List.reverseRecOn with
  | nil => simp [texts, beginnings]
  | append_singleton dirs dir ih =>
    rw [texts_concat, List.length_append, List.length_singleton, List.replicate_succ',
      List.zip_append (by simp), List.any_append, ih, List.inits_append, List.any_append]
    simp [matchesPath_concat hregex]

/-- A pattern that can be read hits a path just if it matches the path or a directory on the way. -/
theorem Pattern.hits_ofNames (hregex : compile p.glob = .ok regex)
    (hnames : ∀ n ∈ names, Path.IsName n) (isDirectory : Bool) :
    p.hits (ofNames names) isDirectory = .ok (p.matchesWithin names isDirectory) := by
  rcases List.eq_nil_or_concat' names with rfl | ⟨dirs, name, rfl⟩
  · have hnone : p.candidates (ofNames []) isDirectory = [] := by
      rw [candidates, Path.segments_ofNames hnames]
      cases p.anchored <;> rfl
    simp [hits_eq_ok hregex, hnone, matchesWithin]
  · have hwithin : p.matchesWithin (dirs ++ [name]) isDirectory =
        (p.candidates (ofNames (dirs ++ [name])) isDirectory).any fun (text, isDirectory) =>
          (isDirectory || !p.directoryOnly) && regex.fullMatch text.toList := by
      rw [candidates_concat hnames, List.any_append, any_texts hregex, matchesWithin,
        matchesPath_concat hregex, List.dropLast_concat, Bool.or_comm]
      simp
    rw [hwithin, hits_eq_ok hregex]

end Candidates

/-- Readable patterns leave a path out just by the rule in force. -/
theorem Readable.ignores_ofNames {patterns : List Pattern} (h : Readable patterns)
    {names : List String} (hnames : ∀ n ∈ names, Path.IsName n) (isDirectory : Bool) :
    ignores patterns (ofNames names) isDirectory = .ok (excludes patterns names isDirectory) := by
  rw [excludes, ← foldl_decide_eq_lastExcludes, ignores]
  generalize false = before
  induction patterns generalizing before with
  | nil => rfl
  | cons p patterns ih =>
    obtain ⟨regex, hregex⟩ := h p List.mem_cons_self
    rw [List.foldlM_cons, Pattern.hits_ofNames hregex hnames, List.foldl_cons]
    exact ih (fun q hq => h q (List.mem_cons_of_mem _ hq)) _

section Rules

variable {patterns : List Pattern} {dirs names : List String} {isDirectory : Bool}

/-- A pattern matches a path or a directory on the way just if it matches the path made of the names
up to some of them. -/
theorem Pattern.matchesWithin_concat {p : Pattern} {name : String} :
    p.matchesWithin (dirs ++ [name]) isDirectory = true ↔
      p.matchesPath (dirs ++ [name]) isDirectory = true ∨
        ∃ way, way <+: dirs ∧ p.matchesPath way true = true := by
  simp [matchesWithin]

/-- A pattern matches a path made of the names up to some of a way, or a directory on the way to it,
only if it matches the path made of the names up to some of the way. -/
theorem Pattern.matchesWithin_of_prefix {p : Pattern} {way : List String} (hway : way <+: dirs)
    (h : p.matchesWithin way true = true) :
    ∃ way, way <+: dirs ∧ p.matchesPath way true = true := by
  rcases List.eq_nil_or_concat' way with rfl | ⟨way, name, rfl⟩
  · simp [matchesWithin] at h
  · rcases matchesWithin_concat.mp h with h | ⟨shorter, hshorter, h⟩
    · exact ⟨_, hway, h⟩
    · exact ⟨shorter, hshorter.trans ((List.prefix_append way [name]).trans hway), h⟩

/-- No rule leaves out the path that goes nowhere. -/
@[simp] theorem excludes_nil : excludes patterns [] isDirectory = false := by
  simp [excludes, lastExcludes, Pattern.matchesWithin]

end Rules

end Names

end Ignore

namespace Discovery

open ModuleLint.Ignore (Pattern Readable excludes excludesStrictly)
open ModuleLint.Path (IsName ofNames)

/-- A file is looked for, whatever the ignore patterns say: no directory on the way belongs to
dependencies, the first is no build result, and the file has the name of a source file and is no
test suite. -/
structure Sought (extensions dirs : List String) (name : String) : Prop where
  not_foreign : ∀ dir ∈ dirs, dir ≠ "node_modules" ∧ dir ≠ ".git"
  not_built : ∀ dir ∈ dirs.head?, dir ≠ "dist" ∧ dir ≠ "build" ∧ dir ≠ "coverage"
  ending : ∃ e ∈ extensions, e.toList <:+ name.toList
  not_test : isTestFile extensions name = false

/-- A rule that says which paths are left out loses a file if it leaves out the file or a directory
on the way to it. -/
def Loses (rule : List String → Bool → Bool) (dirs : List String) (name : String) : Prop :=
  rule (dirs ++ [name]) false = true ∨ ∃ way, way <+: dirs ∧ rule way true = true

instance (rule : List String → Bool → Bool) (dirs : List String) (name : String) :
    Decidable (Loses rule dirs name) :=
  decidable_of_iff
    (rule (dirs ++ [name]) false = true ∨ ∃ way ∈ dirs.inits, rule way true = true) <| by
    simp only [List.mem_inits, Loses]

section Names

variable [CharacterNames]

section Rules

variable {extensions : List String} {patterns : List Pattern} {dirs : List String} {name : String}

/-- A file is eligible if it is looked for and the rule in force does not lose it. -/
theorem eligible_iff (hreadable : Readable patterns) (hnames : ∀ n ∈ dirs ++ [name], IsName n) :
    Eligible extensions patterns dirs name ↔
      Sought extensions dirs name ∧ ¬ Loses (excludes patterns) dirs name := by
  have hfile := hreadable.ignores_ofNames hnames false
  have hdir (way : List String) (hway : way <+: dirs) :
      Ignore.ignores patterns (ofNames way) true = .ok (excludes patterns way true) :=
    hreadable.ignores_ofNames
      (fun n hn => hnames n (List.mem_append_left _ (hway.subset hn))) true
  constructor
  · intro h
    refine ⟨⟨h.way_open.not_foreign, h.way_open.not_built, h.ending, h.not_test⟩, ?_⟩
    intro hloses
    rcases hloses with hexcluded | ⟨way, hway, hexcluded⟩
    · simpa [hfile, hexcluded] using h.not_ignored
    · have hne : way ≠ [] := by
        rintro rfl
        simp at hexcluded
      simpa [hdir way hway, hexcluded] using h.way_open.not_ignored way hne hway
  · intro h
    obtain ⟨⟨hforeign, hbuilt, hending, htest⟩, hkept⟩ := h
    refine ⟨⟨hforeign, hbuilt, fun way _ hway => ?_⟩, hending, htest, ?_⟩
    · rw [hdir way hway]
      exact congrArg _ (by simpa using fun hexcluded => hkept (.inr ⟨way, hway, hexcluded⟩))
    · rw [hfile]
      exact congrArg _ (by simpa using fun hexcluded => hkept (.inl hexcluded))

/-- The two rules lose the same files where no pattern that takes paths in again matches a directory
on the way. -/
theorem loses_excludes_iff (h : ∀ p ∈ patterns, p.negated = true →
      ∀ way, way <+: dirs → p.matchesPath way true = false) :
    Loses (excludes patterns) dirs name ↔ Loses (excludesStrictly patterns) dirs name := by
  have hplain {p : Pattern} (hp : p ∈ patterns) {way : List String} (hway : way <+: dirs)
      (hmatch : p.matchesPath way true = true) : p.negated = false := by
    by_contra hnegated
    rw [h p hp (by simpa using hnegated) way hway] at hmatch
    cases hmatch
  by_cases hmatched : ∃ p ∈ patterns, ∃ way, way <+: dirs ∧ p.matchesPath way true = true
  · -- Both rules leave out the directory that is matched, since nothing takes it in again.
    obtain ⟨p, hp, way, hway, hmatch⟩ := hmatched
    have hstrict : excludesStrictly patterns way true = true := by
      rw [excludesStrictly, Ignore.lastExcludes_of_not_negated fun q hq => hplain hq hway]
      exact List.any_eq_true.mpr ⟨p, hp, hmatch⟩
    have hforce : excludes patterns way true = true := by
      rw [excludes, Ignore.lastExcludes_of_not_negated]
      · exact List.any_eq_true.mpr ⟨p, hp, by simp [Pattern.matchesWithin, hmatch]⟩
      · intro q hq hwithin
        obtain ⟨shorter, hshorter, hmatch⟩ := Pattern.matchesWithin_of_prefix hway hwithin
        exact hplain hq hshorter hmatch
    exact ⟨fun _ => .inr ⟨way, hway, hstrict⟩, fun _ => .inr ⟨way, hway, hforce⟩⟩
  · -- Neither rule leaves out a directory, and about the file they look at the same patterns.
    have hnone (p : Pattern) (hp : p ∈ patterns) (way : List String) (hway : way <+: dirs) :
        p.matchesPath way true = false := by
      by_contra hmatch
      exact hmatched ⟨p, hp, way, hway, by simpa using hmatch⟩
    have hwithin (p : Pattern) (hp : p ∈ patterns) (way : List String) (hway : way <+: dirs) :
        p.matchesWithin way true = p.matchesPath way true := by
      rw [hnone p hp way hway, Bool.eq_false_iff]
      intro hmatch
      obtain ⟨shorter, hshorter, hmatch⟩ := Pattern.matchesWithin_of_prefix hway hmatch
      simp [hnone p hp shorter hshorter] at hmatch
    have hdirs (way : List String) (hway : way <+: dirs) :
        excludes patterns way true = excludesStrictly patterns way true :=
      Ignore.lastExcludes_congr fun p hp => hwithin p hp way hway
    have hfile : excludes patterns (dirs ++ [name]) false =
        excludesStrictly patterns (dirs ++ [name]) false := by
      refine Ignore.lastExcludes_congr fun p hp => Bool.eq_iff_iff.mpr ?_
      rw [Pattern.matchesWithin_concat, or_iff_left]
      rintro ⟨way, hway, hmatch⟩
      simp [hnone p hp way hway] at hmatch
    rw [Loses, Loses, hfile]
    exact or_congr_right
      (exists_congr fun way => and_congr_right fun hway => by rw [hdirs way hway])

end Rules

/-- Discovery lists a file of the project just if it is eligible. -/
theorem mem_discover_iff_eligible {tree : Directory} {root : String} {settings : Settings}
    {found : List String} (hwf : (projectAt tree root).WellFormed)
    (h : discover tree root settings = .ok found) {dirs : List String} {name : String}
    {bytes : List UInt8} (hfile : (projectAt tree root).HasFile dirs name bytes) :
    ofNames (dirs ++ [name]) ∈ found ↔
      Eligible settings.extensions (patterns tree root settings) dirs name := by
  rw [mem_iff_of_discover hwf h]
  constructor
  · intro hlisted
    obtain ⟨dirs', name', bytes', hfile', heligible, heq⟩ := hlisted
    have hway := Path.ofNames_inj (hfile.isName hwf) (hfile'.isName hwf) heq
    obtain ⟨rfl, rfl⟩ := List.append_singleton_inj.mp hway
    exact heligible
  · exact fun heligible => ⟨dirs, name, bytes, hfile, heligible, rfl⟩

end Names

/-- A project with two generated files, whose ignore lines leave such files out and then take one of
the two directories in again. -/
def reopenedProject : Directory :=
  [(".gitignore", .file (Text.Utf8.encode "*.gen.ts\n!src/\n")),
    ("lib", .directory [("b.gen.ts", .file [])]),
    ("src", .directory [("a.gen.ts", .file [])])]

/-- The patterns of that project. -/
def reopenedPatterns : List Pattern :=
  patterns reopenedProject "" {}

/-- Each of the two directories holds one of the two files. -/
theorem hasFile_reopenedProject :
    (projectAt reopenedProject "").HasFile ["src"] "a.gen.ts" [] ∧
      (projectAt reopenedProject "").HasFile ["lib"] "b.gen.ts" [] := by
  have hsrc : ("src", Entry.directory [("a.gen.ts", .file [])]) ∈ projectAt reopenedProject "" :=
    List.mem_of_getElem? (i := 2) rfl
  have hlib : ("lib", Entry.directory [("b.gen.ts", .file [])]) ∈ projectAt reopenedProject "" :=
    List.mem_of_getElem? (i := 1) rfl
  exact ⟨.inside hsrc (.direct List.mem_cons_self), .inside hlib (.direct List.mem_cons_self)⟩

end Discovery

end ModuleLint
