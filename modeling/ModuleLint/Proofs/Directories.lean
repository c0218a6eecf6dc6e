import ModuleLint.Grouping
import ModuleLint.Proofs.Names

/-!
# Directories and modules

The directory of a file tells its module, if it lies below a container of modules or else below a root
of sources. It is the first such place on the way to the file that counts. No place after it does, and
neither does the name of the file nor the list of extensions.
-/

namespace ModuleLint

namespace Path

/-- What a file is called that could be a source file: it has a dot. -/
structure IsFileName (file : String) : Prop where
  has_dot : '.' ∈ file.toList
  no_slash : '/' ∉ file.toList

/-- The segments of the path of a file are its directories and its name, which is passed over if it is
a dot. -/
theorem exists_segments_ofNames_concat {dirs : List String} (hdirs : ∀ d ∈ dirs, IsSegment d)
    {file : String} (hfile : IsFileName file) :
    ∃ rest, (rest = [] ∨ rest = [file]) ∧ segments (ofNames (dirs ++ [file])) = dirs ++ rest := by
  have hslash : ∀ p ∈ dirs ++ [file], '/' ∉ p.toList := by
    intro p hp
    rcases List.mem_append.mp hp with hp | hp
    · exact (hdirs p hp).no_slash
    · exact List.mem_singleton.mp hp ▸ hfile.no_slash
  have hfirst : (dirs ++ [file]).head? ≠ some "" := by
    intro hhead
    rcases List.mem_append.mp (List.mem_of_head? hhead) with hp | hp
    · exact (hdirs "" hp).ne_empty rfl
    · exact absurd (List.mem_singleton.mp hp ▸ hfile.has_dot) (by decide)
  have hkept : (dirs.filter fun p => !isIdle p.toList) = dirs :=
    List.filter_eq_self.mpr fun d hd => by simp [(hdirs d hd).isIdle_eq_false]
  refine ⟨[file].filter fun p => !isIdle p.toList, ?_, ?_⟩
  · cases hidle : isIdle file.toList with
    | true => exact .inl (by simp [hidle])
    | false => exact .inr (by simp [hidle])
  · rw [segments_ofNames_eq_filter hslash hfirst, List.filter_append, hkept]

end Path

namespace Grouping

/-- Some segment and the one behind it pass a test. -/
def HasPair (test : String → String → Prop) (segments : List String) : Prop :=
  ∃ s next, [s, next] <:+: segments ∧ test s next

/-- A segment and the one behind it are the first that pass a test. -/
def IsFirstPair (test : String → String → Prop) (segments : List String) (s next : String) : Prop :=
  ∃ before after, segments = before ++ s :: next :: after ∧ test s next ∧
    ¬ HasPair test (before ++ [s])

/-- A container of modules, and a module in it. -/
def HoldsModule (s next : String) : Prop :=
  (s = "modules" ∨ s = "domains") ∧ '.' ∉ next.toList

/-- A root of sources, and a module below it. -/
def HoldsSources (s next : String) : Prop :=
  s = "src" ∧ next ≠ "modules" ∧ next ≠ "domains" ∧ '.' ∉ next.toList

section Pairs

variable {test : String → String → Prop} {segments : List String} {s next : String}

/-- No two segments stand in a list of fewer. -/
theorem not_hasPair_of_length_lt (h : segments.length < 2) : ¬ HasPair test segments := by
  rintro ⟨a, b, hinfix, -⟩
  exact absurd hinfix.length_le (Nat.not_le_of_lt h)

/-- Two segments that pass a test are the first ones of a list or stand behind the first. -/
theorem hasPair_cons_cons {first second : String} :
    HasPair test (first :: second :: segments) ↔
      test first second ∨ HasPair test (second :: segments) := by
  have hinfix (a b : String) : [a, b] <:+: first :: second :: segments ↔
      (a = first ∧ b = second) ∨ [a, b] <:+: second :: segments := by
    refine List.infix_cons_iff.trans (or_congr_left ?_)
    rw [List.cons_prefix_cons, List.cons_prefix_cons]
    simp
  simp only [HasPair, hinfix]
  constructor
  · rintro ⟨a, b, ⟨rfl, rfl⟩ | hin, htest⟩
    · exact .inl htest
    · exact .inr ⟨a, b, hin, htest⟩
  · rintro (htest | ⟨a, b, hin, htest⟩)
    · exact ⟨first, second, .inl ⟨rfl, rfl⟩, htest⟩
    · exact ⟨a, b, .inr hin, htest⟩

/-- If two segments pass a test, there are first ones that do. -/
theorem exists_isFirstPair (h : HasPair test segments) :
    ∃ s next, IsFirstPair test segments s next := by
  induction segments with
  | nil => exact absurd h (not_hasPair_of_length_lt (by decide))
  | cons first segments ih =>
    cases segments with
    | nil => exact absurd h (not_hasPair_of_length_lt Nat.one_lt_two)
    | cons second segments =>
      by_cases htest : test first second
      · exact ⟨first, second, [], segments, rfl, htest, not_hasPair_of_length_lt Nat.one_lt_two⟩
      · obtain ⟨s, next, before, after, heq, hpass, hnone⟩ :=
          ih ((hasPair_cons_cons.mp h).resolve_left htest)
        refine ⟨s, next, first :: before, after, congrArg (first :: ·) heq, hpass, ?_⟩
        obtain ⟨rest, hrest⟩ : ∃ rest, before ++ [s] = second :: rest := by
          cases before with
          | nil => exact ⟨[], by rw [(List.cons.inj heq).1, List.nil_append]⟩
          | cons b before => exact ⟨before ++ [s], by rw [(List.cons.inj heq).1, List.cons_append]⟩
        rw [List.cons_append, hrest, hasPair_cons_cons, ← hrest]
        exact not_or.mpr ⟨htest, hnone⟩

/-- A last segment that passes with nothing before it makes no new pair. -/
theorem not_hasPair_concat {file : String} (h : ¬ HasPair test segments)
    (hfile : ∀ s, ¬ test s file) : ¬ HasPair test (segments ++ [file]) := by
  rintro ⟨s, next, hinfix, htest⟩
  rcases List.infix_concat_iff.mp hinfix with ⟨before, heq⟩ | hinfix
  · have hlast : next = file := by simpa using congrArg List.getLast? heq
    exact hfile s (hlast ▸ htest)
  · exact h ⟨s, next, hinfix, htest⟩

/-- Segments are looked at in pairs up to one of them, and then from that one on. -/
theorem neighbours_append_cons (before : List String) (s : String) (after : List String) :
    neighbours (before ++ s :: after) = neighbours (before ++ [s]) ++ neighbours (s :: after) := by
  induction before with
  | nil => rfl
  | cons b before ih =>
    cases before with
    | nil => rfl
    | cons b' before => exact congrArg ((b, b') :: ·) ih

variable {decides : String × String → Bool}

/-- No two segments are found just if none pass the test. -/
theorem find?_neighbours_eq_none_iff (hdecides : ∀ p, decides p = true ↔ test p.1 p.2) :
    (neighbours segments).find? decides = none ↔ ¬ HasPair test segments := by
  induction segments with
  | nil => exact iff_of_true rfl (not_hasPair_of_length_lt Nat.zero_lt_two)
  | cons first segments ih =>
    cases segments with
    | nil => exact iff_of_true rfl (not_hasPair_of_length_lt Nat.one_lt_two)
    | cons second segments =>
      change ((first, second) :: neighbours (second :: segments)).find? decides = none ↔ _
      rw [hasPair_cons_cons, not_or, ← ih, List.find?_cons, ← hdecides (first, second)]
      cases decides (first, second) with
      | true => simp
      | false => simp

/-- The first two segments that pass a test are found, whatever follows. -/
theorem IsFirstPair.find?_neighbours (h : IsFirstPair test segments s next)
    (hdecides : ∀ p, decides p = true ↔ test p.1 p.2) (rest : List String) :
    (neighbours (segments ++ rest)).find? decides = some (s, next) := by
  obtain ⟨before, after, rfl, htest, hnone⟩ := h
  have hbehind : neighbours (s :: next :: (after ++ rest)) =
      (s, next) :: neighbours (next :: (after ++ rest)) := rfl
  rw [List.append_assoc, List.cons_append, List.cons_append, neighbours_append_cons,
    List.find?_append, (find?_neighbours_eq_none_iff hdecides).mpr hnone, Option.none_or, hbehind,
    List.find?_cons_of_pos ((hdecides (s, next)).mpr htest)]

end Pairs

section Below

variable {dirs : List String} {s name file : String} {extensions : List String}

/-- The first module in a container is the one that is found, whatever follows. -/
theorem IsFirstPair.belowContainer? (h : IsFirstPair HoldsModule dirs s name)
    (rest : List String) : belowContainer? (dirs ++ rest) = some name := by
  rw [Grouping.belowContainer?, h.find?_neighbours (fun p => ?_) rest]
  · rfl
  · simp [HoldsModule, isContainer, isDotted]

/-- Where no container holds a module, none is found. -/
theorem belowContainer?_eq_none (h : ¬ HasPair HoldsModule dirs) : belowContainer? dirs = none := by
  rw [belowContainer?, (find?_neighbours_eq_none_iff fun p => ?_).mpr h]
  · rfl
  · simp [HoldsModule, isContainer, isDotted]

/-- The first module below a root of sources is the one that is found, whatever follows. -/
theorem IsFirstPair.belowSourceRoot? (h : IsFirstPair HoldsSources dirs s name)
    (rest : List String) : belowSourceRoot? (dirs ++ rest) = some name := by
  rw [Grouping.belowSourceRoot?, h.find?_neighbours (fun p => ?_) rest]
  · rfl
  · simp [HoldsSources, isContainer, isDotted, sourceRoot, and_assoc]

/-- A file below a directory with a container belongs to the first module in one. -/
theorem IsFirstPair.moduleOf?_below (h : IsFirstPair HoldsModule dirs s name)
    (hdirs : ∀ d ∈ dirs, Path.IsSegment d) {inner : List String}
    (hinner : ∀ d ∈ inner, Path.IsSegment d) (hfile : Path.IsFileName file) :
    moduleOf? extensions (Path.ofNames (dirs ++ inner ++ [file])) = some name := by
  have hboth : ∀ d ∈ dirs ++ inner, Path.IsSegment d := by
    intro d hd
    exact (List.mem_append.mp hd).elim (hdirs d) (hinner d)
  obtain ⟨rest, -, hsegments⟩ := Path.exists_segments_ofNames_concat hboth hfile
  rw [moduleOf?, moduleOfSegments?, hsegments, List.append_assoc, h.belowContainer?]
  rfl

/-- A file in a directory without such a container belongs to the first module below a root of
sources. -/
theorem IsFirstPair.moduleOf?_in (h : IsFirstPair HoldsSources dirs s name)
    (hnone : ¬ HasPair HoldsModule dirs) (hdirs : ∀ d ∈ dirs, Path.IsSegment d)
    (hfile : Path.IsFileName file) :
    moduleOf? extensions (Path.ofNames (dirs ++ [file])) = some name := by
  obtain ⟨rest, hrest, hsegments⟩ := Path.exists_segments_ofNames_concat hdirs hfile
  have hnone' : ¬ HasPair HoldsModule (dirs ++ rest) := by
    rcases hrest with rfl | rfl
    · rwa [List.append_nil]
    · exact not_hasPair_concat hnone fun _ hholds => hholds.2 hfile.has_dot
  rw [moduleOf?, moduleOfSegments?, hsegments, belowContainer?_eq_none hnone', h.belowSourceRoot?]
  rfl

end Below

/-- A directory is in one module. If a container holds a module on the way to it, all files in the
directory and below it belong to the first such module; if none does but there is a module below a root
of sources, all files in the directory belong to the first of these. -/
theorem moduleOf?_of_directory {dirs : List String} (hdirs : ∀ d ∈ dirs, Path.IsSegment d) :
    (HasPair HoldsModule dirs → ∃ container name, IsFirstPair HoldsModule dirs container name ∧
      ∀ inner file extensions, (∀ d ∈ inner, Path.IsSegment d) → Path.IsFileName file →
        moduleOf? extensions (Path.ofNames (dirs ++ inner ++ [file])) = some name) ∧
    (¬ HasPair HoldsModule dirs → HasPair HoldsSources dirs →
      ∃ root name, IsFirstPair HoldsSources dirs root name ∧
        ∀ file extensions, Path.IsFileName file →
          moduleOf? extensions (Path.ofNames (dirs ++ [file])) = some name) := by
  constructor
  · intro hmodules
    obtain ⟨container, name, hfirst⟩ := exists_isFirstPair hmodules
    exact ⟨container, name, hfirst, fun inner file extensions hinner hfile =>
      hfirst.moduleOf?_below hdirs hinner hfile⟩
  · intro hnone hsources
    obtain ⟨root, name, hfirst⟩ := exists_isFirstPair hsources
    exact ⟨root, name, hfirst, fun file extensions hfile =>
      hfirst.moduleOf?_in hnone hdirs hfile⟩

/-- Directories of which one holds a module, but not the first container. -/
def nestedDirs : List String := ["src", "modules", "v1.0", "domains", "billing", "modules", "cart"]

/-- Directories of which one lies below a root of sources, but not below the first root. -/
def repeatedDirs : List String := ["src", "modules.old", "src", "shop", "src", "cart"]

/-- All files in these directories belong to one module, those in the former also if they lie further
below, whatever they are called and whichever extensions are looked at. -/
theorem moduleOf?_of_directory_nested :
    (∀ d ∈ nestedDirs, Path.IsSegment d) ∧ (∀ d ∈ repeatedDirs, Path.IsSegment d) ∧
    HasPair HoldsModule nestedDirs ∧ ¬ HasPair HoldsModule repeatedDirs ∧
    HasPair HoldsSources repeatedDirs ∧
    (∀ inner file extensions, (∀ d ∈ inner, Path.IsSegment d) → Path.IsFileName file →
      moduleOf? extensions (Path.ofNames (nestedDirs ++ inner ++ [file])) = some "billing") ∧
    ∀ file extensions, Path.IsFileName file →
      moduleOf? extensions (Path.ofNames (repeatedDirs ++ [file])) = some "shop" := by
  have hnested : ∀ d ∈ nestedDirs, Path.IsSegment d := by decide
  have hrepeated : ∀ d ∈ repeatedDirs, Path.IsSegment d := by decide
  have hmodules : HasPair HoldsModule nestedDirs :=
    ⟨"domains", "billing", by decide, .inr rfl, by decide⟩
  have hnone : ¬ HasPair HoldsModule repeatedDirs := by
    intro hholds
    obtain ⟨container, name, hfirst⟩ := exists_isFirstPair hholds
    have hfound := hfirst.belowContainer? []
    have hmissing : belowContainer? (repeatedDirs ++ []) = none := by decide
    rw [hmissing] at hfound
    cases hfound
  have hsources : HasPair HoldsSources repeatedDirs :=
    ⟨"src", "shop", by decide, rfl, by decide, by decide, by decide⟩
  have hfile : Path.IsFileName "a.ts" := ⟨by decide, by decide⟩
  obtain ⟨container, name, -, hbelow⟩ := (moduleOf?_of_directory hnested).1 hmodules
  obtain ⟨root, name', -, hin⟩ := (moduleOf?_of_directory hrepeated).2 hnone hsources
  have hname : moduleOf? [] (Path.ofNames (nestedDirs ++ [] ++ ["a.ts"])) = some "billing" := by
    decide +kernel
  have hname' : moduleOf? [] (Path.ofNames (repeatedDirs ++ ["a.ts"])) = some "shop" := by
    decide +kernel
  obtain rfl := Option.some.inj ((hbelow [] "a.ts" [] nofun hfile).symm.trans hname)
  obtain rfl := Option.some.inj ((hin "a.ts" [] hfile).symm.trans hname')
  exact ⟨hnested, hrepeated, hmodules, hnone, hsources, hbelow, hin⟩

end Grouping

end ModuleLint
