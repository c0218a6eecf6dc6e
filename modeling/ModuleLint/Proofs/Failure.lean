import ModuleLint.Proofs.Discovery
import ModuleLint.Proofs.Globs
import ModuleLint.Proofs.Survey

/-!
# When a run fails

A run on a directory fails only by an ignore pattern whose glob cannot be read. The first such
pattern is the one told, and it comes to light with the first entry of the root that is matched with
the patterns at all. Nothing else about a project makes a run fail, so a run on a project whose
ignore patterns have plain classes succeeds, whatever its files hold.
-/

namespace ModuleLint

open ModuleLint.Text (CharacterNames)

namespace Ignore

/-- A pattern is matched with no text just if the path leads nowhere. -/
theorem Pattern.candidates_eq_nil_iff {p : Pattern} {path : String} {isDirectory : Bool} :
    p.candidates path isDirectory = [] ↔ Path.segments path = [] := by
  have htexts : (if p.anchored then beginnings (Path.segments path) else Path.segments path) = [] ↔
      Path.segments path = [] := by
    split
    · simp [beginnings]
    · rfl
  simp [candidates, List.zip_eq_nil_iff, htexts]

variable [CharacterNames]

/-- What is wrong with the first of the patterns whose glob cannot be read. -/
def firstFault? (patterns : List Pattern) : Option RegexFault :=
  patterns.findSome? fun p =>
    match compile p.glob with
    | .ok _ => none
    | .error fault => some fault

/-- The first fault is that of a pattern with a class that is not plain. -/
theorem exists_of_firstFault?_eq_some {patterns : List Pattern} {fault : RegexFault}
    (h : firstFault? patterns = some fault) :
    ∃ p ∈ patterns, compile p.glob = .error fault ∧ ∃ body,
      .bracket body ∈ globTokens p.glob.toList ∧ (GlobToken.bracket body).isPlain = false := by
  obtain ⟨p, hp, hfault⟩ := List.exists_of_findSome?_eq_some h
  cases hglob : compile p.glob with
  | ok pieces => simp [hglob] at hfault
  | error fault' =>
    obtain rfl : fault' = fault := by simpa [hglob] using hfault
    exact ⟨p, hp, hglob, exists_not_isPlain_of_compile_eq_error hglob⟩

/-- Matching a pattern with a path that leads somewhere fails as reading the glob does. -/
theorem Pattern.hits_eq_error_iff {p : Pattern} {path : String} {isDirectory : Bool}
    {fault : RegexFault} (hpath : Path.segments path ≠ []) :
    p.hits path isDirectory = .error fault ↔ compile p.glob = .error fault := by
  unfold hits
  split
  next hnone => exact (hpath (candidates_eq_nil_iff.mp hnone)).elim
  next =>
    rw [Outcome.bind_eq_error_iff]
    exact or_iff_left nofun

/-- Matching patterns with a path that leads somewhere fails by the first fault. -/
theorem ignores_eq_error_iff {patterns : List Pattern} {path : String} {isDirectory : Bool}
    {fault : RegexFault} (hpath : Path.segments path ≠ []) :
    ignores patterns path isDirectory = .error fault ↔ firstFault? patterns = some fault := by
  unfold ignores
  generalize false = before
  induction patterns generalizing before with
  | nil => exact ⟨nofun, nofun⟩
  | cons p patterns ih =>
    have hhits (fault : RegexFault) :
        p.hits path isDirectory = .error fault ↔ compile p.glob = .error fault :=
      Pattern.hits_eq_error_iff hpath
    rw [List.foldlM_cons, firstFault?, List.findSome?_cons]
    cases hglob : compile p.glob with
    | error fault' =>
      rw [(hhits fault').mpr hglob]
      exact ⟨fun h => by cases h; rfl, fun h => by cases h; rfl⟩
    | ok pieces =>
      obtain ⟨hit, hhit⟩ := Pattern.exists_hits_eq_ok ⟨pieces, hglob⟩ path isDirectory
      rw [hhit]
      exact ih _

/-- Matching patterns with a path that leads nowhere does not fail. -/
theorem ignores_of_segments_eq_nil {patterns : List Pattern} {path : String} {isDirectory : Bool}
    (hpath : Path.segments path = []) : ignores patterns path isDirectory = .ok false := by
  induction patterns with
  | nil => rfl
  | cons p patterns ih =>
    have hhits : p.hits path isDirectory = .ok false := by
      rw [Pattern.hits, Pattern.candidates_eq_nil_iff.mpr hpath]
    rw [ignores, List.foldlM_cons, hhits]
    exact ih

/-- Matching patterns with a path never fails but by the first fault. -/
theorem firstFault?_of_ignores {patterns : List Pattern} {path : String} {isDirectory : Bool}
    {fault : RegexFault} (h : ignores patterns path isDirectory = .error fault) :
    firstFault? patterns = some fault := by
  by_cases hpath : Path.segments path = []
  · rw [ignores_of_segments_eq_nil hpath] at h
    cases h
  · exact (ignores_eq_error_iff hpath).mp h

end Ignore

namespace Discovery

open ModuleLint.Ignore (Pattern RegexFault firstFault?)

/-- Whether an entry of the root is matched with the ignore patterns: a directory that is not passed
over by its name, or a file with the name of a source file. -/
def isTried (extensions : List String) (e : String × Entry) : Bool :=
  match e.2 with
  | .file _ => isSourceName extensions e.1
  | .directory _ => !isSkipped "" e.1

section Names

variable [CharacterNames]

section Walk

variable {settings : Settings} {patterns : List Pattern} {fault : RegexFault}

mutual

/-- A walk at or below an entry never fails but by the first fault of the patterns. -/
theorem firstFault?_of_walkEntry {base name : String} :
    (e : Entry) → walkEntry settings patterns base name e = .error fault →
      firstFault? patterns = some fault
  | .file bytes, hwalk => by
    rw [walkEntry] at hwalk
    split at hwalk
    · rcases Outcome.bind_eq_error_iff.mp hwalk with hignores | ⟨ignored, -, hrest⟩
      · exact Ignore.firstFault?_of_ignores hignores
      · cases ignored <;> cases hrest
    · cases hwalk
  | .directory entries, hwalk => by
    rw [walkEntry] at hwalk
    split at hwalk
    · cases hwalk
    · rcases Outcome.bind_eq_error_iff.mp hwalk with hignores | ⟨ignored, -, hrest⟩
      · exact Ignore.firstFault?_of_ignores hignores
      · cases ignored with
        | true => cases hrest
        | false => exact firstFault?_of_walkEntries entries hrest

/-- A walk over a directory never fails but by the first fault of the patterns. -/
theorem firstFault?_of_walkEntries {base : String} :
    (entries : List (String × Entry)) → walkEntries settings patterns base entries = .error fault →
      firstFault? patterns = some fault
  | [], hwalk => by
    rw [walkEntries] at hwalk
    cases hwalk
  | (name, e) :: entries, hwalk => by
    rw [walkEntries] at hwalk
    rcases Outcome.bind_eq_error_iff.mp hwalk with hhere | ⟨found, -, hrest⟩
    · exact firstFault?_of_walkEntry e hhere
    · rcases Outcome.bind_eq_error_iff.mp hrest with hthere | ⟨found', -, hfound⟩
      · exact firstFault?_of_walkEntries entries hthere
      · cases hfound

end

/-- Nothing is found at or below an entry of the root that is not matched with the patterns. -/
theorem walkEntry_of_not_isTried {e : String × Entry}
    (h : isTried settings.extensions e = false) :
    walkEntry settings patterns "" e.1 e.2 = .ok [] := by
  obtain ⟨name, e⟩ := e
  cases e with
  | file bytes => rw [walkEntry, if_neg (by simpa [isTried] using h)]
  | directory entries => rw [walkEntry, if_pos (by simpa [isTried] using h)]

/-- A walk at an entry of the root that is matched with the patterns fails if one has a fault. -/
theorem walkEntry_of_isTried {e : String × Entry} (hname : Path.IsName e.1)
    (h : isTried settings.extensions e = true) (hfault : firstFault? patterns = some fault) :
    walkEntry settings patterns "" e.1 e.2 = .error fault := by
  have hpath : Path.segments (childPath "" e.1) ≠ [] := by
    have hway : childPath "" e.1 = Path.ofNames [e.1] := @childPath_ofNames [] nofun e.1
    rw [hway, Path.segments_ofNames (by simpa using hname)]
    simp
  have hignores (isDirectory : Bool) :
      Ignore.ignores patterns (childPath "" e.1) isDirectory = .error fault :=
    (Ignore.ignores_eq_error_iff hpath).mpr hfault
  obtain ⟨name, e⟩ := e
  cases e with
  | file bytes =>
    rw [walkEntry, if_pos (by simpa [isTried] using h)]
    simp only [hignores]
    rfl
  | directory entries =>
    rw [walkEntry, if_neg (by simpa [isTried] using h)]
    simp only [hignores]
    rfl

/-- A walk over the root fails just if an entry is matched with the patterns and one of them has a
fault. It fails by the first of the faults. -/
theorem walkEntries_eq_error_iff {entries : Directory}
    (hnames : ∀ e ∈ entries, Path.IsName e.1) :
    walkEntries settings patterns "" entries = .error fault ↔
      firstFault? patterns = some fault ∧ ∃ e ∈ entries, isTried settings.extensions e = true := by
  induction entries with
  | nil =>
    rw [walkEntries]
    exact ⟨nofun, nofun⟩
  | cons e entries ih =>
    have hrest := ih fun e' he' => hnames e' (List.mem_cons_of_mem e he')
    cases htried : isTried settings.extensions e with
    | false =>
      have hskip : walkEntries settings patterns "" (e :: entries) =
          walkEntries settings patterns "" entries := by
        rw [walkEntries, walkEntry_of_not_isTried htried]
        cases walkEntries settings patterns "" entries <;> rfl
      rw [hskip, hrest]
      simp only [List.mem_cons, exists_eq_or_imp, htried, Bool.false_eq_true, false_or]
    | true =>
      constructor
      · intro hwalk
        exact ⟨firstFault?_of_walkEntries _ hwalk, e, List.mem_cons_self, htried⟩
      · intro h
        rw [walkEntries, walkEntry_of_isTried (hnames e List.mem_cons_self) htried h.1]
        rfl

end Walk

/-- Discovery fails just if an entry of the root is matched with the ignore patterns and one of them
has a fault. It fails by the first of the faults. -/
theorem discover_eq_error_iff {tree : Directory} {root : String} {settings : Settings}
    {fault : RegexFault} (hwf : (projectAt tree root).WellFormed) :
    discover tree root settings = .error fault ↔
      firstFault? (patterns tree root settings) = some fault ∧
        ∃ e ∈ projectAt tree root, isTried settings.extensions e = true := by
  rw [discover_eq_map_walkEntries, Outcome.map_eq_error_iff]
  exact walkEntries_eq_error_iff hwf.names

end Names

end Discovery

namespace Validation

open ModuleLint.Discovery (patterns projectAt isTried)
open ModuleLint.Ignore (GlobToken RegexFault compile firstFault? globTokens)

section Names

variable [CharacterNames] {tree : Directory} {root : String} {config : Config}

/-- A run on a directory fails just as discovery does. -/
theorem validate_eq_error_iff (hroot : checkRoot tree root = .ok ()) {fault : ValidationFault} :
    validate tree root none config = .error fault ↔
      ∃ f, fault = .badPattern f ∧
        Discovery.discover tree root config.discovery = .error f := by
  have hrules : rulesOf none config = .ok config.rules := rfl
  simp only [validate, survey, hroot, hrules, Outcome.bind_eq_error_iff,
    Outcome.mapError_eq_error_iff]
  simp [pure, Except.pure, and_comm, eq_comm]

end Names

/-- A project whose ignore file has a range that runs downwards. -/
def reversedProject : Directory :=
  [(".gitignore", .file (Text.Utf8.encode "[z-a]\n")), ("a.ts", .file [])]

/-- A project whose ignore file has a range that runs upwards. -/
def orderedProject : Directory :=
  [(".gitignore", .file (Text.Utf8.encode "[a-z].ts\n")), ("a.ts", .file [])]

/-- What is wrong with the range that runs downwards. -/
def reversedFault : RegexFault := ⟨.badRange "z" "a", 1, ['[', 'z', '-', 'a', ']']⟩

end Validation

end ModuleLint
