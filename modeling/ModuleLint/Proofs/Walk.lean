import ModuleLint.Discovery
import ModuleLint.Proofs.Patterns
import ModuleLint.Proofs.Tree

/-!
# What a walk finds

A walk enters a directory only if no directory on the way is passed over, so it finds a file just
if the whole way to it is open and the file itself is looked for. A walk over a well-formed
directory finds no file twice, and fails only if some pattern cannot be read.
-/

namespace ModuleLint.Discovery

open ModuleLint.Ignore (Pattern RegexFault ignores)
open ModuleLint.Path (IsName ofNames)
open ModuleLint.Text (CharacterNames)

/-- The path of an entry is made of the names on the way to it. -/
theorem childPath_ofNames {dirs : List String} (hdirs : ∀ n ∈ dirs, IsName n) (name : String) :
    childPath (ofNames dirs) name = ofNames (dirs ++ [name]) := by
  cases dirs with
  | nil => simp [childPath, ofNames]
  | cons dir dirs =>
    have hne : ofNames (dir :: dirs) ≠ "" := fun heq => by
      simpa using (Path.ofNames_eq_empty_iff hdirs).mp heq
    have hempty : (ofNames (dir :: dirs)).isEmpty = false := by simpa using hne
    rw [childPath, hempty, ofNames, ofNames, String.intercalate_append_of_ne_nil] <;> simp

/-- The names along a way through one more directory are proper names. -/
theorem isName_concat {outer : List String} {name : String} (houter : ∀ n ∈ outer, IsName n)
    (hname : IsName name) : ∀ n ∈ outer ++ [name], IsName n := by
  intro n hn
  rcases List.mem_append.mp hn with hn | hn
  · exact houter n hn
  · exact List.mem_singleton.mp hn ▸ hname

/-- The names of source files to look at, told by their endings. -/
theorem isSourceName_eq_true_iff {extensions : List String} {name : String} :
    isSourceName extensions name = true ↔
      (∃ e ∈ extensions, e.toList <:+ name.toList) ∧ isTestFile extensions name = false := by
  simp [isSourceName, List.isSuffixOf_iff_suffix]

variable [CharacterNames]

/-- The way through directories, given by their names with the outermost first, is open: none of
them belongs to dependencies, the first is no build result, and no pattern leaves any of them
out. -/
structure Open (patterns : List Pattern) (dirs : List String) : Prop where
  not_foreign : ∀ dir ∈ dirs, dir ≠ "node_modules" ∧ dir ≠ ".git"
  not_built : ∀ dir ∈ dirs.head?, dir ≠ "dist" ∧ dir ≠ "build" ∧ dir ≠ "coverage"
  not_ignored : ∀ way, way ≠ [] → way <+: dirs → ignores patterns (ofNames way) true = .ok false

/-- A source file is eligible: the way to it is open, its name ends in one of the extensions and
is not that of a test suite, and no pattern leaves it out. -/
structure Eligible (extensions : List String) (patterns : List Pattern) (dirs : List String)
    (name : String) : Prop where
  way_open : Open patterns dirs
  ending : ∃ e ∈ extensions, e.toList <:+ name.toList
  not_test : isTestFile extensions name = false
  not_ignored : ignores patterns (ofNames (dirs ++ [name])) false = .ok false

section Open

variable {patterns : List Pattern} {dirs : List String}

/-- The way that goes nowhere is open. -/
theorem open_nil : Open patterns [] where
  not_foreign := nofun
  not_built := nofun
  not_ignored := fun _ hne hway => absurd (List.prefix_nil.mp hway) hne

/-- The beginning of an open way is open. -/
theorem Open.of_append {rest : List String} (h : Open patterns (dirs ++ rest)) :
    Open patterns dirs where
  not_foreign := fun dir hdir => h.not_foreign dir (List.mem_append_left _ hdir)
  not_built := fun dir hdir => h.not_built dir (by cases dirs <;> simp_all)
  not_ignored := fun way hne hway =>
    h.not_ignored way hne (hway.trans (List.prefix_append dirs rest))

/-- An open way stays open through one more directory just if that one is not passed over. -/
theorem open_concat_iff (hdirs : ∀ n ∈ dirs, IsName n) {dir : String} :
    Open patterns (dirs ++ [dir]) ↔
      Open patterns dirs ∧ isSkipped (ofNames dirs) dir = false ∧
        ignores patterns (ofNames (dirs ++ [dir])) true = .ok false := by
  have hroot : isAtRoot (ofNames dirs) = true ↔ dirs = [] := by
    rw [isAtRoot, String.isEmpty_iff, Path.ofNames_eq_empty_iff hdirs]
  have hskipped : isSkipped (ofNames dirs) dir = false ↔
      (dir ≠ "node_modules" ∧ dir ≠ ".git") ∧
        (dirs = [] → dir ≠ "dist" ∧ dir ≠ "build" ∧ dir ≠ "coverage") := by
    rw [← hroot]
    cases hatRoot : isAtRoot (ofNames dirs) <;>
      simp [isSkipped, isForeign, isBuildResult, hatRoot, and_assoc]
  rw [hskipped]
  constructor
  · intro h
    refine ⟨h.of_append, ⟨h.not_foreign dir (by simp), ?_⟩,
      h.not_ignored _ (by simp) (List.prefix_refl _)⟩
    intro hempty
    subst hempty
    exact h.not_built dir (by simp)
  · intro hthrough
    obtain ⟨h, ⟨hforeign, hbuilt⟩, hignored⟩ := hthrough
    constructor
    · intro d hd
      rcases List.mem_append.mp hd with hd | hd
      · exact h.not_foreign d hd
      · exact List.mem_singleton.mp hd ▸ hforeign
    · intro d hd
      cases dirs with
      | nil =>
        obtain rfl : dir = d := by simpa using hd
        exact hbuilt rfl
      | cons first rest => exact h.not_built d (by simpa using hd)
    · intro way hne hway
      rcases List.prefix_concat_iff.mp hway with rfl | hway
      · exact hignored
      · exact h.not_ignored way hne hway

end Open

/-- A path is that of an eligible file in the directory `d`, which lies at the end of the way
through the directories `outer`. -/
def Lists (extensions : List String) (patterns : List Pattern) (outer : List String)
    (d : Directory) (path : String) : Prop :=
  ∃ dirs name bytes, d.HasFile dirs name bytes ∧
    Eligible extensions patterns (outer ++ dirs) name ∧ path = ofNames (outer ++ dirs ++ [name])

section Lists

variable {extensions : List String} {patterns : List Pattern} {outer : List String}
  {name path : String}

/-- The eligible files of a directory stand at or below its first entry, or the other ones. -/
theorem lists_cons_iff {e : String × Entry} {d : Directory} :
    Lists extensions patterns outer (e :: d) path ↔
      Lists extensions patterns outer [e] path ∨ Lists extensions patterns outer d path := by
  simp only [Lists, Directory.HasFile.cons_iff (e := e) (d := d), or_and_right, exists_or]

/-- A lone file is listed if it is eligible. -/
theorem lists_file_iff {bytes : List UInt8} :
    Lists extensions patterns outer [(name, .file bytes)] path ↔
      Eligible extensions patterns outer name ∧ path = ofNames (outer ++ [name]) := by
  simp only [Lists, Directory.HasFile.file_iff]
  constructor
  · intro h
    obtain ⟨dirs, name', bytes', ⟨rfl, rfl, -⟩, heligible, rfl⟩ := h
    simpa using heligible
  · intro h
    obtain ⟨heligible, rfl⟩ := h
    exact ⟨[], name, bytes, ⟨rfl, rfl, rfl⟩, by simpa using heligible, by simp⟩

/-- The eligible files of a lone directory are those of what it holds. -/
theorem lists_directory_iff {sub : Directory} :
    Lists extensions patterns outer [(name, .directory sub)] path ↔
      Lists extensions patterns (outer ++ [name]) sub path := by
  simp only [Lists, Directory.HasFile.directory_iff]
  constructor
  · intro h
    obtain ⟨dirs, name', bytes, ⟨rest, rfl, hfile⟩, heligible, rfl⟩ := h
    exact ⟨rest, name', bytes, hfile, by simpa using heligible, by simp⟩
  · intro h
    obtain ⟨rest, name', bytes, hfile, heligible, rfl⟩ := h
    exact ⟨name :: rest, name', bytes, ⟨rest, rfl, hfile⟩, by simpa using heligible, by simp⟩

/-- A listed path goes on from the way to the directory with the name of an entry. -/
theorem Lists.exists_eq_ofNames {d : Directory} (h : Lists extensions patterns outer d path)
    (hd : d.WellFormed) :
    ∃ e ∈ d, ∃ rest, (∀ n ∈ e.1 :: rest, IsName n) ∧ path = ofNames (outer ++ e.1 :: rest) := by
  obtain ⟨dirs, name', bytes, hfile, -, rfl⟩ := h
  obtain ⟨e, he, rest, hrest⟩ := hfile.exists_eq_cons
  exact ⟨e, he, rest, hrest ▸ hfile.isName hd, by rw [List.append_assoc, hrest]⟩

/-- Nothing is listed behind a directory to which the way is not open. -/
theorem not_lists_of_not_open {d : Directory} (h : ¬ Open patterns outer) :
    ¬ Lists extensions patterns outer d path := by
  intro hlists
  obtain ⟨dirs, name', bytes, -, heligible, -⟩ := hlists
  exact h heligible.way_open.of_append

end Lists

variable {settings : Settings} {patterns : List Pattern}

section Entries

variable {outer : List String} {name : String} {found : List String}

/-- A walk finds a file by its path if it is eligible, and else nothing. -/
theorem walkEntry_file_cases (houter : ∀ n ∈ outer, IsName n) (hopen : Open patterns outer)
    {bytes : List UInt8}
    (hwalk : walkEntry settings patterns (ofNames outer) name (.file bytes) = .ok found) :
    Eligible settings.extensions patterns outer name ∧ found = [ofNames (outer ++ [name])] ∨
      ¬ Eligible settings.extensions patterns outer name ∧ found = [] := by
  rw [walkEntry, childPath_ofNames houter] at hwalk
  by_cases hsource : isSourceName settings.extensions name = true
  · rw [if_pos hsource] at hwalk
    obtain ⟨hending, htest⟩ := isSourceName_eq_true_iff.mp hsource
    obtain ⟨ignored, hignored, hfound⟩ := Outcome.bind_eq_ok_iff.mp hwalk
    cases ignored with
    | true =>
      refine .inr ⟨fun h => ?_, (Outcome.pure_eq_ok_iff.mp hfound).symm⟩
      simpa [hignored] using h.not_ignored
    | false =>
      exact .inl ⟨⟨hopen, hending, htest, hignored⟩, (Outcome.pure_eq_ok_iff.mp hfound).symm⟩
  · rw [if_neg hsource] at hwalk
    refine .inr ⟨fun h => ?_, (Outcome.pure_eq_ok_iff.mp hwalk).symm⟩
    exact hsource (isSourceName_eq_true_iff.mpr ⟨h.ending, h.not_test⟩)

/-- A walk goes on in a directory if the way through it is open, and else finds nothing there. -/
theorem walkEntry_directory_cases (houter : ∀ n ∈ outer, IsName n) (hopen : Open patterns outer)
    {entries : Directory}
    (hwalk : walkEntry settings patterns (ofNames outer) name (.directory entries) = .ok found) :
    Open patterns (outer ++ [name]) ∧
        walkEntries settings patterns (ofNames (outer ++ [name])) entries = .ok found ∨
      ¬ Open patterns (outer ++ [name]) ∧ found = [] := by
  rw [walkEntry, childPath_ofNames houter] at hwalk
  by_cases hskipped : isSkipped (ofNames outer) name = true
  · rw [if_pos hskipped] at hwalk
    refine .inr ⟨fun h => ?_, (Outcome.pure_eq_ok_iff.mp hwalk).symm⟩
    simpa [hskipped] using ((open_concat_iff houter).mp h).2.1
  · rw [if_neg hskipped] at hwalk
    obtain ⟨ignored, hignored, hfound⟩ := Outcome.bind_eq_ok_iff.mp hwalk
    cases ignored with
    | true =>
      refine .inr ⟨fun h => ?_, (Outcome.pure_eq_ok_iff.mp hfound).symm⟩
      simpa [hignored] using ((open_concat_iff houter).mp h).2.2
    | false =>
      have hthrough : Open patterns (outer ++ [name]) :=
        (open_concat_iff houter).mpr ⟨hopen, by simpa using hskipped, hignored⟩
      exact .inl ⟨hthrough, hfound⟩

end Entries

mutual

/-- A walk that ends finds the eligible files at or below an entry. -/
theorem mem_walkEntry {outer : List String} (houter : ∀ n ∈ outer, IsName n)
    (hopen : Open patterns outer) {name : String} {found : List String} {path : String} :
    (e : Entry) → Directory.WellFormed [(name, e)] →
      walkEntry settings patterns (ofNames outer) name e = .ok found →
      (path ∈ found ↔ Lists settings.extensions patterns outer [(name, e)] path)
  | .file bytes, _, hwalk => by
    rw [lists_file_iff]
    rcases walkEntry_file_cases houter hopen hwalk with ⟨heligible, rfl⟩ | ⟨hnot, rfl⟩
    · simp [heligible]
    · simp [hnot]
  | .directory entries, hwf, hwalk => by
    rw [lists_directory_iff]
    rcases walkEntry_directory_cases houter hopen hwalk with ⟨hthrough, hwalk⟩ | ⟨hclosed, rfl⟩
    · have hname := hwf.names _ List.mem_cons_self
      exact mem_walkEntries (isName_concat houter hname) hthrough entries
        (hwf.inner List.mem_cons_self) hwalk
    · exact ⟨nofun, fun h => (not_lists_of_not_open hclosed h).elim⟩

/-- A walk that ends finds the eligible files of a directory. -/
theorem mem_walkEntries {outer : List String} (houter : ∀ n ∈ outer, IsName n)
    (hopen : Open patterns outer) {found : List String} {path : String} :
    (entries : Directory) → entries.WellFormed →
      walkEntries settings patterns (ofNames outer) entries = .ok found →
      (path ∈ found ↔ Lists settings.extensions patterns outer entries path)
  | [], _, hwalk => by
    rw [walkEntries] at hwalk
    obtain rfl := Outcome.pure_eq_ok_iff.mp hwalk
    refine ⟨nofun, ?_⟩
    intro h
    obtain ⟨dirs, name, bytes, hfile, -⟩ := h
    cases hfile with
    | direct hentry => cases hentry
    | inside hentry _ => cases hentry
  | (name, e) :: entries, hwf, hwalk => by
    rw [walkEntries] at hwalk
    obtain ⟨here, hhere, hwalk⟩ := Outcome.bind_eq_ok_iff.mp hwalk
    obtain ⟨there, hthere, hfound⟩ := Outcome.bind_eq_ok_iff.mp hwalk
    obtain rfl := Outcome.pure_eq_ok_iff.mp hfound
    rw [List.mem_append, lists_cons_iff, mem_walkEntry houter hopen e hwf.head hhere,
      mem_walkEntries houter hopen entries hwf.tail hthere]

end

mutual

/-- A walk that ends finds no file at or below an entry twice. -/
theorem nodup_walkEntry {outer : List String} (houter : ∀ n ∈ outer, IsName n)
    (hopen : Open patterns outer) {name : String} {found : List String} :
    (e : Entry) → Directory.WellFormed [(name, e)] →
      walkEntry settings patterns (ofNames outer) name e = .ok found → found.Nodup
  | .file bytes, _, hwalk => by
    rcases walkEntry_file_cases houter hopen hwalk with ⟨-, rfl⟩ | ⟨-, rfl⟩
    · simp
    · exact List.nodup_nil
  | .directory entries, hwf, hwalk => by
    rcases walkEntry_directory_cases houter hopen hwalk with ⟨hthrough, hwalk⟩ | ⟨-, rfl⟩
    · have hname := hwf.names _ List.mem_cons_self
      exact nodup_walkEntries (isName_concat houter hname) hthrough entries
        (hwf.inner List.mem_cons_self) hwalk
    · exact List.nodup_nil

/-- A walk that ends finds no file of a directory twice. -/
theorem nodup_walkEntries {outer : List String} (houter : ∀ n ∈ outer, IsName n)
    (hopen : Open patterns outer) {found : List String} :
    (entries : Directory) → entries.WellFormed →
      walkEntries settings patterns (ofNames outer) entries = .ok found → found.Nodup
  | [], _, hwalk => by
    rw [walkEntries] at hwalk
    obtain rfl := Outcome.pure_eq_ok_iff.mp hwalk
    exact List.nodup_nil
  | (name, e) :: entries, hwf, hwalk => by
    rw [walkEntries] at hwalk
    obtain ⟨here, hhere, hwalk⟩ := Outcome.bind_eq_ok_iff.mp hwalk
    obtain ⟨there, hthere, hfound⟩ := Outcome.bind_eq_ok_iff.mp hwalk
    obtain rfl := Outcome.pure_eq_ok_iff.mp hfound
    refine List.nodup_append.mpr ⟨nodup_walkEntry houter hopen e hwf.head hhere,
      nodup_walkEntries houter hopen entries hwf.tail hthere, ?_⟩
    intro path hpath _ hpath' heq
    subst heq
    have hlists := (mem_walkEntry houter hopen e hwf.head hhere).mp hpath
    have hlists' := (mem_walkEntries houter hopen entries hwf.tail hthere).mp hpath'
    obtain ⟨first, hfirst, rest, hrest, rfl⟩ := hlists.exists_eq_ofNames hwf.head
    obtain ⟨first', hfirst', rest', hrest', heq⟩ := hlists'.exists_eq_ofNames hwf.tail
    have hnames {way : List String} (hway : ∀ n ∈ way, IsName n) : ∀ n ∈ outer ++ way, IsName n :=
      fun n hn => (List.mem_append.mp hn).elim (houter n) (hway n)
    have hway := Path.ofNames_inj (hnames hrest) (hnames hrest') heq
    have hfresh := (List.nodup_cons.mp hwf.distinct).1
    obtain rfl := List.mem_singleton.mp hfirst
    obtain ⟨hname, -⟩ : name = first'.1 ∧ rest = rest' := by simpa using hway
    have hmem : first'.1 ∈ entries.map Prod.fst := List.mem_map_of_mem hfirst'
    exact hfresh (hname ▸ hmem)

end

mutual

/-- A walk at or below an entry ends if all patterns can be read. -/
theorem exists_walkEntry_eq_ok (h : Ignore.Readable patterns) (base name : String) :
    (e : Entry) → ∃ found, walkEntry settings patterns base name e = .ok found
  | .file bytes => by
    obtain ⟨ignored, hignored⟩ := h.exists_ignores_eq_ok (childPath base name) false
    rw [walkEntry]
    split
    · simp only [hignored]
      cases ignored
      · exact ⟨_, rfl⟩
      · exact ⟨_, rfl⟩
    · exact ⟨_, rfl⟩
  | .directory entries => by
    obtain ⟨ignored, hignored⟩ := h.exists_ignores_eq_ok (childPath base name) true
    rw [walkEntry]
    split
    · exact ⟨_, rfl⟩
    · simp only [hignored]
      cases ignored
      · exact exists_walkEntries_eq_ok h (childPath base name) entries
      · exact ⟨_, rfl⟩

/-- A walk over a directory ends if all patterns can be read. -/
theorem exists_walkEntries_eq_ok (h : Ignore.Readable patterns) (base : String) :
    (entries : Directory) → ∃ found, walkEntries settings patterns base entries = .ok found
  | [] => ⟨[], by rw [walkEntries]⟩
  | (name, e) :: entries => by
    rw [walkEntries]
    obtain ⟨here, hhere⟩ := exists_walkEntry_eq_ok h base name e
    obtain ⟨there, hthere⟩ := exists_walkEntries_eq_ok h base entries
    rw [hhere, hthere]
    exact ⟨_, rfl⟩

end

end ModuleLint.Discovery
