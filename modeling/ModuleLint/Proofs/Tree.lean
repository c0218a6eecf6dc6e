import ModuleLint.Proofs.Names
import ModuleLint.Tree

/-!
# Files in a tree

A file stands in a directory at the end of a way: the names of the directories it lies in, the
outermost first, and its own name. Where no directory has two entries of one name, a way leads to
one file at most, and looking up its path finds that file.
-/

namespace ModuleLint.Directory

/-- A directory as a file system has it: no two of its entries have the same name, each has a
proper name, and the same holds of the directories in it. -/
inductive WellFormed : Directory → Prop
  | intro {d : Directory} (distinct : (d.map Prod.fst).Nodup)
      (names : ∀ e ∈ d, Path.IsName e.1)
      (inner : ∀ name (sub : Directory), (name, Entry.directory sub) ∈ d → WellFormed sub) :
      WellFormed d

/-- A file with the given bytes stands in a directory, at the end of the way through directories
of the given names. -/
inductive HasFile : Directory → List String → String → List UInt8 → Prop
  | direct {d : Directory} {name : String} {bytes : List UInt8}
      (entry : (name, Entry.file bytes) ∈ d) : HasFile d [] name bytes
  | inside {d sub : Directory} {dir : String} {dirs : List String} {name : String}
      {bytes : List UInt8} (entry : (dir, Entry.directory sub) ∈ d)
      (rest : HasFile sub dirs name bytes) : HasFile d (dir :: dirs) name bytes

namespace WellFormed

variable {d : Directory}

/-- No two entries of a well-formed directory have the same name. -/
theorem distinct (h : d.WellFormed) : (d.map Prod.fst).Nodup := by
  cases h with | intro distinct _ _ => exact distinct

/-- The entries of a well-formed directory have proper names. -/
theorem names (h : d.WellFormed) : ∀ e ∈ d, Path.IsName e.1 := by
  cases h with | intro _ names _ => exact names

/-- The directories in a well-formed directory are well formed. -/
theorem inner (h : d.WellFormed) {name : String} {sub : Directory}
    (hsub : (name, Entry.directory sub) ∈ d) : sub.WellFormed := by
  cases h with | intro _ _ inner => exact inner name sub hsub

/-- A well-formed directory stays well formed without its first entry. -/
theorem tail {e : String × Entry} (h : WellFormed (e :: d)) : d.WellFormed := by
  cases h with
  | intro distinct names inner =>
    exact .intro (List.nodup_cons.mp distinct).2
      (fun e' he' => names e' (List.mem_cons_of_mem _ he'))
      (fun name sub hsub => inner name sub (List.mem_cons_of_mem _ hsub))

/-- The first entry of a well-formed directory makes a well-formed directory by itself. -/
theorem head {e : String × Entry} (h : WellFormed (e :: d)) : WellFormed [e] := by
  cases h with
  | intro distinct names inner =>
    exact .intro (by simp) (fun e' he' => names e' (by simp_all))
      (fun name sub hsub => inner name sub (by simp_all))

/-- An entry of a well-formed directory is found by its name. -/
theorem entry?_eq_some (h : d.WellFormed) {name : String} {entry : Entry}
    (hentry : (name, entry) ∈ d) : d.entry? name = some entry := by
  unfold entry?
  induction d with
  | nil => cases hentry
  | cons e d ih =>
    rcases List.mem_cons.mp hentry with rfl | hentry'
    · simp
    · have hfresh := (List.nodup_cons.mp h.distinct).1
      have hne : (e.1 == name) = false :=
        beq_eq_false_iff_ne.mpr fun heq => hfresh (heq ▸ List.mem_map_of_mem hentry')
      simpa [List.find?_cons, hne] using ih h.tail hentry'

end WellFormed

mutual

/-- Whether an entry is a file or a well-formed directory. -/
def isWellFormedEntry : Entry → Bool
  | .file _ => true
  | .directory entries =>
    decide ((entries.map Prod.fst).Nodup ∧ ∀ name ∈ entries.map Prod.fst, Path.IsName name) &&
      areWellFormedEntries entries

/-- Whether entries are files or well-formed directories. -/
def areWellFormedEntries : List (String × Entry) → Bool
  | [] => true
  | (_, entry) :: entries => isWellFormedEntry entry && areWellFormedEntries entries

end

/-- Entries are files or well-formed directories if each of them is. -/
theorem areWellFormedEntries_iff {d : Directory} :
    areWellFormedEntries d = true ↔ ∀ e ∈ d, isWellFormedEntry e.2 = true := by
  induction d with
  | nil => simp [areWellFormedEntries]
  | cons e d ih => simp [areWellFormedEntries, ih]

/-- A well-formed directory passes the test. -/
theorem WellFormed.isWellFormedEntry_eq_true {d : Directory} (h : d.WellFormed) :
    isWellFormedEntry (.directory d) = true := by
  induction h with
  | @intro d distinct names inner ih =>
    rw [isWellFormedEntry, Bool.and_eq_true, decide_eq_true_iff, areWellFormedEntries_iff]
    refine ⟨⟨distinct, by simpa using names⟩, ?_⟩
    intro e he
    obtain ⟨name, entry⟩ := e
    cases entry with
    | file bytes => rw [isWellFormedEntry]
    | directory sub => exact ih name sub he

/-- A directory that passes the test is well formed. -/
theorem wellFormed_of_isWellFormedEntry (d : Directory)
    (h : isWellFormedEntry (.directory d) = true) : d.WellFormed := by
  rw [isWellFormedEntry, Bool.and_eq_true, decide_eq_true_iff, areWellFormedEntries_iff] at h
  obtain ⟨⟨hdistinct, hnames⟩, hentries⟩ := h
  refine .intro hdistinct (fun e he => hnames e.1 (List.mem_map_of_mem he)) fun name sub hsub => ?_
  exact wellFormed_of_isWellFormedEntry sub (hentries _ hsub)
termination_by sizeOf d
decreasing_by
  have hsize := List.sizeOf_lt_of_mem hsub
  simp only [Prod.mk.sizeOf_spec, Entry.directory.sizeOf_spec] at hsize
  omega

instance (d : Directory) : Decidable d.WellFormed :=
  decidable_of_iff (isWellFormedEntry (.directory d) = true)
    ⟨wellFormed_of_isWellFormedEntry d, WellFormed.isWellFormedEntry_eq_true⟩

namespace HasFile

variable {d : Directory} {dirs : List String} {name : String} {bytes : List UInt8}

/-- A file stands in a directory at or below its first entry, or at or below the other ones. -/
theorem cons_iff {e : String × Entry} :
    HasFile (e :: d) dirs name bytes ↔ HasFile [e] dirs name bytes ∨ d.HasFile dirs name bytes := by
  constructor
  · intro h
    cases h with
    | direct hentry =>
      rcases List.mem_cons.mp hentry with rfl | hentry
      · exact .inl (.direct List.mem_cons_self)
      · exact .inr (.direct hentry)
    | inside hentry hrest =>
      rcases List.mem_cons.mp hentry with rfl | hentry
      · exact .inl (.inside List.mem_cons_self hrest)
      · exact .inr (.inside hentry hrest)
  · intro hor
    rcases hor with h | h
    · cases h with
      | direct hentry => exact .direct (by simp_all)
      | inside hentry hrest => exact .inside (by simp_all) hrest
    · cases h with
      | direct hentry => exact .direct (List.mem_cons_of_mem _ hentry)
      | inside hentry hrest => exact .inside (List.mem_cons_of_mem _ hentry) hrest

/-- In a directory with nothing but a file stands that file. -/
@[simp] theorem file_iff {name' : String} {bytes' : List UInt8} :
    HasFile [(name', .file bytes')] dirs name bytes ↔
      dirs = [] ∧ name = name' ∧ bytes = bytes' := by
  constructor
  · intro h
    cases h with
    | direct hentry => simpa using hentry
    | inside hentry _ => simp at hentry
  · intro hor
    obtain ⟨rfl, rfl, rfl⟩ := hor
    exact .direct List.mem_cons_self

/-- In a directory with nothing but a directory stand the files of that one. -/
@[simp] theorem directory_iff {dir : String} {sub : Directory} :
    HasFile [(dir, .directory sub)] dirs name bytes ↔
      ∃ rest, dirs = dir :: rest ∧ sub.HasFile rest name bytes := by
  constructor
  · intro h
    cases h with
    | direct hentry => simp at hentry
    | inside hentry hrest =>
      obtain ⟨rfl, rfl⟩ := by simpa using hentry
      exact ⟨_, rfl, hrest⟩
  · intro hor
    obtain ⟨rest, rfl, hrest⟩ := hor
    exact .inside List.mem_cons_self hrest

/-- The names along a way are proper names. -/
theorem isName (h : d.HasFile dirs name bytes) (hd : d.WellFormed) :
    ∀ n ∈ dirs ++ [name], Path.IsName n := by
  induction h with
  | direct hentry => simpa using hd.names _ hentry
  | inside hentry _ ih =>
    intro n hn
    rcases List.mem_cons.mp hn with rfl | hn
    · exact hd.names _ hentry
    · exact ih (hd.inner hentry) n hn

/-- A way begins with the name of an entry. -/
theorem exists_eq_cons (h : d.HasFile dirs name bytes) :
    ∃ e ∈ d, ∃ rest, dirs ++ [name] = e.1 :: rest := by
  cases h with
  | direct hentry => exact ⟨_, hentry, [], rfl⟩
  | inside hentry _ => exact ⟨_, hentry, _, rfl⟩

/-- Looking up a way from a directory, wherever that lies, finds the file at its end. -/
theorem findFrom?_eq_some (h : d.HasFile dirs name bytes) (hd : d.WellFormed)
    (outer : List Directory) : findFrom? outer d (dirs ++ [name]) = some (.file bytes) := by
  induction h generalizing outer with
  | direct hentry =>
    have hname := hd.names _ hentry
    simp [findFrom?, hname.ne_up, hd.entry?_eq_some hentry]
  | inside hentry _ ih =>
    have hname := hd.names _ hentry
    simp [findFrom?, hname.ne_up, hd.entry?_eq_some hentry, ih (hd.inner hentry)]

/-- No way goes on through a file. -/
theorem not_concat_prefix {dirs' : List String} {name' : String} {bytes' : List UInt8}
    (h : d.HasFile dirs name bytes) (h' : d.HasFile dirs' name' bytes') (hd : d.WellFormed) :
    ¬ dirs' ++ [name'] <+: dirs := by
  induction h' generalizing dirs with
  | direct hfile =>
    intro hway
    obtain ⟨rest, rfl⟩ := hway
    cases h with
    | inside hdir _ => simpa [hd.entry?_eq_some hdir] using hd.entry?_eq_some hfile
  | inside hdir' _ ih =>
    intro hway
    obtain ⟨rest, rfl⟩ := hway
    cases h with
    | inside hdir hrest =>
      have hsame := (hd.entry?_eq_some hdir).symm.trans (hd.entry?_eq_some hdir')
      obtain rfl := Entry.directory.inj (Option.some.inj hsame)
      exact ih hrest (hd.inner hdir) (List.prefix_append _ _)

end HasFile

/-- Looking up the rest of a way goes on from the directory that its beginning leads to. -/
theorem findFrom?_append {outer : List Directory} {d sub : Directory} {segments : List String}
    (h : findFrom? outer d segments = some (.directory sub)) (rest : List String) :
    ∃ outer', findFrom? outer d (segments ++ rest) = findFrom? outer' sub rest := by
  induction segments generalizing outer d with
  | nil =>
    obtain rfl : d = sub := by simpa [findFrom?] using h
    exact ⟨outer, rfl⟩
  | cons s segments ih =>
    simp only [List.cons_append, findFrom?] at h ⊢
    by_cases hup : s = ".."
    · cases outer with
      | nil => simp [hup] at h
      | cons up outer =>
        simp only [hup, ↓reduceIte] at h ⊢
        exact ih h
    · simp only [hup, ↓reduceIte] at h ⊢
      cases hentry : d.entry? s with
      | none => simp [hentry] at h
      | some entry =>
        cases entry with
        | file bytes => simp [hentry] at h
        | directory inner =>
          simp only [hentry] at h
          exact ih h

end ModuleLint.Directory
