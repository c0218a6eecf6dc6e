import ModuleLint.Path

/-!
# Names and the paths made of them

A file or directory has a name, which is one segment of a path. The names on the way to a file
make up its path, and can be read off the path again, so that different ways have different
paths.
-/

namespace ModuleLint

/-- A text cut at a character is cut as the library cuts lists. -/
theorem Text.split_eq_splitOn (sep : Char) (cs : List Char) : split sep cs = cs.splitOn sep := by
  induction cs with
  | nil => rfl
  | cons c cs ih =>
    rw [split, List.splitOn_cons_eq_if_modifyHead]
    by_cases hc : c = sep
    · simp [hc, ih]
    · rw [if_neg hc, if_neg (by simpa using hc), ih]
      cases hs : cs.splitOn sep with
      | nil => exact absurd hs (List.splitOn_ne_nil sep cs)
      | cons piece pieces => rfl

/-- No piece of a text that was cut holds the separator. -/
theorem Text.notMem_of_mem_split {sep : Char} {cs piece : List Char} (h : piece ∈ split sep cs) :
    sep ∉ piece := by
  induction cs generalizing piece with
  | nil =>
    obtain rfl := List.mem_singleton.mp h
    exact List.not_mem_nil
  | cons c cs ih =>
    rw [split] at h
    split at h
    · rcases List.mem_cons.mp h with rfl | h
      · exact List.not_mem_nil
      · exact ih h
    next hc =>
      split at h
      · obtain rfl := List.mem_singleton.mp h
        simpa using Ne.symm hc
      next first pieces heq =>
        rcases List.mem_cons.mp h with rfl | h
        · have hfirst : sep ∉ first := ih (heq ▸ List.mem_cons_self)
          simpa using ⟨Ne.symm hc, hfirst⟩
        · exact ih (heq ▸ List.mem_cons_of_mem _ h)

/-- The last piece of a text is what follows the last separator. -/
theorem Text.getLast?_split_append_cons {sep : Char} {last : List Char} (h : sep ∉ last)
    (cs : List Char) : (split sep (cs ++ sep :: last)).getLast? = some last := by
  rw [split_eq_splitOn, List.splitOn_append_cons_self, List.splitOn_eq_singleton h,
    List.getLast?_concat]

namespace Path

/-- What stands between the slashes of a path and is not passed over. -/
structure IsSegment (segment : String) : Prop where
  ne_empty : segment ≠ ""
  ne_here : segment ≠ "."
  no_slash : '/' ∉ segment.toList

instance (segment : String) : Decidable (IsSegment segment) :=
  decidable_of_iff (segment ≠ "" ∧ segment ≠ "." ∧ '/' ∉ segment.toList)
    ⟨fun ⟨hempty, hhere, hslash⟩ => ⟨hempty, hhere, hslash⟩,
      fun ⟨hempty, hhere, hslash⟩ => ⟨hempty, hhere, hslash⟩⟩

/-- What a file or directory can be called: a text that is a segment of a path and leads neither
nowhere nor out of a directory. -/
structure IsName (name : String) : Prop where
  ne_empty : name ≠ ""
  ne_here : name ≠ "."
  ne_up : name ≠ ".."
  no_slash : '/' ∉ name.toList

instance (name : String) : Decidable (IsName name) :=
  decidable_of_iff (name ≠ "" ∧ name ≠ "." ∧ name ≠ ".." ∧ '/' ∉ name.toList)
    ⟨fun ⟨hempty, hhere, hup, hslash⟩ => ⟨hempty, hhere, hup, hslash⟩,
      fun ⟨hempty, hhere, hup, hslash⟩ => ⟨hempty, hhere, hup, hslash⟩⟩

/-- The path made of the names along a way. -/
def ofNames (names : List String) : String :=
  "/".intercalate names

/-- The characters of a path made of names. -/
theorem toList_ofNames (names : List String) :
    (ofNames names).toList = ['/'].intercalate (names.map String.toList) := by
  simp [ofNames]

/-- The characters of a path that goes through directories. -/
theorem toList_ofNames_concat {dirs : List String} (hdirs : dirs ≠ []) (name : String) :
    (ofNames (dirs ++ [name])).toList = (ofNames dirs).toList ++ '/' :: name.toList := by
  rw [ofNames, String.intercalate_append_of_ne_nil hdirs (by simp)]
  simp [ofNames]

/-- A segment is never passed over. -/
theorem IsSegment.isIdle_eq_false {segment : String} (h : IsSegment segment) :
    isIdle segment.toList = false := by
  have hempty : segment.toList ≠ [] := fun heq => h.ne_empty (String.toList_eq_nil_iff.mp heq)
  have hhere : segment.toList ≠ ['.'] := fun heq =>
    h.ne_here (String.toList_injective (heq.trans rfl))
  simp [isIdle, hempty, hhere]

/-- A name is a segment. -/
theorem IsName.isSegment {name : String} (h : IsName name) : IsSegment name :=
  ⟨h.ne_empty, h.ne_here, h.no_slash⟩

/-- A segment is not a root. -/
theorem IsSegment.isRoot_eq_false {segment : String} (h : IsSegment segment) :
    isRoot segment = false := by
  have hslash : ∀ root : String, '/' ∈ root.toList → (segment == root) = false := by
    intro root hroot
    rw [beq_eq_false_iff_ne]
    intro heq
    subst heq
    exact h.no_slash hroot
  rw [isRoot, hslash "/" (by decide), hslash "//" (by decide)]
  rfl

/-- A path begins with one root, which is made of slashes, or with none. -/
theorem root_cases (cs : List Char) :
    root cs = [] ∨ root cs = [['/']] ∨ root cs = [['/', '/']] := by
  unfold root
  split <;> simp

/-- The pieces of a path that are not passed over are segments. -/
theorem isSegment_of_mem_pieces {cs piece : List Char}
    (h : piece ∈ (Text.split '/' cs).filter fun s => !isIdle s) :
    IsSegment (String.ofList piece) := by
  obtain ⟨hsplit, hidle⟩ := List.mem_filter.mp h
  refine ⟨?_, ?_, ?_⟩
  · intro hempty
    obtain rfl := String.ofList_eq_empty_iff.mp hempty
    simp [isIdle] at hidle
  · intro hhere
    obtain rfl : piece = ['.'] := by
      rw [← String.toList_ofList (l := piece), hhere]
      rfl
    simp [isIdle] at hidle
  · rw [String.toList_ofList]
    exact Text.notMem_of_mem_split hsplit

/-- A path made of pieces without a slash, of which the first is not empty, does not begin at a
root. -/
theorem root_ofNames {pieces : List String} (hslash : ∀ p ∈ pieces, '/' ∉ p.toList)
    (hfirst : pieces.head? ≠ some "") : root (ofNames pieces).toList = [] := by
  rw [toList_ofNames]
  cases pieces with
  | nil => rfl
  | cons piece pieces =>
    have hpiece : piece ≠ "" := by simpa using hfirst
    cases hcs : piece.toList with
    | nil => exact absurd (String.toList_eq_nil_iff.mp hcs) hpiece
    | cons c cs =>
      have hc : c ≠ '/' := by
        intro heq
        subst heq
        exact hslash piece List.mem_cons_self (hcs ▸ List.mem_cons_self)
      rw [List.map_cons, hcs, List.intercalate_cons_cons_left, root]
      all_goals simp [hc]

/-- The segments of a path made of such pieces are those that are not passed over. -/
theorem segments_ofNames_eq_filter {pieces : List String} (hslash : ∀ p ∈ pieces, '/' ∉ p.toList)
    (hfirst : pieces.head? ≠ some "") :
    segments (ofNames pieces) = pieces.filter fun p => !isIdle p.toList := by
  have hslash' : ∀ cs ∈ pieces.map String.toList, '/' ∉ cs := by
    intro cs hcs
    obtain ⟨piece, hpiece, rfl⟩ := List.mem_map.mp hcs
    exact hslash piece hpiece
  rw [segments, root_ofNames hslash hfirst, List.nil_append, toList_ofNames,
    Text.split_eq_splitOn]
  cases pieces with
  | nil => rfl
  | cons piece pieces =>
    rw [List.splitOn_intercalate '/' hslash' (by simp), List.filter_map, List.map_map]
    simp [Function.comp_def]

/-- The first of some names is not empty. -/
theorem head?_ne_of_isName {names : List String} (h : ∀ n ∈ names, IsName n) :
    names.head? ≠ some "" :=
  fun heq => (h "" (List.mem_of_head? heq)).ne_empty rfl

/-- A path made of names does not begin with a slash. -/
theorem head?_ofNames_ne {names : List String} (h : ∀ n ∈ names, IsName n) :
    (ofNames names).toList.head? ≠ some '/' := by
  intro hhead
  obtain ⟨rest, hrest⟩ := List.head?_eq_some_iff.mp hhead
  have hroot := root_ofNames (fun n hn => (h n hn).no_slash) (head?_ne_of_isName h)
  rw [hrest] at hroot
  unfold root at hroot
  split at hroot <;> simp_all

/-- The names along a way are the segments of its path. -/
theorem segments_ofNames {names : List String} (h : ∀ n ∈ names, IsName n) :
    segments (ofNames names) = names := by
  rw [segments_ofNames_eq_filter (fun n hn => (h n hn).no_slash) (head?_ne_of_isName h)]
  exact List.filter_eq_self.mpr fun n hn => by simp [(h n hn).isSegment.isIdle_eq_false]

/-- A name is not a root. -/
theorem IsName.isRoot_eq_false {name : String} (h : IsName name) : isRoot name = false :=
  h.isSegment.isRoot_eq_false

/-- A path made of names goes on from a root. -/
theorem join_ofNames {names : List String} (h : ∀ n ∈ names, IsName n) (root : String) :
    join root (ofNames names) = segments root ++ names := by
  rw [join, segments_ofNames h]
  cases names with
  | nil => simp
  | cons name names => simp [(h name List.mem_cons_self).isRoot_eq_false]

/-- Different ways have different paths. -/
theorem ofNames_inj {names names' : List String} (h : ∀ n ∈ names, IsName n)
    (h' : ∀ n ∈ names', IsName n) (heq : ofNames names = ofNames names') : names = names' := by
  rw [← segments_ofNames h, heq, segments_ofNames h']

/-- Only the way that goes nowhere has the empty path. -/
theorem ofNames_eq_empty_iff {names : List String} (h : ∀ n ∈ names, IsName n) :
    ofNames names = "" ↔ names = [] := by
  constructor
  · intro heq
    exact ofNames_inj h (by simp) heq
  · intro heq
    subst heq
    rfl

end Path

end ModuleLint
