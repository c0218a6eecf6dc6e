import Mathlib.Data.List.Basic
import ModuleLint.Proofs.ComputedFields

/-!
# Resolver indexes of many files

What the index of some files says of an entity is the union of what the indexes of any two parts of
the files say of it. So neither the order in which files are read nor reading one of them again
matters. Each entry of such an index is of use: it stands for an entity with a name, alone, and
lists some field, and each field that it lists has a name.
-/

namespace ModuleLint.ResolverIndex

open ModuleLint.Rules

/-- The entities that have an entry. -/
def entities (index : ResolverIndex) : List String :=
  index.map Prod.fst

/-- Two indexes say the same: they have entries for the same entities, and list the same fields for
each of them. In which order they do so is left open. -/
structure SaysSame (index index' : ResolverIndex) : Prop where
  same_entities : ∀ entity, entity ∈ index.entities ↔ entity ∈ index'.entities
  same_fields : ∀ entity field, field ∈ index.fields entity ↔ field ∈ index'.fields entity

/-- Names for fields that an entry may list: there is one, none is listed twice, and none is
empty. -/
structure AreFields (names : List String) : Prop where
  ne_nil : names ≠ []
  distinct : names.Nodup
  named : "" ∉ names

/-- An index in which no entity has two entries, and each entry stands for an entity with a name and
lists fields. -/
structure Proper (index : ResolverIndex) : Prop where
  distinct : index.entities.Nodup
  named : "" ∉ index.entities
  listed : ∀ e ∈ index, AreFields e.2

section Entries

variable {index : ResolverIndex} {entity : String} {names more : List String}

/-- A union lists no name twice if its first part does not. -/
theorem nodup_union (h : names.Nodup) : (union names more).Nodup := by
  unfold union
  induction more generalizing names with
  | nil => exact h
  | cons n more ih =>
    rw [List.foldl_cons]
    split
    · exact ih h
    · next hn =>
      refine ih (List.nodup_append.mpr ⟨h, by simp, ?_⟩)
      intro m hm n' hn' heq
      obtain rfl := List.mem_singleton.mp hn'
      exact hn (by simpa [heq] using hm)

/-- Fields stay fields when more names are added to them. -/
theorem areFields_union (h : names.Nodup) (hnamed : "" ∉ names) (hmore : more ≠ [])
    (hmore' : "" ∉ more) : AreFields (union names more) where
  ne_nil := by
    obtain ⟨n, hn⟩ := List.exists_mem_of_ne_nil more hmore
    exact List.ne_nil_of_mem (mem_union.mpr (.inr hn))
  distinct := nodup_union h
  named := by simp [mem_union, hnamed, hmore']

/-- Adding fields of an entity makes an entry for it, if there is none, and for no other. -/
theorem mem_entities_add {other : String} :
    other ∈ (index.add entity names).entities ↔ other ∈ index.entities ∨ other = entity := by
  induction index with
  | nil => simp [add, entities]
  | cons e index ih =>
    simp only [entities] at ih ⊢
    rw [add]
    split
    · next hkey => simp [← hkey, or_comm]
    · simp [ih, or_assoc]

/-- Nothing has an entry in the empty index. -/
theorem proper_nil : Proper [] where
  distinct := List.nodup_nil
  named := List.not_mem_nil
  listed := nofun

/-- An index is proper if its first entry is one that it may have, and so are the others among
themselves, none of which stands for the same entity. -/
theorem proper_cons_iff {e : String × List String} :
    Proper (e :: index) ↔ e.1 ∉ index.entities ∧ e.1 ≠ "" ∧ AreFields e.2 ∧ index.Proper := by
  constructor
  · intro h
    obtain ⟨hfresh, hdistinct⟩ := List.nodup_cons.mp h.distinct
    obtain ⟨hnamed, hnamed'⟩ := not_or.mp (List.mem_cons.not.mp h.named)
    obtain ⟨hlisted, hlisted'⟩ := List.forall_mem_cons.mp h.listed
    exact ⟨hfresh, Ne.symm hnamed, hlisted, hdistinct, hnamed', hlisted'⟩
  · intro h
    obtain ⟨hfresh, hnamed, hlisted, hrest⟩ := h
    exact ⟨List.nodup_cons.mpr ⟨hfresh, hrest.distinct⟩,
      List.not_mem_cons_of_ne_of_not_mem (Ne.symm hnamed) hrest.named,
      List.forall_mem_cons.mpr ⟨hlisted, hrest.listed⟩⟩

/-- An index stays proper when named fields of a named entity are added. -/
theorem Proper.add (h : index.Proper) (hentity : entity ≠ "") (hnames : names ≠ [])
    (hnamed : "" ∉ names) : (index.add entity names).Proper := by
  induction index with
  | nil =>
    rw [ResolverIndex.add, proper_cons_iff]
    exact ⟨List.not_mem_nil, hentity,
      areFields_union List.nodup_nil List.not_mem_nil hnames hnamed, h⟩
  | cons e index ih =>
    obtain ⟨hfresh, hne, hlisted, hrest⟩ := proper_cons_iff.mp h
    rw [ResolverIndex.add]
    split
    · exact proper_cons_iff.mpr ⟨hfresh, hne,
        areFields_union hlisted.distinct hlisted.named hnames hnamed, hrest⟩
    · next hkey =>
      refine proper_cons_iff.mpr ⟨fun hmem => ?_, hne, hlisted, ih hrest⟩
      exact (mem_entities_add.mp hmem).elim hfresh hkey

/-- An index stays proper when the fields of a class are added. -/
theorem Proper.addClass (h : index.Proper) (c : Declaration) : (index.addClass c).Proper := by
  unfold ResolverIndex.addClass
  split
  · dsimp only
    split
    · exact h
    · next hsome =>
      simp only [Bool.or_eq_true, not_or, String.isEmpty_iff, List.isEmpty_iff] at hsome
      refine h.add hsome.1 hsome.2 fun hmem => ?_
      obtain ⟨m, -, hm⟩ := List.mem_flatMap.mp hmem
      exact (mem_fieldsOf.mp hm).1 rfl
  · exact h

/-- The index of files is proper. -/
theorem proper_collect (files : List ParsedFile) : (collect files).Proper := by
  have hclasses (classes : List Declaration) (index : ResolverIndex) (h : index.Proper) :
      (classes.foldl ResolverIndex.addClass index).Proper :=
    List.foldlRecOn classes _ h fun _ h c _ => h.addClass c
  exact List.foldlRecOn files _ proper_nil fun _ h file _ => hclasses file.classes _ h

/-- What an entry of a proper index lists is what the index says of its entity. -/
theorem Proper.fields_eq (h : index.Proper) {e : String × List String} (he : e ∈ index) :
    index.fields e.1 = e.2 := by
  induction index with
  | nil => cases he
  | cons first index ih =>
    obtain ⟨hfresh, -, -, hrest⟩ := proper_cons_iff.mp h
    rw [fields_cons]
    rcases List.mem_cons.mp he with rfl | he
    · rw [if_pos rfl]
    · have hne : e.1 ≠ first.1 := fun heq => hfresh (heq ▸ List.mem_map_of_mem he)
      rw [if_neg hne, ih hrest he]

/-- An entity without an entry has no fields. -/
theorem fields_eq_nil (h : entity ∉ index.entities) : index.fields entity = [] := by
  induction index with
  | nil => rfl
  | cons e index ih =>
    obtain ⟨hne, hrest⟩ := not_or.mp (List.mem_cons.not.mp h)
    rw [fields_cons, if_neg hne, ih hrest]

/-- The entities of a proper index are those of which it says some field. -/
theorem Proper.mem_entities_iff (h : index.Proper) :
    entity ∈ index.entities ↔ ∃ field, field ∈ index.fields entity := by
  constructor
  · intro hmem
    obtain ⟨e, he, rfl⟩ := List.mem_map.mp hmem
    rw [h.fields_eq he]
    exact List.exists_mem_of_ne_nil _ (h.listed e he).ne_nil
  · intro hsome
    obtain ⟨field, hfield⟩ := hsome
    by_contra hnone
    simp [fields_eq_nil hnone] at hfield

/-- Proper indexes say the same if they say the same fields of each entity. -/
theorem Proper.saysSame {index' : ResolverIndex} (h : index.Proper) (h' : index'.Proper)
    (hfields : ∀ entity field, field ∈ index.fields entity ↔ field ∈ index'.fields entity) :
    index.SaysSame index' where
  same_entities := fun entity => by
    rw [h.mem_entities_iff, h'.mem_entities_iff]
    exact exists_congr fun field => hfields entity field
  same_fields := hfields

end Entries

/-- The index of two lists of files says of an entity what the indexes of the two lists say of it
together. -/
theorem mem_fields_collect_append {xs ys : List ParsedFile} {entity field : String} :
    field ∈ (collect (xs ++ ys)).fields entity ↔
      field ∈ (collect xs).fields entity ∨ field ∈ (collect ys).fields entity := by
  simp only [mem_fields_collect, List.mem_append, or_and_right, exists_or]

/-- The index of two lists of files says of each entity what the indexes of the two lists say of it
together, and has an entry just for the entities that have one in either. Lists of the same files
have indexes that say the same, whatever the order of the files and however often each of them is
read. No entity without a name has an entry, and each entry lists some fields, all with a name. -/
theorem collect_append (xs ys : List ParsedFile) :
    (∀ entity field, field ∈ (collect (xs ++ ys)).fields entity ↔
      field ∈ (collect xs).fields entity ∨ field ∈ (collect ys).fields entity) ∧
    (∀ entity, entity ∈ (collect (xs ++ ys)).entities ↔
      entity ∈ (collect xs).entities ∨ entity ∈ (collect ys).entities) ∧
    (∀ zs : List ParsedFile, (∀ file, file ∈ zs ↔ file ∈ xs) →
      (collect zs).SaysSame (collect xs)) ∧
    (collect xs).Proper := by
  refine ⟨fun entity field => mem_fields_collect_append, fun entity => ?_, fun zs hzs => ?_,
    proper_collect xs⟩
  · simp only [(proper_collect _).mem_entities_iff, mem_fields_collect_append, exists_or]
  · refine (proper_collect zs).saysSame (proper_collect xs) fun entity field => ?_
    simp only [mem_fields_collect, hzs]

/-- A file with a resolver class for an entity that has a method for one field. -/
def resolverFile (entity field : String) : ParsedFile where
  path := entity ++ ".resolver.ts"
  classes := [
    { kind := .classType
      name := some (entity ++ "Resolver")
      line := 1
      decorators := [⟨resolver, 1, []⟩]
      members := [
        { kind := .method
          name := some field
          line := 2
          decorators := [⟨"ResolveField", 2, []⟩]
          members := []
          parameters := []
          base := none }]
      parameters := []
      base := none }]
  calls := []

/-- Two files that compute a field each of one entity make one entry with both fields, and so do the
same files read in another order, one of them twice. -/
theorem collect_append_shared :
    (∀ file, file ∈ [resolverFile "User" "posts", resolverFile "User" "name",
        resolverFile "User" "posts"] ↔
      file ∈ [resolverFile "User" "name", resolverFile "User" "posts"]) ∧
    (collect [resolverFile "User" "posts", resolverFile "User" "name",
      resolverFile "User" "posts"]).SaysSame
        (collect [resolverFile "User" "name", resolverFile "User" "posts"]) ∧
    collect [resolverFile "User" "name", resolverFile "User" "posts"] =
      [("User", ["name", "posts"])] := by
  have hsame (file : ParsedFile) : file ∈ [resolverFile "User" "posts", resolverFile "User" "name",
        resolverFile "User" "posts"] ↔
      file ∈ [resolverFile "User" "name", resolverFile "User" "posts"] := by
    simp only [List.mem_cons, List.not_mem_nil, or_false]
    exact ⟨fun h => h.elim .inr id, fun h => h.elim (fun h => .inr (.inl h)) .inl⟩
  refine ⟨hsame, (collect_append _ []).2.2.1 _ hsame, by decide +kernel⟩

end ModuleLint.ResolverIndex
