import ModuleLint.Grouping

/-!
# The files of modules

Grouping only moves files about: the files of all modules together are the files that belong to a
module, each as often as it was given. Within a module the files keep their order, and the modules
come in the order of their first files.
-/

namespace ModuleLint.Grouping

/-- Whether a file belongs to a module at all. -/
def isGrouped (extensions : List String) (file : SourceFile) : Bool :=
  (moduleOf? extensions file.path).isSome

/-- A file that is put into its module is one more file among those of all modules. -/
theorem flatMap_files_insert (name : String) (file : SourceFile) (gs : List Group) :
    ((insert name file gs).flatMap (·.files)).Perm (gs.flatMap (·.files) ++ [file]) := by
  induction gs with
  | nil => exact .refl _
  | cons g gs ih =>
    rw [insert]
    split
    · simp only [List.flatMap_cons, List.append_assoc]
      exact List.perm_append_comm.append_left g.files
    · simp only [List.flatMap_cons, List.append_assoc]
      exact ih.append_left g.files

/-- Going through files, each of which is put into its module if it has one, adds the files that
belong to a module. -/
theorem flatMap_files_foldl {extensions : List String}
    {step : List Group → SourceFile → List Group}
    (hnone : ∀ gs file, moduleOf? extensions file.path = none → step gs file = gs)
    (hsome : ∀ gs file name, moduleOf? extensions file.path = some name →
      step gs file = insert name file gs) (files : List SourceFile) (gs : List Group) :
    ((files.foldl step gs).flatMap (·.files)).Perm
      (gs.flatMap (·.files) ++ files.filter (isGrouped extensions)) := by
  induction files generalizing gs with
  | nil => simp
  | cons file files ih =>
    rw [List.foldl_cons]
    cases hname : moduleOf? extensions file.path with
    | none =>
      rw [hnone gs file hname]
      simpa [isGrouped, hname] using ih gs
    | some name =>
      rw [hsome gs file name hname]
      have hinsert := (flatMap_files_insert name file gs).append_right
        (files.filter (isGrouped extensions))
      simpa [isGrouped, hname] using (ih (insert name file gs)).trans hinsert

/-- The files of all modules are the files that belong to one. -/
theorem flatMap_files_groups (extensions : List String) (files : List SourceFile) :
    ((groups extensions files).flatMap (·.files)).Perm
      (files.filter (isGrouped extensions)) := by
  unfold groups
  refine flatMap_files_foldl ?_ ?_ files []
  · intro gs file hname
    rw [hname]
  · intro gs file name hname
    rw [hname]

/-- The files that belong to the module of a name. -/
def filesOf (extensions : List String) (name : String) (files : List SourceFile) :
    List SourceFile :=
  files.filter fun file => moduleOf? extensions file.path == some name

/-- The place of the first file of a module among files. -/
def firstPlace (extensions : List String) (name : String) (files : List SourceFile) : Nat :=
  files.findIdx fun file => moduleOf? extensions file.path == some name

/-- Modules as they come out of files: no two have the same name, each has all the files that belong
to it and has some, no module is left out, and they stand in the order of their first files. -/
structure IsGrouping (extensions : List String) (files : List SourceFile) (gs : List Group) :
    Prop where
  nodup : (gs.map (·.name)).Nodup
  files_eq : ∀ g ∈ gs, g.files = filesOf extensions g.name files
  files_ne_nil : ∀ g ∈ gs, g.files ≠ []
  mem_names : ∀ file ∈ files, ∀ name, moduleOf? extensions file.path = some name →
    name ∈ gs.map (·.name)
  ordered : gs.Pairwise fun g g' =>
    firstPlace extensions g.name files < firstPlace extensions g'.name files

/-- A file of a new module makes a module after all others. -/
theorem insert_of_notMem {name : String} {file : SourceFile} {gs : List Group}
    (h : name ∉ gs.map (·.name)) : insert name file gs = gs ++ [⟨name, [file]⟩] := by
  induction gs with
  | nil => rfl
  | cons g gs ih =>
    rw [List.map_cons, List.mem_cons, not_or] at h
    rw [insert, if_neg (Ne.symm h.1), ih h.2, List.cons_append]

/-- A module with a file put at its end, if it is the module of the name. -/
def Group.withFile (name : String) (file : SourceFile) (g : Group) : Group :=
  ⟨g.name, g.files ++ if g.name = name then [file] else []⟩

/-- A module is the same without any file of its own put at its end. -/
theorem Group.withFile_of_ne {name : String} {g : Group} (h : g.name ≠ name) (file : SourceFile) :
    g.withFile name file = g := by
  rw [withFile, if_neg h, List.append_nil]

/-- A file of a module that is there is put at its end. -/
theorem insert_of_mem {name : String} {file : SourceFile} {gs : List Group}
    (hnodup : (gs.map (·.name)).Nodup) (h : name ∈ gs.map (·.name)) :
    insert name file gs = gs.map (Group.withFile name file) := by
  induction gs with
  | nil => cases h
  | cons g gs ih =>
    rw [List.map_cons, List.nodup_cons] at hnodup
    rw [insert, List.map_cons]
    by_cases hname : g.name = name
    · have hothers : gs.map (Group.withFile name file) = gs := by
        refine (List.map_congr_left fun g' hg' => ?_).trans (List.map_id _)
        refine Group.withFile_of_ne (fun hname' => hnodup.1 ?_) file
        exact hname ▸ hname' ▸ List.mem_map_of_mem hg'
      rw [if_pos hname, hothers, Group.withFile, if_pos hname]
    · have hmem : name ∈ gs.map (·.name) :=
        (List.mem_cons.mp h).resolve_left (Ne.symm hname)
      rw [if_neg hname, Group.withFile_of_ne hname, ih hnodup.2 hmem]

section Step

variable {extensions : List String} {files : List SourceFile} {gs : List Group} {file : SourceFile}

/-- The files of a module go on with a file just if it belongs to it. -/
theorem filesOf_concat (name : String) :
    filesOf extensions name (files ++ [file]) = filesOf extensions name files ++
      if moduleOf? extensions file.path = some name then [file] else [] := by
  rw [filesOf, List.filter_append, filesOf]
  congr 1
  by_cases h : moduleOf? extensions file.path = some name <;> simp [h]

/-- Further files do not move the first file of a module that has one. -/
theorem firstPlace_concat {name : String} (h : firstPlace extensions name files < files.length) :
    firstPlace extensions name (files ++ [file]) = firstPlace extensions name files := by
  rw [firstPlace] at h ⊢
  rw [List.findIdx_append, if_pos h, firstPlace]

/-- The first file of a module that comes out of files is one of them. -/
theorem IsGrouping.firstPlace_lt (h : IsGrouping extensions files gs) {g : Group} (hg : g ∈ gs) :
    firstPlace extensions g.name files < files.length := by
  have hfiles : filesOf extensions g.name files ≠ [] :=
    h.files_eq g hg ▸ h.files_ne_nil g hg
  obtain ⟨first, hfirst⟩ := List.exists_mem_of_ne_nil _ hfiles
  exact List.findIdx_lt_length.mpr ⟨first, List.mem_filter.mp hfirst⟩

/-- Modules stay in the order of their first files when a file is added. -/
theorem IsGrouping.ordered_concat (h : IsGrouping extensions files gs) :
    gs.Pairwise fun g g' => firstPlace extensions g.name (files ++ [file]) <
      firstPlace extensions g'.name (files ++ [file]) := by
  refine h.ordered.imp_of_mem fun {g g'} hg hg' hlt => ?_
  rwa [firstPlace_concat (h.firstPlace_lt hg), firstPlace_concat (h.firstPlace_lt hg')]

/-- A file that belongs to no module changes no module. -/
theorem IsGrouping.concat_none (h : IsGrouping extensions files gs)
    (hnone : moduleOf? extensions file.path = none) :
    IsGrouping extensions (files ++ [file]) gs where
  nodup := h.nodup
  files_eq := by
    intro g hg
    rw [filesOf_concat, hnone, if_neg (by simp), List.append_nil, h.files_eq g hg]
  files_ne_nil := h.files_ne_nil
  mem_names := by
    intro f hf name hname
    rcases List.mem_append.mp hf with hf | hf
    · exact h.mem_names f hf name hname
    · obtain rfl := List.mem_singleton.mp hf
      rw [hnone] at hname
      cases hname
  ordered := h.ordered_concat

/-- A file that belongs to a new module makes it. -/
theorem IsGrouping.concat_new (h : IsGrouping extensions files gs) {name : String}
    (hname : moduleOf? extensions file.path = some name) (hnew : name ∉ gs.map (·.name)) :
    IsGrouping extensions (files ++ [file]) (gs ++ [⟨name, [file]⟩]) := by
  have hother (g : Group) (hg : g ∈ gs) : ¬ moduleOf? extensions file.path = some g.name := by
    intro heq
    obtain rfl := Option.some.inj (hname.symm.trans heq)
    exact hnew (List.mem_map_of_mem hg)
  have hempty : filesOf extensions name files = [] := by
    refine List.filter_eq_nil_iff.mpr fun f hf hf' => hnew ?_
    exact h.mem_names f hf name (by simpa using hf')
  constructor
  · simpa [List.nodup_append] using ⟨h.nodup, fun g hg heq => hnew (heq ▸ List.mem_map_of_mem hg)⟩
  · intro g hg
    rw [filesOf_concat]
    rcases List.mem_append.mp hg with hg | hg
    · rw [if_neg (hother g hg), List.append_nil, h.files_eq g hg]
    · obtain rfl := List.mem_singleton.mp hg
      rw [if_pos hname, hempty, List.nil_append]
  · intro g hg
    rcases List.mem_append.mp hg with hg | hg
    · exact h.files_ne_nil g hg
    · obtain rfl := List.mem_singleton.mp hg
      exact List.cons_ne_nil _ _
  · intro f hf name' hname'
    rw [List.map_append, List.mem_append]
    rcases List.mem_append.mp hf with hf | hf
    · exact .inl (h.mem_names f hf name' hname')
    · obtain rfl := List.mem_singleton.mp hf
      obtain rfl := Option.some.inj (hname.symm.trans hname')
      exact .inr (by simp)
  · refine List.pairwise_append.mpr ⟨h.ordered_concat, List.pairwise_singleton _ _, ?_⟩
    intro g hg g' hg'
    obtain rfl := List.mem_singleton.mp hg'
    have hplace : files.length ≤ firstPlace extensions name (files ++ [file]) := by
      have hnone : files.findIdx (fun file => moduleOf? extensions file.path == some name) =
          files.length := by
        rw [List.findIdx_eq_length]
        exact fun f hf => Bool.eq_false_iff.mpr (List.filter_eq_nil_iff.mp hempty f hf)
      rw [firstPlace, List.findIdx_append, hnone, if_neg (Nat.lt_irrefl _)]
      exact Nat.le_add_left _ _
    rw [firstPlace_concat (h.firstPlace_lt hg)]
    exact Nat.lt_of_lt_of_le (h.firstPlace_lt hg) hplace

/-- A file that belongs to a module that is there comes to it. -/
theorem IsGrouping.concat_old (h : IsGrouping extensions files gs) {name : String}
    (hname : moduleOf? extensions file.path = some name) (hold : name ∈ gs.map (·.name)) :
    IsGrouping extensions (files ++ [file]) (gs.map (Group.withFile name file)) := by
  have hnames : (gs.map (Group.withFile name file)).map (·.name) = gs.map (·.name) := by
    rw [List.map_map]
    rfl
  constructor
  · rw [hnames]
    exact h.nodup
  · intro g' hg'
    obtain ⟨g, hg, rfl⟩ := List.mem_map.mp hg'
    simp only [Group.withFile, filesOf_concat, h.files_eq g hg, hname, Option.some.injEq,
      eq_comm (a := name)]
  · intro g' hg'
    obtain ⟨g, hg, rfl⟩ := List.mem_map.mp hg'
    exact List.append_ne_nil_of_left_ne_nil (h.files_ne_nil g hg) _
  · intro f hf name' hname'
    rw [hnames]
    rcases List.mem_append.mp hf with hf | hf
    · exact h.mem_names f hf name' hname'
    · obtain rfl := List.mem_singleton.mp hf
      exact Option.some.inj (hname.symm.trans hname') ▸ hold
  · exact List.pairwise_map.mpr h.ordered_concat

end Step

/-- Going through files keeps the modules as they come out of the files so far. -/
theorem isGrouping_foldl {extensions : List String} {step : List Group → SourceFile → List Group}
    (hnone : ∀ gs file, moduleOf? extensions file.path = none → step gs file = gs)
    (hsome : ∀ gs file name, moduleOf? extensions file.path = some name →
      step gs file = insert name file gs) (files : List SourceFile) {before : List SourceFile}
    {gs : List Group} (h : IsGrouping extensions before gs) :
    IsGrouping extensions (before ++ files) (files.foldl step gs) := by
  induction files generalizing before gs with
  | nil => simpa using h
  | cons file files ih =>
    rw [List.foldl_cons, ← List.singleton_append, ← List.append_assoc]
    refine ih ?_
    cases hname : moduleOf? extensions file.path with
    | none =>
      rw [hnone gs file hname]
      exact h.concat_none hname
    | some name =>
      rw [hsome gs file name hname]
      by_cases hold : name ∈ gs.map (·.name)
      · rw [insert_of_mem h.nodup hold]
        exact h.concat_old hname hold
      · rw [insert_of_notMem hold]
        exact h.concat_new hname hold

/-- The first files of modules stand among all files in the order of the modules. -/
theorem IsGrouping.firsts {extensions : List String} {files : List SourceFile} {gs : List Group}
    (h : IsGrouping extensions files gs) :
    gs.Pairwise fun g g' => ∀ file ∈ g.files.head?, ∀ file' ∈ g'.files.head?,
      [file, file'].Sublist files := by
  refine h.ordered.imp_of_mem fun {g g'} hg hg' hlt file hfile file' hfile' => ?_
  rw [h.files_eq g hg, filesOf, List.head?_filter, List.find?_eq_getElem?_findIdx] at hfile
  rw [h.files_eq g' hg', filesOf, List.head?_filter, List.find?_eq_getElem?_findIdx] at hfile'
  have hbefore : file ∈ files.take (firstPlace extensions g'.name files) := by
    refine List.mem_of_getElem? (i := firstPlace extensions g.name files) ?_
    rw [List.getElem?_take, if_pos hlt]
    exact hfile
  have hafter : file' ∈ files.drop (firstPlace extensions g'.name files) := by
    refine List.mem_of_getElem? (i := 0) ?_
    rw [List.getElem?_drop, Nat.add_zero]
    exact hfile'
  rw [← List.take_append_drop (firstPlace extensions g'.name files) files]
  exact (List.singleton_sublist.mpr hbefore).append (List.singleton_sublist.mpr hafter)

/-- The modules of files are as they come out of them. -/
theorem isGrouping_groups (extensions : List String) (files : List SourceFile) :
    IsGrouping extensions files (groups extensions files) := by
  have hempty : IsGrouping extensions [] [] := ⟨List.nodup_nil, nofun, nofun, nofun, .nil⟩
  unfold groups
  refine isGrouping_foldl ?_ ?_ files hempty
  · intro gs file hname
    rw [hname]
  · intro gs file name hname
    rw [hname]

end ModuleLint.Grouping
