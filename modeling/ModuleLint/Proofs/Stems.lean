import ModuleLint.Proofs.Names

/-!
# Stems and extensions of names

A path is called by its last segment. A name falls into a stem and an extension, which together are
the name again, whatever its dots are.
-/

namespace ModuleLint.Path

variable {path : String}

/-- A segment of a path is a root, or else a segment proper. -/
theorem isSegment_of_mem_segments {segment : String} (h : segment ∈ segments path)
    (hroot : isRoot segment = false) : IsSegment segment := by
  rw [segments, List.map_append, List.mem_append] at h
  rcases h with h | h
  · rcases root_cases path.toList with hnone | hone | htwo
    · rw [hnone] at h
      cases h
    · rw [hone] at h
      rw [List.mem_singleton.mp h] at hroot
      cases hroot
    · rw [htwo] at h
      rw [List.mem_singleton.mp h] at hroot
      cases hroot
  · obtain ⟨piece, hpiece, rfl⟩ := List.mem_map.mp h
    exact isSegment_of_mem_pieces hpiece

/-- The name of a path is a segment, unless it is empty. -/
theorem name_cases (path : String) : name path = "" ∨ IsSegment (name path) := by
  unfold name
  split
  · exact .inl rfl
  next segment hlast =>
    split
    · exact .inl rfl
    next hroot =>
      exact .inr (isSegment_of_mem_segments (List.mem_of_getLast? hlast) (by simpa using hroot))

/-- What follows the last slash of a path is its name, if that is a segment. -/
theorem name_eq_of_isSuffix {last : String} (hlast : IsSegment last)
    (h : '/' :: last.toList <:+ path.toList) : name path = last := by
  obtain ⟨before, hbefore⟩ := h
  obtain ⟨pieces, hpieces⟩ :=
    List.getLast?_eq_some_iff.mp (Text.getLast?_split_append_cons hlast.no_slash before)
  have hsegments : (segments path).getLast? = some last := by
    rw [segments, ← hbefore, hpieces, List.filter_append]
    simp [hlast.isIdle_eq_false]
  rw [name, hsegments]
  simp [hlast.isRoot_eq_false]

/-- A segment is called by itself. -/
theorem IsSegment.name_eq {segment : String} (h : IsSegment segment) : name segment = segment := by
  have hsegments : segments (ofNames [segment]) = [segment] := by
    rw [segments_ofNames_eq_filter (by simpa using h.no_slash) (by simpa using h.ne_empty)]
    simp [h.isIdle_eq_false]
  rw [ofNames, String.intercalate_singleton] at hsegments
  rw [name, hsegments]
  simp [h.isRoot_eq_false]

/-- The name of a path is called by itself. -/
theorem name_name (path : String) : name (name path) = name path := by
  rcases name_cases path with hempty | hsegment
  · rw [hempty]
    decide
  · exact hsegment.name_eq

/-- A name is cut at a dot of it. -/
theorem eq_of_cutAtLastDot? {cs before after : List Char}
    (h : cutAtLastDot? cs = some (before, after)) : cs = before ++ '.' :: after := by
  induction cs generalizing before with
  | nil => cases h
  | cons c cs ih =>
    rw [cutAtLastDot?] at h
    split at h
    next before' after' hcut =>
      obtain ⟨rfl, rfl⟩ := Prod.mk.inj (Option.some.inj h)
      rw [List.cons_append, ← ih hcut]
    next =>
      split at h
      next hdot =>
        obtain ⟨rfl, rfl⟩ := Prod.mk.inj (Option.some.inj h)
        rw [hdot, List.nil_append]
      next => cases h

/-- The stem and the extension of a name are the name again. -/
theorem stem_append_extension (name : String) :
    (stemAndExtension name).1 ++ (stemAndExtension name).2 = name := by
  unfold stemAndExtension
  split
  next before after hcut =>
    split
    · exact String.append_empty
    · rw [← String.ofList_append, ← eq_of_cutAtLastDot? hcut, String.ofList_toList]
  next => exact String.append_empty

/-- The stem and the extension of a name are made of its characters. -/
theorem stemAndExtension_subset (name : String) :
    (stemAndExtension name).1.toList ⊆ name.toList ∧
      (stemAndExtension name).2.toList ⊆ name.toList := by
  have hname : name.toList =
      (stemAndExtension name).1.toList ++ (stemAndExtension name).2.toList := by
    rw [← String.toList_append, stem_append_extension]
  rw [hname]
  exact ⟨List.subset_append_left _ _, List.subset_append_right _ _⟩

/-- The extension of a path has no slash. -/
theorem slash_notMem_extension (path : String) : '/' ∉ (extension path).toList := by
  intro hslash
  have hname : '/' ∈ (name path).toList := (stemAndExtension_subset (name path)).2 hslash
  rcases name_cases path with hempty | hsegment
  · rw [hempty] at hname
    cases hname
  · exact hsegment.no_slash hname

end ModuleLint.Path
