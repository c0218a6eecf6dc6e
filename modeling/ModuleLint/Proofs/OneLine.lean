import Mathlib.Data.List.Basic
import ModuleLint.Proofs.Names

/-!
# Texts on one line

A text without line feeds stands on one line. What is put together of such texts does too, and so
does what is cut out of one: the pieces of a text are made of its characters, and so are the
segments of a path.
-/

namespace ModuleLint

namespace Text

/-- A text stands on one line: it has no line feed. -/
def IsOneLine (s : String) : Prop :=
  '\n' ∉ s.toList

instance (s : String) : Decidable (IsOneLine s) :=
  inferInstanceAs (Decidable (¬ _))

/-- Two texts in a row stand on one line just if both do. -/
@[simp] theorem isOneLine_append {s t : String} :
    IsOneLine (s ++ t) ↔ IsOneLine s ∧ IsOneLine t := by
  simp [IsOneLine]

/-- Two texts in a row stand on one line if both do. -/
theorem IsOneLine.append {s t : String} (hs : IsOneLine s) (ht : IsOneLine t) :
    IsOneLine (s ++ t) :=
  isOneLine_append.mpr ⟨hs, ht⟩

/-- Words stand on one line if they are spelt without a line feed. -/
theorem IsOneLine.words {cs : List Char} (h : '\n' ∉ cs) : IsOneLine (String.ofList cs) := by
  rwa [IsOneLine, String.toList_ofList]

/-- A text stands on one line if its characters are those of one that does. -/
theorem IsOneLine.of_subset {s t : String} (h : IsOneLine t) (hsubset : s.toList ⊆ t.toList) :
    IsOneLine s :=
  fun hmem => h (hsubset hmem)

/-- What is put together is made of the texts and of what separates them. -/
theorem mem_of_mem_intercalate {sep : String} {texts : List String} {c : Char}
    (h : c ∈ (sep.intercalate texts).toList) : c ∈ sep.toList ∨ ∃ s ∈ texts, c ∈ s.toList := by
  induction texts with
  | nil => simp at h
  | cons s texts ih =>
    by_cases hnil : texts = []
    · rw [hnil, String.intercalate_singleton] at h
      exact .inr ⟨s, List.mem_cons_self, h⟩
    · rw [String.intercalate_cons_of_ne_nil hnil, String.toList_append, String.toList_append,
        List.mem_append, List.mem_append] at h
      rcases h with (hs | hsep) | hrest
      · exact .inr ⟨s, List.mem_cons_self, hs⟩
      · exact .inl hsep
      · exact (ih hrest).imp_right fun ⟨t, ht, hc⟩ => ⟨t, List.mem_cons_of_mem _ ht, hc⟩

/-- A list of texts stands on one line if the texts and what separates them do. -/
theorem isOneLine_intercalate {sep : String} (hsep : IsOneLine sep) {texts : List String}
    (h : ∀ s ∈ texts, IsOneLine s) : IsOneLine (sep.intercalate texts) := by
  intro hmem
  rcases mem_of_mem_intercalate hmem with hin | ⟨s, hs, hin⟩
  · exact hsep hin
  · exact h s hs hin

/-- A number is written with digits. -/
theorem isDigit_of_mem_toString {n : Nat} {c : Char} (h : c ∈ (toString n).toList) :
    c.isDigit = true := by
  rw [Nat.toString_eq_ofList_toDigits, String.toList_ofList] at h
  exact Nat.isDigit_of_mem_toDigits (by decide) (by decide) h

/-- A number stands on one line. -/
@[simp] theorem isOneLine_toString_nat (n : Nat) : IsOneLine (toString n) :=
  fun hmem => absurd (isDigit_of_mem_toString hmem) (by decide)

/-- What is put together is made of its pieces. -/
theorem subset_joinWith {sep : List Char} {pieces : List (List Char)} {piece : List Char}
    (h : piece ∈ pieces) : piece ⊆ joinWith sep pieces := by
  fun_induction joinWith sep pieces with
  | case1 => cases h
  | case2 first => exact List.mem_singleton.mp h ▸ List.Subset.refl _
  | case3 first pieces hpieces ih =>
    rcases List.mem_cons.mp h with rfl | h
    · exact List.subset_append_of_subset_left _ (List.subset_append_left _ _)
    · exact List.subset_append_of_subset_right _ (ih h)

/-- A piece of a text is made of characters of the text. -/
theorem subset_of_mem_split {sep : Char} {cs piece : List Char} (h : piece ∈ split sep cs) :
    piece ⊆ cs := by
  have hsubset : piece ⊆ joinWith [sep] (split sep cs) := subset_joinWith h
  rwa [joinWith_split] at hsubset

end Text

namespace Path

variable {path segment : String}

/-- The root of a path is made of slashes that the path begins with. -/
theorem subset_of_mem_root {cs piece : List Char} (h : piece ∈ root cs) : piece ⊆ cs := by
  unfold root at h
  split at h <;> simp_all

/-- A segment of a path is made of characters of the path. -/
theorem subset_of_mem_segments (h : segment ∈ segments path) : segment.toList ⊆ path.toList := by
  obtain ⟨piece, hpiece, rfl⟩ := List.mem_map.mp h
  rw [String.toList_ofList]
  rcases List.mem_append.mp hpiece with hroot | hpiece
  · exact subset_of_mem_root hroot
  · exact Text.subset_of_mem_split (List.mem_filter.mp hpiece).1

/-- The segments of a path that does not begin at a root have no slashes. -/
theorem slash_notMem_of_mem_segments (hpath : path.toList.head? ≠ some '/')
    (h : segment ∈ segments path) : '/' ∉ segment.toList := by
  have hroot : root path.toList = [] := by
    unfold root
    split <;> simp_all
  rw [segments, hroot, List.nil_append] at h
  obtain ⟨piece, hpiece, rfl⟩ := List.mem_map.mp h
  rw [String.toList_ofList]
  exact Text.notMem_of_mem_split (List.mem_filter.mp hpiece).1

end Path

end ModuleLint
