import Mathlib.Data.List.Basic
import ModuleLint.Ignore.Pattern

/-!
# Lines with marks

A line of an ignore file is a glob with marks around it: an exclamation mark before it takes paths
in again, and a slash behind it restricts it to directories. A glob that begins and ends with
neither a mark nor a blank is read off such a line again, along with the marks.
-/

namespace ModuleLint.Ignore

open ModuleLint.Text (dropEndWhile isBlank strip)

/-- The line that holds a glob with the given marks. -/
def markedLine (negated directoryOnly : Bool) (glob : String) : String :=
  (if negated then "!" else "") ++ glob ++ (if directoryOnly then "/" else "")

/-- A text has plain ends: neither is blank, and the first character does not mark a comment or what
takes paths in again. -/
structure HasPlainEnds (cs : List Char) : Prop where
  first : ∀ c ∈ cs.head?, isBlank c = false ∧ c ≠ '#' ∧ c ≠ '!'
  last : ∀ c ∈ cs.getLast?, isBlank c = false

instance (cs : List Char) : Decidable (HasPlainEnds cs) :=
  decidable_of_iff
    ((cs.head?.all fun c => decide (isBlank c = false ∧ c ≠ '#' ∧ c ≠ '!')) = true ∧
      (cs.getLast?.all fun c => decide (isBlank c = false)) = true) <| by
    simp only [Option.all_eq_true, decide_eq_true_iff]
    exact ⟨fun ⟨hfirst, hlast⟩ => ⟨hfirst, hlast⟩, fun ⟨hfirst, hlast⟩ => ⟨hfirst, hlast⟩⟩

/-- A line holds a glob as it is: there is something to hold, with plain ends and no slash at
either. -/
structure FitsLine (glob : List Char) : Prop extends HasPlainEnds glob where
  ne_nil : glob ≠ []
  head_ne : glob.head? ≠ some '/'
  last_ne : glob.getLast? ≠ some '/'

section Marks

variable {glob : List Char} (negated directoryOnly : Bool)

/-- The characters of a marked line. -/
theorem toList_markedLine (glob : String) :
    (markedLine negated directoryOnly glob).toList =
      (if negated then ['!'] else []) ++ glob.toList ++ (if directoryOnly then ['/'] else []) := by
  cases negated <;> cases directoryOnly <;> simp [markedLine]

/-- Nothing is stripped off a marked line. -/
theorem FitsLine.strip_eq (h : FitsLine glob) :
    strip ((if negated then ['!'] else []) ++ glob ++ (if directoryOnly then ['/'] else [])) =
      (if negated then ['!'] else []) ++ glob ++ (if directoryOnly then ['/'] else []) := by
  refine Text.strip_eq_self (fun d hd => ?_) (fun d hd => ?_)
  · obtain ⟨c, cs, rfl⟩ := List.exists_cons_of_ne_nil h.ne_nil
    cases negated with
    | true =>
      obtain rfl : '!' = d := by simpa using hd
      decide
    | false => exact (h.first d (by simpa using hd)).1
  · cases directoryOnly with
    | true =>
      rw [if_pos rfl, List.getLast?_concat] at hd
      obtain rfl := Option.some.inj hd
      decide
    | false =>
      rw [if_neg Bool.false_ne_true, List.append_nil,
        List.getLast?_append_of_ne_nil _ h.ne_nil] at hd
      exact h.last d hd

/-- A glob with a slash behind it is read off without the slash. -/
theorem FitsLine.dropEndWhile_eq (h : FitsLine glob) :
    dropEndWhile (· == '/') (glob ++ (if directoryOnly then ['/'] else [])) = glob := by
  obtain ⟨before, c, rfl⟩ := (List.eq_nil_or_concat' glob).resolve_left h.ne_nil
  have hc : (c == '/') = false := by simpa using h.last_ne
  cases directoryOnly with
  | true =>
    rw [if_pos rfl, Text.dropEndWhile_concat_of_pos (by decide),
      Text.dropEndWhile_concat_of_neg (p := (· == '/')) hc]
  | false =>
    rw [if_neg Bool.false_ne_true, List.append_nil,
      Text.dropEndWhile_concat_of_neg (p := (· == '/')) hc]

/-- A slash is read at the end of a line just if it was marked so. -/
theorem FitsLine.getLast?_eq (h : FitsLine glob) :
    ((glob ++ (if directoryOnly then ['/'] else [])).getLast? == some '/') = directoryOnly := by
  obtain ⟨before, c, rfl⟩ := (List.eq_nil_or_concat' glob).resolve_left h.ne_nil
  cases directoryOnly with
  | true => simp
  | false => simpa using h.last_ne

/-- A glob that fits on a line keeps something when a final `/**` is cut off. -/
theorem FitsLine.dropSubtreeEnd_ne_nil (h : FitsLine glob) : dropSubtreeEnd glob ≠ [] := by
  unfold dropSubtreeEnd
  split
  · next hsuffix =>
    obtain ⟨before, rfl⟩ := List.isSuffixOf_iff_suffix.mp hsuffix
    intro hnil
    have hbefore : before = [] := by simpa using hnil
    exact h.head_ne (by simp [hbefore])
  · exact h.ne_nil

/-- A glob that fits on a line is read off the marked line, but for a final `/**`, and so are the
marks. It is tied to the root if it has a slash. -/
theorem patternOfLine?_markedLine {glob : String} (h : FitsLine glob.toList) :
    patternOfLine? (markedLine negated directoryOnly glob) =
      some ⟨String.ofList (dropSubtreeEnd glob.toList), negated, glob.toList.contains '/',
        directoryOnly⟩ := by
  obtain ⟨c, cs, hglob⟩ := List.exists_cons_of_ne_nil h.ne_nil
  obtain ⟨-, hcomment, hbang⟩ := h.first c (by simp [hglob])
  have hdrop : glob.toList.dropWhile (· == '/') = glob.toList := by
    rw [hglob]
    exact List.dropWhile_cons_of_neg (by simpa [hglob] using h.head_ne)
  have hrest : (if negated then (markedLine negated directoryOnly glob).toList.drop 1
      else (markedLine negated directoryOnly glob).toList) =
        glob.toList ++ if directoryOnly then ['/'] else [] := by
    rw [toList_markedLine]
    cases negated <;> simp
  have hhead : ((markedLine negated directoryOnly glob).toList.head? == some '!') = negated := by
    rw [toList_markedLine, hglob]
    cases negated <;> simp [hbang]
  have hsome : ((markedLine negated directoryOnly glob).toList.isEmpty ||
      (markedLine negated directoryOnly glob).toList.head? == some '#') = false := by
    rw [toList_markedLine, hglob]
    cases negated <;> simp [hcomment]
  have hstrip : strip (markedLine negated directoryOnly glob).toList =
      (markedLine negated directoryOnly glob).toList := by
    rw [toList_markedLine]
    exact h.strip_eq negated directoryOnly
  rw [patternOfLine?, hstrip]
  simp only [hsome, hhead, hrest, h.getLast?_eq, h.dropEndWhile_eq, hdrop, Bool.false_eq_true,
    if_false, List.isEmpty_eq_false_iff.mpr h.dropSubtreeEnd_ne_nil]

end Marks

end ModuleLint.Ignore
