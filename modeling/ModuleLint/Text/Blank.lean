/-!
# Blank characters

Which characters count as white space, and the text that remains once the white space around
it is removed.
-/

namespace ModuleLint.Text

/-- A character is blank if Unicode gives it the white-space property or if it is one of the
four separators U+001C to U+001F. -/
def isBlank (c : Char) : Bool :=
  let n := c.toNat
  (9 ≤ n && n ≤ 13) || (28 ≤ n && n ≤ 32) || n == 0x85 || n == 0xa0 || n == 0x1680 ||
    (0x2000 ≤ n && n ≤ 0x200a) || n == 0x2028 || n == 0x2029 || n == 0x202f || n == 0x205f ||
    n == 0x3000

/-- Drops the characters that satisfy `p` from the end of a text. -/
def dropEndWhile (p : Char → Bool) : List Char → List Char
  | [] => []
  | c :: cs =>
    match dropEndWhile p cs with
    | [] => if p c then [] else [c]
    | rest => c :: rest

/-- The text without the blank characters at its two ends. -/
def strip (cs : List Char) : List Char :=
  dropEndWhile isBlank (cs.dropWhile isBlank)

/-- Nothing is cut off a text whose last character is not to be dropped. -/
theorem dropEndWhile_concat_of_neg {p : Char → Bool} {c : Char} (h : p c = false) (cs : List Char) :
    dropEndWhile p (cs ++ [c]) = cs ++ [c] := by
  induction cs with
  | nil => simp [dropEndWhile, h]
  | cons d cs ih =>
    rw [List.cons_append, dropEndWhile, ih]
    cases cs <;> rfl

/-- A last character that is to be dropped is dropped. -/
theorem dropEndWhile_concat_of_pos {p : Char → Bool} {c : Char} (h : p c = true) (cs : List Char) :
    dropEndWhile p (cs ++ [c]) = dropEndWhile p cs := by
  induction cs with
  | nil => simp [dropEndWhile, h]
  | cons d cs ih => rw [List.cons_append, dropEndWhile, ih, dropEndWhile]

/-- A text with no blank at either end stays as it is. -/
theorem strip_eq_self {cs : List Char} (hfirst : ∀ c ∈ cs.head?, isBlank c = false)
    (hlast : ∀ c ∈ cs.getLast?, isBlank c = false) : strip cs = cs := by
  have hstart : cs.dropWhile isBlank = cs := by
    cases cs with
    | nil => rfl
    | cons c cs => exact List.dropWhile_cons_of_neg (by simp [hfirst c rfl])
  rw [strip, hstart]
  rcases List.eq_nil_or_concat cs with rfl | ⟨before, c, hcs⟩
  · rfl
  · rw [List.concat_eq_append] at hcs
    subst hcs
    exact dropEndWhile_concat_of_neg (hlast c (by simp)) before

end ModuleLint.Text
