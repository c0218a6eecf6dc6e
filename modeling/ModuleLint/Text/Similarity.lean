/-!
# Similar words

How alike two words are: the longest piece that both have, and then the longest pieces on both
sides of it. Words are similar if three fifths of their characters lie in such pieces.
-/

namespace ModuleLint.Text

/-- The number of characters that two texts have in common at their beginning. -/
def commonStart : List Char → List Char → Nat
  | a :: as, b :: bs => if a = b then commonStart as bs + 1 else 0
  | _, _ => 0

/-- A piece that two texts have in common: where it begins in each, and its length. -/
structure CommonPiece where
  /-- Where it begins in the first text. -/
  first : Nat
  /-- Where it begins in the second text. -/
  second : Nat
  /-- Its length. -/
  length : Nat

/-- The longest common piece, the first of several in the first text, and then the first in the
second one. -/
def longestPiece (as bs : List Char) : CommonPiece :=
  let starts := (List.range as.length).flatMap fun i => (List.range bs.length).map fun j => (i, j)
  starts.foldl (fun best (i, j) =>
    let n := commonStart (as.drop i) (bs.drop j)
    if best.length < n then ⟨i, j, n⟩ else best) ⟨0, 0, 0⟩

/-- The number of characters in common pieces; `fuel` bounds the depth of the search. -/
def commonCountFrom : Nat → List Char → List Char → Nat
  | 0, _, _ => 0
  | fuel + 1, as, bs =>
    let piece := longestPiece as bs
    if piece.length = 0 then 0
    else
      commonCountFrom fuel (as.take piece.first) (bs.take piece.second) + piece.length +
        commonCountFrom fuel (as.drop (piece.first + piece.length))
          (bs.drop (piece.second + piece.length))

/-- The number of characters of `as` that lie in common pieces. -/
def commonCount (as bs : List Char) : Nat :=
  commonCountFrom (as.length + 1) as bs

/-- How alike a word is to another: twice the common count over the sum of the lengths, as the
two numbers of the fraction. -/
def likeness (word other : String) : Nat × Nat :=
  (2 * commonCount other.toList word.toList, other.length + word.length)

/-- Whether a likeness is at least three fifths. -/
def isClose (l : Nat × Nat) : Bool :=
  3 * l.2 ≤ 5 * l.1

/-- Whether a word and its likeness come before another: the more alike first, and of equally
alike words the later one. -/
def isCloser (a b : String × (Nat × Nat)) : Bool :=
  let left := a.2.1 * b.2.2
  let right := b.2.1 * a.2.2
  right < left || (right == left && b.1 ≤ a.1)

/-- The words that are similar to a word, the closest first, three at most. -/
def similarWords (word : String) (words : List String) : List String :=
  let close := (words.map fun w => (w, likeness word w)).filter fun w => isClose w.2
  ((close.mergeSort isCloser).take 3).map (·.1)

end ModuleLint.Text
