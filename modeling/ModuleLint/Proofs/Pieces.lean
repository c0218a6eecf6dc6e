import Mathlib.Data.List.Basic
import ModuleLint.Proofs.Regular

/-!
# Pieces of regular expressions

The units of a glob are written as pieces of a regular expression: a character of a set, any number
of such characters, or an optional run of directories. An expression made of pieces remembers nothing,
and so it matches a text just if its pieces, in order, use up the text.
-/

namespace ModuleLint.Ignore

/-- A piece of a regular expression. -/
inductive Piece
  /-- One character of the set. -/
  | one (a : Atom)
  /-- Any number of characters of the set. -/
  | many (a : Atom)
  /-- Nothing, or a text without line feeds that ends in `/`. -/
  | directories
  deriving DecidableEq, Repr

/-- Any number of characters of a set. -/
def anyNumber (a : Atom) : Regex :=
  .repeated .greedy 0 none (.one a {})

/-- The regular expression that a piece is. -/
def Piece.regex : Piece → Regex
  | one a => .one a {}
  | many a => anyNumber a
  | directories => .repeated .greedy 0 (some 1)
    (.andThen (anyNumber .any) (.andThen (.one (.char '/') {}) .nothing))

/-- The regular expression made of pieces. -/
def ofPieces (pieces : List Piece) : Regex :=
  (pieces.map Piece.regex).foldr .andThen .nothing

/-! ### Sets of characters without modes -/

@[simp] theorem holds_any (c : Char) : Atom.any.holds c = true ↔ c ≠ '\n' := by
  simp [Atom.holds]

@[simp] theorem holds_char (c d : Char) : (Atom.char d).holds c = true ↔ c = d := by
  simp [Atom.holds, Mode.variants, eq_comm]

@[simp] theorem holds_set (negated : Bool) (items : List ClassItem) (c : Char) :
    (Atom.set negated items).holds c = ((items.any fun i => i.holds c) != negated) := by
  simp [Atom.holds, Mode.variants]

/-! ### What pieces match -/

section Match

variable {pieces : List Piece} {atom : Atom} {text : List Char}

/-- Any number of characters of a set are asked for without remembering. -/
theorem isRegular_anyNumber (atom : Atom) : (anyNumber atom).IsRegular :=
  ⟨by decide, nofun, trivial⟩

/-- An expression made of pieces remembers nothing. -/
theorem isRegular_ofPieces (pieces : List Piece) : (ofPieces pieces).IsRegular := by
  induction pieces with
  | nil => trivial
  | cons piece pieces ih =>
    cases piece with
    | one atom => exact ⟨trivial, ih⟩
    | many atom => exact ⟨isRegular_anyNumber atom, ih⟩
    | directories =>
      have hbounds : ∀ n ∈ some 1, 0 ≤ n := fun n _ => Nat.zero_le n
      exact ⟨⟨by decide, hbounds, isRegular_anyNumber .any, trivial, trivial⟩, ih⟩

/-- Any number of characters of a set are a text of such characters. -/
theorem takes_anyNumber_iff :
    (anyNumber atom).Takes text ↔ ∀ c ∈ text, atom.holds c = true := by
  constructor
  · rintro ⟨parts, rfl, hparts, -, -⟩ c hc
    obtain ⟨part, hpart, hc⟩ := List.mem_flatten.mp hc
    obtain ⟨d, rfl, hd⟩ := hparts part hpart
    rwa [List.mem_singleton.mp hc]
  · intro htext
    have hparts : text = (text.map fun c => [c]).flatten := (List.flatMap_singleton' text).symm
    refine ⟨_, hparts, fun part hpart => ?_, Nat.zero_le _, nofun⟩
    obtain ⟨c, hc, rfl⟩ := List.mem_map.mp hpart
    exact ⟨c, rfl, htext c hc⟩

/-- A run of directories is nothing, or a text without line feeds that ends in a slash. -/
theorem takes_directories_iff :
    Piece.directories.regex.Takes text ↔
      text = [] ∨ ∃ dirs, text = dirs ++ ['/'] ∧ '\n' ∉ dirs := by
  have hbody (part : List Char) :
      (Regex.andThen (anyNumber .any) (.andThen (.one (.char '/') {}) .nothing)).Takes part ↔
        ∃ dirs, part = dirs ++ ['/'] ∧ '\n' ∉ dirs := by
    simp only [Regex.Takes, takes_anyNumber_iff, holds_any, holds_char]
    constructor
    · rintro ⟨dirs, _, rfl, hdirs, _, _, rfl, ⟨_, rfl, rfl⟩, rfl⟩
      exact ⟨dirs, rfl, fun hmem => hdirs _ hmem rfl⟩
    · rintro ⟨dirs, rfl, hdirs⟩
      exact ⟨dirs, ['/'], rfl, fun c hc => ne_of_mem_of_not_mem hc hdirs, ['/'], [], rfl,
        ⟨'/', rfl, rfl⟩, rfl⟩
  constructor
  · rintro ⟨parts, rfl, hparts, -, hmost⟩
    have hlength : parts.length ≤ 1 := hmost 1 rfl
    rcases parts with - | ⟨part, - | ⟨_, _⟩⟩
    · exact .inl rfl
    · rw [List.flatten_singleton]
      exact .inr ((hbody part).mp (hparts part List.mem_cons_self))
    · simp at hlength
  · rintro (rfl | hdirs)
    · exact ⟨[], rfl, by simp, Nat.zero_le _, by simp⟩
    · exact ⟨[text], by simp, by simpa using (hbody text).mpr hdirs, Nat.zero_le _, by simp⟩

/-- No pieces match nothing else than the empty text. -/
theorem fullMatch_nil_iff : (ofPieces []).fullMatch text = true ↔ text = [] :=
  Regex.fullMatch_iff_takes (isRegular_ofPieces []) text

/-- The first piece takes what comes first, and the others what is left. -/
theorem fullMatch_cons_iff {piece : Piece} : (ofPieces (piece :: pieces)).fullMatch text = true ↔
    ∃ run rest, text = run ++ rest ∧ piece.regex.Takes run ∧
      (ofPieces pieces).fullMatch rest = true := by
  simp only [Regex.fullMatch_iff_takes (isRegular_ofPieces _)]
  rfl

/-- One character of a set takes one character of the set. -/
theorem fullMatch_one_iff : (ofPieces (.one atom :: pieces)).fullMatch text = true ↔
    ∃ c rest, text = c :: rest ∧ atom.holds c = true ∧ (ofPieces pieces).fullMatch rest = true := by
  rw [fullMatch_cons_iff]
  constructor
  · rintro ⟨_, rest, rfl, ⟨c, rfl, hc⟩, hrest⟩
    exact ⟨c, rest, rfl, hc, hrest⟩
  · rintro ⟨c, rest, rfl, hc, hrest⟩
    exact ⟨[c], rest, rfl, ⟨c, rfl, hc⟩, hrest⟩

/-- Any number of characters of a set take a run of such characters. -/
theorem fullMatch_many_iff : (ofPieces (.many atom :: pieces)).fullMatch text = true ↔
    ∃ run rest, text = run ++ rest ∧ (∀ c ∈ run, atom.holds c = true) ∧
      (ofPieces pieces).fullMatch rest = true := by
  simp only [fullMatch_cons_iff, Piece.regex, takes_anyNumber_iff]

/-- Directories take nothing, or a text without line feeds that ends in a slash. -/
theorem fullMatch_directories_iff : (ofPieces (.directories :: pieces)).fullMatch text = true ↔
    (ofPieces pieces).fullMatch text = true ∨
      ∃ dirs rest, text = dirs ++ '/' :: rest ∧ '\n' ∉ dirs ∧
        (ofPieces pieces).fullMatch rest = true := by
  rw [fullMatch_cons_iff]
  simp only [takes_directories_iff]
  constructor
  · rintro ⟨_, rest, rfl, rfl | ⟨dirs, rfl, hdirs⟩, hrest⟩
    · exact .inl hrest
    · exact .inr ⟨dirs, rest, by simp, hdirs, hrest⟩
  · rintro (htext | ⟨dirs, rest, rfl, hdirs, hrest⟩)
    · exact ⟨[], text, rfl, .inl rfl, htext⟩
    · exact ⟨dirs ++ ['/'], rest, by simp, .inr ⟨dirs, rfl, hdirs⟩, hrest⟩

end Match

end ModuleLint.Ignore
