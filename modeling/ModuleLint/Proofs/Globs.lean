import Mathlib.Data.List.Basic
import Mathlib.Data.List.TakeDrop
import ModuleLint.Proofs.Classes
import ModuleLint.Proofs.Pieces

/-!
# Which globs can be read

The regular expression of a glob is the texts of its units, one after another, and reading it gives
one piece for each unit if the classes among them close by themselves. Only a glob with bracket
classes may be unreadable, since the bodies of these are as they were written. A class is plain if it
lists something, has no escapes, and each of its ranges runs upwards; plain classes close by
themselves, so every glob whose classes are plain can be read.
-/

namespace ModuleLint.Ignore

open ModuleLint.Text (CharacterNames)

/-- Whether a list of characters has no escapes, and each range in it runs upwards. -/
def isOrdered : List Char → Bool
  | [] => true
  | low :: '-' :: high :: cs =>
    low != '\\' && high != '\\' && decide (low.toNat ≤ high.toNat) && isOrdered cs
  | c :: cs => c != '\\' && isOrdered cs

/-- What a list of characters without escapes stands for between brackets. -/
def itemsOf : List Char → List ClassItem
  | [] => []
  | low :: '-' :: high :: cs => .range low.toNat high.toNat :: itemsOf cs
  | c :: cs => .point c.toNat :: itemsOf cs

/-- Whether the body of a class is negated. Both marks of a negation are read alike. -/
def isNegatedBody : List Char → Bool
  | '!' :: _ => true
  | '^' :: _ => true
  | _ => false

/-- The characters that the body of a class lists. -/
def listed (body : List Char) : List Char :=
  if isNegatedBody body then body.tail else body

/-- Whether a unit of a glob is no class, or a plain one. -/
def GlobToken.isPlain : GlobToken → Bool
  | bracket body => !(listed body).isEmpty && isOrdered (listed body)
  | _ => true

/-- The characters of a segment: all but the slash. -/
def segmentChar : Atom := .set true [.point '/'.toNat]

/-- The piece that a plain unit of a glob stands for. -/
def GlobToken.piece : GlobToken → Piece
  | subtree => .directories
  | anything => .many .any
  | part => .many segmentChar
  | single => .one segmentChar
  | bracket body => .one (.set (isNegatedBody body) (itemsOf (listed body)))
  | literal c => .one (.char c)

/-- The piece that a unit of a glob stands for, if it is no class or a class that closes by
itself. -/
def GlobToken.piece? [CharacterNames] : GlobToken → Option Piece
  | bracket body => (classAtom? body).map .one
  | t => some t.piece

/-- Only the first character that a body lists may be a closing bracket. -/
theorem closing_notMem_tail_listed {body : List Char} (h : ']' ∉ body.tail) :
    ']' ∉ (listed body).tail := by
  unfold listed
  split
  · exact fun hmem => h (List.mem_of_mem_tail hmem)
  · exact h

/-- A negated body is written with a caret before what it lists; any other body is written as it is
and does not begin with a caret. -/
theorem regexBody_cases (body : List Char) :
    isNegatedBody body = true ∧ regexBody body = '^' :: listed body ∨
      isNegatedBody body = false ∧ regexBody body = listed body ∧
        (listed body).head? ≠ some '^' := by
  fun_cases isNegatedBody body with
  | case1 cs => exact .inl ⟨rfl, rfl⟩
  | case2 cs => exact .inl ⟨rfl, rfl⟩
  | case3 _ hbang hcaret =>
    have hnegated : isNegatedBody body = false := by simp [isNegatedBody]
    have hlisted : listed body = body := by simp [listed, hnegated]
    refine .inr ⟨rfl, ?_, ?_⟩
    · rw [hlisted, regexBody]
      exact hbang
    · rw [hlisted, ne_eq, List.head?_eq_some_iff]
      simpa using hcaret

/-! ### Reading a class -/

section Classes

variable [CharacterNames]

/-- A token of one character that is no backslash stands for the character. -/
theorem readUnit_singleton {c : Char} (hc : c ≠ '\\') (text rest : List Char) :
    readUnit text [c] rest = .ok (.point c.toNat, rest) := by
  rw [readUnit, if_neg hc]

section Items

variable (text : RegexText) (start fuel : Nat) {items : List ClassItem} {c low high : Char}
  {rest : List Char}

/-- A closing bracket ends a class that lists something. -/
theorem readItems_close (hitems : items ≠ []) :
    readItems text start (fuel + 1) items (']' :: rest) = .ok (items.reverse, rest) := by
  rw [readItems, classToken_cons (by decide)]
  simp [hitems]

/-- A class goes on after a character that is listed by itself. -/
theorem readItems_point (hc : c ≠ '\\') (hopen : items ≠ [] → c ≠ ']')
    (hrest : rest.head? ≠ some '-') :
    readItems text start (fuel + 1) items (c :: rest) =
      readItems text start fuel (.point c.toNat :: items) rest := by
  rw [readItems, classToken_cons hc]
  dsimp only
  rw [if_neg (by simpa [imp_not_comm] using hopen), readUnit_singleton hc]
  simp only [bind, Except.bind]
  split
  · simp at hrest
  · rfl

/-- A class goes on after a range that runs upwards. -/
theorem readItems_range (hlow : low ≠ '\\') (hhigh : high ≠ '\\')
    (hopen : items ≠ [] → low ≠ ']') (hclosed : high ≠ ']') (hle : low.toNat ≤ high.toNat) :
    readItems text start (fuel + 1) items (low :: '-' :: high :: rest) =
      readItems text start fuel (.range low.toNat high.toNat :: items) rest := by
  rw [readItems, classToken_cons hlow]
  dsimp only
  rw [if_neg (by simpa [imp_not_comm] using hopen), readUnit_singleton hlow]
  simp only [bind, Except.bind]
  rw [classToken_cons hhigh]
  dsimp only
  rw [if_neg (by simpa using hclosed), readUnit_singleton hhigh]
  simp [rangeOf?, hle]

/-- A hyphen before the closing bracket is listed by itself. -/
theorem readItems_hyphen (hc : c ≠ '\\') (hopen : items ≠ [] → c ≠ ']') :
    readItems text start (fuel + 1) items (c :: '-' :: ']' :: rest) =
      .ok ((.point '-'.toNat :: .point c.toNat :: items).reverse, rest) := by
  rw [readItems, classToken_cons hc]
  dsimp only
  rw [if_neg (by simpa [imp_not_comm] using hopen), readUnit_singleton hc]
  simp only [bind, Except.bind]
  rw [classToken_cons (by decide)]
  rfl

end Items

/-- Ordered characters are read up to the closing bracket, which comes first among them at most
where the class opens. -/
theorem readItems_eq_ok (text : RegexText) (start : Nat) (rest : List Char) {cs : List Char}
    (hordered : isOrdered cs = true) (hclosing : ']' ∉ cs.tail) :
    ∀ {items : List ClassItem} {fuel : Nat}, cs.length < fuel → (items = [] → cs ≠ []) →
      (items ≠ [] → cs.head? ≠ some ']') →
      readItems text start fuel items (cs ++ ']' :: rest) =
        .ok (items.reverse ++ itemsOf cs, rest) := by
  fun_induction isOrdered cs with
  | case1 =>
    intro items fuel hfuel hempty _
    obtain ⟨fuel, rfl⟩ := Nat.exists_eq_add_one_of_ne_zero (Nat.ne_zero_of_lt hfuel)
    simpa [itemsOf] using readItems_close text start fuel fun h => hempty h rfl
  | case2 low high cs ih =>
    intro items fuel hfuel _ hhead
    obtain ⟨fuel, rfl⟩ := Nat.exists_eq_add_one_of_ne_zero (Nat.ne_zero_of_lt hfuel)
    simp only [Bool.and_eq_true, bne_iff_ne, decide_eq_true_eq] at hordered
    obtain ⟨⟨⟨hlow, hhigh⟩, hle⟩, hordered⟩ := hordered
    simp only [List.tail_cons, List.mem_cons, not_or] at hclosing
    obtain ⟨-, hclosed, hclosing⟩ := hclosing
    simp only [List.length_cons] at hfuel
    simp only [List.cons_append]
    rw [readItems_range text start fuel hlow hhigh (by simpa using hhead) (Ne.symm hclosed) hle]
    refine (ih hordered (fun h => hclosing (List.mem_of_mem_tail h)) (by omega) (by simp)
      (fun _ h => hclosing (List.mem_of_mem_head? h))).trans ?_
    simp [itemsOf]
  | case3 c cs hrange ih =>
    intro items fuel hfuel _ hhead
    obtain ⟨fuel, rfl⟩ := Nat.exists_eq_add_one_of_ne_zero (Nat.ne_zero_of_lt hfuel)
    simp only [Bool.and_eq_true, bne_iff_ne] at hordered
    obtain ⟨hc, hordered⟩ := hordered
    by_cases hhyphen : cs = ['-']
    · subst hhyphen
      simpa [itemsOf] using readItems_hyphen text start fuel hc (by simpa using hhead)
    · have hnext : (cs ++ ']' :: rest).head? ≠ some '-' := by
        rcases cs with _ | ⟨d, _ | ⟨e, cs⟩⟩
        · simp
        · simpa using hhyphen
        · simpa using fun hd => hrange e cs (by rw [hd])
      have hitems : itemsOf (c :: cs) = .point c.toNat :: itemsOf cs := by
        rw [itemsOf]
        exact hrange
      rw [List.cons_append, readItems_point text start fuel hc (by simpa using hhead) hnext]
      refine (ih hordered (fun h => hclosing (List.mem_of_mem_tail h))
        (Nat.lt_of_succ_lt_succ hfuel) (by simp)
        (fun _ h => hclosing (List.mem_of_mem_head? h))).trans ?_
      simp [hitems]

/-- A plain class is read as what its body lists. -/
theorem readClass_eq_ok (text : RegexText) {body : List Char}
    (hplain : (GlobToken.bracket body).isPlain = true) (hclosing : ']' ∉ body.tail)
    (rest : List Char) :
    readClass text (regexBody body ++ ']' :: rest) =
      .ok (.set (isNegatedBody body) (itemsOf (listed body)), rest) := by
  simp only [GlobToken.isPlain, Bool.and_eq_true, Bool.not_eq_true', List.isEmpty_eq_false_iff]
    at hplain
  obtain ⟨hne, hordered⟩ := hplain
  have hitems (start : Nat) :
      readItems text start ((listed body ++ ']' :: rest).length + 1) []
        (listed body ++ ']' :: rest) = .ok (itemsOf (listed body), rest) :=
    readItems_eq_ok text start rest hordered (closing_notMem_tail_listed hclosing)
      (by rw [List.length_append]; omega) (fun _ => hne) (fun h => (h rfl).elim)
  rcases regexBody_cases body with ⟨hnegated, hbody⟩ | ⟨hnegated, hbody, hcaret⟩
  · rw [hnegated, hbody, List.cons_append, readClass_caret, hitems]
    rfl
  · have hfirst : (listed body ++ ']' :: rest).head? ≠ some '^' := by
      rwa [List.head?_append, List.head?_eq_some_head hne, Option.some_or,
        ← List.head?_eq_some_head hne]
    rw [hnegated, hbody, readClass_listing text hfirst, hitems]
    rfl

/-- A plain class closes by itself. -/
theorem classAtom?_of_isPlain {body : List Char} (hplain : (GlobToken.bracket body).isPlain = true)
    (hclosing : ']' ∉ body.tail) :
    classAtom? body = some (.set (isNegatedBody body) (itemsOf (listed body))) := by
  rw [classAtom?, readClass_eq_ok [] hplain hclosing]

end Classes

/-! ### Reading what stands in a sequence -/

section Steps

variable {inner : Inner} {fuel : Nat} {done : List Regex} {st : Reading} {c : Char}
  {cs rest : List Char}

/-- A character that does not come next is not taken. -/
theorem accept_of_head?_ne (h : rest.head? ≠ some c) :
    (Reader.accept c).run { st with rest } = .ok (false, { st with rest }) := by
  cases rest with
  | nil => rfl
  | cons d ds =>
    have hd : d ≠ c := by simpa using h
    simp only [Reader.accept, StateT.run_bind, StateT.run_get, pure_bind, if_neg hd]
    rfl

/-- Repetitions are greedy where nothing says otherwise. -/
theorem readGreed_eq_ok (hlazy : rest.head? ≠ some '?') (hpossessive : rest.head? ≠ some '+') :
    readGreed.run { st with rest } = .ok (.greedy, { st with rest }) := by
  change ((Reader.accept '?').run { st with rest } >>= _) = _
  rw [accept_of_head?_ne hlazy]
  change ((Reader.accept '+').run { st with rest } >>= _) = _
  rw [accept_of_head?_ne hpossessive]
  rfl

/-- Characters with a meaning of their own are neither letters nor digits. -/
theorem isAlphanum_of_isSpecial (hc : isSpecial c = true) : c.isAlphanum = false := by
  have hlisted : ("()[]\x7b\x7d?*+-|^$\\.&~# \t\n\r".toList.all fun d => !d.isAlphanum) = true := by
    decide
  simp only [isSpecial, Bool.or_eq_true, List.contains_iff_mem, beq_iff_eq] at hc
  rcases hc with (hmem | hvertical) | hform
  · simpa using List.all_eq_true.mp hlisted c hmem
  · rw [← Char.ofNat_toNat c, hvertical]
    decide
  · rw [← Char.ofNat_toNat c, hform]
    decide

/-- A character without a meaning of its own is none that has one. -/
theorem ne_of_not_isSpecial {d : Char} (hc : isSpecial c = false) (hd : isSpecial d = true) :
    c ≠ d := by
  rintro rfl
  rw [hc] at hd
  cases hd

/-- A character without a meaning of its own asks for no repetition. -/
theorem isQuantifier_of_not_isSpecial (hc : isSpecial c = false) : isQuantifier c = false := by
  simp [isQuantifier, ne_of_not_isSpecial (d := '*') hc rfl, ne_of_not_isSpecial (d := '+') hc rfl,
    ne_of_not_isSpecial (d := '?') hc rfl, ne_of_not_isSpecial (d := '\x7b') hc rfl]

section Names

variable [CharacterNames]

/-- A sequence goes on behind what comes next, unless it ends before that. -/
theorem readSequence_cons {done' : List Regex} (hstroke : c ≠ '|') (hclose : c ≠ ')')
    (h : (readNext inner {} c done).run { st with rest := cs } = .ok (done', { st with rest })) :
    (readSequence inner {} (fuel + 1) done).run { st with rest := c :: cs } =
      (readSequence inner {} fuel done').run { st with rest } := by
  simp only [readSequence, StateT.run_bind, StateT.run_get, pure_bind, hstroke, hclose,
    decide_false, Bool.or_self, Bool.false_eq_true, if_false]
  change ((readNext inner {} c done).run { st with rest := cs } >>= _) = _
  rw [h]
  rfl

/-- A class is one character of the class. -/
theorem readNext_class {atom : Atom} (h : readClass st.text cs = .ok (atom, rest)) :
    (readNext inner {} '[' done).run { st with rest := cs } =
      .ok (.one atom {} :: done, { st with rest }) := by
  have hread : (Reader.reading readClass).run { st with rest := cs } =
      .ok (atom, { st with rest }) := by
    simp [Reader.reading, Reader.goOn, h]
  change ((Reader.reading readClass).run { st with rest := cs } >>= _) = _
  rw [hread]
  rfl

/-- An escaped character stands for itself. -/
theorem readNext_escaped (hc : isSpecial c = true) :
    (readNext inner {} '\\' done).run { st with rest := c :: rest } =
      .ok (.one (.char c) {} :: done, { st with rest }) := by
  have hread : (readOuterEscape {} c).run { st with rest } =
      .ok (.one (.char c) {}, { st with rest }) := by
    simp only [readOuterEscape, isAlphanum_of_isSpecial hc]
    rfl
  change ((readOuterEscape {} c).run { st with rest } >>= _) = _
  rw [hread]
  rfl

/-- A character without a meaning of its own stands for itself. -/
theorem readNext_ordinary (hc : isSpecial c = false) :
    (readNext inner {} c done).run { st with rest } =
      .ok (.one (.char c) {} :: done, { st with rest }) := by
  have hne (d : Char) (hd : isSpecial d = true) : c ≠ d := ne_of_not_isSpecial hc hd
  simp only [readNext, isQuantifier_of_not_isSpecial hc, hne '\\' rfl, hne '[' rfl, hne '(' rfl,
    hne '.' rfl, hne '^' rfl, hne '$' rfl, Bool.false_and, Bool.false_eq_true, if_false]
  rfl

/-- A dot is one character other than the line feed. -/
theorem readNext_dot : (readNext inner {} '.' done).run { st with rest } =
    .ok (.one .any {} :: done, { st with rest }) := rfl

/-- A group around what stands for directories is read as that. -/
theorem readNext_group (depth : Nat) :
    (readNext (nested (depth + 1)) {} '(' done).run
        { st with rest := '?' :: ':' :: '.' :: '*' :: '/' :: ')' :: rest } =
      .ok (.andThen (anyNumber .any) (.andThen (.one (.char '/') {}) .nothing) :: done,
        { st with rest }) := rfl

/-- A star asks for any number of characters of the set before it. -/
theorem readNext_star {atom : Atom} (hlazy : rest.head? ≠ some '?')
    (hpossessive : rest.head? ≠ some '+') :
    (readNext inner {} '*' (.one atom {} :: done)).run { st with rest } =
      .ok (anyNumber atom :: done, { st with rest }) := by
  change (readGreed.run { st with rest } >>= _) = _
  rw [readGreed_eq_ok hlazy hpossessive]
  rfl

/-- A question mark makes the sequence before it optional. -/
theorem readNext_option {first second : Regex} (hlazy : rest.head? ≠ some '?')
    (hpossessive : rest.head? ≠ some '+') :
    (readNext inner {} '?' (.andThen first second :: done)).run { st with rest } =
      .ok (.repeated .greedy 0 (some 1) (.andThen first second) :: done, { st with rest }) := by
  change (readGreed.run { st with rest } >>= _) = _
  rw [readGreed_eq_ok hlazy hpossessive]
  rfl

end Names

end Steps

/-! ### Reading the units of a glob -/

namespace GlobToken

theorem regexText_subtree : subtree.regexText = ['(', '?', ':', '.', '*', '/', ')', '?'] := by
  decide

theorem regexText_anything : anything.regexText = ['.', '*'] := by decide

theorem regexText_part : part.regexText = ['[', '^', '/', ']', '*'] := by decide

theorem regexText_single : single.regexText = ['[', '^', '/', ']'] := by decide

theorem regexText_bracket (body : List Char) :
    (bracket body).regexText = '[' :: (regexBody body ++ [']']) := rfl

theorem regexText_literal_special {c : Char} (hc : isSpecial c = true) :
    (literal c).regexText = ['\\', c] := if_pos hc

theorem regexText_literal_ordinary {c : Char} (hc : isSpecial c = false) :
    (literal c).regexText = [c] := if_neg (by simp [hc])

/-- The text of a unit begins with no quantifier. -/
theorem exists_regexText_eq_cons (t : GlobToken) :
    ∃ c cs, t.regexText = c :: cs ∧ isQuantifier c = false := by
  cases t with
  | subtree => exact ⟨_, _, regexText_subtree, by decide⟩
  | anything => exact ⟨_, _, regexText_anything, by decide⟩
  | part => exact ⟨_, _, regexText_part, by decide⟩
  | single => exact ⟨_, _, regexText_single, by decide⟩
  | bracket body => exact ⟨_, _, regexText_bracket body, by decide⟩
  | literal c =>
    cases hc : isSpecial c with
    | true => exact ⟨_, _, regexText_literal_special hc, by decide⟩
    | false => exact ⟨_, _, regexText_literal_ordinary hc, isQuantifier_of_not_isSpecial hc⟩

section Names

variable [CharacterNames]

/-- The text of a unit is read as its piece, in no more rounds than it has characters, whatever
follows but a quantifier. -/
theorem readSequence_regexText {t : GlobToken} {piece : Piece} (hpiece : t.piece? = some piece)
    {rest : List Char} (hrest : ∀ c ∈ rest.head?, isQuantifier c = false) (depth : Nat)
    (st : Reading) :
    ∃ rounds, rounds ≤ t.regexText.length ∧ ∀ fuel done,
      (readSequence (nested (depth + 1)) {} (fuel + rounds) done).run
          { st with rest := t.regexText ++ rest } =
        (readSequence (nested (depth + 1)) {} fuel (piece.regex :: done)).run
          { st with rest } := by
  have hlazy : rest.head? ≠ some '?' := fun h => absurd (hrest '?' h) (by decide)
  have hpossessive : rest.head? ≠ some '+' := fun h => absurd (hrest '+' h) (by decide)
  cases t with
  | subtree =>
    obtain rfl := Option.some.inj hpiece
    refine ⟨2, by decide, fun fuel done => ?_⟩
    rw [regexText_subtree]
    exact (readSequence_cons (by decide) (by decide) (readNext_group depth)).trans
      (readSequence_cons (by decide) (by decide) (readNext_option hlazy hpossessive))
  | anything =>
    obtain rfl := Option.some.inj hpiece
    refine ⟨2, by decide, fun fuel done => ?_⟩
    rw [regexText_anything]
    exact (readSequence_cons (by decide) (by decide) readNext_dot).trans
      (readSequence_cons (by decide) (by decide) (readNext_star hlazy hpossessive))
  | part =>
    obtain rfl := Option.some.inj hpiece
    refine ⟨2, by decide, fun fuel done => ?_⟩
    rw [regexText_part]
    exact (readSequence_cons (by decide) (by decide) (readNext_class rfl)).trans
      (readSequence_cons (by decide) (by decide) (readNext_star hlazy hpossessive))
  | single =>
    obtain rfl := Option.some.inj hpiece
    refine ⟨1, by decide, fun fuel done => ?_⟩
    rw [regexText_single]
    exact readSequence_cons (by decide) (by decide) (readNext_class rfl)
  | bracket body =>
    obtain ⟨atom, hatom, rfl⟩ := Option.map_eq_some_iff.mp hpiece
    refine ⟨1, by simp [regexText_bracket], fun fuel done => ?_⟩
    rw [regexText_bracket, List.cons_append, List.append_assoc]
    exact readSequence_cons (by decide) (by decide)
      (readNext_class (readClass_of_classAtom? hatom st.text rest))
  | literal c =>
    obtain rfl := Option.some.inj hpiece
    cases hc : isSpecial c with
    | true =>
      refine ⟨1, by simp [regexText_literal_special hc], fun fuel done => ?_⟩
      rw [regexText_literal_special hc]
      exact readSequence_cons (by decide) (by decide) (readNext_escaped hc)
    | false =>
      refine ⟨1, by simp [regexText_literal_ordinary hc], fun fuel done => ?_⟩
      rw [regexText_literal_ordinary hc]
      exact readSequence_cons (ne_of_not_isSpecial hc rfl) (ne_of_not_isSpecial hc rfl)
        (readNext_ordinary hc)

/-- A plain unit stands for its piece. -/
theorem piece?_of_isPlain {t : GlobToken} (hplain : t.isPlain = true)
    (hclosing : ∀ body, t = bracket body → ']' ∉ body.tail) : t.piece? = some t.piece := by
  cases t with
  | bracket body => rw [piece?, classAtom?_of_isPlain hplain (hclosing body rfl)]; rfl
  | _ => rfl

end Names

end GlobToken

/-- The texts of units begin with no quantifier. -/
theorem isQuantifier_head?_flatMap_regexText (ts : List GlobToken) :
    ∀ c ∈ (ts.flatMap GlobToken.regexText).head?, isQuantifier c = false := by
  cases ts with
  | nil => simp
  | cons t ts =>
    obtain ⟨c, cs, htext, hc⟩ := t.exists_regexText_eq_cons
    simpa [htext] using hc

/-- An expression made of pieces does not look behind. -/
theorem blindSpot?_ofPieces (pieces : List Piece) : (ofPieces pieces).blindSpot? = none := by
  induction pieces with
  | nil => rfl
  | cons piece pieces ih =>
    cases piece <;> exact ih

/-- What has been read comes in order, the latest last. -/
theorem inOrder_reverse (regexes : List Regex) :
    inOrder regexes.reverse = regexes.foldr .andThen .nothing := by
  rw [inOrder, List.foldl_reverse]

/-- The body of a class ends before the first closing bracket after its first character. -/
theorem closing_notMem_tail_of_bracketBody? {cs body : List Char}
    (h : bracketBody? cs = some body) : ']' ∉ body.tail := by
  cases cs with
  | nil => simp [bracketBody?] at h
  | cons c cs =>
    rw [bracketBody?, List.span_eq_takeWhile_dropWhile] at h
    split at h
    · cases h
    next heq =>
      obtain ⟨rfl, -⟩ := Prod.mk.inj heq
      obtain rfl := Option.some.inj h
      intro hmem
      simpa using List.all_eq_true.mp List.all_takeWhile _ hmem

/-- No body of a class in a glob has a closing bracket after its first character. -/
theorem closing_notMem_tail_of_mem_globTokensFrom {passed : Nat} {cs body : List Char} :
    .bracket body ∈ globTokensFrom passed cs → ']' ∉ body.tail := by
  fun_induction globTokensFrom passed cs with
  | case8 cs first hfirst ih =>
    rw [List.mem_cons]
    rintro (heq | hmem)
    · obtain rfl := GlobToken.bracket.inj heq
      exact closing_notMem_tail_of_bracketBody? hfirst
    · exact ih hmem
  | _ => simp_all

section Reading

variable [CharacterNames]

/-- The texts of units are read as their pieces, one after the other. -/
theorem readSequence_flatMap_regexText {ts : List GlobToken}
    (hpieces : ∀ t ∈ ts, t.piece?.isSome = true) (depth : Nat) (st : Reading) :
    ∀ {fuel : Nat} (done : List Regex), (ts.flatMap GlobToken.regexText).length ≤ fuel →
      (readSequence (nested (depth + 1)) {} fuel done).run
          { st with rest := ts.flatMap GlobToken.regexText } =
        .ok (inOrder (((ts.filterMap GlobToken.piece?).map Piece.regex).reverse ++ done),
          { st with rest := [] }) := by
  induction ts with
  | nil =>
    intro fuel done _
    cases fuel <;> rfl
  | cons t ts ih =>
    intro fuel done hfuel
    obtain ⟨hpiece, hpieces⟩ := List.forall_mem_cons.mp hpieces
    obtain ⟨piece, hpiece⟩ := Option.isSome_iff_exists.mp hpiece
    obtain ⟨rounds, hrounds, hread⟩ := GlobToken.readSequence_regexText hpiece
      (isQuantifier_head?_flatMap_regexText ts) depth st
    rw [List.flatMap_cons, List.length_append] at hfuel
    obtain ⟨more, rfl⟩ :=
      Nat.exists_eq_add_of_le' (Nat.le_trans hrounds (Nat.le_of_add_right_le hfuel))
    rw [List.flatMap_cons, hread, ih hpieces _ (by omega), List.filterMap_cons_some hpiece]
    simp

/-- A sequence up to the end of the text is the only alternative. -/
theorem readChoice_eq_ok {inner : Inner} {text : List Char} {r : Regex} {st : Reading}
    (h : (readSequence inner {} (text.length + 1) []).run { st with rest := text } =
      .ok (r, { st with rest := [] })) (fuel : Nat) :
    (readChoice inner {} fuel).run { st with rest := text } = .ok (r, { st with rest := [] }) := by
  cases fuel with
  | zero => exact h
  | succ fuel =>
    change ((readSequence inner {} (text.length + 1) []).run { st with rest := text } >>= _) = _
    rw [h]
    rfl

/-- An expression that is read to the end, mentions no group and has no blind spot is what its text
holds. -/
theorem readRegex_eq_ok {text : List Char} {r : Regex}
    (hread : ((nested (text.length + 1)).choice {}).run { text, rest := text } =
      .ok (r, { text, rest := [] })) (hspot : r.blindSpot? = none) : readRegex text = .ok r := by
  have hrun : (nested (text.length + 1)).choice {} { text, rest := text } =
      .ok (r, { text, rest := [] }) := hread
  simp [readRegex, hrun, hspot, bind, Except.bind, pure, Except.pure]

/-- The texts of units are an expression made of their pieces. -/
theorem readRegex_flatMap_regexText {ts : List GlobToken}
    (hpieces : ∀ t ∈ ts, t.piece?.isSome = true) :
    readRegex (ts.flatMap GlobToken.regexText) =
      .ok (ofPieces (ts.filterMap GlobToken.piece?)) := by
  cases hlength : (ts.flatMap GlobToken.regexText).length with
  | zero =>
    cases ts with
    | nil => rfl
    | cons t ts =>
      obtain ⟨c, cs, htext, -⟩ := t.exists_regexText_eq_cons
      simp [htext] at hlength
  | succ depth =>
    have hread := readSequence_flatMap_regexText hpieces depth
      { text := ts.flatMap GlobToken.regexText, rest := [] } [] (Nat.le_succ _)
    rw [List.append_nil, inOrder_reverse] at hread
    refine readRegex_eq_ok ?_ (blindSpot?_ofPieces _)
    rw [hlength]
    exact readChoice_eq_ok hread _

/-- A glob whose classes close by themselves can be read: as the pieces that its units stand for. -/
theorem compile_eq_ok_filterMap {glob : String}
    (hpieces : ∀ t ∈ globTokens glob.toList, t.piece?.isSome = true) :
    compile glob = .ok (ofPieces ((globTokens glob.toList).filterMap GlobToken.piece?)) :=
  readRegex_flatMap_regexText hpieces

/-- A glob whose classes are plain can be read: as the pieces that its units stand for. -/
theorem compile_eq_ok {glob : String}
    (hplain : ∀ t ∈ globTokens glob.toList, t.isPlain = true) :
    compile glob = .ok (ofPieces ((globTokens glob.toList).map GlobToken.piece)) := by
  have hpieces : ∀ t ∈ globTokens glob.toList, t.piece? = some t.piece := by
    intro t ht
    refine GlobToken.piece?_of_isPlain (hplain t ht) ?_
    rintro body rfl
    exact closing_notMem_tail_of_mem_globTokensFrom ht
  rw [compile_eq_ok_filterMap fun t ht => by simp [hpieces t ht],
    List.filterMap_eq_map_iff_forall_eq_some.mpr hpieces]

/-- A glob that cannot be read has a class that is not plain. -/
theorem exists_not_isPlain_of_compile_eq_error {glob : String} {fault : RegexFault}
    (h : compile glob = .error fault) :
    ∃ body, .bracket body ∈ globTokens glob.toList ∧
      (GlobToken.bracket body).isPlain = false := by
  refine Classical.byContradiction fun hnone => ?_
  have hplain : ∀ t ∈ globTokens glob.toList, t.isPlain = true := by
    intro t ht
    cases t with
    | bracket body => simpa using fun hbody => hnone ⟨body, ht, hbody⟩
    | _ => rfl
  rw [compile_eq_ok hplain] at h
  cases h

end Reading

example : (compile "[\\N\x7bDIGIT ONE\x7d].ts").toOption.any (·.fullMatch "1.ts".toList) = true := by
  decide +kernel

/-- A class that does not close by itself leaves the rest of its text to whatever follows. -/
example : (compile "[!][]|b].ts").toOption.any (·.fullMatch "b].ts".toList) = true ∧
    compile "[!][](]" =
      .error ⟨.missing "), unterminated subpattern", 5, "[^][](]".toList⟩ := by
  decide +kernel

end ModuleLint.Ignore
