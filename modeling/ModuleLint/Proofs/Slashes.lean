import ModuleLint.Proofs.GlobLanguage

/-!
# Slashes in what a glob matches

A star or a question mark takes no slash, so a glob without `**` and without classes matches only
texts with as many slashes as it has itself. A class need not keep to this rule: a negated one takes
the slash unless it lists it, and so does a range that runs across it. The texts that a glob matches
have as many slashes as the glob, and at most one more for each class that takes the slash. The rule
needs classes that close by themselves; any other class takes in what is written for the units after
it, be it the very text that keeps a star from slashes.
-/

namespace ModuleLint.Ignore

open ModuleLint.Text (CharacterNames)

/-- Whether a unit of a glob is a class that stands for the slash, among other characters or not. -/
def GlobToken.takesSlash [CharacterNames] : GlobToken → Bool
  | bracket body => (classAtom? body).any (·.holds '/')
  | _ => false

/-- The texts that the pieces match have between `least` and `most` slashes. If there is any such
text, one of them has the most. -/
structure TakesSlashes (pieces : List Piece) (least most : Nat) : Prop where
  least_le : ∀ text, (ofPieces pieces).fullMatch text = true → least ≤ text.count '/'
  le_most : ∀ text, (ofPieces pieces).fullMatch text = true → text.count '/' ≤ most
  attained : ∀ text, (ofPieces pieces).fullMatch text = true →
    ∃ text, (ofPieces pieces).fullMatch text = true ∧ text.count '/' = most

namespace TakesSlashes

variable {pieces : List Piece} {atom : Atom} {least most : Nat}

/-- No pieces take no slash. -/
theorem nil : TakesSlashes [] 0 0 where
  least_le := fun _ _ => Nat.zero_le _
  le_most := by
    intro text h
    obtain rfl := fullMatch_nil_iff.mp h
    exact Nat.le_refl 0
  attained := fun _ _ => ⟨[], rfl, rfl⟩

/-- Characters of a set without the slash take no slash, however many there are. -/
theorem many (h : TakesSlashes pieces least most) (hslash : atom.holds '/' = false) :
    TakesSlashes (.many atom :: pieces) least most := by
  have hcount {text : List Char}
      (hmatch : (ofPieces (.many atom :: pieces)).fullMatch text = true) :
      ∃ rest, (ofPieces pieces).fullMatch rest = true ∧ text.count '/' = rest.count '/' := by
    obtain ⟨run, rest, rfl, hrun, hrest⟩ := fullMatch_many_iff.mp hmatch
    have hnone : '/' ∉ run := fun hmem => by simp [hrun _ hmem] at hslash
    refine ⟨rest, hrest, ?_⟩
    rw [List.count_append, List.count_eq_zero_of_not_mem hnone, Nat.zero_add]
  constructor
  · intro text hmatch
    obtain ⟨rest, hrest, heq⟩ := hcount hmatch
    exact heq ▸ h.least_le rest hrest
  · intro text hmatch
    obtain ⟨rest, hrest, heq⟩ := hcount hmatch
    exact heq ▸ h.le_most rest hrest
  · intro text hmatch
    obtain ⟨rest, hrest, -⟩ := hcount hmatch
    obtain ⟨widest, hwidest, hmost⟩ := h.attained rest hrest
    exact ⟨widest, fullMatch_many_iff.mpr ⟨[], widest, rfl, nofun, hwidest⟩, hmost⟩

/-- One character of a set takes between `low` and `high` slashes if each such character does and
one of them takes `high`. -/
theorem one (low high : Nat) (h : TakesSlashes pieces least most)
    (hrange : ∀ c, atom.holds c = true → low ≤ [c].count '/' ∧ [c].count '/' ≤ high)
    (hhigh : ∀ c, atom.holds c = true → ∃ d, atom.holds d = true ∧ [d].count '/' = high) :
    TakesSlashes (.one atom :: pieces) (least + low) (most + high) := by
  constructor
  · intro text hmatch
    obtain ⟨c, rest, rfl, hc, hrest⟩ := fullMatch_one_iff.mp hmatch
    rw [List.count_cons, ← List.count_singleton]
    exact Nat.add_le_add (h.least_le rest hrest) (hrange c hc).1
  · intro text hmatch
    obtain ⟨c, rest, rfl, hc, hrest⟩ := fullMatch_one_iff.mp hmatch
    rw [List.count_cons, ← List.count_singleton]
    exact Nat.add_le_add (h.le_most rest hrest) (hrange c hc).2
  · intro text hmatch
    obtain ⟨c, rest, rfl, hc, hrest⟩ := fullMatch_one_iff.mp hmatch
    obtain ⟨d, hd, hdslash⟩ := hhigh c hc
    obtain ⟨last, hlast, hmost⟩ := h.attained rest hrest
    refine ⟨d :: last, fullMatch_one_iff.mpr ⟨d, last, rfl, hd, hlast⟩, ?_⟩
    rw [List.count_cons, ← List.count_singleton, hmost, hdslash]

/-- One character of a set without the slash takes no slash. -/
theorem one_within (h : TakesSlashes pieces least most) (hslash : atom.holds '/' = false) :
    TakesSlashes (.one atom :: pieces) least most := by
  have hnone (c : Char) (hc : atom.holds c = true) : [c].count '/' = 0 := by
    refine List.count_eq_zero_of_not_mem fun hmem => ?_
    rw [List.mem_singleton.mp hmem, hc] at hslash
    cases hslash
  refine h.one 0 0 (fun c hc => ?_) fun c hc => ⟨c, hc, hnone c hc⟩
  rw [hnone c hc]
  exact ⟨Nat.le_refl 0, Nat.le_refl 0⟩

/-- One character of a set with the slash takes one slash or none. -/
theorem one_across (h : TakesSlashes pieces least most) (hslash : atom.holds '/' = true) :
    TakesSlashes (.one atom :: pieces) least (most + 1) :=
  h.one 0 1 (fun _ _ => ⟨Nat.zero_le _, List.count_le_length⟩) fun _ _ => ⟨'/', hslash, rfl⟩

/-- A slash takes one slash. -/
theorem slash (h : TakesSlashes pieces least most) :
    TakesSlashes (.one (.char '/') :: pieces) (least + 1) (most + 1) := by
  have hone (c : Char) (hc : (Atom.char '/').holds c = true) : [c].count '/' = 1 := by
    obtain rfl : c = '/' := by simpa using hc
    rfl
  refine h.one 1 1 (fun c hc => ?_) fun c hc => ⟨c, hc, hone c hc⟩
  rw [hone c hc]
  exact ⟨Nat.le_refl 1, Nat.le_refl 1⟩

end TakesSlashes

/-- The units of a glob without `**`, whose classes close by themselves, take the slashes that stand
outside of classes, and at most one more for each class that takes the slash. -/
theorem takesSlashes_filterMap [CharacterNames] {ts : List GlobToken}
    (hnarrow : ∀ t ∈ ts, t ≠ .subtree ∧ t ≠ .anything)
    (hclosed : ∀ t ∈ ts, t.piece?.isSome = true) :
    TakesSlashes (ts.filterMap GlobToken.piece?) (ts.count (.literal '/'))
      (ts.count (.literal '/') + ts.countP GlobToken.takesSlash) := by
  induction ts with
  | nil => exact .nil
  | cons t ts ih =>
    obtain ⟨⟨hsubtree, hanything⟩, hnarrow⟩ := List.forall_mem_cons.mp hnarrow
    obtain ⟨hpiece, hclosed⟩ := List.forall_mem_cons.mp hclosed
    have ih := ih hnarrow hclosed
    obtain ⟨piece, hpiece⟩ := Option.isSome_iff_exists.mp hpiece
    rw [List.filterMap_cons_some hpiece]
    cases t with
    | subtree => exact (hsubtree rfl).elim
    | anything => exact (hanything rfl).elim
    | part =>
      obtain rfl := Option.some.inj hpiece
      rw [List.count_cons_of_ne (by decide),
        List.countP_cons_of_neg (by simp [GlobToken.takesSlash])]
      exact ih.many (by decide)
    | single =>
      obtain rfl := Option.some.inj hpiece
      rw [List.count_cons_of_ne (by decide),
        List.countP_cons_of_neg (by simp [GlobToken.takesSlash])]
      exact ih.one_within (by decide)
    | bracket body =>
      obtain ⟨atom, hatom, rfl⟩ := Option.map_eq_some_iff.mp hpiece
      have htakes : (GlobToken.bracket body).takesSlash = atom.holds '/' := by
        rw [GlobToken.takesSlash, hatom, Option.any_some]
      rw [List.count_cons_of_ne (by simp)]
      cases hslash : atom.holds '/' with
      | true =>
        rw [List.countP_cons_of_pos (htakes.trans hslash)]
        exact ih.one_across hslash
      | false =>
        rw [List.countP_cons_of_neg (by rw [htakes, hslash]; decide)]
        exact ih.one_within hslash
    | literal c =>
      obtain rfl := Option.some.inj hpiece
      rw [List.countP_cons_of_neg (by simp [GlobToken.takesSlash])]
      by_cases hc : c = '/'
      · subst hc
        rw [List.count_cons_self, Nat.add_right_comm]
        exact ih.slash
      · rw [List.count_cons_of_ne (by simpa using hc)]
        exact ih.one_within (by simpa [← Bool.not_eq_true] using Ne.symm hc)

/-! ### The slashes of the glob itself -/

/-- The body of a class stands before its closing bracket. -/
theorem exists_eq_append_of_bracketBody? {cs body : List Char} (h : bracketBody? cs = some body) :
    ∃ rest, cs = body ++ ']' :: rest := by
  cases cs with
  | nil => simp [bracketBody?] at h
  | cons c cs =>
    rw [bracketBody?, List.span_eq_takeWhile_dropWhile] at h
    split at h
    · cases h
    next first close rest heq =>
      obtain ⟨rfl, hrest⟩ := Prod.mk.inj heq
      obtain rfl := Option.some.inj h
      obtain rfl : close = ']' := by
        simpa [hrest] using List.head?_dropWhile_not (· != ']') cs
      exact ⟨rest, by rw [List.cons_append, ← hrest, List.takeWhile_append_dropWhile]⟩

/-- Only adjacent stars in a glob make a unit `**/` or `**`. -/
theorem infix_of_mem_globTokensFrom {passed : Nat} {cs : List Char} {t : GlobToken}
    (ht : t = .subtree ∨ t = .anything) : t ∈ globTokensFrom passed cs → ['*', '*'] <:+: cs := by
  fun_induction globTokensFrom passed cs with
  | case1 => simp
  | case3 cs ih => exact fun _ => ⟨[], '/' :: cs, rfl⟩
  | case4 cs hslash ih => exact fun _ => ⟨[], cs, rfl⟩
  | case9 => rcases ht with rfl | rfl <;> simp
  | case2 passed c cs ih => exact fun hmem => List.infix_cons (ih hmem)
  | _ => rcases ht with rfl | rfl <;> simp_all [List.infix_cons]

/-- A unit for a character stands for the slash just if the character is one. -/
theorem count_slash_literal (c : Char) (ts : List GlobToken) :
    (.literal c :: ts).count (.literal '/') = ts.count (.literal '/') + [c].count '/' := by
  by_cases hc : c = '/'
  · subst hc
    rw [List.count_cons_self, List.count_singleton_self]
  · rw [List.count_cons_of_ne (by simpa using hc), List.count_cons_of_ne hc, List.count_nil,
      Nat.add_zero]

/-- A glob without adjacent stars, none of whose classes lists the slash, has as many slashes as
units that stand for the slash alone. -/
theorem count_slash_drop {passed : Nat} {cs : List Char} (hstars : ¬ ['*', '*'] <:+: cs)
    (hbodies : ∀ body, .bracket body ∈ globTokensFrom passed cs → '/' ∉ body) :
    (cs.drop passed).count '/' = (globTokensFrom passed cs).count (.literal '/') := by
  have htail {c : Char} {cs : List Char} (h : ¬ ['*', '*'] <:+: c :: cs) : ¬ ['*', '*'] <:+: cs :=
    fun hinfix => h (List.infix_cons hinfix)
  have hothers {t : GlobToken} {ts : List GlobToken}
      (h : ∀ body, .bracket body ∈ t :: ts → '/' ∉ body) :
      ∀ body, .bracket body ∈ ts → '/' ∉ body :=
    fun body hbody => h body (List.mem_cons_of_mem t hbody)
  fun_induction globTokensFrom passed cs with
  | case1 => simp
  | case2 passed c cs ih => exact ih (htail hstars) hbodies
  | case3 cs ih => exact (hstars ⟨[], '/' :: cs, rfl⟩).elim
  | case4 cs hslash ih => exact (hstars ⟨[], cs, rfl⟩).elim
  | case5 cs _ _ ih | case6 cs ih | case7 cs _ ih =>
    rw [List.drop_zero, List.count_cons_of_ne (by decide), List.count_cons_of_ne (by decide)]
    exact ih (htail hstars) (hothers hbodies)
  | case8 cs body hbody ih =>
    obtain ⟨rest, rfl⟩ := exists_eq_append_of_bracketBody? hbody
    have hnone : body.count '/' = 0 :=
      List.count_eq_zero_of_not_mem (hbodies body List.mem_cons_self)
    rw [List.drop_zero, List.count_cons_of_ne (by decide), List.count_append, hnone, Nat.zero_add,
      List.count_cons_of_ne (by decide), List.count_cons_of_ne (by simp),
      ← ih (htail hstars) (hothers hbodies), List.append_cons, List.drop_left' (by simp)]
  | case9 => decide
  | case10 c cs ih =>
    rw [List.drop_zero, List.count_cons_of_ne (by decide), List.count_cons, ← List.count_singleton,
      count_slash_literal, ← ih (htail hstars) (hothers hbodies)]
    rfl
  | case11 c cs _ _ _ _ ih =>
    rw [List.drop_zero, List.count_cons, ← List.count_singleton, count_slash_literal,
      ← ih (htail hstars) (hothers hbodies)]
    rfl

/-- A glob without adjacent stars, whose classes close by themselves and do not list the slash, can
be read. It matches texts with at least as many slashes as it has itself, and at most one more for
each class that takes the slash; if it matches any text, then also one with as many more. So without
such classes it matches only texts with just as many slashes. -/
theorem count_slash_of_fullMatch [CharacterNames] (glob : String)
    (hstars : ¬ ['*', '*'] <:+: glob.toList)
    (hclosed : ∀ body, .bracket body ∈ globTokens glob.toList → (classAtom? body).isSome = true)
    (hbodies : ∀ body, .bracket body ∈ globTokens glob.toList → '/' ∉ body) :
    ∃ regex, compile glob = .ok regex ∧
      (∀ text, regex.fullMatch text = true →
        glob.toList.count '/' ≤ text.count '/' ∧
        text.count '/' ≤
          glob.toList.count '/' + (globTokens glob.toList).countP GlobToken.takesSlash) ∧
      (∀ text, regex.fullMatch text = true → ∃ widest, regex.fullMatch widest = true ∧
        widest.count '/' =
          glob.toList.count '/' + (globTokens glob.toList).countP GlobToken.takesSlash) ∧
      ((∀ t ∈ globTokens glob.toList, t.takesSlash = false) →
        ∀ text, regex.fullMatch text = true → text.count '/' = glob.toList.count '/') := by
  have hpieces : ∀ t ∈ globTokens glob.toList, t.piece?.isSome = true := by
    intro t ht
    cases t with
    | bracket body => simpa [GlobToken.piece?] using hclosed body ht
    | _ => rfl
  have hnarrow : ∀ t ∈ globTokens glob.toList, t ≠ .subtree ∧ t ≠ .anything := by
    intro t ht
    exact ⟨fun h => hstars (infix_of_mem_globTokensFrom (.inl h) ht),
      fun h => hstars (infix_of_mem_globTokensFrom (.inr h) ht)⟩
  have hcount : glob.toList.count '/' = (globTokens glob.toList).count (.literal '/') :=
    @count_slash_drop 0 _ hstars hbodies
  obtain ⟨hleast, hmost, hattained⟩ := takesSlashes_filterMap hnarrow hpieces
  rw [← hcount] at hleast hmost hattained
  refine ⟨_, compile_eq_ok_filterMap hpieces, fun text h => ⟨hleast text h, hmost text h⟩,
    hattained, fun hnone text h => ?_⟩
  have hzero : (globTokens glob.toList).countP GlobToken.takesSlash = 0 := by
    simpa using hnone
  rw [hzero] at hmost
  exact Nat.le_antisymm (hmost text h) (hleast text h)

/-- A glob with one class that takes the slash and one that does not. -/
def looseGlob : String := "lib/v[0-9][!a]*.t?"

/-- The classes of that glob. -/
theorem bracket_mem_looseGlob {body : List Char} :
    .bracket body ∈ globTokens looseGlob.toList ↔ body = "0-9".toList ∨ body = "!a".toList := by
  have htokens : globTokens looseGlob.toList =
      [.literal 'l', .literal 'i', .literal 'b', .literal '/', .literal 'v', .bracket "0-9".toList,
        .bracket "!a".toList, .part, .literal '.', .literal 't', .single] := by decide
  rw [htokens]
  simp

/-- That glob has one slash, and matches texts with one slash or two, and of both sorts. -/
theorem count_slash_of_fullMatch_loose :
    ¬ ['*', '*'] <:+: looseGlob.toList ∧
      (∀ body, .bracket body ∈ globTokens looseGlob.toList → (classAtom? body).isSome = true) ∧
      (∀ body, .bracket body ∈ globTokens looseGlob.toList → '/' ∉ body) ∧
      ∃ regex, compile looseGlob = .ok regex ∧ regex.fullMatch "lib/v1b.ts".toList = true ∧
        (∀ text, regex.fullMatch text = true → 1 ≤ text.count '/' ∧ text.count '/' ≤ 2) ∧
        ∃ widest, regex.fullMatch widest = true ∧ widest.count '/' = 2 := by
  have hstars : ¬ ['*', '*'] <:+: looseGlob.toList := by decide +kernel
  have hclosed : ∀ body, .bracket body ∈ globTokens looseGlob.toList →
      (classAtom? body).isSome = true := by
    intro body hbody
    rcases bracket_mem_looseGlob.mp hbody with rfl | rfl <;> decide
  have hbodies : ∀ body, .bracket body ∈ globTokens looseGlob.toList → '/' ∉ body := by
    intro body hbody
    rcases bracket_mem_looseGlob.mp hbody with rfl | rfl <;> decide
  obtain ⟨regex, hregex, hbounds, hattained, -⟩ :=
    count_slash_of_fullMatch looseGlob hstars hclosed hbodies
  have hmatch : (compile looseGlob).toOption.any (·.fullMatch "lib/v1b.ts".toList) = true := by
    decide +kernel
  rw [hregex] at hmatch
  exact ⟨hstars, hclosed, hbodies, regex, hregex, hmatch, hbounds, hattained _ hmatch⟩

/-- A glob without adjacent stars, none of whose classes lists the slash, may match a text with more
slashes than it has. -/
theorem not_forall_count_slash :
    ¬ ∀ (glob : String) (regex : Regex) (text : List Char), compile glob = .ok regex →
      ¬ ['*', '*'] <:+: glob.toList →
      (∀ body, .bracket body ∈ globTokens glob.toList → '/' ∉ body) →
      regex.fullMatch text = true → text.count '/' = glob.toList.count '/' := by
  intro h
  have hclass : compile "[!a]" = .ok (ofPieces [.one (.set true [.point 'a'.toNat])]) := by
    decide
  have hbodies : ∀ body, .bracket body ∈ globTokens "[!a]".toList → '/' ∉ body := by
    have htokens : globTokens "[!a]".toList = [.bracket "!a".toList] := by decide
    rw [htokens]
    simp
  have hstars : ¬ ['*', '*'] <:+: "[!a]".toList := by decide +kernel
  have hcount := h "[!a]" _ ['/'] hclass hstars hbodies (by decide)
  exact absurd hcount (by decide)

/-- A class that does not close by itself takes in the text of the star after it, which then runs
across slashes. -/
example : (compile "x[\\]*.ts").toOption.any (·.fullMatch "x/]/.ts".toList) = true := by
  decide +kernel

end ModuleLint.Ignore
