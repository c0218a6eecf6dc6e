import ModuleLint.Proofs.Globs

/-!
# What a glob stands for

A glob is read from left to right, and each of its wild cards takes a run of the text. The rules say
which texts a glob without bracket classes stands for, without a word about regular expressions. The
pieces that such a glob is compiled to match exactly these texts, line feeds aside, which no text of
a path has.
-/

namespace ModuleLint.Ignore

open ModuleLint.Text (CharacterNames)

/-- A glob without bracket classes, read from left to right, stands for a text. -/
inductive StandsFor : List Char → List Char → Prop
  /-- Nothing stands for nothing. -/
  | nil : StandsFor [] []
  /-- `**/` stands for nothing. -/
  | noDirectories {glob text : List Char} (rest : StandsFor glob text) :
      StandsFor ('*' :: '*' :: '/' :: glob) text
  /-- `**/` stands for whatever ends in a slash. -/
  | directories {glob text : List Char} (dirs : List Char) (rest : StandsFor glob text) :
      StandsFor ('*' :: '*' :: '/' :: glob) (dirs ++ '/' :: text)
  /-- Any other `**` stands for whatever there is. -/
  | anything {glob text : List Char} (run : List Char) (next : glob.head? ≠ some '/')
      (rest : StandsFor glob text) : StandsFor ('*' :: '*' :: glob) (run ++ text)
  /-- Any other `*` stands for whatever has no slash. -/
  | part {glob text : List Char} (run : List Char) (within : '/' ∉ run)
      (next : glob.head? ≠ some '*') (rest : StandsFor glob text) :
      StandsFor ('*' :: glob) (run ++ text)
  /-- `?` stands for one character that is no slash. -/
  | single {glob text : List Char} (c : Char) (within : c ≠ '/') (rest : StandsFor glob text) :
      StandsFor ('?' :: glob) (c :: text)
  /-- A backslash and a character stand for the character. -/
  | escaped {glob text : List Char} (c : Char) (rest : StandsFor glob text) :
      StandsFor ('\\' :: c :: glob) (c :: text)
  /-- Any other character stands for itself, and so does a backslash at the end. -/
  | literal {glob text : List Char} (c : Char) (plain : c ≠ '*' ∧ c ≠ '?')
      (last : c = '\\' → glob = []) (rest : StandsFor glob text) : StandsFor (c :: glob) (c :: text)

namespace StandsFor

variable {glob text : List Char} {c : Char}

/-- The empty glob stands for the empty text only. -/
theorem nil_iff : StandsFor [] text ↔ text = [] := by
  constructor
  · intro h
    cases h
    rfl
  · intro h
    subst h
    exact .nil

/-- `**/` is passed over, or takes all up to some slash. -/
theorem subtree_iff : StandsFor ('*' :: '*' :: '/' :: glob) text ↔
    StandsFor glob text ∨ ∃ dirs rest, text = dirs ++ '/' :: rest ∧ StandsFor glob rest := by
  constructor
  · intro h
    cases h with
    | noDirectories rest => exact .inl rest
    | directories dirs rest => exact .inr ⟨dirs, _, rfl, rest⟩
    | anything run next _ => simp at next
    | part run _ next _ => simp at next
    | literal _ plain _ _ => simp at plain
  · intro h
    rcases h with h | ⟨dirs, rest, rfl, h⟩
    · exact .noDirectories h
    · exact .directories dirs h

/-- `**` takes any run. -/
theorem anything_iff (hnext : glob.head? ≠ some '/') : StandsFor ('*' :: '*' :: glob) text ↔
    ∃ run rest, text = run ++ rest ∧ StandsFor glob rest := by
  constructor
  · intro h
    cases h with
    | noDirectories rest => simp at hnext
    | directories dirs rest => simp at hnext
    | anything run _ rest => exact ⟨run, _, rfl, rest⟩
    | part run _ next _ => simp at next
    | literal _ plain _ _ => simp at plain
  · intro h
    obtain ⟨run, rest, rfl, h⟩ := h
    exact .anything run hnext h

/-- `*` takes any run without slashes. -/
theorem part_iff (hnext : glob.head? ≠ some '*') : StandsFor ('*' :: glob) text ↔
    ∃ run rest, text = run ++ rest ∧ '/' ∉ run ∧ StandsFor glob rest := by
  constructor
  · intro h
    cases h with
    | noDirectories rest => simp at hnext
    | directories dirs rest => simp at hnext
    | anything run _ rest => simp at hnext
    | part run within _ rest => exact ⟨run, _, rfl, within, rest⟩
    | literal _ plain _ _ => simp at plain
  · intro h
    obtain ⟨run, rest, rfl, hrun, h⟩ := h
    exact .part run hrun hnext h

/-- `?` takes one character that is no slash. -/
theorem single_iff : StandsFor ('?' :: glob) text ↔
    ∃ c rest, text = c :: rest ∧ c ≠ '/' ∧ StandsFor glob rest := by
  constructor
  · intro h
    cases h with
    | single c within rest => exact ⟨c, _, rfl, within, rest⟩
    | literal _ plain _ _ => simp at plain
  · intro h
    obtain ⟨c, rest, rfl, hc, h⟩ := h
    exact .single c hc h

/-- A backslash before a character takes that character. -/
theorem escaped_iff : StandsFor ('\\' :: c :: glob) text ↔
    ∃ rest, text = c :: rest ∧ StandsFor glob rest := by
  constructor
  · intro h
    cases h with
    | escaped _ rest => exact ⟨_, rfl, rest⟩
    | literal _ _ last _ => simp at last
  · intro h
    obtain ⟨rest, rfl, h⟩ := h
    exact .escaped c h

/-- Any other character takes itself. -/
theorem literal_iff (hplain : c ≠ '*' ∧ c ≠ '?') (hlast : c = '\\' → glob = []) :
    StandsFor (c :: glob) text ↔ ∃ rest, text = c :: rest ∧ StandsFor glob rest := by
  constructor
  · intro h
    cases h with
    | literal _ _ _ rest => exact ⟨_, rfl, rest⟩
    | escaped _ _ => simp at hlast
    | _ => simp at hplain
  · intro h
    obtain ⟨rest, rfl, h⟩ := h
    exact .literal c hplain hlast h

end StandsFor

/-- The characters of a segment are all but the slash. -/
@[simp] theorem holds_segmentChar (c : Char) : segmentChar.holds c = true ↔ c ≠ '/' := by
  rw [segmentChar, holds_set]
  change ((c.toNat == '/'.toNat || false) != true) = true ↔ c ≠ '/'
  rw [Bool.or_false, bne_iff_ne, ne_eq, beq_iff_eq, Char.toNat_inj]

/-! ### The units of a glob, from left to right -/

section Units

variable {pieces : List Piece} {glob text : List Char}

/-- The pieces match the texts without line feeds that the glob stands for. -/
def MatchesLanguage (pieces : List Piece) (glob : List Char) : Prop :=
  ∀ text, '\n' ∉ text → ((ofPieces pieces).fullMatch text = true ↔ StandsFor glob text)

namespace MatchesLanguage

/-- Nothing matches what the empty glob stands for. -/
theorem nil : MatchesLanguage [] [] := fun _ _ =>
  fullMatch_nil_iff.trans StandsFor.nil_iff.symm

/-- Directories match what `**/` stands for. -/
theorem subtree (h : MatchesLanguage pieces glob) :
    MatchesLanguage (GlobToken.subtree.piece :: pieces) ('*' :: '*' :: '/' :: glob) := by
  intro text htext
  rw [GlobToken.piece, fullMatch_directories_iff, StandsFor.subtree_iff, h text htext]
  refine or_congr_right (exists₂_congr fun dirs rest => and_congr_right fun heq => ?_)
  subst heq
  obtain ⟨hdirs, hrest⟩ := not_or.mp (List.mem_append.not.mp htext)
  rw [and_iff_right hdirs, h rest fun hmem => hrest (List.mem_cons_of_mem _ hmem)]

/-- Any characters match what `**` stands for. -/
theorem anything (h : MatchesLanguage pieces glob) (hnext : glob.head? ≠ some '/') :
    MatchesLanguage (GlobToken.anything.piece :: pieces) ('*' :: '*' :: glob) := by
  intro text htext
  rw [GlobToken.piece, fullMatch_many_iff, StandsFor.anything_iff hnext]
  refine exists₂_congr fun run rest => and_congr_right fun heq => ?_
  subst heq
  obtain ⟨hrun, hrest⟩ := not_or.mp (List.mem_append.not.mp htext)
  have hany : ∀ c ∈ run, Atom.any.holds c = true := by
    intro c hc
    simpa using ne_of_mem_of_not_mem hc hrun
  rw [and_iff_right hany, h rest hrest]

/-- Any characters of a segment match what `*` stands for. -/
theorem part (h : MatchesLanguage pieces glob) (hnext : glob.head? ≠ some '*') :
    MatchesLanguage (GlobToken.part.piece :: pieces) ('*' :: glob) := by
  intro text htext
  rw [GlobToken.piece, fullMatch_many_iff, StandsFor.part_iff hnext]
  refine exists₂_congr fun run rest => and_congr_right fun heq => ?_
  subst heq
  have hrest := (not_or.mp (List.mem_append.not.mp htext)).2
  have hrun : (∀ c ∈ run, segmentChar.holds c = true) ↔ '/' ∉ run := by
    simp only [holds_segmentChar]
    exact ⟨fun hrun hmem => hrun _ hmem rfl, fun hrun c hc => ne_of_mem_of_not_mem hc hrun⟩
  rw [hrun, h rest hrest]

/-- One character of a segment matches what `?` stands for. -/
theorem single (h : MatchesLanguage pieces glob) :
    MatchesLanguage (GlobToken.single.piece :: pieces) ('?' :: glob) := by
  intro text htext
  rw [GlobToken.piece, fullMatch_one_iff, StandsFor.single_iff]
  refine exists₂_congr fun c rest => and_congr_right fun heq => ?_
  subst heq
  rw [holds_segmentChar, h rest fun hmem => htext (List.mem_cons_of_mem _ hmem)]

/-- A character matches what stands for it alone. -/
theorem literal {c : Char} {written : List Char} (h : MatchesLanguage pieces glob)
    (hwritten : ∀ text, StandsFor written text ↔ ∃ rest, text = c :: rest ∧ StandsFor glob rest) :
    MatchesLanguage ((GlobToken.literal c).piece :: pieces) written := by
  intro text htext
  rw [GlobToken.piece, fullMatch_one_iff, hwritten]
  constructor
  · intro hmatch
    obtain ⟨d, rest, rfl, hd, hrest⟩ := hmatch
    obtain rfl : d = c := by simpa using hd
    exact ⟨rest, rfl, (h rest fun hmem => htext (List.mem_cons_of_mem _ hmem)).mp hrest⟩
  · intro hstands
    obtain ⟨rest, rfl, hrest⟩ := hstands
    exact ⟨c, rest, rfl, by simp,
      (h rest fun hmem => htext (List.mem_cons_of_mem _ hmem)).mpr hrest⟩

end MatchesLanguage

end Units

/-- Without bracket classes, the pieces of what is left of a glob match the texts that it stands
for. -/
theorem matchesLanguage_globTokensFrom {passed : Nat} {cs : List Char} (hbracket : '[' ∉ cs) :
    MatchesLanguage ((globTokensFrom passed cs).map GlobToken.piece) (cs.drop passed) := by
  fun_induction globTokensFrom passed cs with
  | case1 => simpa using .nil
  | case2 passed c cs ih => exact ih (List.not_mem_of_not_mem_cons hbracket)
  | case3 cs ih => exact .subtree (ih (List.not_mem_of_not_mem_cons hbracket))
  | case4 cs hslash ih =>
    refine .anything (ih (List.not_mem_of_not_mem_cons hbracket)) fun hnext => ?_
    obtain ⟨rest, rfl⟩ := List.head?_eq_some_iff.mp hnext
    exact hslash rest rfl
  | case5 cs _ hstar ih =>
    refine .part (ih (List.not_mem_of_not_mem_cons hbracket)) fun hnext => ?_
    obtain ⟨rest, rfl⟩ := List.head?_eq_some_iff.mp hnext
    exact hstar rest rfl
  | case6 cs ih => exact .single (ih (List.not_mem_of_not_mem_cons hbracket))
  | case7 => simp at hbracket
  | case8 => simp at hbracket
  | case9 => exact .literal .nil fun _ => StandsFor.literal_iff (by decide) fun _ => rfl
  | case10 c cs ih =>
    exact .literal (ih (List.not_mem_of_not_mem_cons hbracket)) fun _ => StandsFor.escaped_iff
  | case11 c cs hstar hquestion _ hbackslash ih =>
    exact .literal (ih (List.not_mem_of_not_mem_cons hbracket)) fun _ =>
      StandsFor.literal_iff ⟨hstar, hquestion⟩ fun hc => (hbackslash hc).elim

/-- A glob without an opening bracket has plain units only. -/
theorem isPlain_of_mem_globTokensFrom {passed : Nat} {cs : List Char} (hbracket : '[' ∉ cs) :
    ∀ t ∈ globTokensFrom passed cs, t.isPlain = true := by
  fun_induction globTokensFrom passed cs with
  | case8 => simp at hbracket
  | _ => simp_all [GlobToken.isPlain]

/-- A glob without an opening bracket can be read, and matches just the texts it stands for as long
as they have no line feed. -/
theorem fullMatch_iff_standsFor [CharacterNames] (glob : String) (hbracket : '[' ∉ glob.toList) :
    ∃ regex, compile glob = .ok regex ∧
      ∀ text, '\n' ∉ text → (regex.fullMatch text = true ↔ StandsFor glob.toList text) :=
  ⟨_, compile_eq_ok (isPlain_of_mem_globTokensFrom hbracket),
    matchesLanguage_globTokensFrom hbracket⟩

/-- A glob with overlapping stars and an escaped one matches just the texts it stands for, among them
one in which the first two stars run across a slash. -/
theorem fullMatch_iff_standsFor_overlapping :
    '[' ∉ "***/\\*.?s".toList ∧ ∃ regex, compile "***/\\*.?s" = .ok regex ∧
      (∀ text, '\n' ∉ text →
        (regex.fullMatch text = true ↔ StandsFor "***/\\*.?s".toList text)) ∧
      regex.fullMatch "a/b/*.ts".toList = true := by
  have hbracket : '[' ∉ "***/\\*.?s".toList := by decide
  have hstands : StandsFor "***/\\*.?s".toList "a/b/*.ts".toList :=
    .anything "a/".toList (by decide) <| .part "b".toList (by decide) (by decide) <|
      .literal '/' (by decide) (by decide) <| .escaped '*' <|
      .literal '.' (by decide) (by decide) <| .single 't' (by decide) <|
      .literal 's' (by decide) (by decide) .nil
  obtain ⟨regex, hregex, hrule⟩ := fullMatch_iff_standsFor _ hbracket
  exact ⟨hbracket, regex, hregex, hrule, (hrule _ (by decide)).mpr hstands⟩

end ModuleLint.Ignore
