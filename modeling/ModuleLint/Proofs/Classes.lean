import ModuleLint.Ignore.Glob
import ModuleLint.Proofs.Outcome

/-!
# Classes that close by themselves

The body of a bracket class is copied into a regular expression as it was written, so where the
class ends there is for the reader of the expression to say: a backslash at the end of the body takes
the closing bracket for a character, and a body that is nothing but the mark of a negation lists the
bracket itself. A class closes by itself if its text, read alone, is a class and nothing more. Such
a class is read alike whatever text comes after it.
-/

namespace ModuleLint.Ignore

open ModuleLint.Text (CharacterNames)

/-- The characters that a class with the given body stands for, provided the class closes by itself:
its text alone is read as a class up to the end. -/
def classAtom? [CharacterNames] (body : List Char) : Option Atom :=
  match readClass [] (regexBody body ++ [']']) with
  | .ok (atom, []) => some atom
  | _ => none

/-! ### Reading with more text behind -/

variable {text text' rest r : List Char}

/-- What was taken is taken from a longer text as well, if something stopped the taking before the
end. -/
theorem takeUpTo_append {p : Char → Bool} {limit : Nat} {cs taken : List Char}
    (h : takeUpTo p limit cs = (taken, rest)) (hstop : taken.length = limit ∨ rest ≠ [])
    (more : List Char) : takeUpTo p limit (cs ++ more) = (taken, rest ++ more) := by
  induction limit generalizing cs taken with
  | zero =>
    obtain ⟨rfl, rfl⟩ : [] = taken ∧ cs = rest := by simpa [takeUpTo] using h
    simp [takeUpTo]
  | succ limit ih =>
    cases cs with
    | nil =>
      obtain ⟨rfl, rfl⟩ : [] = taken ∧ [] = rest := by simpa [takeUpTo] using h
      simp at hstop
    | cons c cs =>
      rw [List.cons_append]
      rw [takeUpTo] at h ⊢
      by_cases hc : p c = true
      · rw [if_pos hc] at h ⊢
        obtain ⟨rfl, rfl⟩ := Prod.mk.inj h
        rw [ih rfl (by simpa using hstop)]
        rfl
      · rw [if_neg hc] at h ⊢
        obtain ⟨rfl, rfl⟩ := Prod.mk.inj h
        rfl

/-- A character that is no backslash is a token of a class. -/
theorem classToken_cons {c : Char} (hc : c ≠ '\\') (cs : List Char) :
    classToken (c :: cs) = some ([c], cs) := by
  unfold classToken
  split <;> simp_all

/-- A token that is no lone backslash is the next one of a longer text as well. -/
theorem classToken_append {token : List Char} (h : classToken rest = some (token, r))
    (htoken : token ≠ ['\\']) (more : List Char) :
    classToken (rest ++ more) = some (token, r ++ more) := by
  fun_cases classToken rest with
  | case1 => cases h
  | case2 c cs =>
    obtain ⟨rfl, rfl⟩ := by simpa [classToken] using h
    rfl
  | case3 c cs hescape =>
    have hc : c ≠ '\\' := by
      intro hc
      subst hc
      cases cs with
      | nil =>
        obtain ⟨rfl, -⟩ := by simpa [classToken] using h
        exact htoken rfl
      | cons d cs => exact hescape d cs rfl rfl
    rw [classToken_cons hc] at h
    obtain ⟨rfl, rfl⟩ := by simpa using h
    exact classToken_cons hc _

/-- An escape by code point is read alike with more text behind. -/
theorem readCodeEscape_append {letter : Char} {width : Nat} {item : ClassItem}
    (h : readCodeEscape text letter width rest = .ok (item, r)) (more : List Char) :
    readCodeEscape text' letter width (rest ++ more) = .ok (item, r ++ more) := by
  rw [readCodeEscape] at h ⊢
  cases htaken : takeUpTo isHexDigit width rest with
  | mk digits left =>
    simp only [htaken] at h
    split at h
    · cases h
    next hlength =>
      split at h
      · cases h
      next hvalue =>
        obtain ⟨rfl, rfl⟩ := Prod.mk.inj (Except.ok.inj h)
        rw [takeUpTo_append htaken (.inl (Decidable.not_not.mp hlength))]
        dsimp only
        rw [if_neg hlength, if_neg hvalue]

/-- What comes before a token is the same in a longer text. -/
theorem cutAtToken_append {stop : Char} (hstop : stop ≠ '\\') {cs taken : List Char}
    (h : cutAtToken stop cs = (taken, some r)) (more : List Char) :
    cutAtToken stop (cs ++ more) = (taken, some (r ++ more)) := by
  induction cs using cutAtToken.induct stop generalizing taken with
  | case1 => cases h
  | case2 c cs ih =>
    rw [cutAtToken] at h
    obtain ⟨rfl, hcut⟩ := Prod.mk.inj h
    rw [List.cons_append, List.cons_append, cutAtToken, ih (Prod.ext rfl hcut)]
    rfl
  | case3 cs hescape =>
    rw [cutAtToken, if_pos rfl] at h
    · obtain ⟨rfl, hcut⟩ := Prod.mk.inj h
      obtain rfl := Option.some.inj hcut
      rw [List.cons_append, cutAtToken, if_pos rfl]
      exact fun c cs hc => (hstop hc).elim
    · exact hescape
  | case4 c cs hescape hc ih =>
    rw [cutAtToken, if_neg hc] at h
    · obtain ⟨rfl, hcut⟩ := Prod.mk.inj h
      have hcut' := ih (Prod.ext rfl hcut)
      rw [List.cons_append, cutAtToken, if_neg hc, hcut']
      · rfl
      · rintro d ds rfl hds
        cases cs with
        | nil => cases hcut
        | cons e es => exact hescape e es rfl rfl
    · exact hescape

/-- A name is read alike with more text behind. -/
theorem readName_append {what : String} {stop : Char} (hstop : stop ≠ '\\') {name : List Char}
    (h : readName text what stop rest = .ok (name, r)) (more : List Char) :
    readName text' what stop (rest ++ more) = .ok (name, r ++ more) := by
  unfold readName at h
  split at h
  · cases h
  · cases h
  · cases h
  next taken left hne hcut =>
    obtain ⟨rfl, rfl⟩ := Prod.mk.inj (Except.ok.inj h)
    rw [readName, cutAtToken_append hstop hcut]
    split
    next heq => cases heq
    next heq => cases heq
    next heq =>
      obtain ⟨rfl, -⟩ := Prod.mk.inj heq
      exact (hne rfl).elim
    next heq =>
      obtain ⟨rfl, hleft⟩ := Prod.mk.inj heq
      obtain rfl := Option.some.inj hleft
      rfl

section Names

variable [CharacterNames]

/-- An escape by name is read alike with more text behind. -/
theorem readNameEscape_append {item : ClassItem}
    (h : readNameEscape text rest = .ok (item, r)) (more : List Char) :
    readNameEscape text' (rest ++ more) = .ok (item, r ++ more) := by
  unfold readNameEscape at h
  split at h
  next rest =>
    obtain ⟨⟨name, left⟩, hname, h⟩ := Outcome.bind_eq_ok_iff.mp h
    dsimp only at h
    split at h
    next c hfind =>
      obtain ⟨rfl, rfl⟩ := Prod.mk.inj (Except.ok.inj h)
      rw [List.cons_append, readNameEscape, readName_append (by decide) hname]
      simp [bind, Except.bind, hfind]
    next => cases h
  next => cases h

/-- An escape that stops before the end is read alike with more text behind. -/
theorem readEscape_append {c : Char} {item : ClassItem}
    (h : readEscape text c rest = .ok (item, r)) (hr : r ≠ []) (more : List Char) :
    readEscape text' c (rest ++ more) = .ok (item, r ++ more) := by
  cases hcontrol : controlEscape? c with
  | some n =>
    simp only [readEscape, hcontrol] at h ⊢
    obtain ⟨rfl, rfl⟩ := Prod.mk.inj (Except.ok.inj h)
    rfl
  | none =>
    cases hproperty : propertyEscape? c with
    | some property =>
      simp only [readEscape, hcontrol, hproperty] at h ⊢
      obtain ⟨rfl, rfl⟩ := Prod.mk.inj (Except.ok.inj h)
      rfl
    | none =>
      simp only [readEscape, hcontrol, hproperty] at h ⊢
      split at h
      next hx => rw [if_pos hx, readCodeEscape_append h]
      next hx =>
      rw [if_neg hx]
      split at h
      next hu => rw [if_pos hu, readCodeEscape_append h]
      next hu =>
      rw [if_neg hu]
      split at h
      next hU => rw [if_pos hU, readCodeEscape_append h]
      next hU =>
      rw [if_neg hU]
      split at h
      next hN => rw [if_pos hN, readNameEscape_append h]
      next hN =>
      rw [if_neg hN]
      split at h
      next hoctal =>
        rw [if_pos hoctal]
        cases htaken : takeUpTo isOctalDigit 2 rest with
        | mk digits left =>
          simp only [htaken] at h
          split at h
          · cases h
          next hvalue =>
            obtain ⟨rfl, rfl⟩ := Prod.mk.inj (Except.ok.inj h)
            rw [takeUpTo_append htaken (.inr hr)]
            dsimp only
            rw [if_neg hvalue]
      next hoctal =>
      rw [if_neg hoctal]
      split at h
      · cases h
      next halphanum =>
      rw [if_neg halphanum]
      obtain ⟨rfl, rfl⟩ := Prod.mk.inj (Except.ok.inj h)
      rfl

/-- What a token stands for is read alike with more text behind, if something is left. -/
theorem readUnit_append {token : List Char} {item : ClassItem}
    (h : readUnit text token rest = .ok (item, r)) (hr : r ≠ []) (more : List Char) :
    readUnit text' token (rest ++ more) = .ok (item, r ++ more) := by
  rcases token with _ | ⟨c, _ | ⟨d, _ | ⟨e, cs⟩⟩⟩
  · obtain ⟨rfl, rfl⟩ := Prod.mk.inj (Except.ok.inj h)
    rfl
  · rw [readUnit] at h ⊢
    split at h
    · cases h
    next hc =>
      obtain ⟨rfl, rfl⟩ := Prod.mk.inj (Except.ok.inj h)
      exact if_neg hc
  · rw [readUnit] at h ⊢
    split at h
    next hc => rw [if_pos hc, readEscape_append h hr]
    next hc =>
      obtain ⟨rfl, rfl⟩ := Prod.mk.inj (Except.ok.inj h)
      exact if_neg hc
  · obtain ⟨rfl, rfl⟩ := Prod.mk.inj (Except.ok.inj h)
    rfl

/-- A token and what it stands for are read alike with more text behind, if something is left. -/
theorem token_append (text' : List Char) {token left : List Char} {item : ClassItem}
    (htoken : classToken rest = some (token, left))
    (hunit : readUnit text token left = .ok (item, r)) (hr : r ≠ []) (more : List Char) :
    classToken (rest ++ more) = some (token, left ++ more) ∧
      readUnit text' token (left ++ more) = .ok (item, r ++ more) := by
  refine ⟨classToken_append htoken ?_ more, readUnit_append hunit hr more⟩
  rintro rfl
  rw [readUnit, if_pos rfl] at hunit
  cases hunit

/-- No class ends where nothing is left to be read. -/
theorem readItems_nil_ne_ok {start fuel : Nat} {items result : List ClassItem} :
    readItems text start fuel items [] ≠ .ok (result, r) := by
  intro h
  cases fuel <;> cases h

/-- The items of a class are read alike with more text behind the class. -/
theorem readItems_append {start start' fuel : Nat} {items result : List ClassItem}
    (h : readItems text start fuel items rest = .ok (result, r)) (more : List Char) :
    ∀ {fuel' : Nat}, fuel ≤ fuel' →
      readItems text' start' fuel' items (rest ++ more) = .ok (result, r ++ more) := by
  induction fuel generalizing items rest with
  | zero => cases h
  | succ fuel ih =>
    intro fuel' hfuel
    obtain ⟨fuel', rfl⟩ := Nat.exists_eq_add_one_of_ne_zero (Nat.ne_zero_of_lt hfuel)
    have hfuel := Nat.le_of_succ_le_succ hfuel
    rw [readItems] at h ⊢
    cases htoken : classToken rest with
    | none => simp [htoken] at h
    | some token =>
      obtain ⟨low, left⟩ := token
      simp only [htoken] at h
      split at h
      next hclose =>
        obtain ⟨rfl, rfl⟩ := Prod.mk.inj (Except.ok.inj h)
        rw [classToken_append htoken (by simp [hclose.1])]
        exact if_pos hclose
      next hopen =>
        obtain ⟨⟨item, after⟩, hitem, h⟩ := Outcome.bind_eq_ok_iff.mp h
        obtain ⟨c, after, rfl⟩ : ∃ c cs, after = c :: cs := by
          refine List.exists_cons_of_ne_nil ?_
          rintro rfl
          exact readItems_nil_ne_ok h
        obtain ⟨htoken, hitem⟩ := token_append text' htoken hitem (by simp) more
        simp only [htoken, hopen, hitem, List.cons_append, bind, Except.bind]
        split at h
        next hyphen =>
          obtain ⟨rfl, rfl⟩ := List.cons.inj hyphen
          cases hnext : classToken after with
          | none => simp [hnext] at h
          | some token =>
            obtain ⟨high, left⟩ := token
            simp only [hnext] at h
            split at h
            next hclose =>
              obtain ⟨rfl, rfl⟩ := Prod.mk.inj (Except.ok.inj h)
              simp [classToken_append hnext (by simp [hclose]), hclose]
            next hrange =>
              obtain ⟨⟨last, after⟩, hlast, h⟩ := Outcome.bind_eq_ok_iff.mp h
              split at h
              next range hordered =>
                have hafter : after ≠ [] := by
                  rintro rfl
                  exact readItems_nil_ne_ok h
                obtain ⟨hnext, hlast⟩ := token_append text' hnext hlast hafter more
                simpa only [hnext, hrange, hlast, hordered, ↓reduceIte] using ih h hfuel
              next => cases h
        next hhyphen =>
          have hc : c ≠ '-' := fun hc => hhyphen after (by rw [hc])
          simpa [hc] using ih h hfuel

/-- A class that begins with a caret stands for the characters that the rest does not list. -/
theorem readClass_caret (text cs : List Char) :
    readClass text ('^' :: cs) =
      (readItems text (offsetOf text ('^' :: cs) - 1) (cs.length + 1) [] cs).map
        fun (items, rest) => (.set true items, rest) := by
  change (readItems text (offsetOf text ('^' :: cs) - 1) (cs.length + 1) [] cs >>=
    fun (items, rest) => pure (Atom.set true items, rest)) = _
  cases readItems text (offsetOf text ('^' :: cs) - 1) (cs.length + 1) [] cs <;> rfl

/-- A class that does not begin with a caret stands for the characters it lists. -/
theorem readClass_listing (text : List Char) {cs : List Char} (hcaret : cs.head? ≠ some '^') :
    readClass text cs =
      (readItems text (offsetOf text cs - 1) (cs.length + 1) [] cs).map
        fun (items, rest) => (.set false items, rest) := by
  unfold readClass
  split
  next heq =>
    split at heq
    · simp at hcaret
    · obtain ⟨rfl, rfl⟩ := Prod.mk.inj heq
      dsimp only
      cases readItems text (offsetOf text cs - 1) (cs.length + 1) [] cs <;> rfl

/-- A class is read alike with more text behind it. -/
theorem readClass_append {atom : Atom} (h : readClass text rest = .ok (atom, r))
    (more : List Char) : readClass text' (rest ++ more) = .ok (atom, r ++ more) := by
  have hfuel (cs : List Char) : cs.length + 1 ≤ (cs ++ more).length + 1 := by
    rw [List.length_append]
    omega
  by_cases hcaret : rest.head? = some '^'
  · obtain ⟨cs, rfl⟩ := List.head?_eq_some_iff.mp hcaret
    rw [readClass_caret, Outcome.map_eq_ok_iff] at h
    obtain ⟨⟨items, left⟩, hitems, hread⟩ := h
    obtain ⟨rfl, rfl⟩ := Prod.mk.inj hread
    rw [List.cons_append, readClass_caret, readItems_append hitems more (hfuel cs)]
    rfl
  · rw [readClass_listing text hcaret, Outcome.map_eq_ok_iff] at h
    obtain ⟨⟨items, left⟩, hitems, hread⟩ := h
    obtain ⟨rfl, rfl⟩ := Prod.mk.inj hread
    have hcaret' : (rest ++ more).head? ≠ some '^' := by
      cases rest with
      | nil => exact (readItems_nil_ne_ok hitems).elim
      | cons c cs => simpa using hcaret
    rw [readClass_listing _ hcaret', readItems_append hitems more (hfuel rest)]
    rfl

/-- A class that closes by itself is read up to its closing bracket, whatever comes after it. -/
theorem readClass_of_classAtom? {body : List Char} {atom : Atom} (h : classAtom? body = some atom)
    (text rest : List Char) :
    readClass text (regexBody body ++ ']' :: rest) = .ok (atom, rest) := by
  unfold classAtom? at h
  split at h
  next atom' hread =>
    obtain rfl := Option.some.inj h
    rw [List.append_cons]
    exact readClass_append hread rest
  next => cases h

end Names

end ModuleLint.Ignore
