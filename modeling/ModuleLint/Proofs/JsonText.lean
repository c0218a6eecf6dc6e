import Mathlib.Data.List.DropRight
import Mathlib.Data.List.TakeDrop
import ModuleLint.Json.Reader

/-!
# The grammar of JSON texts

What a JSON text denotes, rule by rule: blanks between tokens, numbers without leading zeros,
strings whose characters stand for themselves or are escaped, one by one or as UTF-16 pairs, and
arrays and objects of values. The reader understands every text of this grammar, so that a text
denotes one value at most.
-/

namespace ModuleLint.Json

/-- Blanks: spaces, line feeds, carriage returns and tabs. -/
def IsBlank (cs : List Char) : Prop :=
  ∀ c ∈ cs, c ∈ [' ', '\n', '\r', '\t']

/-- A row of decimal digits. -/
def IsDigits (cs : List Char) : Prop :=
  cs ≠ [] ∧ ∀ c ∈ cs, c.isDigit

/-- The digits before the point: a zero stands first only if it stands alone. -/
def IsWhole (cs : List Char) : Prop :=
  IsDigits cs ∧ (cs.head? = some '0' → cs = ['0'])

/-- The mark of a negative number. -/
def sign (negative : Bool) : List Char :=
  if negative then ['-'] else []

/-- A number that is negated if `negative`. -/
def signed (negative : Bool) (n : Nat) : Int :=
  if negative then -n else n

/-- The end of a number after its whole digits, with the digits after the point. -/
inductive IsFraction : List Char → List Char → Prop
  | absent : IsFraction [] []
  | present {digits : List Char} (hdigits : IsDigits digits) : IsFraction ('.' :: digits) digits

/-- The end of a number after its fraction, with the power of ten that it stands for. -/
inductive IsExponent : List Char → Int → Prop
  | absent : IsExponent [] 0
  | plain {mark : Char} {digits : List Char} (hmark : mark ∈ ['e', 'E'])
      (hdigits : IsDigits digits) : IsExponent (mark :: digits) (Nat.ofDigitChars 10 digits 0)
  | plus {mark : Char} {digits : List Char} (hmark : mark ∈ ['e', 'E'])
      (hdigits : IsDigits digits) :
      IsExponent (mark :: '+' :: digits) (Nat.ofDigitChars 10 digits 0)
  | minus {mark : Char} {digits : List Char} (hmark : mark ∈ ['e', 'E'])
      (hdigits : IsDigits digits) :
      IsExponent (mark :: '-' :: digits) (-Nat.ofDigitChars 10 digits 0)

/-- The letters that stand for a character after a backslash. -/
def escapeLetters : List (Char × Char) :=
  [('"', '"'), ('\\', '\\'), ('/', '/'), ('b', '\x08'), ('f', '\x0c'), ('n', '\n'), ('r', '\r'),
    ('t', '\t')]

/-- The hexadecimal digits with their values. -/
def hexAlphabet : List (Char × Nat) :=
  [('0', 0), ('1', 1), ('2', 2), ('3', 3), ('4', 4), ('5', 5), ('6', 6), ('7', 7), ('8', 8),
    ('9', 9), ('a', 10), ('b', 11), ('c', 12), ('d', 13), ('e', 14), ('f', 15), ('A', 10),
    ('B', 11), ('C', 12), ('D', 13), ('E', 14), ('F', 15)]

/-- The escape of a UTF-16 unit by its four hexadecimal digits. -/
inductive IsUnit : List Char → Nat → Prop
  | mk {a b c d : Char} {i j k l : Nat} (ha : (a, i) ∈ hexAlphabet) (hb : (b, j) ∈ hexAlphabet)
      (hc : (c, k) ∈ hexAlphabet) (hd : (d, l) ∈ hexAlphabet) :
      IsUnit ['\\', 'u', a, b, c, d] (((i * 16 + j) * 16 + k) * 16 + l)

/-- A character as it may be written in a string. -/
inductive Spells : List Char → Char → Prop
  | plain {c : Char} (hvisible : 0x20 ≤ c.toNat) (hmark : c ≠ '"') (hslash : c ≠ '\\') :
      Spells [c] c
  | letter {letter c : Char} (hletter : (letter, c) ∈ escapeLetters) : Spells ['\\', letter] c
  | unit {cs : List Char} {c : Char} (hunit : IsUnit cs c.toNat) : Spells cs c
  | pair {first second : List Char} {high low : Nat} {c : Char} (hhigh : high < 0x400)
      (hlow : low < 0x400) (hfirst : IsUnit first (0xd800 + high))
      (hsecond : IsUnit second (0xdc00 + low)) (hc : c.toNat = 0x10000 + high * 0x400 + low) :
      Spells (first ++ second) c

/-- A text as it may be written between the marks of a string. -/
inductive SpellsAll : List Char → List Char → Prop
  | nil : SpellsAll [] []
  | cons {cs rest : List Char} {c : Char} {text : List Char} (hchar : Spells cs c)
      (hrest : SpellsAll rest text) : SpellsAll (cs ++ rest) (c :: text)

/-- A string with its marks. -/
inductive IsString : List Char → String → Prop
  | mk {cs text : List Char} (htext : SpellsAll cs text) :
      IsString ('"' :: (cs ++ ['"'])) (String.ofList text)

mutual

/-- A text denotes a value. -/
inductive Denotes : List Char → Value → Prop
  | null : Denotes ['n', 'u', 'l', 'l'] .null
  | true : Denotes ['t', 'r', 'u', 'e'] (.bool true)
  | false : Denotes ['f', 'a', 'l', 's', 'e'] (.bool false)
  | int (negative : Bool) {whole : List Char} (hwhole : IsWhole whole) :
      Denotes (sign negative ++ whole) (.int (signed negative (Nat.ofDigitChars 10 whole 0)))
  | decimal (negative : Bool) {whole fraction digits exponent : List Char} {e : Int}
      (hwhole : IsWhole whole) (hfraction : IsFraction fraction digits)
      (hexponent : IsExponent exponent e) (hne : fraction ++ exponent ≠ []) :
      Denotes (sign negative ++ whole ++ fraction ++ exponent)
        (.decimal negative (Nat.ofDigitChars 10 (whole ++ digits) 0) (e - digits.length))
  | string {cs : List Char} {s : String} (hs : IsString cs s) : Denotes cs (.string s)
  | emptyArray {gap : List Char} (hgap : IsBlank gap) : Denotes ('[' :: (gap ++ [']'])) (.array [])
  | array {cs : List Char} {vs : List Value} (hitems : DenotesItems cs vs) :
      Denotes ('[' :: (cs ++ [']'])) (.array vs)
  | emptyObject {gap : List Char} (hgap : IsBlank gap) :
      Denotes ('\x7b' :: (gap ++ ['\x7d'])) (.object [])
  | object {cs : List Char} {ms : List (String × Value)} (hmembers : DenotesMembers cs ms) :
      Denotes ('\x7b' :: (cs ++ ['\x7d'])) (.object ms)

/-- A text denotes the items of an array, at least one. -/
inductive DenotesItems : List Char → List Value → Prop
  | last {before cs after : List Char} {v : Value} (hbefore : IsBlank before)
      (hv : Denotes cs v) (hafter : IsBlank after) : DenotesItems (before ++ cs ++ after) [v]
  | cons {before cs after rest : List Char} {v : Value} {vs : List Value}
      (hbefore : IsBlank before) (hv : Denotes cs v) (hafter : IsBlank after)
      (hrest : DenotesItems rest vs) :
      DenotesItems (before ++ cs ++ after ++ ',' :: rest) (v :: vs)

/-- A text denotes the members of an object, at least one. -/
inductive DenotesMembers : List Char → List (String × Value) → Prop
  | last {before name between gap cs after : List Char} {s : String} {v : Value}
      (hbefore : IsBlank before) (hname : IsString name s) (hbetween : IsBlank between)
      (hgap : IsBlank gap) (hv : Denotes cs v) (hafter : IsBlank after) :
      DenotesMembers (before ++ name ++ between ++ ':' :: (gap ++ cs ++ after)) [(s, v)]
  | cons {before name between gap cs after rest : List Char} {s : String} {v : Value}
      {ms : List (String × Value)} (hbefore : IsBlank before) (hname : IsString name s)
      (hbetween : IsBlank between) (hgap : IsBlank gap) (hv : Denotes cs v)
      (hafter : IsBlank after) (hrest : DenotesMembers rest ms) :
      DenotesMembers (before ++ name ++ between ++ ':' :: (gap ++ cs ++ after ++ ',' :: rest))
        ((s, v) :: ms)

end

/-- A whole text denotes a value, with blanks around it. -/
inductive IsText : List Char → Value → Prop
  | mk {before cs after : List Char} {v : Value} (hbefore : IsBlank before) (hv : Denotes cs v)
      (hafter : IsBlank after) : IsText (before ++ cs ++ after) v

section Strings

/-- A hexadecimal digit is read as its value. -/
theorem hexValue?_of_mem {c : Char} {n : Nat} (h : (c, n) ∈ hexAlphabet) :
    hexValue? c = some n := by
  have hall : ∀ entry ∈ hexAlphabet, hexValue? entry.1 = some entry.2 := by decide
  exact hall (c, n) h

/-- An escape letter is read as its character. -/
theorem escaped?_of_mem {letter c : Char} (h : (letter, c) ∈ escapeLetters) :
    letter ≠ 'u' ∧ escaped? letter = some c := by
  have hall : ∀ entry ∈ escapeLetters, entry.1 ≠ 'u' ∧ escaped? entry.1 = some entry.2 := by
    decide
  exact hall (letter, c) h

/-- A unit is escaped by a backslash, the letter and the four digits that are read as it. -/
theorem IsUnit.exists_unit? {cs : List Char} {n : Nat} (h : IsUnit cs n) :
    ∃ a b c d, cs = ['\\', 'u', a, b, c, d] ∧ unit? a b c d = some n := by
  obtain ⟨ha, hb, hc, hd⟩ := h
  refine ⟨_, _, _, _, rfl, ?_⟩
  simp [unit?, hexValue?_of_mem ha, hexValue?_of_mem hb, hexValue?_of_mem hc, hexValue?_of_mem hd]

/-- A character is no UTF-16 unit of a pair. -/
theorem isHighUnit_toNat (c : Char) : isHighUnit c.toNat = false ∧ isLowUnit c.toNat = false := by
  have hvalid : c.toNat.isValidChar := c.valid
  simp only [isHighUnit, isLowUnit, Bool.and_eq_false_iff, decide_eq_false_iff_not]
  rcases hvalid with hlow | ⟨hhigh, -⟩ <;> omega

/-- What spells a character is read as it. -/
theorem readString_of_spells {cs : List Char} {c : Char} (h : Spells cs c)
    (done rest : List Char) :
    readString none done (cs ++ rest) = readString none (c :: done) rest := by
  cases h with
  | plain hvisible hmark hslash =>
    rw [List.singleton_append, readString.eq_def]
    simp [hslash, Nat.not_lt.mpr hvisible, flush]
  | @letter letter c hletter =>
    obtain ⟨hu, hescaped⟩ := escaped?_of_mem hletter
    simp [readString, hu, hescaped, flush]
  | unit hunit =>
    obtain ⟨a, b, c', d, rfl, hvalue⟩ := hunit.exists_unit?
    obtain ⟨hhigh, hlow⟩ := isHighUnit_toNat c
    simp [readString, hvalue, hhigh, hlow]
  | @pair first second high low c hhigh hlow hfirst hsecond hc =>
    obtain ⟨a, b, c', d, rfl, hvalue⟩ := hfirst.exists_unit?
    obtain ⟨a', b', c'', d', rfl, hvalue'⟩ := hsecond.exists_unit?
    have hopen : isHighUnit (0xd800 + high) = true := by
      simp only [isHighUnit, Bool.and_eq_true, decide_eq_true_eq]
      omega
    have hclose : isLowUnit (0xdc00 + low) = true := by
      simp only [isLowUnit, Bool.and_eq_true, decide_eq_true_eq]
      omega
    have hchar : Char.ofNat (0x10000 + high * 0x400 + low) = c := by
      rw [← hc, Char.ofNat_toNat]
    simp [readString, hvalue, hvalue', hopen, hclose, hchar]

/-- A text is read as it was spelt, up to the closing mark. -/
theorem readString_of_spellsAll {cs text : List Char} (h : SpellsAll cs text)
    (done rest : List Char) :
    readString none done (cs ++ '"' :: rest) =
      some (String.ofList (done.reverse ++ text), rest) := by
  induction h generalizing done with
  | nil => simp [readString, flush]
  | cons hchar hrest ih =>
    rw [List.append_assoc, readString_of_spells hchar, ih]
    simp

end Strings

section Numbers

/-- A text ends a number: it is empty, or it starts with a blank, a comma or a closing bracket. -/
def EndsNumber (rest : List Char) : Prop :=
  ∀ c ∈ rest.head?, c ∈ [' ', '\n', '\r', '\t', ',', ']', '\x7d']

/-- A text does not start with a decimal digit. -/
def StopsDigits (rest : List Char) : Prop :=
  ∀ c ∈ rest.head?, c.isDigit = false

/-- What ends a number starts with no digit. -/
theorem EndsNumber.stopsDigits {rest : List Char} (h : EndsNumber rest) : StopsDigits rest := by
  have hall : ∀ c ∈ [' ', '\n', '\r', '\t', ',', ']', '\x7d'], c.isDigit = false := by simp
  intro c hc
  exact hall c (h c hc)

/-- The digits at the start of a text are found up to what is none. -/
theorem span_isDigit_append {digits rest : List Char} (hdigits : ∀ c ∈ digits, c.isDigit)
    (hrest : StopsDigits rest) : (digits ++ rest).span Char.isDigit = (digits, rest) := by
  have htake : rest.takeWhile Char.isDigit = [] := by
    cases rest with
    | nil => rfl
    | cons c rest => rw [List.takeWhile_cons_of_neg (by simp [hrest c rfl])]
  have hdrop : rest.dropWhile Char.isDigit = rest := by
    cases rest with
    | nil => rfl
    | cons c rest => rw [List.dropWhile_cons_of_neg (by simp [hrest c rfl])]
  rw [List.span_eq_takeWhile_dropWhile, List.takeWhile_append_of_pos hdigits,
    List.dropWhile_append_of_pos hdigits, htake, hdrop, List.append_nil]

/-- A row of digits is read up to what is none. -/
theorem readDigits?_append {digits rest : List Char} (hdigits : IsDigits digits)
    (hrest : StopsDigits rest) : readDigits? (digits ++ rest) = some (digits, rest) := by
  obtain ⟨hne, hall⟩ := hdigits
  rw [readDigits?, span_isDigit_append hall hrest]
  cases digits with
  | nil => exact (hne rfl).elim
  | cons c digits => rfl

/-- The value of a row of digits is the number that it writes. -/
theorem digitsValue_eq (cs : List Char) : digitsValue cs = Nat.ofDigitChars 10 cs 0 := by
  rw [digitsValue, Nat.ofDigitChars_eq_foldl]
  simp only [Nat.mul_comm]
  rfl

/-- An exponent is read up to what ends a number, with its value if there is one. -/
theorem readExponent_append {cs rest : List Char} {e : Int} (h : IsExponent cs e)
    (hrest : EndsNumber rest) :
    readExponent (cs ++ rest) = some (if cs = [] then none else some e, rest) := by
  have hdigits (digits : List Char) (hdigits : IsDigits digits) :
      readDigits? (digits ++ rest) = some (digits, rest) :=
    readDigits?_append hdigits hrest.stopsDigits
  cases h with
  | absent =>
    cases rest with
    | nil => rfl
    | cons c rest =>
      have hall : ∀ c ∈ [' ', '\n', '\r', '\t', ',', ']', '\x7d'], c ≠ 'e' ∧ c ≠ 'E' := by simp
      obtain ⟨he, he'⟩ := hall c (hrest c rfl)
      simp [readExponent, he, he']
  | @plain mark digits hmark h =>
    have hmark' : mark = 'e' ∨ mark = 'E' := by simpa using hmark
    have hread := hdigits digits h
    obtain ⟨d, ds, rfl⟩ := List.exists_cons_of_ne_nil h.1
    have hd : d.isDigit := h.2 d List.mem_cons_self
    have hminus : d ≠ '-' := by
      rintro rfl
      exact absurd hd (by decide)
    have hplus : d ≠ '+' := by
      rintro rfl
      exact absurd hd (by decide)
    rw [List.cons_append] at hread
    simp [readExponent, hmark', hminus, hplus, hread, digitsValue_eq]
  | @plus mark digits hmark h =>
    have hmark' : mark = 'e' ∨ mark = 'E' := by simpa using hmark
    simp [readExponent, hmark', hdigits digits h, digitsValue_eq]
  | @minus mark digits hmark h =>
    have hmark' : mark = 'e' ∨ mark = 'E' := by simpa using hmark
    simp [readExponent, hmark', hdigits digits h, digitsValue_eq]

/-- An exponent with what follows it starts with no digit and with no point. -/
theorem IsExponent.stops {cs rest : List Char} {e : Int} (h : IsExponent cs e)
    (hrest : EndsNumber rest) : ∀ c ∈ (cs ++ rest).head?, c.isDigit = false ∧ c ≠ '.' := by
  have hmarks : ∀ mark ∈ ['e', 'E'], mark.isDigit = false ∧ mark ≠ '.' := by simp
  have hends : ∀ c ∈ [' ', '\n', '\r', '\t', ',', ']', '\x7d'],
      c.isDigit = false ∧ c ≠ '.' := by simp
  intro c hc
  cases h with
  | absent => exact hends c (hrest c hc)
  | @plain mark digits hmark => exact Option.some.inj hc ▸ hmarks mark hmark
  | @plus mark digits hmark => exact Option.some.inj hc ▸ hmarks mark hmark
  | @minus mark digits hmark => exact Option.some.inj hc ▸ hmarks mark hmark

/-- The whole digits of a number are read up to what is none. -/
theorem readWhole_append {whole rest : List Char} (hwhole : IsWhole whole)
    (hrest : StopsDigits rest) :
    readDigits? (whole ++ rest) = some (whole, rest) ∧
      (1 < whole.length → whole.head? ≠ some '0') := by
  obtain ⟨hdigits, hzero⟩ := hwhole
  refine ⟨readDigits?_append hdigits hrest, ?_⟩
  intro hlength hhead
  rw [hzero hhead] at hlength
  exact absurd hlength (by decide)

/-- An integer is read up to what ends a number. -/
theorem readNumber_int (negative : Bool) {whole rest : List Char} (hwhole : IsWhole whole)
    (hrest : EndsNumber rest) :
    readNumber negative (whole ++ rest) =
      some (.int (signed negative (Nat.ofDigitChars 10 whole 0)), rest) := by
  obtain ⟨hread, hzero⟩ := readWhole_append hwhole hrest.stopsDigits
  have hend := readExponent_append .absent hrest
  have hstops := IsExponent.absent.stops hrest
  rw [List.nil_append] at hend hstops
  simp only [readNumber, hread]
  cases rest with
  | nil => simpa [hend, digitsValue_eq, signed] using hzero
  | cons c rest =>
    obtain ⟨-, hpoint⟩ := hstops c rfl
    simpa [hpoint, hend, digitsValue_eq, signed] using hzero

/-- A number with a fraction or an exponent is read up to what ends it. -/
theorem readNumber_decimal (negative : Bool) {whole fraction digits exponent rest : List Char}
    {e : Int} (hwhole : IsWhole whole) (hfraction : IsFraction fraction digits)
    (hexponent : IsExponent exponent e) (hne : fraction ++ exponent ≠ [])
    (hrest : EndsNumber rest) :
    readNumber negative (whole ++ (fraction ++ (exponent ++ rest))) =
      some (.decimal negative (Nat.ofDigitChars 10 (whole ++ digits) 0) (e - digits.length),
        rest) := by
  have hend := readExponent_append hexponent hrest
  have hstops := hexponent.stops hrest
  cases hfraction with
  | absent =>
    have hne' : exponent ≠ [] := by simpa using hne
    obtain ⟨hread, hzero⟩ := readWhole_append hwhole fun c hc => (hstops c hc).1
    obtain ⟨c, cs, rfl⟩ := List.exists_cons_of_ne_nil hne'
    obtain ⟨-, hpoint⟩ := hstops c rfl
    rw [List.cons_append] at hend hread
    simp only [readNumber, List.nil_append, List.cons_append, hread]
    simpa [hpoint, hend, digitsValue_eq] using hzero
  | @present digits hdigits =>
    have hdot : StopsDigits ('.' :: (digits ++ (exponent ++ rest))) := by
      intro c hc
      obtain rfl : '.' = c := Option.some.inj hc
      rfl
    obtain ⟨hread, hzero⟩ := readWhole_append hwhole hdot
    have hread' : readDigits? (digits ++ (exponent ++ rest)) = some (digits, exponent ++ rest) :=
      readDigits?_append hdigits fun c hc => (hstops c hc).1
    have he : (if exponent = [] then none else some e).getD 0 = e := by
      cases hexponent <;> simp
    simp only [readNumber, List.cons_append, hread]
    simpa [hread', hend, digitsValue_eq, he] using hzero

end Numbers

section Blanks

/-- Blanks are what the reader skips. -/
theorem isSpace_iff {c : Char} : isSpace c ↔ c ∈ [' ', '\n', '\r', '\t'] := by
  simp [isSpace, or_assoc]

/-- Blanks in front of a text are skipped. -/
@[simp] theorem skip_append {gap : List Char} (hgap : IsBlank gap) (cs : List Char) :
    skip (gap ++ cs) = skip cs :=
  List.dropWhile_append_of_pos fun c hc => isSpace_iff.mpr (hgap c hc)

/-- A text that starts with no blank is not shortened. -/
theorem skip_cons {c : Char} (hc : c ∉ [' ', '\n', '\r', '\t']) (cs : List Char) :
    skip (c :: cs) = c :: cs :=
  List.dropWhile_cons_of_neg fun h => hc (isSpace_iff.mp h)

/-- Blanks are skipped at once. -/
theorem skip_skip (cs : List Char) : skip (skip cs) = skip cs :=
  List.dropWhile_idempotent isSpace cs

variable (fuel : Nat) (cs : List Char)

/-- The reader of values skips blanks by itself. -/
theorem readValue_skip : readValue fuel (skip cs) = readValue fuel cs := by
  cases fuel with
  | zero => rfl
  | succ fuel => rw [readValue, readValue, skip_skip]

/-- The reader of items skips blanks by itself. -/
theorem readItems_skip : readItems fuel (skip cs) = readItems fuel cs := by
  cases fuel with
  | zero => rfl
  | succ fuel => rw [readItems, readItems, readValue_skip]

/-- The reader of members skips blanks by itself. -/
theorem readMembers_skip : readMembers fuel (skip cs) = readMembers fuel cs := by
  cases fuel with
  | zero => rfl
  | succ fuel => rw [readMembers, readMembers, skip_skip]

/-- Blanks in front of a value make no difference. -/
theorem readValue_append {gap : List Char} (hgap : IsBlank gap) :
    readValue fuel (gap ++ cs) = readValue fuel cs := by
  rw [← readValue_skip, skip_append hgap, readValue_skip]

end Blanks

section Values

variable {fuel : Nat}

/-- A string is read up to its closing mark. -/
theorem IsString.exists_read {cs : List Char} {s : String} (h : IsString cs s) (rest : List Char) :
    ∃ r, cs ++ rest = '"' :: r ∧ readString none [] r = some (s, rest) := by
  obtain ⟨htext⟩ := h
  refine ⟨_, List.cons_append, ?_⟩
  rw [List.append_assoc]
  exact readString_of_spellsAll htext [] rest

/-- A number is read as one from its sign on. -/
theorem readValue_number (negative : Bool) {whole : List Char} (hwhole : IsWhole whole)
    (tail : List Char) :
    readValue (fuel + 1) (sign negative ++ (whole ++ tail)) =
      readNumber negative (whole ++ tail) := by
  cases negative with
  | true => rw [readValue]; rfl
  | false =>
    obtain ⟨⟨hne, hdigits⟩, -⟩ := hwhole
    obtain ⟨d, ds, rfl⟩ := List.exists_cons_of_ne_nil hne
    have hd : d.isDigit := hdigits d List.mem_cons_self
    have hspace : d ∉ [' ', '\n', '\r', '\t'] := by
      have hall : ∀ c ∈ [' ', '\n', '\r', '\t'], c.isDigit = false := by simp
      intro hmem
      exact absurd hd (by simp [hall d hmem])
    rw [sign, if_neg Bool.false_ne_true, List.nil_append, List.cons_append, readValue,
      skip_cons hspace]
    split <;> simp_all

/-- The reader understands the texts that its fuel is enough for. -/
structure Understands (fuel : Nat) : Prop where
  value {cs : List Char} {v : Value} (hv : Denotes cs v) (hfuel : 2 * cs.length ≤ fuel)
    {rest : List Char} (hrest : EndsNumber rest) : readValue fuel (cs ++ rest) = some (v, rest)
  items {cs : List Char} {vs : List Value} (hvs : DenotesItems cs vs)
    (hfuel : 2 * cs.length + 1 ≤ fuel) (rest : List Char) :
    readItems fuel (cs ++ ']' :: rest) = some (vs, rest)
  members {cs : List Char} {ms : List (String × Value)} (hms : DenotesMembers cs ms)
    (hfuel : 2 * cs.length + 1 ≤ fuel) (rest : List Char) :
    readMembers fuel (cs ++ '\x7d' :: rest) = some (ms, rest)

/-- The first character of a value is no blank and no closing bracket. -/
theorem Denotes.exists_cons {cs : List Char} {v : Value} (h : Denotes cs v) :
    ∃ c r, cs = c :: r ∧ c ∉ [' ', '\n', '\r', '\t'] ∧ c ≠ ']' := by
  have hnumber (negative : Bool) {whole : List Char} (hwhole : IsWhole whole)
      (tail : List Char) : ∃ c r, sign negative ++ (whole ++ tail) = c :: r ∧
        c ∉ [' ', '\n', '\r', '\t'] ∧ c ≠ ']' := by
    have hall : ∀ c ∈ [' ', '\n', '\r', '\t', ']'], c.isDigit = Bool.false := by simp
    cases negative with
    | true => exact ⟨'-', _, rfl, by decide, by decide⟩
    | false =>
      obtain ⟨d, ds, rfl⟩ := List.exists_cons_of_ne_nil hwhole.1.1
      have hd : d.isDigit := hwhole.1.2 d List.mem_cons_self
      have hmem : d ∉ [' ', '\n', '\r', '\t', ']'] := by
        intro hmem
        exact absurd hd (by simp [hall d hmem])
      refine ⟨d, ds ++ tail, rfl, fun hblank => hmem ?_, fun hbracket => hmem ?_⟩
      · exact List.mem_append_left [']'] hblank
      · simp [hbracket]
  cases h with
  | null | true | false => exact ⟨_, _, rfl, by decide, by decide⟩
  | @int negative whole hwhole => simpa using hnumber negative hwhole []
  | @decimal negative whole fraction digits exponent e hwhole =>
    simpa using hnumber negative hwhole (fraction ++ exponent)
  | string hs =>
    obtain ⟨-⟩ := hs
    exact ⟨_, _, rfl, by decide, by decide⟩
  | emptyArray | array | emptyObject | object => exact ⟨_, _, rfl, by decide, by decide⟩

/-- After blanks, the items of an array start with no closing bracket. -/
theorem DenotesItems.exists_skip {cs : List Char} {vs : List Value} (h : DenotesItems cs vs)
    (rest : List Char) : ∃ c r, skip (cs ++ rest) = c :: r ∧ c ≠ ']' := by
  have hfirst {before cs : List Char} {v : Value} (hbefore : IsBlank before) (hv : Denotes cs v)
      (tail : List Char) : ∃ c r, skip (before ++ (cs ++ tail)) = c :: r ∧ c ≠ ']' := by
    obtain ⟨c, r, rfl, hblank, hbracket⟩ := hv.exists_cons
    refine ⟨c, r ++ tail, ?_, hbracket⟩
    rw [skip_append hbefore, List.cons_append, skip_cons hblank]
  cases h with
  | last hbefore hv => simpa using hfirst hbefore hv _
  | cons hbefore hv => simpa using hfirst hbefore hv _

/-- After blanks, the members of an object start with the mark of a string. -/
theorem DenotesMembers.exists_skip {cs : List Char} {ms : List (String × Value)}
    (h : DenotesMembers cs ms) (rest : List Char) : ∃ r, skip (cs ++ rest) = '"' :: r := by
  have hfirst {before name : List Char} {s : String} (hbefore : IsBlank before)
      (hname : IsString name s) (tail : List Char) :
      ∃ r, skip (before ++ (name ++ tail)) = '"' :: r := by
    obtain ⟨r, hr, -⟩ := hname.exists_read tail
    exact ⟨r, by rw [skip_append hbefore, hr, skip_cons (by decide)]⟩
  cases h with
  | last hbefore hname => simpa using hfirst hbefore hname _
  | cons hbefore hname => simpa using hfirst hbefore hname _

/-- What may follow a value in an array or an object ends a number. -/
theorem endsNumber_append {gap : List Char} (hgap : IsBlank gap) {c : Char}
    (hc : c ∈ [',', ']', '\x7d']) (rest : List Char) : EndsNumber (gap ++ c :: rest) := by
  intro d hd
  cases gap with
  | nil =>
    obtain rfl : c = d := Option.some.inj hd
    exact List.mem_append_right [' ', '\n', '\r', '\t'] hc
  | cons b gap =>
    obtain rfl : b = d := Option.some.inj hd
    exact List.mem_append_left [',', ']', '\x7d'] (hgap b List.mem_cons_self)

/-- With one more unit of fuel, the reader understands values whose parts it understands. -/
theorem Understands.value_succ (ih : Understands fuel) {cs : List Char} {v : Value}
    (hv : Denotes cs v) (hfuel : 2 * cs.length ≤ fuel + 1) {rest : List Char}
    (hrest : EndsNumber rest) : readValue (fuel + 1) (cs ++ rest) = some (v, rest) := by
  cases hv with
  | null => rw [readValue]; rfl
  | true => rw [readValue]; rfl
  | false => rw [readValue]; rfl
  | @int negative whole hwhole =>
    rw [List.append_assoc, readValue_number negative hwhole, readNumber_int negative hwhole hrest]
  | @decimal negative whole fraction digits exponent e hwhole hfraction hexponent hne =>
    simp only [List.append_assoc]
    rw [readValue_number negative hwhole,
      readNumber_decimal negative hwhole hfraction hexponent hne hrest]
  | string hs =>
    obtain ⟨r, hr, hread⟩ := hs.exists_read rest
    rw [hr, readValue, skip_cons (by decide)]
    simp [hread]
  | @emptyArray gap hgap =>
    rw [List.cons_append, readValue, skip_cons (by decide)]
    simp [skip_append hgap, skip_cons]
  | @array cs vs hitems =>
    have hlength : 2 * cs.length + 1 ≤ fuel := by
      simp only [List.length_cons, List.length_append, List.length_nil] at hfuel
      omega
    have hread := ih.items hitems hlength rest
    obtain ⟨c, r, hskip, hc⟩ := hitems.exists_skip (']' :: rest)
    rw [← readItems_skip, hskip] at hread
    rw [List.cons_append, List.append_assoc, readValue, skip_cons (by decide)]
    simp [hskip, hc, hread]
  | @emptyObject gap hgap =>
    rw [List.cons_append, readValue, skip_cons (by decide)]
    simp [skip_append hgap, skip_cons]
  | @object cs ms hmembers =>
    have hlength : 2 * cs.length + 1 ≤ fuel := by
      simp only [List.length_cons, List.length_append, List.length_nil] at hfuel
      omega
    have hread := ih.members hmembers hlength rest
    obtain ⟨r, hskip⟩ := hmembers.exists_skip ('\x7d' :: rest)
    rw [← readMembers_skip, hskip] at hread
    rw [List.cons_append, List.append_assoc, readValue, skip_cons (by decide)]
    simp [hskip, hread]

/-- With one more unit of fuel, the reader understands items that it understands one by one. -/
theorem Understands.items_succ (ih : Understands fuel) {cs : List Char} {vs : List Value}
    (hvs : DenotesItems cs vs) (hfuel : 2 * cs.length ≤ fuel) (rest : List Char) :
    readItems (fuel + 1) (cs ++ ']' :: rest) = some (vs, rest) := by
  cases hvs with
  | @last before cs after v hbefore hv hafter =>
    have hlength : 2 * cs.length ≤ fuel := by
      simp only [List.length_append] at hfuel
      omega
    have hread := ih.value hv hlength (endsNumber_append hafter (c := ']') (by decide) rest)
    rw [readItems, List.append_assoc, List.append_assoc, readValue_append _ _ hbefore, hread]
    simp [skip_append hafter, skip_cons]
  | @cons before cs after tail v vs hbefore hv hafter htail =>
    have hlength : 2 * cs.length ≤ fuel ∧ 2 * tail.length + 1 ≤ fuel := by
      simp only [List.length_append, List.length_cons] at hfuel
      omega
    have hread := ih.value hv hlength.1
      (endsNumber_append hafter (c := ',') (by decide) (tail ++ ']' :: rest))
    have hread' := ih.items htail hlength.2 rest
    rw [readItems]
    simp only [List.append_assoc, List.cons_append]
    rw [readValue_append _ _ hbefore, hread]
    simp [skip_append hafter, skip_cons, hread']

/-- With one more unit of fuel, the reader understands members that it understands one by one. -/
theorem Understands.members_succ (ih : Understands fuel) {cs : List Char}
    {ms : List (String × Value)} (hms : DenotesMembers cs ms) (hfuel : 2 * cs.length ≤ fuel)
    (rest : List Char) : readMembers (fuel + 1) (cs ++ '\x7d' :: rest) = some (ms, rest) := by
  cases hms with
  | @last before name between gap cs after s v hbefore hname hbetween hgap hv hafter =>
    have hlength : 2 * cs.length ≤ fuel := by
      simp only [List.length_append, List.length_cons] at hfuel
      omega
    have hread := ih.value hv hlength (endsNumber_append hafter (c := '\x7d') (by decide) rest)
    obtain ⟨r, hr, hname⟩ := hname.exists_read
      (between ++ ':' :: (gap ++ (cs ++ (after ++ '\x7d' :: rest))))
    rw [readMembers]
    simp only [List.append_assoc, List.cons_append]
    rw [skip_append hbefore, hr, skip_cons (by decide)]
    simp [hname, skip_append hbetween, skip_cons, readValue_append _ _ hgap, hread,
      skip_append hafter]
  | @cons before name between gap cs after tail s v ms hbefore hname hbetween hgap hv hafter
      htail =>
    have hlength : 2 * cs.length ≤ fuel ∧ 2 * tail.length + 1 ≤ fuel := by
      simp only [List.length_append, List.length_cons] at hfuel
      omega
    have hread := ih.value hv hlength.1
      (endsNumber_append hafter (c := ',') (by decide) (tail ++ '\x7d' :: rest))
    have hread' := ih.members htail hlength.2 rest
    obtain ⟨r, hr, hname⟩ := hname.exists_read
      (between ++ ':' :: (gap ++ (cs ++ (after ++ ',' :: (tail ++ '\x7d' :: rest)))))
    rw [readMembers]
    simp only [List.append_assoc, List.cons_append]
    rw [skip_append hbefore, hr, skip_cons (by decide)]
    simp [hname, skip_append hbetween, skip_cons, readValue_append _ _ hgap, hread,
      skip_append hafter, hread']

/-- The reader understands every text that its fuel is enough for. -/
theorem understands (fuel : Nat) : Understands fuel := by
  induction fuel with
  | zero =>
    refine ⟨?_, ?_, ?_⟩
    · intro cs v hv hfuel
      obtain ⟨c, r, rfl, -⟩ := hv.exists_cons
      simp at hfuel
    · intro cs vs hvs hfuel
      omega
    · intro cs ms hms hfuel
      omega
  | succ fuel ih =>
    refine ⟨?_, ?_, ?_⟩
    · intro cs v hv hfuel rest hrest
      exact ih.value_succ hv hfuel hrest
    · intro cs vs hvs hfuel rest
      exact ih.items_succ hvs (by omega) rest
    · intro cs ms hms hfuel rest
      exact ih.members_succ hms (by omega) rest

/-- A text is read as the value that it denotes. -/
theorem read_of_isText {cs : List Char} {v : Value} (h : IsText cs v) :
    read (String.ofList cs) = some v := by
  obtain @⟨before, cs, after, v, hbefore, hv, hafter⟩ := h
  have hlength : 2 * cs.length ≤ 2 * (before ++ cs ++ after).length + 1 := by
    simp only [List.length_append]
    omega
  have hrest : EndsNumber after := by
    intro c hc
    exact List.mem_append_left [',', ']', '\x7d'] (hafter c (List.mem_of_mem_head? hc))
  have hskip : skip after = [] := by
    have h := skip_append hafter []
    rwa [List.append_nil] at h
  have hread := (understands _).value hv hlength hrest
  simp only [read, String.toList_ofList]
  rw [List.append_assoc, readValue_append _ _ hbefore, ← List.append_assoc, hread]
  simp [hskip]

/-- A text denotes one value at most. -/
theorem IsText.unique {cs : List Char} {v v' : Value} (h : IsText cs v) (h' : IsText cs v') :
    v = v' := by
  have hread := read_of_isText h
  rw [read_of_isText h'] at hread
  exact (Option.some.inj hread).symm

end Values

end ModuleLint.Json
