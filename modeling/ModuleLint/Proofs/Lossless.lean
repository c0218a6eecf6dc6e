import Mathlib.Tactic.SplitIfs
import ModuleLint.Proofs.JsonText
import ModuleLint.Report.Record

/-!
# Reports as JSON are lossless

The printed form of a JSON value is a text of the grammar, of ASCII characters only, that denotes
this value and no other. So a report is read off its JSON text, and two reports with one text are
the same.
-/

namespace ModuleLint

namespace Json

open ModuleLint.Text (hexDigit hexDigits)

section Strings

/-- The digit that is printed for a number below sixteen has this value. -/
theorem hexDigit_mem {n : Nat} (h : n < 16) : (hexDigit n, n) ∈ hexAlphabet := by
  have hall : ∀ n < 16, (hexDigit n, n) ∈ hexAlphabet := by decide
  exact hall n h

/-- The printed escape of a unit is one of it. -/
theorem isUnit_unitEscape {n : Nat} (h : n < 0x10000) : IsUnit (unitEscape n) n := by
  have hdigit (k : Nat) : (hexDigit (k % 16), k % 16) ∈ hexAlphabet :=
    hexDigit_mem (Nat.mod_lt k (by decide))
  have hvalue : ((n / 16 / 16 / 16 % 16 * 16 + n / 16 / 16 % 16) * 16 + n / 16 % 16) * 16 + n % 16 =
      n := by
    omega
  have hunit := IsUnit.mk (hdigit (n / 16 / 16 / 16)) (hdigit (n / 16 / 16)) (hdigit (n / 16))
    (hdigit n)
  rw [hvalue] at hunit
  exact hunit

/-- A character is printed as one that spells it. -/
theorem spells_stringChar (c : Char) : Spells (stringChar c) c := by
  have hchar {n : Nat} (h : c.toNat = n) : c = Char.ofNat n := by
    rw [← h, Char.ofNat_toNat]
  simp only [stringChar]
  split_ifs with hmark hslash hfeed hreturn htab hback hform hvisible hsmall
  · subst hmark
    exact .letter (by decide)
  · subst hslash
    exact .letter (by decide)
  · subst hfeed
    exact .letter (by decide)
  · subst hreturn
    exact .letter (by decide)
  · subst htab
    exact .letter (by decide)
  · rw [hchar hback]
    exact .letter (by decide)
  · rw [hchar hform]
    exact .letter (by decide)
  · exact .plain hvisible.1 hmark hslash
  · exact .unit (isUnit_unitEscape hsmall)
  · have hlarge : c.toNat < 0x110000 := by
      rcases c.valid with hvalid | hvalid
      · exact hvalid.trans (by decide)
      · exact hvalid.2
    have hhigh : (c.toNat - 0x10000) / 0x400 < 0x400 := by omega
    have hlow : (c.toNat - 0x10000) % 0x400 < 0x400 := Nat.mod_lt _ (by decide)
    have hc : c.toNat =
        0x10000 + (c.toNat - 0x10000) / 0x400 * 0x400 + (c.toNat - 0x10000) % 0x400 := by
      omega
    exact .pair hhigh hlow (isUnit_unitEscape (by omega)) (isUnit_unitEscape (by omega)) hc

/-- A text is printed character by character as one that spells it. -/
theorem spellsAll_flatMap (cs : List Char) : SpellsAll (cs.flatMap stringChar) cs := by
  induction cs with
  | nil => exact .nil
  | cons c cs ih =>
    rw [List.flatMap_cons]
    exact .cons (spells_stringChar c) ih

/-- A string is printed as itself. -/
theorem isString_printString (s : String) : IsString (printString s) s := by
  have h := IsString.mk (spellsAll_flatMap s.toList)
  rwa [String.ofList_toList] at h

end Strings

section Numbers

/-- The decimal numeral of a number starts with a zero only if that is all of it. -/
theorem head?_toDigits (n : Nat) (h : (Nat.toDigits 10 n).head? = some '0') : n = 0 := by
  induction n using Nat.strongRecOn with
  | ind n ih =>
    by_cases hn : n < 10
    · rw [Nat.toDigits_of_lt_base hn] at h
      have hall : ∀ n < 10, Nat.digitChar n = '0' → n = 0 := by decide
      exact hall n hn (Option.some.inj h)
    · rw [Nat.toDigits_of_base_le (by decide) (Nat.le_of_not_lt hn)] at h
      rw [List.head?_append_of_ne_nil _ Nat.toDigits_ne_nil] at h
      have hzero := ih (n / 10) (by omega) h
      omega

/-- The decimal numeral of a number is one of whole digits. -/
theorem isWhole_toDigits (n : Nat) : IsWhole (Nat.toDigits 10 n) := by
  refine ⟨⟨Nat.toDigits_ne_nil, ?_⟩, ?_⟩
  · intro c hc
    exact Nat.isDigit_of_mem_toDigits (by decide) (by decide) hc
  · intro hhead
    rw [head?_toDigits n hhead]
    rfl

/-- A number is printed as its decimal numeral. -/
theorem toList_toString_nat (n : Nat) : (toString n).toList = Nat.toDigits 10 n := by
  rw [Nat.toString_eq_ofList_toDigits, String.toList_ofList]

/-- An integer is printed as its sign and the decimal numeral of its size. -/
theorem toList_toString_int (n : Int) :
    (toString n).toList = sign (n < 0) ++ Nat.toDigits 10 n.natAbs := by
  cases n with
  | ofNat n =>
    rw [sign, if_neg (by simp), List.nil_append]
    exact toList_toString_nat n
  | negSucc n =>
    rw [sign, if_pos (by simp)]
    change ("-" ++ toString (n + 1)).toList = _
    rw [String.toList_append, toList_toString_nat]
    rfl

/-- An integer is its size with its sign. -/
theorem signed_natAbs (n : Int) : signed (n < 0) n.natAbs = n := by
  by_cases hn : n < 0
  · rw [signed, if_pos (by simpa using hn)]
    omega
  · rw [signed, if_neg (by simpa using hn)]
    omega

/-- An integer is printed as one. -/
theorem denotes_toString (n : Int) : Denotes (toString n).toList (.int n) := by
  have h := Denotes.int (n < 0) (isWhole_toDigits n.natAbs)
  rwa [Nat.ofDigitChars_ten_toDigits, signed_natAbs, ← toList_toString_int] at h

/-- An exponent is printed as one after its mark. -/
theorem isExponent_toString (e : Int) : IsExponent ('e' :: (toString e).toList) e := by
  have hmark : 'e' ∈ ['e', 'E'] := List.mem_cons_self
  have hdigits := (isWhole_toDigits e.natAbs).1
  rw [toList_toString_int]
  by_cases he : e < 0
  · have h := IsExponent.minus hmark hdigits
    have hvalue : -(e.natAbs : Int) = e := by omega
    rw [Nat.ofDigitChars_ten_toDigits, hvalue] at h
    rw [sign, if_pos (by simpa using he)]
    exact h
  · have h := IsExponent.plain hmark hdigits
    have hvalue : (e.natAbs : Int) = e := by omega
    rw [Nat.ofDigitChars_ten_toDigits, hvalue] at h
    rw [sign, if_neg (by simpa using he)]
    exact h

/-- A decimal is printed as its coefficient with an exponent. -/
theorem denotes_decimal (negative : Bool) (coefficient : Nat) (e : Int) :
    Denotes (sign negative ++ (toString coefficient).toList ++ 'e' :: (toString e).toList)
      (.decimal negative coefficient e) := by
  have h := Denotes.decimal negative (isWhole_toDigits coefficient) .absent
    (isExponent_toString e) (by simp)
  simpa [toList_toString_nat, Nat.ofDigitChars_ten_toDigits] using h

end Numbers

section Values

/-- A new line is blank. -/
theorem isBlank_newLine (level : Nat) : IsBlank (newLine level) := by
  intro c hc
  rcases List.mem_cons.mp hc with rfl | hc
  · decide
  · rw [List.eq_of_mem_replicate hc]
    decide

/-- Nothing is blank. -/
theorem isBlank_nil : IsBlank [] := by
  intro c hc
  cases hc

/-- A space is blank. -/
theorem isBlank_space : IsBlank [' '] := by
  intro c hc
  rw [List.mem_singleton.mp hc]
  decide

mutual

/-- A value is printed as a text that denotes it. -/
theorem denotes_printAt (level : Nat) : (v : Value) → Denotes (printAt level v) v
  | .null => .null
  | .bool true => .true
  | .bool false => .false
  | .int n => denotes_toString n
  | .decimal negative coefficient e => denotes_decimal negative coefficient e
  | .string s => .string (isString_printString s)
  | .array [] => .emptyArray isBlank_nil
  | .array (v :: vs) => by
    have h := Denotes.array (denotesItems_printItems (level + 1) (denotes_printAt (level + 1) v)
      (isBlank_newLine level) vs)
    simpa [printAt] using h
  | .object [] => .emptyObject isBlank_nil
  | .object ((name, v) :: ms) => by
    have h := Denotes.object (denotesMembers_printMembers (level + 1) name
      (denotes_printAt (level + 1) v) (isBlank_newLine level) ms)
    simpa [printAt] using h

/-- The items of an array are printed as a text that denotes them after a first item. -/
theorem denotesItems_printItems (level : Nat) {cs after : List Char} {v : Value}
    (hv : Denotes cs v) (hafter : IsBlank after) : (vs : List Value) →
      DenotesItems (newLine level ++ cs ++ printItems level vs ++ after) (v :: vs)
  | [] => by
    have h := DenotesItems.last (isBlank_newLine level) hv hafter
    simpa [printItems] using h
  | v' :: vs => by
    have htail := denotesItems_printItems level (denotes_printAt level v') hafter vs
    have h := DenotesItems.cons (isBlank_newLine level) hv isBlank_nil htail
    simpa [printItems] using h

/-- The members of an object are printed as a text that denotes them after a first member. -/
theorem denotesMembers_printMembers (level : Nat) (name : String) {cs after : List Char}
    {v : Value} (hv : Denotes cs v) (hafter : IsBlank after) : (ms : List (String × Value)) →
      DenotesMembers (newLine level ++ printString name ++ [':', ' '] ++ cs ++
        printMembers level ms ++ after) ((name, v) :: ms)
  | [] => by
    have h := DenotesMembers.last (isBlank_newLine level) (isString_printString name) isBlank_nil
      isBlank_space hv hafter
    simpa [printMembers] using h
  | (name', v') :: ms => by
    have htail := denotesMembers_printMembers level name' (denotes_printAt level v') hafter ms
    have h := DenotesMembers.cons (isBlank_newLine level) (isString_printString name) isBlank_nil
      isBlank_space hv isBlank_nil htail
    simpa [printMembers] using h

end

/-- The printed form of a value is a text that denotes it. -/
theorem isText_print (v : Value) : IsText (print v).toList v := by
  have h := IsText.mk isBlank_nil (denotes_printAt 0 v) isBlank_nil
  simpa [print] using h

/-- The printed form of a value is read as the value. -/
theorem read_print (v : Value) : read (print v) = some v := by
  have h := read_of_isText (isText_print v)
  rwa [String.ofList_toList] at h

/-- Values with one printed form are the same. -/
theorem print_injective {v v' : Value} (h : print v = print v') : v = v' := by
  have hread := read_print v
  rw [h, read_print] at hread
  exact (Option.some.inj hread).symm

end Values

section Ascii

/-- A text is of ASCII characters only. -/
def IsAscii (cs : List Char) : Prop :=
  ∀ c ∈ cs, c.toNat < 0x80

/-- Nothing is ASCII. -/
@[simp] theorem isAscii_nil : IsAscii [] := by
  simp [IsAscii]

/-- A text is ASCII just if its first character and the rest of it are. -/
@[simp] theorem isAscii_cons {c : Char} {cs : List Char} :
    IsAscii (c :: cs) ↔ c.toNat < 0x80 ∧ IsAscii cs := by
  simp [IsAscii]

/-- Two texts in a row are ASCII just if both are. -/
@[simp] theorem isAscii_append {cs ds : List Char} :
    IsAscii (cs ++ ds) ↔ IsAscii cs ∧ IsAscii ds := by
  simp [IsAscii, or_imp, forall_and]

/-- A hexadecimal numeral is ASCII. -/
@[simp] theorem isAscii_hexDigits (width n : Nat) : IsAscii (hexDigits width n) := by
  have hdigit : ∀ k < 16, (hexDigit k).toNat < 0x80 := by decide
  induction width generalizing n with
  | zero => simp [hexDigits]
  | succ width ih => simp [hexDigits, ih, hdigit (n % 16) (Nat.mod_lt n (by decide))]

/-- The escape of a unit is ASCII. -/
@[simp] theorem isAscii_unitEscape (n : Nat) : IsAscii (unitEscape n) := by
  simp [unitEscape]

/-- A character is printed in ASCII. -/
@[simp] theorem isAscii_stringChar (c : Char) : IsAscii (stringChar c) := by
  have hvisible (h : 0x20 ≤ c.toNat ∧ c.toNat ≤ 0x7e) : c.toNat < 0x80 := by omega
  simp only [stringChar]
  split_ifs <;> simp [*]

/-- A string is printed in ASCII. -/
@[simp] theorem isAscii_printString (s : String) : IsAscii (printString s) := by
  have htext : IsAscii (s.toList.flatMap stringChar) := by
    induction s.toList with
    | nil => simp
    | cons c cs ih => simp [ih]
  simp [printString, htext]

/-- A numeral is ASCII. -/
@[simp] theorem isAscii_toDigits (n : Nat) : IsAscii (Nat.toDigits 10 n) := by
  intro c hc
  have hdigit : c.isDigit := Nat.isDigit_of_mem_toDigits (by decide) (by decide) hc
  have hnine : c.toNat ≤ '9'.toNat := (Char.isDigit_iff_toNat.mp hdigit).2
  exact hnine.trans_lt (by decide)

/-- A sign is printed in ASCII. -/
@[simp] theorem isAscii_sign (negative : Bool) : IsAscii (sign negative) := by
  cases negative <;> simp [sign]

/-- An integer is printed in ASCII. -/
theorem isAscii_toString (n : Int) : IsAscii (toString n).toList := by
  rw [toList_toString_int]
  simp

/-- A new line is ASCII. -/
@[simp] theorem isAscii_newLine (level : Nat) : IsAscii (newLine level) := by
  intro c hc
  rcases List.mem_cons.mp hc with rfl | hc
  · decide
  · rw [List.eq_of_mem_replicate hc]
    decide

mutual

/-- A value is printed in ASCII. -/
theorem isAscii_printAt (level : Nat) : (v : Value) → IsAscii (printAt level v)
  | .null => by simp [printAt]
  | .bool true => by simp [printAt]
  | .bool false => by simp [printAt]
  | .int n => isAscii_toString n
  | .decimal negative coefficient e => by
    change IsAscii (sign negative ++ (toString coefficient).toList ++ 'e' :: (toString e).toList)
    rw [isAscii_append, isAscii_append, toList_toString_nat, isAscii_cons]
    exact ⟨⟨isAscii_sign negative, isAscii_toDigits coefficient⟩, by decide, isAscii_toString e⟩
  | .string s => isAscii_printString s
  | .array [] => by simp [printAt]
  | .array (v :: vs) => by
    simp [printAt, isAscii_printAt (level + 1) v, isAscii_printItems (level + 1) vs]
  | .object [] => by simp [printAt]
  | .object ((name, v) :: ms) => by
    simp [printAt, isAscii_printAt (level + 1) v, isAscii_printMembers (level + 1) ms]

/-- The items of an array are printed in ASCII. -/
theorem isAscii_printItems (level : Nat) : (vs : List Value) → IsAscii (printItems level vs)
  | [] => isAscii_nil
  | v :: vs => by simp [printItems, isAscii_printAt level v, isAscii_printItems level vs]

/-- The members of an object are printed in ASCII. -/
theorem isAscii_printMembers (level : Nat) :
    (ms : List (String × Value)) → IsAscii (printMembers level ms)
  | [] => isAscii_nil
  | (name, v) :: ms => by
    simp [printMembers, isAscii_printAt level v, isAscii_printMembers level ms]

end

end Ascii

end Json

namespace Report

/-- A value that may be missing is told from its JSON form. -/
theorem optionalValue_inj {α : Type} {value : α → Json.Value} (hvalue : Function.Injective value)
    (hnull : ∀ a, value a ≠ .null) {a b : Option α}
    (h : optionalValue value a = optionalValue value b) : a = b := by
  cases a with
  | none =>
    cases b with
    | none => rfl
    | some b => exact (hnull b h.symm).elim
  | some a =>
    cases b with
    | none => exact (hnull a h).elim
    | some b => rw [hvalue h]

/-- A finding is told from its JSON form. -/
theorem findingValue_injective : Function.Injective findingValue := by
  intro f g h
  have hint : Function.Injective Json.Value.int := fun _ _ => Json.Value.int.inj
  have hstring : Function.Injective Json.Value.string := fun _ _ => Json.Value.string.inj
  simp only [findingValue, Json.Value.object.injEq, List.cons.injEq, Prod.mk.injEq, true_and,
    and_true, Json.Value.string.injEq] at h
  obtain ⟨hfile, hline, hrule, hmessage, hseverity, hsnippet⟩ := h
  have hline' : f.line = g.line := optionalValue_inj hint (by simp) hline
  have hsnippet' : f.snippet = g.snippet := optionalValue_inj hstring (by simp) hsnippet
  cases f
  cases g
  simp_all only

/-- A report is told from its JSON form. -/
theorem toJson_injective : Function.Injective toJson := by
  intro r r' h
  have hstring : Function.Injective Json.Value.string := fun _ _ => Json.Value.string.inj
  simp only [toJson, Json.Value.object.injEq, List.cons.injEq, Prod.mk.injEq, true_and, and_true,
    Json.Value.array.injEq, Json.Value.int.injEq] at h
  obtain ⟨-, herrors, hwarnings, hfiles, hmodules⟩ := h
  have herrors' : r.errors = r'.errors := List.map_injective_iff.mpr findingValue_injective herrors
  have hwarnings' : r.warnings = r'.warnings :=
    List.map_injective_iff.mpr findingValue_injective hwarnings
  have hmodules' : r.modules = r'.modules := List.map_injective_iff.mpr hstring hmodules
  cases r
  cases r'
  simp_all only

/-- The JSON text of a report is ASCII. It denotes one value, which is also what is read: whether
there are no errors, the errors and the warnings in order with all they hold, the number of files
and the modules in order. So reports that differ have different texts. -/
theorem asJson_lossless (r : Report) :
    Json.IsAscii r.asJson.toList ∧
      (∀ v, Json.IsText r.asJson.toList v ↔ v = r.toJson) ∧
      Json.read r.asJson = some (.object [("valid", .bool (decide (r.errors = []))),
        ("errors", .array (r.errors.map findingValue)),
        ("warnings", .array (r.warnings.map findingValue)),
        ("checked_files", .int r.checkedFiles), ("modules", .array (r.modules.map .string))]) ∧
      ∀ r' : Report, r'.asJson = r.asJson ↔ r' = r := by
  have htext : Json.IsText r.asJson.toList r.toJson := Json.isText_print r.toJson
  refine ⟨?_, ?_, ?_, ?_⟩
  · rw [asJson, Json.print, String.toList_ofList]
    exact Json.isAscii_printAt 0 r.toJson
  · intro v
    constructor
    · intro hv
      exact hv.unique htext
    · rintro rfl
      exact htext
  · have hvalid : decide (r.errors = []) = r.isValid := by
      rw [isValid]
      cases r.errors <;> rfl
    rw [hvalid]
    exact Json.read_print r.toJson
  · intro r'
    constructor
    · intro h
      exact toJson_injective (Json.print_injective h)
    · rintro rfl
      rfl

end Report

end ModuleLint
