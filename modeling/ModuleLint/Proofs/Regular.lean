import ModuleLint.Ignore.Regex

/-!
# Regular expressions that remember nothing

An expression made of sets of characters, sequences, alternatives and repetitions stands for texts,
whatever comes before and after them. The matcher tries the possibilities of such an expression one
by one, and it finds just the texts that the expression stands for: it leads to something behind the
expression if and only if one of the texts comes next and it leads to that from behind the text.
-/

namespace ModuleLint.Ignore

namespace Cursor

/-- The cursor behind a text that comes next, where `rest` is what the text leaves. -/
def behind (s : Cursor) (taken rest : List Char) : Cursor :=
  { s with before := taken.reverse ++ s.before, rest := rest }

variable (s : Cursor) (taken taken' rest rest' : List Char)

@[simp] theorem rest_behind : (s.behind taken rest).rest = rest := rfl

@[simp] theorem offset_behind : (s.behind taken rest).offset = s.offset + taken.length := by
  simp [behind, offset, Nat.add_comm]

@[simp] theorem behind_nil : s.behind [] s.rest = s := rfl

@[simp] theorem behind_behind :
    (s.behind taken rest).behind taken' rest' = s.behind (taken ++ taken') rest' := by
  simp [behind]

end Cursor

/-! ### Texts in a row -/

/-- Texts of a kind in a row, as many of them as may be. -/
def InRow (takes : List Char → Prop) (count : Nat → Prop) (text : List Char) : Prop :=
  ∃ parts : List (List Char), text = parts.flatten ∧ (∀ part ∈ parts, takes part) ∧
    count parts.length

section InRow

variable {takes : List Char → Prop} {text : List Char}

/-- No texts in a row are the empty text. -/
theorem inRow_zero_iff : InRow takes (· = 0) text ↔ text = [] := by
  constructor
  · rintro ⟨parts, rfl, -, hlength⟩
    rw [List.length_eq_zero_iff.mp hlength, List.flatten_nil]
  · rintro rfl
    exact ⟨[], rfl, by simp, rfl⟩

/-- The first of the texts in a row stands before the others. -/
theorem inRow_succ_iff (n : Nat) : InRow takes (· = n + 1) text ↔
    ∃ u v, text = u ++ v ∧ takes u ∧ InRow takes (· = n) v := by
  constructor
  · rintro ⟨parts, rfl, hparts, hlength⟩
    obtain ⟨part, parts, rfl⟩ := List.exists_cons_of_length_eq_add_one hlength
    obtain ⟨hpart, hparts⟩ := List.forall_mem_cons.mp hparts
    exact ⟨part, parts.flatten, rfl, hpart, parts, rfl, hparts, Nat.succ.inj hlength⟩
  · rintro ⟨part, _, rfl, hpart, parts, rfl, hparts, rfl⟩
    exact ⟨part :: parts, rfl, List.forall_mem_cons.mpr ⟨hpart, hparts⟩, rfl⟩

/-- A given number of texts in a row and others behind them are at least as many in a row. -/
theorem inRow_append_iff (least : Nat) (count : Nat → Prop) :
    InRow takes (fun n => least ≤ n ∧ count (n - least)) text ↔
      ∃ u v, text = u ++ v ∧ InRow takes (· = least) u ∧ InRow takes count v := by
  constructor
  · rintro ⟨parts, rfl, hparts, hleast, hcount⟩
    refine ⟨(parts.take least).flatten, (parts.drop least).flatten, ?_,
      ⟨_, rfl, fun part hpart => hparts part (List.mem_of_mem_take hpart),
        List.length_take_of_le hleast⟩,
      ⟨_, rfl, fun part hpart => hparts part (List.mem_of_mem_drop hpart), ?_⟩⟩
    · rw [← List.flatten_append, List.take_append_drop]
    · rwa [List.length_drop]
  · rintro ⟨_, _, rfl, ⟨first, rfl, hfirst, rfl⟩, ⟨others, rfl, hothers, hcount⟩⟩
    refine ⟨first ++ others, List.flatten_append.symm,
      List.forall_mem_append.mpr ⟨hfirst, hothers⟩, ?_⟩
    simpa using hcount

end InRow

namespace Matcher

/-- One of two possibilities leads somewhere just if one of them does. -/
theorem isSome_orElse (first second : Option Cursor) :
    (first <|> second).isSome = (first.isSome || second.isSome) := by
  simp

variable {body first second : Matcher} {takes takes' : List Char → Prop}

/-- A matcher accepts the texts of a kind if it leads to what comes after just from behind such a
text. -/
def Accepts (body : Matcher) (takes : List Char → Prop) : Prop :=
  ∀ s next, (body s next).isSome = true ↔ ∃ taken rest, s.rest = taken ++ rest ∧ takes taken ∧
    (next (s.behind taken rest)).isSome = true

/-- Where a matcher leads depends on what comes after only by where that leads. -/
theorem Accepts.congr (h : body.Accepts takes) {s : Cursor} {next next' : Cursor → Option Cursor}
    (hnext : ∀ s, (next s).isSome = (next' s).isSome) :
    (body s next).isSome = (body s next').isSome := by
  rw [Bool.eq_iff_iff, h, h]
  simp only [hnext]

/-- A kind of texts may be described in another way. -/
theorem Accepts.of_iff (h : body.Accepts takes) (hiff : ∀ text, takes' text ↔ takes text) :
    body.Accepts takes' := by
  have htakes : takes' = takes := funext fun text => propext (hiff text)
  rwa [htakes]

/-- To go on at once accepts the empty text. -/
theorem accepts_nothing : Accepts (fun s next => next s) (· = []) := by
  intro s next
  constructor
  · exact fun hnext => ⟨[], s.rest, rfl, rfl, hnext⟩
  · rintro ⟨_, rest, hrest, rfl, hnext⟩
    obtain rfl : s.rest = rest := hrest
    exact hnext

/-- Of two matchers in a row, the first accepts what comes next and the second what comes then. -/
theorem Accepts.andThen (hfirst : first.Accepts takes) (hsecond : second.Accepts takes') :
    Accepts (fun s next => first s fun s => second s next) fun text =>
      ∃ u v, text = u ++ v ∧ takes u ∧ takes' v := by
  intro s next
  rw [hfirst]
  constructor
  · rintro ⟨u, rest, hrest, hu, hsome⟩
    obtain ⟨v, rest', hrest', hv, hnext⟩ := (hsecond _ _).mp hsome
    obtain rfl : rest = v ++ rest' := hrest'
    exact ⟨u ++ v, rest', by rw [hrest, List.append_assoc], ⟨u, v, rfl, hu, hv⟩,
      by simpa using hnext⟩
  · rintro ⟨_, rest, hrest, ⟨u, v, rfl, hu, hv⟩, hnext⟩
    exact ⟨u, v ++ rest, by simpa using hrest, hu,
      (hsecond _ _).mpr ⟨v, rest, rfl, hv, by simpa using hnext⟩⟩

/-- A number of repetitions accepts as many texts in a row. -/
theorem Accepts.times (h : body.Accepts takes) (n : Nat) :
    (body.times n).Accepts (InRow takes (· = n)) := by
  induction n with
  | zero => exact accepts_nothing.of_iff fun _ => inRow_zero_iff
  | succ n ih => exact (h.andThen ih).of_iff fun _ => inRow_succ_iff n

/-- Where repetitions lead, what comes after leads there from behind texts in a row. -/
theorem Accepts.exists_of_greedily (h : body.Accepts takes) {fuel : Nat} {left : Option Nat}
    {s : Cursor} {next : Cursor → Option Cursor}
    (hsome : (body.greedily fuel left s next).isSome = true) :
    ∃ taken rest, s.rest = taken ++ rest ∧ InRow takes (fun n => ∀ m ∈ left, n ≤ m) taken ∧
      (next (s.behind taken rest)).isSome = true := by
  have hnone {s : Cursor} (hnext : (next s).isSome = true) (left : Option Nat) :
      ∃ taken rest, s.rest = taken ++ rest ∧ InRow takes (fun n => ∀ m ∈ left, n ≤ m) taken ∧
        (next (s.behind taken rest)).isSome = true :=
    ⟨[], s.rest, rfl, ⟨[], rfl, by simp, fun _ _ => Nat.zero_le _⟩, hnext⟩
  induction fuel generalizing left s with
  | zero => exact hnone hsome left
  | succ fuel ih =>
    rw [greedily] at hsome
    split at hsome
    · exact hnone hsome left
    next hleft =>
      rw [isSome_orElse, Bool.or_eq_true, h] at hsome
      obtain ⟨part, rest, hrest, hpart, hsome⟩ | hsome := hsome
      · split at hsome
        next hoffset =>
          obtain rfl : part = [] := by simpa using hoffset
          obtain rfl : s.rest = rest := hrest
          exact hnone hsome left
        next =>
          obtain ⟨_, rest', hrest', ⟨parts, rfl, hparts, hcount⟩, hnext⟩ := ih hsome
          obtain rfl : rest = parts.flatten ++ rest' := hrest'
          refine ⟨part ++ parts.flatten, rest', by rw [hrest, List.append_assoc],
            ⟨part :: parts, rfl, List.forall_mem_cons.mpr ⟨hpart, hparts⟩, fun m hm => ?_⟩,
            by simpa using hnext⟩
          obtain rfl := Option.mem_def.mp hm
          have hle := hcount (m - 1) rfl
          have hpos : m ≠ 0 := fun hzero => hleft (by rw [hzero])
          rw [List.length_cons]
          omega
      · exact hnone hsome left

/-- Behind texts in a row, none of which is empty, repetitions lead where what comes after does. -/
theorem Accepts.greedily_of_parts (h : body.Accepts takes) {next : Cursor → Option Cursor}
    {parts : List (List Char)} (hparts : ∀ part ∈ parts, takes part ∧ part ≠ []) :
    ∀ {fuel : Nat} {left : Option Nat} {s : Cursor} {rest : List Char},
      s.rest = parts.flatten ++ rest → s.rest.length < fuel → (∀ n ∈ left, parts.length ≤ n) →
      (next (s.behind parts.flatten rest)).isSome = true →
      (body.greedily fuel left s next).isSome = true := by
  induction parts with
  | nil =>
    intro fuel left s rest hrest hfuel _ hnext
    obtain ⟨fuel, rfl⟩ := Nat.exists_eq_add_one_of_ne_zero (Nat.ne_zero_of_lt hfuel)
    obtain rfl : s.rest = rest := hrest
    have hnext : (next s).isSome = true := hnext
    rw [greedily]
    split
    · exact hnext
    · rw [isSome_orElse, hnext, Bool.or_true]
  | cons part parts ih =>
    intro fuel left s rest hrest hfuel hcount hnext
    obtain ⟨fuel, rfl⟩ := Nat.exists_eq_add_one_of_ne_zero (Nat.ne_zero_of_lt hfuel)
    obtain ⟨⟨htakes, hne⟩, hparts⟩ := List.forall_mem_cons.mp hparts
    have hpos : 0 < part.length := List.length_pos_iff.mpr hne
    have hleft : left ≠ some 0 := by
      rintro rfl
      exact absurd (hcount 0 rfl) (by simp)
    rw [greedily, if_neg hleft, isSome_orElse, Bool.or_eq_true, h]
    refine .inl ⟨part, parts.flatten ++ rest, by simpa using hrest, htakes, ?_⟩
    rw [if_neg (by simpa using hne)]
    refine ih hparts rfl ?_ (fun n hn => ?_) (by simpa using hnext)
    · simp only [hrest, List.flatten_cons, List.length_append] at hfuel
      rw [Cursor.rest_behind, List.length_append]
      omega
    · obtain ⟨m, hm, rfl⟩ := Option.map_eq_some_iff.mp hn
      have hle := hcount m hm
      rw [List.length_cons] at hle
      omega

/-- Repetitions accept texts in a row, at most so many. Those of the texts that are empty add nothing,
and the matcher does not look for them. -/
theorem accepts_greedily (h : body.Accepts takes) (left : Option Nat) :
    Accepts (fun s next => body.greedily (s.rest.length + 1) left s next)
      (InRow takes fun n => ∀ m ∈ left, n ≤ m) := by
  intro s next
  refine ⟨h.exists_of_greedily, ?_⟩
  rintro ⟨_, rest, hrest, ⟨parts, rfl, hparts, hcount⟩, hnext⟩
  let solid := parts.filter fun part => part ≠ []
  have hsolid : solid.flatten = parts.flatten := List.flatten_filter_ne_nil
  rw [← hsolid] at hrest hnext
  refine h.greedily_of_parts (fun part hpart => ?_) hrest (Nat.lt_succ_self _) (fun n hn => ?_) hnext
  · obtain ⟨hmem, hne⟩ := List.mem_filter.mp hpart
    exact ⟨hparts part hmem, by simpa using hne⟩
  · exact Nat.le_trans (List.length_filter_le _ _) (hcount n hn)

/-- Repetitions in either order lead to the same, but for which possibility comes first. -/
theorem Accepts.isSome_lazily (h : body.Accepts takes) (fuel : Nat) (left : Option Nat)
    (s : Cursor) (next : Cursor → Option Cursor) :
    (body.lazily fuel left s next).isSome = (body.greedily fuel left s next).isSome := by
  induction fuel generalizing left s with
  | zero => rfl
  | succ fuel ih =>
    rw [lazily, greedily, isSome_orElse]
    split
    · rw [Option.isSome_none, Bool.or_false]
    · rw [isSome_orElse, Bool.or_comm]
      congr 1
      refine h.congr fun s' => ?_
      split
      · rfl
      · exact ih _ _

/-- Repetitions accept texts in a row, as many as there may be. -/
theorem Accepts.repeated (h : body.Accepts takes) {greed : Greed} {least : Nat}
    {most : Option Nat} (hgreed : greed ≠ .possessive) (hbounds : ∀ m ∈ most, least ≤ m) :
    (Matcher.repeated greed least most body).Accepts
      (InRow takes fun n => least ≤ n ∧ ∀ m ∈ most, n ≤ m) := by
  have hcount (n : Nat) : (least ≤ n ∧ ∀ m ∈ most, n ≤ m) ↔
      least ≤ n ∧ ∀ m ∈ most.map (· - least), n - least ≤ m := by
    cases most with
    | none => simp
    | some m =>
      have hle : least ≤ m := hbounds m rfl
      simp only [Option.mem_def, Option.some.injEq, Option.map_some, forall_eq']
      omega
  have hgreedy : (Matcher.repeated .greedy least most body).Accepts
      (InRow takes fun n => least ≤ n ∧ ∀ m ∈ most, n ≤ m) := by
    simp only [hcount]
    exact ((h.times least).andThen (accepts_greedily h (most.map (· - least)))).of_iff fun _ =>
      inRow_append_iff least fun n => ∀ m ∈ most.map (· - least), n ≤ m
  cases greed with
  | greedy => exact hgreedy
  | lazy =>
    intro s next
    rw [← hgreedy]
    exact Bool.eq_iff_iff.mp ((h.times least).congr fun s => h.isSome_lazily _ _ s next)
  | possessive => exact (hgreed rfl).elim

end Matcher

namespace Regex

/-- An expression remembers nothing: it is made of sets, sequences, alternatives, and repetitions
that are tried in any number. -/
def IsRegular : Regex → Prop
  | nothing | one _ _ => True
  | andThen first second | either first second => first.IsRegular ∧ second.IsRegular
  | repeated greed least most body =>
    greed ≠ .possessive ∧ (∀ n ∈ most, least ≤ n) ∧ body.IsRegular
  | _ => False

/-- An expression that remembers nothing stands for a text. -/
def Takes : Regex → List Char → Prop
  | nothing, text => text = []
  | one a m, text => ∃ c, text = [c] ∧ a.holds c m = true
  | andThen first second, text => ∃ u v, text = u ++ v ∧ first.Takes u ∧ second.Takes v
  | either first second, text => first.Takes text ∨ second.Takes text
  | repeated _ least most body, text =>
    InRow body.Takes (fun n => least ≤ n ∧ ∀ m ∈ most, n ≤ m) text
  | _, _ => False

/-- One character of a set is accepted if it comes next. -/
theorem accepts_one (a : Atom) (m : Mode) : (one a m).run.Accepts (one a m).Takes := by
  intro s next
  obtain ⟨before, rest, marks⟩ := s
  cases rest with
  | nil => simp [run, Takes]
  | cons c cs =>
    constructor
    · intro hsome
      simp only [run] at hsome
      split at hsome
      next hc => exact ⟨[c], cs, rfl, ⟨c, rfl, hc⟩, hsome⟩
      next => cases hsome
    · rintro ⟨_, rest, hrest, ⟨d, rfl, hd⟩, hnext⟩
      obtain ⟨rfl, rfl⟩ := List.cons.inj hrest
      simp only [run, if_pos hd]
      exact hnext

/-- The matcher of an expression that remembers nothing accepts the texts that it stands for. -/
theorem accepts_run {r : Regex} (hr : r.IsRegular) : r.run.Accepts r.Takes := by
  induction r with
  | nothing => exact Matcher.accepts_nothing
  | one a m => exact accepts_one a m
  | andThen first second ihfirst ihsecond => exact (ihfirst hr.1).andThen (ihsecond hr.2)
  | either first second ihfirst ihsecond =>
    intro s next
    rw [run, Matcher.isSome_orElse, Bool.or_eq_true, ihfirst hr.1, ihsecond hr.2]
    simp only [Takes, or_and_right, and_or_left, exists_or]
  | repeated greed least most body ih => exact (ih hr.2.2).repeated hr.1 hr.2.1
  | _ => exact hr.elim

/-- An expression that remembers nothing matches just the texts that it stands for. -/
theorem fullMatch_iff_takes {r : Regex} (hr : r.IsRegular) (text : List Char) :
    r.fullMatch text = true ↔ r.Takes text := by
  rw [fullMatch, accepts_run hr]
  constructor
  · rintro ⟨taken, rest, hrest, htaken, hend⟩
    obtain rfl : rest = [] := by
      cases rest with
      | nil => rfl
      | cons => simp at hend
    obtain rfl : text = taken := by simpa using hrest
    exact htaken
  · exact fun htext => ⟨text, [], by simp, htext, rfl⟩

end Regex

end ModuleLint.Ignore
