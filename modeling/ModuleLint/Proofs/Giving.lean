import ModuleLint.TypeScript.Parser

/-!
# What parsers give

A condition on the values of a parser, on whatever text it is applied to. It is closed under all
that parsers are put together by, so that what a parser of the grammar gives is shown along its
definition: `bind` where a value is used, `skip` where something is only read, `orElse` where
there is a choice.
-/

namespace ModuleLint.TypeScript

open ModuleLint.Syntax

namespace Parser

variable {α β : Type} {Q R : α → Prop} {p q : Parser α}

/-- Every value that a parser gives, on whatever text, meets a condition. -/
def Gives (Q : α → Prop) (p : Parser α) : Prop :=
  ∀ input start a stop, p input start = some (a, stop) → Q a

namespace Gives

theorem mono (h : Gives Q p) (hQ : ∀ a, Q a → R a) : Gives R p :=
  fun input start a stop ha => hQ a (h input start a stop ha)

theorem pure {a : α} (h : Q a) : Gives Q (Pure.pure a) := by
  intro input start b stop hb
  cases hb
  exact h

theorem failure : Gives Q (Alternative.failure) := by
  intro input start a stop ha
  cases ha

theorem bind {S : β → Prop} {f : α → Parser β} (hp : Gives Q p)
    (hf : ∀ a, Q a → Gives S (f a)) : Gives S (p >>= f) := by
  intro input start b stop hb
  change (p input start).bind (fun r => f r.1 input r.2) = some (b, stop) at hb
  obtain ⟨⟨a, next⟩, ha, hb⟩ := Option.bind_eq_some_iff.mp hb
  exact hf a (hp input start a next ha) input next b stop hb

/-- What is read and not used does not matter. -/
theorem skip {S : β → Prop} {f : α → Parser β} (hf : ∀ a, Gives S (f a)) :
    Gives S (p >>= f) :=
  bind (Q := fun _ => True) (fun _ _ _ _ _ => trivial) fun a _ => hf a

theorem skipRight {S : β → Prop} {q : Parser β} (hq : Gives S q) : Gives S (p *> q) :=
  skip fun _ => hq

theorem map {S : β → Prop} {f : α → β} (hp : Gives Q p) (hf : ∀ a, Q a → S (f a)) :
    Gives S (f <$> p) :=
  bind hp fun a ha => pure (hf a ha)

theorem orElse (hp : Gives Q p) (hq : Gives Q q) : Gives Q (p <|> q) := by
  intro input start a stop ha
  change (p input start <|> q input start) = some (a, stop) at ha
  cases hpa : p input start with
  | none => exact hq input start a stop (by simpa [hpa] using ha)
  | some r => exact hp input start a stop (by simpa [hpa] using ha)

theorem opt (hp : Gives Q p) : Gives (fun a? => ∀ a ∈ a?, Q a) (optional p) := by
  refine orElse (map hp ?_) (pure ?_)
  · rintro a ha _ ⟨⟩
    exact ha
  · rintro _ ⟨⟩

theorem manyFrom (hp : Gives Q p) {done : List α} (hdone : ∀ a ∈ done, Q a) (fuel : Nat) :
    Gives (fun as => ∀ a ∈ as, Q a) (Parser.manyFrom p done fuel) := by
  have hreverse : ∀ a ∈ done.reverse, Q a := fun a ha => hdone a (List.mem_reverse.mp ha)
  induction fuel generalizing done with
  | zero => exact pure hreverse
  | succ fuel ih =>
    refine skip fun start => bind (opt hp) fun a? ha => ?_
    cases a? with
    | none => exact pure hreverse
    | some a =>
      have hcons : ∀ b ∈ a :: done, Q b := List.forall_mem_cons.mpr ⟨ha a rfl, hdone⟩
      refine skip fun here => ?_
      split
      · exact pure hreverse
      · exact ih hcons fun b hb => hcons b (List.mem_reverse.mp hb)

theorem many (hp : Gives Q p) : Gives (fun as => ∀ a ∈ as, Q a) (Parser.many p) :=
  skip fun _ => manyFrom hp (by simp) _

theorem separated {separator : Parser Unit} (hp : Gives Q p) :
    Gives (fun as => ∀ a ∈ as, Q a) (Parser.separated separator p) := by
  refine bind (opt hp) fun a? ha => ?_
  cases a? with
  | none => exact pure (by simp)
  | some a =>
    exact bind (many (skipRight hp)) fun as has => skip fun _ =>
      pure (List.forall_mem_cons.mpr ⟨ha a rfl, has⟩)

theorem between {opening closing : String} (hp : Gives Q p) :
    Gives Q (Parser.between opening closing p) :=
  skip fun _ => bind hp fun _ ha => skip fun _ => pure ha

end Gives

end Parser

end ModuleLint.TypeScript
