import ModuleLint.Snippet

/-!
# Reading each file once

Findings get their snippets one after another, and a text that was read for one of them is used again
for those that follow. What is known is always what reading gives, so every finding gets the snippet
that it would get by itself.
-/

namespace ModuleLint.Snippet

/-- Texts are known as they would be read. -/
def Known.IsFaithful (read : String → Option String) (known : Known) : Prop :=
  ∀ file text, known.lookup file = some text → text = read file

variable {read : String → Option String} {known : Known}

/-- Where nothing is known, nothing is known wrongly. -/
theorem isFaithful_nil : Known.IsFaithful read [] := by
  intro file text h
  cases h

/-- The text of a file is what reading gives, whether it is known or not. -/
theorem readOnce_fst (h : known.IsFaithful read) (file : String) :
    (readOnce read known file).1 = read file := by
  unfold readOnce
  split
  next text hknown => exact h file text hknown
  next => rfl

/-- Texts stay known as they would be read when one more gets known. -/
theorem isFaithful_readOnce (h : known.IsFaithful read) (file : String) :
    (readOnce read known file).2.IsFaithful read := by
  unfold readOnce
  split
  next => exact h
  next =>
    intro file' text hknown
    rw [List.lookup_cons] at hknown
    split at hknown
    next heq =>
      obtain rfl := beq_iff_eq.mp heq
      exact (Option.some.inj hknown).symm
    next => exact h file' text hknown

/-- A finding gets the snippet that it would get by itself. -/
theorem attachNext_fst (h : known.IsFaithful read) (f : Finding) :
    (attachNext read known f).1 = attachTo read f := by
  unfold attachNext attachTo
  split
  next => simp only [readOnce_fst h]
  next => rfl

/-- Texts stay known as they would be read when a finding gets its snippet. -/
theorem isFaithful_attachNext (h : known.IsFaithful read) (f : Finding) :
    (attachNext read known f).2.IsFaithful read := by
  unfold attachNext
  split
  next => exact isFaithful_readOnce h f.file
  next => exact h

/-- Findings get the snippets that each would get by itself, whatever is known. -/
theorem attachFrom_eq_map (h : known.IsFaithful read) (findings : List Finding) :
    attachFrom read known findings = findings.map (attachTo read) := by
  induction findings generalizing known with
  | nil => rfl
  | cons f findings ih =>
    change (attachNext read known f).1 :: attachFrom read (attachNext read known f).2 findings = _
    rw [attachNext_fst h, ih (isFaithful_attachNext h f), List.map_cons]

/-- Findings get the snippets that each would get by itself. -/
theorem attach_eq_map (read : String → Option String) (findings : List Finding) :
    attach read findings = findings.map (attachTo read) :=
  attachFrom_eq_map isFaithful_nil findings

/-- A finding among those with snippets is one of those without that got its snippet. -/
theorem mem_attach {findings : List Finding} {g : Finding} :
    g ∈ attach read findings ↔ ∃ g' ∈ findings, attachTo read g' = g := by
  rw [attach_eq_map, List.mem_map]

end ModuleLint.Snippet
