import Mathlib.Data.List.Basic

/-! Replacing the occurrences of a list in another one, from left to right. -/

set_option autoImplicit false

namespace Substitution

variable {α : Type} {needle replacement items out out' : List α}

/-- No occurrence of `needle` begins before position `i` of `items`. -/
def NoneBefore (needle items : List α) (i : Nat) : Prop :=
  ∀ j < i, ¬ needle <+: items.drop j

/-- `out` is `items` with the occurrences of `needle` replaced that are found from left to
right, each behind the one before. Where they are endless there is no such `out`. -/
inductive Replaced (needle replacement : List α) : List α → List α → Prop where
  | rest {items : List α} (absent : ¬ needle <:+: items) : Replaced needle replacement items items
  | occurrence {before after out : List α}
      (first : NoneBefore needle (before ++ needle ++ after) before.length)
      (later : Replaced needle replacement after out) :
      Replaced needle replacement (before ++ needle ++ after) (before ++ replacement ++ out)

theorem NoneBefore.occurrence_le {before after : List α} {i : Nat}
    (first : NoneBefore needle (before ++ needle ++ after) i) : i ≤ before.length := by
  by_contra beyond
  apply first before.length (by omega)
  simp

/-- The first occurrence is where it is. -/
theorem NoneBefore.same {before after before' after' : List α}
    (same : before ++ needle ++ after = before' ++ needle ++ after')
    (first : NoneBefore needle (before ++ needle ++ after) before.length)
    (first' : NoneBefore needle (before' ++ needle ++ after') before'.length) :
    before = before' ∧ after = after' := by
  have lower := (same ▸ first).occurrence_le
  have upper := (same ▸ first').occurrence_le
  have length : before.length = before'.length := by omega
  obtain ⟨heads, after⟩ := List.append_inj same (by simp [length])
  exact ⟨(List.append_inj heads length).1, after⟩

theorem Replaced.unique (replaced : Replaced needle replacement items out)
    (replaced' : Replaced needle replacement items out') : out = out' := by
  induction replaced generalizing out' with
  | rest absent =>
      cases replaced' with
      | rest => rfl
      | occurrence => exact absurd (List.infix_append ..) absent
  | @occurrence before after out first later ih =>
      generalize whole : before ++ needle ++ after = items at first replaced'
      cases replaced' with
      | rest absent => exact absurd (whole ▸ List.infix_append ..) absent
      | occurrence first' later' =>
          obtain ⟨rfl, rfl⟩ := NoneBefore.same whole (whole.symm ▸ first) first'
          rw [ih later']

end Substitution
