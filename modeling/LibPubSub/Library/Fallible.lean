import Mathlib.Data.List.Basic

/-! Inversion of computations that may fail, the invariant rule for loops of such
computations, and postconditions that also bound the errors. -/

set_option autoImplicit false

namespace Fallible

variable {Error α β : Type}

theorem bind_eq_ok {computation : Except Error α} {next : α → Except Error β} {result : β} :
    computation >>= next = .ok result ↔
      ∃ value, computation = .ok value ∧ next value = .ok result := by
  cases computation with
  | error error => simp only [bind, Except.bind, reduceCtorEq, false_and, exists_false]
  | ok value => simp only [bind, Except.bind, Except.ok.injEq, exists_eq_left']

theorem bind_eq_error {computation : Except Error α} {next : α → Except Error β} {error : Error} :
    computation >>= next = .error error ↔
      computation = .error error ∨ ∃ value, computation = .ok value ∧ next value = .error error := by
  cases computation with
  | error other => simp only [bind, Except.bind, Except.error.injEq, reduceCtorEq, false_and,
      exists_false, or_false]
  | ok value => simp only [bind, Except.bind, reduceCtorEq, Except.ok.injEq, exists_eq_left',
      false_or]

theorem pure_eq_ok {value result : α} : (pure value : Except Error α) = .ok result ↔ value = result := by
  simp only [pure, Except.pure, Except.ok.injEq]

/-- A choice whose branches go on with `next` is the choice followed by `next`. -/
theorem ite_eq_ite_bind {condition : Prop} [Decidable condition] {yes no : Except Error β}
    {first second : Except Error α} {next : α → Except Error β}
    (holds : condition → yes = first >>= next) (fails : ¬condition → no = second >>= next) :
    (if condition then yes else no) = (if condition then first else second) >>= next := by
  by_cases met : condition
  · rw [if_pos met, if_pos met, holds met]
  · rw [if_neg met, if_neg met, fails met]

/-- What every successful round of a loop keeps, a successful loop keeps. -/
theorem foldlM_invariant {items : List α} {round : β → α → Except Error β} {start final : β}
    {invariant : β → Prop} (ran : items.foldlM round start = .ok final) (initial : invariant start)
    (preserved : ∀ state item next, item ∈ items → invariant state →
      round state item = .ok next → invariant next) : invariant final := by
  induction items generalizing start with
  | nil =>
      rw [List.foldlM_nil, pure_eq_ok] at ran
      exact ran ▸ initial
  | cons item items ih =>
      rw [List.foldlM_cons, bind_eq_ok] at ran
      obtain ⟨next, first, rest⟩ := ran
      have kept := preserved start item next List.mem_cons_self initial first
      exact ih rest kept fun state other next member =>
        preserved state other next (List.mem_cons_of_mem _ member)

/-- If every round succeeds in the states the invariant allows, the loop succeeds. -/
theorem foldlM_total {items : List α} {round : β → α → Except Error β} {start : β}
    {invariant : β → Prop} (initial : invariant start)
    (total : ∀ state item, item ∈ items → invariant state →
      ∃ next, round state item = .ok next ∧ invariant next) :
    ∃ final, items.foldlM round start = .ok final ∧ invariant final := by
  induction items generalizing start with
  | nil => exact ⟨start, rfl, initial⟩
  | cons item items ih =>
      obtain ⟨next, first, kept⟩ := total start item List.mem_cons_self initial
      obtain ⟨final, rest, reached⟩ := ih kept fun state other member =>
        total state other (List.mem_cons_of_mem _ member)
      refine ⟨final, ?_, reached⟩
      rw [List.foldlM_cons, bind_eq_ok]
      exact ⟨next, first, rest⟩

/-! ## Postconditions -/

/-- A result satisfies `good`, an error satisfies `tolerated`. -/
def Ensures (good : α → Prop) (tolerated : Error → Prop) : Except Error α → Prop
  | .ok value => good value
  | .error error => tolerated error

variable {good : α → Prop} {tolerated : Error → Prop}

theorem Ensures.of_cases {computation : Except Error α}
    (returns : ∀ value, computation = .ok value → good value)
    (fails : ∀ error, computation = .error error → tolerated error) :
    Ensures good tolerated computation := by
  cases computation with
  | error error => exact fails error rfl
  | ok value => exact returns value rfl

theorem Ensures.of_ok {computation : Except Error α} {value : α}
    (ensures : Ensures good tolerated computation) (ran : computation = .ok value) : good value := by
  subst ran
  exact ensures

theorem Ensures.of_error {computation : Except Error α} {error : Error}
    (ensures : Ensures good tolerated computation) (failed : computation = .error error) :
    tolerated error := by
  subst failed
  exact ensures

theorem Ensures.mono {other : α → Prop} {computation : Except Error α}
    (ensures : Ensures good tolerated computation) (weaker : ∀ value, good value → other value) :
    Ensures other tolerated computation := by
  cases computation with
  | error error => exact ensures
  | ok value => exact weaker value ensures

/-- The postcondition of a sequence is that of its second part. -/
theorem Ensures.bind {after : β → Prop} {computation : Except Error α}
    {next : α → Except Error β} (first : Ensures good tolerated computation)
    (second : ∀ value, good value → Ensures after tolerated (next value)) :
    Ensures after tolerated (computation >>= next) := by
  cases computation with
  | error error => exact first
  | ok value => exact second value first

theorem Ensures.foldlM {items : List α} {round : β → α → Except Error β} {start : β}
    {invariant : β → Prop} (initial : invariant start)
    (preserved : ∀ state item, item ∈ items → invariant state →
      Ensures invariant tolerated (round state item)) :
    Ensures invariant tolerated (items.foldlM round start) := by
  induction items generalizing start with
  | nil => exact initial
  | cons item items ih =>
      rw [List.foldlM_cons]
      refine (preserved start item List.mem_cons_self initial).bind fun next kept => ?_
      exact ih kept fun state other member => preserved state other (List.mem_cons_of_mem _ member)

end Fallible
