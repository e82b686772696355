import Mathlib.Data.List.Basic

/-! Numbered slots, each free or held by an owner. A new owner gets the lowest number
that is free. -/

set_option autoImplicit false

abbrev Slots (Owner : Type) := List (Option Owner)

namespace Slots

variable {Owner : Type}

/-- Who holds a number. The numbers behind the end of the list are free. -/
def owner (slots : Slots Owner) (number : Nat) : Option Owner :=
  slots[number]?.join

/-- The lowest free number. -/
def lowest (slots : Slots Owner) : Nat :=
  slots.findIdx Option.isNone

/-- Hand out the lowest free number. -/
def take (slots : Slots Owner) (owner : Owner) : Slots Owner :=
  if slots.lowest < slots.length then slots.set slots.lowest (some owner)
  else slots ++ [some owner]

def release (slots : Slots Owner) (number : Nat) : Slots Owner :=
  slots.set number none

theorem lowest_le (slots : Slots Owner) : slots.lowest ≤ slots.length :=
  List.findIdx_le_length

theorem owner_lowest (slots : Slots Owner) : slots.owner slots.lowest = none := by
  unfold owner
  by_cases inside : slots.lowest < slots.length
  · have free := List.findIdx_getElem (w := inside)
    rw [List.getElem?_eq_getElem inside]
    exact Option.isNone_iff_eq_none.mp free
  · rw [List.getElem?_eq_none (Nat.le_of_not_lt inside)]
    rfl

theorem owner_take (slots : Slots Owner) (owner : Owner) (number : Nat) :
    (slots.take owner).owner number =
      if number = slots.lowest then some owner else slots.owner number := by
  unfold take Slots.owner
  by_cases inside : slots.lowest < slots.length
  · rw [if_pos inside, List.getElem?_set]
    by_cases same : number = slots.lowest
    · simp only [same, ↓reduceIte, inside]
      rfl
    · simp only [same, Ne.symm same, ↓reduceIte]
  · have lowest : slots.lowest = slots.length :=
      Nat.le_antisymm slots.lowest_le (Nat.le_of_not_lt inside)
    rw [if_neg inside, lowest, List.getElem?_append]
    rcases Nat.lt_trichotomy number slots.length with less | rfl | greater
    · simp only [less, Nat.ne_of_lt less, ↓reduceIte]
    · simp only [Nat.lt_irrefl, ↓reduceIte, Nat.sub_self, List.getElem?_cons_zero]
      rfl
    · obtain ⟨more, distance⟩ : ∃ more, number - slots.length = more + 1 :=
        ⟨number - slots.length - 1, by omega⟩
      rw [if_neg (Nat.not_lt_of_gt greater), if_neg (Nat.ne_of_gt greater), distance,
        List.getElem?_eq_none (Nat.le_of_lt greater), List.getElem?_cons_succ,
        List.getElem?_nil]

theorem owner_release (slots : Slots Owner) (number other : Nat) :
    (slots.release number).owner other = if other = number then none else slots.owner other := by
  unfold release owner
  rw [List.getElem?_set]
  by_cases same : number = other
  · subst same
    simp only [↓reduceIte]
    by_cases inside : number < slots.length
    · rw [if_pos inside]
      rfl
    · rw [if_neg inside]
      rfl
  · simp only [same, Ne.symm same, ↓reduceIte]

end Slots
