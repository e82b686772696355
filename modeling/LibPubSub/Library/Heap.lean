import Mathlib.Logic.Function.Basic

/-! Objects that are allocated one after the other and never move. A heap maps
every address to a cell and knows the first address that is still free, so a
program that keeps pointers in its data can be read as a program on addresses. -/

set_option autoImplicit false

/-- Cells by address. The addresses below `next` have been handed out. -/
structure Heap (α : Type) where
  cell : Nat → α
  next : Nat

namespace Heap

variable {α : Type}

instance : CoeFun (Heap α) (fun _ => Nat → α) := ⟨Heap.cell⟩

/-- No address has been handed out; every cell reads as `value`. -/
def empty (value : α) : Heap α := ⟨fun _ => value, 0⟩

/-- Store `value` at the first free address, which is `heap.next`. -/
def alloc (heap : Heap α) (value : α) : Heap α :=
  ⟨Function.update heap.cell heap.next value, heap.next + 1⟩

/-- Update the cell at `address` in place. -/
def modify (heap : Heap α) (address : Nat) (change : α → α) : Heap α :=
  ⟨Function.update heap.cell address (change (heap address)), heap.next⟩

@[simp] theorem empty_cell (value : α) (address : Nat) : (empty value) address = value := rfl

@[simp] theorem empty_next (value : α) : (empty value).next = 0 := rfl

@[simp] theorem alloc_next (heap : Heap α) (value : α) :
    (heap.alloc value).next = heap.next + 1 := rfl

@[simp] theorem modify_next (heap : Heap α) (address : Nat) (change : α → α) :
    (heap.modify address change).next = heap.next := rfl

theorem alloc_apply (heap : Heap α) (value : α) (address : Nat) :
    (heap.alloc value) address = if address = heap.next then value else heap address := by
  simp only [alloc, Function.update_apply]

theorem modify_apply (heap : Heap α) (address other : Nat) (change : α → α) :
    (heap.modify address change) other =
      if other = address then change (heap address) else heap other := by
  simp only [modify, Function.update_apply]

@[simp] theorem alloc_self (heap : Heap α) (value : α) :
    (heap.alloc value) heap.next = value := by
  simp only [alloc_apply, ↓reduceIte]

@[simp] theorem modify_self (heap : Heap α) (address : Nat) (change : α → α) :
    (heap.modify address change) address = change (heap address) := by
  simp only [modify_apply, ↓reduceIte]

theorem alloc_of_ne (heap : Heap α) (value : α) {address : Nat} (other : address ≠ heap.next) :
    (heap.alloc value) address = heap address := by
  simp only [alloc_apply, other, ↓reduceIte]

theorem alloc_of_lt (heap : Heap α) (value : α) {address : Nat} (old : address < heap.next) :
    (heap.alloc value) address = heap address :=
  heap.alloc_of_ne value (Nat.ne_of_lt old)

theorem modify_of_ne (heap : Heap α) {address other : Nat} (change : α → α)
    (different : other ≠ address) : (heap.modify address change) other = heap other := by
  simp only [modify_apply, different, ↓reduceIte]

end Heap
