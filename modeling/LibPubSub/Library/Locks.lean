import Mathlib.Algebra.BigOperators.Group.Finset.Basic
import Mathlib.Algebra.Order.BigOperators.Group.Finset
import Mathlib.Data.Fintype.Basic
import Mathlib.Order.WellFounded
import LibPubSub.Library.Runs

/-! Threads that run code with locks in brackets, some of which may be taken again by the
thread that has them. Code may throw, and an exception leaves locks behind. Where locks are
taken in an order, nobody waits forever unless a lock has been left behind. -/

set_option autoImplicit false

namespace Locks

open Transition

variable {L T R : Type}

/-- What a function does with the locks. -/
inductive Code (L : Type) where
  /-- Nothing. -/
  | plain
  /-- It may throw. -/
  | attempt
  | seq (first second : Code L)
  | either (left right : Code L)
  /-- `lock(); body; unlock();` -/
  | locked (lock : L) (body : Code L)
  deriving DecidableEq

/-- What a thread has still to do. -/
inductive Frame (L : Type) where
  | run (code : Code L)
  | unlock (lock : L)
  deriving DecidableEq

/-- The owner of a lock comes with the number of times that it has taken it again. -/
structure State (L T : Type) where
  stack : T → List (Frame L)
  owner : L → Option (T × Nat)

/-- Nobody does anything. -/
def idle : State L T where
  stack _ := []
  owner _ := none

/-- In a step `choice` says which branch is taken, and whether an attempt throws. -/
inductive Event (L T : Type) where
  | call (t : T) (code : Code L)
  | step (t : T) (choice : Bool)

def Event.thread : Event L T → T
  | .call t _ | .step t _ => t

/-- The locks that a thread is going to unlock. -/
def held : List (Frame L) → List L
  | [] => []
  | .run _ :: rest => held rest
  | .unlock l :: rest => l :: held rest

section

variable [DecidableEq L] [DecidableEq T]

def State.goto (s : State L T) (t : T) (stack : List (Frame L)) : State L T :=
  { s with stack := Function.update s.stack t stack }

def State.setOwner (s : State L T) (l : L) (owner : Option (T × Nat)) : State L T :=
  { s with owner := Function.update s.owner l owner }

/-- The owner behind `lock()`; `none` where the thread has to wait. -/
def acquire (recursive : L → Bool) (t : T) (l : L) : Option (T × Nat) → Option (T × Nat)
  | none => some (t, 0)
  | some (u, n) => if u = t ∧ recursive l = true then some (t, n + 1) else none

/-- The owner behind `unlock()`. -/
def release : Option (T × Nat) → Option (T × Nat)
  | some (t, n + 1) => some (t, n)
  | _ => none

/-- One step of a thread; `none` where it cannot be taken. -/
def react (recursive : L → Bool) (s : State L T) : Event L T → Option (State L T)
  | .call t code =>
      match s.stack t with
      | [] => some (s.goto t [.run code])
      | _ => none
  | .step t choice =>
      match s.stack t with
      | [] => none
      | .run .plain :: rest => some (s.goto t rest)
      | .run .attempt :: rest => some (s.goto t (if choice then [] else rest))
      | .run (.seq first second) :: rest => some (s.goto t (.run first :: .run second :: rest))
      | .run (.either left right) :: rest =>
          some (s.goto t (.run (if choice then left else right) :: rest))
      | .run (.locked l body) :: rest =>
          (acquire recursive t l (s.owner l)).map fun owner =>
            (s.goto t (.run body :: .unlock l :: rest)).setOwner l (some owner)
      | .unlock l :: rest => some ((s.goto t rest).setOwner l (release (s.owner l)))

def Step (recursive : L → Bool) (s : State L T) (event : Event L T) (s' : State L T) : Prop :=
  react recursive s event = some s'

end

/-! ## An order of the locks -/

/-- Which locks may be taken again, in which order they are taken, and which ones an exception
may leave behind. -/
structure Discipline (L R : Type) where
  recursive : L → Bool
  rank : L → R
  leaks : L → Bool

section

variable [Preorder R] (d : Discipline L R)

/-- Under these locks the code takes locks that are above them, or that it may take again. -/
def Code.Ordered : List L → Code L → Prop
  | _, .plain => True
  | held, .attempt => ∀ l ∈ held, d.leaks l = true
  | held, .seq first second => first.Ordered held ∧ second.Ordered held
  | held, .either left right => left.Ordered held ∧ right.Ordered held
  | held, .locked l body =>
      ((d.recursive l = true ∧ l ∈ held) ∨ ∀ h ∈ held, d.rank h < d.rank l) ∧
        body.Ordered (l :: held)

def Ordered : List (Frame L) → Prop
  | [] => True
  | .run code :: rest => code.Ordered d (held rest) ∧ Ordered rest
  | .unlock _ :: rest => Ordered rest

variable [DecidableEq L]

/-- The invariant. A lock belongs to the thread that is going to unlock it. -/
structure Kept (s : State L T) : Prop where
  ordered : ∀ t, Ordered d (s.stack t)
  owner : ∀ t, ∀ l ∈ held (s.stack t), ∃ n, s.owner l = some (t, n)
  counted : ∀ l t n, s.owner l = some (t, n) → (held (s.stack t)).count l ≤ n + 1
  left : ∀ l t n, s.owner l = some (t, n) → (held (s.stack t)).count l ≤ n → d.leaks l = true

end

section

variable [DecidableEq L]

/-- Thread `t` has lock `l` and is not going to unlock it. -/
def Abandoned (s : State L T) (l : L) (t : T) : Prop :=
  ∃ n, s.owner l = some (t, n) ∧ (held (s.stack t)).count l ≤ n

/-- No lock has been left behind. -/
def Clean (s : State L T) : Prop :=
  ∀ l t, ¬ Abandoned s l t

end

/-- The step throws an exception that leaves a lock behind. -/
def Leaves (s : State L T) : Event L T → Prop
  | .call _ _ => False
  | .step t choice =>
      choice = true ∧ ∃ rest, s.stack t = .run .attempt :: rest ∧ held rest ≠ []

/-! ## What a step does -/

section

variable [DecidableEq T] {t u : T}

@[simp] theorem goto_stack_self (s : State L T) (t : T) (stack : List (Frame L)) :
    (s.goto t stack).stack t = stack :=
  Function.update_self ..

theorem goto_stack_of_ne (s : State L T) (stack : List (Frame L)) (other : u ≠ t) :
    (s.goto t stack).stack u = s.stack u :=
  Function.update_of_ne other ..

@[simp] theorem goto_owner (s : State L T) (t : T) (stack : List (Frame L)) :
    (s.goto t stack).owner = s.owner := rfl

/-- A lock that is taken was free, or its owner takes it again. -/
theorem acquire_eq_some {recursive : L → Bool} {l : L} {owner : Option (T × Nat)} {taken : T × Nat}
    (acquired : acquire recursive t l owner = some taken) :
    (owner = none ∧ taken = (t, 0)) ∨
      ∃ n, owner = some (t, n) ∧ recursive l = true ∧ taken = (t, n + 1) := by
  unfold acquire at acquired
  split at acquired
  · exact .inl ⟨rfl, (Option.some.inj acquired).symm⟩
  · next u n =>
    split at acquired
    · next both =>
      obtain ⟨rfl, again⟩ := both
      exact .inr ⟨n, rfl, again, (Option.some.inj acquired).symm⟩
    · cases acquired

end

section

variable [DecidableEq L] {l : L}

@[simp] theorem setOwner_stack (s : State L T) (l : L) (owner : Option (T × Nat)) :
    (s.setOwner l owner).stack = s.stack := rfl

@[simp] theorem setOwner_owner_self (s : State L T) (l : L) (owner : Option (T × Nat)) :
    (s.setOwner l owner).owner l = owner :=
  Function.update_self ..

theorem setOwner_owner_of_ne (s : State L T) (owner : Option (T × Nat)) {k : L} (other : k ≠ l) :
    (s.setOwner l owner).owner k = s.owner k :=
  Function.update_of_ne other ..

end

theorem not_leaves_of_top {s : State L T} {t : T} {choice : Bool} {frame : Frame L}
    {rest : List (Frame L)} (top : s.stack t = frame :: rest) (other : frame ≠ .run .attempt) :
    ¬ Leaves s (.step t choice) := by
  rintro ⟨_, rest', isAttempt, _⟩
  rw [top] at isAttempt
  exact other (List.cons.inj isAttempt).1

section

variable [DecidableEq L] [DecidableEq T] [Preorder R] {d : Discipline L R} {s s' : State L T}
  {event : Event L T} {t u : T} {l : L}

/-- The four things that a step can do. -/
inductive Effect (d : Discipline L R) (s : State L T) (event : Event L T) (s' : State L T) : Prop where
  | moved (t : T) (stack : List (Frame L)) (next : s' = s.goto t stack)
      (same : held stack = held (s.stack t)) (ordered : Ordered d stack) (quiet : ¬ Leaves s event)
  | locked (t : T) (l : L) (body : Code L) (rest : List (Frame L)) (owner : T × Nat)
      (top : s.stack t = .run (.locked l body) :: rest)
      (acquired : acquire d.recursive t l (s.owner l) = some owner)
      (next : s' = (s.goto t (.run body :: .unlock l :: rest)).setOwner l (some owner))
      (quiet : ¬ Leaves s event)
  | unlocked (t : T) (l : L) (rest : List (Frame L)) (top : s.stack t = .unlock l :: rest)
      (next : s' = (s.goto t rest).setOwner l (release (s.owner l))) (quiet : ¬ Leaves s event)
  | thrown (t : T) (rest : List (Frame L)) (top : s.stack t = .run .attempt :: rest)
      (next : s' = s.goto t []) (isLeaving : Leaves s event) (leaves : held rest ≠ [])

theorem Kept.effect (kept : Kept d s)
    (calls : ∀ t code, event = .call t code → code.Ordered d [])
    (step : Step d.recursive s event s') : Effect d s event s' := by
  unfold Step at step
  cases event with
  | call t code =>
      simp only [react] at step
      split at step
      · next isIdle =>
        refine .moved t [.run code] (Option.some.inj step).symm ?_ ⟨calls t code rfl, trivial⟩ id
        rw [isIdle]
        rfl
      · cases step
  | step t choice =>
      have ordered := kept.ordered t
      simp only [react] at step
      split at step
      · cases step
      · next rest top =>
        rw [top] at ordered
        refine .moved t rest (Option.some.inj step).symm ?_ ordered.2 (not_leaves_of_top top nofun)
        rw [top]
        rfl
      · next rest top =>
        rw [top] at ordered
        cases choice with
        | true =>
            by_cases leaves : held rest = []
            · refine .moved t [] (Option.some.inj step).symm ?_ trivial ?_
              · rw [top]
                exact leaves.symm
              · rintro ⟨_, rest', isTop, nonempty⟩
                rw [top] at isTop
                exact nonempty ((List.cons.inj isTop).2 ▸ leaves)
            · exact .thrown t rest top (Option.some.inj step).symm ⟨rfl, rest, top, leaves⟩ leaves
        | false =>
            refine .moved t rest (Option.some.inj step).symm ?_ ordered.2 ?_
            · rw [top]
              rfl
            · rintro ⟨throws, _⟩
              cases throws
      · next first second rest top =>
        rw [top] at ordered
        refine .moved t (.run first :: .run second :: rest) (Option.some.inj step).symm ?_
          ⟨ordered.1.1, ordered.1.2, ordered.2⟩ (not_leaves_of_top top nofun)
        rw [top]
        rfl
      · next left right rest top =>
        rw [top] at ordered
        refine .moved t (.run (if choice then left else right) :: rest)
          (Option.some.inj step).symm ?_ ⟨?_, ordered.2⟩ (not_leaves_of_top top nofun)
        · rw [top]
          rfl
        · cases choice
          · exact ordered.1.2
          · exact ordered.1.1
      · next l body rest top =>
        obtain ⟨owner, acquired, next⟩ := Option.map_eq_some_iff.mp step
        exact .locked t l body rest owner top acquired next.symm (not_leaves_of_top top nofun)
      · next l rest top =>
        exact .unlocked t l rest top (Option.some.inj step).symm (not_leaves_of_top top nofun)

/-! ## What every run keeps -/

omit [DecidableEq T] in
theorem kept_idle (d : Discipline L R) : Kept d (idle : State L T) where
  ordered _ := trivial
  owner _ _ member := nomatch member
  counted _ _ _ owned := nomatch owned
  left _ _ _ owned := nomatch owned

omit [Preorder R] [DecidableEq T] in
theorem clean_idle : Clean (idle : State L T) := by
  rintro l t ⟨n, isOwner, _⟩
  cases isOwner

/-- Only the stack of `t` and the owner of `l` change. -/
theorem Kept.change {stack : List (Frame L)} {owner : Option (T × Nat)} (kept : Kept d s)
    (ordered : Ordered d stack)
    (beside : ∀ k, k ≠ l → (held stack).count k = (held (s.stack t)).count k)
    (others : ∀ u n, u ≠ t → s.owner l ≠ some (u, n))
    (owned : l ∈ held stack → ∃ n, owner = some (t, n))
    (counted : ∀ u n, owner = some (u, n) → u = t ∧ (held stack).count l ≤ n + 1)
    (left : ∀ u n, owner = some (u, n) → (held stack).count l ≤ n → d.leaks l = true) :
    Kept d ((s.goto t stack).setOwner l owner) := by
  have notMine : ∀ u, u ≠ t → l ∉ held (s.stack u) := by
    intro u other member
    obtain ⟨n, isOwner⟩ := kept.owner u l member
    exact others u n other isOwner
  have counts : ∀ u k, k ≠ l →
      (held ((s.goto t stack).stack u)).count k = (held (s.stack u)).count k := by
    intro u k other
    by_cases isT : u = t
    · subst isT
      rw [goto_stack_self]
      exact beside k other
    · rw [goto_stack_of_ne s stack isT]
  constructor
  · intro u
    by_cases isT : u = t
    · subst isT
      rw [setOwner_stack, goto_stack_self]
      exact ordered
    · rw [setOwner_stack, goto_stack_of_ne s stack isT]
      exact kept.ordered u
  · intro u k member
    by_cases isL : k = l
    · subst isL
      rw [setOwner_owner_self]
      by_cases isT : u = t
      · subst isT
        rw [setOwner_stack, goto_stack_self] at member
        exact owned member
      · rw [setOwner_stack, goto_stack_of_ne s stack isT] at member
        exact absurd member (notMine u isT)
    · rw [setOwner_owner_of_ne _ _ isL]
      rw [setOwner_stack, ← List.count_pos_iff, counts u k isL, List.count_pos_iff] at member
      exact kept.owner u k member
  · intro k u n isOwner
    by_cases isL : k = l
    · subst isL
      rw [setOwner_owner_self] at isOwner
      obtain ⟨rfl, most⟩ := counted u n isOwner
      rw [setOwner_stack, goto_stack_self]
      exact most
    · rw [setOwner_owner_of_ne _ _ isL] at isOwner
      rw [setOwner_stack, counts u k isL]
      exact kept.counted k u n isOwner
  · intro k u n isOwner few
    by_cases isL : k = l
    · subst isL
      rw [setOwner_owner_self] at isOwner
      obtain ⟨rfl, _⟩ := counted u n isOwner
      rw [setOwner_stack, goto_stack_self] at few
      exact left u n isOwner few
    · rw [setOwner_owner_of_ne _ _ isL] at isOwner
      rw [setOwner_stack, counts u k isL] at few
      exact kept.left k u n isOwner few

/-- A thread goes on and keeps its locks. -/
theorem Kept.goto {stack : List (Frame L)} (kept : Kept d s)
    (same : held stack = held (s.stack t)) (ordered : Ordered d stack) :
    Kept d (s.goto t stack) := by
  have holds : ∀ u, held ((s.goto t stack).stack u) = held (s.stack u) := by
    intro u
    by_cases isT : u = t
    · subst isT
      rw [goto_stack_self, same]
    · rw [goto_stack_of_ne s stack isT]
  constructor
  · intro u
    by_cases isT : u = t
    · subst isT
      rw [goto_stack_self]
      exact ordered
    · rw [goto_stack_of_ne s stack isT]
      exact kept.ordered u
  · intro u l member
    rw [holds] at member
    exact kept.owner u l member
  · intro l u n owned
    rw [holds]
    exact kept.counted l u n owned
  · intro l u n owned few
    rw [holds] at few
    exact kept.left l u n owned few

theorem Kept.locked {body : Code L} {rest : List (Frame L)} {owner : T × Nat} (kept : Kept d s)
    (top : s.stack t = .run (.locked l body) :: rest)
    (acquired : acquire d.recursive t l (s.owner l) = some owner) :
    Kept d ((s.goto t (.run body :: .unlock l :: rest)).setOwner l (some owner)) := by
  have ordered := kept.ordered t
  have holds : held (s.stack t) = held rest := by
    rw [top]
    rfl
  rw [top] at ordered
  have counts : (held (.run body :: .unlock l :: rest)).count l = (held rest).count l + 1 :=
    List.count_cons_self
  apply kept.change
  · exact ⟨ordered.1.2, ordered.2⟩
  · intro k other
    rw [holds]
    exact List.count_cons_of_ne (Ne.symm other)
  · intro u n other isOwner
    rcases acquire_eq_some acquired with ⟨free, _⟩ | ⟨m, mine, _⟩
    · rw [free] at isOwner
      cases isOwner
    · rw [mine] at isOwner
      exact other (congrArg Prod.fst (Option.some.inj isOwner)).symm
  · rcases acquire_eq_some acquired with ⟨_, rfl⟩ | ⟨m, _, _, rfl⟩
    · exact fun _ => ⟨0, rfl⟩
    · exact fun _ => ⟨m + 1, rfl⟩
  · intro u n isOwner
    rw [counts]
    rcases acquire_eq_some acquired with ⟨free, rfl⟩ | ⟨m, mine, _, rfl⟩
    · obtain ⟨rfl, rfl⟩ := Prod.mk.inj (Option.some.inj isOwner)
      refine ⟨rfl, Nat.succ_le_succ (Nat.le_of_eq (List.count_eq_zero.mpr fun member => ?_))⟩
      obtain ⟨m, isMine⟩ := kept.owner _ l (holds ▸ member)
      rw [free] at isMine
      cases isMine
    · obtain ⟨rfl, rfl⟩ := Prod.mk.inj (Option.some.inj isOwner)
      have most := kept.counted l _ m mine
      rw [holds] at most
      exact ⟨rfl, Nat.succ_le_succ most⟩
  · intro u n isOwner few
    rw [counts] at few
    rcases acquire_eq_some acquired with ⟨_, rfl⟩ | ⟨m, mine, _, rfl⟩
    · obtain ⟨rfl, rfl⟩ := Prod.mk.inj (Option.some.inj isOwner)
      exact absurd few (Nat.not_succ_le_zero _)
    · obtain ⟨rfl, rfl⟩ := Prod.mk.inj (Option.some.inj isOwner)
      apply kept.left l _ m mine
      rw [holds]
      exact Nat.le_of_succ_le_succ few

theorem Kept.unlocked {rest : List (Frame L)} (kept : Kept d s)
    (top : s.stack t = .unlock l :: rest) :
    Kept d ((s.goto t rest).setOwner l (release (s.owner l))) := by
  have ordered := kept.ordered t
  have holds : held (s.stack t) = l :: held rest := by
    rw [top]
    rfl
  rw [top] at ordered
  obtain ⟨m, mine⟩ := kept.owner t l (holds ▸ List.mem_cons_self)
  have most := kept.counted l t m mine
  have few := kept.left l t m mine
  rw [holds, List.count_cons_self] at most few
  have released : ∀ u n, release (s.owner l) = some (u, n) → u = t ∧ m = n + 1 := by
    intro u n isOwner
    rw [mine] at isOwner
    cases m with
    | zero => cases isOwner
    | succ m =>
        obtain ⟨rfl, rfl⟩ := Prod.mk.inj (Option.some.inj isOwner)
        exact ⟨rfl, rfl⟩
  apply kept.change
  · exact ordered
  · intro k other
    rw [holds]
    exact (List.count_cons_of_ne (Ne.symm other)).symm
  · intro u n other isOwner
    rw [mine] at isOwner
    exact other (congrArg Prod.fst (Option.some.inj isOwner)).symm
  · intro member
    have positive := List.count_pos_iff.mpr member
    cases m with
    | zero => omega
    | succ m => exact ⟨m, by rw [mine]; rfl⟩
  · intro u n isOwner
    obtain ⟨rfl, rfl⟩ := released u n isOwner
    exact ⟨rfl, by omega⟩
  · intro u n isOwner fewer
    obtain ⟨rfl, rfl⟩ := released u n isOwner
    exact few (by omega)

/-- An exception leaves behind only what it may. -/
theorem Kept.thrown {rest : List (Frame L)} (kept : Kept d s)
    (top : s.stack t = .run .attempt :: rest) : Kept d (s.goto t []) := by
  have ordered := kept.ordered t
  have holds : held (s.stack t) = held rest := by
    rw [top]
    rfl
  rw [top] at ordered
  constructor
  · intro u
    by_cases isT : u = t
    · subst isT
      rw [goto_stack_self]
      trivial
    · rw [goto_stack_of_ne s [] isT]
      exact kept.ordered u
  · intro u l member
    by_cases isT : u = t
    · subst isT
      rw [goto_stack_self] at member
      cases member
    · rw [goto_stack_of_ne s [] isT] at member
      exact kept.owner u l member
  · intro l u n owned
    by_cases isT : u = t
    · subst isT
      rw [goto_stack_self]
      exact Nat.zero_le _
    · rw [goto_stack_of_ne s [] isT]
      exact kept.counted l u n owned
  · intro l u n owned few
    by_cases isT : u = t
    · subst isT
      by_cases mine : l ∈ held rest
      · exact ordered.1 l mine
      · apply kept.left l u n owned
        rw [holds, List.count_eq_zero.mpr mine]
        exact Nat.zero_le _
    · rw [goto_stack_of_ne s [] isT] at few
      exact kept.left l u n owned few

theorem Kept.step (kept : Kept d s) (calls : ∀ t code, event = .call t code → code.Ordered d [])
    (step : Step d.recursive s event s') : Kept d s' := by
  cases kept.effect calls step with
  | moved t stack next same ordered => exact next ▸ kept.goto same ordered
  | locked t l body rest owner top acquired next => exact next ▸ kept.locked top acquired
  | unlocked t l rest top next => exact next ▸ kept.unlocked top
  | thrown t rest top next => exact next ▸ kept.thrown top

/-! ## Locks that are left behind -/

theorem abandoned_goto {stack : List (Frame L)} (same : held stack = held (s.stack t)) {k : L} :
    Abandoned (s.goto t stack) k u ↔ Abandoned s k u := by
  unfold Abandoned
  rw [goto_owner]
  by_cases isT : u = t
  · subst isT
    rw [goto_stack_self, same]
  · rw [goto_stack_of_ne s stack isT]

/-- Nothing changes for a lock that is neither taken nor given back. -/
theorem abandoned_beside {stack : List (Frame L)} {owner : Option (T × Nat)} {k : L}
    (other : k ≠ l) (same : (held stack).count k = (held (s.stack t)).count k) :
    Abandoned ((s.goto t stack).setOwner l owner) k u ↔ Abandoned s k u := by
  unfold Abandoned
  rw [setOwner_owner_of_ne _ _ other, setOwner_stack, goto_owner]
  by_cases isT : u = t
  · subst isT
    rw [goto_stack_self, same]
  · rw [goto_stack_of_ne s stack isT]

omit [Preorder R] in
theorem abandoned_locked {body : Code L} {rest : List (Frame L)} {owner : T × Nat}
    (top : s.stack t = .run (.locked l body) :: rest)
    (acquired : acquire d.recursive t l (s.owner l) = some owner) {k : L} :
    Abandoned ((s.goto t (.run body :: .unlock l :: rest)).setOwner l (some owner)) k u ↔
      Abandoned s k u := by
  have holds : held (s.stack t) = held rest := by
    rw [top]
    rfl
  by_cases other : k ≠ l
  · apply abandoned_beside other
    rw [holds]
    exact List.count_cons_of_ne (Ne.symm other)
  obtain rfl := not_not.mp other
  have counts : (held (.run body :: .unlock k :: rest)).count k = (held rest).count k + 1 :=
    List.count_cons_self
  unfold Abandoned
  rw [setOwner_owner_self, setOwner_stack]
  rcases acquire_eq_some acquired with ⟨free, rfl⟩ | ⟨m, mine, _, rfl⟩
  · apply iff_of_false
    · rintro ⟨n, isOwner, few⟩
      obtain ⟨rfl, rfl⟩ := Prod.mk.inj (Option.some.inj isOwner)
      rw [goto_stack_self, counts] at few
      exact Nat.not_succ_le_zero _ few
    · rintro ⟨n, isOwner, _⟩
      rw [free] at isOwner
      cases isOwner
  · rw [mine]
    constructor
    · rintro ⟨n, isOwner, few⟩
      obtain ⟨rfl, rfl⟩ := Prod.mk.inj (Option.some.inj isOwner)
      rw [goto_stack_self, counts] at few
      exact ⟨m, rfl, holds ▸ Nat.le_of_succ_le_succ few⟩
    · rintro ⟨n, isOwner, few⟩
      obtain ⟨rfl, rfl⟩ := Prod.mk.inj (Option.some.inj isOwner)
      refine ⟨m + 1, rfl, ?_⟩
      rw [goto_stack_self, counts]
      exact Nat.succ_le_succ (holds ▸ few)

theorem abandoned_unlocked {rest : List (Frame L)} (kept : Kept d s)
    (top : s.stack t = .unlock l :: rest) {k : L} :
    Abandoned ((s.goto t rest).setOwner l (release (s.owner l))) k u ↔ Abandoned s k u := by
  have holds : held (s.stack t) = l :: held rest := by
    rw [top]
    rfl
  by_cases other : k ≠ l
  · apply abandoned_beside other
    rw [holds]
    exact (List.count_cons_of_ne (Ne.symm other)).symm
  obtain rfl := not_not.mp other
  obtain ⟨m, mine⟩ := kept.owner t k (holds ▸ List.mem_cons_self)
  unfold Abandoned
  rw [setOwner_owner_self, setOwner_stack, mine]
  cases m with
  | zero =>
      apply iff_of_false
      · rintro ⟨n, isOwner, _⟩
        cases isOwner
      · rintro ⟨n, isOwner, few⟩
        obtain ⟨rfl, rfl⟩ := Prod.mk.inj (Option.some.inj isOwner)
        rw [holds, List.count_cons_self] at few
        exact Nat.not_succ_le_zero _ few
  | succ m =>
      constructor
      · rintro ⟨n, isOwner, few⟩
        obtain ⟨rfl, rfl⟩ := Prod.mk.inj (Option.some.inj isOwner)
        rw [goto_stack_self] at few
        refine ⟨m + 1, rfl, ?_⟩
        rw [holds, List.count_cons_self]
        exact Nat.succ_le_succ few
      · rintro ⟨n, isOwner, few⟩
        obtain ⟨rfl, rfl⟩ := Prod.mk.inj (Option.some.inj isOwner)
        rw [holds, List.count_cons_self] at few
        refine ⟨m, rfl, ?_⟩
        rw [goto_stack_self]
        exact Nat.le_of_succ_le_succ few

omit [Preorder R] in
/-- Behind an exception all the locks of the thread are left behind. -/
theorem abandoned_thrown {k : L} : Abandoned (s.goto t []) k u ↔
    Abandoned s k u ∨ (u = t ∧ ∃ n, s.owner k = some (t, n)) := by
  unfold Abandoned
  rw [goto_owner]
  by_cases isT : u = t
  · subst isT
    rw [goto_stack_self]
    constructor
    · rintro ⟨n, isOwner, _⟩
      exact .inr ⟨rfl, n, isOwner⟩
    · rintro (⟨n, isOwner, _⟩ | ⟨_, n, isOwner⟩)
      · exact ⟨n, isOwner, Nat.zero_le _⟩
      · exact ⟨n, isOwner, Nat.zero_le _⟩
  · rw [goto_stack_of_ne s [] isT]
    exact ⟨.inl, fun either => either.resolve_right fun same => isT same.1⟩

/-- A step leaves a lock behind exactly if it throws, and what is left behind stays so. -/
theorem Kept.abandoned_step (kept : Kept d s)
    (calls : ∀ t code, event = .call t code → code.Ordered d [])
    (step : Step d.recursive s event s') :
    (∀ k u, Abandoned s k u → Abandoned s' k u) ∧ (Clean s → (Clean s' ↔ ¬ Leaves s event)) := by
  have quietly (same : ∀ k u, Abandoned s' k u ↔ Abandoned s k u) (quiet : ¬ Leaves s event) :
      (∀ k u, Abandoned s k u → Abandoned s' k u) ∧
        (Clean s → (Clean s' ↔ ¬ Leaves s event)) := by
    refine ⟨fun k u => (same k u).mpr, fun clean => iff_of_true ?_ quiet⟩
    exact fun k u abandoned => clean k u ((same k u).mp abandoned)
  cases kept.effect calls step with
  | moved t stack next same _ quiet =>
      subst next
      exact quietly (fun _ _ => abandoned_goto same) quiet
  | locked t l body rest owner top acquired next quiet =>
      subst next
      exact quietly (fun _ _ => abandoned_locked top acquired) quiet
  | unlocked t l rest top next quiet =>
      subst next
      exact quietly (fun _ _ => abandoned_unlocked kept top) quiet
  | thrown t rest top next isLeaving leaves =>
      subst next
      refine ⟨fun k u abandoned => abandoned_thrown.mpr (.inl abandoned), fun _ => ?_⟩
      refine iff_of_false (fun clean => ?_) (not_not.mpr isLeaving)
      obtain ⟨l, member⟩ := List.exists_mem_of_ne_nil _ leaves
      have owner : ∃ n, s.owner l = some (t, n) := by
        apply kept.owner t l
        rw [top]
        exact member
      exact clean l t (abandoned_thrown.mpr (.inr ⟨rfl, owner⟩))

omit [Preorder R] in
/-- A step is of one thread. -/
theorem stack_of_step {recursive : L → Bool} (step : Step recursive s event s')
    (other : u ≠ event.thread) : s'.stack u = s.stack u := by
  unfold Step at step
  cases event with
  | call t code =>
      simp only [react] at step
      split at step
      · obtain rfl := Option.some.inj step
        exact goto_stack_of_ne s _ other
      · cases step
  | step t choice =>
      simp only [react] at step
      split at step
      · cases step
      · obtain rfl := Option.some.inj step
        exact goto_stack_of_ne s _ other
      · obtain rfl := Option.some.inj step
        exact goto_stack_of_ne s _ other
      · obtain rfl := Option.some.inj step
        exact goto_stack_of_ne s _ other
      · obtain rfl := Option.some.inj step
        exact goto_stack_of_ne s _ other
      · obtain ⟨owner, _, rfl⟩ := Option.map_eq_some_iff.mp step
        exact goto_stack_of_ne s _ other
      · obtain rfl := Option.some.inj step
        exact goto_stack_of_ne s _ other

omit [Preorder R] in
/-- Nobody else gets a lock that has been left behind. -/
theorem Abandoned.waits {body : Code L} {rest : List (Frame L)} (abandoned : Abandoned s l t)
    (other : u ≠ t) (top : s.stack u = .run (.locked l body) :: rest) {recursive : L → Bool}
    (step : Step recursive s event s') : s'.stack u = s.stack u := by
  obtain ⟨n, isOwner, _⟩ := abandoned
  by_cases isU : u = event.thread
  · cases event with
    | call v code =>
        obtain rfl : u = v := isU
        simp [Step, react, top] at step
    | step v choice =>
        obtain rfl : u = v := isU
        have blocked : acquire recursive u l (s.owner l) = none := by
          rw [isOwner]
          exact if_neg fun both => other both.1.symm
        simp [Step, react, top, blocked] at step
  · exact stack_of_step step isU

/-! ## Nobody waits forever -/

/-- The thread waits for the lock. -/
def Waits (recursive : L → Bool) (s : State L T) (t : T) (l : L) : Prop :=
  ∃ body rest, s.stack t = .run (.locked l body) :: rest ∧
    acquire recursive t l (s.owner l) = none

/-- The steps of a code, on its longer branch at most. -/
def Code.size : Code L → Nat
  | .plain | .attempt => 1
  | .seq first second => first.size + second.size + 1
  | .either left right => left.size + right.size + 1
  | .locked _ body => body.size + 2

def work : List (Frame L) → Nat
  | [] => 0
  | .run code :: rest => code.size + work rest
  | .unlock _ :: rest => work rest + 1

omit [Preorder R] in
/-- A thread goes on, and has less to do then, or it waits. -/
theorem goes_on_or_waits (recursive : L → Bool) (busy : s.stack t ≠ []) :
    (∃ s', Step recursive s (.step t false) s' ∧ work (s'.stack t) < work (s.stack t)) ∨
      ∃ l, Waits recursive s t l := by
  cases top : s.stack t with
  | nil => exact absurd top busy
  | cons frame rest =>
      cases frame with
      | unlock l =>
          refine .inl ⟨(s.goto t rest).setOwner l (release (s.owner l)), ?_, ?_⟩
          · simp [Step, react, top]
          · simp [work]
      | run code =>
          cases code with
          | plain | attempt =>
              refine .inl ⟨s.goto t rest, ?_, ?_⟩
              · simp [Step, react, top]
              · simp [work, Code.size]
          | seq first second =>
              refine .inl ⟨s.goto t (.run first :: .run second :: rest), ?_, ?_⟩
              · simp [Step, react, top]
              · simp only [goto_stack_self, work, Code.size]
                omega
          | either left right =>
              refine .inl ⟨s.goto t (.run right :: rest), ?_, ?_⟩
              · simp [Step, react, top]
              · simp only [goto_stack_self, work, Code.size]
                omega
          | locked l body =>
              cases acquired : acquire recursive t l (s.owner l) with
              | none => exact .inr ⟨l, body, rest, top, acquired⟩
              | some owner =>
                  refine .inl
                    ⟨(s.goto t (.run body :: .unlock l :: rest)).setOwner l (some owner), ?_, ?_⟩
                  · simp [Step, react, top, acquired]
                  · simp only [setOwner_stack, goto_stack_self, work, Code.size]
                    omega

/-- Who waits waits for a thread that is going to unlock, and for a lock above all its own. -/
theorem Kept.waits (kept : Kept d s) (clean : Clean s) (waits : Waits d.recursive s t l) :
    (∀ h ∈ held (s.stack t), d.rank h < d.rank l) ∧ ∃ u, l ∈ held (s.stack u) := by
  obtain ⟨body, rest, top, blocked⟩ := waits
  have ordered := kept.ordered t
  have holds : held (s.stack t) = held rest := by
    rw [top]
    rfl
  rw [top] at ordered
  cases isOwner : s.owner l with
  | none =>
      rw [isOwner] at blocked
      cases blocked
  | some owner =>
      obtain ⟨u, n⟩ := owner
      rw [isOwner] at blocked
      have notAgain : ¬ (u = t ∧ d.recursive l = true) := by
        intro again
        simp [acquire, again] at blocked
      have unlocks : l ∈ held (s.stack u) := by
        rw [← List.count_pos_iff]
        by_contra none
        exact clean l u ⟨n, isOwner, by omega⟩
      refine ⟨?_, u, unlocks⟩
      rw [holds]
      rcases ordered.1.1 with ⟨again, mine⟩ | above
      · obtain ⟨m, isMine⟩ := kept.owner t l (holds ▸ mine)
        rw [isOwner] at isMine
        exact absurd ⟨congrArg Prod.fst (Option.some.inj isMine), again⟩ notAgain
      · exact above

/-- While a thread has something to do, some thread goes on. -/
theorem Kept.progress [WellFoundedGT R] (kept : Kept d s) (clean : Clean s)
    (busy : s.stack t ≠ []) :
    ∃ u s', Step d.recursive s (.step u false) s' ∧ work (s'.stack u) < work (s.stack u) := by
  -- along the chain of waiting threads the locks go up
  have climbs : ∀ r, ∀ t l, Waits d.recursive s t l → d.rank l = r →
      ∃ u s', Step d.recursive s (.step u false) s' ∧ work (s'.stack u) < work (s.stack u) := by
    intro r
    induction r using WellFoundedGT.induction with
    | ind r ih =>
      intro t l waits isRank
      obtain ⟨_, u, unlocks⟩ := kept.waits clean waits
      have busyU : s.stack u ≠ [] := by
        intro isIdle
        rw [isIdle] at unlocks
        cases unlocks
      rcases goes_on_or_waits d.recursive busyU with ⟨s', step, less⟩ | ⟨k, waitsU⟩
      · exact ⟨u, s', step, less⟩
      · have above := (kept.waits clean waitsU).1 l unlocks
        exact ih (d.rank k) (isRank ▸ above) u k waitsU rfl
  rcases goes_on_or_waits d.recursive busy with ⟨s', step, less⟩ | ⟨l, waits⟩
  · exact ⟨t, s', step, less⟩
  · exact climbs _ t l waits rfl

/-- All that has been begun can be finished, and then all locks are free. -/
theorem Kept.completes [Fintype T] [WellFoundedGT R] (kept : Kept d s) (clean : Clean s) :
    Reaches (Under (fun _ event => ∃ t, event = .step t false) (Step d.recursive)) s idle := by
  induction total : ∑ t, work (s.stack t) using Nat.strongRecOn generalizing s with
  | _ total ih =>
    by_cases allIdle : ∀ t, s.stack t = []
    · refine ⟨[], trivial, ?_⟩
      have free : ∀ l, s.owner l = none := by
        intro l
        cases isOwner : s.owner l with
        | none => rfl
        | some owner =>
            refine absurd ⟨owner.2, isOwner, ?_⟩ (clean l owner.1)
            rw [allIdle]
            exact Nat.zero_le _
      cases s
      simp only [idle, final_nil, State.mk.injEq]
      exact ⟨funext allIdle, funext free⟩
    · obtain ⟨t, busy⟩ := not_forall.mp allIdle
      obtain ⟨u, s', step, less⟩ := kept.progress clean busy
      have calls : ∀ t code, Event.step u false = .call t code → code.Ordered d [] := nofun
      have kept' := kept.step calls step
      have clean' : Clean s' := by
        refine ((kept.abandoned_step calls step).2 clean).mpr ?_
        rintro ⟨throws, _⟩
        cases throws
      have fewer : ∑ t, work (s'.stack t) < ∑ t, work (s.stack t) := by
        apply Finset.sum_lt_sum
        · intro v _
          by_cases isU : v = u
          · rw [isU]
            exact Nat.le_of_lt less
          · rw [stack_of_step step isU]
        · exact ⟨u, Finset.mem_univ u, less⟩
      obtain ⟨trace, ran, isLast⟩ := ih _ (total ▸ fewer) kept' clean' rfl
      exact ⟨(.step u false, s') :: trace, ⟨⟨⟨u, rfl⟩, step⟩, ran⟩, isLast⟩

/-! ## Runs -/

/-- A step of threads that call what is ordered. -/
def Obeys (d : Discipline L R) : State L T → Event L T → State L T → Prop :=
  Under (fun _ event => ∀ t code, event = .call t code → code.Ordered d []) (Step d.recursive)

theorem Obeys.kept (obeys : Obeys d s event s') (kept : Kept d s) : Kept d s' :=
  kept.step obeys.1 obeys.2

variable {trace : List (Event L T × State L T)}

theorem Kept.of_run (kept : Kept d s) (ran : Every (Obeys d) s trace) : Kept d (final s trace) :=
  ran.invariant kept fun _ _ _ kept obeys => obeys.kept kept

/-- What has been left behind stays so for good. -/
theorem Abandoned.of_run (abandoned : Abandoned s l t) (kept : Kept d s)
    (ran : Every (Obeys d) s trace) : Abandoned (final s trace) l t := by
  have both : Kept d (final s trace) ∧ Abandoned (final s trace) l t := by
    apply ran.invariant (P := fun s => Kept d s ∧ Abandoned s l t) ⟨kept, abandoned⟩
    rintro s event s' ⟨kept, abandoned⟩ obeys
    exact ⟨obeys.kept kept, (kept.abandoned_step obeys.1 obeys.2).1 l t abandoned⟩
  exact both.2

/-- Who waits for it waits for good. -/
theorem Abandoned.waits_of_run {body : Code L} {rest : List (Frame L)}
    (abandoned : Abandoned s l t) (kept : Kept d s) (other : u ≠ t)
    (top : s.stack u = .run (.locked l body) :: rest) (ran : Every (Obeys d) s trace) :
    (final s trace).stack u = s.stack u := by
  induction trace generalizing s with
  | nil => rfl
  | cons entry trace ih =>
      obtain ⟨event, s'⟩ := entry
      obtain ⟨obeys, ran⟩ := ran
      have same := abandoned.waits other top obeys.2
      have abandoned' := (kept.abandoned_step obeys.1 obeys.2).1 l t abandoned
      rw [final_cons, ← same]
      exact ih abandoned' (obeys.kept kept) (same.trans top) ran

/-- The locks are clean exactly if no step has left one behind. -/
theorem Kept.clean_iff (kept : Kept d s) (clean : Clean s) (ran : Every (Obeys d) s trace) :
    Clean (final s trace) ↔ Every (fun s event _ => ¬ Leaves s event) s trace := by
  induction trace generalizing s with
  | nil => exact iff_of_true clean trivial
  | cons entry trace ih =>
      obtain ⟨event, s'⟩ := entry
      obtain ⟨obeys, ran⟩ := ran
      have kept' := obeys.kept kept
      have here := (kept.abandoned_step obeys.1 obeys.2).2 clean
      rw [final_cons, every_cons, ← here]
      by_cases clean' : Clean s'
      · rw [ih kept' clean' ran]
        exact (and_iff_right clean').symm
      · refine iff_of_false (fun isClean => clean' fun k u abandoned => ?_) fun both => clean' both.1
        exact isClean k u (abandoned.of_run kept' ran)

end

/-! ## Locks that are taken from the start -/

/-- The same state, where the locks that `junk` names belong to whom it names. -/
def State.overlay (s : State L T) (junk : L → Option (T × Nat)) : State L T :=
  { s with owner := fun l => (junk l).or (s.owner l) }

/-- None of these locks is taken. -/
def Code.Avoids (lost : L → Bool) : Code L → Prop
  | .plain | .attempt => True
  | .seq first second => first.Avoids lost ∧ second.Avoids lost
  | .either left right => left.Avoids lost ∧ right.Avoids lost
  | .locked l body => lost l = false ∧ body.Avoids lost

instance (lost : L → Bool) : (code : Code L) → Decidable (code.Avoids lost)
  | .plain | .attempt => isTrue trivial
  | .seq first second | .either first second =>
      have := instDecidableAvoids lost first
      have := instDecidableAvoids lost second
      inferInstanceAs (Decidable (_ ∧ _))
  | .locked _ body =>
      have := instDecidableAvoids lost body
      inferInstanceAs (Decidable (_ ∧ _))

def Frame.Avoids (lost : L → Bool) : Frame L → Prop
  | .run code => code.Avoids lost
  | .unlock l => lost l = false

/-- No thread is going to take one of these locks, or to unlock it. -/
def Spares (lost : L → Bool) (s : State L T) : Prop :=
  ∀ t, ∀ frame ∈ s.stack t, frame.Avoids lost

section

variable [DecidableEq L] [DecidableEq T] {recursive : L → Bool} {s s' : State L T}
  {event : Event L T} {lost : L → Bool} {junk : L → Option (T × Nat)}

omit [DecidableEq L] in
theorem Spares.goto {t : T} {stack : List (Frame L)} (spares : Spares lost s)
    (avoids : ∀ frame ∈ stack, frame.Avoids lost) : Spares lost (s.goto t stack) := by
  intro u
  by_cases isT : u = t
  · subst isT
    rw [goto_stack_self]
    exact avoids
  · rw [goto_stack_of_ne s stack isT]
    exact spares u

theorem Spares.step (spares : Spares lost s)
    (calls : ∀ t code, event = .call t code → code.Avoids lost)
    (step : Step recursive s event s') : Spares lost s' := by
  unfold Step at step
  cases event with
  | call t code =>
      simp only [react] at step
      split at step
      · obtain rfl := Option.some.inj step
        exact spares.goto (List.forall_mem_singleton.mpr (calls t code rfl))
      · cases step
  | step t choice =>
      have avoids := spares t
      simp only [react] at step
      split at step
      · cases step
      · next rest top =>
        rw [top, List.forall_mem_cons] at avoids
        obtain rfl := Option.some.inj step
        exact spares.goto avoids.2
      · next rest top =>
        rw [top, List.forall_mem_cons] at avoids
        obtain rfl := Option.some.inj step
        apply spares.goto
        cases choice
        · exact avoids.2
        · exact nofun
      · next first second rest top =>
        rw [top, List.forall_mem_cons] at avoids
        obtain rfl := Option.some.inj step
        obtain ⟨⟨first, second⟩, rest⟩ := avoids
        exact spares.goto (List.forall_mem_cons.mpr ⟨first, List.forall_mem_cons.mpr ⟨second, rest⟩⟩)
      · next left right rest top =>
        rw [top, List.forall_mem_cons] at avoids
        obtain rfl := Option.some.inj step
        obtain ⟨⟨left, right⟩, rest⟩ := avoids
        apply spares.goto
        cases choice
        · exact List.forall_mem_cons.mpr ⟨right, rest⟩
        · exact List.forall_mem_cons.mpr ⟨left, rest⟩
      · next l body rest top =>
        rw [top, List.forall_mem_cons] at avoids
        obtain ⟨owner, _, rfl⟩ := Option.map_eq_some_iff.mp step
        obtain ⟨⟨free, body⟩, rest⟩ := avoids
        exact spares.goto (List.forall_mem_cons.mpr ⟨body, List.forall_mem_cons.mpr ⟨free, rest⟩⟩)
      · next l rest top =>
        rw [top, List.forall_mem_cons] at avoids
        obtain rfl := Option.some.inj step
        exact spares.goto avoids.2

omit [DecidableEq L] [DecidableEq T] in
theorem overlay_owner (s : State L T) {l : L} (free : junk l = none) :
    (s.overlay junk).owner l = s.owner l := by
  change (junk l).or (s.owner l) = s.owner l
  rw [free, Option.none_or]

omit [DecidableEq T] in
theorem setOwner_overlay (s : State L T) {l : L} (free : junk l = none)
    (owner : Option (T × Nat)) :
    (s.overlay junk).setOwner l owner = (s.setOwner l owner).overlay junk := by
  simp only [State.overlay, State.setOwner, State.mk.injEq, true_and]
  funext k
  by_cases isL : k = l
  · subst isL
    rw [Function.update_self, Function.update_self, free, Option.none_or]
  · rw [Function.update_of_ne isL, Function.update_of_ne isL]

omit [DecidableEq L] [DecidableEq T] in
theorem none_of_avoids {l : L} (avoids : (junk l).isSome = false) : junk l = none :=
  Option.isNone_iff_eq_none.mp (Option.isSome_eq_false_iff.mp avoids)

/-- What spares the locks does not see who has them. -/
theorem react_overlay (spares : Spares (fun l => (junk l).isSome) s) :
    react recursive (s.overlay junk) event = (react recursive s event).map (·.overlay junk) := by
  cases event with
  | call t code =>
      simp only [react]
      cases top : s.stack t with
      | nil => simp [State.overlay, State.goto, top]
      | cons frame rest => simp [State.overlay, top]
  | step t choice =>
      have avoids := spares t
      have same : (s.overlay junk).stack t = s.stack t := rfl
      simp only [react, same]
      cases top : s.stack t with
      | nil => rfl
      | cons frame rest =>
          rw [top, List.forall_mem_cons] at avoids
          cases frame with
          | unlock l =>
              have free : junk l = none := none_of_avoids avoids.1
              dsimp only
              rw [overlay_owner s free, Option.map_some]
              exact congrArg some (setOwner_overlay (s.goto t rest) free _)
          | run code =>
              cases code with
              | plain | attempt | seq first second | either left right => rfl
              | locked l body =>
                  have free : junk l = none := none_of_avoids avoids.1.1
                  dsimp only
                  rw [overlay_owner s free, Option.map_map]
                  congr 1
                  funext owner
                  exact setOwner_overlay (s.goto t _) free _

/-- A run that spares the locks is one in which they are free. -/
theorem Spares.of_run {law law' : State L T → Event L T → State L T → Prop}
    {trace : List (Event L T × State L T)} (spares : Spares (fun l => (junk l).isSome) s)
    (same : ∀ s event s', law (s.overlay junk) event (s'.overlay junk) → law' s event s')
    (calls : Every (fun _ event _ => ∀ t code, event = .call t code →
      code.Avoids fun l => (junk l).isSome) (s.overlay junk) trace)
    (ran : Every (Step recursive) (s.overlay junk) trace) (obeyed : Every law (s.overlay junk) trace) :
    ∃ free, Every (Step recursive) s free ∧ Every law' s free ∧
      final (s.overlay junk) trace = (final s free).overlay junk ∧
      Spares (fun l => (junk l).isSome) (final s free) := by
  induction trace generalizing s with
  | nil => exact ⟨[], trivial, trivial, rfl, spares⟩
  | cons entry trace ih =>
      obtain ⟨event, next⟩ := entry
      obtain ⟨step, ran⟩ := ran
      obtain ⟨call, calls⟩ := calls
      obtain ⟨obeys, obeyed⟩ := obeyed
      unfold Step at step
      rw [react_overlay spares] at step
      obtain ⟨s', step', rfl⟩ := Option.map_eq_some_iff.mp step
      obtain ⟨free, ran', obeyed', last, spares'⟩ :=
        ih (spares.step call step') calls ran obeyed
      exact ⟨(event, s') :: free, ⟨step', ran'⟩, ⟨same _ _ _ obeys, obeyed'⟩, last, spares'⟩

/-- A run in which the locks are free can be run where they are taken, if it spares them and
nothing more is called. -/
theorem Spares.overlay_run {trace : List (Event L T × State L T)}
    (spares : Spares (fun l => (junk l).isSome) s)
    (ran : Every (Under (fun _ event => ∃ t, event = .step t false) (Step recursive)) s trace) :
    Reaches (Under (fun _ event => ∃ t, event = .step t false) (Step recursive))
      (s.overlay junk) ((final s trace).overlay junk) := by
  induction trace generalizing s with
  | nil => exact ⟨[], trivial, rfl⟩
  | cons entry trace ih =>
      obtain ⟨event, next⟩ := entry
      obtain ⟨⟨⟨t, rfl⟩, step⟩, ran⟩ := ran
      have step' : Step recursive (s.overlay junk) (.step t false) (next.overlay junk) := by
        unfold Step at step ⊢
        rw [react_overlay spares, step, Option.map_some]
      obtain ⟨later, ranLater, last⟩ := ih (spares.step (fun _ _ isCall => by cases isCall) step) ran
      exact ⟨(.step t false, next.overlay junk) :: later, ⟨⟨⟨t, rfl⟩, step'⟩, ranLater⟩, last⟩

end

/-- A lock that is taken, may not be taken again, and that no thread is going to unlock. -/
structure Lost (recursive : L → Bool) (s : State L T) (l : L) : Prop where
  taken : s.owner l ≠ none
  once : recursive l = false
  kept : ∀ t, l ∉ held (s.stack t)

section

variable [DecidableEq L] [DecidableEq T] {recursive : L → Bool} {s s' : State L T}
  {event : Event L T} {l : L} {trace : List (Event L T × State L T)}

omit [DecidableEq L] in
/-- Who wants it waits. -/
theorem Lost.acquire_eq_none (lost : Lost recursive s l) (t : T) :
    acquire recursive t l (s.owner l) = none := by
  cases isOwner : s.owner l with
  | none => exact absurd isOwner lost.taken
  | some owner => simp [acquire, lost.once]

omit [DecidableEq L] in
theorem Lost.goto {t : T} {stack : List (Frame L)} (lost : Lost recursive s l)
    (kept : l ∉ held stack) : Lost recursive (s.goto t stack) l := by
  refine ⟨lost.taken, lost.once, fun u => ?_⟩
  by_cases isT : u = t
  · subst isT
    rw [goto_stack_self]
    exact kept
  · rw [goto_stack_of_ne s stack isT]
    exact lost.kept u

omit [DecidableEq T] in
theorem Lost.setOwner {k : L} (lost : Lost recursive s l) (other : l ≠ k)
    (owner : Option (T × Nat)) : Lost recursive (s.setOwner k owner) l := by
  refine ⟨?_, lost.once, lost.kept⟩
  rw [setOwner_owner_of_ne _ _ other]
  exact lost.taken

theorem Lost.step (lost : Lost recursive s l) (step : Step recursive s event s') :
    Lost recursive s' l := by
  unfold Step at step
  cases event with
  | call t code =>
      simp only [react] at step
      split at step
      · obtain rfl := Option.some.inj step
        exact lost.goto nofun
      · cases step
  | step t choice =>
      have kept := lost.kept t
      simp only [react] at step
      split at step
      · cases step
      · next rest top =>
        rw [top] at kept
        obtain rfl := Option.some.inj step
        exact lost.goto kept
      · next rest top =>
        rw [top] at kept
        obtain rfl := Option.some.inj step
        apply lost.goto
        cases choice
        · exact kept
        · exact nofun
      · next first second rest top =>
        rw [top] at kept
        obtain rfl := Option.some.inj step
        exact lost.goto kept
      · next left right rest top =>
        rw [top] at kept
        obtain rfl := Option.some.inj step
        exact lost.goto kept
      · next k body rest top =>
        rw [top] at kept
        obtain ⟨owner, acquired, rfl⟩ := Option.map_eq_some_iff.mp step
        have other : l ≠ k := by
          rintro rfl
          rw [lost.acquire_eq_none] at acquired
          cases acquired
        refine (lost.goto ?_).setOwner other _
        exact fun member => (List.mem_cons.mp member).elim other kept
      · next k rest top =>
        rw [top] at kept
        obtain rfl := Option.some.inj step
        obtain ⟨other, kept⟩ := not_or.mp (mt List.mem_cons.mpr kept)
        exact (lost.goto kept).setOwner other _

/-- Who has come to it waits for good. -/
theorem Lost.waits_of_run {t : T} {body : Code L} {rest : List (Frame L)}
    (lost : Lost recursive s l) (top : s.stack t = .run (.locked l body) :: rest)
    (ran : Every (Step recursive) s trace) : (final s trace).stack t = s.stack t := by
  induction trace generalizing s with
  | nil => rfl
  | cons entry trace ih =>
      obtain ⟨event, s'⟩ := entry
      obtain ⟨step, ran⟩ := ran
      have same : s'.stack t = s.stack t := by
        by_cases isT : t = event.thread
        · cases event with
          | call u code =>
              obtain rfl : t = u := isT
              simp [Step, react, top] at step
          | step u choice =>
              obtain rfl : t = u := isT
              simp [Step, react, top, lost.acquire_eq_none] at step
        · exact stack_of_step step isT
      rw [final_cons, ← same]
      exact ih (lost.step step) (same.trans top) ran

end

end Locks
