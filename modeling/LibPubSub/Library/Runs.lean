import Mathlib.Data.List.Basic

/-! Runs of a labelled transition system, with the induction rules that carry an
invariant, a law of single steps, or a guarded invariant over a whole run. A
trace lists what happened and the state it led to, oldest first, so that the
states on the way are part of the data. -/

set_option autoImplicit false

namespace Transition

variable {State Event : Type}

/-- Every step of the trace that leaves `start` satisfies `law`. -/
def Every (law : State → Event → State → Prop) : State → List (Event × State) → Prop
  | _, [] => True
  | start, (event, next) :: rest => law start event next ∧ Every law next rest

/-- The state a trace ends in. -/
def final : State → List (Event × State) → State
  | start, [] => start
  | _, (_, next) :: rest => final next rest

/-- Every state of the trace, the first and the last included, satisfies `good`. -/
def Always (good : State → Prop) (start : State) (trace : List (Event × State)) : Prop :=
  good start ∧ ∀ entry ∈ trace, good entry.2

/-- The steps of a system that also meet a condition on the state and event. -/
def Under (allowed : State → Event → Prop) (step : State → Event → State → Prop) :
    State → Event → State → Prop :=
  fun state event next => allowed state event ∧ step state event next

/-- Some run of `step` leads from `start` to `state`. -/
def Reaches (step : State → Event → State → Prop) (start state : State) : Prop :=
  ∃ trace, Every step start trace ∧ final start trace = state

variable {step law law' : State → Event → State → Prop} {start : State}
  {trace : List (Event × State)}

@[simp] theorem every_nil : Every law start [] := trivial

@[simp] theorem every_cons {event : Event} {next : State} :
    Every law start ((event, next) :: trace) ↔ law start event next ∧ Every law next trace :=
  Iff.rfl

@[simp] theorem final_nil : final start ([] : List (Event × State)) = start := rfl

@[simp] theorem final_cons {event : Event} {next : State} :
    final start ((event, next) :: trace) = final next trace := rfl

theorem final_append (before after : List (Event × State)) :
    final start (before ++ after) = final (final start before) after := by
  induction before generalizing start with
  | nil => rfl
  | cons entry before ih => exact ih

theorem final_concat (before : List (Event × State)) (event : Event) (last : State) :
    final start (before ++ [(event, last)]) = last := by
  rw [final_append, final_cons, final_nil]

theorem every_append (before after : List (Event × State)) :
    Every law start (before ++ after) ↔
      Every law start before ∧ Every law (final start before) after := by
  induction before generalizing start with
  | nil => simp only [List.nil_append, every_nil, true_and, final_nil]
  | cons entry before ih =>
      obtain ⟨event, next⟩ := entry
      simp only [List.cons_append, every_cons, final_cons, ih, and_assoc]

theorem Every.mono (included : ∀ state event next, law state event next → law' state event next)
    (every : Every law start trace) : Every law' start trace := by
  induction trace generalizing start with
  | nil => exact every_nil
  | cons entry trace ih => exact ⟨included _ _ _ every.1, ih every.2⟩

theorem Every.of_under {allowed : State → Event → Prop}
    (every : Every (Under allowed step) start trace) : Every step start trace :=
  every.mono fun _ _ _ both => both.2

theorem Every.and (left : Every law start trace) (right : Every law' start trace) :
    Every (fun state event next => law state event next ∧ law' state event next) start trace := by
  induction trace generalizing start with
  | nil => exact every_nil
  | cons entry trace ih => exact ⟨⟨left.1, right.1⟩, ih left.2 right.2⟩

theorem Always.final {good : State → Prop} (always : Always good start trace) :
    good (final start trace) := by
  induction trace generalizing start with
  | nil => exact always.1
  | cons entry trace ih =>
      refine ih ⟨always.2 entry List.mem_cons_self, ?_⟩
      intro later member
      exact always.2 later (List.mem_cons_of_mem _ member)

/-- What holds in every state holds behind every step. -/
theorem Always.every {good : State → Prop} (always : Always good start trace) :
    Every (fun _ _ next => good next) start trace := by
  induction trace generalizing start with
  | nil => exact every_nil
  | cons entry trace ih =>
      have next := always.2 entry List.mem_cons_self
      refine ⟨next, ih ⟨next, ?_⟩⟩
      exact fun later member => always.2 later (List.mem_cons_of_mem _ member)

theorem Always.mono {good good' : State → Prop} (always : Always good start trace)
    (included : ∀ state, good state → good' state) : Always good' start trace :=
  ⟨included _ always.1, fun entry member => included _ (always.2 entry member)⟩

/-- The invariant rule: what holds at the start and is kept by every step holds
in every state of the run. -/
theorem Every.always {good : State → Prop} (ran : Every step start trace) (initial : good start)
    (preserved : ∀ state event next, good state → step state event next → good next) :
    Always good start trace := by
  induction trace generalizing start with
  | nil => exact ⟨initial, by simp only [List.not_mem_nil, false_implies, implies_true]⟩
  | cons entry trace ih =>
      have next := preserved _ _ _ initial ran.1
      have rest := ih ran.2 next
      refine ⟨initial, ?_⟩
      intro later member
      rcases List.mem_cons.mp member with rfl | member
      · exact next
      · exact rest.2 later member

theorem Every.invariant {P : State → Prop} (ran : Every step start trace)
    (initial : P start)
    (preserved : ∀ state event next, P state → step state event next → P next) :
    P (Transition.final start trace) :=
  (ran.always initial preserved).final

theorem Reaches.invariant {P : State → Prop} {state : State}
    (reached : Reaches step start state) (initial : P start)
    (preserved : ∀ state event next, P state → step state event next → P next) :
    P state := by
  obtain ⟨trace, ran, rfl⟩ := reached
  exact ran.invariant initial preserved

/-- A law that the steps from good states obey is obeyed by every step of a run
that starts in a good state. -/
theorem Every.every_of_steps {good : State → Prop} (ran : Every step start trace)
    (initial : good start)
    (preserved : ∀ state event next, good state → step state event next → good next)
    (obeyed : ∀ state event next, good state → step state event next → law state event next) :
    Every law start trace := by
  induction trace generalizing start with
  | nil => exact every_nil
  | cons entry trace ih =>
      exact ⟨obeyed _ _ _ initial ran.1, ih ran.2 (preserved _ _ _ initial ran.1)⟩

/-- What a marked event brings about and every later step keeps holds behind a run with a
marked event. -/
theorem Every.marked {P Q : State → Prop} {mark : Event → Prop}
    (ran : Every step start trace) (initial : P start)
    (keeps : ∀ state event next, P state → step state event next → P next)
    (turns : ∀ state event next, P state → step state event next → mark event → Q next)
    (stays : ∀ state event next, P state → Q state → step state event next → Q next)
    (marked : ∃ entry ∈ trace, mark entry.1) : Q (Transition.final start trace) := by
  induction trace generalizing start with
  | nil =>
      obtain ⟨_, member, _⟩ := marked
      cases member
  | cons entry trace ih =>
      obtain ⟨event, next⟩ := entry
      have kept := keeps _ _ _ initial ran.1
      obtain ⟨entry, member, isMarked⟩ := marked
      rcases List.mem_cons.mp member with rfl | later
      · have both := Every.invariant (P := fun state => P state ∧ Q state) ran.2
          ⟨kept, turns _ _ _ initial ran.1 isMarked⟩ fun state event next holds stepped =>
            ⟨keeps _ _ _ holds.1 stepped, stays _ _ _ holds.1 holds.2 stepped⟩
        exact both.2
      · exact ih ran.2 kept ⟨entry, later, isMarked⟩

/-- Two laws that the steps of a system cannot tell apart hold along the same runs. -/
theorem Every.congr (ran : Every step start trace)
    (same : ∀ state event next, step state event next →
      (law state event next ↔ law' state event next)) :
    Every law start trace ↔ Every law' start trace := by
  induction trace generalizing start with
  | nil => exact Iff.rfl
  | cons entry trace ih => exact and_congr (same _ _ _ ran.1) (ih ran.2)

/-- If a good state leads to a good state exactly by the steps that meet the
condition, the states of a run are all good exactly when its steps all do. The
condition may use a second invariant that every step keeps. -/
theorem Every.always_iff {good kept : State → Prop} {allowed : State → Event → Prop}
    (ran : Every step start trace) (initial : good start) (initialKept : kept start)
    (keptStep : ∀ state event next, kept state → step state event next → kept next)
    (exactStep : ∀ state event next, good state → kept state → step state event next →
      (good next ↔ allowed state event)) :
    Always good start trace ↔ Every (fun state event _ => allowed state event) start trace := by
  induction trace generalizing start with
  | nil =>
      simp only [Always, List.not_mem_nil, false_implies, implies_true, and_true, every_nil,
        iff_true]
      exact initial
  | cons entry trace ih =>
      obtain ⟨event, next⟩ := entry
      have one := exactStep _ _ _ initial initialKept ran.1
      have split : Always good start ((event, next) :: trace) ↔ Always good next trace := by
        simp only [Always, List.forall_mem_cons, initial, true_and]
      rw [split, every_cons, ← one]
      constructor
      · intro always
        exact ⟨always.1, (ih ran.2 always.1 (keptStep _ _ _ initialKept ran.1)).mp always⟩
      · rintro ⟨good, every⟩
        exact (ih ran.2 good (keptStep _ _ _ initialKept ran.1)).mpr every

/-- Two laws that the steps from good states cannot tell apart hold along the same runs,
if the steps that obey them lead from good states to good states. -/
theorem Every.exchange {good : State → Prop} (ran : Every step start trace) (initial : good start)
    (same : ∀ state event next, good state → step state event next →
      (law state event next ↔ law' state event next))
    (preserved : ∀ state event next, good state → step state event next →
      law state event next → good next) :
    Every law start trace ↔ Every law' start trace := by
  induction trace generalizing start with
  | nil => exact Iff.rfl
  | cons entry trace ih =>
      have one := same _ _ _ initial ran.1
      constructor
      · intro every
        have next := preserved _ _ _ initial ran.1 every.1
        exact ⟨one.mp every.1, (ih ran.2 next).mp every.2⟩
      · intro every
        have obeyed := one.mpr every.1
        have next := preserved _ _ _ initial ran.1 obeyed
        exact ⟨obeyed, (ih ran.2 next).mpr every.2⟩

/-! ## Replaying a run -/

variable {Error : Type} {react : State → Event → Except Error State}

/-- Runs a system on `before` and then on `event`, as long as the events are allowed
and succeed, and looks at the last two states. -/
def replay (react : State → Event → Except Error State) (allowed : State → Event → Bool)
    (check : State → State → Bool) (event : Event) : State → List Event → Bool
  | state, [] =>
      match react state event with
      | .error _ => false
      | .ok next => allowed state event && check state next
  | state, first :: before =>
      match react state first with
      | .error _ => false
      | .ok next => allowed state first && replay react allowed check event next before

/-- A successful replay is a run. -/
theorem replay_run {allowed : State → Event → Bool} {check : State → State → Bool}
    {event : Event} {before : List Event}
    (replayed : replay react allowed check event start before = true) :
    ∃ trace last, Every (Under (fun state event => allowed state event = true)
        fun state event next => react state event = .ok next) start (trace ++ [(event, last)]) ∧
      check (final start trace) last = true := by
  induction before generalizing start with
  | nil =>
      unfold replay at replayed
      split at replayed
      · cases replayed
      · next last reacted =>
        obtain ⟨permitted, checked⟩ := Bool.and_eq_true_iff.mp replayed
        exact ⟨[], last, ⟨⟨permitted, reacted⟩, every_nil⟩, checked⟩
  | cons first before ih =>
      unfold replay at replayed
      split at replayed
      · cases replayed
      · next next reacted =>
        obtain ⟨permitted, later⟩ := Bool.and_eq_true_iff.mp replayed
        obtain ⟨trace, last, ran, checked⟩ := ih later
        exact ⟨(first, next) :: trace, last, ⟨⟨permitted, reacted⟩, ran⟩, checked⟩

/-- The same for a system whose steps may only be impossible. -/
theorem replay_run_of_option {reactTo : State → Event → Option State}
    {allowed : State → Event → Bool} {check : State → State → Bool} {event : Event}
    {before : List Event}
    (replayed : replay (fun state event => (reactTo state event).elim (.error ()) .ok) allowed
      check event start before = true) :
    ∃ trace last, Every (Under (fun state event => allowed state event = true)
        fun state event next => reactTo state event = some next) start (trace ++ [(event, last)]) ∧
      check (final start trace) last = true := by
  obtain ⟨trace, last, ran, checked⟩ := replay_run replayed
  refine ⟨trace, last, ran.mono ?_, checked⟩
  intro state event next stepped
  refine ⟨stepped.1, ?_⟩
  have reacted := stepped.2
  cases taken : reactTo state event with
  | none => simp [taken] at reacted
  | some _ =>
      simp only [taken, Option.elim_some, Except.ok.injEq] at reacted
      exact taken.trans (congrArg some reacted)

end Transition
