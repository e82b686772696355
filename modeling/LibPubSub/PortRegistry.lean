import LibPubSub.Library.Heap
import LibPubSub.Library.Runs
import LibPubSub.Utils
import Mathlib.Data.Finset.Card
import Mathlib.Order.Interval.Finset.Nat

/-! `get_free_port` of `protocols/tcp.h`, called by any number of processes: the files under
`/tmp/.libpubsub/ports`, one for a port, are shared, and every `fopen` with what is read or
written is one step. -/

set_option autoImplicit false

namespace LibPubSub.PortRegistry

open Transition

/-! ## C strings -/

/-- What a `const char*` points to. -/
abbrev CStr := { s : Str // NUL ∉ s }

/-- The string at the start of a buffer. -/
def cstr (buf : Str) : Str :=
  buf.takeWhile (· != NUL)

/-- What `fgets` reads of a file when it has room for so many characters. -/
def readLine : Nat → Str → Str
  | 0, _ => []
  | _, [] => []
  | room + 1, c :: content => if c = '\n' then [c] else c :: readLine room content

/-- `fgets(_channel, 512, f)`: an empty file leaves the buffer as it is. -/
def fgets (_channel content : Str) : Str :=
  if content = [] then _channel else readLine 511 content

/-! ## Calls -/

/-- Where a call stands. -/
inductive Pc where
  /-- Before `fopen(path, "r")` for port `i`. -/
  | scanning (i : Nat) (_channel : Str)
  /-- Before `fopen(path, "w")`. -/
  | writing (i : Nat)
  | returned (i : Nat)
  deriving DecidableEq

def Pc.port : Pc → Nat
  | .scanning i _ | .writing i | .returned i => i

structure Call where
  channel : CStr
  pc : Pc
  deriving DecidableEq

structure Registry where
  /-- The contents of the file of a port, if there is one. -/
  ports : Nat → Option Str
  calls : Heap Call

inductive Event where
  /-- `get_free_port(firstPort, channel)` is called; `_channel` is what its array happens
  to hold. -/
  | call (channel : CStr) (_channel : Str)
  | step (k : Nat)
  deriving DecidableEq

def Registry.goto (r : Registry) (k : Nat) (pc : Pc) : Registry :=
  { r with calls := r.calls.modify k fun c => { c with pc := pc } }

/-- The next step of call `k`. -/
def advance (r : Registry) (k : Nat) : Option Registry :=
  match (r.calls k).pc with
  | .scanning i _channel =>
      match r.ports i with
      | none => some (r.goto k (.writing i))
      | some content =>
          if cstr (fgets _channel content) = (r.calls k).channel then some (r.goto k (.writing i))
          else some (r.goto k (.scanning (i + 1) (fgets _channel content)))
  | .writing i =>
      some { r.goto k (.returned i) with
        ports := Function.update r.ports i (some (r.calls k).channel) }
  | .returned _ => none

def react (firstPort : Nat) (r : Registry) : Event → Option Registry
  | .call channel _channel =>
      some { r with calls := r.calls.alloc ⟨channel, .scanning firstPort _channel⟩ }
  | .step k => if k < r.calls.next then advance r k else none

def Step (firstPort : Nat) (r : Registry) (event : Event) (r' : Registry) : Prop :=
  react firstPort r event = some r'

/-- A directory with finitely many files, and nobody has called. -/
def start (directory : List (Nat × Str)) : Registry where
  ports i := directory.lookup i
  calls := Heap.empty ⟨⟨[], by decide⟩, .returned 0⟩

/-! ## What a step does -/

/-- A step of call `k`. -/
inductive Advances (r : Registry) (k : Nat) (r' : Registry) : Prop where
  | free (i : Nat) (_channel : Str) (scanning : (r.calls k).pc = .scanning i _channel)
      (missing : r.ports i = none) (next : r' = r.goto k (.writing i))
  | found (i : Nat) (_channel content : Str) (scanning : (r.calls k).pc = .scanning i _channel)
      (present : r.ports i = some content)
      (same : cstr (fgets _channel content) = (r.calls k).channel)
      (next : r' = r.goto k (.writing i))
  | passed (i : Nat) (_channel content : Str) (scanning : (r.calls k).pc = .scanning i _channel)
      (present : r.ports i = some content)
      (other : cstr (fgets _channel content) ≠ (r.calls k).channel)
      (next : r' = r.goto k (.scanning (i + 1) (fgets _channel content)))
  | written (i : Nat) (writing : (r.calls k).pc = .writing i)
      (next : r' = { r.goto k (.returned i) with
        ports := Function.update r.ports i (some (r.calls k).channel) })

variable {firstPort k : Nat} {r r' : Registry}

theorem advances_of_step (stepped : Step firstPort r (.step k) r') :
    k < r.calls.next ∧ Advances r k r' := by
  simp only [Step, react] at stepped
  split at stepped
  · next known =>
    refine ⟨known, ?_⟩
    unfold advance at stepped
    split at stepped
    · next i _channel scanning =>
      split at stepped
      · next missing =>
        cases stepped
        exact .free i _channel scanning missing rfl
      · next content present =>
        split at stepped
        · next same =>
          cases stepped
          exact .found i _channel content scanning present same rfl
        · next other =>
          cases stepped
          exact .passed i _channel content scanning present other rfl
    · next i writing =>
      cases stepped
      exact .written i writing rfl
    · cases stepped
  · cases stepped

@[simp] theorem goto_self (r : Registry) (k : Nat) (pc : Pc) :
    (r.goto k pc).calls k = ⟨(r.calls k).channel, pc⟩ := by
  simp [Registry.goto]

theorem goto_of_ne (r : Registry) {k j : Nat} (pc : Pc) (other : j ≠ k) :
    (r.goto k pc).calls j = r.calls j := by
  simp [Registry.goto, Heap.modify_of_ne _ _ other]

/-- A call that has not returned can go on. -/
theorem enabled_of_not_returned (known : k < r.calls.next)
    (unfinished : ∀ i, (r.calls k).pc ≠ .returned i) : ∃ r', Step firstPort r (.step k) r' := by
  simp only [Step, react, if_pos known]
  unfold advance
  cases pc : (r.calls k).pc with
  | scanning i _channel =>
      dsimp only
      cases r.ports i with
      | none => exact ⟨_, rfl⟩
      | some content =>
          dsimp only
          split <;> exact ⟨_, rfl⟩
  | writing i => exact ⟨_, rfl⟩
  | returned i => exact absurd pc (unfinished i)

theorem Advances.next_calls (advances : Advances r k r') : r'.calls.next = r.calls.next := by
  cases advances with
  | free i _ _ _ next | found i _ _ _ _ _ next | passed i _ _ _ _ _ next | written i _ next =>
      rw [next]
      rfl

theorem Advances.beside (advances : Advances r k r') {j : Nat} (other : j ≠ k) :
    r'.calls j = r.calls j := by
  cases advances with
  | free i _ _ _ next | found i _ _ _ _ _ next | passed i _ _ _ _ _ next | written i _ next =>
      rw [next]
      exact goto_of_ne r _ other

theorem Advances.channel (advances : Advances r k r') :
    (r'.calls k).channel = (r.calls k).channel := by
  cases advances with
  | free i _ _ _ next | found i _ _ _ _ _ next | passed i _ _ _ _ _ next | written i _ next =>
      simp [next]

theorem Advances.not_returned (advances : Advances r k r') (i : Nat) :
    (r.calls k).pc ≠ .returned i := by
  cases advances with
  | free _ _ pc | found _ _ _ pc | passed _ _ _ pc | written _ pc =>
      rw [pc]
      exact nofun

theorem Advances.returns (advances : Advances r k r') {i : Nat}
    (writing : (r.calls k).pc = .writing i) : (r'.calls k).pc = .returned i := by
  cases advances with
  | free _ _ pc | found _ _ _ pc | passed _ _ _ pc =>
      rw [writing] at pc
      cases pc
  | written j pc next =>
      rw [writing] at pc
      cases pc
      simp [next]

/-- A file changes only when its port's call writes it. -/
theorem Advances.ports (advances : Advances r k r') (p : Nat) :
    r'.ports p = r.ports p ∨
      ((r.calls k).pc = .writing p ∧ r'.ports p = some (r.calls k).channel) := by
  cases advances with
  | free i _ _ _ next | found i _ _ _ _ _ next | passed i _ _ _ _ _ next =>
      rw [next]
      exact .inl rfl
  | written i writing next =>
      rw [next]
      by_cases same : p = i
      · subst same
        exact .inr ⟨writing, by simp⟩
      · exact .inl (by simp [same])

theorem Advances.stays (advances : Advances r k r') {p : Nat} (present : r.ports p ≠ none) :
    r'.ports p ≠ none := by
  cases advances.ports p with
  | inl same => rwa [same]
  | inr written => simp [written.2]

/-! ## Every call ends -/

/-- The steps that a call has taken. -/
def Pc.steps (firstPort : Nat) : Pc → Nat
  | .scanning i _ => i - firstPort
  | .writing i => i - firstPort + 1
  | .returned i => i - firstPort + 2

/-- Files stay; those that are new belong to calls that have returned. A call has passed
files only. -/
structure Filed (firstPort : Nat) (directory : List (Nat × Str)) (r : Registry) : Prop where
  filed : ∀ p, r.ports p ≠ none →
    p ∈ directory.map Prod.fst ∨ ∃ k < r.calls.next, (r.calls k).pc = .returned p
  started : ∀ k < r.calls.next, firstPort ≤ (r.calls k).pc.port
  passed : ∀ k < r.calls.next, ∀ p, firstPort ≤ p → p < (r.calls k).pc.port → r.ports p ≠ none

theorem filed_start (firstPort : Nat) (directory : List (Nat × Str)) :
    Filed firstPort directory (start directory) := by
  refine ⟨fun p present => .inl ?_, fun k => nofun, fun k => nofun⟩
  have found : (directory.lookup p).isSome := Option.isSome_iff_ne_none.mpr present
  obtain ⟨⟨q, content⟩, member, same⟩ := List.lookup_isSome_iff.mp found
  rw [beq_iff_eq] at same
  exact List.mem_map.mpr ⟨_, member, same.symm⟩

/-- Where the call stands after its step. -/
theorem Filed.advanced {directory : List (Nat × Str)} (filed : Filed firstPort directory r)
    (known : k < r.calls.next) (advances : Advances r k r') :
    firstPort ≤ (r'.calls k).pc.port ∧
      (∀ p, firstPort ≤ p → p < (r'.calls k).pc.port → r.ports p ≠ none) ∧
      (r'.calls k).pc.steps firstPort = (r.calls k).pc.steps firstPort + 1 := by
  have started := filed.started k known
  have passed := filed.passed k known
  cases advances with
  | free i _ scanning _ next | found i _ _ scanning _ _ next =>
      rw [scanning] at started passed ⊢
      rw [next, goto_self]
      exact ⟨started, passed, rfl⟩
  | passed i _ content scanning present _ next =>
      rw [scanning] at started passed ⊢
      rw [next, goto_self]
      simp only [Pc.port, Pc.steps] at started passed ⊢
      refine ⟨by omega, ?_, by omega⟩
      intro p lower upper
      cases Nat.lt_succ_iff_lt_or_eq.mp upper with
      | inl before => exact passed p lower before
      | inr same =>
          rw [same, present]
          exact nofun
  | written i writing next =>
      rw [writing] at started passed ⊢
      rw [next]
      simp only [goto_self]
      exact ⟨started, passed, rfl⟩

theorem Filed.step {directory : List (Nat × Str)} {event : Event}
    (filed : Filed firstPort directory r) (stepped : Step firstPort r event r') :
    Filed firstPort directory r' := by
  cases event with
  | call channel _channel =>
      simp only [Step, react, Option.some.injEq] at stepped
      subst stepped
      have old {k : Nat} (known : k < r.calls.next + 1) (notNew : k ≠ r.calls.next) :
          k < r.calls.next := by omega
      constructor
      · intro p present
        cases filed.filed p present with
        | inl inside => exact .inl inside
        | inr returned =>
            obtain ⟨k, known, pc⟩ := returned
            refine .inr ⟨k, Nat.lt_succ_of_lt known, ?_⟩
            simp only [Heap.alloc_of_lt _ _ known, pc]
      · intro k known
        by_cases isNew : k = r.calls.next
        · simp [isNew, Pc.port]
        · simp only [Heap.alloc_of_ne _ _ isNew]
          exact filed.started k (old known isNew)
      · intro k known
        by_cases isNew : k = r.calls.next
        · simp only [isNew, Heap.alloc_self, Pc.port]
          omega
        · simp only [Heap.alloc_of_ne _ _ isNew]
          exact filed.passed k (old known isNew)
  | step k =>
      obtain ⟨known, advances⟩ := advances_of_step stepped
      have advanced := filed.advanced known advances
      constructor
      · intro p present
        rw [advances.next_calls]
        cases advances.ports p with
        | inl same =>
            cases filed.filed p (same ▸ present) with
            | inl inside => exact .inl inside
            | inr returned =>
                obtain ⟨j, knownJ, pc⟩ := returned
                refine .inr ⟨j, knownJ, ?_⟩
                have other : j ≠ k := by
                  intro same
                  exact advances.not_returned p (same ▸ pc)
                rw [advances.beside other, pc]
        | inr written =>
            exact .inr ⟨k, known, advances.returns written.1⟩
      · intro j knownJ
        rw [advances.next_calls] at knownJ
        by_cases same : j = k
        · subst same
          exact advanced.1
        · rw [advances.beside same]
          exact filed.started j knownJ
      · intro j knownJ p lower upper
        rw [advances.next_calls] at knownJ
        apply advances.stays
        by_cases same : j = k
        · subst same
          exact advanced.2.1 p lower upper
        · rw [advances.beside same] at upper
          exact filed.passed j knownJ p lower upper

/-- A call has passed no more files than there were and calls have made. -/
theorem Filed.steps_le {directory : List (Nat × Str)} (filed : Filed firstPort directory r)
    (known : k < r.calls.next) :
    (r.calls k).pc.steps firstPort ≤ directory.length + r.calls.next + 2 := by
  have ports : Finset.Ico firstPort (r.calls k).pc.port ⊆
      (directory.map Prod.fst).toFinset ∪ (Finset.range r.calls.next).image fun j =>
        (r.calls j).pc.port := by
    intro p inside
    obtain ⟨lower, upper⟩ := Finset.mem_Ico.mp inside
    cases filed.filed p (filed.passed k known p lower upper) with
    | inl old => exact Finset.mem_union_left _ (List.mem_toFinset.mpr old)
    | inr returned =>
        obtain ⟨j, knownJ, pc⟩ := returned
        apply Finset.mem_union_right
        exact Finset.mem_image.mpr ⟨j, Finset.mem_range.mpr knownJ, by rw [pc]; rfl⟩
  have card := Finset.card_le_card ports
  have union := Finset.card_union_le (directory.map Prod.fst).toFinset
    ((Finset.range r.calls.next).image fun j => (r.calls j).pc.port)
  have old := List.toFinset_card_le (directory.map Prod.fst)
  have new := Finset.card_image_le (s := Finset.range r.calls.next)
    (f := fun j => (r.calls j).pc.port)
  rw [Nat.card_Ico] at card
  rw [List.length_map] at old
  rw [Finset.card_range] at new
  have steps : (r.calls k).pc.steps firstPort ≤ (r.calls k).pc.port - firstPort + 2 := by
    cases (r.calls k).pc <;> simp [Pc.steps, Pc.port]
  omega

/-- The steps of call `k` in a run. -/
def stepsOf (k : Nat) (trace : List (Event × Registry)) : Nat :=
  trace.countP fun entry => entry.1 = .step k

def stepsTaken (firstPort : Nat) (r : Registry) (k : Nat) : Nat :=
  if k < r.calls.next then (r.calls k).pc.steps firstPort else 0

theorem Filed.stepsTaken_step {directory : List (Nat × Str)} {event : Event} (k : Nat)
    (filed : Filed firstPort directory r) (stepped : Step firstPort r event r') :
    stepsTaken firstPort r' k =
      stepsTaken firstPort r k + if event = .step k then 1 else 0 := by
  cases event with
  | call channel _channel =>
      simp only [Step, react, Option.some.injEq] at stepped
      subst stepped
      unfold stepsTaken
      rcases Nat.lt_trichotomy k r.calls.next with old | rfl | unborn
      · simp [old, Nat.lt_succ_of_lt old, Heap.alloc_of_lt _ _ old]
      · simp [Pc.steps]
      · simp [show ¬ k < r.calls.next + 1 by omega, show ¬ k < r.calls.next by omega]
  | step j =>
      obtain ⟨known, advances⟩ := advances_of_step stepped
      unfold stepsTaken
      rw [advances.next_calls]
      by_cases same : k = j
      · subst same
        simp [known, (filed.advanced known advances).2.2]
      · simp [advances.beside same, Ne.symm same]

theorem Filed.stepsOf_le {directory : List (Nat × Str)} {trace : List (Event × Registry)}
    (filed : Filed firstPort directory r) (ran : Every (Step firstPort) r trace) (k : Nat) :
    stepsTaken firstPort (final r trace) k = stepsTaken firstPort r k + stepsOf k trace ∧
      Filed firstPort directory (final r trace) := by
  induction trace generalizing r with
  | nil => exact ⟨rfl, filed⟩
  | cons entry trace ih =>
      obtain ⟨event, next⟩ := entry
      obtain ⟨counted, filedLast⟩ := ih (filed.step ran.1) ran.2
      refine ⟨?_, filedLast⟩
      rw [final_cons, counted, filed.stepsTaken_step k ran.1]
      simp only [stepsOf, List.countP_cons, decide_eq_true_eq]
      omega

/-! ## Whose port it is -/

/-- `fgets` and `strcmp` find the channel in a file that holds it. -/
def Readable (channel : CStr) : Prop :=
  channel.val ≠ [] ∧ cstr (readLine 511 channel) = channel

/-- A write leaves a file as it is, or makes the only file that holds the channel's name. -/
def Registers (firstPort : Nat) (r : Registry) : Event → Prop
  | .call _ _ => True
  | .step k => ∀ i, (r.calls k).pc = .writing i →
      r.ports i = some (r.calls k).channel.val ∨
        (r.ports i = none ∧ ∀ p, firstPort ≤ p → r.ports p ≠ some (r.calls k).channel.val)

/-- What is known of a call. -/
structure Known (firstPort : Nat) (initial : Nat → Option Str) (r : Registry) (c : Call) : Prop where
  started : firstPort ≤ c.pc.port
  /-- Behind the first file the array does not hold the channel's name. -/
  stale : ∀ i _channel, c.pc = .scanning i _channel → i = firstPort ∨ cstr _channel ≠ c.channel
  passed : ∀ p, firstPort ≤ p → p < c.pc.port →
    r.ports p ≠ none ∧ (r.ports p = some c.channel.val → ¬ Readable c.channel)
  found : ∀ i, c.pc = .writing i ∨ c.pc = .returned i → r.ports i = some c.channel.val →
    Readable c.channel ∨ i = firstPort ∨ initial i = none
  done : ∀ i, c.pc = .returned i → r.ports i = some c.channel.val

/-- The invariant of runs that register. -/
structure Registered (firstPort : Nat) (initial : Nat → Option Str) (r : Registry) : Prop where
  kept : ∀ p content, initial p = some content → r.ports p = some content
  twice : ∀ p q content, firstPort ≤ p → firstPort ≤ q → p ≠ q → r.ports p = some content →
    r.ports q = some content → initial p = some content ∧ initial q = some content
  calls : ∀ k < r.calls.next, Known firstPort initial r (r.calls k)

variable {initial : Nat → Option Str} {c : Call}

/-- A file that another call makes was missing. -/
theorem Known.congr (known : Known firstPort initial r c)
    (kept : ∀ p content, initial p = some content → r.ports p = some content)
    (ports : ∀ p, r'.ports p = r.ports p ∨ r.ports p = none) (stays : ∀ p content,
      r.ports p = some content → r'.ports p = some content) : Known firstPort initial r' c := by
  constructor
  · exact known.started
  · exact known.stale
  · intro p lower upper
    obtain ⟨present, unread⟩ := known.passed p lower upper
    cases ports p with
    | inl same =>
        rw [same]
        exact ⟨present, unread⟩
    | inr missing => exact absurd missing present
  · intro i pc holds
    cases ports i with
    | inl same => exact known.found i pc (same ▸ holds)
    | inr missing =>
        refine .inr (.inr ?_)
        cases before : initial i with
        | none => rfl
        | some content =>
            rw [kept i content before] at missing
            cases missing
  · intro i pc
    exact stays i _ (known.done i pc)

theorem Registered.advanced (registered : Registered firstPort initial r)
    (isCall : k < r.calls.next) (registers : Registers firstPort r (.step k))
    (advances : Advances r k r') : Known firstPort initial r' (r'.calls k) := by
  have known := registered.calls k isCall
  obtain ⟨started, stale, passed, found, done⟩ := known
  cases advances with
  | free i _channel scanning missing next =>
      rw [scanning] at started passed
      subst next
      rw [goto_self]
      refine ⟨started, nofun, passed, ?_, nofun⟩
      rintro j (same | same) holds
      · cases same
        change r.ports i = _ at holds
        rw [missing] at holds
        cases holds
      · cases same
  | found i _channel content scanning present same next =>
      rw [scanning] at started passed
      subst next
      rw [goto_self]
      refine ⟨started, nofun, passed, ?_, nofun⟩
      rintro j (isI | isI) holds
      · cases isI
        change r.ports i = some (r.calls k).channel.val at holds
        rw [present] at holds
        cases holds
        -- an empty name is found only in what the array held before
        by_cases empty : (r.calls k).channel.val = []
        · cases stale i _channel scanning with
          | inl first => exact .inr (.inl first)
          | inr other =>
              simp only [fgets, empty, ↓reduceIte] at same
              exact absurd (same.trans empty.symm) other
        · simp only [fgets, empty, ↓reduceIte] at same
          exact .inl ⟨empty, same⟩
      · cases isI
  | passed i _channel content scanning present other next =>
      rw [scanning] at started passed
      subst next
      rw [goto_self]
      refine ⟨Nat.le_succ_of_le started, ?_, ?_, ?_, nofun⟩
      · rintro j buf same
        cases same
        exact .inr other
      · intro p lower upper
        cases Nat.lt_succ_iff_lt_or_eq.mp upper with
        | inl before => exact passed p lower before
        | inr same =>
            subst same
            change r.ports p ≠ none ∧ (r.ports p = _ → _)
            rw [present]
            refine ⟨nofun, ?_⟩
            rintro holds ⟨nonempty, readable⟩
            simp only [Option.some.injEq] at holds
            subst holds
            simp only [fgets, nonempty, ↓reduceIte] at other
            exact other readable
      · rintro j (same | same) <;> cases same
  | written i writing next =>
      rw [writing] at started passed
      subst next
      simp only [goto_self]
      refine ⟨started, nofun, ?_, ?_, ?_⟩
      · intro p lower upper
        simp only [Function.update_of_ne (show p ≠ i from Nat.ne_of_lt upper)]
        exact passed p lower upper
      · rintro j (isI | isI) _
        · cases isI
        · cases isI
          cases registers i writing with
          | inl holds => exact found i (.inl writing) holds
          | inr missing =>
              refine .inr (.inr ?_)
              cases before : initial i with
              | none => rfl
              | some content =>
                  have present := registered.kept i content before
                  rw [missing.1] at present
                  cases present
      · intro j isI
        cases isI
        simp

/-- What a step that registers does to the files. -/
theorem Advances.registers (advances : Advances r k r')
    (registers : Registers firstPort r (.step k)) (p : Nat) :
    r'.ports p = r.ports p ∨ (r.ports p = none ∧ r'.ports p = some (r.calls k).channel.val ∧
      ∀ q, firstPort ≤ q → r.ports q ≠ some (r.calls k).channel.val) := by
  cases advances.ports p with
  | inl same => exact .inl same
  | inr written =>
      cases registers p written.1 with
      | inl holds => exact .inl (written.2.trans holds.symm)
      | inr missing => exact .inr ⟨missing.1, written.2, missing.2⟩

theorem Registered.step {event : Event} (registered : Registered firstPort initial r)
    (registers : Registers firstPort r event) (stepped : Step firstPort r event r') :
    Registered firstPort initial r' := by
  cases event with
  | call channel _channel =>
      simp only [Step, react, Option.some.injEq] at stepped
      subst stepped
      refine ⟨registered.kept, registered.twice, ?_⟩
      intro k isCall
      let call : Call := ⟨channel, .scanning firstPort _channel⟩
      have frame (c : Call) (known : Known firstPort initial r c) :
          Known firstPort initial ⟨r.ports, r.calls.alloc call⟩ c :=
        known.congr registered.kept (fun _ => .inl rfl) fun _ _ => id
      by_cases isNew : k = r.calls.next
      · subst isNew
        simp only [Heap.alloc_self]
        refine ⟨Nat.le_refl _, ?_, ?_, ?_, nofun⟩
        · rintro i buf same
          cases same
          exact .inl rfl
        · intro p lower upper
          simp only [Pc.port] at upper
          omega
        · rintro i (same | same) <;> cases same
      · simp only [Heap.alloc_of_ne _ _ isNew]
        have isCall : k < r.calls.next + 1 := isCall
        exact frame _ (registered.calls k (by omega))
  | step k =>
      obtain ⟨isCall, advances⟩ := advances_of_step stepped
      have ports := advances.registers registers
      have stays (p : Nat) (content : Str) (holds : r.ports p = some content) :
          r'.ports p = some content := by
        cases ports p with
        | inl same => rw [same, holds]
        | inr made =>
            rw [made.1] at holds
            cases holds
      constructor
      · exact fun p content before => stays p content (registered.kept p content before)
      · intro p q content lowerP lowerQ apart holdsP holdsQ
        cases ports p with
        | inl sameP =>
            rw [sameP] at holdsP
            cases ports q with
            | inl sameQ =>
                rw [sameQ] at holdsQ
                exact registered.twice p q content lowerP lowerQ apart holdsP holdsQ
            | inr madeQ =>
                rw [madeQ.2.1] at holdsQ
                cases holdsQ
                exact absurd holdsP (madeQ.2.2 p lowerP)
        | inr madeP =>
            rw [madeP.2.1] at holdsP
            cases holdsP
            cases ports q with
            | inl sameQ =>
                rw [sameQ] at holdsQ
                exact absurd holdsQ (madeP.2.2 q lowerQ)
            | inr madeQ =>
                -- one step writes one file
                cases advances with
                | written i writing next =>
                    subst next
                    have isP : p = i := by
                      by_contra other
                      simp [Function.update_of_ne other, madeP.1] at madeP
                    have isQ : q = i := by
                      by_contra other
                      simp [Function.update_of_ne other, madeQ.1] at madeQ
                    exact absurd (isP.trans isQ.symm) apart
                | free _ _ _ _ next | found _ _ _ _ _ _ next | passed _ _ _ _ _ _ next =>
                    subst next
                    have made := madeP.2.1
                    change r.ports p = _ at made
                    rw [madeP.1] at made
                    cases made
      · intro j isCallJ
        rw [advances.next_calls] at isCallJ
        by_cases same : j = k
        · subst same
          exact registered.advanced isCall registers advances
        · rw [advances.beside same]
          refine (registered.calls j isCallJ).congr registered.kept ?_ stays
          exact fun p => (ports p).imp id fun made => made.1

theorem registered_start (firstPort : Nat) (directory : List (Nat × Str)) :
    Registered firstPort (start directory).ports (start directory) :=
  ⟨fun _ _ => id, fun _ _ _ _ _ _ holdsP holdsQ => ⟨holdsP, holdsQ⟩, fun _ => nofun⟩

/-! ## Own, stable ports -/

/-- A channel has one port, which is nobody else's, and keeps it if it had one before. -/
structure OwnPorts (firstPort : Nat) (initial : Nat → Option Str) (r : Registry) : Prop where
  unique : ∀ j < r.calls.next, ∀ k < r.calls.next, ∀ p, (r.calls j).pc = .returned p →
    (r.calls k).pc = .returned p → (r.calls j).channel = (r.calls k).channel
  stable : ∀ j < r.calls.next, ∀ k < r.calls.next, ∀ p q, (r.calls j).pc = .returned p →
    (r.calls k).pc = .returned q → (r.calls j).channel = (r.calls k).channel → p = q
  registered : ∀ k < r.calls.next, ∀ p, (r.calls k).pc = .returned p →
    (∃ q, firstPort ≤ q ∧ initial q = some (r.calls k).channel.val) →
      initial p = some (r.calls k).channel.val

theorem Registered.unread {p q : Nat} (registered : Registered firstPort initial r)
    {j k : Nat} (isCallJ : j < r.calls.next) (isCallK : k < r.calls.next)
    (returnedJ : (r.calls j).pc = .returned p) (returnedK : (r.calls k).pc = .returned q)
    (same : (r.calls j).channel = (r.calls k).channel) : ¬ p < q := by
  intro before
  have knownJ := registered.calls j isCallJ
  have knownK := registered.calls k isCallK
  have lowerP : firstPort ≤ p := by simpa [returnedJ, Pc.port] using knownJ.started
  have holdsP : r.ports p = some (r.calls k).channel.val := same ▸ knownJ.done p returnedJ
  have holdsQ := knownK.done q returnedK
  have both := registered.twice p q _ lowerP (by omega) (Nat.ne_of_lt before) holdsP holdsQ
  have unread := (knownK.passed p lowerP (by simpa [returnedK, Pc.port] using before)).2 holdsP
  rcases knownK.found q (.inr returnedK) holdsQ with readable | isFirst | missing
  · exact unread readable
  · omega
  · rw [both.2] at missing
    cases missing

theorem Registered.ownPorts (registered : Registered firstPort initial r) :
    OwnPorts firstPort initial r := by
  constructor
  · intro j isCallJ k isCallK p returnedJ returnedK
    have holdsJ := (registered.calls j isCallJ).done p returnedJ
    have holdsK := (registered.calls k isCallK).done p returnedK
    rw [holdsJ] at holdsK
    exact Subtype.ext (Option.some.inj holdsK)
  · intro j isCallJ k isCallK p q returnedJ returnedK same
    have notBefore := registered.unread isCallJ isCallK returnedJ returnedK same
    have notBehind := registered.unread isCallK isCallJ returnedK returnedJ same.symm
    omega
  · intro k isCall p returned ⟨q, lower, before⟩
    have known := registered.calls k isCall
    have lowerP : firstPort ≤ p := by simpa [returned, Pc.port] using known.started
    by_cases same : p = q
    · rw [same, before]
    · have holds := known.done p returned
      exact (registered.twice p q _ lowerP lower same holds (registered.kept q _ before)).1

/-- Every call ends: it takes no more steps than files and calls can cause, and it can go
on until it has returned. -/
structure Ends (firstPort : Nat) (directory : List (Nat × Str)) (trace : List (Event × Registry))
    (r : Registry) : Prop where
  bounded : ∀ k < r.calls.next, stepsOf k trace ≤ directory.length + r.calls.next + 2
  enabled : ∀ k < r.calls.next, (∀ i, (r.calls k).pc ≠ .returned i) →
    ∃ r', Step firstPort r (.step k) r'

/-- In a run that registers, calls end and channels have ports of their own. -/
theorem ownPorts_of_registers {directory : List (Nat × Str)} {trace : List (Event × Registry)}
    (ran : Every (Under (Registers firstPort) (Step firstPort)) (start directory) trace) :
    Ends firstPort directory trace (final (start directory) trace) ∧
      OwnPorts firstPort (start directory).ports (final (start directory) trace) := by
  constructor
  · have counted k := (filed_start firstPort directory).stepsOf_le ran.of_under k
    constructor
    · intro k isCall
      have bound := (counted k).2.steps_le isCall
      have steps := (counted k).1
      simp only [stepsTaken, isCall, ↓reduceIte] at steps
      rw [steps] at bound
      exact Nat.le_trans (Nat.le_add_left _ _) bound
    · exact fun k isCall => enabled_of_not_returned isCall
  · have registered := ran.invariant (registered_start firstPort directory)
      fun _ _ _ registered stepped => registered.step stepped.1 stepped.2
    exact registered.ownPorts

/-! ## Two runs -/

/-- `Registers` where only calls have made files. -/
def registersAmongCalls (r : Registry) : Event → Bool
  | .call _ _ => true
  | .step k =>
      match (r.calls k).pc with
      | .writing i =>
          r.ports i = some (r.calls k).channel.val ∨ (r.ports i = none ∧
            ∀ j < r.calls.next, r.ports (r.calls j).pc.port ≠ some (r.calls k).channel.val)
      | _ => true

theorem Filed.registers {event : Event} (filed : Filed firstPort [] r)
    (checked : registersAmongCalls r event = true) : Registers firstPort r event := by
  cases event with
  | call channel _channel => trivial
  | step k =>
      intro i writing
      simp only [registersAmongCalls, writing, decide_eq_true_eq] at checked
      cases checked with
      | inl holds => exact .inl holds
      | inr missing =>
          refine .inr ⟨missing.1, fun p _ holds => ?_⟩
          cases filed.filed p (by rw [holds]; exact nofun) with
          | inl old => cases old
          | inr returned =>
              obtain ⟨j, isCall, pc⟩ := returned
              have other := missing.2 j isCall
              rw [pc] at other
              exact other holds

theorem every_of_filed {trace : List (Event × Registry)} (filed : Filed firstPort [] r)
    (ran : Every (Under (fun r event => registersAmongCalls r event = true) (Step firstPort)) r
      trace) : Every (Under (Registers firstPort) (Step firstPort)) r trace :=
  ran.every_of_steps filed (fun _ _ _ filed stepped => filed.step stepped.2)
    fun _ _ _ filed stepped => ⟨filed.registers stepped.1, stepped.2⟩

/-- `a` has 10001 both times, `b` has 10002. -/
theorem ownPorts_of_three_calls : ∃ trace : List (Event × Registry),
    (final (start []) trace).calls.next = 3 ∧
      OwnPorts 10001 (start []).ports (final (start []) trace) := by
  let a : CStr := ⟨['a'], by decide⟩
  let b : CStr := ⟨['b'], by decide⟩
  have replayed : replay (fun r event => (react 10001 r event).elim (.error ()) .ok)
      registersAmongCalls (fun _ r => (r.calls.next, (r.calls 0).pc, (r.calls 1).pc,
        (r.calls 2).pc) = (3, .returned 10001, .returned 10002, .returned 10001)) (.step 2)
      (start []) [.call a [], .call b [], .step 0, .step 0, .step 1, .step 1, .call a [], .step 2,
        .step 1] = true := by decide
  obtain ⟨trace, r, ran, checked⟩ := replay_run_of_option replayed
  have every := every_of_filed (filed_start 10001 []) ran
  refine ⟨_, ?_, (ownPorts_of_registers every).2⟩
  rw [final_concat]
  exact congrArg Prod.fst (of_decide_eq_true checked)

/-- Two processes that scan before either writes take the same port. -/
theorem not_always_ownPorts : ¬ ∀ (directory : List (Nat × Str)) (trace : List (Event × Registry)),
    Every (Step 10001) (start directory) trace →
      Ends 10001 directory trace (final (start directory) trace) ∧
        OwnPorts 10001 (start directory).ports (final (start directory) trace) := by
  intro always
  let a : CStr := ⟨['a'], by decide⟩
  let b : CStr := ⟨['b'], by decide⟩
  have replayed : replay (fun r event => (react 10001 r event).elim (.error ()) .ok)
      (fun _ _ => true) (fun _ r => (r.calls.next, r.calls 0, r.calls 1) =
        (2, ⟨a, .returned 10001⟩, ⟨b, .returned 10001⟩)) (.step 1)
      (start []) [.call a [], .call b [], .step 0, .step 1, .step 0] = true := by decide
  obtain ⟨trace, r, ran, checked⟩ := replay_run_of_option replayed
  have own := (always [] _ ran.of_under).2
  rw [final_concat] at own
  simp only [Prod.mk.injEq, decide_eq_true_eq] at checked
  obtain ⟨calls, isA, isB⟩ := checked
  have same := own.unique 0 (by omega) 1 (by omega) 10001 (by rw [isA]) (by rw [isB])
  rw [isA, isB] at same
  exact absurd same (by decide)

end LibPubSub.PortRegistry
