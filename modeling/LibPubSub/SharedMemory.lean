import LibPubSub.Library.Runs
import LibPubSub.Utils
import Mathlib.Data.Finset.Card
import Mathlib.Data.Fintype.Basic
import Mathlib.Logic.Function.Basic

/-! `SHMServer` and `SHMClient` of `utils/shm.cpp`: two named semaphores hand a shared
segment to one reader or writer at a time. A party is a thread that calls methods of the
server object or of a client object. -/

set_option autoImplicit false

namespace LibPubSub.SharedMemory

open Transition

/-! ## The methods -/

inductive Sem where
  | read
  | write
  deriving DecidableEq

/-- What a method does with the segment. -/
inductive Access where
  /-- `memcpy(ptr, buf, len)`, with the `len` bytes of `buf`. -/
  | copyIn (bytes : Str)
  | nothing
  /-- `on_receive((char*)ptr, bufsize)`. -/
  | receive
  /-- `memcpy(buf, ptr, len)`. -/
  | copyOut (len : Nat)
  deriving DecidableEq

/-- `sem_wait(waits); access; sem_post(posts);` -/
structure Method where
  waits : Sem
  access : Access
  posts : Sem
  deriving DecidableEq

def SHMServer.write (bytes : Str) : Method := ⟨.write, .copyIn bytes, .read⟩
/-- `write()`. -/
def SHMServer.signal : Method := ⟨.write, .nothing, .read⟩
/-- `read()`. -/
def SHMServer.receive : Method := ⟨.read, .receive, .write⟩
def SHMServer.read (len : Nat) : Method := ⟨.read, .copyOut len, .write⟩

def SHMClient.write (bytes : Str) : Method := ⟨.write, .copyIn bytes, .read⟩
/-- `write()`. -/
def SHMClient.signal : Method := ⟨.write, .nothing, .read⟩
/-- `read()`. -/
def SHMClient.receive : Method := ⟨.read, .receive, .write⟩
def SHMClient.read (len : Nat) : Method := ⟨.read, .copyOut len, .write⟩

inductive Side where
  | server
  | client
  deriving DecidableEq

inductive Call where
  | write (bytes : Str)
  | signal
  | receive
  | read (len : Nat)
  deriving DecidableEq

/-- The call stays within a segment of `bufsize` bytes. -/
def Call.Within (bufsize : Nat) : Call → Prop
  | .write bytes => bytes.length ≤ bufsize
  | .read len => len ≤ bufsize
  | .signal | .receive => True

instance (bufsize : Nat) : (call : Call) → Decidable (call.Within bufsize)
  | .write _ | .read _ => inferInstanceAs (Decidable (_ ≤ _))
  | .signal | .receive => .isTrue trivial

def method : Side → Call → Method
  | .server, .write bytes => SHMServer.write bytes
  | .server, .signal => SHMServer.signal
  | .server, .receive => SHMServer.receive
  | .server, .read len => SHMServer.read len
  | .client, .write bytes => SHMClient.write bytes
  | .client, .signal => SHMClient.signal
  | .client, .receive => SHMClient.receive
  | .client, .read len => SHMClient.read len

/-! ## The semaphores -/

/-- `sem_open(name, O_CREAT, mode, value)`: a semaphore that exists is opened as it is. -/
def semOpen (sem : Option Nat) (value : Nat) : Option Nat :=
  some (sem.getD value)

/-- What the constructor of `SHMServer` does to the semaphores: both are unlinked and opened
with 0, and `semWrite` is posted. -/
def SHMServer.construct (_sems : Sem → Option Nat) : Sem → Option Nat
  | .read => semOpen none 0
  | .write => (semOpen none 0).map (· + 1)

/-- What the constructor of `SHMClient` does to the semaphores. -/
def SHMClient.construct (sems : Sem → Option Nat) : Sem → Option Nat
  | .read => semOpen (sems .read) 0
  | .write => semOpen (sems .write) 1

/-! ## The parties -/

/-- Where a party stands. -/
inductive Pc where
  | unborn
  | idle
  /-- Before or in `sem_wait`. -/
  | calling (m : Method)
  /-- Behind `sem_wait`. -/
  | entered (m : Method)
  /-- Before `sem_post`. -/
  | accessed (m : Method)
  deriving DecidableEq

/-- Between a wait and the matching post. -/
def Pc.inside : Pc → Bool
  | .entered _ | .accessed _ => true
  | .unborn | .idle | .calling _ => false

/-- `written` and `received` are the messages so far, in order. -/
structure State (P : Type) where
  sem : Sem → Option Nat
  segment : Str
  pc : P → Pc
  written : List Str := []
  received : List Str := []

inductive Event (P : Type) where
  /-- The object whose methods `p` calls is constructed. -/
  | construct (p : P)
  | call (p : P) (call : Call)
  | semWait (p : P)
  | access (p : P)
  | semPost (p : P)
  deriving DecidableEq

variable {P : Type}

/-- What the bytes of an access are added to. -/
def State.perform (bufsize : Nat) (s : State P) : Access → State P
  | .copyIn bytes => { s with
      segment := bytes ++ s.segment.drop bytes.length
      written := s.written ++ [bytes] }
  | .nothing => { s with written := s.written ++ [s.segment.take bufsize] }
  | .receive => { s with received := s.received ++ [s.segment.take bufsize] }
  | .copyOut len => { s with received := s.received ++ [s.segment.take len] }

variable [DecidableEq P]

def State.goto (s : State P) (p : P) (pc : Pc) : State P :=
  { s with pc := Function.update s.pc p pc }

/-- One step of a party; `none` where it cannot be taken. -/
def react (bufsize : Nat) (side : P → Side) (s : State P) : Event P → Option (State P)
  | .construct p =>
      match s.pc p with
      | .unborn => some { s.goto p .idle with sem := SHMClient.construct s.sem }
      | _ => none
  | .call p call =>
      match s.pc p with
      | .idle => if call.Within bufsize then some (s.goto p (.calling (method (side p) call))) else none
      | _ => none
  | .semWait p =>
      match s.pc p with
      | .calling m =>
          match s.sem m.waits with
          | some (value + 1) =>
              some { s.goto p (.entered m) with sem := Function.update s.sem m.waits (some value) }
          | _ => none
      | _ => none
  | .access p =>
      match s.pc p with
      | .entered m => some ((s.perform bufsize m.access).goto p (.accessed m))
      | _ => none
  | .semPost p =>
      match s.pc p with
      | .accessed m => some { s.goto p .idle with
          sem := Function.update s.sem m.posts ((s.sem m.posts).map (· + 1)) }
      | _ => none

def Step (bufsize : Nat) (side : P → Side) (s : State P) (event : Event P) (s' : State P) : Prop :=
  react bufsize side s event = some s'

omit [DecidableEq P] in
/-- Behind the constructor of the server, of which there is one. Whatever semaphores of these
names there were. -/
def start (side : P → Side) (sems : Sem → Option Nat) (segment : Str) : State P where
  sem := SHMServer.construct sems
  segment := segment
  pc p := if side p = .server then .idle else .unborn

/-! ## What is handed over -/

/-- A reader gets the message as far as it asks for, or more than the message. -/
def Conveys (received message : Str) : Prop :=
  received <+: message ∨ message <+: received

/-- Who may go on: the next one that waits for a semaphore, or the party that did. -/
inductive Turn (P : Type) where
  | free (sem : Sem)
  | held (p : P)
  deriving DecidableEq

/-- A message has been written and not been read. -/
def Pc.full : Pc → Bool
  | .entered m => m.waits = .read
  | .accessed m => m.waits = .write
  | .unborn | .idle | .calling _ => false

omit [DecidableEq P] in
def State.full (s : State P) : Turn P → Bool
  | .free sem => sem = .read
  | .held p => (s.pc p).full

/-- Writers wait for `semWrite` and post `semRead`, readers the other way round. -/
def Access.writes : Access → Bool
  | .copyIn _ | .nothing => true
  | .receive | .copyOut _ => false

structure Method.Fair (m : Method) : Prop where
  waits : m.waits = if m.access.writes then .write else .read
  posts : m.posts = if m.access.writes then .read else .write

theorem fair_method (side : Side) (call : Call) : (method side call).Fair := by
  cases side <;> cases call <;> exact ⟨rfl, rfl⟩

/-- The method that a party is in. -/
def Pc.method? : Pc → Option Method
  | .calling m | .entered m | .accessed m => some m
  | .unborn | .idle => none

/-- The invariant: there is one turn, and at most one message that has not been read, which
is at the start of the segment. -/
structure HandsOver (s : State P) (turn : Turn P) : Prop where
  sem : ∀ x, s.sem x = some (if turn = .free x then 1 else 0)
  inside : ∀ p, (s.pc p).inside = true ↔ turn = .held p
  fair : ∀ p m, (s.pc p).method? = some m → m.Fair
  handed : ∃ read pending, s.written = read ++ pending ∧
    List.Forall₂ Conveys s.received read ∧
      if s.full turn then ∃ message, pending = [message] ∧ message <+: s.segment
      else pending = []

section

variable {bufsize : Nat} {side : P → Side} {s s' : State P} {turn : Turn P} {p : P} {m : Method}
  {pc : Pc}

omit [DecidableEq P] in
theorem perform_writes (bufsize : Nat) (s : State P) {access : Access}
    (writes : access.writes = true) :
    ∃ message, (s.perform bufsize access).written = s.written ++ [message] ∧
      message <+: (s.perform bufsize access).segment ∧
      (s.perform bufsize access).received = s.received := by
  cases access with
  | copyIn bytes => exact ⟨bytes, rfl, List.prefix_append .., rfl⟩
  | nothing => exact ⟨s.segment.take bufsize, rfl, List.take_prefix .., rfl⟩
  | receive | copyOut => cases writes

omit [DecidableEq P] in
theorem perform_reads (bufsize : Nat) (s : State P) {access : Access}
    (reads : access.writes = false) :
    ∃ bytes, (s.perform bufsize access).received = s.received ++ [bytes] ∧
      bytes <+: s.segment ∧ (s.perform bufsize access).written = s.written := by
  cases access with
  | receive => exact ⟨s.segment.take bufsize, rfl, List.take_prefix .., rfl⟩
  | copyOut len => exact ⟨s.segment.take len, rfl, List.take_prefix .., rfl⟩
  | copyIn | nothing => cases reads

omit [DecidableEq P] in
theorem perform_beside (bufsize : Nat) (s : State P) (access : Access) :
    (s.perform bufsize access).sem = s.sem ∧ (s.perform bufsize access).pc = s.pc := by
  cases access <;> exact ⟨rfl, rfl⟩

@[simp] theorem goto_self (s : State P) (p : P) (pc : Pc) : (s.goto p pc).pc p = pc := by
  simp [State.goto]

theorem goto_of_ne (s : State P) {p q : P} (pc : Pc) (other : q ≠ p) :
    (s.goto p pc).pc q = s.pc q := by
  simp [State.goto, other]

/-- A party may move outside without anybody noticing. -/
theorem HandsOver.goto (hands : HandsOver s turn) (outside : (s.pc p).inside = false)
    (stays : pc.inside = false) (fair : ∀ m, pc.method? = some m → m.Fair) :
    HandsOver (s.goto p pc) turn := by
  have notHeld : turn ≠ .held p := by
    intro held
    rw [(hands.inside p).mpr held] at outside
    cases outside
  have full : (s.goto p pc).full turn = s.full turn := by
    cases turn with
    | free x => rfl
    | held q =>
        have other : q ≠ p := fun same => notHeld (same ▸ rfl)
        simp only [State.full, goto_of_ne s pc other]
  constructor
  · exact hands.sem
  · intro q
    by_cases same : q = p
    · subst same
      simp [stays, notHeld]
    · rw [goto_of_ne s pc same]
      exact hands.inside q
  · intro q m
    by_cases same : q = p
    · subst same
      rw [goto_self]
      exact fair m
    · rw [goto_of_ne s pc same]
      exact hands.fair q m
  · rw [full]
    exact hands.handed

theorem HandsOver.construct (hands : HandsOver s turn) : SHMClient.construct s.sem = s.sem := by
  funext x
  cases x <;> simp [SHMClient.construct, semOpen, hands.sem]

theorem HandsOver.semWait (hands : HandsOver s turn) (calling : s.pc p = .calling m) {value : Nat}
    (free : s.sem m.waits = some (value + 1)) :
    HandsOver { s.goto p (.entered m) with sem := Function.update s.sem m.waits (some value) }
      (.held p) := by
  have isFree : turn = .free m.waits ∧ value = 0 := by
    rw [hands.sem] at free
    split at free
    · next isFree => exact ⟨isFree, by simpa using free.symm⟩
    · simp at free
  obtain ⟨rfl, rfl⟩ := isFree
  constructor
  · intro x
    by_cases same : x = m.waits
    · subst same
      simp
    · simp [Function.update_of_ne same, hands.sem, Ne.symm same]
  · intro q
    by_cases same : q = p
    · subst same
      simp [Pc.inside, State.goto]
    · have outside := hands.inside q
      simp only [reduceCtorEq, iff_false, Bool.not_eq_true] at outside
      simp [State.goto, same, outside, Ne.symm same]
  · intro q m'
    by_cases same : q = p
    · subst same
      simp only [State.goto, Function.update_self, Pc.method?, Option.some.injEq]
      rintro rfl
      exact hands.fair q m (by rw [calling]; rfl)
    · simp only [State.goto, Function.update_of_ne same]
      exact hands.fair q m'
  · have full : State.full (s.goto p (.entered m)) (.held p) = s.full (.free m.waits) := by
      simp [State.full, Pc.full]
    obtain ⟨read, pending, written, conveyed, rest⟩ := hands.handed
    rw [← full] at rest
    exact ⟨read, pending, written, conveyed, rest⟩

theorem HandsOver.access (hands : HandsOver s turn) (entered : s.pc p = .entered m) :
    HandsOver ((s.perform bufsize m.access).goto p (.accessed m)) turn := by
  have held : turn = .held p := (hands.inside p).mp (by rw [entered]; rfl)
  subst held
  have fair := hands.fair p m (by rw [entered]; rfl)
  obtain ⟨sem, pcs⟩ := perform_beside bufsize s m.access
  constructor
  · intro x
    change (s.perform bufsize m.access).sem x = _
    rw [sem]
    exact hands.sem x
  · intro q
    by_cases same : q = p
    · subst same
      simp [Pc.inside]
    · rw [goto_of_ne _ _ same, pcs]
      exact hands.inside q
  · intro q m'
    by_cases same : q = p
    · subst same
      simp only [goto_self, Pc.method?, Option.some.injEq]
      rintro rfl
      exact fair
    · rw [goto_of_ne _ _ same, pcs]
      exact hands.fair q m'
  · obtain ⟨read, pending, written, conveyed, rest⟩ := hands.handed
    have before : s.full (.held p) = (m.waits = Sem.read : Bool) := by
      simp [State.full, entered, Pc.full]
    have after : State.full ((s.perform bufsize m.access).goto p (.accessed m)) (.held p) =
        (m.waits = Sem.write : Bool) := by
      simp [State.full, Pc.full]
    rw [before] at rest
    rw [after]
    cases writes : m.access.writes with
    | true =>
        have waits := fair.waits
        rw [writes] at waits
        obtain ⟨message, isWritten, start, isReceived⟩ := perform_writes bufsize s writes
        simp only [waits, ↓reduceIte, reduceCtorEq, decide_false, Bool.false_eq_true] at rest ⊢
        subst rest
        refine ⟨read, [message], ?_, ?_, by simp; exact start⟩
        · change (s.perform bufsize m.access).written = _
          rw [isWritten, written, List.append_nil]
        · change List.Forall₂ Conveys (s.perform bufsize m.access).received read
          rw [isReceived]
          exact conveyed
    | false =>
        have waits := fair.waits
        rw [writes] at waits
        obtain ⟨bytes, isReceived, start, isWritten⟩ := perform_reads bufsize s writes
        simp only [waits, Bool.false_eq_true, ↓reduceIte, reduceCtorEq, decide_true,
          decide_false] at rest ⊢
        obtain ⟨message, rfl, atStart⟩ := rest
        refine ⟨read ++ [message], [], ?_, ?_, rfl⟩
        · change (s.perform bufsize m.access).written = _
          rw [isWritten, written, List.append_nil]
        · change List.Forall₂ Conveys (s.perform bufsize m.access).received (read ++ [message])
          rw [isReceived]
          exact List.rel_append conveyed
            (.cons (List.prefix_or_prefix_of_prefix start atStart) .nil)

theorem HandsOver.semPost (hands : HandsOver s turn) (accessed : s.pc p = .accessed m) :
    HandsOver { s.goto p .idle with
      sem := Function.update s.sem m.posts ((s.sem m.posts).map (· + 1)) } (.free m.posts) := by
  have held : turn = .held p := (hands.inside p).mp (by rw [accessed]; rfl)
  subst held
  have fair := hands.fair p m (by rw [accessed]; rfl)
  constructor
  · intro x
    by_cases same : x = m.posts
    · subst same
      simp [hands.sem]
    · simp [Function.update_of_ne same, hands.sem, Ne.symm same]
  · intro q
    by_cases same : q = p
    · subst same
      simp [Pc.inside, State.goto]
    · have outside : (s.pc q).inside = false := by
        rw [← Bool.not_eq_true, hands.inside q]
        simp [Ne.symm same]
      simp [State.goto, same, outside]
  · intro q m'
    by_cases same : q = p
    · subst same
      simp [State.goto, Pc.method?]
    · simp only [State.goto, Function.update_of_ne same]
      exact hands.fair q m'
  · have full : s.full (.held p) = State.full (s.goto p .idle) (.free m.posts) := by
      simp only [State.full, accessed, Pc.full, fair.waits, fair.posts]
      cases m.access.writes <;> rfl
    obtain ⟨read, pending, written, conveyed, rest⟩ := hands.handed
    rw [full] at rest
    exact ⟨read, pending, written, conveyed, rest⟩

/-- Every step keeps one turn. -/
theorem HandsOver.step {event : Event P} (hands : HandsOver s turn)
    (stepped : Step bufsize side s event s') : ∃ turn', HandsOver s' turn' := by
  unfold Step at stepped
  cases event with
  | construct p =>
      simp only [react] at stepped
      split at stepped
      · next unborn =>
        cases stepped
        rw [hands.construct]
        exact ⟨turn, hands.goto (by rw [unborn]; rfl) rfl nofun⟩
      · cases stepped
  | call p call =>
      simp only [react] at stepped
      split at stepped
      · next idle =>
        split at stepped
        · cases stepped
          refine ⟨turn, hands.goto (by rw [idle]; rfl) rfl ?_⟩
          rintro m ⟨⟩
          exact fair_method (side p) call
        · cases stepped
      · cases stepped
  | semWait p =>
      simp only [react] at stepped
      split at stepped
      · next m calling =>
        split at stepped
        · next value free =>
          cases stepped
          exact ⟨_, hands.semWait calling free⟩
        · cases stepped
      · cases stepped
  | access p =>
      simp only [react] at stepped
      split at stepped
      · next m entered =>
        cases stepped
        exact ⟨_, hands.access entered⟩
      · cases stepped
  | semPost p =>
      simp only [react] at stepped
      split at stepped
      · next m accessed =>
        cases stepped
        exact ⟨_, hands.semPost accessed⟩
      · cases stepped

theorem handsOver_start (side : P → Side) (sems : Sem → Option Nat) (segment : Str) :
    HandsOver (start side sems segment) (.free .write) := by
  constructor
  · intro x
    cases x <;> rfl
  · intro p
    simp only [start]
    split <;> simp [Pc.inside]
  · intro p m
    simp only [start]
    split <;> simp [Pc.method?]
  · exact ⟨[], [], rfl, .nil, rfl⟩

end

/-! ## One message at a time -/

/-- What the two semaphores see to. Messages of one length come out as they went in. -/
structure OneAtATime [Fintype P] (s : State P) : Prop where
  one : ∃ semRead semWrite, s.sem .read = some semRead ∧ s.sem .write = some semWrite ∧
    semRead + semWrite + (Finset.univ.filter fun p => (s.pc p).inside = true).card = 1
  alone : ∀ p q, (s.pc p).inside = true → (s.pc q).inside = true → p = q
  inOrder : List.Forall₂ Conveys s.received (s.written.take s.received.length)
  lagging : s.received.length ≤ s.written.length ∧ s.written.length ≤ s.received.length + 1
  exact : ∀ n, (∀ m ∈ s.written, m.length = n) → (∀ m ∈ s.received, m.length = n) →
    s.received <+: s.written

omit [DecidableEq P] in
theorem Conveys.same {received message : Str} (conveys : Conveys received message)
    (length : received.length = message.length) : received = message := by
  cases conveys with
  | inl start => exact start.eq_of_length length
  | inr start => exact (start.eq_of_length length.symm).symm

theorem eq_of_conveys {received messages : List Str} {n : Nat}
    (conveyed : List.Forall₂ Conveys received messages)
    (lengthReceived : ∀ m ∈ received, m.length = n) (length : ∀ m ∈ messages, m.length = n) :
    received = messages := by
  induction conveyed with
  | nil => rfl
  | cons conveys _ ih =>
      obtain ⟨headReceived, tailReceived⟩ := List.forall_mem_cons.mp lengthReceived
      obtain ⟨head, tail⟩ := List.forall_mem_cons.mp length
      rw [conveys.same (headReceived.trans head.symm), ih tailReceived tail]

theorem HandsOver.oneAtATime [Fintype P] {s : State P} {turn : Turn P}
    (hands : HandsOver s turn) : OneAtATime s := by
  obtain ⟨read, pending, written, conveyed, rest⟩ := hands.handed
  have length := conveyed.length_eq
  have isRead : s.written.take s.received.length = read := by
    rw [written, length, List.take_left]
  have one : pending.length ≤ 1 := by
    split at rest
    · obtain ⟨message, rfl, _⟩ := rest
      simp
    · simp [rest]
  constructor
  · refine ⟨_, _, hands.sem .read, hands.sem .write, ?_⟩
    have inside : (Finset.univ.filter fun p => (s.pc p).inside = true) =
        Finset.univ.filter fun p => turn = .held p :=
      Finset.filter_congr fun p _ => hands.inside p
    rw [inside]
    cases turn with
    | free x =>
        cases x <;> simp
    | held p =>
        have single : (Finset.univ.filter fun q => Turn.held p = .held q) = {p} := by
          ext q
          simp [eq_comm]
        rw [single]
        simp
  · intro p q insideP insideQ
    have held := (hands.inside p).mp insideP
    rw [(hands.inside q).mp insideQ] at held
    cases held
    rfl
  · rw [isRead]
    exact conveyed
  · rw [written, List.length_append]
    omega
  · intro n lengthWritten lengthReceived
    have same : s.received = read := by
      apply eq_of_conveys conveyed lengthReceived
      exact fun m member => lengthWritten m (written ▸ List.mem_append_left _ member)
    rw [same, written]
    exact List.prefix_append _ _

end LibPubSub.SharedMemory
