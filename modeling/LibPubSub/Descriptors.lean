import LibPubSub.Library.Heap
import LibPubSub.Library.Runs
import LibPubSub.Library.Slots
import LibPubSub.Socket

/-! The descriptors behind the sockets of a process. `TCPSocket` stores the number of
its descriptor and keeps it when the descriptor is closed, which happens in
three places: behind the receive loop of `run`, in `Host::on_close`, and in a
`close()` from another thread. The steps are the system calls, with the flags
that are read and written between them. -/

set_option autoImplicit false

namespace LibPubSub

open Transition

namespace Descriptors

abbrev Fd := Nat

/-- Whose `on_close` is installed. -/
inductive Callback where
  /-- `Host::on_close`, which calls `socket->close()`. -/
  | host
  /-- Any other, which does not. -/
  | other
  deriving DecidableEq

/-- Where the thread of a socket stands. -/
inductive Stage where
  /-- `run` has not been called. -/
  | idle
  /-- A client calls `::connect`; a server is about to clear `bStop`. -/
  | opening
  | receiving
  /-- The receive loop has ended and `::close(fd)` is next. -/
  | broken
  /-- `on_close` is next. -/
  | closed
  /-- `Host::on_close` has set `bStop` and its `::close(fd)` is next. -/
  | callback
  /-- `on_close` has returned. -/
  | notified
  | ended
  deriving DecidableEq

/-- The thread has not called `::close(fd)` for the descriptor it was given. -/
def Stage.early : Stage → Bool
  | .idle | .opening | .receiving | .broken => true
  | .closed | .callback | .notified | .ended => false

/-- A `TCPSocket`, with the calls that other threads have begun on it. -/
structure Socket where
  fd : Option Fd := none
  isClient : Bool := true
  bStop : Bool := true
  bReconnect : Bool := true
  onClose : Option Callback := none
  stage : Stage := .idle
  /-- Calls of `close()` that have set `bStop`, with their `::close(fd)` still to come. -/
  closing : Nat := 0
  /-- Writes that have passed the test of `bStop`, with their `send` still to come. -/
  sending : Nat := 0
  /-- One of those calls of `close()` has closed `fd` since it was stored. -/
  shut : Bool := false
  deriving DecidableEq

inductive Owner where
  | socket (k : SockPtr)
  /-- Files, listening sockets and whatever else the process has open. -/
  | elsewhere
  deriving DecidableEq

/-- One step that a thread takes for a socket. -/
inductive SocketStep where
  /-- `connect(ip, port)`. -/
  | connect
  /-- The server starts the thread of an accepted socket. -/
  | run
  /-- `::connect` has succeeded, and `bStop` is cleared. -/
  | opened
  /-- `recv` has returned no data, or `bStop` is set. -/
  | broke
  | runClose
  | onClose
  | callbackClose
  | reconnect
  | finish
  /-- `setSocket`, `remove_listeners` and the other writers of `on_close`. -/
  | listen (callback : Option Callback)
  /-- `close(bDontReconnect)` up to its `::close(fd)`. -/
  | stop (bDontReconnect : Bool)
  | shut
  /-- The test in `Host::send`, or in `Host::welcome`, which then writes twice. -/
  | guard (writes : Nat)
  | send
  deriving DecidableEq

inductive Syscall where
  | socket
  | close
  | send
  deriving DecidableEq

def SocketStep.call : SocketStep → Option Syscall
  | .connect | .reconnect => some .socket
  | .runClose | .callbackClose | .shut => some .close
  | .send => some .send
  | _ => none

namespace Socket

def Ready (s : Socket) : SocketStep → Prop
  | .connect => s.stage = .idle ∧ s.fd = none
  | .run => s.stage = .idle ∧ s.fd ≠ none
  | .opened => s.stage = .opening
  | .broke => s.stage = .receiving
  | .runClose => s.stage = .broken
  | .onClose => s.stage = .closed
  | .callbackClose => s.stage = .callback
  | .reconnect => s.stage = .notified ∧ s.bReconnect = true ∧ s.isClient = true
  -- also where the host name cannot be resolved any more
  | .finish => s.stage = .notified
  | .listen _ | .stop _ => True
  | .shut => 0 < s.closing
  | .guard _ => s.bStop = false
  | .send => 0 < s.sending

instance (s : Socket) (step : SocketStep) : Decidable (s.Ready step) := by
  cases step <;> unfold Ready <;> infer_instance

/-- What a step does to the socket; `fd` is what `socket()` returns, should it be called. -/
def after (s : Socket) (fd : Fd) : SocketStep → Socket
  | .connect => { s with fd := some fd, isClient := true, stage := .opening, shut := false }
  | .run => { s with stage := .opening }
  | .opened => { s with bStop := false, stage := .receiving }
  | .broke => { s with stage := .broken }
  | .runClose => { s with stage := .closed }
  | .onClose =>
      if s.onClose = some .host then { s with bStop := true, stage := .callback }
      else { s with stage := .notified }
  | .callbackClose => { s with stage := .notified }
  | .reconnect => { s with fd := some fd, isClient := true, stage := .opening, shut := false }
  | .finish => { s with stage := .ended }
  | .listen callback => { s with onClose := callback }
  | .stop bDontReconnect =>
      { s with
        bReconnect := if bDontReconnect then false else s.bReconnect
        bStop := true
        closing := s.closing + 1 }
  | .shut => { s with closing := s.closing - 1, shut := true }
  | .guard writes => { s with sending := s.sending + writes }
  | .send => { s with sending := s.sending - 1 }

/-- The descriptor that the socket stores has not been closed by the socket's own thread
or by a `close()`. -/
def Fresh (s : Socket) : Prop :=
  s.fd ≠ none ∧ s.shut = false ∧ s.stage.early = true

instance (s : Socket) : Decidable s.Fresh :=
  inferInstanceAs (Decidable (_ ∧ _))

end Socket

structure Process where
  table : Slots Owner
  sock : Heap Socket

inductive Event where
  /-- `new TCPSocket()`. -/
  | create
  /-- `accept()` and the `TCPSocket` made of what it returns. -/
  | accept
  | on (k : SockPtr) (step : SocketStep)
  /-- Something else in the process opens or closes a descriptor. -/
  | opens
  | closes (fd : Fd)
  deriving DecidableEq

namespace Process

/-- `fd` is a descriptor that socket `k` has obtained and that is still open. -/
def Holds (p : Process) (k : SockPtr) (fd : Fd) : Prop :=
  p.table.owner fd = some (.socket k)

instance (p : Process) (k : SockPtr) (fd : Fd) : Decidable (p.Holds k fd) :=
  inferInstanceAs (Decidable (_ = _))

/-- What a system call for socket `k` does to the table. -/
def tableAfter (p : Process) (k : SockPtr) : Option Syscall → Slots Owner
  | some .socket => p.table.take (.socket k)
  | some .close =>
      match (p.sock k).fd with
      | some fd => p.table.release fd
      | none => p.table
  | some .send | none => p.table

def Enabled (p : Process) : Event → Prop
  | .create | .accept | .opens => True
  | .on k step => k < p.sock.next ∧ (p.sock k).Ready step ∧
      -- `::connect` fails on a closed descriptor
      (step = .opened → (p.sock k).isClient = true →
        ((p.sock k).fd.bind p.table.owner).isSome = true)
  | .closes fd => p.table.owner fd = some .elsewhere

instance (p : Process) (event : Event) : Decidable (p.Enabled event) := by
  cases event <;> unfold Enabled <;> infer_instance

def next (p : Process) : Event → Process
  | .create => { p with sock := p.sock.alloc {} }
  | .accept =>
      { table := p.table.take (.socket p.sock.next)
        sock := p.sock.alloc { fd := some p.table.lowest, isClient := false } }
  | .on k step =>
      { table := p.tableAfter k step.call
        sock := p.sock.modify k fun s => s.after p.table.lowest step }
  | .opens => { p with table := p.table.take .elsewhere }
  | .closes fd => { p with table := p.table.release fd }

/-- An event that is not enabled waits. -/
def react (p : Process) (event : Event) : Except Unit Process :=
  if p.Enabled event then .ok (p.next event) else .error ()

def Step (p : Process) (event : Event) (p' : Process) : Prop :=
  p.react event = .ok p'

/-- A process without sockets, with some descriptors open. -/
def start (opened : List Bool) : Process where
  table := opened.map fun inUse => if inUse then some .elsewhere else none
  sock := Heap.empty {}

/-- A `::close(fd)` or `send(fd, ..)` for a socket acts on a descriptor that this socket
has obtained and that has not been closed since. -/
def Owned (p : Process) : Event → Prop
  | .on k step => step.call = some .close ∨ step.call = some .send →
      ∃ fd, (p.sock k).fd = some fd ∧ p.Holds k fd
  | _ => True

/-- The thread is the first to close the descriptor and nothing is sent behind that: no
`close()` has come before the thread's own `::close(fd)`, `Host::on_close` does
not run on it, and a `close()` or a write reaches the descriptor only before. -/
def Disciplined (p : Process) : Event → Prop
  | .on k .runClose => (p.sock k).shut = false
  | .on _ .callbackClose => False
  | .on k .shut | .on k .send => (p.sock k).Fresh
  | _ => True

instance (p : Process) (event : Event) : Decidable (p.Disciplined event) := by
  unfold Disciplined
  split <;> infer_instance

theorem step_iff {p p' : Process} {event : Event} :
    Step p event p' ↔ p.Enabled event ∧ p' = p.next event := by
  unfold Step react
  split
  · next enabled =>
    constructor
    · intro ran
      exact ⟨enabled, (Except.ok.inj ran).symm⟩
    · rintro ⟨_, rfl⟩
      rfl
  · next waits =>
    constructor
    · intro ran
      cases ran
    · intro both
      exact absurd both.1 waits

/-! ## Who holds what -/

/-- A socket holds exactly the descriptor it stores, as long as that is fresh. -/
structure Tracked (p : Process) : Prop where
  holds : ∀ k fd, p.Holds k fd ↔ k < p.sock.next ∧ (p.sock k).fd = some fd ∧ (p.sock k).Fresh
  started : ∀ k, (p.sock k).stage ≠ .idle → (p.sock k).fd ≠ none

theorem tracked_start (opened : List Bool) : Tracked (start opened) := by
  constructor
  · intro k fd
    refine iff_of_false ?_ fun both => absurd both.1 (Nat.not_lt_zero k)
    unfold Holds Slots.owner start
    rw [List.getElem?_map]
    cases opened[fd]? with
    | none => exact nofun
    | some inUse => cases inUse <;> exact nofun
  · intro k moved
    exact absurd rfl moved

theorem Tracked.owned_iff {p : Process} (tracked : Tracked p) {k : SockPtr}
    (exists_ : k < p.sock.next) :
    (∃ fd, (p.sock k).fd = some fd ∧ p.Holds k fd) ↔ (p.sock k).Fresh := by
  constructor
  · rintro ⟨fd, _, holds⟩
    exact ((tracked.holds k fd).mp holds).2.2
  · intro fresh
    obtain ⟨fd, stored⟩ := Option.ne_none_iff_exists'.mp fresh.1
    exact ⟨fd, stored, (tracked.holds k fd).mpr ⟨exists_, stored, fresh⟩⟩

/-- On the descriptors of a sound history the two conditions say the same. -/
theorem Tracked.owned_iff_disciplined {p : Process} (tracked : Tracked p) {event : Event}
    (enabled : p.Enabled event) : p.Owned event ↔ p.Disciplined event := by
  cases event with
  | create => exact Iff.rfl
  | accept => exact Iff.rfl
  | opens => exact Iff.rfl
  | closes fd => exact Iff.rfl
  | on k step =>
      obtain ⟨allocated, ready, _⟩ := enabled
      have owned := tracked.owned_iff allocated
      cases step with
      | runClose =>
          have broken : (p.sock k).stage = .broken := ready
          have stored : (p.sock k).fd ≠ none := tracked.started k (by rw [broken]; exact nofun)
          refine (forall_prop_of_true (.inl rfl)).trans (owned.trans ?_)
          constructor
          · exact fun fresh => fresh.2.1
          · intro first
            exact ⟨stored, first, by rw [broken]; rfl⟩
      | callbackClose =>
          have inside : (p.sock k).stage = .callback := ready
          refine iff_of_false (fun held => ?_) not_false
          have late := (owned.mp (held (.inl rfl))).2.2
          rw [inside] at late
          cases late
      | shut => exact (forall_prop_of_true (.inl rfl)).trans owned
      | send => exact (forall_prop_of_true (.inr rfl)).trans owned
      -- the others neither close nor send
      | _ => exact iff_of_true (fun acts => by simp [SocketStep.call] at acts) trivial

end Process

namespace Socket

variable {s : Socket} {step : SocketStep}

theorem fresh_congr {s' : Socket} (fd : s'.fd = s.fd) (shut : s'.shut = s.shut)
    (early : s'.stage.early = s.stage.early) : s'.Fresh ↔ s.Fresh := by
  unfold Fresh
  rw [fd, shut, early]

/-- A step that neither obtains nor closes leaves the descriptor as fresh as it was. -/
theorem after_quiet (ready : s.Ready step) (fd : Fd)
    (quiet : step.call = none ∨ step.call = some .send) :
    (s.after fd step).fd = s.fd ∧ ((s.after fd step).Fresh ↔ s.Fresh) := by
  cases step with
  | connect => simp [SocketStep.call] at quiet
  | reconnect => simp [SocketStep.call] at quiet
  | runClose => simp [SocketStep.call] at quiet
  | callbackClose => simp [SocketStep.call] at quiet
  | shut => simp [SocketStep.call] at quiet
  | run => exact ⟨rfl, fresh_congr rfl rfl (by rw [ready.1]; rfl)⟩
  | opened => exact ⟨rfl, fresh_congr rfl rfl (by rw [show s.stage = .opening from ready]; rfl)⟩
  | broke => exact ⟨rfl, fresh_congr rfl rfl (by rw [show s.stage = .receiving from ready]; rfl)⟩
  | finish => exact ⟨rfl, fresh_congr rfl rfl (by rw [show s.stage = .notified from ready]; rfl)⟩
  | onClose =>
      have late : s.stage = .closed := ready
      change (ite _ _ _ : Socket).fd = _ ∧ ((ite _ _ _ : Socket).Fresh ↔ _)
      split
      · exact ⟨rfl, fresh_congr rfl rfl (by rw [late]; rfl)⟩
      · exact ⟨rfl, fresh_congr rfl rfl (by rw [late]; rfl)⟩
  | listen _ => exact ⟨rfl, Iff.rfl⟩
  | stop _ => exact ⟨rfl, Iff.rfl⟩
  | guard _ => exact ⟨rfl, Iff.rfl⟩
  | send => exact ⟨rfl, Iff.rfl⟩

theorem after_closes (fd : Fd) (closes : step.call = some .close) :
    (s.after fd step).fd = s.fd ∧ ¬ (s.after fd step).Fresh := by
  cases step with
  | runClose => exact ⟨rfl, fun fresh => Bool.false_ne_true fresh.2.2⟩
  | callbackClose => exact ⟨rfl, fun fresh => Bool.false_ne_true fresh.2.2⟩
  | shut => exact ⟨rfl, fun fresh => Bool.false_ne_true fresh.2.1.symm⟩
  | _ => simp [SocketStep.call] at closes

theorem after_obtains (ready : s.Ready step) (fd : Fd) (obtains : step.call = some .socket) :
    ¬ s.Fresh ∧ (s.after fd step).fd = some fd ∧ (s.after fd step).Fresh := by
  cases step with
  | connect => exact ⟨fun fresh => fresh.1 ready.2, rfl, nofun, rfl, rfl⟩
  | reconnect =>
      refine ⟨fun fresh => ?_, rfl, nofun, rfl, rfl⟩
      have early := fresh.2.2
      rw [ready.1] at early
      cases early
  | _ => simp [SocketStep.call] at obtains

theorem after_started (ready : s.Ready step) (fd : Fd) (started : s.stage ≠ .idle → s.fd ≠ none) :
    (s.after fd step).stage ≠ .idle → (s.after fd step).fd ≠ none := by
  have moved {stage : Stage} (stands : s.stage = stage) (apart : stage ≠ .idle) : s.fd ≠ none :=
    started (stands ▸ apart)
  cases step with
  | connect => exact fun _ => nofun
  | reconnect => exact fun _ => nofun
  | run => exact fun _ => ready.2
  | opened => exact fun _ => moved ready nofun
  | broke => exact fun _ => moved ready nofun
  | runClose => exact fun _ => moved ready nofun
  | callbackClose => exact fun _ => moved ready nofun
  | finish => exact fun _ => moved ready nofun
  | onClose =>
      have stored := moved (show s.stage = .closed from ready) nofun
      change (ite _ _ _ : Socket).stage ≠ _ → (ite _ _ _ : Socket).fd ≠ none
      split
      · exact fun _ => stored
      · exact fun _ => stored
  | _ => exact started

/-! ## The steps that the node model takes at once -/

/-- The socket as the node model sees it, on connection `c`. -/
def view (s : Socket) (c : ConnId) : TCPSocket Callback where
  isClient := s.isClient
  bStop := s.bStop
  bReconnect := s.bReconnect
  listeners := s.onClose
  fdOpen := decide s.Fresh
  thread :=
    match s.stage with
    | .idle => .idle
    | .opening => .connecting
    | .receiving | .broken | .closed | .callback | .notified => .receiving c
    | .ended => .ended

/-- The thread behind its receive loop, with nothing in between. -/
def eof (s : Socket) (fd : Fd) : Socket :=
  let s := (s.after fd .runClose).after fd .onClose
  let s := if s.stage = .callback then s.after fd .callbackClose else s
  s.after fd (if s.bReconnect && s.isClient then .reconnect else .finish)

theorem view_opened (opening : s.stage = .opening) (fd : Fd) (c : ConnId) :
    (s.after fd .opened).view c = (s.view c).connected c := by
  have fresh : (s.after fd .opened).Fresh ↔ s.Fresh :=
    fresh_congr rfl rfl (by rw [opening]; rfl)
  simp only [view, TCPSocket.connected, fresh]
  rfl

/-- `close()` with nothing between the flags and the descriptor. -/
theorem view_close (s : Socket) (fd : Fd) (c : ConnId) (bDontReconnect : Bool) :
    ((s.after fd (.stop bDontReconnect)).after fd .shut).view c =
      (s.view c).close bDontReconnect := by
  have closes : SocketStep.shut.call = some .close := rfl
  obtain ⟨_, stale⟩ := after_closes (s := s.after fd (.stop bDontReconnect)) fd closes
  simp only [view, TCPSocket.close, stale, decide_false]
  rfl

/-- What follows the receive loop. -/
theorem view_eof (broken : s.stage = .broken) (fd : Fd) (c : ConnId) :
    (s.eof fd).view c =
      (if s.onClose = some .host then (s.view c).closeFd.close false
        else (s.view c).closeFd).reconnectOrEnd := by
  obtain ⟨number, isClient, bStop, bReconnect, onClose, stage, closing, sending, shut⟩ := s
  cases broken
  by_cases host : onClose = some .host
  · cases isClient <;> cases bReconnect <;>
      simp [eof, after, host, view, TCPSocket.closeFd, TCPSocket.close, TCPSocket.reconnectOrEnd,
        Fresh, Stage.early]
  · cases isClient <;> cases bReconnect <;>
      simp [eof, after, host, view, TCPSocket.closeFd, TCPSocket.reconnectOrEnd, Fresh,
        Stage.early]

end Socket

namespace Process

/-! ## What a step keeps -/

section

variable {p : Process} {k : SockPtr} {step : SocketStep}

theorem next_self (p : Process) (k : SockPtr) (step : SocketStep) :
    (p.next (.on k step)).sock k = (p.sock k).after p.table.lowest step :=
  p.sock.modify_self k fun s => s.after p.table.lowest step

/-- A step of socket `k` that leaves what the others hold keeps track of the descriptors,
if `k` itself holds what it stores as long as that is fresh. -/
private theorem Tracked.on (tracked : Tracked p) (allocated : k < p.sock.next)
    (ready : (p.sock k).Ready step)
    (others : ∀ j fd, j ≠ k → ((p.next (.on k step)).Holds j fd ↔ p.Holds j fd))
    (own : ∀ fd, (p.next (.on k step)).Holds k fd ↔
      ((p.sock k).after p.table.lowest step).fd = some fd ∧
        ((p.sock k).after p.table.lowest step).Fresh) : Tracked (p.next (.on k step)) := by
  have other (j : SockPtr) (apart : j ≠ k) : (p.next (.on k step)).sock j = p.sock j :=
    p.sock.modify_of_ne (fun s => s.after p.table.lowest step) apart
  constructor
  · intro j fd
    change _ ↔ j < p.sock.next ∧ _
    by_cases same : j = k
    · subst same
      rw [own fd, next_self]
      exact (and_iff_right allocated).symm
    · rw [others j fd same, other j same]
      exact tracked.holds j fd
  · intro j
    by_cases same : j = k
    · subst same
      rw [next_self]
      exact Socket.after_started ready _ (tracked.started j)
    · rw [other j same]
      exact tracked.started j

private theorem Tracked.quiet (tracked : Tracked p) (allocated : k < p.sock.next)
    (ready : (p.sock k).Ready step) (quiet : step.call = none ∨ step.call = some .send) :
    Tracked (p.next (.on k step)) := by
  have table : (p.next (.on k step)).table = p.table := by
    change p.tableAfter k step.call = _
    rcases quiet with call | call
    · rw [call]
      rfl
    · rw [call]
      rfl
  obtain ⟨stored, fresh⟩ := Socket.after_quiet ready p.table.lowest quiet
  refine tracked.on allocated ready (fun j fd _ => ?_) (fun fd => ?_)
  · unfold Holds
    rw [table]
  · rw [stored, fresh]
    unfold Holds
    rw [table]
    exact (tracked.holds k fd).trans (and_iff_right allocated)

private theorem Tracked.closing (tracked : Tracked p) (allocated : k < p.sock.next)
    (ready : (p.sock k).Ready step) (call : step.call = some .close) {own : Fd}
    (stored : (p.sock k).fd = some own) (holds : p.Holds k own) :
    Tracked (p.next (.on k step)) := by
  have table : (p.next (.on k step)).table = p.table.release own := by
    change p.tableAfter k step.call = _
    rw [call]
    unfold tableAfter
    rw [stored]
  obtain ⟨_, stale⟩ := Socket.after_closes (s := p.sock k) p.table.lowest call
  refine tracked.on allocated ready (fun j fd apart => ?_) (fun fd => ?_)
  · unfold Holds
    rw [table, Slots.owner_release]
    split
    · next same =>
      refine iff_of_false nofun fun held => apart ?_
      rw [same, show p.table.owner own = _ from holds] at held
      cases held
      rfl
    · exact Iff.rfl
  · unfold Holds
    rw [table, Slots.owner_release]
    refine iff_of_false (fun held => ?_) fun both => stale both.2
    split at held
    · cases held
    · next apart =>
      obtain ⟨_, stored', _⟩ := (tracked.holds k fd).mp held
      exact apart (Option.some.inj (stored'.symm.trans stored))

private theorem Tracked.obtaining (tracked : Tracked p) (allocated : k < p.sock.next)
    (ready : (p.sock k).Ready step) (call : step.call = some .socket) :
    Tracked (p.next (.on k step)) := by
  have table : (p.next (.on k step)).table = p.table.take (.socket k) := by
    change p.tableAfter k step.call = _
    rw [call]
    rfl
  obtain ⟨stale, stored, fresh⟩ := Socket.after_obtains ready p.table.lowest call
  refine tracked.on allocated ready (fun j fd apart => ?_) (fun fd => ?_)
  · unfold Holds
    rw [table, Slots.owner_take]
    split
    · next same =>
      rw [same, p.table.owner_lowest]
      refine iff_of_false (fun held => apart ?_) nofun
      cases held
      rfl
    · exact Iff.rfl
  · unfold Holds
    rw [table, Slots.owner_take, stored]
    split
    · next same => exact iff_of_true rfl ⟨by rw [same], fresh⟩
    · next apart =>
      refine iff_of_false (fun held => ?_) fun both => apart (Option.some.inj both.1).symm
      exact stale ((tracked.holds k fd).mp held).2.2

end

/-- A new socket holds what it stores, and is fresh if it stores something. -/
private theorem Tracked.alloc {p p' : Process} (tracked : Tracked p) {s : Socket}
    (sock : p'.sock = p.sock.alloc s) (idle : s.stage = .idle)
    (others : ∀ k fd, k ≠ p.sock.next → (p'.Holds k fd ↔ p.Holds k fd))
    (own : ∀ fd, p'.Holds p.sock.next fd ↔ s.fd = some fd ∧ s.Fresh) : Tracked p' := by
  constructor
  · intro k fd
    by_cases new : k = p.sock.next
    · subst new
      rw [own fd, sock, Heap.alloc_self, Heap.alloc_next]
      exact (and_iff_right (Nat.lt_succ_self _)).symm
    · rw [others k fd new, sock, Heap.alloc_of_ne _ _ new, Heap.alloc_next, tracked.holds k fd]
      refine and_congr_left fun _ => ⟨Nat.lt_succ_of_lt, fun below => ?_⟩
      exact Nat.lt_of_le_of_ne (Nat.le_of_lt_succ below) new
  · intro k
    by_cases new : k = p.sock.next
    · subst new
      rw [sock, Heap.alloc_self]
      exact fun moved => absurd idle moved
    · rw [sock, Heap.alloc_of_ne _ _ new]
      exact tracked.started k

/-- What the rest of the process opens and closes is none of the sockets' business. -/
private theorem Tracked.beside {p p' : Process} (tracked : Tracked p) (sock : p'.sock = p.sock)
    (table : ∀ k fd, p'.Holds k fd ↔ p.Holds k fd) : Tracked p' := by
  constructor
  · intro k fd
    rw [table k fd, sock]
    exact tracked.holds k fd
  · intro k
    rw [sock]
    exact tracked.started k

theorem Tracked.unallocated {p : Process} (tracked : Tracked p) (fd : Fd) :
    ¬ p.Holds p.sock.next fd :=
  fun held => Nat.lt_irrefl _ ((tracked.holds p.sock.next fd).mp held).1

/-- A sound step keeps track of the descriptors. -/
theorem Tracked.next {p : Process} (tracked : Tracked p) {event : Event}
    (enabled : p.Enabled event) (sound : p.Owned event) : Tracked (p.next event) := by
  cases event with
  | create =>
      refine tracked.alloc rfl rfl (fun _ _ _ => Iff.rfl) fun fd => ?_
      exact iff_of_false (tracked.unallocated fd) nofun
  | accept =>
      refine tracked.alloc rfl rfl (fun k fd old => ?_) fun fd => ?_
      · change (p.table.take _).owner fd = _ ↔ _
        rw [Slots.owner_take]
        split
        · next same =>
          rw [Holds, same, p.table.owner_lowest]
          refine iff_of_false (fun held => old ?_) nofun
          cases held
          rfl
        · exact Iff.rfl
      · change (p.table.take _).owner fd = _ ↔ _
        rw [Slots.owner_take]
        split
        · next same => exact iff_of_true rfl ⟨by rw [same], nofun, rfl, rfl⟩
        · next apart =>
          refine iff_of_false (tracked.unallocated fd) fun both => apart ?_
          exact (Option.some.inj both.1).symm
  | opens =>
      refine tracked.beside rfl fun k fd => ?_
      change (p.table.take _).owner fd = _ ↔ _
      rw [Slots.owner_take]
      split
      · next same =>
        rw [Holds, same, p.table.owner_lowest]
        exact iff_of_false nofun nofun
      · exact Iff.rfl
  | closes fd =>
      refine tracked.beside rfl fun k fd' => ?_
      change (p.table.release fd).owner fd' = _ ↔ _
      rw [Slots.owner_release]
      split
      · next same =>
        rw [Holds, same, show p.table.owner fd = _ from enabled]
        exact iff_of_false nofun nofun
      · exact Iff.rfl
  | on k step =>
      obtain ⟨allocated, ready, _⟩ := enabled
      cases call : step.call with
      | none => exact tracked.quiet allocated ready (.inl call)
      | some made =>
          cases made with
          | send => exact tracked.quiet allocated ready (.inr call)
          | socket => exact tracked.obtaining allocated ready call
          | close =>
              obtain ⟨own, stored, holds⟩ := sound (.inl call)
              exact tracked.closing allocated ready call stored holds

/-- In a run of any number of sockets, every `::close(fd)` and every `send(fd, ..)` acts on
a descriptor that its socket holds exactly if all of them are disciplined. -/
theorem every_owned_iff {opened : List Bool} {trace : List (Event × Process)}
    (ran : Every Step (start opened) trace) :
    Every (fun p event _ => p.Owned event) (start opened) trace ↔
      Every (fun p event _ => p.Disciplined event) (start opened) trace := by
  refine ran.exchange (tracked_start opened) ?_ ?_
  · intro p event p' tracked stepped
    exact tracked.owned_iff_disciplined (step_iff.mp stepped).1
  · intro p event p' tracked stepped owned
    obtain ⟨enabled, rfl⟩ := step_iff.mp stepped
    exact tracked.next enabled owned

/-- A client writes, loses its connection and dials again. -/
theorem reconnect_owned : ∃ trace, Every Step (start [true, true, true]) trace ∧
    Every (fun p event _ => p.Owned event) (start [true, true, true]) trace ∧
      ((final (start [true, true, true]) trace).sock 0).fd = some 3 := by
  have replayed : replay react (fun p event => decide (p.Disciplined event))
      (fun _ p => (p.sock 0).fd = some 3) (.on 0 .reconnect) (start [true, true, true])
      [.create, .on 0 .connect, .on 0 .opened, .on 0 (.guard 2), .on 0 .send, .on 0 .send,
        .on 0 .broke, .on 0 .runClose, .on 0 .onClose] = true := by decide
  obtain ⟨before, p, allowed, checked⟩ := replay_run replayed
  have ran := allowed.of_under
  have disciplined : Every (fun p event _ => p.Disciplined event) (start [true, true, true])
      (before ++ [(.on 0 .reconnect, p)]) :=
    allowed.mono fun _ _ _ both => of_decide_eq_true both.1
  refine ⟨_, ran, (every_owned_iff ran).mpr disciplined, ?_⟩
  rw [final_concat]
  exact of_decide_eq_true checked

/-- Another socket dials between the two `::close(3)` of a lost connection, and the
second one closes its descriptor. -/
theorem not_every_owned : ¬ ∀ (opened : List Bool) (trace : List (Event × Process)),
    Every Step (start opened) trace →
      Every (fun p event _ => p.Owned event) (start opened) trace := by
  intro law
  have replayed : replay react (fun _ _ => true) (fun p _ => (p.sock 0).fd = some 3 ∧
        p.Holds 1 3 ∧ (p.sock 1).fd = some 3)
      (.on 0 .callbackClose) (start [true, true, true])
      [.create, .on 0 .connect, .on 0 (.listen (some .host)), .on 0 .opened, .on 0 .broke,
        .on 0 .runClose, .create, .on 1 .connect, .on 0 .onClose] = true := by decide
  obtain ⟨before, p, allowed, checked⟩ := replay_run replayed
  obtain ⟨stored, other, _⟩ := of_decide_eq_true checked
  have owned := ((every_append _ _).mp (law _ _ allowed.of_under)).2.1
  obtain ⟨fd, stored', holds⟩ := owned (.inl rfl)
  rw [stored, Option.some.injEq] at stored'
  rw [← stored', Holds, show Slots.owner _ 3 = _ from other] at holds
  cases holds

end Process

end Descriptors

end LibPubSub
