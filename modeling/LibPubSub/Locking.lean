import LibPubSub.Library.Locks
import LibPubSub.Socket
import Mathlib.Data.Fintype.EquivFin

/-! The two recursive mutexes of `mesh.cpp` and `signaling.cpp` and the mutex of each
`TCPSocket`: what every function that threads run does with them, any number of threads
at once. -/

set_option autoImplicit false

namespace LibPubSub.Locking

open Locks Transition

/-! ## The locks -/

inductive Lock where
  /-- `mut` of `signaling.cpp`. -/
  | signaling
  /-- `mut` of `mesh.cpp`. -/
  | mesh
  /-- `mut` of a `TCPSocket`. -/
  | socket (k : SockPtr)
  deriving DecidableEq

/-- `PTHREAD_RECURSIVE_MUTEX_INITIALIZER_NP` or `PTHREAD_MUTEX_INITIALIZER`. -/
def Lock.recursive : Lock → Bool
  | .signaling | .mesh => true
  | .socket _ => false

/-- The order in which the functions take the locks. -/
def Lock.rank : Lock → Fin 3
  | .signaling => 0
  | .mesh => 1
  | .socket _ => 2

/-- Nothing is thrown under the lock of a socket. -/
def discipline : Discipline Lock (Fin 3) where
  recursive := Lock.recursive
  rank := Lock.rank
  leaks := Lock.recursive

/-! ## The functions -/

/-- One of these or none of them. -/
def oneOf (codes : List (Code Lock)) : Code Lock :=
  codes.foldr .either .plain

/-- These one after the other. -/
def each (codes : List (Code Lock)) : Code Lock :=
  codes.foldr .seq .plain

/-- As often, each time or not. -/
def upTo (n : Nat) (code : Code Lock) : Code Lock :=
  each (List.replicate n (.either code .plain))

/-- `TCPSocket::write`. -/
def write (k : SockPtr) : Code Lock :=
  .locked (.socket k) .plain

/-- `TCPSocket::connect`. No host of this name, or no descriptor. -/
def connect : Code Lock := .attempt

/-- `TCPServer(first, last)`. No free port. -/
def newServer : Code Lock := .attempt

def hasHost : Code Lock := .locked .mesh .plain

def getHost : Code Lock := .locked .mesh .plain

section

-- the sockets of the hosts, the number of channels, and of subscriptions of a channel
variable (socks : List SockPtr) (channels subs : Nat)

/-- `Host::send`. -/
def send : Code Lock :=
  oneOf (socks.map write)

/-- `Host::welcome`. -/
def welcome : Code Lock :=
  oneOf (socks.map fun k => .seq (write k) (write k))

/-- `Host::broadcast`. -/
def broadcast : Code Lock :=
  .locked .mesh (each (socks.map fun k => .either (write k) .plain))

/-- `Host(ip, port)`. -/
def newHost : Code Lock :=
  .seq hasHost connect

/-- `Host(ip, port, socket)`. -/
def newHostFrom : Code Lock :=
  .seq hasHost (welcome socks)

/-- `add_host(ip, port)`, after `init()`. -/
def addHost : Code Lock :=
  .locked .mesh (.seq hasHost (.either newHost .plain))

/-- `init()`, which makes the loopback Host without a lock of its own. -/
def init : Code Lock :=
  .locked .mesh (.seq newServer (.either addHost .plain))

/-- `uninit()`. -/
def uninit : Code Lock :=
  .locked .mesh .plain

def broadcastHosts : Code Lock :=
  .locked .mesh (broadcast socks)

def dumpHosts : Code Lock :=
  .locked .mesh .plain

/-- `cbRecv` of a connection that `handle_incoming_connection` has taken. -/
def handleIncomingConnection : Code Lock :=
  .locked .mesh (.seq getHost (oneOf
    [.seq (newHostFrom socks) (send socks), .seq (welcome socks) (.either (send socks) .plain)]))

/-- `ChannelImpl::connect_tcp`: a request, or each subscription dials. -/
def connectTcp : Code Lock :=
  .either (send socks) (upTo subs connect)

/-- `ChannelImpl::connect_shm`. -/
def connectShm : Code Lock :=
  .either (send socks) .plain

/-- `ChannelImpl::connect`. -/
def connectChannel : Code Lock :=
  oneOf [connectShm socks, connectTcp socks subs]

/-- `ChannelImpl::setPublisher`. `disconnect()` takes no lock. -/
def setPublisher : Code Lock :=
  .either (connectChannel socks subs) .plain

/-- `ChannelImpl::offer_tcp`. -/
def offerTcp : Code Lock :=
  .seq (.either newServer .plain) (send socks)

/-- `ChannelImpl::offer_shm`. -/
def offerShm : Code Lock := send socks

def applyPublishStatement : Code Lock :=
  oneOf [setPublisher socks subs, getHost, .seq getHost (setPublisher socks subs)]

def applyUnpublishStatement : Code Lock :=
  .either (setPublisher socks subs) .plain

def closeAllChannels : Code Lock :=
  upTo channels (setPublisher socks subs)

def broadcastPublishedChannels : Code Lock :=
  upTo channels (broadcast socks)

def digestMessage : Code Lock :=
  .locked .signaling (oneOf [applyPublishStatement socks subs, applyUnpublishStatement socks subs,
    offerTcp socks, offerShm socks, connectTcp socks subs, connectShm socks])

def onHostOpen : Code Lock :=
  .locked .signaling (broadcastPublishedChannels socks channels)

def onHostClose : Code Lock :=
  .locked .signaling (closeAllChannels socks channels subs)

/-- `Host::on_receive`. -/
def onReceive : Code Lock :=
  oneOf [.seq (.locked .mesh .plain) (send socks),
    .seq hasHost (.seq (onHostOpen socks channels) (broadcastHosts socks)),
    addHost, digestMessage socks subs]

end

/-- What the threads of the application and of the sockets run. -/
inductive Operation where
  | init
  | addHost
  | publish
  | unpublish
  | subscribe
  | alloc
  | write
  | dumpHosts
  | uninit
  | welcome
  | onReceive
  | onClose
  | incoming
  deriving DecidableEq

/-- The code of an operation, which depends on how many hosts, channels and subscriptions its
loops run over. -/
def Operation.code (socks : List SockPtr) (channels subs : Nat) : Operation → Code Lock
  | .init => Locking.init
  | .addHost => Locking.addHost
  | .publish => .either (.seq (setPublisher socks subs) (broadcast socks)) .plain
  | .unpublish => .seq (setPublisher socks subs) (broadcast socks)
  | .subscribe => connectChannel socks subs
  | .alloc => .either (broadcast socks) .plain
  | .write => each (socks.map fun k => .either (Locking.write k) .plain)
  | .dumpHosts => Locking.dumpHosts
  | .uninit => Locking.uninit
  | .welcome => Locking.welcome socks
  | .onReceive => Locking.onReceive socks channels subs
  | .onClose => onHostClose socks channels subs
  | .incoming => handleIncomingConnection socks

/-! ## The order of the locks -/

/-- No lock of a socket is held, under which there is nothing more to lock. -/
def Calm (held : List Lock) : Prop :=
  ∀ lock ∈ held, lock.recursive = true

theorem calm_nil : Calm [] :=
  nofun

theorem Calm.cons {held : List Lock} {lock : Lock} (calm : Calm held)
    (recursive : lock.recursive = true) : Calm (lock :: held) :=
  List.forall_mem_cons.mpr ⟨recursive, calm⟩

section

variable {held : List Lock} {codes : List (Code Lock)} {code body : Code Lock}

theorem ordered_oneOf (ordered : ∀ code ∈ codes, code.Ordered discipline held) :
    (oneOf codes).Ordered discipline held := by
  induction codes with
  | nil => trivial
  | cons code codes ih =>
      obtain ⟨first, later⟩ := List.forall_mem_cons.mp ordered
      exact ⟨first, ih later⟩

theorem ordered_each (ordered : ∀ code ∈ codes, code.Ordered discipline held) :
    (each codes).Ordered discipline held := by
  induction codes with
  | nil => trivial
  | cons code codes ih =>
      obtain ⟨first, later⟩ := List.forall_mem_cons.mp ordered
      exact ⟨first, ih later⟩

theorem ordered_upTo (n : Nat) (ordered : code.Ordered discipline held) :
    (upTo n code).Ordered discipline held := by
  apply ordered_each
  intro each member
  obtain rfl := List.eq_of_mem_replicate member
  exact ⟨ordered, trivial⟩

theorem ordered_map {make : SockPtr → Code Lock} (socks : List SockPtr)
    (ordered : ∀ k, (make k).Ordered discipline held) :
    ∀ code ∈ socks.map make, code.Ordered discipline held := by
  intro code member
  obtain ⟨k, _, rfl⟩ := List.mem_map.mp member
  exact ordered k

/-- What may throw throws under the locks that an exception may leave behind. -/
theorem ordered_attempt (calm : Calm held) : (Code.attempt).Ordered discipline held :=
  calm

/-- The lock of the hosts is above the one of the statements, and is taken again. -/
theorem ordered_mesh (calm : Calm held) (ordered : body.Ordered discipline (.mesh :: held)) :
    (Code.locked .mesh body).Ordered discipline held := by
  refine ⟨?_, ordered⟩
  by_cases again : Lock.mesh ∈ held
  · exact .inl ⟨rfl, again⟩
  · refine .inr fun lock member => ?_
    cases lock with
    | signaling => exact (by decide : (0 : Fin 3) < 1)
    | mesh => exact absurd member again
    | socket k => cases calm _ member

/-- No function takes the lock of the statements under the one of the hosts. -/
theorem ordered_signaling (ordered : body.Ordered discipline [.signaling]) :
    (Code.locked .signaling body).Ordered discipline [] :=
  ⟨.inr nofun, ordered⟩

theorem ordered_write (calm : Calm held) (k : SockPtr) : (write k).Ordered discipline held := by
  refine ⟨.inr fun lock member => ?_, trivial⟩
  cases lock with
  | signaling => exact (by decide : (0 : Fin 3) < 2)
  | mesh => exact (by decide : (1 : Fin 3) < 2)
  | socket j => cases calm _ member

variable (socks : List SockPtr) (channels subs : Nat)

theorem ordered_hasHost (calm : Calm held) : hasHost.Ordered discipline held :=
  ordered_mesh calm trivial

theorem ordered_send (calm : Calm held) : (send socks).Ordered discipline held :=
  ordered_oneOf (ordered_map socks (ordered_write calm))

theorem ordered_welcome (calm : Calm held) : (welcome socks).Ordered discipline held :=
  ordered_oneOf (ordered_map socks fun k => ⟨ordered_write calm k, ordered_write calm k⟩)

theorem ordered_writes (calm : Calm held) :
    (each (socks.map fun k => .either (write k) .plain)).Ordered discipline held :=
  ordered_each (ordered_map socks fun k => ⟨ordered_write calm k, trivial⟩)

theorem ordered_broadcast (calm : Calm held) : (broadcast socks).Ordered discipline held :=
  ordered_mesh calm (ordered_writes socks (calm.cons rfl))

theorem ordered_addHost (calm : Calm held) : addHost.Ordered discipline held := by
  have inside := calm.cons (Eq.refl (Lock.recursive .mesh))
  apply ordered_mesh calm
  exact ⟨ordered_hasHost inside, ⟨ordered_hasHost inside, ordered_attempt inside⟩, trivial⟩

theorem ordered_init : init.Ordered discipline [] := by
  have inside := calm_nil.cons (Eq.refl (Lock.recursive .mesh))
  apply ordered_mesh calm_nil
  exact ⟨ordered_attempt inside, ordered_addHost inside, trivial⟩

theorem ordered_broadcastHosts (calm : Calm held) :
    (broadcastHosts socks).Ordered discipline held :=
  ordered_mesh calm (ordered_broadcast socks (calm.cons rfl))

theorem ordered_handleIncomingConnection :
    (handleIncomingConnection socks).Ordered discipline [] := by
  have inside := calm_nil.cons (Eq.refl (Lock.recursive .mesh))
  have sends := ordered_send socks inside
  have welcomes := ordered_welcome socks inside
  apply ordered_mesh calm_nil
  refine ⟨ordered_hasHost inside, ordered_oneOf ?_⟩
  simp only [List.forall_mem_cons, List.not_mem_nil, false_implies, implies_true, and_true]
  exact ⟨⟨⟨ordered_hasHost inside, welcomes⟩, sends⟩, welcomes, sends, trivial⟩

theorem ordered_connectTcp (calm : Calm held) : (connectTcp socks subs).Ordered discipline held :=
  ⟨ordered_send socks calm, ordered_upTo subs (ordered_attempt calm)⟩

theorem ordered_connectShm (calm : Calm held) : (connectShm socks).Ordered discipline held :=
  ⟨ordered_send socks calm, trivial⟩

theorem ordered_connectChannel (calm : Calm held) :
    (connectChannel socks subs).Ordered discipline held := by
  apply ordered_oneOf
  simp only [List.forall_mem_cons, List.not_mem_nil, false_implies, implies_true, and_true]
  exact ⟨ordered_connectShm socks calm, ordered_connectTcp socks subs calm⟩

theorem ordered_setPublisher (calm : Calm held) :
    (setPublisher socks subs).Ordered discipline held :=
  ⟨ordered_connectChannel socks subs calm, trivial⟩

theorem ordered_digestMessage : (digestMessage socks subs).Ordered discipline [] := by
  have inside := calm_nil.cons (Eq.refl (Lock.recursive .signaling))
  have sends := ordered_send socks inside
  have publishes := ordered_setPublisher socks subs inside
  apply ordered_signaling
  apply ordered_oneOf
  simp only [List.forall_mem_cons, List.not_mem_nil, false_implies, implies_true, and_true]
  refine ⟨ordered_oneOf ?_, ⟨publishes, trivial⟩, ⟨⟨ordered_attempt inside, trivial⟩, sends⟩, sends,
    ordered_connectTcp socks subs inside, ordered_connectShm socks inside⟩
  simp only [List.forall_mem_cons, List.not_mem_nil, false_implies, implies_true, and_true]
  exact ⟨publishes, ordered_hasHost inside, ordered_hasHost inside, publishes⟩

theorem ordered_onHostOpen : (onHostOpen socks channels).Ordered discipline [] := by
  have inside := calm_nil.cons (Eq.refl (Lock.recursive .signaling))
  exact ordered_signaling (ordered_upTo channels (ordered_broadcast socks inside))

theorem ordered_onHostClose : (onHostClose socks channels subs).Ordered discipline [] := by
  have inside := calm_nil.cons (Eq.refl (Lock.recursive .signaling))
  exact ordered_signaling (ordered_upTo channels (ordered_setPublisher socks subs inside))

theorem ordered_onReceive : (onReceive socks channels subs).Ordered discipline [] := by
  apply ordered_oneOf
  simp only [List.forall_mem_cons, List.not_mem_nil, false_implies, implies_true, and_true]
  refine ⟨⟨ordered_hasHost calm_nil, ordered_send socks calm_nil⟩, ?_,
    ordered_addHost calm_nil, ordered_digestMessage socks subs⟩
  exact ⟨ordered_hasHost calm_nil, ordered_onHostOpen socks channels,
    ordered_broadcastHosts socks calm_nil⟩

/-- Every operation takes the locks in their order. -/
theorem ordered_operation (operation : Operation) :
    (operation.code socks channels subs).Ordered discipline [] := by
  cases operation with
  | init => exact ordered_init
  | addHost => exact ordered_addHost calm_nil
  | publish =>
      exact ⟨⟨ordered_setPublisher socks subs calm_nil, ordered_broadcast socks calm_nil⟩, trivial⟩
  | unpublish =>
      exact ⟨ordered_setPublisher socks subs calm_nil, ordered_broadcast socks calm_nil⟩
  | subscribe => exact ordered_connectChannel socks subs calm_nil
  | alloc => exact ⟨ordered_broadcast socks calm_nil, trivial⟩
  | write => exact ordered_writes socks calm_nil
  | dumpHosts | uninit => exact ordered_mesh calm_nil trivial
  | welcome => exact ordered_welcome socks calm_nil
  | onReceive => exact ordered_onReceive socks channels subs
  | onClose => exact ordered_onHostClose socks channels subs
  | incoming => exact ordered_handleIncomingConnection socks

end

/-! ## Runs of the threads -/

variable {T : Type} [DecidableEq T]

/-- A step of a thread. Threads call operations. -/
def Step : State Lock T → Event Lock T → State Lock T → Prop :=
  Under (fun _ event => ∀ t code, event = .call t code → ∃ operation socks channels subs,
    Operation.code socks channels subs operation = code) (Locks.Step Lock.recursive)

section

variable {s s' : State Lock T} {event : Event Lock T} {trace : List (Event Lock T × State Lock T)}

theorem Step.obeys (step : Step s event s') : Obeys discipline s event s' := by
  refine ⟨fun t code isCall => ?_, step.2⟩
  obtain ⟨operation, socks, channels, subs, rfl⟩ := step.1 t code isCall
  exact ordered_operation socks channels subs operation

theorem obeys_of_run (ran : Every Step s trace) : Every (Obeys discipline) s trace :=
  ran.mono fun _ _ _ step => step.obeys

theorem kept_of_run (ran : Every Step idle trace) : Kept discipline (final idle trace) :=
  (kept_idle discipline).of_run (obeys_of_run ran)

theorem clean_iff_of_run (ran : Every Step idle trace) : Clean (final idle trace) ↔
    Every (fun s event _ => ¬ Leaves s event) idle trace :=
  (kept_idle discipline).clean_iff clean_idle (obeys_of_run ran)

/-- Thread `t` keeps the lock, and who waits for it waits for good. -/
structure Blocks (s : State Lock T) (lock : Lock) (t : T) : Prop where
  owner : ∀ later, Every Step s later → ∃ n, (final s later).owner lock = some (t, n)
  waits : ∀ before later u body rest, Every Step s before →
    Every Step (final s before) later → u ≠ t →
      (final s before).stack u = .run (.locked lock body) :: rest →
        (final (final s before) later).stack u = (final s before).stack u

/-- The lock of a socket is never left behind. If an exception has left a lock behind, then
one of the two others is lost for good to all threads but one. -/
theorem left_behind (ran : Every Step idle trace) :
    (∀ t k, (final idle trace).stack t = [] → ∀ n, (final idle trace).owner (.socket k) ≠ some (t, n)) ∧
      (¬ Every (fun s event _ => ¬ Leaves s event) idle trace →
        ∃ lock t, lock.recursive = true ∧ Blocks (final idle trace) lock t) := by
  have kept := kept_of_run ran
  constructor
  · intro t k isIdle n isOwner
    have few : (held ((final idle trace).stack t)).count (.socket k) ≤ n := by
      rw [isIdle]
      exact Nat.zero_le n
    exact absurd (kept.left _ t n isOwner few) Bool.false_ne_true
  · intro thrown
    have unclean := mt (clean_iff_of_run ran).mp thrown
    simp only [Clean, not_forall, not_not] at unclean
    obtain ⟨lock, t, abandoned⟩ := unclean
    obtain ⟨n, isOwner, few⟩ := abandoned
    refine ⟨lock, t, kept.left lock t n isOwner few, ?_, ?_⟩
    · intro later ranLater
      obtain ⟨m, isOwner', _⟩ :=
        Abandoned.of_run ⟨n, isOwner, few⟩ kept (obeys_of_run ranLater)
      exact ⟨m, isOwner'⟩
    · intro before later u body rest ranBefore ranLater other top
      have obeysBefore := obeys_of_run ranBefore
      have abandoned := Abandoned.of_run ⟨n, isOwner, few⟩ kept obeysBefore
      exact abandoned.waits_of_run (kept.of_run obeysBefore) other top (obeys_of_run ranLater)

end

/-! ## Accepted sockets -/

/-- Who has the lock of each socket to begin with. The constructor for an accepted socket does
not initialise `mut`, so that its memory may name anybody. -/
def uninitialised (junk : SockPtr → Option (T × Nat)) : Lock → Option (T × Nat)
  | .signaling | .mesh => none
  | .socket k => junk k

/-- The threads behind these constructors. -/
def begun (junk : SockPtr → Option (T × Nat)) : State Lock T :=
  idle.overlay (uninitialised junk)

/-- A call that writes to no socket whose lock was taken to begin with, and a step that leaves no
lock behind. -/
def Careful (junk : SockPtr → Option (T × Nat)) (s : State Lock T) (event : Event Lock T) : Prop :=
  (∀ t code, event = .call t code → code.Avoids fun l => (uninitialised junk l).isSome) ∧
    ¬ Leaves s event

section

variable {junk : SockPtr → Option (T × Nat)} {trace : List (Event Lock T × State Lock T)}

omit [DecidableEq T] in
theorem lost_begun {k : SockPtr} (taken : junk k ≠ none) :
    Lost Lock.recursive (begun junk) (.socket k) := by
  refine ⟨?_, rfl, nofun⟩
  change (junk k).or none ≠ none
  rwa [Option.or_none]

/-- As long as no exception has left a lock behind and no call writes to a socket whose lock
reads as taken there is no deadlock: all that the threads have begun can be finished, and then
the locks are as they were at the beginning. Who does write to such a socket waits for good. -/
theorem no_deadlock [Fintype T] (ran : Every Step (begun junk) trace) :
    (Every (fun s event _ => Careful junk s event) (begun junk) trace →
      Reaches (Under (fun _ event => ∃ t, event = .step t false) Step)
        (final (begun junk) trace) (begun junk)) ∧
    ∀ t k body rest, junk k ≠ none →
      (final (begun junk) trace).stack t = .run (.locked (.socket k) body) :: rest →
        ∀ later, Every Step (final (begun junk) trace) later →
          (final (final (begun junk) trace) later).stack t = (final (begun junk) trace).stack t := by
  constructor
  · intro careful
    have idles : Spares (fun l => (uninitialised junk l).isSome) (idle : State Lock T) :=
      fun _ _ member => nomatch member
    have same : ∀ (s : State Lock T) event (s' : State Lock T),
        Step (s.overlay (uninitialised junk)) event (s'.overlay (uninitialised junk)) ∧
          Careful junk (s.overlay (uninitialised junk)) event →
        (∀ t code, event = .call t code → ∃ operation socks channels subs,
          Operation.code socks channels subs operation = code) ∧ ¬ Leaves s event :=
      fun _ _ _ both => ⟨both.1.1, both.2.2⟩
    -- the same run with free locks, which can be finished
    obtain ⟨free, ranFree, obeyed, last, spares⟩ := idles.of_run same
      (careful.mono fun _ _ _ both => both.1) ran.of_under (ran.and careful)
    have steps : Every Step idle free :=
      (obeyed.and ranFree).mono fun _ _ _ both => ⟨both.1.1, both.2⟩
    have clean := (clean_iff_of_run steps).mpr (obeyed.mono fun _ _ _ both => both.2)
    obtain ⟨later, ranLater, isIdle⟩ := (kept_of_run steps).completes clean
    obtain ⟨completed, ranCompleted, isLast⟩ := spares.overlay_run ranLater
    rw [isIdle] at isLast
    unfold begun
    rw [last]
    refine ⟨completed, ranCompleted.mono ?_, isLast⟩
    rintro s event s' ⟨⟨t, rfl⟩, step⟩
    exact ⟨⟨t, rfl⟩, nofun, step⟩
  · intro t k body rest taken top later ranLater
    have lost : Lost Lock.recursive (final (begun junk) trace) (.socket k) :=
      Every.invariant (P := fun s => Lost Lock.recursive s (.socket k)) ran.of_under
        (lost_begun taken) fun _ _ _ lost step => lost.step step
    exact lost.waits_of_run top ranLater.of_under

end

/-! ## Two threads -/

/-- The lock of socket 9 reads as taken. -/
private def ninth (k : SockPtr) : Option (Bool × Nat) :=
  if k = 9 then some (false, 0) else none

/-- The calls of a run and its attempts that do not throw. -/
private def permitted (called : List (Code Lock)) (s : State Lock Bool) : Event Lock Bool → Bool
  | .call _ code => decide (code ∈ called ∧ code.Avoids fun l => (uninitialised ninth l).isSome)
  | .step t choice => !(choice && (s.stack t).head? == some (.run .attempt))

private theorem careful_of_permitted {called : List (Code Lock)} {s : State Lock Bool}
    {event : Event Lock Bool} (allowed : permitted called s event = true) :
    Careful ninth s event := by
  cases event with
  | call t code =>
      refine ⟨fun u other isCall => ?_, id⟩
      obtain ⟨rfl, rfl⟩ := Event.call.inj isCall
      exact (of_decide_eq_true allowed).2
  | step t choice =>
      refine ⟨fun u other isCall => (by cases isCall), ?_⟩
      rintro ⟨rfl, rest, top, _⟩
      simp [permitted, top] at allowed

/-- One thread has heard `CONNECTED` and waits for the lock of the hosts, which `add_host` has;
another time one writes to the ninth socket. -/
theorem no_deadlock_crossed : (∃ s : State Lock Bool, s.owner .signaling = some (false, 0) ∧
      s.owner .mesh = some (true, 0) ∧
      Reaches (Under (fun _ event => ∃ t, event = .step t false) Step) s (begun ninth)) ∧
    ∃ s : State Lock Bool, Reaches Step (begun ninth) s ∧ ∀ later, Every Step s later →
      (final s later).stack true = [.run (write 9), .run .plain] := by
  constructor
  · have replayed : replay (fun s event => (Locks.react Lock.recursive s event).elim (.error ()) .ok)
        (permitted [onReceive [7] 1 0, addHost])
        (fun _ s => decide (s.owner .signaling = some (false, 0) ∧ s.owner .mesh = some (true, 0)))
        (.step true false) (begun ninth)
        [.call false (onReceive [7] 1 0), .call true addHost, .step false false, .step false true,
          .step false false, .step false false, .step false false, .step false false,
          .step false false, .step false false] = true := by
      decide
    obtain ⟨trace, s, ran, checked⟩ := replay_run_of_option replayed
    have steps : Every Step (begun ninth) (trace ++ [(.step true false, s)]) := by
      refine ran.mono ?_
      rintro s event s' ⟨allowed, reacted⟩
      refine ⟨fun t code isCall => ?_, reacted⟩
      subst isCall
      rcases List.mem_cons.mp (of_decide_eq_true allowed).1 with rfl | member
      · exact ⟨.onReceive, [7], 1, 0, rfl⟩
      · exact ⟨.addHost, [], 0, 0, (List.mem_singleton.mp member).symm⟩
    have careful := ran.mono fun _ _ _ both => careful_of_permitted both.1
    have completed := (no_deadlock steps).1 careful
    rw [final_concat] at completed
    obtain ⟨signaling, mesh⟩ := of_decide_eq_true checked
    exact ⟨s, signaling, mesh, completed⟩
  · have replayed : replay (fun s event => (Locks.react Lock.recursive s event).elim (.error ()) .ok)
        (fun _ event => match event with
          | .call _ code => decide (code = Operation.write.code [9] 0 0)
          | .step _ _ => true)
        (fun _ s => decide (s.stack true = [.run (write 9), .run .plain]))
        (.step true true) (begun ninth)
        [.call true (Operation.write.code [9] 0 0), .step true false] = true := by
      decide
    obtain ⟨trace, s, ran, checked⟩ := replay_run_of_option replayed
    have top := of_decide_eq_true checked
    have steps : Every Step (begun ninth) (trace ++ [(.step true true, s)]) := by
      refine ran.mono ?_
      rintro s event s' ⟨allowed, reacted⟩
      refine ⟨fun t code isCall => ?_, reacted⟩
      subst isCall
      exact ⟨.write, [9], 0, 0, (of_decide_eq_true allowed).symm⟩
    have jammed := (no_deadlock steps).2 true 9 .plain [.run .plain] (by decide)
    rw [final_concat] at jammed
    exact ⟨s, ⟨_, steps, final_concat _ _ _⟩, fun later ranLater => (jammed top later ranLater).trans top⟩

/-- `add_host` has not found a host, and another thread wants to look at the table. -/
theorem left_behind_unresolved : ∃ s : State Lock Bool, Reaches Step idle s ∧
    ∀ later, Every Step s later → (final s later).stack true = [.run dumpHosts] := by
  have replayed : replay (fun s event => (Locks.react Lock.recursive s event).elim (.error ()) .ok)
      (fun _ event => match event with
        | .call _ code => decide (code ∈ [addHost, dumpHosts])
        | .step _ _ => true)
      (fun _ s => decide (s.stack true = [.run dumpHosts] ∧ s.stack false = [] ∧
        s.owner .signaling = none ∧ s.owner .mesh = some (false, 0)))
      (.call true dumpHosts) (idle : State Lock Bool)
      [.call false addHost, .step false false, .step false false, .step false false,
        .step false false, .step false false, .step false true, .step false false,
        .step false false, .step false false, .step false false, .step false true] = true := by
    decide
  obtain ⟨trace, s, ran, checked⟩ := replay_run_of_option replayed
  obtain ⟨waits, isIdle, signaling, mesh⟩ := of_decide_eq_true checked
  have steps : Every Step idle (trace ++ [(.call true dumpHosts, s)]) := by
    refine ran.mono ?_
    rintro s event s' ⟨allowed, reacted⟩
    refine ⟨fun t code isCall => ?_, reacted⟩
    subst isCall
    rcases List.mem_cons.mp (of_decide_eq_true allowed) with rfl | member
    · exact ⟨.addHost, [], 0, 0, rfl⟩
    · exact ⟨.dumpHosts, [], 0, 0, (List.mem_singleton.mp member).symm⟩
  have behind := (left_behind steps).2
  rw [← clean_iff_of_run steps, final_concat] at behind
  have unclean : ¬ Clean s := by
    intro clean
    exact clean .mesh false ⟨0, mesh, by rw [isIdle]; exact Nat.le_refl 0⟩
  obtain ⟨lock, t, recursive, blocks⟩ := behind unclean
  obtain ⟨n, isOwner⟩ := blocks.owner [] trivial
  rw [final_nil] at isOwner
  refine ⟨s, ⟨_, steps, final_concat _ _ _⟩, fun later ranLater => ?_⟩
  cases lock with
  | signaling =>
      rw [signaling] at isOwner
      cases isOwner
  | socket k => cases recursive
  | mesh =>
      rw [mesh] at isOwner
      obtain ⟨rfl, _⟩ := Prod.mk.inj (Option.some.inj isOwner)
      have stays := blocks.waits [] later true _ _ trivial ranLater (by decide) waits
      rw [final_nil, waits] at stays
      exact stays

end LibPubSub.Locking
