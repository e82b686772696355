import Mathlib.Algebra.BigOperators.Intervals
import Mathlib.Algebra.BigOperators.Ring.Finset
import Mathlib.Algebra.Order.Group.Int.Sum
import Mathlib.Tactic.FinCases
import LibPubSub.Library.Runs
import LibPubSub.Network

/-! The servers of the processes of one machine: how `TCPServer(firstPort, lastPort)` looks
for a free port while others do the same, what the ports that are taken cost, and whom a new
process finds at the default signaling port. -/

set_option autoImplicit false

namespace LibPubSub

open Transition

def SIGNALING_DEFAULT_PORT : Nat := 12212

/-- What `TCPServer::bind` throws. -/
inductive BindError where
  /-- `"ERROR opening socket"` -/
  | opening
  /-- `"ERROR on binding"` -/
  | binding

/-- Who listens on a port, and how many descriptors a process has. -/
structure Kernel (ι : Type) where
  listening : Nat → Option ι
  descriptors : ι → Nat

variable {ι : Type} [DecidableEq ι]

namespace Kernel

/-- `k` where `i` has so many descriptors. -/
def setDescriptors (k : Kernel ι) (i : ι) (count : Nat) : Kernel ι :=
  { k with descriptors := Function.update k.descriptors i count }

/-- `socket()`. Nobody may have more than `limit` descriptors. -/
def socket (limit : Nat) (k : Kernel ι) (i : ι) : Option (Kernel ι) :=
  if k.descriptors i < limit then some (k.setDescriptors i (k.descriptors i + 1)) else none

/-- `TCPServer::bind` up to `::bind()`. With `SO_REUSEADDR` a port is refused only where somebody
listens. -/
def bind (limit : Nat) (k : Kernel ι) (i : ι) (port : Nat) : Except BindError Unit × Kernel ι :=
  match k.socket limit i with
  | none => (.error .opening, k)
  | some k =>
      match k.listening port with
      -- nobody closes `sockfd`
      | some _ => (.error .binding, k)
      | none => (.ok (), k)

/-- `listen(sockfd, 1024)`, which fails where somebody listens already. Nobody looks. -/
def listen (k : Kernel ι) (i : ι) (port : Nat) : Kernel ι :=
  match k.listening port with
  | some _ => k
  | none => { k with listening := Function.update k.listening port (some i) }

@[simp] theorem setDescriptors_listening (k : Kernel ι) (i : ι) (count : Nat) :
    (k.setDescriptors i count).listening = k.listening := rfl

@[simp] theorem setDescriptors_self (k : Kernel ι) (i : ι) (count : Nat) :
    (k.setDescriptors i count).descriptors i = count :=
  Function.update_self ..

theorem setDescriptors_of_ne (k : Kernel ι) {i j : ι} (other : j ≠ i) (count : Nat) :
    (k.setDescriptors i count).descriptors j = k.descriptors j :=
  Function.update_of_ne other ..

omit [DecidableEq ι] in
@[simp] theorem listen_descriptors (k : Kernel ι) (i : ι) (port : Nat) :
    (k.listen i port).descriptors = k.descriptors := by
  unfold listen
  split <;> rfl

omit [DecidableEq ι] in
theorem listen_listening {k : Kernel ι} {port : Nat} (free : k.listening port = none) (i : ι) :
    (k.listen i port).listening = Function.update k.listening port (some i) := by
  unfold listen
  rw [free]

end Kernel

/-! ## The processes of a machine -/

/-- What a server is for. -/
inductive Purpose where
  | signaling
  | channel (c : ChanPtr)
  deriving DecidableEq

def Purpose.firstPort : Purpose → Nat
  | .signaling => SIGNALING_DEFAULT_PORT
  | .channel _ => 10000

def Purpose.lastPort : Purpose → Nat
  | .signaling => SIGNALING_DEFAULT_PORT + 64
  | .channel _ => 20000

/-- Where a thread is in `TCPServer(firstPort, lastPort)`. -/
inductive Phase where
  /-- At the next round of the loop. -/
  | trying (port : Nat)
  /-- Between `::bind()` and `listen()`. -/
  | bound (port : Nat)
  deriving DecidableEq

def Phase.port : Phase → Nat
  | .trying port | .bound port => port

/-- A running process. -/
structure Task where
  /-- `SIGNALING_PORT`, once `init()` has it. -/
  signaling : Option Nat := none
  /-- The ports of the servers of its channels, newest first. -/
  servers : List (ChanPtr × Nat) := []
  /-- Its other descriptors: the standard streams and the connections. -/
  others : Nat := 3
  /-- The descriptors that are left of the ports that it passed over. -/
  leaked : Nat := 0
  /-- The server that it makes. -/
  making : Option (Purpose × Phase) := none
  /-- A thread has ended that holds the mutex of `signaling.cpp`. -/
  locked : Bool := false
  deriving DecidableEq

namespace Task

def ports (t : Task) : List Nat :=
  t.signaling.toList ++ t.servers.map Prod.snd

/-- The port that is bound and not listened on yet. -/
def bound (t : Task) : Option Nat :=
  match t.making with
  | some (_, .bound port) => some port
  | _ => none

def used (t : Task) : Nat :=
  t.ports.length + t.bound.toList.length + t.others + t.leaked

end Task

structure Machine (ι : Type) extends Kernel ι where
  task : ι → Option Task

/-- What happens on a machine, in any order. -/
inductive MachineEvent (ι : Type) where
  /-- A process is started, and its static initialisers call `init()`. -/
  | start (i : ι)
  /-- A `CONNECT_TCP=` for channel `c` is answered. -/
  | offer (i : ι) (c : ChanPtr)
  /-- A round of the loop of `TCPServer(firstPort, lastPort)`. -/
  | tries (i : ι)
  /-- `listen()` and what follows. -/
  | listens (i : ι)
  /-- Another descriptor is opened or closed. -/
  | opens (i : ι)
  | closes (i : ι)
  | exit (i : ι)
  deriving DecidableEq

namespace Machine

def off : Machine ι where
  listening _ := none
  descriptors _ := 0
  task _ := none

def run (m : Machine ι) (k : Kernel ι) (i : ι) (t : Task) : Machine ι :=
  { toKernel := k, task := Function.update m.task i (some t) }

/-- The kernel closes what the process had open. -/
def exit (m : Machine ι) (i : ι) : Machine ι where
  listening port := if m.listening port = some i then none else m.listening port
  descriptors := Function.update m.descriptors i 0
  task := Function.update m.task i none

/-- A new process has the standard streams, and calls `init()`. -/
def start (m : Machine ι) (i : ι) : Machine ι :=
  m.run (m.toKernel.setDescriptors i 3) i
    { making := some (.signaling, .trying Purpose.signaling.firstPort) }

/-- `if(!server)` of `ChannelImpl::offer_tcp`. -/
def offer (m : Machine ι) (i : ι) (t : Task) (c : ChanPtr) : Machine ι :=
  if c ∈ t.servers.map Prod.fst then m
  else
    m.run m.toKernel i
      { t with making := some (.channel c, .trying (Purpose.channel c).firstPort) }

/-- `throw "No free port"`. From `init()` it ends the process; from `offer_tcp` it passes the
`UNLOCK()` of `digest_message` and ends the thread. -/
def noFreePort (m : Machine ι) (i : ι) (t : Task) : Purpose → Machine ι
  | .signaling => m.exit i
  | .channel _ => m.run m.toKernel i { t with making := none, locked := true }

/-- A round of the loop at `port`. -/
def tries (limit : Nat) (m : Machine ι) (i : ι) (t : Task) (purpose : Purpose) (port : Nat) :
    Machine ι :=
  if purpose.lastPort < port then m.noFreePort i t purpose
  else
    match m.toKernel.bind limit i port with
    | (.ok (), k) => m.run k i { t with making := some (purpose, .bound port) }
    | (.error .opening, k) => m.run k i { t with making := some (purpose, .trying (port + 1)) }
    | (.error .binding, k) =>
        m.run k i { t with making := some (purpose, .trying (port + 1)), leaked := t.leaked + 1 }

/-- `listen()`, and behind it the rest of `init()`: what `add_host("localhost",
SIGNALING_DEFAULT_PORT)` throws ends the process. -/
def listens (limit : Nat) (m : Machine ι) (i : ι) (t : Task) (port : Nat) : Purpose → Machine ι
  | .channel c => m.run (m.listen i port) i
      { t with servers := (c, port) :: t.servers, making := none }
  | .signaling =>
      let t := { t with signaling := some port, making := none }
      if port = SIGNALING_DEFAULT_PORT then m.run (m.listen i port) i t
      else
        match (m.listen i port).socket limit i with
        | none => m.exit i
        | some k => m.run k i { t with others := t.others + 1 }

def react (limit : Nat) (m : Machine ι) : MachineEvent ι → Machine ι
  | .start i => m.start i
  | .offer i c =>
      match m.task i with
      | none => m
      | some t => m.offer i t c
  | .tries i =>
      match m.task i with
      | none => m
      | some t =>
          match t.making with
          | some (purpose, .trying port) => m.tries limit i t purpose port
          | _ => m
  | .listens i =>
      match m.task i with
      | none => m
      | some t =>
          match t.making with
          | some (purpose, .bound port) => m.listens limit i t port purpose
          | _ => m
  | .opens i =>
      match m.task i, m.toKernel.socket limit i with
      | some t, some k => m.run k i { t with others := t.others + 1 }
      | _, _ => m
  | .closes i =>
      match m.task i with
      | none => m
      | some t =>
          m.run (m.toKernel.setDescriptors i (m.descriptors i - 1)) i
            { t with others := t.others - 1 }
  | .exit i => m.exit i

/-- Behind `init()` a process opens and closes descriptors, and answers requests one after the
other. -/
def Enabled (limit : Nat) (m : Machine ι) : MachineEvent ι → Prop
  | .start i => m.task i = none ∧ 3 ≤ limit
  | .offer i _ => ∃ t ∈ m.task i, t.signaling ≠ none ∧ t.making = none ∧ t.locked = false
  | .tries i => ∃ t ∈ m.task i, ∃ made ∈ t.making, made.2 = .trying made.2.port
  | .listens i => ∃ t ∈ m.task i, ∃ made ∈ t.making, made.2 = .bound made.2.port
  | .opens i => ∃ t ∈ m.task i, t.signaling ≠ none
  | .closes i => ∃ t ∈ m.task i, t.signaling ≠ none ∧ 0 < t.others
  | .exit i => m.task i ≠ none

def Step (limit : Nat) (m : Machine ι) (event : MachineEvent ι) (m' : Machine ι) : Prop :=
  m.Enabled limit event ∧ m.react limit event = m'

/-- No port is tried that another process has bound and does not listen on yet. -/
def Alone (m : Machine ι) : MachineEvent ι → Prop
  | .tries i => ∀ t ∈ m.task i, ∀ made ∈ t.making,
      ∀ j, j ≠ i → ∀ u ∈ m.task j, made.2.port ∉ u.bound
  | _ => True

/-- A descriptor is closed while a server is made for which there are none left. -/
def Starved (limit : Nat) (m : Machine ι) : MachineEvent ι → Prop
  | .closes i => limit ≤ m.descriptors i ∧ ∃ t ∈ m.task i, t.making ≠ none
  | _ => False

/-- No server of a channel gets as far as the signaling ports. -/
def Low (m : Machine ι) : MachineEvent ι → Prop
  | .tries i => ∀ t ∈ m.task i, ∀ made ∈ t.making,
      made.1 ≠ .signaling → made.2.port < SIGNALING_DEFAULT_PORT
  | _ => True

variable {limit : Nat} {m m' : Machine ι} {i j : ι} {t : Task} {event : MachineEvent ι}

/-- What a step can do. -/
inductive Effect (limit : Nat) (m : Machine ι) : MachineEvent ι → Machine ι → Prop where
  | begun (i : ι) (fresh : m.task i = none) (room : 3 ≤ limit) : Effect limit m (.start i) (m.start i)
  /-- The channel has its server, or there is no descriptor to open. -/
  | nothing (event : MachineEvent ι) : Effect limit m event m
  | offered (i : ι) (c : ChanPtr) (t : Task) (running : m.task i = some t)
      (started : t.signaling ≠ none) (unlocked : t.locked = false) (idle : t.making = none)
      (isNew : c ∉ t.servers.map Prod.fst) :
      Effect limit m (.offer i c) (m.run m.toKernel i
        { t with making := some (.channel c, .trying (Purpose.channel c).firstPort) })
  | refused (i : ι) (t : Task) (c : ChanPtr) (port : Nat) (running : m.task i = some t)
      (making : t.making = some (.channel c, .trying port)) :
      Effect limit m (.tries i) (m.run m.toKernel i { t with making := none, locked := true })
  | starved (i : ι) (t : Task) (purpose : Purpose) (port : Nat) (running : m.task i = some t)
      (making : t.making = some (purpose, .trying port)) (inside : port ≤ purpose.lastPort)
      (full : limit ≤ m.descriptors i) :
      Effect limit m (.tries i) (m.run m.toKernel i
        { t with making := some (purpose, .trying (port + 1)) })
  | passed (i : ι) (t : Task) (purpose : Purpose) (port : Nat) (running : m.task i = some t)
      (making : t.making = some (purpose, .trying port)) (inside : port ≤ purpose.lastPort)
      (room : m.descriptors i < limit) (taken : m.listening port ≠ none) :
      Effect limit m (.tries i) (m.run (m.toKernel.setDescriptors i (m.descriptors i + 1)) i
        { t with making := some (purpose, .trying (port + 1)), leaked := t.leaked + 1 })
  | bound (i : ι) (t : Task) (purpose : Purpose) (port : Nat) (running : m.task i = some t)
      (making : t.making = some (purpose, .trying port)) (inside : port ≤ purpose.lastPort)
      (room : m.descriptors i < limit) (free : m.listening port = none) :
      Effect limit m (.tries i) (m.run (m.toKernel.setDescriptors i (m.descriptors i + 1)) i
        { t with making := some (purpose, .bound port) })
  | served (i : ι) (t : Task) (c : ChanPtr) (port : Nat) (running : m.task i = some t)
      (making : t.making = some (.channel c, .bound port)) :
      Effect limit m (.listens i) (m.run (m.listen i port) i
        { t with servers := (c, port) :: t.servers, making := none })
  /-- `init()` is over. Unless the port is the default one it has dialled. -/
  | started (i : ι) (t : Task) (port : Nat) (k : Kernel ι) (dialled : Nat)
      (running : m.task i = some t) (making : t.making = some (.signaling, .bound port))
      (listening : k.listening = (m.listen i port).listening)
      (beside : ∀ j, j ≠ i → k.descriptors j = m.descriptors j)
      (count : k.descriptors i = m.descriptors i + dialled)
      (room : dialled = 0 ∨ m.descriptors i + dialled ≤ limit) :
      Effect limit m (.listens i) (m.run k i
        { t with signaling := some port, making := none, others := t.others + dialled })
  | opened (i : ι) (t : Task) (running : m.task i = some t) (started : t.signaling ≠ none)
      (room : m.descriptors i < limit) :
      Effect limit m (.opens i) (m.run (m.toKernel.setDescriptors i (m.descriptors i + 1)) i
        { t with others := t.others + 1 })
  | closed (i : ι) (t : Task) (running : m.task i = some t) (started : t.signaling ≠ none)
      (positive : 0 < t.others) :
      Effect limit m (.closes i) (m.run (m.toKernel.setDescriptors i (m.descriptors i - 1)) i
        { t with others := t.others - 1 })
  | ended (event : MachineEvent ι) (i : ι) (t : Task) (running : m.task i = some t)
      (why : event = .exit i ∨
        (∃ port, event = .tries i ∧ t.making = some (.signaling, .trying port) ∧ 12276 < port) ∨
        ∃ port, event = .listens i ∧ t.making = some (.signaling, .bound port) ∧
          limit ≤ m.descriptors i) :
      Effect limit m event (m.exit i)

theorem tries_effect {purpose : Purpose} {port : Nat} (running : m.task i = some t)
    (making : t.making = some (purpose, .trying port)) :
    Effect limit m (.tries i) (m.tries limit i t purpose port) := by
  unfold tries
  by_cases past : purpose.lastPort < port
  · rw [if_pos past]
    cases purpose with
    | signaling => exact .ended _ i t running (.inr (.inl ⟨port, rfl, making, past⟩))
    | channel c => exact .refused i t c port running making
  rw [if_neg past]
  have inside := Nat.not_lt.mp past
  unfold Kernel.bind Kernel.socket
  by_cases room : m.descriptors i < limit
  · rw [if_pos room]
    dsimp only [Kernel.setDescriptors_listening]
    cases taken : m.listening port with
    | none => exact .bound i t purpose port running making inside room taken
    | some j =>
        exact .passed i t purpose port running making inside room (by simp [taken])
  · rw [if_neg room]
    exact .starved i t purpose port running making inside (Nat.not_lt.mp room)

theorem listens_effect {purpose : Purpose} {port : Nat} (running : m.task i = some t)
    (making : t.making = some (purpose, .bound port)) :
    Effect limit m (.listens i) (m.listens limit i t port purpose) := by
  cases purpose with
  | channel c => exact .served i t c port running making
  | signaling =>
      unfold listens
      dsimp only
      by_cases default : port = SIGNALING_DEFAULT_PORT
      · rw [if_pos default]
        refine .started i t port _ 0 running making rfl ?_ ?_ (.inl rfl)
        · exact fun j _ => congrFun (m.listen_descriptors i port) j
        · exact congrFun (m.listen_descriptors i port) i
      · rw [if_neg default]
        unfold Kernel.socket
        rw [Kernel.listen_descriptors]
        by_cases room : m.descriptors i < limit
        · rw [if_pos room]
          refine .started i t port _ 1 running making rfl ?_ ?_ (.inr room)
          · intro j other
            rw [Kernel.setDescriptors_of_ne _ other, Kernel.listen_descriptors]
          · exact Kernel.setDescriptors_self ..
        · rw [if_neg room]
          exact .ended _ i t running (.inr (.inr ⟨port, rfl, making, Nat.not_lt.mp room⟩))

theorem Step.effect (step : Step limit m event m') : Effect limit m event m' := by
  obtain ⟨enabled, rfl⟩ := step
  cases event with
  | start i => exact .begun i enabled.1 enabled.2
  | offer i c =>
      obtain ⟨t, running, started, idle, unlocked⟩ := enabled
      rw [Option.mem_def] at running
      simp only [react, running, offer]
      split
      · exact .nothing _
      · next isNew => exact .offered i c t running started unlocked idle isNew
  | tries i =>
      obtain ⟨t, running, ⟨purpose, phase⟩, making, isTrying⟩ := enabled
      rw [Option.mem_def] at running making
      cases phase with
      | bound port => cases isTrying
      | trying port =>
          simp only [react, running, making]
          exact tries_effect running making
  | listens i =>
      obtain ⟨t, running, ⟨purpose, phase⟩, making, isBound⟩ := enabled
      rw [Option.mem_def] at running making
      cases phase with
      | trying port => cases isBound
      | bound port =>
          simp only [react, running, making]
          exact listens_effect running making
  | opens i =>
      obtain ⟨t, running, started⟩ := enabled
      rw [Option.mem_def] at running
      by_cases room : m.descriptors i < limit
      · simp only [react, running, Kernel.socket, room, if_true]
        exact .opened i t running started room
      · simp only [react, running, Kernel.socket, room, if_false]
        exact .nothing _
  | closes i =>
      obtain ⟨t, running, started, positive⟩ := enabled
      rw [Option.mem_def] at running
      simp only [react, running]
      exact .closed i t running started positive
  | exit i =>
      obtain ⟨t, running⟩ := Option.ne_none_iff_exists'.mp enabled
      exact .ended _ i t running (.inl rfl)

/-! ## What holds of a machine -/

/-- The server that a process makes is one that it does not have. -/
structure Makes (t : Task) (purpose : Purpose) (phase : Phase) : Prop where
  least : purpose.firstPort ≤ phase.port
  last : phase.port ≤ purpose.lastPort + 1
  inside : ∀ port, phase = .bound port → port ≤ purpose.lastPort
  unlocked : t.locked = false
  first : purpose = .signaling → t.signaling = none
  isNew : ∀ c, purpose = .channel c → c ∉ t.servers.map Prod.fst

/-- What holds of a running process. -/
structure Sound (limit : Nat) (m : Machine ι) (i : ι) (t : Task) : Prop where
  listens : ∀ port, m.listening port = some i ↔ port ∈ t.ports
  apart : t.ports.Nodup
  signaling : ∀ port ∈ t.signaling, 12212 ≤ port ∧ port ≤ 12276
  servers : ∀ s ∈ t.servers, 10000 ≤ s.2 ∧ s.2 ≤ 20000
  channels : (t.servers.map Prod.fst).Nodup
  making : ∀ purpose phase, t.making = some (purpose, phase) → Makes t purpose phase
  /-- Before `init()` is over. -/
  fresh : t.signaling = none → t.servers = [] ∧ t.others = 3 ∧
    ∃ phase, t.making = some (.signaling, phase) ∧
      t.leaked ≤ phase.port - SIGNALING_DEFAULT_PORT
  count : m.descriptors i = t.used
  room : t.used ≤ limit

/-- What holds of a machine. -/
structure Runs (limit : Nat) (m : Machine ι) : Prop where
  sound : ∀ i, ∀ t ∈ m.task i, m.Sound limit i t
  idle : ∀ i, m.task i = none → ∀ port, m.listening port ≠ some i
  /-- A port that is bound is its process's alone. -/
  alone : ∀ i, ∀ t ∈ m.task i, ∀ port ∈ t.bound, m.listening port = none ∧
    ∀ j, j ≠ i → ∀ u ∈ m.task j, port ∉ u.bound

section

variable {k : Kernel ι} {t' : Task} {purpose : Purpose} {port : Nat}

@[simp] theorem run_task : (m.run k i t).task i = some t :=
  Function.update_self ..

theorem run_task_of_ne (other : j ≠ i) : (m.run k i t).task j = m.task j :=
  Function.update_of_ne other ..

@[simp] theorem exit_task : (m.exit i).task i = none :=
  Function.update_self ..

theorem exit_task_of_ne (other : j ≠ i) : (m.exit i).task j = m.task j :=
  Function.update_of_ne other ..

/-- What holds of `t` and of the tasks of the others. -/
theorem forall_run {P : ι → Task → Prop} (beside : ∀ j, j ≠ i → ∀ u ∈ m.task j, P j u)
    (here : P i t) : ∀ j, ∀ u ∈ (m.run k i t).task j, P j u := by
  intro j u running
  by_cases same : j = i
  · subst same
    rw [Option.mem_def, run_task] at running
    exact Option.some.inj running ▸ here
  · rw [run_task_of_ne same] at running
    exact beside j same u running

theorem forall_exit {P : ι → Task → Prop} (beside : ∀ j, j ≠ i → ∀ u ∈ m.task j, P j u) :
    ∀ j, ∀ u ∈ (m.exit i).task j, P j u := by
  intro j u running
  by_cases same : j = i
  · subst same
    rw [exit_task] at running
    cases running
  · rw [exit_task_of_ne same] at running
    exact beside j same u running

omit [DecidableEq ι] in
theorem runs_off : (off : Machine ι).Runs limit where
  sound _ _ running := nomatch running
  idle _ _ _ listening := nomatch listening
  alone _ _ running := nomatch running

omit [DecidableEq ι] in
/-- A process is as it was where nothing of it has changed. -/
theorem Sound.beside {m' : Machine ι} (sound : m.Sound limit j t)
    (descriptors : m'.descriptors j = m.descriptors j)
    (listening : ∀ port, m'.listening port = some j ↔ m.listening port = some j) :
    m'.Sound limit j t :=
  ⟨fun port => (listening port).trans (sound.listens port), sound.apart, sound.signaling,
    sound.servers, sound.channels, sound.making, sound.fresh, descriptors.trans sound.count,
    sound.room⟩

/-- One process goes on. -/
theorem runs_run (runs : m.Runs limit)
    (descriptors : ∀ j, j ≠ i → k.descriptors j = m.descriptors j)
    (listening : ∀ j, j ≠ i → ∀ port, k.listening port = some j ↔ m.listening port = some j)
    (free : ∀ j, j ≠ i → ∀ u ∈ m.task j, ∀ port ∈ u.bound, k.listening port = none)
    (bound : ∀ port ∈ t'.bound, k.listening port = none ∧
      ∀ j, j ≠ i → ∀ u ∈ m.task j, port ∉ u.bound)
    (sound : (m.run k i t').Sound limit i t') : (m.run k i t').Runs limit := by
  constructor
  · refine forall_run (fun j other u running => ?_) sound
    exact (runs.sound j u running).beside (descriptors j other) (listening j other)
  · intro j none port
    by_cases same : j = i
    · subst same
      rw [run_task] at none
      cases none
    · rw [run_task_of_ne same] at none
      exact fun taken => runs.idle j none port ((listening j same port).mp taken)
  · -- nobody else has the port of `i`, and nobody else has bound theirs
    refine forall_run (fun j other u running port isBound => ⟨free j other u running port isBound, ?_⟩)
      fun port isBound => ⟨(bound port isBound).1, fun j other u running => ?_⟩
    · intro j' other' v running' isBound'
      by_cases same : j' = i
      · subst same
        rw [Option.mem_def, run_task] at running'
        obtain rfl := Option.some.inj running'
        exact (bound port isBound').2 j other u running isBound
      · rw [run_task_of_ne same] at running'
        exact (runs.alone j u running port isBound).2 j' other' v running' isBound'
    · rw [run_task_of_ne other] at running
      exact (bound port isBound).2 j other u running

/-- One process goes on, and nobody has begun to listen. -/
theorem runs_same (runs : m.Runs limit) (running : m.task i = some t)
    (descriptors : ∀ j, j ≠ i → k.descriptors j = m.descriptors j)
    (listening : k.listening = m.listening)
    (signaling : t'.signaling = t.signaling) (servers : t'.servers = t.servers)
    (bound : ∀ port ∈ t'.bound, m.listening port = none ∧
      ∀ j, j ≠ i → ∀ u ∈ m.task j, port ∉ u.bound)
    (making : ∀ purpose phase, t'.making = some (purpose, phase) → Makes t' purpose phase)
    (fresh : t'.signaling = none → t'.servers = [] ∧ t'.others = 3 ∧
      ∃ phase, t'.making = some (.signaling, phase) ∧
        t'.leaked ≤ phase.port - SIGNALING_DEFAULT_PORT)
    (count : k.descriptors i = t'.used) (room : k.descriptors i ≤ limit) :
    (m.run k i t').Runs limit := by
  have sound := runs.sound i t running
  have ports : t'.ports = t.ports := by
    simp [Task.ports, signaling, servers]
  apply runs_run runs descriptors
  · intro j _ port
    rw [listening]
  · intro j _ u running' port isBound
    rw [listening]
    exact (runs.alone j u running' port isBound).1
  · rw [listening]
    exact bound
  · constructor
    · intro port
      change k.listening port = some i ↔ _
      rw [listening, ports]
      exact sound.listens port
    · rw [ports]
      exact sound.apart
    · rw [signaling]
      exact sound.signaling
    · rw [servers]
      exact sound.servers
    · rw [servers]
      exact sound.channels
    · exact making
    · exact fresh
    · exact count
    · exact count ▸ room

/-- The port that was bound is listened on. -/
theorem runs_listen (runs : m.Runs limit) (running : m.task i = some t)
    (making : t.making = some (purpose, .bound port))
    (descriptors : ∀ j, j ≠ i → k.descriptors j = m.descriptors j)
    (listening : k.listening = (m.listen i port).listening)
    (ports : t'.ports.Perm (port :: t.ports)) (made : t'.making = none)
    (signaling : ∀ q ∈ t'.signaling, 12212 ≤ q ∧ q ≤ 12276) (started : t'.signaling ≠ none)
    (servers : ∀ s ∈ t'.servers, 10000 ≤ s.2 ∧ s.2 ≤ 20000)
    (channels : (t'.servers.map Prod.fst).Nodup)
    (count : k.descriptors i = t'.used) (room : k.descriptors i ≤ limit) :
    (m.run k i t').Runs limit := by
  have sound := runs.sound i t running
  have isBound : port ∈ t.bound := by
    simp [Task.bound, making]
  obtain ⟨free, alone⟩ := runs.alone i t running port isBound
  rw [Kernel.listen_listening free] at listening
  have unheld : port ∉ t.ports := by
    intro held
    rw [(sound.listens port).mpr held] at free
    cases free
  apply runs_run runs descriptors
  · intro j other q
    rw [listening]
    by_cases same : q = port
    · subst same
      rw [Function.update_self, free]
      exact iff_of_false (fun taken => other (Option.some.inj taken).symm) (Option.some_ne_none j).symm
    · rw [Function.update_of_ne same]
  · intro j other u running' q isBound'
    have apart : q ≠ port := by
      rintro rfl
      exact alone j other u running' isBound'
    rw [listening, Function.update_of_ne apart]
    exact (runs.alone j u running' q isBound').1
  · intro q isBound'
    simp [Task.bound, made] at isBound'
  · constructor
    · intro q
      change k.listening q = some i ↔ _
      rw [listening, ports.mem_iff, List.mem_cons]
      by_cases same : q = port
      · subst same
        simp
      · rw [Function.update_of_ne same, sound.listens]
        simp [same]
    · exact ports.nodup_iff.mpr (List.nodup_cons.mpr ⟨unheld, sound.apart⟩)
    · exact signaling
    · exact servers
    · exact channels
    · intro purpose phase isMade
      rw [made] at isMade
      cases isMade
    · exact fun none => absurd none started
    · exact count
    · exact count ▸ room

theorem runs_start (runs : m.Runs limit) (fresh : m.task i = none) (room : 3 ≤ limit) :
    (m.start i).Runs limit := by
  unfold start
  apply runs_run runs
  · exact fun j other => Kernel.setDescriptors_of_ne _ other 3
  · exact fun j _ port => Iff.rfl
  · exact fun j _ u running port isBound => (runs.alone j u running port isBound).1
  · intro port isBound
    cases isBound
  · constructor
    · exact fun port => iff_of_false (runs.idle i fresh port) List.not_mem_nil
    · exact List.nodup_nil
    · exact nofun
    · exact nofun
    · exact List.nodup_nil
    · intro purpose phase made
      obtain ⟨rfl, rfl⟩ := Prod.mk.inj (Option.some.inj made)
      exact ⟨Nat.le_refl _, by decide, nofun, rfl, fun _ => rfl, nofun⟩
    · exact fun _ => ⟨rfl, rfl, _, rfl, Nat.zero_le _⟩
    · exact Kernel.setDescriptors_self ..
    · exact room

theorem runs_exit (runs : m.Runs limit) (i : ι) : (m.exit i).Runs limit := by
  have listening : ∀ j, j ≠ i → ∀ port, (m.exit i).listening port = some j ↔
      m.listening port = some j := by
    intro j other port
    unfold exit
    dsimp only
    split
    · next mine =>
      rw [mine]
      exact iff_of_false (Option.some_ne_none j).symm fun same => other (Option.some.inj same).symm
    · rfl
  constructor
  · refine forall_exit fun j other u running => ?_
    exact (runs.sound j u running).beside (Function.update_of_ne other ..) (listening j other)
  · intro j none port
    by_cases same : j = i
    · subst same
      unfold exit
      dsimp only
      split
      · exact (Option.some_ne_none j).symm
      · next other => exact other
    · rw [exit_task_of_ne same] at none
      exact fun taken => runs.idle j none port ((listening j same port).mp taken)
  · refine forall_exit fun j _ u running port isBound => ?_
    obtain ⟨free, alone⟩ := runs.alone j u running port isBound
    constructor
    · unfold exit
      dsimp only
      rw [free]
      exact if_neg (Option.some_ne_none i).symm
    · intro j' apart v running'
      exact forall_exit (P := fun j' v => j' ≠ j → port ∉ v.bound)
        (fun j' _ v running' apart => alone j' apart v running') j' v running' apart

end

omit [DecidableEq ι] in
/-- A process that makes a server for a channel is behind `init()`. -/
theorem Sound.started {c : ChanPtr} {phase : Phase} (sound : m.Sound limit i t)
    (making : t.making = some (.channel c, phase)) : t.signaling ≠ none := by
  intro none
  obtain ⟨-, -, _, isFirst, -⟩ := sound.fresh none
  rw [making] at isFirst
  cases isFirst

omit [DecidableEq ι] in
/-- What is left of a port that is passed over. -/
theorem Sound.fresh_next {purpose : Purpose} {port : Nat} {next : Phase} (leaked : Nat)
    (sound : m.Sound limit i t) (making : t.making = some (purpose, .trying port))
    (cost : t.leaked ≤ port - SIGNALING_DEFAULT_PORT →
      leaked ≤ next.port - SIGNALING_DEFAULT_PORT) (none : t.signaling = none) :
    t.servers = [] ∧ t.others = 3 ∧ ∃ phase, some (purpose, next) = some (.signaling, phase) ∧
      leaked ≤ phase.port - SIGNALING_DEFAULT_PORT := by
  obtain ⟨servers, others, phase, isFirst, few⟩ := sound.fresh none
  rw [making] at isFirst
  obtain ⟨rfl, rfl⟩ := Prod.mk.inj (Option.some.inj isFirst)
  exact ⟨servers, others, next, rfl, cost few⟩

theorem Effect.runs (effect : Effect limit m event m') (isAlone : Alone m event)
    (runs : m.Runs limit) : m'.Runs limit := by
  cases effect with
  | begun i fresh room => exact runs_start runs fresh room
  | nothing => exact runs
  | offered i c t running started unlocked idle isNew =>
      have sound := runs.sound i t running
      refine runs_same runs running (fun _ _ => rfl) rfl rfl rfl ?_ ?_ ?_ ?_ ?_
      · exact fun port isBound => nomatch isBound
      · intro purpose phase made
        obtain ⟨rfl, rfl⟩ := Prod.mk.inj (Option.some.inj made)
        refine ⟨Nat.le_refl _, ?_, nofun, unlocked, nofun, ?_⟩
        · simp [Phase.port, Purpose.firstPort, Purpose.lastPort]
        · rintro c' same
          obtain rfl := Purpose.channel.inj same
          exact isNew
      · exact fun none => absurd none started
      · rw [sound.count]
        simp [Task.used, Task.ports, Task.bound, idle]
      · exact sound.count ▸ sound.room
  | refused i t c port running making =>
      have sound := runs.sound i t running
      refine runs_same runs running (fun _ _ => rfl) rfl rfl rfl ?_ ?_ ?_ ?_ ?_
      · exact fun port isBound => nomatch isBound
      · exact fun purpose phase made => nomatch made
      · exact fun none => absurd none (sound.started making)
      · rw [sound.count]
        simp [Task.used, Task.ports, Task.bound, making]
      · exact sound.count ▸ sound.room
  | starved i t purpose port running making inside full =>
      have sound := runs.sound i t running
      have makes := sound.making _ _ making
      refine runs_same runs running (fun _ _ => rfl) rfl rfl rfl ?_ ?_ ?_ ?_ ?_
      · exact fun port isBound => nomatch isBound
      · intro purpose phase made
        obtain ⟨rfl, rfl⟩ := Prod.mk.inj (Option.some.inj made)
        exact ⟨Nat.le_succ_of_le makes.least, Nat.succ_le_succ inside, nofun, makes.unlocked,
          makes.first, makes.isNew⟩
      · refine sound.fresh_next t.leaked making fun few => ?_
        exact Nat.le_trans few (Nat.sub_le_sub_right (Nat.le_succ port) _)
      · rw [sound.count]
        simp [Task.used, Task.ports, Task.bound, making]
      · exact sound.count ▸ sound.room
  | passed i t purpose port running making inside room taken =>
      have sound := runs.sound i t running
      have makes := sound.making _ _ making
      refine runs_same runs running (fun j other => Kernel.setDescriptors_of_ne _ other _)
        rfl rfl rfl ?_ ?_ ?_ ?_ ?_
      · exact fun port isBound => nomatch isBound
      · intro purpose phase made
        obtain ⟨rfl, rfl⟩ := Prod.mk.inj (Option.some.inj made)
        exact ⟨Nat.le_succ_of_le makes.least, Nat.succ_le_succ inside, nofun, makes.unlocked,
          makes.first, makes.isNew⟩
      · intro none
        obtain ⟨-, -, phase, isFirst, -⟩ := sound.fresh none
        rw [making] at isFirst
        obtain ⟨rfl, -⟩ := Prod.mk.inj (Option.some.inj isFirst)
        have least : SIGNALING_DEFAULT_PORT ≤ port := makes.least
        refine sound.fresh_next (t.leaked + 1) making (fun few => ?_) none
        change t.leaked + 1 ≤ port + 1 - SIGNALING_DEFAULT_PORT
        omega
      · rw [Kernel.setDescriptors_self, sound.count]
        simp [Task.used, Task.ports, Task.bound, making]
        omega
      · rw [Kernel.setDescriptors_self]
        exact room
  | bound i t purpose port running making inside room free =>
      have sound := runs.sound i t running
      have makes := sound.making _ _ making
      refine runs_same runs running (fun j other => Kernel.setDescriptors_of_ne _ other _)
        rfl rfl rfl ?_ ?_ ?_ ?_ ?_
      · intro q isBound
        obtain rfl := Option.some.inj isBound
        exact ⟨free, isAlone t running _ making⟩
      · intro purpose phase made
        obtain ⟨rfl, rfl⟩ := Prod.mk.inj (Option.some.inj made)
        refine ⟨makes.least, makes.last, ?_, makes.unlocked, makes.first, makes.isNew⟩
        rintro q same
        obtain rfl := Phase.bound.inj same
        exact inside
      · exact sound.fresh_next t.leaked making id
      · rw [Kernel.setDescriptors_self, sound.count]
        simp [Task.used, Task.ports, Task.bound, making]
        omega
      · rw [Kernel.setDescriptors_self]
        exact room
  | served i t c port running making =>
      have sound := runs.sound i t running
      have makes := sound.making _ _ making
      have count := congrFun (m.listen_descriptors i port)
      refine runs_listen runs running making (fun j _ => count j) rfl ?_ ?_ ?_ ?_ ?_ ?_ ?_ ?_
      · exact List.perm_middle
      · rfl
      · exact sound.signaling
      · exact sound.started making
      · exact List.forall_mem_cons.mpr ⟨⟨makes.least, makes.inside port rfl⟩, sound.servers⟩
      · exact List.nodup_cons.mpr ⟨makes.isNew c rfl, sound.channels⟩
      · rw [count i, sound.count]
        simp [Task.used, Task.ports, Task.bound, making]
        omega
      · rw [count i]
        exact sound.count ▸ sound.room
  | started i t port k dialled running making listening beside count room =>
      have sound := runs.sound i t running
      have makes := sound.making _ _ making
      have none := makes.first rfl
      obtain ⟨servers, -, -⟩ := sound.fresh none
      refine runs_listen runs running making beside listening ?_ ?_ ?_ ?_ ?_ ?_ ?_ ?_
      · simp [Task.ports, none, servers]
      · rfl
      · intro q isPort
        obtain rfl := Option.some.inj isPort
        exact ⟨makes.least, makes.inside port rfl⟩
      · exact Option.some_ne_none port
      · exact sound.servers
      · exact sound.channels
      · rw [count, sound.count]
        simp [Task.used, Task.ports, Task.bound, making, none]
        omega
      · have atMost := sound.count ▸ sound.room
        omega
  | opened i t running started room =>
      have sound := runs.sound i t running
      refine runs_same runs running (fun j other => Kernel.setDescriptors_of_ne _ other _)
        rfl rfl rfl ?_ ?_ ?_ ?_ ?_
      · exact runs.alone i t running
      · exact fun purpose phase made =>
          let makes := sound.making purpose phase made
          ⟨makes.least, makes.last, makes.inside, makes.unlocked, makes.first, makes.isNew⟩
      · exact fun none => absurd none started
      · rw [Kernel.setDescriptors_self, sound.count]
        simp [Task.used, Task.ports, Task.bound]
        omega
      · rw [Kernel.setDescriptors_self]
        exact room
  | closed i t running started positive =>
      have sound := runs.sound i t running
      refine runs_same runs running (fun j other => Kernel.setDescriptors_of_ne _ other _)
        rfl rfl rfl ?_ ?_ ?_ ?_ ?_
      · exact runs.alone i t running
      · exact fun purpose phase made =>
          let makes := sound.making purpose phase made
          ⟨makes.least, makes.last, makes.inside, makes.unlocked, makes.first, makes.isNew⟩
      · exact fun none => absurd none started
      · rw [Kernel.setDescriptors_self, sound.count]
        simp [Task.used, Task.ports, Task.bound]
        omega
      · rw [Kernel.setDescriptors_self]
        exact Nat.le_trans (Nat.sub_le _ _) (sound.count ▸ sound.room)
  | ended event i t running why => exact runs_exit runs i

theorem runs_of_reaches (reached : Reaches (Under Alone (Step limit)) off m) : m.Runs limit :=
  reached.invariant runs_off fun _ _ _ runs step => step.2.effect.runs step.1 runs

/-- How ports are given out. -/
structure Ported (limit : Nat) (m : Machine ι) : Prop where
  listening : ∀ port i, m.listening port = some i ↔ ∃ t ∈ m.task i, port ∈ t.ports
  apart : ∀ i, ∀ t ∈ m.task i, t.ports.Nodup ∧
    ∀ j, j ≠ i → ∀ u ∈ m.task j, t.ports.Disjoint u.ports
  /-- A port is bound if no server listens on it. -/
  tried : ∀ i m', Step limit m (.tries i) m' → ∀ t ∈ m.task i, ∀ purpose port,
    t.making = some (purpose, .trying port) → port ≤ purpose.lastPort →
      ∃ t' ∈ m'.task i, (t'.making = some (purpose, .trying (port + 1)) ∧
          (limit ≤ m.descriptors i ∨ ∃ j, ∃ u ∈ m.task j, port ∈ u.ports)) ∨
        (t'.making = some (purpose, .bound port) ∧
          m.descriptors i < limit ∧ ∀ j, ∀ u ∈ m.task j, port ∉ u.ports)
  /-- A port that is bound is had. -/
  got : ∀ i m', Step limit m (.listens i) m' → ∀ t ∈ m.task i, ∀ purpose port,
    t.making = some (purpose, .bound port) → ∀ t' ∈ m'.task i,
      port ∈ t'.ports ∧ m'.listening port = some i
  /-- There are descriptors enough for `init()`. -/
  supplied : 70 ≤ limit → ∀ i, ∀ t ∈ m.task i, t.signaling = none → m.descriptors i < limit
  /-- It throws behind its last port only. -/
  refused : 70 ≤ limit → ∀ i m' event, Step limit m event m' → ∀ t ∈ m.task i,
    t.signaling = none → m'.task i = none → event ≠ .exit i →
      t.making = some (.signaling, .trying 12277)

omit [DecidableEq ι] in
theorem Runs.listening_iff (runs : m.Runs limit) (port : Nat) (i : ι) :
    m.listening port = some i ↔ ∃ t ∈ m.task i, port ∈ t.ports := by
  constructor
  · intro taken
    cases running : m.task i with
    | none => exact absurd taken (runs.idle i running port)
    | some t => exact ⟨t, rfl, ((runs.sound i t running).listens port).mp taken⟩
  · rintro ⟨t, running, held⟩
    exact ((runs.sound i t running).listens port).mpr held

omit [DecidableEq ι] in
/-- `init()` has 68 descriptors at most. -/
theorem Sound.supplied (sound : m.Sound limit i t) (fresh : t.signaling = none) :
    m.descriptors i ≤ 68 := by
  obtain ⟨servers, others, phase, making, few⟩ := sound.fresh fresh
  have makes := sound.making _ _ making
  have default : SIGNALING_DEFAULT_PORT = 12212 := rfl
  rw [sound.count]
  cases phase with
  | trying port =>
      have last : port ≤ 12277 := makes.last
      simp only [Phase.port] at few
      simp [Task.used, Task.ports, Task.bound, fresh, servers, others, making]
      omega
  | bound port =>
      have last : port ≤ 12276 := makes.inside port rfl
      simp only [Phase.port] at few
      simp [Task.used, Task.ports, Task.bound, fresh, servers, others, making]
      omega

/-- A port belongs to one server of one running process, and a new server gets the first port on
which nobody listens when it is tried. -/
theorem ported_of_reaches (reached : Reaches (Under Alone (Step limit)) off m) :
    m.Ported limit := by
  have runs := runs_of_reaches reached
  constructor
  · exact runs.listening_iff
  · intro i t running
    refine ⟨(runs.sound i t running).apart, fun j other u running' port held held' => ?_⟩
    have mine := (runs.listening_iff port i).mpr ⟨t, running, held⟩
    have theirs := (runs.listening_iff port j).mpr ⟨u, running', held'⟩
    exact other (Option.some.inj (theirs.symm.trans mine))
  · intro i m' step t running purpose port making inside
    have listened : m.listening port ≠ none ↔ ∃ j, ∃ u ∈ m.task j, port ∈ u.ports := by
      simp only [Option.ne_none_iff_exists', runs.listening_iff]
    obtain ⟨_, rfl⟩ := step
    rw [Option.mem_def] at running
    simp only [react, running, making]
    unfold tries
    rw [if_neg (Nat.not_lt.mpr inside)]
    unfold Kernel.bind Kernel.socket
    by_cases room : m.descriptors i < limit
    · rw [if_pos room]
      dsimp only [Kernel.setDescriptors_listening]
      cases taken : m.listening port with
      | none =>
          refine ⟨_, run_task, .inr ⟨rfl, room, fun j u running' held => ?_⟩⟩
          exact (listened.mpr ⟨j, u, running', held⟩) taken
      | some j => exact ⟨_, run_task, .inl ⟨rfl, .inr (listened.mp (by simp [taken]))⟩⟩
    · rw [if_neg room]
      exact ⟨_, run_task, .inl ⟨rfl, .inl (Nat.not_lt.mp room)⟩⟩
  · intro i m' step t running purpose port making t' running'
    have runs' : m'.Runs limit := step.effect.runs trivial runs
    have held : port ∈ t'.ports := by
      obtain ⟨_, rfl⟩ := step
      rw [Option.mem_def] at running running'
      simp only [react, running, making] at running'
      cases purpose with
      | channel c =>
          unfold listens at running'
          rw [run_task] at running'
          obtain rfl := Option.some.inj running'
          simp [Task.ports]
      | signaling =>
          unfold listens at running'
          dsimp only at running'
          split at running'
          · rw [run_task] at running'
            obtain rfl := Option.some.inj running'
            simp [Task.ports]
          · split at running'
            · rw [exit_task] at running'
              cases running'
            · rw [run_task] at running'
              obtain rfl := Option.some.inj running'
              simp [Task.ports]
    exact ⟨held, (runs'.listening_iff port i).mpr ⟨t', running', held⟩⟩
  · intro enough i t running fresh
    have atMost := (runs.sound i t running).supplied fresh
    omega
  · intro enough i m' event step t running fresh gone other
    have sound := runs.sound i t running
    obtain ⟨servers, -, phase, making, -⟩ := sound.fresh fresh
    have atMost := sound.supplied fresh
    rw [Option.mem_def] at running
    -- whoever goes on is still there
    have stays : ∀ k i' t', m' = m.run k i' t' → False := by
      rintro k i' t' rfl
      by_cases same : i = i'
      · subst same
        rw [run_task] at gone
        cases gone
      · rw [run_task_of_ne same, running] at gone
        cases gone
    cases step.effect with
    | begun i' => exact (stays _ _ _ rfl).elim
    | nothing =>
        rw [running] at gone
        cases gone
    | offered | refused | starved | passed | bound | served | started | opened | closed =>
        exact (stays _ _ _ rfl).elim
    | ended event i' t' running' why =>
        by_cases same : i = i'
        · subst same
          obtain rfl := Option.some.inj (running.symm.trans running')
          rcases why with isExit | ⟨port, _, making', past⟩ | ⟨port, _, making', full⟩
          · exact absurd isExit other
          · have last : port ≤ 12277 := (sound.making _ _ making').last
            rw [making', show port = 12277 by omega]
          · omega
        · rw [exit_task_of_ne same, running] at gone
          cases gone

/-! ## What a server costs -/

/-- How many ports its servers passed over. -/
def skipped (t : Task) : Nat :=
  (t.signaling.elim 0 fun port => port - SIGNALING_DEFAULT_PORT) +
    (t.servers.map fun s => s.2 - 10000).sum

theorem skipped_fresh (fresh : t.signaling = none) :
    skipped t = (t.servers.map fun s => s.2 - 10000).sum := by
  unfold skipped
  rw [fresh, Option.elim_none, Nat.zero_add]

theorem skipped_started {port : Nat} (started : t.signaling = some port) :
    skipped t = (port - SIGNALING_DEFAULT_PORT) + (t.servers.map fun s => s.2 - 10000).sum := by
  unfold skipped
  rw [started, Option.elim_some]

theorem skipped_congr {t t' : Task} (signaling : t'.signaling = t.signaling)
    (servers : t'.servers = t.servers) : skipped t' = skipped t := by
  unfold skipped
  rw [signaling, servers]

/-- Each port that a process passed over has cost it a descriptor, unless it had none. -/
structure Paid (limit : Nat) (m : Machine ι) (i : ι) (t : Task) : Prop where
  atLeast : skipped t ≤ t.leaked
  exact : t.making = none → t.locked = false → t.leaked = skipped t
  making : ∀ purpose phase, t.making = some (purpose, phase) →
    t.leaked = skipped t + (phase.port - purpose.firstPort) ∨
      limit ≤ m.descriptors i ∧ ∃ port, phase = .trying port

omit [DecidableEq ι] in
/-- Where there is no new server. -/
theorem paid_same (t : Task) {t' : Task} (signaling : t'.signaling = t.signaling)
    (servers : t'.servers = t.servers) (atLeast : skipped t ≤ t'.leaked)
    (exact : t'.making = none → t'.locked = false → t'.leaked = skipped t)
    (making : ∀ purpose phase, t'.making = some (purpose, phase) →
      t'.leaked = skipped t + (phase.port - purpose.firstPort) ∨
        limit ≤ m.descriptors i ∧ ∃ port, phase = .trying port) : m.Paid limit i t' := by
  rw [← skipped_congr signaling servers] at atLeast exact making
  exact ⟨atLeast, exact, making⟩

theorem paid_run {k : Kernel ι} {t' : Task} (paid : ∀ i, ∀ t ∈ m.task i, m.Paid limit i t)
    (beside : ∀ j, j ≠ i → k.descriptors j = m.descriptors j)
    (here : (m.run k i t').Paid limit i t') :
    ∀ j, ∀ u ∈ (m.run k i t').task j, (m.run k i t').Paid limit j u := by
  refine forall_run (fun j other u running => ?_) here
  obtain ⟨atLeast, exact, making⟩ := paid j u running
  rw [← beside j other] at making
  exact ⟨atLeast, exact, making⟩

theorem Effect.paid (effect : Effect limit m event m') (runs : m.Runs limit)
    (fed : ¬ Starved limit m event) (paid : ∀ i, ∀ t ∈ m.task i, m.Paid limit i t) :
    ∀ i, ∀ t ∈ m'.task i, m'.Paid limit i t := by
  cases effect with
  | begun i fresh room =>
      apply paid_run paid
      · exact fun j other => Kernel.setDescriptors_of_ne _ other 3
      · refine ⟨Nat.le_refl _, nofun, fun purpose phase made => .inl ?_⟩
        obtain ⟨rfl, rfl⟩ := Prod.mk.inj (Option.some.inj made)
        simp [skipped, Phase.port]
  | nothing => exact paid
  | offered i c t running started unlocked idle isNew =>
      have old := paid i t running
      apply paid_run paid (fun _ _ => rfl)
      refine paid_same t rfl rfl old.atLeast nofun fun purpose phase made => .inl ?_
      obtain ⟨rfl, rfl⟩ := Prod.mk.inj (Option.some.inj made)
      rw [Phase.port, Nat.sub_self, Nat.add_zero]
      exact old.exact idle unlocked
  | refused i t c port running making =>
      exact paid_run paid (fun _ _ => rfl)
        (paid_same t rfl rfl (paid i t running).atLeast nofun nofun)
  | starved i t purpose port running making inside full =>
      apply paid_run paid (fun _ _ => rfl)
      refine paid_same t rfl rfl (paid i t running).atLeast nofun fun purpose phase made =>
        .inr ⟨full, ?_⟩
      obtain ⟨rfl, rfl⟩ := Prod.mk.inj (Option.some.inj made)
      exact ⟨_, rfl⟩
  | passed i t purpose port running making inside room taken =>
      have old := paid i t running
      have least : purpose.firstPort ≤ port := ((runs.sound i t running).making _ _ making).least
      have spent := (old.making _ _ making).resolve_right fun full => Nat.not_le.mpr room full.1
      apply paid_run paid (fun j other => Kernel.setDescriptors_of_ne _ other _)
      refine paid_same t rfl rfl (Nat.le_succ_of_le old.atLeast) nofun fun purpose phase made => .inl ?_
      obtain ⟨rfl, rfl⟩ := Prod.mk.inj (Option.some.inj made)
      simp only [Phase.port] at spent ⊢
      omega
  | bound i t purpose port running making inside room free =>
      have old := paid i t running
      have spent := (old.making _ _ making).resolve_right fun full => Nat.not_le.mpr room full.1
      apply paid_run paid (fun j other => Kernel.setDescriptors_of_ne _ other _)
      refine paid_same t rfl rfl old.atLeast nofun fun purpose phase made => .inl ?_
      obtain ⟨rfl, rfl⟩ := Prod.mk.inj (Option.some.inj made)
      exact spent
  | served i t c port running making =>
      have spent := ((paid i t running).making _ _ making).resolve_right nofun
      apply paid_run paid (fun j _ => congrFun (m.listen_descriptors i port) j)
      have same : t.leaked = skipped { t with servers := (c, port) :: t.servers, making := none } := by
        simp only [skipped, Phase.port, Purpose.firstPort, List.map_cons, List.sum_cons] at spent ⊢
        omega
      exact ⟨Nat.le_of_eq same.symm, fun _ _ => same, nofun⟩
  | started i t port k dialled running making listening beside count room =>
      have fresh := ((runs.sound i t running).making _ _ making).first rfl
      have spent := ((paid i t running).making _ _ making).resolve_right nofun
      apply paid_run paid beside
      have same : t.leaked = skipped
          { t with signaling := some port, making := none, others := t.others + dialled } := by
        rw [skipped_started rfl, spent, skipped_fresh fresh, Nat.add_comm]
        rfl
      exact ⟨Nat.le_of_eq same.symm, fun _ _ => same, nofun⟩
  | opened i t running started room =>
      have old := paid i t running
      apply paid_run paid (fun j other => Kernel.setDescriptors_of_ne _ other _)
      refine paid_same t rfl rfl old.atLeast old.exact fun purpose phase made => .inl ?_
      exact (old.making _ _ made).resolve_right fun full => Nat.not_le.mpr room full.1
  | closed i t running started positive =>
      have old := paid i t running
      apply paid_run paid (fun j other => Kernel.setDescriptors_of_ne _ other _)
      refine paid_same t rfl rfl old.atLeast old.exact fun purpose phase made => .inl ?_
      refine (old.making _ _ made).resolve_right fun full => fed ⟨full.1, t, running, ?_⟩
      exact fun none => Option.some_ne_none _ (made.symm.trans none)
  | ended event i t running why =>
      refine forall_exit fun j other u running' => ?_
      have descriptors : (m.exit i).descriptors j = m.descriptors j := Function.update_of_ne other ..
      obtain ⟨atLeast, exact, making⟩ := paid j u running'
      rw [← descriptors] at making
      exact ⟨atLeast, exact, making⟩

/-- Numbers that differ add up to at least as much as the first ones. -/
theorem triangle_le_sum {values : List Nat} (apart : values.Nodup) :
    values.length * (values.length - 1) / 2 ≤ values.sum := by
  let casts : List Int := values.map Nat.cast
  have apartCasts : casts.Nodup := apart.map Nat.cast_injective
  have atLeast : ∀ x ∈ casts.toFinset, (0 : Int) ≤ x := by
    intro x member
    obtain ⟨value, _, rfl⟩ := List.mem_map.mp (List.mem_toFinset.mp member)
    exact Int.natCast_nonneg value
  have sums := Finset.sum_range_le_sum atLeast
  rw [List.toFinset_card_of_nodup apartCasts, List.sum_toFinset _ apartCasts] at sums
  simp only [zero_add, casts, List.length_map, List.map_id'] at sums
  rw [← Finset.sum_range_id, ← Int.ofNat_le, Nat.cast_list_sum]
  push_cast
  exact sums

/-- Each port that a server passes over costs the process a descriptor for good, so that the
number of its servers is bounded by the square root of what it may open. -/
theorem few_servers {port : Nat}
    (reached : Reaches (Under (fun m event => Alone m event ∧ ¬ Starved limit m event)
      (Step limit)) off m) (running : m.task i = some t) (started : t.signaling = some port) :
    t.servers.length * (t.servers.length + 1) / 2 + 1 + t.others ≤ limit ∧
      (t.making = none → t.locked = false → m.descriptors i = 1 + t.servers.length + t.others +
        ((port - SIGNALING_DEFAULT_PORT) + (t.servers.map fun s => s.2 - 10000).sum)) := by
  obtain ⟨runs, paid⟩ : m.Runs limit ∧ ∀ i, ∀ t ∈ m.task i, m.Paid limit i t := by
    refine reached.invariant (P := fun m => m.Runs limit ∧ ∀ i, ∀ t ∈ m.task i, m.Paid limit i t)
      ⟨runs_off, fun _ _ running => nomatch running⟩ ?_
    rintro m event m' ⟨runs, paid⟩ ⟨⟨isAlone, fed⟩, step⟩
    exact ⟨step.effect.runs isAlone runs, step.effect.paid runs fed paid⟩
  have sound := runs.sound i t running
  obtain ⟨atLeast, exact, -⟩ := paid i t running
  have skips := skipped_started started
  have used : t.used =
      1 + t.servers.length + t.bound.toList.length + t.others + t.leaked := by
    simp [Task.used, Task.ports, started]
    omega
  have ports : (t.servers.map Prod.snd).Nodup := (List.nodup_append.mp sound.apart).2.1
  have offsets : (t.servers.map fun s => s.2 - 10000).Nodup := by
    apply List.Nodup.map_on
    · intro s member s' member' same
      have low := (sound.servers s member).1
      have low' := (sound.servers s' member').1
      exact List.inj_on_of_nodup_map ports member member' (by omega)
    · exact List.Nodup.of_map _ ports
  have triangle := triangle_le_sum offsets
  have succ : t.servers.length * (t.servers.length + 1) / 2 =
      t.servers.length * (t.servers.length - 1) / 2 + t.servers.length := by
    rw [Nat.mul_comm]
    exact Nat.triangle_succ _
  rw [List.length_map] at triangle
  constructor
  · have atMost := sound.room
    omega
  · intro idle unlocked
    have none : t.bound = none := by
      simp [Task.bound, idle]
    rw [sound.count, used, exact idle unlocked, skips, none, Option.toList_none, List.length_nil,
      Nat.add_zero]

/-! ## Who is at the default port -/

/-- The processes of the network are those of the machine whose `init()` is over. -/
def Carries (m : Machine ι) (net : Network ι) : Prop :=
  ∀ j, ∀ u ∈ m.task j, ∀ port ∈ u.signaling,
    (net.node j).mesh.signalingPort = Int32.ofNat port

end Machine

/-- `init()` of a process whose signaling server has found `port`. -/
def Node.boot (ID : Int32) (port : Nat) (bindPort : ChanPtr → DataPort) : Node :=
  let n := Node.init ID (Int32.ofNat port) bindPort
  if port = SIGNALING_DEFAULT_PORT then n
  else { n with mesh :=
    n.mesh.addHost "localhost".toList (Int32.ofNat SIGNALING_DEFAULT_PORT) }

namespace Machine

variable {limit : Nat} {m m' : Machine ι} {i j : ι} {t t' : Task} {event : MachineEvent ι}

/-- The servers of the channels of a process are below the signaling ports. -/
structure Below (t : Task) : Prop where
  servers : ∀ s ∈ t.servers, s.2 < SIGNALING_DEFAULT_PORT
  bound : ∀ c port, t.making = some (.channel c, .bound port) → port < SIGNALING_DEFAULT_PORT

theorem Effect.below (effect : Effect limit m event m') (low : Low m event)
    (below : ∀ i, ∀ t ∈ m.task i, Below t) : ∀ i, ∀ t ∈ m'.task i, Below t := by
  cases effect with
  | begun i fresh room => exact forall_run (fun j _ => below j) ⟨nofun, nofun⟩
  | nothing => exact below
  | offered i c t running | refused i t c port running | starved i t purpose port running
  | passed i t purpose port running =>
      exact forall_run (fun j _ => below j) ⟨(below i t running).servers, nofun⟩
  | bound i t purpose port running making =>
      refine forall_run (fun j _ => below j) ⟨(below i t running).servers, fun c q made => ?_⟩
      obtain ⟨rfl, isBound⟩ := Prod.mk.inj (Option.some.inj made)
      obtain rfl := Phase.bound.inj isBound
      exact low t running _ making nofun
  | served i t c port running making =>
      have old := below i t running
      exact forall_run (fun j _ => below j)
        ⟨List.forall_mem_cons.mpr ⟨old.bound c port making, old.servers⟩, nofun⟩
  | started i t port k dialled running =>
      exact forall_run (fun j _ => below j) ⟨(below i t running).servers, nofun⟩
  | opened i t running | closed i t running =>
      exact forall_run (fun j _ => below j)
        ⟨(below i t running).servers, (below i t running).bound⟩
  | ended event i t running why => exact forall_exit fun j _ => below j

/-- A process keeps its signaling port until it exits. -/
theorem Effect.keeps {port : Nat} (effect : Effect limit m event m') (runs : m.Runs limit)
    (stays : event ≠ .exit j) (running : m.task j = some t) (started : t.signaling = some port) :
    ∃ u, m'.task j = some u ∧ u.signaling = some port := by
  have notFirst : ∀ phase, t.making ≠ some (.signaling, phase) := by
    intro phase making
    have fresh := ((runs.sound j t running).making _ _ making).first rfl
    rw [started] at fresh
    cases fresh
  -- where process `i` goes on and has what it had
  have goes : ∀ i t' k u, m.task i = some t' → u.signaling = t'.signaling →
      ∃ v, (m.run k i u).task j = some v ∧ v.signaling = some port := by
    intro i t' k u running' same
    by_cases isJ : j = i
    · subst isJ
      obtain rfl := Option.some.inj (running.symm.trans running')
      exact ⟨u, run_task, same.trans started⟩
    · exact ⟨t, (run_task_of_ne isJ).trans running, started⟩
  cases effect with
  | begun i fresh room =>
      have isJ : j ≠ i := by
        rintro rfl
        rw [running] at fresh
        cases fresh
      exact ⟨t, (run_task_of_ne isJ).trans running, started⟩
  | nothing => exact ⟨t, running, started⟩
  | offered i c t' running' | refused i t' c port' running' | starved i t' purpose port' running'
  | passed i t' purpose port' running' | bound i t' purpose port' running'
  | served i t' c port' running' | opened i t' running' | closed i t' running' =>
      exact goes i t' _ _ running' rfl
  | started i t' port' k dialled running' making =>
      have isJ : j ≠ i := by
        rintro rfl
        obtain rfl := Option.some.inj (running.symm.trans running')
        exact notFirst _ making
      exact ⟨t, (run_task_of_ne isJ).trans running, started⟩
  | ended event i t' running' why =>
      have isJ : j ≠ i := by
        rintro rfl
        obtain rfl := Option.some.inj (running.symm.trans running')
        rcases why with isExit | ⟨_, _, making, _⟩ | ⟨_, _, making, _⟩
        · exact stays isExit
        · exact notFirst _ making
        · exact notFirst _ making
      exact ⟨t, (exit_task_of_ne isJ).trans running, started⟩

theorem port_injective {port port' : Nat} (low : port ≤ 12276) (low' : port' ≤ 12276)
    (same : Int32.ofNat port = Int32.ofNat port') : port = port' := by
  have ints := congrArg Int32.toInt same
  rw [Int32.toInt_ofNat_of_lt (by omega), Int32.toInt_ofNat_of_lt (by omega)] at ints
  exact Int.ofNat.inj ints

omit [DecidableEq ι] in
/-- The socket of a new Host dials it. -/
theorem newHost_dials (n : Mesh) (ip : Str) (port : Int32) :
    (n.newHost ip port).sock n.sock.next = TCPSocket.connect ip port
      { bLinebuffer := true, listeners := some (.host n.host.next) } := by
  let new : Host := { ip := ip, port := port, bServer := false }
  let grown : Mesh := { n with host := n.host.alloc new }
  generalize isMid : grown.pushUnlessKnown (n.hasHost ip port) n.host.next = mid
  have sock : mid.sock = n.sock := by
    rw [← isMid]
    unfold Mesh.pushUnlessKnown
    split <;> rfl
  have host : mid.host = n.host.alloc new := by
    rw [← isMid]
    unfold Mesh.pushUnlessKnown
    split <;> rfl
  have isNew : n.newHost ip port = ({ mid with sock := mid.sock.alloc {} }.setSocket n.host.next
      mid.sock.next).setSock mid.sock.next (·.connect ip port) := by
    rw [← isMid]
    rfl
  have quiet : (mid.host n.host.next).bServer = false := by
    rw [host, Heap.alloc_self]
  rw [isNew, Mesh.setSock_sock, sock, Heap.modify_self]
  unfold Mesh.setSocket
  simp [quiet]

/-- A process that does not get the default port dials it on its own machine. -/
theorem boot_dials {ID : Int32} {port : Nat} {bindPort : ChanPtr → DataPort}
    (other : port ≠ SIGNALING_DEFAULT_PORT) (low : port ≤ 12276) :
    let s := (Node.boot ID port bindPort).mesh.sock 0
    s.Dialling ∧ s.ip = "localhost".toList ∧ s.port = Int32.ofNat SIGNALING_DEFAULT_PORT := by
  have apart : Int32.ofNat port ≠ Int32.ofNat SIGNALING_DEFAULT_PORT :=
    fun same => other (port_injective low (by decide) same)
  have unknown : (Node.init ID (Int32.ofNat port) bindPort).mesh.hasHost "localhost".toList
      (Int32.ofNat SIGNALING_DEFAULT_PORT) = false := by
    generalize Int32.ofNat SIGNALING_DEFAULT_PORT = there at apart
    generalize Int32.ofNat port = here at apart
    simp only [Node.init, Mesh.init, Mesh.hasHost, Mesh.hosts, Mesh.hasKey, List.any_cons,
      List.any_nil, Bool.or_false, Bool.and_eq_false_iff, beq_eq_false_iff_ne]
    exact .inr apart
  unfold Node.boot
  rw [if_neg other]
  dsimp only
  unfold Mesh.addHost
  rw [unknown, if_neg Bool.false_ne_true]
  have dials := newHost_dials (Node.init ID (Int32.ofNat port) bindPort).mesh "localhost".toList
    (Int32.ofNat SIGNALING_DEFAULT_PORT)
  have first : (Node.init ID (Int32.ofNat port) bindPort).mesh.sock.next = 0 := rfl
  rw [first] at dials
  rw [dials]
  exact ⟨⟨rfl, rfl⟩, rfl, rfl⟩

/-- If `init()` passes over the default port, the signaling server of another process is there;
and while that process runs, the first connection of this one is to it. -/
theorem dials_default
    (reached : Reaches (Under (fun m event => Alone m event ∧ Low m event) (Step limit)) off m)
    (running : m.task i = some t)
    (making : t.making = some (.signaling, .trying SIGNALING_DEFAULT_PORT))
    (room : m.descriptors i < limit) (step : Under Alone (Step limit) m (.tries i) m')
    (running' : m'.task i = some t')
    (passed : t'.making = some (.signaling, .trying (SIGNALING_DEFAULT_PORT + 1))) :
    ∃ j u, j ≠ i ∧ m.task j = some u ∧ u.signaling = some SIGNALING_DEFAULT_PORT ∧
      ∀ later, Every (Under (fun m event => Alone m event ∧ event ≠ .exit j) (Step limit)) m' later →
        ∀ v ∈ (final m' later).task i, ∀ port ∈ v.signaling, port ≠ SIGNALING_DEFAULT_PORT ∧
          ∀ (topology : Topology ι) (net : Network ι) (ID : Int32) (bindPort : ChanPtr → DataPort),
            net.node i = Node.boot ID port bindPort → (final m' later).Carries net →
              (∀ p, topology.names i "localhost".toList p = true) →
                ∀ p, (∃ w ∈ (final m' later).task p, w.signaling ≠ none) →
                  (Network.Enabled topology net (.connect i 0 p) ↔ p = j) := by
  obtain ⟨trace, ran, isLast⟩ := reached
  have below : ∀ i, ∀ t ∈ m.task i, Below t := by
    subst isLast
    refine ran.invariant (P := fun m => ∀ i, ∀ t ∈ m.task i, Below t)
      (fun _ _ running => nomatch running) ?_
    exact fun _ _ _ below step => step.2.effect.below step.1.2 below
  have alone : Reaches (Under Alone (Step limit)) off m :=
    ⟨trace, ran.mono fun _ _ _ step => ⟨step.1.1, step.2⟩, isLast⟩
  have runs := runs_of_reaches alone
  -- somebody listens on the default port, and it is no channel
  obtain ⟨t₂, running₂, outcome⟩ := (ported_of_reaches alone).tried i m' step.2 t running _ _ making
    (by simp [Purpose.lastPort])
  obtain rfl := Option.some.inj (running'.symm.trans running₂)
  obtain ⟨j, u, runningJ, held⟩ : ∃ j, ∃ u ∈ m.task j, SIGNALING_DEFAULT_PORT ∈ u.ports := by
    rcases outcome with ⟨_, full | taken⟩ | ⟨isBound, _⟩
    · exact absurd full (Nat.not_le.mpr room)
    · exact taken
    · rw [passed] at isBound
      cases isBound
  have isDefault : u.signaling = some SIGNALING_DEFAULT_PORT := by
    rcases List.mem_append.mp held with isSignaling | isServer
    · exact Option.mem_toList.mp isSignaling
    · obtain ⟨s, member, same⟩ := List.mem_map.mp isServer
      exact absurd same (Nat.ne_of_lt ((below j u runningJ).servers s member))
  have apart : j ≠ i := by
    rintro rfl
    obtain rfl := Option.some.inj (running.symm.trans runningJ)
    have fresh := ((runs.sound j t running).making _ _ making).first rfl
    rw [isDefault] at fresh
    cases fresh
  refine ⟨j, u, apart, runningJ, isDefault, fun later ranLater v runningV port isPort => ?_⟩
  -- it stays there
  obtain ⟨runs', w, runningW, isThere⟩ : (final m' later).Runs limit ∧
      ∃ w, (final m' later).task j = some w ∧ w.signaling = some SIGNALING_DEFAULT_PORT := by
    have effect := step.2.effect
    refine ranLater.invariant (P := fun m => m.Runs limit ∧
      ∃ w, m.task j = some w ∧ w.signaling = some SIGNALING_DEFAULT_PORT)
      ⟨effect.runs step.1 runs, effect.keeps runs nofun runningJ isDefault⟩ ?_
    rintro m event m' ⟨runs, w, runningW, isThere⟩ ⟨⟨isAlone, stays⟩, step⟩
    exact ⟨step.effect.runs isAlone runs, step.effect.keeps runs stays runningW isThere⟩
  have listens : (final m' later).listening SIGNALING_DEFAULT_PORT = some j := by
    refine ((runs'.sound j w runningW).listens _).mpr ?_
    simp [Task.ports, isThere]
  have other : port ≠ SIGNALING_DEFAULT_PORT := by
    rintro rfl
    have mine : (final m' later).listening SIGNALING_DEFAULT_PORT = some i := by
      refine ((runs'.sound i v runningV).listens _).mpr ?_
      rw [Option.mem_def] at isPort
      simp [Task.ports, isPort]
    exact apart (Option.some.inj (listens.symm.trans mine))
  refine ⟨other, fun topology net ID bindPort isNode carries named p isRunning => ?_⟩
  have last := ((runs'.sound i v runningV).signaling port isPort).2
  obtain ⟨dialling, ip, isDialled⟩ := @boot_dials ID port bindPort other last
  obtain ⟨x, runningX, hasPort⟩ := isRunning
  obtain ⟨there, isThere'⟩ := Option.ne_none_iff_exists'.mp hasPort
  have enabled : Network.Enabled topology net (.connect i 0 p) ↔ there = SIGNALING_DEFAULT_PORT := by
    unfold Network.Enabled
    dsimp only
    rw [isNode, ip, isDialled, carries p x runningX there isThere']
    constructor
    · rintro ⟨_, _, same⟩
      have low := ((runs'.sound p x runningX).signaling there isThere').2
      exact (port_injective (by decide) low same).symm
    · intro same
      exact ⟨dialling, named p, by rw [same]⟩
  rw [enabled]
  constructor
  · rintro rfl
    have theirs : (final m' later).listening SIGNALING_DEFAULT_PORT = some p := by
      refine ((runs'.sound p x runningX).listens _).mpr ?_
      simp [Task.ports, isThere']
    exact Option.some.inj (theirs.symm.trans listens)
  · rintro rfl
    rw [Option.mem_def] at runningX
    obtain rfl := Option.some.inj (runningX.symm.trans runningW)
    exact Option.some.inj (isThere'.symm.trans isThere)

/-! ## Two processes -/

instance (limit : Nat) (m : Machine ι) : (event : MachineEvent ι) → Decidable (m.Enabled limit event)
  | .start _ => inferInstanceAs (Decidable (_ ∧ _))
  | .offer i _ => inferInstanceAs (Decidable (∃ t ∈ m.task i, _ ∧ _ ∧ _))
  | .tries i => inferInstanceAs (Decidable (∃ t ∈ m.task i, ∃ made ∈ t.making, _))
  | .listens i => inferInstanceAs (Decidable (∃ t ∈ m.task i, ∃ made ∈ t.making, _))
  | .opens i => inferInstanceAs (Decidable (∃ t ∈ m.task i, _))
  | .closes i => inferInstanceAs (Decidable (∃ t ∈ m.task i, _ ∧ _))
  | .exit _ => inferInstanceAs (Decidable (_ ≠ _))

instance [Fintype ι] (m : Machine ι) : (event : MachineEvent ι) → Decidable (m.Alone event)
  | .tries i => inferInstanceAs (Decidable (∀ t ∈ m.task i, ∀ made ∈ t.making, ∀ j, j ≠ i → _))
  | .start _ | .offer _ _ | .listens _ | .opens _ | .closes _ | .exit _ => .isTrue trivial

instance (limit : Nat) (m : Machine ι) : (event : MachineEvent ι) → Decidable (m.Starved limit event)
  | .closes i => inferInstanceAs (Decidable (_ ∧ ∃ t ∈ m.task i, _))
  | .start _ | .offer _ _ | .tries _ | .listens _ | .opens _ | .exit _ => .isFalse id

instance (m : Machine ι) : (event : MachineEvent ι) → Decidable (m.Low event)
  | .tries i => inferInstanceAs (Decidable (∀ t ∈ m.task i, ∀ made ∈ t.making, _ → _))
  | .start _ | .offer _ _ | .listens _ | .opens _ | .closes _ | .exit _ => .isTrue trivial

/-- Process 0 and then process 1 get their ports, and each gets servers for two channels. -/
private theorem crossed : ∃ m : Machine (Fin 2),
    Reaches (Under (fun m event => Alone m event ∧ ¬ Starved 1024 m event) (Step 1024)) off m ∧
      m.task 1 = some
        { signaling := some 12213, servers := [(1, 10003), (0, 10001)], others := 4, leaked := 5 } := by
  have replayed : replay (fun m event => (some (react 1024 m event)).elim (.error ()) .ok)
      (fun m event => decide (m.Enabled 1024 event ∧ Alone m event ∧ ¬ Starved 1024 m event))
      (fun _ m => decide (m.task 1 = some
        { signaling := some 12213, servers := [(1, 10003), (0, 10001)], others := 4, leaked := 5 }))
      (.listens 1) (off : Machine (Fin 2))
      [.start 0, .tries 0, .start 1, .listens 0, .tries 1, .tries 1, .listens 1,
        .offer 0 0, .tries 0, .offer 1 0, .listens 0, .tries 1, .tries 1, .offer 0 1, .tries 0,
        .listens 1, .tries 0, .tries 0, .listens 0, .offer 1 1, .tries 1, .tries 1, .tries 1,
        .tries 1] = true := by
    decide +kernel
  obtain ⟨trace, m, ran, checked⟩ := replay_run_of_option replayed
  refine ⟨m, ⟨_, ran.mono ?_, final_concat trace _ m⟩, of_decide_eq_true checked⟩
  rintro state event next ⟨allowed, reacted⟩
  obtain ⟨enabled, conditions⟩ := of_decide_eq_true allowed
  exact ⟨conditions, enabled, Option.some.inj reacted⟩

theorem ported_crossed : ∃ m : Machine (Fin 2), Reaches (Under Alone (Step 1024)) off m ∧
    m.listening 10003 = some 1 := by
  obtain ⟨m, ⟨trace, ran, isLast⟩, running⟩ := crossed
  have reached : Reaches (Under Alone (Step 1024)) off m :=
    ⟨trace, ran.mono fun _ _ _ step => ⟨step.1.1, step.2⟩, isLast⟩
  exact ⟨m, reached, ((ported_of_reaches reached).listening 10003 1).mpr ⟨_, running, by decide⟩⟩

/-- The two servers of process 1 have passed over four ports. -/
theorem few_servers_crossed : ∃ m : Machine (Fin 2),
    Reaches (Under (fun m event => Alone m event ∧ ¬ Starved 1024 m event) (Step 1024)) off m ∧
      m.descriptors 1 = 1 + 2 + 4 + (1 + 4) := by
  obtain ⟨m, reached, running⟩ := crossed
  exact ⟨m, reached, (few_servers reached running rfl).2 rfl rfl⟩

/-- Process 1 passes over the port of process 0, gets the next one and dials. -/
theorem dials_default_first : ∃ (m m' m'' : Machine (Fin 2)) (net : Network (Fin 2))
    (topology : Topology (Fin 2)), Step 1024 m (.tries 1) m' ∧ Reaches (Step 1024) m' m'' ∧
      m''.task 1 = some { signaling := some 12213, others := 4, leaked := 1 } ∧ m''.Carries net ∧
        Network.Enabled topology net (.connect 1 0 0) := by
  let allowed (m : Machine (Fin 2)) (event : MachineEvent (Fin 2)) : Bool :=
    decide (m.Enabled 1024 event ∧ Alone m event ∧ Low m event ∧ event ≠ .exit 0)
  have replayed : replay (fun m event => (some (react 1024 m event)).elim (.error ()) .ok) allowed
      (fun m m' => decide (m.task 1 = some { making := some (.signaling, .trying 12212) } ∧
          m.descriptors 1 = 3 ∧
          m'.task 1 = some { making := some (.signaling, .trying 12213), leaked := 1 }) &&
        replay (fun m event => (some (react 1024 m event)).elim (.error ()) .ok) allowed
          (fun _ m'' => decide (m''.task 0 = some { signaling := some 12212 } ∧
            m''.task 1 = some { signaling := some 12213, others := 4, leaked := 1 }))
          (.listens 1) m' [.tries 1])
      (.tries 1) (off : Machine (Fin 2)) [.start 0, .tries 0, .start 1, .listens 0] = true := by
    decide +kernel
  obtain ⟨trace, m', ran, checked⟩ := replay_run_of_option replayed
  obtain ⟨first, replayed'⟩ := Bool.and_eq_true_iff.mp checked
  obtain ⟨making, three, passed⟩ := of_decide_eq_true first
  obtain ⟨later, m'', ran', checked'⟩ := replay_run_of_option replayed'
  obtain ⟨running₀, running₁⟩ := of_decide_eq_true checked'
  obtain ⟨before, ⟨allowedStep, reacted⟩, _⟩ := (every_append _ _).mp ran
  have step : Under Alone (Step 1024) (final off trace) (.tries 1) m' := by
    obtain ⟨enabled, isAlone, _⟩ := of_decide_eq_true allowedStep
    exact ⟨isAlone, enabled, Option.some.inj reacted⟩
  have reached : Reaches (Under (fun m event => Alone m event ∧ Low m event) (Step 1024)) off
      (final off trace) := by
    refine ⟨trace, before.mono ?_, rfl⟩
    rintro state event next ⟨allowed, reacted⟩
    obtain ⟨enabled, isAlone, low, _⟩ := of_decide_eq_true allowed
    exact ⟨⟨isAlone, low⟩, enabled, Option.some.inj reacted⟩
  have stays : Every (Under (fun m event => Alone m event ∧ event ≠ .exit 0) (Step 1024)) m'
      (later ++ [(.listens 1, m'')]) := by
    refine ran'.mono ?_
    rintro state event next ⟨allowed, reacted⟩
    obtain ⟨enabled, isAlone, _, other⟩ := of_decide_eq_true allowed
    exact ⟨⟨isAlone, other⟩, enabled, Option.some.inj reacted⟩
  let bindPort : ChanPtr → DataPort := fun _ => ⟨10000, by decide⟩
  let net : Network (Fin 2) :=
    { node := fun p => Node.boot 0 (if p = 0 then 12212 else 12213) bindPort
      link := Heap.empty { client := 0, clientSock := 0, server := 0 }
      dataLink := Heap.empty { client := 0, server := 0, channel := 0 } }
  have carries : m''.Carries net := by
    intro j u isTask port isPort
    rw [Option.mem_def] at isTask
    fin_cases j
    · obtain rfl := Option.some.inj (running₀.symm.trans isTask)
      obtain rfl := Option.some.inj isPort
      decide
    · obtain rfl := Option.some.inj (running₁.symm.trans isTask)
      obtain rfl := Option.some.inj isPort
      decide
  obtain ⟨j, u, apart, isTask, isDefault, dials⟩ :=
    dials_default reached making rfl (three ▸ by decide) step passed rfl
  have isFirst : j = 0 := by
    fin_cases j
    · rfl
    · exact absurd rfl apart
  subst isFirst
  have dials := dials _ stays
  rw [final_concat] at dials
  let topology : Topology (Fin 2) := ⟨fun _ _ _ => true, fun _ _ => []⟩
  have dialled := (dials _ running₁ 12213 rfl).2 topology net 0 bindPort rfl carries (fun _ => rfl) 0
    ⟨_, running₀, Option.some_ne_none 12212⟩
  refine ⟨_, m', m'', net, topology, step.2, ⟨_, stays.of_under, final_concat _ _ _⟩, running₁, carries, ?_⟩
  exact dialled.mpr rfl

/-- Both have bound the port before one of them listens: then both take it for theirs. -/
example : ((([.start 0, .start 1, .tries 0, .tries 1, .listens 0, .listens 1].foldl (react 1024)
    (off : Machine (Fin 2))).task 1).bind Task.signaling) = some 12212 := by
  decide +kernel

end Machine

end LibPubSub
