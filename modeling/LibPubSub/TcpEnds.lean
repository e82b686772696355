import LibPubSub.Connections
import LibPubSub.Delivery
import LibPubSub.Library.Slots

/-! `ServerTCP` and `ClientTCP` of `protocols/tcp.h`. `ServerTCP::send` writes on the
descriptors of the sockets in `TCPServer::connections`, and a number that has been closed
is handed out again. -/

set_option autoImplicit false

namespace LibPubSub.TcpEnds

open Transition

/-- The thread of a client's socket. -/
inductive Thread where
  | dialling
  | receiving (d : ConnId)
  | over
  /-- The empty `Client::on_close` was called, which ends the process. -/
  | aborted
  deriving DecidableEq

/-- A `ClientTCP`, alone in its process. Its thread runs from within the constructor. -/
structure ClientTCP where
  thread : Thread := .dialling
  /-- The constructor is over: `bReconnect` is false, `TCPSocket::on_close` is set, and
  `on_receive` is that of `ClientTCP`. -/
  built : Bool := false
  cb : Bool := false
  on_close : Bool := false

namespace ClientTCP

/-- `on_receive` calls `cb`. -/
def listens (client : ClientTCP) : Bool :=
  client.built && client.cb

/-- Behind `::close(fd)` in `TCPSocket::run`. -/
def leave (client : ClientTCP) : ClientTCP :=
  { client with
    thread :=
      if client.built = false then .dialling
      else if client.on_close = true then .over
      else .aborted }

end ClientTCP

/-- A connection to the server. The server's socket of it goes by the same number. -/
structure Connection (ι : Type) where
  client : ι
  toClient : Flow := {}
  toServer : Flow := {}
  /-- What was received while nobody listened. -/
  dropped : Str := []
  /-- What `cb` has got. -/
  heard : Str := []
  lost : Bool := false

namespace Connection

variable {ι : Type}

def carry (conn : Connection ι) (bytes : Str) : Connection ι :=
  { conn with toClient.written := conn.toClient.written ++ bytes }

/-- A round of the client's receive loop. -/
def receive (conn : Connection ι) (listens : Bool) (len : Nat) : Connection ι :=
  let bytes := conn.toClient.left.take len
  { conn with
    toClient.taken := conn.toClient.taken + len
    dropped := if listens then conn.dropped else conn.dropped ++ bytes
    heard := if listens then conn.heard ++ bytes else conn.heard }

end Connection

structure State (ι : Type) where
  server : TCPServer Unit := {}
  /-- The descriptors of the accepted sockets. -/
  fd : SockPtr → Nat := fun _ => 0
  /-- The thread of the accepted socket is behind `::close(fd)`. -/
  shut : SockPtr → Bool := fun _ => false
  /-- The descriptors of the server's process: those of accepted sockets and others. -/
  table : Slots (Option ConnId)
  conn : Heap (Connection ι)
  client : ι → ClientTCP := fun _ => {}

inductive Event (ι : Type) where
  /-- The server's process opens and closes another descriptor. -/
  | opens
  | closes (number : Nat)
  /-- The constructor of client `i` is over, and its `cb` and `on_close` are set. -/
  | built (i : ι)
  | setCb (i : ι)
  | setOnClose (i : ι)
  | connect (i : ι)
  | accept (d : ConnId)
  /-- `ServerTCP::send`. -/
  | send (buf : Str)
  /-- `ClientTCP::send`. -/
  | clientSend (i : ι) (buf : Str)
  | recv (i : ι) (len : Nat)
  | serverRecv (d : ConnId) (len : Nat)
  | lose (d : ConnId)
  /-- The client's thread leaves the receive loop. -/
  | leave (i : ι)
  /-- The thread of the accepted socket leaves the receive loop and calls `::close(fd)`. -/
  | shut (d : ConnId)
  /-- Its `on_close()`. -/
  | closed (d : ConnId)
  deriving DecidableEq

namespace State

variable {ι : Type} [DecidableEq ι]

omit [DecidableEq ι] in
/-- The bytes that a `ServerTCP::send` of `buf` puts on connection `d`. -/
def sent (s : State ι) (buf : Str) (d : ConnId) : Str :=
  ((s.server.broadcast buf).filter fun entry =>
    s.table.owner (s.fd entry.socket) = some (some d)).flatMap Sent.bytes

def setClient (s : State ι) (i : ι) (change : ClientTCP → ClientTCP) : State ι :=
  { s with client := Function.update s.client i (change (s.client i)) }

omit [DecidableEq ι] in
def setConn (s : State ι) (d : ConnId) (change : Connection ι → Connection ι) : State ι :=
  { s with conn := s.conn.modify d change }

def react (s : State ι) : Event ι → State ι
  | .opens => { s with table := s.table.take none }
  | .closes number => { s with table := s.table.release number }
  | .built i => s.setClient i fun client => { client with built := true }
  | .setCb i => s.setClient i fun client => { client with cb := true }
  | .setOnClose i => s.setClient i fun client => { client with on_close := true }
  | .connect i =>
      { s with conn := s.conn.alloc { client := i } }.setClient i fun client =>
        { client with thread := .receiving s.conn.next }
  | .accept d =>
      { s with
        server := s.server.accept d none
        fd := Function.update s.fd d s.table.lowest
        table := s.table.take (some d) }
  | .send buf => { s with conn := ⟨fun d => (s.conn d).carry (s.sent buf d), s.conn.next⟩ }
  | .clientSend i buf =>
      match (s.client i).thread with
      | .receiving d => s.setConn d fun conn =>
          { conn with toServer.written := conn.toServer.written ++ buf }
      | _ => s
  | .recv i len =>
      match (s.client i).thread with
      | .receiving d => s.setConn d (·.receive (s.client i).listens len)
      | _ => s
  -- `on_receive` of an accepted socket is that of `TCPSocket`
  | .serverRecv d len => s.setConn d fun conn =>
      { conn with toServer.taken := conn.toServer.taken + len }
  | .lose d => s.setConn d fun conn => { conn with lost := true }
  | .leave i => s.setClient i ClientTCP.leave
  | .shut d =>
      { s with shut := Function.update s.shut d true, table := s.table.release (s.fd d) }
  | .closed d => { s with server := s.server.close d }

omit [DecidableEq ι] in
/-- The socket of connection `d` has been accepted and its descriptor is open. -/
def Serves (s : State ι) (d : ConnId) : Prop :=
  d ∈ s.server.accepted ∧ s.shut d = false

omit [DecidableEq ι] in
instance (s : State ι) (d : ConnId) : Decidable (s.Serves d) :=
  inferInstanceAs (Decidable (_ ∧ _))

omit [DecidableEq ι] in
/-- Where client `i` is in the receive loop of a connection. -/
def Receiving (s : State ι) (i : ι) (holds : ConnId → Prop) : Prop :=
  match (s.client i).thread with
  | .receiving d => holds d
  | _ => False

omit [DecidableEq ι] in
instance (s : State ι) (i : ι) (holds : ConnId → Prop) [DecidablePred holds] :
    Decidable (s.Receiving i holds) := by
  unfold Receiving
  split <;> infer_instance

omit [DecidableEq ι] in
def Enabled (s : State ι) : Event ι → Prop
  | .opens | .send _ | .clientSend _ _ => True
  | .closes number => s.table.owner number = some none
  | .built i => (s.client i).built = false
  | .setCb i | .setOnClose i => (s.client i).built = true
  | .connect i => (s.client i).thread = .dialling
  | .accept d => d < s.conn.next ∧ d ∉ s.server.accepted
  | .recv i len => s.Receiving i fun d =>
      0 < len ∧ len ≤ BUFSIZE ∧ len ≤ (s.conn d).toClient.left.length
  | .serverRecv d len =>
      s.Serves d ∧ 0 < len ∧ len ≤ BUFSIZE ∧ len ≤ (s.conn d).toServer.left.length
  | .lose d => d < s.conn.next
  | .leave i => s.Receiving i fun d => (s.conn d).lost = true ∨ s.shut d = true
  | .shut d =>
      s.Serves d ∧ ((s.conn d).lost = true ∨ ¬ s.Receiving (s.conn d).client (· = d))
  | .closed d => s.shut d = true ∧ s.server.Open d

omit [DecidableEq ι] in
instance (s : State ι) : (event : Event ι) → Decidable (s.Enabled event)
  | .opens | .send _ | .clientSend _ _ => .isTrue trivial
  | .closes _ => inferInstanceAs (Decidable (_ = _))
  | .built _ | .setCb _ | .setOnClose _ | .connect _ => inferInstanceAs (Decidable (_ = _))
  | .accept _ => inferInstanceAs (Decidable (_ ∧ _))
  | .recv i len => inferInstanceAs (Decidable (s.Receiving i fun d =>
      0 < len ∧ len ≤ BUFSIZE ∧ len ≤ (s.conn d).toClient.left.length))
  | .serverRecv _ _ => inferInstanceAs (Decidable (_ ∧ _))
  | .lose _ => inferInstanceAs (Decidable (_ < _))
  | .leave i => inferInstanceAs (Decidable (s.Receiving i fun d =>
      (s.conn d).lost = true ∨ s.shut d = true))
  | .shut _ => inferInstanceAs (Decidable (_ ∧ (_ ∨ _)))
  | .closed _ => inferInstanceAs (Decidable (_ ∧ _))

def Step (s : State ι) (event : Event ι) (s' : State ι) : Prop :=
  s.Enabled event ∧ s.react event = s'

omit [DecidableEq ι] in
/-- The server before the first connection, with the descriptors of its process. -/
def start [Inhabited ι] (table : Slots (Option ConnId)) : State ι where
  table := table
  conn := .empty { client := default }

omit [DecidableEq ι] in
/-- Only the connection that was accepted last ends, and none is accepted while one ends. -/
def Orderly (s : State ι) : Event ι → Prop
  | .accept _ => ∀ k ∈ s.server.connections, s.shut k = false
  | .closed d => s.server.accepted.getLast? = some d
  | _ => True

omit [DecidableEq ι] in
instance (s : State ι) : (event : Event ι) → Decidable (s.Orderly event)
  | .accept _ => inferInstanceAs (Decidable (∀ k ∈ s.server.connections, s.shut k = false))
  | .closed _ => inferInstanceAs (Decidable (_ = _))
  | .opens | .closes _ | .built _ | .setCb _ | .setOnClose _ | .connect _ | .send _
  | .clientSend _ _ | .recv _ _ | .serverRecv _ _ | .lose _ | .leave _ | .shut _ => .isTrue trivial

end State

/-- What an event that has led to `s` owes connection `d`. -/
def Event.owes {ι : Type} (s : State ι) (d : ConnId) : Event ι → Str
  | .send buf => if s.Serves d then buf else []
  | _ => []

/-- All that was sent while the socket of connection `d` was open. -/
def owed {ι : Type} (d : ConnId) (trace : List (Event ι × State ι)) : Str :=
  trace.flatMap fun entry => entry.1.owes entry.2 d

/-! ## What a client has got -/

namespace Connection

variable {ι : Type} {conn : Connection ι}

/-- What was received is what `cb` has got, behind what was dropped before there was a `cb`. -/
structure Split (conn : Connection ι) : Prop where
  received : conn.dropped ++ conn.heard = conn.toClient.written.take conn.toClient.taken
  within : conn.toClient.taken ≤ conn.toClient.written.length

theorem Split.carry (split : conn.Split) (bytes : Str) : (conn.carry bytes).Split := by
  constructor
  · change conn.dropped ++ conn.heard = (conn.toClient.written ++ bytes).take conn.toClient.taken
    rw [split.received, List.take_append_of_le_length split.within]
  · change conn.toClient.taken ≤ (conn.toClient.written ++ bytes).length
    rw [List.length_append]
    exact Nat.le_add_right_of_le split.within

theorem Split.receive {listens : Bool} {len : Nat} (split : conn.Split)
    (some : len ≤ conn.toClient.left.length) (muted : listens = false → conn.heard = []) :
    (conn.receive listens len).Split := by
  rw [Flow.left, List.length_drop] at some
  constructor
  · have whole : conn.toClient.written.take (conn.toClient.taken + len) =
        conn.dropped ++ conn.heard ++ conn.toClient.left.take len := by
      rw [List.take_add, split.received]
      rfl
    refine Eq.trans ?_ whole.symm
    cases listens with
    | true => exact (List.append_assoc ..).symm
    | false =>
        rw [muted rfl]
        simp [Connection.receive, muted rfl]
  · have within := split.within
    change conn.toClient.taken + len ≤ conn.toClient.written.length
    omega

/-- Nothing gets lost between the server's `send` and the client. -/
theorem Split.whole (split : conn.Split) :
    conn.dropped ++ conn.heard ++ conn.toClient.left = conn.toClient.written := by
  rw [split.received]
  exact List.take_append_drop _ _

end Connection

section

variable {ι : Type} {s s' : State ι} {event : Event ι} {d : ConnId}

/-- The invariant of the clients. -/
structure Conserved (s : State ι) : Prop where
  reading : ∀ i d, (s.client i).thread = .receiving d → d < s.conn.next ∧ (s.conn d).client = i
  split : ∀ d, (s.conn d).Split
  muted : ∀ d, (s.client (s.conn d).client).listens = false → (s.conn d).heard = []

theorem receiving_of {i : ι} {holds : ConnId → Prop} (receiving : s.Receiving i holds) :
    ∃ d, (s.client i).thread = .receiving d ∧ holds d := by
  unfold State.Receiving at receiving
  split at receiving
  · next d thread => exact ⟨d, thread, receiving⟩
  · cases receiving

theorem conserved_start [Inhabited ι] (table : Slots (Option ConnId)) :
    Conserved (State.start table : State ι) := by
  refine ⟨fun i d thread => ?_, fun _ => ⟨rfl, Nat.le_refl _⟩, fun _ _ => rfl⟩
  cases thread

/-- Neither clients nor connections are concerned. -/
theorem Conserved.beside (conserved : Conserved s) (client : s'.client = s.client)
    (conn : s'.conn = s.conn) : Conserved s' := by
  constructor
  · rw [client, conn]
    exact conserved.reading
  · rw [conn]
    exact conserved.split
  · rw [client, conn]
    exact conserved.muted

theorem Conserved.setConn {change : Connection ι → Connection ι} (conserved : Conserved s)
    (client : (change (s.conn d)).client = (s.conn d).client) (split : (change (s.conn d)).Split)
    (muted : (s.client (s.conn d).client).listens = false → (change (s.conn d)).heard = []) :
    Conserved (s.setConn d change) := by
  refine ⟨fun j e thread => ?_, fun e => ?_, fun e => ?_⟩
  · have before := conserved.reading j e thread
    refine ⟨before.1, ?_⟩
    simp only [State.setConn, Heap.modify_apply]
    split
    · next same => rw [client, ← same, before.2]
    · exact before.2
  · simp only [State.setConn, Heap.modify_apply]
    split
    · exact split
    · exact conserved.split e
  · simp only [State.setConn, Heap.modify_apply]
    split
    · rw [client]
      exact muted
    · exact conserved.muted e

variable [DecidableEq ι]

/-- A client that goes on listening may change, and does not take up a connection of another. -/
theorem Conserved.setClient {i : ι} {change : ClientTCP → ClientTCP} (conserved : Conserved s)
    (thread : ∀ client d, (change client).thread = .receiving d → client.thread = .receiving d)
    (listens : ∀ client, (change client).listens = false → client.listens = false) :
    Conserved (s.setClient i change) := by
  refine ⟨fun j d => ?_, conserved.split, fun d => ?_⟩
  · simp only [State.setClient, Function.update_apply]
    split
    · next same =>
      subst same
      exact fun receiving => conserved.reading j d (thread _ d receiving)
    · exact conserved.reading j d
  · simp only [State.setClient, Function.update_apply]
    split
    · next same => exact fun deaf => conserved.muted d (same ▸ listens _ deaf)
    · exact conserved.muted d

theorem Conserved.step (conserved : Conserved s) (stepped : State.Step s event s') :
    Conserved s' := by
  obtain ⟨enabled, rfl⟩ := stepped
  cases event with
  | opens | closes | accept | shut | closed => exact conserved.beside rfl rfl
  | built i =>
      simp only [State.react]
      apply conserved.setClient
      · exact fun _ _ => id
      · intro client deaf
        rw [ClientTCP.listens, show client.cb = false from deaf, Bool.and_false]
  | setCb i =>
      simp only [State.react]
      apply conserved.setClient
      · exact fun _ _ => id
      · intro client deaf
        have unbuilt : (client.built && true) = false := deaf
        rw [ClientTCP.listens, ← Bool.and_true client.built, unbuilt, Bool.false_and]
  | setOnClose i =>
      simp only [State.react]
      apply conserved.setClient
      · exact fun _ _ => id
      · exact fun _ => id
  | leave i =>
      simp only [State.react]
      apply conserved.setClient
      · intro client d thread
        simp only [ClientTCP.leave] at thread
        split at thread
        · cases thread
        · split at thread <;> cases thread
      · exact fun _ => id
  | connect i =>
      refine ⟨fun j d => ?_, fun d => ?_, fun d => ?_⟩
      · simp only [State.react, State.setClient, Function.update_apply, Heap.alloc_next]
        split
        · next same =>
          rintro ⟨⟩
          exact ⟨Nat.lt_succ_self _, by rw [Heap.alloc_self, same]⟩
        · intro thread
          have before := conserved.reading j d thread
          rw [Heap.alloc_of_lt _ _ before.1]
          exact ⟨Nat.lt_succ_of_lt before.1, before.2⟩
      · simp only [State.react, State.setClient, Heap.alloc_apply]
        split
        · exact ⟨rfl, Nat.le_refl _⟩
        · exact conserved.split d
      · simp only [State.react, State.setClient, Heap.alloc_apply]
        split
        · exact fun _ => rfl
        · intro deaf
          refine conserved.muted d ?_
          rw [Function.update_apply] at deaf
          split at deaf
          · next same => exact same ▸ deaf
          · exact deaf
  | send buf =>
      refine ⟨conserved.reading, fun d => ?_, conserved.muted⟩
      exact (conserved.split d).carry _
  | clientSend i buf =>
      simp only [State.react]
      split
      · next d _ =>
        exact conserved.setConn rfl ⟨(conserved.split d).1, (conserved.split d).2⟩
          (conserved.muted d)
      · exact conserved
  | recv i len =>
      obtain ⟨d, thread, -, -, some⟩ := receiving_of enabled
      have isClient := (conserved.reading i d thread).2
      have muted : (s.client i).listens = false → (s.conn d).heard = [] := by
        rw [← isClient]
        exact conserved.muted d
      simp only [State.react, thread]
      refine conserved.setConn rfl ((conserved.split d).receive some muted) ?_
      rw [isClient]
      intro deaf
      simp [Connection.receive, deaf, muted deaf]
  | serverRecv d len =>
      exact conserved.setConn rfl ⟨(conserved.split d).1, (conserved.split d).2⟩
        (conserved.muted d)
  | lose d =>
      exact conserved.setConn rfl ⟨(conserved.split d).1, (conserved.split d).2⟩
        (conserved.muted d)

end

/-! ## Where the server's messages go -/

section

variable {ι : Type} {s s' : State ι} {event : Event ι} {d k : ConnId} {buf : Str}

/-- The invariant of orderly runs: the server lists the sockets that have not closed, and
their descriptors are their own. -/
structure Sound (s : State ι) : Prop where
  kept : TCPServer.Kept s.server
  follows : TCPServer.Follows s.server
  wrapped : ∀ k ∈ s.server.accepted, ∃ _on_close, s.server.on_close k = .server _on_close
  known : ∀ k ∈ s.server.accepted, k < s.conn.next
  shut : ∀ k, s.shut k = true → k ∈ s.server.accepted
  closed : ∀ k ∈ s.server.closed, s.shut k = true
  owns : ∀ number k, s.table.owner number = some (some k) ↔ s.Serves k ∧ number = s.fd k
  apart : ∀ k ∈ s.server.connections, s.shut k = true → ∀ d, s.Serves d → s.fd d ≠ s.fd k
  silent : ∀ d, d ∉ s.server.accepted → (s.conn d).toClient.written = []

theorem open_of_listed (follows : TCPServer.Follows s.server)
    (listed : k ∈ s.server.connections) : s.server.Open k := by
  have count := follows.listed k
  split at count
  · next isOpen => exact isOpen
  · exact absurd listed (List.count_eq_zero.mp count)

theorem Sound.open_of_serves (sound : Sound s) (serves : s.Serves d) : s.server.Open d := by
  refine ⟨serves.1, fun closed => ?_⟩
  have shut := sound.closed d closed
  rw [serves.2] at shut
  cases shut

/-- Only the socket of a connection writes on its descriptor. -/
theorem Sound.writes_iff (sound : Sound s) (listed : k ∈ s.server.connections) :
    s.table.owner (s.fd k) = some (some d) ↔ s.Serves d ∧ k = d := by
  rw [sound.owns]
  constructor
  · rintro ⟨serves, same⟩
    refine ⟨serves, ?_⟩
    cases shut : s.shut k with
    | true => exact absurd same.symm (sound.apart k listed shut d serves)
    | false =>
        have mine := (sound.owns (s.fd k) k).mpr ⟨⟨(open_of_listed sound.follows listed).1, shut⟩, rfl⟩
        have other := (sound.owns (s.fd k) d).mpr ⟨serves, same⟩
        rw [mine] at other
        exact Option.some.inj (Option.some.inj other)
  · rintro ⟨serves, rfl⟩
    exact ⟨serves, rfl⟩

theorem sent_eq (s : State ι) (buf : Str) (d : ConnId) : s.sent buf d =
    (s.server.connections.filter fun k => s.table.owner (s.fd k) = some (some d)).flatMap
      fun _ => buf := by
  simp only [State.sent, TCPServer.broadcast, List.filter_map, List.flatMap_map]
  rfl

/-- A message goes once to each connection whose socket is open. -/
theorem Sound.sent (sound : Sound s) (buf : Str) (d : ConnId) :
    s.sent buf d = if s.Serves d then buf else [] := by
  rw [sent_eq]
  split
  · next serves =>
    have only : (s.server.connections.filter fun k =>
        s.table.owner (s.fd k) = some (some d)) = s.server.connections.filter (· = d) := by
      refine List.filter_congr fun k listed => ?_
      rw [decide_eq_decide, sound.writes_iff listed]
      exact ⟨fun both => both.2, fun same => ⟨serves, same⟩⟩
    have once := sound.follows.listed d
    rw [if_pos (sound.open_of_serves serves)] at once
    rw [only, List.filter_eq, once]
    exact List.append_nil buf
  · next gone =>
    have nobody : (s.server.connections.filter fun k =>
        s.table.owner (s.fd k) = some (some d)) = [] := by
      rw [List.filter_eq_nil_iff]
      intro k listed
      rw [decide_eq_true_iff, sound.writes_iff listed]
      exact fun both => gone both.1
    rw [nobody]
    rfl

theorem sound_start [Inhabited ι] {table : Slots (Option ConnId)}
    (others : ∀ number k, table.owner number ≠ some (some k)) :
    Sound (State.start table : State ι) := by
  refine ⟨TCPServer.kept_empty, TCPServer.follows_empty, nofun, nofun, nofun, nofun, ?_, nofun,
    fun _ _ => rfl⟩
  intro number k
  refine iff_of_false (others number k) ?_
  rintro ⟨⟨accepted, -⟩, -⟩
  cases accepted

/-- Neither the server nor its descriptors are concerned. -/
theorem Sound.beside (sound : Sound s) (server : s'.server = s.server) (fd : s'.fd = s.fd)
    (shut : s'.shut = s.shut) (table : s'.table = s.table) (next : s.conn.next ≤ s'.conn.next)
    (written : ∀ d ∉ s.server.accepted, (s'.conn d).toClient.written = []) : Sound s' := by
  constructor
  · rw [server]
    exact sound.kept
  · rw [server]
    exact sound.follows
  · rw [server]
    exact sound.wrapped
  · rw [server]
    exact fun k member => Nat.lt_of_lt_of_le (sound.known k member) next
  · rw [server, shut]
    exact sound.shut
  · rw [server, shut]
    exact sound.closed
  · intro number k
    rw [table, fd, State.Serves, server, shut]
    exact sound.owns number k
  · intro k
    rw [server, shut]
    intro listed isShut d
    rw [fd, State.Serves, server, shut]
    exact sound.apart k listed isShut d
  · rw [server]
    exact written

/-- Another descriptor comes or goes. -/
theorem Sound.setTable (sound : Sound s) {table : Slots (Option ConnId)}
    (same : ∀ number k, table.owner number = some (some k) ↔
      s.table.owner number = some (some k)) : Sound { s with table := table } :=
  ⟨sound.kept, sound.follows, sound.wrapped, sound.known, sound.shut, sound.closed,
    fun number k => (same number k).trans (sound.owns number k), sound.apart, sound.silent⟩

theorem Sound.accept (sound : Sound s) (known : d < s.conn.next)
    (fresh : d ∉ s.server.accepted) (calm : ∀ k ∈ s.server.connections, s.shut k = false) :
    Sound { s with
      server := s.server.accept d none
      fd := Function.update s.fd d s.table.lowest
      table := s.table.take (some d) } := by
  have isOpen : s.shut d = false := by
    cases shut : s.shut d with
    | false => rfl
    | true => exact absurd (sound.shut d shut) fresh
  have accepted (k : ConnId) : k ∈ (s.server.accept d none).accepted ↔
      k ∈ s.server.accepted ∨ k = d := by
    simp only [TCPServer.accept, List.mem_append, List.mem_singleton]
  constructor
  · have stepped : TCPServer.Step s.server (.accept d none) (s.server.accept d none) :=
      if_neg fresh
    exact TCPServer.kept_step sound.kept stepped
  · exact TCPServer.follows_accept sound.follows sound.kept fresh
  · intro k member
    simp only [TCPServer.accept, Function.update_apply]
    split
    · exact ⟨_, rfl⟩
    · next other =>
      exact sound.wrapped k (((accepted k).mp member).resolve_right other)
  · intro k member
    rcases (accepted k).mp member with old | rfl
    · exact sound.known k old
    · exact known
  · exact fun k shut => (accepted k).mpr (.inl (sound.shut k shut))
  · exact sound.closed
  · intro number k
    simp only [State.Serves, accepted, Slots.owner_take, Function.update_apply]
    by_cases isNew : number = s.table.lowest
    · rw [if_pos isNew]
      constructor
      · rintro ⟨⟩
        exact ⟨⟨.inr rfl, isOpen⟩, by rw [if_pos rfl, isNew]⟩
      · rintro ⟨⟨old | rfl, unshut⟩, same⟩
        · have other : k ≠ d := fun same => fresh (same ▸ old)
          rw [if_neg other] at same
          have mine := (sound.owns number k).mpr ⟨⟨old, unshut⟩, same⟩
          rw [isNew, Slots.owner_lowest] at mine
          cases mine
        · rfl
    · rw [if_neg isNew, sound.owns]
      constructor
      · rintro ⟨serves, same⟩
        have other : k ≠ d := fun same => fresh (same ▸ serves.1)
        exact ⟨⟨.inl serves.1, serves.2⟩, by rw [if_neg other, same]⟩
      · rintro ⟨⟨old | rfl, unshut⟩, same⟩
        · have other : k ≠ d := fun same => fresh (same ▸ old)
          rw [if_neg other] at same
          exact ⟨⟨old, unshut⟩, same⟩
        · rw [if_pos rfl] at same
          exact absurd same isNew
  · intro k listed isShut
    have unshut : s.shut k = false := by
      rcases List.mem_append.mp listed with old | new
      · exact calm k old
      · rw [List.mem_singleton.mp new]
        exact isOpen
    exact absurd (unshut.symm.trans isShut) (by decide)
  · exact fun k absent => sound.silent k fun old => absent ((accepted k).mpr (.inl old))

theorem Sound.shutDown (sound : Sound s) (serves : s.Serves d) : Sound { s with
    shut := Function.update s.shut d true
    table := s.table.release (s.fd d) } := by
  have left (k : ConnId) : State.Serves { s with
      shut := Function.update s.shut d true
      table := s.table.release (s.fd d) } k ↔ s.Serves k ∧ k ≠ d := by
    simp only [State.Serves, Function.update_apply]
    by_cases same : k = d
    · simp [same]
    · simp [same]
  refine ⟨sound.kept, sound.follows, sound.wrapped, sound.known, ?_, ?_, ?_, ?_, sound.silent⟩
  · intro k
    simp only [Function.update_apply]
    split
    · next same => exact fun _ => same ▸ serves.1
    · exact sound.shut k
  · intro k closed
    simp only [Function.update_apply]
    split
    · rfl
    · exact sound.closed k closed
  · intro number k
    rw [left, Slots.owner_release]
    have owner := sound.owns (s.fd d) d
    by_cases same : number = s.fd d
    · rw [if_pos same]
      refine iff_of_false nofun ?_
      rintro ⟨⟨serves', other⟩, isFd⟩
      have mine := (sound.owns number k).mpr ⟨serves', isFd⟩
      rw [same, owner.mpr ⟨serves, rfl⟩] at mine
      cases mine
      exact other rfl
    · rw [if_neg same, sound.owns]
      constructor
      · rintro ⟨serves', isFd⟩
        refine ⟨⟨serves', ?_⟩, isFd⟩
        rintro rfl
        exact same isFd
      · exact fun both => ⟨both.1.1, both.2⟩
  · intro k listed isShut e serves'
    obtain ⟨before, other⟩ := (left e).mp serves'
    by_cases same : k = d
    · subst same
      intro isFd
      have mine := (sound.owns (s.fd e) e).mpr ⟨before, rfl⟩
      rw [isFd, (sound.owns (s.fd k) k).mpr ⟨serves, rfl⟩] at mine
      cases mine
      exact other rfl
    · have wasShut : Function.update s.shut d true k = true := isShut
      rw [Function.update_of_ne same] at wasShut
      exact sound.apart k listed wasShut e before

theorem Sound.close (sound : Sound s) (isShut : s.shut d = true) (isOpen : s.server.Open d)
    (isLast : s.server.accepted.getLast? = some d) : Sound { s with server := s.server.close d } := by
  have listed (k : ConnId) (member : k ∈ (s.server.close d).connections) :
      k ∈ s.server.connections := by
    simp only [TCPServer.close] at member
    split at member
    · exact List.mem_of_mem_filter member
    · exact member
  refine ⟨?_, ?_, sound.wrapped, sound.known, sound.shut, ?_, sound.owns, ?_, sound.silent⟩
  · have stepped : TCPServer.Step s.server (.close d) (s.server.close d) := if_pos isOpen
    exact TCPServer.kept_step sound.kept stepped
  · exact (TCPServer.follows_close_iff sound.follows sound.kept isOpen).mpr
      ⟨isLast, sound.wrapped d isOpen.1⟩
  · intro k closed
    rcases List.mem_cons.mp closed with rfl | before
    · exact isShut
    · exact sound.closed k before
  · exact fun k member => sound.apart k (listed k member)

theorem written_setConn {change : Connection ι → Connection ι}
    (same : ∀ conn, (change conn).toClient.written = conn.toClient.written) (d e : ConnId) :
    ((s.setConn d change).conn e).toClient.written = (s.conn e).toClient.written := by
  simp only [State.setConn, Heap.modify_apply]
  split
  · next isIt => rw [same, isIt]
  · rfl

theorem Sound.setConn {change : Connection ι → Connection ι} (sound : Sound s)
    (same : ∀ conn, (change conn).toClient.written = conn.toClient.written) (d : ConnId) :
    Sound (s.setConn d change) := by
  refine sound.beside rfl rfl rfl rfl (Nat.le_refl _) fun e absent => ?_
  rw [written_setConn same]
  exact sound.silent e absent

variable [DecidableEq ι]

theorem Sound.step (sound : Sound s) (orderly : s.Orderly event)
    (stepped : State.Step s event s') : Sound s' := by
  obtain ⟨enabled, rfl⟩ := stepped
  cases event with
  | opens =>
      refine sound.setTable fun number k => ?_
      rw [Slots.owner_take]
      split
      · next isNew =>
        rw [isNew, Slots.owner_lowest]
        exact iff_of_false nofun nofun
      · exact Iff.rfl
  | closes other =>
      refine sound.setTable fun number k => ?_
      rw [Slots.owner_release]
      split
      · next isIt =>
        have free : s.table.owner other = some none := enabled
        rw [isIt, free]
        exact iff_of_false nofun nofun
      · exact Iff.rfl
  | built | setCb | setOnClose | leave =>
      exact sound.beside rfl rfl rfl rfl (Nat.le_refl _) sound.silent
  | connect i =>
      refine sound.beside rfl rfl rfl rfl (Nat.le_succ _) fun d absent => ?_
      simp only [State.react, State.setClient, Heap.alloc_apply]
      split
      · rfl
      · exact sound.silent d absent
  | accept d => exact sound.accept enabled.1 enabled.2 orderly
  | send buf =>
      refine sound.beside rfl rfl rfl rfl (Nat.le_refl _) fun d absent => ?_
      change (s.conn d).toClient.written ++ s.sent buf d = []
      rw [sound.sent, if_neg fun serves => absent serves.1, sound.silent d absent]
      rfl
  | clientSend | recv =>
      simp only [State.react]
      split
      · apply sound.setConn
        exact fun _ => rfl
      · exact sound
  | serverRecv | lose =>
      apply sound.setConn
      exact fun _ => rfl
  | shut d => exact sound.shutDown enabled.1
  | closed d => exact sound.close enabled.1 enabled.2 orderly

/-- What an event puts on a connection. -/
def Event.puts (s : State ι) (d : ConnId) : Event ι → Str
  | .send buf => s.sent buf d
  | _ => []

theorem written_step (stepped : State.Step s event s')
    (unwritten : s.conn.next ≤ d → (s.conn d).toClient.written = []) :
    (s'.conn d).toClient.written = (s.conn d).toClient.written ++ event.puts s d := by
  obtain ⟨enabled, rfl⟩ := stepped
  cases event with
  | send buf => rfl
  | connect i =>
      simp only [State.react, State.setClient, Heap.alloc_apply, Event.puts, List.append_nil]
      split
      · next isNew => exact (unwritten (Nat.le_of_eq isNew.symm)).symm
      · rfl
  | clientSend | recv =>
      simp only [State.react, Event.puts, List.append_nil]
      split
      · apply written_setConn
        exact fun _ => rfl
      · rfl
  | serverRecv | lose =>
      simp only [State.react, Event.puts, List.append_nil]
      apply written_setConn
      exact fun _ => rfl
  | opens | closes | built | setCb | setOnClose | accept | leave | shut | closed =>
      exact (List.append_nil _).symm

/-- What a step puts on a connection is what it owes it. -/
theorem Sound.written_step (sound : Sound s) (stepped : State.Step s event s') (d : ConnId) :
    (s'.conn d).toClient.written = (s.conn d).toClient.written ++ event.owes s' d := by
  have unwritten (beyond : s.conn.next ≤ d) : (s.conn d).toClient.written = [] :=
    sound.silent d fun accepted => Nat.not_lt.mpr beyond (sound.known d accepted)
  rw [TcpEnds.written_step stepped unwritten]
  obtain ⟨enabled, rfl⟩ := stepped
  cases event with
  | send buf => exact congrArg _ (sound.sent buf d)
  | _ => rfl

theorem Sound.written_run {trace : List (Event ι × State ι)} (sound : Sound s)
    (ran : Every (Under State.Orderly State.Step) s trace) (d : ConnId) :
    ((final s trace).conn d).toClient.written = (s.conn d).toClient.written ++ owed d trace := by
  induction trace generalizing s with
  | nil => exact (List.append_nil _).symm
  | cons entry trace ih =>
      obtain ⟨event, next⟩ := entry
      have stepped := ran.1.2
      rw [final_cons, ih (sound.step ran.1.1 stepped) ran.2, sound.written_step stepped,
        List.append_assoc]
      rfl

/-- As long as only the connection accepted last ends, each client gets what the server sends
while its connection is open there: once, in order, and whole but for what it has received
before it had a `cb` and what is under way. -/
theorem sends_delivered [Inhabited ι] {table : Slots (Option ConnId)}
    {trace : List (Event ι × State ι)}
    (others : ∀ number k, table.owner number ≠ some (some k))
    (ran : Every (Under State.Orderly State.Step) (State.start table) trace) (d : ConnId) :
    let conn := (final (State.start table) trace).conn d
    conn.dropped ++ conn.heard ++ conn.toClient.left = owed d trace ∧
      (((final (State.start table) trace).client conn.client).listens = false → conn.heard = []) := by
  have conserved : Conserved (final (State.start table) trace) :=
    ran.of_under.invariant (conserved_start table) fun _ _ _ before stepped => before.step stepped
  refine ⟨?_, conserved.muted d⟩
  rw [(conserved.split d).whole, (sound_start others).written_run ran]
  exact List.nil_append _

/-- An orderly event that can happen. -/
private def orderly (s : State ι) (event : Event ι) : Bool :=
  decide (s.Orderly event) && decide (s.Enabled event)

private theorem taken_of_orderly {trace : List (Event ι × State ι)}
    (ran : Every (Under (fun s event => orderly s event = true)
      fun s event s' => (.ok (s.react event) : Except Unit (State ι)) = .ok s') s trace) :
    Every (Under State.Orderly State.Step) s trace := by
  refine ran.mono fun _ _ _ stepped => ?_
  obtain ⟨isOrderly, enabled⟩ := Bool.and_eq_true_iff.mp stepped.1
  exact ⟨of_decide_eq_true isOrderly, of_decide_eq_true enabled, Except.ok.inj stepped.2⟩

omit [DecidableEq ι] in
theorem owner_nil (number : Nat) (k : ConnId) :
    Slots.owner ([] : Slots (Option ConnId)) number ≠ some (some k) := by
  simp [Slots.owner]

omit [DecidableEq ι] in
/-- The second client joins between the two messages. -/
theorem sends_delivered_twice : ∃ trace : List (Event Bool × State Bool),
    owed 0 trace = "abc".toList ∧ owed 1 trace = "c".toList := by
  let check (s : State Bool) : Prop :=
    (s.conn 0).dropped ++ (s.conn 0).heard ++ (s.conn 0).toClient.left = "abc".toList ∧
      (s.conn 1).dropped ++ (s.conn 1).heard ++ (s.conn 1).toClient.left = "c".toList
  have replayed : replay (fun s event => (.ok (s.react event) : Except Unit (State Bool))) orderly
      (fun _ s => decide (check s)) (.recv true 1) (State.start [])
      [.connect false, .accept 0, .built false, .send "ab".toList, .recv false 1, .setCb false,
        .connect true, .accept 1, .send "c".toList, .recv false 2] = true := by decide
  obtain ⟨trace, s, ran, checked⟩ := replay_run replayed
  obtain ⟨first, second⟩ := of_decide_eq_true checked
  have both (d : ConnId) := (sends_delivered owner_nil (taken_of_orderly ran) d).1
  simp only [final_concat] at both
  exact ⟨_, (both 0).symm.trans first, (both 1).symm.trans second⟩

/-! ## A connection that ends out of order -/

/-- Nobody writes on connection `d` any more. -/
structure Silenced (s : State ι) (d : ConnId) : Prop where
  known : d < s.conn.next
  accepted : d ∈ s.server.accepted
  nobody : ∀ k ∈ s.server.connections, s.table.owner (s.fd k) ≠ some (some d)

omit [DecidableEq ι] in
theorem Silenced.sent (silenced : Silenced s d) (buf : Str) : s.sent buf d = [] := by
  rw [sent_eq, List.filter_eq_nil_iff.mpr]
  · rfl
  · intro k listed
    rw [decide_eq_true_iff]
    exact silenced.nobody k listed

omit [DecidableEq ι] in
/-- The server lists no other sockets, and no descriptor comes to belong to the connection. -/
theorem Silenced.beside (silenced : Silenced s d) (next : s.conn.next ≤ s'.conn.next)
    (accepted : s.server.accepted ⊆ s'.server.accepted)
    (listed : s'.server.connections ⊆ s.server.connections) (fd : s'.fd = s.fd)
    (owner : ∀ number, s'.table.owner number = some (some d) →
      s.table.owner number = some (some d)) : Silenced s' d := by
  refine ⟨Nat.lt_of_lt_of_le silenced.known next, accepted silenced.accepted, fun k member mine => ?_⟩
  rw [fd] at mine
  exact silenced.nobody k (listed member) (owner _ mine)

theorem Silenced.step (silenced : Silenced s d) (stepped : State.Step s event s') :
    Silenced s' d := by
  obtain ⟨enabled, rfl⟩ := stepped
  cases event with
  | opens =>
      refine silenced.beside (Nat.le_refl _) (List.Subset.refl _) (List.Subset.refl _) rfl fun number => ?_
      simp only [State.react, Slots.owner_take]
      split
      · exact nofun
      · exact id
  | closes | shut =>
      refine silenced.beside (Nat.le_refl _) (List.Subset.refl _) (List.Subset.refl _) rfl fun number => ?_
      simp only [State.react, Slots.owner_release]
      split
      · exact nofun
      · exact id
  | accept e =>
      have other : e ≠ d := fun same => enabled.2 (same ▸ silenced.accepted)
      refine ⟨silenced.known, List.mem_append_left _ silenced.accepted, fun k listed => ?_⟩
      simp only [State.react, Slots.owner_take]
      by_cases isNew : k = e
      · subst isNew
        rw [Function.update_self, if_pos rfl]
        exact fun mine => other (Option.some.inj (Option.some.inj mine))
      · rw [Function.update_of_ne isNew]
        split
        · exact fun mine => other (Option.some.inj (Option.some.inj mine))
        · rcases List.mem_append.mp listed with old | new
          · exact silenced.nobody k old
          · exact absurd (List.mem_singleton.mp new) isNew
  | closed e =>
      refine silenced.beside (Nat.le_refl _) (List.Subset.refl _) (fun k member => ?_) rfl fun _ => id
      simp only [State.react, TCPServer.close] at member
      split at member
      · exact List.mem_of_mem_filter member
      · exact member
  | clientSend | recv =>
      simp only [State.react]
      split
      · exact silenced.beside (Nat.le_refl _) (List.Subset.refl _) (List.Subset.refl _) rfl fun _ => id
      · exact silenced
  | connect i =>
      exact silenced.beside (Nat.le_succ _) (List.Subset.refl _) (List.Subset.refl _) rfl
        fun _ => id
  | built | setCb | setOnClose | send | serverRecv | lose | leave =>
      exact silenced.beside (Nat.le_refl _) (List.Subset.refl _) (List.Subset.refl _) rfl fun _ => id

theorem Silenced.written_step (silenced : Silenced s d) (stepped : State.Step s event s') :
    (s'.conn d).toClient.written = (s.conn d).toClient.written := by
  have nothing : event.puts s d = [] := by
    cases event with
    | send buf => exact silenced.sent buf
    | _ => rfl
  rw [TcpEnds.written_step stepped fun beyond => absurd silenced.known (Nat.not_lt.mpr beyond),
    nothing, List.append_nil]

/-- When a connection ends, the newest one is forgotten. -/
theorem Sound.silenced (sound : Sound s) (stepped : State.Step s (.closed k) s')
    (isLast : s.server.accepted.getLast? = some d) : Silenced s' d := by
  obtain ⟨⟨isShut, isOpen⟩, rfl⟩ := stepped
  have accepted := List.mem_of_getLast? isLast
  refine ⟨sound.known d accepted, accepted, fun j listed => ?_⟩
  obtain ⟨_on_close, wrapped⟩ := sound.wrapped k isOpen.1
  simp only [State.react, TCPServer.close, wrapped, sound.kept.last, isLast] at listed
  obtain ⟨listed, notLast⟩ := List.mem_filter.mp listed
  intro mine
  rw [decide_eq_true_iff] at notLast
  exact notLast (congrArg some ((sound.writes_iff listed).mp mine).2)

/-- Whichever connection ends: the client of the newest one never gets anything that is sent
later. -/
theorem forgotten [Inhabited ι] {table : Slots (Option ConnId)} {trace : List (Event ι × State ι)}
    {last : State ι} (others : ∀ number k, table.owner number ≠ some (some k))
    (ran : Every (Under State.Orderly State.Step) (State.start table) trace)
    (isLast : (final (State.start table) trace).server.accepted.getLast? = some d)
    (stepped : State.Step (final (State.start table) trace) (.closed k) s)
    (later : Reaches State.Step s last) :
    (last.conn d).toClient.written = ((final (State.start table) trace).conn d).toClient.written := by
  have sound : Sound (final (State.start table) trace) :=
    ran.invariant (sound_start others) fun _ _ _ before stepped => before.step stepped.1 stepped.2
  have silenced := sound.silenced stepped isLast
  obtain ⟨-, rfl⟩ := stepped
  have kept := later.invariant (P := fun s' => Silenced s' d ∧ (s'.conn d).toClient.written =
      ((final (State.start table) trace).conn d).toClient.written) ⟨silenced, rfl⟩
    fun _ _ _ before stepped =>
      ⟨before.1.step stepped, (before.1.written_step stepped).trans before.2⟩
  exact kept.2

omit [DecidableEq ι] in
/-- The first of two clients has left: the second one does not get the next message. -/
theorem forgotten_second : ∃ s : State Bool,
    s.Serves 1 ∧ ((s.react (.send "hi".toList)).conn 1).toClient.written = [] := by
  let check (s : State Bool) : Prop := s.Enabled (.closed 0) ∧ s.Serves 1 ∧
    s.server.accepted.getLast? = some 1 ∧ (s.conn 1).toClient.written = []
  have replayed : replay (fun s event => (.ok (s.react event) : Except Unit (State Bool))) orderly
      (fun _ s => decide (check s)) (.shut 0) (State.start [])
      [.connect false, .accept 0, .connect true, .accept 1, .lose 0] = true := by decide
  obtain ⟨trace, s, ran, checked⟩ := replay_run replayed
  obtain ⟨enabled, serves, isLast, nothing⟩ := of_decide_eq_true checked
  have sent : Reaches State.Step (s.react (.closed 0))
      ((s.react (.closed 0)).react (.send "hi".toList)) :=
    ⟨[(.send "hi".toList, _)], ⟨⟨trivial, rfl⟩, trivial⟩, rfl⟩
  have same := forgotten owner_nil (taken_of_orderly ran) (by rwa [final_concat])
    (by rw [final_concat]; exact ⟨enabled, rfl⟩) sent
  rw [final_concat] at same
  exact ⟨s.react (.closed 0), serves, same.trans nothing⟩

end

end LibPubSub.TcpEnds
