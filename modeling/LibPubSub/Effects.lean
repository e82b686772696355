import LibPubSub.Library.Fallible
import LibPubSub.Node

/-! What the functions of `channel.cpp` leave alone. `Connecting` describes the
functions that only request or open data connections, `Quiet` those that may
also close subscriptions. Both keep every publisher and the table of hosts. -/

set_option autoImplicit false

namespace LibPubSub

open Fallible

/-- Everything of `mesh.cpp` except the writes it has made. -/
def Mesh.table (m : Mesh) : Mesh :=
  { m with sent := [] }

/-- What a process never changes after `init()`. -/
def Mesh.self (m : Mesh) : Int32 × Int32 × HostPtr :=
  (m.ID, m.signalingPort, m.me)

/-- A channel without its lists of subscriptions and subscriptors. -/
def ChannelImpl.core (c : ChannelImpl) : ChannelImpl :=
  { c with subscriptions := [], subscriptors := [] }

namespace ChannelImpl

variable {c c' : ChannelImpl}

theorem name_of_core (same : c'.core = c.core) : c'.name = c.name :=
  (congrArg ChannelImpl.name same :)

theorem publisher_of_core (same : c'.core = c.core) : c'.publisher = c.publisher :=
  (congrArg ChannelImpl.publisher same :)

theorem server_of_core (same : c'.core = c.core) : c'.server = c.server :=
  (congrArg ChannelImpl.server same :)

theorem offeredPort_of_core (same : c'.core = c.core) : c'.offeredPort = c.offeredPort :=
  (congrArg ChannelImpl.offeredPort same :)

theorem offeredShmPath_of_core (same : c'.core = c.core) : c'.offeredShmPath = c.offeredShmPath :=
  (congrArg ChannelImpl.offeredShmPath same :)

theorem size_of_core (same : c'.core = c.core) : c'.size = c.size :=
  (congrArg ChannelImpl.size same :)

end ChannelImpl

/-- The calls that only request or open data connections. -/
def Call.opens : Call → Bool
  | .connectTcp _ _ | .connectShm _ _ | .dialled .. | .mapped .. => true
  | _ => false

namespace Mesh

theorem table_write (m : Mesh) (k : SockPtr) (s : Str) : (m.write k s).table = m.table := by
  unfold write
  split <;> rfl

theorem table_send (m : Mesh) (h : HostPtr) (s : Str) : (m.send h s).table = m.table := by
  unfold send
  split
  · rfl
  · split
    · rfl
    · exact m.table_write _ s

theorem table_broadcast (m : Mesh) (s : Str) : (m.broadcast s).table = m.table := by
  unfold broadcast
  generalize m.peers = peers
  induction peers generalizing m with
  | nil => rfl
  | cons h peers ih =>
      rw [List.foldl_cons, ih]
      split
      · exact m.table_send h s
      · rfl

variable {m m' : Mesh}

theorem host_of_table (same : m'.table = m.table) : m'.host = m.host :=
  (congrArg Mesh.host same :)

theorem me_of_table (same : m'.table = m.table) : m'.me = m.me :=
  (congrArg Mesh.me same :)

theorem peers_of_table (same : m'.table = m.table) : m'.peers = m.peers :=
  (congrArg Mesh.peers same :)

theorem sock_of_table (same : m'.table = m.table) : m'.sock = m.sock :=
  (congrArg Mesh.sock same :)

theorem self_of_table (same : m'.table = m.table) : m'.self = m.self :=
  (congrArg Mesh.self same :)

theorem me_of_self (same : m'.self = m.self) : m'.me = m.me :=
  (congrArg (fun self => self.2.2) same :)

/-! ## The process stays itself -/

theorem self_write (m : Mesh) (k : SockPtr) (s : Str) : (m.write k s).self = m.self :=
  self_of_table (m.table_write k s)

theorem self_send (m : Mesh) (h : HostPtr) (s : Str) : (m.send h s).self = m.self :=
  self_of_table (m.table_send h s)

theorem self_broadcast (m : Mesh) (s : Str) : (m.broadcast s).self = m.self :=
  self_of_table (m.table_broadcast s)

theorem self_pushUnlessKnown (m : Mesh) (known : Bool) (h : HostPtr) :
    (m.pushUnlessKnown known h).self = m.self := by
  cases known <;> rfl

theorem self_welcome (m : Mesh) (h : HostPtr) : (m.welcome h).self = m.self := by
  unfold welcome
  split
  · rfl
  · split
    · rfl
    · exact (self_write _ _ _).trans (self_write _ _ _)

theorem self_setSocket (m : Mesh) (h : HostPtr) (k : SockPtr) :
    (m.setSocket h k).self = m.self := by
  unfold setSocket
  dsimp only
  split
  · exact self_welcome _ h
  · rfl

theorem self_newHost (m : Mesh) (ip : Str) (port : Int32) : (m.newHost ip port).self = m.self := by
  unfold newHost
  refine (self_setSocket _ _ _).trans ?_
  exact self_pushUnlessKnown _ _ _

theorem self_newHostFrom (m : Mesh) (ip : Str) (port : Int32) (k : SockPtr) :
    (m.newHostFrom ip port k).self = m.self :=
  (self_setSocket _ _ k).trans (self_pushUnlessKnown _ _ _)

theorem self_addHost (m : Mesh) (ip : Str) (port : Int32) : (m.addHost ip port).self = m.self := by
  unfold addHost
  split
  · rfl
  · exact m.self_newHost ip port

theorem self_adoptSocket (m : Mesh) (h : HostPtr) (k : SockPtr) :
    (m.adoptSocket h k).self = m.self := by
  have dropped : (m.dropSocket h).self = m.self := by
    unfold dropSocket
    split <;> rfl
  unfold adoptSocket
  dsimp only
  split
  · exact (self_setSocket _ h k).trans dropped
  · exact (self_send _ h _).trans ((self_setSocket _ h k).trans dropped)

theorem self_handleIncomingConnection (m : Mesh) (k : SockPtr) (s : Str) :
    (m.handleIncomingConnection k s).self = m.self := by
  unfold handleIncomingConnection
  split
  · dsimp only
    split
    · exact (self_send _ _ _).trans (m.self_newHostFrom _ _ k)
    · split
      · exact m.self_adoptSocket _ k
      · split <;> rfl
  · rfl

end Mesh

namespace Node

theorem self_receiveConnected (m : Mesh) (h : HostPtr) : (receiveConnected m h).self = m.self :=
  Mesh.self_pushUnlessKnown _ _ h

/-- Only data connections were requested or opened. -/
structure Connecting (n n' : Node) : Prop where
  chan : n'.chan = n.chan
  table : n'.mesh.table = n.mesh.table
  bindPort : n'.bindPort = n.bindPort
  subNext : n'.sub.next = n.sub.next
  subChannel : ∀ s, (n'.sub s).map SubscriptionImpl.channel = (n.sub s).map SubscriptionImpl.channel
  log : ∃ added, n'.log = n.log ++ added ∧ ∀ call ∈ added, call.opens = true

/-- Only subscriptions were closed. -/
structure Closing (n n' : Node) : Prop where
  core : ∀ c, (n'.chan c).core = (n.chan c).core
  chanNext : n'.chan.next = n.chan.next
  mesh : n'.mesh = n.mesh
  bindPort : n'.bindPort = n.bindPort
  subNext : n'.sub.next = n.sub.next
  gone : ∀ s, n.sub s = none → n'.sub s = none
  log : n'.log = n.log

/-- What is common to both: channels keep all but their lists. -/
structure Quiet (n n' : Node) : Prop where
  core : ∀ c, (n'.chan c).core = (n.chan c).core
  chanNext : n'.chan.next = n.chan.next
  table : n'.mesh.table = n.mesh.table
  bindPort : n'.bindPort = n.bindPort
  subNext : n'.sub.next = n.sub.next
  gone : ∀ s, n.sub s = none → n'.sub s = none
  log : ∃ added, n'.log = n.log ++ added ∧ ∀ call ∈ added, call.opens = true

theorem Connecting.refl (n : Node) : Connecting n n :=
  ⟨rfl, rfl, rfl, rfl, fun _ => rfl, [], by simp⟩

private theorem log_trans {log mid last : List Call}
    (first : ∃ added, mid = log ++ added ∧ ∀ call ∈ added, call.opens = true)
    (second : ∃ added, last = mid ++ added ∧ ∀ call ∈ added, call.opens = true) :
    ∃ added, last = log ++ added ∧ ∀ call ∈ added, call.opens = true := by
  obtain ⟨added, rfl, opens⟩ := first
  obtain ⟨added', rfl, opens'⟩ := second
  refine ⟨added ++ added', List.append_assoc .., ?_⟩
  intro call member
  exact (List.mem_append.mp member).elim (opens call) (opens' call)

theorem Connecting.trans {n mid n' : Node} (first : Connecting n mid)
    (second : Connecting mid n') : Connecting n n' where
  chan := second.chan.trans first.chan
  table := second.table.trans first.table
  bindPort := second.bindPort.trans first.bindPort
  subNext := second.subNext.trans first.subNext
  subChannel s := (second.subChannel s).trans (first.subChannel s)
  log := log_trans first.log second.log

theorem Closing.refl (n : Node) : Closing n n :=
  ⟨fun _ => rfl, rfl, rfl, rfl, rfl, fun _ => id, rfl⟩

theorem Closing.trans {n mid n' : Node} (first : Closing n mid) (second : Closing mid n') :
    Closing n n' where
  core c := (second.core c).trans (first.core c)
  chanNext := second.chanNext.trans first.chanNext
  mesh := second.mesh.trans first.mesh
  bindPort := second.bindPort.trans first.bindPort
  subNext := second.subNext.trans first.subNext
  gone s dead := second.gone s (first.gone s dead)
  log := second.log.trans first.log

theorem Quiet.trans {n mid n' : Node} (first : Quiet n mid) (second : Quiet mid n') :
    Quiet n n' where
  core c := (second.core c).trans (first.core c)
  chanNext := second.chanNext.trans first.chanNext
  table := second.table.trans first.table
  bindPort := second.bindPort.trans first.bindPort
  subNext := second.subNext.trans first.subNext
  gone s dead := second.gone s (first.gone s dead)
  log := log_trans first.log second.log

theorem Connecting.quiet {n n' : Node} (connecting : Connecting n n') : Quiet n n' where
  core c := by rw [connecting.chan]
  chanNext := by rw [connecting.chan]
  table := connecting.table
  bindPort := connecting.bindPort
  subNext := connecting.subNext
  gone s dead := by
    have same := connecting.subChannel s
    rw [dead, Option.map_none, Option.map_eq_none_iff] at same
    exact same
  log := connecting.log

theorem Closing.quiet {n n' : Node} (closing : Closing n n') : Quiet n n' where
  core := closing.core
  chanNext := closing.chanNext
  table := by rw [closing.mesh]
  bindPort := closing.bindPort
  subNext := closing.subNext
  gone := closing.gone
  log := ⟨[], by rw [closing.log, List.append_nil], by simp⟩

namespace Quiet

variable {n n' : Node}

theorem publisher (quiet : Quiet n n') (c : ChanPtr) :
    (n'.chan c).publisher = (n.chan c).publisher :=
  ChannelImpl.publisher_of_core (quiet.core c)

theorem name (quiet : Quiet n n') (c : ChanPtr) : (n'.chan c).name = (n.chan c).name :=
  ChannelImpl.name_of_core (quiet.core c)

theorem offeredPort (quiet : Quiet n n') (c : ChanPtr) :
    (n'.chan c).offeredPort = (n.chan c).offeredPort :=
  ChannelImpl.offeredPort_of_core (quiet.core c)

theorem offeredShmPath (quiet : Quiet n n') (c : ChanPtr) :
    (n'.chan c).offeredShmPath = (n.chan c).offeredShmPath :=
  ChannelImpl.offeredShmPath_of_core (quiet.core c)

theorem size (quiet : Quiet n n') (c : ChanPtr) : (n'.chan c).size = (n.chan c).size :=
  ChannelImpl.size_of_core (quiet.core c)

theorem server (quiet : Quiet n n') (c : ChanPtr) : (n'.chan c).server = (n.chan c).server :=
  ChannelImpl.server_of_core (quiet.core c)

end Quiet

theorem connecting_record (n : Node) (call : Call) (opens : call.opens = true) :
    Connecting n (n.record call) :=
  ⟨rfl, rfl, rfl, rfl, fun _ => rfl, [call], rfl, by simpa using opens⟩

private theorem log_same (log : List Call) :
    ∃ added, log = log ++ added ∧ ∀ call ∈ added, call.opens = true :=
  ⟨[], by simp⟩

theorem connecting_send (n : Node) (h : HostPtr) (s : Str) : Connecting n (n.send h s) :=
  ⟨rfl, n.mesh.table_send h s, rfl, rfl, fun _ => rfl, log_same _⟩

theorem connecting_broadcast (n : Node) (s : Str) : Connecting n (n.broadcast s) :=
  ⟨rfl, n.mesh.table_broadcast s, rfl, rfl, fun _ => rfl, log_same _⟩

theorem connecting_setDataSock (n : Node) (k : SockPtr)
    (change : TCPSocket SubPtr → TCPSocket SubPtr) : Connecting n (n.setDataSock k change) :=
  ⟨rfl, rfl, rfl, rfl, fun _ => rfl, log_same _⟩

theorem connecting_setSub (n : Node) (s : SubPtr) (change : SubscriptionImpl → SubscriptionImpl)
    (channel : ∀ sub, (change sub).channel = sub.channel) : Connecting n (n.setSub s change) := by
  refine ⟨rfl, rfl, rfl, rfl, ?_, log_same _⟩
  intro t
  simp only [setSub, Heap.modify_apply]
  split
  · next same =>
    subst same
    cases n.sub t with
    | none => rfl
    | some sub => simp only [Option.map_some, channel]
  · rfl

theorem subAt_eq_ok {n : Node} {s : SubPtr} {sub : SubscriptionImpl} :
    n.subAt s = .ok sub ↔ n.sub s = some sub := by
  unfold subAt
  cases n.sub s with
  | none => simp only [reduceCtorEq]
  | some other => simp only [Except.ok.injEq, Option.some.injEq]

/-! ## Opening data connections -/

theorem subOnOpen_connecting {n n' : Node} {s : SubPtr} (ran : n.subOnOpen s = .ok n') :
    Connecting n n' := by
  obtain ⟨sub, _, rest⟩ := bind_eq_ok.mp ran
  rw [pure_eq_ok] at rest
  exact rest ▸ connecting_setSub n s _ fun _ => rfl

theorem connecting_allocDataSock (n : Node) (socket : TCPSocket SubPtr) :
    Connecting n { n with dataSock := n.dataSock.alloc socket } :=
  ⟨rfl, rfl, rfl, rfl, fun _ => rfl, log_same _⟩

theorem connecting_dial (n : Node) (s : SubPtr) (c : ChanPtr) (publisher : HostPtr) :
    Connecting n (n.dial s c publisher) := by
  refine Connecting.trans ?_ (connecting_record _ _ rfl)
  refine (connecting_allocDataSock n _).trans (connecting_setSub _ _ _ ?_)
  intro sub
  rfl

theorem connecting_mapShm (n : Node) (s : SubPtr) (c : ChanPtr) : Connecting n (n.mapShm s c) := by
  refine Connecting.trans ?_ (connecting_record _ _ rfl)
  refine connecting_setSub n s _ ?_
  intro sub
  rfl

/-- A subscription that is not connected dials its channel's publisher; a
connected one does nothing. -/
theorem subConnectTcp_cases {n n' : Node} {s : SubPtr} (ran : n.subConnectTcp s = .ok n') :
    ∃ sub, n.sub s = some sub ∧
      ((sub.bConnected = true ∧ n' = n) ∨
        (sub.bConnected = false ∧ ∃ publisher, (n.chan sub.channel).publisher = some publisher ∧
          n' = n.dial s sub.channel publisher)) := by
  obtain ⟨sub, found, rest⟩ := bind_eq_ok.mp ran
  refine ⟨sub, subAt_eq_ok.mp found, ?_⟩
  cases connected : sub.bConnected with
  | true =>
      simp only [connected, ↓reduceIte] at rest
      exact .inl ⟨rfl, (pure_eq_ok.mp rest).symm⟩
  | false =>
      simp only [connected, Bool.false_eq_true, ↓reduceIte] at rest
      cases known : (n.chan sub.channel).publisher with
      | none => simp only [known, reduceCtorEq] at rest
      | some publisher =>
          simp only [known] at rest
          exact .inr ⟨rfl, publisher, rfl, (pure_eq_ok.mp rest).symm⟩

theorem subConnectTcp_connecting {n n' : Node} {s : SubPtr} (ran : n.subConnectTcp s = .ok n') :
    Connecting n n' := by
  obtain ⟨sub, _, ⟨_, rfl⟩ | ⟨_, publisher, _, rfl⟩⟩ := subConnectTcp_cases ran
  · exact Connecting.refl n'
  · exact connecting_dial n s sub.channel publisher

/-- A subscription that is not connected maps the offered segment. -/
theorem subConnectShm_cases {n n' : Node} {s : SubPtr} (ran : n.subConnectShm s = .ok n') :
    ∃ sub, n.sub s = some sub ∧
      ((sub.bConnected = true ∧ n' = n) ∨
        (sub.bConnected = false ∧ n' = n.mapShm s sub.channel)) := by
  obtain ⟨sub, found, rest⟩ := bind_eq_ok.mp ran
  refine ⟨sub, subAt_eq_ok.mp found, ?_⟩
  cases connected : sub.bConnected with
  | true =>
      simp only [connected, ↓reduceIte] at rest
      exact .inl ⟨rfl, (pure_eq_ok.mp rest).symm⟩
  | false =>
      simp only [connected, Bool.false_eq_true, ↓reduceIte] at rest
      exact .inr ⟨rfl, (pure_eq_ok.mp rest).symm⟩

theorem subConnectShm_connecting {n n' : Node} {s : SubPtr} (ran : n.subConnectShm s = .ok n') :
    Connecting n n' := by
  obtain ⟨sub, _, ⟨_, rfl⟩ | ⟨_, rfl⟩⟩ := subConnectShm_cases ran
  · exact Connecting.refl n'
  · exact connecting_mapShm n s sub.channel

private theorem foldlM_connecting {subs : List SubPtr} {round : Node → SubPtr → Result Node}
    {n n' : Node} (ran : subs.foldlM round n = .ok n')
    (each : ∀ n n' s, round n s = .ok n' → Connecting n n') : Connecting n n' :=
  foldlM_invariant ran (Connecting.refl n) fun state s next _ before stepped =>
    before.trans (each state next s stepped)

/-- `connect_tcp()` requests an offer or dials the offered port. -/
theorem connectTcp_cases {n n' : Node} {c : ChanPtr} (ran : n.connectTcp c = .ok n') :
    ((n.chan c).offeredPort = 0 ∧ ∃ p, (n.chan c).publisher = some p ∧
        n' = (n.record (.connectTcp c (n.chan c).publisher)).send p
          ("CONNECT_TCP=".toList ++ (n.chan c).name)) ∨
      ((n.chan c).offeredPort ≠ 0 ∧ (n.chan c).subscriptions.foldlM subConnectTcp
        (n.record (.connectTcp c (n.chan c).publisher)) = .ok n') := by
  unfold connectTcp at ran
  dsimp only at ran
  split at ran
  · next nothing =>
    cases known : (n.chan c).publisher with
    | none => simp only [known, reduceCtorEq] at ran
    | some p =>
        simp only [known] at ran
        exact .inl ⟨nothing, p, rfl, (pure_eq_ok.mp ran).symm⟩
  · next offered => exact .inr ⟨offered, ran⟩

/-- `connect_shm()` requests an offer or maps the offered segment. -/
theorem connectShm_cases {n n' : Node} {c : ChanPtr} (ran : n.connectShm c = .ok n') :
    ((n.chan c).offeredShmPath = [] ∧ ∃ p, (n.chan c).publisher = some p ∧
        n' = (n.record (.connectShm c (n.chan c).publisher)).send p
          ("CONNECT_SHM".toList ++ (n.chan c).name)) ∨
      ((n.chan c).offeredShmPath ≠ [] ∧ (n.chan c).subscriptions.foldlM subConnectShm
        (n.record (.connectShm c (n.chan c).publisher)) = .ok n') := by
  unfold connectShm at ran
  dsimp only at ran
  split at ran
  · next nothing =>
    cases known : (n.chan c).publisher with
    | none => simp only [known, reduceCtorEq] at ran
    | some p =>
        simp only [known] at ran
        exact .inl ⟨nothing, p, rfl, (pure_eq_ok.mp ran).symm⟩
  · next offered => exact .inr ⟨offered, ran⟩

/-- After the call itself, `connect_tcp()` only requests or dials. -/
theorem connectTcp_opening {n n' : Node} {c : ChanPtr} (ran : n.connectTcp c = .ok n') :
    Connecting (n.record (.connectTcp c (n.chan c).publisher)) n' := by
  rcases connectTcp_cases ran with ⟨_, p, _, rfl⟩ | ⟨_, dialled⟩
  · exact connecting_send _ _ _
  · exact foldlM_connecting dialled fun _ _ _ => subConnectTcp_connecting

theorem connectShm_opening {n n' : Node} {c : ChanPtr} (ran : n.connectShm c = .ok n') :
    Connecting (n.record (.connectShm c (n.chan c).publisher)) n' := by
  rcases connectShm_cases ran with ⟨_, p, _, rfl⟩ | ⟨_, mapped⟩
  · exact connecting_send _ _ _
  · exact foldlM_connecting mapped fun _ _ _ => subConnectShm_connecting

theorem connectTcp_connecting {n n' : Node} {c : ChanPtr} (ran : n.connectTcp c = .ok n') :
    Connecting n n' :=
  (connecting_record n (.connectTcp c (n.chan c).publisher) rfl).trans (connectTcp_opening ran)

theorem connectShm_connecting {n n' : Node} {c : ChanPtr} (ran : n.connectShm c = .ok n') :
    Connecting n n' :=
  (connecting_record n (.connectShm c (n.chan c).publisher) rfl).trans (connectShm_opening ran)

/-- `connect()` does nothing, or runs `connect_shm()` for a local publisher and
`connect_tcp()` for a remote one. -/
theorem connect_cases {n n' : Node} {c : ChanPtr} (ran : n.connect c = .ok n') :
    (n' = n ∧ ((n.chan c).publisher = none ∨ (n.chan c).subscriptions = [] ∨
        (n.chan c).publisher = some n.mesh.me)) ∨
      ∃ p, (n.chan c).publisher = some p ∧ p ≠ n.mesh.me ∧ (n.chan c).subscriptions ≠ [] ∧
        ((n.mesh.isLocal p = true ∧ n.connectShm c = .ok n') ∨
          (n.mesh.isLocal p = false ∧ n.connectTcp c = .ok n')) := by
  unfold connect at ran
  cases known : (n.chan c).publisher with
  | none =>
      rw [known] at ran
      exact .inl ⟨(pure_eq_ok.mp ran).symm, .inl rfl⟩
  | some p =>
      simp only [known] at ran
      by_cases idle : (n.chan c).subscriptions = [] ∨ p = n.mesh.me
      · rw [if_pos idle] at ran
        refine .inl ⟨(pure_eq_ok.mp ran).symm, .inr ?_⟩
        exact idle.imp id (congrArg some)
      · rw [if_neg idle] at ran
        obtain ⟨nonempty, remote⟩ := not_or.mp idle
        refine .inr ⟨p, rfl, remote, nonempty, ?_⟩
        cases local? : n.mesh.isLocal p with
        | true => exact .inl ⟨rfl, by simpa only [local?, ↓reduceIte] using ran⟩
        | false => exact .inr ⟨rfl, by simpa only [local?, Bool.false_eq_true, ↓reduceIte] using ran⟩

theorem connect_connecting {n n' : Node} {c : ChanPtr} (ran : n.connect c = .ok n') :
    Connecting n n' := by
  rcases connect_cases ran with ⟨rfl, _⟩ | ⟨p, _, _, _, ⟨_, ran⟩ | ⟨_, ran⟩⟩
  · exact Connecting.refl n'
  · exact connectShm_connecting ran
  · exact connectTcp_connecting ran

/-! ## Closing subscriptions -/

theorem closing_setDataSock (n : Node) (k : SockPtr)
    (change : TCPSocket SubPtr → TCPSocket SubPtr) : Closing n (n.setDataSock k change) :=
  ⟨fun _ => rfl, rfl, rfl, rfl, rfl, fun _ => id, rfl⟩

theorem closing_deleteSub (n : Node) (s : SubPtr) (c : ChanPtr) :
    Closing n (n.deleteSub s c) := by
  refine ⟨?_, rfl, rfl, rfl, rfl, ?_, rfl⟩
  · intro d
    simp only [deleteSub, setChan, Heap.modify_apply]
    split
    · next same => rw [same]; rfl
    · rfl
  · intro t dead
    simp only [deleteSub, setChan, Heap.modify_apply]
    split
    · rfl
    · exact dead

/-- `on_close()` needs the socket pointer and deletes the subscription. -/
theorem subOnClose_cases {n n' : Node} {s : SubPtr} (ran : n.subOnClose s = .ok n') :
    ∃ sub k, n.sub s = some sub ∧ sub.socket = some k ∧
      n' = (n.setDataSock k (·.removeListeners)).deleteSub s sub.channel := by
  obtain ⟨sub, found, rest⟩ := bind_eq_ok.mp ran
  cases socket : sub.socket with
  | none => simp only [socket, reduceCtorEq] at rest
  | some k =>
      simp only [socket] at rest
      exact ⟨sub, k, subAt_eq_ok.mp found, socket, (pure_eq_ok.mp rest).symm⟩

theorem subOnClose_closing {n n' : Node} {s : SubPtr} (ran : n.subOnClose s = .ok n') :
    Closing n n' := by
  obtain ⟨sub, k, _, _, rfl⟩ := subOnClose_cases ran
  exact (closing_setDataSock n k _).trans (closing_deleteSub _ _ _)

/-- What `close()` does to the socket. -/
def shut (transport : Transport) (sock : TCPSocket SubPtr) : TCPSocket SubPtr :=
  match transport with
  | .tcp => (sock.removeListeners.close false).removeListeners
  | .shm => sock.removeListeners

theorem subClose_shut {n n' : Node} {s : SubPtr} (ran : n.subClose s = .ok n') :
    ∃ sub k, n.sub s = some sub ∧ sub.socket = some k ∧
      n' = (n.setDataSock k (shut sub.transport)).deleteSub s sub.channel := by
  obtain ⟨sub, found, rest⟩ := bind_eq_ok.mp ran
  have alive := subAt_eq_ok.mp found
  cases transport : sub.transport with
  | shm =>
      simp only [transport] at rest
      obtain ⟨same, k, found', socket, result⟩ := subOnClose_cases rest
      have sameSub : same = sub := Option.some.inj (found'.symm.trans alive)
      subst sameSub
      exact ⟨same, k, alive, socket, by rw [transport]; exact result⟩
  | tcp =>
      cases socket : sub.socket with
      | none => simp only [transport, socket, reduceCtorEq] at rest
      | some k =>
          simp only [transport, socket] at rest
          obtain ⟨same, k', found', socket', result⟩ := subOnClose_cases rest
          have sameSub : same = sub := Option.some.inj (found'.symm.trans alive)
          subst sameSub
          have sameSocket : k' = k := Option.some.inj (socket'.symm.trans socket)
          subst sameSocket
          refine ⟨same, k', alive, socket, ?_⟩
          rw [result, transport]
          simp only [setDataSock, Heap.modify, Function.update_self, Function.update_idem, shut]

theorem subClose_cases {n n' : Node} {s : SubPtr} (ran : n.subClose s = .ok n') :
    ∃ sub k close, n.sub s = some sub ∧ sub.socket = some k ∧
      (∀ sock, (close sock).listeners = none) ∧
      n' = (n.setDataSock k close).deleteSub s sub.channel := by
  obtain ⟨sub, k, found, socket, result⟩ := subClose_shut ran
  refine ⟨sub, k, shut sub.transport, found, socket, ?_, result⟩
  intro sock
  cases sub.transport <;> rfl

theorem subClose_closing {n n' : Node} {s : SubPtr} (ran : n.subClose s = .ok n') :
    Closing n n' := by
  obtain ⟨sub, k, close, _, _, _, rfl⟩ := subClose_cases ran
  exact (closing_setDataSock n k close).trans (closing_deleteSub _ _ _)

theorem disconnectFrom_closing {c : ChanPtr} {left it : Nat} {n n' : Node}
    (ran : disconnectFrom c left it n = .ok n') : Closing n n' := by
  induction left generalizing it n with
  | zero => exact (pure_eq_ok.mp ran) ▸ Closing.refl n
  | succ left ih =>
      unfold disconnectFrom at ran
      split at ran
      · cases ran
      · obtain ⟨mid, closed, rest⟩ := bind_eq_ok.mp ran
        exact (subClose_closing closed).trans (ih rest)

theorem disconnect_closing {n n' : Node} {c : ChanPtr} (ran : n.disconnect c = .ok n') :
    Closing n n' :=
  disconnectFrom_closing ran

/-! ## Changing the publisher -/

theorem disconnectOther_cases {n n' : Node} {c : ChanPtr} {p : Option HostPtr}
    (ran : n.disconnectOther c p = .ok n') :
    (((n.chan c).publisher.isSome ∧ (n.chan c).publisher ≠ p) ∧ n.disconnect c = .ok n') ∨
      (((n.chan c).publisher = none ∨ (n.chan c).publisher = p) ∧ n' = n) := by
  unfold disconnectOther at ran
  split at ran
  · next other => exact .inl ⟨other, ran⟩
  · next same =>
    refine .inr ⟨?_, (pure_eq_ok.mp ran).symm⟩
    cases known : (n.chan c).publisher with
    | none => exact .inl rfl
    | some q => exact .inr (by simpa [known] using same)

theorem disconnectOther_closing {n n' : Node} {c : ChanPtr} {p : Option HostPtr}
    (ran : n.disconnectOther c p = .ok n') : Closing n n' := by
  rcases disconnectOther_cases ran with ⟨_, closed⟩ | ⟨_, rfl⟩
  · exact disconnect_closing closed
  · exact Closing.refl n'

theorem connectWanted_connecting {n n' : Node} {c : ChanPtr} (ran : n.connectWanted c = .ok n') :
    Connecting n n' := by
  unfold connectWanted at ran
  split at ran
  · exact connect_connecting ran
  · exact pure_eq_ok.mp ran ▸ Connecting.refl n

/-- The three parts of `setPublisher`. -/
theorem setPublisher_cases {n n' : Node} {c : ChanPtr} {p : Option HostPtr}
    (ran : n.setPublisher c p = .ok n') :
    ∃ mid, n.disconnectOther c p = .ok mid ∧ (mid.replacePublisher c p).connectWanted c = .ok n' :=
  bind_eq_ok.mp ran

theorem replacePublisher_chan (n : Node) (c : ChanPtr) (p : Option HostPtr) :
    (n.replacePublisher c p).chan c = { n.chan c with publisher := p, offeredPort := 0 } :=
  n.chan.modify_self c fun channel => { channel with publisher := p, offeredPort := 0 }

theorem replacePublisher_chan_of_ne (n : Node) {c d : ChanPtr} (p : Option HostPtr)
    (other : d ≠ c) : (n.replacePublisher c p).chan d = n.chan d :=
  n.chan.modify_of_ne (fun channel => { channel with publisher := p, offeredPort := 0 }) other

/-- What `setPublisher` on channel `c` does to the channels. -/
structure PublisherSet (c : ChanPtr) (p : Option HostPtr) (n n' : Node) : Prop where
  core : ∀ d, (n'.chan d).core =
    if d = c then { (n.chan d).core with publisher := p, offeredPort := 0 } else (n.chan d).core
  chanNext : n'.chan.next = n.chan.next
  table : n'.mesh.table = n.mesh.table
  bindPort : n'.bindPort = n.bindPort
  subNext : n'.sub.next = n.sub.next
  gone : ∀ s, n.sub s = none → n'.sub s = none
  log : ∃ added, n'.log = n.log ++ .publisherSet c (n.chan c).publisher p :: added ∧
    ∀ call ∈ added, call.opens = true

theorem setPublisher_spec {n n' : Node} {c : ChanPtr} {p : Option HostPtr}
    (ran : n.setPublisher c p = .ok n') : PublisherSet c p n n' := by
  obtain ⟨mid, closed, connected⟩ := setPublisher_cases ran
  have first := disconnectOther_closing closed
  have last := (connectWanted_connecting connected).quiet
  refine ⟨?_, last.chanNext.trans first.chanNext, ?_, last.bindPort.trans first.bindPort,
    last.subNext.trans first.subNext, ?_, ?_⟩
  · intro d
    rw [last.core d]
    simp only [replacePublisher, record, setChan, Heap.modify_apply]
    split
    · next same =>
      rw [same, ← first.core c]
      rfl
    · exact first.core d
  · rw [← first.mesh]
    exact last.table
  · intro s dead
    exact last.gone s (first.gone s dead)
  · obtain ⟨added, same, opens⟩ := last.log
    refine ⟨added, ?_, opens⟩
    rw [same, ← first.log, ← first.quiet.publisher c]
    simp only [replacePublisher, record, setChan, List.append_assoc, List.singleton_append]

theorem PublisherSet.publisher {c : ChanPtr} {p : Option HostPtr} {n n' : Node}
    (set : PublisherSet c p n n') (d : ChanPtr) :
    (n'.chan d).publisher = if d = c then p else (n.chan d).publisher := by
  have core := congrArg ChannelImpl.publisher (set.core d)
  split at core
  · next same => rw [if_pos same]; exact core
  · next different => rw [if_neg different]; exact core

theorem PublisherSet.name {c : ChanPtr} {p : Option HostPtr} {n n' : Node}
    (set : PublisherSet c p n n') (d : ChanPtr) : (n'.chan d).name = (n.chan d).name := by
  have core := congrArg ChannelImpl.name (set.core d)
  split at core <;> exact core

end Node

end LibPubSub
