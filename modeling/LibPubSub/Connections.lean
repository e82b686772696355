import LibPubSub.DirectMemory
import LibPubSub.OwnChannels
import Mathlib.Data.List.Count
import Mathlib.Data.List.Nodup

/-! The bookkeeping of a `TCPServer`. The callback that `TCPServer::run` wraps around the
`on_close` of an accepted socket refers to the variable of the accept loop; which
sockets have been accepted and closed is recorded beside it. -/

set_option autoImplicit false

namespace LibPubSub

open Fallible Transition

/-! ## The server -/

/-- The `on_close` of an accepted socket: the owner's, or the wrapper of `TCPServer::run`. -/
inductive OnClose (Callback : Type) where
  | none
  | owner (callback : Callback)
  | server (_on_close : Option Callback)

/-- `c` is the variable of the accept loop. -/
structure TCPServer (Callback : Type) where
  connections : List SockPtr := []
  c : Option SockPtr := none
  on_close : SockPtr → OnClose Callback := fun _ => .none
  accepted : List SockPtr := []
  closed : List SockPtr := []

namespace TCPServer

variable {Callback : Type}

/-- A turn of the accept loop; `installed` is the `on_close` that `on_open(c)` has left. -/
def accept (s : TCPServer Callback) (k : SockPtr) (installed : Option Callback) :
    TCPServer Callback :=
  { s with
    connections := s.connections ++ [k]
    c := some k
    on_close := Function.update s.on_close k (.server installed)
    accepted := s.accepted ++ [k] }

/-- The owner sets the `on_close` of a socket or removes it. -/
def replace (s : TCPServer Callback) (k : SockPtr) (callback : Option Callback) :
    TCPServer Callback :=
  { s with on_close := Function.update s.on_close k (callback.elim .none .owner) }

/-- `on_close()` of socket `k`, when its thread has left the receive loop. -/
def close (s : TCPServer Callback) (k : SockPtr) : TCPServer Callback :=
  { s with
    connections := match s.on_close k with
      | .server _ => s.connections.filter fun connection => some connection ≠ s.c
      | _ => s.connections
    closed := k :: s.closed }

/-- `TCPServer::broadcast`: the writes. -/
def broadcast (s : TCPServer Callback) (buf : Str) : List Sent :=
  s.connections.map fun connection => ⟨connection, buf⟩

/-- The socket has been accepted and has not closed. -/
def Open (s : TCPServer Callback) (k : SockPtr) : Prop :=
  k ∈ s.accepted ∧ k ∉ s.closed

instance (s : TCPServer Callback) (k : SockPtr) : Decidable (s.Open k) :=
  inferInstanceAs (Decidable (_ ∧ _))

inductive Event (Callback : Type) where
  | accept (k : SockPtr) (installed : Option Callback)
  | replace (k : SockPtr) (callback : Option Callback)
  | close (k : SockPtr)

def react (s : TCPServer Callback) : Event Callback → Option (TCPServer Callback)
  | .accept k installed => if k ∈ s.accepted then none else some (s.accept k installed)
  | .replace k callback => some (s.replace k callback)
  | .close k => if s.Open k then some (s.close k) else none

def Step (s : TCPServer Callback) (event : Event Callback) (s' : TCPServer Callback) : Prop :=
  s.react event = some s'

/-- The open sockets are listed, and reached by a broadcast, once each. -/
structure Follows (s : TCPServer Callback) : Prop where
  listed : ∀ k, s.connections.count k = if s.Open k then 1 else 0
  reached : ∀ buf k, (s.broadcast buf).count ⟨k, buf⟩ = if s.Open k then 1 else 0

/-- A socket that closes is the last one accepted and still has the server's callback. -/
def ClosesLast (s : TCPServer Callback) (event : Event Callback) : Prop :=
  ∀ k, event = .close k →
    s.accepted.getLast? = some k ∧ ∃ _on_close, s.on_close k = .server _on_close

/-! ## Runs of a server -/

structure Kept (s : TCPServer Callback) : Prop where
  last : s.c = s.accepted.getLast?
  closed : ∀ k ∈ s.closed, k ∈ s.accepted

variable {s s' : TCPServer Callback} {event : Event Callback} {k : SockPtr}

theorem kept_step (kept : Kept s) (stepped : Step s event s') : Kept s' := by
  cases event with
  | accept k installed =>
      simp only [Step, react] at stepped
      split at stepped
      · cases stepped
      · cases stepped
        refine ⟨?_, fun j member => List.mem_append_left _ (kept.closed j member)⟩
        simp [accept]
  | replace k callback =>
      cases stepped
      exact ⟨kept.last, kept.closed⟩
  | close k =>
      simp only [Step, react] at stepped
      split at stepped
      · next isOpen =>
        cases stepped
        refine ⟨kept.last, fun j member => ?_⟩
        cases List.mem_cons.mp member with
        | inl same => exact same ▸ isOpen.1
        | inr before => exact kept.closed j before
      · cases stepped

theorem count_broadcast (s : TCPServer Callback) (buf : Str) (k : SockPtr) :
    (s.broadcast buf).count ⟨k, buf⟩ = s.connections.count k := by
  have injective : Function.Injective fun connection : SockPtr => (⟨connection, buf⟩ : Sent) :=
    fun _ _ same => congrArg Sent.socket same
  exact List.count_map_of_injective s.connections _ injective k

theorem follows_iff :
    Follows s ↔ ∀ k, s.connections.count k = if s.Open k then 1 else 0 := by
  constructor
  · exact Follows.listed
  · intro listed
    refine ⟨listed, fun buf k => ?_⟩
    rw [count_broadcast]
    exact listed k

theorem open_accept {installed : Option Callback} (kept : Kept s) (fresh : k ∉ s.accepted)
    (j : SockPtr) : (s.accept k installed).Open j ↔ s.Open j ∨ j = k := by
  unfold Open accept
  simp only [List.mem_append, List.mem_singleton]
  constructor
  · intro both
    exact both.1.imp (fun before => ⟨before, both.2⟩) id
  · intro either
    cases either with
    | inl before => exact ⟨.inl before.1, before.2⟩
    | inr same =>
        refine ⟨.inr same, fun closed => fresh ?_⟩
        rw [← same]
        exact kept.closed j closed

theorem open_close (j : SockPtr) : (s.close k).Open j ↔ s.Open j ∧ j ≠ k := by
  simp only [Open, close, List.mem_cons, not_or]
  tauto

theorem follows_accept {installed : Option Callback} (follows : Follows s) (kept : Kept s)
    (fresh : k ∉ s.accepted) : Follows (s.accept k installed) := by
  rw [follows_iff]
  intro j
  have before := follows.listed j
  simp only [open_accept kept fresh]
  by_cases same : j = k
  · subst same
    rw [if_neg fun isOpen => fresh isOpen.1] at before
    simp [accept, before]
  · simp only [accept, List.count_append, before, same, or_false,
      List.count_singleton, beq_iff_eq, Ne.symm same, ↓reduceIte, Nat.add_zero]

/-- The wrapper removes the last socket accepted. -/
theorem follows_close_iff (follows : Follows s) (kept : Kept s) (isOpen : s.Open k) :
    Follows (s.close k) ↔
      s.accepted.getLast? = some k ∧ ∃ _on_close, s.on_close k = .server _on_close := by
  have gone : ¬ (s.close k).Open k := fun stillOpen => ((open_close k).mp stillOpen).2 rfl
  have was : s.connections.count k = 1 := by
    rw [follows.listed k, if_pos isOpen]
  rw [follows_iff]
  cases callback : s.on_close k with
  | none =>
      refine iff_of_false (fun listed => ?_) fun wrapped => nomatch wrapped.2.choose_spec
      have count := listed k
      have same : (s.close k).connections = s.connections := by simp only [close, callback]
      rw [same, was, if_neg gone] at count
      cases count
  | owner _ =>
      refine iff_of_false (fun listed => ?_) fun wrapped => nomatch wrapped.2.choose_spec
      have count := listed k
      have same : (s.close k).connections = s.connections := by simp only [close, callback]
      rw [same, was, if_neg gone] at count
      cases count
  | server _on_close =>
      have counts (j : SockPtr) : (s.close k).connections.count j =
          if some j = s.c then 0 else s.connections.count j := by
        simp only [close, callback]
        by_cases same : some j = s.c
        · rw [if_pos same]
          apply List.count_eq_zero_of_not_mem
          simp [same]
        · rw [if_neg same]
          exact List.count_filter (by simpa using same)
      simp only [counts, kept.last]
      constructor
      · intro listed
        have count := listed k
        rw [if_neg gone, was] at count
        split at count
        · next same => exact ⟨same.symm, _, rfl⟩
        · cases count
      · intro ⟨isLast, _⟩ j
        rw [isLast]
        by_cases same : j = k
        · rw [if_pos (congrArg some same), same, if_neg gone]
        · rw [if_neg fun both => same (Option.some.inj both), follows.listed j]
          simp only [open_close, ne_eq, same, not_false_eq_true, and_true]

theorem follows_step_iff (follows : Follows s) (kept : Kept s) (stepped : Step s event s') :
    Follows s' ↔ ClosesLast s event := by
  cases event with
  | accept k installed =>
      simp only [Step, react] at stepped
      split at stepped
      · cases stepped
      · next fresh =>
        cases stepped
        exact iff_of_true (follows_accept follows kept fresh) nofun
  | replace k callback =>
      cases stepped
      exact iff_of_true ⟨follows.listed, follows.reached⟩ nofun
  | close k =>
      simp only [Step, react] at stepped
      split at stepped
      · next isOpen =>
        cases stepped
        rw [follows_close_iff follows kept isOpen]
        constructor
        · rintro closes j same
          cases same
          exact closes
        · exact fun closes => closes k rfl
      · cases stepped

theorem follows_empty : Follows ({} : TCPServer Callback) :=
  follows_iff.mpr fun _ => rfl

theorem kept_empty : Kept ({} : TCPServer Callback) :=
  ⟨rfl, fun _ => nofun⟩

theorem always_follows_iff {trace : List (Event Callback × TCPServer Callback)}
    (ran : Every Step {} trace) :
    Always Follows {} trace ↔ Every (fun s event _ => ClosesLast s event) {} trace :=
  ran.always_iff follows_empty kept_empty (fun _ _ _ kept stepped => kept_step kept stepped)
    fun _ _ _ follows kept stepped => follows_step_iff follows kept stepped

end TCPServer

/-! ## Data servers -/

/-- A process and the data server of one of its channels. -/
structure DataServing where
  node : Node
  server : TCPServer SubPtr

namespace DataServing

inductive Event where
  | accept (ip : Str) (port : Int32) (conn : ConnId)
  | close (k : SockPtr)

/-- The server of channel `ch` accepts a connection, or one of its sockets has lost its. -/
inductive Step (ch : ChanPtr) (d : DataServing) : Event → DataServing → Prop where
  | accept (ip : Str) (port : Int32) (conn : ConnId) : Step ch d (.accept ip port conn)
      ⟨d.node.acceptSubscriptor ch ip port conn,
        d.server.accept d.node.dataSock.next (some d.node.sub.next)⟩
  | close (k : SockPtr) (node : Node) (isOpen : d.server.Open k)
      (ran : d.node.dataEof k = .ok node) : Step ch d (.close k) ⟨node, d.server.close k⟩

/-- The subscriptors of the channel are the open connections, and a write reaches each
of them once. -/
structure Entries (ch : ChanPtr) (d : DataServing) : Prop where
  each : ∀ k, (d.node.chan ch).subscriptors.countP (fun s => d.node.handle s = some (.socket k)) =
    if d.server.Open k then 1 else 0
  only : ∀ s ∈ (d.node.chan ch).subscriptors, ∃ k, d.node.handle s = some (.socket k)
  reached : ∀ memory msg len, ∃ sent, d.node.channelWrite memory ch msg len = .ok sent ∧
    ∀ k, sent.countP (fun entry => entry.socket = k) = if d.server.Open k then 1 else 0

/-- Both lists follow the open connections. -/
def Follows (ch : ChanPtr) (d : DataServing) : Prop :=
  d.server.Follows ∧ Entries ch d

def ClosesLast (d : DataServing) (event : Event) : Prop :=
  ∀ k, event = .close k → d.server.accepted.getLast? = some k

/-- Subscriptor `s` is the one that socket `k` calls back. -/
structure Serves (ch : ChanPtr) (n : Node) (s : SubPtr) (k : SockPtr) : Prop where
  object : ∃ host, n.sub s = some { channel := ch, host := host, socket := some k, bConnected := true }
  listener : (n.dataSock k).listeners = some s
  known : s < n.sub.next ∧ k < n.dataSock.next

/-- The subscriptors and their sockets, in pairs. -/
structure Paired (ch : ChanPtr) (d : DataServing) (pairs : List (SubPtr × SockPtr)) : Prop where
  isServer : (d.node.chan ch).server ≠ none
  subscriptors : (d.node.chan ch).subscriptors = pairs.map Prod.fst
  opened : ∀ k, k ∈ pairs.map Prod.snd ↔ d.server.Open k
  distinct : (pairs.map Prod.fst).Nodup
  distinctSockets : (pairs.map Prod.snd).Nodup
  serves : ∀ pair ∈ pairs, Serves ch d.node pair.1 pair.2
  known : ∀ k ∈ d.server.accepted, k < d.node.dataSock.next
  wrapped : ∀ k ∈ d.server.accepted, ∃ _on_close, d.server.on_close k = .server _on_close

variable {ch : ChanPtr} {d d' : DataServing} {pairs : List (SubPtr × SockPtr)} {event : Event}

theorem Serves.handle {n : Node} {s : SubPtr} {k : SockPtr} (serves : Serves ch n s k) :
    n.handle s = some (.socket k) := by
  obtain ⟨host, found⟩ := serves.object
  simp [Node.handle, found, SubscriptionImpl.write]

theorem paired_accept {ip : Str} {port : Int32} {conn : ConnId} (paired : Paired ch d pairs)
    (kept : d.server.Kept) :
    Paired ch ⟨d.node.acceptSubscriptor ch ip port conn,
        d.server.accept d.node.dataSock.next (some d.node.sub.next)⟩
      (pairs ++ [(d.node.sub.next, d.node.dataSock.next)]) := by
  obtain ⟨server, isServer⟩ := Option.ne_none_iff_exists'.mp paired.isServer
  have fresh : d.node.dataSock.next ∉ d.server.accepted :=
    fun member => Nat.lt_irrefl _ (paired.known _ member)
  have sub : (d.node.acceptSubscriptor ch ip port conn).sub = d.node.sub.alloc (some
      { channel := ch, host := server.host, socket := some d.node.dataSock.next,
        bConnected := true }) := by
    rw [Node.acceptSubscriptor, isServer]
    rfl
  have dataSock : (d.node.acceptSubscriptor ch ip port conn).dataSock = d.node.dataSock.alloc
      (.accepted ip port conn d.node.sub.next false) := by
    rw [Node.acceptSubscriptor, isServer]
    rfl
  constructor
  · exact (ChannelImpl.server_of_core (d.node.acceptSubscriptor_core ch ip port conn ch)).symm ▸
      paired.isServer
  · rw [Node.acceptSubscriptor_subscriptors paired.isServer, if_pos rfl, paired.subscriptors,
      List.map_append]
    rfl
  · intro k
    rw [TCPServer.open_accept kept fresh, ← paired.opened k]
    simp [List.mem_append]
  · rw [List.map_append, List.nodup_append]
    refine ⟨paired.distinct, List.nodup_singleton _, ?_⟩
    intro s member t new same
    obtain ⟨pair, inside, rfl⟩ := List.mem_map.mp member
    rw [List.mem_singleton.mp new] at same
    exact Nat.lt_irrefl _ (same ▸ (paired.serves pair inside).known.1)
  · rw [List.map_append, List.nodup_append]
    refine ⟨paired.distinctSockets, List.nodup_singleton _, ?_⟩
    intro s member t new same
    obtain ⟨pair, inside, rfl⟩ := List.mem_map.mp member
    rw [List.mem_singleton.mp new] at same
    exact Nat.lt_irrefl _ (same ▸ (paired.serves pair inside).known.2)
  · intro pair member
    cases List.mem_append.mp member with
    | inl before =>
        obtain ⟨object, listener, known⟩ := paired.serves pair before
        constructor
        · rw [sub, Heap.alloc_of_lt _ _ known.1]
          exact object
        · rw [dataSock, Heap.alloc_of_lt _ _ known.2]
          exact listener
        · rw [sub, dataSock]
          exact ⟨Nat.lt_succ_of_lt known.1, Nat.lt_succ_of_lt known.2⟩
    | inr new =>
        cases List.mem_singleton.mp new
        constructor
        · rw [sub, Heap.alloc_self]
          exact ⟨_, rfl⟩
        · rw [dataSock, Heap.alloc_self]
          rfl
        · rw [sub, dataSock]
          exact ⟨Nat.lt_succ_self _, Nat.lt_succ_self _⟩
  · intro k member
    rw [dataSock]
    cases List.mem_append.mp member with
    | inl before => exact Nat.lt_succ_of_lt (paired.known k before)
    | inr new => exact Nat.lt_succ_of_le (Nat.le_of_eq (List.mem_singleton.mp new))
  · intro k member
    by_cases same : k = d.node.dataSock.next
    · exact ⟨some d.node.sub.next, by simp [TCPServer.accept, same]⟩
    · simp only [TCPServer.accept, Function.update_of_ne same]
      cases List.mem_append.mp member with
      | inl before => exact paired.wrapped k before
      | inr new => exact absurd (List.mem_singleton.mp new) same

/-- The callback of an open socket deletes its subscriptor, and nothing else. -/
theorem dataEof_serving {n : Node} {s : SubPtr} {k : SockPtr} (serves : Serves ch n s k) :
    ∃ n', n.dataEof k = .ok n' ∧
      (∀ c, (n'.chan c).server = (n.chan c).server) ∧
      (n'.chan ch).subscriptors = (n.chan ch).subscriptors.filter (· != s) ∧
      n'.sub.next = n.sub.next ∧ n'.dataSock.next = n.dataSock.next ∧
      (∀ t, t ≠ s → n'.sub t = n.sub t) ∧ ∀ j, j ≠ k → n'.dataSock j = n.dataSock j := by
  obtain ⟨host, found⟩ := serves.object
  have listener : ((n.setDataSock k (·.closeFd)).dataSock k).listeners = some s := by
    simp [Node.setDataSock, TCPSocket.closeFd, serves.listener]
  have foundThere : (n.setDataSock k (·.closeFd)).sub s =
      some { channel := ch, host := host, socket := some k, bConnected := true } := found
  simp only [Node.dataEof, Node.dataClosed, listener, Node.subOnClose, Node.subAt, foundThere,
    Bind.bind, Except.bind, Pure.pure, Except.pure]
  refine ⟨_, rfl, ?_, ?_, rfl, rfl, ?_, ?_⟩
  · intro c
    simp only [Node.setDataSock, Node.deleteSub, Node.setChan, Heap.modify_apply]
    split
    · next same => rw [same]
    · rfl
  · simp [Node.setDataSock, Node.deleteSub, Node.setChan]
  · intro t other
    simp only [Node.setDataSock, Node.deleteSub, Node.setChan, Heap.modify_of_ne _ _ other]
  · intro j other
    simp only [Node.setDataSock, Node.deleteSub, Node.setChan, Heap.modify_of_ne _ _ other]

theorem paired_close {s : SubPtr} {k : SockPtr} {node : Node} (paired : Paired ch d pairs)
    (member : (s, k) ∈ pairs) (ran : d.node.dataEof k = .ok node) :
    Paired ch ⟨node, d.server.close k⟩ (pairs.filter fun pair => pair.2 ≠ k) := by
  obtain ⟨n', ran', server, subscriptors, subNext, sockNext, sub, dataSock⟩ :=
    dataEof_serving (paired.serves _ member)
  rw [ran] at ran'
  cases ran'
  have distinct (pair : SubPtr × SockPtr) (inside : pair ∈ pairs) (other : pair.2 ≠ k) :
      pair.1 ≠ s := by
    intro same
    rw [List.inj_on_of_nodup_map paired.distinct inside member same] at other
    exact other rfl
  have other {pair : SubPtr × SockPtr} (inside : pair ∈ pairs.filter fun pair => pair.2 ≠ k) :
      pair ∈ pairs ∧ pair.2 ≠ k := by
    simpa using inside
  constructor
  · rw [server]
    exact paired.isServer
  · rw [subscriptors, paired.subscriptors, List.filter_map]
    congr 1
    apply List.filter_congr
    intro pair inside
    simp only [Function.comp_apply, ne_eq, decide_not, bne, beq_eq_decide]
    by_cases same : pair.2 = k
    · rw [List.inj_on_of_nodup_map paired.distinctSockets inside member same]
      simp
    · simp [same, distinct pair inside same]
  · intro j
    rw [TCPServer.open_close, ← paired.opened j]
    constructor
    · intro inside
      obtain ⟨pair, kept, rfl⟩ := List.mem_map.mp inside
      exact ⟨List.mem_map_of_mem (other kept).1, (other kept).2⟩
    · intro ⟨inside, apart⟩
      obtain ⟨pair, before, rfl⟩ := List.mem_map.mp inside
      exact List.mem_map_of_mem (by simpa using ⟨before, apart⟩)
  · exact paired.distinct.sublist (List.filter_sublist.map _)
  · exact paired.distinctSockets.sublist (List.filter_sublist.map _)
  · intro pair inside
    obtain ⟨object, listener, known⟩ := paired.serves pair (other inside).1
    constructor
    · rw [sub _ (distinct pair (other inside).1 (other inside).2)]
      exact object
    · rw [dataSock _ (other inside).2]
      exact listener
    · rw [subNext, sockNext]
      exact known
  · intro j accepted
    rw [sockNext]
    exact paired.known j accepted
  · exact paired.wrapped

theorem paired_step (paired : Paired ch d pairs) (kept : d.server.Kept)
    (stepped : Step ch d event d') : ∃ pairs, Paired ch d' pairs := by
  cases stepped with
  | accept ip port conn => exact ⟨_, paired_accept paired kept⟩
  | close k node isOpen ran =>
      obtain ⟨pair, member, rfl⟩ := List.mem_map.mp ((paired.opened k).mpr isOpen)
      exact ⟨_, paired_close paired member ran⟩

/-- An open socket can always close. -/
theorem close_total {k : SockPtr} (paired : Paired ch d pairs) (isOpen : d.server.Open k) :
    ∃ d', Step ch d (.close k) d' := by
  obtain ⟨pair, member, rfl⟩ := List.mem_map.mp ((paired.opened k).mpr isOpen)
  obtain ⟨node, ran, _⟩ := dataEof_serving (paired.serves pair member)
  exact ⟨_, .close _ node isOpen ran⟩

theorem Paired.entries (paired : Paired ch d pairs) : Entries ch d := by
  have handle (pair : SubPtr × SockPtr) (member : pair ∈ pairs) :
      d.node.handle pair.1 = some (.socket pair.2) := (paired.serves pair member).handle
  have once (k : SockPtr) : pairs.countP (fun pair => pair.2 = k) =
      if d.server.Open k then 1 else 0 := by
    have counted : (pairs.map Prod.snd).count k = pairs.countP fun pair => pair.2 = k := by
      rw [List.count, List.countP_map]
      rfl
    rw [← counted]
    split
    · next isOpen => exact List.count_eq_one_of_mem paired.distinctSockets ((paired.opened k).mpr isOpen)
    · next notOpen => exact List.count_eq_zero_of_not_mem fun inside => notOpen ((paired.opened k).mp inside)
  have writable : d.node.Writable ch := by
    intro s member
    rw [paired.subscriptors] at member
    obtain ⟨pair, inside, rfl⟩ := List.mem_map.mp member
    obtain ⟨host, found⟩ := (paired.serves pair inside).object
    rw [found]
    refine ⟨nofun, ?_⟩
    simp [Node.missing, found, SubscriptionImpl.write]
  constructor
  · intro k
    rw [paired.subscriptors, List.countP_map, ← once k]
    apply List.countP_congr
    intro pair member
    simp [handle pair member]
  · intro s member
    rw [paired.subscriptors] at member
    obtain ⟨pair, inside, rfl⟩ := List.mem_map.mp member
    exact ⟨pair.2, handle pair inside⟩
  · intro memory msg len
    refine ⟨_, Node.channelWrite_eq writable msg len, fun k => ?_⟩
    have each : (pairs.map Prod.fst).flatMap (d.node.sentFor (memory.bytes msg len)) =
        pairs.map fun pair => ⟨pair.2, memory.bytes msg len⟩ := by
      rw [List.flatMap_map, List.map_eq_flatMap]
      apply List.flatMap_congr
      intro pair member
      rw [Node.sentFor, handle pair member]
    rw [paired.subscriptors, each, List.countP_map, ← once k]
    rfl

theorem closesLast_iff (paired : Paired ch d pairs) {k : SockPtr} (isOpen : d.server.Open k) :
    d.server.ClosesLast (.close k) ↔ d.ClosesLast (.close k) := by
  constructor
  · rintro closes j same
    cases same
    exact (closes k rfl).1
  · rintro closes j same
    cases same
    exact ⟨closes k rfl, paired.wrapped k isOpen.1⟩

/-- What the server does in a step of the process. -/
theorem server_step (paired : Paired ch d pairs) (stepped : Step ch d event d') :
    ∃ happening, d.server.Step happening d'.server ∧
      (d.server.ClosesLast happening ↔ d.ClosesLast event) := by
  cases stepped with
  | accept ip port conn =>
      refine ⟨.accept d.node.dataSock.next (some d.node.sub.next), ?_, iff_of_true nofun nofun⟩
      have fresh : d.node.dataSock.next ∉ d.server.accepted :=
        fun member => Nat.lt_irrefl _ (paired.known _ member)
      simp only [TCPServer.Step, TCPServer.react, if_neg fresh]
  | close k node isOpen ran =>
      refine ⟨.close k, ?_, closesLast_iff paired isOpen⟩
      simp only [TCPServer.Step, TCPServer.react, if_pos isOpen]

/-- A process whose channel has a data server that nobody has connected to yet. -/
def start (n : Node) : DataServing :=
  ⟨n, {}⟩

theorem paired_start {n : Node} (isServer : (n.chan ch).server ≠ none)
    (unjoined : (n.chan ch).subscriptors = []) : Paired ch (start n) [] :=
  ⟨isServer, unjoined, fun _ => iff_of_false nofun fun isOpen => absurd isOpen.1 nofun,
    List.nodup_nil, List.nodup_nil, fun _ => nofun, fun _ => nofun, fun _ => nofun⟩

/-- What every step keeps. -/
def Sound (ch : ChanPtr) (d : DataServing) : Prop :=
  d.server.Kept ∧ ∃ pairs, Paired ch d pairs

theorem sound_start {n : Node} (isServer : (n.chan ch).server ≠ none)
    (unjoined : (n.chan ch).subscriptors = []) : Sound ch (start n) :=
  ⟨TCPServer.kept_empty, _, paired_start isServer unjoined⟩

theorem Sound.step (sound : Sound ch d) (stepped : Step ch d event d') : Sound ch d' := by
  obtain ⟨kept, pairs, paired⟩ := sound
  obtain ⟨happening, inServer, _⟩ := server_step paired stepped
  exact ⟨TCPServer.kept_step kept inServer, paired_step paired kept stepped⟩

theorem Sound.entries (sound : Sound ch d) : Entries ch d := by
  obtain ⟨_, pairs, paired⟩ := sound
  exact paired.entries

theorem Sound.total {k : SockPtr} (sound : Sound ch d) (isOpen : d.server.Open k) :
    ∃ d', Step ch d (.close k) d' := by
  obtain ⟨_, pairs, paired⟩ := sound
  exact close_total paired isOpen

theorem follows_step_iff (follows : Follows ch d) (sound : Sound ch d)
    (stepped : Step ch d event d') : Follows ch d' ↔ d.ClosesLast event := by
  have sound' := sound.step stepped
  obtain ⟨kept, pairs, paired⟩ := sound
  obtain ⟨happening, inServer, same⟩ := server_step paired stepped
  rw [← same, ← TCPServer.follows_step_iff follows.1 kept inServer]
  exact and_iff_left sound'.entries

end DataServing

/-- The connections of a server follow the open ones in a run exactly when every socket that
closes is the last one accepted and has the server's callback. The subscriptors of a
channel always follow them. -/
theorem follows_iff_closesLast {Callback : Type}
    {accepts : List (TCPServer.Event Callback × TCPServer Callback)}
    (served : Every TCPServer.Step {} accepts) {n : Node} {ch : ChanPtr}
    (isServer : (n.chan ch).server ≠ none) (unjoined : (n.chan ch).subscriptors = [])
    {trace : List (DataServing.Event × DataServing)}
    (ran : Every (DataServing.Step ch) (.start n) trace) :
    (Always TCPServer.Follows {} accepts ↔ Every (fun s event _ => s.ClosesLast event) {} accepts) ∧
      Always (DataServing.Entries ch) (.start n) trace ∧
      (Always (DataServing.Follows ch) (.start n) trace ↔
        Every (fun d event _ => d.ClosesLast event) (.start n) trace) := by
  have sound := DataServing.sound_start isServer unjoined
  refine ⟨TCPServer.always_follows_iff served, ?_, ?_⟩
  · have always := ran.always sound fun _ _ _ sound stepped => sound.step stepped
    exact always.mono fun d sound => sound.entries
  · exact ran.always_iff ⟨TCPServer.follows_empty, sound.entries⟩ sound
      (fun _ _ _ sound stepped => sound.step stepped)
      fun _ _ _ follows sound stepped => DataServing.follows_step_iff follows sound stepped

/-- A publisher whose channel has just got a data server. -/
theorem reaches_server : ∃ n, Reaches Node.Step (Node.init 1 10000 Node.firstPort) n ∧
    (n.chan 0).server ≠ none ∧ (n.chan 0).subscriptors = [] := by
  have replayed : replay Node.react (fun _ _ => true) (fun _ n =>
        (n.chan 0).server ≠ none ∧ (n.chan 0).subscriptors = [])
      (.line 0 "CONNECT_TCP=c".toList) (Node.init 1 10000 Node.firstPort)
      [.publish ['c'], .accepted "10.0.0.2".toList 40000 0, .line 0 "ID=2|PORT=10000".toList,
        .line 0 "YOU=10.0.0.1".toList, .line 0 "CONNECTED".toList] = true := by decide
  obtain ⟨trace, n, allowed, checked⟩ := replay_run replayed
  exact ⟨n, ⟨_, allowed.of_under, final_concat _ _ _⟩, of_decide_eq_true checked⟩

/-- The state behind the next accepted connection. -/
def DataServing.joined (ch : ChanPtr) (d : DataServing) (port : Int32) (conn : ConnId) :
    DataServing :=
  ⟨d.node.acceptSubscriptor ch "10.0.0.2".toList port conn,
    d.server.accept d.node.dataSock.next (some d.node.sub.next)⟩

private theorem joined_next {ch : ChanPtr} {d : DataServing} {port : Int32} {conn : ConnId}
    (isServer : (d.node.chan ch).server ≠ none) :
    (d.joined ch port conn).node.dataSock.next = d.node.dataSock.next + 1 := by
  obtain ⟨server, found⟩ := Option.ne_none_iff_exists'.mp isServer
  simp [DataServing.joined, Node.acceptSubscriptor, found, Node.setChan]

/-- A server, and a channel's: two connections are accepted and the second closes, the
first stays on the list. -/
theorem follows_of_two : ∃ (accepts : List (TCPServer.Event Unit × TCPServer Unit)) (n : Node)
    (trace : List (DataServing.Event × DataServing)),
    (n.chan 0).server ≠ none ∧
      (final {} accepts).accepted = [0, 1] ∧ (final {} accepts).closed = [1] ∧
      Always TCPServer.Follows {} accepts ∧ (final {} accepts).connections = [0] ∧
      (final (.start n) trace).server.accepted = [n.dataSock.next, n.dataSock.next + 1] ∧
      (final (.start n) trace).server.closed = [n.dataSock.next + 1] ∧
      Always (DataServing.Follows 0) (.start n) trace := by
  let one : TCPServer Unit := ({} : TCPServer Unit).accept 0 (some ())
  let two := one.accept 1 (some ())
  have served : Every TCPServer.Step {} [(.accept 0 (some ()), one), (.accept 1 (some ()), two),
      (.close 1, two.close 1)] := ⟨rfl, rfl, rfl, trivial⟩
  obtain ⟨n, _, isServer, unjoined⟩ := reaches_server
  let d := DataServing.joined 0 (.start n) 40001 1
  let d' := d.joined 0 40002 2
  have first : DataServing.Step 0 (.start n) (.accept "10.0.0.2".toList 40001 1) d := .accept _ _ _
  have second : DataServing.Step 0 d (.accept "10.0.0.2".toList 40002 2) d' := .accept _ _ _
  have next : d.node.dataSock.next = n.dataSock.next + 1 := joined_next isServer
  have accepted : d'.server.accepted = [n.dataSock.next, n.dataSock.next + 1] := next ▸ rfl
  have isOpen : d'.server.Open (n.dataSock.next + 1) := ⟨by simp [accepted], nofun⟩
  obtain ⟨d'', third⟩ :=
    (((DataServing.sound_start isServer unjoined).step first).step second).total isOpen
  have ran : Every (DataServing.Step 0) (.start n) [(.accept "10.0.0.2".toList 40001 1, d),
      (.accept "10.0.0.2".toList 40002 2, d'), (.close (n.dataSock.next + 1), d'')] :=
    ⟨first, second, third, trivial⟩
  have follows := follows_iff_closesLast served isServer unjoined ran
  refine ⟨_, n, _, isServer, rfl, rfl, follows.1.mpr ?_, rfl, ?_, ?_, follows.2.2.mpr ?_⟩
  · refine ⟨nofun, nofun, ?_, trivial⟩
    rintro k same
    cases same
    exact ⟨rfl, _, rfl⟩
  · cases third
    exact accepted
  · cases third
    rfl
  · refine ⟨nofun, nofun, ?_, trivial⟩
    rintro k same
    cases same
    simp [accepted]

/-- Two connections are accepted and the first closes: the second is taken off the list. -/
theorem not_always_follows :
    ¬ ∀ (ID port : Int32) (bindPort : ChanPtr → DataPort) (n : Node) (ch : ChanPtr)
        (trace : List (DataServing.Event × DataServing)),
      Reaches Node.Step (Node.init ID port bindPort) n → (n.chan ch).server ≠ none →
        (n.chan ch).subscriptors = [] → Every (DataServing.Step ch) (.start n) trace →
          Always (DataServing.Follows ch) (.start n) trace := by
  intro law
  obtain ⟨n, reached, isServer, unjoined⟩ := reaches_server
  let d := DataServing.joined 0 (.start n) 40001 1
  let d' := d.joined 0 40002 2
  have first : DataServing.Step 0 (.start n) (.accept "10.0.0.2".toList 40001 1) d := .accept _ _ _
  have second : DataServing.Step 0 d (.accept "10.0.0.2".toList 40002 2) d' := .accept _ _ _
  have sound := ((DataServing.sound_start isServer unjoined).step first).step second
  have isOpen : d'.server.Open n.dataSock.next := ⟨List.mem_cons_self, nofun⟩
  obtain ⟨d'', third⟩ := sound.total isOpen
  have always := law 1 10000 Node.firstPort n 0 [(.accept "10.0.0.2".toList 40001 1, d),
    (.accept "10.0.0.2".toList 40002 2, d'), (.close n.dataSock.next, d'')] reached isServer
    unjoined ⟨first, second, third, trivial⟩
  have before : DataServing.Follows 0 d' :=
    always.2 (.accept "10.0.0.2".toList 40002 2, d') (List.mem_cons_of_mem _ List.mem_cons_self)
  have closes := (DataServing.follows_step_iff before sound third).mp always.final
  -- the last socket accepted is the one behind the first
  have last : d'.server.accepted.getLast? = some d.node.dataSock.next := rfl
  have next : d.node.dataSock.next = n.dataSock.next + 1 := joined_next isServer
  have same := last.symm.trans (closes _ rfl)
  rw [next] at same
  exact absurd (Option.some.inj same) (Nat.succ_ne_self _)

end LibPubSub
