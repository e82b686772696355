import LibPubSub.OwnChannels

/-! Which Host a subscriptor belongs to. The `on_open` of a data server is installed with
the Host of the first request and serves the connections of all later ones; beside
the node we keep who asked first and where each connection comes from. -/

set_option autoImplicit false

namespace LibPubSub

open Fallible Transition

namespace Node

/-- The `CONNECT_TCP=` that a reaction answers: who asks, and for which channel. -/
def tcpRequest (n : Node) : Input → Option (HostPtr × ChanPtr)
  | .line k s =>
      match (n.mesh.sock k).listeners with
      | some (.host h) =>
          if (n.mesh.host h).bReady && strStartsWith s "CONNECT_TCP=".toList then
            (n.getChannel (strAfter s ['='])).map fun c => (h, c)
          else none
      | _ => none
  | _ => none

variable {n n' : Node} {c d : ChanPtr} {h : HostPtr} {input : Input}

theorem tcpRequest_iff : n.tcpRequest input = some (h, c) ↔ n.Asks .tcp h c input := by
  constructor
  · intro requested
    unfold tcpRequest at requested
    split at requested
    · next k s =>
      split at requested
      · next h' listener =>
        split at requested
        · next both =>
          obtain ⟨ready, starts⟩ := Bool.and_eq_true_iff.mp both
          obtain ⟨_, found, same⟩ := Option.map_eq_some_iff.mp requested
          cases same
          exact ⟨s, ⟨k, rfl, listener, ready⟩, starts, found⟩
        · cases requested
      · cases requested
    · cases requested
  · rintro ⟨s, ⟨k, rfl, listener, ready⟩, starts, found⟩
    change strStartsWith s "CONNECT_TCP=".toList = true at starts
    simp only [tcpRequest, listener, ready, starts, found, Bool.and_self, ↓reduceIte,
      Option.map_some]

theorem offerTcp_server (n : Node) (c d : ChanPtr) (h : HostPtr) :
    ((n.offerTcp c h).chan d).server =
      if d = c then some ((n.chan c).server.getD ⟨n.bindPort c, h⟩) else (n.chan d).server := by
  simp only [offerTcp, send, setChan, Heap.modify_apply]
  split <;> rfl

theorem offerShm_server (n : Node) (c d : ChanPtr) (h : HostPtr) :
    ((n.offerShm c h).chan d).server = (n.chan d).server := by
  simp only [offerShm, send, setChan, Heap.modify_apply]
  split
  · next same => rw [same]
  · rfl

/-- A data server accepts whoever connects. -/
theorem KeepsServing.closed (kept : KeepsServing n n') (attended : Attended n) {ip : Str}
    {port : Int32} {conn : ConnId} (stepped : Step n (.dataAccepted c ip port conn) n') :
    (n.chan c).server = none := by
  cases server : (n.chan c).server with
  | none => rfl
  | some _ =>
      exfalso
      have isOpen : (n.chan c).server ≠ none := by
        rw [server]
        exact nofun
      apply kept.not_joined
      refine ⟨n.sub.next, ?_, fun member => Nat.lt_irrefl _ (attended c _ member)⟩
      rw [← pure_eq_ok.mp stepped, acceptSubscriptor_subscriptors isOpen, if_pos rfl]
      exact List.mem_append_right _ (List.mem_singleton_self _)

end Node

/-- A process and what a record of its requests and connections would show. -/
structure Attribution where
  node : Node
  /-- Who was the first to ask for a channel. -/
  first : ChanPtr → Option HostPtr
  /-- The Host that the data connection of a subscriptor comes from. -/
  origin : SubPtr → Option HostPtr

namespace Attribution

/-- An input, and the Host that the data connection comes from if it is one. -/
structure Event where
  input : Node.Input
  peer : HostPtr

def react (a : Attribution) (event : Event) : Result Attribution := do
  let node ← a.node.react event.input
  return {
    node := node
    first := match a.node.tcpRequest event.input with
      | some (h, c) => Function.update a.first c (some ((a.first c).getD h))
      | none => a.first
    origin := match event.input with
      | .dataAccepted _ _ _ _ => Function.update a.origin a.node.sub.next (some event.peer)
      | _ => a.origin }

def Step (a : Attribution) (event : Event) (a' : Attribution) : Prop :=
  a.react event = .ok a'

def init (ID port : Int32) (bindPort : ChanPtr → DataPort) : Attribution where
  node := Node.init ID port bindPort
  first _ := none
  origin _ := none

/-- Every subscriptor of a channel has the Host that its connection comes from. -/
def Attributed (a : Attribution) : Prop :=
  ∀ c, ∀ s ∈ (a.node.chan c).subscriptors, ∀ sub, a.node.sub s = some sub →
    a.origin s = some sub.host

/-- A data connection comes from the Host that was the first to ask for the channel. -/
def ByFirst (a : Attribution) (event : Event) : Prop :=
  ∀ c ip port conn, event.input = .dataAccepted c ip port conn →
    ∀ h, a.first c = some h → event.peer = h

/-! ## The first request -/

/-- The data server has the Host of the first request. -/
structure Kept (a : Attribution) : Prop where
  attended : a.node.Attended
  known : ∀ c h, a.first c = some h → c < a.node.chan.next
  served : ∀ c, (a.node.chan c).server.map DataServer.host = a.first c

variable {a a' : Attribution} {event : Event}

theorem step_cases (stepped : Step a event a') :
    Node.Step a.node event.input a'.node ∧
      (a'.first = match a.node.tcpRequest event.input with
        | some (h, c) => Function.update a.first c (some ((a.first c).getD h))
        | none => a.first) ∧
      a'.origin = match event.input with
        | .dataAccepted _ _ _ _ => Function.update a.origin a.node.sub.next (some event.peer)
        | _ => a.origin := by
  obtain ⟨node, reacted, rest⟩ := bind_eq_ok.mp stepped
  rw [← pure_eq_ok.mp rest]
  exact ⟨reacted, rfl, rfl⟩

theorem origin_of_lt (stepped : Step a event a') {s : SubPtr} (old : s < a.node.sub.next) :
    a'.origin s = a.origin s := by
  rw [(step_cases stepped).2.2]
  cases event.input with
  | dataAccepted => exact Function.update_of_ne (Nat.ne_of_lt old) _ _
  | _ => rfl

theorem kept_init (ID port : Int32) (bindPort : ChanPtr → DataPort) :
    Kept (init ID port bindPort) :=
  ⟨fun _ _ => nofun, fun _ _ => nofun, fun _ => rfl⟩

theorem Kept.step (kept : Kept a) (stepped : Step a event a') : Kept a' := by
  obtain ⟨reacted, first, _⟩ := step_cases stepped
  have attended := Node.attended_step kept.attended reacted
  have next := (Node.step_keepsRegistry reacted).next
  cases request : a.node.tcpRequest event.input with
  | some asked =>
      obtain ⟨h, c⟩ := asked
      have asks := Node.tcpRequest_iff.mp request
      have result : a'.node = a.node.offerTcp c h := asks.ran reacted
      simp only [request] at first
      refine ⟨attended, fun d h' isFirst => ?_, fun d => ?_⟩
      · by_cases same : d = c
        · obtain ⟨s, _, _, found⟩ := asks
          rw [same]
          exact Nat.lt_of_lt_of_le (Node.getChannel_eq_some found).1 next
        · rw [first, Function.update_of_ne same] at isFirst
          exact Nat.lt_of_lt_of_le (kept.known d h' isFirst) next
      · rw [first, result, Node.offerTcp_server]
        by_cases same : d = c
        · rw [if_pos same, same, Function.update_self, ← kept.served c]
          cases (a.node.chan c).server <;> rfl
        · rw [if_neg same, Function.update_of_ne same]
          exact kept.served d
  | none =>
      simp only [request] at first
      have server (d : ChanPtr) : (a'.node.chan d).server = (a.node.chan d).server ∨
          (a.node.chan.next ≤ d ∧ (a'.node.chan d).server = none) := by
        cases Node.serving_effect reacted with
        | kept keeps => exact keeps.server d
        | offered which h c asks result =>
            cases which with
            | tcp =>
                rw [Node.tcpRequest_iff.mpr asks] at request
                cases request
            | shm =>
                rw [result]
                exact .inl (Node.offerShm_server _ _ _ _)
        | accepted c ip port conn isAccept isOpen result =>
            rw [result]
            exact .inl (ChannelImpl.server_of_core (Node.acceptSubscriptor_core _ c ip port conn d))
      refine ⟨attended, fun d h isFirst => ?_, fun d => ?_⟩
      · rw [first] at isFirst
        exact Nat.lt_of_lt_of_le (kept.known d h isFirst) next
      · rw [first]
        cases server d with
        | inl same =>
            rw [same]
            exact kept.served d
        | inr made =>
            rw [made.2]
            cases isFirst : a.first d with
            | none => rfl
            | some h => exact absurd (kept.known d h isFirst) (Nat.not_lt.mpr made.1)

/-! ## Attribution -/

/-- A subscriptor that was there keeps its Host. -/
theorem attributed_old (attributed : Attributed a) (kept : Kept a) (stepped : Step a event a')
    {c : ChanPtr} {s : SubPtr} (member : s ∈ (a.node.chan c).subscriptors)
    (host : ∀ sub', a'.node.sub s = some sub' → ∃ sub, a.node.sub s = some sub ∧
      sub.host = sub'.host) {sub' : SubscriptionImpl} (found : a'.node.sub s = some sub') :
    a'.origin s = some sub'.host := by
  obtain ⟨sub, before, same⟩ := host sub' found
  rw [origin_of_lt stepped (kept.attended c s member), ← same]
  exact attributed c s member sub before

theorem attributed_iff (attributed : Attributed a) (kept : Kept a) (stepped : Step a event a') :
    Attributed a' ↔ ByFirst a event := by
  obtain ⟨reacted, _, origin⟩ := step_cases stepped
  cases Node.serving_effect reacted with
  | kept keeps =>
      refine iff_of_true ?_ ?_
      · intro c s member sub' found
        have before := keeps.subscriptors c s member
        exact attributed_old attributed kept stepped before
          (keeps.host s (kept.attended c s before)) found
      · intro c ip port conn isAccept h isFirst
        rw [isAccept] at reacted
        rw [← kept.served c, keeps.closed kept.attended reacted] at isFirst
        cases isFirst
  | offered which h c asks result =>
      have heap : a'.node.sub = a.node.sub := by
        rw [result]
        cases which <;> rfl
      refine iff_of_true ?_ ?_
      · intro d s member sub' found
        rw [result, which.offer_subscriptors] at member
        refine attributed_old attributed kept stepped member (fun sub found => ?_) found
        rw [heap] at found
        exact ⟨sub, found, rfl⟩
      · intro d ip port conn isAccept
        obtain ⟨s, ⟨k, isLine, _⟩, _⟩ := asks
        rw [isLine] at isAccept
        cases isAccept
  | accepted c ip port conn isAccept isOpen result =>
      obtain ⟨server, isServer⟩ := Option.ne_none_iff_exists'.mp isOpen
      have isFirst : a.first c = some server.host := by rw [← kept.served c, isServer]; rfl
      have heap : a'.node.sub = a.node.sub.alloc (some
          { channel := c, host := server.host, socket := some a.node.dataSock.next,
            bConnected := true }) := by
        rw [result, Node.acceptSubscriptor, isServer]
        rfl
      have newOrigin : a'.origin a.node.sub.next = some event.peer := by
        rw [origin, isAccept]
        exact Function.update_self _ _ _
      have lists (d : ChanPtr) : (a'.node.chan d).subscriptors = if d = c then
          (a.node.chan d).subscriptors ++ [a.node.sub.next] else (a.node.chan d).subscriptors := by
        rw [result]
        exact Node.acceptSubscriptor_subscriptors isOpen d
      constructor
      · intro attributed' d ip' port' conn' isAccept' h isFirst'
        rw [isAccept] at isAccept'
        cases isAccept'
        rw [isFirst] at isFirst'
        cases isFirst'
        have member : a.node.sub.next ∈ (a'.node.chan c).subscriptors := by
          rw [lists c, if_pos rfl]
          exact List.mem_append_right _ (List.mem_singleton_self _)
        have found := congrArg (· a.node.sub.next) (congrArg Heap.cell heap)
        have owner := attributed' c _ member _ (found.trans (Heap.alloc_self _ _))
        rw [newOrigin] at owner
        exact Option.some.inj owner
      · intro byFirst d s member sub' found
        have old (member : s ∈ (a.node.chan d).subscriptors) :
            a'.origin s = some sub'.host := by
          refine attributed_old attributed kept stepped member (fun sub found => ?_) found
          rw [heap, Heap.alloc_of_lt _ _ (kept.attended d s member)] at found
          exact ⟨sub, found, rfl⟩
        rw [lists d] at member
        split at member
        · cases List.mem_append.mp member with
          | inl before => exact old before
          | inr new =>
              rw [List.mem_singleton.mp new] at found ⊢
              rw [heap, Heap.alloc_self, Option.some.injEq] at found
              rw [newOrigin, byFirst c ip port conn isAccept _ isFirst, ← found]
        · exact old member

/-- Subscriptors are attributed rightly in a run exactly when each data connection comes
from the Host that was the first to ask for its channel. -/
theorem always_attributed_iff {ID port : Int32} {bindPort : ChanPtr → DataPort}
    {trace : List (Event × Attribution)} (ran : Every Step (init ID port bindPort) trace) :
    Always Attributed (init ID port bindPort) trace ↔
      Every (fun a event _ => ByFirst a event) (init ID port bindPort) trace :=
  ran.always_iff (fun _ _ => nofun) (kept_init ID port bindPort)
    (fun _ _ _ kept stepped => kept.step stepped)
    fun _ _ _ attributed kept stepped => attributed_iff attributed kept stepped

/-- `ByFirst` of one event. -/
def byFirst (a : Attribution) (event : Event) : Bool :=
  match event.input with
  | .dataAccepted c _ _ _ => (a.first c).all (· == event.peer)
  | _ => true

theorem byFirst_iff : byFirst a event = true ↔ ByFirst a event := by
  unfold byFirst ByFirst
  cases event.input with
  | dataAccepted c ip port conn =>
      constructor
      · intro checked d ip' port' conn' same h isFirst
        cases same
        simp only [isFirst, Option.all_some] at checked
        exact (eq_of_beq checked).symm
      · intro byFirst
        change (a.first c).all (· == event.peer) = true
        cases isFirst : a.first c with
        | none => rfl
        | some h => exact beq_iff_eq.mpr (byFirst c ip port conn rfl h isFirst).symm
  | _ => exact iff_of_true rfl nofun

/-- Two Hosts know the node, which publishes a channel. -/
def acquainted : List Event :=
  [.publish ['c'], .accepted "10.0.0.2".toList 40000 0, .line 0 "ID=2|PORT=10000".toList,
    .line 0 "YOU=10.0.0.1".toList, .line 0 "CONNECTED".toList,
    .accepted "10.0.0.3".toList 40000 1, .line 1 "ID=3|PORT=10000".toList,
    .line 1 "CONNECTED".toList].map fun input => ⟨input, 0⟩

theorem attributed_of_one : ∃ trace : List (Event × Attribution),
    ((final (init 1 10000 Node.firstPort) trace).node.chan 0).subscriptors = [0] ∧
      Always Attributed (init 1 10000 Node.firstPort) trace := by
  have replayed : replay react byFirst (fun _ a => (a.node.chan 0).subscriptors = [0])
      ⟨.dataAccepted 0 "10.0.0.2".toList 40001 2, 1⟩ (init 1 10000 Node.firstPort)
      (acquainted ++ [⟨.line 0 "CONNECT_TCP=c".toList, 0⟩]) = true := by decide +kernel
  obtain ⟨trace, a, allowed, checked⟩ := replay_run replayed
  have byFirst := allowed.mono (fun _ _ _ stepped => byFirst_iff.mp stepped.1)
  have always := (always_attributed_iff allowed.of_under).mpr byFirst
  refine ⟨_, ?_, always⟩
  rw [final_concat]
  exact of_decide_eq_true checked

/-- The second Host asks as well and connects: it is taken for the first. -/
theorem not_always_attributed :
    ¬ ∀ (ID port : Int32) (bindPort : ChanPtr → DataPort) (trace : List (Event × Attribution)),
      Every Step (init ID port bindPort) trace →
        Always Attributed (init ID port bindPort) trace := by
  intro law
  have replayed : replay react (fun _ _ => true) (fun _ a =>
        (a.node.chan 0).subscriptors = [0] ∧ (a.node.sub 0).map SubscriptionImpl.host = some 1 ∧
          a.origin 0 = some 2)
      ⟨.dataAccepted 0 "10.0.0.3".toList 40001 2, 2⟩ (init 1 10000 Node.firstPort)
      (acquainted ++ [⟨.line 0 "CONNECT_TCP=c".toList, 0⟩, ⟨.line 1 "CONNECT_TCP=c".toList, 0⟩]) =
        true := by decide +kernel
  obtain ⟨trace, a, allowed, checked⟩ := replay_run replayed
  obtain ⟨single, host, origin⟩ := of_decide_eq_true checked
  obtain ⟨sub, found, isFirst⟩ := Option.map_eq_some_iff.mp host
  have last := (law 1 10000 Node.firstPort _ allowed.of_under).final
  rw [final_concat] at last
  have owner := last 0 0 (by simp [single]) sub found
  rw [origin, isFirst] at owner
  exact absurd owner (by decide)

end Attribution

end LibPubSub
