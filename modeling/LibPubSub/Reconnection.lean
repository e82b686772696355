import LibPubSub.DataSockets
import LibPubSub.Meeting
import LibPubSub.Serving

/-! What becomes of the data socket of a closed subscription. `close()` calls
`TCPSocket::close` with its default argument, so `bReconnect` stays set, and the thread
that leaves the receive loop dials the publisher again with nobody listening. A thread
that still dials goes on to do so on the number of its closed descriptor. -/

set_option autoImplicit false

namespace LibPubSub

open Fallible Transition

namespace Node

variable {n n' : Node} {c : ChanPtr}

/-! ## The data servers -/

/-- Data servers belong to channels that exist. -/
def ServersKnown (n : Node) : Prop :=
  ∀ c, (n.chan c).server ≠ none → c < n.chan.next

theorem asks_known {request : Request} {h : HostPtr} {input : Input}
    (asks : n.Asks request h c input) : c < n.chan.next := by
  obtain ⟨_, _, _, found⟩ := asks
  exact List.mem_range.mp (List.mem_of_find?_eq_some found)

/-- A data server is never taken down, and always listens on the same port. -/
theorem step_serversKnown {input : Input} (served : ServersKnown n) (stepped : Step n input n') :
    ServersKnown n' ∧ ∀ c server, (n.chan c).server = some server →
      (n'.chan c).server = some server := by
  cases serving_effect stepped with
  | kept kept =>
      constructor
      · intro c isOpen
        rcases kept.server c with same | ⟨_, none⟩
        · rw [same] at isOpen
          exact Nat.lt_of_lt_of_le (served c isOpen) kept.chanNext
        · exact absurd none isOpen
      · intro c server isOpen
        rcases kept.server c with same | ⟨outside, _⟩
        · rw [same, isOpen]
        · have known := served c (by rw [isOpen]; exact nofun)
          exact absurd known (Nat.not_lt.mpr outside)
  | offered request h c asks result =>
      have known := asks_known asks
      rw [result]
      cases request with
      | tcp =>
          have made : ∀ d, ((n.offerTcp c h).chan d).server = if d = c
              then some ((n.chan c).server.getD ⟨n.bindPort c, h⟩) else (n.chan d).server := by
            intro d
            simp only [offerTcp, send, setChan, Heap.modify_apply]
            split <;> rfl
          constructor
          · intro d isOpen
            change ((n.offerTcp c h).chan d).server ≠ none at isOpen
            rw [made] at isOpen
            split at isOpen
            · next same => exact same ▸ known
            · exact served d isOpen
          · intro d server isOpen
            change ((n.offerTcp c h).chan d).server = some server
            rw [made]
            split
            · next same =>
              rw [← same, isOpen]
              rfl
            · exact isOpen
      | shm =>
          have same : ∀ d, ((n.offerShm c h).chan d).server = (n.chan d).server := by
            intro d
            simp only [offerShm, send, setChan, Heap.modify_apply]
            split
            · next same => rw [same]
            · rfl
          exact ⟨fun d isOpen => served d (same d ▸ isOpen), fun d _ isOpen => (same d).trans isOpen⟩
  | accepted c ip port conn _ _ result =>
      have same : ∀ d, (n'.chan d).server = (n.chan d).server ∧ n'.chan.next = n.chan.next := by
        intro d
        rw [result]
        unfold acceptSubscriptor
        split
        · exact ⟨rfl, rfl⟩
        · simp only [setChan, Heap.modify_apply, Heap.modify_next, and_true]
          split
          · next same => rw [same]
          · rfl
      constructor
      · intro d isOpen
        rw [(same d).2]
        exact served d ((same d).1 ▸ isOpen)
      · exact fun d _ isOpen => (same d).1.trans isOpen

end Node

/-! ## Networks -/

namespace Network

variable {ι : Type}

/-- The network delivers and connects, the application calls the public functions, and
data connections end. -/
def Real (net : Network ι) : Action ι → Prop
  | .call i (.dataEof k) => ∃ d, ((net.node i).dataSock k).thread = .receiving d
  | .call _ (.addHost _ _) | .call _ (.publish _) | .call _ (.unpublish _) => True
  | .call _ (.subscribe _) | .call _ .announce => True
  | .call _ _ => False
  | _ => True

instance (thread : Thread) : Decidable (∃ d, thread = .receiving d) :=
  match thread with
  | .receiving d => .isTrue ⟨d, rfl⟩
  | .idle | .connecting | .ended => .isFalse fun receiving => Thread.noConfusion receiving.choose_spec

instance (net : Network ι) : (action : Action ι) → Decidable (net.Real action)
  | .call i (.dataEof k) =>
      inferInstanceAs (Decidable (∃ d, ((net.node i).dataSock k).thread = .receiving d))
  | .call _ (.addHost _ _) | .call _ (.publish _) | .call _ (.unpublish _) => .isTrue trivial
  | .call _ (.subscribe _) | .call _ .announce => .isTrue trivial
  | .call _ (.connected _ _) | .call _ (.accepted _ _ _) | .call _ (.line _ _) => .isFalse id
  | .call _ (.eof _) | .call _ (.dataConnected _ _) => .isFalse id
  | .call _ (.dataAccepted _ _ _ _) => .isFalse id
  | .connect _ _ _ | .accept _ _ | .deliver _ _ | .eof _ _ | .lose _ => .isTrue trivial
  | .dataConnect _ _ _ _ | .dataAccept _ _ => .isTrue trivial

/-- The process that an action makes react, and what it reacts to. -/
def stimulus (topology : Topology ι) (net : Network ι) : Action ι → Option (ι × Node.Input)
  | .call i input => some (i, input)
  | .connect i k _ => some (i, .connected k net.link.next)
  | .accept c port =>
      let l := net.link c
      some (l.server, .accepted (topology.source l.client l.server) port c)
  | .deliver c e =>
      match (net.link c).socket e, (net.link c).queue e with
      | some (i, k), s :: _ => some (i, .line k s)
      | _, _ => none
  | .eof c e => ((net.link c).socket e).map fun owner => (owner.1, .eof owner.2)
  | .lose _ => none
  | .dataConnect i k _ _ => some (i, .dataConnected k net.dataLink.next)
  | .dataAccept d port =>
      let l := net.dataLink d
      some (l.server, .dataAccepted l.channel (topology.source l.client l.server) port d)

variable {topology : Topology ι} {net net' : Network ι} {action : Action ι} {i j : ι}

/-- A data socket is connected by an action of the network. -/
theorem Real.dataConnected {k : SockPtr} {d : ConnId} (real : net.Real action)
    (stimulated : net.stimulus topology action = some (i, .dataConnected k d)) :
    ∃ j c, action = .dataConnect i k j c := by
  cases action with
  | call i input =>
      cases stimulated
      cases real
  | deliver c e =>
      dsimp only [stimulus] at stimulated
      split at stimulated <;> cases stimulated
  | eof c e =>
      obtain ⟨owner, _, same⟩ := Option.map_eq_some_iff.mp stimulated
      cases same
  | dataConnect i k j c =>
      cases stimulated
      exact ⟨j, c, rfl⟩
  | _ => cases stimulated

theorem stimulus_dataEof {k : SockPtr}
    (stimulated : net.stimulus topology action = some (i, .dataEof k)) :
    action = .call i (.dataEof k) := by
  cases action with
  | call i input =>
      cases stimulated
      rfl
  | deliver c e =>
      dsimp only [stimulus] at stimulated
      split at stimulated <;> cases stimulated
  | eof c e =>
      obtain ⟨owner, _, same⟩ := Option.map_eq_some_iff.mp stimulated
      cases same
  | _ => cases stimulated

variable [DecidableEq ι]

/-- A step of a network in which the threads of the data sockets only do what they can. -/
def Live (topology : Topology ι) : Network ι → Action ι → Network ι → Prop :=
  Under Real (Step topology)

/-- `close()` runs on subscription `s` of process `i`, which is connected by TCP with
socket `k`: it is deleted, and not because a data connection has ended. -/
structure Closes (net : Network ι) (action : Action ι) (net' : Network ι) (i : ι) (s : SubPtr)
    (k : SockPtr) : Prop where
  connected : ∃ sub, (net.node i).sub s = some sub ∧ sub.bConnected = true ∧
    sub.transport = .tcp ∧ sub.socket = some k
  deleted : (net'.node i).sub s = none
  called : ∀ j, action ≠ .call i (.dataEof j)

omit [DecidableEq ι] in
/-- The subscriptors of channel `c` at `j` have an entry that is connected with socket `k`
of process `i`. -/
def Entered (net : Network ι) (j : ι) (c : ChanPtr) (i : ι) (k : SockPtr) : Prop :=
  ∃ s ∈ ((net.node j).chan c).subscriptors, ∃ sub q d, (net.node j).sub s = some sub ∧
    sub.socket = some q ∧ ((net.node j).dataSock q).thread = .receiving d ∧
      ((net.node i).dataSock k).thread = .receiving d

/-- All processes are in the state behind `init()`. -/
def Booted (net : Network ι) : Prop :=
  ∀ i, ∃ ID port bindPort, net.node i = Node.init ID port bindPort

/-- Only the process that an action stimulates changes. -/
theorem react_node (reacted : net.react topology action = .ok net') (j : ι) :
    net'.node j = net.node j ∨ ∃ input n', net.stimulus topology action = some (j, input) ∧
      Node.Step (net.node j) input n' ∧
      net'.node j = { n' with mesh := { n'.mesh with sent := [] } } := by
  have of_tell : ∀ (mid : Network ι) (i : ι) (input : Node.Input), mid.tell i input = .ok net' →
      mid.node = net.node → net.stimulus topology action = some (i, input) →
      net'.node j = net.node j ∨ ∃ input n', net.stimulus topology action = some (j, input) ∧
        Node.Step (net.node j) input n' ∧
        net'.node j = { n' with mesh := { n'.mesh with sent := [] } } := by
    intro mid i input told nodes stimulated
    obtain ⟨n', stepped, rfl⟩ := tell_eq_ok.mp told
    by_cases same : j = i
    · subst same
      rw [nodes] at stepped
      exact .inr ⟨input, n', stimulated, stepped, take_node_self mid j n'⟩
    · exact .inl (by rw [take_node_of_ne mid n' same, nodes])
  cases action with
  | call i input => exact of_tell net i input reacted rfl rfl
  | connect i k peer => exact of_tell _ i _ reacted rfl rfl
  | accept c port => exact of_tell _ _ _ reacted rfl rfl
  | deliver c e =>
      unfold react at reacted
      dsimp only at reacted
      split at reacted
      · next k s rest socket queue =>
        refine of_tell _ _ _ reacted rfl ?_
        simp only [stimulus, socket, queue]
      · exact .inl (by rw [← pure_eq_ok.mp reacted])
  | eof c e =>
      unfold react at reacted
      dsimp only at reacted
      split at reacted
      · next k socket =>
        refine of_tell net _ _ reacted rfl ?_
        simp only [stimulus, socket, Option.map_some]
      · exact .inl (by rw [← pure_eq_ok.mp reacted])
  | lose c => exact .inl (by rw [← pure_eq_ok.mp reacted]; rfl)
  | dataConnect i k peer channel => exact of_tell _ i _ reacted rfl rfl
  | dataAccept d port => exact of_tell _ _ _ reacted rfl rfl

/-! ## Runs of networks -/

/-- A client that has a connection could get it again. -/
structure Sound (topology : Topology ι) (net : Network ι) : Prop where
  grounded : ∀ i, (net.node i).Grounded
  served : ∀ i, (net.node i).ServersKnown
  anchored : ∀ i k d, ((net.node i).dataSock k).isClient = true →
    ((net.node i).dataSock k).thread = .receiving d →
      ∃ j c, topology.names i ((net.node i).dataSock k).ip j = true ∧
        ((net.node j).chan c).server.map DataServer.port = some ((net.node i).dataSock k).port

omit [DecidableEq ι] in
theorem Booted.sound (booted : net.Booted) : Sound topology net := by
  constructor
  · intro i
    obtain ⟨ID, port, bindPort, isInit⟩ := booted i
    rw [isInit]
    exact Node.grounded_init ID port bindPort
  · intro i c isOpen
    obtain ⟨ID, port, bindPort, isInit⟩ := booted i
    rw [isInit] at isOpen
    exact absurd rfl isOpen
  · intro i k d _ receiving
    obtain ⟨ID, port, bindPort, isInit⟩ := booted i
    rw [isInit] at receiving
    cases receiving

theorem Sound.server {c : ChanPtr} {server : DataServer} (sound : Sound topology net)
    (reacted : net.react topology action = .ok net')
    (isOpen : ((net.node j).chan c).server = some server) :
    ((net'.node j).chan c).server = some server := by
  rcases react_node reacted j with same | ⟨_, _, _, stepped, same⟩
  · rw [same, isOpen]
  · rw [same]
    exact (Node.step_serversKnown (sound.served j) stepped).2 c server isOpen

/-- Whichever descriptors are connected, they are connected to data servers. -/
theorem Sound.step (sound : Sound topology net) (real : net.Real action)
    (served : ∀ i k j c, action = .dataConnect i k j c →
      topology.names i ((net.node i).dataSock k).ip j = true ∧
        ((net.node j).chan c).server.map DataServer.port = some ((net.node i).dataSock k).port)
    (reacted : net.react topology action = .ok net') : Sound topology net' := by
  constructor
  · intro i
    rcases react_node reacted i with same | ⟨_, n', _, stepped, same⟩
    · rw [same]
      exact sound.grounded i
    · have grounded := Node.step_grounded (sound.grounded i) stepped
      rw [same]
      exact ⟨grounded.vacant, grounded.listed, grounded.owned, grounded.client,
        grounded.persistent⟩
  · intro i
    rcases react_node reacted i with same | ⟨_, n', _, stepped, same⟩
    · rw [same]
      exact sound.served i
    · rw [same]
      exact (Node.step_serversKnown (sound.served i) stepped).1
  · intro i k d isClient receiving
    -- a server that listened before listens still
    have listens : ∀ ip port, (∃ j c, topology.names i ip j = true ∧
        ((net.node j).chan c).server.map DataServer.port = some port) →
        ∃ j c, topology.names i ip j = true ∧
          ((net'.node j).chan c).server.map DataServer.port = some port := by
      rintro ip port ⟨j, c, named, listening⟩
      obtain ⟨server, isOpen, isPort⟩ := Option.map_eq_some_iff.mp listening
      refine ⟨j, c, named, ?_⟩
      rw [sound.server reacted isOpen]
      exact congrArg some isPort
    rcases react_node reacted i with same | ⟨input, n', stimulated, stepped, same⟩
    · rw [same] at isClient receiving ⊢
      exact listens _ _ (sound.anchored i k d isClient receiving)
    · rw [same] at isClient receiving ⊢
      obtain ⟨ip, port, before⟩ := (Node.socket_effect (sound.grounded i) stepped k).receiving
        isClient receiving
      rw [ip, port]
      refine listens _ _ ?_
      rcases before with ⟨wasClient, wasReceiving⟩ | rfl
      · exact sound.anchored i k d wasClient wasReceiving
      · obtain ⟨j, c, rfl⟩ := real.dataConnected stimulated
        exact ⟨j, c, served i k j c rfl⟩

/-! ## After `close()` -/

theorem Closes.socket {s : SubPtr} {k : SockPtr} (closes : Closes net action net' i s k)
    (sound : Sound topology net) (reacted : net.react topology action = .ok net') :
    ((net'.node i).dataSock k).Abandoned ∧
      ((net'.node i).dataSock k).thread = ((net.node i).dataSock k).thread ∧
      k < (net'.node i).dataSock.next := by
  obtain ⟨sub, found, isConnected, tcp, socket⟩ := closes.connected
  have deleted := closes.deleted
  rcases react_node reacted i with same | ⟨input, n', stimulated, stepped, same⟩
  · rw [same, found] at deleted
    cases deleted
  · have grounded := sound.grounded i
    rw [same] at deleted ⊢
    have outside : input.isProgress = false := by
      cases input with
      | dataConnected j conn =>
          -- a new connection deletes nothing
          obtain ⟨_, _, sub⟩ := Node.dataConnected_cases stepped
          rcases sub with same | ⟨t, opened⟩
          · rw [same, found] at deleted
            cases deleted
          · rw [opened, Heap.modify_apply] at deleted
            split at deleted
            · next same =>
              rw [← same, found] at deleted
              cases deleted
            · rw [found] at deleted
              cases deleted
      | dataEof j => exact absurd (stimulus_dataEof stimulated) (closes.called j)
      | _ => rfl
    have keeps := (Node.step_moves stepped outside).keepsSockets grounded
    have old := grounded.owned s sub k found socket
    refine ⟨?_, (keeps.eased old).thread, Nat.lt_of_lt_of_le old keeps.sockNext⟩
    rcases keeps.connected s sub found isConnected tcp with alive | ⟨_, k', socket', abandoned⟩
    · rw [alive] at deleted
      cases deleted
    · obtain rfl := Option.some.inj (socket.symm.trans socket')
      exact abandoned

/-- A stranded socket stays stranded unless it is connected. -/
theorem Sound.stranded {k : SockPtr} (sound : Sound topology net)
    (old : k < (net.node i).dataSock.next) (stranded : ((net.node i).dataSock k).Stranded)
    (real : net.Real action) (never : ∀ j c, action ≠ .dataConnect i k j c)
    (reacted : net.react topology action = .ok net') :
    k < (net'.node i).dataSock.next ∧ ((net'.node i).dataSock k).Stranded := by
  rcases react_node reacted i with same | ⟨input, n', stimulated, stepped, same⟩
  · rw [same]
    exact ⟨old, stranded⟩
  · rw [same]
    have grounded := sound.grounded i
    have sockNext : (net.node i).dataSock.next ≤ n'.dataSock.next :=
      Node.step_sockNext grounded stepped
    refine ⟨Nat.lt_of_lt_of_le old sockNext, ?_⟩
    refine (Node.socket_effect grounded stepped k).stranded old stranded ?_ ?_
    · rintro conn rfl
      obtain ⟨j, c, isConnect⟩ := real.dataConnected stimulated
      exact never j c isConnect
    · rintro rfl
      obtain rfl := stimulus_dataEof stimulated
      obtain ⟨d, receiving⟩ := real
      exact stranded.silent d receiving

end Network

/-! ## Descriptor numbers -/

/-- A network in which each data socket stores the number of its descriptor. `loose` says
under which numbers a process has a socket open that is not connected: one that dials,
what a failed `bind()` has left behind, or a socket of the application. The kernel
hands out the number of a closed descriptor again when it likes. -/
structure Numbered (ι : Type) where
  net : Network ι
  fd : ι → SockPtr → Nat
  loose : ι → Nat → Bool

namespace Numbered

variable {ι : Type}

/-- `::connect` looks at nothing but the number: it can succeed while the number is that of
an unconnected socket. The numbers of the signaling sockets are left open. -/
def Enabled (topology : Topology ι) (s : Numbered ι) : Action ι → Prop
  | .connect i k j =>
      ((s.net.node i).mesh.sock k).thread = .connecting ∧
        topology.names i ((s.net.node i).mesh.sock k).ip j = true ∧
        ((s.net.node i).mesh.sock k).port = (s.net.node j).mesh.signalingPort
  | .dataConnect i k j channel =>
      (((s.net.node i).dataSock k).thread = .connecting ∧ s.loose i (s.fd i k) = true) ∧
        topology.names i ((s.net.node i).dataSock k).ip j = true ∧
        ((s.net.node j).chan channel).server.map DataServer.port =
          some ((s.net.node i).dataSock k).port
  | action => Network.Enabled topology s.net action

variable [DecidableEq ι]

/-- A data socket gets its number when it is made, and a new one when its thread has left
the receive loop. -/
structure Live (topology : Topology ι) (s : Numbered ι) (action : Action ι) (s' : Numbered ι) :
    Prop where
  real : s.net.Real action
  enabled : s.Enabled topology action
  reacted : s.net.react topology action = .ok s'.net
  numbers : ∀ i k, k < (s.net.node i).dataSock.next → action ≠ .call i (.dataEof k) →
    s'.fd i k = s.fd i k

/-- Data socket `k` of process `i` dials on the number of a descriptor that it has closed,
and the number has been handed out again. -/
def Borrows (s : Numbered ι) (i : ι) (k : SockPtr) : Prop :=
  ((s.net.node i).dataSock k).thread = .connecting ∧ ((s.net.node i).dataSock k).fdOpen = false ∧
    s.loose i (s.fd i k) = true

/-- In the later runs through allowed states, socket `k` of process `i` never gets a
connection, and when the publisher has noticed the end of the one that it had, it never
has an entry again. -/
structure StaysClosed (topology : Topology ι) (allowed : Numbered ι → Prop) (s : Numbered ι)
    (i : ι) (k : SockPtr) : Prop where
  never : ∀ later, Every (Under (fun s _ => allowed s) (Live topology)) s later →
    Every (fun _ action _ => ∀ j c, action ≠ .dataConnect i k j c) s later
  gone : ∀ d, ((s.net.node i).dataSock k).thread = .receiving d → ∀ before j q noticed after,
    Every (Under (fun s _ => allowed s) (Live topology)) s
      (before ++ (.call j (.dataEof q), noticed) :: after) →
    (((final s before).net.node j).dataSock q).thread = .receiving d →
    (((final s before).net.node j).dataSock q).isClient = false →
    ∀ c, ¬ Network.Entered (final noticed after).net j c i k

variable {topology : Topology ι} {s s' : Numbered ι} {action : Action ι} {i : ι}

theorem Live.sound (live : Live topology s action s') (sound : s.net.Sound topology) :
    s'.net.Sound topology := by
  refine sound.step live.real ?_ live.reacted
  rintro i k j c rfl
  exact live.enabled.2

/-- The thread of an abandoned socket leaves the receive loop and connects again, on a
descriptor of its own. -/
theorem reconnects {k : SockPtr} {d : ConnId} (sound : s.net.Sound topology)
    (abandoned : ((s.net.node i).dataSock k).Abandoned)
    (receiving : ((s.net.node i).dataSock k).thread = .receiving d) :
    ∃ j c middle last, Every (Under (fun s _ => ¬ s.Borrows i k) (Live topology)) s
      [(.call i (.dataEof k), middle), (.dataConnect i k j c, last)] := by
  obtain ⟨j, c, named, listening⟩ := sound.anchored i k d abandoned.isClient receiving
  let n := ((s.net.node i).setDataSock k (·.closeFd)).setDataSock k (·.reconnectOrEnd)
  have dialling : n.dataSock k =
      { ((s.net.node i).dataSock k).closeFd with fdOpen := true, thread := .connecting } := by
    simp only [n, Node.setDataSock, Heap.modify_self]
    rw [TCPSocket.reconnectOrEnd, if_pos]
    simp only [TCPSocket.closeFd, (sound.grounded i).persistent k, abandoned.isClient, Bool.and_self]
  have ended : (s.net.node i).react (.dataEof k) = .ok n := Node.dataEof_unheard abandoned.listeners
  let net := s.net.take i n
  let middle : Numbered ι := { s with net := net, loose := fun _ _ => true }
  have here : (net.node i).dataSock k = n.dataSock k := by
    simp only [net, Network.take_node_self]
  have there : ((net.node j).chan c).server = ((s.net.node j).chan c).server := by
    by_cases same : j = i
    · subst same
      simp only [net, Network.take_node_self]
      rfl
    · simp only [net, Network.take_node_of_ne _ _ same]
  have unheard : ((net.node i).dataSock k).listeners = none := by
    rw [here, dialling]
    exact abandoned.listeners
  have connected := Node.dataConnected_unheard net.dataLink.next unheard
  have ownBefore : ¬ s.Borrows i k := fun borrows => by
    rw [borrows.1] at receiving
    cases receiving
  have ownAfter : ¬ middle.Borrows i k := fun borrows => by
    have closed : ((net.node i).dataSock k).fdOpen = false := borrows.2.1
    rw [here, dialling] at closed
    cases closed
  refine ⟨j, c, middle, { middle with net := _ },
    ⟨ownBefore, ⟨d, receiving⟩, trivial, Network.tell_eq_ok.mpr ⟨n, ended, rfl⟩, fun _ _ _ _ => rfl⟩,
    ⟨ownAfter, trivial, ⟨⟨?_, rfl⟩, ?_, ?_⟩, Network.tell_eq_ok.mpr ⟨_, connected, rfl⟩,
      fun _ _ _ _ => rfl⟩, every_nil⟩
  · change ((net.node i).dataSock k).thread = .connecting
    rw [here, dialling]
  · change topology.names i ((net.node i).dataSock k).ip j = true
    rw [here, dialling]
    exact named
  · change ((net.node j).chan c).server.map DataServer.port = some ((net.node i).dataSock k).port
    rw [here, there, dialling]
    exact listening

/-- No action gets a stranded socket a connection that does not borrow a number. -/
theorem stranded {k : SockPtr} {later : List (Action ι × Numbered ι)}
    (sound : s.net.Sound topology) (old : k < (s.net.node i).dataSock.next)
    (stranded : ((s.net.node i).dataSock k).Stranded)
    (ran : Every (Under (fun s _ => ¬ s.Borrows i k) (Live topology)) s later) :
    Every (fun _ action _ => ∀ j c, action ≠ .dataConnect i k j c) s later := by
  let good : Numbered ι → Prop := fun s => s.net.Sound topology ∧
    k < (s.net.node i).dataSock.next ∧ ((s.net.node i).dataSock k).Stranded
  have start : good s := ⟨sound, old, stranded⟩
  have refused : ∀ s action s', good s → Under (fun s _ => ¬ s.Borrows i k) (Live topology) s action s' →
      ∀ j c, action ≠ .dataConnect i k j c := by
    rintro s action s' ⟨_, _, stranded⟩ ⟨own, live⟩ j c rfl
    obtain ⟨⟨connecting, loose⟩, _⟩ := live.enabled
    refine own ⟨connecting, ?_, loose⟩
    exact Bool.eq_false_iff.mpr fun isOpen => stranded.closed ⟨connecting, isOpen⟩
  refine ran.every_of_steps start ?_ refused
  rintro s action s' good stepped
  have never := refused s action s' good stepped
  obtain ⟨sound, old, stranded⟩ := good
  obtain ⟨own, live⟩ := stepped
  exact ⟨live.sound sound, sound.stranded old stranded live.real never live.reacted⟩

/-- A borrowed number is all that it takes: the thread that goes on dialling is connected
while a server listens where it dials. -/
theorem borrows_connects {k : SockPtr} {j : ι} {c : ChanPtr} (borrows : s.Borrows i k)
    (unheard : ((s.net.node i).dataSock k).listeners = none)
    (named : topology.names i ((s.net.node i).dataSock k).ip j = true)
    (listening : ((s.net.node j).chan c).server.map DataServer.port =
      some ((s.net.node i).dataSock k).port) :
    ∃ s', Live topology s (.dataConnect i k j c) s' := by
  have connected := Node.dataConnected_unheard s.net.dataLink.next unheard
  exact ⟨{ s with net := _ }, trivial, ⟨⟨borrows.1, borrows.2.2⟩, named, listening⟩,
    Network.tell_eq_ok.mpr ⟨_, connected, rfl⟩, fun _ _ _ _ => rfl⟩

/-- Every socket has a number of its own, which no other descriptor ever gets. -/
def own (net : Network ι) : Numbered ι :=
  ⟨net, fun _ k => k, fun i f => decide ((net.node i).dataSock f).Dialling⟩

omit [DecidableEq ι] in
theorem own_not_borrows (net : Network ι) (i : ι) (k : SockPtr) : ¬ (own net).Borrows i k := by
  rintro ⟨_, closed, loose⟩
  have isOpen : ((net.node i).dataSock k).fdOpen = true := (of_decide_eq_true loose).2
  exact Bool.noConfusion (closed.symm.trans isOpen)

theorem live_own {net net' : Network ι} (live : Network.Live topology net action net') :
    Live topology (own net) action (own net') := by
  obtain ⟨real, enabled, reacted⟩ := live
  refine ⟨real, ?_, reacted, fun _ _ _ _ => rfl⟩
  cases action with
  | connect i k j => exact ⟨enabled.1.1, enabled.2⟩
  | dataConnect i k j c => exact ⟨⟨enabled.1.1, decide_eq_true enabled.1⟩, enabled.2⟩
  | _ => exact enabled

theorem every_own {net : Network ι} {trace : List (Action ι × Network ι)}
    (ran : Every (Network.Live topology) net trace) :
    Every (Live topology) (own net) (trace.map fun entry => (entry.1, own entry.2)) := by
  induction trace generalizing net with
  | nil => exact every_nil
  | cons entry trace ih => exact ⟨live_own ran.1, ih ran.2⟩

omit [DecidableEq ι] in
theorem final_own (net : Network ι) (trace : List (Action ι × Network ι)) :
    final (own net) (trace.map fun entry => (entry.1, own entry.2)) = own (final net trace) := by
  induction trace generalizing net with
  | nil => rfl
  | cons entry trace ih => exact ih entry.2

theorem reaches_own {start net : Network ι} (reached : Reaches (Network.Live topology) start net) :
    Reaches (Live topology) (own start) (own net) := by
  obtain ⟨trace, ran, rfl⟩ := reached
  exact ⟨_, every_own ran, final_own start trace⟩

/-! ## Two machines -/

/-- Machine `i` subscribes, gets to know machine `j`, and learns that `j` publishes. -/
private def introduction {ι : Type} (i j : ι) : List (Action ι) :=
  [.call i (.subscribe ['c']), .call i (.addHost "10.0.0.2".toList 10000), .connect i 0 j,
    .accept 0 4000, .deliver 0 .server, .deliver 0 .server, .deliver 0 .client, .deliver 0 .client,
    .deliver 0 .client, .deliver 0 .server, .call j (.publish ['c']), .deliver 0 .client,
    .deliver 0 .client, .deliver 0 .client]

private def lively (net : Network (Fin 2)) (action : Action (Fin 2)) : Bool :=
  decide (net.Real action ∧ Network.Enabled (Crowd.subnet 2).scattered net action)

private theorem booted_subnet : (own ((Crowd.subnet 2).begin 0)).net.Booted :=
  fun _ => ⟨_, _, _, rfl⟩

private theorem live_of_lively {start : Network (Fin 2)}
    {trace : List (Action (Fin 2) × Network (Fin 2))}
    (ran : Every (Under (fun net action => lively net action = true) fun net action net' =>
      net.react (Crowd.subnet 2).scattered action = .ok net') start trace) :
    Every (Network.Live (Crowd.subnet 2).scattered) start trace := by
  refine ran.mono fun net action net' stepped => ?_
  obtain ⟨real, enabled⟩ := of_decide_eq_true stepped.1
  exact ⟨real, enabled, stepped.2⟩

end Numbered

end LibPubSub
