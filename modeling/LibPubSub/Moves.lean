import LibPubSub.Disconnection
import Mathlib.Logic.Relation

/-! The reactions of a node as sequences of moves. A move is the smallest change that a
function of the program makes to the channels, the subscriptions or the data sockets;
the progress of a data socket's own thread is not one. -/

set_option autoImplicit false

namespace LibPubSub

open Fallible Transition

namespace Node

/-- The progress of the thread of a data socket. -/
def Input.isProgress : Input → Bool
  | .dataConnected _ _ | .dataEof _ => true
  | _ => false

inductive Move (n : Node) : Node → Prop where
  | mesh (m : Mesh) : Move n { n with mesh := m }
  | record (call : Call) : Move n (n.record call)
  /-- `get_or_create_channel`. -/
  | created {n' : Node} {name : Str} {c : ChanPtr} (created : Created n n' name c) : Move n n'
  /-- A channel's data, but for the subscriptions and the subscriptors. -/
  | channel (c : ChanPtr) (change : ChannelImpl → ChannelImpl)
      (subscriptions : ∀ channel, (change channel).subscriptions = channel.subscriptions)
      (subscriptors : ∀ channel, (change channel).subscriptors = channel.subscriptors) :
      Move n (n.setChan c change)
  | subscribed (c : ChanPtr) : Move n (n.addSubscription c)
  /-- `connect_tcp` behind its guard. -/
  | dialled {s : SubPtr} {sub : SubscriptionImpl} (found : n.sub s = some sub)
      (unconnected : sub.bConnected = false) (c : ChanPtr) (publisher : HostPtr) :
      Move n (n.dial s c publisher)
  /-- `connect_shm` behind its guard. -/
  | mapped {s : SubPtr} {sub : SubscriptionImpl} (found : n.sub s = some sub)
      (unconnected : sub.bConnected = false) (c : ChanPtr) : Move n (n.mapShm s c)
  /-- A round of `disconnect`. -/
  | closed {n' : Node} {c : ChanPtr} {s : SubPtr} (listed : s ∈ (n.chan c).subscriptions)
      (ran : n.subClose s = .ok n') : Move n n'
  | accepted (c : ChanPtr) (ip : Str) (port : Int32) (conn : ConnId) :
      Move n (n.acceptSubscriptor c ip port conn)

def Moves : Node → Node → Prop :=
  Relation.ReflTransGen Move

namespace Moves

variable {n mid n' : Node}

theorem refl (n : Node) : Moves n n :=
  Relation.ReflTransGen.refl

theorem trans (first : Moves n mid) (second : Moves mid n') : Moves n n' :=
  Relation.ReflTransGen.trans first second

theorem of_move (move : Move n n') : Moves n n' :=
  Relation.ReflTransGen.single move

theorem mesh (n : Node) (m : Mesh) : Moves n { n with mesh := m } :=
  of_move (.mesh m)

theorem record (n : Node) (call : Call) : Moves n (n.record call) :=
  of_move (.record call)

/-- A relation that all moves respect holds between the ends. -/
theorem relation {R : Node → Node → Prop} (moves : Moves n n') (reflexive : R n n)
    (next : ∀ mid last, R n mid → Move mid last → R n last) : R n n' := by
  induction moves with
  | refl => exact reflexive
  | tail _ move ih => exact next _ _ ih move

end Moves

variable {n n' : Node} {c : ChanPtr} {s : SubPtr}

/-- Moves, none of which makes a socket of an accepted connection. -/
structure Plain (n n' : Node) : Prop where
  moves : Moves n n'
  servers : ∀ k, (n'.dataSock k).isClient = false → (n.dataSock k).isClient = false

namespace Plain

theorem refl (n : Node) : Plain n n :=
  ⟨.refl n, fun _ => id⟩

theorem trans {mid : Node} (first : Plain n mid) (second : Plain mid n') : Plain n n' :=
  ⟨first.moves.trans second.moves, fun k isServer => first.servers k (second.servers k isServer)⟩

theorem of_move (move : Move n n')
    (servers : ∀ k, (n'.dataSock k).isClient = false → (n.dataSock k).isClient = false) :
    Plain n n' :=
  ⟨.of_move move, servers⟩

theorem mesh (n : Node) (m : Mesh) : Plain n { n with mesh := m } :=
  of_move (.mesh m) fun _ => id

theorem record (n : Node) (call : Call) : Plain n (n.record call) :=
  of_move (.record call) fun _ => id

theorem created {name : Str} (created : Created n n' name c) : Plain n n' :=
  of_move (.created created) fun _ => by rw [created.dataSock]; exact id

theorem channel (n : Node) (c : ChanPtr) (change : ChannelImpl → ChannelImpl)
    (subscriptions : ∀ channel, (change channel).subscriptions = channel.subscriptions)
    (subscriptors : ∀ channel, (change channel).subscriptors = channel.subscriptors) :
    Plain n (n.setChan c change) :=
  of_move (.channel c change subscriptions subscriptors) fun _ => id

theorem dialled {sub : SubscriptionImpl} (found : n.sub s = some sub)
    (unconnected : sub.bConnected = false) (c : ChanPtr) (publisher : HostPtr) :
    Plain n (n.dial s c publisher) := by
  refine of_move (.dialled found unconnected c publisher) fun k isServer => ?_
  simp only [dial, Node.record, setSub, Heap.alloc_apply] at isServer
  split at isServer
  · cases isServer
  · exact isServer

theorem closed (listed : s ∈ (n.chan c).subscriptions) (ran : n.subClose s = .ok n') :
    Plain n n' := by
  refine of_move (.closed listed ran) fun k isServer => ?_
  obtain ⟨sub, j, _, _, rfl⟩ := subClose_shut ran
  simp only [deleteSub, setChan, setDataSock, Heap.modify_apply] at isServer
  split at isServer
  · next same =>
    rw [same]
    cases transport : sub.transport <;> rw [transport] at isServer <;> exact isServer
  · exact isServer

end Plain

/-! ## The functions -/

theorem loop_plain {subs : List SubPtr} {round : Node → SubPtr → Result Node}
    (each : ∀ mid s next, round mid s = .ok next → Plain mid next)
    (ran : subs.foldlM round n = .ok n') : Plain n n' :=
  foldlM_invariant ran (.refl n) fun mid s next _ done stepped =>
    done.trans (each mid s next stepped)

theorem subConnectTcp_plain (ran : n.subConnectTcp s = .ok n') : Plain n n' := by
  obtain ⟨sub, found, ⟨_, rfl⟩ | ⟨unconnected, publisher, _, rfl⟩⟩ := subConnectTcp_cases ran
  · exact .refl n'
  · exact .dialled found unconnected sub.channel publisher

theorem subConnectShm_plain (ran : n.subConnectShm s = .ok n') : Plain n n' := by
  obtain ⟨sub, found, ⟨_, rfl⟩ | ⟨unconnected, rfl⟩⟩ := subConnectShm_cases ran
  · exact .refl n'
  · exact .of_move (.mapped found unconnected sub.channel) fun _ => id

theorem connectTcp_plain (ran : n.connectTcp c = .ok n') : Plain n n' := by
  refine (Plain.record n (.connectTcp c (n.chan c).publisher)).trans ?_
  rcases connectTcp_cases ran with ⟨_, p, _, rfl⟩ | ⟨_, dialled⟩
  · exact .mesh _ _
  · exact loop_plain (fun _ _ _ => subConnectTcp_plain) dialled

theorem connectShm_plain (ran : n.connectShm c = .ok n') : Plain n n' := by
  refine (Plain.record n (.connectShm c (n.chan c).publisher)).trans ?_
  rcases connectShm_cases ran with ⟨_, p, _, rfl⟩ | ⟨_, mapped⟩
  · exact .mesh _ _
  · exact loop_plain (fun _ _ _ => subConnectShm_plain) mapped

theorem connect_plain (ran : n.connect c = .ok n') : Plain n n' := by
  rcases connect_cases ran with ⟨rfl, _⟩ | ⟨p, _, _, _, ⟨_, ran⟩ | ⟨_, ran⟩⟩
  · exact .refl n'
  · exact connectShm_plain ran
  · exact connectTcp_plain ran

theorem disconnectFrom_plain {left it : Nat} (ran : disconnectFrom c left it n = .ok n') :
    Plain n n' := by
  induction left generalizing it n with
  | zero => exact pure_eq_ok.mp ran ▸ .refl n
  | succ left ih =>
      unfold disconnectFrom at ran
      split at ran
      · cases ran
      · next s found =>
        obtain ⟨mid, closed, rest⟩ := bind_eq_ok.mp ran
        have first : Plain n mid := .closed (List.mem_of_getElem? found) closed
        exact first.trans (ih rest)

theorem replacePublisher_plain (n : Node) (c : ChanPtr) (p : Option HostPtr) :
    Plain n (n.replacePublisher c p) := by
  refine Plain.trans ?_ (.record _ (.publisherSet c (n.chan c).publisher p))
  exact .channel n c (fun channel => { channel with publisher := p, offeredPort := 0 })
    (fun _ => rfl) fun _ => rfl

theorem setPublisher_plain {p : Option HostPtr} (ran : n.setPublisher c p = .ok n') :
    Plain n n' := by
  obtain ⟨mid, closed, connected⟩ := setPublisher_cases ran
  have first : Plain n mid := by
    rcases disconnectOther_cases closed with ⟨_, disconnected⟩ | ⟨_, rfl⟩
    · exact disconnectFrom_plain disconnected
    · exact .refl mid
  refine (first.trans (replacePublisher_plain mid c p)).trans ?_
  unfold connectWanted at connected
  split at connected
  · exact connect_plain connected
  · exact pure_eq_ok.mp connected ▸ .refl _

theorem offerTcp_plain (n : Node) (c : ChanPtr) (h : HostPtr) : Plain n (n.offerTcp c h) := by
  refine Plain.trans ?_ (.mesh _ _)
  exact .channel n c (fun channel =>
    { channel with server := some ((n.chan c).server.getD ⟨n.bindPort c, h⟩) })
    (fun _ => rfl) fun _ => rfl

theorem offerShm_plain (n : Node) (c : ChanPtr) (h : HostPtr) : Plain n (n.offerShm c h) := by
  refine Plain.trans ?_ (.mesh _ _)
  exact .channel n c (fun channel => { channel with offeredShmPath := channel.name })
    (fun _ => rfl) fun _ => rfl

/-! ## The reactions -/

theorem digest_plain {h : HostPtr} {text : Str} (ran : n.digestMessage h text = .ok n') :
    Plain n n' := by
  cases digest_effect ran with
  | publish _ ran =>
      obtain ⟨_, _, mid, c, _, created, ⟨_, set⟩ | ⟨_, rfl | ⟨_, _, set⟩⟩⟩ :=
        applyPublishStatement_cases ran
      · exact (Plain.created created).trans (setPublisher_plain set)
      · exact .created created
      · exact (Plain.created created).trans (setPublisher_plain set)
  | unpublish _ ran =>
      obtain ⟨_, _, ⟨_, rfl⟩ | ⟨c, _, set⟩⟩ := applyUnpublishStatement_cases ran
      · exact .refl n'
      · exact setPublisher_plain set
  | connectTcp _ result =>
      rw [result]
      unfold makeOfferTcp
      split
      · exact offerTcp_plain n _ h
      · exact .refl n
  | connectShm _ result =>
      rw [result]
      unfold makeOfferShm
      split
      · exact offerShm_plain n _ h
      · exact .refl n
  | offerTcp _ ran =>
      unfold answerOfferTcp at ran
      dsimp only at ran
      split at ran
      · refine .trans ?_ (connectTcp_plain ran)
        refine (Plain.record n _).trans (.channel _ _ _ ?_ ?_)
        · exact fun _ => rfl
        · exact fun _ => rfl
      · exact pure_eq_ok.mp ran ▸ .refl n
  | offerShm _ ran =>
      unfold answerOfferShm at ran
      dsimp only at ran
      split at ran
      · refine .trans ?_ (connectShm_plain ran)
        refine (Plain.record n _).trans (.channel _ _ _ ?_ ?_)
        · exact fun _ => rfl
        · exact fun _ => rfl
      · exact pure_eq_ok.mp ran ▸ .refl n
  | unknown same => exact same ▸ .refl n

theorem broadcastPublishedChannels_plain (n : Node) : Plain n n.broadcastPublishedChannels := by
  obtain ⟨m, _, same⟩ := n.broadcastPublishedChannels_mesh
  exact same ▸ .mesh n m

theorem line_plain {k : SockPtr} {text : Str} (ran : n.line k text = .ok n') : Plain n n' := by
  cases line_effect ran with
  | ignored same => exact same ▸ .refl n
  | incoming _ result => exact result ▸ .mesh n _
  | id _ _ result => exact result ▸ .mesh n _
  | you _ _ _ result => exact result ▸ .mesh n _
  | host _ _ _ _ result => exact result ▸ .mesh n _
  | connected h _ mid published result =>
      rw [result, published]
      exact ((Plain.mesh n _).trans (broadcastPublishedChannels_plain _)).trans (.mesh _ _)
  | statement h _ _ digested => exact digest_plain digested

theorem eof_plain {k : SockPtr} (ran : n.eof k = .ok n') : Plain n n' := by
  obtain ⟨closed, left, rest⟩ := bind_eq_ok.mp ran
  obtain rfl := pure_eq_ok.mp rest
  refine Plain.trans ?_ (.mesh closed _)
  rcases signalingClosed_cases left with ⟨rfl, _⟩ | ⟨h, current, _, _, all⟩
  · exact .mesh n _
  · refine foldlM_invariant all (Plain.mesh n _) ?_
    intro mid c next _ done round
    split at round
    · exact done.trans (setPublisher_plain round)
    · exact pure_eq_ok.mp round ▸ done

theorem connected_plain (n : Node) (k : SockPtr) (conn : ConnId) :
    Plain n (n.connected k conn) := by
  unfold connected
  dsimp only
  split <;> exact .mesh n _

/-- What a node does but for the progress of its data sockets' threads and the connections
that its data servers accept. -/
theorem step_plain {input : Input} (stepped : Step n input n') (outside : input.isProgress = false)
    (notAccepted : ∀ c ip port conn, input ≠ .dataAccepted c ip port conn) : Plain n n' := by
  cases input with
  | addHost ip port => exact pure_eq_ok.mp stepped ▸ .mesh n _
  | publish name =>
      obtain ⟨mid, c, _, created, ⟨_, rfl⟩ | ⟨_, set, done, rfl⟩⟩ := publish_cases stepped
      · exact .created created
      · have published := (Plain.created created).trans (setPublisher_plain done)
        exact published.trans (.mesh set _)
  | unpublish name =>
      replace stepped : n.unpublish name = .ok n' := stepped
      unfold unpublish at stepped
      split at stepped
      · obtain ⟨mid, set, rest⟩ := bind_eq_ok.mp stepped
        exact pure_eq_ok.mp rest ▸ (setPublisher_plain set).trans (.mesh mid _)
      · exact pure_eq_ok.mp stepped ▸ .refl n
  | subscribe name =>
      obtain ⟨mid, c, _, created, connected⟩ := subscribe_cases stepped
      have added : Plain n (mid.addSubscription c) :=
        (Plain.created created).trans (.of_move (.subscribed c) fun _ => id)
      exact added.trans (connect_plain connected)
  | announce => exact pure_eq_ok.mp stepped ▸ broadcastPublishedChannels_plain n
  | connected k conn => exact pure_eq_ok.mp stepped ▸ connected_plain n k conn
  | accepted ip port conn => exact pure_eq_ok.mp stepped ▸ .mesh n _
  | line k text => exact line_plain stepped
  | eof k => exact eof_plain stepped
  | dataConnected k conn => cases outside
  | dataAccepted c ip port conn => exact absurd rfl (notAccepted c ip port conn)
  | dataEof k => cases outside

/-- What a node does between the progress of its data sockets' threads. -/
theorem step_moves {input : Input} (stepped : Step n input n') (outside : input.isProgress = false) :
    Moves n n' := by
  cases input with
  | dataAccepted c ip port conn =>
      exact pure_eq_ok.mp stepped ▸ .of_move (.accepted c ip port conn)
  | dataConnected k conn => cases outside
  | dataEof k => cases outside
  | _ => exact (step_plain stepped outside fun _ _ _ _ => Input.noConfusion).moves

end Node

end LibPubSub
