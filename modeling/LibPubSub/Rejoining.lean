import LibPubSub.Meeting
import LibPubSub.Publications

/-! Two processes whose connections are lost and made again: they are ready for each other on
every connection that both have come to, as long as neither moves a Host to a new connection
before it has noticed the end of the old one. -/

set_option autoImplicit false

namespace LibPubSub

open Transition

variable {ι : Type}

/-- An `ID=` line moves a Host that is ready to the connection on which it is received. -/
def Network.MovesReady (net : Network ι) : Action ι → Prop
  | .deliver c e => ∃ owner ∈ (net.link c).socket e, ∃ s ∈ ((net.link c).queue e).head?,
      ∃ h ∈ (net.node owner.1).mesh.moved (.line owner.2 s),
        ((net.node owner.1).mesh.host h).bReady = true
  | _ => False

instance (net : Network ι) : (action : Action ι) → Decidable (net.MovesReady action)
  | .deliver c e => inferInstanceAs (Decidable (∃ owner ∈ (net.link c).socket e,
      ∃ s ∈ ((net.link c).queue e).head?, ∃ h ∈ (net.node owner.1).mesh.moved (.line owner.2 s), _))
  | .call _ _ | .connect _ _ _ | .accept _ _ | .eof _ _ | .lose _ => .isFalse id
  | .dataConnect _ _ _ _ | .dataAccept _ _ => .isFalse id

theorem TCPSocket.listeners_of_incoming {s : TCPSocket SignalingListener} {c : ConnId}
    (incoming : s.statusOn c = .incoming) : s.listeners = some .incoming := by
  unfold statusOn at incoming
  split at incoming
  · split at incoming
    · cases incoming
    · next listener => exact listener
    · cases incoming
  · cases incoming

namespace Crowd

/-- The entry of `x` for `y` holds end `e` of connection `c`, which is open. -/
def HoldsOn (crowd : Crowd ι) (net : Network ι) (x y : ι) (c : ConnId) (e : End) : Prop :=
  ∃ h ∈ (net.node x).mesh.peers, ∃ k ∈ ((net.node x).mesh.host h).socket,
    ((net.node x).mesh.host h).ip = crowd.ip y ∧ ((net.node x).mesh.host h).port = crowd.port y ∧
      (net.link c).socket e = some (x, k) ∧ ((net.node x).mesh.sock k).Holds c

/-- Connection `c` is open at both ends, is the socket of both Host entries and has no
message under way. -/
structure Rejoined (crowd : Crowd ι) (net : Network ι) (x y : ι) (c : ConnId) (e : End) : Prop where
  known : c < net.link.next
  here : crowd.HoldsOn net x y c e
  there : crowd.HoldsOn net y x c e.other
  kept : (net.link c).lost = false
  idle : ∀ e, (net.link c).queue e = []

end Crowd

theorem Crowd.Rejoined.symm {crowd : Crowd ι} {net : Network ι} {x y : ι} {c : ConnId} {e : End}
    (rejoined : crowd.Rejoined net x y c e) : crowd.Rejoined net y x c e.other :=
  ⟨rejoined.known, rejoined.there, e.other_other.symm ▸ rejoined.here, rejoined.kept, rejoined.idle⟩

section

variable [DecidableEq ι] {crowd : Crowd ι} {topology : Topology ι} {start net net' : Network ι}
  {action : Action ι} {a : Gossip.State ι} {x y : ι} {c : ConnId} {e : End}

/-! ## Runs in which no ready Host is moved -/

omit [DecidableEq ι] in
/-- Who does not move a Host that is ready leaves its handshake in order. -/
theorem Represents.careful (represents : Represents crowd True net a) (sane : Gossip.Sane a)
    (named : crowd.Named) (unmoved : ¬ net.MovesReady action) :
    Gossip.Careful crowd.yields a action := by
  rintro c knownA rfl incoming allowed
  have known : c < net.link.next := represents.next ▸ knownA
  have carried := represents.link c known
  cases ready : a.ready (a.wire c).server (a.wire c).client with
  | false => rfl
  | true =>
      exfalso
      -- the connection waits for `ID=` at a socket of the server
      obtain ⟨_, talks, opening⟩ := (sane.wire c knownA).opening (.inr incoming)
      obtain ⟨i, k, socket, status⟩ := represents.somebody (e := .server) known (by
        rw [incoming]
        exact nofun)
      obtain rfl : (a.wire c).server = i := carried.owner socket
      rw [incoming] at status
      have reads := TCPSocket.reads_of_open (.inl status)
      have listener := TCPSocket.listeners_of_incoming status
      have queue := carried.queue .server
      rw [opening] at queue
      obtain ⟨t, rest, lines, means⟩ : ∃ t rest, (net.link c).queue .server = t :: rest ∧
          Means crowd True (a.wire c).client (a.wire c).server t .id := by
        generalize (net.link c).queue .server = lines at queue
        cases queue with
        | cons means _ => exact ⟨_, _, rfl, means⟩
      cases means with
      | id =>
          -- the Host of the client is in the table, and is moved
          have tidy := represents.mesh (a.wire c).server
          have other : (a.wire c).client ≠ (a.wire c).server := (sane.wire c knownA).apart
          cases met : a.entry (a.wire c).server (a.wire c).client with
          | none =>
              unfold Gossip.State.ready at ready
              rw [met] at ready
              cases ready
          | some entry =>
              obtain ⟨h, isHost⟩ := tidy.met _ entry met
              have peer := carried.peer _ (by unfold Network.sockAt; rw [socket]; rfl) reads listener
              have wins : (net.node (a.wire c).server).mesh.ID < crowd.ID (a.wire c).client ||
                  ((net.node (a.wire c).server).mesh.host h).bServer := by
                rw [tidy.ID, isHost.server, Bool.or_eq_true, decide_eq_true_iff]
                exact (allowed entry met).imp of_decide_eq_true id
              refine unmoved ⟨_, socket, _, by rw [lines]; rfl, h, ?_, ?_⟩
              · unfold Mesh.moved
                dsimp only
                rw [if_pos ⟨listener, Mesh.idLine_starts⟩, Mesh.decodeId_idLine, peer,
                  tidy.getHost_known named other isHost.toKnows]
                dsimp only
                rw [if_pos wins]
                rfl
              · rw [Gossip.State.ready_of_entry met] at ready
                exact isHost.ready.trans ready

/-- Two processes whose handshakes are in order are ready on a connection that both have come
to. -/
theorem Represents.ready_of_rejoined (represents : Represents crowd True net a)
    (shaking : Gossip.Shaking a) (apart : x ≠ y)
    (rejoined : crowd.Rejoined net x y c e) : a.ready x y = true := by
  have known := rejoined.known
  have carried := represents.link c known
  -- whoever holds an end is in its receive loop and hears it
  have current {u v : ι} {side : End} (holds : crowd.HoldsOn net u v c side) :
      (a.wire c).owner side = u ∧ (a.wire c).line.status side = .current := by
    obtain ⟨h, _, k, owns, _, _, socket, reads, _⟩ := holds
    obtain ⟨_, _, _, _, _, _, isCurrent⟩ := (represents.mesh u).host_of_socket owns
    refine ⟨carried.owner socket, ?_⟩
    rw [← carried.status side, Carried.statusAt_of_socket socket]
    exact TCPSocket.statusOn_current reads isCurrent.listener
  obtain ⟨mine, here⟩ := current rejoined.here
  obtain ⟨theirs, there⟩ := current rejoined.there
  have both (side : End) : (a.wire c).line.status side = .current := by
    rcases e.eq_or_eq_other side with rfl | rfl
    · exact here
    · exact there
  have idle (side : End) : (a.wire c).line.queue side = [] := by
    have queue := carried.queue side
    rw [rejoined.idle side] at queue
    exact List.forall₂_nil_left_iff.mp queue
  have kept : (a.wire c).line.lost = false := carried.lost.symm.trans rejoined.kept
  obtain ⟨b, joins⟩ := Gossip.Wire.joins_of_owner (x := x) (y := y) (b := false) mine theirs
  have view : (a.seen x y).wire c = { (a.wire c).line with client := b } :=
    Gossip.Wire.seen_of_joins apart joins
  have handshake := (shaking.sound x y apart).wire c (represents.next ▸ known)
  rw [view] at handshake
  rcases handshake.orderly (both .client) (both .server) kept with unanswered | flow
  · have greeting := unanswered.toClient
    rw [show _ = [] from idle .client] at greeting
    cases greeting
  · have mineFlows := flow e
    rw [show ({ (a.wire c).line with client := b } : Handshake.Wire (Option ι)).queue e = [] from
      idle e] at mineFlows
    have first : ({ (a.wire c).line with client := b } : Handshake.Wire (Option ι)).owner e = false := by
      have owner := Gossip.Wire.owner_of_joins apart joins e
      rw [Gossip.Wire.seen_of_joins apart joins, mine] at owner
      exact Gossip.pick_injective (b := false) apart owner |>.symm
    have ready := mineFlows.nil
    rw [first] at ready
    exact ready

/-- The handshakes of any two processes stay in order. -/
theorem Crowd.Starts.shaking (starts : crowd.Starts start) (placed : crowd.Placed topology)
    (reached : Reaches (Under (fun net action => crowd.Permits True net action ∧
      ¬ net.MovesReady action) (Network.Step topology)) start net) :
    ∃ a, Represents crowd True net a ∧ Gossip.Shaking a := by
  refine reached.invariant (P := fun net => ∃ a, Represents crowd True net a ∧ Gossip.Shaking a)
    ⟨_, starts.represents, (Gossip.State.unmet_unmet start).shaking⟩ ?_
  rintro net action next ⟨a, represents, shaking⟩ ⟨⟨permits, unmoved⟩, step⟩
  have careful := represents.careful shaking.sane placed.addresses unmoved
  obtain ⟨a', after, moves⟩ :=
    represents.step shaking.sane placed permits (fun _ => careful) step
  cases moves with
  | still same => exact ⟨a, same ▸ after, shaking⟩
  | step moved => exact ⟨a', after, moved.shaking shaking⟩
  | steps chatty => exact absurd trivial chatty

end

namespace Crowd

/-! ## Two processes -/

/-- A connection on which the two have met again has made both ready. -/
def Rejoins (crowd : Crowd Bool) (net : Network Bool) : Prop :=
  ∀ c e, crowd.Rejoined net false true c e →
    crowd.Ready net false true ∧ crowd.Ready net true false

/-- Whatever is lost and dialled again, both ends of a connection become ready again, as long as
an end has noticed that the last connection is gone before its Host is moved to the next one. -/
theorem rejoins_of_unmoved {crowd : Crowd Bool} {topology : Topology Bool}
    {start net : Network Bool} (placed : crowd.Placed topology) (starts : crowd.Starts start)
    (reached : Reaches (Under (fun net action => crowd.Permits True net action ∧
      ¬ net.MovesReady action) (Network.Step topology)) start net) : crowd.Rejoins net := by
  obtain ⟨a, represents, shaking⟩ := starts.shaking placed reached
  intro c e rejoined
  have here := represents.ready_of_rejoined shaking (by exact nofun) rejoined
  have there := represents.ready_of_rejoined shaking (by exact nofun) rejoined.symm
  exact ⟨represents.ready_iff.mpr here, represents.ready_iff.mpr there⟩

/-- One process is connected to the other. Connections are lost, both ends notice it, and the
client dials again. -/
def Redials (crowd : Crowd Bool) : Action Bool → Prop
  | .call i (.addHost ip port) => i = false ∧ ip = crowd.ip true ∧ port = crowd.port true
  | .connect _ _ _ | .accept _ _ | .deliver _ _ | .eof _ _ | .lose _ => True
  | .call _ _ | .dataConnect _ _ _ _ | .dataAccept _ _ => False

instance (crowd : Crowd Bool) : (action : Action Bool) → Decidable (crowd.Redials action)
  | .call i (.addHost ip port) =>
      inferInstanceAs (Decidable (i = false ∧ ip = crowd.ip true ∧ port = crowd.port true))
  | .call _ (.publish _) | .call _ (.unpublish _) | .call _ (.subscribe _) => .isFalse id
  | .call _ .announce | .call _ (.connected _ _) | .call _ (.accepted _ _ _) => .isFalse id
  | .call _ (.line _ _) | .call _ (.eof _) | .call _ (.dataConnected _ _) => .isFalse id
  | .call _ (.dataAccepted _ _ _ _) | .call _ (.dataEof _) => .isFalse id
  | .connect _ _ _ | .accept _ _ | .deliver _ _ | .eof _ _ | .lose _ => .isTrue trivial
  | .dataConnect _ _ _ _ | .dataAccept _ _ => .isFalse id

theorem Redials.permits {crowd : Crowd Bool} {net : Network Bool} {action : Action Bool}
    (redials : crowd.Redials action) : crowd.Permits True net action := by
  cases action with
  | call i input =>
      cases input with
      | addHost ip port =>
          obtain ⟨rfl, isOther⟩ := redials
          exact .inl ⟨true, by exact nofun, isOther⟩
      | _ => exact redials.elim
  | _ => first | exact trivial | exact redials.elim

instance (crowd : Crowd Bool) (net : Network Bool) (x y : Bool) (c : ConnId) (e : End) :
    Decidable (crowd.HoldsOn net x y c e) :=
  inferInstanceAs (Decidable (∃ h ∈ (net.node x).mesh.peers,
    ∃ k ∈ ((net.node x).mesh.host h).socket, _ ∧ _ ∧ _ ∧ _))

instance (crowd : Crowd Bool) (net : Network Bool) (x y : Bool) (c : ConnId) (e : End) :
    Decidable (crowd.Rejoined net x y c e) :=
  decidable_of_iff
    (c < net.link.next ∧ crowd.HoldsOn net x y c e ∧ crowd.HoldsOn net y x c e.other ∧
      (net.link c).lost = false ∧ (net.link c).queue .client = [] ∧ (net.link c).queue .server = [])
    ⟨fun ⟨known, here, there, kept, client, server⟩ => ⟨known, here, there, kept, fun e => by
        cases e with
        | client => exact client
        | server => exact server⟩,
      fun rejoined => ⟨rejoined.known, rejoined.here, rejoined.there, rejoined.kept,
        rejoined.idle .client, rejoined.idle .server⟩⟩

/-- The connection is lost and both notice it before the next one is accepted. -/
theorem pair_rejoins : ∃ net, pair.Rejoined net false true 1 .client ∧
    pair.Ready net false true ∧ pair.Ready net true false := by
  have replayed : replay (Network.react pair.scattered)
      (fun net action => decide (pair.Redials action ∧ Network.Enabled pair.scattered net action ∧
        ¬ net.MovesReady action))
      (fun _ net => decide (pair.Rejoined net false true 1 .client))
      (.deliver 1 .client) (pair.begin false)
      [.call false (.addHost "10.0.0.2".toList 10000), .connect false 0 true, .accept 0 4000,
        .deliver 0 .server, .deliver 0 .server, .deliver 0 .client, .deliver 0 .client,
        .deliver 0 .client, .deliver 0 .server, .lose 0, .eof 0 .client, .connect false 0 true,
        .accept 1 4001, .eof 0 .server, .deliver 1 .server, .deliver 1 .server, .deliver 1 .client,
        .deliver 1 .client, .deliver 1 .client, .deliver 1 .server, .deliver 1 .server,
        .deliver 1 .server, .deliver 1 .client] = true := by decide +kernel
  obtain ⟨trace, net, ran, checked⟩ := replay_run replayed
  have rejoined := of_decide_eq_true checked
  have reached : Reaches (Under (fun net action => pair.Permits True net action ∧
      ¬ net.MovesReady action) (Network.Step pair.scattered)) (pair.begin false) net := by
    refine ⟨_, ran.mono ?_, final_concat _ _ _⟩
    rintro state action next ⟨allowed, reacted⟩
    obtain ⟨redials, enabled, unmoved⟩ := of_decide_eq_true allowed
    exact ⟨⟨redials.permits, unmoved⟩, enabled, reacted⟩
  exact ⟨net, rejoined, rejoins_of_unmoved placed_pair (starts_begin _ _) reached 1 _ rejoined⟩

/-- The server has not noticed the loss when the client connects again: its Host is still ready,
so nobody sends `CONNECTED` to the client. -/
theorem not_rejoins : ¬ ∀ (crowd : Crowd Bool) (topology : Topology Bool)
    (start net : Network Bool), crowd.Placed topology → crowd.Starts start →
    Reaches (Under (fun _ action => crowd.Redials action) (Network.Step topology)) start net →
    crowd.Rejoins net := by
  intro law
  have replayed : replay (Network.react pair.scattered)
      (fun net action => decide (pair.Redials action ∧ Network.Enabled pair.scattered net action))
      (fun _ net => decide (pair.Rejoined net false true 1 .client ∧
        ∀ h ∈ (net.node false).mesh.peers, ((net.node false).mesh.host h).bReady = false))
      (.deliver 1 .client) (pair.begin false)
      [.call false (.addHost "10.0.0.2".toList 10000), .connect false 0 true, .accept 0 4000,
        .deliver 0 .server, .deliver 0 .server, .deliver 0 .client, .deliver 0 .client,
        .deliver 0 .client, .deliver 0 .server, .lose 0, .eof 0 .client, .connect false 0 true,
        .accept 1 4001, .deliver 1 .server, .deliver 1 .server, .deliver 1 .client,
        .deliver 1 .client, .deliver 1 .server, .deliver 1 .client] = true := by decide +kernel
  obtain ⟨trace, net, ran, checked⟩ := replay_run replayed
  obtain ⟨rejoined, unready⟩ := of_decide_eq_true checked
  have reached : Reaches (Under (fun _ action => pair.Redials action)
      (Network.Step pair.scattered)) (pair.begin false) net := by
    refine ⟨_, ran.mono ?_, final_concat _ _ _⟩
    rintro state action next ⟨allowed, reacted⟩
    obtain ⟨redials, enabled⟩ := of_decide_eq_true allowed
    exact ⟨redials, enabled, reacted⟩
  obtain ⟨h, knows, ready⟩ :=
    (law pair pair.scattered _ net placed_pair (starts_begin _ _) reached 1 _ rejoined).1
  rw [unready h knows.listed] at ready
  cases ready

end Crowd

end LibPubSub
