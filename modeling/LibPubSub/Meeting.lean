import Mathlib.Data.Fintype.Basic
import LibPubSub.Acquaintance

/-! What the processes of a crowd have come to when nothing is pending: two of them agree on
one connection, and any number of them make a full mesh. -/

set_option autoImplicit false

namespace LibPubSub

open Transition

variable {ι : Type}

namespace Network

variable [DecidableEq ι] {topology : Topology ι} {net : Network ι}

theorem still_iff : net.Still topology ↔
    (∀ i, ∀ k < (net.node i).mesh.sock.next, ∀ j, ¬ Enabled topology net (.connect i k j)) ∧
      (∀ c < net.link.next, (net.link c).serverSock ≠ none) ∧
      (∀ c < net.link.next,
        ¬ Enabled topology net (.deliver c .client) ∧ ¬ Enabled topology net (.deliver c .server)) ∧
      ∀ c < net.link.next,
        ¬ Enabled topology net (.eof c .client) ∧ ¬ Enabled topology net (.eof c .server) := by
  constructor
  · intro still
    refine ⟨still.connected, ?_, ?_, ?_⟩
    · exact fun c known nobody => still.accepted c known 0 ⟨known, nobody⟩
    · exact fun c known => ⟨still.delivered c known .client, still.delivered c known .server⟩
    · exact fun c known => ⟨still.closed c known .client, still.closed c known .server⟩
  · rintro ⟨connected, accepted, delivered, closed⟩
    refine ⟨connected, ?_, ?_, ?_⟩
    · exact fun c known port enabled => accepted c known enabled.2
    · intro c known e
      cases e with
      | client => exact (delivered c known).1
      | server => exact (delivered c known).2
    · intro c known e
      cases e with
      | client => exact (closed c known).1
      | server => exact (closed c known).2

instance [Fintype ι] (topology : Topology ι) (net : Network ι) : Decidable (net.Still topology) :=
  decidable_of_iff _ still_iff.symm

end Network

namespace Crowd

/-! ## A full mesh -/

/-- Who is ready for two others has made them ready for each other, and nobody has an entry
for itself behind `hosts[0]`. -/
structure FullMesh (crowd : Crowd ι) (net : Network ι) : Prop where
  transitive : ∀ x y z, y ≠ z → crowd.Ready net x y → crowd.Ready net x z →
    crowd.Ready net y z ∧ crowd.Ready net z y
  others : ∀ x h, ¬ crowd.Knows (net.node x).mesh x h

section

variable [DecidableEq ι] {crowd : Crowd ι} {topology : Topology ι} {start net : Network ι}

/-- Gossip builds a full mesh, as long as no process is told to add itself. -/
theorem fullMesh_of_meets (placed : crowd.Placed topology) (starts : crowd.Starts start)
    (reached : Reaches (Under crowd.Meets (Network.Step topology)) start net)
    (still : net.Still topology) : crowd.FullMesh net := by
  obtain ⟨a, acquainted⟩ := starts.acquaintance placed reached
  have represents := acquainted.represents
  have quiet := represents.still acquainted.coupled.sane placed still
  constructor
  · intro x y z apart readyY readyZ
    have both := acquainted.told.transitive acquainted.coupled quiet apart
      (represents.ready_iff.mp readyY) (represents.ready_iff.mp readyZ)
    exact ⟨represents.ready_iff.mpr both.1, represents.ready_iff.mpr both.2⟩
  · intro x h knows
    obtain ⟨q, other, isQ⟩ := (represents.mesh x).keyed h knows.listed
    exact other (isQ.same knows placed.addresses)

end

/-- The actions that a crowd takes when the application may call `add_host` for any of its
processes, also for the calling one. -/
def Calls (crowd : Crowd ι) : Action ι → Prop
  | .call _ (.addHost ip port) => ∃ q, ip = crowd.ip q ∧ port = crowd.port q
  | .connect _ _ _ | .accept _ _ | .deliver _ _ | .eof _ _ => True
  | .call _ _ | .lose _ | .dataConnect _ _ _ _ | .dataAccept _ _ => False

instance [Fintype ι] [DecidableEq ι] (crowd : Crowd ι) (net : Network ι) :
    (action : Action ι) → Decidable (crowd.Meets net action)
  | .call i (.addHost ip port) => inferInstanceAs (Decidable
      ((∃ q, q ≠ i ∧ ip = crowd.ip q ∧ port = crowd.port q) ∨
        (net.node i).mesh.hasHost ip port = true))
  | .call _ (.publish _) | .call _ (.unpublish _) | .call _ (.subscribe _) => .isFalse id
  | .call _ .announce | .call _ (.connected _ _) | .call _ (.accepted _ _ _) => .isFalse id
  | .call _ (.line _ _) | .call _ (.eof _) | .call _ (.dataConnected _ _) => .isFalse id
  | .call _ (.dataAccepted _ _ _ _) | .call _ (.dataEof _) => .isFalse id
  | .connect _ _ _ | .accept _ _ | .deliver _ _ | .eof _ _ => .isTrue trivial
  | .lose _ | .dataConnect _ _ _ _ | .dataAccept _ _ => .isFalse id

/-! ## Processes on machines of their own -/

/-- Process `i` runs on the machine `10.0.0.i`, counted from 1. -/
def subnet (n : Nat) : Crowd (Fin n) where
  ID i := Int32.ofNat (i + 1)
  address i := "10.0.0.".toList ++ Nat.toDigits 10 (i + 1)
  port _ := 10000

/-- Everybody knows each machine by its address, and its own also as `localhost`. -/
def scattered [DecidableEq ι] (crowd : Crowd ι) : Topology ι where
  names i ip j := ip == crowd.ip j || (i == j && ip == "localhost".toList)
  source i _ := crowd.address i

/-- All processes behind `init()`. -/
def begin (crowd : Crowd ι) (i : ι) : Network ι where
  node j := Node.init (crowd.ID j) (crowd.port j) Node.firstPort
  link := Heap.empty { client := i, clientSock := 0, server := i }
  dataLink := Heap.empty { client := i, server := i, channel := 0 }

theorem starts_begin (crowd : Crowd ι) (i : ι) : crowd.Starts (crowd.begin i) :=
  ⟨fun _ => ⟨_, rfl⟩, rfl⟩

theorem placed_scattered [DecidableEq ι] {crowd : Crowd ι}
    (distinct : ∀ p q, p ≠ q → crowd.ID p ≠ crowd.ID q)
    (numeric : ∀ p, ∀ ch ∈ crowd.address p, ch.isDigit = true ∨ ch = '.')
    (apart : ∀ p q, crowd.ip p = crowd.ip q → p = q)
    (remote : ∀ p, crowd.ip p ≠ "localhost".toList) : crowd.Placed crowd.scattered := by
  refine ⟨distinct, numeric, fun _ _ _ => rfl, ?_, ?_, ?_⟩
  · intro i p
    unfold scattered
    simp only [beq_self_eq_true, Bool.true_or]
  · intro p
    unfold scattered
    simp only [beq_self_eq_true, Bool.and_self, Bool.or_true]
  · intro i ip p q first second _
    unfold scattered at first second
    simp only [Bool.or_eq_true, Bool.and_eq_true, beq_iff_eq] at first second
    rcases first with isP | ⟨rfl, here⟩ <;> rcases second with isQ | ⟨rfl, here'⟩
    · exact apart p q (isP.symm.trans isQ)
    · exact absurd (isP.symm.trans here') (remote p)
    · exact absurd (isQ.symm.trans here) (remote q)
    · rfl

theorem numeric_subnet {n : Nat} (p : Fin n) :
    ∀ ch ∈ (subnet n).address p, ch.isDigit = true ∨ ch = '.' := by
  have numeric : ("10.0.0.".toList.all fun ch => ch.isDigit || ch == '.') = true := by decide
  intro ch member
  cases List.mem_append.mp member with
  | inl inside => simpa using List.all_eq_true.mp numeric ch inside
  | inr digits => exact .inl (isDigit_of_mem_toDigits digits)

theorem placed_subnet : (subnet 3).Placed (subnet 3).scattered :=
  placed_scattered (by decide) numeric_subnet (by decide) (by decide)

/-- Two processes add a third one, and all three come to know each other. -/
theorem subnet_fullMesh : ∃ net,
    Reaches (Under (subnet 3).Meets (Network.Step (subnet 3).scattered)) ((subnet 3).begin 0) net ∧
      net.Still (subnet 3).scattered ∧ (subnet 3).FullMesh net := by
  have replayed : replay (Network.react (subnet 3).scattered)
      (fun net action => decide ((subnet 3).Meets net action ∧
        Network.Enabled (subnet 3).scattered net action))
      (fun _ net => decide (net.Still (subnet 3).scattered)) (.deliver 2 .server)
      ((subnet 3).begin 0)
      [.call 0 (.addHost "10.0.0.2".toList 10000), .call 2 (.addHost "10.0.0.2".toList 10000),
        .connect 2 0 1, .accept 0 4000, .deliver 0 .server, .deliver 0 .client, .deliver 0 .client,
        .deliver 0 .client, .deliver 0 .server, .deliver 0 .server, .deliver 0 .client,
        .deliver 0 .client, .deliver 0 .server, .deliver 0 .server, .connect 0 0 1, .accept 1 4000,
        .deliver 1 .server, .deliver 1 .client, .deliver 1 .client, .deliver 1 .client,
        .deliver 1 .server, .deliver 1 .server, .deliver 0 .client, .deliver 0 .client,
        .deliver 0 .client, .deliver 1 .client, .deliver 1 .client, .deliver 1 .client,
        .deliver 1 .server, .deliver 1 .server, .connect 2 1 0, .accept 2 4000, .deliver 2 .server,
        .deliver 2 .client, .deliver 2 .client, .deliver 2 .client, .deliver 0 .server,
        .deliver 0 .server, .deliver 0 .server, .deliver 2 .server, .deliver 2 .server,
        .deliver 1 .server, .deliver 1 .server, .deliver 1 .server, .deliver 2 .client,
        .deliver 2 .client, .deliver 2 .client, .deliver 2 .server, .deliver 2 .server] = true := by
    decide +kernel
  obtain ⟨trace, net, ran, checked⟩ := replay_run replayed
  have still : net.Still (subnet 3).scattered := of_decide_eq_true checked
  have reached : Reaches (Under (subnet 3).Meets (Network.Step (subnet 3).scattered))
      ((subnet 3).begin 0) net := by
    refine ⟨_, ran.mono ?_, final_concat _ _ _⟩
    rintro state action next ⟨allowed, reacted⟩
    obtain ⟨meets, enabled⟩ := of_decide_eq_true allowed
    exact ⟨meets, enabled, reacted⟩
  exact ⟨net, reached, still, fullMesh_of_meets placed_subnet (starts_begin _ _) reached still⟩

/-- A process that is told its own address before anybody has said `YOU=` adds itself and
keeps the entry: the line `ID=` that it sends itself is neither adopted nor rejected. -/
theorem not_fullMesh : ¬ ∀ (crowd : Crowd (Fin 1)) (topology : Topology (Fin 1))
    (start net : Network (Fin 1)), crowd.Placed topology → crowd.Starts start →
    Reaches (Under (fun _ action => crowd.Calls action) (Network.Step topology)) start net →
    net.Still topology → crowd.FullMesh net := by
  intro law
  have replayed : replay (Network.react (subnet 1).scattered)
      (fun net action => decide (Network.Enabled (subnet 1).scattered net action) &&
        match action with
        | .call _ input => decide (input = .addHost "10.0.0.1".toList 10000)
        | .lose _ | .dataConnect _ _ _ _ | .dataAccept _ _ => false
        | _ => true)
      (fun _ net => decide (net.Still (subnet 1).scattered ∧ 1 ∈ (net.node 0).mesh.peers ∧
        ((net.node 0).mesh.host 1).ip = (subnet 1).ip 0 ∧
        ((net.node 0).mesh.host 1).port = (subnet 1).port 0))
      (.deliver 0 .server) ((subnet 1).begin 0)
      [.call 0 (.addHost "10.0.0.1".toList 10000), .connect 0 0 0, .accept 0 4000,
        .deliver 0 .server] = true := by decide +kernel
  obtain ⟨trace, net, ran, checked⟩ := replay_run replayed
  obtain ⟨still, listed, ip, port⟩ := of_decide_eq_true checked
  have reached : Reaches (Under (fun _ action => (subnet 1).Calls action)
      (Network.Step (subnet 1).scattered)) ((subnet 1).begin 0) net := by
    refine ⟨_, ran.mono ?_, final_concat _ _ _⟩
    rintro state action next ⟨allowed, reacted⟩
    obtain ⟨enabled, calls⟩ := Bool.and_eq_true_iff.mp allowed
    refine ⟨?_, of_decide_eq_true enabled, reacted⟩
    cases action with
    | call i input =>
        rw [of_decide_eq_true calls]
        exact ⟨0, by decide, rfl⟩
    | connect | accept | deliver | eof => exact trivial
    | lose | dataConnect | dataAccept => cases calls
  have placed : (subnet 1).Placed (subnet 1).scattered :=
    placed_scattered (by decide) numeric_subnet (by decide) (by decide)
  have mesh := law (subnet 1) (subnet 1).scattered _ net placed (starts_begin _ _) reached still
  exact mesh.others 0 1 ⟨listed, ip, port⟩

/-! ## Two processes -/

/-- End `e` of connection `c` is open and belongs to the entry of `x` for `y`, which is ready. -/
def TalksOn (crowd : Crowd ι) (net : Network ι) (x y : ι) (c : ConnId) (e : End) : Prop :=
  ∃ h k, crowd.Knows (net.node x).mesh y h ∧ ((net.node x).mesh.host h).bReady = true ∧
    ((net.node x).mesh.host h).socket = some k ∧ (net.link c).socket e = some (x, k) ∧
    ((net.node x).mesh.sock k).Holds c

/-- Two processes have exactly one open connection, which both talk on. -/
def Agreed (crowd : Crowd Bool) (net : Network Bool) : Prop :=
  ∃ c < net.link.next, ∃ e, crowd.TalksOn net false true c e ∧
    crowd.TalksOn net true false c e.other ∧ ∀ d < net.link.next, ∀ e, net.OpenAt d e → d = c

/-- What two processes do that are told of each other. -/
def Dials (crowd : Crowd Bool) : Action Bool → Prop
  | .call i (.addHost ip port) => ip = crowd.ip !i ∧ port = crowd.port !i
  | .connect _ _ _ | .accept _ _ | .deliver _ _ | .eof _ _ => True
  | .call _ _ | .lose _ | .dataConnect _ _ _ _ | .dataAccept _ _ => False

/-- `add_host` is called. -/
def Adds : Action ι → Prop
  | .call _ (.addHost _ _) => True
  | _ => False

instance (crowd : Crowd Bool) : (action : Action Bool) → Decidable (crowd.Dials action)
  | .call i (.addHost ip port) =>
      inferInstanceAs (Decidable (ip = crowd.ip !i ∧ port = crowd.port !i))
  | .call _ (.publish _) | .call _ (.unpublish _) | .call _ (.subscribe _) => .isFalse id
  | .call _ .announce | .call _ (.connected _ _) | .call _ (.accepted _ _ _) => .isFalse id
  | .call _ (.line _ _) | .call _ (.eof _) | .call _ (.dataConnected _ _) => .isFalse id
  | .call _ (.dataAccepted _ _ _ _) | .call _ (.dataEof _) => .isFalse id
  | .connect _ _ _ | .accept _ _ | .deliver _ _ | .eof _ _ => .isTrue trivial
  | .lose _ | .dataConnect _ _ _ _ | .dataAccept _ _ => .isFalse id

theorem Dials.meets {crowd : Crowd Bool} {net : Network Bool} {action : Action Bool}
    (dials : crowd.Dials action) : crowd.Meets net action := by
  cases action with
  | call i input =>
      cases input with
      | addHost ip port => exact .inl ⟨!i, by cases i <;> exact nofun, dials⟩
      | _ => exact dials.elim
  | _ => first | exact trivial | exact dials.elim

end Crowd

section

variable [DecidableEq ι] {crowd : Crowd ι} {net net' : Network ι} {topology : Topology ι}
  {action : Action ι} {a : Gossip.State ι} {i : ι} {ip : Str} {port : Int32} {x y : ι} {c : ConnId}
  {e : End}

/-- Who has been added is known. -/
theorem Acquainted.added (acquainted : Acquainted crowd net a) (named : crowd.Named) {q : ι}
    (other : q ≠ i)
    (step : Network.Step topology net (.call i (.addHost (crowd.ip q) (crowd.port q))) net') :
    ∃ h, crowd.Knows (net'.node i).mesh q h := by
  obtain ⟨n, reacted, rfl⟩ := Network.tell_eq_ok.mp step.2
  have isNew := Fallible.pure_eq_ok.mp reacted
  have tidy := acquainted.represents.mesh i
  rw [Network.take_node_self, ← isNew]
  cases met : a.entry i q with
  | some entry =>
      obtain ⟨h, isHost⟩ := tidy.met q entry met
      rw [tidy.addHost_known met]
      exact ⟨h, isHost.toKnows.congr rfl rfl rfl⟩
  | none =>
      obtain ⟨mesh, _, _⟩ := tidy.addHost_unmet named other met
      obtain ⟨h, isHost⟩ := mesh.met q _ (Function.update_self ..)
      exact ⟨h, isHost.toKnows.congr rfl rfl rfl⟩

omit [DecidableEq ι] in
/-- An open end belongs to somebody who still listens. -/
theorem Represents.open_of_openAt (represents : Represents crowd True net a)
    (sane : Gossip.Sane a) (known : c < net.link.next) (openAt : net.OpenAt c e) :
    ((a.wire c).line.status e).Open := by
  obtain ⟨s, member, reads, isOpen⟩ := openAt
  obtain ⟨⟨j, k⟩, socket, rfl⟩ := Option.map_eq_some_iff.mp (Option.mem_def.mp member)
  have status := (represents.link c known).status e
  rw [Carried.statusAt_of_socket socket] at status
  rw [← status]
  cases listener : ((net.node j).mesh.sock k).listeners with
  | none =>
      have waits := represents.waits sane socket reads fun h heard => nomatch listener.symm.trans heard
      rw [(waits.aside.incoming isOpen).1] at listener
      cases listener
  | some whose =>
      cases whose with
      | incoming =>
          rw [TCPSocket.statusOn_incoming reads listener, if_pos isOpen]
          exact .inl rfl
      | host h =>
          rw [TCPSocket.statusOn_current reads listener]
          exact .inr rfl

omit [DecidableEq ι] in
/-- Who talks on a connection holds its end. -/
theorem Represents.talksOn (represents : Represents crowd True net a) (sane : Gossip.Sane a)
    (voice : a.voice x y = some (c, e)) (ready : a.ready x y = true) :
    crowd.TalksOn net x y c e := by
  obtain ⟨entry, met, conn, side⟩ := Gossip.State.entry_of_voice voice
  obtain ⟨h, isHost⟩ := (represents.mesh x).met y entry met
  obtain ⟨k, owns, _, _⟩ := isHost.socket
  obtain ⟨listens, _⟩ := represents.listens_of_voice sane met isHost owns conn
  have holds := listens.isCurrent.holds c conn
  rw [Gossip.State.ready_of_entry met] at ready
  exact ⟨h, k, isHost.toKnows, isHost.ready.trans ready, owns, side ▸ listens.socket,
    holds.1, holds.2.1⟩

end

namespace Crowd

/-- A simultaneous open is resolved: both processes end up on the same connection. -/
theorem agreed_of_added {crowd : Crowd Bool} {topology : Topology Bool}
    (placed : crowd.Placed topology) {start : Network Bool} (starts : crowd.Starts start)
    {trace : List (Action Bool × Network Bool)}
    (ran : Every (Under (fun _ action => crowd.Dials action) (Network.Step topology)) start trace)
    (added : ∃ entry ∈ trace, Adds entry.1) (still : (final start trace).Still topology) :
    crowd.Agreed (final start trace) := by
  have named := placed.addresses
  -- an entry is made by the first `add_host` and stays
  obtain ⟨a, acquainted, x, met⟩ := ran.marked
    (P := fun net => ∃ a, Acquainted crowd net a)
    (Q := fun net => ∃ a, Acquainted crowd net a ∧ ∃ x, a.entry x (!x) ≠ none)
    ⟨_, starts.acquainted⟩
    (by
      rintro net action next ⟨a, acquainted⟩ ⟨dials, step⟩
      obtain ⟨a', acquainted', _⟩ := acquainted.step placed dials.meets step
      exact ⟨a', acquainted'⟩)
    (by
      rintro net action next ⟨a, acquainted⟩ ⟨dials, step⟩ adds
      obtain ⟨a', acquainted', _⟩ := acquainted.step placed dials.meets step
      cases action with
      | call i input =>
          cases input with
          | addHost ip port =>
              obtain ⟨rfl, rfl⟩ := dials
              obtain ⟨h, knows⟩ := acquainted.added named (by cases i <;> exact nofun) step
              refine ⟨a', acquainted', i, fun unmet => ?_⟩
              exact (acquainted'.represents.mesh i).unmet _ unmet h knows
          | _ => exact adds.elim
      | _ => exact adds.elim)
    (by
      rintro net action next _ ⟨a, acquainted, x, met⟩ ⟨dials, step⟩
      obtain ⟨a', acquainted', known⟩ := acquainted.step placed dials.meets step
      exact ⟨a', acquainted', x, known _ _ met⟩)
    added
  have represents := acquainted.represents
  have sane := acquainted.coupled.sane
  have quiet := represents.still sane placed still
  have either : a.entry false true ≠ none ∨ a.entry true false ≠ none := by
    cases x with
    | false => exact .inl met
    | true => exact .inr met
  obtain ⟨c, e, here, there, readyHere, readyThere, alone⟩ :=
    acquainted.coupled.united quiet (by exact nofun) either
  have known := (sane.voice _ _ _ _ here).1
  refine ⟨c, represents.next ▸ known, e, represents.talksOn sane here readyHere,
    represents.talksOn sane there readyThere, ?_⟩
  intro d knownD e openAt
  by_contra differs
  have inside : d < a.wire.next := represents.next ▸ knownD
  have joins : ∃ b, (a.wire d).Joins false true b := by
    have apart := (sane.wire d inside).apart
    cases client : (a.wire d).client <;> cases server : (a.wire d).server
    · exact absurd (client.trans server.symm) apart
    · exact ⟨false, client, server⟩
    · exact ⟨true, client, server⟩
    · exact absurd (client.trans server.symm) apart
  obtain ⟨b, joins⟩ := joins
  exact alone d inside differs b joins e (represents.open_of_openAt sane knownD openAt)

/-- The first two processes of the subnet. -/
def pair : Crowd Bool where
  ID p := (subnet 2).ID (if p then 1 else 0)
  address p := (subnet 2).address (if p then 1 else 0)
  port p := (subnet 2).port (if p then 1 else 0)

theorem placed_pair : pair.Placed pair.scattered :=
  placed_scattered (by decide) (fun _ => numeric_subnet _) (by decide) (by decide)

/-- Both processes connect before either of them accepts. -/
theorem pair_agreed : ∃ net, pair.Agreed net := by
  have replayed : replay (Network.react pair.scattered)
      (fun net action => decide (pair.Dials action ∧ Network.Enabled pair.scattered net action))
      (fun _ net => decide (net.Still pair.scattered))
      (.call false (.addHost "10.0.0.2".toList 10000)) (pair.begin false)
      [.call false (.addHost "10.0.0.2".toList 10000),
        .call true (.addHost "10.0.0.1".toList 10000), .connect false 0 true, .connect true 0 false,
        .accept 0 4000, .deliver 0 .server, .deliver 0 .server, .eof 0 .client, .eof 0 .server,
        .accept 1 4000, .deliver 1 .server, .deliver 1 .client, .deliver 1 .client,
        .deliver 1 .client, .deliver 1 .server, .deliver 1 .server, .deliver 1 .client,
        .deliver 1 .client, .deliver 1 .server, .deliver 1 .server] = true := by decide +kernel
  obtain ⟨trace, net, ran, checked⟩ := replay_run replayed
  have still : net.Still pair.scattered := of_decide_eq_true checked
  refine ⟨_, agreed_of_added placed_pair (starts_begin pair false) (ran.mono ?_)
    ⟨_, List.mem_append_right _ (List.mem_singleton.mpr rfl), trivial⟩ ?_⟩
  · rintro state action next ⟨allowed, reacted⟩
    obtain ⟨dials, enabled⟩ := of_decide_eq_true allowed
    exact ⟨dials, enabled, reacted⟩
  · rw [final_concat]
    exact still

end Crowd

end LibPubSub
