import LibPubSub.Waiting

/-! Each action of a network of processes that are all known under one address is a step
of the gossip protocol, or two of them, or nothing to it. -/

set_option autoImplicit false

namespace LibPubSub

open Handshake (Message Status Entry talk)

variable {ι : Type}

section

variable [DecidableEq ι] {crowd : Crowd ι} {strict : Prop} {net net' : Network ι}
  {topology : Topology ι} {a a' : Gossip.State ι} {i j : ι} {n : Node} {c : ConnId} {e : End}
  {k : SockPtr}

/-! ## Calls -/

/-- A process goes on without a word on any connection. -/
theorem Wired.still (wired : Wired crowd strict net a) (wire : a'.wire = a.wire)
    (steady : (net.node i).mesh.Steady n.mesh) (silent : n.mesh.sent = []) :
    Wired crowd strict (net.take i n) a' := by
  refine wired.take (by rw [wire]) (fun k c thread => wired.born i k c ((steady k).thread.mp thread)) ?_
  intro c known
  have carried := wired.link c known
  rw [wire]
  refine ⟨rfl, rfl, rfl, ?_, ?_, fun _ _ => rfl, ?_⟩
  · intro e
    refine ⟨[], ?_, by rw [List.append_nil, ite_self]⟩
    rw [silent]
    exact .nil
  · intro e k socket
    rw [(steady k).status, ← carried.status e]
    exact (Carried.statusAt_of_socket socket).symm
  · intro k socket reads incoming
    have same := (steady k).incoming incoming
    rw [same] at reads incoming ⊢
    refine carried.peer _ ?_ reads incoming
    unfold Network.sockAt
    rw [socket]
    rfl

/-- `add_host` of another process. -/
theorem Represents.meets {yields : ι → ι → Bool} {q : ι} (represents : Represents crowd strict net a)
    (named : crowd.Named) (other : q ≠ i)
    (isNew : n = { net.node i with mesh := (net.node i).mesh.addHost (crowd.ip q) (crowd.port q) }) :
    ∃ a', Represents crowd strict (net.take i n) a' ∧ Moves strict yields a a' := by
  have tidy := represents.mesh i
  have chan : n.chan = (net.node i).chan := by rw [isNew]
  cases met : a.entry i q with
  | some entry =>
      have same : n = net.node i := by
        rw [isNew, tidy.addHost_known met]
      rw [same, Network.take_self (represents.silent i)]
      exact ⟨a, represents, .still rfl⟩
  | none =>
      obtain ⟨mesh, sent, steady⟩ := tidy.addHost_unmet named other met
      have wire : (a.meet i q).wire = a.wire := a.meet_wire i q
      have isMet : a.meet i q = a.setEntry i q ⟨false, false, none⟩ := by
        unfold Gossip.State.meet
        rw [if_pos ⟨Ne.symm other, met⟩]
      have tidyNew : Tidy crowd i n.mesh ((a.meet i q).addressed i) ((a.meet i q).entry i) := by
        rw [isNew, isMet]
        change Tidy crowd i _ (a.addressed i) (Function.update a.entry i _ i)
        rw [Function.update_self]
        exact mesh
      have wired : Wired crowd strict (net.take i n) (a.meet i q) := by
        refine represents.toWired.still wire ?_ ?_
        · rw [isNew]
          exact steady
        · rw [isNew]
          exact sent.trans (represents.silent i)
      refine ⟨a.meet i q, represents.take wired tidyNew ?_ ?_ ?_, .step (.meet i q)⟩
      · refine tidyNew.clean named fun d => ?_
        rw [chan]
        exact (represents.clean i).names d
      · intro isStrict
        rw [chan]
        exact represents.quiet isStrict i
      · intro p differs
        rw [isMet]
        exact ⟨rfl, Function.update_of_ne differs ..⟩

/-- What the channels of a process do is talk. -/
theorem Represents.chats {yields : ι → ι → Bool} (represents : Represents crowd strict net a)
    (sane : Gossip.Sane a) (chatty : ¬ strict) (chats : Node.Chats (net.node i) n) :
    ∃ a', Represents crowd strict (net.take i n) a' ∧ Moves strict yields a a' := by
  obtain ⟨added, sent, said⟩ := chats.sent
  rw [represents.silent i, List.nil_append] at sent
  obtain ⟨talks, after, _⟩ := represents.says sane ((represents.mesh i).of_table chats.table)
    chats.clean (fun isStrict => absurd isStrict chatty) (.of_sock (Mesh.sock_of_table chats.table))
    (by rw [sent]; exact represents.spoken_of_chats rfl chatty said)
  exact ⟨a.say i talks, after, .step (.say i talks fun isStrict => absurd isStrict chatty)⟩

/-! ## New connections -/

/-- A connection that nobody has accepted and nobody has written on. -/
def Gossip.Wire.blank (x y : ι) : Gossip.Wire ι where
  client := x
  server := y
  line :=
    { client := false
      status
        | .client => .ended
        | .server => .unborn
      queue _ := []
      lost := false }

omit [DecidableEq ι] in
theorem Wired.dialled (wired : Wired crowd strict net a) (j : ι)
    (idle : ∀ c, ((net.node i).mesh.sock k).thread ≠ .receiving c) :
    Wired crowd strict
      { net with link := net.link.alloc { client := i, clientSock := k, server := j } }
      { a with wire := a.wire.alloc (.blank i j) } := by
  refine ⟨congrArg (· + 1) wired.next, ?_, ?_⟩
  · exact fun p k c thread => Nat.lt_succ_of_lt (wired.born p k c thread)
  intro d known
  rcases Nat.lt_succ_iff_lt_or_eq.mp known with old | rfl
  · have carried := wired.link d old
    have link : (net.link.alloc { client := i, clientSock := k, server := j }) d = net.link d :=
      Heap.alloc_of_lt _ _ old
    have wire : (a.wire.alloc (.blank i j)) d = a.wire d :=
      Heap.alloc_of_lt _ _ (wired.next ▸ old)
    have sockAt (e : End) : Network.sockAt
        { net with link := net.link.alloc { client := i, clientSock := k, server := j } } d e =
          net.sockAt d e := by
      unfold Network.sockAt
      dsimp only
      rw [link]
    rw [wire]
    refine ⟨?_, ?_, ?_, ?_, ?_, ?_⟩
    · exact (congrArg Link.client link).trans carried.client
    · exact (congrArg Link.server link).trans carried.server
    · exact (congrArg Link.lost link).trans carried.lost
    · intro e
      have queue := congrArg (fun l => l.queue e) link
      dsimp only at queue ⊢
      rw [queue]
      exact carried.queue e
    · intro e
      unfold Network.statusAt
      rw [sockAt]
      exact carried.status e
    · intro s member
      rw [sockAt] at member
      exact carried.peer s member
  · have link : (net.link.alloc { client := i, clientSock := k, server := j }) net.link.next =
        { client := i, clientSock := k, server := j } := Heap.alloc_self _ _
    have wire : (a.wire.alloc (.blank i j)) net.link.next = .blank i j := by
      rw [wired.next]
      exact Heap.alloc_self _ _
    rw [wire]
    refine ⟨?_, ?_, ?_, ?_, ?_, ?_⟩
    · exact congrArg Link.client link
    · exact congrArg Link.server link
    · exact congrArg Link.lost link
    · intro e
      have queue := congrArg (fun l => l.queue e) link
      dsimp only at queue ⊢
      rw [queue]
      cases e <;> exact .nil
    · intro e
      unfold Network.statusAt Network.sockAt
      dsimp only
      rw [link]
      cases e with
      | client => exact TCPSocket.statusOn_eq_ended.mpr (idle _)
      | server => rfl
    · intro s member
      unfold Network.sockAt at member
      dsimp only at member
      rw [link] at member
      cases member

omit [DecidableEq ι] in
/-- Only the sockets of Hosts dial, and they dial the process that the Host is kept for. -/
theorem Represents.dials (represents : Represents crowd strict net a)
    (placed : crowd.Placed topology) (dialling : ((net.node i).mesh.sock k).Dialling)
    (reaches : topology.names i ((net.node i).mesh.sock k).ip j = true)
    (port : ((net.node i).mesh.sock k).port = (net.node j).mesh.signalingPort) :
    ∃ h ready, j ≠ i ∧ a.entry i j = some ⟨false, ready, none⟩ ∧
      IsHost crowd (net.node i).mesh j ⟨false, ready, none⟩ h ∧
      ((net.node i).mesh.host h).socket = some k := by
  have tidy := represents.mesh i
  have inside : k < (net.node i).mesh.sock.next := by
    by_contra outside
    have thread := dialling.1
    rw [tidy.fresh k (Nat.le_of_not_lt outside)] at thread
    cases thread
  have owned : ∃ h, ((net.node i).mesh.host h).socket = some k := by
    by_contra free
    have isAside := tidy.aside k inside fun h owns => free ⟨h, owns⟩
    exact isAside.undialled dialling.2 dialling.1
  obtain ⟨h, owns⟩ := owned
  obtain ⟨q, entry, other, met, isHost, _, current⟩ := tidy.host_of_socket owns
  have conn : entry.conn = none := by
    cases conn : entry.conn with
    | none => rfl
    | some d =>
        have thread := (current.holds d conn).1
        rw [dialling.1] at thread
        cases thread
  have client : entry.server = false := by
    have idle := (current.idle conn).2
    cases server : entry.server with
    | false => rfl
    | true =>
        rw [server, if_pos rfl, dialling.1] at idle
        cases idle
  obtain ⟨ip, samePort, _⟩ := current.dials client
  have isJ : j = q := by
    refine placed.alone i (crowd.ip q) j q ?_ (placed.named i q) ?_
    · rw [← ip]
      exact reaches
    · rw [← samePort, port, (represents.mesh j).signalingPort]
  subst isJ
  obtain ⟨server, ready, conn'⟩ := entry
  obtain rfl : server = false := client
  obtain rfl : conn' = none := conn
  exact ⟨h, ready, other, met, isHost, owns⟩

/-- A socket of a Host is connected. -/
theorem Represents.connects {yields : ι → ι → Bool} (represents : Represents crowd strict net a)
    (sane : Gossip.Sane a) (placed : crowd.Placed topology)
    (dialling : ((net.node i).mesh.sock k).Dialling)
    (reaches : topology.names i ((net.node i).mesh.sock k).ip j = true)
    (port : ((net.node i).mesh.sock k).port = (net.node j).mesh.signalingPort)
    (isNew : n = (net.node i).connected k net.link.next) :
    ∃ a', Represents crowd strict (Network.take
        { net with link := net.link.alloc { client := i, clientSock := k, server := j } } i n) a' ∧
      Moves strict yields a a' := by
  have named := placed.addresses
  obtain ⟨h, ready, other, met, isHost, owns⟩ := represents.dials placed dialling reaches port
  obtain ⟨k', owns', _, current⟩ := isHost.socket
  obtain rfl := Option.some.inj (owns.symm.trans owns')
  generalize isC : net.link.next = c at isNew
  have isMesh : n.mesh = ((net.node i).mesh.setSock k (·.connected c)).welcome h := by
    have listener : (((net.node i).mesh.setSock k (·.connected c)).sock k).listeners =
        some (.host h) := by
      rw [Mesh.setSock_self]
      exact current.listener
    rw [isNew]
    unfold Node.connected
    dsimp only
    rw [listener]
  have chan : n.chan = (net.node i).chan := by
    rw [isNew]
    exact Node.connected_chan ..
  obtain ⟨mesh, sent, sock⟩ := (represents.mesh i).connected named isHost owns isMesh
  rw [represents.silent i, List.nil_append] at sent
  have unready : ready = false := by
    have mute : a.voice i j = none := by
      rw [Gossip.State.voice_of_entry met]
      rfl
    have idle := sane.idle i j mute
    rw [Gossip.State.ready_of_entry met] at idle
    exact idle
  subst unready
  have idle (d : ConnId) : ((net.node i).mesh.sock k).thread ≠ .receiving d := by
    rw [dialling.1]
    exact nofun
  have dialled := represents.toWired.dialled (i := i) j idle
  have isNextA : a.wire.next = c := represents.next.symm.trans isC
  have blank : (a.wire.alloc (.blank i j)) c = .blank i j := by
    rw [← isNextA]
    exact Heap.alloc_self _ _
  have link : (net.link.alloc { client := i, clientSock := k, server := j }) c =
      { client := i, clientSock := k, server := j } := by
    rw [← isC]
    exact Heap.alloc_self _ _
  have new : n.mesh.sock k = ((net.node i).mesh.sock k).connected c := by
    rw [sock, Heap.modify_self]
  have answers : Answers crowd strict
      { net with link := net.link.alloc { client := i, clientSock := k, server := j } }
      { a with wire := a.wire.alloc (.blank i j) } i n c .client k .current [.id, .you] := by
    refine ⟨?_, ?_, ?_, ⟨_, sent, ?_⟩, ?_, ?_, ?_, ?_⟩
    · rw [← isC]
      exact Nat.lt_succ_self _
    · dsimp only
      rw [blank]
      exact Ne.symm other
    · dsimp only
      rw [link]
      rfl
    · dsimp only
      rw [blank, List.flatMap_cons, List.flatMap_cons, Mesh.linesOf_idLine,
        Mesh.linesOf_youLine (named.text j).line]
      exact .cons .id (.cons .you .nil)
    · intro k' differs
      rw [sock, Heap.modify_of_ne _ _ differs]
      exact .refl _
    · intro d differs
      refine ⟨idle d, ?_⟩
      rw [new]
      exact fun same => differs (Thread.receiving.inj same).symm
    · rw [new]
      exact TCPSocket.statusOn_current rfl current.listener
    · intro _ incoming
      rw [new] at incoming
      have listener := current.listener.symm.trans incoming
      cases listener
  have wire : (a.connect i j).wire = a.wire.alloc ⟨i, j, .dialled false⟩ := rfl
  have wired : Wired crowd strict _ (a.connect i j) := answers.wired dialled rfl
    (by
      dsimp only
      rw [wire, ← isNextA, Heap.alloc_self, Heap.alloc_self]
      refine congrArg (Gossip.Wire.mk i j) ?_
      unfold Handshake.Wire.dialled Handshake.Wire.push Gossip.Wire.blank Handshake.Wire.setStatus
      dsimp only
      congr 1
      · funext e
        cases e <;> rfl
      · funext e
        cases e <;> rfl)
    (fun d differs => by
      dsimp only
      rw [wire, Heap.alloc_of_ne _ _ (isNextA.symm ▸ differs),
        Heap.alloc_of_ne _ _ (isNextA.symm ▸ differs)])
  have entries : (a.connect i j).entry i =
      Function.update (a.entry i) j (some ⟨false, false, some c⟩) := by
    rw [← isNextA]
    exact Function.update_self ..
  have tidy : Tidy crowd i n.mesh ((a.connect i j).addressed i) ((a.connect i j).entry i) := by
    rw [entries]
    exact mesh
  have between : Represents crowd strict
      { net with link := net.link.alloc { client := i, clientSock := k, server := j } }
      { a with wire := a.wire.alloc (.blank i j) } :=
    ⟨dialled, represents.mesh, represents.clean, represents.quiet, represents.silent⟩
  refine ⟨a.connect i j, between.take wired tidy ?_ ?_ ?_, .step (.connect i j (Ne.symm other) met)⟩
  · refine tidy.clean named fun d => ?_
    rw [chan]
    exact (represents.clean i).names d
  · intro isStrict
    rw [chan]
    exact represents.quiet isStrict i
  · exact fun p differs => ⟨rfl, Function.update_of_ne differs ..⟩

omit [DecidableEq ι] in
/-- Somebody is at the server's end, and nothing has happened there. -/
theorem Wired.visited (wired : Wired crowd strict net a) (nobody : (net.link c).serverSock = none)
    (idle : ∀ d, ((net.node (net.link c).server).mesh.sock k).thread ≠ .receiving d) :
    Wired crowd strict (net.setLink c fun l => { l with serverSock := some k })
      (a.setLine c (·.setStatus .server .ended)) := by
  refine ⟨wired.next, wired.born, ?_⟩
  intro d known
  have carried := wired.link d known
  have link : (net.setLink c fun l => { l with serverSock := some k }).link d =
      if d = c then { net.link c with serverSock := some k } else net.link d :=
    net.link.modify_apply c d fun l => { l with serverSock := some k }
  rw [Gossip.State.setLine_wire]
  split
  · next same =>
    subst same
    rw [if_pos rfl] at link
    refine ⟨?_, ?_, ?_, ?_, ?_, ?_⟩
    · rw [link]
      exact carried.client
    · rw [link]
      exact carried.server
    · rw [link]
      exact carried.lost
    · intro e
      rw [link, Gossip.Wire.owner_setLine, Gossip.Wire.owner_setLine]
      have queue := carried.queue e
      cases e <;> exact queue
    · intro e
      unfold Network.statusAt Network.sockAt
      rw [link]
      cases e with
      | client => exact carried.status .client
      | server => exact TCPSocket.statusOn_eq_ended.mpr (idle d)
    · intro s member reads
      unfold Network.sockAt at member
      rw [link] at member
      obtain rfl := Option.some.inj member
      exact absurd reads (idle d)
  · next other =>
    rw [if_neg other] at link
    have sockAt (e : End) : Network.sockAt
        (net.setLink c fun l => { l with serverSock := some k }) d e = net.sockAt d e := by
      unfold Network.sockAt
      rw [link]
      rfl
    refine ⟨?_, ?_, ?_, ?_, ?_, ?_⟩
    · rw [link]
      exact carried.client
    · rw [link]
      exact carried.server
    · rw [link]
      exact carried.lost
    · intro e
      rw [link]
      exact carried.queue e
    · intro e
      unfold Network.statusAt
      rw [sockAt]
      exact carried.status e
    · intro s member
      rw [sockAt] at member
      exact carried.peer s member

/-- A connection is accepted. -/
theorem Represents.accepts {yields : ι → ι → Bool} {port : Int32}
    (represents : Represents crowd strict net a) (sane : Gossip.Sane a)
    (placed : crowd.Placed topology) (known : c < net.link.next)
    (nobody : (net.link c).serverSock = none) (isServer : (net.link c).server = j)
    (isNew : n = (net.node j).accepted (topology.source (net.link c).client j) port c) :
    ∃ a', Represents crowd strict (Network.take (net.setLink c fun l =>
        { l with serverSock := some (net.node j).mesh.sock.next }) j n) a' ∧
      Moves strict yields a a' := by
  have tidy := represents.mesh j
  have carried := represents.link c known
  have knownA : c < a.wire.next := represents.next ▸ known
  generalize isK : (net.node j).mesh.sock.next = k
  have fresh : (net.node j).mesh.sock k = {} := by
    rw [← isK]
    exact tidy.fresh _ (Nat.le_refl _)
  have idle (d : ConnId) : ((net.node j).mesh.sock k).thread ≠ .receiving d := by
    rw [fresh]
    exact nofun
  have visited : Wired crowd strict (net.setLink c fun l => { l with serverSock := some k })
      (a.setLine c (·.setStatus .server .ended)) :=
    represents.toWired.visited nobody (isServer ▸ idle)
  have wire : (a.setLine c (·.setStatus .server .ended)).wire c =
      { a.wire c with line := (a.wire c).line.setStatus .server .ended } := by
    rw [Gossip.State.setLine_wire, if_pos rfl]
  have isClient : (net.link c).client = (a.wire c).client := carried.client
  have isServer' : (a.wire c).server = j := carried.server.symm.trans isServer
  have apart := (sane.wire c knownA).apart
  have sock : n.mesh.sock = (net.node j).mesh.sock.alloc
      (.accepted (topology.source (net.link c).client j) port c .incoming true) := by
    rw [isNew]
    rfl
  have new : n.mesh.sock k =
      .accepted (topology.source (net.link c).client j) port c .incoming true := by
    rw [sock, ← isK, Heap.alloc_self]
  have chan : n.chan = (net.node j).chan := by
    rw [isNew]
    rfl
  have mesh : Tidy crowd j n.mesh (a.addressed j) (a.entry j) := by
    rw [isNew]
    exact tidy.accepted _ _ c
  have answers : Answers crowd strict (net.setLink c fun l => { l with serverSock := some k })
      (a.setLine c (·.setStatus .server .ended)) j n c .server k .incoming [] := by
    refine ⟨known, ?_, ?_, ⟨[], ?_, .nil⟩, ?_, ?_, ?_, ?_⟩
    · rw [wire]
      exact apart
    · rw [Network.setLink, Heap.modify_self]
      exact congrArg (fun server => some (server, k)) isServer
    · rw [isNew]
      exact represents.silent j
    · intro k' differs
      rw [sock, Heap.alloc_of_ne _ _ (isK.symm ▸ differs)]
      exact .refl _
    · intro d differs
      refine ⟨idle d, ?_⟩
      rw [new]
      exact fun same => differs (Thread.receiving.inj same).symm
    · rw [new]
      exact TCPSocket.statusOn_incoming rfl rfl
    · intro _ _
      rw [new, wire, isClient]
      change Mesh.localName (topology.source (a.wire c).client j) = _
      rw [placed.presents _ _ (isServer' ▸ apart)]
      rfl
  have between : Represents crowd strict (net.setLink c fun l => { l with serverSock := some k })
      (a.setLine c (·.setStatus .server .ended)) :=
    ⟨visited, represents.mesh, represents.clean, represents.quiet, represents.silent⟩
  refine ⟨a.setLine c (·.setStatus .server .incoming), ?_, .step (.accept c knownA ?_)⟩
  · refine answers.represents between placed.addresses mesh chan (fun _ _ => ⟨rfl, rfl⟩) rfl ?_ ?_
    · rw [wire, Gossip.State.setLine_wire, if_pos rfl, Handshake.Wire.push_nil]
      unfold Handshake.Wire.setStatus
      dsimp only
      rw [Function.update_idem]
    · intro d differs
      rw [Gossip.State.setLine_wire, Gossip.State.setLine_wire, if_neg differs, if_neg differs]
  · rw [← carried.status .server]
    unfold Network.statusAt Network.sockAt Link.socket
    dsimp only
    rw [nobody]
    rfl

end

/-! ## Any action -/

/-- The actions of a crowd: `add_host` is called for other processes of it, or for hosts
that are known already, and the names of channels fit into a line. A `strict` crowd has no
channels. -/
def Crowd.Permits (crowd : Crowd ι) (strict : Prop) (net : Network ι) : Action ι → Prop
  | .call i (.addHost ip port) =>
      (∃ q, q ≠ i ∧ ip = crowd.ip q ∧ port = crowd.port q) ∨
        (net.node i).mesh.hasHost ip port = true
  | .call _ (.publish name) | .call _ (.subscribe name) => ¬ strict ∧ LineSafe name
  | .call _ (.unpublish _) | .call _ .announce | .call _ (.dataEof _) => ¬ strict
  | .call _ _ => False
  | .dataConnect _ _ _ _ | .dataAccept _ _ => ¬ strict
  | .connect _ _ _ | .accept _ _ | .deliver _ _ | .eof _ _ | .lose _ => True

/-- Nobody is asked by a new connection to move an entry that is ready. -/
def Gossip.Careful (yields : ι → ι → Bool) (a : Gossip.State ι) (action : Action ι) : Prop :=
  ∀ c < a.wire.next, action = .deliver c .server → (a.wire c).line.status .server = .incoming →
    (∀ entry, a.entry (a.wire c).server (a.wire c).client = some entry →
      yields (a.wire c).server (a.wire c).client = true ∨ entry.server = true) →
        a.ready (a.wire c).server (a.wire c).client = false

section

variable [DecidableEq ι] {crowd : Crowd ι} {strict : Prop} {net net' : Network ι}
  {topology : Topology ι} {a : Gossip.State ι} {i : ι} {input : Node.Input} {action : Action ι}

/-- A call of the application. -/
theorem Represents.call (represents : Represents crowd strict net a) (sane : Gossip.Sane a)
    (named : crowd.Named) (permits : crowd.Permits strict net (.call i input))
    (told : net.tell i input = .ok net') :
    ∃ a', Represents crowd strict net' a' ∧ Moves strict crowd.yields a a' := by
  obtain ⟨n, reacted, rfl⟩ := Network.tell_eq_ok.mp told
  have clean := represents.clean i
  cases input with
  | addHost ip port =>
      have isNew := Fallible.pure_eq_ok.mp reacted
      rcases permits with ⟨q, other, rfl, rfl⟩ | known
      · exact represents.meets named other isNew.symm
      · have same : n = net.node i := by
          rw [← isNew]
          unfold Mesh.addHost
          rw [if_pos known]
        rw [same, Network.take_self (represents.silent i)]
        exact ⟨a, represents, .still rfl⟩
  | publish name =>
      exact represents.chats sane permits.1 (Node.publish_chats clean permits.2 reacted)
  | unpublish name => exact represents.chats sane permits (Node.unpublish_chats clean reacted)
  | subscribe name =>
      exact represents.chats sane permits.1 (Node.subscribe_chats clean permits.2 reacted)
  | announce =>
      have chats := Node.broadcastPublishedChannels_chats clean
      rw [Fallible.pure_eq_ok.mp reacted] at chats
      exact represents.chats sane permits chats
  | dataEof k => exact represents.chats sane permits (Node.dataEof_chats clean reacted)
  | connected | accepted | line | eof | dataConnected | dataAccepted => exact permits.elim

omit [DecidableEq ι] in
/-- The data connections are no part of the protocol. -/
theorem Represents.of_dataLink (represents : Represents crowd strict net a)
    (dataLink : Heap (DataLink ι)) :
    Represents crowd strict { net with dataLink := dataLink } a := by
  refine ⟨⟨represents.next, represents.born, fun c known => ?_⟩, represents.mesh, represents.clean,
    represents.quiet, represents.silent⟩
  have carried := represents.link c known
  exact ⟨carried.client, carried.server, carried.lost, carried.queue, carried.status, carried.peer⟩

/-- The simulation. -/
theorem Represents.step (represents : Represents crowd strict net a) (sane : Gossip.Sane a)
    (placed : crowd.Placed topology) (permits : crowd.Permits strict net action)
    (careful : strict → Gossip.Careful crowd.yields a action)
    (step : Network.Step topology net action net') :
    ∃ a', Represents crowd strict net' a' ∧ Moves strict crowd.yields a a' := by
  obtain ⟨enabled, reacted⟩ := step
  have named := placed.addresses
  cases action with
  | call i input => exact represents.call sane named permits reacted
  | connect i k j =>
      obtain ⟨n, ran, rfl⟩ := Network.tell_eq_ok.mp reacted
      obtain ⟨dialling, reaches, port⟩ := enabled
      exact represents.connects sane placed dialling reaches port (Fallible.pure_eq_ok.mp ran).symm
  | accept c port =>
      obtain ⟨n, ran, rfl⟩ := Network.tell_eq_ok.mp reacted
      obtain ⟨known, nobody⟩ := enabled
      exact represents.accepts sane placed known nobody rfl (Fallible.pure_eq_ok.mp ran).symm
  | deliver c e =>
      obtain ⟨⟨s, member, reads⟩, nonempty⟩ := enabled
      obtain ⟨⟨i, k⟩, socket, rfl⟩ := Option.map_eq_some_iff.mp (Option.mem_def.mp member)
      obtain ⟨t, rest, head⟩ := List.exists_cons_of_ne_nil nonempty
      unfold Network.react at reacted
      dsimp only at reacted
      rw [socket, head] at reacted
      obtain ⟨n, ran, rfl⟩ := Network.tell_eq_ok.mp reacted
      refine represents.line sane named placed.distinct socket reads head ?_ ran
      rintro isStrict rfl
      exact careful isStrict c (represents.next ▸ represents.born i k c reads) rfl
  | eof c e =>
      obtain ⟨⟨s, member, reads⟩, why⟩ := enabled
      obtain ⟨⟨i, k⟩, socket, rfl⟩ := Option.map_eq_some_iff.mp (Option.mem_def.mp member)
      unfold Network.react at reacted
      dsimp only at reacted
      rw [socket] at reacted
      obtain ⟨n, ran, rfl⟩ := Network.tell_eq_ok.mp reacted
      by_cases heard : ∃ h, ((net.node i).mesh.sock k).listeners = some (.host h)
      · obtain ⟨h, listener⟩ := heard
        obtain ⟨entry, listens⟩ := represents.listens sane socket reads listener
        exact listens.eof represents sane named why ran
      · have unheard (h : HostPtr) : ((net.node i).mesh.sock k).listeners ≠ some (.host h) :=
          fun listener => heard ⟨h, listener⟩
        exact (represents.waits sane socket reads unheard).eof represents sane named unheard why ran
  | lose c =>
      have isNew := Fallible.pure_eq_ok.mp reacted
      refine ⟨a.setLine c fun w => { w with lost := true }, ?_, .step (.lose c ?_)⟩
      · rw [← isNew]
        exact ⟨represents.toWired.lose c, represents.mesh, represents.clean, represents.quiet,
          represents.silent⟩
      · exact represents.next ▸ enabled
  | dataConnect i k j channel =>
      obtain ⟨n, ran, rfl⟩ := Network.tell_eq_ok.mp reacted
      exact (represents.of_dataLink _).chats sane permits
        (Node.dataConnected_chats (represents.clean i) ran)
  | dataAccept d port =>
      obtain ⟨n, ran, rfl⟩ := Network.tell_eq_ok.mp reacted
      have chats := Node.acceptSubscriptor_chats (represents.clean (net.dataLink d).server)
        (net.dataLink d).channel
        (topology.source (net.dataLink d).client (net.dataLink d).server) port d
      rw [Fallible.pure_eq_ok.mp ran] at chats
      exact (represents.of_dataLink _).chats sane permits chats

end

end LibPubSub
