import LibPubSub.Hearing

/-! What the lines and the ends of connections are to the gossip protocol when no Host
hears them: an accepted connection waits for `ID=`, a closed one is read to its end. -/

set_option autoImplicit false

namespace LibPubSub

open Handshake (Message Status Entry talk)

variable {ι : Type}

/-! ## Sockets that no Host hears -/

/-- Socket `k` of process `i` is at end `e` of connection `c`, and no Host hears it. -/
structure Waits (net : Network ι) (a : Gossip.State ι) (c : ConnId) (e : End) (i : ι)
    (k : SockPtr) : Prop where
  known : c < net.link.next
  apart : (a.wire c).client ≠ (a.wire c).server
  socket : (net.link c).socket e = some (i, k)
  owner : (a.wire c).owner e = i
  reads : ((net.node i).mesh.sock k).thread = .receiving c
  status : (a.wire c).line.status e = ((net.node i).mesh.sock k).statusOn c
  inside : k < (net.node i).mesh.sock.next
  free : ∀ h, ((net.node i).mesh.host h).socket ≠ some k
  aside : IsAside ((net.node i).mesh.sock k)

section

variable {crowd : Crowd ι} {strict : Prop} {net : Network ι} {a a' : Gossip.State ι} {i : ι}
  {n : Node} {c : ConnId} {e : End} {k : SockPtr} {t : Str} {rest : List Str}

theorem Represents.inside (represents : Represents crowd strict net a)
    (reads : ((net.node i).mesh.sock k).thread = .receiving c) :
    k < (net.node i).mesh.sock.next := by
  by_contra outside
  rw [(represents.mesh i).fresh k (Nat.le_of_not_lt outside)] at reads
  cases reads

theorem Represents.waits (represents : Represents crowd strict net a) (sane : Gossip.Sane a)
    (socket : (net.link c).socket e = some (i, k))
    (reads : ((net.node i).mesh.sock k).thread = .receiving c)
    (unheard : ∀ h, ((net.node i).mesh.sock k).listeners ≠ some (.host h)) :
    Waits net a c e i k := by
  have known := represents.born i k c reads
  have carried := represents.link c known
  have inside := represents.inside reads
  have free (h : HostPtr) : ((net.node i).mesh.host h).socket ≠ some k := by
    intro owns
    obtain ⟨_, _, _, _, _, _, current⟩ := (represents.mesh i).host_of_socket owns
    exact unheard h current.listener
  refine ⟨known, ?_, socket, carried.owner socket, reads, ?_, inside, free,
    (represents.mesh i).aside k inside free⟩
  · exact (sane.wire c (represents.next ▸ known)).apart
  · rw [← carried.status e]
    exact Carried.statusAt_of_socket socket

namespace Waits

/-- A connection that waits for `ID=` has been accepted here. -/
theorem server (waits : Waits net a c e i k) (sane : Gossip.Sane a) (known : c < a.wire.next)
    (listener : ((net.node i).mesh.sock k).listeners = some .incoming) : e = .server := by
  cases e with
  | server => rfl
  | client =>
      have status := waits.status
      rw [TCPSocket.statusOn_incoming waits.reads listener] at status
      rcases (sane.wire c known).client with same | same | same
      all_goals
        rw [same] at status
        split at status <;> cases status

theorem dropped (waits : Waits net a c e i k)
    (unheard : ((net.node i).mesh.sock k).listeners = none) :
    (a.wire c).line.status e = .dropped :=
  waits.status.trans (TCPSocket.statusOn_dropped waits.reads unheard)

theorem incoming (waits : Waits net a c e i k)
    (listener : ((net.node i).mesh.sock k).listeners = some .incoming)
    (isOpen : ((net.node i).mesh.sock k).fdOpen = true) :
    (a.wire c).line.status e = .incoming := by
  rw [waits.status, TCPSocket.statusOn_incoming waits.reads listener, if_pos isOpen]

theorem rejected (waits : Waits net a c e i k)
    (listener : ((net.node i).mesh.sock k).listeners = some .incoming)
    (closed : ((net.node i).mesh.sock k).fdOpen = false) :
    (a.wire c).line.status e = .rejected := by
  rw [waits.status, TCPSocket.statusOn_incoming waits.reads listener, closed]
  rfl

end Waits

/-- Only `ID=` starts with `ID=`. -/
theorem Means.id_of_starts {p q : ι} {message : Message (Option ι)}
    (means : Means crowd strict p q t message) (starts : strStartsWith t "ID=".toList = true) :
    message = .id := by
  cases means with
  | id => rfl
  | you =>
      rw [strStartsWith_eq_false Mesh.youLine_starts (by decide)] at starts
      cases starts
  | connected =>
      have foreign : strStartsWith "CONNECTED".toList "ID=".toList = false := by decide
      rw [foreign] at starts
      cases starts
  | host r =>
      rw [strStartsWith_eq_false Mesh.hostText_starts (by decide)] at starts
      cases starts
  | statement chatty statement =>
      rw [statement.notId] at starts
      cases starts

variable [DecidableEq ι]

theorem Network.take_self (silent : (net.node i).mesh.sent = []) :
    net.take i (net.node i) = net := by
  have same : ({ net.node i with mesh := { (net.node i).mesh with sent := [] } } : Node) =
      net.node i := by
    rw [← silent]
  unfold Network.take
  rw [same, Function.update_eq_self]
  simp only [silent, Link.carry_nil]

/-- A line reaches a socket that its owner has closed. -/
theorem Waits.ignores {yields : ι → ι → Bool} (waits : Waits net a c e i k)
    (represents : Represents crowd strict net a) (head : (net.link c).queue e = t :: rest)
    (closed : (a.wire c).line.status e = .rejected ∨ (a.wire c).line.status e = .dropped)
    {first : Message (Option ι)} {tail : List (Message (Option ι))}
    (line : (a.wire c).line.queue e = first :: tail) :
    Represents crowd strict ((net.setLink c (·.setQueue rest e)).take i (net.node i))
        (a.setLine c (·.pop e)) ∧
      Moves strict yields a (a.setLine c (·.pop e)) := by
  refine ⟨?_, .step (.ignore c e (represents.next ▸ waits.known) closed first tail line)⟩
  have silent : ((net.setLink c (·.setQueue rest e)).node i).mesh.sent = [] := represents.silent i
  rw [show net.node i = (net.setLink c (·.setQueue rest e)).node i from rfl, Network.take_self silent]
  exact represents.pop head

/-! ## `ID=` on an accepted connection -/

omit [DecidableEq ι] in
/-- What a server says when it takes a connection. -/
theorem Means.greeting (named : crowd.Named) (p q : ι) (ready : Bool) :
    List.Forall₂ (Means crowd strict p q) ((Tidy.greeting crowd p q ready).flatMap linesOf)
      (.id :: .you :: if ready then [] else [.connected]) := by
  have connected : linesOf "CONNECTED".toList = ["CONNECTED".toList] := by decide
  have lines : (Tidy.greeting crowd p q ready).flatMap linesOf = Tidy.greeting crowd p q ready := by
    unfold Tidy.greeting
    rw [List.flatMap_cons, List.flatMap_cons, Mesh.linesOf_idLine,
      Mesh.linesOf_youLine (named.text q).line]
    cases ready with
    | true => rfl
    | false =>
        rw [if_neg Bool.false_ne_true, List.flatMap_cons, connected]
        rfl
  rw [lines]
  unfold Tidy.greeting
  refine .cons .id (.cons .you ?_)
  cases ready with
  | true => exact .nil
  | false => exact .cons .connected .nil

/-- Socket `k` becomes the socket of a Host, which greets on it. -/
theorem Wired.attaches {h : HostPtr} {r : Bool} (wired : Wired crowd strict net a)
    (named : crowd.Named) (known : c < net.link.next) (apart : (a.wire c).client ≠ (a.wire c).server)
    (socket : (net.link c).socket .server = some (i, k))
    (reads : ((net.node i).mesh.sock k).thread = .receiving c)
    (head : (net.link c).queue .server = t :: rest)
    (new : n.mesh.sock k =
      { (net.node i).mesh.sock k with bLinebuffer := true, listeners := some (.host h) })
    (others : ∀ k', k' ≠ k → ((net.node i).mesh.sock k').Steady (n.mesh.sock k'))
    (sent : n.mesh.sent =
      saying (some (c, .server)) (Tidy.greeting crowd i (a.wire c).client r)) :
    Wired crowd strict ((net.setLink c (·.setQueue rest .server)).take i n)
      (a.attach i (a.wire c).client c r) := by
  have wire : (a.setLine c (·.pop .server)).wire c =
      { a.wire c with line := (a.wire c).line.pop .server } := by
    rw [Gossip.State.setLine_wire, if_pos rfl]
  have thread : (n.mesh.sock k).thread = .receiving c := by
    rw [new]
    exact reads
  have answers : Answers crowd strict (net.setLink c (·.setQueue rest .server))
      (a.setLine c (·.pop .server)) i n c .server k .current
      (.id :: .you :: if r then [] else [.connected]) := by
    refine ⟨known, ?_, ?_, ⟨_, sent, ?_⟩, others, ?_, ?_, ?_⟩
    · rw [wire]
      exact apart
    · rw [Network.setLink, Heap.modify_self, Link.socket_setQueue]
      exact socket
    · rw [wire]
      exact Means.greeting named i _ r
    · intro d other
      have elsewhere : Thread.receiving c ≠ .receiving d :=
        fun same => other (Thread.receiving.inj same).symm
      constructor
      · change ((net.node i).mesh.sock k).thread ≠ _
        rw [reads]
        exact elsewhere
      · rw [thread]
        exact elsewhere
    · exact TCPSocket.statusOn_current thread (by rw [new])
    · intro _ incoming
      rw [new] at incoming
      cases incoming
  refine answers.wired (wired.pop head) rfl ?_ ?_
  · unfold Gossip.State.attach
    rw [wire, Gossip.State.setLine_wire, if_pos rfl]
    rfl
  · intro d other
    unfold Gossip.State.attach
    rw [Gossip.State.setLine_wire, if_neg other, Gossip.State.setLine_wire, if_neg other]
    rfl

omit [DecidableEq ι] in
/-- The connection that an entry talks on ends at the socket of its Host. -/
theorem Represents.listens_of_voice {h : HostPtr} {q : ι} {entry : Entry} (represents : Represents crowd strict net a)
    (sane : Gossip.Sane a) (met : a.entry i q = some entry)
    (isHost : IsHost crowd (net.node i).mesh q entry h)
    (owns : ((net.node i).mesh.host h).socket = some k) (conn : entry.conn = some c) :
    Listens crowd net a c entry.side i k h entry ∧ (a.wire c).owner entry.side.other = q := by
  have voice : a.voice i q = some (c, entry.side) := by
    rw [Gossip.State.voice_of_entry met, conn]
    rfl
  obtain ⟨knownA, owner, other, current⟩ := sane.voice _ _ _ _ voice
  have known : c < net.link.next := represents.next.symm ▸ knownA
  obtain ⟨k', owns', _, isCurrent⟩ := isHost.socket
  obtain rfl := Option.some.inj (owns'.symm.trans owns)
  have status := (represents.link c known).status entry.side
  rw [current] at status
  -- somebody is at that end, and it is the process itself
  cases socket : (net.link c).socket entry.side with
  | none =>
      unfold Network.statusAt Network.sockAt at status
      rw [socket] at status
      cases status
  | some holder =>
      obtain ⟨j, k''⟩ := holder
      obtain rfl : i = j := owner.symm.trans ((represents.link c known).owner socket)
      rw [Carried.statusAt_of_socket socket] at status
      have reads : ((net.node i).mesh.sock k'').thread = .receiving c := by
        by_contra elsewhere
        rw [TCPSocket.statusOn_eq_ended.mpr elsewhere] at status
        cases status
      have heard : ∃ h', ((net.node i).mesh.sock k'').listeners = some (.host h') := by
        unfold TCPSocket.statusOn at status
        rw [if_pos reads] at status
        split at status
        · cases status
        · split at status <;> cases status
        · next h' listener => exact ⟨h', listener⟩
      obtain ⟨h', listener⟩ := heard
      obtain ⟨entry', listens⟩ := represents.listens sane socket reads listener
      have met' := listens.met
      rw [other, met] at met'
      obtain rfl := Option.some.inj met'
      have isHost' := listens.isHost
      rw [other] at isHost'
      obtain rfl := (represents.mesh i).unique q h h' isHost.toKnows isHost'.toKnows
      obtain rfl := Option.some.inj (listens.owns.symm.trans owns)
      exact ⟨listens, other⟩

theorem TCPSocket.Steady.dropped {s : TCPSocket SignalingListener}
    (idle : ∀ c, s.thread ≠ .receiving c) : s.Steady (s.removeListeners.close true) := by
  refine ⟨fun c => ?_, nofun⟩
  rw [TCPSocket.statusOn_eq_ended.mpr (idle c)]
  exact TCPSocket.statusOn_eq_ended.mpr (idle c)

namespace Gossip.State

variable {x y : ι} {s : Status} {ready : Bool}

theorem adopt_entry_self :
    ((a.release x y s).attach x y c ready).entry x =
      Function.update (a.entry x) y (some ⟨true, ready, some c⟩) := by
  funext z
  by_cases same : z = y
  · rw [same, Function.update_self]
    exact (a.release x y s).setEntry_self x y _
  · rw [Function.update_of_ne same]
    have other : ¬ (x = x ∧ z = y) := fun both => same both.2
    exact ((a.release x y s).setEntry_of_ne _ other).trans (a.release_entry_of_ne s other)

theorem adopt_entry_of_ne {p : ι} (differs : p ≠ x) :
    ((a.release x y s).attach x y c ready).entry p = a.entry p := by
  funext z
  have other : ¬ (p = x ∧ z = y) := fun both => differs both.1
  exact ((a.release x y s).setEntry_of_ne _ other).trans (a.release_entry_of_ne s other)

theorem adopt_addressed : ((a.release x y s).attach x y c ready).addressed = a.addressed :=
  a.release_addressed x y s

end Gossip.State

/-- Who has the lower ID gives way. -/
def Crowd.yields (crowd : Crowd ι) (x y : ι) : Bool :=
  decide (crowd.ID x < crowd.ID y)

namespace Waits

omit [DecidableEq ι] in
theorem isIncoming (waits : Waits net a c .server i k) (represents : Represents crowd strict net a)
    (listener : ((net.node i).mesh.sock k).listeners = some .incoming)
    (isOpen : ((net.node i).mesh.sock k).fdOpen = true) :
    IsIncoming crowd (a.wire c).client c ((net.node i).mesh.sock k) := by
  refine ⟨listener, waits.aside.server listener, ?_, ⟨waits.reads, isOpen⟩,
    (waits.aside.incoming isOpen).2⟩
  refine (represents.link c waits.known).peer _ ?_ waits.reads listener
  unfold Network.sockAt
  rw [waits.socket]
  rfl

/-- The Host of a process that gets its way leaves its connection for the new one. -/
theorem adopts {q : ι} {h : HostPtr} {old : SockPtr} {entry : Entry}
    (waits : Waits net a c .server i k) (represents : Represents crowd strict net a)
    (sane : Gossip.Sane a) (named : crowd.Named) (isClient : (a.wire c).client = q)
    (incoming : (a.wire c).line.status .server = .incoming)
    (head : (net.link c).queue .server = t :: rest) (met : a.entry i q = some entry)
    (isHost : IsHost crowd (net.node i).mesh q entry h)
    (owns : ((net.node i).mesh.host h).socket = some old)
    (sock : n.mesh.sock = ((net.node i).mesh.sock.modify old fun s =>
      s.removeListeners.close true).modify k fun s =>
        { s with bLinebuffer := true, listeners := some (.host h) })
    (sent : n.mesh.sent = saying (some (c, .server)) (Tidy.greeting crowd i q entry.ready)) :
    Wired crowd strict ((net.setLink c (·.setQueue rest .server)).take i n)
      ((a.release i q .dropped).attach i q c entry.ready) := by
  have notOld : k ≠ old := by
    rintro rfl
    exact waits.free h owns
  have newOf (k' : SockPtr) (differs : k' ≠ k) : n.mesh.sock k' =
      ((net.node i).mesh.sock.modify old fun s => s.removeListeners.close true) k' := by
    rw [sock]
    exact Heap.modify_of_ne _ _ differs
  have newSelf : n.mesh.sock k =
      { (net.node i).mesh.sock k with bLinebuffer := true, listeners := some (.host h) } := by
    rw [sock, Heap.modify_self, Heap.modify_of_ne _ _ notOld]
  obtain ⟨old', owns', _, current⟩ := isHost.socket
  obtain rfl := Option.some.inj (owns'.symm.trans owns)
  cases conn : entry.conn with
  | none =>
      have silent : a.voice i q = none := by
        rw [Gossip.State.voice_of_entry met, conn]
        rfl
      have idle (d : ConnId) : ((net.node i).mesh.sock old').thread ≠ .receiving d := by
        intro thread
        have waiting := (current.idle conn).2
        rw [thread] at waiting
        split at waiting
        · cases waiting
        · cases waiting.1
      rw [Gossip.State.release_silent _ silent, ← isClient]
      refine represents.toWired.attaches named waits.known waits.apart waits.socket waits.reads head
        newSelf ?_ (by rw [isClient]; exact sent)
      intro k' differs
      rw [newOf k' differs]
      by_cases isOld : k' = old'
      · rw [isOld, Heap.modify_self]
        exact .dropped idle
      · rw [Heap.modify_of_ne _ _ isOld]
        exact .refl _
  | some d =>
      obtain ⟨listens, isOther⟩ := represents.listens_of_voice sane met isHost owns conn
      have voice : a.voice i q = some (d, entry.side) := by
        rw [Gossip.State.voice_of_entry met, conn]
        rfl
      -- first the old socket is dropped
      generalize isLess : ((net.node i).mesh.setSock old' fun s => s.removeListeners.close true) = less
      generalize isMid : ({ net.node i with mesh := less } : Node) = mid
      have midSock : mid.mesh.sock =
          (net.node i).mesh.sock.modify old' fun s => s.removeListeners.close true := by
        rw [← isMid, ← isLess]
        rfl
      have midSilent : mid.mesh.sent = [] := by
        rw [← isMid, ← isLess]
        exact represents.silent i
      have answers : Answers crowd strict net a i mid d entry.side old' .dropped [] := by
        have thread : (mid.mesh.sock old').thread = .receiving d := by
          rw [midSock, Heap.modify_self]
          exact listens.reads
        have elsewhere {d' : ConnId} (other : d' ≠ d) : Thread.receiving d ≠ .receiving d' :=
          fun same => other (Thread.receiving.inj same).symm
        refine ⟨listens.known, listens.apart, listens.socket, ⟨[], midSilent, .nil⟩, ?_, ?_, ?_, ?_⟩
        · intro k' differs
          rw [midSock, Heap.modify_of_ne _ _ differs]
          exact .refl _
        · intro d' other
          rw [thread, listens.reads]
          exact ⟨elsewhere other, elsewhere other⟩
        · refine TCPSocket.statusOn_dropped thread ?_
          rw [midSock, Heap.modify_self]
          rfl
        · intro _ isIncoming
          rw [midSock, Heap.modify_self] at isIncoming
          cases isIncoming
      have dropped : Wired crowd strict (net.take i mid) (a.release i q .dropped) := by
        refine answers.wired represents.toWired (a.release_next i q .dropped) ?_ ?_
        · rw [Gossip.State.release_talking _ voice, Gossip.State.setLine_wire, if_pos rfl,
            Handshake.Wire.push_nil]
          rfl
        · intro d' other
          rw [Gossip.State.release_talking _ voice, Gossip.State.setLine_wire, if_neg other]
          rfl
      have isServer : (a.wire c).server = i := waits.owner
      have same : (a.release i q .dropped).wire c = a.wire c := by
        rw [← isServer]
        exact sane.release_wire_of_incoming _ incoming
      have link : (net.take i mid).link c = net.link c := by
        rw [Network.take_link, midSilent, Link.carry_nil]
      -- then the new one is taken
      have midNode : (net.take i mid).node i = mid := by
        rw [Network.take_node_self, ← midSilent]
      have attached := dropped.attaches (n := n) (c := c) (i := i) (k := k) (t := t)
        (h := h) (r := entry.ready) named waits.known (by rw [same]; exact waits.apart)
        (by rw [link]; exact waits.socket)
        (by rw [midNode, midSock, Heap.modify_of_ne _ _ notOld]; exact waits.reads)
        (by rw [link]; exact head)
        (by rw [midNode, midSock, Heap.modify_of_ne _ _ notOld]; exact newSelf)
        (fun k' differs => by rw [midNode, midSock, newOf k' differs]; exact .refl _)
        (by rw [same, isClient]; exact sent)
      rw [same, isClient] at attached
      have network : ((net.take i mid).setLink c (·.setQueue rest .server)).take i n =
          (net.setLink c (·.setQueue rest .server)).take i n := by
        unfold Network.take Network.setLink
        simp only [midSilent, Link.carry_nil, Function.update_idem]
      rw [← network]
      exact attached

/-- `ID=` reaches a connection that waits for it. -/
theorem idLine {q : ι} {talks : List (Option ι)} (waits : Waits net a c .server i k)
    (represents : Represents crowd strict net a) (sane : Gossip.Sane a) (named : crowd.Named)
    (distinct : ∀ p q, p ≠ q → crowd.ID p ≠ crowd.ID q)
    (listener : ((net.node i).mesh.sock k).listeners = some .incoming)
    (isOpen : ((net.node i).mesh.sock k).fdOpen = true) (isClient : (a.wire c).client = q)
    (isId : t = Mesh.idLine (crowd.ID q) (crowd.port q))
    (head : (net.link c).queue .server = t :: rest)
    (first : (a.wire c).line.queue .server = .id :: .you :: talk talks)
    (careful : strict → (∀ entry, a.entry i q = some entry →
      crowd.yields i q = true ∨ entry.server = true) → a.ready i q = false)
    (ran : (net.node i).line k t = .ok n) :
    ∃ a', Represents crowd strict ((net.setLink c (·.setQueue rest .server)).take i n) a' ∧
      Moves strict crowd.yields a a' := by
  have tidy := represents.mesh i
  have incoming := waits.incoming listener isOpen
  have isIncoming := waits.isIncoming represents listener isOpen
  rw [isClient] at isIncoming
  have isServer : (a.wire c).server = i := waits.owner
  have knownA : c < a.wire.next := represents.next ▸ waits.known
  have other : q ≠ i := by
    rintro rfl
    exact waits.apart (isClient.trans isServer.symm)
  rw [isId, Node.line_incoming listener] at ran
  have isNew := Except.ok.inj ran
  generalize isMesh : (net.node i).mesh.handleIncomingConnection k
    (Mesh.idLine (crowd.ID q) (crowd.port q)) = m at isNew
  have chan : n.chan = (net.node i).chan := by
    rw [← isNew]
  have silent := represents.silent i
  -- what is common to all outcomes
  have whole {b : Gossip.State ι}
      (wired : Wired crowd strict ((net.setLink c (·.setQueue rest .server)).take i n) b)
      (mesh : Tidy crowd i m (b.addressed i) (b.entry i))
      (bystanders : ∀ p, p ≠ i → b.addressed p = a.addressed p ∧ b.entry p = a.entry p) :
      Represents crowd strict ((net.setLink c (·.setQueue rest .server)).take i n) b := by
    have mesh' : Tidy crowd i n.mesh (b.addressed i) (b.entry i) := by
      rw [← isNew]
      exact mesh
    refine (represents.pop head).take wired mesh' (mesh'.clean named fun d => ?_) ?_ bystanders
    · rw [chan]
      exact (represents.clean i).names d
    · intro isStrict
      rw [chan]
      exact represents.quiet isStrict i
  have adopt (ready : Bool) (isReady : a.ready i q = ready)
      (allowed : ∀ entry, a.entry i q = some entry →
        crowd.yields i q = true ∨ entry.server = true) :
      Moves strict crowd.yields a ((a.release i q .dropped).attach i q c ready) := by
    subst isClient isServer isReady
    exact .step (.adopt c knownA incoming _ first allowed fun isStrict => careful isStrict allowed)
  cases met : a.entry i q with
  | none =>
      obtain ⟨mesh, sent, sock⟩ :=
        tidy.incoming_unmet named other met waits.inside isIncoming isMesh.symm
      rw [silent, List.nil_append] at sent
      have mute : a.voice i q = none := by
        unfold Gossip.State.voice
        rw [met]
      have unready : a.ready i q = false := sane.idle i q mute
      have wired := represents.toWired.attaches (n := n) (h := (net.node i).mesh.host.next)
        (r := false) named waits.known waits.apart waits.socket waits.reads head
        (by rw [← isNew, sock, Heap.modify_self])
        (fun k' differs => by rw [← isNew, sock, Heap.modify_of_ne _ _ differs]; exact .refl _)
        (by rw [← isNew, isClient]; exact sent)
      rw [isClient, ← Gossip.State.release_silent .dropped mute] at wired
      refine ⟨_, whole wired ?_ ?_, adopt false unready ?_⟩
      · rw [Gossip.State.adopt_entry_self, Gossip.State.adopt_addressed]
        exact mesh
      · intro p differs
        rw [Gossip.State.adopt_entry_of_ne differs, Gossip.State.adopt_addressed]
        exact ⟨rfl, rfl⟩
      · intro entry found
        rw [met] at found
        cases found
  | some entry =>
      by_cases wins : crowd.ID i < crowd.ID q ∨ entry.server = true
      · obtain ⟨mesh, sent, h, old, isHost, owns, sock⟩ :=
          tidy.incoming_adopted named other met waits.inside isIncoming wins isMesh.symm
        rw [silent, List.nil_append] at sent
        have wired := waits.adopts (n := n) represents sane named isClient incoming head met isHost
          owns (by rw [← isNew]; exact sock) (by rw [← isNew]; exact sent)
        refine ⟨_, whole wired ?_ ?_, adopt entry.ready (Gossip.State.ready_of_entry met) ?_⟩
        · rw [Gossip.State.adopt_entry_self, Gossip.State.adopt_addressed]
          exact mesh
        · intro p differs
          rw [Gossip.State.adopt_entry_of_ne differs, Gossip.State.adopt_addressed]
          exact ⟨rfl, rfl⟩
        · intro entry' found
          obtain rfl := Option.some.inj (met.symm.trans found)
          exact wins.imp decide_eq_true fun isServer => isServer
      · obtain ⟨keeps, isDialled⟩ := not_or.mp wins
        have dialled : entry.server = false := by simpa using isDialled
        obtain ⟨mesh, sent, sock⟩ := tidy.incoming_rejected named other (distinct i q (Ne.symm other))
          met waits.inside isIncoming keeps dialled isMesh.symm
        rw [silent] at sent
        have newSelf : n.mesh.sock k = ((net.node i).mesh.sock k).close true := by
          rw [← isNew, sock, Heap.modify_self]
        have wire : (a.setLine c (·.pop .server)).wire c =
            { a.wire c with line := (a.wire c).line.pop .server } := by
          rw [Gossip.State.setLine_wire, if_pos rfl]
        have answers : Answers crowd strict (net.setLink c (·.setQueue rest .server))
            (a.setLine c (·.pop .server)) i n c .server k .rejected [] := by
          refine ⟨waits.known, ?_, ?_, ⟨[], ?_, .nil⟩, ?_, ?_, ?_, ?_⟩
          · rw [wire]
            exact waits.apart
          · rw [Network.setLink, Heap.modify_self, Link.socket_setQueue]
            exact waits.socket
          · rw [← isNew]
            exact sent
          · intro k' differs
            rw [← isNew, sock, Heap.modify_of_ne _ _ differs]
            exact .refl _
          · intro d differs
            have elsewhere : Thread.receiving c ≠ .receiving d :=
              fun same => differs (Thread.receiving.inj same).symm
            rw [newSelf]
            change ((net.node i).mesh.sock k).thread ≠ _ ∧ ((net.node i).mesh.sock k).thread ≠ _
            rw [waits.reads]
            exact ⟨elsewhere, elsewhere⟩
          · rw [newSelf]
            exact TCPSocket.statusOn_incoming (s := ((net.node i).mesh.sock k).close true)
              waits.reads listener
          · intro _ _
            rw [newSelf, wire, isClient]
            exact isIncoming.peer
        have wired : Wired crowd strict _
            (a.setLine c fun w => (w.pop .server).setStatus .server .rejected) := answers.wired
          (represents.toWired.pop head) rfl
          (by
            rw [wire, Gossip.State.setLine_wire, if_pos rfl, Handshake.Wire.push_nil])
          (fun d differs => by
            rw [Gossip.State.setLine_wire, if_neg differs, Gossip.State.setLine_wire, if_neg differs])
        refine ⟨_, whole wired mesh fun _ _ => ⟨rfl, rfl⟩, ?_⟩
        subst isClient isServer
        exact .step (.reject c knownA incoming _ first entry met (decide_eq_false keeps) dialled)

end Waits

/-! ## Lines and ends -/

omit [DecidableEq ι] in
theorem Wired.head (wired : Wired crowd strict net a) (known : c < net.link.next)
    (head : (net.link c).queue e = t :: rest) :
    ∃ first tail, (a.wire c).line.queue e = first :: tail ∧
      Means crowd strict ((a.wire c).owner e.other) ((a.wire c).owner e) t first := by
  have queue := (wired.link c known).queue e
  rw [head] at queue
  generalize (a.wire c).line.queue e = lines at queue
  cases queue with
  | cons means _ => exact ⟨_, _, rfl, means⟩

/-- A line is received. -/
theorem Represents.line (represents : Represents crowd strict net a) (sane : Gossip.Sane a)
    (named : crowd.Named) (distinct : ∀ p q, p ≠ q → crowd.ID p ≠ crowd.ID q)
    (socket : (net.link c).socket e = some (i, k))
    (reads : ((net.node i).mesh.sock k).thread = .receiving c)
    (head : (net.link c).queue e = t :: rest)
    (careful : strict → e = .server → (a.wire c).line.status .server = .incoming →
      (∀ entry, a.entry (a.wire c).server (a.wire c).client = some entry →
        crowd.yields (a.wire c).server (a.wire c).client = true ∨ entry.server = true) →
          a.ready (a.wire c).server (a.wire c).client = false)
    (ran : (net.node i).line k t = .ok n) :
    ∃ a', Represents crowd strict ((net.setLink c (·.setQueue rest e)).take i n) a' ∧
      Moves strict crowd.yields a a' := by
  have known := represents.born i k c reads
  obtain ⟨first, tail, lines, means⟩ := represents.toWired.head known head
  by_cases heard : ∃ h, ((net.node i).mesh.sock k).listeners = some (.host h)
  · obtain ⟨h, listener⟩ := heard
    obtain ⟨entry, listens⟩ := represents.listens sane socket reads listener
    cases means with
    | id => exact listens.idLine represents named rfl head lines ran
    | you => exact listens.youLine represents named rfl head lines ran
    | connected => exact listens.connectedLine represents sane named rfl head lines ran
    | host r => exact listens.hostLine represents sane named rfl head lines ran
    | statement chatty statement =>
        exact listens.statementLine represents sane named chatty statement head lines ran
  · have waits := represents.waits sane socket reads fun h listener => heard ⟨h, listener⟩
    have knownA : c < a.wire.next := represents.next ▸ known
    cases listener : ((net.node i).mesh.sock k).listeners with
    | none =>
        rw [Node.line_unheard listener] at ran
        obtain rfl := Except.ok.inj ran
        exact ⟨_, waits.ignores represents head (.inr (waits.dropped listener)) lines⟩
    | some whose =>
        cases whose with
        | host h => exact absurd ⟨h, listener⟩ heard
        | incoming =>
            obtain rfl := waits.server sane knownA listener
            cases isOpen : ((net.node i).mesh.sock k).fdOpen with
            | true =>
                have incoming := waits.incoming listener isOpen
                obtain ⟨_, talks, opening⟩ := (sane.wire c knownA).opening (.inr incoming)
                rw [opening] at lines
                obtain ⟨rfl, rfl⟩ := List.cons.inj lines
                have isServer : (a.wire c).server = i := waits.owner
                have careful' := fun isStrict => careful isStrict rfl incoming
                rw [isServer] at careful'
                cases means with
                | id =>
                    exact waits.idLine represents sane named distinct listener isOpen rfl rfl head
                      opening careful' ran
            | false =>
                have rejected := waits.rejected listener isOpen
                have notId : strStartsWith t "ID=".toList ≠ true := by
                  intro starts
                  obtain rfl := means.id_of_starts starts
                  have refused := (sane.wire c knownA).refused rejected
                  rw [lines] at refused
                  exact refused List.mem_cons_self
                rw [Node.line_incoming listener] at ran
                unfold Mesh.handleIncomingConnection at ran
                rw [if_neg notId] at ran
                obtain rfl := Except.ok.inj ran
                exact ⟨_, waits.ignores represents head (.inl rejected) lines⟩

omit [DecidableEq ι] in
/-- Who has closed an end has left it. -/
theorem Represents.closed (represents : Represents crowd strict net a) (sane : Gossip.Sane a)
    (known : c < net.link.next) (closed : net.ClosedAt c e) : ((a.wire c).line.status e).Closed := by
  obtain ⟨s, member, gone⟩ := closed
  have status := (represents.link c known).status e
  unfold Network.statusAt at status
  rw [Option.mem_def.mp member] at status
  dsimp only at status
  rw [← status]
  by_cases reads : s.thread = .receiving c
  · cases listener : s.listeners with
    | none => exact .inr (.inl (TCPSocket.statusOn_dropped reads listener))
    | some whose =>
        cases whose with
        | incoming =>
            rw [TCPSocket.statusOn_incoming reads listener, if_neg fun isOpen => gone ⟨reads, isOpen⟩]
            exact .inl rfl
        | host h =>
            -- the socket of a Host is open while it receives
            obtain ⟨⟨j, k'⟩, socket, isSock⟩ := Option.map_eq_some_iff.mp (Option.mem_def.mp member)
            dsimp only at isSock
            rw [← isSock] at reads listener gone
            obtain ⟨entry, listens⟩ := represents.listens sane socket reads listener
            have holds := listens.isCurrent.holds c listens.conn
            exact absurd ⟨holds.1, holds.2.1⟩ gone
  · exact .inr (.inr (TCPSocket.statusOn_eq_ended.mpr reads))

omit [DecidableEq ι] in
/-- Why the receive loop of an open socket ends. -/
theorem Represents.hungUp (represents : Represents crowd strict net a) (sane : Gossip.Sane a)
    (known : c < net.link.next) (socket : (net.link c).socket e = some (i, k))
    (holds : ((net.node i).mesh.sock k).Holds c)
    (why : (net.link c).lost = true ∨ ¬ net.OpenAt c e ∨ net.ClosedAt c e.other) :
    (a.wire c).line.lost = true ∨ ((a.wire c).line.status e.other).Closed := by
  rcases why with lost | notOpen | closed
  · exact .inl ((represents.link c known).lost.symm.trans lost)
  · refine absurd ⟨_, ?_, holds⟩ notOpen
    unfold Network.sockAt
    rw [socket]
    rfl
  · exact .inr (represents.closed sane known closed)

/-- A receive loop ends that no Host hears. -/
theorem Waits.eof {yields : ι → ι → Bool} (waits : Waits net a c e i k)
    (represents : Represents crowd strict net a) (sane : Gossip.Sane a)
    (named : crowd.Named)
    (unheard : ∀ h, ((net.node i).mesh.sock k).listeners ≠ some (.host h))
    (why : (net.link c).lost = true ∨ ¬ net.OpenAt c e ∨ net.ClosedAt c e.other)
    (ran : (net.node i).eof k = .ok n) :
    ∃ a', Represents crowd strict (net.take i n) a' ∧ Moves strict yields a a' := by
  obtain ⟨closed, left, rest⟩ := Fallible.bind_eq_ok.mp ran
  have isNew := Fallible.pure_eq_ok.mp rest
  have listeners : (((net.node i).mesh.setSock k (·.closeFd)).sock k).listeners =
      ((net.node i).mesh.sock k).listeners := by
    rw [Mesh.setSock_self]
    rfl
  rcases Node.signalingClosed_cases left with ⟨rfl, _⟩ | ⟨h, _, listener, _⟩
  · have sock : n.mesh.sock =
        (net.node i).mesh.sock.modify k fun s => s.closeFd.reconnectOrEnd := by
      rw [← isNew]
      unfold Mesh.setSock Heap.modify
      simp only [Function.update_self, Function.update_idem]
    have ended : (n.mesh.sock k).thread = .ended := by
      rw [sock, Heap.modify_self]
      unfold TCPSocket.reconnectOrEnd
      rw [show (((net.node i).mesh.sock k).closeFd.bReconnect &&
        ((net.node i).mesh.sock k).closeFd.isClient) = false from waits.aside.finished,
        if_neg Bool.false_ne_true]
    have answers : Answers crowd strict net a i n c e k .ended [] := by
      refine ⟨waits.known, waits.apart, waits.socket, ⟨[], ?_, .nil⟩, ?_, ?_, ?_, ?_⟩
      · rw [← isNew]
        exact represents.silent i
      · intro k' differs
        rw [sock, Heap.modify_of_ne _ _ differs]
        exact .refl _
      · intro d differs
        rw [ended, waits.reads]
        exact ⟨fun same => differs (Thread.receiving.inj same).symm, nofun⟩
      · rw [TCPSocket.statusOn_eq_ended, ended]
        exact nofun
      · intro reads
        rw [ended] at reads
        cases reads
    have mesh : Tidy crowd i n.mesh (a.addressed i) (a.entry i) := by
      rw [← isNew]
      exact (represents.mesh i).asideEnds waits.inside waits.free
    refine ⟨a.setLine c (·.setStatus e .ended), ?_, .step (.leave c e ?_ ?_ ?_)⟩
    · refine answers.represents represents named mesh (by rw [← isNew]) (fun _ _ => ⟨rfl, rfl⟩) rfl ?_ ?_
      · rw [Gossip.State.setLine_wire, if_pos rfl, Handshake.Wire.push_nil]
      · intro d differs
        rw [Gossip.State.setLine_wire, if_neg differs]
    · exact represents.next ▸ waits.known
    · cases listener : ((net.node i).mesh.sock k).listeners with
      | none => exact .inr (.inr (waits.dropped listener))
      | some whose =>
          cases whose with
          | host h => exact absurd listener (unheard h)
          | incoming =>
              cases isOpen : ((net.node i).mesh.sock k).fdOpen with
              | true => exact .inl (waits.incoming listener isOpen)
              | false => exact .inr (.inl (waits.rejected listener isOpen))
    · intro incoming
      have status := waits.status
      rw [incoming] at status
      have isOpen : ((net.node i).mesh.sock k).fdOpen = true := by
        cases listener : ((net.node i).mesh.sock k).listeners with
        | none =>
            rw [TCPSocket.statusOn_dropped waits.reads listener] at status
            cases status
        | some whose =>
            cases whose with
            | host h => exact absurd listener (unheard h)
            | incoming =>
                rw [TCPSocket.statusOn_incoming waits.reads listener] at status
                split at status
                · next isOpen => exact isOpen
                · cases status
      exact represents.hungUp sane waits.known waits.socket ⟨waits.reads, isOpen⟩ why
  · exact absurd (listeners.symm.trans listener) (unheard h)

/-- The receive loop of a Host's socket ends. -/
theorem Listens.eof {yields : ι → ι → Bool} {h : HostPtr} {entry : Entry}
    (listens : Listens crowd net a c e i k h entry) (represents : Represents crowd strict net a)
    (sane : Gossip.Sane a) (named : crowd.Named)
    (why : (net.link c).lost = true ∨ ¬ net.OpenAt c e ∨ net.ClosedAt c e.other)
    (ran : (net.node i).eof k = .ok n) :
    ∃ a', Represents crowd strict (net.take i n) a' ∧ Moves strict yields a a' := by
  have current := listens.isCurrent
  have holds := current.holds c listens.conn
  obtain ⟨closed, left, rest⟩ := Fallible.bind_eq_ok.mp ran
  have isNew := Fallible.pure_eq_ok.mp rest
  have listeners : (((net.node i).mesh.setSock k (·.closeFd)).sock k).listeners = some (.host h) := by
    rw [Mesh.setSock_self]
    exact current.listener
  rcases Node.signalingClosed_cases left with ⟨_, unheard⟩ | ⟨h', k', listener, owns, ran⟩
  · exact absurd listeners (unheard h)
  obtain rfl := SignalingListener.host.inj (Option.some.inj (listener.symm.trans listeners))
  obtain rfl := Option.some.inj (owns.symm.trans listens.owns)
  generalize isLess : Node.hostLost ((net.node i).mesh.setSock k' (·.closeFd)) h' k' = less
  generalize isLost : ({ net.node i with mesh := less } : Node) = lost
  have lostMesh : lost.mesh = less := by
    rw [← isLost]
  have lostChan : lost.chan = (net.node i).chan := by
    rw [← isLost]
  have clean : lost.Clean := by
    rw [← isLost, ← isLess]
    refine ⟨(represents.clean i).names, ?_⟩
    have address := (represents.clean i).address
    change LineSafe (((net.node i).mesh.host.modify h' fun host => { host with bReady := false })
      (net.node i).mesh.me).ip
    rw [Heap.modify_apply]
    split
    · next same =>
      rw [same] at address
      exact address
    · exact address
  have ran' : lost.closeAllChannels h' = .ok closed := by
    rw [← isLost, ← isLess]
    exact ran
  obtain ⟨closedMesh, cleanClosed⟩ := Node.closeAllChannels_chats clean ran'
  have isMesh : n.mesh = (Node.hostLost ((net.node i).mesh.setSock k' (·.closeFd)) h' k').setSock k'
      (·.reconnectOrEnd) := by
    rw [← isNew, isLess, ← lostMesh, ← closedMesh]
  have names (d : ChanPtr) : LineSafe (n.chan d).name := by
    rw [← isNew]
    exact cleanClosed.names d
  obtain ⟨mesh, sent, sock⟩ := (represents.mesh i).ends named listens.isHost listens.owns isMesh
  have thread (d : ConnId) : (n.mesh.sock k').thread ≠ .receiving d := by
    rw [sock, Heap.modify_self]
    unfold TCPSocket.reconnectOrEnd
    split <;> exact nofun
  have answers : Answers crowd strict net a i n c e k' .ended [] := by
    refine ⟨listens.known, listens.apart, listens.socket, ⟨[], sent.trans (represents.silent i), .nil⟩,
      ?_, ?_, TCPSocket.statusOn_eq_ended.mpr (thread c), fun reads => absurd reads (thread c)⟩
    · intro k differs
      rw [sock, Heap.modify_of_ne _ _ differs]
      exact .refl _
    · intro d differs
      rw [listens.reads]
      exact ⟨fun same => differs (Thread.receiving.inj same).symm, thread d⟩
  have voice : a.voice i ((a.wire c).owner e.other) = some (c, e) := by
    rw [Gossip.State.voice_of_entry listens.met, listens.conn, listens.side]
    rfl
  generalize isOther : (a.wire c).owner e.other = q at voice mesh
  have met : a.entry i q = some entry := isOther ▸ listens.met
  have wire (d : ConnId) : (a.release i q .ended).wire d =
      if d = c then { a.wire c with line := (a.wire c).line.setStatus e .ended } else a.wire d := by
    rw [Gossip.State.release_talking _ voice, Gossip.State.setLine_wire]
    rfl
  have entries : (a.release i q .ended).entry i =
      Function.update (a.entry i) q (some { entry with ready := false, conn := none }) := by
    rw [Gossip.State.release_talking _ voice]
    change Function.update a.entry i (Function.update (a.entry i) q ((a.entry i q).map _)) i = _
    rw [Function.update_self, met]
    rfl
  have tidy : Tidy crowd i n.mesh ((a.release i q .ended).addressed i)
      ((a.release i q .ended).entry i) := by
    rw [entries, a.release_addressed]
    exact mesh
  refine ⟨a.release i q .ended, ?_, .step ?_⟩
  · refine represents.take (answers.wired represents.toWired (a.release_next i q _) ?_ ?_) tidy
      (tidy.clean named names) ?_ ?_
    · rw [wire, if_pos rfl, Handshake.Wire.push_nil]
    · exact fun d differs => (wire d).trans (if_neg differs)
    · intro isStrict
      -- without channels there is nothing to close
      have empty : lost.chan.next = 0 := by
        rw [lostChan]
        exact represents.quiet isStrict i
      unfold Node.closeAllChannels Node.channels at ran'
      rw [empty] at ran'
      obtain rfl := Except.ok.inj ran'
      rw [← isNew]
      exact empty
    · intro p differs
      refine ⟨by rw [a.release_addressed], ?_⟩
      funext z
      exact a.release_entry_of_ne _ fun both => differs both.1
  · have step : Gossip.Step strict yields a _ := .hangUp c e
      (represents.next ▸ listens.known) listens.current
      (represents.hungUp sane listens.known listens.socket ⟨holds.1, holds.2.1⟩ why)
    rw [listens.owner, isOther] at step
    exact step

end

end LibPubSub
