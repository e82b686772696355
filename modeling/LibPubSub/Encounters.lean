import LibPubSub.Crowd

/-! What the functions of `mesh.cpp` do to the table of hosts of one process among
others: which entry changes, which socket, and what is written. -/

set_option autoImplicit false

namespace LibPubSub

open Handshake (Entry Status)

/-- What its owner does with the end of connection `c` that the socket has been. -/
def TCPSocket.statusOn (s : TCPSocket SignalingListener) (c : ConnId) : Status :=
  if s.thread = .receiving c then
    match s.listeners with
    | none => .dropped
    | some .incoming => if s.fdOpen then .incoming else .rejected
    | some (.host _) => .current
  else .ended

theorem TCPSocket.statusOn_eq_ended {s : TCPSocket SignalingListener} {c : ConnId} :
    s.statusOn c = .ended ↔ s.thread ≠ .receiving c := by
  unfold statusOn
  constructor
  · intro ended here
    rw [if_pos here] at ended
    split at ended
    · cases ended
    · split at ended <;> cases ended
    · cases ended
  · exact fun elsewhere => if_neg elsewhere

section

variable {s : TCPSocket SignalingListener} {c : ConnId}

theorem TCPSocket.statusOn_dropped (reads : s.thread = .receiving c) (unheard : s.listeners = none) :
    s.statusOn c = .dropped := by
  unfold statusOn
  rw [if_pos reads, unheard]

theorem TCPSocket.statusOn_current {h : HostPtr} (reads : s.thread = .receiving c)
    (listener : s.listeners = some (.host h)) : s.statusOn c = .current := by
  unfold statusOn
  rw [if_pos reads, listener]

theorem TCPSocket.statusOn_incoming (reads : s.thread = .receiving c)
    (listener : s.listeners = some .incoming) :
    s.statusOn c = if s.fdOpen then .incoming else .rejected := by
  unfold statusOn
  rw [if_pos reads, listener]

end

/-- A socket stays what it is to the handshakes. -/
structure TCPSocket.Steady (s s' : TCPSocket SignalingListener) : Prop where
  status : ∀ c, s'.statusOn c = s.statusOn c
  incoming : s'.listeners = some .incoming → s' = s

theorem TCPSocket.Steady.refl (s : TCPSocket SignalingListener) : s.Steady s :=
  ⟨fun _ => rfl, fun _ => rfl⟩

theorem TCPSocket.Steady.thread {s s' : TCPSocket SignalingListener} {c : ConnId}
    (steady : s.Steady s') : s'.thread = .receiving c ↔ s.thread = .receiving c := by
  have same := steady.status c
  constructor
  · intro here
    by_contra elsewhere
    rw [TCPSocket.statusOn_eq_ended.mpr elsewhere] at same
    exact TCPSocket.statusOn_eq_ended.mp same here
  · intro here
    by_contra elsewhere
    rw [TCPSocket.statusOn_eq_ended.mpr elsewhere] at same
    exact TCPSocket.statusOn_eq_ended.mp same.symm here

/-- All sockets do. -/
def Mesh.Steady (m m' : Mesh) : Prop :=
  ∀ k, (m.sock k).Steady (m'.sock k)

theorem Mesh.Steady.of_sock {m m' : Mesh} (same : m'.sock = m.sock) : m.Steady m' := by
  intro k
  rw [same]
  exact .refl _

variable {ι : Type}

/-! ## Lines that an entry hears -/

namespace Tidy

variable {crowd : Crowd ι} {p q : ι} {m m' : Mesh} {addressed : Bool} {entry : ι → Option Entry}
  {e : Entry} {h : HostPtr} {k : SockPtr}

/-- No entry changes. -/
theorem of_flags (tidy : Tidy crowd p m addressed entry) {addressed' : Bool}
    (self : m'.self = m.self) (peers : m'.peers = m.peers)
    (next : m'.host.next = m.host.next) (sock : m'.sock = m.sock)
    (ip : if addressed' then (m'.host 0).ip = crowd.ip p
      else (m'.host 0).ip = "localhost".toList ∧ (m'.host 0).bReady = false)
    (keys : ∀ h, (0 < h → (m'.host h).ip = (m.host h).ip ∧ (m'.host h).bReady = (m.host h).bReady) ∧
      (m'.host h).port = (m.host h).port ∧ (m'.host h).bServer = (m.host h).bServer ∧
      (m'.host h).socket = (m.host h).socket) : Tidy crowd p m' addressed' entry := by
  refine tidy.of_host self peers next sock ip ?_ (fun _ => id) ?_
  · exact fun h => ⟨fun positive => ((keys h).1 positive).1, (keys h).2⟩
  · intro q e met
    refine ⟨e, met, rfl, fun h isHost => ?_⟩
    rw [((keys h).1 ((tidy.peers h).mp isHost.listed).1).2]
    exact isHost.ready

/-- `ID=` of the process that the Host is kept for. -/
theorem receiveId (tidy : Tidy crowd p m addressed entry) (isHost : IsHost crowd m q e h) :
    Tidy crowd p (Node.receiveId m h (Mesh.idLine (crowd.ID q) (crowd.port q))) addressed entry ∧
      (Node.receiveId m h (Mesh.idLine (crowd.ID q) (crowd.port q))).sent =
        m.sent ++ saying (m.voice h) ["CONNECTED".toList] ∧
      (Node.receiveId m h (Mesh.idLine (crowd.ID q) (crowd.port q))).sock = m.sock := by
  unfold Node.receiveId
  rw [Mesh.decodeId_idLine]
  generalize isMid : (m.setHost h fun host =>
    { host with id := crowd.ID q, port := crowd.port q }) = mid
  have self : mid.host h = { m.host h with id := crowd.ID q, port := crowd.port q } := by
    rw [← isMid]
    exact m.setHost_self h _
  have others (h' : HostPtr) (other : h' ≠ h) : mid.host h' = m.host h' := by
    rw [← isMid]
    exact m.setHost_of_ne _ other
  have sock : mid.sock = m.sock := by
    rw [← isMid]
    rfl
  have loopback : mid.host 0 = m.host 0 :=
    others 0 (Nat.ne_of_lt ((tidy.peers h).mp isHost.listed).1)
  have tidyMid : Tidy crowd p mid addressed entry := by
    refine tidy.of_flags (by rw [← isMid]; rfl) (by rw [← isMid]; rfl) (by rw [← isMid]; rfl) sock
      (by rw [loopback]; exact tidy.ip) ?_
    intro h'
    by_cases same : h' = h
    · rw [same, self]
      exact ⟨fun _ => ⟨rfl, rfl⟩, isHost.port.symm, rfl, rfl⟩
    · rw [others h' same]
      exact ⟨fun _ => ⟨rfl, rfl⟩, rfl, rfl, rfl⟩
  have voice : mid.voice h = m.voice h := by
    unfold Mesh.voice
    rw [self, sock]
  refine ⟨tidyMid.of_table (mid.table_send h _), ?_, ?_⟩
  · rw [Mesh.send_eq, voice, ← isMid]
    unfold saying
    rw [List.flatMap_cons, List.flatMap_nil, List.append_nil]
    rfl
  · exact (Mesh.sock_of_table (mid.table_send h _)).trans sock

/-- `YOU=` of any process. -/
theorem receiveYou (tidy : Tidy crowd p m addressed entry) :
    Tidy crowd p (Node.receiveYou m (Mesh.youLine (crowd.ip p))) true entry ∧
      (Node.receiveYou m (Mesh.youLine (crowd.ip p))).sent = m.sent ∧
      (Node.receiveYou m (Mesh.youLine (crowd.ip p))).sock = m.sock := by
  unfold Node.receiveYou
  rw [Mesh.strAfter_youLine, tidy.me]
  have self : (m.setHost 0 fun host => { host with ip := crowd.ip p, bReady := true }).host 0 =
      { m.host 0 with ip := crowd.ip p, bReady := true } := m.setHost_self 0 _
  refine ⟨?_, rfl, rfl⟩
  refine tidy.of_flags rfl rfl rfl rfl ?_ ?_
  · rw [if_pos rfl, self]
  · intro h
    by_cases same : h = 0
    · rw [same, self]
      exact ⟨fun positive => absurd positive (Nat.lt_irrefl 0), rfl, rfl, rfl⟩
    · rw [Mesh.setHost_of_ne _ _ same]
      exact ⟨fun _ => ⟨rfl, rfl⟩, rfl, rfl, rfl⟩

/-- `CONNECTED` of the process that the Host is kept for. -/
theorem receiveConnected [DecidableEq ι] (tidy : Tidy crowd p m addressed entry)
    (named : crowd.Named) (met : entry q = some e) (isHost : IsHost crowd m q e h) :
    Tidy crowd p (Node.receiveConnected m h) addressed
        (Function.update entry q (some { e with ready := true })) ∧
      (Node.receiveConnected m h).sent = m.sent ∧ (Node.receiveConnected m h).sock = m.sock := by
  generalize isMid : (m.setHost h fun host => { host with bReady := true }) = mid
  have self : mid.host h = { m.host h with bReady := true } := by
    rw [← isMid]
    exact m.setHost_self h _
  have others (h' : HostPtr) (other : h' ≠ h) : mid.host h' = m.host h' := by
    rw [← isMid]
    exact m.setHost_of_ne _ other
  have loopback : mid.host 0 = m.host 0 :=
    others 0 (Nat.ne_of_lt ((tidy.peers h).mp isHost.listed).1)
  have hosts : mid.hosts = m.hosts := by
    rw [← isMid]
    rfl
  have result : Node.receiveConnected m h = mid := by
    have known : mid.hasHost (mid.host h).ip (mid.host h).port = true := by
      refine Mesh.hasHost_eq_true_iff.mpr ⟨h, ?_, rfl, rfl⟩
      rw [hosts]
      exact List.mem_cons_of_mem _ isHost.listed
    unfold Node.receiveConnected
    rw [isMid]
    dsimp only
    rw [known]
    rfl
  rw [result]
  refine ⟨?_, by rw [← isMid]; rfl, by rw [← isMid]; rfl⟩
  refine tidy.of_host (by rw [← isMid]; rfl) (by rw [← isMid]; rfl) (by rw [← isMid]; rfl)
    (by rw [← isMid]; rfl) (by rw [loopback]; exact tidy.ip) ?_ ?_ ?_
  · intro h'
    by_cases same : h' = h
    · rw [same, self]
      exact ⟨fun _ => rfl, rfl, rfl, rfl⟩
    · rw [others h' same]
      exact ⟨fun _ => rfl, rfl, rfl, rfl⟩
  · intro q' none
    by_cases same : q' = q
    · rw [same, Function.update_self] at none
      cases none
    · rwa [Function.update_of_ne same] at none
  · intro q' e' found
    by_cases same : q' = q
    · subst same
      rw [Function.update_self] at found
      obtain rfl := Option.some.inj found
      refine ⟨e, met, rfl, fun h' isHost' => ?_⟩
      rw [tidy.unique q' h' h isHost'.toKnows isHost.toKnows, self]
    · rw [Function.update_of_ne same] at found
      refine ⟨e', found, rfl, fun h' isHost' => ?_⟩
      have other : h' ≠ h := by
        rintro rfl
        exact same (isHost'.toKnows.same isHost.toKnows named)
      rw [others h' other]
      exact isHost'.ready

/-! ## New entries -/

/-- Who is known already is not dialled. -/
theorem addHost_known (tidy : Tidy crowd p m addressed entry) (met : entry q = some e) :
    m.addHost (crowd.ip q) (crowd.port q) = m := by
  obtain ⟨h, isHost⟩ := tidy.met q e met
  have known : m.hasHost (crowd.ip q) (crowd.port q) = true :=
    Mesh.hasHost_eq_true_iff.mpr ⟨h, List.mem_cons_of_mem _ isHost.listed, isHost.ip, isHost.port⟩
  unfold Mesh.addHost
  rw [if_pos known]

theorem addHost_me (tidy : Tidy crowd p m true entry) :
    m.addHost (crowd.ip p) (crowd.port p) = m := by
  unfold Mesh.addHost
  rw [if_pos tidy.hasHost_me]

/-- Who is unknown is dialled. -/
theorem addHost_unmet [DecidableEq ι] (tidy : Tidy crowd p m addressed entry)
    (named : crowd.Named) (other : q ≠ p) (unmet : entry q = none) :
    Tidy crowd p (m.addHost (crowd.ip q) (crowd.port q)) addressed
        (Function.update entry q (some ⟨false, false, none⟩)) ∧
      (m.addHost (crowd.ip q) (crowd.port q)).sent = m.sent ∧
      m.Steady (m.addHost (crowd.ip q) (crowd.port q)) := by
  have unknown := Mesh.hasHost_eq_false_iff.mpr (tidy.getHost_unmet named other unmet)
  generalize isNew : m.addHost (crowd.ip q) (crowd.port q) = new
  have result : new = { m with
      host := (m.host.alloc { ip := crowd.ip q, port := crowd.port q, bServer := false }).modify
        m.host.next fun host => { host with socket := some m.sock.next }
      peers := m.peers ++ [m.host.next]
      sock := ((m.sock.alloc {}).modify m.sock.next fun s =>
        { s with bLinebuffer := true, listeners := some (.host m.host.next) }).modify m.sock.next
          (·.connect (crowd.ip q) (crowd.port q)) } := by
    have dialled : ((m.host.alloc { ip := crowd.ip q, port := crowd.port q, bServer := false }).modify
        m.host.next (fun host => { host with socket := some m.sock.next }) m.host.next).bServer =
          false := by
      rw [Heap.modify_self, Heap.alloc_self]
    rw [← isNew]
    unfold Mesh.addHost
    rw [if_neg (by rw [unknown]; exact Bool.false_ne_true)]
    unfold Mesh.newHost Mesh.setSocket
    rw [unknown]
    unfold Mesh.pushUnlessKnown Mesh.setHost Mesh.setSock
    dsimp only
    rw [if_neg Bool.false_ne_true]
    dsimp only
    rw [dialled, if_neg Bool.false_ne_true]
  have host : new.host m.host.next =
      { ip := crowd.ip q, port := crowd.port q, bServer := false, socket := some m.sock.next } := by
    rw [result]
    dsimp only
    rw [Heap.modify_self, Heap.alloc_self]
  have others (h : HostPtr) (apart : h ≠ m.host.next) : new.host h = m.host h := by
    rw [result]
    dsimp only
    rw [Heap.modify_of_ne _ _ apart, Heap.alloc_of_ne _ _ apart]
  have sock : new.sock m.sock.next =
      { ip := crowd.ip q
        port := crowd.port q
        bLinebuffer := true
        listeners := some (.host m.host.next)
        thread := .connecting
        fdOpen := true } := by
    rw [result]
    dsimp only
    rw [Heap.modify_self, Heap.modify_self, Heap.alloc_self]
    rfl
  have socks (k : SockPtr) (apart : k ≠ m.sock.next) : new.sock k = m.sock k := by
    rw [result]
    dsimp only
    rw [Heap.modify_of_ne _ _ apart, Heap.modify_of_ne _ _ apart, Heap.alloc_of_ne _ _ apart]
  have sockNext : new.sock.next = m.sock.next + 1 := by
    rw [result]
    rfl
  have steady : m.Steady new := by
    intro k
    by_cases isNew : k = m.sock.next
    · rw [isNew, sock, tidy.fresh _ (Nat.le_refl _)]
      refine ⟨fun c => ?_, nofun⟩
      rw [TCPSocket.statusOn_eq_ended.mpr, TCPSocket.statusOn_eq_ended.mpr] <;> exact nofun
    · rw [socks k isNew]
      exact .refl _
  refine ⟨?_, by rw [result], steady⟩
  refine tidy.grow named other unmet ?_ (by rw [result]) (by rw [result]; rfl)
    (by rw [sockNext]; exact Nat.le_succ _) ?_ others ?_ ?_ ?_
  · rw [← isNew]
    exact m.self_addHost _ _
  · refine ⟨⟨?_, by rw [host], by rw [host]⟩, by rw [host], by rw [host], m.sock.next,
      by rw [host], by rw [sockNext]; exact Nat.lt_succ_self _, ?_⟩
    · rw [result]
      exact List.mem_append_right _ List.mem_cons_self
    · rw [sock]
      exact ⟨rfl, rfl, crowd.localName_ip q, fun _ => ⟨rfl, rfl, rfl⟩, nofun, fun _ => ⟨rfl, rfl, rfl⟩⟩
  · intro h k owns
    obtain ⟨_, _, _, _, _, known, _⟩ := tidy.host_of_socket owns
    exact socks k (Nat.ne_of_lt known)
  · intro k known free
    rw [sockNext] at known
    rcases Nat.lt_succ_iff_lt_or_eq.mp known with old | rfl
    · rw [socks k (Nat.ne_of_lt old)]
      refine tidy.aside k old fun h owns => free h ?_
      have apart : h ≠ m.host.next := by
        rintro rfl
        rw [tidy.strangers _ (Nat.le_refl _)] at owns
        cases owns
      rw [others h apart]
      exact owns
    · exact absurd (by rw [host]) (free m.host.next)
  · intro k outside
    rw [sockNext] at outside
    rw [socks k (Nat.ne_of_gt outside)]
    exact tidy.fresh k (Nat.le_of_succ_le outside)

end Tidy

/-! ## Connections that begin -/

namespace Mesh

variable {m : Mesh} {h : HostPtr} {k : SockPtr} {c : ConnId}

/-- `welcome` on a socket that is connected. -/
theorem welcome_eq (owns : (m.host h).socket = some k) (running : (m.sock k).bStop = false)
    (holds : (m.sock k).Holds c) :
    m.welcome h = { m with
      host := m.host.modify h fun host => { host with bConnecting := true }
      sent := m.sent ++ saying (some (c, (m.sock k).side))
        [idLine m.ID m.signalingPort, youLine (localName (m.sock k).ip)] } := by
  unfold welcome
  rw [owns]
  dsimp only
  rw [running, if_neg Bool.false_ne_true]
  unfold write setHost saying utter
  simp only [holds.1, holds.2, Option.toList_some, List.map_cons, List.map_nil, List.flatMap_cons,
    List.flatMap_nil, List.append_nil, List.append_assoc, List.cons_append, List.nil_append]

/-- `setSocket` of a Host that has been connected to. -/
theorem setSocket_eq (server : (m.host h).bServer = true) (running : (m.sock k).bStop = false)
    (holds : (m.sock k).Holds c) :
    m.setSocket h k = { m with
      host := m.host.modify h fun host => { host with socket := some k, bConnecting := true }
      sock := m.sock.modify k fun s => { s with bLinebuffer := true, listeners := some (.host h) }
      sent := m.sent ++ saying (some (c, (m.sock k).side))
        [idLine m.ID m.signalingPort, youLine (localName (m.sock k).ip)] } := by
  generalize isMid : (m.setHost h fun host => { host with socket := some k }).setSock k
    (fun s => { s with bLinebuffer := true, listeners := some (.host h) }) = mid
  have host : mid.host h = { m.host h with socket := some k } := by
    rw [← isMid]
    exact m.setHost_self h fun host => { host with socket := some k }
  have sock : mid.sock k = { m.sock k with bLinebuffer := true, listeners := some (.host h) } := by
    rw [← isMid]
    exact (m.setHost h fun host => { host with socket := some k }).setSock_self k
      fun s => { s with bLinebuffer := true, listeners := some (.host h) }
  have unfolded : m.setSocket h k = mid.welcome h := by
    have isServer : (mid.host h).bServer = true := by
      rw [host]
      exact server
    unfold setSocket
    dsimp only
    rw [isMid, if_pos isServer]
  have side : (mid.sock k).side = (m.sock k).side := by
    rw [sock]
    rfl
  rw [unfolded, welcome_eq (by rw [host]) (by rw [sock]; exact running) (by rw [sock]; exact holds),
    side, sock, ← isMid]
  unfold setHost setSock Heap.modify
  simp only [Function.update_self, Function.update_idem]

end Mesh

/-- A socket that waits for the `ID=` of `q` on connection `c`. -/
structure IsIncoming (crowd : Crowd ι) (q : ι) (c : ConnId) (s : TCPSocket SignalingListener) :
    Prop where
  listener : s.listeners = some .incoming
  side : s.isClient = false
  peer : Mesh.localName s.ip = crowd.ip q
  holds : s.Holds c
  running : s.bStop = false

namespace IsIncoming

variable {crowd : Crowd ι} {q : ι} {c : ConnId} {s : TCPSocket SignalingListener}

/-- It becomes the socket of a Host. -/
theorem current (incoming : IsIncoming crowd q c s) (h : HostPtr) (ready : Bool) :
    IsCurrent crowd q h ⟨true, ready, some c⟩
      { s with bLinebuffer := true, listeners := some (.host h) } := by
  refine ⟨rfl, incoming.side, incoming.peer, nofun, ?_, nofun⟩
  intro c' same
  obtain rfl := Option.some.inj same
  exact ⟨incoming.holds.1, incoming.holds.2, incoming.running⟩

theorem server (incoming : IsIncoming crowd q c s) : s.side = .server := by
  unfold TCPSocket.side
  rw [incoming.side]
  rfl

end IsIncoming

namespace Tidy

variable {crowd : Crowd ι} {p q : ι} {m m' : Mesh} {addressed : Bool} {entry : ι → Option Entry}
  {e : Entry} {h : HostPtr} {k : SockPtr} {c : ConnId}

/-- The greeting of a server. -/
def greeting (crowd : Crowd ι) (p q : ι) (ready : Bool) : List Str :=
  Mesh.idLine (crowd.ID p) (crowd.port p) :: Mesh.youLine (crowd.ip q) ::
    if ready then [] else ["CONNECTED".toList]

/-- A socket that nobody owns as yet. -/
theorem free_of_incoming (tidy : Tidy crowd p m addressed entry)
    (incoming : IsIncoming crowd q c (m.sock k)) (h : HostPtr) : (m.host h).socket ≠ some k := by
  intro owns
  obtain ⟨_, _, _, _, _, _, current⟩ := tidy.host_of_socket owns
  have listener := current.listener
  rw [incoming.listener] at listener
  cases listener

theorem saying_concat (voice : Option (ConnId × End)) (texts : List Str) (text : Str) :
    saying voice texts ++ utter voice text = saying voice (texts ++ [text]) := by
  unfold saying
  rw [List.flatMap_append, List.flatMap_cons, List.flatMap_nil, List.append_nil]

/-- `ID=` of an unknown process on a new connection. -/
theorem incoming_unmet [DecidableEq ι] (tidy : Tidy crowd p m addressed entry)
    (named : crowd.Named) (other : q ≠ p) (unmet : entry q = none) (known : k < m.sock.next)
    (incoming : IsIncoming crowd q c (m.sock k))
    (isNew : m' = m.handleIncomingConnection k (Mesh.idLine (crowd.ID q) (crowd.port q))) :
    Tidy crowd p m' addressed (Function.update entry q (some ⟨true, false, some c⟩)) ∧
      m'.sent = m.sent ++ saying (some (c, .server)) (greeting crowd p q false) ∧
      m'.sock = m.sock.modify k fun s =>
        { s with bLinebuffer := true, listeners := some (.host m.host.next) } := by
  have missing := tidy.getHost_unmet named other unmet
  have unknown := Mesh.hasHost_eq_false_iff.mpr missing
  generalize isMid : ({ m with
    host := m.host.alloc { ip := crowd.ip q, port := crowd.port q, bServer := true }
    peers := m.peers ++ [m.host.next] } : Mesh) = mid
  have midHost : mid.host m.host.next =
      { ip := crowd.ip q, port := crowd.port q, bServer := true } := by
    rw [← isMid]
    exact m.host.alloc_self _
  have midSock : mid.sock = m.sock := by
    rw [← isMid]
  have joined : m.newHostFrom (crowd.ip q) (crowd.port q) k = mid.setSocket m.host.next k := by
    unfold Mesh.newHostFrom
    rw [unknown, ← isMid]
    rfl
  have attached : mid.setSocket m.host.next k = { mid with
      host := mid.host.modify m.host.next fun host =>
        { host with socket := some k, bConnecting := true }
      sock := m.sock.modify k fun s =>
        { s with bLinebuffer := true, listeners := some (.host m.host.next) }
      sent := m.sent ++ saying (some (c, .server))
        [Mesh.idLine (crowd.ID p) (crowd.port p), Mesh.youLine (crowd.ip q)] } := by
    have sent : mid.sent = m.sent := by rw [← isMid]
    have self : mid.ID = m.ID ∧ mid.signalingPort = m.signalingPort := by
      rw [← isMid]
      exact ⟨rfl, rfl⟩
    rw [Mesh.setSocket_eq (c := c) (by rw [midHost]) (by rw [midSock]; exact incoming.running)
      (by rw [midSock]; exact incoming.holds), midSock, sent, self.1, self.2, tidy.ID,
      tidy.signalingPort, incoming.server, incoming.peer]
  generalize isLast : mid.setSocket m.host.next k = last at joined attached
  have lastHost : last.host m.host.next =
      { ip := crowd.ip q
        port := crowd.port q
        bServer := true
        socket := some k
        bConnecting := true } := by
    rw [attached]
    dsimp only
    rw [Heap.modify_self, midHost]
  have lastSock : last.sock k = { m.sock k with
      bLinebuffer := true, listeners := some (.host m.host.next) } := by
    rw [attached]
    dsimp only
    rw [Heap.modify_self]
  have socks (k' : SockPtr) (apart : k' ≠ k) : last.sock k' = m.sock k' := by
    rw [attached]
    dsimp only
    rw [Heap.modify_of_ne _ _ apart]
  have hosts (h : HostPtr) (apart : h ≠ m.host.next) : last.host h = m.host h := by
    rw [attached]
    dsimp only
    rw [Heap.modify_of_ne _ _ apart, ← isMid]
    exact m.host.alloc_of_ne _ apart
  have result : m' = last.send m.host.next "CONNECTED".toList := by
    rw [isNew]
    unfold Mesh.handleIncomingConnection
    rw [if_pos Mesh.idLine_starts, Mesh.decodeId_idLine]
    dsimp only
    rw [incoming.peer, missing]
    dsimp only
    rw [joined]
  have isHost : IsHost crowd last q ⟨true, false, some c⟩ m.host.next := by
    refine ⟨⟨?_, by rw [lastHost], by rw [lastHost]⟩, by rw [lastHost], by rw [lastHost], k,
      by rw [lastHost], ?_, ?_⟩
    · rw [attached, ← isMid]
      exact List.mem_append_right _ List.mem_cons_self
    · rw [attached]
      exact known
    · rw [lastSock]
      exact incoming.current _ _
  have tidyLast : Tidy crowd p last addressed
      (Function.update entry q (some ⟨true, false, some c⟩)) := by
    refine tidy.grow named other unmet ?_ ?_ ?_ ?_ isHost hosts ?_ ?_ ?_
    · rw [← joined]
      exact m.self_newHostFrom _ _ k
    · rw [attached, ← isMid]
    · rw [attached, ← isMid]
      rfl
    · rw [attached]
      exact Nat.le_refl _
    · intro h k' owns
      refine socks k' ?_
      rintro rfl
      exact tidy.free_of_incoming incoming h owns
    · intro k' known' free
      have isOther : k' ≠ k := by
        rintro rfl
        exact free m.host.next (by rw [lastHost])
      rw [socks k' isOther]
      refine tidy.aside k' ?_ fun h owns => free h ?_
      · rw [attached] at known'
        exact known'
      · have apart : h ≠ m.host.next := by
          rintro rfl
          rw [tidy.strangers _ (Nat.le_refl _)] at owns
          cases owns
        rw [hosts h apart]
        exact owns
    · intro k' outside
      rw [attached] at outside
      have isOther : k' ≠ k := by
        rintro rfl
        exact Nat.not_lt_of_ge outside known
      rw [socks k' isOther]
      exact tidy.fresh k' outside
  have voice : last.voice m.host.next = some (c, .server) := isHost.voice
  rw [result]
  refine ⟨tidyLast.of_table (last.table_send _ _), ?_, ?_⟩
  · rw [Mesh.send_eq, voice]
    dsimp only
    rw [attached]
    dsimp only
    rw [List.append_assoc, saying_concat]
    rfl
  · refine (Mesh.sock_of_table (last.table_send _ _)).trans ?_
    rw [attached]

/-- `ID=` of a process that gets its way: its Host moves to the new connection. -/
theorem incoming_adopted [DecidableEq ι] (tidy : Tidy crowd p m addressed entry)
    (named : crowd.Named) (other : q ≠ p) (met : entry q = some e) (known : k < m.sock.next)
    (incoming : IsIncoming crowd q c (m.sock k)) (allowed : crowd.ID p < crowd.ID q ∨ e.server = true)
    (isNew : m' = m.handleIncomingConnection k (Mesh.idLine (crowd.ID q) (crowd.port q))) :
    Tidy crowd p m' addressed (Function.update entry q (some ⟨true, e.ready, some c⟩)) ∧
      m'.sent = m.sent ++ saying (some (c, .server)) (greeting crowd p q e.ready) ∧
      ∃ h old, IsHost crowd m q e h ∧ (m.host h).socket = some old ∧
        m'.sock = (m.sock.modify old fun s => s.removeListeners.close true).modify k fun s =>
          { s with bLinebuffer := true, listeners := some (.host h) } := by
  obtain ⟨h, isHost⟩ := tidy.met q e met
  obtain ⟨old, owns, oldKnown, current⟩ := isHost.socket
  have found := tidy.getHost_known named other isHost.toKnows
  have notOld : old ≠ k := by
    rintro rfl
    exact tidy.free_of_incoming incoming h owns
  generalize isMid : (m.dropSocket h).setHost h (fun host => { host with bServer := true }) = mid
  have dropped : m.dropSocket h = m.setSock old fun s => s.removeListeners.close true := by
    unfold Mesh.dropSocket
    rw [owns]
  have midHost : mid.host h = { m.host h with bServer := true } := by
    rw [← isMid, dropped]
    exact m.setHost_self h fun host => { host with bServer := true }
  have midSock : mid.sock = m.sock.modify old fun s => s.removeListeners.close true := by
    rw [← isMid, dropped]
    rfl
  have midSockK : mid.sock k = m.sock k := by
    rw [midSock]
    exact m.sock.modify_of_ne _ notOld.symm
  have attached : mid.setSocket h k = { mid with
      host := mid.host.modify h fun host => { host with socket := some k, bConnecting := true }
      sock := (m.sock.modify old fun s => s.removeListeners.close true).modify k fun s =>
        { s with bLinebuffer := true, listeners := some (.host h) }
      sent := m.sent ++ saying (some (c, .server))
        [Mesh.idLine (crowd.ID p) (crowd.port p), Mesh.youLine (crowd.ip q)] } := by
    have same : mid.sent = m.sent ∧ mid.ID = m.ID ∧ mid.signalingPort = m.signalingPort := by
      rw [← isMid, dropped]
      exact ⟨rfl, rfl, rfl⟩
    rw [Mesh.setSocket_eq (c := c) (by rw [midHost]) (by rw [midSockK]; exact incoming.running)
      (by rw [midSockK]; exact incoming.holds), midSockK, midSock, same.1, same.2.1, same.2.2,
      tidy.ID, tidy.signalingPort, incoming.server, incoming.peer]
  generalize isLast : mid.setSocket h k = last at attached
  have lastHost : last.host h =
      { m.host h with bServer := true, socket := some k, bConnecting := true } := by
    rw [attached]
    dsimp only
    rw [Heap.modify_self, midHost]
  have lastSock : last.sock k = { m.sock k with
      bLinebuffer := true, listeners := some (.host h) } := by
    rw [attached]
    dsimp only
    rw [Heap.modify_self, Heap.modify_of_ne _ _ notOld.symm]
  have lastOld : last.sock old = (m.sock old).removeListeners.close true := by
    rw [attached]
    dsimp only
    rw [Heap.modify_of_ne _ _ notOld, Heap.modify_self]
  have socks (k' : SockPtr) (apart : k' ≠ k) (apart' : k' ≠ old) : last.sock k' = m.sock k' := by
    rw [attached]
    dsimp only
    rw [Heap.modify_of_ne _ _ apart, Heap.modify_of_ne _ _ apart']
  have hosts (h' : HostPtr) (apart : h' ≠ h) : last.host h' = m.host h' := by
    rw [attached]
    dsimp only
    rw [Heap.modify_of_ne _ _ apart, ← isMid, dropped]
    exact m.setHost_of_ne (fun host => { host with bServer := true }) apart
  have peers : last.peers = m.peers := by
    rw [attached, ← isMid, dropped]
    rfl
  have isHostLast : IsHost crowd last q ⟨true, e.ready, some c⟩ h := by
    refine ⟨isHost.toKnows.congr peers (by rw [lastHost]) (by rw [lastHost]), ?_, by rw [lastHost],
      k, by rw [lastHost], ?_, ?_⟩
    · rw [lastHost]
      exact isHost.ready
    · rw [attached]
      exact known
    · rw [lastSock]
      exact incoming.current _ _
  have tidyLast : Tidy crowd p last addressed
      (Function.update entry q (some ⟨true, e.ready, some c⟩)) := by
    refine tidy.replace named ?_ peers ?_ ?_ isHostLast isHost.toKnows hosts ?_ ?_ ?_
    · rw [← isLast, Mesh.self_setSocket, ← isMid, dropped]
      rfl
    · rw [attached, ← isMid, dropped]
      rfl
    · rw [attached]
      rfl
    · intro h' k' apart owns'
      refine socks k' ?_ ?_
      · rintro rfl
        exact tidy.free_of_incoming incoming h' owns'
      · rintro rfl
        exact apart (tidy.owner owns' owns)
    · intro k' known' free
      by_cases isOld : k' = old
      · rw [isOld, lastOld]
        exact ⟨.inl rfl, nofun, nofun, rfl, nofun⟩
      · have isOther : k' ≠ k := by
          rintro rfl
          exact free h (by rw [lastHost])
        rw [socks k' isOther isOld]
        refine tidy.aside k' known' fun h' owns' => ?_
        by_cases same : h' = h
        · rw [same, owns] at owns'
          exact isOld (Option.some.inj owns').symm
        · exact free h' (by rw [hosts h' same]; exact owns')
    · intro k' outside
      refine socks k' ?_ ?_
      · rintro rfl
        exact Nat.not_lt_of_ge outside known
      · rintro rfl
        exact Nat.not_lt_of_ge outside oldKnown
  have result : m' = if e.ready then last else last.send h "CONNECTED".toList := by
    have wins : m.ID < crowd.ID q || (m.host h).bServer := by
      rw [tidy.ID, isHost.server, Bool.or_eq_true, decide_eq_true_iff]
      exact allowed
    have ready : (last.host h).bReady = e.ready := isHostLast.ready
    rw [isNew]
    unfold Mesh.handleIncomingConnection
    rw [if_pos Mesh.idLine_starts, Mesh.decodeId_idLine]
    dsimp only
    rw [incoming.peer, found]
    dsimp only
    rw [if_pos wins]
    unfold Mesh.adoptSocket
    dsimp only
    rw [isMid, isLast, ready]
  have voice : last.voice h = some (c, .server) := isHostLast.voice
  have sent : last.sent = m.sent ++ saying (some (c, .server))
      [Mesh.idLine (crowd.ID p) (crowd.port p), Mesh.youLine (crowd.ip q)] := by
    rw [attached]
  rw [result]
  cases ready : e.ready with
  | true =>
      rw [ready] at tidyLast
      refine ⟨tidyLast, sent, h, old, isHost, owns, ?_⟩
      rw [if_pos rfl, attached]
  | false =>
      rw [ready] at tidyLast
      rw [if_neg Bool.false_ne_true]
      refine ⟨tidyLast.of_table (last.table_send _ _), ?_, h, old, isHost, owns, ?_⟩
      · rw [Mesh.send_eq, voice]
        dsimp only
        rw [sent, List.append_assoc, saying_concat]
        rfl
      · refine (Mesh.sock_of_table (last.table_send _ _)).trans ?_
        rw [attached]

/-- `ID=` of a process that does not get its way. -/
theorem incoming_rejected (tidy : Tidy crowd p m addressed entry)
    (named : crowd.Named) (other : q ≠ p) (distinct : crowd.ID p ≠ crowd.ID q)
    (met : entry q = some e) (known : k < m.sock.next) (incoming : IsIncoming crowd q c (m.sock k))
    (keeps : ¬ crowd.ID p < crowd.ID q) (dialled : e.server = false)
    (isNew : m' = m.handleIncomingConnection k (Mesh.idLine (crowd.ID q) (crowd.port q))) :
    Tidy crowd p m' addressed entry ∧ m'.sent = m.sent ∧
      m'.sock = m.sock.modify k (·.close true) := by
  obtain ⟨h, isHost⟩ := tidy.met q e met
  have found := tidy.getHost_known named other isHost.toKnows
  have loses : (m.ID < crowd.ID q || (m.host h).bServer) = false := by
    rw [tidy.ID, isHost.server, dialled, Bool.or_false, decide_eq_false_iff_not]
    exact keeps
  have higher : crowd.ID q < m.ID := by
    rw [tidy.ID]
    have trichotomy := Int32.lt_or_le (crowd.ID q) (crowd.ID p)
    rcases trichotomy with less | notLess
    · exact less
    · exact absurd (Int32.le_antisymm notLess (Int32.not_lt.mp keeps)) distinct
  have result : m' = m.setSock k (·.close true) := by
    rw [isNew]
    unfold Mesh.handleIncomingConnection
    rw [if_pos Mesh.idLine_starts, Mesh.decodeId_idLine]
    dsimp only
    rw [incoming.peer, found]
    dsimp only
    rw [loses, if_neg Bool.false_ne_true, if_pos higher]
  rw [result]
  refine ⟨tidy.setAside known (tidy.free_of_incoming incoming) fun isAside => ?_, rfl, rfl⟩
  exact ⟨isAside.listener, nofun, isAside.server, rfl, nofun⟩

/-- The socket of an entry is connected, and the entry greets. -/
theorem connected [DecidableEq ι] (tidy : Tidy crowd p m addressed entry) (named : crowd.Named)
    {ready : Bool} (isHost : IsHost crowd m q ⟨false, ready, none⟩ h)
    (owns : (m.host h).socket = some k) (isNew : m' = (m.setSock k (·.connected c)).welcome h) :
    Tidy crowd p m' addressed (Function.update entry q (some ⟨false, ready, some c⟩)) ∧
      m'.sent = m.sent ++ saying (some (c, .client))
        [Mesh.idLine (crowd.ID p) (crowd.port p), Mesh.youLine (crowd.ip q)] ∧
      m'.sock = m.sock.modify k (·.connected c) := by
  obtain ⟨k', owns', known, current⟩ := isHost.socket
  obtain rfl := Option.some.inj (owns.symm.trans owns')
  obtain ⟨stopped, dialling⟩ := current.idle rfl
  have isOpen : (m.sock k).fdOpen = true := dialling.2
  generalize isMid : m.setSock k (·.connected c) = mid at isNew
  have midSock : mid.sock k = (m.sock k).connected c := by
    rw [← isMid]
    exact m.setSock_self k (·.connected c)
  have midHost : mid.host = m.host := by
    rw [← isMid]
    rfl
  have side : (mid.sock k).side = .client := by
    rw [midSock]
    unfold TCPSocket.side TCPSocket.connected
    rw [current.side]
    rfl
  have self : mid.ID = m.ID ∧ mid.signalingPort = m.signalingPort ∧ mid.sent = m.sent := by
    rw [← isMid]
    exact ⟨rfl, rfl, rfl⟩
  have peer : Mesh.localName (mid.sock k).ip = crowd.ip q := by
    rw [midSock]
    exact current.peer
  have greeted : m' = { mid with
      host := m.host.modify h fun host => { host with bConnecting := true }
      sent := m.sent ++ saying (some (c, .client))
        [Mesh.idLine (crowd.ID p) (crowd.port p), Mesh.youLine (crowd.ip q)] } := by
    rw [isNew, Mesh.welcome_eq (k := k) (c := c) (by rw [midHost]; exact owns) (by rw [midSock]; rfl)
      (by rw [midSock]; exact ⟨rfl, isOpen⟩), side, self.1, self.2.1, self.2.2, tidy.ID,
      tidy.signalingPort, peer, midHost]
  have sock : m'.sock = m.sock.modify k (·.connected c) := by
    rw [greeted, ← isMid]
    rfl
  have host : m'.host h = { m.host h with bConnecting := true } := by
    rw [greeted]
    dsimp only
    rw [Heap.modify_self]
  have others (h' : HostPtr) (apart : h' ≠ h) : m'.host h' = m.host h' := by
    rw [greeted]
    dsimp only
    rw [Heap.modify_of_ne _ _ apart]
  have peers : m'.peers = m.peers := by
    rw [greeted, ← isMid]
    rfl
  refine ⟨?_, by rw [greeted], sock⟩
  refine tidy.replace named ?_ peers ?_ ?_ ?_ isHost.toKnows others ?_ ?_ ?_
  · rw [isNew, Mesh.self_welcome, ← isMid]
    rfl
  · rw [greeted]
    rfl
  · rw [sock]
    rfl
  · refine ⟨isHost.toKnows.congr peers (by rw [host]) (by rw [host]), ?_, ?_, k, ?_, ?_, ?_⟩
    · rw [host]
      exact isHost.ready
    · rw [host]
      exact isHost.server
    · rw [host]
      exact owns
    · rw [sock]
      exact known
    · rw [sock, Heap.modify_self]
      refine ⟨current.listener, current.side, current.peer, current.dials, ?_, nofun⟩
      intro c' same
      obtain rfl := Option.some.inj same
      exact ⟨rfl, isOpen, rfl⟩
  · intro h' other apart belongs
    rw [sock]
    refine m.sock.modify_of_ne _ ?_
    rintro rfl
    exact apart (tidy.owner belongs owns)
  · intro k' known' free
    have isOther : k' ≠ k := by
      rintro rfl
      exact free h (by rw [host]; exact owns)
    rw [sock, Heap.modify_of_ne _ _ isOther]
    refine tidy.aside k' known' fun h' owns' => free h' ?_
    by_cases same : h' = h
    · rw [same] at owns' ⊢
      rw [host]
      exact owns'
    · rw [others h' same]
      exact owns'
  · intro k' outside
    rw [sock]
    refine m.sock.modify_of_ne _ ?_
    rintro rfl
    exact Nat.not_lt_of_ge outside known

/-- A connection is accepted. -/
theorem accepted (tidy : Tidy crowd p m addressed entry) (ip : Str) (port : Int32) (c : ConnId) :
    Tidy crowd p { m with sock := m.sock.alloc (.accepted ip port c .incoming true) } addressed
      entry :=
  tidy.allocAside ⟨.inr rfl, fun _ => ⟨rfl, rfl⟩, fun _ => rfl, rfl, fun _ => nofun⟩

/-! ## Connections that end -/

/-- The receive loop of a socket ends that belongs to no Host. -/
theorem asideEnds (tidy : Tidy crowd p m addressed entry) (known : k < m.sock.next)
    (free : ∀ h, (m.host h).socket ≠ some k) :
    Tidy crowd p ((m.setSock k (·.closeFd)).setSock k (·.reconnectOrEnd)) addressed entry := by
  have closed : Tidy crowd p (m.setSock k (·.closeFd)) addressed entry :=
    tidy.setAside known free fun isAside =>
      ⟨isAside.listener, nofun, isAside.server, isAside.finished, nofun⟩
  refine closed.setAside known free fun isAside => ?_
  have same : ((m.setSock k (·.closeFd)).sock k).fdOpen = false := by
    rw [Mesh.setSock_self]
    rfl
  have ended : ((m.setSock k (·.closeFd)).sock k).reconnectOrEnd =
      { (m.setSock k (·.closeFd)).sock k with thread := .ended } := by
    unfold TCPSocket.reconnectOrEnd
    rw [isAside.finished, if_neg Bool.false_ne_true]
  rw [ended]
  refine ⟨isAside.listener, ?_, isAside.server, isAside.finished, fun _ => nofun⟩
  intro isOpen
  rw [same] at isOpen
  cases isOpen

/-- The receive loop of the socket of an entry ends. -/
theorem ends [DecidableEq ι] (tidy : Tidy crowd p m addressed entry) (named : crowd.Named)
    (isHost : IsHost crowd m q e h) (owns : (m.host h).socket = some k)
    (isNew : m' = ((((m.setSock k (·.closeFd)).setHost h fun host =>
      { host with bReady := false }).setSock k (·.close false)).setSock k (·.reconnectOrEnd))) :
    Tidy crowd p m' addressed
        (Function.update entry q (some { e with ready := false, conn := none })) ∧
      m'.sent = m.sent ∧ m'.sock =
        m.sock.modify k fun s => (s.closeFd.close false).reconnectOrEnd := by
  obtain ⟨k', owns', known, current⟩ := isHost.socket
  obtain rfl := Option.some.inj (owns.symm.trans owns')
  have sock : m'.sock = m.sock.modify k fun s => (s.closeFd.close false).reconnectOrEnd := by
    rw [isNew]
    unfold Mesh.setSock Mesh.setHost Heap.modify
    simp only [Function.update_self, Function.update_idem]
  have host : m'.host h = { m.host h with bReady := false } := by
    rw [isNew]
    exact m.setHost_self h fun host => { host with bReady := false }
  have others (h' : HostPtr) (apart : h' ≠ h) : m'.host h' = m.host h' := by
    rw [isNew]
    exact m.setHost_of_ne (fun host => { host with bReady := false }) apart
  have peers : m'.peers = m.peers := by
    rw [isNew]
    rfl
  have socket : (m'.sock k) = ((m.sock k).closeFd.close false).reconnectOrEnd := by
    rw [sock, Heap.modify_self]
  have isCurrent : IsCurrent crowd q h { e with ready := false, conn := none } (m'.sock k) := by
    rw [socket]
    unfold TCPSocket.reconnectOrEnd
    cases server : e.server with
    | true =>
        have isServer : (m.sock k).isClient = false := by
          rw [current.side, server]
          rfl
        have stays : (((m.sock k).closeFd.close false).bReconnect &&
            ((m.sock k).closeFd.close false).isClient) = false := by
          change ((m.sock k).bReconnect && (m.sock k).isClient) = false
          rw [isServer, Bool.and_false]
        rw [stays, if_neg Bool.false_ne_true]
        exact ⟨current.listener, isServer, current.peer, nofun, nofun, fun _ => ⟨rfl, rfl⟩⟩
    | false =>
        have isClient : (m.sock k).isClient = true := by
          rw [current.side, server]
          rfl
        obtain ⟨ip, port, again⟩ := current.dials server
        have dials : (((m.sock k).closeFd.close false).bReconnect &&
            ((m.sock k).closeFd.close false).isClient) = true := by
          change ((m.sock k).bReconnect && (m.sock k).isClient) = true
          rw [again, isClient]
          rfl
        rw [dials, if_pos rfl]
        exact ⟨current.listener, isClient, current.peer, fun _ => ⟨ip, port, again⟩, nofun,
          fun _ => ⟨rfl, rfl, rfl⟩⟩
  refine ⟨?_, by rw [isNew]; rfl, sock⟩
  refine tidy.replace named (by rw [isNew]; rfl) peers (by rw [isNew]; rfl) (by rw [sock]; rfl) ?_
    isHost.toKnows others ?_ ?_ ?_
  · refine ⟨isHost.toKnows.congr peers (by rw [host]) (by rw [host]), by rw [host], ?_, k, ?_, ?_,
      isCurrent⟩
    · rw [host]
      exact isHost.server
    · rw [host]
      exact owns
    · rw [sock]
      exact known
  · intro h' other apart belongs
    rw [sock]
    refine m.sock.modify_of_ne _ ?_
    rintro rfl
    exact apart (tidy.owner belongs owns)
  · intro k' known' free
    have isOther : k' ≠ k := by
      rintro rfl
      exact free h (by rw [host]; exact owns)
    rw [sock, Heap.modify_of_ne _ _ isOther]
    refine tidy.aside k' known' fun h' owns' => free h' ?_
    by_cases same : h' = h
    · rw [same] at owns' ⊢
      rw [host]
      exact owns'
    · rw [others h' same]
      exact owns'
  · intro k' outside
    rw [sock]
    refine m.sock.modify_of_ne _ ?_
    rintro rfl
    exact Nat.not_lt_of_ge outside known

/-! ## Gossip -/

/-- What `broadcast_hosts` writes: everybody who is ready hears of everybody who is ready. -/
theorem broadcastHosts (tidy : Tidy crowd p m addressed entry) (named : crowd.Named) :
    ∃ text, m.broadcastHosts = m.broadcast text ∧
      (∀ line ∈ linesOf text, ∃ q, line = Mesh.hostText (crowd.ip q) (crowd.port q)) ∧
      ∀ q e, entry q = some e → e.ready = true →
        Mesh.hostText (crowd.ip q) (crowd.port q) ∈ linesOf text := by
  refine ⟨_, rfl, ?_⟩
  have keys : ∀ h ∈ m.hosts.filter fun h => (m.host h).bReady,
      ∃ q, (m.host h).ip = crowd.ip q ∧ (m.host h).port = crowd.port q := by
    intro h listed
    obtain ⟨inside, ready⟩ := List.mem_filter.mp listed
    rw [tidy.hosts] at inside
    rcases List.mem_cons.mp inside with rfl | inside
    · refine ⟨p, ?_, tidy.loopback.1⟩
      have ip := tidy.ip
      cases addressed with
      | true =>
          rw [if_pos rfl] at ip
          exact ip
      | false =>
          rw [if_neg Bool.false_ne_true] at ip
          rw [ip.2] at ready
          cases ready
    · obtain ⟨q, _, knows⟩ := tidy.keyed h inside
      exact ⟨q, knows.ip, knows.port⟩
  have whole : (m.hosts.filter fun h => (m.host h).bReady).flatMap (fun h => Mesh.hostLine (m.host h)) =
      ((m.hosts.filter fun h => (m.host h).bReady).map m.host).flatMap Mesh.hostLine := by
    rw [List.flatMap_map]
  have safe : ∀ host ∈ (m.hosts.filter fun h => (m.host h).bReady).map m.host, LineSafe host.ip := by
    intro host inside
    obtain ⟨h, listed, rfl⟩ := List.mem_map.mp inside
    obtain ⟨q, ip, _⟩ := keys h listed
    rw [ip]
    exact (named.text q).line
  rw [whole, Mesh.linesOf_hostLines safe]
  constructor
  · intro line member
    obtain ⟨host, inside, rfl⟩ := List.mem_map.mp member
    obtain ⟨h, listed, rfl⟩ := List.mem_map.mp inside
    obtain ⟨q, ip, port⟩ := keys h listed
    exact ⟨q, by rw [ip, port]⟩
  · intro q e met ready
    obtain ⟨h, isHost⟩ := tidy.met q e met
    refine List.mem_map.mpr ⟨m.host h, List.mem_map.mpr ⟨h, List.mem_filter.mpr ⟨?_, ?_⟩, rfl⟩, ?_⟩
    · exact List.mem_cons_of_mem _ isHost.listed
    · exact isHost.ready.trans ready
    · rw [isHost.ip, isHost.port]

end Tidy

end LibPubSub
