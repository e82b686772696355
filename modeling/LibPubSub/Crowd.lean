import LibPubSub.Handshake
import LibPubSub.HostTable
import LibPubSub.Writes

/-! Processes of this code that all know each other by the same addresses: what the
table of hosts and the signaling sockets of one of them look like to the
handshake, and what each function of `mesh.cpp` does to that. -/

set_option autoImplicit false

namespace LibPubSub

open Handshake (Entry)

theorem Mesh.localName_localName (ip : Str) : Mesh.localName (Mesh.localName ip) = Mesh.localName ip := by
  by_cases loopback : ip = "127.0.0.1".toList
  · have here : Mesh.localName ip = "localhost".toList := if_pos loopback
    rw [here]
    exact if_neg (by decide)
  · have same : Mesh.localName ip = ip := if_neg loopback
    rw [same, same]

/-- Processes with the numeric address of the machine of each. -/
structure Crowd (ι : Type) where
  ID : ι → Int32
  address : ι → Str
  port : ι → Int32

namespace Crowd

variable {ι : Type}

/-- The address under which a process is known. -/
def ip (crowd : Crowd ι) (p : ι) : Str :=
  Mesh.localName (crowd.address p)

/-- Where the processes run. Connections come from the address that the process is
known by, it leads to the machine of the process from everywhere, and on one
machine a port belongs to one process. -/
structure Placed (crowd : Crowd ι) (topology : Topology ι) : Prop where
  distinct : ∀ p q, p ≠ q → crowd.ID p ≠ crowd.ID q
  numeric : ∀ p, ∀ ch ∈ crowd.address p, ch.isDigit = true ∨ ch = '.'
  presents : ∀ p q, p ≠ q → topology.source p q = crowd.address p
  named : ∀ i p, topology.names i (crowd.ip p) p = true
  loopback : ∀ p, topology.names p "localhost".toList p = true
  alone : ∀ i ip p q, topology.names i ip p = true → topology.names i ip q = true →
    crowd.port p = crowd.port q → p = q

/-- What the processes rely on: the text of an address, that no two share one, and that
nobody is taken for the loopback Host of another. -/
structure Named (crowd : Crowd ι) : Prop where
  text : ∀ p, FieldSafe (crowd.ip p)
  apart : ∀ p q, crowd.ip p = crowd.ip q → crowd.port p = crowd.port q → p = q
  remote : ∀ p q, "localhost".toList = crowd.ip q → crowd.port p = crowd.port q → p = q

theorem Placed.addresses {crowd : Crowd ι} {topology : Topology ι} (placed : crowd.Placed topology) :
    crowd.Named := by
  refine ⟨?_, ?_, ?_⟩
  · intro p
    have numeric := placed.numeric p
    have absent (ch : Char) (notDigit : ch.isDigit = false) (notDot : ch ≠ '.') :
        ch ∉ crowd.address p := by
      intro member
      rcases numeric ch member with digit | dot
      · rw [notDigit] at digit
        cases digit
      · exact notDot dot
    unfold Crowd.ip Mesh.localName
    split
    · exact ⟨by decide, by decide, by decide⟩
    · exact ⟨⟨absent _ (by decide) (by decide), absent _ (by decide) (by decide)⟩,
        absent _ (by decide) (by decide), absent _ (by decide) (by decide)⟩
  · intro p q sameIp samePort
    have here := placed.named p p
    rw [sameIp] at here
    exact placed.alone p _ p q here (placed.named p q) samePort
  · intro p q isLocal samePort
    have here := placed.named p q
    rw [← isLocal] at here
    exact placed.alone p _ p q (placed.loopback p) here samePort

theorem localName_ip (crowd : Crowd ι) (p : ι) : Mesh.localName (crowd.ip p) = crowd.ip p :=
  Mesh.localName_localName _

/-- `h` is the Host of `q` in the table. -/
structure Knows (crowd : Crowd ι) (m : Mesh) (q : ι) (h : HostPtr) : Prop where
  listed : h ∈ m.peers
  ip : (m.host h).ip = crowd.ip q
  port : (m.host h).port = crowd.port q

end Crowd

variable {ι : Type}

/-- The socket of the Host `h` of `q`. -/
structure IsCurrent (crowd : Crowd ι) (q : ι) (h : HostPtr) (e : Entry)
    (s : TCPSocket SignalingListener) : Prop where
  listener : s.listeners = some (.host h)
  side : s.isClient = !e.server
  peer : Mesh.localName s.ip = crowd.ip q
  dials : e.server = false → s.ip = crowd.ip q ∧ s.port = crowd.port q ∧ s.bReconnect = true
  holds : ∀ c, e.conn = some c → s.thread = .receiving c ∧ s.fdOpen = true ∧ s.bStop = false
  idle : e.conn = none → s.bStop = true ∧
    if e.server then s.thread = .ended else s.thread = .connecting ∧ s.fdOpen = true

/-- Any other socket: it waits for the `ID=` of its connection or nobody hears it. -/
structure IsAside (s : TCPSocket SignalingListener) : Prop where
  listener : s.listeners = none ∨ s.listeners = some .incoming
  incoming : s.fdOpen = true → s.listeners = some .incoming ∧ s.bStop = false
  server : s.listeners = some .incoming → s.isClient = false
  finished : (s.bReconnect && s.isClient) = false
  undialled : s.fdOpen = true → s.thread ≠ .connecting

/-- `h` is the Host of `q`, and `e` is what matters of it. -/
structure IsHost (crowd : Crowd ι) (m : Mesh) (q : ι) (e : Entry) (h : HostPtr) : Prop
    extends crowd.Knows m q h where
  ready : (m.host h).bReady = e.ready
  server : (m.host h).bServer = e.server
  socket : ∃ k, (m.host h).socket = some k ∧ k < m.sock.next ∧ IsCurrent crowd q h e (m.sock k)

/-- The mesh of process `p`: `addressed` says whether it has been told its own address,
`entry` is what it knows of each other process. -/
structure Tidy (crowd : Crowd ι) (p : ι) (m : Mesh) (addressed : Bool)
    (entry : ι → Option Entry) : Prop where
  self : m.self = (crowd.ID p, crowd.port p, 0)
  loopback : (m.host 0).port = crowd.port p ∧ (m.host 0).socket = none
  ip : if addressed then (m.host 0).ip = crowd.ip p
    else (m.host 0).ip = "localhost".toList ∧ (m.host 0).bReady = false
  peers : ∀ h, h ∈ m.peers ↔ 0 < h ∧ h < m.host.next
  nodup : m.peers.Nodup
  started : 0 < m.host.next
  strangers : ∀ h, m.host.next ≤ h → (m.host h).socket = none
  keyed : ∀ h ∈ m.peers, ∃ q, q ≠ p ∧ crowd.Knows m q h
  unique : ∀ q h h', crowd.Knows m q h → crowd.Knows m q h' → h = h'
  unmet : ∀ q, entry q = none → ∀ h, ¬ crowd.Knows m q h
  met : ∀ q e, entry q = some e → ∃ h, IsHost crowd m q e h
  aside : ∀ k < m.sock.next, (∀ h, (m.host h).socket ≠ some k) → IsAside (m.sock k)
  fresh : ∀ k, m.sock.next ≤ k → m.sock k = {}

/-! ## The table of hosts -/

namespace Crowd

variable {crowd : Crowd ι} {m m' : Mesh} {p q : ι} {h : HostPtr} {e : Entry}

theorem Knows.congr (knows : crowd.Knows m q h) (peers : m'.peers = m.peers)
    (ip : (m'.host h).ip = (m.host h).ip) (port : (m'.host h).port = (m.host h).port) :
    crowd.Knows m' q h := by
  constructor
  · rw [peers]
    exact knows.listed
  · rw [ip]
    exact knows.ip
  · rw [port]
    exact knows.port

/-- A Host is the Host of one process. -/
theorem Knows.same {q' : ι} (knows : crowd.Knows m q h) (knows' : crowd.Knows m q' h)
    (named : crowd.Named) : q = q' :=
  named.apart q q' (knows.ip.symm.trans knows'.ip) (knows.port.symm.trans knows'.port)

end Crowd

namespace Tidy

variable {crowd : Crowd ι} {p q : ι} {m m' : Mesh} {addressed : Bool} {entry : ι → Option Entry}
  {e : Entry} {h : HostPtr} {k : SockPtr}

theorem me (tidy : Tidy crowd p m addressed entry) : m.me = 0 :=
  congrArg (fun self => self.2.2) tidy.self

theorem ID (tidy : Tidy crowd p m addressed entry) : m.ID = crowd.ID p :=
  congrArg Prod.fst tidy.self

theorem signalingPort (tidy : Tidy crowd p m addressed entry) : m.signalingPort = crowd.port p :=
  congrArg (fun self => self.2.1) tidy.self

theorem hosts (tidy : Tidy crowd p m addressed entry) : m.hosts = 0 :: m.peers := by
  unfold Mesh.hosts
  rw [tidy.me]

/-- The entry that a Host in the table is kept for. -/
theorem host_of_listed (tidy : Tidy crowd p m addressed entry) (listed : h ∈ m.peers) :
    ∃ q e, q ≠ p ∧ entry q = some e ∧ IsHost crowd m q e h := by
  obtain ⟨q, other, knows⟩ := tidy.keyed h listed
  cases met : entry q with
  | none => exact absurd knows (tidy.unmet q met h)
  | some e =>
      obtain ⟨h', isHost⟩ := tidy.met q e met
      rw [tidy.unique q h h' knows isHost.toKnows]
      exact ⟨q, e, other, met, isHost⟩

/-- The entry that a Host with a socket is kept for. -/
theorem host_of_socket (tidy : Tidy crowd p m addressed entry)
    (owns : (m.host h).socket = some k) :
    ∃ q e, q ≠ p ∧ entry q = some e ∧ IsHost crowd m q e h ∧ k < m.sock.next ∧
      IsCurrent crowd q h e (m.sock k) := by
  have listed : h ∈ m.peers := by
    refine (tidy.peers h).mpr ⟨Nat.pos_of_ne_zero ?_, ?_⟩
    · rintro rfl
      rw [tidy.loopback.2] at owns
      cases owns
    · refine Nat.lt_of_not_le fun outside => ?_
      rw [tidy.strangers h outside] at owns
      cases owns
  obtain ⟨q, e, other, met, isHost⟩ := tidy.host_of_listed listed
  obtain ⟨k', owns', known, current⟩ := isHost.socket
  obtain rfl := Option.some.inj (owns.symm.trans owns')
  exact ⟨q, e, other, met, isHost, known, current⟩

/-- No two Hosts share a socket. -/
theorem owner (tidy : Tidy crowd p m addressed entry) {h' : HostPtr}
    (owns : (m.host h).socket = some k) (owns' : (m.host h').socket = some k) : h = h' := by
  obtain ⟨_, _, _, _, _, _, current⟩ := tidy.host_of_socket owns
  obtain ⟨_, _, _, _, _, _, current'⟩ := tidy.host_of_socket owns'
  have same := current.listener.symm.trans current'.listener
  exact SignalingListener.host.inj (Option.some.inj same)

theorem notMe (tidy : Tidy crowd p m addressed entry) (named : crowd.Named) (other : q ≠ p) :
    m.hasKey (crowd.ip q) (crowd.port q) 0 = false := by
  unfold Mesh.hasKey
  rw [tidy.loopback.1]
  by_contra same
  rw [Bool.not_eq_false, Bool.and_eq_true, beq_iff_eq, beq_iff_eq] at same
  have ip := tidy.ip
  cases addressed with
  | true =>
      rw [if_pos rfl] at ip
      exact other (named.apart p q (ip.symm.trans same.1) same.2).symm
  | false =>
      rw [if_neg Bool.false_ne_true] at ip
      exact other (named.remote p q (ip.1.symm.trans same.1) same.2).symm

/-- Who is known is found under the address. -/
theorem getHost_known (tidy : Tidy crowd p m addressed entry) (named : crowd.Named) (other : q ≠ p)
    (knows : crowd.Knows m q h) : m.getHost (crowd.ip q) (crowd.port q) = some h := by
  cases found : m.getHost (crowd.ip q) (crowd.port q) with
  | none =>
      have unknown := Mesh.hasHost_eq_false_iff.mpr found
      have known : m.hasHost (crowd.ip q) (crowd.port q) = true := by
        refine Mesh.hasHost_eq_true_iff.mpr ⟨h, ?_, knows.ip, knows.port⟩
        exact List.mem_cons_of_mem _ knows.listed
      rw [unknown] at known
      cases known
  | some h' =>
      obtain ⟨listed, ip, port⟩ := Mesh.getHost_eq_some found
      rw [tidy.hosts] at listed
      rcases List.mem_cons.mp listed with rfl | isPeer
      · have notMe := tidy.notMe named other
        unfold Mesh.hasKey at notMe
        rw [ip, port, beq_self_eq_true, beq_self_eq_true] at notMe
        cases notMe
      · exact congrArg some (tidy.unique q h' h ⟨isPeer, ip, port⟩ knows)

theorem getHost_unmet (tidy : Tidy crowd p m addressed entry) (named : crowd.Named) (other : q ≠ p)
    (unmet : entry q = none) : m.getHost (crowd.ip q) (crowd.port q) = none := by
  cases found : m.getHost (crowd.ip q) (crowd.port q) with
  | none => rfl
  | some h =>
      obtain ⟨listed, ip, port⟩ := Mesh.getHost_eq_some found
      rw [tidy.hosts] at listed
      rcases List.mem_cons.mp listed with rfl | isPeer
      · have notMe := tidy.notMe named other
        unfold Mesh.hasKey at notMe
        rw [ip, port, beq_self_eq_true, beq_self_eq_true] at notMe
        cases notMe
      · exact absurd ⟨isPeer, ip, port⟩ (tidy.unmet q unmet h)

/-- A process that has been told its address finds itself under it. -/
theorem hasHost_me (tidy : Tidy crowd p m true entry) :
    m.hasHost (crowd.ip p) (crowd.port p) = true := by
  have ip := tidy.ip
  rw [if_pos rfl] at ip
  refine Mesh.hasHost_eq_true_iff.mpr ⟨0, ?_, ip, tidy.loopback.1⟩
  rw [tidy.hosts]
  exact List.mem_cons_self

/-! ## Writing -/

end Tidy

/-- What is written to a Host goes out on the connection of the entry. -/
theorem IsHost.voice {crowd : Crowd ι} {m : Mesh} {q : ι} {e : Entry} {h : HostPtr}
    (isHost : IsHost crowd m q e h) : m.voice h = e.conn.map (·, e.side) := by
  obtain ⟨k, socket, _, current⟩ := isHost.socket
  unfold Mesh.voice
  rw [socket]
  dsimp only
  cases conn : e.conn with
  | none =>
      rw [(current.idle conn).1]
      rfl
  | some c =>
      obtain ⟨thread, isOpen, running⟩ := current.holds c conn
      have side : (m.sock k).side = e.side := by
        unfold TCPSocket.side Entry.side
        rw [current.side]
        cases e.server <;> rfl
      simp only [running, thread, isOpen, side, Bool.false_eq_true, ↓reduceIte, Option.map_some]

/-- What `texts` come out as when they are written to `voice`. -/
def saying (voice : Option (ConnId × End)) (texts : List Str) : List (ConnId × End × Str) :=
  texts.flatMap (utter voice)

theorem saying_cons (voice : Option (ConnId × End)) (text : Str) (texts : List Str) :
    saying voice (text :: texts) = utter voice text ++ saying voice texts :=
  rfl

theorem written_saying_self (c : ConnId) (e : End) (texts : List Str) :
    written (saying (some (c, e)) texts) c e = texts.flatMap linesOf := by
  induction texts with
  | nil => rfl
  | cons text texts ih =>
      rw [saying_cons, written_append, written_utter_self, ih, List.flatMap_cons]

theorem written_saying_of_ne {voice : Option (ConnId × End)} {c : ConnId} {e : End}
    (other : voice ≠ some (c, e)) (texts : List Str) : written (saying voice texts) c e = [] := by
  induction texts with
  | nil => rfl
  | cons text texts ih =>
      rw [saying_cons, written_append, written_utter_of_ne other, ih, List.append_nil]

/-! ## Changes of the table -/

theorem IsHost.congr {crowd : Crowd ι} {m m' : Mesh} {q : ι} {e : Entry} {h : HostPtr}
    (isHost : IsHost crowd m q e h) (peers : m'.peers = m.peers) (host : m'.host h = m.host h)
    (next : m.sock.next ≤ m'.sock.next)
    (sock : ∀ k, (m.host h).socket = some k → m'.sock k = m.sock k) :
    IsHost crowd m' q e h := by
  obtain ⟨k, owns, known, current⟩ := isHost.socket
  refine ⟨isHost.toKnows.congr peers (by rw [host]) (by rw [host]), ?_, ?_, k, ?_, ?_, ?_⟩
  · rw [host]
    exact isHost.ready
  · rw [host]
    exact isHost.server
  · rw [host]
    exact owns
  · exact Nat.lt_of_lt_of_le known next
  · rw [sock k owns]
    exact current

namespace Tidy

variable {crowd : Crowd ι} {p q : ι} {m m' : Mesh} {addressed : Bool} {entry : ι → Option Entry}
  {e : Entry} {h : HostPtr} {k : SockPtr}

/-- Only the writes differ. -/
theorem of_table (tidy : Tidy crowd p m addressed entry) (same : m'.table = m.table) :
    Tidy crowd p m' addressed entry := by
  have host := Mesh.host_of_table same
  have sock := Mesh.sock_of_table same
  have peers := Mesh.peers_of_table same
  have knows (q : ι) (h : HostPtr) : crowd.Knows m' q h ↔ crowd.Knows m q h :=
    ⟨fun knows => knows.congr peers.symm (by rw [host]) (by rw [host]),
      fun knows => knows.congr peers (by rw [host]) (by rw [host])⟩
  constructor
  · rw [Mesh.self_of_table same]
    exact tidy.self
  · rw [host]
    exact tidy.loopback
  · rw [host]
    exact tidy.ip
  · rw [peers, host]
    exact tidy.peers
  · rw [peers]
    exact tidy.nodup
  · rw [host]
    exact tidy.started
  · rw [host]
    exact tidy.strangers
  · intro h listed
    rw [peers] at listed
    obtain ⟨q, other, isKnown⟩ := tidy.keyed h listed
    exact ⟨q, other, (knows q h).mpr isKnown⟩
  · exact fun q h h' first second => tidy.unique q h h' ((knows q h).mp first) ((knows q h').mp second)
  · exact fun q none h isKnown => tidy.unmet q none h ((knows q h).mp isKnown)
  · intro q e met
    obtain ⟨h, isHost⟩ := tidy.met q e met
    exact ⟨h, isHost.congr peers (by rw [host]) (by rw [sock]) fun k _ => by rw [sock]⟩
  · rw [host, sock]
    exact tidy.aside
  · rw [sock]
    exact tidy.fresh

/-- The flags of the Hosts change, their keys and sockets do not. -/
theorem of_host (tidy : Tidy crowd p m addressed entry) {addressed' : Bool}
    {entry' : ι → Option Entry} (self : m'.self = m.self) (peers : m'.peers = m.peers)
    (next : m'.host.next = m.host.next) (sock : m'.sock = m.sock)
    (ip : if addressed' then (m'.host 0).ip = crowd.ip p
      else (m'.host 0).ip = "localhost".toList ∧ (m'.host 0).bReady = false)
    (keys : ∀ h, (0 < h → (m'.host h).ip = (m.host h).ip) ∧ (m'.host h).port = (m.host h).port ∧
      (m'.host h).bServer = (m.host h).bServer ∧ (m'.host h).socket = (m.host h).socket)
    (unmet : ∀ q, entry' q = none → entry q = none)
    (met : ∀ q e', entry' q = some e' → ∃ e, entry q = some e ∧ e' = { e with ready := e'.ready } ∧
      ∀ h, IsHost crowd m q e h → (m'.host h).bReady = e'.ready) :
    Tidy crowd p m' addressed' entry' := by
  have positive {h : HostPtr} (listed : h ∈ m.peers) : 0 < h := ((tidy.peers h).mp listed).1
  have knows (q : ι) (h : HostPtr) : crowd.Knows m' q h ↔ crowd.Knows m q h := by
    constructor
    · intro isKnown
      have listed : h ∈ m.peers := by
        rw [← peers]
        exact isKnown.listed
      exact isKnown.congr peers.symm ((keys h).1 (positive listed)).symm (keys h).2.1.symm
    · exact fun isKnown => isKnown.congr peers ((keys h).1 (positive isKnown.listed)) (keys h).2.1
  constructor
  · rw [self]
    exact tidy.self
  · rw [(keys 0).2.1, (keys 0).2.2.2]
    exact tidy.loopback
  · exact ip
  · rw [peers, next]
    exact tidy.peers
  · rw [peers]
    exact tidy.nodup
  · rw [next]
    exact tidy.started
  · intro h outside
    rw [next] at outside
    rw [(keys h).2.2.2]
    exact tidy.strangers h outside
  · intro h listed
    rw [peers] at listed
    obtain ⟨q, other, isKnown⟩ := tidy.keyed h listed
    exact ⟨q, other, (knows q h).mpr isKnown⟩
  · exact fun q h h' first second => tidy.unique q h h' ((knows q h).mp first) ((knows q h').mp second)
  · exact fun q none h isKnown => tidy.unmet q (unmet q none) h ((knows q h).mp isKnown)
  · intro q e' found
    obtain ⟨e, before, same, ready⟩ := met q e' found
    obtain ⟨h, isHost⟩ := tidy.met q e before
    obtain ⟨k, owns, known, current⟩ := isHost.socket
    refine ⟨h, (knows q h).mpr isHost.toKnows, ready h isHost, ?_, k, ?_, ?_, ?_⟩
    · rw [(keys h).2.2.1, same]
      exact isHost.server
    · rw [(keys h).2.2.2]
      exact owns
    · rw [sock]
      exact known
    · rw [sock, same]
      exact ⟨current.listener, current.side, current.peer, current.dials, current.holds,
        current.idle⟩
  · intro k known free
    rw [sock] at known ⊢
    refine tidy.aside k known fun h owns => free h ?_
    rw [(keys h).2.2.2]
    exact owns
  · rw [sock]
    exact tidy.fresh

/-- The entry for `q` changes, and sockets that belong to nobody else. -/
theorem replace [DecidableEq ι] (tidy : Tidy crowd p m addressed entry) (named : crowd.Named)
    (self : m'.self = m.self)
    (peers : m'.peers = m.peers) (next : m'.host.next = m.host.next)
    (sockNext : m'.sock.next = m.sock.next) (new : IsHost crowd m' q e h)
    (before : crowd.Knows m q h) (others : ∀ h', h' ≠ h → m'.host h' = m.host h')
    (socks : ∀ h' k, h' ≠ h → (m.host h').socket = some k → m'.sock k = m.sock k)
    (aside : ∀ k < m.sock.next, (∀ h, (m'.host h).socket ≠ some k) → IsAside (m'.sock k))
    (fresh : ∀ k, m.sock.next ≤ k → m'.sock k = m.sock k) :
    Tidy crowd p m' addressed (Function.update entry q (some e)) := by
  have positive : 0 < h := ((tidy.peers h).mp before.listed).1
  have loopback : m'.host 0 = m.host 0 := others 0 (Nat.ne_of_lt positive)
  have knows (q' : ι) (h' : HostPtr) : crowd.Knows m' q' h' ↔ crowd.Knows m q' h' := by
    by_cases same : h' = h
    · have keys : (m'.host h').ip = (m.host h').ip ∧ (m'.host h').port = (m.host h').port := by
        rw [same]
        exact ⟨new.ip.trans before.ip.symm, new.port.trans before.port.symm⟩
      exact ⟨fun isKnown => isKnown.congr peers.symm keys.1.symm keys.2.symm,
        fun isKnown => isKnown.congr peers keys.1 keys.2⟩
    · have host := others h' same
      exact ⟨fun isKnown => isKnown.congr peers.symm (by rw [host]) (by rw [host]),
        fun isKnown => isKnown.congr peers (by rw [host]) (by rw [host])⟩
  constructor
  · rw [self]
    exact tidy.self
  · rw [loopback]
    exact tidy.loopback
  · rw [loopback]
    exact tidy.ip
  · rw [peers, next]
    exact tidy.peers
  · rw [peers]
    exact tidy.nodup
  · rw [next]
    exact tidy.started
  · intro h' outside
    rw [next] at outside
    have other : h' ≠ h := by
      rintro rfl
      exact Nat.not_lt_of_ge outside ((tidy.peers h').mp before.listed).2
    rw [others h' other]
    exact tidy.strangers h' outside
  · intro h' listed
    rw [peers] at listed
    obtain ⟨q', other, isKnown⟩ := tidy.keyed h' listed
    exact ⟨q', other, (knows q' h').mpr isKnown⟩
  · exact fun q h h' first second => tidy.unique q h h' ((knows q h).mp first) ((knows q h').mp second)
  · intro q' none h' isKnown
    by_cases same : q' = q
    · rw [same, Function.update_self] at none
      cases none
    · rw [Function.update_of_ne same] at none
      exact tidy.unmet q' none h' ((knows q' h').mp isKnown)
  · intro q' e' met
    by_cases same : q' = q
    · rw [same, Function.update_self] at met
      obtain rfl := Option.some.inj met
      rw [same]
      exact ⟨h, new⟩
    · rw [Function.update_of_ne same] at met
      obtain ⟨h', isHost⟩ := tidy.met q' e' met
      refine ⟨h', ?_⟩
      by_cases isSame : h' = h
      · -- one Host is not kept for two processes
        rw [isSame] at isHost
        exact absurd (isHost.toKnows.same before named) same
      · exact isHost.congr peers (others h' isSame) (by rw [sockNext])
          fun k owns => socks h' k isSame owns
  · intro k known free
    rw [sockNext] at known
    exact aside k known free
  · intro k outside
    rw [sockNext] at outside
    rw [fresh k outside]
    exact tidy.fresh k outside

/-- A Host is pushed for a process that was unknown. -/
theorem grow [DecidableEq ι] (tidy : Tidy crowd p m addressed entry) (named : crowd.Named)
    (other : q ≠ p) (unmet : entry q = none) (self : m'.self = m.self)
    (peers : m'.peers = m.peers ++ [m.host.next]) (next : m'.host.next = m.host.next + 1)
    (sockNext : m.sock.next ≤ m'.sock.next) (new : IsHost crowd m' q e m.host.next)
    (others : ∀ h, h ≠ m.host.next → m'.host h = m.host h)
    (socks : ∀ h k, (m.host h).socket = some k → m'.sock k = m.sock k)
    (aside : ∀ k < m'.sock.next, (∀ h, (m'.host h).socket ≠ some k) → IsAside (m'.sock k))
    (fresh : ∀ k, m'.sock.next ≤ k → m'.sock k = {}) :
    Tidy crowd p m' addressed (Function.update entry q (some e)) := by
  have loopback : m'.host 0 = m.host 0 := others 0 (Nat.ne_of_lt tidy.started)
  have listed (h : HostPtr) : h ∈ m'.peers ↔ h ∈ m.peers ∨ h = m.host.next := by
    rw [peers, List.mem_append, List.mem_singleton]
  have old {h : HostPtr} (isOld : h ∈ m.peers) : h ≠ m.host.next :=
    Nat.ne_of_lt ((tidy.peers h).mp isOld).2
  -- only the new Host has the key of `q`, and it has no other
  have knows (q' : ι) (h : HostPtr) :
      crowd.Knows m' q' h ↔ crowd.Knows m q' h ∨ (h = m.host.next ∧ q' = q) := by
    constructor
    · intro isKnown
      by_cases isNew : h = m.host.next
      · rw [isNew] at isKnown ⊢
        exact .inr ⟨rfl, isKnown.same new.toKnows named⟩
      · have host := others h isNew
        refine .inl ⟨((listed h).mp isKnown.listed).resolve_right isNew, ?_, ?_⟩
        · rw [← host]
          exact isKnown.ip
        · rw [← host]
          exact isKnown.port
    · rintro (isKnown | ⟨rfl, rfl⟩)
      · have host := others h (old isKnown.listed)
        refine ⟨(listed h).mpr (.inl isKnown.listed), ?_, ?_⟩
        · rw [host]
          exact isKnown.ip
        · rw [host]
          exact isKnown.port
      · exact new.toKnows
  constructor
  · rw [self]
    exact tidy.self
  · rw [loopback]
    exact tidy.loopback
  · rw [loopback]
    exact tidy.ip
  · intro h
    rw [listed, tidy.peers, next]
    constructor
    · rintro (⟨positive, known⟩ | rfl)
      · exact ⟨positive, Nat.lt_succ_of_lt known⟩
      · exact ⟨tidy.started, Nat.lt_succ_self _⟩
    · rintro ⟨positive, known⟩
      exact (Nat.lt_succ_iff_lt_or_eq.mp known).imp (And.intro positive) id
  · rw [peers]
    refine List.nodup_append.mpr ⟨tidy.nodup, List.pairwise_singleton _ _, fun h isOld h' isNew => ?_⟩
    rw [List.mem_singleton.mp isNew]
    exact old isOld
  · rw [next]
    exact Nat.succ_pos _
  · intro h outside
    rw [next] at outside
    rw [others h (Nat.ne_of_gt outside)]
    exact tidy.strangers h (Nat.le_of_succ_le outside)
  · intro h isListed
    rcases (listed h).mp isListed with isOld | rfl
    · obtain ⟨q', apart, isKnown⟩ := tidy.keyed h isOld
      exact ⟨q', apart, (knows q' h).mpr (.inl isKnown)⟩
    · exact ⟨q, other, new.toKnows⟩
  · intro q' h h' first second
    rcases (knows q' h).mp first with isOld | ⟨rfl, rfl⟩ <;>
      rcases (knows q' h').mp second with isOld' | ⟨rfl, isQ⟩
    · exact tidy.unique q' h h' isOld isOld'
    · rw [isQ] at isOld
      exact absurd isOld (tidy.unmet q unmet h)
    · exact absurd isOld' (tidy.unmet q' unmet h')
    · rfl
  · intro q' none h isKnown
    by_cases same : q' = q
    · rw [same, Function.update_self] at none
      cases none
    · rw [Function.update_of_ne same] at none
      rcases (knows q' h).mp isKnown with isOld | ⟨_, isQ⟩
      · exact tidy.unmet q' none h isOld
      · exact same isQ
  · intro q' e' met
    by_cases same : q' = q
    · rw [same, Function.update_self] at met
      obtain rfl := Option.some.inj met
      rw [same]
      exact ⟨_, new⟩
    · rw [Function.update_of_ne same] at met
      obtain ⟨h, isHost⟩ := tidy.met q' e' met
      have host := others h (old isHost.listed)
      obtain ⟨k, owns, known, current⟩ := isHost.socket
      refine ⟨h, (knows q' h).mpr (.inl isHost.toKnows), ?_, ?_, k, ?_, ?_, ?_⟩
      · rw [host]
        exact isHost.ready
      · rw [host]
        exact isHost.server
      · rw [host]
        exact owns
      · exact Nat.lt_of_lt_of_le known sockNext
      · rw [socks h k owns]
        exact current
  · exact aside
  · exact fresh

/-- A socket that belongs to no Host changes. -/
theorem setAside (tidy : Tidy crowd p m addressed entry) (known : k < m.sock.next)
    (free : ∀ h, (m.host h).socket ≠ some k)
    {change : TCPSocket SignalingListener → TCPSocket SignalingListener}
    (stays : IsAside (m.sock k) → IsAside (change (m.sock k))) :
    Tidy crowd p (m.setSock k change) addressed entry := by
  constructor
  · exact tidy.self
  · exact tidy.loopback
  · exact tidy.ip
  · exact tidy.peers
  · exact tidy.nodup
  · exact tidy.started
  · exact tidy.strangers
  · intro h listed
    obtain ⟨q, other, isKnown⟩ := tidy.keyed h listed
    exact ⟨q, other, isKnown.congr rfl rfl rfl⟩
  · exact fun q h h' first second =>
      tidy.unique q h h' (first.congr rfl rfl rfl) (second.congr rfl rfl rfl)
  · exact fun q none h isKnown => tidy.unmet q none h (isKnown.congr rfl rfl rfl)
  · intro q e met
    obtain ⟨h, isHost⟩ := tidy.met q e met
    refine ⟨h, isHost.congr rfl rfl (Nat.le_refl _) fun k' owns => ?_⟩
    refine m.setSock_of_ne change ?_
    rintro rfl
    exact free h owns
  · intro k' known' free'
    by_cases same : k' = k
    · rw [same, Mesh.setSock_self]
      exact stays (tidy.aside k known free)
    · rw [Mesh.setSock_of_ne _ _ same]
      exact tidy.aside k' known' free'
  · intro k' outside
    have same : k' ≠ k := by
      rintro rfl
      exact Nat.not_lt_of_ge outside known
    rw [Mesh.setSock_of_ne _ _ same]
    exact tidy.fresh k' outside

/-- A socket is added that belongs to no Host. -/
theorem allocAside (tidy : Tidy crowd p m addressed entry) {s : TCPSocket SignalingListener}
    (isAside : IsAside s) :
    Tidy crowd p { m with sock := m.sock.alloc s } addressed entry := by
  constructor
  · exact tidy.self
  · exact tidy.loopback
  · exact tidy.ip
  · exact tidy.peers
  · exact tidy.nodup
  · exact tidy.started
  · exact tidy.strangers
  · intro h listed
    obtain ⟨q, other, isKnown⟩ := tidy.keyed h listed
    exact ⟨q, other, isKnown.congr rfl rfl rfl⟩
  · exact fun q h h' first second =>
      tidy.unique q h h' (first.congr rfl rfl rfl) (second.congr rfl rfl rfl)
  · exact fun q none h isKnown => tidy.unmet q none h (isKnown.congr rfl rfl rfl)
  · intro q e met
    obtain ⟨h, isHost⟩ := tidy.met q e met
    refine ⟨h, isHost.congr rfl rfl (Nat.le_succ _) fun k owns => ?_⟩
    exact Heap.alloc_of_lt _ _ (tidy.host_of_socket owns).choose_spec.choose_spec.2.2.2.1
  · intro k known free
    rcases Nat.lt_succ_iff_lt_or_eq.mp known with old | rfl
    · rw [Heap.alloc_of_lt _ _ old]
      exact tidy.aside k old free
    · rw [Heap.alloc_self]
      exact isAside
  · intro k outside
    have new : m.sock.next < k := outside
    rw [Heap.alloc_of_ne _ _ (Nat.ne_of_gt new)]
    exact tidy.fresh k (Nat.le_of_lt new)

end Tidy

end LibPubSub
