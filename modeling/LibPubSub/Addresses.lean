import LibPubSub.Meeting

/-! What a gossiped address means to its receiver: the process that the entry of the sender
stands for, as long as every process is known under one address to all. -/

set_option autoImplicit false

namespace LibPubSub

open Transition

variable {ι : Type}

/-- The process at an end. -/
def Link.party (l : Link ι) : End → ι
  | .client => l.client
  | .server => l.server

namespace Network

/-- Whoever dials `ip:port` on the machine of `i` reaches `q`. -/
def Answers (topology : Topology ι) (net : Network ι) (i : ι) (ip : Str) (port : Int32) (q : ι) :
    Prop :=
  topology.names i ip q = true ∧ (net.node q).mesh.signalingPort = port

/-- Host `h` of `p` is `p` itself, or the process at the other end of its connection. -/
def StandsFor (net : Network ι) (p : ι) (h : HostPtr) (q : ι) : Prop :=
  (h = (net.node p).mesh.me ∧ q = p) ∨
    ∃ c e, (net.node p).mesh.voice h = some (c, e) ∧ (net.link c).party e.other = q

/-- The next line for `r` on a connection with `p` is `s`, and the Host that hears it is
ready. -/
def Hears (net : Network ι) (p r : ι) (s : Str) : Prop :=
  ∃ c e k h, (net.link c).party e.other = p ∧ (net.link c).socket e = some (r, k) ∧
    ((net.node r).mesh.sock k).thread = .receiving c ∧
    ((net.node r).mesh.sock k).listeners = some (.host h) ∧
    ((net.node r).mesh.host h).bReady = true ∧ s ∈ ((net.link c).queue e).head?

/-- Host `h` of `p` stands for `q`, or its address leads there. -/
def Concerns (topology : Topology ι) (net : Network ι) (p : ι) (h : HostPtr) (q : ι) : Prop :=
  net.StandsFor p h q ∨
    net.Answers topology p ((net.node p).mesh.host h).ip ((net.node p).mesh.host h).port q

/-- What `broadcast_hosts` wrote in the state `before` about an entry means its process to
whoever hears it now; nobody dials itself, and nobody has two entries for one process. -/
structure Coherent (topology : Topology ι) (before net : Network ι) : Prop where
  gossip : ∀ p r h q, h ∈ (before.node p).mesh.hosts →
    let host := (before.node p).mesh.host h
    host.bReady = true → before.StandsFor p h q →
      net.Hears p r (Mesh.hostText host.ip host.port) →
        ∀ q', net.Answers topology r host.ip host.port q' ↔ q' = q
  others : ∀ c < net.link.next, (net.link c).client ≠ (net.link c).server
  notMe : ∀ p, ∀ h ∈ (net.node p).mesh.peers, ¬ net.Concerns topology p h p
  unique : ∀ p q, ∀ h ∈ (net.node p).mesh.peers, ∀ h' ∈ (net.node p).mesh.peers,
    net.Concerns topology p h q → net.Concerns topology p h' q → h = h'

end Network

section

variable [DecidableEq ι] {crowd : Crowd ι} {topology : Topology ι} {start before net : Network ι}
  {a : Gossip.State ι} {p q r : ι} {h : HostPtr} {ip : Str} {port : Int32}

/-- Every run of a crowd, with channels and with losses, is one of the protocol. -/
theorem Crowd.Placed.represented (placed : crowd.Placed topology)
    (reached : Reaches (Under (crowd.Permits False) (Network.Step topology)) before net)
    (initial : ∃ a, Represents crowd False before a ∧ Gossip.Sane a) :
    ∃ a, Represents crowd False net a ∧ Gossip.Sane a := by
  refine reached.invariant (P := fun net => ∃ a, Represents crowd False net a ∧ Gossip.Sane a)
    initial ?_
  rintro net action next ⟨a, represents, sane⟩ ⟨permits, step⟩
  obtain ⟨a', after, moves⟩ :=
    represents.step sane placed permits (fun isStrict => isStrict.elim) step
  refine ⟨a', after, ?_⟩
  cases moves with
  | still same => exact same ▸ sane
  | step moved => exact moved.sane sane
  | steps _ mid first second => exact second.sane (first.sane sane)

omit [DecidableEq ι] in
/-- The address of a process leads to it from everywhere, and to nobody else. -/
theorem Represents.answers_iff (represents : Represents crowd False net a)
    (placed : crowd.Placed topology) (i : ι) :
    net.Answers topology i (crowd.ip r) (crowd.port r) q ↔ q = r := by
  unfold Network.Answers
  rw [(represents.mesh q).signalingPort]
  constructor
  · rintro ⟨names, samePort⟩
    exact placed.alone i _ q r names (placed.named i r) samePort
  · rintro rfl
    exact ⟨placed.named i q, rfl⟩

omit [DecidableEq ι] in
theorem Represents.party (represents : Represents crowd False net a) {c : ConnId}
    (known : c < net.link.next) (e : End) : (net.link c).party e = (a.wire c).owner e := by
  have carried := represents.link c known
  cases e with
  | client => exact carried.client
  | server => exact carried.server

omit [DecidableEq ι] in
/-- A Host stands for the process under whose address it is known. -/
theorem Represents.same_of_standsFor (represents : Represents crowd False net a)
    (sane : Gossip.Sane a) (named : crowd.Named) (knows : crowd.Knows (net.node p).mesh r h)
    (stands : net.StandsFor p h q) : q = r := by
  have tidy := represents.mesh p
  rcases stands with ⟨isMe, rfl⟩ | ⟨c, e, voice, rfl⟩
  · have positive := ((tidy.peers h).mp knows.listed).1
    rw [isMe, tidy.me] at positive
    exact absurd positive (Nat.lt_irrefl 0)
  · obtain ⟨r', entry, met, isHost, conn, side⟩ := tidy.entry_of_voice voice
    have talks : a.voice p r' = some (c, e) := by
      rw [Gossip.State.voice_of_entry met, conn, side]
      rfl
    obtain ⟨known, _, other, _⟩ := sane.voice _ _ _ _ talks
    rw [represents.party (represents.next ▸ known), other]
    exact isHost.toKnows.same knows named

omit [DecidableEq ι] in
/-- What is heard of a host is the address of a process. -/
theorem Represents.of_hears (represents : Represents crowd False net a)
    (hears : net.Hears p r (Mesh.hostText ip port)) :
    ∃ q, Mesh.hostText ip port = Mesh.hostText (crowd.ip q) (crowd.port q) := by
  obtain ⟨c, e, k, h, _, _, reads, _, _, head⟩ := hears
  have known := represents.born r k c reads
  have member := List.mem_of_mem_head? head
  obtain ⟨message, _, means⟩ := exists_of_mem_left ((represents.link c known).queue e) member
  obtain ⟨q, same, _⟩ := means.host_of_starts Mesh.hostText_starts
  exact ⟨q, same⟩

omit [DecidableEq ι] in
/-- The address that a Host is told under is that of its process. -/
theorem Represents.key_of_hears (represents : Represents crowd False before a)
    (sane : Gossip.Sane a) (named : crowd.Named) (listed : h ∈ (before.node p).mesh.hosts)
    (stands : before.StandsFor p h q)
    (same : Mesh.hostText ((before.node p).mesh.host h).ip ((before.node p).mesh.host h).port =
      Mesh.hostText (crowd.ip r) (crowd.port r)) :
    q = r ∧ ((before.node p).mesh.host h).ip = crowd.ip r ∧
      ((before.node p).mesh.host h).port = crowd.port r := by
  have tidy := represents.mesh p
  rw [tidy.hosts] at listed
  rcases List.mem_cons.mp listed with rfl | isPeer
  · have isMe : q = p := by
      rcases stands with ⟨_, same⟩ | ⟨c, e, voice, _⟩
      · exact same
      · unfold Mesh.voice at voice
        rw [tidy.loopback.2] at voice
        cases voice
    have ip := tidy.ip
    have port := tidy.loopback.1
    cases addressed : a.addressed p with
    | true =>
        rw [addressed, if_pos rfl] at ip
        rw [ip, port] at same
        obtain ⟨sameIp, samePort⟩ :=
          Mesh.hostText_injective (named.text p).colon (named.text r).colon same
        obtain rfl := named.apart p r sameIp samePort
        exact ⟨isMe, ip, port⟩
    | false =>
        rw [addressed, if_neg Bool.false_ne_true] at ip
        rw [ip.1, port] at same
        obtain ⟨sameIp, samePort⟩ := Mesh.hostText_injective (by decide) (named.text r).colon same
        obtain rfl := named.remote p r sameIp samePort
        exact ⟨isMe, ip.1.trans sameIp, port⟩
  · obtain ⟨r', _, knows⟩ := tidy.keyed h isPeer
    rw [knows.ip, knows.port] at same
    obtain ⟨ip, port⟩ := Mesh.hostText_injective (named.text r').colon (named.text r).colon same
    obtain rfl := named.apart r' r ip port
    exact ⟨represents.same_of_standsFor sane named knows stands, knows.ip, knows.port⟩

end

namespace Crowd

theorem Permits.loosen {crowd : Crowd ι} {net : Network ι} {action : Action ι}
    (permits : crowd.Permits True net action) : crowd.Permits False net action := by
  cases action with
  | call i input =>
      cases input with
      | addHost ip port => exact permits
      | publish name | subscribe name => exact absurd trivial permits.1
      | unpublish name | announce | dataEof k => exact absurd trivial permits
      | connected | accepted | line | eof | dataConnected | dataAccepted => exact permits
  | dataConnect | dataAccept => exact absurd trivial permits
  | connect | accept | deliver | eof | lose => exact trivial

/-- `host` holds the machine of each process and the address of that machine. -/
def hosted [DecidableEq ι] (host : ι → Str) : Topology ι where
  names i ip j := ip == host j ||
    (host i == host j && (ip == "localhost".toList || ip == "127.0.0.1".toList))
  source i j := if host i = host j then "127.0.0.1".toList else host i

/-- What happens when processes get to know each other: `add_host` is called with addresses
that other processes answer. -/
def Greets (topology : Topology ι) (net : Network ι) : Action ι → Prop
  | .call i (.addHost ip port) => ∃ q, q ≠ i ∧ net.Answers topology i ip port q
  | .connect _ _ _ | .accept _ _ | .deliver _ _ | .eof _ _ | .lose _ => True
  | .call _ _ | .dataConnect _ _ _ _ | .dataAccept _ _ => False

instance [DecidableEq ι] (topology : Topology ι) (net : Network ι) (i : ι) (ip : Str)
    (port : Int32) (q : ι) : Decidable (net.Answers topology i ip port q) :=
  inferInstanceAs (Decidable (_ ∧ _))

instance [Fintype ι] [DecidableEq ι] (topology : Topology ι) (net : Network ι) :
    (action : Action ι) → Decidable (Greets topology net action)
  | .call i (.addHost ip port) =>
      inferInstanceAs (Decidable (∃ q, q ≠ i ∧ net.Answers topology i ip port q))
  | .call _ (.publish _) | .call _ (.unpublish _) | .call _ (.subscribe _) => .isFalse id
  | .call _ .announce | .call _ (.connected _ _) | .call _ (.accepted _ _ _) => .isFalse id
  | .call _ (.line _ _) | .call _ (.eof _) | .call _ (.dataConnected _ _) => .isFalse id
  | .call _ (.dataAccepted _ _ _ _) | .call _ (.dataEof _) => .isFalse id
  | .connect _ _ _ | .accept _ _ | .deliver _ _ | .eof _ _ | .lose _ => .isTrue trivial
  | .dataConnect _ _ _ _ | .dataAccept _ _ => .isFalse id

/-- Processes that are all on one machine know each other as `localhost`. -/
theorem placed_hosted [DecidableEq ι] {crowd : Crowd ι} {machine : Str}
    (distinct : ∀ p q, p ≠ q → crowd.ID p ≠ crowd.ID q)
    (loopback : ∀ p, crowd.address p = "127.0.0.1".toList)
    (apart : ∀ p q, crowd.port p = crowd.port q → p = q) :
    crowd.Placed (hosted fun _ => machine) := by
  have ip (p : ι) : crowd.ip p = "localhost".toList := by
    unfold Crowd.ip
    rw [loopback p]
    decide
  refine ⟨distinct, ?_, ?_, ?_, ?_, fun i ip p q _ _ => apart p q⟩
  · intro p ch member
    rw [loopback p] at member
    have numeric : ("127.0.0.1".toList.all fun ch => ch.isDigit || ch == '.') = true := by decide
    simpa using List.all_eq_true.mp numeric ch member
  · intro p q _
    exact (if_pos rfl).trans (loopback p).symm
  · intro i p
    rw [ip]
    unfold hosted
    simp
  · intro p
    unfold hosted
    simp

/-- Three processes on one machine. -/
def together : Crowd (Fin 3) where
  ID i := Int32.ofNat (i + 1)
  address _ := "127.0.0.1".toList
  port i := Int32.ofNat (12212 + i)

/-- The first two processes are on one machine, the third one is on another. -/
def neighbours : Crowd (Fin 3) where
  ID i := Int32.ofNat (i + 1)
  address i := if i.val = 2 then "10.0.0.2".toList else "10.0.0.1".toList
  port i := if i.val = 1 then 12213 else 12212

end Crowd

end LibPubSub
