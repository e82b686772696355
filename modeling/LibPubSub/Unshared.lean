import LibPubSub.Reconnection

/-! Shared memory is never used. A process asks for a segment with `CONNECT_SHM` and the name
of the channel, and hears only `CONNECT_SHM=` and `OFFER_SHM=`. What is written on the
signaling connections has an '=' only behind the keywords that are written with one, so
wherever `recv()` cuts it, none of the two comes out. -/

set_option autoImplicit false

namespace LibPubSub

open Fallible Pieces Transition

/-! ## Tame texts -/

/-- A part of a line: nothing but one '=', which is not the one of a keyword of shared memory,
or a part of an `ID=` line. -/
def Tame (s : Str) : Prop :=
  (s.count '=' ≤ 1 ∧ ¬ "M=".toList <:+: s) ∨ ∃ ID port, s <:+: Mesh.idLine ID port

theorem Tame.part {s part : Str} (tame : Tame s) (inside : part <:+: s) : Tame part := by
  rcases tame with ⟨once, notShm⟩ | ⟨ID, port, within⟩
  · exact .inl ⟨Nat.le_trans (inside.sublist.count_le '=') once,
      fun shm => notShm (shm.trans inside)⟩
  · exact .inr ⟨ID, port, inside.trans within⟩

/-- Where a part ends with an element that does not occur behind a list, it lies in the list. -/
theorem infix_of_infix_append {α : Type} {lead before after : List α} {last : α}
    (inside : lead ++ [last] <:+: before ++ after) (absent : last ∉ after) :
    lead ++ [last] <:+: before := by
  obtain ⟨first, rest, same⟩ := inside
  rcases List.append_eq_append_iff.mp same with ⟨gap, isBefore, -⟩ | ⟨gap, isFirst, isAfter⟩
  · exact ⟨first, gap, isBefore.symm⟩
  · rcases List.eq_nil_or_concat gap with rfl | ⟨gap, other, rfl⟩
    · exact ⟨first, [], by rw [isFirst, List.append_nil, List.append_nil]⟩
    · rw [← List.append_assoc, List.concat_eq_append, ← List.append_assoc] at isFirst
      obtain ⟨-, isLast⟩ := List.append_inj' isFirst rfl
      refine absurd ?_ absent
      rw [isAfter, List.singleton_inj.mp isLast]
      simp

/-- A keyword and a text without an '='. -/
theorem tame_append {word rest : Str} (once : word.count '=' ≤ 1)
    (notShm : ¬ "M=".toList <:+: word) (absent : '=' ∉ rest) : Tame (word ++ rest) := by
  have inWord (shm : ['M'] ++ ['='] <:+: word ++ rest) : ['M'] ++ ['='] <:+: word :=
    infix_of_infix_append shm absent
  refine .inl ⟨?_, fun shm => notShm (inWord shm)⟩
  rw [List.count_append, List.count_eq_zero_of_not_mem absent]
  exact once

theorem not_mem_idLine {mark : Char} (absent : mark ∉ "ID=|PORT".toList)
    (notDigit : mark.isDigit = false) (notMinus : mark ≠ '-') (ID port : Int32) :
    mark ∉ Mesh.idLine ID port := by
  have number (n : Int32) : mark ∉ printInt n := not_mem_printInt notDigit notMinus
  unfold Mesh.idLine
  simp only [List.mem_append, number, or_false, not_or]
  refine ⟨fun member => absent ?_, fun member => absent ?_⟩
  · simp at member ⊢
    tauto
  · simp at member ⊢
    tauto

/-- A tame line that starts with a keyword has no other '='. -/
theorem Tame.rest {s : Str} (tame : Tame s) (word : Str) (mark : Char)
    (starts : strStartsWith s (word ++ ['=']) = true) (absent : '=' ∉ word) (marked : mark ∈ word)
    (other : mark ∉ "ID=|PORT".toList) (notDigit : mark.isDigit = false) (notMinus : mark ≠ '-') :
    '=' ∉ strAfter s ['='] := by
  obtain ⟨rest, rfl⟩ := strStartsWith_iff.mp starts
  rw [List.append_assoc, List.singleton_append, strAfter_separator absent]
  rcases tame with ⟨once, -⟩ | ⟨ID, port, within⟩
  · intro member
    have more := List.count_pos_iff.mpr member
    rw [List.count_append, List.count_append, List.count_singleton_self] at once
    omega
  · refine absurd (within.subset ?_) (not_mem_idLine other notDigit notMinus ID port)
    exact List.mem_append_left _ (List.mem_append_left _ marked)

/-- No tame line is one of the two that offer and ask for shared memory. -/
theorem Tame.notShm {s word : Str} (tame : Tame s) (shm : "M=".toList <:+: word) :
    strStartsWith s word = false := by
  rw [Bool.eq_false_iff]
  intro starts
  have inside : "M=".toList <:+: s := shm.trans (strStartsWith_iff.mp starts).isInfix
  rcases tame with ⟨-, notShm⟩ | ⟨ID, port, within⟩
  · exact notShm inside
  · exact not_mem_idLine (by decide) (by decide) (by decide) ID port
      ((inside.trans within).subset List.mem_cons_self)

/-- A text whose lines are tame, however they are cut. -/
def Discreet (text : Str) : Prop :=
  ∀ part, part <:+: text → '\n' ∉ part → Tame part

theorem Tame.discreet {text : Str} (tame : Tame text) : Discreet text :=
  fun _ inside _ => tame.part inside

theorem Discreet.lines {text s : Str} (discreet : Discreet text) (member : s ∈ linesOf text) :
    Tame s := by
  have safe := Node.lineSafe_of_mem_linesOf member
  refine discreet s ?_ safe.2
  rcases infix_of_infix_append_cons (infix_of_mem_pieces member) safe.1 with inside | inside
  · exact inside.trans (List.takeWhile_prefix _).isInfix
  · rw [List.infix_nil.mp inside]
    exact List.nil_infix

theorem not_mem_hostString {host : Host} (absent : '=' ∉ host.ip) :
    '=' ∉ Mesh.hostString host := by
  have number : '=' ∉ printInt host.port := not_mem_printInt (by decide) (by decide)
  unfold Mesh.hostString
  simp [absent, number]

theorem discreet_hosts {hosts : List Host} (absent : ∀ host ∈ hosts, '=' ∉ host.ip) :
    Discreet (hosts.flatMap Mesh.hostLine) := by
  induction hosts with
  | nil =>
      intro part inside _
      rw [List.infix_nil.mp inside]
      exact .inl (by decide)
  | cons host hosts ih =>
      obtain ⟨first, later⟩ := List.forall_mem_cons.mp absent
      intro part inside noBreak
      have line : Mesh.hostLine host = "Host=".toList ++ Mesh.hostString host ++ ['\n'] := by
        unfold Mesh.hostLine Mesh.hostString
        simp
      rw [List.flatMap_cons, line, List.append_assoc, List.singleton_append] at inside
      rcases infix_of_infix_append_cons inside noBreak with inside | inside
      · exact (tame_append (by decide) (by decide) (not_mem_hostString first)).part inside
      · exact ih later part inside noBreak

/-! ## The table of hosts -/

namespace Mesh

/-- No address has an '=', and whatever is written is discreet. -/
structure Addressed (m : Mesh) : Prop where
  host : ∀ h, '=' ∉ (m.host h).ip
  sock : ∀ k, '=' ∉ (m.sock k).ip
  sent : ∀ entry ∈ m.sent, Discreet entry.2.2

variable {m : Mesh} {h : HostPtr} {k : SockPtr} {s ip : Str}

namespace Addressed

theorem write (addressed : m.Addressed) (discreet : Discreet s) : (m.write k s).Addressed := by
  unfold Mesh.write
  split
  · refine ⟨addressed.host, addressed.sock, fun entry member => ?_⟩
    rcases List.mem_append.mp member with member | member
    · exact addressed.sent entry member
    · rw [List.mem_singleton.mp member]
      exact discreet
  · exact addressed

theorem send (addressed : m.Addressed) (discreet : Discreet s) : (m.send h s).Addressed := by
  unfold Mesh.send
  split
  · exact addressed
  · split
    · exact addressed
    · exact addressed.write discreet

theorem broadcast (addressed : m.Addressed) (discreet : Discreet s) :
    (m.broadcast s).Addressed := by
  unfold Mesh.broadcast
  generalize m.peers = peers
  induction peers generalizing m with
  | nil => exact addressed
  | cons h peers ih =>
      rw [List.foldl_cons]
      split
      · exact ih (addressed.send discreet)
      · exact ih addressed

theorem setHost (addressed : m.Addressed) (h : HostPtr) (change : Host → Host)
    (absent : '=' ∉ (change (m.host h)).ip) : (m.setHost h change).Addressed := by
  refine ⟨fun other => ?_, addressed.sock, addressed.sent⟩
  simp only [Mesh.setHost, Heap.modify_apply]
  split
  · next same => exact same ▸ absent
  · exact addressed.host other

theorem setSock (addressed : m.Addressed) (k : SockPtr)
    (change : TCPSocket SignalingListener → TCPSocket SignalingListener) (absent : '=' ∉ (change (m.sock k)).ip) :
    (m.setSock k change).Addressed := by
  refine ⟨addressed.host, fun other => ?_, addressed.sent⟩
  simp only [Mesh.setSock, Heap.modify_apply]
  split
  · next same => exact same ▸ absent
  · exact addressed.sock other

theorem allocHost {host : Host} (addressed : m.Addressed) (absent : '=' ∉ host.ip) :
    ({ m with host := m.host.alloc host } : Mesh).Addressed := by
  refine ⟨fun other => ?_, addressed.sock, addressed.sent⟩
  simp only [Heap.alloc_apply]
  split
  · exact absent
  · exact addressed.host other

theorem allocSock {socket : TCPSocket SignalingListener} (addressed : m.Addressed)
    (absent : '=' ∉ socket.ip) : ({ m with sock := m.sock.alloc socket } : Mesh).Addressed := by
  refine ⟨addressed.host, fun other => ?_, addressed.sent⟩
  simp only [Heap.alloc_apply]
  split
  · exact absent
  · exact addressed.sock other

end Addressed

theorem discreet_connected : Discreet "CONNECTED".toList :=
  Tame.discreet (.inl (by decide))

theorem not_mem_localName (absent : '=' ∉ ip) : '=' ∉ localName ip := by
  unfold localName
  split
  · decide
  · exact absent

theorem Addressed.welcome (addressed : m.Addressed) : (m.welcome h).Addressed := by
  unfold Mesh.welcome
  split
  · exact addressed
  · next k _ =>
    split
    · exact addressed
    · have connecting : (m.setHost h fun host => { host with bConnecting := true }).Addressed :=
        addressed.setHost h _ (addressed.host h)
      refine (connecting.write ?_).write ?_
      · exact Tame.discreet (.inr ⟨_, _, List.infix_rfl⟩)
      · refine Tame.discreet (tame_append (by decide) (by decide) (not_mem_localName ?_))
        exact (connecting.write (Tame.discreet (.inr ⟨_, _, List.infix_rfl⟩))).sock k

theorem Addressed.setSocket (addressed : m.Addressed) : (m.setSocket h k).Addressed := by
  have installed : ((m.setHost h fun host => { host with socket := some k }).setSock k
      fun s => { s with bLinebuffer := true, listeners := some (.host h) }).Addressed :=
    (addressed.setHost h _ (addressed.host h)).setSock k _ (addressed.sock k)
  unfold Mesh.setSocket
  dsimp only
  split
  · exact installed.welcome
  · exact installed

theorem Addressed.pushUnlessKnown (addressed : m.Addressed) (known : Bool) :
    (m.pushUnlessKnown known h).Addressed := by
  unfold Mesh.pushUnlessKnown
  split
  · exact addressed
  · exact ⟨addressed.host, addressed.sock, addressed.sent⟩

theorem Addressed.addHost {port : Int32} (addressed : m.Addressed) (absent : '=' ∉ ip) :
    (m.addHost ip port).Addressed := by
  unfold Mesh.addHost
  split
  · exact addressed
  · unfold Mesh.newHost
    refine Addressed.setSock (Addressed.setSocket (Addressed.allocSock ?_ (by decide))) _ _ absent
    exact (addressed.allocHost absent).pushUnlessKnown _

theorem Addressed.dropSocket (addressed : m.Addressed) : (m.dropSocket h).Addressed := by
  unfold Mesh.dropSocket
  split
  · exact addressed
  · next old _ => exact addressed.setSock old _ (addressed.sock old)

theorem Addressed.adoptSocket (addressed : m.Addressed) : (m.adoptSocket h k).Addressed := by
  have dropped := addressed.dropSocket (h := h)
  have adopted : (((m.dropSocket h).setHost h fun host =>
      { host with bServer := true }).setSocket h k).Addressed :=
    (dropped.setHost h _ (dropped.host h)).setSocket
  unfold Mesh.adoptSocket
  dsimp only
  split
  · exact adopted
  · exact adopted.send discreet_connected

theorem Addressed.handleIncomingConnection (addressed : m.Addressed) :
    (m.handleIncomingConnection k s).Addressed := by
  unfold Mesh.handleIncomingConnection
  split
  · dsimp only
    split
    · refine Addressed.send (Addressed.setSocket (Addressed.pushUnlessKnown ?_ _)) discreet_connected
      exact addressed.allocHost (not_mem_localName (addressed.sock k))
    · split
      · exact addressed.adoptSocket
      · split
        · exact addressed.setSock k _ (addressed.sock k)
        · exact addressed
  · exact addressed

theorem Addressed.broadcastHosts (addressed : m.Addressed) : m.broadcastHosts.Addressed := by
  refine addressed.broadcast ?_
  rw [← List.flatMap_map]
  refine discreet_hosts fun host member => ?_
  obtain ⟨h, _, rfl⟩ := List.mem_map.mp member
  exact addressed.host h

end Mesh

/-! ## A process without shared memory -/

namespace Node

/-- No segment is offered or mapped, and no name or address has an '='. -/
structure Unshared (n : Node) : Prop where
  mesh : n.mesh.Addressed
  name : ∀ c, '=' ∉ (n.chan c).name
  offered : ∀ c, (n.chan c).offeredShmPath = []
  sub : ∀ s sub, n.sub s = some sub → sub.transport = .tcp ∧ sub.shm = none

variable {n n' : Node} {c : ChanPtr} {h : HostPtr} {s name : Str}

namespace Unshared

theorem setMesh {m : Mesh} (unshared : n.Unshared) (addressed : m.Addressed) :
    ({ n with mesh := m } : Node).Unshared :=
  ⟨addressed, unshared.name, unshared.offered, unshared.sub⟩

theorem record (unshared : n.Unshared) (call : Call) : (n.record call).Unshared :=
  ⟨unshared.mesh, unshared.name, unshared.offered, unshared.sub⟩

theorem setDataSock (unshared : n.Unshared) (k : SockPtr)
    (change : TCPSocket SubPtr → TCPSocket SubPtr) : (n.setDataSock k change).Unshared :=
  ⟨unshared.mesh, unshared.name, unshared.offered, unshared.sub⟩

theorem send (unshared : n.Unshared) (discreet : Discreet s) : (n.send h s).Unshared :=
  unshared.setMesh (unshared.mesh.send discreet)

theorem broadcast (unshared : n.Unshared) (discreet : Discreet s) : (n.broadcast s).Unshared :=
  unshared.setMesh (unshared.mesh.broadcast discreet)

theorem setChan (unshared : n.Unshared) (c : ChanPtr) (change : ChannelImpl → ChannelImpl)
    (name : (change (n.chan c)).name = (n.chan c).name)
    (offered : (change (n.chan c)).offeredShmPath = []) : (n.setChan c change).Unshared := by
  refine ⟨unshared.mesh, fun d => ?_, fun d => ?_, unshared.sub⟩
  · simp only [Node.setChan, Heap.modify_apply]
    split
    · exact name ▸ unshared.name c
    · exact unshared.name d
  · simp only [Node.setChan, Heap.modify_apply]
    split
    · exact offered
    · exact unshared.offered d

theorem setSub {t : SubPtr} {change : SubscriptionImpl → SubscriptionImpl}
    (unshared : n.Unshared) (shm : ∀ sub, (change sub).shm = sub.shm)
    (transport : ∀ sub, sub.transport = .tcp → (change sub).transport = .tcp) :
    (n.setSub t change).Unshared := by
  refine ⟨unshared.mesh, unshared.name, unshared.offered, fun other sub found => ?_⟩
  simp only [Node.setSub, Heap.modify_apply] at found
  split at found
  · obtain ⟨before, was, rfl⟩ := Option.map_eq_some_iff.mp found
    obtain ⟨tcp, none⟩ := unshared.sub t before was
    exact ⟨transport before tcp, (shm before).trans none⟩
  · exact unshared.sub other sub found

theorem allocSub (unshared : n.Unshared) (sub : SubscriptionImpl) (tcp : sub.transport = .tcp)
    (none : sub.shm = none) : ({ n with sub := n.sub.alloc (some sub) } : Node).Unshared := by
  refine ⟨unshared.mesh, unshared.name, unshared.offered, fun other new found => ?_⟩
  simp only [Heap.alloc_apply] at found
  split at found
  · obtain rfl := Option.some.inj found
    exact ⟨tcp, none⟩
  · exact unshared.sub other new found

theorem deleteSub {t : SubPtr} (unshared : n.Unshared) : (n.deleteSub t c).Unshared := by
  have erased := unshared.setChan c (fun channel => { channel with
    subscriptions := channel.subscriptions.filter (· != t)
    subscriptors := channel.subscriptors.filter (· != t) }) rfl (unshared.offered c)
  refine ⟨erased.mesh, erased.name, erased.offered, fun other sub found => ?_⟩
  simp only [Node.deleteSub, Heap.modify_apply] at found
  split at found
  · cases found
  · exact erased.sub other sub found

end Unshared

/-! ## Connecting -/

theorem subConnectTcp_unshared {t : SubPtr} (unshared : n.Unshared)
    (ran : n.subConnectTcp t = .ok n') : n'.Unshared := by
  obtain ⟨sub, _, ⟨_, rfl⟩ | ⟨_, publisher, _, rfl⟩⟩ := subConnectTcp_cases ran
  · exact unshared
  · unfold dial
    refine Unshared.record (Unshared.setSub ?_ ?_ ?_) _
    · exact ⟨unshared.mesh, unshared.name, unshared.offered, unshared.sub⟩
    · intro _
      rfl
    · intro _ _
      rfl

theorem connectTcp_unshared (unshared : n.Unshared) (ran : n.connectTcp c = .ok n') :
    n'.Unshared := by
  have recorded := unshared.record (.connectTcp c (n.chan c).publisher)
  rcases connectTcp_cases ran with ⟨_, p, _, rfl⟩ | ⟨_, dialled⟩
  · refine recorded.send (Tame.discreet ?_)
    exact tame_append (by decide) (by decide) (unshared.name c)
  · exact foldlM_invariant dialled recorded fun _ _ _ _ before => subConnectTcp_unshared before

/-- Nothing is mapped, as nothing is offered. -/
theorem connectShm_unshared (unshared : n.Unshared) (ran : n.connectShm c = .ok n') :
    n'.Unshared := by
  have recorded := unshared.record (.connectShm c (n.chan c).publisher)
  rcases connectShm_cases ran with ⟨_, p, _, rfl⟩ | ⟨offered, _⟩
  · refine recorded.send (Tame.discreet ?_)
    exact tame_append (by decide) (by decide) (unshared.name c)
  · exact absurd (unshared.offered c) offered

theorem connect_unshared (unshared : n.Unshared) (ran : n.connect c = .ok n') : n'.Unshared := by
  rcases connect_cases ran with ⟨rfl, _⟩ | ⟨p, _, _, _, ⟨_, ran⟩ | ⟨_, ran⟩⟩
  · exact unshared
  · exact connectShm_unshared unshared ran
  · exact connectTcp_unshared unshared ran

theorem subClose_unshared {t : SubPtr} (unshared : n.Unshared) (ran : n.subClose t = .ok n') :
    n'.Unshared := by
  obtain ⟨sub, k, close, _, _, _, rfl⟩ := subClose_cases ran
  exact (unshared.setDataSock k close).deleteSub

theorem disconnectFrom_unshared {left it : Nat} (unshared : n.Unshared)
    (ran : disconnectFrom c left it n = .ok n') : n'.Unshared := by
  induction left generalizing it n with
  | zero =>
      rw [← pure_eq_ok.mp ran]
      exact unshared
  | succ left ih =>
      unfold disconnectFrom at ran
      split at ran
      · cases ran
      · obtain ⟨mid, closed, rest⟩ := bind_eq_ok.mp ran
        exact ih (subClose_unshared unshared closed) rest

theorem setPublisher_unshared {p : Option HostPtr} (unshared : n.Unshared)
    (ran : n.setPublisher c p = .ok n') : n'.Unshared := by
  obtain ⟨mid, closed, connected⟩ := setPublisher_cases ran
  have first : mid.Unshared := by
    rcases disconnectOther_cases closed with ⟨_, closed⟩ | ⟨_, rfl⟩
    · exact disconnectFrom_unshared unshared closed
    · exact unshared
  have second : (mid.replacePublisher c p).Unshared :=
    (first.setChan c _ rfl (first.offered c)).record _
  unfold connectWanted at connected
  split at connected
  · exact connect_unshared second connected
  · rw [← pure_eq_ok.mp connected]
    exact second

/-! ## Calls -/

theorem not_mem_channelString (unshared : n.Unshared) : '=' ∉ n.channelString c := by
  have letter : '=' ∉ [n.getType c] := by
    unfold getType
    split
    · decide
    · split
      · decide
      · split <;> decide
  have host (p : HostPtr) : '=' ∉ Mesh.hostString (n.mesh.host p) :=
    not_mem_hostString (unshared.mesh.host p)
  have named := unshared.name c
  unfold channelString
  cases (n.chan c).publisher with
  | none => simp_all
  | some p => simp_all

theorem Unshared.announce (unshared : n.Unshared) :
    Discreet ("PUBLISH=".toList ++ n.channelString c) :=
  Tame.discreet (tame_append (by decide) (by decide) (not_mem_channelString unshared))

theorem getOrCreateChannel_unshared (unshared : n.Unshared) (absent : '=' ∉ name) :
    (n.getOrCreateChannel name).1.Unshared := by
  rcases n.getOrCreateChannel_cases name with ⟨c, found, result⟩ | ⟨missing, result⟩
  · rw [result]
    exact unshared
  · rw [result]
    refine ⟨unshared.mesh, fun d => ?_, fun d => ?_, unshared.sub⟩
    · simp only [Heap.alloc_apply]
      split
      · exact absent
      · exact unshared.name d
    · simp only [Heap.alloc_apply]
      split
      · rfl
      · exact unshared.offered d

theorem publish_unshared (unshared : n.Unshared) (absent : '=' ∉ name)
    (ran : n.publish name = .ok n') : n'.Unshared := by
  have created := getOrCreateChannel_unshared unshared absent
  obtain ⟨mid, c, same, _, ⟨_, rfl⟩ | ⟨_, set, published, rfl⟩⟩ := publish_cases ran
  · rw [same] at created
    exact created
  · rw [same] at created
    have isSet := setPublisher_unshared created published
    exact isSet.broadcast isSet.announce

theorem unpublish_unshared (unshared : n.Unshared) (ran : n.unpublish name = .ok n') :
    n'.Unshared := by
  unfold unpublish at ran
  split at ran
  · obtain ⟨set, unpublished, rest⟩ := bind_eq_ok.mp ran
    have isSet := setPublisher_unshared unshared unpublished
    rw [← pure_eq_ok.mp rest]
    refine isSet.broadcast (Tame.discreet ?_)
    exact tame_append (by decide) (by decide) (not_mem_channelString isSet)
  · rw [← pure_eq_ok.mp ran]
    exact unshared

theorem subscribe_unshared (unshared : n.Unshared) (absent : '=' ∉ name)
    (ran : n.subscribe name = .ok n') : n'.Unshared := by
  have created := getOrCreateChannel_unshared unshared absent
  obtain ⟨mid, c, same, _, connected⟩ := subscribe_cases ran
  rw [same] at created
  have subscribed := created.allocSub { channel := c, host := mid.mesh.me } rfl rfl
  refine connect_unshared (Unshared.record (Unshared.setChan subscribed c _ rfl ?_) _) connected
  exact created.offered c

theorem broadcastPublishedChannels_unshared (unshared : n.Unshared) :
    n.broadcastPublishedChannels.Unshared := by
  unfold broadcastPublishedChannels
  generalize n.channels = channels
  induction channels generalizing n with
  | nil => exact unshared
  | cons c channels ih =>
      rw [List.foldl_cons]
      split
      · exact ih (unshared.broadcast unshared.announce)
      · exact ih unshared

theorem closeAllChannels_unshared (unshared : n.Unshared) (ran : n.closeAllChannels h = .ok n') :
    n'.Unshared := by
  refine foldlM_invariant ran unshared fun state c next _ before closed => ?_
  split at closed
  · exact setPublisher_unshared before closed
  · rw [← pure_eq_ok.mp closed]
    exact before

/-! ## Lines -/

theorem offerTcp_unshared (unshared : n.Unshared) : (n.offerTcp c h).Unshared := by
  unfold offerTcp
  have served := unshared.setChan c (fun channel => { channel with
    server := some ((n.chan c).server.getD ⟨n.bindPort c, h⟩) }) rfl (unshared.offered c)
  refine served.send (Tame.discreet ?_)
  rw [List.append_assoc, List.append_assoc]
  refine tame_append (by decide) (by decide) ?_
  have number : '=' ∉ printInt ((n.chan c).server.getD ⟨n.bindPort c, h⟩).port :=
    not_mem_printInt (by decide) (by decide)
  have named := served.name c
  simp_all

theorem statementName_subset {t : Str} (named : statementName t = .ok name) :
    ∀ b ∈ name, b ∈ t := by
  intro b member
  rw [statementName_eq_ok named] at member
  exact List.mem_of_mem_drop (mem_of_mem_strBefore member)

theorem digest_unshared (unshared : n.Unshared) (tame : Tame s)
    (ran : n.digestMessage h s = .ok n') : n'.Unshared := by
  cases digest_effect ran with
  | publish starts ran =>
      have absent : '=' ∉ strAfter s ['='] :=
        tame.rest "PUBLISH".toList 'B' starts (by decide) (by decide)
          (by decide) (by decide) (by decide)
      obtain ⟨name, named, mid, c, same, _, set⟩ := applyPublishStatement_cases ran
      have created := getOrCreateChannel_unshared unshared fun member =>
        absent (statementName_subset named _ member)
      rw [same] at created
      rcases set with ⟨_, set⟩ | ⟨_, rfl | ⟨_, _, set⟩⟩
      · exact setPublisher_unshared created set
      · exact created
      · exact setPublisher_unshared created set
  | unpublish starts ran =>
      obtain ⟨name, _, ⟨_, rfl⟩ | ⟨c, _, set⟩⟩ := applyUnpublishStatement_cases ran
      · exact unshared
      · exact setPublisher_unshared unshared set
  | connectTcp starts result =>
      rw [result]
      unfold makeOfferTcp
      split
      · exact offerTcp_unshared unshared
      · exact unshared
  | connectShm starts result =>
      rw [tame.notShm (by decide)] at starts
      cases starts
  | offerTcp starts ran =>
      unfold answerOfferTcp at ran
      dsimp only at ran
      split at ran
      · next c found =>
        exact connectTcp_unshared ((unshared.record _).setChan c _ rfl (unshared.offered c)) ran
      · rw [← pure_eq_ok.mp ran]
        exact unshared
  | offerShm starts ran =>
      rw [tame.notShm (by decide)] at starts
      cases starts
  | unknown same =>
      rw [same]
      exact unshared

theorem line_unshared {k : SockPtr} (unshared : n.Unshared) (tame : Tame s)
    (ran : n.line k s = .ok n') : n'.Unshared := by
  cases line_effect ran with
  | ignored same =>
      rw [same]
      exact unshared
  | incoming listener result =>
      rw [result]
      exact unshared.setMesh unshared.mesh.handleIncomingConnection
  | id h listener result =>
      rw [result]
      refine unshared.setMesh (Mesh.Addressed.send ?_ Mesh.discreet_connected)
      exact unshared.mesh.setHost h _ (unshared.mesh.host h)
  | you h listener starts result =>
      rw [result]
      refine unshared.setMesh (unshared.mesh.setHost _ _ ?_)
      exact tame.rest "YOU".toList 'Y' starts (by decide) (by decide)
        (by decide) (by decide) (by decide)
  | connected h listener mid published result =>
      have isReady := unshared.mesh.setHost h
        (fun host => { host with bReady := true }) (unshared.mesh.host h)
      have told := broadcastPublishedChannels_unshared
        (unshared.setMesh (m := receiveConnected n.mesh h) (isReady.pushUnlessKnown _))
      rw [result, published]
      exact told.setMesh told.mesh.broadcastHosts
  | host h listener ready starts result =>
      have absent : '=' ∉ strAfter s ['='] :=
        tame.rest "Host".toList 'o' starts (by decide) (by decide)
          (by decide) (by decide) (by decide)
      rw [result]
      refine unshared.setMesh (unshared.mesh.addHost fun member => absent ?_)
      exact mem_of_mem_strBefore member
  | statement h listener ready ran => exact digest_unshared unshared tame ran

/-! ## Sockets -/

theorem eof_unshared {k : SockPtr} (unshared : n.Unshared) (ran : n.eof k = .ok n') :
    n'.Unshared := by
  obtain ⟨mid, closed, rest⟩ := bind_eq_ok.mp ran
  have shut : ({ n with mesh := n.mesh.setSock k (·.closeFd) } : Node).Unshared :=
    unshared.setMesh (unshared.mesh.setSock k _ (unshared.mesh.sock k))
  have left : mid.Unshared := by
    rcases signalingClosed_cases closed with ⟨rfl, _⟩ | ⟨h, current, _, _, cleared⟩
    · exact shut
    · refine closeAllChannels_unshared (shut.setMesh ?_) cleared
      have lost := shut.mesh.setHost h
        (fun host => { host with bReady := false }) (shut.mesh.host h)
      exact lost.setSock current _ (lost.sock current)
  have same : ((mid.mesh.sock k).reconnectOrEnd).ip = (mid.mesh.sock k).ip := by
    unfold TCPSocket.reconnectOrEnd
    split <;> rfl
  rw [← pure_eq_ok.mp rest]
  refine left.setMesh (left.mesh.setSock k _ ?_)
  rw [same]
  exact left.mesh.sock k

theorem connected_unshared (unshared : n.Unshared) (k : SockPtr) (c : ConnId) :
    (n.connected k c).Unshared := by
  have isOpen := unshared.mesh.setSock k (·.connected c) (unshared.mesh.sock k)
  unfold connected
  dsimp only
  split
  · exact unshared.setMesh isOpen.welcome
  · exact unshared.setMesh isOpen

theorem dataConnected_unshared {k : SockPtr} {conn : ConnId} (unshared : n.Unshared)
    (ran : n.dataConnected k conn = .ok n') : n'.Unshared := by
  have isOpen := unshared.setDataSock k (·.connected conn)
  unfold dataConnected at ran
  dsimp only at ran
  split at ran
  · obtain ⟨sub, _, rest⟩ := bind_eq_ok.mp ran
    rw [← pure_eq_ok.mp rest]
    exact isOpen.setSub (fun _ => rfl) fun _ tcp => tcp
  · rw [← pure_eq_ok.mp ran]
    exact isOpen

theorem dataEof_unshared {k : SockPtr} (unshared : n.Unshared) (ran : n.dataEof k = .ok n') :
    n'.Unshared := by
  obtain ⟨closed, left, rest⟩ := bind_eq_ok.mp ran
  have shut := unshared.setDataSock k (·.closeFd)
  rw [← pure_eq_ok.mp rest]
  refine Unshared.setDataSock ?_ k _
  unfold dataClosed at left
  split at left
  · obtain ⟨sub, j, _, _, rfl⟩ := subOnClose_cases left
    exact (shut.setDataSock j _).deleteSub
  · rw [← pure_eq_ok.mp left]
    exact shut

theorem acceptSubscriptor_unshared (unshared : n.Unshared) (c : ChanPtr) (ip : Str) (port : Int32)
    (conn : ConnId) : (n.acceptSubscriptor c ip port conn).Unshared := by
  unfold acceptSubscriptor
  split
  · exact unshared
  · next server _ =>
    have accepted : ({ n with
        dataSock := n.dataSock.alloc (.accepted ip port conn n.sub.next false) } : Node).Unshared :=
      ⟨unshared.mesh, unshared.name, unshared.offered, unshared.sub⟩
    refine Unshared.setChan (Unshared.allocSub accepted _ ?_ ?_) c _ ?_ (unshared.offered c)
    · rfl
    · rfl
    · rfl

/-- The names and the addresses that a process is given have no '=', and the lines are tame. -/
def Input.Tame : Input → Prop
  | .addHost ip _ | .accepted ip _ _ => '=' ∉ ip
  | .publish name | .subscribe name => '=' ∉ name
  | .line _ s => LibPubSub.Tame s
  | .unpublish _ | .announce | .connected _ _ | .eof _ => True
  | .dataConnected _ _ | .dataAccepted _ _ _ _ | .dataEof _ => True

theorem step_unshared {input : Input} (unshared : n.Unshared) (tame : input.Tame)
    (stepped : Step n input n') : n'.Unshared := by
  cases input with
  | addHost ip port =>
      rw [← pure_eq_ok.mp stepped]
      exact unshared.setMesh (unshared.mesh.addHost tame)
  | publish name => exact publish_unshared unshared tame stepped
  | unpublish name => exact unpublish_unshared unshared stepped
  | subscribe name => exact subscribe_unshared unshared tame stepped
  | announce =>
      rw [← pure_eq_ok.mp stepped]
      exact broadcastPublishedChannels_unshared unshared
  | connected k c =>
      rw [← pure_eq_ok.mp stepped]
      exact connected_unshared unshared k c
  | accepted ip port c =>
      rw [← pure_eq_ok.mp stepped]
      exact unshared.setMesh (unshared.mesh.allocSock tame)
  | line k s => exact line_unshared unshared tame stepped
  | eof k => exact eof_unshared unshared stepped
  | dataConnected k c => exact dataConnected_unshared unshared stepped
  | dataAccepted channel ip port c =>
      rw [← pure_eq_ok.mp stepped]
      exact acceptSubscriptor_unshared unshared channel ip port c
  | dataEof k => exact dataEof_unshared unshared stepped

theorem unshared_init (ID port : Int32) (bindPort : ChanPtr → DataPort) :
    (Node.init ID port bindPort).Unshared := by
  have host (h : HostPtr) : '=' ∉ ((Mesh.init ID port).host h).ip := by
    simp only [Mesh.init, Heap.alloc_apply, Heap.empty_cell]
    split <;> simp
  refine ⟨⟨host, fun _ => ?_, nofun⟩, fun _ => ?_, fun _ => rfl, nofun⟩
  · exact List.not_mem_nil
  · exact List.not_mem_nil

end Node

/-! ## Networks -/

namespace Network

/-- What happens to a network on whose connections `recv()` returns parts of lines. -/
inductive Event (ι : Type) where
  | acts (action : Action ι)
  /-- The `i`-th line under way to end `e` is cut behind its `n`-th character. -/
  | cuts (c : ConnId) (e : End) (i n : Nat)
  deriving DecidableEq

def cutLine (lines : List Str) (i n : Nat) : List Str :=
  match lines.drop i with
  | [] => lines
  | s :: later => lines.take i ++ s.take n :: s.drop n :: later

variable {ι : Type} [DecidableEq ι]

def cut (net : Network ι) (c : ConnId) (e : End) (i n : Nat) : Network ι :=
  net.setLink c fun l => l.setQueue (cutLine (l.queue e) i n) e

def reactTorn (topology : Topology ι) (net : Network ι) : Event ι → Result (Network ι)
  | .acts action => net.react topology action
  | .cuts c e i n => return net.cut c e i n

def Event.Enabled (topology : Topology ι) (net : Network ι) : Event ι → Prop
  | .acts action => net.Real action ∧ Network.Enabled topology net action
  | .cuts c e i n => ∃ s ∈ ((net.link c).queue e)[i]?, 0 < n ∧ n < s.length

instance (topology : Topology ι) (net : Network ι) :
    (event : Event ι) → Decidable (event.Enabled topology net)
  | .acts _ => inferInstanceAs (Decidable (_ ∧ _))
  | .cuts c e i n => inferInstanceAs (Decidable (∃ s ∈ ((net.link c).queue e)[i]?, 0 < n ∧ n < s.length))

def Torn (topology : Topology ι) (net : Network ι) (event : Event ι) (net' : Network ι) : Prop :=
  event.Enabled topology net ∧ net.reactTorn topology event = .ok net'

omit [DecidableEq ι] in
/-- The application gives no name and no address with an '='. -/
def Event.Unmarked : Event ι → Prop
  | .acts (.call _ (.addHost ip _)) => '=' ∉ ip
  | .acts (.call _ (.publish name)) | .acts (.call _ (.subscribe name)) => '=' ∉ name
  | _ => True

omit [DecidableEq ι] in
instance (event : Event ι) : Decidable event.Unmarked := by
  unfold Event.Unmarked
  split <;> infer_instance

/-- No process uses shared memory, and nothing that is under way makes it to. -/
structure Unshared (net : Network ι) : Prop where
  node : ∀ i, (net.node i).Unshared
  line : ∀ c e, ∀ s ∈ (net.link c).queue e, Tame s

variable {topology : Topology ι} {net net' : Network ι} {action : Action ι} {event : Event ι}

theorem unshared_tell {i : ι} {input : Node.Input} (told : net.tell i input = .ok net')
    (unshared : net.Unshared) (tame : input.Tame) : net'.Unshared := by
  obtain ⟨n', stepped, rfl⟩ := tell_eq_ok.mp told
  have after := Node.step_unshared (unshared.node i) tame stepped
  constructor
  · intro j
    by_cases same : j = i
    · subst same
      rw [take_node_self]
      exact after.setMesh ⟨after.mesh.host, after.mesh.sock, nofun⟩
    · rw [take_node_of_ne net n' same]
      exact unshared.node j
  · intro c e s member
    rw [take_link, Link.queue_carry] at member
    split at member
    · exact unshared.line c e s member
    · rcases List.mem_append.mp member with member | member
      · exact unshared.line c e s member
      · obtain ⟨text, wrote, isLine⟩ := mem_written member
        exact (after.mesh.sent _ wrote).lines isLine

omit [DecidableEq ι] in
theorem Unshared.links (unshared : net.Unshared) (nodes : net'.node = net.node)
    (lines : ∀ c e, ∀ s ∈ (net'.link c).queue e, Tame s) : net'.Unshared :=
  ⟨fun i => nodes ▸ unshared.node i, lines⟩

omit [DecidableEq ι] in
theorem Unshared.setLink {c : ConnId} {change : Link ι → Link ι} (unshared : net.Unshared)
    (lines : ∀ e, ∀ s ∈ (change (net.link c)).queue e, Tame s) :
    (net.setLink c change).Unshared := by
  refine unshared.links rfl fun d e s member => ?_
  simp only [Network.setLink, Heap.modify_apply] at member
  split at member
  · exact lines e s member
  · exact unshared.line d e s member

omit [DecidableEq ι] in
theorem Unshared.setQueue {c : ConnId} {e : End} {lines : List Str} (unshared : net.Unshared)
    (tame : ∀ s ∈ lines, Tame s) : (net.setLink c (·.setQueue lines e)).Unshared := by
  refine unshared.setLink fun e' s member => ?_
  rcases e.eq_or_eq_other e' with rfl | rfl
  · rw [Link.queue_setQueue_self] at member
    exact tame s member
  · rw [Link.queue_setQueue_other] at member
    exact unshared.line c _ s member

theorem Unshared.react (unshared : net.Unshared)
    (sources : ∀ i j, '=' ∉ topology.source i j) (real : net.Real action)
    (unmarked : (Event.acts action).Unmarked) (reacted : net.react topology action = .ok net') :
    net'.Unshared := by
  cases action with
  | call i input =>
      refine unshared_tell reacted unshared ?_
      cases input with
      | addHost ip port => exact unmarked
      | publish name => exact unmarked
      | subscribe name => exact unmarked
      | unpublish | announce | dataEof => trivial
      | _ => cases real
  | connect i k j =>
      refine unshared_tell reacted (unshared.links rfl fun c e s member => ?_) trivial
      simp only [Heap.alloc_apply] at member
      split at member
      · cases e <;> cases member
      · exact unshared.line c e s member
  | accept c port =>
      have isTaken : ∀ e, (({ net.link c with
          serverSock := some (net.node (net.link c).server).mesh.sock.next } : Link ι)).queue e =
            (net.link c).queue e := by
        intro e
        cases e <;> rfl
      refine unshared_tell reacted (unshared.setLink fun e s member => ?_) (sources _ _)
      rw [isTaken] at member
      exact unshared.line c e s member
  | deliver c e =>
      unfold Network.react at reacted
      dsimp only at reacted
      split at reacted
      · next k s rest _ queue =>
        have lines := unshared.line c e
        rw [queue] at lines
        obtain ⟨tame, others⟩ := List.forall_mem_cons.mp lines
        exact unshared_tell reacted (unshared.setQueue others) tame
      · rw [← pure_eq_ok.mp reacted]
        exact unshared
  | eof c e =>
      unfold Network.react at reacted
      dsimp only at reacted
      split at reacted
      · exact unshared_tell reacted unshared trivial
      · rw [← pure_eq_ok.mp reacted]
        exact unshared
  | lose c =>
      rw [← pure_eq_ok.mp reacted]
      refine unshared.setLink fun e s member => unshared.line c e s ?_
      cases e <;> exact member
  | dataConnect i k j channel =>
      exact unshared_tell reacted (unshared.links rfl unshared.line) trivial
  | dataAccept d port =>
      exact unshared_tell reacted (unshared.links rfl unshared.line) trivial

theorem infix_of_mem_cutLine {lines : List Str} {i n : Nat} {part : Str}
    (member : part ∈ cutLine lines i n) : ∃ s ∈ lines, part <:+: s := by
  unfold cutLine at member
  split at member
  · exact ⟨part, member, List.infix_rfl⟩
  · next s later isRest =>
    have inside : ∀ b ∈ s :: later, b ∈ lines := fun b inRest =>
      List.mem_of_mem_drop (isRest ▸ inRest)
    simp only [List.mem_append, List.mem_cons] at member
    rcases member with earlier | rfl | rfl | isLater
    · exact ⟨part, List.mem_of_mem_take earlier, List.infix_rfl⟩
    · exact ⟨s, inside s List.mem_cons_self, (List.take_prefix n s).isInfix⟩
    · exact ⟨s, inside s List.mem_cons_self, (List.drop_suffix n s).isInfix⟩
    · exact ⟨part, inside part (List.mem_cons_of_mem s isLater), List.infix_rfl⟩

theorem Unshared.torn (unshared : net.Unshared) (sources : ∀ i j, '=' ∉ topology.source i j)
    (unmarked : event.Unmarked) (torn : net.Torn topology event net') : net'.Unshared := by
  obtain ⟨enabled, reacted⟩ := torn
  cases event with
  | acts action => exact unshared.react sources enabled.1 unmarked reacted
  | cuts c e i n =>
      rw [← pure_eq_ok.mp reacted]
      refine unshared.setQueue fun part member => ?_
      obtain ⟨s, isLine, inside⟩ := infix_of_mem_cutLine member
      exact (unshared.line c e s isLine).part inside

/-! ## Runs -/

/-- Nobody offers, asks for or maps a segment. -/
structure NoShm (net : Network ι) : Prop where
  offered : ∀ i c, ((net.node i).chan c).offeredShmPath = []
  mapped : ∀ i s sub, (net.node i).sub s = some sub → sub.transport = .tcp ∧ sub.shm = none
  silent : ∀ c e, ∀ s ∈ (net.link c).queue e, strStartsWith s "CONNECT_SHM=".toList = false ∧
    strStartsWith s "OFFER_SHM=".toList = false

omit [DecidableEq ι] in
theorem Unshared.noShm (unshared : net.Unshared) : net.NoShm where
  offered i c := (unshared.node i).offered c
  mapped i s sub found := (unshared.node i).sub s sub found
  silent c e s member := by
    have tame := unshared.line c e s member
    exact ⟨tame.notShm (by decide), tame.notShm (by decide)⟩

omit [DecidableEq ι] in
theorem Booted.unshared (booted : net.Booted) (idle : ∀ c e, (net.link c).queue e = []) :
    net.Unshared := by
  constructor
  · intro i
    obtain ⟨ID, port, bindPort, isInit⟩ := booted i
    rw [isInit]
    exact Node.unshared_init ID port bindPort
  · intro c e s member
    rw [idle] at member
    cases member

/-- In every run in which the application gives no name and no address with an '=': no
segment is ever mapped, although `connect()` asks for one of every publisher on the same
machine. -/
theorem noShm_of_reaches {start : Network ι} (booted : start.Booted)
    (idle : ∀ c e, (start.link c).queue e = []) (sources : ∀ i j, '=' ∉ topology.source i j)
    (reached : Reaches (Under (fun _ event => event.Unmarked) (Torn topology)) start net) :
    net.NoShm := by
  have unshared : net.Unshared := reached.invariant (booted.unshared idle)
    fun _ _ _ before stepped => before.torn sources stepped.1 stepped.2
  exact unshared.noShm

/-! ## One machine -/

private def oneMachine : Topology Bool where
  names _ ip _ := ip == "localhost".toList
  source _ _ := "127.0.0.1".toList

private def neighbours (port : Bool → Int32) : Network Bool where
  node i := Node.init (port i) (port i) Node.firstPort
  link := .empty { client := true, clientSock := 0, server := true }
  dataLink := .empty { client := true, server := true, channel := 0 }

private def neighbourly (net : Network Bool) (event : Event Bool) : Bool :=
  decide event.Unmarked && decide (event.Enabled oneMachine net)

/-- A process asks its neighbour for a segment, and its message is received in two parts. -/
theorem noShm_of_reaches_neighbour : ∃ net : Network Bool,
    Call.connectShm 0 (some 1) ∈ (net.node false).log ∧ net.NoShm := by
  let start := neighbours fun i => if i then 12213 else 12212
  have replayed : replay (reactTorn oneMachine) neighbourly
      (fun _ net => decide (Call.connectShm 0 (some 1) ∈ (net.node false).log))
      (.acts (.deliver 0 .server)) start
      [.acts (.call false (.subscribe ['c'])),
        .acts (.call false (.addHost "localhost".toList 12213)), .acts (.connect false 0 true),
        .acts (.accept 0 4000), .acts (.deliver 0 .server), .acts (.deliver 0 .server),
        .acts (.deliver 0 .client), .acts (.deliver 0 .client), .acts (.deliver 0 .client),
        .acts (.deliver 0 .server), .acts (.deliver 0 .server), .acts (.deliver 0 .server),
        .acts (.call true (.publish ['c'])), .acts (.deliver 0 .client),
        .acts (.deliver 0 .client), .acts (.deliver 0 .client), .cuts 0 .server 0 8,
        .acts (.deliver 0 .server)] = true := by decide +kernel
  obtain ⟨trace, net, ran, checked⟩ := replay_run replayed
  have allowed : Every (Under (fun _ event => event.Unmarked) (Torn oneMachine)) start
      (trace ++ [(.acts (.deliver 0 .server), net)]) := by
    refine ran.mono fun _ _ _ stepped => ?_
    obtain ⟨isUnmarked, enabled⟩ := Bool.and_eq_true_iff.mp stepped.1
    exact ⟨of_decide_eq_true isUnmarked, of_decide_eq_true enabled, stepped.2⟩
  refine ⟨net, of_decide_eq_true checked, ?_⟩
  have booted : start.Booted := fun _ => ⟨_, _, _, rfl⟩
  have idle : ∀ c e, (start.link c).queue e = [] := fun _ e => by cases e <;> rfl
  have sources : '=' ∉ "127.0.0.1".toList := by decide
  exact noShm_of_reaches booted idle (fun _ _ => sources) ⟨_, allowed, final_concat _ _ _⟩

end Network

end LibPubSub
