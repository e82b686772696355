import LibPubSub.Representation

/-! What the lines that a Host hears are to the gossip protocol, when all processes are
known under one address: each line is one of its steps, or two when there are channels. -/

set_option autoImplicit false

namespace LibPubSub

open Handshake (Message Status Entry talk)

variable {ι : Type}

/-- Process `i` goes on as `n`: it answers on end `e` of connection `c`, which is `s` to it
from now on. Only socket `k` at that end changes. -/
structure Answers (crowd : Crowd ι) (strict : Prop) (net : Network ι) (a : Gossip.State ι) (i : ι)
    (n : Node) (c : ConnId) (e : End) (k : SockPtr) (s : Status)
    (messages : List (Message (Option ι))) : Prop where
  known : c < net.link.next
  apart : (a.wire c).client ≠ (a.wire c).server
  socket : (net.link c).socket e = some (i, k)
  said : ∃ texts, n.mesh.sent = saying (some (c, e)) texts ∧
    List.Forall₂ (Means crowd strict i ((a.wire c).owner e.other)) (texts.flatMap linesOf) messages
  others : ∀ k', k' ≠ k → ((net.node i).mesh.sock k').Steady (n.mesh.sock k')
  elsewhere : ∀ d, d ≠ c → ((net.node i).mesh.sock k).thread ≠ .receiving d ∧
    (n.mesh.sock k).thread ≠ .receiving d
  status : (n.mesh.sock k).statusOn c = s
  peer : (n.mesh.sock k).thread = .receiving c → (n.mesh.sock k).listeners = some .incoming →
    Mesh.localName (n.mesh.sock k).ip = crowd.ip (a.wire c).client

/-- The address of a process fits into a line. -/
theorem Tidy.clean {crowd : Crowd ι} {p : ι} {n : Node} {addressed : Bool}
    {entry : ι → Option Entry} (tidy : Tidy crowd p n.mesh addressed entry) (named : crowd.Named)
    (names : ∀ c, LineSafe (n.chan c).name) : n.Clean := by
  refine ⟨names, ?_⟩
  have ip := tidy.ip
  rw [tidy.me]
  cases addressed with
  | true =>
      rw [if_pos rfl] at ip
      rw [ip]
      exact (named.text p).line
  | false =>
      rw [if_neg Bool.false_ne_true] at ip
      rw [ip.1]
      decide

/-- A statement reaches `digest_message` if the Host is ready. -/
theorem Statement.line {n : Node} {k : SockPtr} {h : HostPtr} {s : Str} (statement : Statement s)
    (listener : (n.mesh.sock k).listeners = some (.host h)) :
    n.line k s = if (n.mesh.host h).bReady then n.digestMessage h s else .ok n := by
  rw [Node.line, listener]
  dsimp only
  rw [Node.onReceive, statement.notId, statement.notYou, statement.notHost,
    if_neg Bool.false_ne_true, if_neg Bool.false_ne_true, if_neg statement.notConnected,
    if_neg Bool.false_ne_true]
  cases (n.mesh.host h).bReady <;> rfl

section

variable {crowd : Crowd ι} {strict : Prop} {net : Network ι}
  {a a' : Gossip.State ι} {i : ι} {n : Node} {c : ConnId} {e : End} {k : SockPtr} {s : Status}
  {messages : List (Message (Option ι))}

/-! ## Lines that a Host hears -/

/-- End `e` of connection `c` is the socket `k` of the Host `h` of process `i`. -/
structure Listens (crowd : Crowd ι) (net : Network ι) (a : Gossip.State ι) (c : ConnId) (e : End)
    (i : ι) (k : SockPtr) (h : HostPtr) (entry : Entry) : Prop where
  known : c < net.link.next
  apart : (a.wire c).client ≠ (a.wire c).server
  socket : (net.link c).socket e = some (i, k)
  owner : (a.wire c).owner e = i
  current : (a.wire c).line.status e = .current
  met : a.entry i ((a.wire c).owner e.other) = some entry
  conn : entry.conn = some c
  side : entry.side = e
  isHost : IsHost crowd (net.node i).mesh ((a.wire c).owner e.other) entry h
  owns : ((net.node i).mesh.host h).socket = some k

theorem Represents.listens {h : HostPtr} (represents : Represents crowd strict net a)
    (sane : Gossip.Sane a) (socket : (net.link c).socket e = some (i, k))
    (reads : ((net.node i).mesh.sock k).thread = .receiving c)
    (listener : ((net.node i).mesh.sock k).listeners = some (.host h)) :
    ∃ entry, Listens crowd net a c e i k h entry := by
  have tidy := represents.mesh i
  have known := represents.born i k c reads
  have knownSock : k < (net.node i).mesh.sock.next := by
    by_contra outside
    rw [tidy.fresh k (Nat.le_of_not_lt outside)] at reads
    cases reads
  have owned : ∃ h', ((net.node i).mesh.host h').socket = some k := by
    by_contra free
    have isAside := tidy.aside k knownSock fun h' owns => free ⟨h', owns⟩
    rcases isAside.listener with none | incoming
    · rw [listener] at none
      cases none
    · rw [listener] at incoming
      cases incoming
  obtain ⟨h', owns⟩ := owned
  obtain ⟨q, entry, other, met, isHost, _, current⟩ := tidy.host_of_socket owns
  obtain rfl : h = h' :=
    SignalingListener.host.inj (Option.some.inj (listener.symm.trans current.listener))
  have conn : entry.conn = some c := by
    cases conn : entry.conn with
    | none =>
        have idle := (current.idle conn).2
        split at idle
        · rw [reads] at idle
          cases idle
        · rw [reads] at idle
          cases idle.1
    | some d =>
        have thread := (current.holds d conn).1
        rw [reads] at thread
        rw [Thread.receiving.inj thread]
  have voice : a.voice i q = some (c, entry.side) := by
    rw [Gossip.State.voice_of_entry met, conn]
    rfl
  obtain ⟨_, ownSide, otherSide, status⟩ := sane.voice _ _ _ _ voice
  have owner : (a.wire c).owner e = i := (represents.link c known).owner socket
  have side : entry.side = e := by
    rcases entry.side.eq_or_eq_other e with same | crossed
    · exact same.symm
    · rw [crossed, otherSide] at owner
      exact absurd owner other
  rw [side] at otherSide status
  have apart : (a.wire c).client ≠ (a.wire c).server :=
    (sane.wire c (represents.next ▸ known)).apart
  exact ⟨entry, known, apart, socket, owner, status, otherSide ▸ met, conn, side, otherSide ▸ isHost, owns⟩

namespace Listens

variable {h : HostPtr} {entry : Entry} {rest : List Str}

theorem isCurrent (listens : Listens crowd net a c e i k h entry) :
    IsCurrent crowd ((a.wire c).owner e.other) h entry ((net.node i).mesh.sock k) := by
  obtain ⟨k', owns, _, current⟩ := listens.isHost.socket
  obtain rfl := Option.some.inj (owns.symm.trans listens.owns)
  exact current

theorem reads (listens : Listens crowd net a c e i k h entry) :
    ((net.node i).mesh.sock k).thread = .receiving c :=
  (listens.isCurrent.holds c listens.conn).1

theorem voice (listens : Listens crowd net a c e i k h entry) :
    (net.node i).mesh.voice h = some (c, e) := by
  rw [listens.isHost.voice, listens.conn, listens.side]
  rfl

theorem pop (listens : Listens crowd net a c e i k h entry) :
    Listens crowd (net.setLink c (·.setQueue rest e)) (a.setLine c (·.pop e)) c e i k h entry := by
  have wire : (a.setLine c (·.pop e)).wire c =
      { a.wire c with line := (a.wire c).line.pop e } := by
    rw [Gossip.State.setLine_wire, if_pos rfl]
  have owner (e' : End) : ((a.setLine c (·.pop e)).wire c).owner e' = (a.wire c).owner e' := by
    rw [wire]
    exact Gossip.Wire.owner_setLine ..
  constructor
  · exact listens.known
  · rw [wire]
    exact listens.apart
  · rw [Network.setLink, Heap.modify_self, Link.socket_setQueue]
    exact listens.socket
  · rw [owner]
    exact listens.owner
  · rw [wire]
    exact listens.current
  · rw [owner]
    exact listens.met
  · exact listens.conn
  · exact listens.side
  · rw [owner]
    exact listens.isHost
  · exact listens.owns

/-- What the process writes to the Host goes out at this end. -/
theorem answers {texts : List Str} (listens : Listens crowd net a c e i k h entry)
    (steady : (net.node i).mesh.Steady n.mesh) (sent : n.mesh.sent = saying (some (c, e)) texts)
    (means : List.Forall₂ (Means crowd strict i ((a.wire c).owner e.other))
      (texts.flatMap linesOf) messages) :
    Answers crowd strict net a i n c e k .current messages := by
  have current := listens.isCurrent
  have reads := listens.reads
  refine ⟨listens.known, listens.apart, listens.socket, ⟨texts, sent, means⟩, fun k' _ => steady k', ?_, ?_, ?_⟩
  · intro d other
    have elsewhere : ((net.node i).mesh.sock k).thread ≠ .receiving d := by
      rw [reads]
      exact fun same => other (Thread.receiving.inj same).symm
    exact ⟨elsewhere, fun thread => elsewhere ((steady k).thread.mp thread)⟩
  · rw [(steady k).status]
    exact TCPSocket.statusOn_current reads current.listener
  · intro _ incoming
    have same := (steady k).incoming incoming
    rw [same, current.listener] at incoming
    cases incoming

end Listens

variable [DecidableEq ι]

theorem Answers.wired (answers : Answers crowd strict net a i n c e k s messages)
    (wired : Wired crowd strict net a) (next : a'.wire.next = a.wire.next)
    (here : a'.wire c =
      { a.wire c with line := ((a.wire c).line.setStatus e s).push e.other messages })
    (there : ∀ d, d ≠ c → a'.wire d = a.wire d) : Wired crowd strict (net.take i n) a' := by
  obtain ⟨texts, sent, means⟩ := answers.said
  have isOwner : (a.wire c).owner e = i := (wired.link c answers.known).owner answers.socket
  have writes (d : ConnId) (e' : End) : written n.mesh.sent d e' =
      if d = c ∧ e' = e then texts.flatMap linesOf else [] := by
    rw [sent]
    split
    · next same =>
      rw [same.1, same.2]
      exact written_saying_self c e texts
    · next other =>
      refine written_saying_of_ne ?_ texts
      intro same
      obtain ⟨rfl, rfl⟩ := Prod.mk.inj (Option.some.inj same)
      exact other ⟨rfl, rfl⟩
  refine wired.take next ?_ ?_
  · intro k' d thread
    by_cases same : k' = k
    · subst same
      have isC : d = c := by
        by_contra other
        exact (answers.elsewhere d other).2 thread
      rw [isC]
      exact answers.known
    · exact wired.born i k' d ((answers.others k' same).thread.mp thread)
  intro d known
  have carried := wired.link d known
  -- at the other ends of the process nothing has changed
  have steady (e' : End) (k' : SockPtr) (socket : (net.link d).socket e' = some (i, k'))
      (beside : d ≠ c ∨ k' ≠ k) :
      (n.mesh.sock k').statusOn d = (a.wire d).line.status e' := by
    rw [← carried.status e', Carried.statusAt_of_socket socket]
    by_cases same : k' = k
    · have other : d ≠ c := beside.resolve_right fun differs => differs same
      rw [same, TCPSocket.statusOn_eq_ended.mpr (answers.elsewhere d other).1,
        TCPSocket.statusOn_eq_ended.mpr (answers.elsewhere d other).2]
    · exact (answers.others k' same).status d
  have incoming (k' : SockPtr) (socket : (net.link d).socket .server = some (i, k'))
      (differs : k' ≠ k) (reads : (n.mesh.sock k').thread = .receiving d)
      (listener : (n.mesh.sock k').listeners = some .incoming) :
      Mesh.localName (n.mesh.sock k').ip = crowd.ip (a.wire d).client := by
    have same := (answers.others k' differs).incoming listener
    rw [same] at reads listener ⊢
    refine carried.peer _ ?_ reads listener
    unfold Network.sockAt
    rw [socket]
    rfl
  by_cases isC : d = c
  · subst isC
    rw [here]
    have status (e' : End) : (((a.wire d).line.setStatus e s).push e.other messages).status e' =
        ((a.wire d).line.setStatus e s).status e' := by rw [Handshake.Wire.push_status]
    have notBoth (k' : SockPtr) : (net.link d).socket e.other ≠ some (i, k') := by
      intro socket
      have isOther : (a.wire d).owner e.other = i := carried.owner socket
      exact Gossip.Wire.owner_other_ne answers.apart e (isOther.trans isOwner.symm)
    refine ⟨rfl, rfl, Handshake.Wire.push_lost .., ?_, ?_, ?_, ?_⟩
    · intro e'
      rcases e.eq_or_eq_other e' with rfl | rfl
      · refine ⟨[], ?_, ?_⟩
        · rw [writes, if_neg fun both => End.other_ne _ both.2]
          exact .nil
        · rw [List.append_nil, ite_self]
          exact Handshake.Wire.push_queue_back ..
      · refine ⟨messages, ?_, ?_⟩
        · rw [End.other_other, writes, if_pos ⟨rfl, rfl⟩, isOwner]
          exact means
        · have sameLost : ((a.wire d).line.setStatus e s).lost = (a.wire d).line.lost := rfl
          cases lost : (a.wire d).line.lost with
          | true =>
              change (((a.wire d).line.setStatus e s).push e.other messages).queue e.other = _
              rw [Handshake.Wire.push_of_lost (sameLost.trans lost)]
              rfl
          | false =>
              change (((a.wire d).line.setStatus e s).push e.other messages).queue e.other = _
              rw [Handshake.Wire.push_queue_self (sameLost.trans lost)]
              rfl
    · intro e' k' socket
      change _ = (((a.wire d).line.setStatus e s).push e.other messages).status e'
      rw [status]
      rcases e.eq_or_eq_other e' with rfl | rfl
      · obtain rfl := (Prod.mk.inj (Option.some.inj (socket.symm.trans answers.socket))).2
        rw [Handshake.Wire.setStatus_status_self]
        exact answers.status
      · exact absurd socket (notBoth k')
    · intro e' foreign
      change (((a.wire d).line.setStatus e s).push e.other messages).status e' = _
      rw [status]
      rcases e.eq_or_eq_other e' with rfl | rfl
      · exact absurd answers.socket (foreign k)
      · exact Handshake.Wire.setStatus_status_other ..
    · intro k' socket reads listener
      by_cases same : k' = k
      · rw [same] at reads listener ⊢
        exact answers.peer reads listener
      · exact incoming k' socket same reads listener
  · rw [there d isC]
    refine ⟨rfl, rfl, rfl, ?_, ?_, fun _ _ => rfl, ?_⟩
    · intro e'
      refine ⟨[], ?_, by rw [List.append_nil, ite_self]⟩
      rw [writes, if_neg fun both => isC both.1]
      exact .nil
    · exact fun e' k' socket => steady e' k' socket (.inl isC)
    · intro k' socket reads listener
      by_cases same : k' = k
      · rw [same] at reads
        exact absurd reads (answers.elsewhere d isC).2
      · exact incoming k' socket same reads listener

/-- The process has answered, and nobody else has noticed. -/
theorem Answers.represents (answers : Answers crowd strict net a i n c e k s messages)
    (represents : Represents crowd strict net a) (named : crowd.Named)
    (mesh : Tidy crowd i n.mesh (a'.addressed i) (a'.entry i)) (chan : n.chan = (net.node i).chan)
    (bystanders : ∀ p, p ≠ i → a'.addressed p = a.addressed p ∧ a'.entry p = a.entry p)
    (next : a'.wire.next = a.wire.next)
    (here : a'.wire c =
      { a.wire c with line := ((a.wire c).line.setStatus e s).push e.other messages })
    (there : ∀ d, d ≠ c → a'.wire d = a.wire d) : Represents crowd strict (net.take i n) a' := by
  refine represents.take (answers.wired represents.toWired next here there) mesh ?_ ?_ bystanders
  · refine mesh.clean named fun d => ?_
    rw [chan]
    exact (represents.clean i).names d
  · intro isStrict
    rw [chan]
    exact represents.quiet isStrict i

/-! ## The lines of the handshake -/

/-- What an action is to the protocol. It takes two steps only when there are channels. -/
inductive Moves (strict : Prop) (yields : ι → ι → Bool) (a a' : Gossip.State ι) : Prop where
  | still (same : a' = a)
  | step (step : Gossip.Step strict yields a a')
  | steps (chatty : ¬ strict) (mid : Gossip.State ι) (first : Gossip.Step strict yields a mid)
      (second : Gossip.Step strict yields mid a')

omit [DecidableEq ι] in
theorem Gossip.State.answer_here (current : (a.wire c).line.status e = .current) :
    (a.answer c e messages).wire c = { (a.setLine c (·.pop e)).wire c with
      line := (((a.setLine c (·.pop e)).wire c).line.setStatus e .current).push e.other messages } := by
  have popped : ((a.wire c).line.pop e).status e = .current := current
  have same : ((a.wire c).line.pop e).setStatus e .current = (a.wire c).line.pop e :=
    Handshake.Wire.setStatus_same popped
  unfold Gossip.State.answer
  rw [Gossip.State.setLine_wire, Gossip.State.setLine_wire, if_pos rfl, if_pos rfl]
  dsimp only
  rw [same]

omit [DecidableEq ι] in
theorem Gossip.State.answer_there {d : ConnId} (other : d ≠ c) :
    (a.answer c e messages).wire d = (a.setLine c (·.pop e)).wire d := by
  unfold Gossip.State.answer
  rw [Gossip.State.setLine_wire, Gossip.State.setLine_wire, if_neg other, if_neg other]

namespace Listens

variable {yields : ι → ι → Bool} {h : HostPtr} {entry : Entry} {t : Str} {rest : List Str}
  {tail : List (Message (Option ι))}

/-- A line has been heard, and what is written is an answer to it. -/
theorem heard {m : List Str} {b : Gossip.State ι} (listens : Listens crowd net a c e i k h entry)
    (represents : Represents crowd strict net a) (named : crowd.Named)
    (head : (net.link c).queue e = t :: rest)
    (mesh : Tidy crowd i n.mesh (b.addressed i) (b.entry i)) (chan : n.chan = (net.node i).chan)
    (steady : (net.node i).mesh.Steady n.mesh)
    (sent : n.mesh.sent = (net.node i).mesh.sent ++ saying (some (c, e)) m)
    (means : List.Forall₂ (Means crowd strict i ((a.wire c).owner e.other))
      (m.flatMap linesOf) messages)
    (bystanders : ∀ p, p ≠ i → b.addressed p = a.addressed p ∧ b.entry p = a.entry p)
    (wire : b.wire = (a.answer c e messages).wire) :
    Represents crowd strict ((net.setLink c (·.setQueue rest e)).take i n) b := by
  have popped : Listens crowd (net.setLink c (·.setQueue rest e)) (a.setLine c (·.pop e)) c e i k h
      entry := listens.pop
  have owner : ((a.setLine c (·.pop e)).wire c).owner e.other = (a.wire c).owner e.other := by
    rw [Gossip.State.setLine_wire, if_pos rfl]
    exact Gossip.Wire.owner_setLine ..
  rw [represents.silent i, List.nil_append] at sent
  rw [← owner] at means
  refine (popped.answers steady sent means).represents (represents.pop head) named mesh chan
    bystanders ?_ ?_ ?_
  · rw [wire]
    rfl
  · rw [wire]
    exact Gossip.State.answer_here listens.current
  · intro d other
    rw [wire]
    exact Gossip.State.answer_there other

theorem idLine (listens : Listens crowd net a c e i k h entry)
    (represents : Represents crowd strict net a) (named : crowd.Named)
    (isId : t = Mesh.idLine (crowd.ID ((a.wire c).owner e.other)) (crowd.port ((a.wire c).owner e.other)))
    (head : (net.link c).queue e = t :: rest) (first : (a.wire c).line.queue e = .id :: tail)
    (ran : (net.node i).line k t = .ok n) :
    ∃ a', Represents crowd strict ((net.setLink c (·.setQueue rest e)).take i n) a' ∧
      Moves strict yields a a' := by
  rw [isId, Node.line_id listens.isCurrent.listener Mesh.idLine_starts] at ran
  obtain rfl := Except.ok.inj ran
  obtain ⟨mesh, sent, sock⟩ := (represents.mesh i).receiveId listens.isHost
  rw [listens.voice] at sent
  refine ⟨a.answer c e [.connected], ?_, .step (.greet c e ?_ listens.current tail first)⟩
  · refine listens.heard represents named head mesh rfl (.of_sock sock) sent ?_ (fun _ _ => ⟨rfl, rfl⟩) rfl
    have line : ["CONNECTED".toList].flatMap linesOf = ["CONNECTED".toList] := by decide
    rw [line]
    exact .cons .connected .nil
  · exact represents.next ▸ listens.known

theorem youLine (listens : Listens crowd net a c e i k h entry)
    (represents : Represents crowd strict net a) (named : crowd.Named)
    (isYou : t = Mesh.youLine (crowd.ip ((a.wire c).owner e)))
    (head : (net.link c).queue e = t :: rest) (first : (a.wire c).line.queue e = .you :: tail)
    (ran : (net.node i).line k t = .ok n) :
    ∃ a', Represents crowd strict ((net.setLink c (·.setQueue rest e)).take i n) a' ∧
      Moves strict yields a a' := by
  rw [listens.owner] at isYou
  rw [isYou, Node.line_you listens.isCurrent.listener Mesh.youLine_starts] at ran
  obtain rfl := Except.ok.inj ran
  obtain ⟨mesh, sent, sock⟩ := (represents.mesh i).receiveYou
  refine ⟨(a.answer c e []).setAddressed ((a.wire c).owner e), ?_,
    .step (.address c e ?_ listens.current tail first)⟩
  · rw [listens.owner]
    refine listens.heard represents named head ?_ rfl (.of_sock sock) (m := []) ?_ .nil ?_ rfl
    · change Tidy crowd i _ (Function.update a.addressed i true i) (a.entry i)
      rw [Function.update_self]
      exact mesh
    · rw [sent]
      exact (List.append_nil _).symm
    · intro p other
      exact ⟨Function.update_of_ne other .., rfl⟩
  · exact represents.next ▸ listens.known

end Listens

/-! ## `CONNECTED` -/

omit [DecidableEq ι] in
/-- What `broadcast_hosts` writes goes to those who are ready. -/
theorem Tidy.broadcastHosts_said {p : ι} {m : Mesh} {addressed : Bool} {entry : ι → Option Entry}
    (tidy : Tidy crowd p m addressed entry) (named : crowd.Named) :
    ∃ added, m.broadcastHosts.sent = m.sent ++ added ∧
      (∀ write ∈ added, (∃ h, m.voice h = some (write.1, write.2.1) ∧ (m.host h).bReady = true) ∧
        ∀ line ∈ linesOf write.2.2, ∃ q, line = Mesh.hostText (crowd.ip q) (crowd.port q)) ∧
      ∀ y ey z ez c e, entry y = some ey → ey.ready = true → entry z = some ez → ez.ready = true →
        ey.conn = some c → ey.side = e →
          Mesh.hostText (crowd.ip z) (crowd.port z) ∈ written added c e := by
  obtain ⟨text, same, lines, all⟩ := tidy.broadcastHosts named
  rw [same, Mesh.broadcast_eq]
  refine ⟨_, rfl, ?_, ?_⟩
  · intro write member
    obtain ⟨h, listed, said⟩ := List.mem_flatMap.mp member
    obtain ⟨v, isVoice, rfl⟩ := List.mem_map.mp said
    exact ⟨⟨h, Option.mem_toList.mp isVoice, (List.mem_filter.mp listed).2⟩, lines⟩
  · intro y ey z ez c e metY readyY metZ readyZ conn side
    obtain ⟨h, isHost⟩ := tidy.met y ey metY
    have voice : m.voice h = some (c, e) := by
      rw [isHost.voice, conn, side]
      rfl
    refine List.mem_flatMap.mpr ⟨(c, e, text), List.mem_flatMap.mpr ⟨h, ?_, ?_⟩, ?_⟩
    · exact List.mem_filter.mpr ⟨isHost.listed, isHost.ready.trans readyY⟩
    · rw [voice]
      exact List.mem_singleton_self _
    · rw [if_pos ⟨rfl, rfl⟩]
      exact all z ez metZ readyZ

theorem Network.take_take {mid : Node} (silent : mid.mesh.sent = []) :
    (net.take i mid).take i n = net.take i n := by
  unfold Network.take
  simp only [silent, Link.carry_nil, Function.update_idem]

omit [DecidableEq ι] in
/-- What the channels write is talk. -/
theorem Represents.spoken_of_chats {mid : Node} {added : List (ConnId × End × Str)}
    (represents : Represents crowd strict net a) (table : mid.mesh.table = (net.node i).mesh.table)
    (chatty : ¬ strict)
    (said : ∀ write ∈ added, (∃ h, mid.mesh.voice h = some (write.1, write.2.1)) ∧
      Statement write.2.2) : Spoken crowd strict i a added := by
  intro write member
  obtain ⟨⟨h, voice⟩, statement⟩ := said write member
  rw [Mesh.voice_of_table table] at voice
  obtain ⟨q, isVoice, _⟩ := represents.voice_of_host voice
  refine ⟨⟨q, isVoice, fun isStrict => absurd isStrict chatty⟩, fun line inside => ⟨none, fun y => ?_⟩⟩
  rw [statement.linesOf, List.mem_singleton] at inside
  rw [inside]
  exact .statement chatty statement

namespace Listens

variable {yields : ι → ι → Bool} {h : HostPtr} {entry : Entry} {t : Str} {rest : List Str}
  {tail : List (Message (Option ι))}

theorem connectedLine (listens : Listens crowd net a c e i k h entry)
    (represents : Represents crowd strict net a) (sane : Gossip.Sane a) (named : crowd.Named)
    (isConnected : t = "CONNECTED".toList) (head : (net.link c).queue e = t :: rest)
    (first : (a.wire c).line.queue e = .connected :: tail)
    (ran : (net.node i).line k t = .ok n) :
    ∃ a', Represents crowd strict ((net.setLink c (·.setQueue rest e)).take i n) a' ∧
      Moves strict yields a a' := by
  rw [isConnected, Node.line_connected listens.isCurrent.listener] at ran
  have isNew := Except.ok.inj ran
  generalize isMid : ({ net.node i with mesh := Node.receiveConnected (net.node i).mesh h } : Node) =
    mid
  have becomes : n = { mid.broadcastPublishedChannels with
      mesh := mid.broadcastPublishedChannels.mesh.broadcastHosts } := by
    rw [← isNew, ← isMid]
    rfl
  generalize isOther : (a.wire c).owner e.other = q
  generalize isReady : (a.answer c e []).changeEntry i q (fun entry => { entry with ready := true }) =
    b
  have met : a.entry i q = some entry := by
    rw [← isOther]
    exact listens.met
  have known : c < a.wire.next := represents.next ▸ listens.known
  have saneMid : Gossip.Sane b := by
    have answered : Gossip.Sane (a.answer c e []) :=
      sane.answer listens.current first List.not_mem_nil nofun
    have voice := sane.current c known e listens.current
    rw [listens.owner, isOther] at voice
    rw [← isReady]
    exact answered.becomeReady voice
  have entries : b.entry i = Function.update (a.entry i) q (some { entry with ready := true }) := by
    rw [← isReady]
    change Function.update a.entry i (Function.update (a.entry i) q ((a.entry i q).map _)) i = _
    rw [Function.update_self, met]
    rfl
  -- first the Host is ready
  obtain ⟨mesh, sent, sock⟩ := (represents.mesh i).receiveConnected named listens.met listens.isHost
  have between : Represents crowd strict ((net.setLink c (·.setQueue rest e)).take i mid) b := by
    rw [← isMid]
    refine listens.heard represents named head ?_ rfl (.of_sock sock) (m := []) ?_ .nil ?_ ?_
    · rw [entries, ← isReady]
      rw [isOther] at mesh
      exact mesh
    · rw [sent]
      exact (List.append_nil _).symm
    · intro p other
      rw [← isReady]
      exact ⟨rfl, Function.update_of_ne other ..⟩
    · rw [← isReady]
      rfl
  have midSilent : mid.mesh.sent = [] := by
    rw [← isMid]
    exact sent.trans (represents.silent i)
  generalize isNet : (net.setLink c (·.setQueue rest e)).take i mid = net' at between
  have node : net'.node i = mid := by
    rw [← isNet, Network.take_node_self, ← midSilent]
  -- then it tells what it has published and whom it knows
  have clean : mid.Clean := node ▸ between.clean i
  have chats := Node.broadcastPublishedChannels_chats clean
  obtain ⟨added, published, said⟩ := chats.sent
  have tidy : Tidy crowd i mid.broadcastPublishedChannels.mesh (b.addressed i) (b.entry i) := by
    refine Tidy.of_table ?_ chats.table
    rw [← node]
    exact between.mesh i
  obtain ⟨hosts, gossip, told, everybody⟩ := tidy.broadcastHosts_said named
  have table : n.mesh.table = mid.mesh.table := by
    rw [becomes]
    exact (Mesh.table_broadcast ..).trans chats.table
  have whole : n.mesh.sent = added ++ hosts := by
    rw [becomes]
    change mid.broadcastPublishedChannels.mesh.broadcastHosts.sent = _
    rw [gossip, published, midSilent, List.nil_append]
  have chan : n.chan = mid.chan := by
    rw [becomes]
    exact mid.broadcastPublishedChannels_connecting.chan
  have spoken : Spoken crowd strict i b n.mesh.sent := by
    rw [whole]
    refine Spoken.append ?_ ?_
    · by_cases isStrict : strict
      · -- without channels nothing is published
        have none : mid.broadcastPublishedChannels = mid := by
          have empty := between.quiet isStrict i
          rw [node] at empty
          unfold Node.broadcastPublishedChannels Node.channels
          rw [empty]
          rfl
        rw [none] at published
        rw [List.self_eq_append_right.mp published]
        exact .nil
      · refine between.spoken_of_chats ?_ isStrict said
        rw [node]
    · intro write member
      obtain ⟨⟨h', voice, ready⟩, lines⟩ := told write member
      rw [Mesh.voice_of_table chats.table, ← node] at voice
      rw [Mesh.host_of_table chats.table, ← node] at ready
      obtain ⟨y, isVoice, isReady⟩ := between.voice_of_host voice
      refine ⟨⟨y, isVoice, fun _ => isReady.trans ready⟩, fun line inside => ?_⟩
      obtain ⟨r, isLine⟩ := lines line inside
      refine ⟨some r, fun y => ?_⟩
      rw [isLine]
      exact .host r
  have steady : (net'.node i).mesh.Steady n.mesh := by
    rw [node]
    exact .of_sock (Mesh.sock_of_table table)
  have tidyNew : Tidy crowd i n.mesh (b.addressed i) (b.entry i) :=
    tidy.of_table (table.trans chats.table.symm)
  have cleanNew : n.Clean := by
    refine tidyNew.clean named fun d => ?_
    rw [chan]
    exact clean.names d
  have quiet (isStrict : strict) : n.chan.next = 0 := by
    rw [chan, ← node]
    exact between.quiet isStrict i
  obtain ⟨talks, after, entitled, tells⟩ :=
    between.says saneMid tidyNew cleanNew quiet steady spoken
  rw [← isNet, Network.take_take midSilent] at after
  refine ⟨b.say i talks, after, .step ?_⟩
  have isB : b = (a.answer c e []).changeEntry ((a.wire c).owner e) ((a.wire c).owner e.other)
      fun entry => { entry with ready := true } := by
    rw [listens.owner, isOther, isReady]
  rw [← listens.owner] at entitled ⊢
  refine .ready c e talks known listens.current tail first b isB ?_ entitled
  rw [listens.owner]
  intro y z readyY readyZ
  have entryOf {w : ι} (ready : b.ready i w = true) : ∃ ew, b.entry i w = some ew ∧ ew.ready = true := by
    unfold Gossip.State.ready at ready
    cases isMet : b.entry i w with
    | none =>
        rw [isMet] at ready
        cases ready
    | some ew =>
        rw [isMet] at ready
        exact ⟨ew, rfl, ready⟩
  cases voice : b.voice i y with
  | none =>
      rw [saneMid.idle i y voice] at readyY
      cases readyY
  | some talker =>
      obtain ⟨d, side⟩ := talker
      obtain ⟨ey, metY, isReadyY⟩ := entryOf readyY
      obtain ⟨ez, metZ, isReadyZ⟩ := entryOf readyZ
      obtain ⟨ey', metY', conn, isSide⟩ := Gossip.State.entry_of_voice voice
      obtain rfl := Option.some.inj (metY.symm.trans metY')
      refine tells y d side z voice ?_ named
      rw [whole, written_append]
      exact List.mem_append_right _
        (everybody y ey z ez d side metY isReadyY metZ isReadyZ conn isSide)

/-! ## Talk -/

theorem hostLine {r : ι} (listens : Listens crowd net a c e i k h entry)
    (represents : Represents crowd strict net a) (sane : Gossip.Sane a) (named : crowd.Named)
    (isHost : t = Mesh.hostText (crowd.ip r) (crowd.port r)) (head : (net.link c).queue e = t :: rest)
    (first : (a.wire c).line.queue e = .talk (some r) :: tail)
    (ran : (net.node i).line k t = .ok n) :
    ∃ a', Represents crowd strict ((net.setLink c (·.setQueue rest e)).take i n) a' ∧
      Moves strict yields a a' := by
  rw [isHost, Node.line_host listens.isCurrent.listener Mesh.hostText_starts,
    Mesh.receiveHost_hostText _ (named.text r).colon] at ran
  have isNew := Except.ok.inj ran
  have known : c < a.wire.next := represents.next ▸ listens.known
  have tidy := represents.mesh i
  refine ⟨_, ?_, .step (.hear c e (some r) known listens.current tail first)⟩
  -- what happens to the table happens to the entries
  have heard (m : Mesh) (b : Gossip.State ι) (becomes : n = { net.node i with mesh := m })
      (mesh : Tidy crowd i m (b.addressed i) (b.entry i)) (steady : (net.node i).mesh.Steady m)
      (sent : m.sent = (net.node i).mesh.sent)
      (bystanders : ∀ p, p ≠ i → b.addressed p = a.addressed p ∧ b.entry p = a.entry p)
      (wire : b.wire = (a.answer c e []).wire) :
      Represents crowd strict ((net.setLink c (·.setQueue rest e)).take i n) b := by
    rw [becomes]
    exact listens.heard represents named head mesh rfl steady (m := [])
      (sent.trans (List.append_nil _).symm) .nil bystanders wire
  have nothing (becomes : n = net.node i) :
      Represents crowd strict ((net.setLink c (·.setQueue rest e)).take i n) (a.answer c e []) :=
    heard (net.node i).mesh (a.answer c e []) becomes tidy (.of_sock rfl) rfl (fun _ _ => ⟨rfl, rfl⟩) rfl
  have ready : (a.answer c e []).ready ((a.wire c).owner e) ((a.wire c).owner e.other) =
      ((net.node i).mesh.host h).bReady := by
    rw [listens.owner, Gossip.State.ready_of_entry (a := a.answer c e []) listens.met]
    exact listens.isHost.ready.symm
  unfold Gossip.State.hear
  dsimp only
  rw [ready, listens.owner]
  cases isReady : ((net.node i).mesh.host h).bReady with
  | false =>
      rw [isReady, if_neg Bool.false_ne_true] at isNew
      rw [if_neg Bool.false_ne_true]
      exact nothing isNew.symm
  | true =>
      rw [isReady, if_pos rfl] at isNew
      rw [if_pos rfl]
      unfold Gossip.State.meet
      by_cases isSelf : i = r
      · -- who has heard talk has been told its own address before
        subst isSelf
        rw [if_neg fun new => new.1 rfl]
        have addressed : a.addressed i = true := by
          have greeted := (sane.wire c known).greeted e listens.current
          rw [first, listens.owner] at greeted
          exact greeted.told
        rw [addressed] at tidy
        refine nothing (isNew.symm.trans ?_)
        rw [tidy.addHost_me]
      · cases met : a.entry i r with
        | some other =>
            have isMet : ¬ (i ≠ r ∧ (a.answer c e []).entry i r = none) := by
              rintro ⟨_, unmet⟩
              cases met.symm.trans unmet
            rw [if_neg isMet]
            refine nothing (isNew.symm.trans ?_)
            rw [tidy.addHost_known met]
        | none =>
            rw [if_pos ⟨isSelf, met⟩]
            obtain ⟨mesh, sent, steady⟩ := tidy.addHost_unmet named (Ne.symm isSelf) met
            refine heard _ _ isNew.symm ?_ steady sent ?_ rfl
            · change Tidy crowd i _ (a.addressed i) (Function.update a.entry i _ i)
              rw [Function.update_self]
              exact mesh
            · exact fun p other => ⟨rfl, Function.update_of_ne other ..⟩

theorem statementLine (listens : Listens crowd net a c e i k h entry)
    (represents : Represents crowd strict net a) (sane : Gossip.Sane a) (named : crowd.Named)
    (chatty : ¬ strict) (isStatement : Statement t) (head : (net.link c).queue e = t :: rest)
    (first : (a.wire c).line.queue e = .talk none :: tail)
    (ran : (net.node i).line k t = .ok n) :
    ∃ a', Represents crowd strict ((net.setLink c (·.setQueue rest e)).take i n) a' ∧
      Moves strict yields a a' := by
  rw [isStatement.line listens.isCurrent.listener] at ran
  have known : c < a.wire.next := represents.next ▸ listens.known
  have hears : Gossip.Step strict yields a (a.answer c e []) :=
    .hear c e none known listens.current tail first
  cases isReady : ((net.node i).mesh.host h).bReady with
  | false =>
      rw [isReady, if_neg Bool.false_ne_true] at ran
      obtain rfl := Except.ok.inj ran
      refine ⟨a.answer c e [], ?_, .step hears⟩
      exact listens.heard represents named head (represents.mesh i) rfl (.of_sock rfl) (m := [])
        (List.append_nil _).symm .nil (fun _ _ => ⟨rfl, rfl⟩) rfl
  | true =>
      rw [isReady, if_pos rfl] at ran
      have chats := Node.digest_chats (represents.clean i) isStatement.safe ran
      obtain ⟨added, sent, said⟩ := chats.sent
      rw [represents.silent i, List.nil_append] at sent
      have between : Represents crowd strict (net.setLink c (·.setQueue rest e)) (a.answer c e []) := by
        have popped := represents.pop head
        unfold Gossip.State.answer
        simp only [Handshake.Wire.push_nil]
        exact popped
      have saneMid : Gossip.Sane (a.answer c e []) :=
        sane.answer listens.current first List.not_mem_nil nofun
      obtain ⟨talks, after, _⟩ := between.says saneMid ((represents.mesh i).of_table chats.table)
        chats.clean (fun isStrict => absurd isStrict chatty) (.of_sock (Mesh.sock_of_table chats.table))
        (by rw [sent]; exact between.spoken_of_chats rfl chatty said)
      exact ⟨(a.answer c e []).say i talks, after,
        .steps chatty _ hears (.say i talks fun isStrict => absurd isStrict chatty)⟩

end Listens

end

end LibPubSub
