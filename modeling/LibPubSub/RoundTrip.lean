import LibPubSub.Messages

/-! What a ready Host makes of the messages that other processes write. `hand` is the
dispatch of `Host::on_receive` and `digest_message` with the splitting that the
handlers do first; a message round-trips if a line of it hands its fields to
the handler it is meant for. -/

set_option autoImplicit false

namespace LibPubSub

open Pieces Fallible

namespace Node

/-- The handler that a line of a ready Host reaches, with what it reads in the line. -/
inductive Handed where
  | id (id port : Int32)
  | you (ip : Str)
  | connected
  | addHost (ip : Str) (port : Int32)
  | publish (type : Char) (name opts : Str)
  | unpublish (type : Char) (name : Str)
  | makeOfferTcp (channel : Str)
  | makeOfferShm (channel : Str)
  | answerOfferTcp (channel : Str) (port : Int32)
  | answerOfferShm (channel : Str) (shm : SHM)
  | nothing
  deriving DecidableEq

def hand (s : Str) : Result Handed :=
  let payload := strAfter s ['=']
  if strStartsWith s "ID=".toList then return .id (Mesh.decodeId s).1 (Mesh.decodeId s).2
  else if strStartsWith s "YOU=".toList then return .you payload
  else if s = "CONNECTED".toList then return .connected
  else if strStartsWith s "Host=".toList then
    return .addHost (strBefore payload [':']) (atoi (strAfter payload [':']))
  else if strStartsWith s "PUBLISH=".toList then do
    let name ← statementName payload
    return .publish (payload.headD NUL) name (strAfter payload ['|'])
  else if strStartsWith s "UNPUBLISH=".toList then do
    let name ← statementName payload
    return .unpublish (payload.headD NUL) name
  else if strStartsWith s "CONNECT_TCP=".toList then return .makeOfferTcp payload
  else if strStartsWith s "CONNECT_SHM=".toList then return .makeOfferShm payload
  else if strStartsWith s "OFFER_TCP=".toList then
    return .answerOfferTcp (strBefore payload ['|']) (atoi (strAfter payload ['|']))
  else if strStartsWith s "OFFER_SHM=".toList then
    return .answerOfferShm (strBefore payload ['|']) (decodeShm (strAfter payload ['|']))
  else return .nothing

/-- What the handlers do for Host `h`. -/
def perform (n : Node) (h : HostPtr) : Handed → Result Node
  | .id id port =>
      let m := n.mesh.setHost h fun host => { host with id := id, port := port }
      return { n with mesh := m.send h "CONNECTED".toList }
  | .you ip =>
      let m := n.mesh.setHost n.mesh.me fun host => { host with ip := ip, bReady := true }
      return { n with mesh := m }
  | .connected => return n.afterConnected h
  | .addHost ip port => return { n with mesh := n.mesh.addHost ip port }
  | .publish type name opts =>
      let (n, c) := n.getOrCreateChannel name
      if type = 'P' then n.setPublisher c (some h)
      else if type = 'A' ∨ type = 'S' then
        if (n.chan c).publisher.isSome then return n
        else n.setPublisher c (n.namedHost opts)
      else return n
  | .unpublish _ name =>
      match n.getChannel name with
      | some c => n.setPublisher c none
      | none => return n
  | .makeOfferTcp channel => return n.makeOfferTcp h channel
  | .makeOfferShm channel => return n.makeOfferShm h channel
  | .answerOfferTcp channel port =>
      match n.getChannel channel with
      | some c => ((n.record (.offeredTcp h c port)).setChan c fun channel =>
          { channel with offeredPort := port }).connectTcp c
      | none => return n
  | .answerOfferShm channel shm =>
      match n.getChannel channel with
      | some c => ((n.record (.offeredShm h c shm)).setChan c fun channel =>
          { channel with offeredShmPath := shm.path, size := shm.size }).connectShm c
      | none => return n
  | .nothing => return n

/-- A ready Host hands a line out and performs it. -/
theorem onReceive_eq_perform {n : Node} {h : HostPtr} (ready : (n.mesh.host h).bReady = true)
    (s : Str) : n.onReceive h s = hand s >>= n.perform h := by
  unfold onReceive hand
  dsimp only
  refine ite_eq_ite_bind (fun _ => rfl) fun _ => ?_
  refine ite_eq_ite_bind (fun _ => rfl) fun _ => ?_
  refine ite_eq_ite_bind (fun _ => rfl) fun _ => ?_
  rw [ready, if_neg (by decide)]
  refine ite_eq_ite_bind (fun _ => rfl) fun _ => ?_
  unfold digestMessage
  refine ite_eq_ite_bind (fun _ => ?_) fun _ => ?_
  · unfold applyPublishStatement
    cases statementName (strAfter s ['=']) <;> rfl
  refine ite_eq_ite_bind (fun _ => ?_) fun _ => ?_
  · unfold applyUnpublishStatement
    cases statementName (strAfter s ['=']) <;> rfl
  refine ite_eq_ite_bind (fun _ => rfl) fun _ => ?_
  refine ite_eq_ite_bind (fun _ => rfl) fun _ => ?_
  refine ite_eq_ite_bind (fun _ => rfl) fun _ => ?_
  exact ite_eq_ite_bind (fun _ => rfl) fun _ => rfl

/-! ## What a line can hand out -/

theorem statementName_eq_ok {t name : Str} (named : statementName t = .ok name) :
    name = strBefore (t.drop 1) ['|'] := by
  cases t with
  | nil => cases named
  | cons type rest => exact (Except.ok.inj named).symm

/-- The channel name that is handed out. -/
def Handed.name : Handed → Option Str
  | .publish _ name _ => some name
  | .unpublish _ name => some name
  | .makeOfferTcp name => some name
  | .makeOfferShm name => some name
  | .answerOfferTcp name _ => some name
  | .answerOfferShm name _ => some name
  | _ => none

/-- Where a name that is handed out was cut. -/
theorem name_cut {s name : Str} {handed : Handed} (hands : hand s = .ok handed)
    (named : handed.name = some name) :
    (name = strAfter s ['='] ∧ (handed = .makeOfferTcp name ∨ handed = .makeOfferShm name)) ∨
      name = strBefore (strAfter s ['=']) ['|'] ∨
      name = strBefore ((strAfter s ['=']).drop 1) ['|'] := by
  unfold hand at hands
  dsimp only at hands
  -- the four kinds that carry no channel name
  rcases ite_eq_iff.mp hands with ⟨_, same⟩ | ⟨_, hands⟩
  · cases same; cases named
  rcases ite_eq_iff.mp hands with ⟨_, same⟩ | ⟨_, hands⟩
  · cases same; cases named
  rcases ite_eq_iff.mp hands with ⟨_, same⟩ | ⟨_, hands⟩
  · cases same; cases named
  rcases ite_eq_iff.mp hands with ⟨_, same⟩ | ⟨_, hands⟩
  · cases same; cases named
  -- the two statements
  rcases ite_eq_iff.mp hands with ⟨_, same⟩ | ⟨_, hands⟩
  · obtain ⟨stated, isName, rest⟩ := bind_eq_ok.mp same
    cases pure_eq_ok.mp rest
    cases named
    exact .inr (.inr (statementName_eq_ok isName))
  rcases ite_eq_iff.mp hands with ⟨_, same⟩ | ⟨_, hands⟩
  · obtain ⟨stated, isName, rest⟩ := bind_eq_ok.mp same
    cases pure_eq_ok.mp rest
    cases named
    exact .inr (.inr (statementName_eq_ok isName))
  -- the two requests, which keep the whole payload
  rcases ite_eq_iff.mp hands with ⟨_, same⟩ | ⟨_, hands⟩
  · cases same; cases named
    exact .inl ⟨rfl, .inl rfl⟩
  rcases ite_eq_iff.mp hands with ⟨_, same⟩ | ⟨_, hands⟩
  · cases same; cases named
    exact .inl ⟨rfl, .inr rfl⟩
  -- the two offers
  rcases ite_eq_iff.mp hands with ⟨_, same⟩ | ⟨_, hands⟩
  · cases same; cases named
    exact .inr (.inl rfl)
  rcases ite_eq_iff.mp hands with ⟨_, same⟩ | ⟨_, hands⟩
  · cases same; cases named
    exact .inr (.inl rfl)
  · cases hands; cases named

/-- A name that is handed out stands in the line. -/
theorem mem_of_mem_name {s name : Str} {handed : Handed} (hands : hand s = .ok handed)
    (named : handed.name = some name) : ∀ b ∈ name, b ∈ s := by
  intro b member
  rcases name_cut hands named with ⟨whole, _⟩ | cut | cut
  · exact mem_of_mem_strAfter (whole ▸ member)
  · exact mem_of_mem_strAfter (mem_of_mem_strBefore (cut ▸ member))
  · exact mem_of_mem_strAfter (List.mem_of_mem_drop (mem_of_mem_strBefore (cut ▸ member)))

/-- The handlers of `PUBLISH=`, `UNPUBLISH=` and the offers cut the name at a `|`. -/
theorem bar_not_mem_name {s name : Str} {handed : Handed} (hands : hand s = .ok handed)
    (named : handed.name = some name)
    (cut : ∀ channel, handed ≠ .makeOfferTcp channel ∧ handed ≠ .makeOfferShm channel) :
    '|' ∉ name := by
  rcases name_cut hands named with ⟨_, tcp | shm⟩ | whole | whole
  · exact absurd tcp (cut name).1
  · exact absurd shm (cut name).2
  · rw [whole]
    exact not_mem_strBefore _ _
  · rw [whole]
    exact not_mem_strBefore _ _

/-! ## The messages -/

/-- What `publish()` and `broadcast_published_channels` write. -/
def publishMessage (n : Node) (c : ChanPtr) : Str :=
  "PUBLISH=".toList ++ n.channelString c

/-- What `unpublish()` writes. -/
def unpublishMessage (n : Node) (c : ChanPtr) : Str :=
  "UNPUBLISH=".toList ++ n.channelString c

/-- What `broadcast_hosts` writes when these are the entries of the table. -/
def hostsMessage (hosts : List Host) : Str :=
  (hosts.filter fun host => host.bReady).flatMap Mesh.hostLine

theorem publishChannel_writes {n : Node} {c : ChanPtr}
    (unpublished : (n.chan c).publisher ≠ some n.mesh.me) :
    n.publishChannel c = n.setPublisher c (some n.mesh.me) >>= fun set =>
      .ok (set.broadcast (set.publishMessage c)) :=
  if_neg unpublished

theorem unpublishChannel_writes (n : Node) (c : ChanPtr) :
    n.unpublishChannel c = n.setPublisher c none >>= fun set =>
      .ok (set.broadcast (set.unpublishMessage c)) :=
  rfl

/-- The offer names the port of the server there is, else of the one just made. -/
theorem offerTcp_writes (n : Node) (c : ChanPtr) (h : HostPtr) :
    ∃ server : DataServer, (∀ bound, (n.chan c).server = some bound → bound = server) ∧
      n.offerTcp c h = (n.setChan c fun channel => { channel with server := some server }).send h
        (offerTcpLine (n.chan c).name server.port) := by
  refine ⟨(n.chan c).server.getD ⟨n.bindPort c, h⟩, fun bound serves => ?_, ?_⟩
  · simp [serves]
  · rw [offerTcp, setChan_self]
    rfl

theorem connectTcp_writes {n : Node} {c : ChanPtr} {p : HostPtr}
    (unoffered : (n.chan c).offeredPort = 0) (published : (n.chan c).publisher = some p) :
    n.connectTcp c = .ok ((n.record (.connectTcp c (some p))).send p
      (connectTcpLine (n.chan c).name)) := by
  unfold connectTcp
  dsimp only
  rw [if_pos unoffered, published]
  rfl

theorem broadcastHosts_writes (m : Mesh) :
    m.broadcastHosts = m.broadcast (hostsMessage (m.hosts.map m.host)) := by
  unfold Mesh.broadcastHosts hostsMessage
  rw [List.filter_map, List.flatMap_map]
  rfl

/-- A line of the message, received whole, is handed out so. -/
def Carries (message : Str) (handed : Handed) : Prop :=
  ∃ line ∈ linesOf message, hand line = .ok handed

theorem lineSafe_of_mem_linesOf {message line : Str} (member : line ∈ linesOf message) :
    LineSafe line := by
  obtain ⟨_, clean⟩ := mem_pieces_clean member
  constructor
  · intro nul
    exact absurd (clean NUL nul) (by decide)
  · intro newline
    exact absurd (clean '\n' newline) (by decide)

/-- The name that a message carries has no line break. -/
theorem Carries.lineSafe {message name : Str} {handed : Handed} (carries : Carries message handed)
    (named : handed.name = some name) : LineSafe name := by
  obtain ⟨line, member, hands⟩ := carries
  have safe := lineSafe_of_mem_linesOf member
  have inside := mem_of_mem_name hands named
  exact ⟨fun nul => safe.1 (inside _ nul), fun newline => safe.2 (inside _ newline)⟩

theorem Carries.noBar {message name : Str} {handed : Handed} (carries : Carries message handed)
    (named : handed.name = some name)
    (cut : ∀ channel, handed ≠ .makeOfferTcp channel ∧ handed ≠ .makeOfferShm channel) :
    '|' ∉ name := by
  obtain ⟨line, _, hands⟩ := carries
  exact bar_not_mem_name hands named cut

/-- The first line of a text begins with what stands before its first line break. -/
theorem exists_first_line {start : Str} (nonempty : start ≠ []) (safe : LineSafe start)
    (rest : Str) : ∃ run, start ++ run ∈ linesOf (start ++ rest) := by
  have written : wire (start ++ rest) = start ++ wire rest := by
    unfold wire
    rw [List.takeWhile_append_of_pos, List.append_assoc]
    intro b member
    simp only [bne_iff_ne, ne_eq]
    exact fun same => safe.1 (same ▸ member)
  rw [linesOf, written]
  obtain ⟨first, later, whole⟩ := List.exists_cons_of_ne_nil
    (show wire rest ≠ [] by unfold wire; simp)
  rw [whole]
  cases kind : isDelimiter first with
  | true =>
      refine ⟨[], ?_⟩
      rw [pieces_run_delimiter nonempty safe.clean kind, List.append_nil]
      exact List.mem_cons_self
  | false =>
      obtain ⟨run, others, _, extended⟩ := exists_first_piece later kind
      refine ⟨first :: run, ?_⟩
      rw [extended start nonempty safe.clean]
      exact List.mem_cons_self

/-- `getType` is one of four letters. -/
theorem getType_lineSafe (n : Node) (c : ChanPtr) : LineSafe [n.getType c] := by
  unfold getType
  split
  · decide
  split
  · decide
  split <;> decide

theorem hand_publish {s : Str} (starts : strStartsWith s "PUBLISH=".toList = true) :
    hand s = statementName (strAfter s ['=']) >>= fun name => .ok (.publish
      ((strAfter s ['=']).headD NUL) name (strAfter (strAfter s ['=']) ['|'])) := by
  unfold hand
  dsimp only
  rw [if_neg (not_strStartsWith "ID=".toList starts (by decide)),
    if_neg (not_strStartsWith "YOU=".toList starts (by decide)),
    if_neg (ne_of_strStartsWith "CONNECTED".toList starts (by decide)),
    if_neg (not_strStartsWith "Host=".toList starts (by decide)),
    if_pos starts]
  rfl

theorem hand_unpublish {s : Str} (starts : strStartsWith s "UNPUBLISH=".toList = true) :
    hand s = statementName (strAfter s ['=']) >>= fun name =>
      .ok (.unpublish ((strAfter s ['=']).headD NUL) name) := by
  unfold hand
  dsimp only
  rw [if_neg (not_strStartsWith "ID=".toList starts (by decide)),
    if_neg (not_strStartsWith "YOU=".toList starts (by decide)),
    if_neg (ne_of_strStartsWith "CONNECTED".toList starts (by decide)),
    if_neg (not_strStartsWith "Host=".toList starts (by decide)),
    if_neg (not_strStartsWith "PUBLISH=".toList starts (by decide)),
    if_pos starts]
  rfl

theorem hand_connectTcp {s : Str} (starts : strStartsWith s "CONNECT_TCP=".toList = true) :
    hand s = .ok (.makeOfferTcp (strAfter s ['='])) := by
  unfold hand
  dsimp only
  rw [if_neg (not_strStartsWith "ID=".toList starts (by decide)),
    if_neg (not_strStartsWith "YOU=".toList starts (by decide)),
    if_neg (ne_of_strStartsWith "CONNECTED".toList starts (by decide)),
    if_neg (not_strStartsWith "Host=".toList starts (by decide)),
    if_neg (not_strStartsWith "PUBLISH=".toList starts (by decide)),
    if_neg (not_strStartsWith "UNPUBLISH=".toList starts (by decide)),
    if_pos starts]
  rfl

theorem hand_offerTcp {s : Str} (starts : strStartsWith s "OFFER_TCP=".toList = true) :
    hand s = .ok (.answerOfferTcp (strBefore (strAfter s ['=']) ['|'])
      (atoi (strAfter (strAfter s ['=']) ['|']))) := by
  unfold hand
  dsimp only
  rw [if_neg (not_strStartsWith "ID=".toList starts (by decide)),
    if_neg (not_strStartsWith "YOU=".toList starts (by decide)),
    if_neg (ne_of_strStartsWith "CONNECTED".toList starts (by decide)),
    if_neg (not_strStartsWith "Host=".toList starts (by decide)),
    if_neg (not_strStartsWith "PUBLISH=".toList starts (by decide)),
    if_neg (not_strStartsWith "UNPUBLISH=".toList starts (by decide)),
    if_neg (not_strStartsWith "CONNECT_TCP=".toList starts (by decide)),
    if_neg (not_strStartsWith "CONNECT_SHM=".toList starts (by decide)),
    if_pos starts]
  rfl

theorem hand_host {s : Str} (starts : strStartsWith s "Host=".toList = true) :
    hand s = .ok (.addHost (strBefore (strAfter s ['=']) [':'])
      (atoi (strAfter (strAfter s ['=']) [':']))) := by
  unfold hand
  dsimp only
  rw [if_neg (not_strStartsWith "ID=".toList starts (by decide)),
    if_neg (not_strStartsWith "YOU=".toList starts (by decide)),
    if_neg (ne_of_strStartsWith "CONNECTED".toList starts (by decide)),
    if_pos starts]
  rfl

theorem channelString_eq (n : Node) (c : ChanPtr) :
    ∃ text, n.channelString c = n.getType c :: ((n.chan c).name ++ '|' :: text) := by
  cases published : (n.chan c).publisher with
  | none => exact ⟨[], by simp [channelString, published]⟩
  | some p => exact ⟨Mesh.hostString (n.mesh.host p), by simp [channelString, published]⟩

/-- A message about a channel with a clean name has a line that keeps it whole. -/
theorem exists_stated_line {word : Str} (wordSafe : LineSafe word) {n : Node} {c : ChanPtr}
    (safe : LineSafe (n.chan c).name) :
    ∃ run, (word ++ ['=']) ++ n.getType c :: ((n.chan c).name ++ '|' :: run) ∈
      linesOf ((word ++ ['=']) ++ n.channelString c) := by
  obtain ⟨text, whole⟩ := n.channelString_eq c
  have start : LineSafe ((word ++ ['=']) ++ [n.getType c] ++ ((n.chan c).name ++ ['|'])) :=
    ((wordSafe.append (by decide)).append (n.getType_lineSafe c)).append
      (safe.append (by decide))
  obtain ⟨run, member⟩ := exists_first_line (by simp) start text
  refine ⟨run, ?_⟩
  rw [whole]
  simpa using member

/-- A statement with a clean name is cut where it was put together. -/
theorem statement_parts {word : Str} (noSeparator : '=' ∉ word) (type : Char) {name : Str}
    (noBar : '|' ∉ name) (run : Str) :
    strAfter ((word ++ ['=']) ++ type :: (name ++ '|' :: run)) ['='] =
        type :: (name ++ '|' :: run) ∧
      statementName (type :: (name ++ '|' :: run)) = .ok name := by
  constructor
  · rw [List.append_assoc, List.singleton_append, strAfter_separator noSeparator]
  · exact congrArg Except.ok (strBefore_separator noBar run)

theorem publishMessage_carries_iff (n : Node) (c : ChanPtr) :
    (∃ opts, Carries (n.publishMessage c) (.publish (n.getType c) (n.chan c).name opts)) ↔
      LineSafe (n.chan c).name ∧ '|' ∉ (n.chan c).name := by
  constructor
  · rintro ⟨opts, carries⟩
    exact ⟨carries.lineSafe rfl, carries.noBar rfl fun _ => ⟨nofun, nofun⟩⟩
  · rintro ⟨safe, noBar⟩
    have wordSafe : LineSafe "PUBLISH".toList := by decide
    obtain ⟨run, member⟩ := exists_stated_line wordSafe safe
    have noSeparator : '=' ∉ "PUBLISH".toList := by decide
    obtain ⟨payload, name⟩ := statement_parts noSeparator (n.getType c) noBar run
    have starts : strStartsWith (("PUBLISH".toList ++ ['=']) ++ n.getType c ::
        ((n.chan c).name ++ '|' :: run)) "PUBLISH=".toList = true :=
      strStartsWith_append "PUBLISH=".toList _
    refine ⟨strAfter (n.getType c :: ((n.chan c).name ++ '|' :: run)) ['|'], _, member, ?_⟩
    rw [hand_publish starts, payload, name]
    rfl

theorem unpublishMessage_carries_iff (n : Node) (c : ChanPtr) :
    Carries (n.unpublishMessage c) (.unpublish (n.getType c) (n.chan c).name) ↔
      LineSafe (n.chan c).name ∧ '|' ∉ (n.chan c).name := by
  constructor
  · intro carries
    exact ⟨carries.lineSafe rfl, carries.noBar rfl fun _ => ⟨nofun, nofun⟩⟩
  · rintro ⟨safe, noBar⟩
    have wordSafe : LineSafe "UNPUBLISH".toList := by decide
    obtain ⟨run, member⟩ := exists_stated_line wordSafe safe
    have noSeparator : '=' ∉ "UNPUBLISH".toList := by decide
    obtain ⟨payload, name⟩ := statement_parts noSeparator (n.getType c) noBar run
    have starts : strStartsWith (("UNPUBLISH".toList ++ ['=']) ++ n.getType c ::
        ((n.chan c).name ++ '|' :: run)) "UNPUBLISH=".toList = true :=
      strStartsWith_append "UNPUBLISH=".toList _
    refine ⟨_, member, ?_⟩
    rw [hand_unpublish starts, payload, name]
    rfl

theorem offerTcpLine_carries_iff (name : Str) (port : Int32) :
    Carries (offerTcpLine name port) (.answerOfferTcp name port) ↔
      LineSafe name ∧ '|' ∉ name := by
  constructor
  · intro carries
    exact ⟨carries.lineSafe rfl, carries.noBar rfl fun _ => ⟨nofun, nofun⟩⟩
  · rintro ⟨safe, noBar⟩
    obtain ⟨before, after⟩ := @decode_offerTcpLine name port noBar
    refine ⟨offerTcpLine name port, ?_, ?_⟩
    · rw [linesOf_offerTcpLine safe]
      exact List.mem_singleton_self _
    · rw [hand_offerTcp offerTcpLine_starts, before, after]

theorem connectTcpLine_carries_iff (name : Str) :
    Carries (connectTcpLine name) (.makeOfferTcp name) ↔ LineSafe name := by
  constructor
  · exact fun carries => carries.lineSafe rfl
  · intro safe
    refine ⟨connectTcpLine name, ?_, ?_⟩
    · rw [linesOf_connectTcpLine safe]
      exact List.mem_singleton_self _
    · rw [hand_connectTcp connectTcpLine_starts, strAfter_connectTcpLine]

/-- `handle_incoming_connection` behind its decoder. -/
def takeConnection (m : Mesh) (k : SockPtr) (id port : Int32) : Mesh :=
  match m.getHost (Mesh.localName (m.sock k).ip) port with
  | none => (m.newHostFrom (Mesh.localName (m.sock k).ip) port k).send m.host.next
      "CONNECTED".toList
  | some h =>
      if m.ID < id || (m.host h).bServer then m.adoptSocket h k
      else if id < m.ID then m.setSock k (·.close true)
      else m

/-- An `ID=` line arrives as one line and gives both decoders its two numbers. -/
theorem idLine_decoded (ID port : Int32) :
    linesOf (Mesh.idLine ID port) = [Mesh.idLine ID port] ∧
      hand (Mesh.idLine ID port) = .ok (.id ID port) ∧
      ∀ (m : Mesh) (k : SockPtr),
        m.handleIncomingConnection k (Mesh.idLine ID port) = takeConnection m k ID port := by
  refine ⟨Mesh.linesOf_idLine, ?_, ?_⟩
  · unfold hand
    dsimp only
    rw [if_pos Mesh.idLine_starts, Mesh.decodeId_idLine]
    rfl
  · intro m k
    have decoded : Mesh.decodeId (Mesh.idLine ID port) = (ID, port) := Mesh.decodeId_idLine
    calc m.handleIncomingConnection k (Mesh.idLine ID port)
        = takeConnection m k (Mesh.decodeId (Mesh.idLine ID port)).1
            (Mesh.decodeId (Mesh.idLine ID port)).2 := if_pos Mesh.idLine_starts
      _ = takeConnection m k ID port := by rw [decoded]

/-- The lines of `broadcast_hosts` are the ready hosts in their order. -/
theorem hostsMessage_lines {hosts : List Host}
    (safe : ∀ host ∈ hosts, LineSafe host.ip ∧ ':' ∉ host.ip) :
    (linesOf (hostsMessage hosts)).map hand = (hosts.filter fun host => host.bReady).map
      fun host => .ok (.addHost host.ip host.port) := by
  have ready : ∀ host ∈ hosts.filter fun host => host.bReady, LineSafe host.ip ∧ ':' ∉ host.ip :=
    fun host member => safe host (List.mem_filter.mp member).1
  rw [hostsMessage, Mesh.linesOf_hostLines fun host member => (ready host member).1, List.map_map]
  refine List.map_congr_left fun host member => ?_
  have noColon := (ready host member).2
  have split : Mesh.hostText host.ip host.port =
      "Host".toList ++ '=' :: (host.ip ++ ':' :: printInt host.port) := by
    rw [Mesh.hostText, List.append_assoc, List.append_assoc]
    rfl
  rw [Function.comp_apply, hand_host Mesh.hostText_starts, split,
    strAfter_separator (by decide), strBefore_separator noColon, strAfter_separator noColon,
    atoi_printInt]

/-- The functions that talk to the other hosts write these messages and nothing else. -/
def Writes (n : Node) : Prop :=
  (∀ c, (n.chan c).publisher ≠ some n.mesh.me →
    n.publishChannel c = n.setPublisher c (some n.mesh.me) >>= fun set =>
      .ok (set.broadcast (set.publishMessage c))) ∧
  (∀ c, n.unpublishChannel c = n.setPublisher c none >>= fun set =>
    .ok (set.broadcast (set.unpublishMessage c))) ∧
  (∀ c h, ∃ server : DataServer, (∀ bound, (n.chan c).server = some bound → bound = server) ∧
    n.offerTcp c h = (n.setChan c fun channel => { channel with server := some server }).send h
      (offerTcpLine (n.chan c).name server.port)) ∧
  (∀ c p, (n.chan c).offeredPort = 0 → (n.chan c).publisher = some p →
    n.connectTcp c = .ok ((n.record (.connectTcp c (some p))).send p
      (connectTcpLine (n.chan c).name))) ∧
  n.mesh.broadcastHosts = n.mesh.broadcast (hostsMessage (n.mesh.hosts.map n.mesh.host))

/-- A ready Host hands its lines out as `hand` says. The statements about a channel come
through if and only if its name has no line break and, where the handler cuts
the name at a `|`, no `|`; the handshake always; the gossip whenever the
addresses have neither a line break nor a `:`. -/
theorem messages_roundTrip :
    (∀ n : Node, n.Writes) ∧
    (∀ (n : Node) (h : HostPtr) (s : Str), (n.mesh.host h).bReady = true →
      n.onReceive h s = hand s >>= n.perform h) ∧
    (∀ (n : Node) (c : ChanPtr),
      ((∃ opts, Carries (n.publishMessage c) (.publish (n.getType c) (n.chan c).name opts)) ↔
        LineSafe (n.chan c).name ∧ '|' ∉ (n.chan c).name) ∧
      (Carries (n.unpublishMessage c) (.unpublish (n.getType c) (n.chan c).name) ↔
        LineSafe (n.chan c).name ∧ '|' ∉ (n.chan c).name)) ∧
    (∀ (name : Str) (port : Int32),
      (Carries (offerTcpLine name port) (.answerOfferTcp name port) ↔
        LineSafe name ∧ '|' ∉ name) ∧
      (Carries (connectTcpLine name) (.makeOfferTcp name) ↔ LineSafe name)) ∧
    (∀ ID port : Int32, linesOf (Mesh.idLine ID port) = [Mesh.idLine ID port] ∧
      hand (Mesh.idLine ID port) = .ok (.id ID port) ∧
      ∀ (m : Mesh) (k : SockPtr),
        m.handleIncomingConnection k (Mesh.idLine ID port) = takeConnection m k ID port) ∧
    ∀ hosts : List Host, (∀ host ∈ hosts, LineSafe host.ip ∧ ':' ∉ host.ip) →
      (linesOf (hostsMessage hosts)).map hand = (hosts.filter fun host => host.bReady).map
        fun host => .ok (.addHost host.ip host.port) := by
  refine ⟨fun n => ?_, fun n h s ready => onReceive_eq_perform ready s, fun n c => ?_,
    fun name port => ?_, idLine_decoded, fun hosts => hostsMessage_lines⟩
  · exact ⟨fun c => publishChannel_writes, n.unpublishChannel_writes, n.offerTcp_writes,
      fun c p => connectTcp_writes, broadcastHosts_writes n.mesh⟩
  · exact ⟨publishMessage_carries_iff n c, unpublishMessage_carries_iff n c⟩
  · exact ⟨offerTcpLine_carries_iff name port, connectTcpLine_carries_iff name⟩

end Node

end LibPubSub
