import LibPubSub.RoundTrip
import LibPubSub.Writes

/-! What the channels of a process write on its signaling sockets: one line at a time,
which tells about channels and takes no part in the handshake or in the table of
hosts, as long as the names of the channels fit into a line. -/

set_option autoImplicit false

namespace LibPubSub

open Fallible

/-- A line about a channel. -/
structure Statement (s : Str) : Prop where
  nonempty : s ≠ []
  safe : LineSafe s
  notId : strStartsWith s "ID=".toList = false
  notYou : strStartsWith s "YOU=".toList = false
  notConnected : s ≠ "CONNECTED".toList
  notHost : strStartsWith s "Host=".toList = false

/-- The words that the texts about channels start with. -/
inductive Word where
  | publish
  | unpublish
  | connectTcp
  | connectShm
  | offerTcp
  | offerShm

def Word.text : Word → Str
  | .publish => "PUBLISH=".toList
  | .unpublish => "UNPUBLISH=".toList
  | .connectTcp => "CONNECT_TCP=".toList
  | .connectShm => "CONNECT_SHM".toList
  | .offerTcp => "OFFER_TCP=".toList
  | .offerShm => "OFFER_SHM".toList

theorem Word.statement (word : Word) {rest : Str} (safe : LineSafe rest) :
    Statement (word.text ++ rest) := by
  have starts : strStartsWith (word.text ++ rest) word.text = true := strStartsWith_append _ _
  refine ⟨?_, ?_, ?_, ?_, ?_, ?_⟩
  · cases word <;> exact nofun
  · exact LineSafe.append (by cases word <;> decide) safe
  · exact strStartsWith_eq_false starts (by cases word <;> decide)
  · exact strStartsWith_eq_false starts (by cases word <;> decide)
  · intro same
    rw [same] at starts
    revert starts
    cases word <;> decide
  · exact strStartsWith_eq_false starts (by cases word <;> decide)

theorem Statement.linesOf {s : Str} (statement : Statement s) : linesOf s = [s] :=
  linesOf_lineSafe statement.nonempty statement.safe

theorem lineSafe_digits (k : Nat) : LineSafe (Nat.toDigits 10 k) := by
  constructor
  · exact fun member => absurd (isDigit_of_mem_toDigits member) (by decide)
  · exact fun member => absurd (isDigit_of_mem_toDigits member) (by decide)

namespace Node

/-- The names of all channels, and the address that the process knows itself by, fit into
a line. -/
structure Clean (n : Node) : Prop where
  names : ∀ c, LineSafe (n.chan c).name
  address : LineSafe (n.mesh.host n.mesh.me).ip

/-- Nothing happens to the table of hosts, and what is written are statements to Hosts. -/
structure Chats (n n' : Node) : Prop where
  table : n'.mesh.table = n.mesh.table
  sent : ∃ added, n'.mesh.sent = n.mesh.sent ++ added ∧ ∀ entry ∈ added,
    (∃ h, n.mesh.voice h = some (entry.1, entry.2.1)) ∧ Statement entry.2.2
  clean : n'.Clean

namespace Chats

variable {n mid n' : Node}

theorem of_mesh (clean : n.Clean) (mesh : n'.mesh = n.mesh)
    (names : ∀ c, (n'.chan c).name = (n.chan c).name) : Chats n n' := by
  refine ⟨by rw [mesh], ⟨[], by rw [mesh, List.append_nil], nofun⟩, ⟨fun c => ?_, ?_⟩⟩
  · rw [names]
    exact clean.names c
  · rw [mesh]
    exact clean.address

theorem refl (clean : n.Clean) : Chats n n :=
  of_mesh clean rfl fun _ => rfl

theorem trans (first : Chats n mid) (second : Chats mid n') : Chats n n' := by
  obtain ⟨added, sent, said⟩ := first.sent
  obtain ⟨more, sent', said'⟩ := second.sent
  refine ⟨second.table.trans first.table, ⟨added ++ more, ?_, ?_⟩, second.clean⟩
  · rw [sent', sent, List.append_assoc]
  · intro entry member
    rcases List.mem_append.mp member with member | member
    · exact said entry member
    · obtain ⟨⟨h, voice⟩, statement⟩ := said' entry member
      rw [Mesh.voice_of_table first.table] at voice
      exact ⟨⟨h, voice⟩, statement⟩

theorem send (clean : n.Clean) (h : HostPtr) {s : Str} (statement : Statement s) :
    Chats n (n.send h s) := by
  refine ⟨n.mesh.table_send h s, ⟨utter (n.mesh.voice h) s, ?_, ?_⟩, clean.names, ?_⟩
  · exact congrArg Mesh.sent (n.mesh.send_eq h s)
  · intro entry member
    obtain ⟨v, isVoice, rfl⟩ := List.mem_map.mp member
    exact ⟨⟨h, Option.mem_toList.mp isVoice⟩, statement⟩
  · have table := n.mesh.table_send h s
    change LineSafe ((n.mesh.send h s).host (n.mesh.send h s).me).ip
    rw [Mesh.host_of_table table, Mesh.me_of_table table]
    exact clean.address

theorem broadcast (clean : n.Clean) {s : Str} (statement : Statement s) :
    Chats n (n.broadcast s) := by
  refine ⟨n.mesh.table_broadcast s, ⟨_, congrArg Mesh.sent (n.mesh.broadcast_eq s), ?_⟩,
    clean.names, ?_⟩
  · intro entry member
    obtain ⟨h, _, member⟩ := List.mem_flatMap.mp member
    obtain ⟨v, isVoice, rfl⟩ := List.mem_map.mp member
    exact ⟨⟨h, Option.mem_toList.mp isVoice⟩, statement⟩
  · have table := n.mesh.table_broadcast s
    change LineSafe ((n.mesh.broadcast s).host (n.mesh.broadcast s).me).ip
    rw [Mesh.host_of_table table, Mesh.me_of_table table]
    exact clean.address

theorem foldlM {items : List SubPtr} {round : Node → SubPtr → Result Node} (clean : n.Clean)
    (ran : items.foldlM round n = .ok n')
    (each : ∀ n n' s, n.Clean → round n s = .ok n' → Chats n n') : Chats n n' :=
  foldlM_invariant ran (refl clean) fun state s next _ before stepped =>
    before.trans (each state next s before.clean stepped)

end Chats

/-! ## Connecting -/

variable {n n' : Node} {c : ChanPtr}

theorem subConnectTcp_chats {s : SubPtr} (clean : n.Clean) (ran : n.subConnectTcp s = .ok n') :
    Chats n n' := by
  obtain ⟨sub, _, ⟨_, rfl⟩ | ⟨_, publisher, _, rfl⟩⟩ := subConnectTcp_cases ran
  · exact .refl clean
  · exact .of_mesh clean rfl fun _ => rfl

theorem subConnectShm_chats {s : SubPtr} (clean : n.Clean) (ran : n.subConnectShm s = .ok n') :
    Chats n n' := by
  obtain ⟨sub, _, ⟨_, rfl⟩ | ⟨_, rfl⟩⟩ := subConnectShm_cases ran
  · exact .refl clean
  · exact .of_mesh clean rfl fun _ => rfl

theorem record_chats (clean : n.Clean) (call : Call) : Chats n (n.record call) :=
  .of_mesh clean rfl fun _ => rfl

theorem connectTcp_chats (clean : n.Clean) (ran : n.connectTcp c = .ok n') : Chats n n' := by
  have recorded := record_chats clean (.connectTcp c (n.chan c).publisher)
  rcases connectTcp_cases ran with ⟨_, p, _, rfl⟩ | ⟨_, dialled⟩
  · exact recorded.trans (.send recorded.clean p (Word.connectTcp.statement (clean.names c)))
  · exact recorded.trans (.foldlM recorded.clean dialled fun _ _ _ => subConnectTcp_chats)

theorem connectShm_chats (clean : n.Clean) (ran : n.connectShm c = .ok n') : Chats n n' := by
  have recorded := record_chats clean (.connectShm c (n.chan c).publisher)
  rcases connectShm_cases ran with ⟨_, p, _, rfl⟩ | ⟨_, mapped⟩
  · exact recorded.trans (.send recorded.clean p (Word.connectShm.statement (clean.names c)))
  · exact recorded.trans (.foldlM recorded.clean mapped fun _ _ _ => subConnectShm_chats)

theorem connect_chats (clean : n.Clean) (ran : n.connect c = .ok n') : Chats n n' := by
  rcases connect_cases ran with ⟨rfl, _⟩ | ⟨p, _, _, _, ⟨_, ran⟩ | ⟨_, ran⟩⟩
  · exact .refl clean
  · exact connectShm_chats clean ran
  · exact connectTcp_chats clean ran

theorem setPublisher_chats {p : Option HostPtr} (clean : n.Clean)
    (ran : n.setPublisher c p = .ok n') : Chats n n' := by
  obtain ⟨mid, closed, connected⟩ := setPublisher_cases ran
  have closing := disconnectOther_closing closed
  have first : Chats n mid :=
    .of_mesh clean closing.mesh fun d => ChannelImpl.name_of_core (closing.core d)
  have second : Chats mid (mid.replacePublisher c p) := by
    refine .of_mesh first.clean rfl fun d => ?_
    by_cases same : d = c
    · rw [same, replacePublisher_chan]
    · rw [replacePublisher_chan_of_ne _ _ same]
  refine (first.trans second).trans ?_
  unfold connectWanted at connected
  split at connected
  · exact connect_chats second.clean connected
  · rw [← pure_eq_ok.mp connected]
    exact .refl second.clean

/-! ## Calls -/

theorem lineSafe_channelString (clean : n.Clean)
    (publisher : (n.chan c).publisher = some n.mesh.me ∨ (n.chan c).publisher = none) :
    LineSafe (n.channelString c) := by
  have letter : LineSafe [n.getType c] := by
    unfold getType
    split
    · decide
    · split
      · decide
      · split <;> decide
  have bar : LineSafe "|".toList := by decide
  have colon : LineSafe ":".toList := by decide
  have start : LineSafe (n.getType c :: (n.chan c).name ++ "|".toList) :=
    (letter.append (clean.names c)).append bar
  unfold channelString
  rcases publisher with isMe | none
  · rw [isMe]
    exact start.append ((clean.address.append colon).append (lineSafe_printInt _))
  · have nothing : LineSafe [] := by decide
    rw [none]
    exact start.append nothing

theorem getOrCreateChannel_chats {name : Str} (clean : n.Clean) (safe : LineSafe name) :
    Chats n (n.getOrCreateChannel name).1 := by
  have created := n.getOrCreateChannel_created name
  refine ⟨by rw [created.mesh], ⟨[], by rw [created.mesh, List.append_nil], nofun⟩, fun d => ?_, ?_⟩
  · by_cases same : d = (n.getOrCreateChannel name).2
    · rw [same, created.named]
      exact safe
    · rw [created.other d same]
      exact clean.names d
  · rw [created.mesh]
    exact clean.address

theorem publish_chats {name : Str} (clean : n.Clean) (safe : LineSafe name)
    (ran : n.publish name = .ok n') : Chats n n' := by
  have created := getOrCreateChannel_chats clean safe
  obtain ⟨mid, c, same, isCreated, ⟨_, rfl⟩ | ⟨_, set, published, rfl⟩⟩ := publish_cases ran
  · rw [same] at created
    exact created
  · rw [same] at created
    have publishing := setPublisher_chats created.clean published
    refine (created.trans publishing).trans (.broadcast publishing.clean ?_)
    refine Word.publish.statement (lineSafe_channelString publishing.clean (.inl ?_))
    have isMe := (setPublisher_spec published).publisher c
    rw [if_pos rfl] at isMe
    rw [isMe, Mesh.me_of_table publishing.table, isCreated.mesh]

theorem unpublish_chats {name : Str} (clean : n.Clean) (ran : n.unpublish name = .ok n') :
    Chats n n' := by
  unfold unpublish at ran
  split at ran
  · next c found =>
    obtain ⟨set, unpublished, rest⟩ := bind_eq_ok.mp ran
    have unpublishing := setPublisher_chats clean unpublished
    rw [← pure_eq_ok.mp rest]
    refine unpublishing.trans (.broadcast unpublishing.clean ?_)
    refine Word.unpublish.statement (lineSafe_channelString unpublishing.clean (.inr ?_))
    have isNone := (setPublisher_spec unpublished).publisher c
    rwa [if_pos rfl] at isNone
  · rw [← pure_eq_ok.mp ran]
    exact .refl clean

theorem addSubscription_chats (clean : n.Clean) (c : ChanPtr) : Chats n (n.addSubscription c) :=
  .of_mesh clean rfl fun d => ChannelImpl.name_of_core (n.addSubscription_core c d)

theorem subscribe_chats {name : Str} (clean : n.Clean) (safe : LineSafe name)
    (ran : n.subscribe name = .ok n') : Chats n n' := by
  have created := getOrCreateChannel_chats clean safe
  obtain ⟨mid, c, same, _, connected⟩ := subscribe_cases ran
  rw [same] at created
  have added := addSubscription_chats created.clean c
  exact (created.trans added).trans (connect_chats added.clean connected)

/-- The channels of a process are announced. -/
theorem broadcastPublishedChannels_chats (clean : n.Clean) : Chats n n.broadcastPublishedChannels := by
  unfold broadcastPublishedChannels
  generalize n.channels = channels
  induction channels generalizing n with
  | nil => exact .refl clean
  | cons c channels ih =>
      rw [List.foldl_cons]
      split
      · next isMe =>
        have said : Chats n (n.broadcast ("PUBLISH=".toList ++ n.channelString c)) :=
          .broadcast clean (Word.publish.statement (lineSafe_channelString clean (.inl isMe)))
        exact said.trans (ih said.clean)
      · exact ih clean

/-- Without a publisher there is nothing to connect to. -/
theorem setPublisher_none_mesh (ran : n.setPublisher c none = .ok n') : n'.mesh = n.mesh := by
  obtain ⟨mid, closed, connected⟩ := setPublisher_cases ran
  unfold connectWanted at connected
  rw [replacePublisher_chan, if_neg fun wanted => nomatch wanted.2] at connected
  rw [← pure_eq_ok.mp connected]
  exact (disconnectOther_closing closed).mesh

/-- `close_all_channels` writes nothing. -/
theorem closeAllChannels_chats {h : HostPtr} (clean : n.Clean)
    (ran : n.closeAllChannels h = .ok n') :
    n'.mesh = n.mesh ∧ n'.Clean := by
  let kept (state : Node) := state.mesh = n.mesh ∧ state.Clean
  have initial : kept n := ⟨rfl, clean⟩
  have final : kept n' := by
    refine foldlM_invariant ran initial fun state c next _ before closed => ?_
    split at closed
    · exact ⟨(setPublisher_none_mesh closed).trans before.1, (setPublisher_chats before.2 closed).clean⟩
    · rw [← pure_eq_ok.mp closed]
      exact before
  exact final

/-! ## Statements -/

theorem lineSafe_of_mem {s part : Str} (safe : LineSafe s) (inside : ∀ b ∈ part, b ∈ s) :
    LineSafe part :=
  ⟨fun member => safe.1 (inside _ member), fun member => safe.2 (inside _ member)⟩

theorem offerTcp_chats (clean : n.Clean) (c : ChanPtr) (h : HostPtr) : Chats n (n.offerTcp c h) := by
  unfold offerTcp
  generalize (n.chan c).server.getD ⟨n.bindPort c, h⟩ = server
  have kept : Chats n (n.setChan c fun channel => { channel with server := some server }) := by
    refine .of_mesh clean rfl fun d => ?_
    simp only [setChan, Heap.modify_apply]
    split
    · next same => rw [same]
    · rfl
  refine kept.trans (.send kept.clean h ?_)
  rw [List.append_assoc, List.append_assoc]
  have bar : LineSafe "|".toList := by decide
  exact Word.offerTcp.statement ((kept.clean.names c).append (bar.append (lineSafe_printInt _)))

theorem offerShm_chats (clean : n.Clean) (c : ChanPtr) (h : HostPtr) : Chats n (n.offerShm c h) := by
  unfold offerShm
  have kept : Chats n (n.setChan c fun channel =>
      { channel with offeredShmPath := channel.name }) := by
    refine .of_mesh clean rfl fun d => ?_
    simp only [setChan, Heap.modify_apply]
    split
    · next same => rw [same]
    · rfl
  refine kept.trans (.send kept.clean h ?_)
  have path : ((n.setChan c fun channel =>
      { channel with offeredShmPath := channel.name }).chan c).offeredShmPath = (n.chan c).name := by
    rw [setChan_self]
  rw [path, List.append_assoc, List.append_assoc, List.append_assoc, List.append_assoc]
  have bar : LineSafe "|".toList := by decide
  exact Word.offerShm.statement ((kept.clean.names c).append (bar.append
    ((clean.names c).append (bar.append (lineSafe_digits _)))))

theorem digest_chats {h : HostPtr} {s : Str} (clean : n.Clean) (safe : LineSafe s)
    (ran : n.digestMessage h s = .ok n') : Chats n n' := by
  have kept (change : ChannelImpl → ChannelImpl) (name : ∀ channel, (change channel).name = channel.name)
      {n : Node} (clean : n.Clean) (c : ChanPtr) : Chats n (n.setChan c change) := by
    refine .of_mesh clean rfl fun d => ?_
    simp only [setChan, Heap.modify_apply]
    split
    · next same => rw [same, name]
    · rfl
  cases digest_effect ran with
  | publish starts ran =>
      obtain ⟨name, named, mid, c, same, _, set⟩ := applyPublishStatement_cases ran
      have safeName : LineSafe name := by
        refine lineSafe_of_mem safe fun b member => ?_
        rw [statementName_eq_ok named] at member
        exact mem_of_mem_strAfter (List.mem_of_mem_drop (mem_of_mem_strBefore member))
      have created := getOrCreateChannel_chats clean safeName
      rw [same] at created
      rcases set with ⟨_, set⟩ | ⟨_, rfl | ⟨_, _, set⟩⟩
      · exact created.trans (setPublisher_chats created.clean set)
      · exact created
      · exact created.trans (setPublisher_chats created.clean set)
  | unpublish starts ran =>
      obtain ⟨name, _, ⟨_, rfl⟩ | ⟨c, _, set⟩⟩ := applyUnpublishStatement_cases ran
      · exact .refl clean
      · exact setPublisher_chats clean set
  | connectTcp starts result =>
      rw [result]
      unfold makeOfferTcp
      split
      · exact offerTcp_chats clean _ h
      · exact .refl clean
  | connectShm starts result =>
      rw [result]
      unfold makeOfferShm
      split
      · exact offerShm_chats clean _ h
      · exact .refl clean
  | offerTcp starts ran =>
      unfold answerOfferTcp at ran
      dsimp only at ran
      split at ran
      · next c found =>
        have recorded := record_chats clean
          (.offeredTcp h c (atoi (strAfter (strAfter s ['=']) ['|'])))
        have taken := kept (fun channel =>
          { channel with offeredPort := atoi (strAfter (strAfter s ['=']) ['|']) }) (fun _ => rfl)
          recorded.clean c
        exact (recorded.trans taken).trans (connectTcp_chats taken.clean ran)
      · rw [← pure_eq_ok.mp ran]
        exact .refl clean
  | offerShm starts ran =>
      unfold answerOfferShm at ran
      dsimp only at ran
      split at ran
      · next c found =>
        have recorded := record_chats clean
          (.offeredShm h c (decodeShm (strAfter (strAfter s ['=']) ['|'])))
        have taken := kept (fun channel =>
          { channel with
            offeredShmPath := (decodeShm (strAfter (strAfter s ['=']) ['|'])).path
            size := (decodeShm (strAfter (strAfter s ['=']) ['|'])).size }) (fun _ => rfl)
          recorded.clean c
        exact (recorded.trans taken).trans (connectShm_chats taken.clean ran)
      · rw [← pure_eq_ok.mp ran]
        exact .refl clean
  | unknown same =>
      rw [same]
      exact .refl clean

/-! ## Data connections -/

theorem dataConnected_chats {k : SockPtr} {conn : ConnId} (clean : n.Clean)
    (ran : n.dataConnected k conn = .ok n') : Chats n n' := by
  unfold dataConnected at ran
  dsimp only at ran
  split at ran
  · obtain ⟨sub, _, rest⟩ := bind_eq_ok.mp ran
    rw [← pure_eq_ok.mp rest]
    exact .of_mesh clean rfl fun _ => rfl
  · rw [← pure_eq_ok.mp ran]
    exact .of_mesh clean rfl fun _ => rfl

theorem dataEof_chats {k : SockPtr} (clean : n.Clean) (ran : n.dataEof k = .ok n') :
    Chats n n' := by
  obtain ⟨closed, left, rest⟩ := bind_eq_ok.mp ran
  rw [← pure_eq_ok.mp rest]
  unfold dataClosed at left
  split at left
  · have closing := (closing_setDataSock n k _).trans (subOnClose_closing left)
    refine .of_mesh clean closing.mesh fun c => ?_
    exact ChannelImpl.name_of_core (closing.core c)
  · rw [← pure_eq_ok.mp left]
    exact .of_mesh clean rfl fun _ => rfl

theorem acceptSubscriptor_chats (clean : n.Clean) (c : ChanPtr) (ip : Str) (port : Int32)
    (conn : ConnId) : Chats n (n.acceptSubscriptor c ip port conn) := by
  refine .of_mesh clean ?_ fun d => ChannelImpl.name_of_core (n.acceptSubscriptor_core c ip port conn d)
  unfold acceptSubscriptor
  split <;> rfl

end Node

end LibPubSub
