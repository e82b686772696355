import LibPubSub.Chatter
import LibPubSub.Registry

/-! Who serves a channel. `serving_effect` lists the reactions that answer a request or
accept a data connection; all others send no offer, add no subscriptor and leave the
data servers alone. -/

set_option autoImplicit false

namespace LibPubSub

open Fallible Transition

/-- A text of `offer_tcp` or `offer_shm`. -/
def Offer (text : Str) : Prop :=
  strStartsWith text Word.offerTcp.text = true ∨ strStartsWith text Word.offerShm.text = true

theorem not_offer {text start : Str} (starts : strStartsWith text start = true)
    (tcp : ¬ start <+: Word.offerTcp.text ∧ ¬ Word.offerTcp.text <+: start)
    (shm : ¬ start <+: Word.offerShm.text ∧ ¬ Word.offerShm.text <+: start) : ¬ Offer text := by
  intro offer
  cases offer with
  | inl isTcp => exact Bool.false_ne_true ((strStartsWith_eq_false starts tcp).symm.trans isTcp)
  | inr isShm => exact Bool.false_ne_true ((strStartsWith_eq_false starts shm).symm.trans isShm)

theorem not_offer_publish (rest : Str) : ¬ Offer ("PUBLISH=".toList ++ rest) :=
  not_offer (strStartsWith_append _ _) (by decide) (by decide)

theorem not_offer_unpublish (rest : Str) : ¬ Offer ("UNPUBLISH=".toList ++ rest) :=
  not_offer (strStartsWith_append _ _) (by decide) (by decide)

theorem not_offer_connectTcp (rest : Str) : ¬ Offer ("CONNECT_TCP=".toList ++ rest) :=
  not_offer (strStartsWith_append _ _) (by decide) (by decide)

theorem not_offer_connectShm (rest : Str) : ¬ Offer ("CONNECT_SHM".toList ++ rest) :=
  not_offer (strStartsWith_append _ _) (by decide) (by decide)

theorem not_offer_connected : ¬ Offer "CONNECTED".toList :=
  not_offer (strStartsWith_append "CONNECTED".toList []) (by decide) (by decide)

theorem not_offer_nil : ¬ Offer [] := by
  unfold Offer
  decide

theorem hostLine_append (host : Host) (rest : Str) : Mesh.hostLine host ++ rest =
    "Host=".toList ++ (host.ip ++ (":".toList ++ (printInt host.port ++ (['\n'] ++ rest)))) := by
  unfold Mesh.hostLine
  simp only [List.append_assoc]

theorem not_offer_hosts (host : HostPtr → Host) (hosts : List HostPtr) :
    ¬ Offer (hosts.flatMap fun h => Mesh.hostLine (host h)) := by
  cases hosts with
  | nil => exact not_offer_nil
  | cons h hosts =>
      rw [List.flatMap_cons, hostLine_append]
      exact not_offer (strStartsWith_append _ _) (by decide) (by decide)

/-! ## The mesh offers nothing -/

namespace Mesh

/-- No offer was written. -/
def Mute (m m' : Mesh) : Prop :=
  ∃ added, m'.sent = m.sent ++ added ∧ ∀ entry ∈ added, ¬ Offer entry.2.2

variable {m m' : Mesh} {s : Str}

theorem mute_of_sent (same : m'.sent = m.sent) : Mute m m' :=
  ⟨[], by rw [same, List.append_nil], nofun⟩

theorem Mute.trans {mid : Mesh} (first : Mute m mid) (second : Mute mid m') : Mute m m' := by
  obtain ⟨added, sent, silent⟩ := first
  obtain ⟨more, sent', silent'⟩ := second
  refine ⟨added ++ more, by rw [sent', sent, List.append_assoc], ?_⟩
  intro entry member
  cases List.mem_append.mp member with
  | inl member => exact silent entry member
  | inr member => exact silent' entry member

theorem mute_write (k : SockPtr) (notOffer : ¬ Offer s) : Mute m (m.write k s) := by
  unfold write
  split
  · refine ⟨_, rfl, ?_⟩
    intro entry member
    cases List.mem_singleton.mp member
    exact notOffer
  · exact mute_of_sent rfl

theorem mute_send (h : HostPtr) (notOffer : ¬ Offer s) : Mute m (m.send h s) := by
  unfold send
  split
  · exact mute_of_sent rfl
  · split
    · exact mute_of_sent rfl
    · exact mute_write _ notOffer

theorem mute_broadcast (notOffer : ¬ Offer s) : Mute m (m.broadcast s) := by
  unfold broadcast
  generalize m.peers = peers
  induction peers generalizing m with
  | nil => exact mute_of_sent rfl
  | cons h peers ih =>
      rw [List.foldl_cons]
      split
      · exact (mute_send h notOffer).trans ih
      · exact ih

theorem mute_welcome (h : HostPtr) : Mute m (m.welcome h) := by
  unfold welcome
  split
  · exact mute_of_sent rfl
  · split
    · exact mute_of_sent rfl
    · have connecting : Mute m (m.setHost h fun host => { host with bConnecting := true }) :=
        mute_of_sent rfl
      refine (connecting.trans (mute_write _ ?_)).trans (mute_write _ ?_)
      · exact not_offer idLine_starts (by decide) (by decide)
      · exact not_offer youLine_starts (by decide) (by decide)

theorem mute_setSocket (h : HostPtr) (k : SockPtr) : Mute m (m.setSocket h k) := by
  unfold setSocket
  dsimp only
  split
  · exact Mute.trans (mute_of_sent rfl) (mute_welcome h)
  · exact mute_of_sent rfl

theorem sent_pushUnlessKnown (known : Bool) (h : HostPtr) :
    (m.pushUnlessKnown known h).sent = m.sent := by
  unfold pushUnlessKnown
  split <;> rfl

theorem mute_addHost (ip : Str) (port : Int32) : Mute m (m.addHost ip port) := by
  unfold addHost
  split
  · exact mute_of_sent rfl
  · refine Mute.trans (Mute.trans (mute_of_sent ?_) (mute_setSocket _ _)) (mute_of_sent rfl)
    exact sent_pushUnlessKnown _ _

theorem mute_adoptSocket (h : HostPtr) (k : SockPtr) : Mute m (m.adoptSocket h k) := by
  have dropped : Mute m (m.dropSocket h) := by
    unfold dropSocket
    split <;> exact mute_of_sent rfl
  have server : Mute (m.dropSocket h)
      ((m.dropSocket h).setHost h fun host => { host with bServer := true }) := mute_of_sent rfl
  have adopted := (dropped.trans server).trans (mute_setSocket h k)
  unfold adoptSocket
  dsimp only
  split
  · exact adopted
  · exact adopted.trans (mute_send h not_offer_connected)

theorem mute_handleIncomingConnection (k : SockPtr) (s : Str) :
    Mute m (m.handleIncomingConnection k s) := by
  unfold handleIncomingConnection
  split
  · dsimp only
    split
    · refine Mute.trans ?_ (mute_send _ not_offer_connected)
      unfold newHostFrom
      refine Mute.trans (mute_of_sent ?_) (mute_setSocket _ _)
      exact sent_pushUnlessKnown _ _
    · split
      · exact mute_adoptSocket _ _
      · split <;> exact mute_of_sent rfl
  · exact mute_of_sent rfl

end Mesh

namespace Node

/-- Nobody was offered a channel and no data server accepted a connection. -/
structure KeepsServing (n n' : Node) : Prop where
  mute : Mesh.Mute n.mesh n'.mesh
  chanNext : n.chan.next ≤ n'.chan.next
  server : ∀ c, (n'.chan c).server = (n.chan c).server ∨
    (n.chan.next ≤ c ∧ (n'.chan c).server = none)
  subscriptors : ∀ c s, s ∈ (n'.chan c).subscriptors → s ∈ (n.chan c).subscriptors
  subNext : n.sub.next ≤ n'.sub.next
  host : ∀ s < n.sub.next, ∀ sub', n'.sub s = some sub' →
    ∃ sub, n.sub s = some sub ∧ sub.host = sub'.host

namespace KeepsServing

variable {n mid n' : Node}

theorem trans (first : KeepsServing n mid) (second : KeepsServing mid n') :
    KeepsServing n n' := by
  refine ⟨first.mute.trans second.mute, Nat.le_trans first.chanNext second.chanNext, ?_, ?_,
    Nat.le_trans first.subNext second.subNext, ?_⟩
  · intro c
    cases second.server c with
    | inl same =>
        rw [same]
        exact first.server c
    | inr made => exact .inr ⟨Nat.le_trans first.chanNext made.1, made.2⟩
  · exact fun c s member => first.subscriptors c s (second.subscriptors c s member)
  · intro s old sub' found
    obtain ⟨sub, found, same⟩ := second.host s (Nat.lt_of_lt_of_le old first.subNext) sub' found
    obtain ⟨first, found, same'⟩ := first.host s old sub found
    exact ⟨first, found, same'.trans same⟩

/-- Neither channels nor subscriptions are concerned. -/
theorem of_mesh (mute : Mesh.Mute n.mesh n'.mesh) (chan : n'.chan = n.chan)
    (sub : n'.sub = n.sub) : KeepsServing n n' := by
  refine ⟨mute, by rw [chan], fun c => .inl (by rw [chan]), fun c s => ?_, by rw [sub], ?_⟩
  · rw [chan]
    exact id
  · intro s _ sub' found
    rw [sub] at found
    exact ⟨sub', found, rfl⟩

theorem refl (n : Node) : KeepsServing n n :=
  of_mesh (Mesh.mute_of_sent rfl) rfl rfl

theorem send (n : Node) (h : HostPtr) {s : Str} (notOffer : ¬ Offer s) :
    KeepsServing n (n.send h s) :=
  of_mesh (Mesh.mute_send h notOffer) rfl rfl

theorem broadcast (n : Node) {s : Str} (notOffer : ¬ Offer s) :
    KeepsServing n (n.broadcast s) :=
  of_mesh (Mesh.mute_broadcast notOffer) rfl rfl

theorem record (n : Node) (call : Call) : KeepsServing n (n.record call) :=
  of_mesh (Mesh.mute_of_sent rfl) rfl rfl

theorem setDataSock (n : Node) (k : SockPtr) (change : TCPSocket SubPtr → TCPSocket SubPtr) :
    KeepsServing n (n.setDataSock k change) :=
  of_mesh (Mesh.mute_of_sent rfl) rfl rfl

theorem setChan (n : Node) (c : ChanPtr) {change : ChannelImpl → ChannelImpl}
    (server : ∀ channel, (change channel).server = channel.server)
    (subscriptors : ∀ channel, (change channel).subscriptors ⊆ channel.subscriptors) :
    KeepsServing n (n.setChan c change) := by
  refine ⟨Mesh.mute_of_sent rfl, Nat.le_refl _, fun d => .inl ?_, fun d s => ?_, Nat.le_refl _,
    fun s _ sub' found => ⟨sub', found, rfl⟩⟩
  · simp only [Node.setChan, Heap.modify_apply]
    split
    · next same => rw [server, same]
    · rfl
  · simp only [Node.setChan, Heap.modify_apply]
    split
    · next same =>
      rw [same]
      exact fun member => subscriptors _ member
    · exact id

theorem setSub (n : Node) (s : SubPtr) {change : SubscriptionImpl → SubscriptionImpl}
    (host : ∀ sub, (change sub).host = sub.host) : KeepsServing n (n.setSub s change) := by
  refine ⟨Mesh.mute_of_sent rfl, Nat.le_refl _, fun c => .inl rfl, fun c t => id, Nat.le_refl _,
    fun t _ sub' found => ?_⟩
  simp only [Node.setSub, Heap.modify_apply] at found
  split at found
  · next same =>
    rw [← same] at found
    obtain ⟨sub, before, rfl⟩ := Option.map_eq_some_iff.mp found
    exact ⟨sub, before, (host sub).symm⟩
  · exact ⟨sub', found, rfl⟩

theorem foldlM {α : Type} {items : List α} {round : Node → α → Result Node}
    (ran : items.foldlM round n = .ok n')
    (each : ∀ n n' a, round n a = .ok n' → KeepsServing n n') : KeepsServing n n' :=
  foldlM_invariant ran (refl n) fun state a next _ before stepped =>
    before.trans (each state next a stepped)

end KeepsServing

/-! ## Connecting and closing -/

variable {n n' : Node} {c : ChanPtr} {s : SubPtr}

theorem subOnOpen_keepsServing (ran : n.subOnOpen s = .ok n') : KeepsServing n n' := by
  obtain ⟨sub, _, rest⟩ := bind_eq_ok.mp ran
  rw [← pure_eq_ok.mp rest]
  exact .setSub n s fun _ => rfl

theorem dial_keepsServing (n : Node) (s : SubPtr) (c : ChanPtr) (publisher : HostPtr) :
    KeepsServing n (n.dial s c publisher) := by
  let socket : TCPSocket SubPtr := { listeners := some s }
  let made : Node := { n with
    dataSock := n.dataSock.alloc
      (socket.connect (n.mesh.host publisher).ip (n.chan c).offeredPort) }
  have first : KeepsServing n made := .of_mesh (Mesh.mute_of_sent rfl) rfl rfl
  have second : KeepsServing made (made.setSub s fun sub =>
      { sub with socket := some n.dataSock.next, transport := .tcp }) :=
    .setSub made s fun _ => rfl
  exact (first.trans second).trans (.record _ _)

theorem subConnectTcp_keepsServing (ran : n.subConnectTcp s = .ok n') : KeepsServing n n' := by
  obtain ⟨sub, _, ⟨_, rfl⟩ | ⟨_, publisher, _, rfl⟩⟩ := subConnectTcp_cases ran
  · exact .refl n'
  · exact dial_keepsServing n s sub.channel publisher

theorem subConnectShm_keepsServing (ran : n.subConnectShm s = .ok n') : KeepsServing n n' := by
  obtain ⟨sub, _, ⟨_, rfl⟩ | ⟨_, rfl⟩⟩ := subConnectShm_cases ran
  · exact .refl n'
  · have mapped : KeepsServing n (n.setSub s fun mapped =>
        { mapped with
          transport := .shm
          shm := if mapped.bAsync then mapped.shm else some (n.offeredShm sub.channel)
          bConnected := true }) := .setSub n s fun _ => rfl
    exact mapped.trans (.record _ _)

theorem connectTcp_keepsServing (ran : n.connectTcp c = .ok n') : KeepsServing n n' := by
  refine (KeepsServing.record n (.connectTcp c (n.chan c).publisher)).trans ?_
  rcases connectTcp_cases ran with ⟨_, p, _, rfl⟩ | ⟨_, dialled⟩
  · exact .send _ p (not_offer_connectTcp _)
  · exact .foldlM dialled fun _ _ _ => subConnectTcp_keepsServing

theorem connectShm_keepsServing (ran : n.connectShm c = .ok n') : KeepsServing n n' := by
  refine (KeepsServing.record n (.connectShm c (n.chan c).publisher)).trans ?_
  rcases connectShm_cases ran with ⟨_, p, _, rfl⟩ | ⟨_, mapped⟩
  · exact .send _ p (not_offer_connectShm _)
  · exact .foldlM mapped fun _ _ _ => subConnectShm_keepsServing

theorem connect_keepsServing (ran : n.connect c = .ok n') : KeepsServing n n' := by
  rcases connect_cases ran with ⟨rfl, _⟩ | ⟨p, _, _, _, ⟨_, ran⟩ | ⟨_, ran⟩⟩
  · exact .refl n'
  · exact connectShm_keepsServing ran
  · exact connectTcp_keepsServing ran

theorem deleteSub_keepsServing (n : Node) (s : SubPtr) (c : ChanPtr) :
    KeepsServing n (n.deleteSub s c) := by
  have unlisted : KeepsServing n (n.setChan c fun channel =>
      { channel with
        subscriptions := channel.subscriptions.filter (· != s)
        subscriptors := channel.subscriptors.filter (· != s) }) :=
    .setChan n c (fun _ => rfl) fun _ => List.filter_subset_self _
  refine unlisted.trans ⟨Mesh.mute_of_sent rfl, Nat.le_refl _, fun d => .inl rfl, fun d t => id,
    Nat.le_refl _, fun t _ sub' found => ?_⟩
  simp only [deleteSub, Heap.modify_apply] at found
  split at found
  · cases found
  · exact ⟨sub', found, rfl⟩

theorem subOnClose_keepsServing (ran : n.subOnClose s = .ok n') : KeepsServing n n' := by
  obtain ⟨sub, k, _, _, rfl⟩ := subOnClose_cases ran
  exact (KeepsServing.setDataSock n k _).trans (deleteSub_keepsServing _ s _)

theorem subClose_keepsServing (ran : n.subClose s = .ok n') : KeepsServing n n' := by
  obtain ⟨sub, k, close, _, _, _, rfl⟩ := subClose_cases ran
  exact (KeepsServing.setDataSock n k close).trans (deleteSub_keepsServing _ s _)

theorem disconnectFrom_keepsServing {left it : Nat} (ran : disconnectFrom c left it n = .ok n') :
    KeepsServing n n' := by
  induction left generalizing it n with
  | zero =>
      rw [← pure_eq_ok.mp ran]
      exact .refl n
  | succ left ih =>
      unfold disconnectFrom at ran
      split at ran
      · cases ran
      · obtain ⟨mid, closed, rest⟩ := bind_eq_ok.mp ran
        exact (subClose_keepsServing closed).trans (ih rest)

theorem setPublisher_keepsServing {p : Option HostPtr} (ran : n.setPublisher c p = .ok n') :
    KeepsServing n n' := by
  obtain ⟨mid, closed, connected⟩ := setPublisher_cases ran
  have first : KeepsServing n mid := by
    rcases disconnectOther_cases closed with ⟨_, closed⟩ | ⟨_, rfl⟩
    · exact disconnectFrom_keepsServing closed
    · exact .refl mid
  have replaced : KeepsServing mid (mid.setChan c fun channel =>
      { channel with publisher := p, offeredPort := 0 }) :=
    .setChan mid c (fun _ => rfl) fun _ => List.Subset.refl _
  refine ((first.trans replaced).trans (.record _ (.publisherSet c (mid.chan c).publisher p))).trans ?_
  unfold connectWanted at connected
  split at connected
  · exact connect_keepsServing connected
  · rw [← pure_eq_ok.mp connected]
    exact .refl _

/-! ## Reactions that serve nobody -/

theorem Created.keepsServing {name : Str} (created : Created n n' name c) : KeepsServing n n' := by
  refine ⟨Mesh.mute_of_sent (by rw [created.mesh]), created.chanNext, fun d => ?_, fun d s => ?_,
    by rw [created.sub], ?_⟩
  · by_cases old : d < n.chan.next
    · exact .inl (by rw [created.old d old])
    · by_cases same : d = c
      · subst same
        exact .inr ⟨Nat.not_lt.mp old, by rw [created.fresh (Nat.not_lt.mp old)]⟩
      · exact .inl (by rw [created.other d same])
  · by_cases old : d < n.chan.next
    · rw [created.old d old]
      exact id
    · by_cases same : d = c
      · subst same
        rw [created.fresh (Nat.not_lt.mp old)]
        exact nofun
      · rw [created.other d same]
        exact id
  · intro s _ sub' found
    rw [created.sub] at found
    exact ⟨sub', found, rfl⟩

theorem broadcastPublishedChannels_keepsServing (n : Node) :
    KeepsServing n n.broadcastPublishedChannels := by
  unfold broadcastPublishedChannels
  generalize n.channels = channels
  induction channels generalizing n with
  | nil => exact .refl n
  | cons c channels ih =>
      rw [List.foldl_cons]
      split
      · exact (KeepsServing.broadcast n (not_offer_publish _)).trans (ih _)
      · exact ih n

theorem closeAllChannels_keepsServing {h : HostPtr} (ran : n.closeAllChannels h = .ok n') :
    KeepsServing n n' := by
  refine .foldlM ran fun n n' c closed => ?_
  split at closed
  · exact setPublisher_keepsServing closed
  · rw [← pure_eq_ok.mp closed]
    exact .refl n

theorem publish_keepsServing {name : Str} (ran : n.publish name = .ok n') : KeepsServing n n' := by
  obtain ⟨mid, c, _, created, ⟨_, rfl⟩ | ⟨_, set, published, rfl⟩⟩ := publish_cases ran
  · exact created.keepsServing
  · have publishing := created.keepsServing.trans (setPublisher_keepsServing published)
    exact publishing.trans (.broadcast set (not_offer_publish _))

theorem unpublish_keepsServing {name : Str} (ran : n.unpublish name = .ok n') :
    KeepsServing n n' := by
  unfold unpublish at ran
  split at ran
  · obtain ⟨set, unpublished, rest⟩ := bind_eq_ok.mp ran
    rw [← pure_eq_ok.mp rest]
    exact (setPublisher_keepsServing unpublished).trans (.broadcast set (not_offer_unpublish _))
  · rw [← pure_eq_ok.mp ran]
    exact .refl n

/-- A new subscription is not a subscriptor. -/
theorem addSubscription_keepsServing (n : Node) (c : ChanPtr) :
    KeepsServing n (n.addSubscription c) := by
  let made : Node := { n with sub := n.sub.alloc (some { channel := c, host := n.mesh.me }) }
  have first : KeepsServing n made := by
    refine ⟨Mesh.mute_of_sent rfl, Nat.le_refl _, fun d => .inl rfl, fun d s => id,
      Nat.le_succ _, fun s old sub' found => ?_⟩
    rw [Heap.alloc_of_lt _ _ old] at found
    exact ⟨sub', found, rfl⟩
  have second : KeepsServing made (made.setChan c fun channel =>
      { channel with subscriptions := channel.subscriptions ++ [n.sub.next] }) :=
    .setChan made c (fun _ => rfl) fun _ => List.Subset.refl _
  exact (first.trans second).trans (.record _ _)

theorem subscribe_keepsServing {name : Str} (ran : n.subscribe name = .ok n') :
    KeepsServing n n' := by
  obtain ⟨mid, c, _, created, connected⟩ := subscribe_cases ran
  have added := created.keepsServing.trans (addSubscription_keepsServing mid c)
  exact added.trans (connect_keepsServing connected)

theorem applyPublishStatement_keepsServing {h : HostPtr} {statement : Str}
    (ran : n.applyPublishStatement h statement = .ok n') : KeepsServing n n' := by
  obtain ⟨name, _, mid, c, _, created, set⟩ := applyPublishStatement_cases ran
  rcases set with ⟨_, set⟩ | ⟨_, rfl | ⟨_, _, set⟩⟩
  · exact created.keepsServing.trans (setPublisher_keepsServing set)
  · exact created.keepsServing
  · exact created.keepsServing.trans (setPublisher_keepsServing set)

theorem applyUnpublishStatement_keepsServing {h : HostPtr} {statement : Str}
    (ran : n.applyUnpublishStatement h statement = .ok n') : KeepsServing n n' := by
  obtain ⟨name, _, ⟨_, rfl⟩ | ⟨c, _, set⟩⟩ := applyUnpublishStatement_cases ran
  · exact .refl n'
  · exact setPublisher_keepsServing set

theorem answerOfferTcp_keepsServing {h : HostPtr} {offer : Str}
    (ran : n.answerOfferTcp h offer = .ok n') : KeepsServing n n' := by
  unfold answerOfferTcp at ran
  dsimp only at ran
  split at ran
  · next c _ =>
    let recorded := n.record (.offeredTcp h c (atoi (strAfter offer ['|'])))
    have taken : KeepsServing recorded (recorded.setChan c fun channel =>
        { channel with offeredPort := atoi (strAfter offer ['|']) }) :=
      .setChan recorded c (fun _ => rfl) fun _ => List.Subset.refl _
    exact ((KeepsServing.record n _).trans taken).trans (connectTcp_keepsServing ran)
  · rw [← pure_eq_ok.mp ran]
    exact .refl n

theorem answerOfferShm_keepsServing {h : HostPtr} {offer : Str}
    (ran : n.answerOfferShm h offer = .ok n') : KeepsServing n n' := by
  unfold answerOfferShm at ran
  dsimp only at ran
  split at ran
  · next c _ =>
    let recorded := n.record (.offeredShm h c (decodeShm (strAfter offer ['|'])))
    have taken : KeepsServing recorded (recorded.setChan c fun channel =>
        { channel with
          offeredShmPath := (decodeShm (strAfter offer ['|'])).path
          size := (decodeShm (strAfter offer ['|'])).size }) :=
      .setChan recorded c (fun _ => rfl) fun _ => List.Subset.refl _
    exact ((KeepsServing.record n _).trans taken).trans (connectShm_keepsServing ran)
  · rw [← pure_eq_ok.mp ran]
    exact .refl n

theorem connected_keepsServing (n : Node) (k : SockPtr) (conn : ConnId) :
    KeepsServing n (n.connected k conn) := by
  unfold connected
  dsimp only
  split
  · exact .of_mesh (Mesh.Mute.trans (Mesh.mute_of_sent rfl) (Mesh.mute_welcome _)) rfl rfl
  · exact .of_mesh (Mesh.mute_of_sent rfl) rfl rfl

theorem eof_keepsServing {k : SockPtr} (ran : n.eof k = .ok n') : KeepsServing n n' := by
  obtain ⟨closed, left, rest⟩ := bind_eq_ok.mp ran
  rw [← pure_eq_ok.mp rest]
  let shut : Node := { n with mesh := n.mesh.setSock k (·.closeFd) }
  have first : KeepsServing n shut := .of_mesh (Mesh.mute_of_sent rfl) rfl rfl
  have second : KeepsServing shut closed := by
    rcases signalingClosed_cases left with ⟨rfl, _⟩ | ⟨h, current, _, _, ran⟩
    · exact .refl _
    · refine KeepsServing.trans ?_ (closeAllChannels_keepsServing ran)
      exact .of_mesh (Mesh.mute_of_sent rfl) rfl rfl
  exact (first.trans second).trans (.of_mesh (Mesh.mute_of_sent rfl) rfl rfl)

theorem dataConnected_keepsServing {k : SockPtr} {conn : ConnId}
    (ran : n.dataConnected k conn = .ok n') : KeepsServing n n' := by
  unfold dataConnected at ran
  dsimp only at ran
  split at ran
  · exact (KeepsServing.setDataSock n k _).trans (subOnOpen_keepsServing ran)
  · rw [← pure_eq_ok.mp ran]
    exact .setDataSock n k _

theorem dataEof_keepsServing {k : SockPtr} (ran : n.dataEof k = .ok n') : KeepsServing n n' := by
  obtain ⟨closed, left, rest⟩ := bind_eq_ok.mp ran
  rw [← pure_eq_ok.mp rest]
  have second : KeepsServing (n.setDataSock k (·.closeFd)) closed := by
    unfold dataClosed at left
    split at left
    · exact subOnClose_keepsServing left
    · rw [← pure_eq_ok.mp left]
      exact .refl _
  exact ((KeepsServing.setDataSock n k _).trans second).trans (.setDataSock closed k _)

/-! ## Requests -/

/-- The two requests. -/
inductive Request where
  | tcp
  | shm
  deriving DecidableEq

def Request.text : Request → Str
  | .tcp => "CONNECT_TCP=".toList
  | .shm => "CONNECT_SHM=".toList

/-- `ChannelImpl::offer_tcp` or `ChannelImpl::offer_shm`. -/
def Request.offer (request : Request) (n : Node) (c : ChanPtr) (h : HostPtr) : Node :=
  match request with
  | .tcp => n.offerTcp c h
  | .shm => n.offerShm c h

/-- `input` is a request of `h` for channel `c`. -/
def Asks (n : Node) (request : Request) (h : HostPtr) (c : ChanPtr) (input : Input) : Prop :=
  ∃ s, n.Speaks h s input ∧ strStartsWith s request.text = true ∧
    n.getChannel (strAfter s ['=']) = some c

theorem line_request {k : SockPtr} {h : HostPtr} {s : Str} (request : Request)
    (listener : (n.mesh.sock k).listeners = some (.host h))
    (ready : (n.mesh.host h).bReady = true) (starts : strStartsWith s request.text = true) :
    n.line k s = .ok (match n.getChannel (strAfter s ['=']) with
      | some c => request.offer n c h
      | none => n) := by
  have other {start : Str} (apart : ∀ request : Request, ¬ request.text <+: start ∧
      ¬ start <+: request.text) : strStartsWith s start = false :=
    strStartsWith_eq_false starts (apart request)
  have notConnected : s ≠ "CONNECTED".toList := by
    intro same
    rw [same] at starts
    revert starts
    cases request <;> decide
  have notId : strStartsWith s "ID=".toList = false :=
    other fun request => by cases request <;> decide
  have notYou : strStartsWith s "YOU=".toList = false :=
    other fun request => by cases request <;> decide
  have notHost : strStartsWith s "Host=".toList = false :=
    other fun request => by cases request <;> decide
  have notPublish : strStartsWith s "PUBLISH=".toList = false :=
    other fun request => by cases request <;> decide
  have notUnpublish : strStartsWith s "UNPUBLISH=".toList = false :=
    other fun request => by cases request <;> decide
  simp only [line, listener, onReceive, notId, notYou, notConnected, ready, notHost, digestMessage,
    notPublish, notUnpublish, Bool.false_eq_true, ↓reduceIte, Bool.not_true]
  cases request with
  | tcp =>
      change strStartsWith s "CONNECT_TCP=".toList = true at starts
      rw [if_pos starts, makeOfferTcp]
      cases n.getChannel (strAfter s ['=']) <;> rfl
  | shm =>
      change strStartsWith s "CONNECT_SHM=".toList = true at starts
      have notTcp : strStartsWith s "CONNECT_TCP=".toList = false :=
        strStartsWith_eq_false starts (by decide)
      rw [notTcp, if_neg Bool.false_ne_true, if_pos starts, makeOfferShm]
      cases n.getChannel (strAfter s ['=']) <;> rfl

theorem Asks.ran {request : Request} {h : HostPtr} {input : Input}
    (asks : n.Asks request h c input) (stepped : Step n input n') : n' = request.offer n c h := by
  obtain ⟨s, ⟨k, rfl, listener, ready⟩, starts, found⟩ := asks
  have ran : n.line k s = .ok n' := stepped
  rw [line_request request listener ready starts, found] at ran
  exact (Except.ok.inj ran).symm

/-- What a reaction has to do with serving channels. -/
inductive ServingEffect (n : Node) (input : Input) (n' : Node) : Prop where
  | kept (kept : KeepsServing n n')
  | offered (request : Request) (h : HostPtr) (c : ChanPtr) (asks : n.Asks request h c input)
      (result : n' = request.offer n c h)
  | accepted (c : ChanPtr) (ip : Str) (port : Int32) (conn : ConnId)
      (isAccept : input = .dataAccepted c ip port conn) (isOpen : (n.chan c).server ≠ none)
      (result : n' = n.acceptSubscriptor c ip port conn)

theorem line_serving {k : SockPtr} {s : Str} (ran : n.line k s = .ok n') :
    ServingEffect n (.line k s) n' := by
  cases line_effect ran with
  | ignored same =>
      rw [same]
      exact .kept (.refl n)
  | incoming _ result =>
      rw [result]
      exact .kept (.of_mesh (Mesh.mute_handleIncomingConnection k s) rfl rfl)
  | id h _ result =>
      rw [result]
      refine .kept (.of_mesh ?_ rfl rfl)
      exact Mesh.Mute.trans (Mesh.mute_of_sent rfl) (Mesh.mute_send h not_offer_connected)
  | you h _ _ result =>
      rw [result]
      exact .kept (.of_mesh (Mesh.mute_of_sent rfl) rfl rfl)
  | connected h _ mid published result =>
      rw [result]
      have received : KeepsServing n { n with mesh := receiveConnected n.mesh h } :=
        .of_mesh (Mesh.mute_of_sent (Mesh.sent_pushUnlessKnown _ _)) rfl rfl
      have announced := broadcastPublishedChannels_keepsServing
        { n with mesh := receiveConnected n.mesh h }
      rw [← published] at announced
      refine .kept ((received.trans announced).trans (.of_mesh ?_ rfl rfl))
      exact Mesh.mute_broadcast (not_offer_hosts _ _)
  | host h _ _ _ result =>
      rw [result]
      exact .kept (.of_mesh (Mesh.mute_addHost _ _) rfl rfl)
  | statement h listener ready digested =>
      have speaks : n.Speaks h s (.line k s) := ⟨k, rfl, listener, ready⟩
      cases digest_effect digested with
      | publish _ ran => exact .kept (applyPublishStatement_keepsServing ran)
      | unpublish _ ran => exact .kept (applyUnpublishStatement_keepsServing ran)
      | connectTcp starts result =>
          unfold makeOfferTcp at result
          split at result
          · next c found => exact .offered .tcp h c ⟨s, speaks, starts, found⟩ result
          · rw [result]
            exact .kept (.refl n)
      | connectShm starts result =>
          unfold makeOfferShm at result
          split at result
          · next c found => exact .offered .shm h c ⟨s, speaks, starts, found⟩ result
          · rw [result]
            exact .kept (.refl n)
      | offerTcp _ ran => exact .kept (answerOfferTcp_keepsServing ran)
      | offerShm _ ran => exact .kept (answerOfferShm_keepsServing ran)
      | unknown same =>
          rw [same]
          exact .kept (.refl n)

theorem serving_effect {input : Input} (stepped : Step n input n') : ServingEffect n input n' := by
  cases input with
  | addHost ip port =>
      rw [← pure_eq_ok.mp stepped]
      exact .kept (.of_mesh (Mesh.mute_addHost ip port) rfl rfl)
  | publish name => exact .kept (publish_keepsServing stepped)
  | unpublish name => exact .kept (unpublish_keepsServing stepped)
  | subscribe name => exact .kept (subscribe_keepsServing stepped)
  | announce =>
      rw [← pure_eq_ok.mp stepped]
      exact .kept (broadcastPublishedChannels_keepsServing n)
  | connected k conn =>
      rw [← pure_eq_ok.mp stepped]
      exact .kept (connected_keepsServing n k conn)
  | accepted ip port conn =>
      rw [← pure_eq_ok.mp stepped]
      exact .kept (.of_mesh (Mesh.mute_of_sent rfl) rfl rfl)
  | line k s => exact line_serving stepped
  | eof k => exact .kept (eof_keepsServing stepped)
  | dataConnected k conn => exact .kept (dataConnected_keepsServing stepped)
  | dataAccepted c ip port conn =>
      have result : n' = n.acceptSubscriptor c ip port conn := (pure_eq_ok.mp stepped).symm
      cases server : (n.chan c).server with
      | none =>
          simp only [acceptSubscriptor, server] at result
          rw [result]
          exact .kept (.refl n)
      | some _ => exact .accepted c ip port conn rfl (by simp [server]) result
  | dataEof k => exact .kept (dataEof_keepsServing stepped)

end Node

end LibPubSub
