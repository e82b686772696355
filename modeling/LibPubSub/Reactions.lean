import LibPubSub.Effects
import LibPubSub.Library.Runs

/-! What one reaction of a node can be. `line_effect` inverts the dispatch of
`Host::on_receive` and `digest_message` once; the lemmas on publishers say what
each kind of reaction does to the channels. -/

set_option autoImplicit false

namespace LibPubSub

open Fallible Transition

namespace Node

/-- How socket `k` reacted to line `s`. Only a ready Host reaches the statements. -/
inductive LineEffect (n : Node) (k : SockPtr) (s : Str) (n' : Node) : Prop where
  | ignored (same : n' = n)
  | incoming (listener : (n.mesh.sock k).listeners = some .incoming)
      (result : n' = { n with mesh := n.mesh.handleIncomingConnection k s })
  | id (h : HostPtr) (listener : (n.mesh.sock k).listeners = some (.host h))
      (result : n' = { n with mesh := receiveId n.mesh h s })
  | you (h : HostPtr) (listener : (n.mesh.sock k).listeners = some (.host h))
      (starts : strStartsWith s "YOU=".toList = true)
      (result : n' = { n with mesh := receiveYou n.mesh s })
  | connected (h : HostPtr) (listener : (n.mesh.sock k).listeners = some (.host h))
      (mid : Node) (published : mid =
        ({ n with mesh := receiveConnected n.mesh h } : Node).broadcastPublishedChannels)
      (result : n' = { mid with mesh := mid.mesh.broadcastHosts })
  | host (h : HostPtr) (listener : (n.mesh.sock k).listeners = some (.host h))
      (ready : (n.mesh.host h).bReady = true)
      (starts : strStartsWith s "Host=".toList = true)
      (result : n' = { n with mesh := receiveHost n.mesh s })
  | statement (h : HostPtr) (listener : (n.mesh.sock k).listeners = some (.host h))
      (ready : (n.mesh.host h).bReady = true) (ran : n.digestMessage h s = .ok n')

theorem line_effect {n n' : Node} {k : SockPtr} {s : Str} (ran : n.line k s = .ok n') :
    LineEffect n k s n' := by
  unfold line at ran
  split at ran
  · exact .ignored (pure_eq_ok.mp ran).symm
  · next listener => exact .incoming listener (pure_eq_ok.mp ran).symm
  · next h listener =>
    unfold onReceive at ran
    split at ran
    · exact .id h listener (pure_eq_ok.mp ran).symm
    split at ran
    · next starts => exact .you h listener starts (pure_eq_ok.mp ran).symm
    split at ran
    · exact .connected h listener _ rfl (pure_eq_ok.mp ran).symm
    split at ran
    · exact .ignored (pure_eq_ok.mp ran).symm
    · next notUnready =>
      have ready : (n.mesh.host h).bReady = true := by simpa using notUnready
      split at ran
      · next starts => exact .host h listener ready starts (pure_eq_ok.mp ran).symm
      · exact .statement h listener ready ran

/-- The statements of `digest_message`. -/
inductive DigestEffect (n : Node) (h : HostPtr) (s : Str) (n' : Node) : Prop where
  | publish (starts : strStartsWith s "PUBLISH=".toList = true)
      (ran : n.applyPublishStatement h (strAfter s ['=']) = .ok n')
  | unpublish (starts : strStartsWith s "UNPUBLISH=".toList = true)
      (ran : n.applyUnpublishStatement h (strAfter s ['=']) = .ok n')
  | connectTcp (starts : strStartsWith s "CONNECT_TCP=".toList = true)
      (result : n' = n.makeOfferTcp h (strAfter s ['=']))
  | connectShm (starts : strStartsWith s "CONNECT_SHM=".toList = true)
      (result : n' = n.makeOfferShm h (strAfter s ['=']))
  | offerTcp (starts : strStartsWith s "OFFER_TCP=".toList = true)
      (ran : n.answerOfferTcp h (strAfter s ['=']) = .ok n')
  | offerShm (starts : strStartsWith s "OFFER_SHM=".toList = true)
      (ran : n.answerOfferShm h (strAfter s ['=']) = .ok n')
  | unknown (same : n' = n)

theorem digest_effect {n n' : Node} {h : HostPtr} {s : Str} (ran : n.digestMessage h s = .ok n') :
    DigestEffect n h s n' := by
  unfold digestMessage at ran
  split at ran
  · next starts => exact .publish starts ran
  split at ran
  · next starts => exact .unpublish starts ran
  split at ran
  · next starts => exact .connectTcp starts (pure_eq_ok.mp ran).symm
  split at ran
  · next starts => exact .connectShm starts (pure_eq_ok.mp ran).symm
  split at ran
  · next starts => exact .offerTcp starts ran
  split at ran
  · next starts => exact .offerShm starts ran
  · exact .unknown (pure_eq_ok.mp ran).symm

/-- Only a statement can fail. -/
theorem line_error {n : Node} {k : SockPtr} {s : Str} {fault : Fault}
    (failed : n.line k s = .error fault) :
    ∃ h, (n.mesh.sock k).listeners = some (.host h) ∧ (n.mesh.host h).bReady = true ∧
      n.digestMessage h s = .error fault := by
  unfold line at failed
  split at failed
  · cases failed
  · cases failed
  · next h listener =>
    unfold onReceive at failed
    split at failed
    · cases failed
    split at failed
    · cases failed
    split at failed
    · cases failed
    split at failed
    · cases failed
    · next notUnready =>
      have ready : (n.mesh.host h).bReady = true := by simpa using notUnready
      split at failed
      · cases failed
      · exact ⟨h, listener, ready, failed⟩

theorem digest_error {n : Node} {h : HostPtr} {s : Str} {fault : Fault}
    (failed : n.digestMessage h s = .error fault) :
    (strStartsWith s "PUBLISH=".toList = true ∧
        n.applyPublishStatement h (strAfter s ['=']) = .error fault) ∨
      (strStartsWith s "UNPUBLISH=".toList = true ∧
        n.applyUnpublishStatement h (strAfter s ['=']) = .error fault) ∨
      (strStartsWith s "OFFER_TCP=".toList = true ∧
        n.answerOfferTcp h (strAfter s ['=']) = .error fault) ∨
      (strStartsWith s "OFFER_SHM=".toList = true ∧
        n.answerOfferShm h (strAfter s ['=']) = .error fault) := by
  unfold digestMessage at failed
  split at failed
  · next starts => exact .inl ⟨starts, failed⟩
  split at failed
  · next starts => exact .inr (.inl ⟨starts, failed⟩)
  split at failed
  · cases failed
  split at failed
  · cases failed
  split at failed
  · next starts => exact .inr (.inr (.inl ⟨starts, failed⟩))
  split at failed
  · next starts => exact .inr (.inr (.inr ⟨starts, failed⟩))
  · cases failed

/-- The keywords of the statements about publishers and TCP connections. -/
inductive Keyword where
  | publish
  | unpublish
  | connectTcp
  | offerTcp

def Keyword.text : Keyword → Str
  | .publish => "PUBLISH=".toList
  | .unpublish => "UNPUBLISH=".toList
  | .connectTcp => "CONNECT_TCP=".toList
  | .offerTcp => "OFFER_TCP=".toList

/-- A line of a ready Host that starts with a keyword reaches `digest_message`. -/
theorem line_keyword {n : Node} {k : SockPtr} {h : HostPtr} {s : Str}
    (listener : (n.mesh.sock k).listeners = some (.host h))
    (ready : (n.mesh.host h).bReady = true) (keyword : Keyword)
    (starts : strStartsWith s keyword.text = true) : n.line k s = n.digestMessage h s := by
  have notId : strStartsWith s "ID=".toList = false :=
    strStartsWith_eq_false starts (by cases keyword <;> decide)
  have notYou : strStartsWith s "YOU=".toList = false :=
    strStartsWith_eq_false starts (by cases keyword <;> decide)
  have notHost : strStartsWith s "Host=".toList = false :=
    strStartsWith_eq_false starts (by cases keyword <;> decide)
  have notConnected : s ≠ "CONNECTED".toList := by
    rintro rfl
    revert starts
    cases keyword <;> decide
  rw [line, listener]
  dsimp only
  rw [onReceive, notId, notYou, notHost, if_neg Bool.false_ne_true, if_neg Bool.false_ne_true,
    if_neg notConnected, ready, if_neg (by decide), if_neg Bool.false_ne_true]

theorem digest_publish {n : Node} {h : HostPtr} {s : Str}
    (starts : strStartsWith s "PUBLISH=".toList = true) :
    n.digestMessage h s = n.applyPublishStatement h (strAfter s ['=']) :=
  if_pos starts

theorem digest_unpublish {n : Node} {h : HostPtr} {s : Str}
    (starts : strStartsWith s "UNPUBLISH=".toList = true) :
    n.digestMessage h s = n.applyUnpublishStatement h (strAfter s ['=']) := by
  have notPublish : strStartsWith s "PUBLISH=".toList = false :=
    strStartsWith_eq_false starts (by decide)
  rw [digestMessage, notPublish, if_neg Bool.false_ne_true, if_pos starts]

theorem digest_offerTcp {n : Node} {h : HostPtr} {s : Str}
    (starts : strStartsWith s "OFFER_TCP=".toList = true) :
    n.digestMessage h s = n.answerOfferTcp h (strAfter s ['=']) := by
  have notPublish : strStartsWith s "PUBLISH=".toList = false :=
    strStartsWith_eq_false starts (by decide)
  have notUnpublish : strStartsWith s "UNPUBLISH=".toList = false :=
    strStartsWith_eq_false starts (by decide)
  have notConnectTcp : strStartsWith s "CONNECT_TCP=".toList = false :=
    strStartsWith_eq_false starts (by decide)
  have notConnectShm : strStartsWith s "CONNECT_SHM=".toList = false :=
    strStartsWith_eq_false starts (by decide)
  rw [digestMessage, notPublish, notUnpublish, notConnectTcp, notConnectShm,
    if_neg Bool.false_ne_true, if_neg Bool.false_ne_true, if_neg Bool.false_ne_true,
    if_neg Bool.false_ne_true, if_pos starts]

/-! ## The registry -/

theorem getChannel_eq_some {n : Node} {name : Str} {c : ChanPtr} (found : n.getChannel name = some c) :
    c < n.chan.next ∧ (n.chan c).name = name := by
  refine ⟨List.mem_range.mp (List.mem_of_find?_eq_some found), ?_⟩
  simpa using List.find?_some found

theorem getChannel_eq_none {n : Node} {name : Str} (missing : n.getChannel name = none)
    {c : ChanPtr} (known : c < n.chan.next) : (n.chan c).name ≠ name := by
  have absent := List.find?_eq_none.mp missing c (List.mem_range.mpr known)
  simpa using absent

/-- `get_or_create_channel` returns the channel of that name, if need be a new one
behind the others. -/
theorem getOrCreateChannel_cases (n : Node) (name : Str) :
    (∃ c, n.getChannel name = some c ∧ n.getOrCreateChannel name = (n, c)) ∨
      (n.getChannel name = none ∧ n.getOrCreateChannel name =
        ({ n with chan := n.chan.alloc { name := name } }, n.chan.next)) := by
  unfold getOrCreateChannel
  cases n.getChannel name with
  | none => exact .inr ⟨rfl, rfl⟩
  | some c => exact .inl ⟨c, rfl, rfl⟩

theorem getOrCreateChannel_found {n : Node} {name : Str} {c : ChanPtr}
    (found : n.getChannel name = some c) : n.getOrCreateChannel name = (n, c) := by
  simp only [getOrCreateChannel, found]

/-- The search only looks at the names. -/
theorem getChannel_congr {n n' : Node} (next : n'.chan.next = n.chan.next)
    (names : ∀ c, (n'.chan c).name = (n.chan c).name) (name : Str) :
    n'.getChannel name = n.getChannel name := by
  simp only [getChannel, channels, next, names]

/-- What `get_or_create_channel` returns is found from then on. -/
theorem getChannel_getOrCreateChannel (n : Node) (name : Str) :
    (n.getOrCreateChannel name).1.getChannel name = some (n.getOrCreateChannel name).2 := by
  rcases n.getOrCreateChannel_cases name with ⟨c, found, result⟩ | ⟨missing, result⟩
  · rw [result]
    exact found
  · rw [result]
    have before : (List.range n.chan.next).find?
        (fun c => ((n.chan.alloc { name := name }) c).name == name) = none := by
      rw [List.find?_eq_none]
      intro c member
      have known := List.mem_range.mp member
      rw [Heap.alloc_of_lt _ _ known]
      simpa using getChannel_eq_none missing known
    have created : ((n.chan.alloc { name := name }) n.chan.next).name = name := by
      rw [Heap.alloc_self]
    simp only [getChannel, channels, Heap.alloc_next, List.range_succ, List.find?_append, before,
      List.find?_singleton, created, beq_self_eq_true, ↓reduceIte, Option.none_or]

/-- The channel that `get_or_create_channel` returns. -/
def channelOf (n : Node) (name : Str) : ChanPtr :=
  (n.getOrCreateChannel name).2

/-- What is common to both cases: the channels known before are as they were. -/
structure Created (n n' : Node) (name : Str) (c : ChanPtr) : Prop where
  old : ∀ d < n.chan.next, n'.chan d = n.chan d
  other : ∀ d, d ≠ c → n'.chan d = n.chan d
  chanNext : n.chan.next ≤ n'.chan.next
  known : c < n'.chan.next
  named : (n'.chan c).name = name
  mesh : n'.mesh = n.mesh
  sub : n'.sub = n.sub
  dataSock : n'.dataSock = n.dataSock
  bindPort : n'.bindPort = n.bindPort
  log : n'.log = n.log
  fresh : n.chan.next ≤ c → n'.chan c = { name := name }
  found : c < n.chan.next → n.getChannel name = some c ∧ n' = n
  made : n.chan.next ≤ c → n.getChannel name = none ∧ c = n.chan.next ∧
    n'.chan.next = n.chan.next + 1

theorem getOrCreateChannel_created (n : Node) (name : Str) :
    Created n (n.getOrCreateChannel name).1 name (n.getOrCreateChannel name).2 := by
  rcases n.getOrCreateChannel_cases name with ⟨c, found, result⟩ | ⟨missing, result⟩
  · obtain ⟨known, named⟩ := getChannel_eq_some found
    rw [result]
    exact ⟨fun _ _ => rfl, fun _ _ => rfl, Nat.le_refl _, known, named, rfl, rfl, rfl, rfl, rfl,
      fun beyond => absurd known (Nat.not_lt.mpr beyond), fun _ => ⟨found, rfl⟩,
      fun beyond => absurd known (Nat.not_lt.mpr beyond)⟩
  · rw [result]
    refine ⟨?_, ?_, Nat.le_succ _, Nat.lt_succ_self _, ?_, rfl, rfl, rfl, rfl, rfl, ?_, ?_,
      fun _ => ⟨missing, rfl, rfl⟩⟩
    · intro d known
      exact n.chan.alloc_of_lt _ known
    · intro d other
      exact n.chan.alloc_of_ne _ other
    · exact congrArg ChannelImpl.name (n.chan.alloc_self _)
    · intro _
      exact n.chan.alloc_self _
    · intro known
      exact absurd known (Nat.lt_irrefl _)

/-! ## Reactions and publishers -/

def SamePublishers (n n' : Node) : Prop :=
  ∀ c, (n'.chan c).publisher = (n.chan c).publisher

/-- A channel that does not exist yet has no publisher. -/
def Vacant (n : Node) (c : ChanPtr) : Prop :=
  n.chan.next ≤ c → (n.chan c).publisher = none

theorem Created.publisher {n n' : Node} {name : Str} {c d : ChanPtr}
    (created : Created n n' name c) (vacant : Vacant n d) :
    (n'.chan d).publisher = (n.chan d).publisher := by
  by_cases new : d = c
  · subst new
    by_cases known : d < n.chan.next
    · rw [created.old d known]
    · rw [created.fresh (Nat.not_lt.mp known), vacant (Nat.not_lt.mp known)]
  · rw [created.other d new]

theorem subscribe_cases {n n' : Node} {name : Str} (ran : n.subscribe name = .ok n') :
    ∃ mid c, n.getOrCreateChannel name = (mid, c) ∧ Created n mid name c ∧
      (mid.addSubscription c).connect c = .ok n' :=
  ⟨_, _, rfl, n.getOrCreateChannel_created name, ran⟩

theorem addSubscription_core (n : Node) (c d : ChanPtr) :
    ((n.addSubscription c).chan d).core = (n.chan d).core := by
  simp only [addSubscription, record, setChan, Heap.modify_apply]
  split
  · next same => rw [same]; rfl
  · rfl

theorem subscribe_publisher {n n' : Node} {name : Str} {c : ChanPtr} (vacant : Vacant n c)
    (ran : n.subscribe name = .ok n') : (n'.chan c).publisher = (n.chan c).publisher := by
  obtain ⟨mid, d, _, created, connected⟩ := subscribe_cases ran
  rw [(connect_connecting connected).chan, ← created.publisher vacant]
  exact ChannelImpl.publisher_of_core (mid.addSubscription_core d c)

theorem makeOfferTcp_samePublishers (n : Node) (h : HostPtr) (channel : Str) :
    SamePublishers n (n.makeOfferTcp h channel) := by
  intro c
  unfold makeOfferTcp
  split
  · simp only [offerTcp, send, setChan, Heap.modify_apply]
    split
    · next same => rw [same]
    · rfl
  · rfl

theorem makeOfferShm_samePublishers (n : Node) (h : HostPtr) (channel : Str) :
    SamePublishers n (n.makeOfferShm h channel) := by
  intro c
  unfold makeOfferShm
  split
  · simp only [offerShm, send, setChan, Heap.modify_apply]
    split
    · next same => rw [same]
    · rfl
  · rfl

theorem answerOfferTcp_samePublishers {n n' : Node} {h : HostPtr} {offer : Str}
    (ran : n.answerOfferTcp h offer = .ok n') : SamePublishers n n' := by
  intro c
  unfold answerOfferTcp at ran
  dsimp only at ran
  split at ran
  · rw [(connectTcp_connecting ran).chan]
    simp only [record, setChan, Heap.modify_apply]
    split
    · next same => rw [same]
    · rfl
  · rw [pure_eq_ok.mp ran]

theorem answerOfferShm_samePublishers {n n' : Node} {h : HostPtr} {offer : Str}
    (ran : n.answerOfferShm h offer = .ok n') : SamePublishers n n' := by
  intro c
  unfold answerOfferShm at ran
  dsimp only at ran
  split at ran
  · rw [(connectShm_connecting ran).chan]
    simp only [record, setChan, Heap.modify_apply]
    split
    · next same => rw [same]
    · rfl
  · rw [pure_eq_ok.mp ran]

theorem broadcastPublishedChannels_mesh (n : Node) :
    ∃ m, m.table = n.mesh.table ∧ n.broadcastPublishedChannels = { n with mesh := m } := by
  unfold broadcastPublishedChannels
  generalize n.channels = channels
  induction channels generalizing n with
  | nil => exact ⟨n.mesh, rfl, rfl⟩
  | cons c channels ih =>
      rw [List.foldl_cons]
      split
      · obtain ⟨m, table, same⟩ := ih (n.broadcast ("PUBLISH=".toList ++ n.channelString c))
        exact ⟨m, table.trans (n.mesh.table_broadcast _), same⟩
      · exact ih n

theorem broadcastPublishedChannels_connecting (n : Node) :
    Connecting n n.broadcastPublishedChannels := by
  obtain ⟨m, table, same⟩ := n.broadcastPublishedChannels_mesh
  rw [same]
  exact ⟨rfl, table, rfl, rfl, fun _ => rfl, [], by simp⟩

/-- `unpublish()` and `UNPUBLISH=` clear the publisher of the named channel. -/
theorem unpublish_cases {n n' : Node} {name : Str} (ran : n.unpublish name = .ok n') :
    (n.getChannel name = none ∧ n' = n) ∨
      ∃ c mid, n.getChannel name = some c ∧ PublisherSet c none n mid ∧ Connecting mid n' := by
  unfold unpublish at ran
  cases found : n.getChannel name with
  | none =>
      rw [found] at ran
      exact .inl ⟨rfl, (pure_eq_ok.mp ran).symm⟩
  | some c =>
      simp only [found] at ran
      obtain ⟨mid, set, rest⟩ := bind_eq_ok.mp ran
      refine .inr ⟨c, mid, rfl, setPublisher_spec set, ?_⟩
      exact pure_eq_ok.mp rest ▸ connecting_broadcast _ _

theorem applyUnpublishStatement_cases {n n' : Node} {h : HostPtr} {statement : Str}
    (ran : n.applyUnpublishStatement h statement = .ok n') :
    ∃ name, statementName statement = .ok name ∧
      ((n.getChannel name = none ∧ n' = n) ∨
        ∃ c, n.getChannel name = some c ∧ n.setPublisher c none = .ok n') := by
  obtain ⟨name, named, rest⟩ := bind_eq_ok.mp ran
  refine ⟨name, named, ?_⟩
  cases found : n.getChannel name with
  | none =>
      simp only [found] at rest
      exact .inl ⟨rfl, (pure_eq_ok.mp rest).symm⟩
  | some c =>
      simp only [found] at rest
      exact .inr ⟨c, rfl, rest⟩

/-- A `PUBLISH=` statement creates the channel and sets its publisher if it is of
type `P`, or of type `A` or `S` while no publisher is known. -/
theorem applyPublishStatement_cases {n n' : Node} {h : HostPtr} {statement : Str}
    (ran : n.applyPublishStatement h statement = .ok n') :
    ∃ name, statementName statement = .ok name ∧ ∃ mid c,
      n.getOrCreateChannel name = (mid, c) ∧ Created n mid name c ∧
      ((statement.headD NUL = 'P' ∧ mid.setPublisher c (some h) = .ok n') ∨
        (statement.headD NUL ≠ 'P' ∧
          (n' = mid ∨ ((statement.headD NUL = 'A' ∨ statement.headD NUL = 'S') ∧
            (mid.chan c).publisher = none ∧
            mid.setPublisher c (mid.namedHost (strAfter statement ['|'])) = .ok n')))) := by
  obtain ⟨name, named, rest⟩ := bind_eq_ok.mp ran
  have created := n.getOrCreateChannel_created name
  refine ⟨name, named, _, _, rfl, created, ?_⟩
  dsimp only at rest
  by_cases type : statement.headD NUL = 'P'
  · rw [if_pos type] at rest
    exact .inl ⟨type, rest⟩
  · rw [if_neg type] at rest
    refine .inr ⟨type, ?_⟩
    split at rest
    · next type =>
      split at rest
      · exact .inl (pure_eq_ok.mp rest).symm
      · next unknown => exact .inr ⟨type, Option.not_isSome_iff_eq_none.mp unknown, rest⟩
    · exact .inl (pure_eq_ok.mp rest).symm

/-- `publish()` makes this node the publisher, unless it is already. -/
theorem publish_cases {n n' : Node} {name : Str} (ran : n.publish name = .ok n') :
    ∃ mid c, n.getOrCreateChannel name = (mid, c) ∧ Created n mid name c ∧
      (((mid.chan c).publisher = some n.mesh.me ∧ n' = mid) ∨
        ((mid.chan c).publisher ≠ some n.mesh.me ∧ ∃ set,
          mid.setPublisher c (some n.mesh.me) = .ok set ∧
          n' = set.broadcast ("PUBLISH=".toList ++ set.channelString c))) := by
  have created := n.getOrCreateChannel_created name
  refine ⟨_, _, rfl, created, ?_⟩
  unfold publish publishChannel at ran
  dsimp only at ran
  rw [created.mesh] at ran
  split at ran
  · next already => exact .inl ⟨already, (pure_eq_ok.mp ran).symm⟩
  · next other =>
    obtain ⟨set, done, rest⟩ := bind_eq_ok.mp ran
    exact .inr ⟨other, set, done, (pure_eq_ok.mp rest).symm⟩

/-- `close_all_channels` clears the publisher of exactly the channels `h` published. -/
theorem closeAllChannels_spec {n n' : Node} {h : HostPtr} (ran : n.closeAllChannels h = .ok n') :
    n'.mesh.table = n.mesh.table ∧ n'.chan.next = n.chan.next ∧
      ∀ c, Vacant n c → (n'.chan c).publisher =
        if (n.chan c).publisher = some h then none else (n.chan c).publisher := by
  -- the channels before position `i` are done, the others untouched
  have loop : ∀ (todo : List ChanPtr) (state : Node),
      (∀ c, (state.chan c).publisher = (n.chan c).publisher ∨
        ((n.chan c).publisher = some h ∧ (state.chan c).publisher = none)) →
      (∀ c < n.chan.next, c ∉ todo → (state.chan c).publisher ≠ some h) →
      state.mesh.table = n.mesh.table → state.chan.next = n.chan.next →
      todo.foldlM (fun n c =>
        if (n.chan c).publisher = some h then n.setPublisher c none else return n) state = .ok n' →
      n'.mesh.table = n.mesh.table ∧ n'.chan.next = n.chan.next ∧
        (∀ c, (n'.chan c).publisher = (n.chan c).publisher ∨
          ((n.chan c).publisher = some h ∧ (n'.chan c).publisher = none)) ∧
        ∀ c < n.chan.next, (n'.chan c).publisher ≠ some h := by
    intro todo
    induction todo with
    | nil =>
        intro state same done table next finished
        rw [List.foldlM_nil, pure_eq_ok] at finished
        subst finished
        exact ⟨table, next, same, fun c known => done c known List.not_mem_nil⟩
    | cons d todo ih =>
        intro state same done table next finished
        rw [List.foldlM_cons, bind_eq_ok] at finished
        obtain ⟨after, first, rest⟩ := finished
        split at first
        · next published =>
          have set := setPublisher_spec first
          refine ih after ?_ ?_ (set.table.trans table) (set.chanNext.trans next) rest
          · intro c
            rw [set.publisher c]
            split
            · next isD =>
              subst isD
              rcases same c with kept | ⟨was, _⟩
              · exact .inr ⟨kept ▸ published, rfl⟩
              · exact .inr ⟨was, rfl⟩
            · exact same c
          · intro c known notLater
            rw [set.publisher c]
            split
            · exact fun impossible => by cases impossible
            · next notD => exact done c known (by simp [notD, notLater])
        · next other =>
          obtain rfl := pure_eq_ok.mp first
          refine ih state same ?_ table next rest
          intro c known notLater
          by_cases isD : c = d
          · exact isD ▸ other
          · exact done c known (by simp [isD, notLater])
  obtain ⟨table, next, same, none⟩ := loop n.channels n (fun _ => .inl rfl)
    (fun c known missing => absurd (List.mem_range.mpr known) missing) rfl rfl ran
  refine ⟨table, next, ?_⟩
  intro c vacant
  split
  · next published =>
    have known : c < n.chan.next := by
      by_contra outside
      rw [vacant (Nat.not_lt.mp outside)] at published
      cases published
    rcases same c with kept | ⟨_, cleared⟩
    · exact absurd (kept.trans published) (none c known)
    · exact cleared
  · next other =>
    rcases same c with kept | ⟨was, _⟩
    · exact kept
    · exact absurd was other

/-! ## Sockets -/

/-- What `Host::on_close` does to the mesh. -/
def hostLost (m : Mesh) (h : HostPtr) (current : SockPtr) : Mesh :=
  (m.setHost h fun host => { host with bReady := false }).setSock current (·.close false)

/-- `on_close` of a signaling socket that belongs to `h` closes what `h` published. -/
theorem signalingClosed_cases {n n' : Node} {k : SockPtr} (ran : n.signalingClosed k = .ok n') :
    (n' = n ∧ ∀ h, (n.mesh.sock k).listeners ≠ some (.host h)) ∨
      ∃ h current, (n.mesh.sock k).listeners = some (.host h) ∧
        (n.mesh.host h).socket = some current ∧
        Node.closeAllChannels { n with mesh := hostLost n.mesh h current } h = .ok n' := by
  unfold signalingClosed at ran
  split at ran
  · next h listener =>
    unfold hostOnClose at ran
    dsimp only at ran
    split at ran
    · cases ran
    · next current socket =>
      refine .inr ⟨h, current, listener, ?_, ran⟩
      simpa only [Mesh.setHost, Heap.modify_self] using socket
  · next other => exact .inl ⟨(pure_eq_ok.mp ran).symm, fun h same => other h same⟩

theorem connected_chan (n : Node) (k : SockPtr) (c : ConnId) :
    (n.connected k c).chan = n.chan := by
  unfold connected
  dsimp only
  split <;> rfl

theorem dataConnected_connecting {n n' : Node} {k : SockPtr} {c : ConnId}
    (ran : n.dataConnected k c = .ok n') : Connecting n n' := by
  unfold dataConnected at ran
  dsimp only at ran
  split at ran
  · exact (connecting_setDataSock n k _).trans (subOnOpen_connecting ran)
  · exact pure_eq_ok.mp ran ▸ connecting_setDataSock n k _

theorem dataEof_quiet {n n' : Node} {k : SockPtr} (ran : n.dataEof k = .ok n') : Quiet n n' := by
  obtain ⟨closed, left, rest⟩ := bind_eq_ok.mp ran
  have toClosed : Quiet n closed := by
    unfold dataClosed at left
    split at left
    · exact ((closing_setDataSock n k _).trans (subOnClose_closing left)).quiet
    · exact pure_eq_ok.mp left ▸ (connecting_setDataSock n k _).quiet
  exact pure_eq_ok.mp rest ▸ toClosed.trans (connecting_setDataSock closed k _).quiet

theorem acceptSubscriptor_core (n : Node) (c : ChanPtr) (ip : Str) (port : Int32) (conn : ConnId)
    (d : ChanPtr) : ((n.acceptSubscriptor c ip port conn).chan d).core = (n.chan d).core := by
  unfold acceptSubscriptor
  split
  · rfl
  · simp only [setChan, Heap.modify_apply]
    split
    · next same => rw [same]; rfl
    · rfl

/-! ## A concrete node -/

/-- Data servers find the first port of their range free. -/
def firstPort (_ : ChanPtr) : DataPort :=
  ⟨10000, by decide⟩

end Node

end LibPubSub
