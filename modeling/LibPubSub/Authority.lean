import LibPubSub.Reactions

/-! Who may end a publication. `publisher_effect` lists the ways in which a reaction
changes the publisher of a channel; the law is then about who withdraws. -/

set_option autoImplicit false

namespace LibPubSub

open Fallible Transition

namespace Node

/-- `input` is the line `s` of the ready Host `h`, so that it can be a statement. -/
def Speaks (n : Node) (h : HostPtr) (s : Str) (input : Input) : Prop :=
  ∃ k, input = .line k s ∧ (n.mesh.sock k).listeners = some (.host h) ∧
    (n.mesh.host h).bReady = true

/-- `input` is an `UNPUBLISH=` of `h`, or the local `unpublish()` if `h` is this
node, on channel `c`. -/
inductive Withdraws (n : Node) (h : HostPtr) (c : ChanPtr) : Input → Prop where
  | statement {input : Input} {s name : Str} (speaks : n.Speaks h s input)
      (starts : strStartsWith s "UNPUBLISH=".toList = true)
      (named : statementName (strAfter s ['=']) = .ok name)
      (found : n.getChannel name = some c) : Withdraws n h c input
  | call {name : Str} (own : h = n.mesh.me) (found : n.getChannel name = some c) :
      Withdraws n h c (.unpublish name)

/-- `input` is a `PUBLISH=` of type `P` of `h`, or the local `publish()` if `h` is
this node, on channel `c`, which it may create. -/
inductive Announces (n : Node) (h : HostPtr) (c : ChanPtr) : Input → Prop where
  | statement {input : Input} {s name : Str} (speaks : n.Speaks h s input)
      (starts : strStartsWith s "PUBLISH=".toList = true)
      (named : statementName (strAfter s ['=']) = .ok name)
      (found : n.channelOf name = c)
      (type : (strAfter s ['=']).headD NUL = 'P') : Announces n h c input
  | call {name : Str} (own : h = n.mesh.me) (found : n.channelOf name = c) :
      Announces n h c (.publish name)

/-- The connection of `h` has ended. -/
def Disconnects (n : Node) (h : HostPtr) (input : Input) : Prop :=
  ∃ k, input = .eof k ∧ (n.mesh.sock k).listeners = some (.host h)

/-! ## What changes a publisher -/

/-- What a reaction to `input` did to the publisher of channel `c`. -/
inductive PublisherEffect (n : Node) (input : Input) (n' : Node) (c : ChanPtr) : Prop where
  | kept (same : (n'.chan c).publisher = (n.chan c).publisher)
  | withdrawn (h : HostPtr) (withdraws : n.Withdraws h c input)
      (cleared : (n'.chan c).publisher = none)
  | disconnected (h : HostPtr) (disconnects : n.Disconnects h input)
      (was : (n.chan c).publisher = some h) (cleared : (n'.chan c).publisher = none)
  | announced (h : HostPtr) (announces : n.Announces h c input)
      (ran : c < n.chan.next → h = n.mesh.me ∨ n.setPublisher c (some h) = .ok n')
      (set : (n'.chan c).publisher = some h)
  | learnt (h : HostPtr) (s : Str) (p : Option HostPtr) (speaks : n.Speaks h s input)
      (starts : strStartsWith s "PUBLISH=".toList = true)
      (otherType : (strAfter s ['=']).headD NUL ≠ 'P') (unknown : (n.chan c).publisher = none)
      (ran : c < n.chan.next → n.setPublisher c p = .ok n')

private theorem kept_of_connecting {n n' : Node} {input : Input} {c : ChanPtr}
    (connecting : Connecting n n') : PublisherEffect n input n' c :=
  .kept (by rw [connecting.chan])

private theorem kept_of_chan {n n' : Node} {input : Input} {c : ChanPtr}
    (same : n'.chan = n.chan) : PublisherEffect n input n' c :=
  .kept (by rw [same])

/-- `setPublisher` on the channel that `get_or_create_channel` has returned. -/
private theorem publisher_created {n mid n' : Node} {name : Str} {d : ChanPtr}
    {p : Option HostPtr} (created : Created n mid name d) (set : PublisherSet d p mid n')
    (c : ChanPtr) :
    (n'.chan c).publisher = (n.chan c).publisher ∨ (c = d ∧ (n'.chan c).publisher = p) := by
  rw [set.publisher c]
  by_cases same : c = d
  · exact .inr ⟨same, by rw [if_pos same]⟩
  · exact .inl (by rw [if_neg same, created.other c same])

private theorem publish_publisher {n n' : Node} {name : Str} {c : ChanPtr} (vacant : Vacant n c)
    (ran : n.publish name = .ok n') : PublisherEffect n (.publish name) n' c := by
  obtain ⟨mid, d, same, created, ⟨_, rfl⟩ | ⟨_, set, done, rfl⟩⟩ := publish_cases ran
  · exact .kept (created.publisher vacant)
  · rcases publisher_created created (setPublisher_spec done) c with kept | ⟨rfl, isSet⟩
    · exact .kept kept
    · exact .announced n.mesh.me (.call rfl (congrArg Prod.snd same)) (fun _ => .inl rfl) isSet

private theorem unpublish_publisher {n n' : Node} {name : Str} {c : ChanPtr}
    (ran : n.unpublish name = .ok n') : PublisherEffect n (.unpublish name) n' c := by
  rcases unpublish_cases ran with ⟨_, rfl⟩ | ⟨d, mid, found, set, connecting⟩
  · exact .kept rfl
  · have publisher := set.publisher c
    rw [← connecting.chan] at publisher
    by_cases same : c = d
    · rw [if_pos same] at publisher
      exact .withdrawn n.mesh.me (.call rfl (same ▸ found)) publisher
    · rw [if_neg same] at publisher
      exact .kept publisher

private theorem publish_statement_publisher {n n' : Node} {h : HostPtr} {s : Str} {input : Input}
    {c : ChanPtr} (vacant : Vacant n c) (speaks : n.Speaks h s input)
    (starts : strStartsWith s "PUBLISH=".toList = true)
    (ran : n.applyPublishStatement h (strAfter s ['=']) = .ok n') :
    PublisherEffect n input n' c := by
  obtain ⟨name, named, mid, d, same, created, ⟨type, set⟩ | ⟨type, rfl | ⟨_, unknown, set⟩⟩⟩ :=
    applyPublishStatement_cases ran
  · rcases publisher_created created (setPublisher_spec set) c with kept | ⟨rfl, isSet⟩
    · exact .kept kept
    · have found : n.channelOf name = c := congrArg Prod.snd same
      refine .announced h (.statement speaks starts named found type) ?_ isSet
      exact fun known => .inr ((created.found known).2 ▸ set)
  · exact .kept (created.publisher vacant)
  · rcases publisher_created created (setPublisher_spec set) c with kept | ⟨rfl, _⟩
    · exact .kept kept
    · rw [created.publisher vacant] at unknown
      exact .learnt h s _ speaks starts type unknown
        fun known => (created.found known).2 ▸ set

private theorem unpublish_statement_publisher {n n' : Node} {h : HostPtr} {s : Str}
    {input : Input} {c : ChanPtr} (speaks : n.Speaks h s input)
    (starts : strStartsWith s "UNPUBLISH=".toList = true)
    (ran : n.applyUnpublishStatement h (strAfter s ['=']) = .ok n') :
    PublisherEffect n input n' c := by
  obtain ⟨name, named, ⟨_, rfl⟩ | ⟨d, found, set⟩⟩ := applyUnpublishStatement_cases ran
  · exact .kept rfl
  · have publisher := (setPublisher_spec set).publisher c
    by_cases same : c = d
    · rw [if_pos same] at publisher
      exact .withdrawn h (.statement speaks starts named (same ▸ found)) publisher
    · rw [if_neg same] at publisher
      exact .kept publisher

private theorem line_publisher {n n' : Node} {k : SockPtr} {s : Str} {c : ChanPtr}
    (vacant : Vacant n c) (ran : n.line k s = .ok n') :
    PublisherEffect n (.line k s) n' c := by
  cases line_effect ran with
  | ignored same => exact .kept (by rw [same])
  | incoming _ result => exact kept_of_chan (by rw [result])
  | id _ _ result => exact kept_of_chan (by rw [result])
  | you _ _ _ result => exact kept_of_chan (by rw [result])
  | host _ _ _ _ result => exact kept_of_chan (by rw [result])
  | connected h _ mid published result =>
      refine kept_of_chan ?_
      rw [result]
      exact published ▸ (broadcastPublishedChannels_connecting _).chan
  | statement h listener ready digested =>
      have speaks : n.Speaks h s (.line k s) := ⟨k, rfl, listener, ready⟩
      cases digest_effect digested with
      | publish starts ran => exact publish_statement_publisher vacant speaks starts ran
      | unpublish starts ran => exact unpublish_statement_publisher speaks starts ran
      | connectTcp _ result => exact .kept (result ▸ makeOfferTcp_samePublishers n h _ c)
      | connectShm _ result => exact .kept (result ▸ makeOfferShm_samePublishers n h _ c)
      | offerTcp _ ran => exact .kept (answerOfferTcp_samePublishers ran c)
      | offerShm _ ran => exact .kept (answerOfferShm_samePublishers ran c)
      | unknown same => exact .kept (by rw [same])

private theorem eof_publisher {n n' : Node} {k : SockPtr} {c : ChanPtr} (vacant : Vacant n c)
    (ran : n.eof k = .ok n') : PublisherEffect n (.eof k) n' c := by
  obtain ⟨closed, left, rest⟩ := bind_eq_ok.mp ran
  obtain rfl := pure_eq_ok.mp rest
  rcases signalingClosed_cases left with ⟨rfl, _⟩ | ⟨h, current, listener, _, ran⟩
  · exact .kept rfl
  · obtain ⟨_, _, publishers⟩ := closeAllChannels_spec ran
    have publisher := publishers c vacant
    have listener : (n.mesh.sock k).listeners = some (.host h) := by
      simpa only [Mesh.setSock_sock, Heap.modify_self, TCPSocket.closeFd] using listener
    by_cases published : (n.chan c).publisher = some h
    · rw [if_pos published] at publisher
      exact .disconnected h ⟨k, rfl, listener⟩ published publisher
    · rw [if_neg published] at publisher
      exact .kept publisher

theorem publisher_effect {n n' : Node} {input : Input} (stepped : Step n input n')
    {c : ChanPtr} (vacant : Vacant n c) : PublisherEffect n input n' c := by
  cases input with
  | addHost ip port => exact kept_of_chan (by rw [← pure_eq_ok.mp stepped])
  | publish name => exact publish_publisher vacant stepped
  | unpublish name => exact unpublish_publisher stepped
  | subscribe name => exact .kept (subscribe_publisher vacant stepped)
  | announce =>
      exact kept_of_connecting (pure_eq_ok.mp stepped ▸ broadcastPublishedChannels_connecting n)
  | connected k conn => exact kept_of_chan (pure_eq_ok.mp stepped ▸ connected_chan n k conn)
  | accepted ip port conn => exact kept_of_chan (by rw [← pure_eq_ok.mp stepped]; rfl)
  | line k s => exact line_publisher vacant stepped
  | eof k => exact eof_publisher vacant stepped
  | dataConnected k conn => exact kept_of_connecting (dataConnected_connecting stepped)
  | dataAccepted channel ip port conn =>
      have core := acceptSubscriptor_core n channel ip port conn c
      exact .kept (pure_eq_ok.mp stepped ▸ ChannelImpl.publisher_of_core core)
  | dataEof k => exact .kept ((dataEof_quiet stepped).publisher c)

/-! ## The law -/

/-- What may take a channel away from its publisher `p`. -/
inductive Justified (n : Node) (input : Input) (n' : Node) (c : ChanPtr) (p : HostPtr) : Prop where
  | withdrawn (withdraws : n.Withdraws p c input)
  | disconnected (disconnects : n.Disconnects p input)
  | takenOver (h : HostPtr) (other : h ≠ p) (announces : n.Announces h c input)
      (set : (n'.chan c).publisher = some h)

/-- A channel loses its publisher only for a reason that justifies it. -/
def Obeys (n : Node) (input : Input) (n' : Node) : Prop :=
  ∀ c < n.chan.next, ∀ p, (n.chan c).publisher = some p → (n'.chan c).publisher ≠ some p →
    Justified n input n' c p

/-- Whoever withdraws a channel is its publisher, if it has one. -/
def Entitled (n : Node) (input : Input) : Prop :=
  ∀ h c, n.Withdraws h c input → ∀ p, (n.chan c).publisher = some p → p = h

theorem Speaks.unique {n : Node} {h h' : HostPtr} {s s' : Str} {input : Input}
    (speaks : n.Speaks h s input) (speaks' : n.Speaks h' s' input) : h = h' ∧ s = s' := by
  obtain ⟨k, rfl, listener, _⟩ := speaks
  obtain ⟨k', same, listener', _⟩ := speaks'
  injection same with sameSock sameText
  subst sameSock
  rw [listener, Option.some.injEq, SignalingListener.host.injEq] at listener'
  exact ⟨listener', sameText⟩

private theorem Announces.not_withdraws {n : Node} {h h' : HostPtr} {c d : ChanPtr}
    {input : Input} (announces : n.Announces h d input) : ¬ n.Withdraws h' c input := by
  intro withdraws
  cases withdraws with
  | statement speaks starts =>
      cases announces with
      | statement speaks' starts' =>
          obtain ⟨_, rfl⟩ := speaks.unique speaks'
          exact absurd (strStartsWith_comparable starts starts') (by decide)
      | call => obtain ⟨k, impossible, _⟩ := speaks; cases impossible
  | call =>
      cases announces with
      | statement speaks => obtain ⟨k, impossible, _⟩ := speaks; cases impossible

private theorem Disconnects.not_withdraws {n : Node} {h h' : HostPtr} {c : ChanPtr}
    {input : Input} (disconnects : n.Disconnects h input) : ¬ n.Withdraws h' c input := by
  obtain ⟨k, rfl, _⟩ := disconnects
  intro withdraws
  cases withdraws with
  | statement speaks => obtain ⟨_, impossible, _⟩ := speaks; cases impossible

theorem Withdraws.unique {n : Node} {h h' : HostPtr} {c c' : ChanPtr} {input : Input}
    (withdraws : n.Withdraws h c input) (withdraws' : n.Withdraws h' c' input) : h = h' := by
  cases withdraws with
  | statement speaks =>
      cases withdraws' with
      | statement speaks' => exact (speaks.unique speaks').1
      | call => obtain ⟨_, impossible, _⟩ := speaks; cases impossible
  | call own =>
      cases withdraws' with
      | statement speaks => obtain ⟨_, impossible, _⟩ := speaks; cases impossible
      | call own' => exact own.trans own'.symm

/-- Whoever withdraws a channel clears its publisher. -/
theorem Withdraws.ran {n n' : Node} {h : HostPtr} {c : ChanPtr} {input : Input}
    (withdraws : n.Withdraws h c input) (stepped : Step n input n') :
    c < n.chan.next ∧ ∃ mid, n.setPublisher c none = .ok mid ∧ Connecting mid n' := by
  cases withdraws with
  | @call name own found =>
      have ran : n.unpublish name = .ok n' := stepped
      simp only [unpublish, found] at ran
      obtain ⟨mid, set, rest⟩ := bind_eq_ok.mp ran
      obtain rfl := pure_eq_ok.mp rest
      exact ⟨(getChannel_eq_some found).1, mid, set, connecting_broadcast _ _⟩
  | @statement _ s _ speaks starts named found =>
      obtain ⟨k, rfl, listener, ready⟩ := speaks
      have digested : n.line k s = .ok n' := stepped
      rw [line_keyword listener ready .unpublish starts, digest_unpublish starts] at digested
      obtain ⟨name', named', rest⟩ := applyUnpublishStatement_cases digested
      rw [named, Except.ok.injEq] at named'
      subst named'
      rcases rest with ⟨missing, _⟩ | ⟨d, found', set⟩
      · rw [missing] at found
        cases found
      · rw [found, Option.some.injEq] at found'
        subst found'
        exact ⟨(getChannel_eq_some found).1, n', set, Connecting.refl n'⟩

/-- Whoever announces a channel becomes its publisher. -/
theorem Announces.ran {n n' : Node} {h : HostPtr} {c : ChanPtr} {input : Input}
    (announces : n.Announces h c input) (known : c < n.chan.next) (stepped : Step n input n') :
    (n.chan c).publisher = some h ∨
      ∃ mid, n.setPublisher c (some h) = .ok mid ∧ Connecting mid n' := by
  cases announces with
  | @call name own found =>
      obtain ⟨mid, d, same, created, result⟩ := publish_cases stepped
      obtain rfl : d = c := (congrArg Prod.snd same).symm.trans found
      obtain rfl := (created.found known).2
      rcases result with ⟨already, _⟩ | ⟨_, set, done, rfl⟩
      · exact .inl (own ▸ already)
      · exact .inr ⟨set, own ▸ done, connecting_broadcast _ _⟩
  | @statement _ s _ speaks starts named found type =>
      obtain ⟨k, rfl, listener, ready⟩ := speaks
      have digested : n.line k s = .ok n' := stepped
      rw [line_keyword listener ready .publish starts, digest_publish starts] at digested
      obtain ⟨name', named', mid, d, same, created, result⟩ :=
        applyPublishStatement_cases digested
      rw [named, Except.ok.injEq] at named'
      subst named'
      obtain rfl : d = c := (congrArg Prod.snd same).symm.trans found
      obtain rfl := (created.found known).2
      rcases result with ⟨_, set⟩ | ⟨otherType, _⟩
      · exact .inr ⟨n', set, Connecting.refl n'⟩
      · exact absurd type otherType

private theorem entitled_of_obeys {n n' : Node} {input : Input} (stepped : Step n input n')
    (obeys : Obeys n input n') : Entitled n input := by
  intro h c withdraws p published
  obtain ⟨known, mid, set, connecting⟩ := withdraws.ran stepped
  have cleared : (n'.chan c).publisher = none := by
    rw [connecting.chan, (setPublisher_spec set).publisher c, if_pos rfl]
  have lost : (n'.chan c).publisher ≠ some p := by
    rw [cleared]
    exact nofun
  cases obeys c known p published lost with
  | withdrawn own => exact own.unique withdraws
  | disconnected disconnects => exact absurd withdraws disconnects.not_withdraws
  | takenOver h' _ announces _ => exact absurd withdraws announces.not_withdraws

private theorem obeys_of_entitled {n n' : Node} {input : Input} (stepped : Step n input n')
    (entitled : Entitled n input) : Obeys n input n' := by
  intro c known p published lost
  have vacant : Vacant n c := fun outside => absurd known (Nat.not_lt.mpr outside)
  cases publisher_effect stepped vacant with
  | kept same => exact absurd (same.trans published) lost
  | withdrawn h withdraws _ =>
      have own := entitled h c withdraws p published
      exact .withdrawn (own ▸ withdraws)
  | disconnected h disconnects was _ =>
      have same : h = p := Option.some.inj (was.symm.trans published)
      exact .disconnected (same ▸ disconnects)
  | announced h announces _ set =>
      refine .takenOver h ?_ announces set
      rintro rfl
      exact lost set
  | learnt _ _ _ _ _ _ unknown _ =>
      rw [unknown] at published
      cases published

/-- Along every run, a channel loses its publisher only by the publisher's own
withdrawal, by its disconnection or by a takeover, exactly if every withdrawal
in the run is made by the publisher of the channel, if it has one. -/
theorem every_obeys_iff {start : Node} {trace : List (Input × Node)}
    (ran : Every Step start trace) :
    Every Obeys start trace ↔ Every (fun n input _ => Entitled n input) start trace :=
  ran.congr fun _ _ _ stepped => ⟨entitled_of_obeys stepped, obeys_of_entitled stepped⟩

/-- `Entitled`, as a test. -/
private def entitledly (n : Node) : Input → Bool
  | .unpublish name =>
      (n.getChannel name).all fun c => (n.chan c).publisher.all (· == n.mesh.me)
  | .line k s =>
      match (n.mesh.sock k).listeners, statementName (strAfter s ['=']) with
      | some (.host h), .ok name =>
          !strStartsWith s "UNPUBLISH=".toList ||
            (n.getChannel name).all fun c => (n.chan c).publisher.all (· == h)
      | _, _ => true
  | _ => true

private theorem entitled_of_entitledly {n : Node} {input : Input}
    (test : entitledly n input = true) : Entitled n input := by
  intro h c withdraws p published
  cases withdraws with
  | call own found =>
      simp only [entitledly, found, published, Option.all_some, beq_iff_eq] at test
      exact test.trans own.symm
  | statement speaks starts named found =>
      obtain ⟨k, rfl, listens, -⟩ := speaks
      simp only [entitledly, listens, named, found, published, starts, Option.all_some,
        Bool.not_true, Bool.false_or, beq_iff_eq] at test
      exact test

/-- 10.0.0.2 publishes `c`, 10.0.0.3 takes the channel over and then withdraws it. -/
theorem publish_obeys : ∃ trace n',
    Every Step (init 1 10000 firstPort) (trace ++ [(.line 1 "UNPUBLISH=Nc|".toList, n')]) ∧
      Every Obeys (init 1 10000 firstPort) (trace ++ [(.line 1 "UNPUBLISH=Nc|".toList, n')]) ∧
      ((final (init 1 10000 firstPort) trace).chan 0).publisher = some 2 ∧
      (n'.chan 0).publisher = none := by
  have replayed : replay react entitledly (fun n n' => (n.chan 0).publisher = some 2 ∧
        (n'.chan 0).publisher = none)
      (.line 1 "UNPUBLISH=Nc|".toList) (init 1 10000 firstPort)
      [.accepted "10.0.0.2".toList 40000 0, .line 0 "ID=2|PORT=10000".toList,
        .line 0 "CONNECTED".toList,
        .accepted "10.0.0.3".toList 40000 1, .line 1 "ID=3|PORT=10000".toList,
        .line 1 "CONNECTED".toList,
        .line 0 "PUBLISH=Pc|10.0.0.2:10000".toList,
        .line 1 "PUBLISH=Pc|10.0.0.3:10000".toList] = true := by decide +kernel
  obtain ⟨trace, n', ran, checked⟩ := replay_run replayed
  exact ⟨trace, n', ran.of_under, (every_obeys_iff ran.of_under).mpr
    (ran.mono fun _ _ _ stepped => entitled_of_entitledly stepped.1), of_decide_eq_true checked⟩

/-- Hosts 10.0.0.2 and 10.0.0.3 connect, the first publishes `c` and the second
withdraws it. -/
theorem not_every_obeys :
    ¬ ∀ (ID port : Int32) (bindPort : ChanPtr → DataPort) (trace : List (Input × Node)),
      Every Step (init ID port bindPort) trace → Every Obeys (init ID port bindPort) trace := by
  intro law
  let withdrawal : Str := "UNPUBLISH=Nc|".toList
  have replayed : replay react (fun _ _ => true) (fun n _ =>
        (n.mesh.sock 1).listeners = some (.host 2) ∧ (n.mesh.host 2).bReady ∧
          n.getChannel ['c'] = some 0 ∧ (n.chan 0).publisher = some 1)
      (.line 1 withdrawal) (init 1 10000 firstPort)
      [.accepted "10.0.0.2".toList 40000 0, .line 0 "ID=2|PORT=10000".toList,
        .line 0 "CONNECTED".toList,
        .accepted "10.0.0.3".toList 40000 1, .line 1 "ID=3|PORT=10000".toList,
        .line 1 "CONNECTED".toList,
        .line 0 "PUBLISH=Pc|10.0.0.2:10000".toList] = true := by decide
  obtain ⟨trace, n', allowed, checked⟩ := replay_run replayed
  have ran := allowed.of_under
  obtain ⟨listener, ready, found, published⟩ := of_decide_eq_true checked
  have obeys := ((every_append _ _).mp (law _ _ _ _ ran)).2.1
  have stepped := ((every_append _ _).mp ran).2.1
  have speaks : (final _ trace).Speaks 2 withdrawal (.line 1 withdrawal) :=
    ⟨1, rfl, listener, ready⟩
  have withdraws := Withdraws.statement speaks (by decide) rfl found
  exact absurd (entitled_of_obeys stepped obeys 2 0 withdraws 1 published) (by decide)

end Node

end LibPubSub
