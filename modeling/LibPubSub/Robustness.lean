import LibPubSub.Throws

/-! Which lines a node survives. Only the statements about publishers, requests and offers
and the gossip about new hosts can fail; `Breaks` lists their ways to do so. -/

set_option autoImplicit false

namespace LibPubSub

open Fallible Transition

namespace Node

/-! ## Lines that break the loop -/

/-- `setPublisher(p)` on channel `c` disconnects a list whose loop reads past its end
or that has a subscription without socket. -/
def BreaksOff (n : Node) (c : ChanPtr) (p : Option HostPtr) : Prop :=
  (n.chan c).publisher.isSome ∧ (n.chan c).publisher ≠ p ∧
    (1 < (n.chan c).subscriptions.length ∨
      ∃ s ∈ (n.chan c).subscriptions, ∃ sub, n.sub s = some sub ∧ sub.socket = none)

/-- The channel that statement `t` names behind its type letter. -/
def statedChannel (n : Node) (t : Str) : Option ChanPtr :=
  n.getChannel (strBefore (t.drop 1) ['|'])

/-- The lines of a ready Host `h` whose handlers do something undefined, or throw what the
receive thread does not catch. -/
inductive Faults (n : Node) (h : HostPtr) (s : Str) : Prop where
  /-- `substr(1)` of an empty statement. -/
  | empty (bare : s = "PUBLISH=".toList ∨ s = "UNPUBLISH=".toList)
  | replaced {c : ChanPtr} (starts : strStartsWith s "PUBLISH=".toList = true)
      (type : (strAfter s ['=']).head? = some 'P')
      (known : n.statedChannel (strAfter s ['=']) = some c) (breaks : BreaksOff n c (some h))
  | cleared {c : ChanPtr} (starts : strStartsWith s "UNPUBLISH=".toList = true)
      (nonempty : strAfter s ['='] ≠ [])
      (known : n.statedChannel (strAfter s ['=']) = some c) (breaks : BreaksOff n c none)
  /-- An offer for a channel without publisher. -/
  | offeredTcp {c : ChanPtr} (starts : strStartsWith s "OFFER_TCP=".toList = true)
      (known : n.getChannel (strBefore (strAfter s ['=']) ['|']) = some c)
      (unpublished : (n.chan c).publisher = none)
      (needed : atoi (strAfter (strAfter s ['=']) ['|']) = 0 ∨
        ∃ t ∈ (n.chan c).subscriptions, ∃ sub, n.sub t = some sub ∧ sub.bConnected = false)
  | offeredShm {c : ChanPtr} (starts : strStartsWith s "OFFER_SHM=".toList = true)
      (known : n.getChannel (strBefore (strAfter s ['=']) ['|']) = some c)
      (unpublished : (n.chan c).publisher = none)
      (pathless : (decodeShm (strAfter (strAfter s ['=']) ['|'])).path = [])

/-- The lines of a ready Host `h` that a node in state `n` does not survive. -/
inductive Breaks (outside : Outside) (n : Node) (h : HostPtr) (s : Str) : Prop where
  | faults (faults : Faults n h s)
  | throws (throws : Throws outside n s)

/-! ## Calls that return -/

/-- A loop over the subscriptions of a channel returns if every round does. -/
private theorem loop_total {n : Node} {c : ChanPtr} {round : Node → SubPtr → Result Node}
    (listed : Listed n c)
    (total : ∀ mid s sub, mid.chan = n.chan → mid.sub s = some sub → sub.channel = c →
      ∃ next, round mid s = .ok next)
    (connecting : ∀ mid s next, round mid s = .ok next → Connecting mid next) :
    ∃ n', (n.chan c).subscriptions.foldlM round n = .ok n' := by
  obtain ⟨n', ran, _⟩ : ∃ n', (n.chan c).subscriptions.foldlM round n = .ok n' ∧
      Connecting n n' := by
    refine foldlM_total (Connecting.refl n) ?_
    intro mid s member before
    obtain ⟨sub, found, channel⟩ := listed s member
    have same := before.subChannel s
    rw [found, Option.map_some] at same
    obtain ⟨sub', found', channel'⟩ := Option.map_eq_some_iff.mp same
    obtain ⟨next, ran⟩ := total mid s sub' before.chan found' (channel'.trans channel)
    exact ⟨next, ran, before.trans (connecting mid s next ran)⟩
  exact ⟨n', ran⟩

theorem subConnectShm_total {n : Node} {s : SubPtr} {sub : SubscriptionImpl}
    (found : n.sub s = some sub) : ∃ n', n.subConnectShm s = .ok n' := by
  rw [subConnectShm, subAt_eq_ok.mpr found]
  simp only [bind, Except.bind]
  split <;> exact ⟨_, rfl⟩

theorem subConnectTcp_total {n : Node} {s : SubPtr} {sub : SubscriptionImpl}
    (found : n.sub s = some sub)
    (able : sub.bConnected = true ∨ (n.chan sub.channel).publisher.isSome) :
    ∃ n', n.subConnectTcp s = .ok n' := by
  rw [subConnectTcp, subAt_eq_ok.mpr found]
  simp only [bind, Except.bind]
  rcases able with connected | published
  · rw [if_pos connected]
    exact ⟨n, rfl⟩
  · obtain ⟨p, known⟩ := Option.isSome_iff_exists.mp published
    split
    · exact ⟨n, rfl⟩
    · rw [known]
      exact ⟨_, rfl⟩

theorem listed_record {n : Node} {c : ChanPtr} (listed : Listed n c) (call : Call) :
    Listed (n.record call) c :=
  listed

/-- `connect_shm()` needs a path or somebody to ask for it. -/
theorem connectShm_ok_iff {n : Node} {c : ChanPtr} (listed : Listed n c) :
    (∃ n', n.connectShm c = .ok n') ↔
      (n.chan c).publisher.isSome ∨ (n.chan c).offeredShmPath ≠ [] := by
  constructor
  · rintro ⟨n', ran⟩
    rcases connectShm_cases ran with ⟨_, p, known, _⟩ | ⟨path, _⟩
    · exact .inl (by rw [known]; rfl)
    · exact .inr path
  · intro able
    unfold connectShm
    dsimp only
    by_cases path : (n.chan c).offeredShmPath = []
    · obtain ⟨p, known⟩ := Option.isSome_iff_exists.mp
        (able.resolve_right fun offered => offered path)
      rw [if_pos path, known]
      exact ⟨_, rfl⟩
    · rw [if_neg path]
      refine loop_total (listed_record listed _) ?_ fun _ _ _ => subConnectShm_connecting
      exact fun mid s sub _ found _ => subConnectShm_total found

/-- Without publisher the loop of `connect_tcp()` gets past connected subscriptions
only. -/
private theorem loop_unpublished {subs : List SubPtr} {n n' : Node} {c : ChanPtr}
    (ran : subs.foldlM subConnectTcp n = .ok n')
    (attached : ∀ s ∈ subs, ∃ sub, n.sub s = some sub ∧ sub.channel = c)
    (unpublished : (n.chan c).publisher = none) :
    ∀ s ∈ subs, ∀ sub, n.sub s = some sub → sub.bConnected = true := by
  induction subs generalizing n with
  | nil => exact fun s member => absurd member List.not_mem_nil
  | cons t rest ih =>
      rw [List.foldlM_cons, bind_eq_ok] at ran
      obtain ⟨mid, first, later⟩ := ran
      obtain ⟨sub, found, ⟨connected, rfl⟩ | ⟨_, p, known, _⟩⟩ := subConnectTcp_cases first
      · intro s member other foundOther
        rcases List.mem_cons.mp member with rfl | member
        · obtain rfl := Option.some.inj (found.symm.trans foundOther)
          exact connected
        · exact ih later (fun s member => attached s (List.mem_cons_of_mem _ member)) unpublished
            s member other foundOther
      · obtain ⟨same, found', channel⟩ := attached t List.mem_cons_self
        obtain rfl := Option.some.inj (found.symm.trans found')
        rw [channel, unpublished] at known
        cases known

/-- `connect_tcp()` needs a publisher, unless a port is known and nobody dials. -/
theorem connectTcp_ok_iff {n : Node} {c : ChanPtr} (listed : Listed n c) :
    (∃ n', n.connectTcp c = .ok n') ↔ (n.chan c).publisher.isSome ∨
      ((n.chan c).offeredPort ≠ 0 ∧
        ∀ s ∈ (n.chan c).subscriptions, ∀ sub, n.sub s = some sub → sub.bConnected = true) := by
  constructor
  · rintro ⟨n', ran⟩
    rcases connectTcp_cases ran with ⟨_, p, known, _⟩ | ⟨offered, dialled⟩
    · exact .inl (by rw [known]; rfl)
    · cases known : (n.chan c).publisher with
      | some p => exact .inl rfl
      | none =>
          refine .inr ⟨offered, ?_⟩
          have all := loop_unpublished dialled (listed_record listed _) known
          exact all
  · intro able
    unfold connectTcp
    dsimp only
    by_cases offered : (n.chan c).offeredPort = 0
    · obtain ⟨p, known⟩ := Option.isSome_iff_exists.mp
        (able.resolve_right fun other => other.1 offered)
      rw [if_pos offered, known]
      exact ⟨_, rfl⟩
    · rw [if_neg offered]
      rcases able with published | ⟨_, connected⟩
      · refine loop_total (listed_record listed _) ?_ fun _ _ _ => subConnectTcp_connecting
        intro mid s sub chan found channel
        refine subConnectTcp_total found (.inr ?_)
        rw [chan, channel]
        exact published
      · -- no round does anything
        let start := n.record (.connectTcp c (n.chan c).publisher)
        obtain ⟨n', ran, _⟩ : ∃ n', (n.chan c).subscriptions.foldlM subConnectTcp start = .ok n' ∧
            n' = start := by
          refine foldlM_total rfl ?_
          rintro mid s member rfl
          obtain ⟨sub, found, _⟩ := listed s member
          have already := connected s member sub found
          obtain ⟨next, ran⟩ := subConnectTcp_total (n := start) found (.inl already)
          obtain ⟨sub', found', ⟨_, same⟩ | ⟨unconnected, _⟩⟩ := subConnectTcp_cases ran
          · exact ⟨next, ran, same⟩
          · obtain rfl := Option.some.inj (found'.symm.trans found)
            rw [already] at unconnected
            cases unconnected
        exact ⟨n', ran⟩

/-- With the port reset, the connections of a new publisher are only requested. -/
theorem connectWanted_total {n : Node} {c : ChanPtr} (listed : Listed n c) :
    ∃ n', n.connectWanted c = .ok n' := by
  unfold connectWanted
  split
  · next wanted =>
    obtain ⟨p, known⟩ := Option.isSome_iff_exists.mp wanted.2
    unfold connect
    rw [known]
    dsimp only
    split
    · exact ⟨n, rfl⟩
    · split
      · exact (connectShm_ok_iff listed).mpr (.inl wanted.2)
      · exact (connectTcp_ok_iff listed).mpr (.inl wanted.2)
  · exact ⟨n, rfl⟩

theorem populated_replacePublisher {n : Node} (populated : Populated n) (c : ChanPtr)
    (p : Option HostPtr) : Populated (n.replacePublisher c p) :=
  (replacePublisher_plain n c p).moves.changes.invariant populated fun _ _ populated change =>
    change.populated populated

theorem setPublisher_ok_iff {n : Node} {c : ChanPtr} {p : Option HostPtr}
    (populated : Populated n) : (∃ n', n.setPublisher c p = .ok n') ↔ ¬ BreaksOff n c p := by
  have rest : ∀ mid, Populated mid → ∃ n', (mid.replacePublisher c p).connectWanted c = .ok n' :=
    fun mid populated => connectWanted_total ((populated_replacePublisher populated c p).listed c)
  have loop := disconnect_ok_iff (populated.listed c)
  unfold setPublisher disconnectOther BreaksOff
  by_cases other : (n.chan c).publisher.isSome ∧ (n.chan c).publisher ≠ p
  · rw [if_pos other]
    constructor
    · rintro ⟨n', ran⟩ ⟨_, _, long⟩
      obtain ⟨mid, closed, _⟩ := bind_eq_ok.mp ran
      obtain ⟨single, sockets⟩ := loop.mp ⟨mid, closed⟩
      rcases long with many | ⟨s, member, sub, found, missing⟩
      · exact absurd single (Nat.not_le_of_lt many)
      · exact sockets s member sub found missing
    · intro whole
      have single : (n.chan c).subscriptions.length ≤ 1 := by
        by_contra many
        exact whole ⟨other.1, other.2, .inl (Nat.lt_of_not_le many)⟩
      obtain ⟨mid, closed⟩ := loop.mpr ⟨single, fun s member sub found missing =>
        whole ⟨other.1, other.2, .inr ⟨s, member, sub, found, missing⟩⟩⟩
      have midPopulated := (disconnectFrom_plain closed).moves.changes.invariant populated
        fun _ _ populated change => change.populated populated
      obtain ⟨n', ran⟩ := rest mid midPopulated
      exact ⟨n', bind_eq_ok.mpr ⟨mid, closed, ran⟩⟩
  · rw [if_neg other]
    refine iff_of_true ?_ fun breaks => other ⟨breaks.1, breaks.2.1⟩
    obtain ⟨n', ran⟩ := rest n populated
    exact ⟨n', bind_eq_ok.mpr ⟨n, rfl, ran⟩⟩

/-! ## The statements -/

theorem statementName_cons (type : Char) (rest : Str) :
    statementName (type :: rest) = .ok (strBefore rest ['|']) :=
  rfl

/-- A channel that has just been created has no publisher to break off with. -/
theorem not_breaksOff_created {n mid : Node} {name : Str} {c : ChanPtr} {p : Option HostPtr}
    (created : Created n mid name c) (unknown : n.getChannel name = none) :
    ¬ BreaksOff mid c p := by
  rintro ⟨published, _⟩
  have fresh : n.chan.next ≤ c := by
    by_contra old
    obtain ⟨found, _⟩ := created.found (Nat.lt_of_not_le old)
    rw [unknown] at found
    cases found
  rw [created.fresh fresh] at published
  cases published

theorem Created.populated {n mid : Node} {name : Str} {c : ChanPtr}
    (created : Created n mid name c) (populated : Populated n) : Populated mid :=
  created.changes.invariant populated fun _ _ populated change => change.populated populated

theorem applyPublishStatement_ok_iff {n : Node} {h : HostPtr} {t : Str}
    (populated : Populated n) : (∃ n', n.applyPublishStatement h t = .ok n') ↔ t ≠ [] ∧
      ∀ c, t.head? = some 'P' → n.statedChannel t = some c → ¬ BreaksOff n c (some h) := by
  cases t with
  | nil =>
      refine iff_of_false ?_ fun able => able.1 rfl
      rintro ⟨n', ran⟩
      cases ran
  | cons type rest =>
      constructor
      · rintro ⟨n', ran⟩
        refine ⟨List.cons_ne_nil _ _, ?_⟩
        intro c isP known
        obtain ⟨name, named, mid, d, made, created, set⟩ := applyPublishStatement_cases ran
        rw [statementName_cons, Except.ok.injEq] at named
        subst named
        have found : n.getChannel (strBefore rest ['|']) = some c := known
        rw [getOrCreateChannel_found found, Prod.mk.injEq] at made
        obtain ⟨rfl, rfl⟩ := made
        have letter : type = 'P' := Option.some.inj isP
        rcases set with ⟨_, set⟩ | ⟨other, _⟩
        · exact (setPublisher_ok_iff populated).mp ⟨n', set⟩
        · exact absurd letter other
      · rintro ⟨_, whole⟩
        have created := n.getOrCreateChannel_created (strBefore rest ['|'])
        have midPopulated := created.populated populated
        unfold applyPublishStatement
        rw [statementName_cons]
        dsimp only [bind, Except.bind, List.headD_cons]
        split
        · next isP =>
          refine (setPublisher_ok_iff midPopulated).mpr ?_
          cases known : n.getChannel (strBefore rest ['|']) with
          | none => exact not_breaksOff_created created known
          | some c =>
              rw [getOrCreateChannel_found known]
              exact whole c (by rw [isP]; rfl) known
        · split
          · split
            · exact ⟨_, rfl⟩
            · next unpublished =>
              exact (setPublisher_ok_iff midPopulated).mpr fun breaks => unpublished breaks.1
          · exact ⟨_, rfl⟩

theorem applyUnpublishStatement_ok_iff {n : Node} {h : HostPtr} {t : Str}
    (populated : Populated n) : (∃ n', n.applyUnpublishStatement h t = .ok n') ↔ t ≠ [] ∧
      ∀ c, n.statedChannel t = some c → ¬ BreaksOff n c none := by
  cases t with
  | nil =>
      refine iff_of_false ?_ fun able => able.1 rfl
      rintro ⟨n', ran⟩
      cases ran
  | cons type rest =>
      have stated : n.statedChannel (type :: rest) = n.getChannel (strBefore rest ['|']) := rfl
      rw [stated]
      unfold applyUnpublishStatement
      rw [statementName_cons]
      dsimp only [bind, Except.bind]
      cases known : n.getChannel (strBefore rest ['|']) with
      | none =>
          refine iff_of_true ⟨n, rfl⟩ ⟨List.cons_ne_nil _ _, ?_⟩
          exact fun c => nofun
      | some d =>
          dsimp only
          rw [setPublisher_ok_iff populated]
          constructor
          · intro whole
            refine ⟨List.cons_ne_nil _ _, fun c same => ?_⟩
            rwa [← Option.some.inj same]
          · exact fun able => able.2 d rfl

theorem populated_setChan {n : Node} (populated : Populated n) (c : ChanPtr)
    (change : ChannelImpl → ChannelImpl)
    (same : ∀ channel, (change channel).subscriptions = channel.subscriptions) :
    Populated (n.setChan c change) :=
  (changes_setChan n c change same).invariant populated fun _ _ populated change =>
    change.populated populated

/-- What `on_offer_tcp` needs. -/
theorem answerOfferTcp_ok_iff {n : Node} {h : HostPtr} {t : Str} (populated : Populated n) :
    (∃ n', n.answerOfferTcp h t = .ok n') ↔
      ∀ c, n.getChannel (strBefore t ['|']) = some c → (n.chan c).publisher.isSome ∨
        (atoi (strAfter t ['|']) ≠ 0 ∧
          ∀ s ∈ (n.chan c).subscriptions, ∀ sub, n.sub s = some sub → sub.bConnected = true) := by
  unfold answerOfferTcp
  dsimp only
  cases known : n.getChannel (strBefore t ['|']) with
  | none => exact iff_of_true ⟨n, rfl⟩ fun c => nofun
  | some c =>
      dsimp only [onOfferTcp]
      have kept : Populated ((n.record (.offeredTcp h c (atoi (strAfter t ['|'])))).setChan c
          fun channel => { channel with offeredPort := atoi (strAfter t ['|']) }) :=
        populated_setChan (n := n.record _) ⟨populated.listed, populated.vacant⟩ c _ fun _ => rfl
      rw [connectTcp_ok_iff (kept.listed c), setChan_self]
      constructor
      · intro able d same
        exact Option.some.inj same ▸ able
      · exact fun able => able c rfl

theorem answerOfferShm_ok_iff {n : Node} {h : HostPtr} {t : Str} (populated : Populated n) :
    (∃ n', n.answerOfferShm h t = .ok n') ↔
      ∀ c, n.getChannel (strBefore t ['|']) = some c → (n.chan c).publisher.isSome ∨
        (decodeShm (strAfter t ['|'])).path ≠ [] := by
  unfold answerOfferShm
  dsimp only
  cases known : n.getChannel (strBefore t ['|']) with
  | none => exact iff_of_true ⟨n, rfl⟩ fun c => nofun
  | some c =>
      dsimp only [onOfferShm]
      have kept : Populated ((n.record (.offeredShm h c (decodeShm (strAfter t ['|'])))).setChan c
          fun channel =>
            { channel with
              offeredShmPath := (decodeShm (strAfter t ['|'])).path
              size := (decodeShm (strAfter t ['|'])).size }) :=
        populated_setChan (n := n.record _) ⟨populated.listed, populated.vacant⟩ c _ fun _ => rfl
      rw [connectShm_ok_iff (kept.listed c), setChan_self]
      constructor
      · intro able d same
        exact Option.some.inj same ▸ able
      · exact fun able => able c rfl

theorem digest_offerShm {n : Node} {h : HostPtr} {s : Str}
    (starts : strStartsWith s "OFFER_SHM=".toList = true) :
    n.digestMessage h s = n.answerOfferShm h (strAfter s ['=']) := by
  have notPublish : strStartsWith s "PUBLISH=".toList = false :=
    strStartsWith_eq_false starts (by decide)
  have notUnpublish : strStartsWith s "UNPUBLISH=".toList = false :=
    strStartsWith_eq_false starts (by decide)
  have notConnectTcp : strStartsWith s "CONNECT_TCP=".toList = false :=
    strStartsWith_eq_false starts (by decide)
  have notConnectShm : strStartsWith s "CONNECT_SHM=".toList = false :=
    strStartsWith_eq_false starts (by decide)
  have notOfferTcp : strStartsWith s "OFFER_TCP=".toList = false :=
    strStartsWith_eq_false starts (by decide)
  rw [digestMessage, notPublish, notUnpublish, notConnectTcp, notConnectShm, notOfferTcp,
    if_neg Bool.false_ne_true, if_neg Bool.false_ne_true, if_neg Bool.false_ne_true,
    if_neg Bool.false_ne_true, if_neg Bool.false_ne_true, if_pos starts]

/-- A keyword of a statement is not mistaken for one of the handshake. -/
theorem onReceive_statement {n : Node} {h : HostPtr} {s start : Str}
    (ready : (n.mesh.host h).bReady = true) (starts : strStartsWith s start = true)
    (apart : ∀ other ∈ ["ID=".toList, "YOU=".toList, "Host=".toList],
      ¬ start <+: other ∧ ¬ other <+: start)
    (notConnected : strStartsWith "CONNECTED".toList start = false) :
    n.onReceive h s = n.digestMessage h s := by
  have notId : strStartsWith s "ID=".toList = false :=
    strStartsWith_eq_false starts (apart _ (by simp))
  have notYou : strStartsWith s "YOU=".toList = false :=
    strStartsWith_eq_false starts (apart _ (by simp))
  have notHost : strStartsWith s "Host=".toList = false :=
    strStartsWith_eq_false starts (apart _ (by simp))
  have different : s ≠ "CONNECTED".toList := by
    rintro rfl
    rw [starts] at notConnected
    cases notConnected
  rw [onReceive, notId, notYou, notHost, if_neg Bool.false_ne_true, if_neg Bool.false_ne_true,
    if_neg different, ready, if_neg (by decide), if_neg Bool.false_ne_true]

/-- Only the bare keyword has nothing behind its `=`. -/
theorem bare_of_strAfter (word : Str) {s : Str} (starts : strStartsWith s (word ++ ['=']) = true)
    (noSeparator : '=' ∉ word) (nothing : strAfter s ['='] = []) : s = word ++ ['='] := by
  obtain ⟨rest, rfl⟩ := strStartsWith_iff.mp starts
  rw [List.append_assoc, List.singleton_append, strAfter_separator noSeparator] at nothing
  rw [nothing, List.append_nil]

theorem digest_ok_of_not_faults {n : Node} {h : HostPtr} {s : Str} (populated : Populated n)
    (whole : ¬ Faults n h s) : ∃ n', n.digestMessage h s = .ok n' := by
  cases ran : n.digestMessage h s with
  | ok n' => exact ⟨n', rfl⟩
  | error fault =>
      exfalso
      rcases digest_error ran with ⟨starts, failed⟩ | ⟨starts, failed⟩ | ⟨starts, failed⟩ |
        ⟨starts, failed⟩
      · obtain ⟨n', done⟩ := (applyPublishStatement_ok_iff populated).mpr ⟨fun nothing =>
          whole (.empty (.inl (bare_of_strAfter "PUBLISH".toList starts (by decide)
            nothing))), fun c type known breaks => whole (.replaced starts type known breaks)⟩
        rw [failed] at done
        cases done
      · have nonempty : strAfter s ['='] ≠ [] := fun nothing =>
          whole (.empty (.inr (bare_of_strAfter "UNPUBLISH".toList starts (by decide)
            nothing)))
        obtain ⟨n', done⟩ := (applyUnpublishStatement_ok_iff (h := h) populated).mpr
          ⟨nonempty, fun c known breaks => whole (.cleared starts nonempty known breaks)⟩
        rw [failed] at done
        cases done
      · obtain ⟨n', done⟩ := (answerOfferTcp_ok_iff (h := h) populated).mpr fun c known => by
          by_contra unable
          obtain ⟨unpublished, needed⟩ := not_or.mp unable
          refine whole (.offeredTcp starts known (by simpa using unpublished) ?_)
          by_contra unneeded
          obtain ⟨offered, all⟩ := not_or.mp unneeded
          refine needed ⟨offered, fun t member sub found => ?_⟩
          by_contra unconnected
          exact all ⟨t, member, sub, found, by simpa using unconnected⟩
        rw [failed] at done
        cases done
      · obtain ⟨n', done⟩ := (answerOfferShm_ok_iff (h := h) populated).mpr fun c known => by
          by_contra unable
          obtain ⟨unpublished, pathless⟩ := not_or.mp unable
          exact whole (.offeredShm starts known (by simpa using unpublished)
            (by simpa using pathless))
        rw [failed] at done
        cases done

theorem onReceive_fails_of_faults {n : Node} {h : HostPtr} {s : Str} (populated : Populated n)
    (ready : (n.mesh.host h).bReady = true) (faults : Faults n h s) :
    ¬ ∃ n', n.onReceive h s = .ok n' := by
  cases faults with
  | empty bare =>
      rcases bare with rfl | rfl
      · have starts : strStartsWith "PUBLISH=".toList "PUBLISH=".toList = true := by decide
        rw [onReceive_statement ready starts (by decide) (by decide), digest_publish starts,
          applyPublishStatement_ok_iff populated]
        exact fun able => able.1 (by decide)
      · have starts : strStartsWith "UNPUBLISH=".toList "UNPUBLISH=".toList = true := by decide
        rw [onReceive_statement ready starts (by decide) (by decide), digest_unpublish starts,
          applyUnpublishStatement_ok_iff populated]
        exact fun able => able.1 (by decide)
  | replaced starts type known breaks =>
      rw [onReceive_statement ready starts (by decide) (by decide), digest_publish starts,
        applyPublishStatement_ok_iff populated]
      exact fun able => able.2 _ type known breaks
  | cleared starts nonempty known breaks =>
      rw [onReceive_statement ready starts (by decide) (by decide), digest_unpublish starts,
        applyUnpublishStatement_ok_iff populated]
      exact fun able => able.2 _ known breaks
  | offeredTcp starts known unpublished needed =>
      rw [onReceive_statement ready starts (by decide) (by decide), digest_offerTcp starts,
        answerOfferTcp_ok_iff populated]
      intro able
      rcases able _ known with published | ⟨offered, all⟩
      · rw [unpublished] at published
        cases published
      · rcases needed with zero | ⟨t, member, sub, found, unconnected⟩
        · exact offered zero
        · rw [all t member sub found] at unconnected
          cases unconnected
  | offeredShm starts known unpublished pathless =>
      rw [onReceive_statement ready starts (by decide) (by decide), digest_offerShm starts,
        answerOfferShm_ok_iff populated]
      intro able
      rcases able _ known with published | path
      · rw [unpublished] at published
        cases published
      · exact path pathless

theorem onReceive_ok_iff {n : Node} {h : HostPtr} {s : Str} (populated : Populated n)
    (ready : (n.mesh.host h).bReady = true) :
    (∃ n', n.onReceive h s = .ok n') ↔ ¬ Faults n h s := by
  constructor
  · exact fun returns faults => onReceive_fails_of_faults populated ready faults returns
  · intro whole
    obtain ⟨n', digested⟩ := digest_ok_of_not_faults populated whole
    unfold onReceive
    split
    · exact ⟨_, rfl⟩
    split
    · exact ⟨_, rfl⟩
    split
    · exact ⟨_, rfl⟩
    split
    · exact ⟨_, rfl⟩
    split
    · exact ⟨_, rfl⟩
    · exact ⟨n', digested⟩

/-- An outside that knows all names but the empty one and has no port to offer. -/
def portless : Outside where
  resolves ip := ip != []
  hostSocket := true
  subSocket _ := true
  freePort := false

end Node

end LibPubSub
