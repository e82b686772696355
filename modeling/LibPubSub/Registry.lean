import LibPubSub.Authority

/-! The channel registry. No reaction renames or removes a channel, and a channel is
only created under a name that no other has, so names stay unique. -/

set_option autoImplicit false

namespace LibPubSub

open Fallible Transition

namespace Node

/-- No two channels have one name, and a channel to come has no publisher yet. -/
structure Named (n : Node) : Prop where
  unique : ∀ c < n.chan.next, ∀ d < n.chan.next, (n.chan c).name = (n.chan d).name → c = d
  vacant : ∀ c, Vacant n c

theorem named_init (ID port : Int32) (bindPort : ChanPtr → DataPort) :
    Named (init ID port bindPort) where
  unique _ known := absurd known (Nat.not_lt_zero _)
  vacant _ _ := rfl

theorem Named.getChannel {n : Node} {c : ChanPtr} (named : Named n) (known : c < n.chan.next) :
    n.getChannel (n.chan c).name = some c := by
  cases found : n.getChannel (n.chan c).name with
  | none => exact absurd rfl (getChannel_eq_none found known)
  | some d =>
      obtain ⟨inside, same⟩ := getChannel_eq_some found
      rw [named.unique d inside c known same]

/-- What every reaction does to the registry. -/
structure KeepsRegistry (n n' : Node) : Prop where
  named : Named n → Named n'
  next : n.chan.next ≤ n'.chan.next
  name : ∀ c < n.chan.next, (n'.chan c).name = (n.chan c).name

namespace KeepsRegistry

theorem refl (n : Node) : KeepsRegistry n n :=
  ⟨id, Nat.le_refl _, fun _ _ => rfl⟩

theorem trans {n mid n' : Node} (first : KeepsRegistry n mid) (second : KeepsRegistry mid n') :
    KeepsRegistry n n' where
  named := second.named ∘ first.named
  next := Nat.le_trans first.next second.next
  name c known :=
    (second.name c (Nat.lt_of_lt_of_le known first.next)).trans (first.name c known)

/-- Nothing was created, and what is not there yet was left alone. -/
theorem of_same {n n' : Node} (next : n'.chan.next = n.chan.next)
    (name : ∀ c, (n'.chan c).name = (n.chan c).name)
    (beyond : ∀ c, n.chan.next ≤ c → (n'.chan c).publisher = (n.chan c).publisher) :
    KeepsRegistry n n' := by
  refine ⟨?_, Nat.le_of_eq next.symm, fun c _ => name c⟩
  intro named
  constructor
  · intro c known d known'
    rw [next] at known known'
    rw [name, name]
    exact named.unique c known d known'
  · intro c outside
    rw [next] at outside
    rw [beyond c outside]
    exact named.vacant c outside

theorem of_chan {n n' : Node} (same : n'.chan = n.chan) : KeepsRegistry n n' :=
  of_same (by rw [same]) (fun c => by rw [same]) (fun c _ => by rw [same])

end KeepsRegistry

theorem keepsRegistry_mesh (n : Node) (m : Mesh) : KeepsRegistry n { n with mesh := m } :=
  .of_chan rfl

theorem keepsRegistry_record (n : Node) (call : Call) : KeepsRegistry n (n.record call) :=
  .of_chan rfl

theorem Quiet.keepsRegistry {n n' : Node} (quiet : Quiet n n') : KeepsRegistry n n' :=
  .of_same quiet.chanNext quiet.name fun c _ => quiet.publisher c

theorem PublisherSet.keepsRegistry {n n' : Node} {c : ChanPtr} {p : Option HostPtr}
    (set : PublisherSet c p n n') (known : c < n.chan.next) : KeepsRegistry n n' := by
  refine .of_same set.chanNext set.name ?_
  intro d outside
  have other : d ≠ c := Nat.ne_of_gt (Nat.lt_of_lt_of_le known outside)
  rw [set.publisher d, if_neg other]

theorem keepsRegistry_setChan (n : Node) (c : ChanPtr) (change : ChannelImpl → ChannelImpl)
    (same : ∀ channel, (change channel).name = channel.name ∧
      (change channel).publisher = channel.publisher) :
    KeepsRegistry n (n.setChan c change) := by
  have fields : ∀ d, ((n.setChan c change).chan d).name = (n.chan d).name ∧
      ((n.setChan c change).chan d).publisher = (n.chan d).publisher := by
    intro d
    by_cases isC : d = c
    · rw [isC, setChan_self]
      exact same _
    · rw [setChan_of_ne _ _ isC]
      exact ⟨rfl, rfl⟩
  exact .of_same rfl (fun d => (fields d).1) fun d _ => (fields d).2

theorem Created.keepsRegistry {n n' : Node} {name : Str} {c : ChanPtr}
    (created : Created n n' name c) : KeepsRegistry n n' := by
  by_cases known : c < n.chan.next
  · exact (created.found known).2 ▸ KeepsRegistry.refl n
  · have outside := Nat.not_lt.mp known
    obtain ⟨missing, isNext, grown⟩ := created.made outside
    refine ⟨?_, created.chanNext, fun d old => by rw [created.old d old]⟩
    intro named
    -- the new name differs from all old ones
    have differs : ∀ d < n.chan.next, (n'.chan d).name ≠ name := by
      intro d old
      rw [created.old d old]
      exact getChannel_eq_none missing old
    constructor
    · intro d inside e inside' same
      rw [grown, ← isNext] at inside inside'
      rcases Nat.lt_succ_iff_lt_or_eq.mp inside with old | rfl
      · rcases Nat.lt_succ_iff_lt_or_eq.mp inside' with old' | rfl
        · rw [isNext] at old old'
          rw [created.old d old, created.old e old'] at same
          exact named.unique d old e old' same
        · exact absurd (same.trans created.named) (differs d (isNext ▸ old))
      · rcases Nat.lt_succ_iff_lt_or_eq.mp inside' with old' | rfl
        · exact absurd (same.symm.trans created.named) (differs e (isNext ▸ old'))
        · rfl
    · intro d later
      have other : d ≠ c := (Nat.lt_of_lt_of_le created.known later).ne'
      rw [created.other d other]
      exact named.vacant d (Nat.le_trans created.chanNext later)

/-! ## The reactions -/

theorem setPublisher_keepsRegistry {n n' : Node} {c : ChanPtr} {p : Option HostPtr}
    (known : c < n.chan.next) (ran : n.setPublisher c p = .ok n') : KeepsRegistry n n' :=
  (setPublisher_spec ran).keepsRegistry known

private theorem closeAllChannels_keepsRegistry {n n' : Node} {h : HostPtr}
    (ran : n.closeAllChannels h = .ok n') : KeepsRegistry n n' := by
  refine foldlM_invariant ran (KeepsRegistry.refl n) ?_
  intro state c next member kept stepped
  split at stepped
  · have inside := Nat.lt_of_lt_of_le (List.mem_range.mp member) kept.next
    exact kept.trans (setPublisher_keepsRegistry inside stepped)
  · exact pure_eq_ok.mp stepped ▸ kept

private theorem offer_keepsRegistry {n : Node} (c : ChanPtr) (h : HostPtr) :
    KeepsRegistry n (n.offerTcp c h) ∧ KeepsRegistry n (n.offerShm c h) := by
  constructor
  · refine KeepsRegistry.trans ?_ (connecting_send _ h _).quiet.keepsRegistry
    exact keepsRegistry_setChan n c _ fun _ => ⟨rfl, rfl⟩
  · refine KeepsRegistry.trans ?_ (connecting_send _ h _).quiet.keepsRegistry
    exact keepsRegistry_setChan n c _ fun _ => ⟨rfl, rfl⟩

private theorem digest_keepsRegistry {n n' : Node} {h : HostPtr} {s : Str}
    (ran : n.digestMessage h s = .ok n') : KeepsRegistry n n' := by
  cases digest_effect ran with
  | publish _ ran =>
      obtain ⟨_, _, mid, c, _, created, ⟨_, set⟩ | ⟨_, rfl | ⟨_, _, set⟩⟩⟩ :=
        applyPublishStatement_cases ran
      · exact created.keepsRegistry.trans (setPublisher_keepsRegistry created.known set)
      · exact created.keepsRegistry
      · exact created.keepsRegistry.trans (setPublisher_keepsRegistry created.known set)
  | unpublish _ ran =>
      obtain ⟨_, _, ⟨_, rfl⟩ | ⟨c, found, set⟩⟩ := applyUnpublishStatement_cases ran
      · exact KeepsRegistry.refl n'
      · exact setPublisher_keepsRegistry (getChannel_eq_some found).1 set
  | connectTcp _ result =>
      rw [result]
      unfold makeOfferTcp
      split
      · exact (offer_keepsRegistry _ h).1
      · exact KeepsRegistry.refl n
  | connectShm _ result =>
      rw [result]
      unfold makeOfferShm
      split
      · exact (offer_keepsRegistry _ h).2
      · exact KeepsRegistry.refl n
  | offerTcp _ ran =>
      unfold answerOfferTcp at ran
      dsimp only at ran
      split at ran
      · refine KeepsRegistry.trans ?_ (connectTcp_connecting ran).quiet.keepsRegistry
        refine (keepsRegistry_record n _).trans (keepsRegistry_setChan _ _ _ ?_)
        exact fun _ => ⟨rfl, rfl⟩
      · exact pure_eq_ok.mp ran ▸ KeepsRegistry.refl n
  | offerShm _ ran =>
      unfold answerOfferShm at ran
      dsimp only at ran
      split at ran
      · refine KeepsRegistry.trans ?_ (connectShm_connecting ran).quiet.keepsRegistry
        refine (keepsRegistry_record n _).trans (keepsRegistry_setChan _ _ _ ?_)
        exact fun _ => ⟨rfl, rfl⟩
      · exact pure_eq_ok.mp ran ▸ KeepsRegistry.refl n
  | unknown same => exact same ▸ KeepsRegistry.refl n

private theorem line_keepsRegistry {n n' : Node} {k : SockPtr} {s : Str}
    (ran : n.line k s = .ok n') : KeepsRegistry n n' := by
  cases line_effect ran with
  | ignored same => exact same ▸ KeepsRegistry.refl n
  | incoming _ result => exact .of_chan (by rw [result])
  | id _ _ result => exact .of_chan (by rw [result])
  | you _ _ _ result => exact .of_chan (by rw [result])
  | host _ _ _ _ result => exact .of_chan (by rw [result])
  | connected h _ mid published result =>
      refine .of_chan ?_
      rw [result]
      exact published ▸ (broadcastPublishedChannels_connecting _).chan
  | statement h _ _ digested => exact digest_keepsRegistry digested

theorem step_keepsRegistry {n n' : Node} {input : Input} (stepped : Step n input n') :
    KeepsRegistry n n' := by
  cases input with
  | addHost ip port => exact .of_chan (by rw [← pure_eq_ok.mp stepped])
  | publish name =>
      obtain ⟨mid, c, _, created, ⟨_, rfl⟩ | ⟨_, set, done, rfl⟩⟩ := publish_cases stepped
      · exact created.keepsRegistry
      · exact (created.keepsRegistry.trans (setPublisher_keepsRegistry created.known done)).trans
          (connecting_broadcast _ _).quiet.keepsRegistry
  | unpublish name =>
      rcases unpublish_cases stepped with ⟨_, rfl⟩ | ⟨c, mid, found, set, connecting⟩
      · exact KeepsRegistry.refl n'
      · exact (set.keepsRegistry (getChannel_eq_some found).1).trans connecting.quiet.keepsRegistry
  | subscribe name =>
      obtain ⟨mid, c, _, created, connected⟩ := subscribe_cases stepped
      refine (created.keepsRegistry.trans ?_).trans (connect_connecting connected).quiet.keepsRegistry
      have core := mid.addSubscription_core c
      exact .of_same rfl (fun d => ChannelImpl.name_of_core (core d))
        fun d _ => ChannelImpl.publisher_of_core (core d)
  | announce =>
      exact .of_chan (pure_eq_ok.mp stepped ▸ (broadcastPublishedChannels_connecting n).chan)
  | connected k conn => exact .of_chan (pure_eq_ok.mp stepped ▸ connected_chan n k conn)
  | accepted ip port conn => exact .of_chan (by rw [← pure_eq_ok.mp stepped]; rfl)
  | line k s => exact line_keepsRegistry stepped
  | eof k =>
      obtain ⟨closed, left, rest⟩ := bind_eq_ok.mp stepped
      obtain rfl := pure_eq_ok.mp rest
      rcases signalingClosed_cases left with ⟨rfl, _⟩ | ⟨h, current, _, _, ran⟩
      · exact .of_chan rfl
      · have closing := closeAllChannels_keepsRegistry ran
        exact ((keepsRegistry_mesh n _).trans closing).trans (keepsRegistry_mesh closed _)
  | dataConnected k conn => exact (dataConnected_connecting stepped).quiet.keepsRegistry
  | dataAccepted c ip port conn =>
      have core := acceptSubscriptor_core n c ip port conn
      have next : (n.acceptSubscriptor c ip port conn).chan.next = n.chan.next := by
        unfold acceptSubscriptor
        split <;> rfl
      refine pure_eq_ok.mp stepped ▸ .of_same next ?_ ?_
      · exact fun d => ChannelImpl.name_of_core (core d)
      · exact fun d _ => ChannelImpl.publisher_of_core (core d)
  | dataEof k => exact (dataEof_quiet stepped).keepsRegistry

/-- In every state of every run, channel names are unique. -/
theorem always_named (ID port : Int32) (bindPort : ChanPtr → DataPort)
    {trace : List (Input × Node)} (ran : Every Step (init ID port bindPort) trace) :
    Always Named (init ID port bindPort) trace :=
  ran.always (named_init ID port bindPort) fun _ _ _ named stepped =>
    (step_keepsRegistry stepped).named named

end Node

end LibPubSub
