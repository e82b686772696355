import LibPubSub.Authority

/-! The lifetime of the subscriptions that `ChannelImpl::subscribe` returns.
`setPublisher` closes them through `disconnect`, and `on_close` deletes what it
closes: a reaction keeps all of them exactly if it does not disturb any. -/

set_option autoImplicit false

namespace LibPubSub

open Fallible Transition

namespace Node

/-- `subscribe()` on channel `c` has returned `s`. -/
def Subscribed (n : Node) (s : SubPtr) (c : ChanPtr) : Prop :=
  Call.subscribed s c ∈ n.log

/-- Every subscription is a live member of its channel's list. -/
def Kept (n : Node) : Prop :=
  ∀ s c, n.Subscribed s c →
    ∃ sub, n.sub s = some sub ∧ sub.channel = c ∧ s ∈ (n.chan c).subscriptions

def Live (n : Node) : Prop :=
  ∀ s c, n.Subscribed s c → n.sub s ≠ none

/-- The lists hold subscriptions only, and those that live are in them. -/
structure Registered (n : Node) : Prop where
  listed : ∀ s c, s ∈ (n.chan c).subscriptions → n.Subscribed s c
  alive : ∀ s c, n.Subscribed s c → ∀ sub, n.sub s = some sub →
    sub.channel = c ∧ s ∈ (n.chan c).subscriptions
  bound : ∀ s c, n.Subscribed s c → s < n.sub.next
  beyond : ∀ c, n.chan.next ≤ c → (n.chan c).subscriptions = []

theorem Registered.kept_iff {n : Node} (registered : Registered n) : Kept n ↔ Live n := by
  constructor
  · intro kept s c subscribed dead
    obtain ⟨sub, found, _⟩ := kept s c subscribed
    rw [dead] at found
    cases found
  · intro live s c subscribed
    obtain ⟨sub, found⟩ := Option.ne_none_iff_exists'.mp (live s c subscribed)
    exact ⟨sub, found, registered.alive s c subscribed sub found⟩

theorem registered_init (ID port : Int32) (bindPort : ChanPtr → DataPort) :
    Registered (init ID port bindPort) where
  listed _ _ member := absurd member List.not_mem_nil
  alive _ _ subscribed := absurd subscribed List.not_mem_nil
  bound _ _ subscribed := absurd subscribed List.not_mem_nil
  beyond _ _ := rfl

/-! ## Reactions that close nothing -/

/-- Nothing happened to the subscriptions. -/
structure Untouched (n n' : Node) : Prop where
  subscribed : ∀ s c, n'.Subscribed s c ↔ n.Subscribed s c
  lists : ∀ c, (n'.chan c).subscriptions = (n.chan c).subscriptions
  channel : ∀ s < n.sub.next,
    (n'.sub s).map SubscriptionImpl.channel = (n.sub s).map SubscriptionImpl.channel
  subNext : n.sub.next ≤ n'.sub.next
  chanNext : n.chan.next ≤ n'.chan.next

namespace Untouched

theorem refl (n : Node) : Untouched n n :=
  ⟨fun _ _ => Iff.rfl, fun _ => rfl, fun _ _ => rfl, Nat.le_refl _, Nat.le_refl _⟩

theorem trans {n mid n' : Node} (first : Untouched n mid) (second : Untouched mid n') :
    Untouched n n' where
  subscribed s c := (second.subscribed s c).trans (first.subscribed s c)
  lists c := (second.lists c).trans (first.lists c)
  channel s known :=
    (second.channel s (Nat.lt_of_lt_of_le known first.subNext)).trans (first.channel s known)
  subNext := Nat.le_trans first.subNext second.subNext
  chanNext := Nat.le_trans first.chanNext second.chanNext

variable {n n' : Node}

theorem registered (untouched : Untouched n n') (registered : Registered n) : Registered n' where
  listed s c member :=
    (untouched.subscribed s c).mpr (registered.listed s c (untouched.lists c ▸ member))
  alive s c subscribed sub found := by
    have before := (untouched.subscribed s c).mp subscribed
    have same := untouched.channel s (registered.bound s c before)
    rw [found, Option.map_some] at same
    obtain ⟨old, found', sameChannel⟩ := Option.map_eq_some_iff.mp same.symm
    obtain ⟨channel, member⟩ := registered.alive s c before old found'
    exact ⟨sameChannel ▸ channel, untouched.lists c ▸ member⟩
  bound s c subscribed :=
    Nat.lt_of_lt_of_le (registered.bound s c ((untouched.subscribed s c).mp subscribed))
      untouched.subNext
  beyond c outside :=
    (untouched.lists c).trans (registered.beyond c (Nat.le_trans untouched.chanNext outside))

theorem live (untouched : Untouched n n') (registered : Registered n) (live : Live n) :
    Live n' := by
  intro s c subscribed dead
  have before := (untouched.subscribed s c).mp subscribed
  have same := untouched.channel s (registered.bound s c before)
  rw [dead, Option.map_none] at same
  exact live s c before (Option.map_eq_none_iff.mp same.symm)

end Untouched

theorem subscribed_append {log added : List Call} (opens : ∀ call ∈ added, call.opens = true)
    (s : SubPtr) (c : ChanPtr) : .subscribed s c ∈ log ++ added ↔ Call.subscribed s c ∈ log := by
  rw [List.mem_append]
  constructor
  · rintro (old | new)
    · exact old
    · cases opens _ new
  · exact Or.inl

theorem Connecting.untouched {n n' : Node} (connecting : Connecting n n') : Untouched n n' where
  subscribed s c := by
    obtain ⟨added, same, opens⟩ := connecting.log
    unfold Subscribed
    rw [same]
    exact subscribed_append opens s c
  lists c := by rw [connecting.chan]
  channel s _ := connecting.subChannel s
  subNext := Nat.le_of_eq connecting.subNext.symm
  chanNext := Nat.le_of_eq (by rw [connecting.chan])

theorem untouched_mesh (n : Node) (m : Mesh) : Untouched n { n with mesh := m } :=
  ⟨fun _ _ => Iff.rfl, fun _ => rfl, fun _ _ => rfl, Nat.le_refl _, Nat.le_refl _⟩

theorem untouched_setChan (n : Node) (c : ChanPtr) (change : ChannelImpl → ChannelImpl)
    (keeps : ∀ channel, (change channel).subscriptions = channel.subscriptions) :
    Untouched n (n.setChan c change) := by
  refine ⟨fun _ _ => Iff.rfl, ?_, fun _ _ => rfl, Nat.le_refl _, Nat.le_refl _⟩
  intro d
  simp only [setChan, Heap.modify_apply]
  split
  · next same => rw [same, keeps]
  · rfl

theorem untouched_record (n : Node) (call : Call) (other : ∀ s c, call ≠ .subscribed s c) :
    Untouched n (n.record call) := by
  refine ⟨?_, fun _ => rfl, fun _ _ => rfl, Nat.le_refl _, Nat.le_refl _⟩
  intro s c
  simp only [Subscribed, record, List.mem_append, List.mem_singleton, (other s c).symm, or_false]

theorem Created.untouched {n n' : Node} {name : Str} {c : ChanPtr} (registered : Registered n)
    (created : Created n n' name c) : Untouched n n' where
  subscribed s d := by rw [Subscribed, created.log]; rfl
  lists d := by
    by_cases known : d < n.chan.next
    · rw [created.old d known]
    · by_cases new : d = c
      · subst new
        rw [created.fresh (Nat.not_lt.mp known), registered.beyond d (Nat.not_lt.mp known)]
      · rw [created.other d new]
  channel s _ := by rw [created.sub]
  subNext := Nat.le_of_eq (by rw [created.sub])
  chanNext := created.chanNext

theorem makeOfferTcp_untouched (n : Node) (h : HostPtr) (channel : Str) :
    Untouched n (n.makeOfferTcp h channel) := by
  unfold makeOfferTcp
  split
  · refine Untouched.trans ?_ (connecting_send _ h _).untouched
    exact untouched_setChan n _ _ fun _ => rfl
  · exact Untouched.refl n

theorem makeOfferShm_untouched (n : Node) (h : HostPtr) (channel : Str) :
    Untouched n (n.makeOfferShm h channel) := by
  unfold makeOfferShm
  split
  · refine Untouched.trans ?_ (connecting_send _ h _).untouched
    exact untouched_setChan n _ _ fun _ => rfl
  · exact Untouched.refl n

theorem answerOfferTcp_untouched {n n' : Node} {h : HostPtr} {offer : Str}
    (ran : n.answerOfferTcp h offer = .ok n') : Untouched n n' := by
  unfold answerOfferTcp at ran
  dsimp only at ran
  split at ran
  · refine Untouched.trans ?_ (connectTcp_connecting ran).untouched
    exact (untouched_record n _ fun _ _ => Call.noConfusion).trans
      (untouched_setChan _ _ _ fun _ => rfl)
  · exact pure_eq_ok.mp ran ▸ Untouched.refl n

theorem answerOfferShm_untouched {n n' : Node} {h : HostPtr} {offer : Str}
    (ran : n.answerOfferShm h offer = .ok n') : Untouched n n' := by
  unfold answerOfferShm at ran
  dsimp only at ran
  split at ran
  · refine Untouched.trans ?_ (connectShm_connecting ran).untouched
    exact (untouched_record n _ fun _ _ => Call.noConfusion).trans
      (untouched_setChan _ _ _ fun _ => rfl)
  · exact pure_eq_ok.mp ran ▸ Untouched.refl n

theorem acceptSubscriptor_untouched (n : Node) (c : ChanPtr) (ip : Str) (port : Int32)
    (conn : ConnId) : Untouched n (n.acceptSubscriptor c ip port conn) := by
  unfold acceptSubscriptor
  split
  · exact Untouched.refl n
  · refine Untouched.trans ?_ (untouched_setChan _ c _ fun _ => rfl)
    refine ⟨fun _ _ => Iff.rfl, fun _ => rfl, ?_, Nat.le_succ _, Nat.le_refl _⟩
    intro s known
    rw [Heap.alloc_of_lt _ _ known]

/-! ## Closing -/

theorem registered_deleteSub {n : Node} (registered : Registered n) (s : SubPtr) (d : ChanPtr) :
    Registered (n.deleteSub s d) := by
  have listsOf : ∀ c, ((n.deleteSub s d).chan c).subscriptions =
      if c = d then (n.chan c).subscriptions.filter (· != s) else (n.chan c).subscriptions := by
    intro c
    simp only [deleteSub, setChan, Heap.modify_apply]
    split
    · next same => rw [same]
    · rfl
  refine ⟨?_, ?_, registered.bound, ?_⟩
  · intro t c member
    rw [listsOf] at member
    split at member
    · exact registered.listed t c (List.mem_filter.mp member).1
    · exact registered.listed t c member
  · intro t c subscribed other foundOther
    simp only [deleteSub, setChan, Heap.modify_apply] at foundOther
    split at foundOther
    · cases foundOther
    · next different =>
      obtain ⟨channel, member⟩ := registered.alive t c subscribed other foundOther
      refine ⟨channel, ?_⟩
      rw [listsOf]
      split
      · exact List.mem_filter.mpr ⟨member, by simpa using different⟩
      · exact member
  · intro c outside
    rw [listsOf, registered.beyond c outside]
    split <;> rfl

theorem registered_setDataSock {n : Node} (registered : Registered n) (k : SockPtr)
    (change : TCPSocket SubPtr → TCPSocket SubPtr) : Registered (n.setDataSock k change) :=
  (connecting_setDataSock n k change).untouched.registered registered

theorem subClose_registered {n n' : Node} {s : SubPtr} (registered : Registered n)
    (ran : n.subClose s = .ok n') : Registered n' ∧ n'.sub s = none := by
  obtain ⟨sub, k, close, _, _, _, rfl⟩ := subClose_cases ran
  refine ⟨registered_deleteSub (registered_setDataSock registered k close) s _, ?_⟩
  simp only [deleteSub, setChan, Heap.modify_self]

theorem disconnectFrom_registered {c : ChanPtr} {left it : Nat} {n n' : Node}
    (registered : Registered n) (ran : disconnectFrom c left it n = .ok n') : Registered n' := by
  induction left generalizing it n with
  | zero => exact (pure_eq_ok.mp ran) ▸ registered
  | succ left ih =>
      unfold disconnectFrom at ran
      split at ran
      · cases ran
      · obtain ⟨mid, closed, rest⟩ := bind_eq_ok.mp ran
        exact ih (subClose_registered registered closed).1 rest

/-- `disconnect()` does nothing to a channel without subscriptions. -/
theorem disconnect_empty {n n' : Node} {c : ChanPtr} (empty : (n.chan c).subscriptions = [])
    (ran : n.disconnect c = .ok n') : n' = n := by
  unfold disconnect at ran
  rw [empty] at ran
  exact (pure_eq_ok.mp ran).symm

/-- Otherwise it deletes at least the first one. -/
theorem disconnect_nonempty {n n' : Node} {c : ChanPtr} {s : SubPtr} {rest : List SubPtr}
    (nonempty : (n.chan c).subscriptions = s :: rest) (registered : Registered n)
    (ran : n.disconnect c = .ok n') : n'.sub s = none := by
  unfold disconnect at ran
  rw [nonempty, List.length_cons, disconnectFrom, nonempty, List.getElem?_cons_zero] at ran
  obtain ⟨mid, closed, later⟩ := bind_eq_ok.mp ran
  exact (disconnectFrom_closing later).gone s (subClose_registered registered closed).2

/-- `setPublisher` would disconnect the subscriptions of the channel. -/
def Ends (n : Node) (c : ChanPtr) (p : Option HostPtr) : Prop :=
  (n.chan c).publisher ≠ none ∧ (n.chan c).publisher ≠ p ∧ (n.chan c).subscriptions ≠ []

theorem untouched_replacePublisher (n : Node) (c : ChanPtr) (p : Option HostPtr) :
    Untouched n (n.replacePublisher c p) := by
  refine Untouched.trans ?_ (untouched_record _ _ fun _ _ => Call.noConfusion)
  exact untouched_setChan n c _ fun _ => rfl

theorem setPublisher_registered {n n' : Node} {c : ChanPtr} {p : Option HostPtr}
    (registered : Registered n) (ran : n.setPublisher c p = .ok n') : Registered n' := by
  obtain ⟨mid, closed, connected⟩ := setPublisher_cases ran
  have midRegistered : Registered mid := by
    rcases disconnectOther_cases closed with ⟨_, disconnected⟩ | ⟨_, rfl⟩
    · exact disconnectFrom_registered registered disconnected
    · exact registered
  exact ((untouched_replacePublisher mid c p).trans
    (connectWanted_connecting connected).untouched).registered midRegistered

/-- Without anything to end, `setPublisher` only replaces and connects. -/
theorem setPublisher_connects {n n' : Node} {c : ChanPtr} {p : Option HostPtr}
    (noEnd : ¬ Ends n c p) (ran : n.setPublisher c p = .ok n') :
    (n.replacePublisher c p).connectWanted c = .ok n' := by
  obtain ⟨mid, closed, connected⟩ := setPublisher_cases ran
  have same : mid = n := by
    rcases disconnectOther_cases closed with ⟨⟨known, other⟩, disconnected⟩ | ⟨_, same⟩
    · refine disconnect_empty ?_ disconnected
      by_contra nonempty
      exact noEnd ⟨Option.isSome_iff_ne_none.mp known, other, nonempty⟩
    · exact same
  exact same ▸ connected

theorem setPublisher_untouched {n n' : Node} {c : ChanPtr} {p : Option HostPtr}
    (noEnd : ¬ Ends n c p) (ran : n.setPublisher c p = .ok n') : Untouched n n' :=
  (untouched_replacePublisher n c p).trans
    (connectWanted_connecting (setPublisher_connects noEnd ran)).untouched

theorem subscribed_mono {n n' : Node} {added : List Call} (log : n'.log = n.log ++ added)
    {s : SubPtr} {c : ChanPtr} (subscribed : n.Subscribed s c) : n'.Subscribed s c := by
  unfold Subscribed
  rw [log]
  exact List.mem_append_left _ subscribed

theorem setPublisher_not_live {n n' : Node} {c : ChanPtr} {p : Option HostPtr}
    (registered : Registered n) (ends : Ends n c p) (ran : n.setPublisher c p = .ok n') :
    ¬ Live n' := by
  obtain ⟨known, other, nonempty⟩ := ends
  obtain ⟨s, rest, first⟩ := List.exists_cons_of_ne_nil nonempty
  obtain ⟨mid, closed, connected⟩ := setPublisher_cases ran
  have dead : mid.sub s = none := by
    rcases disconnectOther_cases closed with ⟨_, disconnected⟩ | ⟨none | same, _⟩
    · exact disconnect_nonempty first registered disconnected
    · exact absurd none known
    · exact absurd same other
  intro live
  obtain ⟨added, log, _⟩ := (setPublisher_spec ran).log
  have subscribed : n.Subscribed s c := registered.listed s c (first ▸ List.mem_cons_self)
  exact live s c (subscribed_mono log subscribed)
    ((connectWanted_connecting connected).quiet.gone s dead)

/-- What dies in `setPublisher` stays dead. -/
theorem live_of_setPublisher {n n' : Node} {c : ChanPtr} {p : Option HostPtr}
    (ran : n.setPublisher c p = .ok n') (live : Live n') : Live n := by
  intro s d subscribed dead
  have set := setPublisher_spec ran
  obtain ⟨added, log, _⟩ := set.log
  exact live s d (subscribed_mono log subscribed) (set.gone s dead)

/-! ## The reactions -/

/-- `input` takes the publisher of a channel with subscriptions away, or ends the
data connection of a subscription. -/
inductive Disturbs (n : Node) : Input → Prop where
  | withdrawn {input : Input} (h : HostPtr) (c : ChanPtr) (withdraws : n.Withdraws h c input)
      (ends : n.Ends c none) : Disturbs n input
  | takenOver {input : Input} (h : HostPtr) (c : ChanPtr) (announces : n.Announces h c input)
      (ends : n.Ends c (some h)) : Disturbs n input
  | disconnected {input : Input} (h : HostPtr) (c : ChanPtr) (disconnects : n.Disconnects h input)
      (known : c < n.chan.next) (was : (n.chan c).publisher = some h) (ends : n.Ends c none) :
      Disturbs n input
  | dataEnded (k : SockPtr) (s : SubPtr) (c : ChanPtr)
      (listener : (n.dataSock k).listeners = some s) (member : s ∈ (n.chan c).subscriptions) :
      Disturbs n (.dataEof k)

/-- What `close_all_channels` does, channel by channel. -/
private theorem closeLoop {todo : List ChanPtr} {h : HostPtr} {n n' : Node}
    (registered : Registered n)
    (ran : todo.foldlM (fun n c =>
      if (n.chan c).publisher = some h then n.setPublisher c none else return n) n = .ok n') :
    Registered n' ∧ (Live n' → Live n) ∧
      ((∀ c ∈ todo, (n.chan c).publisher = some h → ¬ Ends n c none) → Untouched n n') ∧
      ∀ c ∈ todo, (n.chan c).publisher = some h → Ends n c none → ¬ Live n' := by
  induction todo generalizing n with
  | nil =>
      obtain rfl := pure_eq_ok.mp ran
      exact ⟨registered, id, fun _ => Untouched.refl n, by simp⟩
  | cons d todo ih =>
      rw [List.foldlM_cons, bind_eq_ok] at ran
      obtain ⟨mid, first, rest⟩ := ran
      by_cases published : (n.chan d).publisher = some h
      · rw [if_pos published] at first
        have publisher := (setPublisher_spec first).publisher
        obtain ⟨done, back, clean, broken⟩ := ih (setPublisher_registered registered first) rest
        have back' : Live n' → Live n := fun live => live_of_setPublisher first (back live)
        by_cases ends : Ends n d none
        · have notLive : ¬ Live n' := fun live => setPublisher_not_live registered ends first (back live)
          refine ⟨done, back', ?_, fun _ _ _ _ => notLive⟩
          intro noEnds
          exact absurd ends (noEnds d List.mem_cons_self published)
        · have untouched := setPublisher_untouched ends first
          -- the other channels of `h` are still to come, with the same lists
          have same : ∀ c, c ≠ d → (Ends mid c none ↔ Ends n c none) := by
            intro c other
            unfold Ends
            rw [publisher c, if_neg other, untouched.lists c]
          refine ⟨done, back', ?_, ?_⟩
          · intro noEnds
            refine untouched.trans (clean ?_)
            intro c member was
            rw [publisher c] at was
            split at was
            · cases was
            · next other =>
              rw [same c other]
              exact noEnds c (List.mem_cons_of_mem d member) was
          · intro c member was ended
            rcases List.mem_cons.mp member with rfl | member
            · exact absurd ended ends
            · by_cases other : c = d
              · exact absurd (other ▸ ended) ends
              · refine broken c member ?_ ((same c other).mpr ended)
                rw [publisher c, if_neg other, was]
      · rw [if_neg published] at first
        obtain rfl := pure_eq_ok.mp first
        obtain ⟨done, back, clean, broken⟩ := ih registered rest
        refine ⟨done, back, ?_, ?_⟩
        · intro noEnds
          exact clean fun c member => noEnds c (List.mem_cons_of_mem d member)
        · intro c member was
          rcases List.mem_cons.mp member with rfl | member
          · exact absurd was published
          · exact broken c member was

theorem addSubscription_registered {n : Node} {c : ChanPtr} (registered : Registered n)
    (known : c < n.chan.next) :
    Registered (n.addSubscription c) ∧ (Live n → Live (n.addSubscription c)) := by
  have subscribedOf : ∀ s d, (n.addSubscription c).Subscribed s d ↔
      n.Subscribed s d ∨ (s = n.sub.next ∧ d = c) := by
    intro s d
    simp only [Subscribed, addSubscription, record, setChan, List.mem_append, List.mem_singleton,
      Call.subscribed.injEq]
  have listsOf : ∀ d, ((n.addSubscription c).chan d).subscriptions =
      if d = c then (n.chan d).subscriptions ++ [n.sub.next] else (n.chan d).subscriptions := by
    intro d
    simp only [addSubscription, record, setChan, Heap.modify_apply]
    split
    · next same => rw [same]
    · rfl
  have oldSub : ∀ s < n.sub.next, (n.addSubscription c).sub s = n.sub s :=
    fun s old => n.sub.alloc_of_lt _ old
  have newSub : (n.addSubscription c).sub n.sub.next =
      some { channel := c, host := n.mesh.me } := n.sub.alloc_self _
  refine ⟨⟨?_, ?_, ?_, ?_⟩, ?_⟩
  · intro s d member
    rw [listsOf] at member
    rw [subscribedOf]
    split at member
    · next same =>
      rcases List.mem_append.mp member with old | new
      · exact .inl (registered.listed s d old)
      · exact .inr ⟨List.mem_singleton.mp new, same⟩
    · exact .inl (registered.listed s d member)
  · intro s d subscribed sub found
    rcases (subscribedOf s d).mp subscribed with old | ⟨rfl, rfl⟩
    · rw [oldSub s (registered.bound s d old)] at found
      obtain ⟨channel, member⟩ := registered.alive s d old sub found
      refine ⟨channel, ?_⟩
      rw [listsOf]
      split
      · exact List.mem_append_left _ member
      · exact member
    · rw [newSub, Option.some.injEq] at found
      rw [listsOf, if_pos rfl]
      exact ⟨found ▸ rfl, List.mem_append_right _ List.mem_cons_self⟩
  · intro s d subscribed
    rcases (subscribedOf s d).mp subscribed with old | ⟨rfl, _⟩
    · exact Nat.lt_succ_of_lt (registered.bound s d old)
    · exact Nat.lt_succ_self _
  · intro d outside
    have other : d ≠ c := fun same => absurd known (Nat.not_lt.mpr (same ▸ outside))
    rw [listsOf, if_neg other]
    exact registered.beyond d outside
  · intro live s d subscribed
    rcases (subscribedOf s d).mp subscribed with old | ⟨rfl, _⟩
    · rw [oldSub s (registered.bound s d old)]
      exact live s d old
    · rw [newSub]
      exact Option.some_ne_none _

/-- The end of a data socket deletes the subscription or subscriptor behind it. -/
private theorem dataEof_deletes {n n' : Node} {k : SockPtr} (ran : n.dataEof k = .ok n') :
    ((n.dataSock k).listeners = none ∧ Untouched n n') ∨
      ∃ s sub mid, (n.dataSock k).listeners = some s ∧ Untouched n mid ∧
        mid.sub = n.sub ∧ Untouched (mid.deleteSub s sub) n' ∧ n'.sub s = none := by
  obtain ⟨closed, left, rest⟩ := bind_eq_ok.mp ran
  obtain rfl := pure_eq_ok.mp rest
  have listeners : ((n.setDataSock k (·.closeFd)).dataSock k).listeners =
      (n.dataSock k).listeners := by
    simp only [setDataSock, Heap.modify_self, TCPSocket.closeFd]
  have closing := (connecting_setDataSock n k (·.closeFd)).untouched
  unfold dataClosed at left
  rw [listeners] at left
  cases listener : (n.dataSock k).listeners with
  | none =>
      rw [listener] at left
      obtain rfl := pure_eq_ok.mp left
      exact .inl ⟨rfl, closing.trans (connecting_setDataSock _ k _).untouched⟩
  | some s =>
      simp only [listener] at left
      obtain ⟨sub, j, _, _, rfl⟩ := subOnClose_cases left
      refine .inr ⟨s, sub.channel, _, rfl,
        closing.trans (connecting_setDataSock _ j (·.removeListeners)).untouched, rfl,
        (connecting_setDataSock _ k _).untouched, ?_⟩
      simp only [setDataSock, deleteSub, setChan, Heap.modify_self]

private theorem dataEof_registered {n n' : Node} {k : SockPtr} (registered : Registered n)
    (ran : n.dataEof k = .ok n') :
    Registered n' ∧ (¬ Disturbs n (.dataEof k) → Live n → Live n') := by
  rcases dataEof_deletes ran with ⟨_, untouched⟩ | ⟨s, d, mid, listener, before, subs, after, _⟩
  · exact ⟨untouched.registered registered, fun _ => untouched.live registered⟩
  · have midRegistered := before.registered registered
    have deleted := registered_deleteSub midRegistered s d
    refine ⟨after.registered deleted, ?_⟩
    intro calm live
    refine after.live deleted ?_
    intro t c subscribed
    have old : n.Subscribed t c := (before.subscribed t c).mp subscribed
    obtain ⟨sub, found⟩ := Option.ne_none_iff_exists'.mp (live t c old)
    have other : t ≠ s := by
      rintro rfl
      exact calm (.dataEnded k t c listener (registered.alive t c old sub found).2)
    simp only [deleteSub, setChan, Heap.modify_of_ne _ _ other, subs, found]
    exact Option.some_ne_none sub

private theorem create_set {n mid n' : Node} {name : Str} {c : ChanPtr} {p : Option HostPtr}
    (registered : Registered n) (created : Created n mid name c)
    (ran : mid.setPublisher c p = .ok n') :
    Registered n' ∧ ((Ends mid c p → Ends n c p) ∧
      (¬ Ends mid c p → Live n → Live n')) := by
  have untouched := created.untouched registered
  have midRegistered := untouched.registered registered
  refine ⟨setPublisher_registered midRegistered ran, ?_, ?_⟩
  · intro ends
    by_cases known : c < n.chan.next
    · exact (created.found known).2 ▸ ends
    · have fresh := created.fresh (Nat.not_lt.mp known)
      refine absurd ?_ ends.1
      rw [fresh]
  · intro noEnds live
    exact (setPublisher_untouched noEnds ran).live midRegistered (untouched.live registered live)

/-- A step kept the registry, and the subscriptions too if it disturbs none. -/
private def Calm (n : Node) (input : Input) (n' : Node) : Prop :=
  Registered n' ∧ (¬ Disturbs n input → Live n → Live n')

private theorem Untouched.calm {n n' : Node} {input : Input} (untouched : Untouched n n')
    (registered : Registered n) : Calm n input n' :=
  ⟨untouched.registered registered, fun _ => untouched.live registered⟩

private theorem publish_calm {n n' : Node} {name : Str} (registered : Registered n)
    (ran : n.publish name = .ok n') : Calm n (.publish name) n' := by
  obtain ⟨mid, c, same, created, ⟨_, rfl⟩ | ⟨_, set, done, rfl⟩⟩ := publish_cases ran
  · exact (created.untouched registered).calm registered
  · obtain ⟨setRegistered, ended, kept⟩ := create_set registered created done
    have sent := (connecting_broadcast set ("PUBLISH=".toList ++ set.channelString c)).untouched
    refine ⟨sent.registered setRegistered, ?_⟩
    intro calm live
    refine sent.live setRegistered (kept ?_ live)
    intro ends
    exact calm (.takenOver n.mesh.me c (.call rfl (congrArg Prod.snd same)) (ended ends))

private theorem unpublish_calm {n n' : Node} {name : Str} (registered : Registered n)
    (ran : n.unpublish name = .ok n') : Calm n (.unpublish name) n' := by
  unfold unpublish at ran
  cases found : n.getChannel name with
  | none =>
      rw [found] at ran
      obtain rfl := pure_eq_ok.mp ran
      exact (Untouched.refl n).calm registered
  | some c =>
      simp only [found] at ran
      obtain ⟨set, done, rest⟩ := bind_eq_ok.mp ran
      obtain rfl := pure_eq_ok.mp rest
      have setRegistered := setPublisher_registered registered done
      have sent := (connecting_broadcast set ("UNPUBLISH=".toList ++ set.channelString c)).untouched
      refine ⟨sent.registered setRegistered, ?_⟩
      intro calm live
      refine sent.live setRegistered ((setPublisher_untouched ?_ done).live registered live)
      intro ends
      exact calm (.withdrawn n.mesh.me c (.call rfl found) ends)

private theorem subscribe_calm {n n' : Node} {name : Str} (registered : Registered n)
    (ran : n.subscribe name = .ok n') : Calm n (.subscribe name) n' := by
  obtain ⟨mid, c, _, created, connected⟩ := subscribe_cases ran
  have untouched := created.untouched registered
  have added := addSubscription_registered (untouched.registered registered) created.known
  have opened := (connect_connecting connected).untouched
  refine ⟨opened.registered added.1, ?_⟩
  intro _ live
  exact opened.live added.1 (added.2 (untouched.live registered live))

private theorem publishStatement_calm {n n' : Node} {h : HostPtr} {s : Str} {input : Input}
    (registered : Registered n) (speaks : n.Speaks h s input)
    (starts : strStartsWith s "PUBLISH=".toList = true)
    (ran : n.applyPublishStatement h (strAfter s ['=']) = .ok n') : Calm n input n' := by
  obtain ⟨name, named, mid, c, same, created, ⟨type, set⟩ | ⟨_, rfl | ⟨_, unknown, set⟩⟩⟩ :=
    applyPublishStatement_cases ran
  · obtain ⟨setRegistered, ended, kept⟩ := create_set registered created set
    refine ⟨setRegistered, ?_⟩
    intro calm
    refine kept ?_
    intro ends
    have found : n.channelOf name = c := congrArg Prod.snd same
    exact calm (.takenOver h c (.statement speaks starts named found type) (ended ends))
  · exact (created.untouched registered).calm registered
  · obtain ⟨setRegistered, _, kept⟩ := create_set registered created set
    exact ⟨setRegistered, fun _ => kept fun ends => ends.1 unknown⟩

private theorem unpublishStatement_calm {n n' : Node} {h : HostPtr} {s : Str} {input : Input}
    (registered : Registered n) (speaks : n.Speaks h s input)
    (starts : strStartsWith s "UNPUBLISH=".toList = true)
    (ran : n.applyUnpublishStatement h (strAfter s ['=']) = .ok n') : Calm n input n' := by
  obtain ⟨name, named, ⟨_, rfl⟩ | ⟨c, found, set⟩⟩ := applyUnpublishStatement_cases ran
  · exact (Untouched.refl n').calm registered
  · refine ⟨setPublisher_registered registered set, ?_⟩
    intro calm
    refine (setPublisher_untouched ?_ set).live registered
    intro ends
    exact calm (.withdrawn h c (.statement speaks starts named found) ends)

private theorem line_calm {n n' : Node} {k : SockPtr} {s : Str} (registered : Registered n)
    (ran : n.line k s = .ok n') : Calm n (.line k s) n' := by
  cases line_effect ran with
  | ignored same => exact same ▸ (Untouched.refl n).calm registered
  | incoming _ result => exact result ▸ (untouched_mesh n _).calm registered
  | id _ _ result => exact result ▸ (untouched_mesh n _).calm registered
  | you _ _ _ result => exact result ▸ (untouched_mesh n _).calm registered
  | host _ _ _ _ result => exact result ▸ (untouched_mesh n _).calm registered
  | connected h _ mid published result =>
      have announced := (broadcastPublishedChannels_connecting
        { n with mesh := receiveConnected n.mesh h }).untouched
      rw [← published] at announced
      exact result ▸ (((untouched_mesh n _).trans announced).trans
        (untouched_mesh mid _)).calm registered
  | statement h listener ready digested =>
      have speaks : n.Speaks h s (.line k s) := ⟨k, rfl, listener, ready⟩
      cases digest_effect digested with
      | publish starts ran => exact publishStatement_calm registered speaks starts ran
      | unpublish starts ran => exact unpublishStatement_calm registered speaks starts ran
      | connectTcp _ result => exact result ▸ (makeOfferTcp_untouched n h _).calm registered
      | connectShm _ result => exact result ▸ (makeOfferShm_untouched n h _).calm registered
      | offerTcp _ ran => exact (answerOfferTcp_untouched ran).calm registered
      | offerShm _ ran => exact (answerOfferShm_untouched ran).calm registered
      | unknown same => exact same ▸ (Untouched.refl n).calm registered

/-- The parts of the end of a signaling socket. -/
private theorem eof_parts {n n' : Node} {k : SockPtr} (ran : n.eof k = .ok n') :
    ((∀ h, (n.mesh.sock k).listeners ≠ some (.host h)) ∧ ∃ m, n' = { n with mesh := m }) ∨
      ∃ h m closed m', (n.mesh.sock k).listeners = some (.host h) ∧
        Node.closeAllChannels { n with mesh := m } h = .ok closed ∧
        n' = { closed with mesh := m' } := by
  have listeners : ((n.mesh.setSock k (·.closeFd)).sock k).listeners =
      (n.mesh.sock k).listeners := by
    simp only [Mesh.setSock_sock, Heap.modify_self, TCPSocket.closeFd]
  obtain ⟨closed, left, rest⟩ := bind_eq_ok.mp ran
  obtain rfl := pure_eq_ok.mp rest
  rcases signalingClosed_cases left with ⟨rfl, other⟩ | ⟨h, current, listener, _, ran⟩
  · exact .inl ⟨fun h same => other h (listeners.trans same), _, rfl⟩
  · exact .inr ⟨h, _, closed, _, listeners.symm.trans listener, ran, rfl⟩

private theorem eof_calm {n n' : Node} {k : SockPtr} (registered : Registered n)
    (ran : n.eof k = .ok n') : Calm n (.eof k) n' := by
  rcases eof_parts ran with ⟨_, m, rfl⟩ | ⟨h, m, closed, m', listener, looped, rfl⟩
  · exact (untouched_mesh n m).calm registered
  · have before := untouched_mesh n m
    obtain ⟨done, _, clean, _⟩ := closeLoop (before.registered registered) looped
    have after := untouched_mesh closed m'
    refine ⟨after.registered done, ?_⟩
    intro calm live
    refine after.live done ((clean ?_).live (before.registered registered)
      (before.live registered live))
    intro c member was ends
    exact calm (.disconnected h c ⟨k, rfl, listener⟩ (List.mem_range.mp member) was ends)

private theorem step_calm {n n' : Node} {input : Input} (registered : Registered n)
    (stepped : Step n input n') : Calm n input n' := by
  cases input with
  | addHost ip port => exact pure_eq_ok.mp stepped ▸ (untouched_mesh n _).calm registered
  | publish name => exact publish_calm registered stepped
  | unpublish name => exact unpublish_calm registered stepped
  | subscribe name => exact subscribe_calm registered stepped
  | announce =>
      exact pure_eq_ok.mp stepped ▸
        (broadcastPublishedChannels_connecting n).untouched.calm registered
  | connected k conn =>
      have result := pure_eq_ok.mp stepped
      unfold connected at result
      dsimp only at result
      split at result <;> exact result ▸ (untouched_mesh n _).calm registered
  | accepted ip port conn => exact pure_eq_ok.mp stepped ▸ (untouched_mesh n _).calm registered
  | line k s => exact line_calm registered stepped
  | eof k => exact eof_calm registered stepped
  | dataConnected k conn => exact (dataConnected_connecting stepped).untouched.calm registered
  | dataAccepted c ip port conn =>
      exact pure_eq_ok.mp stepped ▸ (acceptSubscriptor_untouched n c ip port conn).calm registered
  | dataEof k => exact dataEof_registered registered stepped

private theorem Connecting.live {n n' : Node} (connecting : Connecting n n') (live : Live n') :
    Live n := by
  intro s c subscribed dead
  obtain ⟨added, log, _⟩ := connecting.log
  exact live s c (subscribed_mono log subscribed) (connecting.quiet.gone s dead)

private theorem known_of_ends {n : Node} {c : ChanPtr} {p : Option HostPtr}
    (registered : Registered n) (ends : Ends n c p) : c < n.chan.next := by
  by_contra outside
  exact ends.2.2 (registered.beyond c (Nat.not_lt.mp outside))

/-- A disturbed node has lost a subscription. -/
private theorem disturbed_not_live {n n' : Node} {input : Input} (registered : Registered n)
    (stepped : Step n input n') (disturbs : Disturbs n input) : ¬ Live n' := by
  cases disturbs with
  | withdrawn h c withdraws ends =>
      obtain ⟨_, mid, set, connecting⟩ := withdraws.ran stepped
      exact fun live => setPublisher_not_live registered ends set (connecting.live live)
  | takenOver h c announces ends =>
      rcases announces.ran (known_of_ends registered ends) stepped with
        already | ⟨mid, set, connecting⟩
      · exact absurd already ends.2.1
      · exact fun live => setPublisher_not_live registered ends set (connecting.live live)
  | disconnected h c disconnects known was ends =>
      obtain ⟨k, rfl, listener⟩ := disconnects
      rcases eof_parts stepped with ⟨other, _⟩ | ⟨h', m, closed, m', listener', looped, rfl⟩
      · exact absurd listener (other h)
      · rw [listener, Option.some.injEq, SignalingListener.host.injEq] at listener'
        subst listener'
        have before := (untouched_mesh n m).registered registered
        obtain ⟨_, _, _, broken⟩ := closeLoop before looped
        exact broken c (List.mem_range.mpr known) was ends
  | dataEnded k s c listener member =>
      rcases dataEof_deletes stepped with ⟨none, _⟩ | ⟨t, d, mid, listener', before, _, after, dead⟩
      · rw [none] at listener
        cases listener
      · rw [listener, Option.some.injEq] at listener'
        subst listener'
        intro live
        have subscribed := (before.subscribed s c).mpr (registered.listed s c member)
        exact live s c ((after.subscribed s c).mpr subscribed) dead

/-! ## The law -/

/-- `connect()` has asked the new publisher `h` of channel `c` for a connection. -/
inductive Asked (n n' : Node) (c : ChanPtr) (h : HostPtr) : Prop where
  | tcp (remote : n.mesh.isLocal h = false)
      (ran : n'.log = n.log ++ [.publisherSet c (n.chan c).publisher (some h),
        .connectTcp c (some h)])
      (sent : n'.mesh = n.mesh.send h ("CONNECT_TCP=".toList ++ (n.chan c).name))
  | shm (here : n.mesh.isLocal h = true)
      (ran : ∃ added, n'.log = n.log ++ [.publisherSet c (n.chan c).publisher (some h),
        .connectShm c (some h)] ++ added)
      (sent : (n.chan c).offeredShmPath = [] →
        n'.mesh = n.mesh.send h ("CONNECT_SHM".toList ++ (n.chan c).name))

/-- Whenever a channel gets a new remote publisher, that Host is asked on behalf
of the subscriptions of the channel. -/
def Served (n : Node) (_input : Input) (n' : Node) : Prop :=
  ∀ s c h, n.Subscribed s c → (n'.chan c).publisher = some h → (n.chan c).publisher ≠ some h →
    h ≠ n.mesh.me → Asked n n' c h

private theorem replaced_asked {n n' : Node} {c : ChanPtr} {h : HostPtr}
    (nonempty : (n.chan c).subscriptions ≠ []) (remote : h ≠ n.mesh.me)
    (ran : (n.replacePublisher c (some h)).connectWanted c = .ok n') : Asked n n' c h := by
  have chan := n.replacePublisher_chan c (some h)
  unfold connectWanted at ran
  rw [chan, if_pos ⟨nonempty, rfl⟩] at ran
  rcases connect_cases ran with ⟨_, none | empty | same⟩ | ⟨p, isP, _, _, choice⟩
  · rw [chan] at none
    cases none
  · rw [chan] at empty
    exact absurd empty nonempty
  · rw [chan] at same
    exact absurd (Option.some.inj same) remote
  · rw [chan, Option.some.injEq] at isP
    subst isP
    rcases choice with ⟨here, ran⟩ | ⟨away, ran⟩
    · obtain ⟨added, log, _⟩ := (connectShm_opening ran).log
      refine .shm here ⟨added, ?_⟩ ?_
      · rw [log, chan]
        simp only [record, replacePublisher, setChan, List.append_assoc, List.cons_append,
          List.nil_append]
      · intro nothing
        rcases connectShm_cases ran with ⟨_, p, isP, rfl⟩ | ⟨offered, _⟩
        · rw [chan, Option.some.injEq] at isP
          rw [chan, ← isP]
          rfl
        · rw [chan] at offered
          exact absurd nothing offered
    · rcases connectTcp_cases ran with ⟨_, p, isP, rfl⟩ | ⟨offered, _⟩
      · rw [chan, Option.some.injEq] at isP
        subst isP
        refine .tcp away ?_ ?_
        · rw [chan]
          simp only [send, record, replacePublisher, setChan, List.append_assoc, List.cons_append,
            List.nil_append]
        · rw [chan]
          rfl
      · rw [chan] at offered
        exact absurd rfl offered

private theorem calm_served {n n' : Node} {input : Input} (registered : Registered n)
    (live : Live n) (stepped : Step n input n') (calm : ¬ Disturbs n input) :
    Served n input n' := by
  intro s c h subscribed now before remote
  obtain ⟨sub, found⟩ := Option.ne_none_iff_exists'.mp (live s c subscribed)
  have nonempty : (n.chan c).subscriptions ≠ [] :=
    List.ne_nil_of_mem (registered.alive s c subscribed sub found).2
  have known : c < n.chan.next := by
    by_contra outside
    exact nonempty (registered.beyond c (Nat.not_lt.mp outside))
  -- the publisher was unknown, so `setPublisher` had nothing to end
  have gained : ∀ p, n.setPublisher c p = .ok n' → ¬ Ends n c p → Asked n n' c h := by
    intro p ran noEnd
    have isP := (setPublisher_spec ran).publisher c
    rw [if_pos rfl, now] at isP
    subst isP
    exact replaced_asked nonempty remote (setPublisher_connects noEnd ran)
  have vacant : Vacant n c := fun outside => absurd known (Nat.not_lt.mpr outside)
  cases publisher_effect stepped vacant with
  | kept same => exact absurd (same ▸ now) before
  | withdrawn _ _ cleared => rw [cleared] at now; cases now
  | disconnected _ _ _ cleared => rw [cleared] at now; cases now
  | announced h' announces ran set =>
      obtain rfl : h' = h := Option.some.inj (set.symm.trans now)
      rcases ran known with own | ran
      · exact absurd own remote
      · exact gained _ ran fun ends => calm (.takenOver h' c announces ends)
  | learnt _ _ p _ _ _ unknown ran => exact gained p (ran known) fun ends => ends.1 unknown

/-- In every run from the start of a node, all subscriptions stay in their lists,
so that every new remote publisher is asked for connections on their behalf,
exactly if no step of the run takes the publisher of a subscribed channel away
or ends the data connection of a subscription. -/
theorem always_kept_iff (ID port : Int32) (bindPort : ChanPtr → DataPort)
    {trace : List (Input × Node)} (ran : Every Step (init ID port bindPort) trace) :
    (Always Kept (init ID port bindPort) trace ∧ Every Served (init ID port bindPort) trace) ↔
      Every (fun n input _ => ¬ Disturbs n input) (init ID port bindPort) trace := by
  have initial := registered_init ID port bindPort
  have none : Live (init ID port bindPort) := fun _ _ subscribed => absurd subscribed List.not_mem_nil
  have registeredStep : ∀ n input n', Registered n → Step n input n' → Registered n' :=
    fun n input n' registered stepped => (step_calm registered stepped).1
  have liveIff := ran.always_iff none initial registeredStep
    fun n input n' live registered stepped =>
      ⟨fun live' disturbs => disturbed_not_live registered stepped disturbs live',
        fun calm => (step_calm registered stepped).2 calm live⟩
  rw [← liveIff]
  have registeredAll := ran.always initial registeredStep
  have sameStates : Always Kept (init ID port bindPort) trace ↔
      Always Live (init ID port bindPort) trace := by
    unfold Always
    rw [initial.kept_iff]
    refine and_congr Iff.rfl (forall_congr' fun entry => ?_)
    exact imp_congr_right fun member => (registeredAll.2 entry member).kept_iff
  rw [sameStates]
  refine ⟨And.left, fun live => ⟨live, ?_⟩⟩
  have calmRun := (liveIff.mp live).and ran
  let good : Node → Prop := fun n => Registered n ∧ Live n
  have start : good (init ID port bindPort) := ⟨initial, none⟩
  refine calmRun.every_of_steps start ?_ ?_
  · intro n input n' good both
    obtain ⟨registered, kept⟩ := step_calm good.1 both.2
    exact ⟨registered, kept both.1 good.2⟩
  · intro n input n' good both
    exact calm_served good.1 good.2 both.2 both.1

/-- `setPublisher` would leave the subscriptions of the channel alone. -/
private def leaves (n : Node) (c : ChanPtr) (p : Option HostPtr) : Bool :=
  (n.chan c).publisher == none || (n.chan c).publisher == p || (n.chan c).subscriptions == []

private theorem not_ends_of_leaves {n : Node} {c : ChanPtr} {p : Option HostPtr}
    (test : leaves n c p = true) : ¬ Ends n c p := by
  rintro ⟨published, other, subscribed⟩
  simp [leaves, published, other, subscribed] at test

/-- A test that `input` disturbs nothing, for the inputs of the run below. -/
private def undisturbed (n : Node) : Input → Bool
  | .line k s =>
      match (n.mesh.sock k).listeners, statementName (strAfter s ['=']) with
      | some (.host h), .ok name =>
          (!strStartsWith s "UNPUBLISH=".toList ||
            (n.getChannel name).all fun c => leaves n c none) &&
          (!strStartsWith s "PUBLISH=".toList || leaves n (n.channelOf name) (some h))
      | _, _ => true
  | .accepted .. | .subscribe _ | .dataConnected .. => true
  | _ => false

private theorem not_disturbs_of_undisturbed {n : Node} {input : Input}
    (test : undisturbed n input = true) : ¬ Disturbs n input := by
  intro disturbs
  cases disturbs with
  | withdrawn h c withdraws ends =>
      cases withdraws with
      | call own found => cases test
      | statement speaks starts named found =>
          obtain ⟨k, rfl, listens, -⟩ := speaks
          simp only [undisturbed, listens, named, found, starts, Option.all_some, Bool.not_true,
            Bool.false_or, Bool.and_eq_true] at test
          exact not_ends_of_leaves test.1 ends
  | takenOver h c announces ends =>
      cases announces with
      | call own found => cases test
      | statement speaks starts named found type =>
          obtain ⟨k, rfl, listens, -⟩ := speaks
          simp only [undisturbed, listens, named, found, starts, Bool.not_true, Bool.false_or,
            Bool.and_eq_true] at test
          exact not_ends_of_leaves test.2 ends
  | disconnected h c disconnects known was ends =>
      obtain ⟨k, rfl, -⟩ := disconnects
      cases test
  | dataEnded k s c listener member => cases test

/-- The publisher of `c` is asked and offers its port, the subscription connects, and
another channel of the same publisher comes and goes. -/
theorem subscribe_kept : ∃ trace n',
    Every Step (init 1 10000 firstPort) (trace ++ [(Input.line 0 "UNPUBLISH=Nd|".toList, n')]) ∧
      Always Kept (init 1 10000 firstPort) (trace ++ [(.line 0 "UNPUBLISH=Nd|".toList, n')]) ∧
      Every Served (init 1 10000 firstPort) (trace ++ [(.line 0 "UNPUBLISH=Nd|".toList, n')]) ∧
      .connectTcp 0 (some 1) ∈ n'.log ∧ .subscribed 0 0 ∈ n'.log ∧
      (n'.chan 0).subscriptions = [0] ∧ (n'.dataSock 0).Holds 1 := by
  have replayed : replay react undisturbed (fun _ n => .connectTcp 0 (some 1) ∈ n.log ∧
        .subscribed 0 0 ∈ n.log ∧ (n.chan 0).subscriptions = [0] ∧ (n.dataSock 0).Holds 1)
      (.line 0 "UNPUBLISH=Nd|".toList) (init 1 10000 firstPort)
      [.subscribe ['c'], .accepted "10.0.0.2".toList 40000 0, .line 0 "ID=2|PORT=10000".toList,
        .line 0 "CONNECTED".toList, .line 0 "PUBLISH=Pc|10.0.0.2:10000".toList,
        .line 0 "OFFER_TCP=c|10000".toList, .dataConnected 0 1,
        .line 0 "PUBLISH=Pc|10.0.0.2:10000".toList,
        .line 0 "PUBLISH=Pd|10.0.0.2:10000".toList] = true := by decide +kernel
  obtain ⟨trace, n', ran, checked⟩ := replay_run replayed
  obtain ⟨kept, served⟩ := (always_kept_iff 1 10000 firstPort ran.of_under).mpr
    (ran.mono fun _ _ _ stepped => not_disturbs_of_undisturbed stepped.1)
  exact ⟨trace, n', ran.of_under, kept, served, of_decide_eq_true checked⟩

/-- A subscriber hears `PUBLISH=Pc`, gets an offer and connects; with the following
`UNPUBLISH=` of the publisher its subscription is gone. -/
theorem not_always_kept :
    ¬ ∀ (ID port : Int32) (bindPort : ChanPtr → DataPort) (trace : List (Input × Node)),
      Every Step (init ID port bindPort) trace →
        Always Kept (init ID port bindPort) trace ∧ Every Served (init ID port bindPort) trace := by
  intro law
  have replayed : replay react (fun _ _ => true) (fun _ n' => .subscribed 0 0 ∈ n'.log ∧ n'.sub 0 = none)
      (.line 0 "UNPUBLISH=Nc|".toList) (init 1 10000 firstPort)
      [.accepted "10.0.0.2".toList 40000 0, .line 0 "ID=2|PORT=10000".toList,
        .line 0 "CONNECTED".toList, .subscribe ['c'],
        .line 0 "PUBLISH=Pc|10.0.0.2:10000".toList, .line 0 "OFFER_TCP=c|10000".toList,
        .dataConnected 0 1] = true := by decide
  obtain ⟨trace, n', allowed, checked⟩ := replay_run replayed
  have ran := allowed.of_under
  obtain ⟨subscribed, dead⟩ := of_decide_eq_true checked
  have kept := (law _ _ _ _ ran).1.final
  rw [final_concat] at kept
  obtain ⟨sub, found, _⟩ := kept 0 0 subscribed
  rw [dead] at found
  cases found

end Node

end LibPubSub
