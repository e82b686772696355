import LibPubSub.Subscriptions

/-! Which offers the data connections use. A channel keeps the offered port and
the offered segment without the Host that offered them; what the log of a node
says about them holds as long as offers come from the publisher of the channel. -/

set_option autoImplicit false

namespace LibPubSub

open Fallible Transition

/-- The log has `offer`, and channel `c` has not changed its publisher since. -/
def Fresh (log : List Call) (c : ChanPtr) (offer : Call) : Prop :=
  ∃ before after, log = before ++ offer :: after ∧
    ∀ old new, .publisherSet c old new ∈ after → old = new

/-- What has to be true of the log when a call is made: a connection is for a
remote publisher, and to an endpoint that this publisher has offered since it
became the publisher. -/
def Honours (me : HostPtr) (before : List Call) : Call → Prop
  | .connectTcp _ publisher | .connectShm _ publisher => ∃ h, publisher = some h ∧ h ≠ me
  | .dialled _ _ c h port => Fresh before c (.offeredTcp h c port)
  | .mapped _ c publisher shm => ∃ h, publisher = some h ∧ Fresh before c (.offeredShm h c shm)
  | _ => True

/-- Every call of the log was right when it was made. -/
def Honoured (me : HostPtr) (log : List Call) : Prop :=
  ∀ before call after, log = before ++ call :: after → Honours me before call

theorem fresh_append {log added : List Call} {c : ChanPtr} {offer : Call}
    (fresh : Fresh log c offer)
    (same : ∀ old new, .publisherSet c old new ∈ added → old = new) :
    Fresh (log ++ added) c offer := by
  obtain ⟨before, after, rfl, kept⟩ := fresh
  refine ⟨before, after ++ added, by simp, ?_⟩
  intro old new member
  exact (List.mem_append.mp member).elim (kept old new) (same old new)

theorem fresh_opens {log added : List Call} {c : ChanPtr} {offer : Call}
    (fresh : Fresh log c offer) (opens : ∀ call ∈ added, call.opens = true) :
    Fresh (log ++ added) c offer := by
  refine fresh_append fresh ?_
  intro old new member
  cases opens _ member

theorem honours_opens {me : HostPtr} {log added : List Call} {call : Call}
    (honours : Honours me log call) (opens : ∀ call ∈ added, call.opens = true) :
    Honours me (log ++ added) call := by
  cases call with
  | connectTcp _ _ => exact honours
  | connectShm _ _ => exact honours
  | dialled _ _ c h port => exact fresh_opens honours opens
  | mapped _ c publisher shm =>
      obtain ⟨h, known, fresh⟩ := honours
      exact ⟨h, known, fresh_opens fresh opens⟩
  | offeredTcp _ _ _ => trivial
  | offeredShm _ _ _ => trivial
  | publisherSet _ _ _ => trivial
  | subscribed _ _ => trivial

theorem honoured_concat {me : HostPtr} {log : List Call} {call : Call}
    (honoured : Honoured me log) (honours : Honours me log call) :
    Honoured me (log ++ [call]) := by
  intro before other after split
  rcases List.eq_nil_or_concat after with rfl | ⟨initial, last, rfl⟩
  · obtain ⟨rfl, same⟩ := List.append_inj' split rfl
    exact List.singleton_inj.mp same ▸ honours
  · rw [List.concat_eq_append, ← List.cons_append, ← List.append_assoc] at split
    exact honoured before other initial (List.append_inj' split rfl).1

/-- Calls that open connections and are right now stay right one after another. -/
theorem honoured_opens {me : HostPtr} {log added : List Call} (honoured : Honoured me log)
    (right : ∀ call ∈ added, call.opens = true ∧ Honours me log call) :
    Honoured me (log ++ added) := by
  induction added generalizing log with
  | nil => rwa [List.append_nil]
  | cons call added ih =>
      have first := right call List.mem_cons_self
      rw [List.append_cons]
      refine ih (honoured_concat honoured first.2) ?_
      intro other member
      obtain ⟨opens, honours⟩ := right other (List.mem_cons_of_mem _ member)
      exact ⟨opens, honours_opens honours (by simpa using first.1)⟩

namespace Node

/-- What the channels know about offers comes from their publishers. -/
structure OffersKept (n : Node) : Prop where
  registered : Registered n
  honoured : Honoured n.mesh.me n.log
  tcp : ∀ c, (n.chan c).offeredPort ≠ 0 → ∃ h, (n.chan c).publisher = some h ∧
    h ≠ n.mesh.me ∧ Fresh n.log c (.offeredTcp h c (n.chan c).offeredPort)
  shm : ∀ c h, (n.chan c).publisher = some h → h ≠ n.mesh.me →
    (n.chan c).offeredShmPath ≠ [] → Fresh n.log c (.offeredShm h c (n.offeredShm c))

/-- No call of this computation dereferences a null publisher. -/
abbrev Sound (good : Node → Prop) (result : Result Node) : Prop :=
  Ensures good (fun fault => fault ≠ .nullPublisher) result

theorem offersKept_init (ID port : Int32) (bindPort : ChanPtr → DataPort) :
    OffersKept (init ID port bindPort) where
  registered := registered_init ID port bindPort
  honoured := by
    intro before call after split
    have empty : [] = before ++ call :: after := split
    simp at empty
  tcp _ offered := absurd rfl offered
  shm _ _ _ _ offered := absurd rfl offered

/-! ## Opening connections -/

/-- A subscription of channel `c`, as far as it lives, points back to it. -/
private theorem channel_of_listed {n st : Node} {c : ChanPtr} {s : SubPtr} {sub : SubscriptionImpl}
    (registered : Registered n) (member : s ∈ (n.chan c).subscriptions)
    (same : ∀ s, (st.sub s).map SubscriptionImpl.channel = (n.sub s).map SubscriptionImpl.channel)
    (found : st.sub s = some sub) : sub.channel = c := by
  have channel := same s
  rw [found, Option.map_some] at channel
  obtain ⟨old, found', sameChannel⟩ := Option.map_eq_some_iff.mp channel.symm
  exact sameChannel ▸ (registered.alive s c (registered.listed s c member) old found').1

/-- The loop of `connect_tcp()` only dials the port offered to its publisher. -/
private theorem dials {n st : Node} {c : ChanPtr} {h : HostPtr} (registered : Registered n)
    (published : (n.chan c).publisher = some h) (start : Connecting n st) :
    Sound (fun n' => Connecting st n' ∧ ∃ added, n'.log = st.log ++ added ∧
      ∀ call ∈ added, ∃ s k, call = .dialled s k c h (n.chan c).offeredPort)
      ((n.chan c).subscriptions.foldlM subConnectTcp st) := by
  refine Ensures.foldlM ⟨Connecting.refl st, [], by simp⟩ ?_
  rintro state s member ⟨connecting, added, log, dialled⟩
  have same := start.trans connecting
  have subOf : ∀ sub, state.sub s = some sub → sub.channel = c :=
    fun sub found => channel_of_listed registered member same.subChannel found
  refine Ensures.of_cases ?_ ?_
  · intro next ran
    refine ⟨connecting.trans (subConnectTcp_connecting ran), ?_⟩
    obtain ⟨sub, found, ⟨_, rfl⟩ | ⟨_, publisher, known, rfl⟩⟩ := subConnectTcp_cases ran
    · exact ⟨added, log, dialled⟩
    · rw [subOf sub found, same.chan, published, Option.some.injEq] at known
      subst known
      refine ⟨added ++ [.dialled s state.dataSock.next sub.channel h
        (state.chan sub.channel).offeredPort], ?_, ?_⟩
      · rw [← List.append_assoc, ← log]
        rfl
      · intro call later
        rcases List.mem_append.mp later with old | new
        · exact dialled call old
        · rw [List.mem_singleton.mp new, subOf sub found, same.chan]
          exact ⟨s, _, rfl⟩
  · intro fault failed
    unfold subConnectTcp at failed
    rcases bind_eq_error.mp failed with dead | ⟨sub, found, rest⟩
    · unfold subAt at dead
      split at dead
      · cases dead
      · injection dead with isDead
        exact isDead ▸ nofun
    · split at rest
      · cases rest
      · rw [subOf sub (subAt_eq_ok.mp found), same.chan, published] at rest
        cases rest

/-- The loop of `connect_shm()` only maps the segment offered to its publisher. -/
private theorem maps {n st : Node} {c : ChanPtr} (registered : Registered n)
    (start : Connecting n st) :
    Sound (fun n' => Connecting st n' ∧ ∃ added, n'.log = st.log ++ added ∧
      ∀ call ∈ added, ∃ s, call = .mapped s c (n.chan c).publisher (n.offeredShm c))
      ((n.chan c).subscriptions.foldlM subConnectShm st) := by
  refine Ensures.foldlM ⟨Connecting.refl st, [], by simp⟩ ?_
  rintro state s member ⟨connecting, added, log, mapped⟩
  have same := start.trans connecting
  have subOf : ∀ sub, state.sub s = some sub → sub.channel = c :=
    fun sub found => channel_of_listed registered member same.subChannel found
  refine Ensures.of_cases ?_ ?_
  · intro next ran
    refine ⟨connecting.trans (subConnectShm_connecting ran), ?_⟩
    obtain ⟨sub, found, ⟨_, rfl⟩ | ⟨_, rfl⟩⟩ := subConnectShm_cases ran
    · exact ⟨added, log, mapped⟩
    · refine ⟨added ++ [.mapped s sub.channel (state.chan sub.channel).publisher
        (state.offeredShm sub.channel)], ?_, ?_⟩
      · rw [← List.append_assoc, ← log]
        rfl
      · intro call later
        rcases List.mem_append.mp later with old | new
        · exact mapped call old
        · rw [List.mem_singleton.mp new, subOf sub found, offeredShm, same.chan]
          exact ⟨s, rfl⟩
  · intro fault failed
    unfold subConnectShm at failed
    rcases bind_eq_error.mp failed with dead | ⟨sub, found, rest⟩
    · unfold subAt at dead
      split at dead
      · cases dead
      · injection dead with isDead
        exact isDead ▸ nofun
    · split at rest <;> cases rest

/-- Calls that were right keep what the channels know. -/
private theorem OffersKept.opened {n n' : Node} {added : List Call} (kept : OffersKept n)
    (connecting : Connecting n n') (log : n'.log = n.log ++ added)
    (right : ∀ call ∈ added, call.opens = true ∧ Honours n.mesh.me n.log call) :
    OffersKept n' := by
  have me := Mesh.me_of_table connecting.table
  have opens : ∀ call ∈ added, call.opens = true := fun call member => (right call member).1
  refine ⟨connecting.untouched.registered kept.registered, ?_, ?_, ?_⟩
  · rw [me, log]
    exact honoured_opens kept.honoured right
  · intro c offered
    rw [connecting.chan] at offered ⊢
    obtain ⟨h, published, remote, fresh⟩ := kept.tcp c offered
    rw [me, log]
    exact ⟨h, published, remote, fresh_opens fresh opens⟩
  · intro c h published remote offered
    rw [connecting.chan] at published offered
    rw [offeredShm, connecting.chan, log]
    rw [me] at remote
    exact fresh_opens (kept.shm c h published remote offered) opens

private theorem connectTcp_sound {n : Node} {c : ChanPtr} {h : HostPtr} (kept : OffersKept n)
    (published : (n.chan c).publisher = some h) (remote : h ≠ n.mesh.me) :
    Sound OffersKept (n.connectTcp c) := by
  have called : OffersKept (n.record (.connectTcp c (n.chan c).publisher)) := by
    refine kept.opened (connecting_record n _ rfl) rfl ?_
    intro call member
    rw [List.mem_singleton.mp member]
    exact ⟨rfl, h, published, remote⟩
  unfold connectTcp
  dsimp only
  split
  · rw [published] at called ⊢
    refine called.opened (connecting_send _ _ _) (List.append_nil _).symm ?_
    exact nofun
  · next offered =>
    have start : Connecting n (n.record (.connectTcp c (n.chan c).publisher)) :=
      connecting_record n _ rfl
    refine (dials kept.registered published start).mono ?_
    rintro n' ⟨connecting, added, log, dialled⟩
    refine called.opened connecting log ?_
    intro call member
    obtain ⟨s, k, rfl⟩ := dialled call member
    obtain ⟨h', published', _, fresh⟩ := called.tcp c offered
    obtain rfl : h' = h := Option.some.inj (published'.symm.trans published)
    exact ⟨rfl, fresh⟩

private theorem connectShm_sound {n : Node} {c : ChanPtr} {h : HostPtr} (kept : OffersKept n)
    (published : (n.chan c).publisher = some h) (remote : h ≠ n.mesh.me) :
    Sound OffersKept (n.connectShm c) := by
  have called : OffersKept (n.record (.connectShm c (n.chan c).publisher)) := by
    refine kept.opened (connecting_record n _ rfl) rfl ?_
    intro call member
    rw [List.mem_singleton.mp member]
    exact ⟨rfl, h, published, remote⟩
  unfold connectShm
  dsimp only
  split
  · rw [published] at called ⊢
    refine called.opened (connecting_send _ _ _) (List.append_nil _).symm ?_
    exact nofun
  · next offered =>
    have start : Connecting n (n.record (.connectShm c (n.chan c).publisher)) :=
      connecting_record n _ rfl
    refine (maps kept.registered start).mono ?_
    rintro n' ⟨connecting, added, log, mapped⟩
    refine called.opened connecting log ?_
    intro call member
    obtain ⟨s, rfl⟩ := mapped call member
    exact ⟨rfl, h, published, called.shm c h published remote offered⟩

private theorem connect_sound {n : Node} (c : ChanPtr) (kept : OffersKept n) :
    Sound OffersKept (n.connect c) := by
  unfold connect
  cases published : (n.chan c).publisher with
  | none => exact kept
  | some p =>
      dsimp only
      split
      · exact kept
      · next wanted =>
        have remote : p ≠ n.mesh.me := fun same => wanted (.inr same)
        split
        · exact connectShm_sound kept published remote
        · exact connectTcp_sound kept published remote

/-! ## Changing the publisher -/

private theorem Closing.offersKept {n n' : Node} (closing : Closing n n') (kept : OffersKept n)
    (registered : Registered n') : OffersKept n' := by
  refine ⟨registered, ?_, ?_, ?_⟩
  · rw [closing.mesh, closing.log]
    exact kept.honoured
  · intro c
    rw [closing.quiet.offeredPort, closing.quiet.publisher, closing.mesh, closing.log]
    exact kept.tcp c
  · intro c h
    rw [offeredShm, closing.quiet.offeredShmPath, closing.quiet.size, closing.quiet.publisher,
      closing.mesh, closing.log]
    exact kept.shm c h

private theorem subOnClose_error {n : Node} {s : SubPtr} {fault : Fault}
    (failed : n.subOnClose s = .error fault) : fault ≠ .nullPublisher := by
  rcases bind_eq_error.mp failed with dead | ⟨sub, found, rest⟩
  · unfold subAt at dead
    split at dead
    · cases dead
    · injection dead with isDead
      exact isDead ▸ nofun
  · split at rest
    · injection rest with isNull
      exact isNull ▸ nofun
    · cases rest

private theorem subClose_error {n : Node} {s : SubPtr} {fault : Fault}
    (failed : n.subClose s = .error fault) : fault ≠ .nullPublisher := by
  rcases bind_eq_error.mp failed with dead | ⟨sub, found, rest⟩
  · unfold subAt at dead
    split at dead
    · cases dead
    · injection dead with isDead
      exact isDead ▸ nofun
  · split at rest
    · injection rest with isNull
      exact isNull ▸ nofun
    · exact subOnClose_error rest
    · exact subOnClose_error rest

private theorem disconnectFrom_sound {c : ChanPtr} {left it : Nat} {n : Node}
    (kept : OffersKept n) : Sound OffersKept (disconnectFrom c left it n) := by
  induction left generalizing it n with
  | zero => exact kept
  | succ left ih =>
      unfold disconnectFrom
      split
      · exact nofun
      · next s _ =>
        have first : Sound OffersKept (n.subClose s) := by
          refine Ensures.of_cases ?_ fun fault => subClose_error
          intro mid closed
          exact (subClose_closing closed).offersKept kept
            (subClose_registered kept.registered closed).1
        exact first.bind fun mid => ih

private theorem replacePublisher_kept {n : Node} {c : ChanPtr} {p : Option HostPtr}
    (kept : OffersKept n)
    (change : ∀ h, p = some h → h ≠ n.mesh.me → (n.chan c).publisher ≠ some h →
      (n.chan c).offeredShmPath = []) : OffersKept (n.replacePublisher c p) := by
  have other : ∀ d, d ≠ c → (n.replacePublisher c p).chan d = n.chan d :=
    fun d => n.replacePublisher_chan_of_ne p
  have same := n.replacePublisher_chan c p
  refine ⟨(untouched_replacePublisher n c p).registered kept.registered, ?_, ?_, ?_⟩
  · exact honoured_concat kept.honoured trivial
  · intro d offered
    by_cases isC : d = c
    · rw [isC, same] at offered
      exact absurd rfl offered
    · rw [other d isC] at offered ⊢
      obtain ⟨h, published, remote, fresh⟩ := kept.tcp d offered
      refine ⟨h, published, remote, fresh_append fresh ?_⟩
      intro old new member
      injection List.mem_singleton.mp member with isC'
      exact absurd isC' isC
  · intro d h published remote offered
    by_cases isC : d = c
    · subst isC
      rw [same] at published offered
      have unchanged : (n.chan d).publisher = some h := by
        by_contra changed
        exact offered (change h published remote changed)
      have fresh := kept.shm d h unchanged remote offered
      rw [offeredShm, same]
      refine fresh_append fresh ?_
      intro old new member
      injection List.mem_singleton.mp member with _ isOld isNew
      rw [isOld, isNew, unchanged]
      exact published.symm
    · rw [other d isC] at published offered
      have fresh := kept.shm d h published remote offered
      rw [offeredShm, other d isC]
      refine fresh_append fresh ?_
      intro old new member
      injection List.mem_singleton.mp member with isC'
      exact absurd isC' isC

private theorem setPublisher_sound {n : Node} {c : ChanPtr} {p : Option HostPtr}
    (kept : OffersKept n)
    (change : ∀ h, p = some h → h ≠ n.mesh.me → (n.chan c).publisher ≠ some h →
      (n.chan c).offeredShmPath = []) : Sound OffersKept (n.setPublisher c p) := by
  have first : Sound (fun mid => Closing n mid ∧ OffersKept mid) (n.disconnectOther c p) := by
    refine Ensures.of_cases ?_ ?_
    · intro mid closed
      refine ⟨disconnectOther_closing closed, ?_⟩
      rcases disconnectOther_cases closed with ⟨_, disconnected⟩ | ⟨_, rfl⟩
      · exact (disconnectFrom_sound kept).of_ok disconnected
      · exact kept
    · intro fault failed
      unfold disconnectOther at failed
      split at failed
      · exact (disconnectFrom_sound kept).of_error failed
      · cases failed
  refine first.bind ?_
  rintro mid ⟨closing, midKept⟩
  have replaced : OffersKept (mid.replacePublisher c p) := by
    refine replacePublisher_kept midKept ?_
    rw [closing.mesh, closing.quiet.publisher, closing.quiet.offeredShmPath]
    exact change
  unfold connectWanted
  split
  · exact connect_sound c replaced
  · exact replaced

private theorem closeAllChannels_sound {n : Node} (h : HostPtr) (kept : OffersKept n) :
    Sound OffersKept (n.closeAllChannels h) := by
  refine Ensures.foldlM kept ?_
  intro state c _ stateKept
  split
  · exact setPublisher_sound stateKept (fun _ impossible => by cases impossible)
  · exact stateKept

/-! ## The condition -/

/-- `input` is an `OFFER_TCP=` or `OFFER_SHM=` of `h` for channel `c`. -/
def Offers (n : Node) (h : HostPtr) (c : ChanPtr) (input : Input) : Prop :=
  ∃ s, n.Speaks h s input ∧ n.getChannel (strBefore (strAfter s ['=']) ['|']) = some c ∧
    (strStartsWith s "OFFER_TCP=".toList = true ∨ strStartsWith s "OFFER_SHM=".toList = true)

/-- `input` is a `PUBLISH=` of type `A` or `S` that names `p` as the publisher of the
channel `c`, which has none. -/
def Names (n : Node) (p : HostPtr) (c : ChanPtr) (input : Input) : Prop :=
  ∃ h s name, n.Speaks h s input ∧ strStartsWith s "PUBLISH=".toList = true ∧
    (strAfter s ['=']).headD NUL ≠ 'P' ∧ statementName (strAfter s ['=']) = .ok name ∧
    n.getChannel name = some c ∧ (n.chan c).publisher = none ∧
    n.namedHost (strAfter (strAfter s ['=']) ['|']) = some p

/-- Offers come from the remote publisher of their channel, and a channel with a
new remote publisher has no segment of an earlier one. -/
structure OffersByPublisher (n : Node) (input : Input) : Prop where
  offers : ∀ h c, n.Offers h c input → (n.chan c).publisher = some h ∧ h ≠ n.mesh.me
  changes : ∀ h c, n.Announces h c input ∨ n.Names h c input → h ≠ n.mesh.me →
    (n.chan c).publisher ≠ some h → (n.chan c).offeredShmPath = []

/-- `input` is not the request `CONNECT_SHM=`, which no node writes: it writes
`CONNECT_SHM` without the `=`. -/
def notShmRequest : Input → Bool
  | .line _ s => !strStartsWith s "CONNECT_SHM=".toList
  | _ => true

/-! ## The reactions -/

private theorem OffersKept.mesh {n : Node} {m : Mesh} (kept : OffersKept n)
    (same : m.self = n.mesh.self) : OffersKept { n with mesh := m } := by
  have me : m.me = n.mesh.me := Mesh.me_of_self same
  refine ⟨(untouched_mesh n m).registered kept.registered, ?_, ?_, ?_⟩
  · rw [me]
    exact kept.honoured
  · rw [me]
    exact kept.tcp
  · rw [me]
    exact kept.shm

private theorem OffersKept.connected {n n' : Node} (kept : OffersKept n)
    (connecting : Connecting n n') (log : n'.log = n.log) : OffersKept n' := by
  refine kept.opened connecting (log.trans (List.append_nil _).symm) ?_
  exact nofun

private theorem Created.offersKept {n n' : Node} {name : Str} {c : ChanPtr}
    (created : Created n n' name c) (kept : OffersKept n) : OffersKept n' := by
  by_cases known : c < n.chan.next
  · exact (created.found known).2 ▸ kept
  · have fresh := created.fresh (Nat.not_lt.mp known)
    refine ⟨(created.untouched kept.registered).registered kept.registered, ?_, ?_, ?_⟩
    · rw [created.mesh, created.log]
      exact kept.honoured
    · intro d
      rw [created.mesh, created.log]
      by_cases new : d = c
      · rw [new, fresh]
        exact fun offered => absurd rfl offered
      · rw [created.other d new]
        exact kept.tcp d
    · intro d h
      rw [created.mesh, created.log, offeredShm]
      by_cases new : d = c
      · rw [new, fresh]
        exact fun _ _ offered => absurd rfl offered
      · rw [created.other d new]
        exact kept.shm d h

private theorem addSubscription_kept {n : Node} {c : ChanPtr} (kept : OffersKept n)
    (inside : c < n.chan.next) : OffersKept (n.addSubscription c) := by
  have fields := n.addSubscription_core c
  have noChange : ∀ d old new, .publisherSet d old new ∈ [Call.subscribed n.sub.next c] →
      old = new := by simp
  refine ⟨(addSubscription_registered kept.registered inside).1, ?_, ?_, ?_⟩
  · exact honoured_concat kept.honoured trivial
  · intro d
    rw [ChannelImpl.offeredPort_of_core (fields d), ChannelImpl.publisher_of_core (fields d)]
    intro offered
    obtain ⟨h, published, remote, fresh⟩ := kept.tcp d offered
    exact ⟨h, published, remote, fresh_append fresh (noChange d)⟩
  · intro d h
    rw [offeredShm, ChannelImpl.offeredShmPath_of_core (fields d),
      ChannelImpl.size_of_core (fields d), ChannelImpl.publisher_of_core (fields d)]
    intro published remote offered
    exact fresh_append (kept.shm d h published remote offered) (noChange d)

private theorem subscribe_sound {n : Node} (name : Str) (kept : OffersKept n) :
    Sound OffersKept (n.subscribe name) := by
  have created := n.getOrCreateChannel_created name
  exact connect_sound _ (addSubscription_kept (created.offersKept kept) created.known)

private theorem publish_sound {n : Node} (name : Str) (kept : OffersKept n) :
    Sound OffersKept (n.publish name) := by
  have created := n.getOrCreateChannel_created name
  have known := created.offersKept kept
  unfold publish publishChannel
  dsimp only
  split
  · exact known
  · refine (setPublisher_sound known ?_).bind ?_
    · intro h own remote
      exact absurd (Option.some.inj own).symm remote
    · intro set setKept
      exact setKept.connected (connecting_broadcast _ _) rfl

private theorem unpublish_sound {n : Node} (name : Str) (kept : OffersKept n) :
    Sound OffersKept (n.unpublish name) := by
  unfold unpublish
  split
  · next c _ =>
    refine (setPublisher_sound kept (fun _ impossible => by cases impossible)).bind ?_
    intro set setKept
    exact setKept.connected (connecting_broadcast _ _) rfl
  · exact kept

/-- A condition on the channel of that name also holds of a channel made for it. -/
private theorem Created.path {n mid : Node} {name : Str} {c : ChanPtr} {p : Option HostPtr}
    (created : Created n mid name c)
    (path : n.getChannel name = some c → (n.chan c).publisher ≠ p →
      (n.chan c).offeredShmPath = []) :
    (mid.chan c).publisher ≠ p → (mid.chan c).offeredShmPath = [] := by
  by_cases known : c < n.chan.next
  · obtain ⟨found, rfl⟩ := created.found known
    exact path found
  · rw [created.fresh (Nat.not_lt.mp known)]
    exact fun _ => rfl

private theorem statementName_sound (statement : Str) :
    Ensures (fun name => statementName statement = .ok name)
      (fun fault => fault ≠ .nullPublisher) (statementName statement) := by
  refine Ensures.of_cases (fun _ ran => ran) ?_
  intro fault failed
  rcases bind_eq_error.mp failed with short | ⟨rest, _, done⟩
  · unfold substr at short
    split at short
    · cases short
    · injection short with isShort
      exact isShort ▸ nofun
  · cases done

private theorem publishStatement_sound {n : Node} {h : HostPtr} {s : Str} {input : Input}
    (kept : OffersKept n) (allowed : OffersByPublisher n input) (speaks : n.Speaks h s input)
    (starts : strStartsWith s "PUBLISH=".toList = true) :
    Sound OffersKept (n.applyPublishStatement h (strAfter s ['='])) := by
  refine (statementName_sound _).bind ?_
  intro name named
  have created := n.getOrCreateChannel_created name
  have known := created.offersKept kept
  have me : (n.getOrCreateChannel name).1.mesh.me = n.mesh.me := by rw [created.mesh]
  dsimp only
  by_cases type : (strAfter s ['=']).headD NUL = 'P'
  · rw [if_pos type]
    refine setPublisher_sound known ?_
    rintro _ ⟨⟩ remote
    rw [me] at remote
    refine created.path ?_
    intro _
    exact allowed.changes h _ (.inl (.statement speaks starts named rfl type)) remote
  · rw [if_neg type]
    split
    · split
      · exact known
      · next unknown =>
        refine setPublisher_sound known ?_
        intro p isP remote
        rw [me] at remote
        refine created.path ?_
        intro found other
        have same := created.found (getChannel_eq_some found).1
        rw [same.2] at isP unknown
        have none := Option.not_isSome_iff_eq_none.mp unknown
        exact allowed.changes p _
          (.inr ⟨h, s, name, speaks, starts, type, named, found, none, isP⟩) remote other
    · exact known

private theorem unpublishStatement_sound {n : Node} (h : HostPtr) (statement : Str)
    (kept : OffersKept n) : Sound OffersKept (n.applyUnpublishStatement h statement) := by
  refine (statementName_sound statement).bind ?_
  intro name _
  split
  · exact setPublisher_sound kept (fun _ impossible => by cases impossible)
  · exact kept

/-- An offer of the publisher is remembered as such. -/
private theorem answerOfferTcp_sound {n : Node} {h : HostPtr} {s : Str} {input : Input}
    (kept : OffersKept n) (allowed : OffersByPublisher n input) (speaks : n.Speaks h s input)
    (starts : strStartsWith s "OFFER_TCP=".toList = true) :
    Sound OffersKept (n.answerOfferTcp h (strAfter s ['='])) := by
  unfold answerOfferTcp
  dsimp only
  split
  · next c found =>
    obtain ⟨published, remote⟩ := allowed.offers h c ⟨s, speaks, found, .inl starts⟩
    generalize strAfter (strAfter s ['=']) ['|'] = offered
    have logged := untouched_record n (.offeredTcp h c (atoi offered)) fun _ _ => Call.noConfusion
    have noChange : ∀ d old new,
        .publisherSet d old new ∈ [Call.offeredTcp h c (atoi offered)] → old = new := by simp
    refine connectTcp_sound ⟨?_, honoured_concat kept.honoured trivial, ?_, ?_⟩ ?_ remote
    · refine (logged.trans (untouched_setChan _ c _ ?_)).registered kept.registered
      exact fun _ => rfl
    · intro d
      by_cases isC : d = c
      · subst isC
        rw [setChan_self]
        exact fun _ => ⟨h, published, remote, n.log, [], rfl, by simp⟩
      · rw [setChan_of_ne _ _ isC]
        intro set
        obtain ⟨p, isP, other, fresh⟩ := kept.tcp d set
        exact ⟨p, isP, other, fresh_append fresh (noChange d)⟩
    · intro d p isP other set
      by_cases isC : d = c
      · subst isC
        rw [setChan_self] at isP set
        rw [offeredShm, setChan_self]
        exact fresh_append (kept.shm d p isP other set) (noChange d)
      · rw [setChan_of_ne _ _ isC] at isP set
        rw [offeredShm, setChan_of_ne _ _ isC]
        exact fresh_append (kept.shm d p isP other set) (noChange d)
    · rw [setChan_self]
      exact published
  · exact kept

private theorem answerOfferShm_sound {n : Node} {h : HostPtr} {s : Str} {input : Input}
    (kept : OffersKept n) (allowed : OffersByPublisher n input) (speaks : n.Speaks h s input)
    (starts : strStartsWith s "OFFER_SHM=".toList = true) :
    Sound OffersKept (n.answerOfferShm h (strAfter s ['='])) := by
  unfold answerOfferShm
  dsimp only
  split
  · next c found =>
    obtain ⟨published, remote⟩ := allowed.offers h c ⟨s, speaks, found, .inr starts⟩
    generalize strAfter (strAfter s ['=']) ['|'] = offered
    have logged := untouched_record n (.offeredShm h c (decodeShm offered))
      fun _ _ => Call.noConfusion
    have noChange : ∀ d old new,
        .publisherSet d old new ∈ [Call.offeredShm h c (decodeShm offered)] → old = new := by simp
    refine connectShm_sound ⟨?_, honoured_concat kept.honoured trivial, ?_, ?_⟩ ?_ remote
    · refine (logged.trans (untouched_setChan _ c _ ?_)).registered kept.registered
      exact fun _ => rfl
    · intro d
      by_cases isC : d = c
      · subst isC
        rw [setChan_self]
        intro set
        obtain ⟨p, isP, other, fresh⟩ := kept.tcp d set
        exact ⟨p, isP, other, fresh_append fresh (noChange d)⟩
      · rw [setChan_of_ne _ _ isC]
        intro set
        obtain ⟨p, isP, other, fresh⟩ := kept.tcp d set
        exact ⟨p, isP, other, fresh_append fresh (noChange d)⟩
    · intro d p isP other set
      by_cases isC : d = c
      · subst isC
        rw [setChan_self] at isP
        rw [offeredShm, setChan_self]
        obtain rfl : h = p := Option.some.inj (published.symm.trans isP)
        exact ⟨n.log, [], rfl, by simp⟩
      · rw [setChan_of_ne _ _ isC] at isP set
        rw [offeredShm, setChan_of_ne _ _ isC]
        exact fresh_append (kept.shm d p isP other set) (noChange d)
    · rw [setChan_self]
      exact published
  · exact kept

private theorem makeOfferTcp_kept {n : Node} (h : HostPtr) (channel : Str) (kept : OffersKept n) :
    OffersKept (n.makeOfferTcp h channel) := by
  unfold makeOfferTcp
  split
  · next c _ =>
    refine OffersKept.connected ?_ (connecting_send _ h _) rfl
    refine ⟨(untouched_setChan n c _ ?_).registered kept.registered, kept.honoured, ?_, ?_⟩
    · exact fun _ => rfl
    · intro d
      by_cases isC : d = c
      · subst isC
        rw [setChan_self]
        exact kept.tcp d
      · rw [setChan_of_ne _ _ isC]
        exact kept.tcp d
    · intro d p
      by_cases isC : d = c
      · subst isC
        rw [offeredShm, setChan_self]
        exact kept.shm d p
      · rw [offeredShm, setChan_of_ne _ _ isC]
        exact kept.shm d p
  · exact kept

private theorem line_sound {n : Node} {k : SockPtr} {s : Str} (kept : OffersKept n)
    (noRequest : notShmRequest (.line k s) = true) (allowed : OffersByPublisher n (.line k s)) :
    Sound OffersKept (n.line k s) := by
  refine Ensures.of_cases ?_ ?_
  · intro n' ran
    cases line_effect ran with
    | ignored same => exact same ▸ kept
    | incoming _ result =>
        exact result ▸ kept.mesh (n.mesh.self_handleIncomingConnection k s)
    | id h _ result => exact result ▸ kept.mesh (Mesh.self_send _ h _)
    | you _ _ _ result => exact result ▸ kept.mesh rfl
    | host _ _ _ _ result => exact result ▸ kept.mesh (n.mesh.self_addHost _ _)
    | connected h _ mid published result =>
        have before : OffersKept { n with mesh := receiveConnected n.mesh h } :=
          kept.mesh (self_receiveConnected n.mesh h)
        obtain ⟨m, table, same⟩ := broadcastPublishedChannels_mesh
          { n with mesh := receiveConnected n.mesh h }
        have announced : OffersKept mid :=
          published ▸ same ▸ before.mesh (Mesh.self_of_table table)
        exact result ▸ announced.mesh (Mesh.self_broadcast _ _)
    | statement h listener ready digested =>
        have speaks : n.Speaks h s (.line k s) := ⟨k, rfl, listener, ready⟩
        cases digest_effect digested with
        | publish starts ran =>
            exact (publishStatement_sound kept allowed speaks starts).of_ok ran
        | unpublish starts ran => exact (unpublishStatement_sound h _ kept).of_ok ran
        | connectTcp _ result => exact result ▸ makeOfferTcp_kept h _ kept
        | connectShm starts _ =>
            rw [notShmRequest, starts] at noRequest
            cases noRequest
        | offerTcp starts ran =>
            exact (answerOfferTcp_sound kept allowed speaks starts).of_ok ran
        | offerShm starts ran =>
            exact (answerOfferShm_sound kept allowed speaks starts).of_ok ran
        | unknown same => exact same ▸ kept
  · intro fault failed
    obtain ⟨h, listener, ready, digested⟩ := line_error failed
    have speaks : n.Speaks h s (.line k s) := ⟨k, rfl, listener, ready⟩
    rcases digest_error digested with ⟨starts, failed⟩ | ⟨_, failed⟩ | ⟨starts, failed⟩ |
      ⟨starts, failed⟩
    · exact (publishStatement_sound kept allowed speaks starts).of_error failed
    · exact (unpublishStatement_sound h _ kept).of_error failed
    · exact (answerOfferTcp_sound kept allowed speaks starts).of_error failed
    · exact (answerOfferShm_sound kept allowed speaks starts).of_error failed

private theorem eof_sound {n : Node} (k : SockPtr) (kept : OffersKept n) :
    Sound OffersKept (n.eof k) := by
  have closed : OffersKept { n with mesh := n.mesh.setSock k (·.closeFd) } := kept.mesh rfl
  have left : Sound OffersKept
      (Node.signalingClosed { n with mesh := n.mesh.setSock k (·.closeFd) } k) := by
    unfold signalingClosed
    split
    · next h _ =>
      unfold hostOnClose
      dsimp only
      split
      · exact nofun
      · exact closeAllChannels_sound h (closed.mesh rfl)
    · exact closed
  refine left.bind ?_
  intro mid midKept
  exact midKept.mesh rfl

private theorem dataEof_sound {n : Node} (k : SockPtr) (kept : OffersKept n) :
    Sound OffersKept (n.dataEof k) := by
  have closed : OffersKept (n.setDataSock k (·.closeFd)) :=
    kept.connected (connecting_setDataSock n k _) rfl
  have left : Sound OffersKept ((n.setDataSock k (·.closeFd)).dataClosed k) := by
    unfold dataClosed
    split
    · next s _ =>
      refine Ensures.of_cases ?_ fun fault => subOnClose_error
      intro mid ran
      refine (subOnClose_closing ran).offersKept closed ?_
      obtain ⟨sub, j, _, _, rfl⟩ := subOnClose_cases ran
      exact registered_deleteSub (registered_setDataSock closed.registered j _) s _
    · exact closed
  refine left.bind ?_
  intro mid midKept
  exact midKept.connected (connecting_setDataSock mid k _) rfl

private theorem dataConnected_sound {n : Node} (k : SockPtr) (c : ConnId) (kept : OffersKept n) :
    Sound OffersKept (n.dataConnected k c) := by
  have opened : OffersKept (n.setDataSock k (·.connected c)) :=
    kept.connected (connecting_setDataSock n k _) rfl
  unfold dataConnected
  dsimp only
  split
  · next s _ =>
    refine Ensures.of_cases ?_ ?_
    · intro n' ran
      have connecting := subOnOpen_connecting ran
      obtain ⟨_, _, rest⟩ := bind_eq_ok.mp ran
      exact opened.connected connecting (by rw [← pure_eq_ok.mp rest]; rfl)
    · intro fault failed
      rcases bind_eq_error.mp failed with dead | ⟨_, _, done⟩
      · unfold subAt at dead
        split at dead
        · cases dead
        · injection dead with isDead
          exact isDead ▸ nofun
      · cases done
  · exact opened

private theorem acceptSubscriptor_kept {n : Node} (c : ChanPtr) (ip : Str) (port : Int32)
    (conn : ConnId) (kept : OffersKept n) : OffersKept (n.acceptSubscriptor c ip port conn) := by
  have core := n.acceptSubscriptor_core c ip port conn
  have same : (n.acceptSubscriptor c ip port conn).mesh = n.mesh ∧
      (n.acceptSubscriptor c ip port conn).log = n.log := by
    unfold acceptSubscriptor
    split <;> exact ⟨rfl, rfl⟩
  refine ⟨(n.acceptSubscriptor_untouched c ip port conn).registered kept.registered, ?_, ?_, ?_⟩
  · rw [same.1, same.2]
    exact kept.honoured
  · intro d
    rw [same.1, same.2, ChannelImpl.offeredPort_of_core (core d),
      ChannelImpl.publisher_of_core (core d)]
    exact kept.tcp d
  · intro d h
    rw [offeredShm, same.1, same.2, ChannelImpl.offeredShmPath_of_core (core d),
      ChannelImpl.size_of_core (core d), ChannelImpl.publisher_of_core (core d)]
    exact kept.shm d h

private theorem react_sound {n : Node} {input : Input} (kept : OffersKept n)
    (noRequest : notShmRequest input = true) (allowed : OffersByPublisher n input) : Sound OffersKept (n.react input) := by
  cases input with
  | addHost ip port => exact kept.mesh (n.mesh.self_addHost ip port)
  | publish name => exact publish_sound name kept
  | unpublish name => exact unpublish_sound name kept
  | subscribe name => exact subscribe_sound name kept
  | announce =>
      obtain ⟨m, table, same⟩ := broadcastPublishedChannels_mesh n
      have announced : OffersKept n.broadcastPublishedChannels :=
        same ▸ kept.mesh (Mesh.self_of_table table)
      exact announced
  | connected k c =>
      have connected : OffersKept (n.connected k c) := by
        unfold connected
        dsimp only
        split
        · exact kept.mesh (Mesh.self_welcome _ _)
        · exact kept.mesh rfl
      exact connected
  | accepted ip port c => exact kept.mesh rfl
  | line k s => exact line_sound kept noRequest allowed
  | eof k => exact eof_sound k kept
  | dataConnected k c => exact dataConnected_sound k c kept
  | dataAccepted c ip port conn => exact acceptSubscriptor_kept c ip port conn kept
  | dataEof k => exact dataEof_sound k kept

/-- In every run in which offers come from the publisher of their channel, and a
new remote publisher finds no segment of an earlier one, all connections are
made for remote publishers and to endpoints that they have offered since they
became the publisher; nor does a next such reaction find the publisher null. -/
theorem offers_honoured (ID port : Int32) (bindPort : ChanPtr → DataPort)
    {trace : List (Input × Node)}
    (ran : Every (Under (fun n input => notShmRequest input = true ∧ OffersByPublisher n input)
      Step) (init ID port bindPort) trace) :
    Always (fun n => Honoured n.mesh.me n.log) (init ID port bindPort) trace ∧
      ∀ input, notShmRequest input = true →
        OffersByPublisher (final (init ID port bindPort) trace) input →
        (final (init ID port bindPort) trace).react input ≠ .error .nullPublisher := by
  have always := ran.always (offersKept_init ID port bindPort) ?_
  · refine ⟨⟨always.1.honoured, fun entry member => (always.2 entry member).honoured⟩, ?_⟩
    intro input noRequest allowed failed
    exact (react_sound always.final noRequest allowed).of_error failed rfl
  · intro n input n' kept stepped
    exact (react_sound kept stepped.1.1 stepped.1.2).of_ok stepped.2

/-- `OffersByPublisher`, as a test of a node that was offered no segment. -/
private def offeredByPublisher (n : Node) : Input → Bool
  | .line k s =>
      match (n.mesh.sock k).listeners, statementName (strAfter s ['=']) with
      | some (.host h), named =>
          (!(strStartsWith s "OFFER_TCP=".toList || strStartsWith s "OFFER_SHM=".toList) ||
            (n.getChannel (strBefore (strAfter s ['=']) ['|'])).all fun c =>
              (n.chan c).publisher == some h && h != n.mesh.me) &&
          match named with
          | .ok name => (n.chan (n.channelOf name)).offeredShmPath == []
          | .error _ => true
      | _, _ => true
  | _ => true

private theorem offersByPublisher_of_test {n : Node} {input : Input}
    (test : offeredByPublisher n input = true) : OffersByPublisher n input := by
  constructor
  · rintro h c ⟨s, ⟨k, rfl, listens, -⟩, known, starts⟩
    simp only [offeredByPublisher, listens, known, Option.all_some, Bool.and_eq_true,
      Bool.or_eq_true, Bool.not_eq_true', Bool.or_eq_false_iff, beq_iff_eq, bne_iff_ne] at test
    rcases test.1 with ⟨notTcp, notShm⟩ | right
    · rcases starts with tcp | shm
      · exact Bool.noConfusion (tcp.symm.trans notTcp)
      · exact Bool.noConfusion (shm.symm.trans notShm)
    · exact right
  · rintro h c (announces | ⟨h', s, name, ⟨k, rfl, listens, -⟩, -, -, named, known, -⟩) other -
    · cases announces with
      | call own _ => exact absurd own other
      | statement speaks starts named known type =>
          obtain ⟨k, rfl, listens, -⟩ := speaks
          simp only [offeredByPublisher, listens, named, known, Bool.and_eq_true,
            beq_iff_eq] at test
          exact test.2
    · have same : n.channelOf name = c := by simp [channelOf, getOrCreateChannel, known]
      simp only [offeredByPublisher, listens, named, same, Bool.and_eq_true, beq_iff_eq] at test
      exact test.2

/-- The publisher of `c` is asked and offers its port, which the subscription dials. -/
theorem subscribe_honoured : ∃ trace n',
    Every Step (init 1 10000 firstPort) (trace ++ [(Input.line 0 "OFFER_TCP=c|10000".toList, n')]) ∧
      Always (fun n => Honoured n.mesh.me n.log) (init 1 10000 firstPort)
        (trace ++ [(Input.line 0 "OFFER_TCP=c|10000".toList, n')]) ∧
      n'.react (.subscribe ['c']) ≠ .error .nullPublisher ∧
      .connectTcp 0 (some 1) ∈ n'.log ∧ .offeredTcp 1 0 10000 ∈ n'.log ∧
      .dialled 0 0 0 1 10000 ∈ n'.log := by
  have replayed : replay react (fun n input => notShmRequest input && offeredByPublisher n input)
      (fun _ n => .connectTcp 0 (some 1) ∈ n.log ∧ .offeredTcp 1 0 10000 ∈ n.log ∧
        .dialled 0 0 0 1 10000 ∈ n.log)
      (.line 0 "OFFER_TCP=c|10000".toList) (init 1 10000 firstPort)
      [.accepted "10.0.0.2".toList 40000 0, .line 0 "ID=2|PORT=10000".toList,
        .line 0 "YOU=10.0.0.1".toList, .line 0 "CONNECTED".toList,
        .subscribe ['c'], .line 0 "PUBLISH=Pc|10.0.0.2:10000".toList] = true := by
    decide +kernel
  obtain ⟨trace, n', ran, checked⟩ := replay_run replayed
  have under : Every (Under (fun n input => notShmRequest input = true ∧ OffersByPublisher n input)
      Step) (init 1 10000 firstPort) (trace ++ [(.line 0 "OFFER_TCP=c|10000".toList, n')]) :=
    ran.mono fun _ _ _ stepped =>
      have allowed := Bool.and_eq_true_iff.mp stepped.1
      ⟨⟨allowed.1, offersByPublisher_of_test allowed.2⟩, stepped.2⟩
  obtain ⟨honoured, next⟩ := offers_honoured 1 10000 firstPort under
  rw [final_concat] at next
  exact ⟨trace, n', ran.of_under, honoured,
    next (.subscribe ['c']) rfl (offersByPublisher_of_test rfl), of_decide_eq_true checked⟩

/-- A connected subscriber hears a second `PUBLISH=Pc` and asks again; the publisher
withdraws the channel and then answers with its offer. -/
theorem not_offers_honoured :
    ¬ ∀ (ID port : Int32) (bindPort : ChanPtr → DataPort) (trace : List (Input × Node)),
      Every (Under (fun _ input => notShmRequest input = true) Step) (init ID port bindPort) trace →
        Always (fun n => Honoured n.mesh.me n.log) (init ID port bindPort) trace := by
  intro law
  have replayed : replay react (fun _ => notShmRequest) (fun _ n' => .connectTcp 0 none ∈ n'.log)
      (.line 0 "OFFER_TCP=c|10000".toList) (init 1 10000 firstPort)
      [.accepted "10.0.0.2".toList 40000 0, .line 0 "ID=2|PORT=10000".toList,
        .line 0 "CONNECTED".toList, .subscribe ['c'],
        .line 0 "PUBLISH=Pc|10.0.0.2:10000".toList, .line 0 "OFFER_TCP=c|10000".toList,
        .dataConnected 0 1, .line 0 "PUBLISH=Pc|10.0.0.2:10000".toList,
        .line 0 "UNPUBLISH=Nc|".toList] = true := by decide
  obtain ⟨trace, n', ran, checked⟩ := replay_run replayed
  have honoured := (law _ _ _ _ ran).final
  rw [final_concat] at honoured
  obtain ⟨before, after, split⟩ := List.append_of_mem (of_decide_eq_true checked)
  obtain ⟨h, impossible, _⟩ := honoured before _ after split
  cases impossible

end Node

end LibPubSub
