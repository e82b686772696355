import LibPubSub.Subscriptions
import Mathlib.Data.List.Nodup

/-! The data sockets of the subscriptions. Only `SubscriptionImpl::connect_tcp` makes
one, and only `bConnected` keeps it from making another: a subscription that
is still connecting gets a second socket when its channel dials again. -/

set_option autoImplicit false

namespace LibPubSub

open Fallible Transition

/-- The socket is open or still connecting. -/
def TCPSocket.Live {Listener : Type} (s : TCPSocket Listener) : Prop :=
  s.Dialling ∨ ∃ c, s.Holds c

namespace Node

/-- `connect_tcp()` of subscription `s` has created socket `k`. -/
def Dialled (n : Node) (s : SubPtr) (k : SockPtr) : Prop :=
  ∃ c p port, Call.dialled s k c p port ∈ n.log

/-- What arrives on data socket `k` is passed to `on_message` of `s`. -/
def Delivers (n : Node) (k : SockPtr) (s : SubPtr) : Prop :=
  (n.dataSock k).listeners = some s ∧ ∃ c, (n.dataSock k).Holds c

/-- A subscription has at most one data connection, so that it gets what its
publisher writes at most once. -/
structure OneConnection (n : Node) : Prop where
  live : ∀ s k k', n.Dialled s k → n.Dialled s k' → (n.dataSock k).Live → (n.dataSock k').Live →
    k = k'
  once : ∀ s k k', n.Delivers k s → n.Delivers k' s → k = k'

/-- `input` makes the subscriptions of channel `c` dial a port: `subscribe()` when
the port of a remote publisher is known, or an `OFFER_TCP=` of a port. -/
inductive Dials (n : Node) (c : ChanPtr) : Input → Prop where
  | subscribed {name : Str} {p : HostPtr} (found : n.getChannel name = some c)
      (published : (n.chan c).publisher = some p) (remote : p ≠ n.mesh.me)
      (away : n.mesh.isLocal p = false) (offered : (n.chan c).offeredPort ≠ 0) :
      Dials n c (.subscribe name)
  | answered {input : Input} {h : HostPtr} {s : Str} (speaks : n.Speaks h s input)
      (starts : strStartsWith s "OFFER_TCP=".toList = true)
      (found : n.getChannel (strBefore (strAfter s ['=']) ['|']) = some c)
      (offered : atoi (strAfter (strAfter s ['=']) ['|']) ≠ 0) : Dials n c input

/-- No subscription of a channel that dials is still connecting. -/
def Patient (n : Node) (input : Input) : Prop :=
  ∀ c, n.Dials c input → ∀ s ∈ (n.chan c).subscriptions, ∀ sub, n.sub s = some sub →
    sub.bConnected = true ∨ sub.socket = none

/-! ## Subscriptions and their sockets -/

/-- The sockets of a subscription that is not connected are all connecting. -/
structure Waiting (n : Node) (s : SubPtr) (socket : Option SockPtr) : Prop where
  dialling : ∀ k, n.Dialled s k → (n.dataSock k).Dialling ∧ (n.dataSock k).listeners = some s
  listening : ∀ k, (n.dataSock k).listeners = some s → n.Dialled s k
  current : ∀ k, socket = some k → n.Dialled s k
  nothing : socket = none → ∀ k, ¬ n.Dialled s k

structure Tied (n : Node) : Prop where
  nodup : ∀ c, (n.chan c).subscriptions.Nodup
  listed : ∀ c, ∀ s ∈ (n.chan c).subscriptions, s < n.sub.next
  dialled : ∀ s k, n.Dialled s k → s < n.sub.next ∧ k < n.dataSock.next
  listening : ∀ s k, (n.dataSock k).listeners = some s → s < n.sub.next ∧ k < n.dataSock.next
  sole : ∀ s k k', (n.dataSock k).listeners = some s → (n.dataSock k').listeners = some s →
    k = k' ∨ (n.Dialled s k ∧ n.Dialled s k')
  own : ∀ s sub k, n.sub s = some sub → sub.socket = some k → (n.dataSock k).listeners = some s
  waiting : ∀ s sub, n.sub s = some sub → sub.bConnected = false → n.Waiting s sub.socket

theorem tied_init (ID port : Int32) (bindPort : ChanPtr → DataPort) :
    Tied (init ID port bindPort) := by
  have nobody : ∀ s k, ¬ (init ID port bindPort).Dialled s k := by
    rintro s k ⟨_, _, _, member⟩
    cases member
  constructor
  · exact fun _ => List.nodup_nil
  · exact fun _ _ member => absurd member List.not_mem_nil
  · exact fun s k dialled => absurd dialled (nobody s k)
  all_goals exact fun _ _ => nofun

/-- A step that dials nothing. -/
structure Undialled (n n' : Node) : Prop where
  tied : Tied n'
  same : ∀ s k, n'.Dialled s k ↔ n.Dialled s k

theorem Undialled.refl {n : Node} (tied : Tied n) : Undialled n n :=
  ⟨tied, fun _ _ => Iff.rfl⟩

theorem Undialled.trans {n mid n' : Node} (first : Undialled n mid) (second : Undialled mid n') :
    Undialled n n' :=
  ⟨second.tied, fun s k => (second.same s k).trans (first.same s k)⟩

/-- Subscriptions and sockets may go, and unconnected subscriptions keep theirs. -/
structure Settling (n n' : Node) : Prop where
  lists : ∀ c, (n'.chan c).subscriptions.Sublist (n.chan c).subscriptions
  subs : ∀ s sub', n'.sub s = some sub' → ∃ sub, n.sub s = some sub ∧ sub'.socket = sub.socket ∧
    (sub'.bConnected = false → sub.bConnected = false)
  heard : ∀ s k, (n'.dataSock k).listeners = some s → (n.dataSock k).listeners = some s
  kept : ∀ s sub' k, n'.sub s = some sub' → (n.dataSock k).listeners = some s →
    (n'.dataSock k).listeners = some s ∧
      (sub'.bConnected = false → n'.dataSock k = n.dataSock k)
  subNext : n'.sub.next = n.sub.next
  sockNext : n'.dataSock.next = n.dataSock.next
  dialled : ∀ s k, n'.Dialled s k ↔ n.Dialled s k

theorem Settling.undialled {n n' : Node} (settling : Settling n n') (tied : Tied n) :
    Undialled n n' := by
  refine ⟨⟨?_, ?_, ?_, ?_, ?_, ?_, ?_⟩, settling.dialled⟩
  · exact fun c => (tied.nodup c).sublist (settling.lists c)
  · intro c s member
    rw [settling.subNext]
    exact tied.listed c s ((settling.lists c).subset member)
  · intro s k dialled
    rw [settling.subNext, settling.sockNext]
    exact tied.dialled s k ((settling.dialled s k).mp dialled)
  · intro s k listener
    rw [settling.subNext, settling.sockNext]
    exact tied.listening s k (settling.heard s k listener)
  · intro s k k' listener listener'
    rw [settling.dialled, settling.dialled]
    exact tied.sole s k k' (settling.heard s k listener) (settling.heard s k' listener')
  · intro s sub' k found socket
    obtain ⟨sub, before, sameSocket, _⟩ := settling.subs s sub' found
    exact (settling.kept s sub' k found (tied.own s sub k before (sameSocket ▸ socket))).1
  · intro s sub' found unconnected
    obtain ⟨sub, before, sameSocket, wasUnconnected⟩ := settling.subs s sub' found
    have waiting := tied.waiting s sub before (wasUnconnected unconnected)
    rw [sameSocket]
    constructor
    · intro k dialled
      obtain ⟨dialling, listener⟩ := waiting.dialling k ((settling.dialled s k).mp dialled)
      have kept := settling.kept s sub' k found listener
      exact ⟨kept.2 unconnected ▸ dialling, kept.1⟩
    · intro k listener
      exact (settling.dialled s k).mpr (waiting.listening k (settling.heard s k listener))
    · intro k socket
      exact (settling.dialled s k).mpr (waiting.current k socket)
    · intro nothing k dialled
      exact waiting.nothing nothing k ((settling.dialled s k).mp dialled)

/-- Nothing happened to the data connections. -/
structure SameData (n n' : Node) : Prop where
  lists : ∀ c, (n'.chan c).subscriptions = (n.chan c).subscriptions
  sub : n'.sub = n.sub
  dataSock : n'.dataSock = n.dataSock
  dialled : ∀ s k, n'.Dialled s k ↔ n.Dialled s k

theorem SameData.settling {n n' : Node} (same : SameData n n') : Settling n n' where
  lists c := same.lists c ▸ List.Sublist.refl _
  subs s sub' found := ⟨sub', same.sub ▸ found, rfl, id⟩
  heard s k listener := same.dataSock ▸ listener
  kept s sub' k _ listener := ⟨same.dataSock ▸ listener, fun _ => by rw [same.dataSock]⟩
  subNext := by rw [same.sub]
  sockNext := by rw [same.dataSock]
  dialled := same.dialled

theorem SameData.trans {n mid n' : Node} (first : SameData n mid) (second : SameData mid n') :
    SameData n n' where
  lists c := (second.lists c).trans (first.lists c)
  sub := second.sub.trans first.sub
  dataSock := second.dataSock.trans first.dataSock
  dialled s k := (second.dialled s k).trans (first.dialled s k)

theorem SameData.undialled {n n' : Node} (same : SameData n n') (tied : Tied n) : Undialled n n' :=
  same.settling.undialled tied

theorem sameData_mesh (n : Node) (m : Mesh) : SameData n { n with mesh := m } :=
  ⟨fun _ => rfl, rfl, rfl, fun _ _ => Iff.rfl⟩

theorem sameData_setChan (n : Node) (c : ChanPtr) (change : ChannelImpl → ChannelImpl)
    (keeps : ∀ channel, (change channel).subscriptions = channel.subscriptions) :
    SameData n (n.setChan c change) := by
  refine ⟨?_, rfl, rfl, fun _ _ => Iff.rfl⟩
  intro d
  simp only [setChan, Heap.modify_apply]
  split
  · next same => rw [same, keeps]
  · rfl

theorem dialled_record (n : Node) (call : Call)
    (other : ∀ s k c p port, call ≠ .dialled s k c p port) (s : SubPtr) (k : SockPtr) :
    (n.record call).Dialled s k ↔ n.Dialled s k := by
  simp only [Dialled, record, List.mem_append, List.mem_singleton, (other s k _ _ _).symm, or_false]

theorem sameData_record (n : Node) (call : Call)
    (other : ∀ s k c p port, call ≠ .dialled s k c p port) : SameData n (n.record call) :=
  ⟨fun _ => rfl, rfl, rfl, n.dialled_record call other⟩

theorem Created.undialled {n n' : Node} {name : Str} {c : ChanPtr} (created : Created n n' name c)
    (tied : Tied n) : Undialled n n' := by
  have lists : ∀ d, ((n'.chan d).subscriptions).Sublist (n.chan d).subscriptions := by
    intro d
    by_cases known : d < n.chan.next
    · rw [created.old d known]
    · by_cases new : d = c
      · subst new
        rw [created.fresh (Nat.not_lt.mp known)]
        exact List.nil_sublist _
      · rw [created.other d new]
  have dialled : ∀ s k, n'.Dialled s k ↔ n.Dialled s k := by
    intro s k
    unfold Dialled
    rw [created.log]
  refine Settling.undialled ⟨lists, ?_, ?_, ?_, ?_, ?_, dialled⟩ tied
  · exact fun s sub' found => ⟨sub', created.sub ▸ found, rfl, id⟩
  · exact fun s k listener => created.dataSock ▸ listener
  · exact fun s sub' k _ listener => ⟨created.dataSock ▸ listener, fun _ => by rw [created.dataSock]⟩
  · rw [created.sub]
  · rw [created.dataSock]

/-! ## New subscriptions -/

theorem addSubscription_undialled {n : Node} (tied : Tied n) (c : ChanPtr) :
    Undialled n (n.addSubscription c) := by
  have dialledOf : ∀ s k, (n.addSubscription c).Dialled s k ↔ n.Dialled s k := fun s k =>
    dialled_record _ (.subscribed n.sub.next c) (fun _ _ _ _ _ => Call.noConfusion) s k
  have unused : ∀ k, ¬ n.Dialled n.sub.next k :=
    fun k dialled => absurd (tied.dialled _ k dialled).1 (Nat.lt_irrefl _)
  have listsOf : ∀ d, ((n.addSubscription c).chan d).subscriptions =
      if d = c then (n.chan d).subscriptions ++ [n.sub.next] else (n.chan d).subscriptions := by
    intro d
    simp only [addSubscription, record, setChan, Heap.modify_apply]
    split
    · next same => rw [same]
    · rfl
  have subOf : ∀ s sub, (n.addSubscription c).sub s = some sub →
      n.sub s = some sub ∨ (s = n.sub.next ∧ sub.socket = none) := by
    intro s sub found
    simp only [addSubscription, record, setChan, Heap.alloc_apply] at found
    split at found
    · next new =>
      rw [Option.some.injEq] at found
      exact .inr ⟨new, found ▸ rfl⟩
    · exact .inl found
  refine ⟨⟨?_, ?_, ?_, ?_, ?_, ?_, ?_⟩, dialledOf⟩
  · intro d
    rw [listsOf]
    split
    · refine List.nodup_append.mpr ⟨tied.nodup d, List.nodup_singleton _, ?_⟩
      intro s old t new
      rw [List.mem_singleton.mp new]
      exact Nat.ne_of_lt (tied.listed d s old)
    · exact tied.nodup d
  · intro d s member
    rw [listsOf] at member
    split at member
    · rcases List.mem_append.mp member with old | new
      · exact Nat.lt_succ_of_lt (tied.listed d s old)
      · exact List.mem_singleton.mp new ▸ Nat.lt_succ_self _
    · exact Nat.lt_succ_of_lt (tied.listed d s member)
  · intro s k dialled
    obtain ⟨sub, sock⟩ := tied.dialled s k ((dialledOf s k).mp dialled)
    exact ⟨Nat.lt_succ_of_lt sub, sock⟩
  · intro s k listener
    obtain ⟨sub, sock⟩ := tied.listening s k listener
    exact ⟨Nat.lt_succ_of_lt sub, sock⟩
  · intro s k k' listener listener'
    rw [dialledOf, dialledOf]
    exact tied.sole s k k' listener listener'
  · intro s sub k found socket
    rcases subOf s sub found with old | ⟨_, none⟩
    · exact tied.own s sub k old socket
    · rw [none] at socket
      cases socket
  · intro s sub found unconnected
    rcases subOf s sub found with old | ⟨rfl, none⟩
    · have waiting := tied.waiting s sub old unconnected
      exact ⟨fun k dialled => waiting.dialling k ((dialledOf s k).mp dialled),
        fun k listener => (dialledOf s k).mpr (waiting.listening k listener),
        fun k socket => (dialledOf s k).mpr (waiting.current k socket),
        fun nothing k dialled => waiting.nothing nothing k ((dialledOf s k).mp dialled)⟩
    · rw [none]
      refine ⟨?_, ?_, ?_, ?_⟩
      · exact fun k dialled => absurd ((dialledOf _ k).mp dialled) (unused k)
      · intro k listener
        exact absurd (tied.listening _ k listener).1 (Nat.lt_irrefl _)
      · exact fun k socket => absurd socket.symm (Option.some_ne_none k)
      · exact fun _ k dialled => unused k ((dialledOf _ k).mp dialled)

theorem acceptSubscriptor_undialled {n : Node} (tied : Tied n) (c : ChanPtr) (ip : Str)
    (port : Int32) (conn : ConnId) : Undialled n (n.acceptSubscriptor c ip port conn) := by
  unfold acceptSubscriptor
  split
  · exact .refl tied
  · next server _ =>
    let mid : Node := { n with
      dataSock := n.dataSock.alloc (.accepted ip port conn n.sub.next false)
      sub := n.sub.alloc (some
        { channel := c, host := server.host, socket := some n.dataSock.next, bConnected := true }) }
    have listenersOf : ∀ k, (mid.dataSock k).listeners =
        if k = n.dataSock.next then some n.sub.next else (n.dataSock k).listeners := by
      intro k
      simp only [mid, Heap.alloc_apply]
      split <;> rfl
    have subOf : ∀ s sub, mid.sub s = some sub →
        (s ≠ n.sub.next ∧ n.sub s = some sub) ∨
          (s = n.sub.next ∧ sub.socket = some n.dataSock.next ∧ sub.bConnected = true) := by
      intro s sub found
      simp only [mid, Heap.alloc_apply] at found
      split at found
      · next new =>
        rw [Option.some.injEq] at found
        exact .inr ⟨new, found ▸ rfl, found ▸ rfl⟩
      · next old => exact .inl ⟨old, found⟩
    -- a listener from before is on a socket from before
    have older : ∀ s k, s ≠ n.sub.next → (mid.dataSock k).listeners = some s →
        (n.dataSock k).listeners = some s := by
      intro s k other listener
      rw [listenersOf] at listener
      split at listener
      · exact absurd (Option.some.inj listener).symm other
      · exact listener
    have kept : ∀ s k, (n.dataSock k).listeners = some s → mid.dataSock k = n.dataSock k :=
      fun s k listener => n.dataSock.alloc_of_lt _ (tied.listening s k listener).2
    have accepted : Undialled n mid := by
      refine ⟨⟨tied.nodup, ?_, ?_, ?_, ?_, ?_, ?_⟩, fun _ _ => Iff.rfl⟩
      · exact fun d s member => Nat.lt_succ_of_lt (tied.listed d s member)
      · intro s k dialled
        obtain ⟨sub, sock⟩ := tied.dialled s k dialled
        exact ⟨Nat.lt_succ_of_lt sub, Nat.lt_succ_of_lt sock⟩
      · intro s k listener
        rw [listenersOf] at listener
        split at listener
        · next new =>
          rw [← Option.some.inj listener, new]
          exact ⟨Nat.lt_succ_self _, Nat.lt_succ_self _⟩
        · obtain ⟨sub, sock⟩ := tied.listening s k listener
          exact ⟨Nat.lt_succ_of_lt sub, Nat.lt_succ_of_lt sock⟩
      · intro s k k' listener listener'
        by_cases new : s = n.sub.next
        · have newest : ∀ j, (mid.dataSock j).listeners = some s → j = n.dataSock.next := by
            intro j listener
            rw [listenersOf] at listener
            split at listener
            · next same => exact same
            · exact absurd (new ▸ (tied.listening s j listener).1) (Nat.lt_irrefl _)
          exact .inl ((newest k listener).trans (newest k' listener').symm)
        · exact tied.sole s k k' (older s k new listener) (older s k' new listener')
      · intro s sub k found socket
        rcases subOf s sub found with ⟨_, old⟩ | ⟨new, isNew, _⟩
        · have listener := tied.own s sub k old socket
          rw [kept s k listener]
          exact listener
        · rw [listenersOf, if_pos (Option.some.inj (socket.symm.trans isNew)), new]
      · intro s sub found unconnected
        rcases subOf s sub found with ⟨other, old⟩ | ⟨_, _, connected⟩
        · have waiting := tied.waiting s sub old unconnected
          refine ⟨?_, ?_, waiting.current, waiting.nothing⟩
          · intro k dialled
            have before := waiting.dialling k dialled
            rw [kept s k before.2]
            exact before
          · exact fun k listener => waiting.listening k (older s k other listener)
        · rw [unconnected] at connected
          cases connected
    refine accepted.trans ((sameData_setChan mid c (fun channel => { channel with
      subscriptors := channel.subscriptors ++ [n.sub.next] }) ?_).undialled accepted.tied)
    exact fun _ => rfl

/-! ## Subscriptions that end -/

/-- `s` is deleted, and only its sockets have changed. -/
theorem settling_deleted {n n' : Node} {s : SubPtr}
    (lists : ∀ c, (n'.chan c).subscriptions.Sublist (n.chan c).subscriptions)
    (sub : n'.sub = n.sub.modify s fun _ => none)
    (socks : ∀ k, n'.dataSock k = n.dataSock k ∨
      ((n'.dataSock k).listeners = (n.dataSock k).listeners ∨ (n'.dataSock k).listeners = none) ∧
        ∀ t, (n.dataSock k).listeners = some t → t = s)
    (sockNext : n'.dataSock.next = n.dataSock.next) (log : n'.log = n.log) : Settling n n' := by
  have alive : ∀ t sub', n'.sub t = some sub' → t ≠ s ∧ n.sub t = some sub' := by
    intro t sub' found
    rw [sub, Heap.modify_apply] at found
    split at found
    · cases found
    · next other => exact ⟨other, found⟩
  refine ⟨lists, ?_, ?_, ?_, ?_, sockNext, ?_⟩
  · exact fun t sub' found => ⟨sub', (alive t sub' found).2, rfl, id⟩
  · intro t k listener
    rcases socks k with same | ⟨same | none, _⟩
    · exact same ▸ listener
    · exact same ▸ listener
    · rw [none] at listener
      cases listener
  · intro t sub' k found listener
    rcases socks k with same | ⟨_, ofS⟩
    · rw [same]
      exact ⟨listener, fun _ => rfl⟩
    · exact absurd (ofS t listener) (alive t sub' found).1
  · rw [sub]
    rfl
  · intro t k
    unfold Dialled
    rw [log]

private theorem deleteSub_lists (n : Node) (s : SubPtr) (c d : ChanPtr) :
    ((n.deleteSub s c).chan d).subscriptions.Sublist (n.chan d).subscriptions := by
  simp only [deleteSub, setChan, Heap.modify_apply]
  split
  · next same => exact same ▸ List.filter_sublist
  · exact List.Sublist.refl _

theorem subClose_settling {n n' : Node} {s : SubPtr} (tied : Tied n) (ran : n.subClose s = .ok n') :
    Settling n n' := by
  obtain ⟨sub, k, close, found, socket, unheard, rfl⟩ := subClose_cases ran
  refine settling_deleted (deleteSub_lists _ s sub.channel) rfl ?_ rfl rfl
  intro j
  simp only [deleteSub, setChan, setDataSock, Heap.modify_apply]
  split
  · next same =>
    refine .inr ⟨.inr (unheard _), ?_⟩
    intro t listener
    rw [same, tied.own s sub k found socket] at listener
    exact (Option.some.inj listener).symm
  · exact .inl rfl

theorem disconnect_undialled {n n' : Node} {c : ChanPtr} (tied : Tied n)
    (ran : n.disconnect c = .ok n') : Undialled n n' := by
  have loop : ∀ left it n, Tied n → disconnectFrom c left it n = .ok n' → Undialled n n' := by
    intro left
    induction left with
    | zero =>
        intro it n tied ran
        exact pure_eq_ok.mp ran ▸ .refl tied
    | succ left ih =>
        intro it n tied ran
        unfold disconnectFrom at ran
        split at ran
        · cases ran
        · obtain ⟨mid, closed, rest⟩ := bind_eq_ok.mp ran
          have first := (subClose_settling tied closed).undialled tied
          exact first.trans (ih (it + 1) mid first.tied rest)
  exact loop _ _ n tied ran

theorem dataEof_settling {n n' : Node} {k : SockPtr} (tied : Tied n) (ran : n.dataEof k = .ok n') :
    Settling n n' := by
  obtain ⟨closed, left, rest⟩ := bind_eq_ok.mp ran
  obtain rfl := pure_eq_ok.mp rest
  unfold dataClosed at left
  have listener : ((n.setDataSock k (·.closeFd)).dataSock k).listeners =
      (n.dataSock k).listeners := by
    simp only [setDataSock, Heap.modify_self, TCPSocket.closeFd]
  rw [listener] at left
  cases heard : (n.dataSock k).listeners with
  | none =>
      rw [heard] at left
      obtain rfl := pure_eq_ok.mp left
      have socks : ∀ i, i ≠ k →
          ((n.setDataSock k (·.closeFd)).setDataSock k (·.reconnectOrEnd)).dataSock i =
            n.dataSock i := by
        intro i other
        simp only [setDataSock, Heap.modify_of_ne _ _ other]
      have silent : (((n.setDataSock k (·.closeFd)).setDataSock k
          (·.reconnectOrEnd)).dataSock k).listeners = none := by
        simp only [setDataSock, Heap.modify_self, TCPSocket.reconnectOrEnd_listeners,
          TCPSocket.closeFd, heard]
      refine ⟨fun _ => .refl _, fun s sub' found => ⟨sub', found, rfl, id⟩, ?_, ?_, rfl, rfl,
        fun _ _ => Iff.rfl⟩
      · intro s i listener
        by_cases same : i = k
        · rw [same, silent] at listener
          cases listener
        · exact socks i same ▸ listener
      · intro s sub' i _ listener
        have other : i ≠ k := by
          intro same
          rw [same, heard] at listener
          cases listener
        rw [socks i other]
        exact ⟨listener, fun _ => rfl⟩
  | some s =>
      simp only [heard] at left
      obtain ⟨sub, j, found, socket, rfl⟩ := subOnClose_cases left
      refine settling_deleted (deleteSub_lists _ s sub.channel) rfl ?_ rfl rfl
      have owner := tied.own s sub j found socket
      intro i
      simp only [deleteSub, setChan, setDataSock, Heap.modify_apply]
      by_cases sameK : i = k
      · subst sameK
        refine .inr ⟨?_, ?_⟩
        · by_cases sameJ : i = j
          · rw [if_pos rfl, if_pos sameJ]
            exact .inr (TCPSocket.reconnectOrEnd_listeners _)
          · simp only [if_neg sameJ, ↓reduceIte]
            exact .inl (TCPSocket.reconnectOrEnd_listeners _)
        · intro t listener
          exact (Option.some.inj (heard.symm.trans listener)).symm
      · rw [if_neg sameK]
        by_cases sameJ : i = j
        · rw [if_pos sameJ]
          refine .inr ⟨.inr rfl, ?_⟩
          intro t listener
          rw [sameJ, owner] at listener
          exact (Option.some.inj listener).symm
        · rw [if_neg sameJ, if_neg sameK]
          exact .inl rfl

/-! ## Subscriptions that connect -/

/-- `s` becomes connected, by a socket of its own. -/
theorem settling_connected {n n' : Node} (s : SubPtr)
    (change : SubscriptionImpl → SubscriptionImpl)
    (socket : ∀ sub, (change sub).socket = sub.socket)
    (connects : ∀ sub, (change sub).bConnected = true)
    (lists : ∀ c, (n'.chan c).subscriptions = (n.chan c).subscriptions)
    (sub : n'.sub = n.sub.modify s (Option.map change))
    (listeners : ∀ k, (n'.dataSock k).listeners = (n.dataSock k).listeners)
    (socks : ∀ k, (n.dataSock k).listeners ≠ some s → (n.dataSock k).listeners ≠ none →
      n'.dataSock k = n.dataSock k)
    (sockNext : n'.dataSock.next = n.dataSock.next)
    (dialled : ∀ t k, n'.Dialled t k ↔ n.Dialled t k) : Settling n n' := by
  have subOf : ∀ t sub', n'.sub t = some sub' →
      (t ≠ s ∧ n.sub t = some sub') ∨ (t = s ∧ sub'.bConnected = true ∧
        ∃ old, n.sub s = some old ∧ sub'.socket = old.socket) := by
    intro t sub' found
    rw [sub, Heap.modify_apply] at found
    split at found
    · next same =>
      obtain ⟨old, before, rfl⟩ := Option.map_eq_some_iff.mp found
      exact .inr ⟨same, connects old, old, before, socket old⟩
    · next other => exact .inl ⟨other, found⟩
  refine ⟨fun c => lists c ▸ .refl _, ?_, ?_, ?_, ?_, sockNext, dialled⟩
  · intro t sub' found
    rcases subOf t sub' found with ⟨_, old⟩ | ⟨rfl, connected, old, before, same⟩
    · exact ⟨sub', old, rfl, id⟩
    · refine ⟨old, before, same, ?_⟩
      intro unconnected
      rw [connected] at unconnected
      cases unconnected
  · exact fun t k listener => listeners k ▸ listener
  · intro t sub' k found listener
    refine ⟨(listeners k).trans listener, ?_⟩
    intro unconnected
    rcases subOf t sub' found with ⟨other, _⟩ | ⟨_, connected, _⟩
    · refine socks k ?_ ?_
      · rw [listener]
        exact fun same => other (Option.some.inj same)
      · rw [listener]
        exact nofun
    · rw [connected] at unconnected
      cases unconnected
  · rw [sub]
    rfl

theorem mapShm_settling (n : Node) (s : SubPtr) (c : ChanPtr) : Settling n (n.mapShm s c) := by
  refine settling_connected s (fun sub =>
    { sub with
      transport := .shm
      shm := if sub.bAsync then sub.shm else some (n.offeredShm c)
      bConnected := true }) ?_ ?_ ?_ rfl ?_ ?_ rfl ?_
  · exact fun _ => rfl
  · exact fun _ => rfl
  · exact fun _ => rfl
  · exact fun _ => rfl
  · exact fun _ _ _ => rfl
  · exact dialled_record _ _ fun _ _ _ _ _ => Call.noConfusion

theorem connectShm_undialled {n n' : Node} {c : ChanPtr} (tied : Tied n)
    (ran : n.connectShm c = .ok n') : Undialled n n' := by
  have called := (sameData_record n (.connectShm c (n.chan c).publisher)
    fun _ _ _ _ _ => Call.noConfusion).undialled tied
  refine called.trans ?_
  rcases connectShm_cases ran with ⟨_, p, _, rfl⟩ | ⟨_, mapped⟩
  · exact (sameData_mesh _ _).undialled called.tied
  · refine foldlM_invariant mapped (Undialled.refl called.tied) ?_
    intro state s next _ before round
    obtain ⟨sub, _, ⟨_, rfl⟩ | ⟨_, rfl⟩⟩ := subConnectShm_cases round
    · exact before
    · exact before.trans ((mapShm_settling state s sub.channel).undialled before.tied)

theorem dataConnected_settling {n n' : Node} {k : SockPtr} {c : ConnId}
    (ran : n.dataConnected k c = .ok n') : Settling n n' := by
  unfold dataConnected at ran
  have listenersOf : ∀ j, ((n.setDataSock k (·.connected c)).dataSock j).listeners =
      (n.dataSock j).listeners := by
    intro j
    simp only [setDataSock, Heap.modify_apply]
    split
    · next same => rw [same]; rfl
    · rfl
  have othersOf : ∀ j, j ≠ k →
      (n.setDataSock k (·.connected c)).dataSock j = n.dataSock j :=
    fun j other => n.dataSock.modify_of_ne (·.connected c) other
  dsimp only at ran
  rw [listenersOf] at ran
  cases heard : (n.dataSock k).listeners with
  | none =>
      rw [heard] at ran
      obtain rfl := pure_eq_ok.mp ran
      refine ⟨fun _ => .refl _, fun s sub' found => ⟨sub', found, rfl, id⟩, ?_, ?_, rfl, rfl,
        fun _ _ => Iff.rfl⟩
      · exact fun s j listener => listenersOf j ▸ listener
      · intro s sub' j _ listener
        refine ⟨(listenersOf j).trans listener, fun _ => othersOf j ?_⟩
        rintro rfl
        rw [heard] at listener
        cases listener
  | some s =>
      simp only [heard] at ran
      obtain ⟨sub, _, rest⟩ := bind_eq_ok.mp ran
      obtain rfl := pure_eq_ok.mp rest
      refine settling_connected s (fun sub => { sub with bConnected := true })
        ?_ ?_ ?_ rfl listenersOf ?_ rfl ?_
      · exact fun _ => rfl
      · exact fun _ => rfl
      · exact fun _ => rfl
      · intro j other _
        refine othersOf j ?_
        rintro rfl
        exact other heard
      · exact fun _ _ => Iff.rfl

/-! ## Subscriptions that dial -/

/-- What `connect_tcp()` of an unconnected subscription `s` does. -/
structure DialStep (n n' : Node) (s : SubPtr) : Prop where
  dialled : ∀ t k, n'.Dialled t k ↔ n.Dialled t k ∨ (t = s ∧ k = n.dataSock.next)
  subs : ∀ t, t ≠ s → n'.sub t = n.sub t
  unconnected : ∀ sub, n.sub s = some sub → ∃ sub', n'.sub s = some sub' ∧
    sub'.bConnected = sub.bConnected ∧ sub'.socket = some n.dataSock.next
  old : ∀ k, k ≠ n.dataSock.next → n'.dataSock k = n.dataSock k
  new : (n'.dataSock n.dataSock.next).Dialling ∧
    (n'.dataSock n.dataSock.next).listeners = some s
  subNext : n'.sub.next = n.sub.next
  sockNext : n'.dataSock.next = n.dataSock.next + 1
  chan : n'.chan = n.chan

theorem dial_spec (n : Node) (s : SubPtr) (c : ChanPtr) (p : HostPtr) :
    DialStep n (n.dial s c p) s where
  dialled t k := by
    simp only [Dialled, dial, record, setSub, List.mem_append, List.mem_singleton,
      Call.dialled.injEq]
    constructor
    · rintro ⟨c', p', port, old | ⟨rfl, rfl, _⟩⟩
      · exact .inl ⟨c', p', port, old⟩
      · exact .inr ⟨rfl, rfl⟩
    · rintro (⟨c', p', port, old⟩ | ⟨rfl, rfl⟩)
      · exact ⟨c', p', port, .inl old⟩
      · exact ⟨c, p, _, .inr ⟨rfl, rfl, rfl, rfl, rfl⟩⟩
  subs t other := n.sub.modify_of_ne _ other
  unconnected sub found := by
    refine ⟨{ sub with socket := some n.dataSock.next, transport := .tcp }, ?_, rfl, rfl⟩
    simp only [dial, record, setSub, Heap.modify_self, found, Option.map_some]
  old k other := n.dataSock.alloc_of_ne _ other
  new := by
    have socket : (n.dial s c p).dataSock n.dataSock.next =
        ({ listeners := some s } : TCPSocket SubPtr).connect (n.mesh.host p).ip
          (n.chan c).offeredPort := n.dataSock.alloc_self _
    rw [socket]
    exact ⟨⟨rfl, rfl⟩, rfl⟩
  subNext := rfl
  sockNext := rfl
  chan := rfl

theorem DialStep.tied {n n' : Node} {s : SubPtr} {sub : SubscriptionImpl}
    (step : DialStep n n' s) (tied : Tied n) (known : s < n.sub.next)
    (found : n.sub s = some sub) (unconnected : sub.bConnected = false) : Tied n' := by
  have waitingS := tied.waiting s sub found unconnected
  have listenersOf : ∀ t k, (n'.dataSock k).listeners = some t →
      (t = s ∧ k = n.dataSock.next) ∨ (n.dataSock k).listeners = some t := by
    intro t k listener
    by_cases new : k = n.dataSock.next
    · rw [new, step.new.2] at listener
      exact .inl ⟨(Option.some.inj listener).symm, new⟩
    · exact .inr (step.old k new ▸ listener)
  have kept : ∀ t k, (n.dataSock k).listeners = some t → n'.dataSock k = n.dataSock k :=
    fun t k listener => step.old k (Nat.ne_of_lt (tied.listening t k listener).2)
  refine ⟨?_, ?_, ?_, ?_, ?_, ?_, ?_⟩
  · exact fun c => step.chan ▸ tied.nodup c
  · intro c t member
    rw [step.subNext]
    exact tied.listed c t (step.chan ▸ member)
  · intro t k dialled
    rw [step.subNext, step.sockNext]
    rcases (step.dialled t k).mp dialled with old | ⟨rfl, rfl⟩
    · exact ⟨(tied.dialled t k old).1, Nat.lt_succ_of_lt (tied.dialled t k old).2⟩
    · exact ⟨known, Nat.lt_succ_self _⟩
  · intro t k listener
    rw [step.subNext, step.sockNext]
    rcases listenersOf t k listener with ⟨rfl, rfl⟩ | old
    · exact ⟨known, Nat.lt_succ_self _⟩
    · exact ⟨(tied.listening t k old).1, Nat.lt_succ_of_lt (tied.listening t k old).2⟩
  · intro t k k' listener listener'
    by_cases same : t = s
    · have isDialled : ∀ j, (n'.dataSock j).listeners = some t → n'.Dialled t j := by
        intro j listener
        rw [step.dialled, same]
        rcases listenersOf t j listener with ⟨_, new⟩ | old
        · exact .inr ⟨rfl, new⟩
        · exact .inl (waitingS.listening j (same ▸ old))
      exact .inr ⟨isDialled k listener, isDialled k' listener'⟩
    · have before : ∀ j, (n'.dataSock j).listeners = some t → (n.dataSock j).listeners = some t :=
        fun j listener => (listenersOf t j listener).resolve_left fun new => same new.1
      refine (tied.sole t k k' (before k listener) (before k' listener')).imp id ?_
      exact And.imp (fun old => (step.dialled t k).mpr (.inl old))
        fun old => (step.dialled t k').mpr (.inl old)
  · intro t sub' k found' socket
    by_cases same : t = s
    · obtain ⟨new, isNew, _, newest⟩ := step.unconnected sub found
      rw [same, isNew, Option.some.injEq] at found'
      subst found'
      obtain rfl := Option.some.inj (newest.symm.trans socket)
      exact same ▸ step.new.2
    · rw [step.subs t same] at found'
      have listener := tied.own t sub' k found' socket
      exact kept t k listener ▸ listener
  · intro t sub' found' unconnected'
    by_cases same : t = s
    · obtain ⟨new, isNew, _, newest⟩ := step.unconnected sub found
      rw [same, isNew, Option.some.injEq] at found'
      subst found' same
      rw [newest]
      refine ⟨?_, ?_, ?_, nofun⟩
      · intro k dialled
        rcases (step.dialled t k).mp dialled with old | ⟨_, rfl⟩
        · have before := waitingS.dialling k old
          exact kept t k before.2 ▸ before
        · exact step.new
      · intro k listener
        rw [step.dialled]
        rcases listenersOf t k listener with new | old
        · exact .inr new
        · exact .inl (waitingS.listening k old)
      · rintro k ⟨⟩
        exact (step.dialled t _).mpr (.inr ⟨rfl, rfl⟩)
    · rw [step.subs t same] at found'
      have waiting := tied.waiting t sub' found' unconnected'
      have dialled : ∀ k, n'.Dialled t k ↔ n.Dialled t k :=
        fun k => (step.dialled t k).trans (or_iff_left fun new => same new.1)
      refine ⟨?_, ?_, ?_, ?_⟩
      · intro k isDialled
        have before := waiting.dialling k ((dialled k).mp isDialled)
        exact kept t k before.2 ▸ before
      · intro k listener
        rcases listenersOf t k listener with ⟨isS, _⟩ | old
        · exact absurd isS same
        · exact (dialled k).mpr (waiting.listening k old)
      · exact fun k socket => (dialled k).mpr (waiting.current k socket)
      · exact fun nothing k isDialled => waiting.nothing nothing k ((dialled k).mp isDialled)

/-- Each subscription has been dialled for once at most. -/
def Single (n : Node) : Prop :=
  ∀ s k k', n.Dialled s k → n.Dialled s k' → k = k'

/-- `s` is connecting and has a socket besides `k`. -/
def Twice (n : Node) (s : SubPtr) (k : SockPtr) : Prop :=
  n.Dialled s k ∧ (∃ k' ≠ k, n.Dialled s k') ∧
    ∃ sub, n.sub s = some sub ∧ sub.bConnected = false

theorem DialStep.twice {n n' : Node} {s t : SubPtr} {k : SockPtr} (step : DialStep n n' s)
    (twice : n.Twice t k) : n'.Twice t k := by
  obtain ⟨dialled, ⟨k', different, dialled'⟩, sub, found, unconnected⟩ := twice
  refine ⟨(step.dialled t k).mpr (.inl dialled),
    ⟨k', different, (step.dialled t k').mpr (.inl dialled')⟩, ?_⟩
  by_cases same : t = s
  · subst same
    obtain ⟨sub', found', connected, _⟩ := step.unconnected sub found
    exact ⟨sub', found', connected.trans unconnected⟩
  · exact ⟨sub, (step.subs t same).trans found, unconnected⟩

/-- Every unconnected subscription of the list dials. -/
private theorem dialAll {subs : List SubPtr} {n n' : Node} (tied : Tied n)
    (known : ∀ s ∈ subs, s < n.sub.next) (nodup : subs.Nodup)
    (ran : subs.foldlM subConnectTcp n = .ok n') :
    Tied n' ∧
      (Single n → (∀ s ∈ subs, ∀ sub, n.sub s = some sub →
        sub.bConnected = true ∨ sub.socket = none) → Single n') ∧
      (∀ s k, n.Twice s k → n'.Twice s k) ∧
      ∀ s ∈ subs, ∀ k sub, n.sub s = some sub → sub.bConnected = false → n.Dialled s k →
        n'.Twice s k := by
  induction subs generalizing n with
  | nil =>
      obtain rfl := pure_eq_ok.mp ran
      exact ⟨tied, fun single _ => single, fun _ _ => id, by simp⟩
  | cons s subs ih =>
      rw [List.foldlM_cons, bind_eq_ok] at ran
      obtain ⟨mid, first, rest⟩ := ran
      obtain ⟨missing, nodup⟩ := List.nodup_cons.mp nodup
      have bound := known s List.mem_cons_self
      obtain ⟨sub, found, ⟨connected, rfl⟩ | ⟨unconnected, p, _, rfl⟩⟩ := subConnectTcp_cases first
      · obtain ⟨done, single, twice, again⟩ :=
          ih tied (fun t member => known t (List.mem_cons_of_mem s member)) nodup rest
        refine ⟨done, ?_, twice, ?_⟩
        · intro before idle
          exact single before fun t member => idle t (List.mem_cons_of_mem s member)
        · intro t member k sub' found' unconnected dialled
          rcases List.mem_cons.mp member with rfl | member
          · obtain rfl := Option.some.inj (found.symm.trans found')
            rw [connected] at unconnected
            cases unconnected
          · exact again t member k sub' found' unconnected dialled
      · have step := dial_spec n s sub.channel p
        have midTied := step.tied tied bound found unconnected
        obtain ⟨done, single, twice, again⟩ := ih midTied
          (fun t member => step.subNext ▸ known t (List.mem_cons_of_mem s member)) nodup rest
        have other : ∀ t ∈ subs, t ≠ s := by
          rintro t member rfl
          exact missing member
        refine ⟨done, ?_, ?_, ?_⟩
        · intro before idle
          refine single ?_ ?_
          · intro t k k' dialled dialled'
            rw [step.dialled] at dialled dialled'
            have nothing : ∀ j, ¬ n.Dialled s j := by
              refine (tied.waiting s sub found unconnected).nothing ?_
              refine (idle s List.mem_cons_self sub found).resolve_left ?_
              rw [unconnected]
              exact nofun
            rcases dialled with old | ⟨rfl, rfl⟩
            · rcases dialled' with old' | ⟨rfl, _⟩
              · exact before t k k' old old'
              · exact absurd old (nothing k)
            · rcases dialled' with old' | ⟨_, rfl⟩
              · exact absurd old' (nothing k')
              · rfl
          · intro t member sub' found'
            rw [step.subs t (other t member)] at found'
            exact idle t (List.mem_cons_of_mem s member) sub' found'
        · exact fun t k before => twice t k (step.twice before)
        · intro t member k sub' found' unconnected' dialled
          rcases List.mem_cons.mp member with rfl | member
          · refine twice t k ⟨(step.dialled t k).mpr (.inl dialled), ?_, ?_⟩
            · refine ⟨n.dataSock.next, ?_, (step.dialled t _).mpr (.inr ⟨rfl, rfl⟩)⟩
              exact Nat.ne_of_gt (tied.dialled t k dialled).2
            · obtain ⟨after, isAfter, connected, _⟩ := step.unconnected sub' found'
              exact ⟨after, isAfter, connected.trans unconnected'⟩
          · refine again t member k sub' ?_ unconnected' ((step.dialled t k).mpr (.inl dialled))
            rw [step.subs t (other t member), found']

/-! ## The reactions -/

/-- What a reaction does to the data connections: only subscriptions of a channel
that dials get sockets, and those that are connecting get another one. -/
structure Reacted (n : Node) (input : Input) (n' : Node) : Prop where
  tied : Tied n'
  single : Single n → Patient n input → Single n'
  twice : ∀ c, n.Dials c input → ∀ s ∈ (n.chan c).subscriptions, ∀ k sub, n.sub s = some sub →
    sub.bConnected = false → n.Dialled s k → n'.Twice s k

theorem Undialled.reacted {n n' : Node} {input : Input} (undialled : Undialled n n')
    (idle : ∀ c, ¬ n.Dials c input) : Reacted n input n' where
  tied := undialled.tied
  single before _ s k k' dialled dialled' :=
    before s k k' ((undialled.same s k).mp dialled) ((undialled.same s k').mp dialled')
  twice c dials := absurd dials (idle c)

/-- `connect_tcp()` only asks for a port while none is known. -/
theorem connectTcp_undialled {n n' : Node} {c : ChanPtr} (tied : Tied n)
    (nothing : (n.chan c).offeredPort = 0) (ran : n.connectTcp c = .ok n') : Undialled n n' := by
  rcases connectTcp_cases ran with ⟨_, p, _, rfl⟩ | ⟨offered, _⟩
  · have called := (sameData_record n (.connectTcp c (n.chan c).publisher)
      fun _ _ _ _ _ => Call.noConfusion).undialled tied
    exact called.trans ((sameData_mesh _ _).undialled called.tied)
  · exact absurd nothing offered

theorem setPublisher_undialled {n n' : Node} {c : ChanPtr} {p : Option HostPtr} (tied : Tied n)
    (ran : n.setPublisher c p = .ok n') : Undialled n n' := by
  obtain ⟨mid, closed, connected⟩ := setPublisher_cases ran
  have first : Undialled n mid := by
    rcases disconnectOther_cases closed with ⟨_, disconnected⟩ | ⟨_, rfl⟩
    · exact disconnect_undialled tied disconnected
    · exact .refl tied
  have replaced : Undialled mid (mid.replacePublisher c p) :=
    ((sameData_setChan mid c (fun channel => { channel with publisher := p, offeredPort := 0 })
      fun _ => rfl).trans (sameData_record _ _ fun _ _ _ _ _ => Call.noConfusion)).undialled
      first.tied
  refine (first.trans replaced).trans ?_
  unfold connectWanted at connected
  split at connected
  · rcases connect_cases connected with ⟨rfl, _⟩ | ⟨_, _, _, _, ⟨_, ran⟩ | ⟨_, ran⟩⟩
    · exact .refl replaced.tied
    · exact connectShm_undialled replaced.tied ran
    · refine connectTcp_undialled replaced.tied ?_ ran
      rw [replacePublisher_chan]
  · exact pure_eq_ok.mp connected ▸ .refl replaced.tied

theorem closeAllChannels_undialled {n n' : Node} {h : HostPtr} (tied : Tied n)
    (ran : n.closeAllChannels h = .ok n') : Undialled n n' := by
  refine foldlM_invariant ran (Undialled.refl tied) ?_
  intro state c next _ before round
  split at round
  · exact before.trans (setPublisher_undialled before.tied round)
  · exact pure_eq_ok.mp round ▸ before

private theorem announced_undialled {n n' : Node} (tied : Tied n)
    (same : n' = n.broadcastPublishedChannels) : Undialled n n' := by
  obtain ⟨m, _, announced⟩ := n.broadcastPublishedChannels_mesh
  rw [same, announced]
  exact (sameData_mesh n m).undialled tied

private theorem publish_undialled {n n' : Node} {name : Str} (tied : Tied n)
    (ran : n.publish name = .ok n') : Undialled n n' := by
  obtain ⟨mid, c, _, created, ⟨_, rfl⟩ | ⟨_, set, done, rfl⟩⟩ := publish_cases ran
  · exact created.undialled tied
  · have first := created.undialled tied
    have second := setPublisher_undialled first.tied done
    exact (first.trans second).trans ((sameData_mesh set _).undialled second.tied)

private theorem unpublish_undialled {n n' : Node} {name : Str} (tied : Tied n)
    (ran : n.unpublish name = .ok n') : Undialled n n' := by
  unfold unpublish at ran
  split at ran
  · obtain ⟨set, done, rest⟩ := bind_eq_ok.mp ran
    obtain rfl := pure_eq_ok.mp rest
    have first := setPublisher_undialled tied done
    exact first.trans ((sameData_mesh set _).undialled first.tied)
  · exact pure_eq_ok.mp ran ▸ .refl tied

/-- `connect_tcp()` with a known port makes all unconnected subscriptions dial. -/
private theorem connectTcp_dials {n n' : Node} {c : ChanPtr} (tied : Tied n)
    (offered : (n.chan c).offeredPort ≠ 0) (ran : n.connectTcp c = .ok n') :
    Tied n' ∧
      (Single n → (∀ s ∈ (n.chan c).subscriptions, ∀ sub, n.sub s = some sub →
        sub.bConnected = true ∨ sub.socket = none) → Single n') ∧
      ∀ s ∈ (n.chan c).subscriptions, ∀ k sub, n.sub s = some sub → sub.bConnected = false →
        n.Dialled s k → n'.Twice s k := by
  have called := (sameData_record n (.connectTcp c (n.chan c).publisher)
    fun _ _ _ _ _ => Call.noConfusion).undialled tied
  rcases connectTcp_cases ran with ⟨nothing, _⟩ | ⟨_, dialled⟩
  · exact absurd nothing offered
  · obtain ⟨done, single, _, again⟩ :=
      dialAll called.tied (tied.listed c) (tied.nodup c) dialled
    refine ⟨done, ?_, ?_⟩
    · intro before
      refine single fun s k k' dialled dialled' => ?_
      exact before s k k' ((called.same s k).mp dialled) ((called.same s k').mp dialled')
    · intro s member k sub found unconnected isDialled
      exact again s member k sub found unconnected ((called.same s k).mpr isDialled)

private theorem subscribe_reacted {n n' : Node} {name : Str} (tied : Tied n)
    (ran : n.subscribe name = .ok n') : Reacted n (.subscribe name) n' := by
  obtain ⟨mid, c, same, created, connected⟩ := subscribe_cases ran
  have first := created.undialled tied
  have added := first.trans (addSubscription_undialled first.tied c)
  have core := mid.addSubscription_core c c
  have publisher : ((mid.addSubscription c).chan c).publisher = (mid.chan c).publisher :=
    ChannelImpl.publisher_of_core core
  have offeredPort : ((mid.addSubscription c).chan c).offeredPort = (mid.chan c).offeredPort :=
    ChannelImpl.offeredPort_of_core core
  have mesh : (mid.addSubscription c).mesh = n.mesh := created.mesh
  have lists : ((mid.addSubscription c).chan c).subscriptions =
      (mid.chan c).subscriptions ++ [mid.sub.next] := by
    simp only [addSubscription, record, setChan, Heap.modify_self]
  -- the channel that dials is the one that was found
  have dialsHere : ∀ d, n.Dials d (.subscribe name) → d = c ∧ mid = n ∧
      ∃ p, ((mid.addSubscription c).chan c).publisher = some p ∧ p ≠ n.mesh.me ∧
        n.mesh.isLocal p = false ∧ ((mid.addSubscription c).chan c).offeredPort ≠ 0 := by
    intro d dials
    cases dials with
    | @subscribed _ p found published remote away offered =>
        have result := n.getOrCreateChannel_found found
        obtain ⟨rfl, rfl⟩ := Prod.mk.inj (same.symm.trans result)
        exact ⟨rfl, rfl, p, publisher.trans published, remote, away, offeredPort ▸ offered⟩
    | answered speaks =>
        obtain ⟨_, impossible, _⟩ := speaks
        cases impossible
  rcases connect_cases connected with ⟨rfl, idle⟩ | ⟨p, published, remote, _, choice⟩
  · refine added.reacted ?_
    intro d dials
    obtain ⟨_, _, p, published, remote, _, _⟩ := dialsHere d dials
    rcases idle with none | empty | own
    · rw [none] at published
      cases published
    · rw [lists] at empty
      exact absurd empty (List.append_ne_nil_of_right_ne_nil _ (List.cons_ne_nil _ _))
    · rw [own, mesh] at published
      exact remote (Option.some.inj published).symm
  · rcases choice with ⟨here, ran⟩ | ⟨away, ran⟩
    · refine (added.trans (connectShm_undialled added.tied ran)).reacted ?_
      intro d dials
      obtain ⟨_, _, p', published', _, away, _⟩ := dialsHere d dials
      obtain rfl := Option.some.inj (published.symm.trans published')
      rw [mesh, away] at here
      cases here
    · by_cases offered : ((mid.addSubscription c).chan c).offeredPort = 0
      · refine (added.trans (connectTcp_undialled added.tied offered ran)).reacted ?_
        intro d dials
        obtain ⟨_, _, _, _, _, _, known⟩ := dialsHere d dials
        exact known offered
      · obtain ⟨done, single, again⟩ := connectTcp_dials added.tied offered ran
        have isKnown : c < n.chan.next := by
          by_contra outside
          rw [offeredPort, created.fresh (Nat.not_lt.mp outside)] at offered
          exact offered rfl
        obtain ⟨found, rfl⟩ := created.found isKnown
        have dials : mid.Dials c (.subscribe name) :=
          .subscribed found (publisher.symm.trans published) (mesh ▸ remote) (mesh ▸ away)
            (offeredPort ▸ offered)
        have old : ∀ s ∈ (mid.chan c).subscriptions,
            (mid.addSubscription c).sub s = mid.sub s :=
          fun s member => mid.sub.alloc_of_lt _ (tied.listed c s member)
        refine ⟨done, ?_, ?_⟩
        · intro before patient
          refine single ?_ ?_
          · intro s k k' dialled dialled'
            exact before s k k' ((added.same s k).mp dialled) ((added.same s k').mp dialled')
          · intro s member sub found
            rw [lists] at member
            rcases List.mem_append.mp member with member | new
            · exact patient c dials s member sub (old s member ▸ found)
            · rw [List.mem_singleton.mp new] at found
              have isNew : (mid.addSubscription c).sub mid.sub.next =
                  some { channel := c, host := mid.mesh.me } := mid.sub.alloc_self _
              obtain rfl := Option.some.inj (isNew.symm.trans found)
              exact .inr rfl
        · intro d dials' s member k sub alive unconnected dialled
          obtain ⟨rfl, _⟩ := dialsHere d dials'
          refine again s ?_ k sub ?_ unconnected ((added.same s k).mpr dialled)
          · rw [lists]
            exact List.mem_append_left _ member
          · rw [old s member, alive]

/-- `on_offer_tcp` up to `connect_tcp()`. -/
private theorem offered_undialled {n : Node} (tied : Tied n) (h : HostPtr) (c : ChanPtr)
    (port : Int32) : Undialled n ((n.record (.offeredTcp h c port)).setChan c
      fun channel => { channel with offeredPort := port }) := by
  have recorded := (sameData_record n (.offeredTcp h c port)
    fun _ _ _ _ _ => Call.noConfusion).undialled tied
  refine recorded.trans ((sameData_setChan _ c _ ?_).undialled recorded.tied)
  exact fun _ => rfl

private theorem digest_undialled {n n' : Node} {h : HostPtr} {s : Str} (tied : Tied n)
    (ran : n.digestMessage h s = .ok n')
    (idle : strStartsWith s "OFFER_TCP=".toList = true → ∀ c,
      n.getChannel (strBefore (strAfter s ['=']) ['|']) = some c →
        atoi (strAfter (strAfter s ['=']) ['|']) = 0) : Undialled n n' := by
  cases digest_effect ran with
  | publish _ ran =>
      obtain ⟨_, _, mid, c, _, created, ⟨_, set⟩ | ⟨_, rfl | ⟨_, _, set⟩⟩⟩ :=
        applyPublishStatement_cases ran
      · have first := created.undialled tied
        exact first.trans (setPublisher_undialled first.tied set)
      · exact created.undialled tied
      · have first := created.undialled tied
        exact first.trans (setPublisher_undialled first.tied set)
  | unpublish _ ran =>
      obtain ⟨_, _, ⟨_, rfl⟩ | ⟨c, _, set⟩⟩ := applyUnpublishStatement_cases ran
      · exact .refl tied
      · exact setPublisher_undialled tied set
  | connectTcp _ result =>
      rw [result]
      unfold makeOfferTcp
      split
      · next c _ =>
        have stored := (sameData_setChan n c (fun channel => { channel with
          server := some ((n.chan c).server.getD ⟨n.bindPort c, h⟩) }) fun _ => rfl).undialled tied
        exact stored.trans ((sameData_mesh _ _).undialled stored.tied)
      · exact .refl tied
  | connectShm _ result =>
      rw [result]
      unfold makeOfferShm
      split
      · next c _ =>
        have stored := (sameData_setChan n c (fun channel => { channel with
          offeredShmPath := channel.name }) fun _ => rfl).undialled tied
        exact stored.trans ((sameData_mesh _ _).undialled stored.tied)
      · exact .refl tied
  | offerTcp starts ran =>
      unfold answerOfferTcp at ran
      dsimp only at ran
      split at ran
      · next c found =>
        have stored := offered_undialled tied h c (atoi (strAfter (strAfter s ['=']) ['|']))
        refine stored.trans (connectTcp_undialled stored.tied ?_ ran)
        rw [setChan_self]
        exact idle starts c found
      · exact pure_eq_ok.mp ran ▸ .refl tied
  | offerShm _ ran =>
      unfold answerOfferShm at ran
      dsimp only at ran
      split at ran
      · next c found =>
        have recorded := (sameData_record n (.offeredShm h c
          (decodeShm (strAfter (strAfter s ['=']) ['|'])))
          fun _ _ _ _ _ => Call.noConfusion).undialled tied
        have stored := recorded.trans ((sameData_setChan _ c (fun channel => { channel with
          offeredShmPath := (decodeShm (strAfter (strAfter s ['=']) ['|'])).path
          size := (decodeShm (strAfter (strAfter s ['=']) ['|'])).size })
          fun _ => rfl).undialled recorded.tied)
        exact stored.trans (connectShm_undialled stored.tied ran)
      · exact pure_eq_ok.mp ran ▸ .refl tied
  | unknown same =>
      rw [same]
      exact .refl tied

private theorem dials_line {n : Node} {c : ChanPtr} {k : SockPtr} {s : Str}
    (dials : n.Dials c (.line k s)) :
    ∃ h, n.Speaks h s (.line k s) ∧ strStartsWith s "OFFER_TCP=".toList = true ∧
      n.getChannel (strBefore (strAfter s ['=']) ['|']) = some c ∧
      atoi (strAfter (strAfter s ['=']) ['|']) ≠ 0 := by
  cases dials with
  | answered speaks starts found offered =>
      obtain ⟨k', same, listener, ready⟩ := speaks
      obtain ⟨rfl, rfl⟩ := Input.line.inj same
      exact ⟨_, ⟨k, rfl, listener, ready⟩, starts, found, offered⟩

private theorem answered_reacted {n n' : Node} {c : ChanPtr} {k : SockPtr} {s : Str} (tied : Tied n)
    (dials : n.Dials c (.line k s)) (ran : n.line k s = .ok n') : Reacted n (.line k s) n' := by
  obtain ⟨h, ⟨k', same, listener, ready⟩, starts, found, offered⟩ := dials_line dials
  obtain ⟨rfl, _⟩ := Input.line.inj same
  rw [line_keyword listener ready .offerTcp starts, digest_offerTcp starts] at ran
  unfold answerOfferTcp at ran
  simp only [found] at ran
  have stored := offered_undialled tied h c (atoi (strAfter (strAfter s ['=']) ['|']))
  have known : (((n.record (.offeredTcp h c (atoi (strAfter (strAfter s ['=']) ['|'])))).setChan c
      fun channel => { channel with
        offeredPort := atoi (strAfter (strAfter s ['=']) ['|']) }).chan c).offeredPort ≠ 0 := by
    rw [setChan_self]
    exact offered
  obtain ⟨done, single, again⟩ := connectTcp_dials stored.tied known ran
  have lists : (((n.record (.offeredTcp h c (atoi (strAfter (strAfter s ['=']) ['|'])))).setChan c
      fun channel => { channel with
        offeredPort := atoi (strAfter (strAfter s ['=']) ['|']) }).chan c).subscriptions =
      (n.chan c).subscriptions := by
    rw [setChan_self]
    rfl
  rw [lists] at single again
  refine ⟨done, ?_, ?_⟩
  · intro before patient
    refine single ?_ (patient c dials)
    intro t j j' dialled dialled'
    exact before t j j' ((stored.same t j).mp dialled) ((stored.same t j').mp dialled')
  · intro d dials' t member j sub alive unconnected dialled
    obtain ⟨_, _, _, found', _⟩ := dials_line dials'
    obtain rfl := Option.some.inj (found.symm.trans found')
    exact again t member j sub alive unconnected ((stored.same t j).mpr dialled)

private theorem line_reacted {n n' : Node} {k : SockPtr} {s : Str} (tied : Tied n)
    (ran : n.line k s = .ok n') : Reacted n (.line k s) n' := by
  by_cases dials : ∃ c, n.Dials c (.line k s)
  · obtain ⟨c, dials⟩ := dials
    exact answered_reacted tied dials ran
  · have idle : ∀ c, ¬ n.Dials c (.line k s) := fun c isDialled => dials ⟨c, isDialled⟩
    refine Undialled.reacted ?_ idle
    cases line_effect ran with
    | ignored same =>
        rw [same]
        exact .refl tied
    | incoming _ result => exact result ▸ (sameData_mesh n _).undialled tied
    | id _ _ result => exact result ▸ (sameData_mesh n _).undialled tied
    | you _ _ _ result => exact result ▸ (sameData_mesh n _).undialled tied
    | host _ _ _ _ result => exact result ▸ (sameData_mesh n _).undialled tied
    | connected h _ mid published result =>
        have ready := (sameData_mesh n (receiveConnected n.mesh h)).undialled tied
        have announced := ready.trans (announced_undialled ready.tied published)
        exact result ▸ announced.trans ((sameData_mesh mid _).undialled announced.tied)
    | statement h listener ready digested =>
        refine digest_undialled tied digested ?_
        intro starts c found
        by_contra offered
        exact idle c (.answered ⟨k, rfl, listener, ready⟩ starts found offered)

theorem step_reacted {n n' : Node} {input : Input} (tied : Tied n) (stepped : Step n input n') :
    Reacted n input n' := by
  -- only `subscribe()` and lines can dial
  have quiet : (∀ name, input ≠ .subscribe name) → (∀ k s, input ≠ .line k s) →
      ∀ c, ¬ n.Dials c input := by
    intro notSubscribe notLine c dials
    cases dials with
    | subscribed => exact notSubscribe _ rfl
    | answered speaks =>
        obtain ⟨k, same, _⟩ := speaks
        exact notLine k _ same
  cases input with
  | subscribe name => exact subscribe_reacted tied stepped
  | line k s => exact line_reacted tied stepped
  | publish name => exact (publish_undialled tied stepped).reacted (quiet nofun nofun)
  | unpublish name => exact (unpublish_undialled tied stepped).reacted (quiet nofun nofun)
  | announce =>
      have announced := announced_undialled tied (pure_eq_ok.mp stepped).symm
      exact announced.reacted (quiet nofun nofun)
  | eof k =>
      obtain ⟨mid, left, rest⟩ := bind_eq_ok.mp stepped
      obtain rfl := pure_eq_ok.mp rest
      have closed := (sameData_mesh n (n.mesh.setSock k (·.closeFd))).undialled tied
      have lost : Undialled n mid := by
        rcases signalingClosed_cases left with ⟨rfl, _⟩ | ⟨h, current, _, _, looped⟩
        · exact closed
        · have before := (sameData_mesh n
            (hostLost (n.mesh.setSock k (·.closeFd)) h current)).undialled tied
          exact before.trans (closeAllChannels_undialled before.tied looped)
      exact (lost.trans ((sameData_mesh mid _).undialled lost.tied)).reacted (quiet nofun nofun)
  | addHost ip port =>
      obtain rfl := pure_eq_ok.mp stepped
      exact ((sameData_mesh n _).undialled tied).reacted (quiet nofun nofun)
  | connected k c =>
      obtain rfl := pure_eq_ok.mp stepped
      refine Undialled.reacted ?_ (quiet nofun nofun)
      unfold connected
      dsimp only
      split <;> exact (sameData_mesh n _).undialled tied
  | accepted ip port c =>
      obtain rfl := pure_eq_ok.mp stepped
      exact ((sameData_mesh n _).undialled tied).reacted (quiet nofun nofun)
  | dataConnected k c =>
      exact ((dataConnected_settling stepped).undialled tied).reacted (quiet nofun nofun)
  | dataAccepted c ip port conn =>
      obtain rfl := pure_eq_ok.mp stepped
      exact (acceptSubscriptor_undialled tied c ip port conn).reacted (quiet nofun nofun)
  | dataEof k => exact ((dataEof_settling tied stepped).undialled tied).reacted (quiet nofun nofun)

/-! ## The law -/

theorem oneConnection_of_single {n : Node} (tied : Tied n) (single : Single n) :
    OneConnection n where
  live s k k' dialled dialled' _ _ := single s k k' dialled dialled'
  once s k k' delivers delivers' := by
    rcases tied.sole s k k' delivers.1 delivers'.1 with same | ⟨dialled, dialled'⟩
    · exact same
    · exact single s k k' dialled dialled'

/-- A second socket of a connecting subscription is one too many. -/
theorem not_oneConnection_of_twice {n : Node} {s : SubPtr} {k : SockPtr} (tied : Tied n)
    (twice : n.Twice s k) : ¬ OneConnection n := by
  obtain ⟨dialled, ⟨k', different, dialled'⟩, sub, found, unconnected⟩ := twice
  have waiting := tied.waiting s sub found unconnected
  intro one
  exact different (one.live s k' k dialled' dialled (.inl (waiting.dialling k' dialled').1)
    (.inl (waiting.dialling k dialled).1))

/-- In every run from the start of a node, no subscription ever has two data
connections exactly if no step makes a channel dial while one of its
subscriptions is still connecting. -/
theorem always_oneConnection_iff (ID port : Int32) (bindPort : ChanPtr → DataPort)
    {trace : List (Input × Node)} (ran : Every Step (init ID port bindPort) trace) :
    Always OneConnection (init ID port bindPort) trace ↔
      Every (fun n input _ => Patient n input) (init ID port bindPort) trace := by
  have initial := tied_init ID port bindPort
  have single : Single (init ID port bindPort) := by
    rintro s k k' ⟨_, _, _, member⟩
    cases member
  constructor
  · intro always
    refine (ran.and always.every).every_of_steps initial ?_ ?_
    · exact fun n input n' tied both => (step_reacted tied both.1).tied
    · intro n input n' tied both c dials s member sub found
      by_contra waits
      obtain ⟨unconnected, hasSocket⟩ := not_or.mp waits
      rw [Bool.not_eq_true] at unconnected
      obtain ⟨k, socket⟩ := Option.ne_none_iff_exists'.mp hasSocket
      have reacted := step_reacted tied both.1
      have dialled := (tied.waiting s sub found unconnected).current k socket
      exact not_oneConnection_of_twice reacted.tied
        (reacted.twice c dials s member k sub found unconnected dialled) both.2
  · intro patient
    let good : Node → Prop := fun n => Tied n ∧ Single n
    have always : Always good (init ID port bindPort) trace := by
      refine (ran.and patient).always ⟨initial, single⟩ ?_
      rintro n input n' ⟨tied, single⟩ ⟨stepped, patient⟩
      have reacted := step_reacted tied stepped
      exact ⟨reacted.tied, reacted.single single patient⟩
    exact always.mono fun n good => oneConnection_of_single good.1 good.2

/-- The name of the channel that `input` may make dial. -/
private def dialledName : Input → Option Str
  | .subscribe name => some name
  | .line _ s =>
      if strStartsWith s "OFFER_TCP=".toList then some (strBefore (strAfter s ['=']) ['|']) else none
  | _ => none

/-- `Patient`, as a test. -/
private def patiently (n : Node) (input : Input) : Bool :=
  (dialledName input).all fun name => (n.getChannel name).all fun c =>
    (n.chan c).subscriptions.all fun s => (n.sub s).all fun sub =>
      sub.bConnected || sub.socket == none

private theorem patient_of_patiently {n : Node} {input : Input} (test : patiently n input = true) :
    Patient n input := by
  intro c dials s member sub found
  obtain ⟨name, named, known⟩ : ∃ name, dialledName input = some name ∧
      n.getChannel name = some c := by
    cases dials with
    | subscribed known => exact ⟨_, rfl, known⟩
    | answered speaks starts known =>
        obtain ⟨k, rfl, -⟩ := speaks
        exact ⟨_, if_pos starts, known⟩
  have settled := test
  simp only [patiently, named, known, Option.all_some, List.all_eq_true] at settled
  have checked := settled s member
  simpa only [found, Option.all_some, Bool.or_eq_true, beq_iff_eq] using checked

/-- Host 10.0.0.2 publishes `c` and offers port 10000; the second `subscribe()` comes
when the first subscription is connected, and each gets a connection of its own. -/
theorem subscribe_oneConnection : ∃ trace n',
    Every Step (init 1 10000 firstPort) (trace ++ [(Input.dataConnected 1 2, n')]) ∧
      Always OneConnection (init 1 10000 firstPort) (trace ++ [(Input.dataConnected 1 2, n')]) ∧
      (n'.chan 0).subscriptions = [0, 1] ∧ n'.Delivers 0 0 ∧ n'.Delivers 1 1 := by
  have replayed : replay react patiently (fun _ n => (n.chan 0).subscriptions = [0, 1] ∧
        ((n.dataSock 0).listeners = some 0 ∧ (n.dataSock 0).Holds 1) ∧
          (n.dataSock 1).listeners = some 1 ∧ (n.dataSock 1).Holds 2)
      (.dataConnected 1 2) (init 1 10000 firstPort)
      [.accepted "10.0.0.2".toList 40000 0, .line 0 "ID=2|PORT=10000".toList,
        .line 0 "YOU=10.0.0.1".toList, .line 0 "CONNECTED".toList,
        .subscribe ['c'], .line 0 "PUBLISH=Pc|10.0.0.2:10000".toList,
        .line 0 "OFFER_TCP=c|10000".toList, .dataConnected 0 1, .subscribe ['c']] = true := by
    decide +kernel
  obtain ⟨trace, n', ran, checked⟩ := replay_run replayed
  obtain ⟨both, ⟨hears, holds⟩, hears', holds'⟩ := of_decide_eq_true checked
  exact ⟨trace, n', ran.of_under,
    (always_oneConnection_iff 1 10000 firstPort ran.of_under).mpr
      (ran.mono fun _ _ _ stepped => patient_of_patiently stepped.1),
    both, ⟨hears, 1, holds⟩, hears', 2, holds'⟩

/-- Host 10.0.0.2 publishes `c` and offers port 10000; a second `subscribe()` comes
before the socket of the first subscription is open. -/
theorem not_always_oneConnection :
    ¬ ∀ (ID port : Int32) (bindPort : ChanPtr → DataPort) (trace : List (Input × Node)),
      Every Step (init ID port bindPort) trace →
        Always OneConnection (init ID port bindPort) trace := by
  intro law
  have replayed : replay react (fun _ _ => true) (fun _ n =>
        .dialled 0 0 0 1 10000 ∈ n.log ∧ .dialled 0 1 0 1 10000 ∈ n.log ∧
          (n.dataSock 0).Dialling ∧ (n.dataSock 1).Dialling)
      (.subscribe ['c']) (init 1 10000 firstPort)
      [.accepted "10.0.0.2".toList 40000 0, .line 0 "ID=2|PORT=10000".toList,
        .line 0 "YOU=10.0.0.1".toList, .line 0 "CONNECTED".toList,
        .subscribe ['c'], .line 0 "PUBLISH=Pc|10.0.0.2:10000".toList,
        .line 0 "OFFER_TCP=c|10000".toList] = true := by decide
  obtain ⟨trace, n', allowed, checked⟩ := replay_run replayed
  obtain ⟨dialled, dialled', dialling, dialling'⟩ := of_decide_eq_true checked
  have good := (law _ _ _ _ allowed.of_under).final
  rw [final_concat] at good
  exact absurd (good.live 0 0 1 ⟨0, 1, 10000, dialled⟩ ⟨0, 1, 10000, dialled'⟩
    (.inl dialling) (.inl dialling')) (by decide)

end Node

end LibPubSub
