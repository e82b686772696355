import LibPubSub.Moves

/-! The data sockets under the moves of their node and the progress of their own threads.
`socket_effect` says all that a step can do to one of them. -/

set_option autoImplicit false

namespace LibPubSub

open Fallible Transition

namespace TCPSocket

variable {Listener : Type} {s s' : TCPSocket Listener}

/-- The descriptor may have been closed and the listeners removed; the thread has not
got on. -/
structure Eased (s s' : TCPSocket Listener) : Prop where
  ip : s'.ip = s.ip
  port : s'.port = s.port
  isClient : s'.isClient = s.isClient
  bReconnect : s'.bReconnect = s.bReconnect
  thread : s'.thread = s.thread
  fdOpen : s'.fdOpen = true → s.fdOpen = true
  listeners : s.listeners = none → s'.listeners = none

theorem Eased.refl (s : TCPSocket Listener) : Eased s s :=
  ⟨rfl, rfl, rfl, rfl, rfl, id, id⟩

theorem Eased.trans {mid : TCPSocket Listener} (first : Eased s mid) (second : Eased mid s') :
    Eased s s' where
  ip := second.ip.trans first.ip
  port := second.port.trans first.port
  isClient := second.isClient.trans first.isClient
  bReconnect := second.bReconnect.trans first.bReconnect
  thread := second.thread.trans first.thread
  fdOpen isOpen := first.fdOpen (second.fdOpen isOpen)
  listeners unheard := second.listeners (first.listeners unheard)

/-- `connect_tcp` or a data server has just made the socket. -/
def Made (s : TCPSocket Listener) : Prop :=
  s.bReconnect = true ∧ (s.isClient = true → s.thread = .connecting)

theorem Made.eased (made : Made s) (eased : Eased s s') : Made s' := by
  unfold Made
  rw [eased.bReconnect, eased.isClient, eased.thread]
  exact made

/-- The socket that `close()` of its subscription leaves behind. -/
structure Abandoned (s : TCPSocket Listener) : Prop where
  isClient : s.isClient = true
  fdOpen : s.fdOpen = false
  listeners : s.listeners = none

theorem Abandoned.eased (abandoned : Abandoned s) (eased : Eased s s') : Abandoned s' := by
  constructor
  · rw [eased.isClient]
    exact abandoned.isClient
  · cases isOpen : s'.fdOpen with
    | false => rfl
    | true => exact absurd (eased.fdOpen isOpen) (by simp [abandoned.fdOpen])
  · exact eased.listeners abandoned.listeners

/-- The thread neither receives nor has a descriptor that it can connect. -/
structure Stranded (s : TCPSocket Listener) : Prop where
  silent : ∀ c, s.thread ≠ .receiving c
  closed : ¬ s.Dialling

theorem Stranded.eased (stranded : Stranded s) (eased : Eased s s') : Stranded s' := by
  constructor
  · intro c
    rw [eased.thread]
    exact stranded.silent c
  · rintro ⟨thread, isOpen⟩
    exact stranded.closed ⟨eased.thread ▸ thread, eased.fdOpen isOpen⟩

end TCPSocket

namespace Node

open TCPSocket

theorem eased_shut (transport : Transport) (sock : TCPSocket SubPtr) :
    Eased sock (shut transport sock) := by
  cases transport with
  | tcp => exact ⟨rfl, rfl, rfl, rfl, rfl, nofun, fun _ => rfl⟩
  | shm => exact ⟨rfl, rfl, rfl, rfl, rfl, id, fun _ => rfl⟩

/-! ## Where the pointers go -/

/-- Pointers go to objects that exist, the subscriptions of a channel have sockets that
dial, and all data sockets reconnect. -/
structure Grounded (n : Node) : Prop where
  vacant : ∀ s, n.sub.next ≤ s → n.sub s = none
  listed : ∀ c, ∀ s ∈ (n.chan c).subscriptions, s < n.sub.next
  owned : ∀ s sub k, n.sub s = some sub → sub.socket = some k → k < n.dataSock.next
  client : ∀ c, ∀ s ∈ (n.chan c).subscriptions, ∀ sub k, n.sub s = some sub →
    sub.socket = some k → (n.dataSock k).isClient = true
  persistent : ∀ k, (n.dataSock k).bReconnect = true

variable {n n' : Node} {c : ChanPtr} {s : SubPtr}

theorem grounded_init (ID port : Int32) (bindPort : ChanPtr → DataPort) :
    Grounded (init ID port bindPort) :=
  ⟨fun _ _ => rfl, fun _ _ => nofun, fun _ _ _ => nofun, fun _ _ => nofun, fun _ => rfl⟩

theorem Grounded.known (grounded : Grounded n) {sub : SubscriptionImpl}
    (found : n.sub s = some sub) : s < n.sub.next := by
  by_contra outside
  rw [grounded.vacant s (Nat.not_lt.mp outside)] at found
  cases found

/-- Subscriptions may go, and no socket has changed sides. -/
structure Fewer (n n' : Node) : Prop where
  subs : ∀ s sub', n'.sub s = some sub' → ∃ sub, n.sub s = some sub ∧ sub'.socket = sub.socket
  subNext : n'.sub.next = n.sub.next
  sockNext : n'.dataSock.next = n.dataSock.next
  lists : ∀ c, (n'.chan c).subscriptions ⊆ (n.chan c).subscriptions
  isClient : ∀ k, (n'.dataSock k).isClient = (n.dataSock k).isClient
  bReconnect : ∀ k, (n'.dataSock k).bReconnect = (n.dataSock k).bReconnect

theorem Fewer.trans {mid : Node} (first : Fewer n mid) (second : Fewer mid n') : Fewer n n' where
  subs s sub' found := by
    obtain ⟨sub, found, same⟩ := second.subs s sub' found
    obtain ⟨old, found, same'⟩ := first.subs s sub found
    exact ⟨old, found, same.trans same'⟩
  subNext := second.subNext.trans first.subNext
  sockNext := second.sockNext.trans first.sockNext
  lists c := List.Subset.trans (second.lists c) (first.lists c)
  isClient k := (second.isClient k).trans (first.isClient k)
  bReconnect k := (second.bReconnect k).trans (first.bReconnect k)

theorem Fewer.grounded (fewer : Fewer n n') (grounded : Grounded n) : Grounded n' where
  vacant s outside := by
    rw [fewer.subNext] at outside
    cases found : n'.sub s with
    | none => rfl
    | some sub' =>
        obtain ⟨sub, before, _⟩ := fewer.subs s sub' found
        exact absurd (grounded.known before) (Nat.not_lt.mpr outside)
  listed c s member := by
    rw [fewer.subNext]
    exact grounded.listed c s (fewer.lists c member)
  owned s sub' k found socket := by
    obtain ⟨sub, before, same⟩ := fewer.subs s sub' found
    rw [fewer.sockNext]
    exact grounded.owned s sub k before (same ▸ socket)
  client c s member sub' k found socket := by
    obtain ⟨sub, before, same⟩ := fewer.subs s sub' found
    rw [fewer.isClient]
    exact grounded.client c s (fewer.lists c member) sub k before (same ▸ socket)
  persistent k := by
    rw [fewer.bReconnect]
    exact grounded.persistent k

theorem fewer_setDataSock (n : Node) (k : SockPtr) {change : TCPSocket SubPtr → TCPSocket SubPtr}
    (isClient : ∀ sock, (change sock).isClient = sock.isClient)
    (bReconnect : ∀ sock, (change sock).bReconnect = sock.bReconnect) :
    Fewer n (n.setDataSock k change) := by
  refine ⟨fun s sub' found => ⟨sub', found, rfl⟩, rfl, rfl, fun _ => List.Subset.refl _, ?_, ?_⟩
  · intro j
    simp only [setDataSock, Heap.modify_apply]
    split
    · next same => rw [isClient, same]
    · rfl
  · intro j
    simp only [setDataSock, Heap.modify_apply]
    split
    · next same => rw [bReconnect, same]
    · rfl

theorem fewer_eased (n : Node) (k : SockPtr) {change : TCPSocket SubPtr → TCPSocket SubPtr}
    (eases : ∀ sock, Eased sock (change sock)) : Fewer n (n.setDataSock k change) :=
  fewer_setDataSock n k (fun sock => (eases sock).isClient) fun sock => (eases sock).bReconnect

theorem fewer_deleteSub (n : Node) (s : SubPtr) (c : ChanPtr) : Fewer n (n.deleteSub s c) := by
  refine ⟨?_, rfl, rfl, ?_, fun _ => rfl, fun _ => rfl⟩
  · intro t sub' found
    simp only [deleteSub, setChan, Heap.modify_apply] at found
    split at found
    · cases found
    · exact ⟨sub', found, rfl⟩
  · intro d
    simp only [deleteSub, setChan, Heap.modify_apply]
    split
    · next same =>
      rw [same]
      exact List.filter_subset_self _
    · exact List.Subset.refl _

/-! ## Moves -/

/-- What moves do to the subscriptions and their sockets. A connected subscription stays as
it is until `close()` runs on it. -/
structure KeepsSockets (n n' : Node) : Prop where
  grounded : Grounded n'
  subNext : n.sub.next ≤ n'.sub.next
  sockNext : n.dataSock.next ≤ n'.dataSock.next
  sockets : ∀ k, (n.dataSock k).Eased (n'.dataSock k) ∨
    (n.dataSock.next ≤ k ∧ (n'.dataSock k).Made)
  dead : ∀ s < n.sub.next, n.sub s = none → n'.sub s = none
  connected : ∀ s sub, n.sub s = some sub → sub.bConnected = true → sub.transport = .tcp →
    n'.sub s = some sub ∨
      (n'.sub s = none ∧ ∃ k, sub.socket = some k ∧ (n'.dataSock k).Abandoned)

namespace KeepsSockets

theorem refl (grounded : Grounded n) : KeepsSockets n n :=
  ⟨grounded, Nat.le_refl _, Nat.le_refl _, fun _ => .inl (.refl _), fun _ _ => id,
    fun _ _ found _ _ => .inl found⟩

theorem eased (keeps : KeepsSockets n n') {k : SockPtr} (old : k < n.dataSock.next) :
    (n.dataSock k).Eased (n'.dataSock k) :=
  (keeps.sockets k).resolve_right fun made => absurd old (Nat.not_lt.mpr made.1)

theorem trans {mid : Node} (grounded : Grounded n) (first : KeepsSockets n mid)
    (second : KeepsSockets mid n') : KeepsSockets n n' where
  grounded := second.grounded
  subNext := Nat.le_trans first.subNext second.subNext
  sockNext := Nat.le_trans first.sockNext second.sockNext
  sockets k := by
    rcases first.sockets k with eased | ⟨isNew, made⟩
    · rcases second.sockets k with eased' | ⟨isNew, made⟩
      · exact .inl (eased.trans eased')
      · exact .inr ⟨Nat.le_trans first.sockNext isNew, made⟩
    · rcases second.sockets k with eased' | ⟨_, made'⟩
      · exact .inr ⟨isNew, made.eased eased'⟩
      · exact .inr ⟨isNew, made'⟩
  dead s old none :=
    second.dead s (Nat.lt_of_lt_of_le old first.subNext) (first.dead s old none)
  connected s sub found isConnected tcp := by
    rcases first.connected s sub found isConnected tcp with alive | ⟨gone, k, socket, abandoned⟩
    · exact second.connected s sub alive isConnected tcp
    · refine .inr ⟨?_, k, socket, ?_⟩
      · exact second.dead s (Nat.lt_of_lt_of_le (grounded.known found) first.subNext) gone
      · have old := Nat.lt_of_lt_of_le (grounded.owned s sub k found socket) first.sockNext
        exact abandoned.eased (second.eased old)

/-- Neither the subscriptions nor the data sockets are concerned. -/
theorem of_same (grounded : Grounded n) (sub : n'.sub = n.sub) (dataSock : n'.dataSock = n.dataSock)
    (lists : ∀ c, (n'.chan c).subscriptions ⊆ (n.chan c).subscriptions) : KeepsSockets n n' := by
  have fewer : Fewer n n' := by
    refine ⟨fun s sub' found => ⟨sub', ?_, rfl⟩, by rw [sub], by rw [dataSock], lists, ?_, ?_⟩
    · rw [← sub]
      exact found
    · exact fun k => by rw [dataSock]
    · exact fun k => by rw [dataSock]
  refine ⟨fewer.grounded grounded, by rw [sub], by rw [dataSock], fun k => .inl ?_, ?_, ?_⟩
  · rw [dataSock]
    exact .refl _
  · exact fun s _ none => by rw [sub, none]
  · exact fun s sub' found _ _ => .inl (by rw [sub, found])

/-- A subscription is constructed; one with a socket is not in the channels' lists. -/
theorem of_alloc {made : SubscriptionImpl} (grounded : Grounded n)
    (sub : n'.sub = n.sub.alloc (some made)) (sockNext : n.dataSock.next ≤ n'.dataSock.next)
    (sockets : ∀ k, (n.dataSock k).Eased (n'.dataSock k) ∨
      (n.dataSock.next ≤ k ∧ (n'.dataSock k).Made))
    (lists : ∀ c, ∀ s ∈ (n'.chan c).subscriptions,
      s ∈ (n.chan c).subscriptions ∨ (s = n.sub.next ∧ made.socket = none))
    (socket : ∀ k, made.socket = some k → k < n'.dataSock.next) : KeepsSockets n n' := by
  have cell : ∀ s sub', n'.sub s = some sub' →
      (s < n.sub.next ∧ n.sub s = some sub') ∨ (s = n.sub.next ∧ sub' = made) := by
    intro s sub' found
    rw [sub, Heap.alloc_apply] at found
    split at found
    · next new => exact .inr ⟨new, (Option.some.inj found).symm⟩
    · exact .inl ⟨grounded.known found, found⟩
  have kept : ∀ s < n.sub.next, n'.sub s = n.sub s := by
    intro s old
    rw [sub, Heap.alloc_of_lt _ _ old]
  have old : ∀ k < n.dataSock.next, (n.dataSock k).Eased (n'.dataSock k) := by
    intro k known
    exact (sockets k).resolve_right fun made => absurd known (Nat.not_lt.mpr made.1)
  refine ⟨⟨?_, ?_, ?_, ?_, ?_⟩, ?_, sockNext, sockets, ?_, ?_⟩
  · intro s outside
    rw [sub, Heap.alloc_next] at outside
    rw [sub, Heap.alloc_of_ne _ _ (by omega)]
    exact grounded.vacant s (by omega)
  · intro c s member
    rw [sub, Heap.alloc_next]
    rcases lists c s member with before | ⟨rfl, _⟩
    · exact Nat.lt_succ_of_lt (grounded.listed c s before)
    · exact Nat.lt_succ_self _
  · intro s sub' k found isSocket
    rcases cell s sub' found with ⟨_, before⟩ | ⟨_, rfl⟩
    · exact Nat.lt_of_lt_of_le (grounded.owned s sub' k before isSocket) sockNext
    · exact socket k isSocket
  · intro c s member sub' k found isSocket
    rcases cell s sub' found with ⟨known, before⟩ | ⟨new, rfl⟩
    · rcases lists c s member with listed | ⟨new, _⟩
      · rw [(old k (grounded.owned s sub' k before isSocket)).isClient]
        exact grounded.client c s listed sub' k before isSocket
      · exact absurd new (Nat.ne_of_lt known)
    · rcases lists c s member with listed | ⟨_, none⟩
      · exact absurd new (Nat.ne_of_lt (grounded.listed c s listed))
      · rw [none] at isSocket
        cases isSocket
  · intro k
    rcases sockets k with eased | ⟨_, made⟩
    · rw [eased.bReconnect]
      exact grounded.persistent k
    · exact made.1
  · rw [sub]
    exact Nat.le_succ _
  · exact fun s known none => by rw [kept s known, none]
  · exact fun s sub' found _ _ => .inl (by rw [kept s (grounded.known found), found])

/-- An unconnected subscription is connected; a socket that it gets dials. -/
theorem of_modify {sub : SubscriptionImpl} {change : SubscriptionImpl → SubscriptionImpl}
    (grounded : Grounded n) (found : n.sub s = some sub) (unconnected : sub.bConnected = false)
    (subs : n'.sub = n.sub.modify s (Option.map change))
    (lists : ∀ c, (n'.chan c).subscriptions = (n.chan c).subscriptions)
    (sockNext : n.dataSock.next ≤ n'.dataSock.next)
    (sockets : ∀ k, (n.dataSock k).Eased (n'.dataSock k) ∨
      (n.dataSock.next ≤ k ∧ (n'.dataSock k).Made))
    (socket : ∀ k, (change sub).socket = some k →
      sub.socket = some k ∨ (k < n'.dataSock.next ∧ (n'.dataSock k).isClient = true)) :
    KeepsSockets n n' := by
  have cell : ∀ t sub', n'.sub t = some sub' →
      (n.sub t = some sub') ∨ (t = s ∧ sub' = change sub) := by
    intro t sub' isSub
    rw [subs, Heap.modify_apply, found, Option.map_some] at isSub
    split at isSub
    · next same => exact .inr ⟨same, (Option.some.inj isSub).symm⟩
    · exact .inl isSub
  have other : ∀ t, t ≠ s → n'.sub t = n.sub t := by
    intro t apart
    rw [subs, Heap.modify_of_ne _ _ apart]
  have known := grounded.known found
  have old : ∀ k < n.dataSock.next, (n.dataSock k).Eased (n'.dataSock k) := by
    intro k known
    exact (sockets k).resolve_right fun made => absurd known (Nat.not_lt.mpr made.1)
  refine ⟨⟨?_, ?_, ?_, ?_, ?_⟩, by rw [subs, Heap.modify_next], sockNext, sockets, ?_, ?_⟩
  · intro t outside
    rw [subs, Heap.modify_next] at outside
    rw [other t (Nat.ne_of_gt (Nat.lt_of_lt_of_le known outside))]
    exact grounded.vacant t outside
  · intro c t member
    rw [subs, Heap.modify_next]
    exact grounded.listed c t (lists c ▸ member)
  · intro t sub' k isSub isSocket
    rcases cell t sub' isSub with before | ⟨rfl, rfl⟩
    · exact Nat.lt_of_lt_of_le (grounded.owned t sub' k before isSocket) sockNext
    · rcases socket k isSocket with before | ⟨inside, _⟩
      · exact Nat.lt_of_lt_of_le (grounded.owned t sub k found before) sockNext
      · exact inside
  · intro c t member sub' k isSub isSocket
    rw [lists] at member
    rcases cell t sub' isSub with before | ⟨rfl, rfl⟩
    · rw [(old k (grounded.owned t sub' k before isSocket)).isClient]
      exact grounded.client c t member sub' k before isSocket
    · rcases socket k isSocket with before | ⟨_, isClient⟩
      · rw [(old k (grounded.owned t sub k found before)).isClient]
        exact grounded.client c t member sub k found before
      · exact isClient
  · intro k
    rcases sockets k with eased | ⟨_, made⟩
    · rw [eased.bReconnect]
      exact grounded.persistent k
    · exact made.1
  · intro t _ none
    rw [other t, none]
    rintro rfl
    rw [found] at none
    cases none
  · intro t sub' isSub isConnected _
    refine .inl ?_
    rw [other t, isSub]
    rintro rfl
    obtain rfl := Option.some.inj (found.symm.trans isSub)
    rw [unconnected] at isConnected
    cases isConnected

end KeepsSockets

theorem subClose_keepsSockets (grounded : Grounded n) (listed : s ∈ (n.chan c).subscriptions)
    (ran : n.subClose s = .ok n') : KeepsSockets n n' := by
  obtain ⟨sub, k, found, socket, result⟩ := subClose_shut ran
  have fewer : Fewer n n' := by
    rw [result]
    exact (fewer_eased n k (eased_shut sub.transport)).trans (fewer_deleteSub _ s sub.channel)
  have cell : ∀ t, n'.sub t = if t = s then none else n.sub t := by
    intro t
    rw [result]
    exact n.sub.modify_apply s t fun _ => none
  have sock : ∀ j, n'.dataSock j =
      if j = k then shut sub.transport (n.dataSock k) else n.dataSock j := by
    intro j
    rw [result]
    exact n.dataSock.modify_apply k j _
  refine ⟨fewer.grounded grounded, Nat.le_of_eq fewer.subNext.symm,
    Nat.le_of_eq fewer.sockNext.symm, fun j => .inl ?_, ?_, ?_⟩
  · rw [sock]
    split
    · next same =>
      rw [same]
      exact eased_shut _ _
    · exact .refl _
  · intro t _ none
    rw [cell, none, ite_self]
  · intro t other before _ tcp
    rw [cell]
    by_cases same : t = s
    · subst same
      obtain rfl := Option.some.inj (found.symm.trans before)
      refine .inr ⟨if_pos rfl, k, socket, ?_⟩
      rw [sock, if_pos rfl, tcp]
      exact ⟨grounded.client c t listed sub k found socket, rfl, rfl⟩
    · rw [if_neg same]
      exact .inl before

theorem Move.keepsSockets (grounded : Grounded n) (move : Move n n') : KeepsSockets n n' := by
  cases move with
  | mesh m => exact .of_same grounded rfl rfl fun _ => List.Subset.refl _
  | record call => exact .of_same grounded rfl rfl fun _ => List.Subset.refl _
  | @created _ _ c created =>
      refine .of_same grounded created.sub created.dataSock fun d => ?_
      by_cases old : d < n.chan.next
      · rw [created.old d old]
        exact List.Subset.refl _
      · by_cases same : d = c
        · subst same
          rw [created.fresh (Nat.not_lt.mp old)]
          exact List.nil_subset _
        · rw [created.other d same]
          exact List.Subset.refl _
  | channel c change subscriptions _ =>
      refine .of_same grounded rfl rfl fun d => ?_
      simp only [setChan, Heap.modify_apply]
      split
      · next same =>
        rw [subscriptions, same]
        exact List.Subset.refl _
      · exact List.Subset.refl _
  | subscribed c =>
      refine .of_alloc grounded rfl (Nat.le_refl _) (fun _ => .inl (.refl _)) ?_
        fun k socket => absurd socket.symm (Option.some_ne_none k)
      intro d t member
      simp only [addSubscription, Node.record, setChan, Heap.modify_apply] at member
      split at member
      · next same =>
        cases List.mem_append.mp member with
        | inl old => exact .inl (same ▸ old)
        | inr new => exact .inr ⟨List.mem_singleton.mp new, rfl⟩
      · exact .inl member
  | @dialled s _ found unconnected c publisher =>
      have made : ∀ k, (n.dial s c publisher).dataSock k = if k = n.dataSock.next
          then ({ listeners := some s } : TCPSocket SubPtr).connect (n.mesh.host publisher).ip
            (n.chan c).offeredPort
          else n.dataSock k := fun k => n.dataSock.alloc_apply _ k
      refine .of_modify grounded found unconnected rfl (fun _ => rfl) (Nat.le_succ _) ?_ ?_
      · intro k
        rw [made]
        split
        · next new => exact .inr ⟨Nat.le_of_eq new.symm, rfl, fun _ => rfl⟩
        · exact .inl (.refl _)
      · intro k socket
        obtain rfl := Option.some.inj socket
        refine .inr ⟨Nat.lt_succ_self _, ?_⟩
        rw [made, if_pos rfl]
        rfl
  | mapped found unconnected c =>
      exact .of_modify grounded found unconnected rfl (fun _ => rfl) (Nat.le_refl _)
        (fun _ => .inl (.refl _)) fun _ => .inl
  | closed listed ran => exact subClose_keepsSockets grounded listed ran
  | accepted c ip port conn =>
      unfold acceptSubscriptor
      split
      · exact .refl grounded
      · refine .of_alloc grounded rfl (Nat.le_succ _) ?_ ?_ ?_
        · intro k
          simp only [setChan, Heap.alloc_apply]
          split
          · next new =>
            refine .inr ⟨Nat.le_of_eq new.symm, rfl, ?_⟩
            intro isClient
            cases isClient
          · exact .inl (.refl _)
        · intro d t member
          simp only [setChan, Heap.modify_apply] at member
          split at member
          · next same => exact .inl (same ▸ member)
          · exact .inl member
        · intro k socket
          rw [← Option.some.inj socket]
          exact Nat.lt_succ_self _

theorem Moves.keepsSockets (moves : Moves n n') (grounded : Grounded n) : KeepsSockets n n' :=
  moves.relation (.refl grounded) fun _ _ keeps move =>
    keeps.trans grounded (move.keepsSockets keeps.grounded)

/-! ## The threads of the data sockets -/

/-- `on_open` is all that a new connection causes. -/
theorem dataConnected_cases {k : SockPtr} {conn : ConnId} (ran : n.dataConnected k conn = .ok n') :
    n'.chan = n.chan ∧ n'.dataSock = n.dataSock.modify k (·.connected conn) ∧
      (n'.sub = n.sub ∨
        ∃ s, n'.sub = n.sub.modify s (Option.map fun sub => { sub with bConnected := true })) := by
  unfold dataConnected at ran
  dsimp only at ran
  split at ran
  · next s _ =>
    obtain ⟨sub, _, rest⟩ := bind_eq_ok.mp ran
    obtain rfl := pure_eq_ok.mp rest
    exact ⟨rfl, rfl, .inr ⟨s, rfl⟩⟩
  · obtain rfl := pure_eq_ok.mp ran
    exact ⟨rfl, rfl, .inl rfl⟩

theorem dataConnected_fewer {k : SockPtr} {conn : ConnId} (ran : n.dataConnected k conn = .ok n') :
    Fewer n n' := by
  obtain ⟨chan, dataSock, sub⟩ := dataConnected_cases ran
  have sockets : Fewer n (n.setDataSock k (·.connected conn)) :=
    fewer_setDataSock n k (fun _ => rfl) fun _ => rfl
  refine ⟨?_, ?_, by rw [dataSock]; rfl, fun c => by rw [chan]; exact List.Subset.refl _, ?_, ?_⟩
  · intro t sub' found
    rcases sub with same | ⟨s, opened⟩
    · exact ⟨sub', same ▸ found, rfl⟩
    · rw [opened, Heap.modify_apply] at found
      split at found
      · next same =>
        obtain ⟨old, before, rfl⟩ := Option.map_eq_some_iff.mp found
        exact ⟨old, same ▸ before, rfl⟩
      · exact ⟨sub', found, rfl⟩
  · rcases sub with same | ⟨s, opened⟩
    · rw [same]
    · rw [opened, Heap.modify_next]
  · intro j
    rw [dataSock]
    exact sockets.isClient j
  · intro j
    rw [dataSock]
    exact sockets.bReconnect j

/-- `on_close` runs between the `::close(fd)` and the test of `bReconnect`. -/
theorem dataEof_cases {k : SockPtr} (ran : n.dataEof k = .ok n') :
    ∃ closed, Fewer n closed ∧ (∀ j, (n.dataSock j).Eased (closed.dataSock j)) ∧
      n' = closed.setDataSock k (·.reconnectOrEnd) := by
  obtain ⟨closed, left, rest⟩ := bind_eq_ok.mp ran
  refine ⟨closed, ?_⟩
  have eases : ∀ sock : TCPSocket SubPtr, Eased sock sock.closeFd :=
    fun _ => ⟨rfl, rfl, rfl, rfl, rfl, nofun, id⟩
  have deafens : ∀ sock : TCPSocket SubPtr, Eased sock sock.removeListeners :=
    fun _ => ⟨rfl, rfl, rfl, rfl, rfl, id, fun _ => rfl⟩
  have eased_set : ∀ (n : Node) (k : SockPtr) (change : TCPSocket SubPtr → TCPSocket SubPtr)
      (_ : ∀ sock, Eased sock (change sock)) (j : SockPtr),
      (n.dataSock j).Eased ((n.setDataSock k change).dataSock j) := by
    intro n k change eases j
    simp only [setDataSock, Heap.modify_apply]
    split
    · next same =>
      rw [same]
      exact eases _
    · exact .refl _
  have first := eased_set n k _ eases
  unfold dataClosed at left
  split at left
  · next s _ =>
    obtain ⟨sub, j, _, _, result⟩ := subOnClose_cases left
    rw [result]
    refine ⟨?_, ?_, (pure_eq_ok.mp rest).symm.trans (by rw [result])⟩
    · exact ((fewer_eased n k eases).trans (fewer_eased _ j deafens)).trans (fewer_deleteSub _ s _)
    · exact fun i => (first i).trans (eased_set _ j _ deafens i)
  · rw [← pure_eq_ok.mp left]
    refine ⟨fewer_eased n k eases, first, (pure_eq_ok.mp rest).symm.trans ?_⟩
    rw [← pure_eq_ok.mp left]

/-- Nobody hears of what happens to a socket without listeners. -/
theorem dataEof_unheard {k : SockPtr} (unheard : (n.dataSock k).listeners = none) :
    n.dataEof k = .ok ((n.setDataSock k (·.closeFd)).setDataSock k (·.reconnectOrEnd)) := by
  have closed : ((n.setDataSock k (·.closeFd)).dataSock k).listeners = none := by
    simp only [setDataSock, Heap.modify_self, TCPSocket.closeFd, unheard]
  simp only [dataEof, dataClosed, closed]
  rfl

theorem dataConnected_unheard {k : SockPtr} (conn : ConnId)
    (unheard : (n.dataSock k).listeners = none) :
    n.dataConnected k conn = .ok (n.setDataSock k (·.connected conn)) := by
  have connected : ((n.setDataSock k (·.connected conn)).dataSock k).listeners = none := by
    simp only [setDataSock, Heap.modify_self, TCPSocket.connected, unheard]
  simp only [dataConnected, connected]
  rfl

theorem fewer_reconnectOrEnd (n : Node) (k : SockPtr) :
    Fewer n (n.setDataSock k (·.reconnectOrEnd)) := by
  refine fewer_setDataSock n k ?_ ?_
  · intro sock
    dsimp only [TCPSocket.reconnectOrEnd]
    split <;> rfl
  · intro sock
    dsimp only [TCPSocket.reconnectOrEnd]
    split <;> rfl

theorem step_grounded {input : Input} (grounded : Grounded n) (stepped : Step n input n') :
    Grounded n' := by
  cases input with
  | dataConnected k conn => exact (dataConnected_fewer stepped).grounded grounded
  | dataEof k =>
      obtain ⟨closed, fewer, _, rfl⟩ := dataEof_cases stepped
      exact (fewer.trans (fewer_reconnectOrEnd closed k)).grounded grounded
  | _ => exact ((step_moves stepped rfl).keepsSockets grounded).grounded

/-- What a step does to data socket `k`. -/
inductive SocketEffect (n : Node) (input : Input) (n' : Node) (k : SockPtr) : Prop where
  | eased (eased : (n.dataSock k).Eased (n'.dataSock k))
  | made (isNew : n.dataSock.next ≤ k) (made : (n'.dataSock k).Made)
  | connected (conn : ConnId) (isConnected : input = .dataConnected k conn)
      (result : n'.dataSock k = (n.dataSock k).connected conn)
  | ended (sock : TCPSocket SubPtr) (isEof : input = .dataEof k)
      (eased : (n.dataSock k).Eased sock) (result : n'.dataSock k = sock.reconnectOrEnd)

theorem socket_effect {input : Input} (grounded : Grounded n) (stepped : Step n input n')
    (k : SockPtr) : SocketEffect n input n' k := by
  have of_moves : Moves n n' → SocketEffect n input n' k := by
    intro moves
    rcases (moves.keepsSockets grounded).sockets k with eased | ⟨isNew, made⟩
    · exact .eased eased
    · exact .made isNew made
  cases input with
  | dataConnected j conn =>
      obtain ⟨_, dataSock, _⟩ := dataConnected_cases stepped
      by_cases same : k = j
      · subst same
        exact .connected conn rfl (by rw [dataSock, Heap.modify_self])
      · refine .eased ?_
        rw [dataSock, Heap.modify_of_ne _ _ same]
        exact .refl _
  | dataEof j =>
      obtain ⟨closed, _, eased, result⟩ := dataEof_cases stepped
      by_cases same : k = j
      · subst same
        refine .ended (closed.dataSock k) rfl (eased k) ?_
        rw [result]
        exact closed.dataSock.modify_self k _
      · refine .eased ?_
        rw [result]
        simp only [setDataSock, Heap.modify_of_ne _ _ same]
        exact eased k
  | _ => exact of_moves (step_moves stepped rfl)

/-- A client receives on a connection that it had before, or has just got. -/
theorem SocketEffect.receiving {input : Input} {k : SockPtr} {d : ConnId}
    (effect : SocketEffect n input n' k) (isClient : (n'.dataSock k).isClient = true)
    (receiving : (n'.dataSock k).thread = .receiving d) :
    (n'.dataSock k).ip = (n.dataSock k).ip ∧ (n'.dataSock k).port = (n.dataSock k).port ∧
      ((n.dataSock k).isClient = true ∧ (n.dataSock k).thread = .receiving d ∨
        input = .dataConnected k d) := by
  cases effect with
  | eased eased =>
      rw [eased.isClient] at isClient
      rw [eased.thread] at receiving
      exact ⟨eased.ip, eased.port, .inl ⟨isClient, receiving⟩⟩
  | made _ made =>
      rw [made.2 isClient] at receiving
      cases receiving
  | connected conn isConnected result =>
      rw [result] at receiving ⊢
      cases receiving
      exact ⟨rfl, rfl, .inr isConnected⟩
  | ended sock _ _ result =>
      rw [result, TCPSocket.reconnectOrEnd] at receiving
      split at receiving <;> cases receiving

/-- A socket that is not connected and has no descriptor to connect stays so. -/
theorem SocketEffect.stranded {input : Input} {k : SockPtr} (effect : SocketEffect n input n' k)
    (old : k < n.dataSock.next) (stranded : (n.dataSock k).Stranded)
    (notConnected : ∀ conn, input ≠ .dataConnected k conn) (notEof : input ≠ .dataEof k) :
    (n'.dataSock k).Stranded := by
  cases effect with
  | eased eased => exact stranded.eased eased
  | made isNew _ => exact absurd old (Nat.not_lt.mpr isNew)
  | connected conn isConnected _ => exact absurd isConnected (notConnected conn)
  | ended _ isEof _ _ => exact absurd isEof notEof

theorem step_sockNext {input : Input} (grounded : Grounded n) (stepped : Step n input n') :
    n.dataSock.next ≤ n'.dataSock.next := by
  cases input with
  | dataConnected k conn => exact Nat.le_of_eq (dataConnected_fewer stepped).sockNext.symm
  | dataEof k =>
      obtain ⟨closed, fewer, _, rfl⟩ := dataEof_cases stepped
      exact Nat.le_of_eq fewer.sockNext.symm
  | _ => exact ((step_moves stepped rfl).keepsSockets grounded).sockNext

end Node

end LibPubSub
