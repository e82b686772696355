import LibPubSub.Moves

/-! What a node does to its subscriptions, one object at a time. A reaction is a
sequence of changes, and a change constructs, connects or closes one
`SubscriptionImpl` or leaves them all alone, so an invariant of the
subscriptions is proved by one case for each kind of change. -/

set_option autoImplicit false

namespace LibPubSub

open Fallible Transition

namespace Node

/-- Who listens on the data sockets of `n'` listened on those of `n`. -/
def NoNewListener (n n' : Node) : Prop :=
  ∀ k s, (n'.dataSock k).listeners = some s → (n.dataSock k).listeners = some s

/-- The same, but for socket `k`, which now belongs to `s`. -/
def OnlyListener (n n' : Node) (k : SockPtr) (s : SubPtr) : Prop :=
  ∀ k' t, (n'.dataSock k').listeners = some t →
    (n.dataSock k').listeners = some t ∨ (k' = k ∧ t = s)

def SameLists (n n' : Node) : Prop :=
  ∀ c, (n'.chan c).subscriptions = (n.chan c).subscriptions

/-- One change of the subscriptions. -/
inductive Change (n n' : Node) : Prop where
  /-- No subscription is concerned; a new channel has none. -/
  | beside (heap : n'.sub = n.sub)
      (lists : ∀ c, (n'.chan c).subscriptions = (n.chan c).subscriptions ∨
        (n'.chan c).subscriptions = [])
      (listeners : NoNewListener n n')
  /-- `SubscriptionImpl(channel, bAsync)`. -/
  | subscribed (c : ChanPtr) (bAsync : Bool)
      (heap : n'.sub =
        n.sub.alloc (some { channel := c, host := n.mesh.me, bAsync := bAsync }))
      (lists : ∀ d, (n'.chan d).subscriptions =
        if d = c then (n.chan d).subscriptions ++ [n.sub.next] else (n.chan d).subscriptions)
      (listeners : NoNewListener n n')
  /-- `SubscriptionImpl(channel, socket, host)`. -/
  | accepted (c : ChanPtr) (h : HostPtr) (k : SockPtr)
      (heap : n'.sub = n.sub.alloc (some
        { channel := c, host := h, socket := some k, bConnected := true }))
      (lists : SameLists n n') (listeners : OnlyListener n n' k n.sub.next)
  /-- `SubscriptionImpl(channel, shm_path, host)`. -/
  | attached (c : ChanPtr) (h : HostPtr) (shm : SHM)
      (heap : n'.sub = n.sub.alloc (some
        { channel := c, host := h, transport := .shm, shm := some shm, bConnected := true }))
      (lists : SameLists n n') (listeners : NoNewListener n n')
  /-- `connect_tcp` behind its guard. -/
  | dialled (s : SubPtr) (sub : SubscriptionImpl) (k : SockPtr) (found : n.sub s = some sub)
      (unconnected : sub.bConnected = false)
      (heap : n'.sub = n.sub.modify s (Option.map fun sub =>
        { sub with socket := some k, transport := .tcp }))
      (lists : SameLists n n') (listeners : OnlyListener n n' k s)
  /-- `connect_shm` behind its guard. -/
  | mapped (s : SubPtr) (sub : SubscriptionImpl) (shm : SHM) (found : n.sub s = some sub)
      (unconnected : sub.bConnected = false)
      (heap : n'.sub = n.sub.modify s (Option.map fun sub =>
        { sub with
          transport := .shm
          shm := if sub.bAsync then sub.shm else some shm
          bConnected := true }))
      (lists : SameLists n n') (listeners : NoNewListener n n')
  /-- `on_open`, which its socket `k` calls. -/
  | opened (s : SubPtr) (sub : SubscriptionImpl) (k : SockPtr) (found : n.sub s = some sub)
      (listening : (n.dataSock k).listeners = some s)
      (heap : n'.sub = n.sub.modify s (Option.map fun sub => { sub with bConnected := true }))
      (lists : SameLists n n') (listeners : NoNewListener n n')
  /-- `on_close`, which deletes the object. -/
  | closed (s : SubPtr) (sub : SubscriptionImpl) (k : SockPtr) (found : n.sub s = some sub)
      (socket : sub.socket = some k)
      (heap : n'.sub = n.sub.modify s fun _ => none)
      (lists : ∀ d, (n'.chan d).subscriptions =
        if d = sub.channel then (n.chan d).subscriptions.filter (· != s)
        else (n.chan d).subscriptions)
      (listeners : NoNewListener n n')

def Changes : Node → Node → Prop :=
  Relation.ReflTransGen Change

namespace Changes

theorem refl (n : Node) : Changes n n :=
  Relation.ReflTransGen.refl

theorem trans {n mid n' : Node} (first : Changes n mid) (second : Changes mid n') : Changes n n' :=
  Relation.ReflTransGen.trans first second

theorem of_change {n n' : Node} (change : Change n n') : Changes n n' :=
  Relation.ReflTransGen.single change

/-- What every change keeps, a sequence of changes keeps. -/
theorem invariant {n n' : Node} {good : Node → Prop} (changes : Changes n n') (initial : good n)
    (preserved : ∀ mid next, good mid → Change mid next → good next) : good n' := by
  induction changes with
  | refl => exact initial
  | tail _ change ih => exact preserved _ _ ih change

end Changes

/-! ## The functions -/

/-- Nothing that belongs to the subscriptions was touched. -/
theorem changes_of_same {n n' : Node} (heap : n'.sub = n.sub)
    (lists : SameLists n n') (sockets : n'.dataSock = n.dataSock) : Changes n n' :=
  .of_change (.beside heap (fun c => .inl (lists c)) fun k s listening => by
    rwa [sockets] at listening)

theorem changes_mesh (n : Node) (m : Mesh) : Changes n { n with mesh := m } :=
  changes_of_same rfl (fun _ => rfl) rfl

theorem changes_record (n : Node) (call : Call) : Changes n (n.record call) :=
  changes_of_same rfl (fun _ => rfl) rfl

theorem changes_setChan (n : Node) (c : ChanPtr) (change : ChannelImpl → ChannelImpl)
    (same : ∀ channel, (change channel).subscriptions = channel.subscriptions) :
    Changes n (n.setChan c change) := by
  refine changes_of_same rfl ?_ rfl
  intro d
  by_cases isC : d = c
  · rw [isC, setChan_self]
    exact same _
  · rw [setChan_of_ne _ _ isC]

theorem noNewListener_setDataSock (n : Node) (k : SockPtr)
    (change : TCPSocket SubPtr → TCPSocket SubPtr)
    (fewer : ∀ socket s, (change socket).listeners = some s → socket.listeners = some s) :
    NoNewListener n (n.setDataSock k change) := by
  intro k' s listening
  simp only [setDataSock, Heap.modify_apply] at listening
  split at listening
  · next same =>
    subst same
    exact fewer _ s listening
  · exact listening

theorem changes_setDataSock (n : Node) (k : SockPtr) (change : TCPSocket SubPtr → TCPSocket SubPtr)
    (fewer : ∀ socket s, (change socket).listeners = some s → socket.listeners = some s) :
    Changes n (n.setDataSock k change) :=
  .of_change (.beside rfl (fun _ => .inl rfl) (noNewListener_setDataSock n k change fewer))

theorem Created.changes {n n' : Node} {name : Str} {c : ChanPtr} (created : Created n n' name c) :
    Changes n n' := by
  refine .of_change (.beside created.sub ?_ ?_)
  · intro d
    by_cases new : d = c
    · subst new
      by_cases known : d < n.chan.next
      · exact .inl (by rw [created.old d known])
      · exact .inr (by rw [created.fresh (Nat.not_lt.mp known)])
    · exact .inl (by rw [created.other d new])
  · intro k s listening
    rwa [created.dataSock] at listening

theorem changes_dial {n : Node} {s : SubPtr} {sub : SubscriptionImpl} (found : n.sub s = some sub)
    (unconnected : sub.bConnected = false) (c : ChanPtr) (publisher : HostPtr) :
    Changes n (n.dial s c publisher) := by
  refine .of_change (.dialled s sub n.dataSock.next found unconnected rfl (fun _ => rfl) ?_)
  intro k t listening
  simp only [dial, record, setSub, Heap.alloc_apply] at listening
  split at listening
  · next isNew => exact .inr ⟨isNew, (Option.some.inj listening).symm⟩
  · exact .inl listening

theorem change_delete {n : Node} {s : SubPtr} {sub : SubscriptionImpl} {k : SockPtr}
    (found : n.sub s = some sub) (socket : sub.socket = some k)
    (close : TCPSocket SubPtr → TCPSocket SubPtr) (deaf : ∀ sock, (close sock).listeners = none) :
    Change n ((n.setDataSock k close).deleteSub s sub.channel) := by
  refine .closed s sub k found socket rfl ?_ ?_
  · intro d
    split
    · next same => rw [same]; exact deleteSub_subscriptions _ s _
    · next other =>
      simp only [deleteSub, setChan, setDataSock, Heap.modify_of_ne _ _ other]
  · refine noNewListener_setDataSock n k close ?_
    intro sock t listening
    rw [deaf] at listening
    cases listening

theorem subClose_changes {n n' : Node} {s : SubPtr} (ran : n.subClose s = .ok n') :
    Changes n n' := by
  obtain ⟨sub, k, close, found, socket, deaf, rfl⟩ := subClose_cases ran
  exact .of_change (change_delete found socket close deaf)

theorem subOnClose_changes {n n' : Node} {s : SubPtr} (ran : n.subOnClose s = .ok n') :
    Changes n n' := by
  obtain ⟨sub, k, found, socket, rfl⟩ := subOnClose_cases ran
  exact .of_change (change_delete found socket _ fun _ => rfl)

theorem change_addSubscription (n : Node) (c : ChanPtr) : Change n (n.addSubscription c) := by
  refine .subscribed c false rfl ?_ fun _ _ => id
  intro d
  simp only [addSubscription, record, setChan, Heap.modify_apply]
  split
  · next same => rw [same]
  · rfl

theorem acceptSubscriptor_changes (n : Node) (c : ChanPtr) (ip : Str) (port : Int32)
    (conn : ConnId) : Changes n (n.acceptSubscriptor c ip port conn) := by
  unfold acceptSubscriptor
  split
  · exact .refl n
  · next server _ =>
    refine .of_change (.accepted c server.host n.dataSock.next rfl ?_ ?_)
    · intro d
      simp only [setChan, Heap.modify_apply]
      split
      · next same => rw [same]
      · rfl
    · intro k t listening
      simp only [setChan, Heap.alloc_apply] at listening
      split at listening
      · next isNew => exact .inr ⟨isNew, (Option.some.inj listening).symm⟩
      · exact .inl listening

theorem Move.changes {n n' : Node} (move : Move n n') : Changes n n' := by
  cases move with
  | mesh m => exact changes_mesh n m
  | record call => exact changes_record n call
  | created created => exact created.changes
  | channel c change subscriptions _ => exact changes_setChan n c change subscriptions
  | subscribed c => exact .of_change (change_addSubscription n c)
  | dialled found unconnected c publisher => exact changes_dial found unconnected c publisher
  | mapped found unconnected c =>
      exact .of_change (.mapped _ _ _ found unconnected rfl (fun _ => rfl) fun _ _ => id)
  | closed _ ran => exact subClose_changes ran
  | accepted c ip port conn => exact acceptSubscriptor_changes n c ip port conn

theorem Moves.changes {n n' : Node} (moves : Moves n n') : Changes n n' :=
  moves.relation (.refl n) fun _ _ changes move => changes.trans move.changes

/-! ## The reactions -/

theorem dataConnected_changes {n n' : Node} {k : SockPtr} {c : ConnId}
    (ran : n.dataConnected k c = .ok n') : Changes n n' := by
  have dialled := changes_setDataSock n k (·.connected c) fun _ _ => id
  unfold dataConnected at ran
  dsimp only at ran
  split at ran
  · next s listening =>
    obtain ⟨sub, found, rest⟩ := bind_eq_ok.mp ran
    obtain rfl := pure_eq_ok.mp rest
    refine dialled.trans (.of_change ?_)
    exact .opened s sub k (subAt_eq_ok.mp found) listening rfl (fun _ => rfl) fun _ _ => id
  · exact pure_eq_ok.mp ran ▸ dialled

theorem reconnectOrEnd_fewer (socket : TCPSocket SubPtr) (s : SubPtr)
    (listening : socket.reconnectOrEnd.listeners = some s) : socket.listeners = some s := by
  rwa [TCPSocket.reconnectOrEnd_listeners] at listening

theorem dataEof_changes {n n' : Node} {k : SockPtr} (ran : n.dataEof k = .ok n') :
    Changes n n' := by
  obtain ⟨closed, left, rest⟩ := bind_eq_ok.mp ran
  obtain rfl := pure_eq_ok.mp rest
  refine .trans ?_ (changes_setDataSock closed k _ reconnectOrEnd_fewer)
  refine (changes_setDataSock n k (·.closeFd) fun _ _ => id).trans ?_
  unfold dataClosed at left
  split at left
  · exact subOnClose_changes left
  · exact pure_eq_ok.mp left ▸ .refl _

/-- Every reaction of a node changes its subscriptions one at a time. -/
theorem step_changes {n n' : Node} {input : Input} (stepped : Step n input n') :
    Changes n n' := by
  cases input with
  | dataConnected k conn => exact dataConnected_changes stepped
  | dataEof k => exact dataEof_changes stepped
  | _ => exact (step_moves stepped rfl).changes

/-! ## The lists -/

/-- The lists hold live subscriptions to their channels, and objects that have not
been constructed do not exist. -/
structure Populated (n : Node) : Prop where
  listed : ∀ c, Listed n c
  vacant : ∀ s, n.sub.next ≤ s → n.sub s = none

theorem populated_init (ID port : Int32) (bindPort : ChanPtr → DataPort) :
    Populated (init ID port bindPort) :=
  ⟨fun _ _ member => absurd member List.not_mem_nil, fun _ _ => rfl⟩

/-- A constructor keeps the objects that exist. -/
private theorem populated_alloc {n n' : Node} {sub : SubscriptionImpl} (populated : Populated n)
    (heap : n'.sub = n.sub.alloc (some sub))
    (lists : ∀ d, ∀ s ∈ (n'.chan d).subscriptions,
      s ∈ (n.chan d).subscriptions ∨ (s = n.sub.next ∧ sub.channel = d)) : Populated n' := by
  constructor
  · intro d s member
    rw [heap]
    rcases lists d s member with old | ⟨rfl, channel⟩
    · obtain ⟨other, found, channel⟩ := populated.listed d s old
      have known : s ≠ n.sub.next := by
        rintro rfl
        rw [populated.vacant _ (Nat.le_refl _)] at found
        cases found
      exact ⟨other, by rw [Heap.alloc_of_ne _ _ known, found], channel⟩
    · exact ⟨sub, Heap.alloc_self _ _, channel⟩
  · intro s outside
    rw [heap, Heap.alloc_next] at outside
    rw [heap, Heap.alloc_of_ne _ _ (by omega)]
    exact populated.vacant s (by omega)

/-- An update in place keeps the objects and their channels. -/
private theorem populated_modify {n n' : Node} {s : SubPtr}
    {change : SubscriptionImpl → SubscriptionImpl} (populated : Populated n)
    (heap : n'.sub = n.sub.modify s (Option.map change))
    (channel : ∀ sub, (change sub).channel = sub.channel) (lists : SameLists n n') :
    Populated n' := by
  constructor
  · intro c t member
    rw [lists c] at member
    obtain ⟨sub, found, same⟩ := populated.listed c t member
    rw [heap, Heap.modify_apply]
    split
    · next isS =>
      subst isS
      exact ⟨change sub, by rw [found, Option.map_some], (channel sub).trans same⟩
    · exact ⟨sub, found, same⟩
  · intro t outside
    rw [heap, Heap.modify_next] at outside
    rw [heap, Heap.modify_apply]
    split
    · next isS => rw [← isS, populated.vacant t outside, Option.map_none]
    · exact populated.vacant t outside

theorem Change.populated {n n' : Node} (change : Change n n') (populated : Populated n) :
    Populated n' := by
  cases change with
  | beside heap lists _ =>
      constructor
      · intro c s member
        rcases lists c with same | empty
        · rw [heap]
          exact populated.listed c s (same ▸ member)
        · rw [empty] at member
          cases member
      · exact heap ▸ populated.vacant
  | subscribed c bAsync heap lists _ =>
      refine populated_alloc populated heap ?_
      intro d s member
      rw [lists] at member
      split at member
      · next same =>
        rcases List.mem_append.mp member with old | new
        · exact .inl old
        · exact .inr ⟨List.mem_singleton.mp new, same.symm⟩
      · exact .inl member
  | accepted c h k heap lists _ =>
      exact populated_alloc populated heap fun d s member => .inl (lists d ▸ member)
  | attached c h shm heap lists _ =>
      exact populated_alloc populated heap fun d s member => .inl (lists d ▸ member)
  | dialled s sub k _ _ heap lists _ => exact populated_modify populated heap (fun _ => rfl) lists
  | mapped s sub shm _ _ heap lists _ => exact populated_modify populated heap (fun _ => rfl) lists
  | opened s sub k _ _ heap lists _ => exact populated_modify populated heap (fun _ => rfl) lists
  | closed s sub k found _ heap lists _ =>
      constructor
      · intro c t member
        rw [lists] at member
        have stays : t ∈ (n.chan c).subscriptions ∧ t ≠ s := by
          split at member
          · obtain ⟨old, other⟩ := List.mem_filter.mp member
            exact ⟨old, by simpa using other⟩
          · next other =>
            refine ⟨member, ?_⟩
            rintro rfl
            obtain ⟨same, found', channel⟩ := populated.listed c t member
            obtain rfl := Option.some.inj (found.symm.trans found')
            exact other channel.symm
        rw [heap, Heap.modify_of_ne _ _ stays.2]
        exact populated.listed c t stays.1
      · intro t outside
        rw [heap, Heap.modify_next] at outside
        rw [heap, Heap.modify_apply]
        split
        · rfl
        · exact populated.vacant t outside

theorem step_populated {n n' : Node} {input : Input} (stepped : Step n input n')
    (populated : Populated n) : Populated n' :=
  (step_changes stepped).invariant populated fun _ _ populated change => change.populated populated

/-- In every reachable state the lists hold live subscriptions to their channels. -/
theorem populated_of_reaches {ID port : Int32} {bindPort : ChanPtr → DataPort} {n : Node}
    (reached : Reaches Step (init ID port bindPort) n) : Populated n :=
  reached.invariant (populated_init ID port bindPort) fun _ _ _ populated stepped =>
    step_populated stepped populated

end Node

end LibPubSub
