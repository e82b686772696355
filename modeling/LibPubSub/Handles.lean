import LibPubSub.Lifecycle

/-! The handles of a subscription. `close` and `on_close` use the socket whatever the
transport is, and `write` uses the handle of the current transport; the
invariant `Armed` says which handles there are. -/

set_option autoImplicit false

namespace LibPubSub

open Fallible Transition

/-- A member call through `socket` or `shm` when it is `NULL`. -/
inductive Missing where
  | socket
  | shm
  deriving DecidableEq

/-- What a write goes to. -/
inductive Handle where
  | socket (k : SockPtr)
  | shm (segment : SHM)
  deriving DecidableEq

/-- `SubscriptionImpl::write(msg, len)` and `SubscriptionImpl::write()`, which make the
same choice of a handle and call its `write`. -/
def SubscriptionImpl.write (sub : SubscriptionImpl) : Except Missing (Option Handle) :=
  if !sub.bConnected then .ok none
  else
    match sub.transport with
    | .tcp =>
        match sub.socket with
        | none => .error .socket
        | some k => .ok (some (.socket k))
    | .shm =>
        match sub.shm with
        | none => .error .shm
        | some segment => .ok (some (.shm segment))

namespace Node

/-- The operations of a `SubscriptionImpl` behind its construction. -/
inductive Operation where
  | connectTcp
  | connectShm
  | onOpen
  | write
  | close
  | onClose
  deriving DecidableEq

/-- The handle that a call found to be `NULL`. -/
def socketFault (result : Result Node) : Option Missing :=
  match result with
  | .error .nullSocket => some .socket
  | _ => none

/-- The handle that an operation on `s` dereferences although it is `NULL`. -/
def missing (n : Node) (s : SubPtr) : Operation → Option Missing
  | .connectTcp => socketFault (n.subConnectTcp s)
  | .connectShm => socketFault (n.subConnectShm s)
  | .onOpen => socketFault (n.subOnOpen s)
  | .write =>
      match (n.sub s).map SubscriptionImpl.write with
      | some (.error handle) => some handle
      | _ => none
  | .close => socketFault (n.subClose s)
  | .onClose => socketFault (n.subOnClose s)

/-- The change gives subscription `s` a socket: `s` is constructed from an accepted one,
or `connect_tcp` runs past its guard. -/
inductive Gives (n n' : Node) (s : SubPtr) : Prop where
  | accepted (c : ChanPtr) (h : HostPtr) (k : SockPtr) (isNew : s = n.sub.next)
      (heap : n'.sub = n.sub.alloc (some
        { channel := c, host := h, socket := some k, bConnected := true }))
  | dialled (sub : SubscriptionImpl) (k : SockPtr) (found : n.sub s = some sub)
      (unconnected : sub.bConnected = false)
      (heap : n'.sub = n.sub.modify s (Option.map fun sub =>
        { sub with socket := some k, transport := .tcp }))

/-- A sequence of changes, and which subscriptions it has given a socket. -/
inductive History (start : Node) : Node → (SubPtr → Prop) → Prop where
  | start : History start start fun _ => False
  | change {n n' : Node} {given : SubPtr → Prop} (past : History start n given)
      (change : Change n n') : History start n' fun s => Gives n n' s ∨ given s

/-- What an operation asks of a subscription: `close` and `on_close` that it was given a
socket, which one that never dialled and one that was attached to a segment were not. -/
def Equipped (given : Prop) (sub : SubscriptionImpl) : Operation → Prop
  | .close | .onClose => given
  | .write => ¬ (sub.bAsync = true ∧ sub.bConnected = true ∧ sub.transport = .shm)
  | _ => True

/-! ## The invariant -/

/-- What the fields of one subscription have to do with each other. -/
structure SubscriptionImpl.Sane (sub : SubscriptionImpl) : Prop where
  tcp : sub.bConnected = true → sub.transport = .tcp → sub.socket ≠ none
  shm : sub.transport = .shm → sub.bConnected = true ∧ (sub.bAsync = false → sub.shm ≠ none)
  async : sub.bAsync = true → sub.shm = none

/-- Subscriptions are sane, and one whose socket can call back has that socket. -/
structure Armed (n : Node) : Prop where
  sane : ∀ s sub, n.sub s = some sub → SubscriptionImpl.Sane sub
  listening : ∀ s sub k, n.sub s = some sub → (n.dataSock k).listeners = some s →
    sub.socket ≠ none
  bound : ∀ s k, (n.dataSock k).listeners = some s → s < n.sub.next

theorem armed_init (ID port : Int32) (bindPort : ChanPtr → DataPort) :
    Armed (init ID port bindPort) :=
  ⟨fun _ _ => nofun, fun _ _ _ => nofun, fun _ _ => nofun⟩

/-- A constructor makes a sane object on which nobody calls back but its own socket. -/
private theorem armed_alloc {n n' : Node} {sub : SubscriptionImpl} (armed : Armed n)
    (heap : n'.sub = n.sub.alloc (some sub)) (sane : SubscriptionImpl.Sane sub)
    (listeners : ∀ k s, (n'.dataSock k).listeners = some s →
      (n.dataSock k).listeners = some s ∨ (s = n.sub.next ∧ sub.socket ≠ none)) : Armed n' := by
  constructor
  · intro s other found
    rw [heap, Heap.alloc_apply] at found
    split at found
    · exact Option.some.inj found ▸ sane
    · exact armed.sane s other found
  · intro s other k found listening
    rw [heap, Heap.alloc_apply] at found
    rcases listeners k s listening with old | ⟨isNew, socket⟩
    · rw [if_neg (Nat.ne_of_lt (armed.bound s k old))] at found
      exact armed.listening s other k found old
    · rw [if_pos isNew] at found
      exact Option.some.inj found ▸ socket
  · intro s k listening
    rw [heap, Heap.alloc_next]
    rcases listeners k s listening with old | ⟨rfl, _⟩
    · exact Nat.lt_succ_of_lt (armed.bound s k old)
    · exact Nat.lt_succ_self _

/-- An update in place of a subscription that stays sane and keeps a socket. -/
private theorem armed_modify {n n' : Node} {s : SubPtr} {sub : SubscriptionImpl}
    {change : SubscriptionImpl → SubscriptionImpl} (armed : Armed n) (found : n.sub s = some sub)
    (heap : n'.sub = n.sub.modify s (Option.map change))
    (sane : SubscriptionImpl.Sane (change sub))
    (keeps : sub.socket ≠ none → (change sub).socket ≠ none)
    (listeners : ∀ k t, (n'.dataSock k).listeners = some t →
      (n.dataSock k).listeners = some t ∨ (t = s ∧ (change sub).socket ≠ none))
    (known : s < n.sub.next) : Armed n' := by
  have cell : ∀ t, n'.sub t = if t = s then some (change sub) else n.sub t := by
    intro t
    rw [heap, Heap.modify_apply]
    split
    · rw [found, Option.map_some]
    · rfl
  constructor
  · intro t other found
    rw [cell] at found
    split at found
    · exact Option.some.inj found ▸ sane
    · exact armed.sane t other found
  · intro t other k foundOther listening
    rw [cell] at foundOther
    rcases listeners k t listening with old | ⟨isS, socket⟩
    · split at foundOther
      · next isS =>
        subst isS
        exact Option.some.inj foundOther ▸ keeps (armed.listening t sub k found old)
      · exact armed.listening t other k foundOther old
    · rw [if_pos isS] at foundOther
      exact Option.some.inj foundOther ▸ socket
  · intro t k listening
    rw [heap, Heap.modify_next]
    rcases listeners k t listening with old | ⟨rfl, _⟩
    · exact armed.bound t k old
    · exact known

theorem Populated.known {n : Node} {s : SubPtr} {sub : SubscriptionImpl} (populated : Populated n)
    (found : n.sub s = some sub) : s < n.sub.next := by
  by_contra outside
  rw [populated.vacant s (Nat.not_lt.mp outside)] at found
  cases found

theorem Change.armed {n n' : Node} (change : Change n n') (populated : Populated n)
    (armed : Armed n) : Armed n' := by
  cases change with
  | beside heap _ listeners =>
      constructor
      · exact heap ▸ armed.sane
      · intro s sub k found listening
        exact armed.listening s sub k (heap ▸ found) (listeners k s listening)
      · intro s k listening
        exact heap ▸ armed.bound s k (listeners k s listening)
  | subscribed c bAsync heap _ listeners =>
      refine armed_alloc armed heap ⟨nofun, nofun, fun _ => rfl⟩ ?_
      exact fun k s listening => .inl (listeners k s listening)
  | accepted c h k heap _ listeners =>
      refine armed_alloc armed heap ⟨fun _ _ => nofun, nofun, nofun⟩ ?_
      intro k' s listening
      exact (listeners k' s listening).imp id fun own => ⟨own.2, nofun⟩
  | attached c h shm heap _ listeners =>
      refine armed_alloc armed heap ⟨fun _ => nofun, fun _ => ⟨rfl, fun _ => nofun⟩, nofun⟩ ?_
      exact fun k s listening => .inl (listeners k s listening)
  | dialled s sub k found unconnected heap _ listeners =>
      have sane := armed.sane s sub found
      refine armed_modify armed found heap ?_ (fun _ => nofun) ?_ (populated.known found)
      · exact ⟨fun _ _ => nofun, nofun, sane.async⟩
      · intro k' t listening
        exact (listeners k' t listening).imp id fun own => ⟨own.2, nofun⟩
  | mapped s sub shm found unconnected heap _ listeners =>
      have sane := armed.sane s sub found
      refine armed_modify armed found heap ?_ id ?_ (populated.known found)
      · refine ⟨fun _ => nofun, fun _ => ⟨rfl, ?_⟩, ?_⟩
        · intro sync
          dsimp only at sync ⊢
          rw [sync, if_neg Bool.false_ne_true]
          exact nofun
        · intro isAsync
          dsimp only at isAsync ⊢
          rw [if_pos isAsync]
          exact sane.async isAsync
      · exact fun k' t listening => .inl (listeners k' t listening)
  | opened s sub k found listening heap _ listeners =>
      have sane := armed.sane s sub found
      refine armed_modify armed found heap ?_ id ?_ (populated.known found)
      · refine ⟨fun _ _ => armed.listening s sub k found listening, ?_, sane.async⟩
        exact fun shm => ⟨rfl, (sane.shm shm).2⟩
      · exact fun k' t listening => .inl (listeners k' t listening)
  | closed s sub k _ _ heap _ listeners =>
      have cell : ∀ t other, n'.sub t = some other → n.sub t = some other := by
        intro t other found
        rw [heap, Heap.modify_apply] at found
        split at found
        · cases found
        · exact found
      constructor
      · exact fun t other found => armed.sane t other (cell t other found)
      · intro t other k' found listening
        exact armed.listening t other k' (cell t other found) (listeners k' t listening)
      · intro t k' listening
        rw [heap, Heap.modify_next]
        exact armed.bound t k' (listeners k' t listening)

/-- The order of the changes does not matter. -/
theorem armed_of_changes {ID port : Int32} {bindPort : ChanPtr → DataPort} {n : Node}
    (changes : Changes (init ID port bindPort) n) : Armed n := by
  let good : Node → Prop := fun n => Populated n ∧ Armed n
  have start : good (init ID port bindPort) :=
    ⟨populated_init ID port bindPort, armed_init ID port bindPort⟩
  have kept : good n := changes.invariant start fun mid next both change =>
    ⟨change.populated both.1, change.armed both.1 both.2⟩
  exact kept.2

theorem changes_of_reaches {ID port : Int32} {bindPort : ChanPtr → DataPort} {n : Node}
    (reached : Reaches Step (init ID port bindPort) n) : Changes (init ID port bindPort) n :=
  reached.invariant (.refl _) fun _ _ _ changes stepped => changes.trans (step_changes stepped)

/-! ## The history -/

theorem History.changes {start n : Node} {given : SubPtr → Prop} (past : History start n given) :
    Changes start n := by
  induction past with
  | start => exact .refl start
  | change past change ih => exact ih.trans (.of_change change)

theorem Changes.history {start n : Node} (changes : Changes start n) :
    ∃ given, History start n given := by
  induction changes with
  | refl => exact ⟨_, .start⟩
  | tail _ change ih =>
      obtain ⟨given, past⟩ := ih
      exact ⟨_, past.change change⟩

theorem Gives.socket {n n' : Node} {s : SubPtr} {sub : SubscriptionImpl} (gives : Gives n n' s)
    (found : n'.sub s = some sub) : sub.socket ≠ none := by
  cases gives with
  | accepted c h k isNew heap =>
      rw [heap, Heap.alloc_apply, if_pos isNew] at found
      exact Option.some.inj found ▸ nofun
  | dialled old k known unconnected heap =>
      rw [heap, Heap.modify_apply, if_pos rfl, known] at found
      exact Option.some.inj found ▸ nofun

/-- Where the subscription that is at `s` behind a change comes from. -/
inductive Origin (n n' : Node) (s : SubPtr) (sub : SubscriptionImpl) : Prop where
  | given (gives : Gives n n' s)
  | old (before : SubscriptionImpl) (found : n.sub s = some before)
      (same : sub.socket = before.socket)
  | fresh (isNew : s = n.sub.next) (without : sub.socket = none)

private theorem origin_alloc {n n' : Node} {s : SubPtr} {sub made : SubscriptionImpl}
    (heap : n'.sub = n.sub.alloc (some made)) (without : made.socket = none)
    (found : n'.sub s = some sub) : Origin n n' s sub := by
  rw [heap, Heap.alloc_apply] at found
  split at found
  · next isNew => exact .fresh isNew (Option.some.inj found ▸ without)
  · exact .old sub found rfl

private theorem origin_modify {n n' : Node} {s t : SubPtr} {sub : SubscriptionImpl}
    {change : SubscriptionImpl → SubscriptionImpl}
    (heap : n'.sub = n.sub.modify t (Option.map change))
    (same : ∀ sub, (change sub).socket = sub.socket) (found : n'.sub s = some sub) :
    Origin n n' s sub := by
  rw [heap, Heap.modify_apply] at found
  split at found
  · next isT =>
    obtain ⟨before, known, rfl⟩ := Option.map_eq_some_iff.mp found
    exact .old before (isT ▸ known) (same before)
  · exact .old sub found rfl

theorem Change.origin {n n' : Node} {s : SubPtr} {sub : SubscriptionImpl} (change : Change n n')
    (found : n'.sub s = some sub) : Origin n n' s sub := by
  cases change with
  | beside heap _ _ => exact .old sub (heap ▸ found) rfl
  | subscribed c bAsync heap _ _ => exact origin_alloc heap rfl found
  | attached c h shm heap _ _ => exact origin_alloc heap rfl found
  | mapped t before shm known unconnected heap _ _ => exact origin_modify heap (fun _ => rfl) found
  | opened t before k known listening heap _ _ => exact origin_modify heap (fun _ => rfl) found
  | accepted c h k heap _ _ =>
      by_cases isNew : s = n.sub.next
      · exact .given (.accepted c h k isNew heap)
      · rw [heap, Heap.alloc_apply, if_neg isNew] at found
        exact .old sub found rfl
  | dialled t before k known unconnected heap _ _ =>
      by_cases isT : s = t
      · subst isT
        exact .given (.dialled before k known unconnected heap)
      · rw [heap, Heap.modify_apply, if_neg isT] at found
        exact .old sub found rfl
  | closed t before k known socket heap _ _ =>
      rw [heap, Heap.modify_apply] at found
      split at found
      · cases found
      · exact .old sub found rfl

theorem Change.next {n n' : Node} (change : Change n n') : n.sub.next ≤ n'.sub.next := by
  cases change <;> simp [*, Heap.alloc_next, Heap.modify_next]

theorem Gives.known {n n' : Node} {s : SubPtr} (gives : Gives n n' s) (populated : Populated n) :
    s < n'.sub.next := by
  cases gives with
  | accepted c h k isNew heap =>
      rw [heap, Heap.alloc_next, isNew]
      exact Nat.lt_succ_self _
  | dialled sub k found unconnected heap =>
      rw [heap, Heap.modify_next]
      exact populated.known found

/-- A subscription has a socket exactly if it was given one. -/
theorem History.socket_iff {ID port : Int32} {bindPort : ChanPtr → DataPort} {n : Node}
    {given : SubPtr → Prop} (past : History (init ID port bindPort) n given) :
    (∀ s, given s → s < n.sub.next) ∧
      ∀ s sub, n.sub s = some sub → (sub.socket ≠ none ↔ given s) := by
  induction past with
  | start => exact ⟨fun _ => False.elim, fun _ _ => nofun⟩
  | @change n n' given past change ih =>
      have populated := past.changes.invariant (populated_init ID port bindPort)
        fun _ _ populated change => change.populated populated
      refine ⟨?_, fun s sub found => ⟨fun socket => ?_, ?_⟩⟩
      · rintro s (gives | before)
        · exact gives.known populated
        · exact Nat.lt_of_lt_of_le (ih.1 s before) change.next
      · cases change.origin found with
        | given gives => exact .inl gives
        | old before known same => exact .inr ((ih.2 s before known).mp (same ▸ socket))
        | fresh _ without => exact absurd without socket
      · rintro (gives | before)
        · exact gives.socket found
        · cases change.origin found with
          | given gives => exact gives.socket found
          | old earlier known same => exact same ▸ (ih.2 s earlier known).mpr before
          | fresh isNew _ => exact absurd (ih.1 s before) (isNew ▸ Nat.lt_irrefl _)

/-! ## The operations -/

theorem socketFault_eq_none_iff {result : Result Node} :
    socketFault result = none ↔ result ≠ .error .nullSocket := by
  cases result with
  | ok n' => exact iff_of_true rfl nofun
  | error fault => cases fault <;> simp [socketFault]

theorem subOnClose_null_iff {n : Node} {s : SubPtr} {sub : SubscriptionImpl}
    (found : n.sub s = some sub) :
    n.subOnClose s = .error .nullSocket ↔ sub.socket = none := by
  rw [subOnClose, subAt_eq_ok.mpr found]
  dsimp only [bind, Except.bind]
  cases sub.socket with
  | none => exact iff_of_true rfl rfl
  | some k =>
      refine iff_of_false ?_ (Option.some_ne_none k)
      intro failed
      cases failed

/-- `close()` needs the socket for every transport, at the latest in `on_close()`. -/
theorem subClose_null_iff {n : Node} {s : SubPtr} {sub : SubscriptionImpl}
    (found : n.sub s = some sub) :
    n.subClose s = .error .nullSocket ↔ sub.socket = none := by
  cases socket : sub.socket with
  | none =>
      refine iff_of_true ?_ rfl
      rw [subClose, subAt_eq_ok.mpr found]
      dsimp only [bind, Except.bind]
      rw [socket]
      cases sub.transport with
      | tcp => rfl
      | shm => exact (subOnClose_null_iff found).mpr socket
  | some k =>
      refine iff_of_false ?_ (Option.some_ne_none k)
      obtain ⟨n', ran⟩ := subClose_total found socket
      rw [ran]
      intro failed
      cases failed

theorem write_missing_iff {sub : SubscriptionImpl} (sane : SubscriptionImpl.Sane sub) :
    (∃ handle, sub.write = .error handle) ↔
      sub.bAsync = true ∧ sub.bConnected = true ∧ sub.transport = .shm := by
  unfold SubscriptionImpl.write
  cases connected : sub.bConnected with
  | false =>
      refine iff_of_false ?_ fun both => absurd both.2.1 Bool.false_ne_true
      rintro ⟨_, impossible⟩
      cases impossible
  | true =>
      cases transport : sub.transport with
      | tcp =>
          obtain ⟨k, socket⟩ := Option.ne_none_iff_exists'.mp (sane.tcp connected transport)
          rw [socket]
          refine iff_of_false ?_ nofun
          rintro ⟨_, impossible⟩
          cases impossible
      | shm =>
          cases isAsync : sub.bAsync with
          | true =>
              rw [sane.async isAsync]
              exact iff_of_true ⟨.shm, rfl⟩ ⟨rfl, rfl, rfl⟩
          | false =>
              obtain ⟨segment, shm⟩ :=
                Option.ne_none_iff_exists'.mp ((sane.shm transport).2 isAsync)
              rw [shm]
              refine iff_of_false ?_ fun both => absurd both.1 Bool.false_ne_true
              rintro ⟨_, impossible⟩
              cases impossible

/-- However a node's subscriptions were constructed, connected, opened and closed, an
operation on a subscription dereferences no missing handle exactly if it is
equipped for it. -/
theorem missing_eq_none_iff {ID port : Int32} {bindPort : ChanPtr → DataPort} {n : Node}
    {given : SubPtr → Prop} (past : History (init ID port bindPort) n given) {s : SubPtr}
    {sub : SubscriptionImpl} (found : n.sub s = some sub) (operation : Operation) :
    missing n s operation = none ↔ Equipped (given s) sub operation := by
  have sane := (armed_of_changes past.changes).sane s sub found
  have socket := past.socket_iff.2 s sub found
  cases operation with
  | connectTcp =>
      refine iff_of_true (socketFault_eq_none_iff.mpr fun failed => ?_) trivial
      rw [subConnectTcp, subAt_eq_ok.mpr found] at failed
      dsimp only [bind, Except.bind] at failed
      split at failed
      · cases failed
      · split at failed <;> cases failed
  | connectShm =>
      refine iff_of_true (socketFault_eq_none_iff.mpr fun failed => ?_) trivial
      rw [subConnectShm, subAt_eq_ok.mpr found] at failed
      dsimp only [bind, Except.bind] at failed
      split at failed <;> cases failed
  | onOpen =>
      refine iff_of_true (socketFault_eq_none_iff.mpr fun failed => ?_) trivial
      rw [subOnOpen, subAt_eq_ok.mpr found] at failed
      cases failed
  | write =>
      have write := write_missing_iff sane
      unfold missing Equipped
      rw [found, Option.map_some, ← write]
      cases sub.write with
      | ok handle => exact iff_of_true rfl fun ⟨_, impossible⟩ => nomatch impossible
      | error handle => exact iff_of_false nofun fun whole => whole ⟨handle, rfl⟩
  | close =>
      exact socketFault_eq_none_iff.trans ((not_congr (subClose_null_iff found)).trans socket)
  | onClose =>
      exact socketFault_eq_none_iff.trans ((not_congr (subOnClose_null_iff found)).trans socket)

/-- The callbacks of a socket always find it. -/
theorem callback_equipped {ID port : Int32} {bindPort : ChanPtr → DataPort} {n : Node}
    {given : SubPtr → Prop} (past : History (init ID port bindPort) n given) {s : SubPtr}
    {sub : SubscriptionImpl} {k : SockPtr} (found : n.sub s = some sub)
    (listening : (n.dataSock k).listeners = some s) :
    Equipped (given s) sub .onOpen ∧ Equipped (given s) sub .onClose :=
  ⟨trivial, (past.socket_iff.2 s sub found).mp
    ((armed_of_changes past.changes).listening s sub k found listening)⟩

/-- A subscription is asked for, dialled and connected: a write goes to its socket, and
`close()` finds it. -/
theorem subscribe_write : ∃ n sub, Reaches Step (init 1 10000 firstPort) n ∧
    n.sub 0 = some sub ∧ sub.write = .ok (some (.socket 0)) ∧
      missing n 0 .write = none ∧ missing n 0 .close = none := by
  let sub : SubscriptionImpl := { channel := 0, host := 0, socket := some 0, bConnected := true }
  have replayed : replay react (fun _ _ => true) (fun _ n =>
        n.sub 0 = some sub ∧ (n.dataSock 0).listeners = some 0)
      (.dataConnected 0 1) (init 1 10000 firstPort)
      [.subscribe ['c'], .accepted "10.0.0.2".toList 40000 0, .line 0 "ID=2|PORT=10000".toList,
        .line 0 "CONNECTED".toList, .line 0 "PUBLISH=Pc|10.0.0.2:10000".toList,
        .line 0 "OFFER_TCP=c|10000".toList] = true := by decide +kernel
  obtain ⟨trace, n, allowed, checked⟩ := replay_run replayed
  obtain ⟨found, listening⟩ := of_decide_eq_true checked
  have reached : Reaches Step (init 1 10000 firstPort) n :=
    ⟨_, allowed.of_under, final_concat _ _ _⟩
  obtain ⟨given, past⟩ := (changes_of_reaches reached).history
  refine ⟨n, sub, reached, found, rfl, (missing_eq_none_iff past found _).mpr ?_,
    (missing_eq_none_iff past found _).mpr ?_⟩
  · exact fun both => absurd both.1 Bool.false_ne_true
  · exact (callback_equipped past found listening).2

/-- The subscription still waits for its offer when `UNPUBLISH=` closes it. -/
theorem not_always_equipped :
    ¬ ∀ (ID port : Int32) (bindPort : ChanPtr → DataPort) (n : Node) (s : SubPtr)
        (sub : SubscriptionImpl) (operation : Operation),
      Reaches Step (init ID port bindPort) n → n.sub s = some sub →
        missing n s operation = none := by
  intro law
  have replayed : replay react (fun _ _ => true) (fun _ n =>
        n.sub 0 = some { channel := 0, host := 0 } ∧ missing n 0 .close = some .socket ∧
          n.react (.line 0 "UNPUBLISH=Nc|".toList) matches .error .nullSocket)
      (.line 0 "PUBLISH=Pc|10.0.0.2:10000".toList) (init 1 10000 firstPort)
      [.accepted "10.0.0.2".toList 40000 0, .line 0 "ID=2|PORT=10000".toList,
        .line 0 "YOU=10.0.0.1".toList, .line 0 "CONNECTED".toList, .subscribe ['c']] = true := by
    decide
  obtain ⟨trace, n, allowed, checked⟩ := replay_run replayed
  have reached : Reaches Step (init 1 10000 firstPort) n :=
    ⟨_, allowed.of_under, final_concat _ _ _⟩
  obtain ⟨found, fault, _⟩ := of_decide_eq_true checked
  rw [law _ _ _ n 0 _ .close reached found] at fault
  cases fault

end Node

end LibPubSub
