import LibPubSub.Reactions

/-! `ChannelImpl::disconnect`. Its loop keeps the end of the vector that the closes
shrink, so it only ends well on a vector of at most one subscription. -/

set_option autoImplicit false

namespace LibPubSub

open Fallible Transition

namespace Node

/-- The members of the list of channel `c` are subscriptions to `c`. -/
def Listed (n : Node) (c : ChanPtr) : Prop :=
  ∀ s ∈ (n.chan c).subscriptions, ∃ sub, n.sub s = some sub ∧ sub.channel = c

theorem deleteSub_subscriptions (n : Node) (s : SubPtr) (c : ChanPtr) :
    ((n.deleteSub s c).chan c).subscriptions = (n.chan c).subscriptions.filter (· != s) :=
  congrArg ChannelImpl.subscriptions (n.chan.modify_self c fun channel =>
    { channel with
      subscriptions := channel.subscriptions.filter (· != s)
      subscriptors := channel.subscriptors.filter (· != s) })

theorem deleteSub_sub_of_ne (n : Node) {s t : SubPtr} (c : ChanPtr) (other : t ≠ s) :
    (n.deleteSub s c).sub t = n.sub t :=
  n.sub.modify_of_ne (fun _ => none) other

/-- What the loop of `disconnect` sees of a close: the subscription leaves the list,
the others are as they were. -/
structure Removed (n n' : Node) (c : ChanPtr) (s : SubPtr) : Prop where
  list : (n'.chan c).subscriptions = (n.chan c).subscriptions.filter (· != s)
  others : ∀ t, t ≠ s → n'.sub t = n.sub t

theorem Removed.listed {n n' : Node} {c : ChanPtr} {s : SubPtr} (removed : Removed n n' c s)
    (listed : Listed n c) : Listed n' c := by
  intro t member
  rw [removed.list, List.mem_filter] at member
  have other : t ≠ s := by simpa using member.2
  rw [removed.others t other]
  exact listed t member.1

theorem Removed.shorter {n n' : Node} {c : ChanPtr} {s : SubPtr} (removed : Removed n n' c s)
    (member : s ∈ (n.chan c).subscriptions) :
    (n'.chan c).subscriptions.length < (n.chan c).subscriptions.length := by
  rw [removed.list]
  refine List.length_filter_lt_length_iff_exists.mpr ⟨s, member, ?_⟩
  simp

theorem subClose_removed {n n' : Node} {c : ChanPtr} {s : SubPtr} (listed : Listed n c)
    (member : s ∈ (n.chan c).subscriptions) (ran : n.subClose s = .ok n') : Removed n n' c s := by
  obtain ⟨sub, k, close, found, _, _, rfl⟩ := subClose_cases ran
  obtain ⟨same, found', channel⟩ := listed s member
  obtain rfl := Option.some.inj (found.symm.trans found')
  subst channel
  exact ⟨deleteSub_subscriptions _ s _, fun t other => deleteSub_sub_of_ne _ _ other⟩

/-- `close()` only needs the socket pointer. -/
theorem subClose_total {n : Node} {s : SubPtr} {sub : SubscriptionImpl} {k : SockPtr}
    (found : n.sub s = some sub) (socket : sub.socket = some k) : ∃ n', n.subClose s = .ok n' := by
  have closes : ∀ mid : Node, mid.sub s = some sub → ∃ n', mid.subOnClose s = .ok n' := by
    intro mid alive
    rw [subOnClose, subAt_eq_ok.mpr alive]
    simp only [bind, Except.bind, socket]
    exact ⟨_, rfl⟩
  rw [subClose, subAt_eq_ok.mpr found]
  simp only [bind, Except.bind, socket]
  cases sub.transport with
  | tcp => exact closes _ found
  | shm => exact closes n found

/-- A loop that starts with more rounds to go than the list has members left runs
past the end of the list, whatever it closes on the way. -/
theorem disconnectFrom_fails {c : ChanPtr} {left it : Nat} {n : Node} (listed : Listed n c)
    (rounds : 0 < left) (short : (n.chan c).subscriptions.length < it + left) :
    ∀ n', disconnectFrom c left it n ≠ .ok n' := by
  induction left generalizing it n with
  | zero => exact absurd rounds (Nat.lt_irrefl 0)
  | succ left ih =>
      intro n' ran
      unfold disconnectFrom at ran
      cases here : (n.chan c).subscriptions[it]? with
      | none =>
          rw [here] at ran
          cases ran
      | some s =>
          rw [here] at ran
          obtain ⟨mid, closed, rest⟩ := bind_eq_ok.mp ran
          obtain ⟨inside, _⟩ := List.getElem?_eq_some_iff.mp here
          have removed := subClose_removed listed (List.mem_of_getElem? here) closed
          have shorter := removed.shorter (List.mem_of_getElem? here)
          exact ih (removed.listed listed) (by omega) (by omega) n' rest

/-- With sockets everywhere the fault is the read past the end. -/
theorem disconnectFrom_pastEnd {c : ChanPtr} {left it : Nat} {n : Node} (listed : Listed n c)
    (sockets : ∀ s ∈ (n.chan c).subscriptions, ∀ sub, n.sub s = some sub → sub.socket ≠ none)
    (rounds : 0 < left) (short : (n.chan c).subscriptions.length < it + left) :
    disconnectFrom c left it n = .error .pastEnd := by
  induction left generalizing it n with
  | zero => exact absurd rounds (Nat.lt_irrefl 0)
  | succ left ih =>
      unfold disconnectFrom
      cases here : (n.chan c).subscriptions[it]? with
      | none => rfl
      | some s =>
          have member := List.mem_of_getElem? here
          obtain ⟨inside, _⟩ := List.getElem?_eq_some_iff.mp here
          obtain ⟨sub, found, _⟩ := listed s member
          obtain ⟨k, socket⟩ := Option.ne_none_iff_exists'.mp (sockets s member sub found)
          obtain ⟨mid, closed⟩ := subClose_total found socket
          have removed := subClose_removed listed member closed
          have shorter := removed.shorter member
          have sockets' : ∀ t ∈ (mid.chan c).subscriptions, ∀ sub, mid.sub t = some sub →
              sub.socket ≠ none := by
            intro t member sub found
            rw [removed.list, List.mem_filter] at member
            have other : t ≠ s := by simpa using member.2
            exact sockets t member.1 sub (removed.others t other ▸ found)
          have short' : (mid.chan c).subscriptions.length < it + 1 + left := by omega
          have later := ih (removed.listed listed) sockets' (by omega) short'
          dsimp only
          rw [closed]
          exact later

/-- `disconnect` returns normally on the empty list and on a list of one subscription
that has a socket, and on no other. -/
theorem disconnect_ok_iff {n : Node} {c : ChanPtr} (listed : Listed n c) :
    (∃ n', n.disconnect c = .ok n') ↔ (n.chan c).subscriptions.length ≤ 1 ∧
      ∀ s ∈ (n.chan c).subscriptions, ∀ sub, n.sub s = some sub → sub.socket ≠ none := by
  unfold disconnect
  cases list : (n.chan c).subscriptions with
  | nil =>
      refine iff_of_true ⟨n, rfl⟩ ⟨Nat.zero_le _, ?_⟩
      exact fun s member => absurd member List.not_mem_nil
  | cons s rest =>
      have member : s ∈ (n.chan c).subscriptions := list ▸ List.mem_cons_self
      obtain ⟨sub, found, _⟩ := listed s member
      have round : disconnectFrom c (rest.length + 1) 0 n =
          n.subClose s >>= disconnectFrom c rest.length 1 := by
        rw [disconnectFrom, list, List.getElem?_cons_zero]
      rw [List.length_cons, round]
      constructor
      · rintro ⟨n', ran⟩
        obtain ⟨mid, closed, later⟩ := bind_eq_ok.mp ran
        have removed := subClose_removed listed member closed
        have shorter := removed.shorter member
        rw [list, List.length_cons] at shorter
        have single : rest.length = 0 := by
          by_contra many
          exact disconnectFrom_fails (removed.listed listed) (Nat.pos_of_ne_zero many)
            (by omega) n' later
        obtain rfl := List.eq_nil_of_length_eq_zero single
        obtain ⟨same, k, _, found', socket, _⟩ := subClose_cases closed
        refine ⟨Nat.le_refl _, ?_⟩
        intro t isS other foundOther
        obtain rfl := List.mem_singleton.mp isS
        obtain rfl := Option.some.inj (found'.symm.trans foundOther)
        exact Option.ne_none_iff_exists'.mpr ⟨k, socket⟩
      · rintro ⟨single, sockets⟩
        have empty : rest.length = 0 := by omega
        obtain ⟨k, socket⟩ := Option.ne_none_iff_exists'.mp
          (sockets s List.mem_cons_self sub found)
        obtain ⟨mid, closed⟩ := subClose_total found socket
        exact ⟨mid, bind_eq_ok.mpr ⟨mid, closed, by rw [empty]; rfl⟩⟩

/-! ## The closes of one call -/

/-- `disconnectFrom` with the list of the subscriptions it closes. -/
def closesFrom (c : ChanPtr) : Nat → Nat → Node → Result (List SubPtr × Node)
  | 0, _, n => return ([], n)
  | left + 1, it, n =>
      match (n.chan c).subscriptions[it]? with
      | none => .error .pastEnd
      | some s => do
          let (later, n') ← closesFrom c left (it + 1) (← n.subClose s)
          return (s :: later, n')

theorem disconnectFrom_eq_closes (c : ChanPtr) (left it : Nat) (n : Node) :
    disconnectFrom c left it n = (closesFrom c left it n).map Prod.snd := by
  induction left generalizing it n with
  | zero => rfl
  | succ left ih =>
      unfold disconnectFrom closesFrom
      cases (n.chan c).subscriptions[it]? with
      | none => rfl
      | some s =>
          cases closed : n.subClose s with
          | error fault => simp only [closed, bind, Except.bind, Except.map]
          | ok mid =>
              simp only [closed, bind, Except.bind, ih]
              cases closesFrom c left (it + 1) mid with
              | error fault => rfl
              | ok result => rfl

def disconnectCloses (n : Node) (c : ChanPtr) : Result (List SubPtr × Node) :=
  closesFrom c (n.chan c).subscriptions.length 0 n

theorem disconnect_eq_closes (n : Node) (c : ChanPtr) :
    n.disconnect c = (n.disconnectCloses c).map Prod.snd :=
  disconnectFrom_eq_closes c _ 0 n

/-- `disconnect()` on channel `c` returns, having closed each member of the list once
and nothing else. -/
def ClosesEachOnce (n : Node) (c : ChanPtr) : Prop :=
  ∃ closed n', n.disconnectCloses c = .ok (closed, n') ∧
    (∀ s ∈ (n.chan c).subscriptions, closed.count s = 1) ∧
    ∀ s ∈ closed, s ∈ (n.chan c).subscriptions

/-- The subscriptions of channel `c` all have an open TCP socket. -/
def OpenSubscriptions (n : Node) (c : ChanPtr) : Prop :=
  ∀ s ∈ (n.chan c).subscriptions, ∃ sub k conn, n.sub s = some sub ∧ sub.channel = c ∧
    sub.transport = .tcp ∧ sub.bConnected = true ∧ sub.socket = some k ∧
    (n.dataSock k).listeners = some s ∧ (n.dataSock k).Holds conn

theorem OpenSubscriptions.listed {n : Node} {c : ChanPtr} (allOpen : OpenSubscriptions n c) :
    Listed n c := by
  intro s member
  obtain ⟨sub, _, _, found, channel, _⟩ := allOpen s member
  exact ⟨sub, found, channel⟩

theorem OpenSubscriptions.sockets {n : Node} {c : ChanPtr} (allOpen : OpenSubscriptions n c) :
    ∀ s ∈ (n.chan c).subscriptions, ∀ sub, n.sub s = some sub → sub.socket ≠ none := by
  intro s member sub found
  obtain ⟨same, k, _, found', _, _, _, socket, _⟩ := allOpen s member
  obtain rfl := Option.some.inj (found.symm.trans found')
  exact Option.ne_none_iff_exists'.mpr ⟨k, socket⟩

/-- Two subscriptions or more: the loop reads past the end of the vector. -/
theorem disconnect_pastEnd {n : Node} {c : ChanPtr} (allOpen : OpenSubscriptions n c)
    (many : 1 < (n.chan c).subscriptions.length) : n.disconnect c = .error .pastEnd := by
  unfold disconnect
  obtain ⟨s, rest, list⟩ := List.exists_cons_of_length_pos (Nat.lt_of_succ_lt many)
  have member : s ∈ (n.chan c).subscriptions := list ▸ List.mem_cons_self
  obtain ⟨sub, found, _⟩ := allOpen.listed s member
  obtain ⟨k, socket⟩ := Option.ne_none_iff_exists'.mp (allOpen.sockets s member sub found)
  obtain ⟨mid, closed⟩ := subClose_total found socket
  have removed := subClose_removed allOpen.listed member closed
  have shorter := removed.shorter member
  rw [list, List.length_cons] at many shorter
  rw [list, List.length_cons, disconnectFrom, list, List.getElem?_cons_zero]
  dsimp only
  rw [closed]
  refine disconnectFrom_pastEnd (removed.listed allOpen.listed) ?_ (by omega) (by omega)
  intro t member sub found
  rw [removed.list, List.mem_filter] at member
  have other : t ≠ s := by simpa using member.2
  exact allOpen.sockets t member.1 sub (removed.others t other ▸ found)

/-- With open sockets everywhere, `disconnect()` closes each subscription exactly
once if and only if there is at most one. -/
theorem disconnect_closesEachOnce_iff {n : Node} {c : ChanPtr} (allOpen : OpenSubscriptions n c) :
    ClosesEachOnce n c ↔ (n.chan c).subscriptions.length ≤ 1 := by
  constructor
  · rintro ⟨closed, n', closes, _⟩
    by_contra many
    have ran := disconnect_pastEnd allOpen (Nat.lt_of_not_le many)
    rw [disconnect_eq_closes, closes] at ran
    cases ran
  · intro single
    unfold ClosesEachOnce disconnectCloses
    cases list : (n.chan c).subscriptions with
    | nil =>
        refine ⟨[], n, rfl, ?_, ?_⟩
        · exact fun s member => absurd member List.not_mem_nil
        · exact fun s member => absurd member List.not_mem_nil
    | cons s rest =>
        rw [list, List.length_cons] at single
        obtain rfl : rest = [] := List.eq_nil_of_length_eq_zero (by omega)
        have member : s ∈ (n.chan c).subscriptions := list ▸ List.mem_cons_self
        obtain ⟨sub, found, _⟩ := allOpen.listed s member
        obtain ⟨k, socket⟩ := Option.ne_none_iff_exists'.mp (allOpen.sockets s member sub found)
        obtain ⟨mid, closed⟩ := subClose_total found socket
        refine ⟨[s], mid, ?_, ?_, fun t => id⟩
        · rw [List.length_singleton, closesFrom, list, List.getElem?_cons_zero]
          dsimp only
          rw [closed]
          rfl
        · intro t isS
          rw [List.mem_singleton.mp isS, List.count_singleton_self]

/-- One subscription that has connected to 10.0.0.2 is closed once. -/
theorem disconnect_closes_one : ∃ n, (n.chan 0).subscriptions = [0] ∧ ClosesEachOnce n 0 := by
  have replayed : replay react (fun _ _ => true) (fun _ n =>
        (n.chan 0).subscriptions = [0] ∧ n.sub 0 = some
          { channel := 0, host := 0, bConnected := true, socket := some 0 } ∧
          (n.dataSock 0).listeners = some 0 ∧ (n.dataSock 0).Holds 1)
      (.dataConnected 0 1) (init 1 10000 firstPort)
      [.accepted "10.0.0.2".toList 40000 0, .line 0 "ID=2|PORT=10000".toList,
        .line 0 "YOU=10.0.0.1".toList, .line 0 "CONNECTED".toList, .subscribe ['c'],
        .line 0 "PUBLISH=Pc|10.0.0.2:10000".toList, .line 0 "OFFER_TCP=c|10000".toList] = true := by
    decide
  obtain ⟨_, n, _, checked⟩ := replay_run replayed
  obtain ⟨list, found, listening, holds⟩ := of_decide_eq_true checked
  refine ⟨n, list, (disconnect_closesEachOnce_iff ?_).mpr (list ▸ Nat.le_refl 1)⟩
  intro s member
  rw [list, List.mem_singleton] at member
  subst member
  exact ⟨_, 0, 1, found, rfl, rfl, rfl, rfl, listening, holds⟩

/-- Two subscriptions to `c`, both connected to 10.0.0.2. -/
theorem disconnect_not_closesEachOnce :
    ¬ ∀ (ID port : Int32) (bindPort : ChanPtr → DataPort) (trace : List (Input × Node)) (c : ChanPtr),
      Every Step (init ID port bindPort) trace →
        OpenSubscriptions (final (init ID port bindPort) trace) c →
          ClosesEachOnce (final (init ID port bindPort) trace) c := by
  intro law
  have replayed : replay react (fun _ _ => true) (fun _ n =>
        (n.chan 0).subscriptions = [0, 1] ∧
          (∀ s ∈ [0, 1], n.sub s = some
            { channel := 0, host := 0, bConnected := true, socket := some s } ∧
            (n.dataSock s).listeners = some s ∧ (n.dataSock s).Holds (s + 1)) ∧
          n.disconnect 0 matches .error .pastEnd)
      (.dataConnected 1 2) (init 1 10000 firstPort)
      [.accepted "10.0.0.2".toList 40000 0, .line 0 "ID=2|PORT=10000".toList,
        .line 0 "YOU=10.0.0.1".toList, .line 0 "CONNECTED".toList, .subscribe ['c'],
        .subscribe ['c'], .line 0 "PUBLISH=Pc|10.0.0.2:10000".toList,
        .line 0 "OFFER_TCP=c|10000".toList, .dataConnected 0 1] = true := by decide
  obtain ⟨trace, n, allowed, checked⟩ := replay_run replayed
  obtain ⟨list, allOpen, faults⟩ := of_decide_eq_true checked
  have closes := law _ _ _ _ 0 allowed.of_under
  rw [final_concat] at closes
  obtain ⟨closed, n', ran, _⟩ := closes (fun s member => by
    rw [list] at member
    obtain ⟨found, listening, holds⟩ := allOpen s member
    exact ⟨_, s, s + 1, found, rfl, rfl, rfl, rfl, listening, holds⟩)
  rw [disconnect_eq_closes, ran] at faults
  cases faults

end Node

end LibPubSub
