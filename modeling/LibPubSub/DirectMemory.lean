import LibPubSub.Handles

/-! Writes by copy and direct memory writes. `Channel::write(s, len)` compares `s` with
the channel's segment; behind it every subscriptor writes, and a subscriptor has a `ptr`
and a `_size` of its own. -/

set_option autoImplicit false

namespace LibPubSub

open Fallible Transition

/-- An address; `NULL` is 0. -/
abbrev Ptr := Nat

/-- The protected members of a `Channel`, and those of a `Subscription`. -/
structure Segment where
  ptr : Ptr := 0
  size : Nat := 0
  deriving DecidableEq

abbrev Memory := Ptr → Char

/-- What `send` reads. -/
def Memory.bytes (memory : Memory) (buf : Ptr) (len : Nat) : Str :=
  (List.range len).map fun i => memory (buf + i)

@[simp] theorem Memory.length_bytes (memory : Memory) (buf : Ptr) (len : Nat) :
    (memory.bytes buf len).length = len := by
  simp [Memory.bytes]

/-- `Subscription::ptr` and `_size` of a `SubscriptionImpl`: nothing assigns them behind
their initialisers, for `Subscription::alloc` only calls itself. -/
def SubscriptionImpl.segment (_ : SubscriptionImpl) : Segment :=
  {}

/-- `send(fd, buf, len, MSG_NOSIGNAL)` on a data socket. -/
structure Sent where
  socket : SockPtr
  bytes : Str
  deriving DecidableEq

/-- The bytes that a socket is given. -/
def bytesTo (k : SockPtr) (sent : List Sent) : Str :=
  (sent.filter fun entry => entry.socket = k).flatMap Sent.bytes

namespace Node

/-- Both `SubscriptionImpl::write` with what they read. An `SHM` object sends nothing. -/
def subSend (n : Node) (bytes : SubscriptionImpl → Str) (s : SubPtr) : Result (List Sent) := do
  let sub ← n.subAt s
  match sub.write with
  | .error _ => .error .nullSocket
  | .ok (some (.socket k)) => return [⟨k, bytes sub⟩]
  | .ok _ => return []

/-- `SubscriptionImpl::write(msg, len)`. -/
def subWrite (n : Node) (memory : Memory) (msg : Ptr) (len : Nat) (s : SubPtr) :
    Result (List Sent) :=
  n.subSend (fun _ => memory.bytes msg len) s

/-- `SubscriptionImpl::write()`. -/
def subWriteSegment (n : Node) (memory : Memory) (s : SubPtr) : Result (List Sent) :=
  n.subSend (fun sub => memory.bytes sub.segment.ptr sub.segment.size) s

/-- `for(s : subscriptors)` with either write. -/
def sendAll (write : SubPtr → Result (List Sent)) (subscriptors : List SubPtr) :
    Result (List Sent) :=
  subscriptors.foldlM (fun sent s => do return sent ++ (← write s)) []

/-- `ChannelImpl::write(msg, len)`. -/
def channelWrite (n : Node) (memory : Memory) (c : ChanPtr) (msg : Ptr) (len : Nat) :
    Result (List Sent) :=
  sendAll (n.subWrite memory msg len) (n.chan c).subscriptors

/-- `ChannelImpl::write()`. -/
def channelWriteSegment (n : Node) (memory : Memory) (c : ChanPtr) : Result (List Sent) :=
  sendAll (n.subWriteSegment memory) (n.chan c).subscriptors

/-- `Channel::write(s, len)` of the channel whose own segment is `segment`. -/
def write (n : Node) (memory : Memory) (c : ChanPtr) (segment : Segment) (s : Ptr) (len : Nat) :
    Result (List Sent) :=
  if s = segment.ptr then n.channelWriteSegment memory c else n.channelWrite memory c s len

/-- `Channel::write()`. -/
def writeSegment (n : Node) (memory : Memory) (c : ChanPtr) : Result (List Sent) :=
  n.channelWriteSegment memory c

/-! ## What is sent -/

/-- Where the write of `s` goes. -/
def handle (n : Node) (s : SubPtr) : Option Handle :=
  match (n.sub s).map SubscriptionImpl.write with
  | some (.ok handle) => handle
  | _ => none

/-- Every subscriptor of the channel can be written to. -/
def Writable (n : Node) (c : ChanPtr) : Prop :=
  ∀ s ∈ (n.chan c).subscriptors, n.sub s ≠ none ∧ missing n s .write = none

/-- A subscriptor of the channel is connected by TCP. -/
def Heard (n : Node) (c : ChanPtr) : Prop :=
  ∃ s ∈ (n.chan c).subscriptors, ∃ k, n.handle s = some (.socket k)

/-- What a write of `bytes` sends for one subscriptor. -/
def sentFor (n : Node) (bytes : Str) (s : SubPtr) : List Sent :=
  match n.handle s with
  | some (.socket k) => [⟨k, bytes⟩]
  | _ => []

theorem subSend_eq {n : Node} {s : SubPtr} {bytes : SubscriptionImpl → Str} {b : Str}
    (alive : n.sub s ≠ none) (present : missing n s .write = none) (same : ∀ sub, bytes sub = b) :
    n.subSend bytes s = .ok (n.sentFor b s) := by
  cases found : n.sub s with
  | none => exact absurd found alive
  | some sub =>
      cases written : sub.write with
      | error handle => simp [missing, found, written] at present
      | ok target =>
          simp only [subSend, subAt, sentFor, handle, found, Option.map_some, Bind.bind,
            Except.bind, written]
          cases target with
          | none => rfl
          | some target =>
              cases target with
              | socket k => rw [same]; rfl
              | shm segment => rfl

theorem sendAll_eq {write : SubPtr → Result (List Sent)} {sentFor : SubPtr → List Sent}
    {subscriptors : List SubPtr} (each : ∀ s ∈ subscriptors, write s = .ok (sentFor s)) :
    sendAll write subscriptors = .ok (subscriptors.flatMap sentFor) := by
  have from_ (sent : List Sent) :
      subscriptors.foldlM (fun sent s => do return sent ++ (← write s)) sent =
        Except.ok (ε := Fault) (sent ++ subscriptors.flatMap sentFor) := by
    induction subscriptors generalizing sent with
    | nil => simp [Pure.pure, Except.pure]
    | cons s subscriptors ih =>
        have rest := ih fun s member => each s (List.mem_cons_of_mem _ member)
        simp only [List.foldlM_cons, each s List.mem_cons_self, Bind.bind, Except.bind,
          Pure.pure, Except.pure, List.flatMap_cons]
        rw [← List.append_assoc]
        exact rest _
  exact from_ []

/-! ## What arrives -/

theorem bytesTo_nil (k : SockPtr) : bytesTo k [] = [] := rfl

theorem bytesTo_append (k : SockPtr) (sent sent' : List Sent) :
    bytesTo k (sent ++ sent') = bytesTo k sent ++ bytesTo k sent' := by
  simp [bytesTo]

theorem bytesTo_sentFor (n : Node) (k : SockPtr) (bytes : Str) (s : SubPtr) :
    bytesTo k (n.sentFor bytes s) = if n.handle s = some (.socket k) then bytes else [] := by
  unfold sentFor
  split
  · next j found =>
    by_cases same : j = k
    · simp [bytesTo, found, same]
    · simp [bytesTo, found, same]
  · next other =>
    rw [if_neg (other k), bytesTo_nil]

/-- A socket is given nothing exactly when there is nothing to give or it is nobody's. -/
theorem bytesTo_eq_nil_iff {n : Node} {k : SockPtr} {bytes : Str} {subscriptors : List SubPtr} :
    bytesTo k (subscriptors.flatMap (n.sentFor bytes)) = [] ↔
      bytes = [] ∨ ∀ s ∈ subscriptors, n.handle s ≠ some (.socket k) := by
  induction subscriptors with
  | nil => simp [bytesTo_nil]
  | cons s subscriptors ih =>
      simp only [List.flatMap_cons, bytesTo_append, List.append_eq_nil_iff, ih, bytesTo_sentFor,
        List.forall_mem_cons]
      by_cases heard : n.handle s = some (.socket k)
      · simp [heard]
        tauto
      · simp [heard]

/-- Both writes return, and they give every socket the same bytes. -/
def SendsSame (one other : Result (List Sent)) : Prop :=
  ∃ sent sent', one = .ok sent ∧ other = .ok sent' ∧ ∀ k, bytesTo k sent = bytesTo k sent'

variable {n : Node} {c : ChanPtr} {memory : Memory}

theorem channelWriteSegment_eq (writable : n.Writable c) :
    n.channelWriteSegment memory c = .ok ((n.chan c).subscriptors.flatMap (n.sentFor [])) :=
  sendAll_eq fun s member =>
    subSend_eq (writable s member).1 (writable s member).2 fun _ => rfl

theorem channelWrite_eq (writable : n.Writable c) (msg : Ptr) (len : Nat) :
    n.channelWrite memory c msg len =
      .ok ((n.chan c).subscriptors.flatMap (n.sentFor (memory.bytes msg len))) :=
  sendAll_eq fun s member =>
    subSend_eq (writable s member).1 (writable s member).2 fun _ => rfl

theorem segment_sends_same_iff (writable : n.Writable c) (msg : Ptr) (len : Nat) :
    SendsSame (n.channelWriteSegment memory c) (n.channelWrite memory c msg len) ↔
      len = 0 ∨ ¬ n.Heard c := by
  have silent (k : SockPtr) :
      bytesTo k ((n.chan c).subscriptors.flatMap (n.sentFor [])) = [] :=
    bytesTo_eq_nil_iff.mpr (.inl rfl)
  have empty : memory.bytes msg len = [] ↔ len = 0 := by
    rw [← List.length_eq_zero_iff, Memory.length_bytes]
  simp only [SendsSame, channelWriteSegment_eq writable, channelWrite_eq writable,
    Except.ok.injEq, ↓existsAndEq, true_and, silent]
  constructor
  · intro same
    by_cases none : len = 0
    · exact .inl none
    · right
      intro ⟨s, member, k, heard⟩
      cases bytesTo_eq_nil_iff.mp (same k).symm with
      | inl nothing => exact none (empty.mp nothing)
      | inr nobody => exact nobody s member heard
  · intro quiet k
    symm
    apply bytesTo_eq_nil_iff.mpr
    cases quiet with
    | inl none => exact .inl (empty.mpr none)
    | inr unheard => exact .inr fun s member heard => unheard ⟨s, member, k, heard⟩

/-- A direct write of `len` bytes, and one of the whole segment, do what the write of a
copy does exactly when there is nothing to send or nobody to send it to. What the copy
holds makes no difference. -/
theorem write_same_iff {segment : Segment} {buf copy : Ptr} {len : Nat} (writable : n.Writable c)
    (separate : buf ≠ segment.ptr) (separateWhole : copy ≠ segment.ptr) :
    (SendsSame (n.write memory c segment segment.ptr len) (n.write memory c segment buf len) ↔
        len = 0 ∨ ¬ n.Heard c) ∧
      (SendsSame (n.writeSegment memory c) (n.write memory c segment copy segment.size) ↔
        segment.size = 0 ∨ ¬ n.Heard c) := by
  simp only [write, ↓reduceIte, separate, separateWhole]
  exact ⟨segment_sends_same_iff writable buf len,
    segment_sends_same_iff writable copy segment.size⟩

/-- A publisher with one subscriptor. -/
theorem reaches_heard : ∃ n, Reaches Step (init 1 10000 firstPort) n ∧
    (n.chan 0).subscriptors = [0] ∧ n.handle 0 = some (.socket 0) ∧
      n.sub 0 ≠ none ∧ missing n 0 .write = none := by
  have replayed : replay react (fun _ _ => true) (fun _ n =>
        (n.chan 0).subscriptors = [0] ∧ n.handle 0 = some (.socket 0) ∧
          n.sub 0 ≠ none ∧ missing n 0 .write = none)
      (.dataAccepted 0 "10.0.0.2".toList 40001 1) (init 1 10000 firstPort)
      [.publish ['c'], .accepted "10.0.0.2".toList 40000 0, .line 0 "ID=2|PORT=10000".toList,
        .line 0 "YOU=10.0.0.1".toList, .line 0 "CONNECTED".toList,
        .line 0 "CONNECT_TCP=c".toList] = true := by decide
  obtain ⟨trace, n, allowed, checked⟩ := replay_run replayed
  exact ⟨n, ⟨_, allowed.of_under, final_concat _ _ _⟩, of_decide_eq_true checked⟩

theorem writable_of_single {s : SubPtr} (single : (n.chan c).subscriptors = [s])
    (alive : n.sub s ≠ none) (present : missing n s .write = none) : n.Writable c := by
  intro t member
  rw [single, List.mem_singleton] at member
  subst member
  exact ⟨alive, present⟩

/-- The bytes `abcd` of the segment at 1000 and of a copy at 2000: only writes of nothing agree. -/
theorem write_same_iff_heard : ∃ n : Node,
    let memory : Memory := fun address => Char.ofNat ('a'.toNat + address % 1000)
    memory.bytes 2000 4 = memory.bytes 1000 4 ∧ n.Heard 0 ∧
      SendsSame (n.write memory 0 ⟨1000, 4⟩ 1000 0) (n.write memory 0 ⟨1000, 4⟩ 2000 0) := by
  obtain ⟨n, _, single, heard, alive, present⟩ := reaches_heard
  have writable := writable_of_single single alive present
  refine ⟨n, by decide, ⟨0, by simp [single], 0, heard⟩, ?_⟩
  exact (@write_same_iff n 0 _ ⟨1000, 4⟩ 2000 2000 0 writable (by decide) (by decide)).1.mpr
    (.inl rfl)

theorem not_always_write_same :
    ¬ ∀ (ID port : Int32) (bindPort : ChanPtr → DataPort) (n : Node) (c : ChanPtr)
        (memory : Memory) (segment : Segment) (len : Nat) (buf copy : Ptr),
      Reaches Step (init ID port bindPort) n → n.Writable c → len ≤ segment.size →
        segment.ptr ≠ 0 → buf ≠ segment.ptr → copy ≠ segment.ptr →
        memory.bytes buf len = memory.bytes segment.ptr len →
        memory.bytes copy segment.size = memory.bytes segment.ptr segment.size →
        SendsSame (n.write memory c segment segment.ptr len) (n.write memory c segment buf len) ∧
          SendsSame (n.writeSegment memory c) (n.write memory c segment copy segment.size) := by
  intro law
  obtain ⟨n, reached, single, heard, alive, present⟩ := reaches_heard
  have writable := writable_of_single single alive present
  have same := (law 1 10000 firstPort n 0 (fun _ => 'a') ⟨1000, 4⟩ 4 2000 2000 reached writable
    (by decide) (by decide) (by decide) (by decide) rfl rfl).2
  change SendsSame (n.channelWriteSegment _ 0) (n.channelWrite _ 0 2000 4) at same
  cases (segment_sends_same_iff writable 2000 4).mp same with
  | inl nothing => cases nothing
  | inr unheard => exact unheard ⟨0, by simp [single], 0, heard⟩

end Node

end LibPubSub
