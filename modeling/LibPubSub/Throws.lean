import LibPubSub.Lifecycle
import LibPubSub.Messages

/-! `Host::on_receive` with its mutexes and its exceptions. The mutexes are taken and
released by plain calls, so what leaves a function between them keeps one taken.
Three calls throw if the outside lets them down; `Throws` says when a line
makes one of them, and all other lines are handled as `onReceive` says. -/

set_option autoImplicit false

namespace LibPubSub

open Fallible Transition

/-! ## What leaves a function -/

inductive Thrown where
  | fault (fault : Fault)
  /-- `throw "Couldn't resolve host";` -/
  | unresolvedHost
  /-- `throw "ERROR opening socket";` -/
  | openingSocket
  /-- `throw "No free port";` -/
  | noFreePort
  deriving DecidableEq

/-- What the calls of one line find outside of the process. -/
structure Outside where
  /-- `gethostbyname` knows the name. -/
  resolves : Str → Bool
  /-- `socket()` has a descriptor for a new Host. -/
  hostSocket : Bool
  /-- `socket()` has a descriptor for the subscription. -/
  subSocket : SubPtr → Bool
  /-- A port from 10000 to 20000 can be bound. -/
  freePort : Bool

/-- `TCPSocket::connect` with this host name gets as far as its thread. -/
def Outside.Connects (outside : Outside) (ip : Str) (descriptor : Bool) : Prop :=
  outside.resolves ip = true ∧ descriptor = true

instance (outside : Outside) (ip : Str) (descriptor : Bool) :
    Decidable (outside.Connects ip descriptor) :=
  inferInstanceAs (Decidable (_ ∧ _))

/-! ## The mutexes -/

/-- How often the calling thread holds the recursive mutexes of `mesh.cpp` and of
`signaling.cpp`. -/
structure Locks where
  mesh : Nat
  signaling : Nat
  deriving DecidableEq

/-- A call and the locks behind it. What leaves a function early skips the
`UNLOCK()` at its end. -/
def Locking (α : Type) : Type :=
  Locks → Except Thrown α × Locks

/-- The result of a call that throws nothing but its faults. -/
def Result.lift {α : Type} (result : Result α) : Except Thrown α :=
  result.mapError .fault

namespace Locking

variable {α β : Type}

instance : Monad Locking where
  pure value := fun locks => (.ok value, locks)
  bind first next := fun locks =>
    match first locks with
    | (.ok value, locks) => next value locks
    | (.error thrown, locks) => (.error thrown, locks)

/-- A call that takes no lock. -/
def plain (result : Result α) : Locking α :=
  fun locks => (result.lift, locks)

def raise (thrown : Thrown) : Locking α :=
  fun locks => (.error thrown, locks)

/-- `LOCK(); body; UNLOCK();` of `mesh.cpp`. -/
def underMesh (body : Locking α) : Locking α := fun locks =>
  match body { locks with mesh := locks.mesh + 1 } with
  | (.ok value, locks) => (.ok value, { locks with mesh := locks.mesh - 1 })
  | (.error thrown, locks) => (.error thrown, locks)

/-- `LOCK(); body; UNLOCK();` of `signaling.cpp`. -/
def underSignaling (body : Locking α) : Locking α := fun locks =>
  match body { locks with signaling := locks.signaling + 1 } with
  | (.ok value, locks) => (.ok value, { locks with signaling := locks.signaling - 1 })
  | (.error thrown, locks) => (.error thrown, locks)

/-- The call has this result and releases what it takes. -/
def Returns (call : Locking α) (result : Except Thrown α) : Prop :=
  ∀ locks, call locks = (result, locks)

theorem gives_pure (value : α) : Returns (pure value) (.ok value) :=
  fun _ => rfl

theorem gives_plain (result : Result α) : Returns (plain result) result.lift :=
  fun _ => rfl

theorem gives_raise (thrown : Thrown) : Returns (raise thrown : Locking α) (.error thrown) :=
  fun _ => rfl

/-- Only what comes next is left of a call that returns. -/
theorem Returns.bind_apply {first : Locking α} {next : α → Locking β} {value : α}
    (gives : Returns first (.ok value)) (locks : Locks) : (first >>= next) locks = next value locks := by
  change (match first locks with
    | (.ok value, locks) => next value locks
    | (.error thrown, locks) => (.error thrown, locks)) = _
  rw [gives locks]

theorem Returns.bind {first : Locking α} {next : α → Locking β} {value : α}
    {result : Except Thrown β} (gives : Returns first (.ok value))
    (later : Returns (next value) result) : Returns (first >>= next) result :=
  fun locks => (gives.bind_apply locks).trans (later locks)

theorem bind_raises {first : Locking α} {next : α → Locking β} {locks taken : Locks}
    {thrown : Thrown} (raises : first locks = (.error thrown, taken)) :
    (first >>= next) locks = (.error thrown, taken) := by
  change (match first locks with
    | (.ok value, locks) => next value locks
    | (.error thrown, locks) => (.error thrown, locks)) = _
  rw [raises]

theorem Returns.bind_error {first : Locking α} {next : α → Locking β} {thrown : Thrown}
    (gives : Returns first (.error thrown)) : Returns (first >>= next) (.error thrown) :=
  fun locks => bind_raises (gives locks)

theorem Returns.bind_plain {first : Result α} {next : α → Locking β} {result : α → Result β}
    (later : ∀ value, Returns (next value) (result value).lift) :
    Returns (plain first >>= next) (first >>= result).lift := by
  cases first with
  | error fault => exact fun _ => rfl
  | ok value => exact later value

theorem Returns.underMesh {body : Locking α} {value : α} (gives : Returns body (.ok value)) :
    Returns (underMesh body) (.ok value) := by
  intro locks
  simp only [Locking.underMesh, gives _, Nat.add_sub_cancel]

theorem Returns.underSignaling {body : Locking α} {value : α} (gives : Returns body (.ok value)) :
    Returns (underSignaling body) (.ok value) := by
  intro locks
  simp only [Locking.underSignaling, gives _, Nat.add_sub_cancel]

/-- What leaves the body keeps the mutex taken. -/
theorem underMesh_raises {body : Locking α} {thrown : Thrown}
    (raises : Returns body (.error thrown)) (locks : Locks) :
    Locking.underMesh body locks = (.error thrown, { locks with mesh := locks.mesh + 1 }) := by
  simp only [Locking.underMesh, raises _]

theorem underSignaling_raises {body : Locking α} {thrown : Thrown}
    (raises : Returns body (.error thrown)) (locks : Locks) :
    Locking.underSignaling body locks =
      (.error thrown, { locks with signaling := locks.signaling + 1 }) := by
  simp only [Locking.underSignaling, raises _]

end Locking

/-- `TCPSocket::connect` up to the start of its thread. -/
def Outside.connect (outside : Outside) (ip : Str) (descriptor : Bool) : Locking Unit :=
  if !outside.resolves ip then Locking.raise .unresolvedHost
  else if !descriptor then Locking.raise .openingSocket
  else pure ()

theorem Outside.connect_gives {outside : Outside} {ip : Str} {descriptor : Bool}
    (connects : outside.Connects ip descriptor) :
    (outside.connect ip descriptor).Returns (.ok ()) := by
  rw [Outside.connect, connects.1, connects.2]
  exact Locking.gives_pure ()

theorem Outside.connect_raises {outside : Outside} {ip : Str} {descriptor : Bool}
    (fails : ¬ outside.Connects ip descriptor) :
    ∃ thrown, (outside.connect ip descriptor).Returns (.error thrown) := by
  unfold Outside.connect
  cases known : outside.resolves ip with
  | false => exact ⟨_, Locking.gives_raise _⟩
  | true =>
      cases isOpen : descriptor with
      | false => exact ⟨_, Locking.gives_raise _⟩
      | true => exact absurd ⟨known, isOpen⟩ fails

namespace Mesh

def hasHostLocking (m : Mesh) (ip : Str) (port : Int32) : Locking Bool :=
  Locking.underMesh (pure (m.hasHost ip port))

def broadcastLocking (m : Mesh) (s : Str) : Locking Mesh :=
  Locking.underMesh (pure (m.broadcast s))

/-- The constructor looks for the key, pushes the Host and then connects its socket:
when that throws, the Host is freed and its address stays in `hosts`. -/
def newHostLocking (outside : Outside) (m : Mesh) (ip : Str) (port : Int32) : Locking Mesh := do
  let _ ← m.hasHostLocking ip port
  outside.connect ip outside.hostSocket
  return m.newHost ip port

def addHostLocking (outside : Outside) (m : Mesh) (ip : Str) (port : Int32) : Locking Mesh :=
  Locking.underMesh do
    if ← m.hasHostLocking ip port then return m else m.newHostLocking outside ip port

def broadcastHostsLocking (m : Mesh) : Locking Mesh :=
  Locking.underMesh
    (m.broadcastLocking ((m.hosts.filter fun h => (m.host h).bReady).flatMap
      fun h => hostLine (m.host h)))

theorem hasHostLocking_gives (m : Mesh) (ip : Str) (port : Int32) :
    (m.hasHostLocking ip port).Returns (.ok (m.hasHost ip port)) :=
  (Locking.gives_pure _).underMesh

/-- A known host is not dialled. -/
theorem addHostLocking_gives {outside : Outside} {m : Mesh} {ip : Str} {port : Int32}
    (able : m.hasHost ip port = true ∨ outside.Connects ip outside.hostSocket) :
    (m.addHostLocking outside ip port).Returns (.ok (m.addHost ip port)) := by
  refine Locking.Returns.underMesh ((m.hasHostLocking_gives ip port).bind ?_)
  unfold addHost
  cases known : m.hasHost ip port with
  | true => exact Locking.gives_pure m
  | false =>
      have connects := able.resolve_left (by simp [known])
      exact (m.hasHostLocking_gives ip port).bind
        ((Outside.connect_gives connects).bind (Locking.gives_pure _))

/-- `UNLOCK()` is not reached. -/
theorem addHostLocking_raises {outside : Outside} {m : Mesh} {ip : Str} {port : Int32}
    (unknown : m.hasHost ip port = false) (fails : ¬ outside.Connects ip outside.hostSocket) :
    ∃ thrown, ∀ locks, m.addHostLocking outside ip port locks =
      (.error thrown, { locks with mesh := locks.mesh + 1 }) := by
  obtain ⟨thrown, raises⟩ := Outside.connect_raises fails
  refine ⟨thrown, Locking.underMesh_raises ((m.hasHostLocking_gives ip port).bind ?_)⟩
  rw [unknown]
  exact (m.hasHostLocking_gives ip port).bind raises.bind_error

theorem broadcastHostsLocking_gives (m : Mesh) :
    m.broadcastHostsLocking.Returns (.ok m.broadcastHosts) :=
  ((Locking.gives_pure _).underMesh).underMesh

end Mesh

namespace Node

open Locking

def broadcastPublishedChannelsLocking (n : Node) : Locking Node :=
  n.channels.foldlM (fun n c =>
    if (n.chan c).publisher = some n.mesh.me then do
      let m ← n.mesh.broadcastLocking ("PUBLISH=".toList ++ n.channelString c)
      return { n with mesh := m }
    else return n) n

def namedHostLocking (n : Node) (opts : Str) : Locking (Option HostPtr) :=
  underMesh (pure (n.namedHost opts))

/-- With a known publisher the search only serves a debug message. -/
def applyPublishStatementLocking (n : Node) (h : HostPtr) (statement : Str) : Locking Node := do
  let type := statement.headD NUL
  let name ← plain (statementName statement)
  let opts := strAfter statement ['|']
  let (n, c) := n.getOrCreateChannel name
  if type = 'P' then plain (n.setPublisher c (some h))
  else if type = 'A' ∨ type = 'S' then
    let named ← n.namedHostLocking opts
    if (n.chan c).publisher.isSome then return n
    else plain (n.setPublisher c named)
  else return n

/-- The first offer of a channel looks for a port. -/
def makeOfferTcpLocking (outside : Outside) (n : Node) (h : HostPtr) (channel : Str) :
    Locking Node :=
  match n.getChannel channel with
  | some c =>
      if (n.chan c).server = none ∧ outside.freePort = false then raise .noFreePort
      else return n.offerTcp c h
  | none => return n

/-- `SubscriptionImpl::connect_tcp`. -/
def subConnectTcpLocking (outside : Outside) (n : Node) (s : SubPtr) : Locking Node := do
  let sub ← plain (n.subAt s)
  if sub.bConnected then return n
  match (n.chan sub.channel).publisher with
  | none => raise (.fault .nullPublisher)
  | some publisher => do
      outside.connect (n.mesh.host publisher).ip (outside.subSocket s)
      return n.dial s sub.channel publisher

/-- `ChannelImpl::connect_tcp`. -/
def connectTcpLocking (outside : Outside) (n : Node) (c : ChanPtr) : Locking Node :=
  if (n.chan c).offeredPort = 0 then plain (n.connectTcp c)
  else
    (n.chan c).subscriptions.foldlM (subConnectTcpLocking outside)
      (n.record (.connectTcp c (n.chan c).publisher))

def answerOfferTcpLocking (outside : Outside) (n : Node) (h : HostPtr) (offer : Str) :
    Locking Node :=
  let offered := strAfter offer ['|']
  match n.getChannel (strBefore offer ['|']) with
  | some c =>
      ((n.record (.offeredTcp h c (atoi offered))).setChan c fun channel =>
        { channel with offeredPort := atoi offered }).connectTcpLocking outside c
  | none => return n

/-- The body of `digest_message` between `LOCK()` and `UNLOCK()`. With the port reset,
`setPublisher` only asks for connections. -/
def digestBody (outside : Outside) (n : Node) (h : HostPtr) (s : Str) : Locking Node :=
  if strStartsWith s "PUBLISH=".toList then n.applyPublishStatementLocking h (strAfter s ['='])
  else if strStartsWith s "UNPUBLISH=".toList then
    plain (n.applyUnpublishStatement h (strAfter s ['=']))
  else if strStartsWith s "CONNECT_TCP=".toList then
    n.makeOfferTcpLocking outside h (strAfter s ['='])
  else if strStartsWith s "CONNECT_SHM=".toList then return n.makeOfferShm h (strAfter s ['='])
  else if strStartsWith s "OFFER_TCP=".toList then
    n.answerOfferTcpLocking outside h (strAfter s ['='])
  else if strStartsWith s "OFFER_SHM=".toList then plain (n.answerOfferShm h (strAfter s ['=']))
  else return n

def digestMessageLocking (outside : Outside) (n : Node) (h : HostPtr) (s : Str) : Locking Node :=
  underSignaling (n.digestBody outside h s)

/-- `Host::on_receive` with its locks. -/
def onReceiveLocking (outside : Outside) (n : Node) (h : HostPtr) (s : Str) : Locking Node :=
  if strStartsWith s "ID=".toList then do
    let m ← underMesh (pure (n.mesh.setHost h fun host =>
      { host with id := (Mesh.decodeId s).1, port := (Mesh.decodeId s).2 }))
    return { n with mesh := m.send h "CONNECTED".toList }
  else if strStartsWith s "YOU=".toList then
    return { n with mesh := receiveYou n.mesh s }
  else if s = "CONNECTED".toList then do
    let m := n.mesh.setHost h fun host => { host with bReady := true }
    let known ← m.hasHostLocking (m.host h).ip (m.host h).port
    let n := { n with mesh := m.pushUnlessKnown known h }
    let n ← underSignaling n.broadcastPublishedChannelsLocking
    let m ← n.mesh.broadcastHostsLocking
    return { n with mesh := m }
  else if !(n.mesh.host h).bReady then return n
  else if strStartsWith s "Host=".toList then do
    let ss := strAfter s ['=']
    let m ← n.mesh.addHostLocking outside (strBefore ss [':']) (atoi (strAfter ss [':']))
    return { n with mesh := m }
  else n.digestMessageLocking outside h s

theorem broadcastPublishedChannelsLocking_gives (n : Node) :
    n.broadcastPublishedChannelsLocking.Returns (.ok n.broadcastPublishedChannels) := by
  unfold broadcastPublishedChannelsLocking broadcastPublishedChannels
  generalize n.channels = channels
  induction channels generalizing n with
  | nil => exact gives_pure n
  | cons c channels ih =>
      rw [List.foldlM_cons, List.foldl_cons]
      refine Returns.bind ?_ (ih _)
      split
      · exact ((gives_pure _).underMesh).bind (gives_pure _)
      · exact gives_pure n

theorem applyPublishStatementLocking_gives (n : Node) (h : HostPtr) (statement : Str) :
    (n.applyPublishStatementLocking h statement).Returns (n.applyPublishStatement h statement).lift := by
  refine Returns.bind_plain fun name => ?_
  dsimp only
  split
  · exact gives_plain _
  · split
    · refine ((gives_pure _).underMesh).bind ?_
      split
      · exact gives_pure _
      · exact gives_plain _
    · exact gives_pure _

/-! ## What throws -/

/-- The line makes a call that the outside lets down: a Host or a subscription dials in
vain, or the first offer of a channel finds no port. -/
inductive Throws (outside : Outside) (n : Node) (s : Str) : Prop where
  | host (starts : strStartsWith s "Host=".toList = true)
      (unknown : n.mesh.hasHost (strBefore (strAfter s ['=']) [':'])
        (atoi (strAfter (strAfter s ['=']) [':'])) = false)
      (fails : ¬ outside.Connects (strBefore (strAfter s ['=']) [':']) outside.hostSocket)
  | dialled {c : ChanPtr} {p : HostPtr} {t : SubPtr} {sub : SubscriptionImpl}
      (starts : strStartsWith s "OFFER_TCP=".toList = true)
      (known : n.getChannel (strBefore (strAfter s ['=']) ['|']) = some c)
      (published : (n.chan c).publisher = some p)
      (offered : atoi (strAfter (strAfter s ['=']) ['|']) ≠ 0)
      (member : t ∈ (n.chan c).subscriptions) (found : n.sub t = some sub)
      (unconnected : sub.bConnected = false)
      (fails : ¬ outside.Connects (n.mesh.host p).ip (outside.subSocket t))
  | served {c : ChanPtr} (starts : strStartsWith s "CONNECT_TCP=".toList = true)
      (known : n.getChannel (strAfter s ['=']) = some c)
      (unserved : (n.chan c).server = none) (full : outside.freePort = false)

section

variable {outside : Outside} {n : Node} {h : HostPtr} {s : Str}

/-- A round of the loop of `connect_tcp()` leaves what the other rounds look at. -/
theorem subConnectTcp_keeps {mid : Node} {s : SubPtr} (ran : n.subConnectTcp s = .ok mid) :
    mid.chan = n.chan ∧ mid.mesh = n.mesh ∧ ∀ t,
      (mid.sub t).map (fun sub => (sub.channel, sub.bConnected)) =
        (n.sub t).map fun sub => (sub.channel, sub.bConnected) := by
  obtain ⟨sub, found, ⟨_, rfl⟩ | ⟨_, p, _, rfl⟩⟩ := subConnectTcp_cases ran
  · exact ⟨rfl, rfl, fun _ => rfl⟩
  · refine ⟨rfl, rfl, fun t => ?_⟩
    simp only [dial, record, setSub, Heap.modify_apply]
    split
    · next same => simp [same, Option.map_map, Function.comp_def]
    · rfl

/-- Subscription `t` is of channel `c` and not connected. -/
def Waits (n : Node) (c : ChanPtr) (t : SubPtr) : Prop :=
  (n.sub t).map (fun sub => (sub.channel, sub.bConnected)) = some (c, false)

/-- All of these subscriptions exist and belong to channel `c`. -/
def Belong (n : Node) (c : ChanPtr) (subs : List SubPtr) : Prop :=
  ∀ t ∈ subs, ∃ bConnected,
    (n.sub t).map (fun sub => (sub.channel, sub.bConnected)) = some (c, bConnected)

theorem belong_of_listed {c : ChanPtr} (listed : Listed n c) :
    n.Belong c (n.chan c).subscriptions := by
  intro t member
  obtain ⟨sub, found, rfl⟩ := listed t member
  exact ⟨sub.bConnected, by rw [found]; rfl⟩

/-- A subscription that waits dials, and any other is left alone. -/
theorem subConnectTcpLocking_gives {c : ChanPtr} {t : SubPtr}
    (able : n.Waits c t → ∀ p, (n.chan c).publisher = some p →
      outside.Connects (n.mesh.host p).ip (outside.subSocket t))
    (belong : n.Belong c [t]) :
    (n.subConnectTcpLocking outside t).Returns (n.subConnectTcp t).lift := by
  obtain ⟨bConnected, isSub⟩ := belong t List.mem_cons_self
  obtain ⟨sub, found, same⟩ := Option.map_eq_some_iff.mp isSub
  obtain ⟨rfl, rfl⟩ := Prod.mk.inj same
  unfold subConnectTcpLocking subConnectTcp
  rw [subAt_eq_ok.mpr found]
  refine (gives_plain (.ok sub)).bind ?_
  dsimp only [bind, Except.bind]
  cases connected : sub.bConnected with
  | true => exact gives_pure n
  | false =>
      cases published : (n.chan sub.channel).publisher with
      | none => exact gives_raise _
      | some p =>
          have waits : n.Waits sub.channel t := by simp [Waits, found, connected]
          exact (Outside.connect_gives (able waits p published)).bind (gives_pure _)

theorem subConnectTcpLocking_raises {c : ChanPtr} {t : SubPtr} {p : HostPtr}
    (waits : n.Waits c t) (published : (n.chan c).publisher = some p)
    (fails : ¬ outside.Connects (n.mesh.host p).ip (outside.subSocket t)) :
    ∃ thrown, (n.subConnectTcpLocking outside t).Returns (.error thrown) := by
  obtain ⟨sub, found, same⟩ := Option.map_eq_some_iff.mp waits
  obtain ⟨rfl, connected⟩ := Prod.mk.inj same
  obtain ⟨thrown, raises⟩ := Outside.connect_raises fails
  refine ⟨thrown, ?_⟩
  unfold subConnectTcpLocking
  rw [subAt_eq_ok.mpr found]
  refine (gives_plain (.ok sub)).bind ?_
  rw [connected, published]
  exact raises.bind_error

/-- What is asked of the subscriptions to come is the same behind a round. -/
theorem dialLoop_gives {subs : List SubPtr} {c : ChanPtr} (belong : n.Belong c subs)
    (able : ∀ t ∈ subs, n.Waits c t → ∀ p, (n.chan c).publisher = some p →
      outside.Connects (n.mesh.host p).ip (outside.subSocket t)) :
    Returns (subs.foldlM (subConnectTcpLocking outside) n) (subs.foldlM subConnectTcp n).lift := by
  induction subs generalizing n with
  | nil => exact gives_pure n
  | cons t subs ih =>
      have first := subConnectTcpLocking_gives (able t List.mem_cons_self) fun u member =>
        belong u (List.mem_singleton.mp member ▸ List.mem_cons_self)
      rw [List.foldlM_cons, List.foldlM_cons]
      cases ran : n.subConnectTcp t with
      | error fault =>
          rw [ran] at first
          exact first.bind_error
      | ok mid =>
          rw [ran] at first
          obtain ⟨chan, mesh, same⟩ := subConnectTcp_keeps ran
          refine Returns.bind first (ih ?_ ?_)
          · intro u member
            rw [same]
            exact belong u (List.mem_cons_of_mem _ member)
          · intro u member waits p published
            rw [mesh]
            rw [Waits, same] at waits
            exact able u (List.mem_cons_of_mem _ member) waits p (chan ▸ published)

theorem dialLoop_raises {subs : List SubPtr} {c : ChanPtr} {p : HostPtr}
    (belong : n.Belong c subs) (published : (n.chan c).publisher = some p)
    (fails : ∃ t ∈ subs, n.Waits c t ∧
      ¬ outside.Connects (n.mesh.host p).ip (outside.subSocket t)) :
    ∃ thrown, Returns (subs.foldlM (subConnectTcpLocking outside) n) (.error thrown) := by
  induction subs generalizing n with
  | nil =>
      obtain ⟨_, member, _⟩ := fails
      exact absurd member List.not_mem_nil
  | cons t subs ih =>
      rw [List.foldlM_cons]
      by_cases able : n.Waits c t →
          outside.Connects (n.mesh.host p).ip (outside.subSocket t)
      · have first : (n.subConnectTcpLocking outside t).Returns (n.subConnectTcp t).lift := by
          refine subConnectTcpLocking_gives (fun waits q isQ => ?_) fun u member =>
            belong u (List.mem_singleton.mp member ▸ List.mem_cons_self)
          obtain rfl := Option.some.inj (isQ.symm.trans published)
          exact able waits
        cases ran : n.subConnectTcp t with
        | error fault =>
            rw [ran] at first
            exact ⟨_, first.bind_error⟩
        | ok mid =>
            rw [ran] at first
            obtain ⟨chan, mesh, same⟩ := subConnectTcp_keeps ran
            obtain ⟨u, member, waits, unable⟩ := fails
            have later : u ∈ subs := (List.mem_cons.mp member).resolve_left fun isT =>
              unable (isT ▸ able (isT ▸ waits))
            obtain ⟨thrown, raises⟩ := ih (n := mid)
              (fun v member => by rw [same]; exact belong v (List.mem_cons_of_mem _ member))
              (by rw [chan]; exact published)
              ⟨u, later, by rw [Waits, same]; exact waits, by rw [mesh]; exact unable⟩
            exact ⟨thrown, first.bind raises⟩
      · obtain ⟨waits, unable⟩ := Classical.not_imp.mp able
        obtain ⟨thrown, raises⟩ := subConnectTcpLocking_raises waits published unable
        exact ⟨thrown, raises.bind_error⟩

theorem answerOfferTcpLocking_gives (populated : Populated n) {offer : Str}
    (able : ∀ c p t, n.getChannel (strBefore offer ['|']) = some c →
      (n.chan c).publisher = some p → atoi (strAfter offer ['|']) ≠ 0 →
        t ∈ (n.chan c).subscriptions → n.Waits c t →
          outside.Connects (n.mesh.host p).ip (outside.subSocket t)) :
    (n.answerOfferTcpLocking outside h offer).Returns (n.answerOfferTcp h offer).lift := by
  unfold answerOfferTcpLocking answerOfferTcp
  dsimp only
  cases known : n.getChannel (strBefore offer ['|']) with
  | none => exact gives_pure n
  | some c =>
      dsimp only [onOfferTcp]
      unfold connectTcpLocking
      split
      · exact gives_plain _
      · next offered =>
        rw [connectTcp, if_neg offered]
        rw [setChan_self] at offered
        refine dialLoop_gives (c := c) ?_ ?_
        · rw [setChan_self]
          exact belong_of_listed (populated.listed c)
        · intro t member waits p published
          simp only [record, setChan_self] at member published
          exact able c p t known published offered member waits

theorem answerOfferTcpLocking_raises (populated : Populated n) {offer : Str} {c : ChanPtr}
    {p : HostPtr} {t : SubPtr} (known : n.getChannel (strBefore offer ['|']) = some c)
    (published : (n.chan c).publisher = some p) (offered : atoi (strAfter offer ['|']) ≠ 0)
    (member : t ∈ (n.chan c).subscriptions) (waits : n.Waits c t)
    (fails : ¬ outside.Connects (n.mesh.host p).ip (outside.subSocket t)) :
    ∃ thrown, (n.answerOfferTcpLocking outside h offer).Returns (.error thrown) := by
  unfold answerOfferTcpLocking
  dsimp only
  rw [known]
  dsimp only
  unfold connectTcpLocking
  rw [setChan_self, if_neg offered]
  refine dialLoop_raises (c := c) (p := p) ?_ ?_ ⟨t, member, waits, fails⟩
  · exact belong_of_listed (populated.listed c)
  · simpa only [record, setChan_self] using published

theorem makeOfferTcpLocking_gives {channel : Str}
    (able : ∀ c, n.getChannel channel = some c → (n.chan c).server = none →
      outside.freePort = true) :
    (n.makeOfferTcpLocking outside h channel).Returns (.ok (n.makeOfferTcp h channel)) := by
  unfold makeOfferTcpLocking makeOfferTcp
  cases known : n.getChannel channel with
  | none => exact gives_pure n
  | some c =>
      dsimp only
      rw [if_neg]
      · exact gives_pure _
      · rintro ⟨unserved, full⟩
        rw [able c known unserved] at full
        cases full

/-- `digest_message` does what `digestMessage` says unless it throws. -/
theorem digestBody_gives (populated : Populated n) (unthrown : ¬ Throws outside n s) :
    (n.digestBody outside h s).Returns (n.digestMessage h s).lift := by
  unfold digestBody digestMessage
  split
  · exact applyPublishStatementLocking_gives n h _
  split
  · exact gives_plain _
  split
  · next starts =>
    refine makeOfferTcpLocking_gives fun c known unserved => ?_
    by_contra full
    exact unthrown (.served starts known unserved (Bool.not_eq_true _ ▸ full))
  split
  · exact gives_pure _
  split
  · next starts =>
    refine answerOfferTcpLocking_gives populated ?_
    intro c p t known published offered member waits
    by_contra fails
    obtain ⟨sub, found, same⟩ := Option.map_eq_some_iff.mp waits
    exact unthrown (.dialled starts known published offered member found
      (congrArg Prod.snd same) fails)
  split
  · exact gives_plain _
  · exact gives_pure n

/-- The locks change nothing about what `on_receive` does, unless it throws. They are
released exactly if it returns normally. -/
theorem onReceiveLocking_eq (populated : Populated n) (unthrown : ¬ Throws outside n s)
    (locks : Locks) :
    n.onReceiveLocking outside h s locks = ((n.onReceive h s).lift,
      match n.onReceive h s with
      | .ok _ => locks
      | .error _ => { locks with signaling := locks.signaling + 1 }) := by
  unfold onReceiveLocking onReceive
  split
  · exact ((gives_pure _).underMesh.bind (gives_pure _)) locks
  split
  · exact gives_pure _ locks
  split
  · refine (Returns.bind (Mesh.hasHostLocking_gives _ _ _) ?_) locks
    refine ((broadcastPublishedChannelsLocking_gives _).underSignaling).bind ?_
    exact (Mesh.broadcastHostsLocking_gives _).bind (gives_pure _)
  split
  · exact gives_pure _ locks
  split
  · next starts =>
    refine (Returns.bind (Mesh.addHostLocking_gives ?_) ?_) locks
    · by_contra neither
      obtain ⟨unknown, fails⟩ := not_or.mp neither
      exact unthrown (.host starts (Bool.not_eq_true _ ▸ unknown) fails)
    · exact gives_pure _
  · have body := digestBody_gives (h := h) populated unthrown
    unfold digestMessageLocking
    cases ran : n.digestMessage h s with
    | ok n' =>
        rw [ran] at body
        exact body.underSignaling locks
    | error fault =>
        rw [ran] at body
        exact underSignaling_raises body locks

/-- A keyword of a statement or of the gossip is not mistaken for the handshake. -/
theorem not_handshake {start : Str} (starts : strStartsWith s start = true)
    (apart : ∀ other ∈ ["ID=".toList, "YOU=".toList], ¬ start <+: other ∧ ¬ other <+: start)
    (notConnected : strStartsWith "CONNECTED".toList start = false) :
    strStartsWith s "ID=".toList = false ∧ strStartsWith s "YOU=".toList = false ∧
      s ≠ "CONNECTED".toList := by
  refine ⟨strStartsWith_eq_false starts (apart _ (by simp)),
    strStartsWith_eq_false starts (apart _ (by simp)), ?_⟩
  rintro rfl
  rw [starts] at notConnected
  cases notConnected

theorem onReceiveLocking_host (ready : (n.mesh.host h).bReady = true)
    (starts : strStartsWith s "Host=".toList = true) :
    n.onReceiveLocking outside h s =
      n.mesh.addHostLocking outside (strBefore (strAfter s ['=']) [':'])
          (atoi (strAfter (strAfter s ['=']) [':'])) >>=
        fun m => pure { n with mesh := m } := by
  obtain ⟨notId, notYou, notConnected⟩ := not_handshake starts (by decide) (by decide)
  rw [onReceiveLocking, notId, notYou, if_neg Bool.false_ne_true, if_neg Bool.false_ne_true,
    if_neg notConnected, ready, if_neg (by decide), if_pos starts]

theorem onReceiveLocking_statement {start : Str} (ready : (n.mesh.host h).bReady = true)
    (starts : strStartsWith s start = true)
    (apart : ∀ other ∈ ["ID=".toList, "YOU=".toList], ¬ start <+: other ∧ ¬ other <+: start)
    (notConnected : strStartsWith "CONNECTED".toList start = false)
    (notHost : ¬ start <+: "Host=".toList ∧ ¬ "Host=".toList <+: start) :
    n.onReceiveLocking outside h s = n.digestMessageLocking outside h s := by
  obtain ⟨notId, notYou, different⟩ := not_handshake starts apart notConnected
  rw [onReceiveLocking, notId, notYou, strStartsWith_eq_false starts notHost,
    if_neg Bool.false_ne_true, if_neg Bool.false_ne_true, if_neg different, ready,
    if_neg (by decide), if_neg Bool.false_ne_true]

theorem digestBody_connectTcp (starts : strStartsWith s "CONNECT_TCP=".toList = true) :
    n.digestBody outside h s = n.makeOfferTcpLocking outside h (strAfter s ['=']) := by
  rw [digestBody, strStartsWith_eq_false starts (by decide),
    strStartsWith_eq_false starts (by decide), if_neg Bool.false_ne_true,
    if_neg Bool.false_ne_true, if_pos starts]

theorem digestBody_offerTcp (starts : strStartsWith s "OFFER_TCP=".toList = true) :
    n.digestBody outside h s = n.answerOfferTcpLocking outside h (strAfter s ['=']) := by
  rw [digestBody, strStartsWith_eq_false starts (by decide),
    strStartsWith_eq_false starts (by decide), strStartsWith_eq_false starts (by decide),
    strStartsWith_eq_false starts (by decide), if_neg Bool.false_ne_true,
    if_neg Bool.false_ne_true, if_neg Bool.false_ne_true, if_neg Bool.false_ne_true, if_pos starts]

/-- A line that throws leaves its handler with one of the mutexes taken. -/
theorem onReceiveLocking_throws (populated : Populated n)
    (ready : (n.mesh.host h).bReady = true) (throws : Throws outside n s) (locks : Locks) :
    ∃ thrown taken, n.onReceiveLocking outside h s locks = (.error thrown, taken) ∧
      (taken = { locks with mesh := locks.mesh + 1 } ∨
        taken = { locks with signaling := locks.signaling + 1 }) := by
  cases throws with
  | host starts unknown fails =>
      obtain ⟨thrown, raises⟩ := Mesh.addHostLocking_raises unknown fails
      refine ⟨thrown, _, ?_, .inl rfl⟩
      rw [onReceiveLocking_host ready starts]
      exact bind_raises (raises locks)
  | @dialled c p u _ starts known published offered member found unconnected fails =>
      obtain ⟨same, found', channel⟩ := populated.listed _ _ member
      obtain rfl := Option.some.inj (found'.symm.trans found)
      have waits : n.Waits c u := by
        rw [Waits, found, Option.map_some, channel, unconnected]
      obtain ⟨thrown, raises⟩ := answerOfferTcpLocking_raises (h := h) populated known published
        offered member waits fails
      refine ⟨thrown, _, ?_, .inr rfl⟩
      rw [onReceiveLocking_statement ready starts (by decide) (by decide) (by decide),
        digestMessageLocking, digestBody_offerTcp starts]
      exact underSignaling_raises raises locks
  | served starts known unserved full =>
      refine ⟨.noFreePort, _, ?_, .inr rfl⟩
      rw [onReceiveLocking_statement ready starts (by decide) (by decide) (by decide),
        digestMessageLocking, digestBody_connectTcp starts, makeOfferTcpLocking, known]
      refine underSignaling_raises ?_ locks
      dsimp only
      rw [if_pos ⟨unserved, full⟩]
      exact gives_raise _

/-- Line `s` on a socket of Host `h` is handled to its end, whatever locks the thread
held before, and the thread holds the same locks again. -/
def Survives (outside : Outside) (n : Node) (h : HostPtr) (s : Str) : Prop :=
  ∃ n', (n.onReceiveLocking outside h s).Returns (.ok n')

theorem survives_iff (populated : Populated n) (ready : (n.mesh.host h).bReady = true) :
    Survives outside n h s ↔ (∃ n', n.onReceive h s = .ok n') ∧ ¬ Throws outside n s := by
  constructor
  · rintro ⟨n', gives⟩
    have returns := gives ⟨0, 0⟩
    by_cases throws : Throws outside n s
    · obtain ⟨thrown, taken, raises, _⟩ := onReceiveLocking_throws populated ready throws ⟨0, 0⟩
      rw [raises] at returns
      cases congrArg Prod.fst returns
    · refine ⟨⟨n', ?_⟩, throws⟩
      rw [onReceiveLocking_eq populated throws] at returns
      have lifted := congrArg Prod.fst returns
      cases ran : n.onReceive h s with
      | ok n'' =>
          rw [ran] at lifted
          cases lifted
          rfl
      | error fault =>
          rw [ran] at lifted
          cases lifted
  · rintro ⟨⟨n', ran⟩, unthrown⟩
    refine ⟨n', fun locks => ?_⟩
    rw [onReceiveLocking_eq populated unthrown, ran]
    rfl

end

end Node

end LibPubSub
