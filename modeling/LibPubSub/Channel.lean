import LibPubSub.Mesh
import Mathlib.Control.Basic

/-! `channel.h` and `channel.cpp`: channels, subscriptions and the statements that
negotiate data connections. A member function takes the address of its object.
What C++ leaves undefined or throws past the receive thread is a `Fault`. -/

set_option autoImplicit false

namespace LibPubSub

abbrev ChanPtr := Nat
abbrev SubPtr := Nat

/-- How a call can fail to return normally. -/
inductive Fault where
  /-- `publisher->` with `publisher == NULL`. -/
  | nullPublisher
  /-- `socket->` with `socket == NULL`. -/
  | nullSocket
  /-- A member of a deleted `SubscriptionImpl`. -/
  | deletedSubscription
  /-- An iterator of a range-for past the end of the vector. -/
  | pastEnd
  /-- `std::out_of_range`, which the receive thread does not catch. -/
  | outOfRange
  deriving DecidableEq

abbrev Result := Except Fault

inductive Transport where
  | tcp
  | shm
  deriving DecidableEq

/-- The arguments of `new SHM(path, size)`. -/
structure SHM where
  path : Str
  size : UInt64
  deriving DecidableEq

structure SubscriptionImpl where
  channel : ChanPtr
  host : HostPtr
  bAsync : Bool := false
  bConnected : Bool := false
  transport : Transport := .tcp
  socket : Option SockPtr := none
  shm : Option SHM := none
  deriving DecidableEq

/-- The port of a channel's `TCPServer` and the Host that its `on_open` captured. -/
structure DataServer where
  port : Int32
  host : HostPtr
  deriving DecidableEq

structure ChannelImpl where
  name : Str
  publisher : Option HostPtr := none
  server : Option DataServer := none
  offeredPort : Int32 := 0
  offeredShmPath : Str := []
  size : UInt64 := 0
  subscriptions : List SubPtr := []
  subscriptors : List SubPtr := []
  deriving DecidableEq

/-- A port that `TCPServer(10000,20000)` can bind. -/
abbrev DataPort := { port : Int32 // 10000 ≤ port ∧ port ≤ 20000 }

/-- What a debugger set on the calls of interest would record. The program never
reads it. -/
inductive Call where
  /-- `ChannelImpl::connect_tcp` ran with this publisher. -/
  | connectTcp (c : ChanPtr) (publisher : Option HostPtr)
  /-- `ChannelImpl::connect_shm` ran with this publisher. -/
  | connectShm (c : ChanPtr) (publisher : Option HostPtr)
  /-- A subscription dialled `port` of its channel's publisher on socket `k`. -/
  | dialled (s : SubPtr) (k : SockPtr) (c : ChanPtr) (publisher : HostPtr) (port : Int32)
  /-- A subscription mapped a segment of its channel's publisher. -/
  | mapped (s : SubPtr) (c : ChanPtr) (publisher : Option HostPtr) (shm : SHM)
  /-- An `OFFER_TCP=` of `h` was answered. -/
  | offeredTcp (h : HostPtr) (c : ChanPtr) (port : Int32)
  /-- An `OFFER_SHM=` of `h` was answered. -/
  | offeredShm (h : HostPtr) (c : ChanPtr) (shm : SHM)
  /-- `ChannelImpl::setPublisher` replaced `old` by `new`. -/
  | publisherSet (c : ChanPtr) (old new : Option HostPtr)
  /-- `ChannelImpl::subscribe` returned `s`. -/
  | subscribed (s : SubPtr) (c : ChanPtr)
  deriving DecidableEq

/-- One process: `mesh.cpp`, the channel registry and the data sockets. The vector
`channels` lists all addresses of `chan` in order: every channel is pushed by
its constructor and never deleted. `bindPort` is the free port that the data
server of a channel finds when it is created. -/
structure Node where
  mesh : Mesh
  chan : Heap ChannelImpl
  sub : Heap (Option SubscriptionImpl)
  dataSock : Heap (TCPSocket SubPtr)
  bindPort : ChanPtr → DataPort
  log : List Call

namespace Node

def setChan (n : Node) (c : ChanPtr) (change : ChannelImpl → ChannelImpl) : Node :=
  { n with chan := n.chan.modify c change }

theorem setChan_self (n : Node) (c : ChanPtr) (change : ChannelImpl → ChannelImpl) :
    (n.setChan c change).chan c = change (n.chan c) :=
  n.chan.modify_self c change

theorem setChan_of_ne (n : Node) {c d : ChanPtr} (change : ChannelImpl → ChannelImpl)
    (other : d ≠ c) : (n.setChan c change).chan d = n.chan d :=
  n.chan.modify_of_ne change other

def setSub (n : Node) (s : SubPtr) (change : SubscriptionImpl → SubscriptionImpl) : Node :=
  { n with sub := n.sub.modify s (Option.map change) }

def setDataSock (n : Node) (k : SockPtr) (change : TCPSocket SubPtr → TCPSocket SubPtr) : Node :=
  { n with dataSock := n.dataSock.modify k change }

def send (n : Node) (h : HostPtr) (s : Str) : Node :=
  { n with mesh := n.mesh.send h s }

def broadcast (n : Node) (s : Str) : Node :=
  { n with mesh := n.mesh.broadcast s }

def record (n : Node) (call : Call) : Node :=
  { n with log := n.log ++ [call] }

/-- `s->`: the object at `s`, if it has not been deleted. -/
def subAt (n : Node) (s : SubPtr) : Result SubscriptionImpl :=
  match n.sub s with
  | some sub => .ok sub
  | none => .error .deletedSubscription

/-! ## Subscriptions -/

/-- `~SubscriptionImpl` and the release of the object. -/
def deleteSub (n : Node) (s : SubPtr) (channel : ChanPtr) : Node :=
  let n := n.setChan channel fun c =>
    { c with
      subscriptions := c.subscriptions.filter (· != s)
      subscriptors := c.subscriptors.filter (· != s) }
  { n with sub := n.sub.modify s fun _ => none }

/-- `SubscriptionImpl::on_open`. -/
def subOnOpen (n : Node) (s : SubPtr) : Result Node := do
  let _ ← n.subAt s
  return n.setSub s fun sub => { sub with bConnected := true }

/-- `SubscriptionImpl::on_close`. -/
def subOnClose (n : Node) (s : SubPtr) : Result Node := do
  let sub ← n.subAt s
  match sub.socket with
  | none => .error .nullSocket
  | some k => return (n.setDataSock k (·.removeListeners)).deleteSub s sub.channel

/-- `SubscriptionImpl::close`. -/
def subClose (n : Node) (s : SubPtr) : Result Node := do
  let sub ← n.subAt s
  match sub.transport, sub.socket with
  | .tcp, none => .error .nullSocket
  | .tcp, some k => (n.setDataSock k fun sock => sock.removeListeners.close false).subOnClose s
  | .shm, _ => n.subOnClose s

/-- The body of `SubscriptionImpl::connect_tcp`: a new socket that dials the port
offered on channel `c` at its publisher. -/
def dial (n : Node) (s : SubPtr) (c : ChanPtr) (publisher : HostPtr) : Node :=
  let k := n.dataSock.next
  let port := (n.chan c).offeredPort
  let socket : TCPSocket SubPtr := { listeners := some s }
  let socket := socket.connect (n.mesh.host publisher).ip port
  let n := { n with dataSock := n.dataSock.alloc socket }
  let n := n.setSub s fun sub => { sub with socket := some k, transport := .tcp }
  n.record (.dialled s k c publisher port)

/-- `SubscriptionImpl::connect_tcp`. -/
def subConnectTcp (n : Node) (s : SubPtr) : Result Node := do
  let sub ← n.subAt s
  if sub.bConnected then return n
  match (n.chan sub.channel).publisher with
  | none => .error .nullPublisher
  | some publisher => return n.dial s sub.channel publisher

/-- The segment offered on channel `c`. -/
def offeredShm (n : Node) (c : ChanPtr) : SHM :=
  ⟨(n.chan c).offeredShmPath, (n.chan c).size⟩

/-- The body of `SubscriptionImpl::connect_shm`. -/
def mapShm (n : Node) (s : SubPtr) (c : ChanPtr) : Node :=
  let shm := n.offeredShm c
  let n := n.setSub s fun sub =>
    { sub with
      transport := .shm
      shm := if sub.bAsync then sub.shm else some shm
      bConnected := true }
  n.record (.mapped s c (n.chan c).publisher shm)

/-- `SubscriptionImpl::connect_shm`. -/
def subConnectShm (n : Node) (s : SubPtr) : Result Node := do
  let sub ← n.subAt s
  if sub.bConnected then return n
  return n.mapShm s sub.channel

/-! ## Channels -/

/-- `getType`. -/
def getType (n : Node) (c : ChanPtr) : Char :=
  if (n.chan c).publisher = some n.mesh.me then 'P'
  else if (n.chan c).subscriptions ≠ [] then 'S'
  else if (n.chan c).publisher.isSome then 'A'
  else 'N'

/-- `ChannelImpl::tostring`. -/
def channelString (n : Node) (c : ChanPtr) : Str :=
  n.getType c :: (n.chan c).name ++ "|".toList ++
    match (n.chan c).publisher with
    | some p => Mesh.hostString (n.mesh.host p)
    | none => []

/-- `for(s : subscriptions) s->close();`. The end of the range is evaluated once,
`left` counts the distance to it from position `it`, and the loop reads the
vector as the earlier closes have left it. -/
def disconnectFrom (c : ChanPtr) : Nat → Nat → Node → Result Node
  | 0, _, n => return n
  | left + 1, it, n =>
      match (n.chan c).subscriptions[it]? with
      | none => .error .pastEnd
      | some s => do disconnectFrom c left (it + 1) (← n.subClose s)

/-- `ChannelImpl::disconnect`. -/
def disconnect (n : Node) (c : ChanPtr) : Result Node :=
  disconnectFrom c (n.chan c).subscriptions.length 0 n

/-- `ChannelImpl::connect_tcp`. -/
def connectTcp (n : Node) (c : ChanPtr) : Result Node :=
  let channel := n.chan c
  let n := n.record (.connectTcp c channel.publisher)
  if channel.offeredPort = 0 then
    match channel.publisher with
    | none => .error .nullPublisher
    | some p => return n.send p ("CONNECT_TCP=".toList ++ channel.name)
  else channel.subscriptions.foldlM subConnectTcp n

/-- `ChannelImpl::connect_shm`. -/
def connectShm (n : Node) (c : ChanPtr) : Result Node :=
  let channel := n.chan c
  let n := n.record (.connectShm c channel.publisher)
  if channel.offeredShmPath = [] then
    match channel.publisher with
    | none => .error .nullPublisher
    | some p => return n.send p ("CONNECT_SHM".toList ++ channel.name)
  else channel.subscriptions.foldlM subConnectShm n

/-- `ChannelImpl::connect`. -/
def connect (n : Node) (c : ChanPtr) : Result Node :=
  match (n.chan c).publisher with
  | none => return n
  | some p =>
      if (n.chan c).subscriptions = [] ∨ p = n.mesh.me then return n
      else if n.mesh.isLocal p then n.connectShm c
      else n.connectTcp c

/-- `if(publisher && publisher != p) disconnect();` -/
def disconnectOther (n : Node) (c : ChanPtr) (p : Option HostPtr) : Result Node :=
  if (n.chan c).publisher.isSome ∧ (n.chan c).publisher ≠ p then n.disconnect c else return n

/-- `publisher = p; offeredPort = 0;` -/
def replacePublisher (n : Node) (c : ChanPtr) (p : Option HostPtr) : Node :=
  let old := (n.chan c).publisher
  let n := n.setChan c fun channel => { channel with publisher := p, offeredPort := 0 }
  n.record (.publisherSet c old p)

/-- `if(subscriptions.size() && publisher) connect();` -/
def connectWanted (n : Node) (c : ChanPtr) : Result Node :=
  if (n.chan c).subscriptions ≠ [] ∧ (n.chan c).publisher.isSome then n.connect c else return n

/-- `ChannelImpl::setPublisher`. -/
def setPublisher (n : Node) (c : ChanPtr) (p : Option HostPtr) : Result Node := do
  let n ← n.disconnectOther c p
  (n.replacePublisher c p).connectWanted c

/-- `ChannelImpl::publish`. -/
def publishChannel (n : Node) (c : ChanPtr) : Result Node := do
  if (n.chan c).publisher = some n.mesh.me then return n
  let n ← n.setPublisher c (some n.mesh.me)
  return n.broadcast ("PUBLISH=".toList ++ n.channelString c)

/-- `ChannelImpl::unpublish`. -/
def unpublishChannel (n : Node) (c : ChanPtr) : Result Node := do
  let n ← n.setPublisher c none
  return n.broadcast ("UNPUBLISH=".toList ++ n.channelString c)

/-- `new SubscriptionImpl(this)`, which leaves `bAsync` false. -/
def addSubscription (n : Node) (c : ChanPtr) : Node :=
  let s := n.sub.next
  let n := { n with sub := n.sub.alloc (some { channel := c, host := n.mesh.me }) }
  let n := n.setChan c fun channel =>
    { channel with subscriptions := channel.subscriptions ++ [s] }
  n.record (.subscribed s c)

/-- `ChannelImpl::subscribe`. -/
def subscribeChannel (n : Node) (c : ChanPtr) : Result Node :=
  (n.addSubscription c).connect c

/-- `ChannelImpl::offer_tcp`. -/
def offerTcp (n : Node) (c : ChanPtr) (h : HostPtr) : Node :=
  let server := (n.chan c).server.getD ⟨n.bindPort c, h⟩
  let n := n.setChan c fun channel => { channel with server := some server }
  n.send h ("OFFER_TCP=".toList ++ (n.chan c).name ++ "|".toList ++ printInt server.port)

/-- `ChannelImpl::offer_shm`. -/
def offerShm (n : Node) (c : ChanPtr) (h : HostPtr) : Node :=
  let n := n.setChan c fun channel => { channel with offeredShmPath := channel.name }
  n.send h ("OFFER_SHM".toList ++ (n.chan c).name ++ "|".toList ++ (n.chan c).offeredShmPath ++
    "|".toList ++ Nat.toDigits 10 (n.chan c).size.toNat)

/-- `ChannelImpl::on_offer_tcp`. -/
def onOfferTcp (n : Node) (c : ChanPtr) (offer : Str) : Result Node :=
  (n.setChan c fun channel => { channel with offeredPort := atoi offer }).connectTcp c

/-- The conversion of an `int` to `size_t`. -/
def sizeOfInt (n : Int32) : UInt64 :=
  n.toInt64.toUInt64

/-- The path and the size of an SHM offer. -/
def decodeShm (offer : Str) : SHM :=
  ⟨strBefore offer ['|'], sizeOfInt (atoi (strAfter offer ['|']))⟩

/-- `ChannelImpl::on_offer_shm`. -/
def onOfferShm (n : Node) (c : ChanPtr) (offer : Str) : Result Node :=
  (n.setChan c fun channel =>
    { channel with
      offeredShmPath := (decodeShm offer).path
      size := (decodeShm offer).size }).connectShm c

/-- What `server->on_open` does with an accepted data connection: a subscriptor
of the captured Host. -/
def acceptSubscriptor (n : Node) (c : ChanPtr) (ip : Str) (port : Int32) (conn : ConnId) : Node :=
  match (n.chan c).server with
  | none => n
  | some server =>
      let s := n.sub.next
      let k := n.dataSock.next
      let n := { n with dataSock := n.dataSock.alloc (.accepted ip port conn s false) }
      let n := { n with
        sub := n.sub.alloc (some
          { channel := c, host := server.host, socket := some k, bConnected := true }) }
      n.setChan c fun channel => { channel with subscriptors := channel.subscriptors ++ [s] }

/-! ## The registry -/

def channels (n : Node) : List ChanPtr :=
  List.range n.chan.next

def getChannel (n : Node) (name : Str) : Option ChanPtr :=
  n.channels.find? fun c => (n.chan c).name == name

def getOrCreateChannel (n : Node) (name : Str) : Node × ChanPtr :=
  match n.getChannel name with
  | some c => (n, c)
  | none => ({ n with chan := n.chan.alloc { name := name } }, n.chan.next)

/-- `close_all_channels`. -/
def closeAllChannels (n : Node) (h : HostPtr) : Result Node :=
  n.channels.foldlM (fun n c =>
    if (n.chan c).publisher = some h then n.setPublisher c none else return n) n

/-- `broadcast_published_channels`. -/
def broadcastPublishedChannels (n : Node) : Node :=
  n.channels.foldl (fun n c =>
    if (n.chan c).publisher = some n.mesh.me then
      n.broadcast ("PUBLISH=".toList ++ n.channelString c)
    else n) n

/-! ## Statements -/

/-- `s.substr(pos)`. -/
def substr (s : Str) (pos : Nat) : Result Str :=
  if pos ≤ s.length then .ok (s.drop pos) else .error .outOfRange

/-- `str_before(statement.substr(1), "|")`. -/
def statementName (statement : Str) : Result Str := do
  return strBefore (← substr statement 1) ['|']

/-- `get_host(str_before(opts, ":"), atoi(str_after(opts, ":").c_str()))`. -/
def namedHost (n : Node) (opts : Str) : Option HostPtr :=
  n.mesh.getHost (strBefore opts [':']) (atoi (strAfter opts [':']))

def applyPublishStatement (n : Node) (h : HostPtr) (statement : Str) : Result Node := do
  let type := statement.headD NUL
  let name ← statementName statement
  let opts := strAfter statement ['|']
  let (n, c) := n.getOrCreateChannel name
  if type = 'P' then n.setPublisher c (some h)
  else if type = 'A' ∨ type = 'S' then
    if (n.chan c).publisher.isSome then return n
    else n.setPublisher c (n.namedHost opts)
  else return n

/-- The sender `h` is not looked at. -/
def applyUnpublishStatement (n : Node) (_h : HostPtr) (statement : Str) : Result Node := do
  let name ← statementName statement
  match n.getChannel name with
  | some c => n.setPublisher c none
  | none => return n

def makeOfferTcp (n : Node) (h : HostPtr) (channel : Str) : Node :=
  match n.getChannel channel with
  | some c => n.offerTcp c h
  | none => n

def makeOfferShm (n : Node) (h : HostPtr) (channel : Str) : Node :=
  match n.getChannel channel with
  | some c => n.offerShm c h
  | none => n

def answerOfferTcp (n : Node) (h : HostPtr) (offer : Str) : Result Node :=
  let offered := strAfter offer ['|']
  match n.getChannel (strBefore offer ['|']) with
  | some c => (n.record (.offeredTcp h c (atoi offered))).onOfferTcp c offered
  | none => return n

def answerOfferShm (n : Node) (h : HostPtr) (offer : Str) : Result Node :=
  let offered := strAfter offer ['|']
  match n.getChannel (strBefore offer ['|']) with
  | some c => (n.record (.offeredShm h c (decodeShm offered))).onOfferShm c offered
  | none => return n

end Node

end LibPubSub
