import LibPubSub.Channel

/-! One process reacting to what happens to it: the calls of its application, the
lines its signaling sockets receive, and the progress of its sockets' threads.
`react` is the step function that every law about a single node is about. -/

set_option autoImplicit false

namespace LibPubSub

namespace Node

/-- `digest_message`. -/
def digestMessage (n : Node) (h : HostPtr) (s : Str) : Result Node :=
  if strStartsWith s "PUBLISH=".toList then n.applyPublishStatement h (strAfter s ['='])
  else if strStartsWith s "UNPUBLISH=".toList then n.applyUnpublishStatement h (strAfter s ['='])
  else if strStartsWith s "CONNECT_TCP=".toList then return n.makeOfferTcp h (strAfter s ['='])
  else if strStartsWith s "CONNECT_SHM=".toList then return n.makeOfferShm h (strAfter s ['='])
  else if strStartsWith s "OFFER_TCP=".toList then n.answerOfferTcp h (strAfter s ['='])
  else if strStartsWith s "OFFER_SHM=".toList then n.answerOfferShm h (strAfter s ['='])
  else return n

/-- The `ID=` branch of `Host::on_receive`. -/
def receiveId (m : Mesh) (h : HostPtr) (s : Str) : Mesh :=
  (m.setHost h fun host => { host with id := (Mesh.decodeId s).1, port := (Mesh.decodeId s).2 }).send
    h "CONNECTED".toList

/-- The `YOU=` branch: the loopback Host takes the name the peer sees. -/
def receiveYou (m : Mesh) (s : Str) : Mesh :=
  m.setHost m.me fun host => { host with ip := strAfter s ['='], bReady := true }

/-- The `CONNECTED` branch up to `on_open()`. -/
def receiveConnected (m : Mesh) (h : HostPtr) : Mesh :=
  let m := m.setHost h fun host => { host with bReady := true }
  m.pushUnlessKnown (m.hasHost (m.host h).ip (m.host h).port) h

/-- The `Host=` branch. -/
def receiveHost (m : Mesh) (s : Str) : Mesh :=
  let ss := strAfter s ['=']
  m.addHost (strBefore ss [':']) (atoi (strAfter ss [':']))

/-- `Host::on_receive`. -/
def onReceive (n : Node) (h : HostPtr) (s : Str) : Result Node :=
  if strStartsWith s "ID=".toList then
    return { n with mesh := receiveId n.mesh h s }
  else if strStartsWith s "YOU=".toList then
    return { n with mesh := receiveYou n.mesh s }
  else if s = "CONNECTED".toList then
    let n := { n with mesh := receiveConnected n.mesh h }
    let n := n.broadcastPublishedChannels
    return { n with mesh := n.mesh.broadcastHosts }
  else if !(n.mesh.host h).bReady then return n
  else if strStartsWith s "Host=".toList then
    return { n with mesh := receiveHost n.mesh s }
  else n.digestMessage h s

/-- `Host::on_close`. -/
def hostOnClose (n : Node) (h : HostPtr) : Result Node :=
  let n := { n with mesh := n.mesh.setHost h fun host => { host with bReady := false } }
  match (n.mesh.host h).socket with
  | none => .error .nullSocket
  | some k => Node.closeAllChannels { n with mesh := n.mesh.setSock k (·.close false) } h

/-- One line of the receive loop of signaling socket `k`. -/
def line (n : Node) (k : SockPtr) (s : Str) : Result Node :=
  match (n.mesh.sock k).listeners with
  | none => return n
  | some .incoming => return { n with mesh := n.mesh.handleIncomingConnection k s }
  | some (.host h) => n.onReceive h s

/-- `if(on_close) on_close();` of signaling socket `k`. -/
def signalingClosed (n : Node) (k : SockPtr) : Result Node :=
  match (n.mesh.sock k).listeners with
  | some (.host h) => n.hostOnClose h
  | _ => return n

/-- `recv()` has returned no data on signaling socket `k`: the rest of the `do`
body of `TCPSocket::run` and the test of its `while`. -/
def eof (n : Node) (k : SockPtr) : Result Node := do
  let n := { n with mesh := n.mesh.setSock k (·.closeFd) }
  let n ← n.signalingClosed k
  return { n with mesh := n.mesh.setSock k (·.reconnectOrEnd) }

/-- `connect()` of signaling socket `k` has succeeded. -/
def connected (n : Node) (k : SockPtr) (c : ConnId) : Node :=
  let m := n.mesh.setSock k (·.connected c)
  match (m.sock k).listeners with
  | some (.host h) => { n with mesh := m.welcome h }
  | _ => { n with mesh := m }

/-- The signaling server has accepted a connection from `ip`. -/
def accepted (n : Node) (ip : Str) (port : Int32) (c : ConnId) : Node :=
  { n with mesh :=
    { n.mesh with sock := n.mesh.sock.alloc (.accepted ip port c .incoming true) } }

/-- `connect()` of data socket `k` has succeeded. -/
def dataConnected (n : Node) (k : SockPtr) (c : ConnId) : Result Node :=
  let n := n.setDataSock k (·.connected c)
  match (n.dataSock k).listeners with
  | some s => n.subOnOpen s
  | none => return n

/-- `if(on_close) on_close();` of data socket `k`. -/
def dataClosed (n : Node) (k : SockPtr) : Result Node :=
  match (n.dataSock k).listeners with
  | some s => n.subOnClose s
  | none => return n

/-- `recv()` has returned no data on data socket `k`: `::close(fd)` and `on_close`, between which
no other thread runs. -/
def dataEof (n : Node) (k : SockPtr) : Result Node := do
  let n ← (n.setDataSock k (·.closeFd)).dataClosed k
  return n.setDataSock k (·.reconnectOrEnd)

/-- `publish(name)` of the public API. -/
def publish (n : Node) (name : Str) : Result Node :=
  let (n, c) := n.getOrCreateChannel name
  n.publishChannel c

/-- `ChannelImpl::unpublish` on the channel of that name, if there is one. -/
def unpublish (n : Node) (name : Str) : Result Node :=
  match n.getChannel name with
  | some c => n.unpublishChannel c
  | none => return n

/-- `subscribe(name)` of the public API. -/
def subscribe (n : Node) (name : Str) : Result Node :=
  let (n, c) := n.getOrCreateChannel name
  n.subscribeChannel c

/-- What can happen to a process. `Channel::alloc` is left out: the `SHM::create` that it calls
is not in the source. -/
inductive Input where
  | addHost (ip : Str) (port : Int32)
  | publish (name : Str)
  | unpublish (name : Str)
  | subscribe (name : Str)
  /-- `on_host_open` of some other host: the published channels are announced. -/
  | announce
  | connected (k : SockPtr) (c : ConnId)
  | accepted (ip : Str) (port : Int32) (c : ConnId)
  | line (k : SockPtr) (s : Str)
  | eof (k : SockPtr)
  | dataConnected (k : SockPtr) (c : ConnId)
  | dataAccepted (channel : ChanPtr) (ip : Str) (port : Int32) (c : ConnId)
  | dataEof (k : SockPtr)
  deriving DecidableEq

def react (n : Node) : Input → Result Node
  | .addHost ip port => return { n with mesh := n.mesh.addHost ip port }
  | .publish name => n.publish name
  | .unpublish name => n.unpublish name
  | .subscribe name => n.subscribe name
  | .announce => return n.broadcastPublishedChannels
  | .connected k c => return n.connected k c
  | .accepted ip port c => return n.accepted ip port c
  | .line k s => n.line k s
  | .eof k => n.eof k
  | .dataConnected k c => n.dataConnected k c
  | .dataAccepted channel ip port c => return n.acceptSubscriptor channel ip port c
  | .dataEof k => n.dataEof k

/-- A step of one node that returns normally. What throws is no step. -/
def Step (n : Node) (input : Input) (n' : Node) : Prop :=
  n.react input = .ok n'

/-- The process behind `init()`. -/
def init (ID port : Int32) (bindPort : ChanPtr → DataPort) : Node where
  mesh := Mesh.init ID port
  chan := Heap.empty { name := [] }
  sub := Heap.empty none
  dataSock := Heap.empty {}
  bindPort := bindPort
  log := []

end Node

end LibPubSub
