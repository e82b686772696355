import LibPubSub.Framing
import LibPubSub.Library.Heap
import LibPubSub.Socket

/-! `mesh.cpp`: the table of hosts of one process, its signaling sockets and the
handshake. Every function runs under the mesh mutex or on the one thread of
its socket, so it is one step. `Host::on_receive` and `Host::on_close` also
call into the channels and are in `LibPubSub.Node`. -/

set_option autoImplicit false

namespace LibPubSub

abbrev HostPtr := Nat

/-- The fields of `Host` that some function reads. -/
structure Host where
  ip : Str
  port : Int32
  id : Int32 := 0
  bReady : Bool := false
  bConnecting : Bool := false
  bServer : Bool
  socket : Option SockPtr := none
  deriving DecidableEq

/-- The callbacks of a signaling socket: those of `handle_incoming_connection`, or
those that `Host::setSocket` installs. -/
inductive SignalingListener where
  | incoming
  | host (h : HostPtr)
  deriving DecidableEq

/-- The globals of `mesh.cpp`. The vector `hosts` is `me :: peers`: it begins with
the loopback Host and nothing is ever removed from it. `sent` lists the writes,
oldest first, with the connection and the end they were made on. -/
structure Mesh where
  ID : Int32
  signalingPort : Int32
  host : Heap Host
  me : HostPtr
  peers : List HostPtr
  sock : Heap (TCPSocket SignalingListener)
  sent : List (ConnId × End × Str)

namespace Mesh

def hosts (m : Mesh) : List HostPtr :=
  m.me :: m.peers

def setHost (m : Mesh) (h : HostPtr) (change : Host → Host) : Mesh :=
  { m with host := m.host.modify h change }

def setSock (m : Mesh) (k : SockPtr)
    (change : TCPSocket SignalingListener → TCPSocket SignalingListener) : Mesh :=
  { m with sock := m.sock.modify k change }

@[simp] theorem setHost_host (m : Mesh) (h : HostPtr) (change : Host → Host) :
    (m.setHost h change).host = m.host.modify h change := rfl

@[simp] theorem setHost_sock (m : Mesh) (h : HostPtr) (change : Host → Host) :
    (m.setHost h change).sock = m.sock := rfl

@[simp] theorem setHost_peers (m : Mesh) (h : HostPtr) (change : Host → Host) :
    (m.setHost h change).peers = m.peers := rfl

@[simp] theorem setHost_me (m : Mesh) (h : HostPtr) (change : Host → Host) :
    (m.setHost h change).me = m.me := rfl

@[simp] theorem setHost_sent (m : Mesh) (h : HostPtr) (change : Host → Host) :
    (m.setHost h change).sent = m.sent := rfl

@[simp] theorem setSock_sock (m : Mesh) (k : SockPtr)
    (change : TCPSocket SignalingListener → TCPSocket SignalingListener) :
    (m.setSock k change).sock = m.sock.modify k change := rfl

@[simp] theorem setSock_host (m : Mesh) (k : SockPtr)
    (change : TCPSocket SignalingListener → TCPSocket SignalingListener) :
    (m.setSock k change).host = m.host := rfl

@[simp] theorem setSock_peers (m : Mesh) (k : SockPtr)
    (change : TCPSocket SignalingListener → TCPSocket SignalingListener) :
    (m.setSock k change).peers = m.peers := rfl

@[simp] theorem setSock_me (m : Mesh) (k : SockPtr)
    (change : TCPSocket SignalingListener → TCPSocket SignalingListener) :
    (m.setSock k change).me = m.me := rfl

@[simp] theorem setSock_sent (m : Mesh) (k : SockPtr)
    (change : TCPSocket SignalingListener → TCPSocket SignalingListener) :
    (m.setSock k change).sent = m.sent := rfl

theorem setHost_self (m : Mesh) (h : HostPtr) (change : Host → Host) :
    (m.setHost h change).host h = change (m.host h) :=
  m.host.modify_self h change

theorem setHost_of_ne (m : Mesh) {h h' : HostPtr} (change : Host → Host) (other : h' ≠ h) :
    (m.setHost h change).host h' = m.host h' :=
  m.host.modify_of_ne change other

theorem setSock_self (m : Mesh) (k : SockPtr)
    (change : TCPSocket SignalingListener → TCPSocket SignalingListener) :
    (m.setSock k change).sock k = change (m.sock k) :=
  m.sock.modify_self k change

theorem setSock_of_ne (m : Mesh) {k k' : SockPtr}
    (change : TCPSocket SignalingListener → TCPSocket SignalingListener) (other : k' ≠ k) :
    (m.setSock k change).sock k' = m.sock k' :=
  m.sock.modify_of_ne change other

def hasKey (m : Mesh) (ip : Str) (port : Int32) (h : HostPtr) : Bool :=
  (m.host h).ip == ip && (m.host h).port == port

def hasHost (m : Mesh) (ip : Str) (port : Int32) : Bool :=
  m.hosts.any (m.hasKey ip port)

def getHost (m : Mesh) (ip : Str) (port : Int32) : Option HostPtr :=
  m.hosts.find? (m.hasKey ip port)

/-- `TCPSocket::write`. A `send` on a closed or unconnected descriptor fails and
the failure is ignored. -/
def write (m : Mesh) (k : SockPtr) (s : Str) : Mesh :=
  match (m.sock k).thread, (m.sock k).fdOpen with
  | .receiving c, true => { m with sent := m.sent ++ [(c, (m.sock k).side, s)] }
  | _, _ => m

/-- `Host::send`. -/
def send (m : Mesh) (h : HostPtr) (s : Str) : Mesh :=
  match (m.host h).socket with
  | none => m
  | some k => if (m.sock k).bStop then m else m.write k s

/-- `Host::broadcast`: the loop over `hosts[1..]`. -/
def broadcast (m : Mesh) (s : Str) : Mesh :=
  m.peers.foldl (fun m h => if (m.host h).bReady then m.send h s else m) m

/-- `if(ip == "127.0.0.1") ip = "localhost";` -/
def localName (ip : Str) : Str :=
  if ip = "127.0.0.1".toList then "localhost".toList else ip

def idLine (ID port : Int32) : Str :=
  "ID=".toList ++ printInt ID ++ "|PORT=".toList ++ printInt port

def youLine (ip : Str) : Str :=
  "YOU=".toList ++ ip

/-- `Host::welcome`. -/
def welcome (m : Mesh) (h : HostPtr) : Mesh :=
  match (m.host h).socket with
  | none => m
  | some k =>
      if (m.sock k).bStop then m
      else
        let m := m.setHost h fun host => { host with bConnecting := true }
        let m := m.write k (idLine m.ID m.signalingPort)
        m.write k (youLine (localName (m.sock k).ip))

/-- `Host::setSocket`. -/
def setSocket (m : Mesh) (h : HostPtr) (k : SockPtr) : Mesh :=
  let m := m.setHost h fun host => { host with socket := some k }
  let m := m.setSock k fun s => { s with bLinebuffer := true, listeners := some (.host h) }
  if (m.host h).bServer then m.welcome h else m

/-- `hosts.push_back` of a Host that has just been allocated at `h`. -/
def pushUnlessKnown (m : Mesh) (known : Bool) (h : HostPtr) : Mesh :=
  if known then m else { m with peers := m.peers ++ [h] }

/-- `Host(ip, port)`: connect to a remote Host whose name can be resolved. What is left
behind by the exception of any other is the subject of `newHostLocking`. -/
def newHost (m : Mesh) (ip : Str) (port : Int32) : Mesh :=
  let h := m.host.next
  let known := m.hasHost ip port
  let m := { m with host := m.host.alloc { ip := ip, port := port, bServer := false } }
  let m := m.pushUnlessKnown known h
  let k := m.sock.next
  let m := { m with sock := m.sock.alloc {} }
  let m := m.setSocket h k
  m.setSock k (·.connect ip port)

/-- `Host(ip, port, socket)`: add a Host from an incoming connection. -/
def newHostFrom (m : Mesh) (ip : Str) (port : Int32) (k : SockPtr) : Mesh :=
  let h := m.host.next
  let known := m.hasHost ip port
  let m := { m with host := m.host.alloc { ip := ip, port := port, bServer := true } }
  let m := m.pushUnlessKnown known h
  m.setSocket h k

/-- `add_host(ip, port)`, after `init()`, where the constructor of the Host does not throw. -/
def addHost (m : Mesh) (ip : Str) (port : Int32) : Mesh :=
  if m.hasHost ip port then m else m.newHost ip port

/-- The two `atoi`s on an `ID=` line, in both of its decoders. -/
def decodeId (s : Str) : Int32 × Int32 :=
  (atoi (strAfter (strBefore s ['|']) ['=']), atoi (strAfter (strAfter s ['|']) ['=']))

/-- `if(h->socket) { h->socket->remove_listeners(); h->socket->close(true); }` -/
def dropSocket (m : Mesh) (h : HostPtr) : Mesh :=
  match (m.host h).socket with
  | none => m
  | some old => m.setSock old fun s => (s.removeListeners).close true

/-- The branch of `handle_incoming_connection` that moves an existing entry to
the new socket. -/
def adoptSocket (m : Mesh) (h : HostPtr) (k : SockPtr) : Mesh :=
  let m := m.dropSocket h
  let m := m.setHost h fun host => { host with bServer := true }
  let m := m.setSocket h k
  if (m.host h).bReady then m else m.send h "CONNECTED".toList

/-- `cbRecv` of a connection that `handle_incoming_connection` has taken. -/
def handleIncomingConnection (m : Mesh) (k : SockPtr) (s : Str) : Mesh :=
  if strStartsWith s "ID=".toList then
    let (id, port) := decodeId s
    let ip := localName (m.sock k).ip
    match m.getHost ip port with
    | none => (m.newHostFrom ip port k).send m.host.next "CONNECTED".toList
    | some h =>
        if m.ID < id || (m.host h).bServer then m.adoptSocket h k
        else if id < m.ID then m.setSock k (·.close true)
        else m
  else m

/-- `Host=ip:port` and a newline. -/
def hostLine (host : Host) : Str :=
  "Host=".toList ++ host.ip ++ ":".toList ++ printInt host.port ++ ['\n']

/-- `broadcast_hosts`. -/
def broadcastHosts (m : Mesh) : Mesh :=
  m.broadcast ((m.hosts.filter fun h => (m.host h).bReady).flatMap fun h => hostLine (m.host h))

/-- `Host::tostring`. -/
def hostString (host : Host) : Str :=
  host.ip ++ ":".toList ++ printInt host.port

/-- `Host::is_local`. -/
def isLocal (m : Mesh) (h : HostPtr) : Bool :=
  h == m.me || (m.host h).ip == "localhost".toList || (m.host h).ip == "0.0.0.0".toList ||
    (m.host h).ip == (m.host m.me).ip

/-- The state behind `init()`: one loopback Host and no socket. -/
def init (ID port : Int32) : Mesh where
  ID := ID
  signalingPort := port
  host := (Heap.empty { ip := [], port := 0, bServer := false }).alloc
    { ip := "localhost".toList, port := port, bServer := true }
  me := 0
  peers := []
  sock := Heap.empty {}
  sent := []

end Mesh

end LibPubSub
