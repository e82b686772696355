import LibPubSub.Node

/-! Several processes and the TCP connections between them. An action is one thing
that happens in the network; it makes at most one process react, and what that
process writes is on its way to the other end afterwards. -/

set_option autoImplicit false

namespace LibPubSub

/-- How the machines address each other: at `i` the address `ip` is the machine of
`j` if `names i ip j`, and connections of `i` come to `j` from `source i j`. -/
structure Topology (ι : Type) where
  names : ι → Str → ι → Bool
  source : ι → ι → Str

/-- A connection of the signaling ports with the lines that are under way. -/
structure Link (ι : Type) where
  client : ι
  clientSock : SockPtr
  server : ι
  serverSock : Option SockPtr := none
  toServer : List Str := []
  toClient : List Str := []
  lost : Bool := false

/-- A connection to the data server of a channel. -/
structure DataLink (ι : Type) where
  client : ι
  server : ι
  channel : ChanPtr
  accepted : Bool := false

structure Network (ι : Type) where
  node : ι → Node
  link : Heap (Link ι)
  dataLink : Heap (DataLink ι)

/-- What can happen. `call` is a call of the application at a process. -/
inductive Action (ι : Type) where
  | call (i : ι) (input : Node.Input)
  /-- Socket `k` of `i` gets a connection to the signaling port of `j`. -/
  | connect (i : ι) (k : SockPtr) (j : ι)
  | accept (c : ConnId) (port : Int32)
  /-- The next line of connection `c` reaches end `e`. -/
  | deliver (c : ConnId) (e : End)
  /-- End `e` of connection `c` notices that there is nothing more to receive. -/
  | eof (c : ConnId) (e : End)
  | lose (c : ConnId)
  /-- Data socket `k` of `i` gets a connection to the data server of `channel` at `j`. -/
  | dataConnect (i : ι) (k : SockPtr) (j : ι) (channel : ChanPtr)
  | dataAccept (d : ConnId) (port : Int32)
  deriving DecidableEq

variable {ι : Type}

/-- The lines that the writes on end `e` of connection `c` come out as. -/
def written (sent : List (ConnId × End × Str)) (c : ConnId) (e : End) : List Str :=
  sent.flatMap fun entry => if entry.1 = c ∧ entry.2.1 = e then linesOf entry.2.2 else []

namespace Link

def queue (l : Link ι) : End → List Str
  | .client => l.toClient
  | .server => l.toServer

def setQueue (l : Link ι) (lines : List Str) : End → Link ι
  | .client => { l with toClient := lines }
  | .server => { l with toServer := lines }

/-- The process and the socket at an end. Before `accept()` nobody is at the
server's end. -/
def socket (l : Link ι) : End → Option (ι × SockPtr)
  | .client => some (l.client, l.clientSock)
  | .server => l.serverSock.map (l.server, ·)

/-- A lost connection carries nothing any more. -/
def carry (l : Link ι) (c : ConnId) (sent : List (ConnId × End × Str)) : Link ι :=
  if l.lost then l
  else { l with
    toServer := l.toServer ++ written sent c .client
    toClient := l.toClient ++ written sent c .server }

end Link

namespace Network

variable [DecidableEq ι]

/-- Process `i` has become `n`, and the network carries what it has written. -/
def take (net : Network ι) (i : ι) (n : Node) : Network ι :=
  { net with
    node := Function.update net.node i { n with mesh := { n.mesh with sent := [] } }
    link := ⟨fun c => (net.link c).carry c n.mesh.sent, net.link.next⟩ }

def tell (net : Network ι) (i : ι) (input : Node.Input) : Result (Network ι) := do
  return net.take i (← (net.node i).react input)

def setLink (net : Network ι) (c : ConnId) (change : Link ι → Link ι) : Network ι :=
  { net with link := net.link.modify c change }

def react (topology : Topology ι) (net : Network ι) : Action ι → Result (Network ι)
  | .call i input => net.tell i input
  | .connect i k j =>
      let c := net.link.next
      tell { net with link := net.link.alloc { client := i, clientSock := k, server := j } } i
        (.connected k c)
  | .accept c port =>
      let l := net.link c
      let k := (net.node l.server).mesh.sock.next
      (net.setLink c fun l => { l with serverSock := some k }).tell l.server
        (.accepted (topology.source l.client l.server) port c)
  | .deliver c e =>
      match (net.link c).socket e, (net.link c).queue e with
      | some (i, k), s :: rest => (net.setLink c (·.setQueue rest e)).tell i (.line k s)
      | _, _ => return net
  | .eof c e =>
      match (net.link c).socket e with
      | some (i, k) => net.tell i (.eof k)
      | none => return net
  | .lose c => return net.setLink c fun l => { l with lost := true }
  | .dataConnect i k j channel =>
      let d := net.dataLink.next
      tell { net with
        dataLink := net.dataLink.alloc { client := i, server := j, channel := channel } } i
        (.dataConnected k d)
  | .dataAccept d port =>
      let l := net.dataLink d
      tell { net with dataLink := net.dataLink.modify d fun l => { l with accepted := true } }
        l.server (.dataAccepted l.channel (topology.source l.client l.server) port d)

omit [DecidableEq ι] in
/-- The socket at end `e` of connection `c`. -/
def sockAt (net : Network ι) (c : ConnId) (e : End) : Option (TCPSocket SignalingListener) :=
  ((net.link c).socket e).map fun owner => (net.node owner.1).mesh.sock owner.2

omit [DecidableEq ι] in
/-- The thread at end `e` is in the receive loop of `c`. -/
def Reads (net : Network ι) (c : ConnId) (e : End) : Prop :=
  ∃ sock ∈ net.sockAt c e, sock.thread = .receiving c

omit [DecidableEq ι] in
def OpenAt (net : Network ι) (c : ConnId) (e : End) : Prop :=
  ∃ sock ∈ net.sockAt c e, sock.Holds c

omit [DecidableEq ι] in
def ClosedAt (net : Network ι) (c : ConnId) (e : End) : Prop :=
  ∃ sock ∈ net.sockAt c e, ¬ sock.Holds c

/-- The kernel lets the action happen. Data that has arrived can be received
whatever happens to the connection later. -/
def Enabled (topology : Topology ι) (net : Network ι) : Action ι → Prop
  | .call _ _ => True
  | .connect i k j =>
      ((net.node i).mesh.sock k).Dialling ∧
        topology.names i ((net.node i).mesh.sock k).ip j = true ∧
        ((net.node i).mesh.sock k).port = (net.node j).mesh.signalingPort
  | .accept c _ => c < net.link.next ∧ (net.link c).serverSock = none
  | .deliver c e => net.Reads c e ∧ (net.link c).queue e ≠ []
  | .eof c e =>
      net.Reads c e ∧ ((net.link c).lost = true ∨ ¬ net.OpenAt c e ∨ net.ClosedAt c e.other)
  | .lose c => c < net.link.next
  | .dataConnect i k j channel =>
      ((net.node i).dataSock k).Dialling ∧
        topology.names i ((net.node i).dataSock k).ip j = true ∧
        ((net.node j).chan channel).server.map DataServer.port =
          some ((net.node i).dataSock k).port
  | .dataAccept d _ => d < net.dataLink.next ∧ (net.dataLink d).accepted = false

instance (net : Network ι) (c : ConnId) (e : End) : Decidable (net.Reads c e) :=
  inferInstanceAs (Decidable (∃ sock ∈ net.sockAt c e, sock.thread = .receiving c))

instance (net : Network ι) (c : ConnId) (e : End) : Decidable (net.OpenAt c e) :=
  inferInstanceAs (Decidable (∃ sock ∈ net.sockAt c e, sock.Holds c))

instance (net : Network ι) (c : ConnId) (e : End) : Decidable (net.ClosedAt c e) :=
  inferInstanceAs (Decidable (∃ sock ∈ net.sockAt c e, ¬ sock.Holds c))

instance (topology : Topology ι) (net : Network ι) :
    (action : Action ι) → Decidable (Enabled topology net action)
  | .call _ _ => .isTrue trivial
  | .connect _ _ _ | .dataConnect _ _ _ _ => inferInstanceAs (Decidable (_ ∧ _ ∧ _))
  | .accept _ _ | .dataAccept _ _ => inferInstanceAs (Decidable (_ ∧ _))
  | .deliver _ _ => inferInstanceAs (Decidable (_ ∧ _ ≠ _))
  | .eof _ _ => inferInstanceAs (Decidable (_ ∧ (_ ∨ ¬ _ ∨ _)))
  | .lose _ => inferInstanceAs (Decidable (_ < _))

/-- One action of the network that no process fails in. -/
def Step (topology : Topology ι) (net : Network ι) (action : Action ι) (net' : Network ι) : Prop :=
  Enabled topology net action ∧ react topology net action = .ok net'

end Network

end LibPubSub
