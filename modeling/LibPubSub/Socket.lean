import LibPubSub.Utils

/-! `TCPSocket` as its owner sees it: the flags, whose callbacks are installed,
and where its thread stands in `TCPSocket::run`. Bytes travel between the two
ends of a connection; a connection is known by a number. -/

set_option autoImplicit false

namespace LibPubSub

abbrev ConnId := Nat
abbrev SockPtr := Nat

/-- The end that called `connect()` and the end that `accept()` returned. -/
inductive End where
  | client
  | server
  deriving DecidableEq

def End.other : End → End
  | .client => .server
  | .server => .client

@[simp] theorem End.other_other (e : End) : e.other.other = e := by
  cases e <;> rfl

theorem End.eq_or_eq_other (e e' : End) : e' = e ∨ e' = e.other := by
  cases e <;> cases e' <;> simp [End.other]

theorem End.other_ne (e : End) : e.other ≠ e := by
  cases e <;> exact nofun

/-- Where the thread of `TCPSocket::run` stands. -/
inductive Thread where
  | idle
  | connecting
  | receiving (c : ConnId)
  | ended
  deriving DecidableEq

/-- `listeners` says whose `on_open`, `on_close` and `cbRecv` are installed: the
three are set together and `remove_listeners` clears them together. `fdOpen`
says whether the stored descriptor is still open. The defaults are those of
the constructor `TCPSocket()`. -/
structure TCPSocket (Listener : Type) where
  ip : Str := []
  port : Int32 := 0
  isClient : Bool := true
  bStop : Bool := true
  bLinebuffer : Bool := false
  bReconnect : Bool := true
  listeners : Option Listener := none
  thread : Thread := .idle
  fdOpen : Bool := false
  deriving DecidableEq

namespace TCPSocket

variable {Listener : Type}

/-- `connect(ip, port)`: a new descriptor, and the thread starts dialling. -/
def connect (ip : Str) (port : Int32) (s : TCPSocket Listener) : TCPSocket Listener :=
  { s with ip := ip, port := port, isClient := true, fdOpen := true, thread := .connecting }

/-- `::connect` has returned 0 and the thread has cleared `bStop`. -/
def connected (c : ConnId) (s : TCPSocket Listener) : TCPSocket Listener :=
  { s with bStop := false, thread := .receiving c }

/-- The socket that `TCPServer::run` makes of an accepted descriptor, running. -/
def accepted (ip : Str) (port : Int32) (c : ConnId) (listener : Listener) (bLinebuffer : Bool) :
    TCPSocket Listener :=
  { ip := ip, port := port, isClient := false, bStop := false, bLinebuffer := bLinebuffer,
    listeners := some listener, thread := .receiving c, fdOpen := true }

def close (bDontReconnect : Bool) (s : TCPSocket Listener) : TCPSocket Listener :=
  { s with
    bReconnect := if bDontReconnect then false else s.bReconnect
    bStop := true
    fdOpen := false }

def removeListeners (s : TCPSocket Listener) : TCPSocket Listener :=
  { s with listeners := none }

/-- The `::close(fd)` behind the receive loop. -/
def closeFd (s : TCPSocket Listener) : TCPSocket Listener :=
  { s with fdOpen := false }

/-- The end of the `do` body and the test of the `while`: a client that may
reconnect takes a new descriptor and dials again, any other thread ends. -/
def reconnectOrEnd (s : TCPSocket Listener) : TCPSocket Listener :=
  if s.bReconnect && s.isClient then { s with fdOpen := true, thread := .connecting }
  else { s with thread := .ended }

theorem reconnectOrEnd_listeners (s : TCPSocket Listener) :
    s.reconnectOrEnd.listeners = s.listeners := by
  unfold reconnectOrEnd
  split <;> rfl

/-- The end of the connection that the socket holds. -/
def side (s : TCPSocket Listener) : End :=
  if s.isClient then .client else .server

/-- The socket is an open end of connection `c`. -/
def Holds (s : TCPSocket Listener) (c : ConnId) : Prop :=
  s.thread = .receiving c ∧ s.fdOpen = true

/-- The thread is in the connect loop, and nobody has closed its descriptor. What becomes of a
socket that is closed while it dials depends on the numbers of the descriptors, which are in
`Numbered`. -/
def Dialling (s : TCPSocket Listener) : Prop :=
  s.thread = .connecting ∧ s.fdOpen = true

instance (s : TCPSocket Listener) (c : ConnId) : Decidable (s.Holds c) :=
  inferInstanceAs (Decidable (_ ∧ _))

instance (s : TCPSocket Listener) : Decidable s.Dialling :=
  inferInstanceAs (Decidable (_ ∧ _))

end TCPSocket

end LibPubSub
