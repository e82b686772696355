import LibPubSub.Effects

/-! Which signaling socket belongs to which Host. The functions of `mesh.cpp` are
seen as a few operations on this relation, which keeps it one to one. -/

set_option autoImplicit false

namespace LibPubSub

/-- What `mesh.cpp` knows about who talks to whom. -/
@[ext] structure Wiring where
  socket : HostPtr → Option SockPtr
  ready : HostPtr → Bool
  listeners : SockPtr → Option SignalingListener
  thread : SockPtr → Thread
  hosts : Nat
  socks : Nat

def Mesh.wiring (m : Mesh) : Wiring where
  socket h := (m.host h).socket
  ready h := (m.host h).bReady
  listeners k := (m.sock k).listeners
  thread k := (m.sock k).thread
  hosts := m.host.next
  socks := m.sock.next

namespace Wiring

/-! ## Operations -/

def addHost (w : Wiring) : Wiring :=
  { w with
    socket := Function.update w.socket w.hosts none
    ready := Function.update w.ready w.hosts false
    hosts := w.hosts + 1 }

def addSock (w : Wiring) (listener : Option SignalingListener) (thread : Thread) : Wiring :=
  { w with
    listeners := Function.update w.listeners w.socks listener
    thread := Function.update w.thread w.socks thread
    socks := w.socks + 1 }

def attach (w : Wiring) (h : HostPtr) (k : SockPtr) : Wiring :=
  { w with
    socket := Function.update w.socket h (some k)
    listeners := Function.update w.listeners k (some (.host h)) }

def release (w : Wiring) (h : HostPtr) : Wiring :=
  match w.socket h with
  | none => w
  | some k =>
      { w with
        socket := Function.update w.socket h none
        listeners := Function.update w.listeners k none }

def setReady (w : Wiring) (h : HostPtr) (ready : Bool) : Wiring :=
  { w with ready := Function.update w.ready h ready }

def setThread (w : Wiring) (k : SockPtr) (thread : Thread) : Wiring :=
  { w with thread := Function.update w.thread k thread }

/-! ## The relation is one to one -/

/-- A Host and its socket point to each other, no two sockets are ends of one
connection, and nothing points to what has not been allocated. -/
structure Wired (w : Wiring) : Prop where
  owned : ∀ h k, w.socket h = some k ↔ w.listeners k = some (.host h)
  unique : ∀ k k' c, w.thread k = .receiving c → w.thread k' = .receiving c → k = k'
  hostBound : ∀ h, w.hosts ≤ h → w.socket h = none
  sockBound : ∀ k, w.socks ≤ k → w.listeners k = none ∧ w.thread k = .idle

/-- `h` is ready on connection `c`. -/
def Serves (w : Wiring) (h : HostPtr) (c : ConnId) : Prop :=
  w.ready h = true ∧ ∃ k, w.socket h = some k ∧ w.thread k = .receiving c

variable {w : Wiring}

theorem Wired.addHost (wired : Wired w) : Wired w.addHost := by
  have same : w.addHost.socket = w.socket := by
    funext h
    simp only [Wiring.addHost, Function.update_apply]
    split
    · next fresh => rw [fresh, wired.hostBound _ (Nat.le_refl _)]
    · rfl
  refine ⟨?_, wired.unique, ?_, wired.sockBound⟩
  · intro h k
    rw [same]
    exact wired.owned h k
  · intro h outside
    rw [same]
    exact wired.hostBound h (Nat.le_of_succ_le outside)

theorem Wired.addSock {listener : Option SignalingListener} {thread : Thread} (wired : Wired w)
    (nobodys : ∀ h, listener ≠ some (.host h))
    (fresh : ∀ k c, thread = .receiving c → w.thread k ≠ .receiving c) :
    Wired (w.addSock listener thread) := by
  refine ⟨?_, ?_, wired.hostBound, ?_⟩
  · intro h k
    simp only [Wiring.addSock, Function.update_apply]
    split
    · next new =>
      rw [wired.owned h k, new, (wired.sockBound _ (Nat.le_refl _)).1]
      exact iff_of_false nofun (nobodys h)
    · exact wired.owned h k
  · intro k k' c
    simp only [Wiring.addSock, Function.update_apply]
    split
    · next new =>
      split
      · next new' => exact fun _ _ => new.trans new'.symm
      · exact fun here there => absurd there (fresh k' c here)
    · split
      · exact fun here there => absurd here (fresh k c there)
      · exact wired.unique k k' c
  · intro k outside
    have other : k ≠ w.socks := Nat.ne_of_gt outside
    simp only [Wiring.addSock, Function.update_apply, other, ↓reduceIte]
    exact wired.sockBound k (Nat.le_of_succ_le outside)

theorem Wired.attach {h : HostPtr} {k : SockPtr} (wired : Wired w) (free : w.socket h = none)
    (nobodys : ∀ h, w.listeners k ≠ some (.host h)) (hostKnown : h < w.hosts)
    (sockKnown : k < w.socks) : Wired (w.attach h k) := by
  refine ⟨?_, wired.unique, ?_, ?_⟩
  · intro h' k'
    simp only [Wiring.attach, Function.update_apply]
    by_cases sameHost : h' = h
    · by_cases sameSock : k' = k
      · simp only [sameHost, sameSock, ↓reduceIte]
      · have away : w.listeners k' ≠ some (.host h) := by
          rw [Ne, ← wired.owned h k', free]
          exact nofun
        simp only [sameHost, sameSock, ↓reduceIte, Option.some.injEq, Ne.symm sameSock, false_iff]
        exact away
    · by_cases sameSock : k' = k
      · have away : w.socket h' ≠ some k := by
          rw [Ne, wired.owned h' k]
          exact nobodys h'
        simp only [sameHost, sameSock, ↓reduceIte, away, Option.some.injEq,
          SignalingListener.host.injEq, Ne.symm sameHost]
      · simp only [sameHost, sameSock, ↓reduceIte]
        exact wired.owned h' k'
  · intro h' outside
    have other : h' ≠ h := Nat.ne_of_gt (Nat.lt_of_lt_of_le hostKnown outside)
    simp only [Wiring.attach, Function.update_apply, other, ↓reduceIte]
    exact wired.hostBound h' outside
  · intro k' outside
    have other : k' ≠ k := Nat.ne_of_gt (Nat.lt_of_lt_of_le sockKnown outside)
    simp only [Wiring.attach, Function.update_apply, other, ↓reduceIte]
    exact wired.sockBound k' outside

theorem Wired.release {h : HostPtr} (wired : Wired w) : Wired (w.release h) := by
  unfold Wiring.release
  cases owns : w.socket h with
  | none => exact wired
  | some k =>
      refine ⟨?_, wired.unique, ?_, ?_⟩
      · intro h' k'
        simp only [Function.update_apply]
        by_cases sameHost : h' = h
        · by_cases sameSock : k' = k
          · simp only [sameHost, sameSock, ↓reduceIte, reduceCtorEq]
          · have away : w.listeners k' ≠ some (.host h) := by
              rw [Ne, ← wired.owned h k', owns, Option.some.injEq]
              exact fun same => sameSock same.symm
            simp only [sameHost, sameSock, ↓reduceIte, reduceCtorEq, false_iff]
            exact away
        · by_cases sameSock : k' = k
          · have away : w.socket h' ≠ some k := by
              rw [Ne, wired.owned h' k, (wired.owned h k).mp owns, Option.some.injEq,
                SignalingListener.host.injEq]
              exact fun same => sameHost same.symm
            simp only [sameHost, sameSock, ↓reduceIte, away, reduceCtorEq]
          · simp only [sameHost, sameSock, ↓reduceIte]
            exact wired.owned h' k'
      · intro h' outside
        simp only [Function.update_apply]
        split
        · rfl
        · exact wired.hostBound h' outside
      · intro k' outside
        simp only [Function.update_apply]
        split
        · exact ⟨rfl, (wired.sockBound k' outside).2⟩
        · exact wired.sockBound k' outside

theorem release_socket (w : Wiring) (h : HostPtr) : (w.release h).socket h = none := by
  unfold release
  split
  · next free => exact free
  · simp only [Function.update_self]

theorem Wired.setReady {h : HostPtr} {ready : Bool} (wired : Wired w) : Wired (w.setReady h ready) :=
  ⟨wired.owned, wired.unique, wired.hostBound, wired.sockBound⟩

theorem Wired.setThread {k : SockPtr} {thread : Thread} (wired : Wired w) (known : k < w.socks)
    (fresh : ∀ k' c, thread = .receiving c → w.thread k' ≠ .receiving c) :
    Wired (w.setThread k thread) := by
  refine ⟨wired.owned, ?_, wired.hostBound, ?_⟩
  · intro j j' c
    simp only [Wiring.setThread, Function.update_apply]
    split
    · next same =>
      split
      · next same' => exact fun _ _ => same.trans same'.symm
      · exact fun here there => absurd there (fresh j' c here)
    · split
      · exact fun here there => absurd here (fresh j c there)
      · exact wired.unique j j' c
  · intro j outside
    have other : j ≠ k := Nat.ne_of_gt (Nat.lt_of_lt_of_le known outside)
    simp only [Wiring.setThread, Function.update_apply, other, ↓reduceIte]
    exact wired.sockBound j outside

/-! ## Who goes on serving -/

variable {h : HostPtr} {c : ConnId}

theorem Serves.known (wired : Wired w) (serves : Serves w h c) : h < w.hosts := by
  obtain ⟨_, k, owns, _⟩ := serves
  by_contra outside
  rw [wired.hostBound h (Nat.not_lt.mp outside)] at owns
  cases owns

theorem Serves.addHost (wired : Wired w) (serves : Serves w h c) : Serves w.addHost h c := by
  have old : h ≠ w.hosts := Nat.ne_of_lt (serves.known wired)
  obtain ⟨ready, k, owns, receiving⟩ := serves
  refine ⟨?_, k, ?_, receiving⟩
  · simpa only [Wiring.addHost, Function.update_apply, old, ↓reduceIte] using ready
  · simpa only [Wiring.addHost, Function.update_apply, old, ↓reduceIte] using owns

theorem Serves.addSock {listener : Option SignalingListener} {thread : Thread} (wired : Wired w)
    (serves : Serves w h c) : Serves (w.addSock listener thread) h c := by
  obtain ⟨ready, k, owns, receiving⟩ := serves
  have old : k ≠ w.socks := by
    rintro rfl
    rw [(wired.sockBound _ (Nat.le_refl _)).2] at receiving
    cases receiving
  refine ⟨ready, k, owns, ?_⟩
  simpa only [Wiring.addSock, Function.update_apply, old, ↓reduceIte] using receiving

theorem Serves.attach {h' : HostPtr} {k : SockPtr} (other : h ≠ h') (serves : Serves w h c) :
    Serves (w.attach h' k) h c := by
  obtain ⟨ready, k', owns, receiving⟩ := serves
  refine ⟨ready, k', ?_, receiving⟩
  simpa only [Wiring.attach, Function.update_apply, other, ↓reduceIte] using owns

theorem Serves.release {h' : HostPtr} (other : h ≠ h') (serves : Serves w h c) :
    Serves (w.release h') h c := by
  unfold Wiring.release
  split
  · exact serves
  · obtain ⟨ready, k', owns, receiving⟩ := serves
    refine ⟨ready, k', ?_, receiving⟩
    simpa only [Function.update_apply, other, ↓reduceIte] using owns

theorem Serves.becomesReady {h' : HostPtr} (serves : Serves w h c) :
    Serves (w.setReady h' true) h c := by
  obtain ⟨ready, attached⟩ := serves
  refine ⟨?_, attached⟩
  simp only [Wiring.setReady, Function.update_apply]
  split
  · rfl
  · exact ready

theorem Serves.setReady {h' : HostPtr} {ready : Bool} (other : h ≠ h') (serves : Serves w h c) :
    Serves (w.setReady h' ready) h c := by
  obtain ⟨isReady, attached⟩ := serves
  refine ⟨?_, attached⟩
  simpa only [Wiring.setReady, Function.update_apply, other, ↓reduceIte] using isReady

theorem Serves.setThread {k : SockPtr} {thread : Thread} (serves : Serves w h c)
    (other : w.socket h ≠ some k) : Serves (w.setThread k thread) h c := by
  obtain ⟨ready, k', owns, receiving⟩ := serves
  have different : k' ≠ k := fun same => other (same ▸ owns)
  refine ⟨ready, k', owns, ?_⟩
  simpa only [Wiring.setThread, Function.update_apply, different, ↓reduceIte] using receiving

end Wiring

/-! ## The functions of the mesh -/

namespace Mesh

theorem wiring_of_table {m m' : Mesh} (same : m'.table = m.table) : m'.wiring = m.wiring := by
  unfold wiring
  rw [host_of_table same, sock_of_table same]

theorem wiring_setHost (m : Mesh) (h : HostPtr) (change : Host → Host)
    (socket : ∀ host, (change host).socket = host.socket)
    (ready : ∀ host, (change host).bReady = host.bReady) :
    (m.setHost h change).wiring = m.wiring := by
  ext other
  · simp only [wiring, setHost_host, Heap.modify_apply]
    split
    · next same => rw [same, socket]
    · rfl
  · simp only [wiring, setHost_host, Heap.modify_apply]
    split
    · next same => rw [same, ready]
    · rfl
  · rfl
  · rfl
  · rfl
  · rfl

theorem wiring_setReady (m : Mesh) (h : HostPtr) (change : Host → Host) {ready : Bool}
    (socket : ∀ host, (change host).socket = host.socket)
    (becomes : ∀ host, (change host).bReady = ready) :
    (m.setHost h change).wiring = m.wiring.setReady h ready := by
  ext other
  · simp only [wiring, Wiring.setReady, setHost_host, Heap.modify_apply]
    split
    · next same => rw [same, socket]
    · rfl
  · simp only [wiring, Wiring.setReady, setHost_host, Heap.modify_apply, Function.update_apply]
    split
    · exact becomes _
    · rfl
  · rfl
  · rfl
  · rfl
  · rfl

theorem wiring_setSock (m : Mesh) (k : SockPtr)
    (change : TCPSocket SignalingListener → TCPSocket SignalingListener)
    (listeners : ∀ sock, (change sock).listeners = sock.listeners)
    (thread : ∀ sock, (change sock).thread = sock.thread) :
    (m.setSock k change).wiring = m.wiring := by
  ext other
  · rfl
  · rfl
  · simp only [wiring, setSock_sock, Heap.modify_apply]
    split
    · next same => rw [same, listeners]
    · rfl
  · simp only [wiring, setSock_sock, Heap.modify_apply]
    split
    · next same => rw [same, thread]
    · rfl
  · rfl
  · rfl

theorem wiring_setThread (m : Mesh) (k : SockPtr)
    (change : TCPSocket SignalingListener → TCPSocket SignalingListener)
    (listeners : ∀ sock, (change sock).listeners = sock.listeners) :
    (m.setSock k change).wiring = m.wiring.setThread k (change (m.sock k)).thread := by
  ext other
  · rfl
  · rfl
  · simp only [wiring, Wiring.setThread, setSock_sock, Heap.modify_apply]
    split
    · next same => rw [same, listeners]
    · rfl
  · simp only [wiring, Wiring.setThread, setSock_sock, Heap.modify_apply, Function.update_apply]
    split <;> rfl
  · rfl
  · rfl

theorem wiring_send (m : Mesh) (h : HostPtr) (s : Str) : (m.send h s).wiring = m.wiring :=
  wiring_of_table (m.table_send h s)

theorem wiring_pushUnlessKnown (m : Mesh) (known : Bool) (h : HostPtr) :
    (m.pushUnlessKnown known h).wiring = m.wiring := by
  cases known <;> rfl

theorem wiring_welcome (m : Mesh) (h : HostPtr) : (m.welcome h).wiring = m.wiring := by
  unfold welcome
  split
  · rfl
  · split
    · rfl
    · refine (wiring_of_table (table_write _ _ _)).trans ?_
      refine (wiring_of_table (table_write _ _ _)).trans ?_
      exact m.wiring_setHost h _ (fun _ => rfl) (fun _ => rfl)

theorem wiring_setSocket (m : Mesh) (h : HostPtr) (k : SockPtr) :
    (m.setSocket h k).wiring = m.wiring.attach h k := by
  have attached : ((m.setHost h fun host => { host with socket := some k }).setSock k fun s =>
      { s with bLinebuffer := true, listeners := some (.host h) }).wiring = m.wiring.attach h k := by
    ext other
    · simp only [wiring, Wiring.attach, setSock_host, setHost_host, Heap.modify_apply,
        Function.update_apply]
      split <;> rfl
    · simp only [wiring, Wiring.attach, setSock_host, setHost_host, Heap.modify_apply]
      split
      · next same => rw [same]
      · rfl
    · simp only [wiring, Wiring.attach, setSock_sock, setHost_sock, Heap.modify_apply,
        Function.update_apply]
      split <;> rfl
    · simp only [wiring, Wiring.attach, setSock_sock, setHost_sock, Heap.modify_apply]
      split
      · next same => rw [same]
      · rfl
    · rfl
    · rfl
  unfold setSocket
  dsimp only
  split
  · exact (wiring_welcome _ h).trans attached
  · exact attached

theorem wiring_allocHost (m : Mesh) (ip : Str) (port : Int32) (bServer : Bool) :
    ({ m with host := m.host.alloc { ip := ip, port := port, bServer := bServer } } : Mesh).wiring =
      m.wiring.addHost := by
  ext other
  · simp only [wiring, Wiring.addHost, Heap.alloc_apply, Function.update_apply]
    split <;> rfl
  · simp only [wiring, Wiring.addHost, Heap.alloc_apply, Function.update_apply]
    split <;> rfl
  · rfl
  · rfl
  · rfl
  · rfl

theorem wiring_allocSock (m : Mesh) (sock : TCPSocket SignalingListener) :
    ({ m with sock := m.sock.alloc sock } : Mesh).wiring =
      m.wiring.addSock sock.listeners sock.thread := by
  ext other
  · rfl
  · rfl
  · simp only [wiring, Wiring.addSock, Heap.alloc_apply, Function.update_apply]
    split <;> rfl
  · simp only [wiring, Wiring.addSock, Heap.alloc_apply, Function.update_apply]
    split <;> rfl
  · rfl
  · rfl

theorem wiring_newHost (m : Mesh) (ip : Str) (port : Int32) :
    (m.newHost ip port).wiring =
      ((m.wiring.addHost.addSock none .idle).attach m.host.next m.sock.next).setThread
        m.sock.next .connecting := by
  unfold newHost
  dsimp only
  refine (wiring_setThread _ _ _ ?_).trans ?_
  · exact fun _ => rfl
  · rw [wiring_setSocket, wiring_allocSock, wiring_pushUnlessKnown, wiring_allocHost]
    have sameNext : ∀ (m : Mesh) known h, (m.pushUnlessKnown known h).sock = m.sock := by
      intro m known h
      cases known <;> rfl
    rw [sameNext]
    rfl

theorem wiring_newHostFrom (m : Mesh) (ip : Str) (port : Int32) (k : SockPtr) :
    (m.newHostFrom ip port k).wiring = m.wiring.addHost.attach m.host.next k := by
  unfold newHostFrom
  dsimp only
  rw [wiring_setSocket, wiring_pushUnlessKnown, wiring_allocHost]

theorem wiring_adoptSocket (m : Mesh) (h : HostPtr) (k : SockPtr) :
    (m.adoptSocket h k).wiring = (m.wiring.release h).attach h k := by
  have same : m.wiring.socket h = (m.host h).socket := rfl
  have dropped : (m.dropSocket h).wiring.attach h k = (m.wiring.release h).attach h k := by
    cases owns : (m.host h).socket with
    | none => simp only [dropSocket, Wiring.release, same, owns]
    | some old =>
        simp only [dropSocket, Wiring.release, same, owns]
        ext other : 2
        · simp only [wiring, Wiring.attach, Function.update_apply, setSock_host]
          split <;> rfl
        · rfl
        · simp only [wiring, Wiring.attach, Function.update_apply, setSock_sock, Heap.modify_apply,
            TCPSocket.close, TCPSocket.removeListeners]
          split
          · rfl
          · split <;> rfl
        · simp only [wiring, Wiring.attach, setSock_sock, Heap.modify_apply]
          split
          · next isOld => rw [isOld]; rfl
          · rfl
        · rfl
        · rfl
  unfold adoptSocket
  dsimp only
  have attached : (((m.dropSocket h).setHost h fun host =>
      { host with bServer := true }).setSocket h k).wiring = (m.wiring.release h).attach h k := by
    have server : ((m.dropSocket h).setHost h fun host => { host with bServer := true }).wiring =
        (m.dropSocket h).wiring := wiring_setHost _ h _ (fun _ => rfl) (fun _ => rfl)
    rw [wiring_setSocket, server, dropped]
  split
  · exact attached
  · exact (wiring_send _ h _).trans attached

theorem wired_init (ID port : Int32) : (Mesh.init ID port).wiring.Wired where
  owned _ _ := by
    simp only [wiring, Mesh.init, Heap.alloc_apply, Heap.empty]
    split <;> exact iff_of_false nofun nofun
  unique _ _ _ receiving := by cases receiving
  hostBound _ _ := by
    simp only [wiring, Mesh.init, Heap.alloc_apply, Heap.empty]
    split <;> rfl
  sockBound _ _ := ⟨rfl, rfl⟩

variable {m : Mesh} {h : HostPtr} {k : SockPtr} {c : ConnId}

/-- A new entry with a new socket, which nobody else owns. -/
theorem wired_newHost (wired : m.wiring.Wired) (ip : Str) (port : Int32) :
    (m.newHost ip port).wiring.Wired ∧
      (m.wiring.Serves h c → (m.newHost ip port).wiring.Serves h c) := by
  rw [wiring_newHost]
  have added : (m.wiring.addHost.addSock none .idle).Wired :=
    wired.addHost.addSock (fun _ => nofun) (fun _ _ => nofun)
  have attached : ((m.wiring.addHost.addSock none .idle).attach m.host.next m.sock.next).Wired := by
    refine added.attach ?_ ?_ (Nat.lt_succ_self _) (Nat.lt_succ_self _)
    · exact Function.update_self ..
    · intro h
      have listeners : (m.wiring.addHost.addSock none .idle).listeners m.sock.next = none :=
        Function.update_self ..
      rw [listeners]
      exact nofun
  refine ⟨attached.setThread (Nat.lt_succ_self _) (fun _ _ => nofun), ?_⟩
  intro serves
  have old : h ≠ m.host.next := Nat.ne_of_lt (serves.known wired)
  refine (((serves.addHost wired).addSock wired.addHost).attach old).setThread ?_
  rw [Ne, attached.owned, show (Wiring.attach _ _ _).listeners m.sock.next =
    some (.host m.host.next) from Function.update_self .., Option.some.injEq,
    SignalingListener.host.injEq]
  exact fun same => old same.symm

/-- What an incoming socket becomes when an entry takes it. -/
private theorem nobodys {w : Wiring} (incoming : w.listeners k = some .incoming) (h : HostPtr) :
    w.listeners k ≠ some (.host h) := by
  rw [incoming]
  exact nofun

private theorem sock_known (wired : m.wiring.Wired) (incoming : (m.sock k).listeners = some .incoming) :
    k < m.sock.next := by
  by_contra outside
  have none := (wired.sockBound k (Nat.not_lt.mp outside)).1
  rw [show m.wiring.listeners k = (m.sock k).listeners from rfl, incoming] at none
  cases none

theorem wired_newHostFrom (wired : m.wiring.Wired) (incoming : (m.sock k).listeners = some .incoming)
    (ip : Str) (port : Int32) :
    (m.newHostFrom ip port k).wiring.Wired ∧
      (m.wiring.Serves h c → (m.newHostFrom ip port k).wiring.Serves h c) := by
  rw [wiring_newHostFrom]
  refine ⟨wired.addHost.attach (Function.update_self ..) (nobodys incoming) (Nat.lt_succ_self _)
    (sock_known wired incoming), ?_⟩
  intro serves
  exact (serves.addHost wired).attach (Nat.ne_of_lt (serves.known wired))

/-- The entry that takes over an incoming socket is the only one that may stop
serving on its connection. -/
theorem wired_adoptSocket (wired : m.wiring.Wired) (incoming : (m.sock k).listeners = some .incoming)
    {h' : HostPtr} (known : h' < m.host.next) :
    (m.adoptSocket h' k).wiring.Wired ∧
      (h ≠ h' → m.wiring.Serves h c → (m.adoptSocket h' k).wiring.Serves h c) := by
  rw [wiring_adoptSocket]
  have same : ∀ h', (m.wiring.release h').hosts = m.wiring.hosts ∧
      (m.wiring.release h').socks = m.wiring.socks := by
    intro h'
    unfold Wiring.release
    split <;> exact ⟨rfl, rfl⟩
  refine ⟨?_, fun other serves => (serves.release other).attach other⟩
  refine wired.release.attach (Wiring.release_socket _ h') ?_ ?_ ?_
  · intro h
    unfold Wiring.release
    split
    · exact nobodys incoming h
    · simp only [Function.update_apply]
      split
      · exact nofun
      · exact nobodys incoming h
  · rw [(same h').1]
    exact known
  · rw [(same h').2]
    exact sock_known wired incoming

end Mesh

end LibPubSub
