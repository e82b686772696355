import LibPubSub.Messages
import LibPubSub.Registry

/-! The table of hosts. Objects are pushed once and stay, and every search by key
guards an insertion, so the keys stay unique until an `ID=` or a `YOU=` line
gives an entry the key of another. -/

set_option autoImplicit false

namespace LibPubSub

open Fallible Transition

namespace Mesh

/-- No entry was added or got another key, and only entries listen on sockets. -/
structure Framed (m m' : Mesh) : Prop where
  me : m'.me = m.me
  peers : m'.peers = m.peers
  next : m'.host.next = m.host.next
  ip : ∀ h, (m'.host h).ip = (m.host h).ip
  port : ∀ h, (m'.host h).port = (m.host h).port
  listeners : ∀ k h, (m'.sock k).listeners = some (.host h) →
    (m.sock k).listeners = some (.host h) ∨ h ∈ m.hosts

/-- The fresh Host at `m.host.next` was pushed under a key. -/
structure Grown (m m' : Mesh) (ip : Str) (port : Int32) : Prop where
  me : m'.me = m.me
  peers : m'.peers = m.peers ++ [m.host.next]
  next : m'.host.next = m.host.next + 1
  oldIp : ∀ h, h ≠ m.host.next → (m'.host h).ip = (m.host h).ip
  oldPort : ∀ h, h ≠ m.host.next → (m'.host h).port = (m.host h).port
  newIp : (m'.host m.host.next).ip = ip
  newPort : (m'.host m.host.next).port = port
  listeners : ∀ k h, (m'.sock k).listeners = some (.host h) →
    (m.sock k).listeners = some (.host h) ∨ h ∈ m.hosts ∨ h = m.host.next

theorem Framed.hosts {m m' : Mesh} (framed : Framed m m') : m'.hosts = m.hosts := by
  rw [Mesh.hosts, Mesh.hosts, framed.me, framed.peers]

theorem Framed.refl (m : Mesh) : Framed m m :=
  ⟨rfl, rfl, rfl, fun _ => rfl, fun _ => rfl, fun _ _ => .inl⟩

theorem Framed.trans {m mid m' : Mesh} (first : Framed m mid) (second : Framed mid m') :
    Framed m m' where
  me := second.me.trans first.me
  peers := second.peers.trans first.peers
  next := second.next.trans first.next
  ip h := (second.ip h).trans (first.ip h)
  port h := (second.port h).trans (first.port h)
  listeners k h listening := by
    rcases second.listeners k h listening with old | member
    · exact first.listeners k h old
    · exact .inr (first.hosts ▸ member)

theorem Grown.framed {m mid m' : Mesh} {ip : Str} {port : Int32} (grown : Grown m mid ip port)
    (framed : Framed mid m') : Grown m m' ip port where
  me := framed.me.trans grown.me
  peers := framed.peers.trans grown.peers
  next := framed.next.trans grown.next
  oldIp h old := (framed.ip h).trans (grown.oldIp h old)
  oldPort h old := (framed.port h).trans (grown.oldPort h old)
  newIp := (framed.ip _).trans grown.newIp
  newPort := (framed.port _).trans grown.newPort
  listeners k h listening := by
    rcases framed.listeners k h listening with old | member
    · exact grown.listeners k h old
    · rw [Mesh.hosts, grown.me, grown.peers, ← List.cons_append, List.mem_append,
        List.mem_singleton] at member
      exact .inr member

theorem framed_of_table {m m' : Mesh} (same : m'.table = m.table) : Framed m m' := by
  have host := host_of_table same
  refine ⟨me_of_table same, peers_of_table same, by rw [host], fun h => by rw [host],
    fun h => by rw [host], ?_⟩
  intro k h listening
  rw [sock_of_table same] at listening
  exact .inl listening

theorem framed_setHost (m : Mesh) (h : HostPtr) (change : Host → Host)
    (ip : ∀ host, (change host).ip = host.ip) (port : ∀ host, (change host).port = host.port) :
    Framed m (m.setHost h change) := by
  refine ⟨rfl, rfl, rfl, ?_, ?_, fun _ _ => .inl⟩
  · intro other
    rw [setHost_host, Heap.modify_apply]
    split
    · next same => rw [same, ip]
    · rfl
  · intro other
    rw [setHost_host, Heap.modify_apply]
    split
    · next same => rw [same, port]
    · rfl

theorem framed_setSock (m : Mesh) (k : SockPtr)
    (change : TCPSocket SignalingListener → TCPSocket SignalingListener)
    (fewer : ∀ sock h, (change sock).listeners = some (.host h) →
      sock.listeners = some (.host h) ∨ h ∈ m.hosts) : Framed m (m.setSock k change) := by
  refine ⟨rfl, rfl, rfl, fun _ => rfl, fun _ => rfl, ?_⟩
  intro k' h listening
  rw [setSock_sock, Heap.modify_apply] at listening
  split at listening
  · next same =>
    rw [same]
    exact fewer _ h listening
  · exact .inl listening

theorem framed_send (m : Mesh) (h : HostPtr) (s : Str) : Framed m (m.send h s) :=
  framed_of_table (m.table_send h s)

theorem framed_welcome (m : Mesh) (h : HostPtr) : Framed m (m.welcome h) := by
  unfold welcome
  split
  · exact .refl m
  · split
    · exact .refl m
    · refine Framed.trans ?_ (framed_of_table (table_write _ _ _))
      refine Framed.trans ?_ (framed_of_table (table_write _ _ _))
      exact framed_setHost m h _ (fun _ => rfl) fun _ => rfl

theorem framed_setSocket (m : Mesh) {h : HostPtr} (member : h ∈ m.hosts) (k : SockPtr) :
    Framed m (m.setSocket h k) := by
  have attached : Framed m ((m.setHost h fun host => { host with socket := some k }).setSock k
      fun s => { s with bLinebuffer := true, listeners := some (.host h) }) := by
    refine Framed.trans ?_ (framed_setSock _ k _ ?_)
    · exact framed_setHost m h _ (fun _ => rfl) fun _ => rfl
    · intro sock h' listening
      obtain rfl : h = h' := SignalingListener.host.inj (Option.some.inj listening)
      exact .inr member
  unfold setSocket
  dsimp only
  split
  · exact attached.trans (framed_welcome _ h)
  · exact attached

theorem framed_adoptSocket (m : Mesh) {h : HostPtr} (member : h ∈ m.hosts) (k : SockPtr) :
    Framed m (m.adoptSocket h k) := by
  have dropped : Framed m (m.dropSocket h) := by
    unfold dropSocket
    split
    · exact .refl m
    · exact framed_setSock m _ _ fun _ _ => nofun
  have served := dropped.trans
    (framed_setHost (m.dropSocket h) h (fun host => { host with bServer := true })
      (fun _ => rfl) fun _ => rfl)
  have moved := served.trans (framed_setSocket _ (served.hosts ▸ member) k)
  unfold adoptSocket
  dsimp only
  split
  · exact moved
  · exact moved.trans (framed_send _ _ _)

/-- Both constructors of a remote Host push it when its key is unknown. -/
theorem grown_push (m : Mesh) (ip : Str) (port : Int32) (bServer : Bool) :
    Grown m (({ m with host := m.host.alloc { ip := ip, port := port, bServer := bServer } } :
      Mesh).pushUnlessKnown false m.host.next) ip port := by
  refine ⟨rfl, rfl, rfl, ?_, ?_, ?_, ?_, fun _ _ => .inl⟩
  · intro h old
    exact congrArg Host.ip (m.host.alloc_of_ne _ old)
  · intro h old
    exact congrArg Host.port (m.host.alloc_of_ne _ old)
  · exact congrArg Host.ip (m.host.alloc_self _)
  · exact congrArg Host.port (m.host.alloc_self _)

theorem Grown.member {m m' : Mesh} {ip : Str} {port : Int32} (grown : Grown m m' ip port) :
    m.host.next ∈ m'.hosts := by
  rw [Mesh.hosts, grown.peers]
  simp

theorem grown_newHost (m : Mesh) {ip : Str} {port : Int32} (unknown : m.hasHost ip port = false) :
    Grown m (m.newHost ip port) ip port := by
  unfold newHost
  dsimp only
  rw [unknown]
  have pushed := m.grown_push ip port false
  generalize ({ m with host := m.host.alloc { ip := ip, port := port, bServer := false } } :
    Mesh).pushUnlessKnown false m.host.next = mid at pushed
  have allocated : Framed mid { mid with sock := mid.sock.alloc {} } := by
    refine ⟨rfl, rfl, rfl, fun _ => rfl, fun _ => rfl, ?_⟩
    intro k h listening
    rw [Heap.alloc_apply] at listening
    split at listening
    · cases listening
    · exact .inl listening
  refine pushed.framed (allocated.trans ?_)
  refine Framed.trans ?_ (framed_setSock _ _ _ fun _ _ => .inl)
  exact framed_setSocket { mid with sock := mid.sock.alloc {} } pushed.member _

theorem grown_newHostFrom (m : Mesh) {ip : Str} {port : Int32}
    (unknown : m.hasHost ip port = false) (k : SockPtr) :
    Grown m (m.newHostFrom ip port k) ip port := by
  unfold newHostFrom
  dsimp only
  rw [unknown]
  have pushed := m.grown_push ip port true
  exact pushed.framed (framed_setSocket _ pushed.member k)

theorem hasHost_eq_false_iff {m : Mesh} {ip : Str} {port : Int32} :
    m.hasHost ip port = false ↔ m.getHost ip port = none := by
  rw [hasHost, getHost, List.any_eq_false, List.find?_eq_none]

theorem getHost_eq_some {m : Mesh} {ip : Str} {port : Int32} {h : HostPtr}
    (found : m.getHost ip port = some h) :
    h ∈ m.hosts ∧ (m.host h).ip = ip ∧ (m.host h).port = port := by
  refine ⟨List.mem_of_find?_eq_some found, ?_⟩
  simpa [hasKey] using List.find?_some found

theorem hasHost_eq_true_iff {m : Mesh} {ip : Str} {port : Int32} :
    m.hasHost ip port = true ↔ ∃ h ∈ m.hosts, (m.host h).ip = ip ∧ (m.host h).port = port := by
  simp [hasHost, hasKey, List.any_eq_true]

/-- `add_host` and an `ID=` on a new connection keep the keys or add one that is new. -/
theorem addHost_table (m : Mesh) (ip : Str) (port : Int32) :
    (m.hasHost ip port = true ∧ m.addHost ip port = m) ∨
      (m.hasHost ip port = false ∧ Grown m (m.addHost ip port) ip port) := by
  unfold addHost
  cases known : m.hasHost ip port with
  | true => exact .inl ⟨rfl, rfl⟩
  | false => exact .inr ⟨rfl, m.grown_newHost known⟩

theorem handleIncomingConnection_table (m : Mesh) (k : SockPtr) (s : Str) :
    Framed m (m.handleIncomingConnection k s) ∨ ∃ ip port, m.hasHost ip port = false ∧
      Grown m (m.handleIncomingConnection k s) ip port := by
  unfold handleIncomingConnection
  split
  · dsimp only
    split
    · next missing =>
      have unknown := hasHost_eq_false_iff.mpr missing
      exact .inr ⟨_, _, unknown, (m.grown_newHostFrom unknown k).framed (framed_send _ _ _)⟩
    · next h found =>
      refine .inl ?_
      split
      · exact m.framed_adoptSocket (getHost_eq_some found).1 k
      · split
        · exact framed_setSock m k _ fun _ _ => .inl
        · exact .refl m
  · exact .inl (.refl m)

end Mesh

namespace Node

/-! ## The table along a run -/

/-- The objects in the table are known and different, and sockets belong to objects in
the table. -/
structure Tabled (n : Node) : Prop where
  me : n.mesh.me = 0
  known : ∀ h ∈ n.mesh.hosts, h < n.mesh.host.next
  nodup : n.mesh.hosts.Nodup
  listeners : ∀ k h, (n.mesh.sock k).listeners = some (.host h) → h ∈ n.mesh.hosts

theorem tabled_init (ID port : Int32) (bindPort : ChanPtr → DataPort) :
    Tabled (init ID port bindPort) := by
  refine ⟨rfl, ?_, List.pairwise_singleton _ _, fun _ _ => nofun⟩
  intro h member
  rw [List.mem_singleton.mp member]
  exact Nat.zero_lt_one

theorem tabled_of_framed {n n' : Node} (framed : Mesh.Framed n.mesh n'.mesh)
    (tabled : Tabled n) : Tabled n' where
  me := framed.me.trans tabled.me
  known h member := by
    rw [framed.hosts] at member
    rw [framed.next]
    exact tabled.known h member
  nodup := framed.hosts ▸ tabled.nodup
  listeners k h listening := by
    rw [framed.hosts]
    exact (framed.listeners k h listening).elim (tabled.listeners k h) id

/-- No two entries have the same key. -/
def KeysUnique (n : Node) : Prop :=
  ∀ h ∈ n.mesh.hosts, ∀ h' ∈ n.mesh.hosts, (n.mesh.host h).ip = (n.mesh.host h').ip →
    (n.mesh.host h).port = (n.mesh.host h').port → h = h'

/-- Line `s` gives an entry the key of another one: an `ID=` the entry whose socket
it came on, a `YOU=` the loopback Host. -/
inductive Collides (n : Node) : Input → Prop where
  | renumbered {k : SockPtr} {h other : HostPtr} {s : Str}
      (listener : (n.mesh.sock k).listeners = some (.host h))
      (starts : strStartsWith s "ID=".toList = true) (member : other ∈ n.mesh.hosts)
      (different : other ≠ h) (ip : (n.mesh.host other).ip = (n.mesh.host h).ip)
      (port : (n.mesh.host other).port = (Mesh.decodeId s).2) : Collides n (.line k s)
  | renamed {k : SockPtr} {h other : HostPtr} {s : Str}
      (listener : (n.mesh.sock k).listeners = some (.host h))
      (starts : strStartsWith s "YOU=".toList = true) (member : other ∈ n.mesh.hosts)
      (different : other ≠ n.mesh.me) (ip : (n.mesh.host other).ip = strAfter s ['='])
      (port : (n.mesh.host other).port = (n.mesh.host n.mesh.me).port) : Collides n (.line k s)

/-- What a reaction does to the table. -/
inductive TableEffect (n : Node) (input : Input) (n' : Node) : Prop where
  | framed (calm : ¬ Collides n input) (framed : n.mesh.Framed n'.mesh)
  | grown (calm : ¬ Collides n input) {ip : Str} {port : Int32}
      (unknown : n.mesh.hasHost ip port = false) (grown : n.mesh.Grown n'.mesh ip port)
  | renumbered {k : SockPtr} {h : HostPtr} {s : Str} (isLine : input = .line k s)
      (listener : (n.mesh.sock k).listeners = some (.host h))
      (starts : strStartsWith s "ID=".toList = true) (result : n'.mesh = receiveId n.mesh h s)
  | renamed {k : SockPtr} {h : HostPtr} {s : Str} (isLine : input = .line k s)
      (listener : (n.mesh.sock k).listeners = some (.host h))
      (starts : strStartsWith s "YOU=".toList = true) (result : n'.mesh = receiveYou n.mesh s)

theorem not_collides_of_noLine {n : Node} {input : Input} (noLine : ∀ k s, input ≠ .line k s) :
    ¬ Collides n input := by
  intro collides
  cases collides with
  | renumbered => exact noLine _ _ rfl
  | renamed => exact noLine _ _ rfl

theorem digest_table {n n' : Node} {h : HostPtr} {s : Str} (ran : n.digestMessage h s = .ok n') :
    n'.mesh.table = n.mesh.table := by
  cases digest_effect ran with
  | publish _ ran =>
      obtain ⟨_, _, mid, c, _, created, ⟨_, set⟩ | ⟨_, rfl | ⟨_, _, set⟩⟩⟩ :=
        applyPublishStatement_cases ran
      · rw [(setPublisher_spec set).table, created.mesh]
      · rw [created.mesh]
      · rw [(setPublisher_spec set).table, created.mesh]
  | unpublish _ ran =>
      obtain ⟨_, _, ⟨_, rfl⟩ | ⟨c, _, set⟩⟩ := applyUnpublishStatement_cases ran
      · rfl
      · exact (setPublisher_spec set).table
  | connectTcp _ result =>
      rw [result]
      unfold makeOfferTcp
      split
      · exact Mesh.table_send _ _ _
      · rfl
  | connectShm _ result =>
      rw [result]
      unfold makeOfferShm
      split
      · exact Mesh.table_send _ _ _
      · rfl
  | offerTcp _ ran =>
      unfold answerOfferTcp at ran
      dsimp only at ran
      split at ran
      · exact (connectTcp_connecting ran).table
      · rw [pure_eq_ok.mp ran]
  | offerShm _ ran =>
      unfold answerOfferShm at ran
      dsimp only at ran
      split at ran
      · exact (connectShm_connecting ran).table
      · rw [pure_eq_ok.mp ran]
  | unknown same => rw [same]

/-- A Host in the table has a known key, so `CONNECTED` pushes nothing. -/
theorem receiveConnected_framed {m : Mesh} {h : HostPtr} (member : h ∈ m.hosts) :
    m.Framed (receiveConnected m h) := by
  have ready : m.Framed (m.setHost h fun host => { host with bReady := true }) :=
    m.framed_setHost h _ (fun _ => rfl) fun _ => rfl
  have known : (m.setHost h fun host => { host with bReady := true }).hasHost
      ((m.setHost h fun host => { host with bReady := true }).host h).ip
      ((m.setHost h fun host => { host with bReady := true }).host h).port = true :=
    Mesh.hasHost_eq_true_iff.mpr ⟨h, ready.hosts ▸ member, rfl, rfl⟩
  unfold receiveConnected
  dsimp only
  rw [known]
  exact ready

theorem line_tableEffect {n n' : Node} {k : SockPtr} {s : Str} (tabled : Tabled n)
    (ran : n.line k s = .ok n') : TableEffect n (.line k s) n' := by
  by_cases heard : ∃ h, (n.mesh.sock k).listeners = some (.host h)
  · obtain ⟨h, listener⟩ := heard
    by_cases startsId : strStartsWith s "ID=".toList = true
    · rw [line_id listener startsId, Except.ok.injEq] at ran
      exact .renumbered rfl listener startsId (by rw [← ran])
    by_cases startsYou : strStartsWith s "YOU=".toList = true
    · rw [line_you listener startsYou, Except.ok.injEq] at ran
      exact .renamed rfl listener startsYou (by rw [← ran])
    have calm : ¬ Collides n (.line k s) := by
      intro collides
      cases collides with
      | renumbered _ starts => exact startsId starts
      | renamed _ starts => exact startsYou starts
    have member := tabled.listeners k h listener
    rw [line, listener] at ran
    dsimp only at ran
    rw [onReceive, if_neg startsId, if_neg startsYou] at ran
    split at ran
    · -- `CONNECTED` announces channels and hosts
      obtain rfl := pure_eq_ok.mp ran
      have connected := receiveConnected_framed (m := n.mesh) member
      have announced := (broadcastPublishedChannels_connecting
        ({ n with mesh := receiveConnected n.mesh h } : Node)).table
      refine .framed calm ((connected.trans (Mesh.framed_of_table announced)).trans ?_)
      exact Mesh.framed_of_table (Mesh.table_broadcast _ _)
    split at ran
    · exact pure_eq_ok.mp ran ▸ .framed calm (.refl _)
    split at ran
    · obtain rfl := pure_eq_ok.mp ran
      rcases n.mesh.addHost_table (strBefore (strAfter s ['=']) [':'])
        (atoi (strAfter (strAfter s ['=']) [':'])) with ⟨_, same⟩ | ⟨unknown, grown⟩
      · refine .framed calm ?_
        change n.mesh.Framed (n.mesh.addHost _ _)
        rw [same]
        exact .refl _
      · exact .grown calm unknown grown
    · exact .framed calm (Mesh.framed_of_table (digest_table ran))
  · have calm : ¬ Collides n (.line k s) := by
      intro collides
      cases collides with
      | renumbered listener => exact heard ⟨_, listener⟩
      | renamed listener => exact heard ⟨_, listener⟩
    cases listener : (n.mesh.sock k).listeners with
    | none =>
        rw [line_unheard listener, Except.ok.injEq] at ran
        exact ran ▸ .framed calm (.refl _)
    | some listening =>
        cases listening with
        | host h => exact absurd ⟨h, listener⟩ heard
        | incoming =>
            rw [line_incoming listener, Except.ok.injEq] at ran
            subst ran
            rcases n.mesh.handleIncomingConnection_table k s with framed | ⟨ip, port, unknown, grown⟩
            · exact .framed calm framed
            · exact .grown calm unknown grown

theorem eof_framed {n n' : Node} {k : SockPtr} (ran : n.eof k = .ok n') :
    n.mesh.Framed n'.mesh := by
  obtain ⟨closed, left, rest⟩ := bind_eq_ok.mp ran
  obtain rfl := pure_eq_ok.mp rest
  have first : n.mesh.Framed (n.mesh.setSock k (·.closeFd)) :=
    n.mesh.framed_setSock k _ fun _ _ => .inl
  have last : closed.mesh.Framed (closed.mesh.setSock k (·.reconnectOrEnd)) := by
    refine closed.mesh.framed_setSock k _ fun sock h listening => ?_
    rw [TCPSocket.reconnectOrEnd_listeners] at listening
    exact .inl listening
  refine Mesh.Framed.trans ?_ last
  rcases signalingClosed_cases left with ⟨rfl, _⟩ | ⟨h, current, _, _, all⟩
  · exact first
  · have lost : (n.mesh.setSock k (·.closeFd)).Framed
        (hostLost (n.mesh.setSock k (·.closeFd)) h current) := by
      refine Mesh.Framed.trans ?_ (Mesh.framed_setSock _ _ _ fun _ _ => .inl)
      exact Mesh.framed_setHost _ _ _ (fun _ => rfl) fun _ => rfl
    have kept := (closeAllChannels_spec all).1
    exact (first.trans lost).trans (Mesh.framed_of_table kept)

theorem step_tableEffect {n n' : Node} {input : Input} (tabled : Tabled n)
    (stepped : Step n input n') : TableEffect n input n' := by
  cases input with
  | line k s => exact line_tableEffect tabled stepped
  | addHost ip port =>
      have calm := not_collides_of_noLine (n := n) fun k s (same : Input.addHost ip port = .line k s) => nomatch same
      obtain rfl := pure_eq_ok.mp stepped
      rcases n.mesh.addHost_table ip port with ⟨_, same⟩ | ⟨unknown, grown⟩
      · refine .framed calm ?_
        change n.mesh.Framed (n.mesh.addHost ip port)
        rw [same]
        exact .refl _
      · exact .grown calm unknown grown
  | publish name =>
      refine .framed (not_collides_of_noLine fun _ _ => nofun) (Mesh.framed_of_table ?_)
      obtain ⟨mid, c, _, created, ⟨_, rfl⟩ | ⟨_, set, done, rfl⟩⟩ := publish_cases stepped
      · rw [created.mesh]
      · exact (Mesh.table_broadcast _ _).trans
          ((setPublisher_spec done).table.trans (by rw [created.mesh]))
  | unpublish name =>
      refine .framed (not_collides_of_noLine fun _ _ => nofun) (Mesh.framed_of_table ?_)
      rcases unpublish_cases stepped with ⟨_, rfl⟩ | ⟨c, mid, _, set, connecting⟩
      · rfl
      · exact connecting.table.trans set.table
  | subscribe name =>
      refine .framed (not_collides_of_noLine fun _ _ => nofun) (Mesh.framed_of_table ?_)
      obtain ⟨mid, c, _, created, connected⟩ := subscribe_cases stepped
      exact (connect_connecting connected).table.trans (by rw [← created.mesh]; rfl)
  | announce =>
      refine .framed (not_collides_of_noLine fun _ _ => nofun) (Mesh.framed_of_table ?_)
      exact pure_eq_ok.mp stepped ▸ (broadcastPublishedChannels_connecting n).table
  | connected k conn =>
      refine .framed (not_collides_of_noLine fun _ _ => nofun) ?_
      obtain rfl := pure_eq_ok.mp stepped
      have dialled : n.mesh.Framed (n.mesh.setSock k (·.connected conn)) :=
        n.mesh.framed_setSock k _ fun _ _ => .inl
      unfold connected
      dsimp only
      split
      · exact dialled.trans (Mesh.framed_welcome _ _)
      · exact dialled
  | accepted ip port conn =>
      refine .framed (not_collides_of_noLine fun _ _ => nofun) ?_
      obtain rfl := pure_eq_ok.mp stepped
      refine ⟨rfl, rfl, rfl, fun _ => rfl, fun _ => rfl, ?_⟩
      intro k h listening
      simp only [accepted, Heap.alloc_apply] at listening
      split at listening
      · cases listening
      · exact .inl listening
  | eof k => exact .framed (not_collides_of_noLine fun _ _ => nofun) (eof_framed stepped)
  | dataConnected k conn =>
      refine .framed (not_collides_of_noLine fun _ _ => nofun) (Mesh.framed_of_table ?_)
      exact (dataConnected_connecting stepped).table
  | dataAccepted c ip port conn =>
      refine .framed (not_collides_of_noLine fun _ _ => nofun) (Mesh.framed_of_table ?_)
      refine pure_eq_ok.mp stepped ▸ ?_
      unfold acceptSubscriptor
      split <;> rfl
  | dataEof k =>
      refine .framed (not_collides_of_noLine fun _ _ => nofun) (Mesh.framed_of_table ?_)
      exact (dataEof_quiet stepped).table

/-- One entry got a new key, the others kept theirs. -/
structure Rekeyed (n n' : Node) (e : HostPtr) (ip : Str) (port : Int32) : Prop where
  me : n'.mesh.me = n.mesh.me
  peers : n'.mesh.peers = n.mesh.peers
  next : n'.mesh.host.next = n.mesh.host.next
  sock : n'.mesh.sock = n.mesh.sock
  own : (n'.mesh.host e).ip = ip ∧ (n'.mesh.host e).port = port
  other : ∀ h, h ≠ e → n'.mesh.host h = n.mesh.host h

theorem Rekeyed.hosts {n n' : Node} {e : HostPtr} {ip : Str} {port : Int32}
    (rekeyed : Rekeyed n n' e ip port) : n'.mesh.hosts = n.mesh.hosts := by
  rw [Mesh.hosts, Mesh.hosts, rekeyed.me, rekeyed.peers]

theorem Rekeyed.tabled {n n' : Node} {e : HostPtr} {ip : Str} {port : Int32}
    (rekeyed : Rekeyed n n' e ip port) (tabled : Tabled n) : Tabled n' where
  me := rekeyed.me.trans tabled.me
  known h member := by
    rw [rekeyed.hosts] at member
    rw [rekeyed.next]
    exact tabled.known h member
  nodup := rekeyed.hosts ▸ tabled.nodup
  listeners k h listening := by
    rw [rekeyed.sock] at listening
    rw [rekeyed.hosts]
    exact tabled.listeners k h listening

/-- The keys stay unique exactly if the new key is nobody else's. -/
theorem Rekeyed.unique_iff {n n' : Node} {e : HostPtr} {ip : Str} {port : Int32}
    (rekeyed : Rekeyed n n' e ip port) (member : e ∈ n.mesh.hosts) (unique : KeysUnique n) :
    KeysUnique n' ↔ ∀ h ∈ n.mesh.hosts, h ≠ e → (n.mesh.host h).ip = ip →
      (n.mesh.host h).port ≠ port := by
  obtain ⟨ownIp, ownPort⟩ := rekeyed.own
  unfold KeysUnique
  rw [rekeyed.hosts]
  constructor
  · intro unique' h listed different sameIp samePort
    refine different (unique' h listed e member ?_ ?_)
    · rw [rekeyed.other h different, ownIp, sameIp]
    · rw [rekeyed.other h different, ownPort, samePort]
  · intro free h listed h' listed' sameIp samePort
    by_cases isE : h = e
    · subst isE
      by_cases isE' : h' = h
      · exact isE'.symm
      · rw [rekeyed.other h' isE', ownIp] at sameIp
        rw [rekeyed.other h' isE', ownPort] at samePort
        exact absurd samePort.symm (free h' listed' isE' sameIp.symm)
    · rw [rekeyed.other h isE] at sameIp samePort
      by_cases isE' : h' = e
      · subst isE'
        rw [ownIp] at sameIp
        rw [ownPort] at samePort
        exact absurd samePort (free h listed isE sameIp)
      · rw [rekeyed.other h' isE'] at sameIp samePort
        exact unique h listed h' listed' sameIp samePort

theorem rekeyed_receiveId {n n' : Node} {h : HostPtr} {s : Str}
    (result : n'.mesh = receiveId n.mesh h s) :
    Rekeyed n n' h (n.mesh.host h).ip (Mesh.decodeId s).2 := by
  have table : n'.mesh.table = (n.mesh.setHost h fun host =>
      { host with id := (Mesh.decodeId s).1, port := (Mesh.decodeId s).2 }).table := by
    rw [result]
    exact Mesh.table_send _ _ _
  have me := Mesh.me_of_table table
  have peers := Mesh.peers_of_table table
  have host := Mesh.host_of_table table
  have sock := Mesh.sock_of_table table
  refine ⟨me, peers, by rw [host]; rfl, sock, ?_, ?_⟩
  · rw [host, Mesh.setHost_self]
    exact ⟨rfl, rfl⟩
  · intro other different
    rw [host, Mesh.setHost_of_ne _ _ different]

theorem rekeyed_receiveYou {n n' : Node} {s : Str} (result : n'.mesh = receiveYou n.mesh s) :
    Rekeyed n n' n.mesh.me (strAfter s ['=']) (n.mesh.host n.mesh.me).port := by
  refine ⟨by rw [result]; rfl, by rw [result]; rfl, by rw [result]; rfl, by rw [result]; rfl, ?_, ?_⟩
  · rw [result, receiveYou, Mesh.setHost_self]
    exact ⟨rfl, rfl⟩
  · intro other different
    rw [result, receiveYou, Mesh.setHost_of_ne _ _ different]

theorem Grown.hosts {m m' : Mesh} {ip : Str} {port : Int32} (grown : m.Grown m' ip port) :
    m'.hosts = m.hosts ++ [m.host.next] := by
  rw [Mesh.hosts, Mesh.hosts, grown.me, grown.peers, List.cons_append]

theorem step_tabled {n n' : Node} {input : Input} (tabled : Tabled n)
    (stepped : Step n input n') : Tabled n' := by
  cases step_tableEffect tabled stepped with
  | framed _ framed => exact tabled_of_framed framed tabled
  | grown _ _ grown =>
      have hosts := Grown.hosts grown
      refine ⟨grown.me.trans tabled.me, ?_, ?_, ?_⟩
      · intro h member
        rw [hosts, List.mem_append, List.mem_singleton] at member
        rw [grown.next]
        rcases member with old | rfl
        · exact Nat.lt_succ_of_lt (tabled.known h old)
        · exact Nat.lt_succ_self _
      · rw [hosts, List.nodup_append]
        refine ⟨tabled.nodup, List.pairwise_singleton _ _, ?_⟩
        intro h old new isNew
        rw [List.mem_singleton.mp isNew]
        exact Nat.ne_of_lt (tabled.known h old)
      · intro k h listening
        rw [hosts, List.mem_append, List.mem_singleton]
        rcases grown.listeners k h listening with old | member | new
        · exact .inl (tabled.listeners k h old)
        · exact .inl member
        · exact .inr new
  | renumbered _ listener _ result => exact (rekeyed_receiveId result).tabled tabled
  | renamed _ listener _ result => exact (rekeyed_receiveYou result).tabled tabled

/-- A reaction keeps the keys unique exactly if it is no line that collides. -/
theorem step_keysUnique_iff {n n' : Node} {input : Input} (unique : KeysUnique n)
    (tabled : Tabled n) (stepped : Step n input n') : KeysUnique n' ↔ ¬ Collides n input := by
  cases step_tableEffect tabled stepped with
  | framed calm framed =>
      refine iff_of_true ?_ calm
      intro h member h' member' sameIp samePort
      rw [framed.hosts] at member member'
      rw [framed.ip, framed.ip] at sameIp
      rw [framed.port, framed.port] at samePort
      exact unique h member h' member' sameIp samePort
  | @grown calm ip port unknown grown =>
      refine iff_of_true ?_ calm
      have hosts := Grown.hosts grown
      have old : ∀ h ∈ n.mesh.hosts, h ≠ n.mesh.host.next :=
        fun h member => Nat.ne_of_lt (tabled.known h member)
      have fresh : ∀ h ∈ n.mesh.hosts, (n.mesh.host h).ip = ip → (n.mesh.host h).port ≠ port := by
        intro h member sameIp samePort
        have known := Mesh.hasHost_eq_true_iff.mpr ⟨h, member, sameIp, samePort⟩
        rw [unknown] at known
        cases known
      intro h member h' member' sameIp samePort
      rw [hosts, List.mem_append, List.mem_singleton] at member member'
      rcases member with member | rfl
      · rw [grown.oldIp h (old h member)] at sameIp
        rw [grown.oldPort h (old h member)] at samePort
        rcases member' with member' | rfl
        · rw [grown.oldIp h' (old h' member')] at sameIp
          rw [grown.oldPort h' (old h' member')] at samePort
          exact unique h member h' member' sameIp samePort
        · rw [grown.newIp] at sameIp
          rw [grown.newPort] at samePort
          exact absurd samePort (fresh h member sameIp)
      · rcases member' with member' | rfl
        · rw [grown.newIp, grown.oldIp h' (old h' member')] at sameIp
          rw [grown.newPort, grown.oldPort h' (old h' member')] at samePort
          exact absurd samePort.symm (fresh h' member' sameIp.symm)
        · rfl
  | @renumbered k h s isLine listener starts result =>
      rw [(rekeyed_receiveId result).unique_iff (tabled.listeners k h listener) unique]
      constructor
      · intro free collides
        cases isLine
        cases collides with
        | renumbered listener' _ member different ip port =>
            obtain rfl := SignalingListener.host.inj (Option.some.inj (listener.symm.trans listener'))
            exact free _ member different ip port
        | renamed _ startsYou =>
            rw [strStartsWith_eq_false starts (by decide)] at startsYou
            cases startsYou
      · intro calm other member different ip port
        exact calm (isLine ▸ .renumbered listener starts member different ip port)
  | @renamed k h s isLine listener starts result =>
      have member : n.mesh.me ∈ n.mesh.hosts := List.mem_cons_self
      rw [(rekeyed_receiveYou result).unique_iff member unique]
      constructor
      · intro free collides
        cases isLine
        cases collides with
        | renumbered _ startsId =>
            rw [strStartsWith_eq_false starts (by decide)] at startsId
            cases startsId
        | renamed _ _ member different ip port => exact free _ member different ip port
      · intro calm other member different ip port
        exact calm (isLine ▸ .renamed listener starts member different ip port)

/-- The table of a node: the loopback Host, which `init()` has made first, is
`hosts[0]`, no object is in the table twice, and a search by the key of an entry
finds that entry and no other. -/
structure Keyed (n : Node) : Prop where
  loopback : n.mesh.hosts[0]? = some 0
  nodup : n.mesh.hosts.Nodup
  unique : KeysUnique n
  found : ∀ h ∈ n.mesh.hosts, n.mesh.hasHost (n.mesh.host h).ip (n.mesh.host h).port = true ∧
    n.mesh.getHost (n.mesh.host h).ip (n.mesh.host h).port = some h

theorem Tabled.keyed_iff {n : Node} (tabled : Tabled n) : Keyed n ↔ KeysUnique n := by
  refine ⟨Keyed.unique, fun unique => ⟨?_, tabled.nodup, unique, ?_⟩⟩
  · rw [Mesh.hosts, List.getElem?_cons_zero, tabled.me]
  · intro h member
    have known : n.mesh.hasHost (n.mesh.host h).ip (n.mesh.host h).port = true :=
      Mesh.hasHost_eq_true_iff.mpr ⟨h, member, rfl, rfl⟩
    refine ⟨known, ?_⟩
    cases found : n.mesh.getHost (n.mesh.host h).ip (n.mesh.host h).port with
    | none =>
        rw [Mesh.hasHost_eq_false_iff.mpr found] at known
        cases known
    | some h' =>
        obtain ⟨member', ip, port⟩ := Mesh.getHost_eq_some found
        rw [unique h' member' h member ip port]

theorem keysUnique_init (ID port : Int32) (bindPort : ChanPtr → DataPort) :
    KeysUnique (init ID port bindPort) := by
  intro h member h' member' _ _
  rw [List.mem_singleton.mp member, List.mem_singleton.mp member']

/-- In every run from the start of a node, the table stays keyed exactly if no line
gives an entry the key of another one. -/
theorem always_keyed_iff (ID port : Int32) (bindPort : ChanPtr → DataPort)
    {trace : List (Input × Node)} (ran : Every Step (init ID port bindPort) trace) :
    Always Keyed (init ID port bindPort) trace ↔
      Every (fun n input _ => ¬ Collides n input) (init ID port bindPort) trace := by
  have initial := tabled_init ID port bindPort
  rw [← ran.always_iff (keysUnique_init ID port bindPort) initial
    (fun _ _ _ tabled stepped => step_tabled tabled stepped)
    fun _ _ _ unique tabled stepped => step_keysUnique_iff unique tabled stepped]
  have tabledAll := ran.always initial fun _ _ _ tabled stepped => step_tabled tabled stepped
  unfold Always
  rw [initial.keyed_iff]
  refine and_congr Iff.rfl (forall_congr' fun entry => ?_)
  exact imp_congr_right fun member => (tabledAll.2 entry member).keyed_iff

/-- The object `hosts[0]` and the absence of repetitions need no condition. -/
theorem always_nodup (ID port : Int32) (bindPort : ChanPtr → DataPort)
    {trace : List (Input × Node)} (ran : Every Step (init ID port bindPort) trace) :
    Always (fun n => n.mesh.hosts[0]? = some 0 ∧ n.mesh.hosts.Nodup) (init ID port bindPort)
      trace := by
  refine (ran.always (tabled_init ID port bindPort) fun _ _ _ tabled stepped =>
    step_tabled tabled stepped).mono fun n tabled => ⟨?_, tabled.nodup⟩
  rw [Mesh.hosts, List.getElem?_cons_zero, tabled.me]

/-- A connection from 10.0.0.2 that says who it is. -/
theorem accepted_keyed : ∃ trace n, Every Step (init 1 10000 firstPort)
      (trace ++ [(Input.line 0 "ID=2|PORT=10000".toList, n)]) ∧
    n.mesh.hosts = [0, 1] ∧ Always Keyed (init 1 10000 firstPort)
      (trace ++ [(Input.line 0 "ID=2|PORT=10000".toList, n)]) := by
  have replayed : replay react (fun n input => match input with
        | .line k _ => (n.mesh.sock k).listeners == some .incoming
        | _ => true) (fun _ n => n.mesh.hosts = [0, 1])
      (.line 0 "ID=2|PORT=10000".toList) (init 1 10000 firstPort)
      [.accepted "10.0.0.2".toList 40000 0] = true := by decide
  obtain ⟨trace, n, allowed, checked⟩ := replay_run replayed
  have ran := allowed.of_under
  refine ⟨trace, n, ran, of_decide_eq_true checked, (always_keyed_iff _ _ _ ran).mpr ?_⟩
  refine allowed.mono fun mid input next both collides => ?_
  have nobody := both.1
  cases collides with
  | renumbered listener =>
      dsimp only at nobody
      rw [listener] at nobody
      exact absurd nobody (by simp)
  | renamed listener =>
      dsimp only at nobody
      rw [listener] at nobody
      exact absurd nobody (by simp)

/-- Two entries for 10.0.0.2, dialled at two ports, whose sockets announce one port. -/
theorem not_always_keyed :
    ¬ ∀ (ID port : Int32) (bindPort : ChanPtr → DataPort) (trace : List (Input × Node)),
      Every Step (init ID port bindPort) trace → Always Keyed (init ID port bindPort) trace := by
  intro law
  have replayed : replay react (fun _ _ => true) (fun _ n => n.mesh.hosts = [0, 1, 2] ∧
        (n.mesh.host 1).ip = (n.mesh.host 2).ip ∧ (n.mesh.host 1).port = (n.mesh.host 2).port)
      (.line 1 "ID=2|PORT=10000".toList) (init 1 10000 firstPort)
      [.addHost "10.0.0.2".toList 10000, .addHost "10.0.0.2".toList 10001, .connected 1 0] =
        true := by decide
  obtain ⟨trace, n, allowed, checked⟩ := replay_run replayed
  obtain ⟨hosts, ip, port⟩ := of_decide_eq_true checked
  have keyed := (law _ _ _ _ allowed.of_under).final
  rw [final_concat] at keyed
  have same := keyed.unique 1 (by rw [hosts]; decide) 2 (by rw [hosts]; decide) ip port
  exact absurd same (by decide)

end Node

end LibPubSub
