import LibPubSub.Registry
import LibPubSub.Wiring

/-! What a node believes about the publications of its peers. A remote publisher
is ready on its current connection and has announced the channel there, as long
as no entry of a publisher is moved to another connection. -/

set_option autoImplicit false

namespace LibPubSub

open Fallible Transition

/-- The connection whose lines a thread receives. -/
def Thread.connection : Thread → Option ConnId
  | .receiving c => some c
  | _ => none

theorem Thread.connection_eq_some {thread : Thread} {c : ConnId} :
    thread.connection = some c ↔ thread = .receiving c := by
  cases thread <;> simp [Thread.connection]

/-- A node and what it has heard so far: lines with the connection they came on. -/
structure Listening where
  node : Node
  heard : List (ConnId × Str)

namespace Listening

/-- The line that `input` adds to what is heard. -/
def heardBy (n : Node) : Node.Input → List (ConnId × Str)
  | .line k s => ((n.mesh.sock k).thread.connection.map (·, s)).toList
  | _ => []

def react (o : Listening) (input : Node.Input) : Result Listening := do
  return ⟨← o.node.react input, o.heard ++ heardBy o.node input⟩

def Hear (o : Listening) (input : Node.Input) (o' : Listening) : Prop :=
  o.react input = .ok o'

theorem hear_iff {o o' : Listening} {input : Node.Input} :
    Hear o input o' ↔ Node.Step o.node input o'.node ∧
      o'.heard = o.heard ++ heardBy o.node input := by
  unfold Hear react
  rw [bind_eq_ok]
  constructor
  · rintro ⟨n', stepped, result⟩
    obtain rfl := pure_eq_ok.mp result
    exact ⟨stepped, rfl⟩
  · rintro ⟨stepped, heard⟩
    exact ⟨o'.node, stepped, pure_eq_ok.mpr (heard ▸ rfl)⟩

/-! ## The network and the peers -/

/-- `c` is a connection the node has not had yet. -/
def NewConnection (o : Listening) (c : ConnId) : Prop :=
  (∀ k < o.node.mesh.sock.next, (o.node.mesh.sock k).thread.connection ≠ some c) ∧
    ∀ entry ∈ o.heard, entry.1 ≠ c

/-- What the sockets can do, and what peers of this code write: `ID=` only as the
first line of a connection, and `PUBLISH=` of type `P` only. -/
def FromPeers (o : Listening) : Node.Input → Prop
  | .line k s => (o.node.mesh.sock k).thread.connection ≠ none ∧
      (strStartsWith s "ID=".toList = true →
        ∀ entry ∈ o.heard, (o.node.mesh.sock k).thread.connection ≠ some entry.1) ∧
      (strStartsWith s "PUBLISH=".toList = true → (strAfter s ['=']).headD NUL = 'P')
  | .eof k => (o.node.mesh.sock k).thread.connection ≠ none
  | .connected k c => (o.node.mesh.sock k).Dialling ∧ NewConnection o c
  | .accepted _ _ c => NewConnection o c
  | _ => True

instance (o : Listening) (c : ConnId) : Decidable (NewConnection o c) :=
  inferInstanceAs (Decidable (_ ∧ _))

instance (o : Listening) : (input : Node.Input) → Decidable (FromPeers o input)
  | .line _ _ => inferInstanceAs (Decidable (_ ∧ (_ → _) ∧ (_ → _)))
  | .eof _ => inferInstanceAs (Decidable (_ ≠ _))
  | .connected _ _ => inferInstanceAs (Decidable (_ ∧ _))
  | .accepted _ _ _ => inferInstanceAs (Decidable (NewConnection _ _))
  | .addHost _ _ | .publish _ | .unpublish _ | .subscribe _ | .announce => .isTrue trivial
  | .dataConnected _ _ | .dataAccepted _ _ _ _ | .dataEof _ => .isTrue trivial

/-! ## Announcements -/

/-- `s` is a `PUBLISH=` of type `P` for the channel called `name`. -/
def IsPublish (s name : Str) : Prop :=
  strStartsWith s "PUBLISH=".toList = true ∧ (strAfter s ['=']).headD NUL = 'P' ∧
    Node.statementName (strAfter s ['=']) = .ok name

/-- `s` is an `UNPUBLISH=` for the channel called `name`. -/
def IsUnpublish (s name : Str) : Prop :=
  strStartsWith s "UNPUBLISH=".toList = true ∧ Node.statementName (strAfter s ['=']) = .ok name

/-- On connection `c` a `PUBLISH=` for `name` was heard, and no `UNPUBLISH=` since. -/
def Announced (heard : List (ConnId × Str)) (c : ConnId) (name : Str) : Prop :=
  ∃ before s after, heard = before ++ (c, s) :: after ∧ IsPublish s name ∧
    ∀ s', (c, s') ∈ after → ¬ IsUnpublish s' name

/-- Every remote publisher of a channel is ready on its current connection and has
announced the channel on that connection. -/
def NoStalePublisher (o : Listening) : Prop :=
  ∀ c h, (o.node.chan c).publisher = some h → h ≠ o.node.mesh.me →
    ∃ conn, o.node.mesh.wiring.Serves h conn ∧ Announced o.heard conn (o.node.chan c).name

theorem announced_append {heard added : List (ConnId × Str)} {c : ConnId} {name : Str}
    (announced : Announced heard c name) (kept : ∀ s, (c, s) ∈ added → ¬ IsUnpublish s name) :
    Announced (heard ++ added) c name := by
  obtain ⟨before, s, after, rfl, published, since⟩ := announced
  refine ⟨before, s, after ++ added, by simp, published, ?_⟩
  intro s' member
  exact (List.mem_append.mp member).elim (since s') (kept s')

end Listening

/-! ## Entries that move -/

namespace Mesh

/-- The entry that `handle_incoming_connection` moves to the socket of `input`. -/
def moved (m : Mesh) : Node.Input → Option HostPtr
  | .line k s =>
      if (m.sock k).listeners = some .incoming ∧ strStartsWith s "ID=".toList then
        match m.getHost (localName (m.sock k).ip) (decodeId s).2 with
        | none => none
        | some h => if m.ID < (decodeId s).1 || (m.host h).bServer then some h else none
      else none
  | _ => none

/-- The vector of hosts holds allocated Hosts. -/
def Listed (m : Mesh) : Prop :=
  ∀ h ∈ m.hosts, h < m.host.next

/-- The mesh is in order, and only the Hosts `lost` may have stopped serving. -/
structure Evolves (m m' : Mesh) (lost : HostPtr → Prop) : Prop where
  wired : m'.wiring.Wired
  listed : m'.Listed
  serves : ∀ h c, ¬ lost h → m.wiring.Serves h c → m'.wiring.Serves h c

variable {m m' : Mesh} {lost : HostPtr → Prop} {k : SockPtr} {s : Str}

theorem evolves_same (wired : m.wiring.Wired) (listed : m.Listed) (wiring : m'.wiring = m.wiring)
    (hosts : m'.hosts = m.hosts) : Evolves m m' lost := by
  have next : m'.host.next = m.host.next := congrArg Wiring.hosts wiring
  refine ⟨wiring ▸ wired, ?_, fun _ _ _ serves => wiring ▸ serves⟩
  unfold Mesh.Listed
  rw [hosts, next]
  exact listed

theorem getHost_listed {ip : Str} {port : Int32} {h : HostPtr} (listed : m.Listed)
    (found : m.getHost ip port = some h) : h < m.host.next :=
  listed h (List.mem_of_find?_eq_some found)

theorem hosts_of_table (same : m'.table = m.table) : m'.hosts = m.hosts := by
  rw [hosts, me_of_table same, peers_of_table same]
  rfl

theorem hosts_welcome (m : Mesh) (h : HostPtr) : (m.welcome h).hosts = m.hosts := by
  unfold welcome
  split
  · rfl
  · split
    · rfl
    · refine (hosts_of_table (table_write _ _ _)).trans ?_
      exact (hosts_of_table (table_write _ _ _)).trans rfl

theorem hosts_setSocket (m : Mesh) (h : HostPtr) (k : SockPtr) :
    (m.setSocket h k).hosts = m.hosts := by
  unfold setSocket
  dsimp only
  split
  · exact hosts_welcome _ h
  · rfl

theorem hosts_adoptSocket (m : Mesh) (h : HostPtr) (k : SockPtr) :
    (m.adoptSocket h k).hosts = m.hosts := by
  have dropped : (m.dropSocket h).hosts = m.hosts := by
    unfold dropSocket
    split <;> rfl
  unfold adoptSocket
  dsimp only
  split
  · exact (hosts_setSocket _ h k).trans dropped
  · exact (hosts_of_table (table_send _ h _)).trans ((hosts_setSocket _ h k).trans dropped)

theorem hosts_newHost (m : Mesh) (ip : Str) (port : Int32) : (m.newHost ip port).hosts =
    if m.hasHost ip port then m.hosts else m.hosts ++ [m.host.next] := by
  unfold newHost
  dsimp only
  refine (hosts_setSocket _ _ _).trans ?_
  cases m.hasHost ip port <;> rfl

theorem hosts_newHostFrom (m : Mesh) (ip : Str) (port : Int32) (k : SockPtr) :
    (m.newHostFrom ip port k).hosts =
      if m.hasHost ip port then m.hosts else m.hosts ++ [m.host.next] := by
  unfold newHostFrom
  dsimp only
  refine (hosts_setSocket _ _ _).trans ?_
  cases m.hasHost ip port <;> rfl

private theorem listed_push (listed : m.Listed) {known : Bool}
    (next : m'.host.next = m.host.next + 1)
    (hosts : m'.hosts = if known then m.hosts else m.hosts ++ [m.host.next]) : m'.Listed := by
  unfold Mesh.Listed
  rw [next, hosts]
  intro h member
  cases known with
  | true => exact Nat.lt_succ_of_lt (listed h member)
  | false =>
      rcases List.mem_append.mp member with old | new
      · exact Nat.lt_succ_of_lt (listed h old)
      · exact List.mem_singleton.mp new ▸ Nat.lt_succ_self _

theorem listed_newHost (listed : m.Listed) (ip : Str) (port : Int32) :
    (m.newHost ip port).Listed :=
  listed_push listed (congrArg Wiring.hosts (m.wiring_newHost ip port)) (m.hosts_newHost ip port)

theorem listed_newHostFrom (listed : m.Listed) (ip : Str) (port : Int32) (k : SockPtr) :
    (m.newHostFrom ip port k).Listed :=
  listed_push listed (congrArg Wiring.hosts (m.wiring_newHostFrom ip port k))
    (m.hosts_newHostFrom ip port k)

/-! ## How the mesh evolves -/

theorem evolves_addHost (wired : m.wiring.Wired) (listed : m.Listed) (ip : Str) (port : Int32) :
    Evolves m (m.addHost ip port) lost := by
  unfold addHost
  split
  · exact evolves_same wired listed rfl rfl
  · exact ⟨(wired_newHost (h := m.me) (c := 0) wired ip port).1, listed_newHost listed ip port,
      fun h c _ => (wired_newHost wired ip port).2⟩

theorem evolves_send (wired : m.wiring.Wired) (listed : m.Listed) (h : HostPtr) :
    Evolves m (m.send h s) lost :=
  evolves_same wired listed (m.wiring_send h s) (hosts_of_table (m.table_send h s))

theorem Evolves.trans {m'' : Mesh} (first : Evolves m m' lost) (second : Evolves m' m'' lost) :
    Evolves m m'' lost :=
  ⟨second.wired, second.listed, fun h c kept serves =>
    second.serves h c kept (first.serves h c kept serves)⟩

theorem evolves_incoming (wired : m.wiring.Wired) (listed : m.Listed)
    (incoming : (m.sock k).listeners = some .incoming) :
    Evolves m (m.handleIncomingConnection k s) (fun h => m.moved (.line k s) = some h) := by
  unfold handleIncomingConnection
  split
  · next starts =>
    dsimp only
    split
    · next missing =>
      have made := wired_newHostFrom (h := m.me) (c := 0) wired incoming
        (localName (m.sock k).ip) (decodeId s).2
      have evolved : Evolves m (m.newHostFrom (localName (m.sock k).ip) (decodeId s).2 k)
          (fun h => m.moved (.line k s) = some h) :=
        ⟨made.1, listed_newHostFrom listed _ _ k,
          fun h c _ => (wired_newHostFrom wired incoming _ _).2⟩
      exact evolved.trans (evolves_send evolved.wired evolved.listed _)
    · next h found =>
      split
      · next adopts =>
        have known := getHost_listed listed found
        have isMoved : m.moved (.line k s) = some h := by
          simp only [moved, incoming, starts, and_self, ↓reduceIte, found, adopts]
        refine ⟨(wired_adoptSocket (h := m.me) (c := 0) wired incoming known).1, ?_, ?_⟩
        · unfold Mesh.Listed
          have next : (m.adoptSocket h k).host.next = m.host.next := by
            have hosts := congrArg Wiring.hosts (m.wiring_adoptSocket h k)
            refine hosts.trans ?_
            unfold Wiring.attach Wiring.release
            split <;> rfl
          rw [hosts_adoptSocket, next]
          exact listed
        · intro h' c kept
          refine (wired_adoptSocket wired incoming known).2 ?_
          rintro rfl
          exact kept isMoved
      · split
        · exact evolves_same wired listed (m.wiring_setSock k _ (fun _ => rfl) (fun _ => rfl)) rfl
        · exact evolves_same wired listed rfl rfl
  · exact evolves_same wired listed rfl rfl

end Mesh

namespace Node

/-- Functions on channels only write to the sockets of the mesh. -/
private theorem digestMessage_table {n n' : Node} {h : HostPtr} {s : Str}
    (ran : n.digestMessage h s = .ok n') : n'.mesh.table = n.mesh.table := by
  cases digest_effect ran with
  | publish _ ran =>
      obtain ⟨_, _, mid, c, _, created, ⟨_, set⟩ | ⟨_, rfl | ⟨_, _, set⟩⟩⟩ :=
        applyPublishStatement_cases ran
      · rw [(setPublisher_spec set).table, created.mesh]
      · rw [created.mesh]
      · rw [(setPublisher_spec set).table, created.mesh]
  | unpublish _ ran =>
      obtain ⟨_, _, ⟨_, rfl⟩ | ⟨c, _, set⟩⟩ := applyUnpublishStatement_cases ran
      · rfl
      · exact (setPublisher_spec set).table
  | connectTcp _ result =>
      rw [result]
      unfold makeOfferTcp
      split
      · exact Mesh.table_send _ h _
      · rfl
  | connectShm _ result =>
      rw [result]
      unfold makeOfferShm
      split
      · exact Mesh.table_send _ h _
      · rfl
  | offerTcp _ ran =>
      unfold answerOfferTcp at ran
      dsimp only at ran
      split at ran
      · exact (connectTcp_connecting ran).table
      · rw [pure_eq_ok.mp ran]
  | offerShm _ ran =>
      unfold answerOfferShm at ran
      dsimp only at ran
      split at ran
      · exact (connectShm_connecting ran).table
      · rw [pure_eq_ok.mp ran]
  | unknown same => rw [same]

private theorem publish_table {n n' : Node} {name : Str} (ran : n.publish name = .ok n') :
    n'.mesh.table = n.mesh.table := by
  obtain ⟨mid, c, _, created, ⟨_, rfl⟩ | ⟨_, set, done, rfl⟩⟩ := publish_cases ran
  · rw [created.mesh]
  · refine (set.mesh.table_broadcast _).trans ?_
    rw [(setPublisher_spec done).table, created.mesh]

private theorem unpublish_table {n n' : Node} {name : Str} (ran : n.unpublish name = .ok n') :
    n'.mesh.table = n.mesh.table := by
  rcases unpublish_cases ran with ⟨_, rfl⟩ | ⟨c, mid, _, set, connecting⟩
  · rfl
  · exact connecting.table.trans set.table

private theorem subscribe_table {n n' : Node} {name : Str} (ran : n.subscribe name = .ok n') :
    n'.mesh.table = n.mesh.table := by
  obtain ⟨mid, c, _, created, connected⟩ := subscribe_cases ran
  refine (connect_connecting connected).table.trans ?_
  exact congrArg Mesh.table created.mesh

private theorem closeAllChannels_table {n n' : Node} {h : HostPtr}
    (ran : n.closeAllChannels h = .ok n') : n'.mesh.table = n.mesh.table :=
  (closeAllChannels_spec ran).1

/-- No reaction changes who the process is. -/
theorem step_self {n n' : Node} {input : Input} (stepped : Step n input n') :
    n'.mesh.self = n.mesh.self := by
  cases input with
  | addHost ip port => exact pure_eq_ok.mp stepped ▸ n.mesh.self_addHost ip port
  | publish name => exact Mesh.self_of_table (publish_table stepped)
  | unpublish name => exact Mesh.self_of_table (unpublish_table stepped)
  | subscribe name => exact Mesh.self_of_table (subscribe_table stepped)
  | announce =>
      exact pure_eq_ok.mp stepped ▸
        Mesh.self_of_table (broadcastPublishedChannels_connecting n).table
  | connected k c =>
      have result := pure_eq_ok.mp stepped
      unfold connected at result
      dsimp only at result
      split at result
      · exact result ▸ Mesh.self_welcome _ _
      · exact result ▸ rfl
  | accepted ip port c => exact pure_eq_ok.mp stepped ▸ rfl
  | line k s =>
      cases line_effect stepped with
      | ignored same => rw [same]
      | incoming _ result => exact result ▸ n.mesh.self_handleIncomingConnection k s
      | id h _ result => exact result ▸ Mesh.self_send _ h _
      | you _ _ _ result => exact result ▸ rfl
      | host _ _ _ _ result => exact result ▸ n.mesh.self_addHost _ _
      | connected h _ mid published result =>
          obtain ⟨m, table, same⟩ := broadcastPublishedChannels_mesh
            { n with mesh := receiveConnected n.mesh h }
          rw [result, Mesh.broadcastHosts, Mesh.self_broadcast, published, same]
          exact (Mesh.self_of_table table).trans (self_receiveConnected n.mesh h)
      | statement _ _ _ digested => exact Mesh.self_of_table (digestMessage_table digested)
  | eof k =>
      obtain ⟨mid, left, rest⟩ := bind_eq_ok.mp stepped
      obtain rfl := pure_eq_ok.mp rest
      rcases signalingClosed_cases left with ⟨rfl, _⟩ | ⟨h, current, _, _, looped⟩
      · rfl
      · have closed := Mesh.self_of_table (closeAllChannels_table looped)
        exact closed
  | dataConnected k c => exact Mesh.self_of_table (dataConnected_connecting stepped).table
  | dataAccepted c ip port conn =>
      refine pure_eq_ok.mp stepped ▸ ?_
      unfold acceptSubscriptor
      split <;> rfl
  | dataEof k => exact Mesh.self_of_table (dataEof_quiet stepped).table

end Node

open Node Listening in
/-- The entries that a reaction may take out of service. -/
def Node.Lost (n : Node) (input : Node.Input) (h : HostPtr) : Prop :=
  n.mesh.moved input = some h ∨ n.Disconnects h input

namespace Listening

open Node Mesh

variable {o : Listening} {n' : Node} {lost : HostPtr → Prop}

private theorem evolves_table {m m' : Mesh} (wired : m.wiring.Wired) (listed : m.Listed)
    (table : m'.table = m.table) : Evolves m m' lost :=
  evolves_same wired listed (wiring_of_table table) (hosts_of_table table)

private theorem wiring_hostLost (m : Mesh) (h : HostPtr) (current : SockPtr) :
    (hostLost m h current).wiring = m.wiring.setReady h false := by
  unfold hostLost
  rw [wiring_setSock, wiring_setReady]
  all_goals exact fun _ => rfl

/-- A socket whose thread runs has been allocated. -/
private theorem known_of_thread {m : Mesh} {k : SockPtr} (wired : m.wiring.Wired)
    (runs : (m.sock k).thread ≠ .idle) : k < m.sock.next := by
  by_contra outside
  exact runs (wired.sockBound k (Nat.not_lt.mp outside)).2

private theorem new_connection {m : Mesh} {c : ConnId} (wired : m.wiring.Wired)
    (fresh : ∀ k < m.sock.next, (m.sock k).thread.connection ≠ some c) (k : SockPtr) :
    m.wiring.thread k ≠ .receiving c := by
  intro receiving
  have runs : (m.sock k).thread = .receiving c := receiving
  refine fresh k (known_of_thread wired ?_) (Thread.connection_eq_some.mpr runs)
  rw [runs]
  exact nofun

private theorem connected_evolves {k : SockPtr} {c : ConnId} (wired : o.node.mesh.wiring.Wired)
    (listed : o.node.mesh.Listed) (env : FromPeers o (.connected k c)) :
    Evolves o.node.mesh (o.node.connected k c).mesh lost := by
  obtain ⟨⟨connecting, _⟩, fresh, _⟩ := env
  have opened : Evolves o.node.mesh (o.node.mesh.setSock k (·.connected c)) lost := by
    have wiring := o.node.mesh.wiring_setThread k (·.connected c) (fun _ => rfl)
    refine ⟨?_, listed, ?_⟩
    · rw [wiring]
      refine wired.setThread (known_of_thread wired ?_) ?_
      · rw [connecting]
        exact nofun
      · rintro k' c' ⟨⟩
        exact new_connection wired fresh k'
    · intro h c' _ serves
      rw [wiring]
      refine serves.setThread ?_
      intro owns
      obtain ⟨_, k', owns', receiving⟩ := serves
      rw [owns, Option.some.injEq] at owns'
      subst owns'
      exact absurd (connecting.symm.trans receiving) nofun
  unfold connected
  dsimp only
  split
  · exact opened.trans (evolves_same opened.wired opened.listed (wiring_welcome _ _)
      (hosts_welcome _ _))
  · exact opened

private theorem accepted_evolves {ip : Str} {port : Int32} {c : ConnId}
    (wired : o.node.mesh.wiring.Wired) (listed : o.node.mesh.Listed)
    (env : FromPeers o (.accepted ip port c)) :
    Evolves o.node.mesh (o.node.accepted ip port c).mesh lost := by
  have wiring : (o.node.accepted ip port c).mesh.wiring =
      o.node.mesh.wiring.addSock (some .incoming) (.receiving c) :=
    o.node.mesh.wiring_allocSock _
  refine ⟨?_, listed, ?_⟩
  · rw [wiring]
    refine wired.addSock (fun _ => nofun) ?_
    rintro k c' ⟨⟩
    exact new_connection wired env.1 k
  · intro h c' _ serves
    rw [wiring]
    exact serves.addSock wired

private theorem line_evolves {k : SockPtr} {s : Str} (wired : o.node.mesh.wiring.Wired)
    (listed : o.node.mesh.Listed) (ran : o.node.line k s = .ok n') :
    Evolves o.node.mesh n'.mesh (o.node.Lost (.line k s)) := by
  cases line_effect ran with
  | ignored same => exact evolves_same wired listed (by rw [same]) (by rw [same])
  | incoming listener result =>
      have evolved := evolves_incoming (s := s) wired listed listener
      rw [result]
      exact ⟨evolved.wired, evolved.listed, fun h c kept =>
        evolved.serves h c fun isMoved => kept (.inl isMoved)⟩
  | id h _ result =>
      rw [result]
      refine evolves_same wired listed ?_ ?_
      · refine (wiring_send _ h _).trans ?_
        exact wiring_setHost _ h _ (fun _ => rfl) (fun _ => rfl)
      · exact (hosts_of_table (table_send _ h _)).trans rfl
  | you h _ _ result =>
      have wiring : (receiveYou o.node.mesh s).wiring =
          o.node.mesh.wiring.setReady o.node.mesh.me true :=
        wiring_setReady _ _ _ (fun _ => rfl) (fun _ => rfl)
      rw [result]
      refine ⟨?_, listed, ?_⟩
      · exact wiring ▸ wired.setReady
      · exact fun h c _ serves => wiring ▸ serves.becomesReady
  | host h _ _ _ result => exact result ▸ evolves_addHost wired listed _ _
  | connected h listener mid published result =>
      have wiring : (receiveConnected o.node.mesh h).wiring =
          o.node.mesh.wiring.setReady h true :=
        (wiring_pushUnlessKnown _ _ h).trans (wiring_setReady _ h _ (fun _ => rfl) (fun _ => rfl))
      have evolved : Evolves o.node.mesh (receiveConnected o.node.mesh h)
          (o.node.Lost (.line k s)) := by
        refine ⟨wiring ▸ wired.setReady, ?_, fun h c _ serves => wiring ▸ serves.becomesReady⟩
        have known : h < o.node.mesh.host.next := by
          by_contra outside
          have owns := (wired.owned h k).mpr listener
          rw [wired.hostBound h (Nat.not_lt.mp outside)] at owns
          cases owns
        have next : (receiveConnected o.node.mesh h).host.next = o.node.mesh.host.next :=
          congrArg Wiring.hosts wiring
        unfold Mesh.Listed
        rw [next]
        unfold receiveConnected pushUnlessKnown
        dsimp only
        split
        · exact listed
        · intro h' member
          rcases List.mem_append.mp (show h' ∈ o.node.mesh.hosts ++ [h] from member) with old | new
          · exact listed h' old
          · exact List.mem_singleton.mp new ▸ known
      obtain ⟨m, table, same⟩ := broadcastPublishedChannels_mesh
        { o.node with mesh := receiveConnected o.node.mesh h }
      have announced : mid.mesh.table = (receiveConnected o.node.mesh h).table := by
        rw [published, same]
        exact table
      rw [result]
      exact evolved.trans (evolves_table evolved.wired evolved.listed
        ((table_broadcast _ _).trans announced))
  | statement h listener ready digested => exact evolves_table wired listed (digestMessage_table digested)

private theorem eof_evolves {k : SockPtr} (wired : o.node.mesh.wiring.Wired)
    (listed : o.node.mesh.Listed) (env : FromPeers o (.eof k)) (ran : o.node.eof k = .ok n') :
    Evolves o.node.mesh n'.mesh (o.node.Lost (.eof k)) := by
  have known : k < o.node.mesh.sock.next := by
    refine known_of_thread wired ?_
    intro idle
    exact env (by rw [idle]; rfl)
  have notOwner : ∀ h, ¬ o.node.Lost (.eof k) h → o.node.mesh.wiring.socket h ≠ some k := by
    intro h kept owns
    exact kept (.inr ⟨k, rfl, (wired.owned h k).mp owns⟩)
  have ends : ∀ (sock : TCPSocket SignalingListener) (c : ConnId),
      sock.reconnectOrEnd.thread ≠ .receiving c := by
    intro sock c
    unfold TCPSocket.reconnectOrEnd
    split <;> exact nofun
  -- the last part: the thread dials again or ends
  have last : ∀ (m : Mesh), m.wiring.Wired → m.Listed → m.wiring.socks = o.node.mesh.wiring.socks →
      (∀ h, ¬ o.node.Lost (.eof k) h → m.wiring.socket h ≠ some k) →
      Evolves m (m.setSock k (·.reconnectOrEnd)) (o.node.Lost (.eof k)) := by
    intro m mWired mListed socks others
    have wiring := m.wiring_setThread k (·.reconnectOrEnd) TCPSocket.reconnectOrEnd_listeners
    refine ⟨?_, mListed, ?_⟩
    · rw [wiring]
      refine mWired.setThread (socks ▸ known) ?_
      intro k' c same
      exact absurd same (ends _ c)
    · intro h c kept serves
      rw [wiring]
      exact serves.setThread (others h kept)
  have closed := o.node.mesh.wiring_setSock k (·.closeFd) (fun _ => rfl) (fun _ => rfl)
  obtain ⟨mid, left, rest⟩ := bind_eq_ok.mp ran
  obtain rfl := pure_eq_ok.mp rest
  rcases signalingClosed_cases left with ⟨rfl, _⟩ | ⟨h, current, listener, _, looped⟩
  · have first : Evolves o.node.mesh (o.node.mesh.setSock k (·.closeFd))
        (o.node.Lost (.eof k)) := evolves_same wired listed closed rfl
    refine first.trans (last _ first.wired first.listed (by rw [closed]) ?_)
    rw [closed]
    exact notOwner
  · have lostHost : o.node.Disconnects h (.eof k) := by
      refine ⟨k, rfl, ?_⟩
      simpa only [setSock_sock, Heap.modify_self, TCPSocket.closeFd] using listener
    have wiring : mid.mesh.wiring = o.node.mesh.wiring.setReady h false := by
      rw [wiring_of_table (closeAllChannels_table looped)]
      exact (wiring_hostLost _ h current).trans (by rw [closed])
    have first : Evolves o.node.mesh mid.mesh (o.node.Lost (.eof k)) := by
      refine ⟨wiring ▸ wired.setReady, ?_, ?_⟩
      · unfold Mesh.Listed
        have next : mid.mesh.host.next = o.node.mesh.host.next := congrArg Wiring.hosts wiring
        rw [next, hosts_of_table (closeAllChannels_table looped)]
        exact listed
      · intro h' c kept serves
        rw [wiring]
        refine serves.setReady ?_
        rintro rfl
        exact kept (.inr lostHost)
    refine first.trans (last _ first.wired first.listed (by rw [wiring]; rfl) ?_)
    rw [wiring]
    exact notOwner

private theorem step_evolves {input : Node.Input} (wired : o.node.mesh.wiring.Wired)
    (listed : o.node.mesh.Listed) (env : FromPeers o input) (stepped : Step o.node input n') :
    Evolves o.node.mesh n'.mesh (o.node.Lost input) := by
  cases input with
  | addHost ip port => exact pure_eq_ok.mp stepped ▸ evolves_addHost wired listed ip port
  | publish name => exact evolves_table wired listed (publish_table stepped)
  | unpublish name => exact evolves_table wired listed (unpublish_table stepped)
  | subscribe name => exact evolves_table wired listed (subscribe_table stepped)
  | announce =>
      exact pure_eq_ok.mp stepped ▸
        evolves_table wired listed (broadcastPublishedChannels_connecting o.node).table
  | connected k c => exact pure_eq_ok.mp stepped ▸ connected_evolves wired listed env
  | accepted ip port c => exact pure_eq_ok.mp stepped ▸ accepted_evolves wired listed env
  | line k s => exact line_evolves wired listed stepped
  | eof k => exact eof_evolves wired listed env stepped
  | dataConnected k c =>
      exact evolves_table wired listed (dataConnected_connecting stepped).table
  | dataAccepted c ip port conn =>
      refine pure_eq_ok.mp stepped ▸ evolves_table wired listed ?_
      unfold acceptSubscriptor
      split <;> rfl
  | dataEof k => exact evolves_table wired listed (dataEof_quiet stepped).table

/-! ## The law -/

/-- The entry that moves to another connection is not a publisher. -/
def KeepsPublishers (o : Listening) (input : Node.Input) : Prop :=
  ∀ h, o.node.mesh.moved input = some h → h ≠ o.node.mesh.me →
    ∀ c, (o.node.chan c).publisher ≠ some h

/-- What every step keeps: the tables and the registry are in order. -/
structure Tracked (o : Listening) : Prop where
  wired : o.node.mesh.wiring.Wired
  listed : o.node.mesh.Listed
  named : Named o.node

/-- The end of a connection closes all channels of its Host. -/
private theorem disconnects_clears {n n' : Node} {h : HostPtr} {c : ChanPtr} {input : Node.Input}
    (vacant : Vacant n c) (stepped : Step n input n') (disconnects : n.Disconnects h input)
    (published : (n.chan c).publisher = some h) : (n'.chan c).publisher = none := by
  obtain ⟨k, rfl, listener⟩ := disconnects
  have listeners : ((n.mesh.setSock k (·.closeFd)).sock k).listeners =
      (n.mesh.sock k).listeners := by
    simp only [setSock_sock, Heap.modify_self, TCPSocket.closeFd]
  obtain ⟨mid, left, rest⟩ := bind_eq_ok.mp stepped
  obtain rfl := pure_eq_ok.mp rest
  rcases signalingClosed_cases left with ⟨rfl, other⟩ | ⟨h', current, listener', _, looped⟩
  · exact absurd (listeners.trans listener) (other h)
  · rw [listeners, listener, Option.some.injEq, SignalingListener.host.injEq] at listener'
    subst listener'
    have publisher := (closeAllChannels_spec looped).2.2 c vacant
    rwa [if_pos published] at publisher

/-- A publisher that stays has not withdrawn the channel on its connection. -/
private theorem announced_kept {c : ChanPtr} {h : HostPtr} {conn : ConnId} {input : Node.Input}
    (tracked : Tracked o) (stepped : Step o.node input n')
    (published : (o.node.chan c).publisher = some h) (kept : (n'.chan c).publisher = some h)
    (serves : o.node.mesh.wiring.Serves h conn)
    (announced : Announced o.heard conn (o.node.chan c).name) :
    Announced (o.heard ++ heardBy o.node input) conn (o.node.chan c).name := by
  refine announced_append announced ?_
  rintro s heard ⟨starts, named⟩
  have known : c < o.node.chan.next := by
    by_contra outside
    rw [tracked.named.vacant c (Nat.not_lt.mp outside)] at published
    cases published
  cases input with
  | line k s' =>
      simp only [heardBy, Option.mem_toList, Option.map_eq_some_iff, Prod.mk.injEq] at heard
      obtain ⟨conn', receiving, rfl, rfl⟩ := heard
      rw [Thread.connection_eq_some] at receiving
      obtain ⟨ready, k', owns, receiving'⟩ := serves
      obtain rfl := tracked.wired.unique k k' conn' receiving receiving'
      have speaks : o.node.Speaks h s' (.line k s') :=
        ⟨k, rfl, (tracked.wired.owned h k).mp owns, ready⟩
      have withdraws := Withdraws.statement speaks starts named (tracked.named.getChannel known)
      obtain ⟨_, mid, set, connecting⟩ := withdraws.ran stepped
      rw [connecting.chan, (setPublisher_spec set).publisher c, if_pos rfl] at kept
      cases kept
  | _ => cases heard

/-- The channel that a `PUBLISH=` of type `P` sets has the name in the statement. -/
private theorem announced_name {n n' : Node} {k : SockPtr} {h : HostPtr} {c : ChanPtr}
    {s name : Str} (listener : (n.mesh.sock k).listeners = some (.host h))
    (ready : (n.mesh.host h).bReady = true) (starts : strStartsWith s "PUBLISH=".toList = true)
    (named : statementName (strAfter s ['=']) = .ok name) (found : n.channelOf name = c)
    (type : (strAfter s ['=']).headD NUL = 'P') (stepped : Step n (.line k s) n') :
    (n'.chan c).name = name := by
  have digested := (line_keyword listener ready .publish starts).symm.trans stepped
  rw [digest_publish starts] at digested
  obtain ⟨name', named', mid, d, same, created, ⟨_, set⟩ | ⟨otherType, _⟩⟩ :=
    applyPublishStatement_cases digested
  · obtain rfl : name = name' := Except.ok.inj (named.symm.trans named')
    obtain rfl : d = c := (congrArg Prod.snd same).symm.trans found
    exact ((setPublisher_spec set).name d).trans created.named
  · exact absurd type otherType

variable {o' : Listening} {input : Node.Input}

private theorem tracked_step (tracked : Tracked o) (env : FromPeers o input)
    (hear : Hear o input o') : Tracked o' := by
  obtain ⟨stepped, _⟩ := hear_iff.mp hear
  have evolved := step_evolves tracked.wired tracked.listed env stepped
  exact ⟨evolved.wired, evolved.listed, (step_keepsRegistry stepped).named tracked.named⟩

private theorem current_step (tracked : Tracked o) (current : NoStalePublisher o)
    (env : FromPeers o input) (keeps : KeepsPublishers o input) (hear : Hear o input o') :
    NoStalePublisher o' := by
  obtain ⟨stepped, heard⟩ := hear_iff.mp hear
  have evolved := step_evolves tracked.wired tracked.listed env stepped
  have registry := step_keepsRegistry stepped
  have me : o'.node.mesh.me = o.node.mesh.me := Mesh.me_of_self (step_self stepped)
  intro c h published remote
  rw [me] at remote
  have vacant := tracked.named.vacant c
  cases publisher_effect stepped vacant with
  | withdrawn _ _ cleared => rw [cleared] at published; cases published
  | disconnected _ _ _ cleared => rw [cleared] at published; cases published
  | learnt _ s _ speaks starts otherType _ _ =>
      obtain ⟨k, rfl, _⟩ := speaks
      exact absurd (env.2.2 starts) otherType
  | kept same =>
      have before : (o.node.chan c).publisher = some h := same ▸ published
      obtain ⟨conn, serves, announced⟩ := current c h before remote
      have known : c < o.node.chan.next := by
        by_contra outside
        rw [vacant (Nat.not_lt.mp outside)] at before
        cases before
      refine ⟨conn, evolved.serves h conn ?_ serves, ?_⟩
      · rintro (isMoved | disconnects)
        · exact keeps h isMoved remote c before
        · have cleared := disconnects_clears vacant stepped disconnects before
          rw [cleared] at published
          cases published
      · rw [heard, registry.name c known]
        exact announced_kept tracked stepped before published serves announced
  | announced h' announces _ set =>
      obtain rfl : h' = h := Option.some.inj (set.symm.trans published)
      cases announces with
      | call own => exact absurd own remote
      | @statement _ s name speaks starts named found type =>
          obtain ⟨k, rfl, listener, ready⟩ := speaks
          obtain ⟨conn, receiving⟩ := Option.ne_none_iff_exists'.mp env.1
          have serves : o.node.mesh.wiring.Serves h' conn :=
            ⟨ready, k, (tracked.wired.owned h' k).mpr listener,
              Thread.connection_eq_some.mp receiving⟩
          refine ⟨conn, evolved.serves h' conn ?_ serves, ?_⟩
          · rintro (isMoved | ⟨_, impossible, _⟩)
            · simp only [moved, listener, Option.some.injEq, reduceCtorEq, false_and,
                ↓reduceIte] at isMoved
            · cases impossible
          · rw [heard]
            refine ⟨o.heard, s, [], ?_, ⟨starts, type, ?_⟩, by simp⟩
            · simp only [heardBy, receiving, Option.map_some, Option.toList_some]
            · rw [named, announced_name listener ready starts named found type stepped]

/-- What `moved` means for the entry. -/
private theorem moved_cases {m : Mesh} {h : HostPtr} (isMoved : m.moved input = some h) :
    ∃ k s, input = .line k s ∧ (m.sock k).listeners = some .incoming ∧
      strStartsWith s "ID=".toList = true ∧ m.handleIncomingConnection k s = m.adoptSocket h k := by
  unfold moved at isMoved
  split at isMoved
  · next k s =>
    split at isMoved
    · next first =>
      obtain ⟨incoming, starts⟩ := first
      refine ⟨k, s, rfl, incoming, starts, ?_⟩
      split at isMoved
      · cases isMoved
      · next found =>
        split at isMoved
        · next adopts =>
          obtain rfl := Option.some.inj isMoved
          simp only [handleIncomingConnection, starts, ↓reduceIte, found, adopts]
        · cases isMoved
    · cases isMoved
  · cases isMoved

/-- Nothing has been announced on the connection that a publisher moves to. -/
private theorem moved_stale {h : HostPtr} {c : ChanPtr} (env : FromPeers o input)
    (hear : Hear o input o') (isMoved : o.node.mesh.moved input = some h)
    (remote : h ≠ o.node.mesh.me) (published : (o.node.chan c).publisher = some h) :
    ¬ NoStalePublisher o' := by
  intro current
  obtain ⟨stepped, heard⟩ := hear_iff.mp hear
  have me : o'.node.mesh.me = o.node.mesh.me := Mesh.me_of_self (step_self stepped)
  obtain ⟨k, s, rfl, incoming, starts, adopts⟩ := moved_cases isMoved
  have reacted : o.node.line k s =
      .ok { o.node with mesh := o.node.mesh.handleIncomingConnection k s } := by
    rw [line, incoming]
    rfl
  have result := Except.ok.inj (reacted.symm.trans stepped)
  rw [adopts] at result
  rw [← result] at me
  obtain ⟨conn, ⟨_, k', owns, receiving⟩, before, s', after, entries, isPublish, _⟩ :=
    current c h (by rw [← result]; exact published) (by rw [← result, me]; exact remote)
  rw [← result, wiring_adoptSocket] at owns receiving
  obtain rfl : k = k' := by
    simpa only [Wiring.attach, Function.update_self, Option.some.injEq] using owns
  have sameThread : (o.node.mesh.sock k).thread = .receiving conn := by
    refine Eq.trans ?_ receiving
    unfold Wiring.attach Wiring.release
    split <;> rfl
  have connection := Thread.connection_eq_some.mpr sameThread
  have added : heardBy o.node (.line k s) = [(conn, s)] := by
    simp only [heardBy, connection, Option.map_some, Option.toList_some]
  have member : (conn, s') ∈ o.heard ++ [(conn, s)] := by
    rw [← added, ← heard, entries]
    exact List.mem_append_right _ List.mem_cons_self
  rcases List.mem_append.mp member with old | new
  · exact env.2.1 starts _ old connection
  · obtain rfl : s' = s := (Prod.mk.inj (List.mem_singleton.mp new)).2
    have notPublish : strStartsWith s' "PUBLISH=".toList = false :=
      strStartsWith_eq_false starts (by decide)
    exact Bool.false_ne_true (notPublish.symm.trans isPublish.1)

/-- A node with what it has heard, behind `init()`. -/
def init (ID port : Int32) (bindPort : ChanPtr → DataPort) : Listening :=
  ⟨Node.init ID port bindPort, []⟩

private theorem tracked_init (ID port : Int32) (bindPort : ChanPtr → DataPort) :
    Tracked (init ID port bindPort) := by
  refine ⟨wired_init ID port, ?_, named_init ID port bindPort⟩
  intro h member
  exact List.mem_singleton.mp member ▸ Nat.zero_lt_one

/-- In every run a node never has a stale remote publisher exactly if no step moves
the entry of the publisher of a channel to another connection. -/
theorem always_noStalePublisher_iff {ID port : Int32} {bindPort : ChanPtr → DataPort}
    {trace : List (Node.Input × Listening)}
    (ran : Every (Under FromPeers Hear) (init ID port bindPort) trace) :
    Always NoStalePublisher (init ID port bindPort) trace ↔
      Every (fun o input _ => KeepsPublishers o input) (init ID port bindPort) trace := by
  refine ran.always_iff nofun (tracked_init ID port bindPort) ?_ ?_
  · intro o input o' tracked both
    exact tracked_step tracked both.1 both.2
  · intro o input o' current tracked both
    constructor
    · intro after h isMoved remote c published
      exact moved_stale both.1 both.2 isMoved remote published after
    · intro keeps
      exact current_step tracked current both.1 keeps both.2

/-- `KeepsPublishers`, as a test of the channels there are. -/
private def keepsPublishers (o : Listening) (input : Node.Input) : Bool :=
  (o.node.mesh.moved input).all fun h =>
    (List.range o.node.chan.next).all fun c => (o.node.chan c).publisher != some h

private theorem keepsPublishers_of_test (named : Named o.node)
    (test : keepsPublishers o input = true) : KeepsPublishers o input := by
  intro h isMoved _ c published
  by_cases known : c < o.node.chan.next
  · simp only [keepsPublishers, isMoved, Option.all_some, List.all_eq_true, List.mem_range,
      bne_iff_ne] at test
    exact test c known published
  · rw [named.vacant c (Nat.le_of_not_lt known)] at published
    cases published

/-- Host 10.0.0.2 connects and publishes `c`, its connection ends, it comes back to the
entry it had and publishes `c` again. -/
theorem publish_noStalePublisher : ∃ trace o',
    Every (Under FromPeers Hear) (init 1 10000 firstPort)
        (trace ++ [(Input.line 1 "PUBLISH=Pc|10.0.0.2:10000".toList, o')]) ∧
      Always NoStalePublisher (init 1 10000 firstPort)
        (trace ++ [(Input.line 1 "PUBLISH=Pc|10.0.0.2:10000".toList, o')]) ∧
      (o'.node.chan 0).publisher = some 1 ∧ 1 ≠ o'.node.mesh.me ∧
      (o'.node.mesh.host 1).socket = some 1 ∧ (o'.node.mesh.sock 0).thread = .ended := by
  have replayed : replay react
      (fun o input => decide (FromPeers o input) && keepsPublishers o input)
      (fun _ o => (o.node.chan 0).publisher = some 1 ∧ 1 ≠ o.node.mesh.me ∧
        (o.node.mesh.host 1).socket = some 1 ∧ (o.node.mesh.sock 0).thread = .ended)
      (.line 1 "PUBLISH=Pc|10.0.0.2:10000".toList) (init 1 10000 firstPort)
      [.accepted "10.0.0.2".toList 40000 0, .line 0 "ID=2|PORT=10000".toList,
        .line 0 "YOU=10.0.0.1".toList, .line 0 "CONNECTED".toList,
        .line 0 "PUBLISH=Pc|10.0.0.2:10000".toList, .eof 0,
        .accepted "10.0.0.2".toList 40001 1, .line 1 "ID=2|PORT=10000".toList,
        .line 1 "YOU=10.0.0.1".toList, .line 1 "CONNECTED".toList] = true := by decide +kernel
  obtain ⟨trace, o', allowed, checked⟩ := replay_run replayed
  have peers : ∀ o input o', Under (fun o input =>
        (decide (FromPeers o input) && keepsPublishers o input) = true) Hear o input o' →
      Under FromPeers Hear o input o' := fun _ _ _ both =>
    ⟨of_decide_eq_true (Bool.and_eq_true_iff.mp both.1).1, both.2⟩
  refine ⟨trace, o', allowed.mono peers, (always_noStalePublisher_iff (allowed.mono peers)).mpr ?_,
    of_decide_eq_true checked⟩
  refine allowed.every_of_steps (tracked_init 1 10000 firstPort) ?_ ?_
  · exact fun o input o' tracked both => tracked_step tracked (peers o input o' both).1 both.2
  · exact fun o input o' tracked both =>
      keepsPublishers_of_test tracked.named (Bool.and_eq_true_iff.mp both.1).2

/-- Host 10.0.0.2 connects and publishes `c`; then it connects again before the end
of its first connection has been noticed. -/
theorem not_always_noStalePublisher :
    ¬ ∀ (ID port : Int32) (bindPort : ChanPtr → DataPort) (trace : List (Node.Input × Listening)),
      Every (Under FromPeers Hear) (init ID port bindPort) trace →
        Always NoStalePublisher (init ID port bindPort) trace := by
  intro law
  let greeting : Node.Input := .line 1 "ID=2|PORT=10000".toList
  have replayed : replay react (fun o input => decide (FromPeers o input)) (fun o _ =>
        decide (FromPeers o greeting) ∧ o.node.mesh.moved greeting = some 1 ∧
          1 ≠ o.node.mesh.me ∧ (o.node.chan 0).publisher = some 1)
      greeting (init 1 10000 firstPort)
      [.accepted "10.0.0.2".toList 40000 0, .line 0 "ID=2|PORT=10000".toList,
        .line 0 "YOU=10.0.0.1".toList, .line 0 "CONNECTED".toList,
        .line 0 "PUBLISH=Pc|10.0.0.2:10000".toList,
        .accepted "10.0.0.2".toList 40001 1] = true := by decide
  obtain ⟨trace, o', allowed, checked⟩ := replay_run replayed
  obtain ⟨env, isMoved, remote, published⟩ := of_decide_eq_true checked
  have ran : Every (Under FromPeers Hear) (init 1 10000 firstPort) (trace ++ [(greeting, o')]) :=
    allowed.mono fun _ _ _ both => ⟨of_decide_eq_true both.1, both.2⟩
  have hear := ((every_append _ _).mp ran).2.1.2
  have good := (law _ _ _ _ ran).final
  rw [final_concat] at good
  exact moved_stale (of_decide_eq_true env) hear isMoved remote published good

end Listening

end LibPubSub
