import LibPubSub.Subscriptions
import LibPubSub.Writes

/-! Who is the publisher of a channel, seen from all nodes of a network at once.
Nothing arbitrates between announcements: a node believes the last one that it
made or received, so all agree only when no two of them cross. -/

set_option autoImplicit false

namespace LibPubSub

open Fallible Transition

namespace Node

/-! ## One node -/

/-- The node has the channel and `p` is its publisher. -/
def Believes (n : Node) (name : Str) (p : Option HostPtr) : Prop :=
  ∃ c, n.getChannel name = some c ∧ (n.chan c).publisher = p

/-- Nobody at this node has subscribed to the channel. -/
def Unsubscribed (n : Node) (name : Str) : Prop :=
  ∀ c, n.getChannel name = some c → (n.chan c).subscriptions = []

/-- Without subscriptions `setPublisher` has nothing to disconnect or connect. -/
theorem setPublisher_unsubscribed {n : Node} {c : ChanPtr} (p : Option HostPtr)
    (empty : (n.chan c).subscriptions = []) :
    n.setPublisher c p = .ok (n.replacePublisher c p) := by
  have nothing : n.disconnectOther c p = .ok n := by
    unfold disconnectOther disconnect
    rw [empty]
    split <;> rfl
  have noWish : (n.replacePublisher c p).connectWanted c = .ok (n.replacePublisher c p) := by
    unfold connectWanted
    rw [replacePublisher_chan, if_neg fun wanted => wanted.1 empty]
    rfl
  unfold setPublisher
  rw [nothing]
  exact noWish

theorem getChannel_replacePublisher (n : Node) (name : Str) (c : ChanPtr) (p : Option HostPtr) :
    (n.replacePublisher c p).getChannel name = n.getChannel name := by
  have next : (n.replacePublisher c p).chan.next = n.chan.next := rfl
  refine getChannel_congr next ?_ name
  intro d
  by_cases same : d = c
  · rw [same, replacePublisher_chan]
  · rw [replacePublisher_chan_of_ne _ _ same]

theorem unsubscribed_getOrCreateChannel {n : Node} {name : Str} (clear : n.Unsubscribed name) :
    ((n.getOrCreateChannel name).1.chan (n.getOrCreateChannel name).2).subscriptions = [] := by
  rcases n.getOrCreateChannel_cases name with ⟨c, found, result⟩ | ⟨_, result⟩
  · rw [result]
    exact clear c found
  · rw [result]
    dsimp only
    rw [Heap.alloc_self]

/-- `setPublisher` on the channel of that name, which it may have to create. -/
theorem setPublisher_getOrCreateChannel {n : Node} {name : Str} (p : Option HostPtr)
    (clear : n.Unsubscribed name) :
    ∃ n' c, n.getOrCreateChannel name = ((n.getOrCreateChannel name).1, c) ∧
      (n.getOrCreateChannel name).1.setPublisher c p = .ok n' ∧ n'.mesh = n.mesh ∧
      n'.getChannel name = some c ∧ (n'.chan c).publisher = p ∧ (n'.chan c).name = name ∧
      n'.Unsubscribed name := by
  have created := n.getOrCreateChannel_created name
  have empty := unsubscribed_getOrCreateChannel clear
  have found : ((n.getOrCreateChannel name).1.replacePublisher
      (n.getOrCreateChannel name).2 p).getChannel name = some (n.getOrCreateChannel name).2 :=
    (getChannel_replacePublisher _ name _ p).trans (n.getChannel_getOrCreateChannel name)
  refine ⟨_, (n.getOrCreateChannel name).2, rfl, setPublisher_unsubscribed p empty,
    created.mesh, found, ?_, ?_, ?_⟩
  · rw [replacePublisher_chan]
  · rw [replacePublisher_chan]
    exact created.named
  · intro d found'
    obtain rfl := Option.some.inj (found.symm.trans found')
    rw [replacePublisher_chan]
    exact empty

/-- What a node says when it publishes. -/
def announcement (m : Mesh) (name : Str) : Str :=
  publishLine name (m.host m.me).ip (m.host m.me).port

/-- A node that hears the announcement of `h` believes it. -/
theorem line_announcement {n : Node} {k : SockPtr} {h : HostPtr} {name ip : Str} {port : Int32}
    (listener : (n.mesh.sock k).listeners = some (.host h))
    (ready : (n.mesh.host h).bReady = true) (noBar : '|' ∉ name) (clear : n.Unsubscribed name) :
    ∃ n', n.line k (publishLine name ip port) = .ok n' ∧ n'.mesh = n.mesh ∧
      n'.Believes name (some h) ∧ n'.Unsubscribed name := by
  obtain ⟨n', c, same, set, mesh, found, publisher, _, clear'⟩ :=
    n.setPublisher_getOrCreateChannel (some h) clear
  refine ⟨n', ?_, mesh, ⟨c, found, publisher⟩, clear'⟩
  rw [line_keyword listener ready .publish publishLine_starts, digest_publish publishLine_starts]
  refine bind_eq_ok.mpr ⟨name, statementName_publishLine noBar, ?_⟩
  rw [strAfter_publishLine, same]
  exact (if_pos rfl).trans set

/-- A node that publishes what it does not publish yet says so. -/
theorem publish_announces {n : Node} {name : Str} (clear : n.Unsubscribed name)
    (other : ¬ n.Believes name (some n.mesh.me)) :
    ∃ n', n.publish name = .ok n' ∧ n'.mesh = n.mesh.broadcast (announcement n.mesh name) ∧
      n'.Believes name (some n.mesh.me) ∧ n'.Unsubscribed name := by
  obtain ⟨n', c, same, set, mesh, found, publisher, named, clear'⟩ :=
    n.setPublisher_getOrCreateChannel (some n.mesh.me) clear
  have created := n.getOrCreateChannel_created name
  have isC : (n.getOrCreateChannel name).2 = c := congrArg Prod.snd same
  rw [isC] at created
  have notMe : ((n.getOrCreateChannel name).1.chan c).publisher ≠ some n.mesh.me := by
    intro already
    by_cases known : c < n.chan.next
    · obtain ⟨found, unchanged⟩ := created.found known
      rw [unchanged] at already
      exact other ⟨c, found, already⟩
    · rw [created.fresh (Nat.not_lt.mp known)] at already
      cases already
  have text : ("PUBLISH=".toList ++ n'.channelString c : Str) = announcement n.mesh name := by
    unfold channelString getType
    rw [publisher, mesh, if_pos rfl, named]
    rfl
  refine ⟨n'.broadcast (announcement n.mesh name), ?_, ?_, ⟨c, found, publisher⟩, clear'⟩
  · unfold publish publishChannel
    rw [same]
    dsimp only
    rw [created.mesh, if_neg notMe, set, ← text]
    rfl
  · exact congrArg (Mesh.broadcast · (announcement n.mesh name)) mesh

/-- A publisher says nothing when it publishes again. -/
theorem publish_again {n : Node} {name : Str} (already : n.Believes name (some n.mesh.me)) :
    n.publish name = .ok n := by
  obtain ⟨c, found, publisher⟩ := already
  unfold publish publishChannel
  rw [getOrCreateChannel_found found]
  dsimp only
  rw [if_pos publisher]
  rfl

end Node

/-! ## A network of connected nodes -/

/-- Who is connected to whom: `host i j` is the Host of `j` at `i`, and `side i j` is
the end of connection `conn i j` that `i` holds. -/
structure Wires (ι : Type) where
  host : ι → ι → HostPtr
  conn : ι → ι → ConnId
  side : ι → ι → End

namespace Network

variable {ι : Type} [DecidableEq ι]

omit [DecidableEq ι] in
/-- All nodes are connected and ready, and nothing is under way. -/
structure Meshed (net : Network ι) (wires : Wires ι) : Prop where
  conn : ∀ i j, i ≠ j → wires.conn j i = wires.conn i j ∧ wires.side j i = (wires.side i j).other
  listed : ∀ i j, i ≠ j → wires.host i j ∈ (net.node i).mesh.peers
  ready : ∀ i j, i ≠ j → ((net.node i).mesh.host (wires.host i j)).bReady = true
  remote : ∀ i j, i ≠ j → wires.host i j ≠ (net.node i).mesh.me
  others : ∀ i, ∀ h ∈ (net.node i).mesh.peers, ((net.node i).mesh.host h).bReady = true →
    ∃ j, i ≠ j ∧ h = wires.host i j
  socket : ∀ i j, i ≠ j → ∃ k, ((net.node i).mesh.host (wires.host i j)).socket = some k ∧
    (net.link (wires.conn i j)).socket (wires.side i j) = some (i, k) ∧
    ((net.node i).mesh.sock k).listeners = some (.host (wires.host i j)) ∧
    ((net.node i).mesh.sock k).Holds (wires.conn i j) ∧
    ((net.node i).mesh.sock k).bStop = false ∧
    ((net.node i).mesh.sock k).side = wires.side i j
  known : ∀ i j, i ≠ j → wires.conn i j < net.link.next
  kept : ∀ c, (net.link c).lost = false
  empty : ∀ c e, (net.link c).queue e = []
  silent : ∀ i, (net.node i).mesh.sent = []
  addressed : ∀ i, LineSafe ((net.node i).mesh.host (net.node i).mesh.me).ip

/-- Which node a Host of node `i` is. -/
def denoted (net : Network ι) (i : ι) (h : HostPtr) : Option ι :=
  if h = (net.node i).mesh.me then some i
  else match ((net.node i).mesh.host h).socket with
    | none => none
    | some k =>
        match ((net.node i).mesh.sock k).thread with
        | .receiving c =>
            if (net.link c).socket .client = some (i, k) then
              ((net.link c).socket .server).map Prod.fst
            else if (net.link c).socket .server = some (i, k) then
              ((net.link c).socket .client).map Prod.fst
            else none
        | _ => none

/-- All nodes that have the channel agree on its publisher, and one node at most
believes that it is the publisher. -/
structure Agreement (net : Network ι) (name : Str) : Prop where
  same : ∀ i i' c c', (net.node i).getChannel name = some c →
    (net.node i').getChannel name = some c' →
    ∃ j, ((net.node i).chan c).publisher.bind (net.denoted i) = some j ∧
      ((net.node i').chan c').publisher.bind (net.denoted i') = some j
  one : ∀ i i', (net.node i).Believes name (some (net.node i).mesh.me) →
    (net.node i').Believes name (some (net.node i').mesh.me) → i = i'

omit [DecidableEq ι] in
/-- No message is in flight. -/
def Silent (net : Network ι) : Prop :=
  ∀ c < net.link.next, (net.link c).queue .client = [] ∧ (net.link c).queue .server = []

instance (net : Network ι) : Decidable (Silent net) :=
  inferInstanceAs (Decidable (∀ c < net.link.next, _ ∧ _))

omit [DecidableEq ι] in
theorem Silent.queue {net : Network ι} (silent : net.Silent) {c : ConnId}
    (known : c < net.link.next) (e : End) : (net.link c).queue e = [] := by
  cases e with
  | client => exact (silent c known).1
  | server => exact (silent c known).2

/-- The runs of interest: calls of `publish(name)` and deliveries. -/
def Announcing (name : Str) : Action ι → Prop
  | .call _ (.publish called) => called = name
  | .deliver _ _ => True
  | _ => False

instance (name : Str) : DecidablePred (Announcing (ι := ι) name)
  | .call _ (.publish _) => inferInstanceAs (Decidable (_ = _))
  | .deliver _ _ => .isTrue trivial
  | .call _ (.addHost _ _) | .call _ (.unpublish _) | .call _ (.subscribe _) => .isFalse id
  | .call _ .announce | .call _ (.connected _ _) | .call _ (.accepted _ _ _) => .isFalse id
  | .call _ (.line _ _) | .call _ (.eof _) | .call _ (.dataConnected _ _) => .isFalse id
  | .call _ (.dataAccepted _ _ _ _) | .call _ (.dataEof _) => .isFalse id
  | .connect _ _ _ | .accept _ _ | .eof _ _ | .lose _ => .isFalse id
  | .dataConnect _ _ _ _ | .dataAccept _ _ => .isFalse id

omit [DecidableEq ι] in
/-- `publish()` at `i` takes effect: `i` is not the publisher already. -/
def TakesEffect (net : Network ι) (name : Str) (action : Action ι) : Prop :=
  ∃ i, action = .call i (.publish name) ∧
    ¬ (net.node i).Believes name (some (net.node i).mesh.me)

omit [DecidableEq ι] in
/-- Something that another node has written is still under way. -/
def Crosses (net : Network ι) (action : Action ι) : Prop :=
  ∃ i input j k, ∃ c < net.link.next, ∃ e, action = .call i input ∧ j ≠ i ∧
    (net.link c).socket e = some (j, k) ∧ (net.link c).queue e.other ≠ []

end Network

/-- A network, and whether the last `publish()` that took effect crossed the
announcement of another node. -/
structure Watched (ι : Type) where
  net : Network ι
  crossed : Prop

namespace Watched

open Network

variable {ι : Type} [DecidableEq ι]

def Watch (topology : Topology ι) (name : Str) (w : Watched ι) (action : Action ι)
    (w' : Watched ι) : Prop :=
  Network.Step topology w.net action w'.net ∧
    (w'.crossed ↔ (TakesEffect w.net name action ∧ Crosses w.net action) ∨
      (¬ TakesEffect w.net name action ∧ w.crossed))

end Watched

namespace Network

variable {ι : Type} [DecidableEq ι] {net start : Network ι} {wires : Wires ι} {name : Str}

/-! ## What is said and where it goes -/

omit [DecidableEq ι] in
theorem Meshed.voice (meshed : Meshed start wires) {i j : ι} (apart : i ≠ j) :
    (start.node i).mesh.voice (wires.host i j) = some (wires.conn i j, wires.side i j) := by
  obtain ⟨k, socket, _, _, ⟨receiving, isOpen⟩, running, side⟩ := meshed.socket i j apart
  unfold Mesh.voice
  simp only [socket, running, receiving, isOpen, side, Bool.false_eq_true, ↓reduceIte]

/-- The Host of `j` at `i` denotes `j`. -/
theorem Meshed.denoted (meshed : Meshed start wires) {i j : ι} (apart : i ≠ j) :
    start.denoted i (wires.host i j) = some j := by
  obtain ⟨k, socket, isEnd, _, ⟨receiving, _⟩, _, _⟩ := meshed.socket i j apart
  obtain ⟨k', _, isEnd', _⟩ := meshed.socket j i apart.symm
  obtain ⟨sameConn, otherSide⟩ := meshed.conn i j apart
  rw [sameConn, otherSide] at isEnd'
  unfold Network.denoted
  rw [if_neg (meshed.remote i j apart)]
  simp only [socket, receiving]
  cases side : wires.side i j with
  | client =>
      rw [side] at isEnd isEnd'
      rw [if_pos isEnd]
      exact congrArg (Option.map Prod.fst) isEnd'
  | server =>
      rw [side] at isEnd isEnd'
      have notClient : (start.link (wires.conn i j)).socket .client ≠ some (i, k) := by
        intro same
        exact apart (Prod.mk.inj (Option.some.inj (same.symm.trans isEnd'))).1
      rw [if_neg notClient, if_pos isEnd]
      exact congrArg (Option.map Prod.fst) isEnd'

/-- What node `i` broadcasts. -/
def Broadcast (start : Network ι) (i : ι) (s : Str) : List (ConnId × End × Str) :=
  ((start.node i).mesh.peers.filter fun h => ((start.node i).mesh.host h).bReady).flatMap
    fun h => utter ((start.node i).mesh.voice h) s

omit [DecidableEq ι] in
theorem Meshed.broadcast_only (meshed : Meshed start wires) {i : ι} {s line : Str} {c : ConnId}
    {e : End} (member : line ∈ written (start.Broadcast i s) c e) :
    line ∈ linesOf s ∧ ∃ j, i ≠ j ∧ c = wires.conn i j ∧ e = wires.side i j := by
  obtain ⟨text, said, inside⟩ := mem_written member
  obtain ⟨h, listed, said⟩ := List.mem_flatMap.mp said
  obtain ⟨isPeer, ready⟩ := List.mem_filter.mp listed
  obtain ⟨j, apart, rfl⟩ := meshed.others i h isPeer ready
  rw [meshed.voice apart] at said
  obtain ⟨rfl, rfl, rfl⟩ : c = wires.conn i j ∧ e = wires.side i j ∧ text = s := by
    simpa [utter] using said
  exact ⟨inside, j, apart, rfl, rfl⟩

omit [DecidableEq ι] in
theorem Meshed.broadcast_all (meshed : Meshed start wires) {i j : ι} (apart : i ≠ j) {s line : Str}
    (inside : line ∈ linesOf s) :
    line ∈ written (start.Broadcast i s) (wires.conn i j) (wires.side i j) := by
  refine List.mem_flatMap.mpr ⟨(wires.conn i j, wires.side i j, s), ?_, ?_⟩
  · refine List.mem_flatMap.mpr ⟨wires.host i j, ?_, ?_⟩
    · exact List.mem_filter.mpr ⟨meshed.listed i j apart, meshed.ready i j apart⟩
    · rw [meshed.voice apart]
      exact List.mem_singleton.mpr rfl
  · rw [if_pos ⟨rfl, rfl⟩]
    exact inside

/-! ## The invariant -/

/-- The Host of `j` in the table of `i`, which is `me` for `i` itself. -/
def hostOf (start : Network ι) (wires : Wires ι) (i j : ι) : HostPtr :=
  if i = j then (start.node i).mesh.me else wires.host i j

theorem Meshed.denoted_hostOf (meshed : Meshed start wires) (i j : ι) :
    start.denoted i (hostOf start wires i j) = some j := by
  unfold hostOf
  split
  · next same =>
    unfold Network.denoted
    rw [if_pos rfl, same]
  · next apart => exact meshed.denoted apart

/-- Nobody has the channel and nothing is under way. -/
def Fresh (net : Network ι) (name : Str) : Prop :=
  (∀ i, (net.node i).getChannel name = none) ∧ ∀ c e, (net.link c).queue e = []

/-- Node `i` has made the last announcement, which all others have heard or will hear. -/
structure Won (net start : Network ι) (wires : Wires ι) (name : Str) (i : ι) : Prop where
  itself : (net.node i).Believes name (some (start.node i).mesh.me)
  only : ∀ c e, ∀ s ∈ (net.link c).queue e, ∃ j, i ≠ j ∧ c = wires.conn i j ∧
    e = (wires.side i j).other
  all : ∀ j, i ≠ j → (net.node j).Believes name (some (wires.host j i)) ∨
    (net.link (wires.conn i j)).queue (wires.side i j).other ≠ []

/-- The tables and connections are those of the start, what is under way are
announcements, and every belief denotes a node. -/
structure Announced (net start : Network ι) (wires : Wires ι) (name : Str) : Prop where
  mesh : ∀ i, (net.node i).mesh = (start.node i).mesh
  clear : ∀ i, (net.node i).Unsubscribed name
  next : net.link.next = start.link.next
  ends : ∀ c e, (net.link c).socket e = (start.link c).socket e
  kept : ∀ c, (net.link c).lost = false
  lines : ∀ c e, ∀ s ∈ (net.link c).queue e, ∃ i j, i ≠ j ∧ c = wires.conn i j ∧
    e = (wires.side i j).other ∧ s = Node.announcement (start.node i).mesh name
  beliefs : ∀ i c, (net.node i).getChannel name = some c → ∃ j,
    ((net.node i).chan c).publisher = some (hostOf start wires i j)

theorem Meshed.announced (meshed : Meshed start wires)
    (absent : ∀ i, (start.node i).getChannel name = none) :
    Announced start start wires name where
  mesh _ := rfl
  clear i c found := by rw [absent i] at found; cases found
  next := rfl
  ends _ _ := rfl
  kept := meshed.kept
  lines c e s member := by rw [meshed.empty c e] at member; cases member
  beliefs i c found := by rw [absent i] at found; cases found

theorem take_same {i : ι} (silent : (net.node i).mesh.sent = []) :
    net.take i (net.node i) = net := by
  have same : { net.node i with mesh := { (net.node i).mesh with sent := [] } } = net.node i := by
    rw [← silent]
  unfold take
  rw [same, silent, Function.update_eq_self]
  simp only [Link.carry_nil]

/-- A node that takes up the belief of a channel, with what it writes. -/
private theorem announced_take {n : Node} {i j : ι} (announced : Announced net start wires name)
    (mesh : { n.mesh with sent := [] } = (start.node i).mesh) (clear : n.Unsubscribed name)
    (believes : n.Believes name (some (hostOf start wires i j)))
    (utters : ∀ c e, ∀ s ∈ written n.mesh.sent c e, ∃ j, i ≠ j ∧ c = wires.conn i j ∧
      e = wires.side i j ∧ s = Node.announcement (start.node i).mesh name) :
    Announced (net.take i n) start wires name := by
  refine ⟨?_, ?_, announced.next, ?_, ?_, ?_, ?_⟩
  · intro i'
    by_cases same : i' = i
    · rw [same, take_node_self]
      exact mesh
    · rw [take_node_of_ne _ _ same]
      exact announced.mesh i'
  · intro i'
    by_cases same : i' = i
    · rw [same, take_node_self]
      exact clear
    · rw [take_node_of_ne _ _ same]
      exact announced.clear i'
  · intro c e
    rw [take_link, Link.socket_carry]
    exact announced.ends c e
  · intro c
    rw [take_link, Link.lost_carry]
    exact announced.kept c
  · intro c e s member
    rw [take_link, Link.queue_carry, announced.kept c, if_neg Bool.false_ne_true] at member
    rcases List.mem_append.mp member with old | new
    · exact announced.lines c e s old
    · obtain ⟨j, apart, isConn, isSide, isText⟩ := utters c e.other s new
      exact ⟨i, j, apart, isConn, by rw [← isSide, End.other_other], isText⟩
  · intro i' c found
    by_cases same : i' = i
    · subst same
      obtain ⟨c', found', publisher⟩ := believes
      rw [take_node_self] at found ⊢
      obtain rfl := Option.some.inj (found'.symm.trans found)
      exact ⟨j, publisher⟩
    · rw [take_node_of_ne _ _ same] at found ⊢
      exact announced.beliefs i' c found

omit [DecidableEq ι] in
/-- An end of a connection belongs to one pair of nodes. -/
theorem Meshed.unique (meshed : Meshed start wires) {i j i' j' : ι} (apart : i ≠ j)
    (apart' : i' ≠ j') (conn : wires.conn i j = wires.conn i' j')
    (side : wires.side i j = wires.side i' j') : i = i' ∧ j = j' := by
  obtain ⟨k, _, here, _⟩ := meshed.socket i j apart
  obtain ⟨k', _, here', _⟩ := meshed.socket i' j' apart'
  obtain ⟨l, _, there, _⟩ := meshed.socket j i apart.symm
  obtain ⟨l', _, there', _⟩ := meshed.socket j' i' apart'.symm
  rw [(meshed.conn i j apart).1, (meshed.conn i j apart).2] at there
  rw [(meshed.conn i' j' apart').1, (meshed.conn i' j' apart').2] at there'
  rw [conn, side] at here there
  exact ⟨(Prod.mk.inj (Option.some.inj (here.symm.trans here'))).1,
    (Prod.mk.inj (Option.some.inj (there.symm.trans there'))).1⟩

/-- `publish()` changes nothing, or it takes effect and everybody will hear of it. -/
private theorem publish_step {net' : Network ι} {i : ι} (meshed : Meshed start wires)
    (safe : LineSafe name) (announced : Announced net start wires name)
    (told : net.tell i (.publish name) = .ok net') :
    ((net.node i).Believes name (some (net.node i).mesh.me) ∧ net' = net) ∨
      (¬ (net.node i).Believes name (some (net.node i).mesh.me) ∧
        Announced net' start wires name ∧
        ((∀ c e, ∀ s ∈ (net.link c).queue e, ∃ j, i ≠ j ∧ c = wires.conn i j ∧
          e = (wires.side i j).other) → Won net' start wires name i)) := by
  obtain ⟨n, published, rfl⟩ := tell_eq_ok.mp told
  have mesh := announced.mesh i
  by_cases already : (net.node i).Believes name (some (net.node i).mesh.me)
  · obtain rfl := Except.ok.inj ((Node.publish_again already).symm.trans published)
    refine .inl ⟨already, take_same ?_⟩
    rw [mesh]
    exact meshed.silent i
  · obtain ⟨n', published', broadcast, believes, clear⟩ :=
      Node.publish_announces (announced.clear i) already
    obtain rfl := Except.ok.inj (published'.symm.trans published)
    rw [mesh, Mesh.broadcast_eq, meshed.silent i, List.nil_append] at broadcast
    rw [mesh] at believes
    have sent : n'.mesh.sent =
        start.Broadcast i (Node.announcement (start.node i).mesh name) := by
      rw [broadcast]
      rfl
    have oneLine : linesOf (Node.announcement (start.node i).mesh name) =
        [Node.announcement (start.node i).mesh name] :=
      Node.linesOf_publishLine safe (meshed.addressed i)
    have only : ∀ c e, ∀ s ∈ written n'.mesh.sent c e, ∃ j, i ≠ j ∧ c = wires.conn i j ∧
        e = wires.side i j ∧ s = Node.announcement (start.node i).mesh name := by
      intro c e s member
      rw [sent] at member
      obtain ⟨inside, j, apart, isConn, isSide⟩ := meshed.broadcast_only member
      rw [oneLine] at inside
      exact ⟨j, apart, isConn, isSide, List.mem_singleton.mp inside⟩
    have isMe : hostOf start wires i i = (start.node i).mesh.me := if_pos rfl
    have after : Announced (net.take i n') start wires name := by
      refine announced_take announced ?_ clear (isMe.symm ▸ believes) only
      rw [broadcast, ← meshed.silent i]
    refine .inr ⟨already, after, ?_⟩
    intro own
    refine ⟨?_, ?_, ?_⟩
    · rw [take_node_self]
      exact believes
    · intro c e s member
      rw [take_link, Link.queue_carry, announced.kept c, if_neg Bool.false_ne_true] at member
      rcases List.mem_append.mp member with old | new
      · exact own c e s old
      · obtain ⟨j, apart, isConn, isSide, _⟩ := only c e.other s new
        exact ⟨j, apart, isConn, by rw [← isSide, End.other_other]⟩
    · intro j apart
      have heard := meshed.broadcast_all apart (oneLine ▸ List.mem_singleton.mpr rfl)
      refine .inr (List.ne_nil_of_mem (a := Node.announcement (start.node i).mesh name) ?_)
      rw [take_link, Link.queue_carry, announced.kept, if_neg Bool.false_ne_true,
        End.other_other, sent]
      exact List.mem_append_right _ heard

omit [DecidableEq ι] in
/-- The queues when one line has been taken out. -/
private theorem queue_pop {c : ConnId} {e : End} {s : Str} {rest : List Str}
    (queue : (net.link c).queue e = s :: rest) (c' : ConnId) (e' : End) :
    ((net.setLink c (·.setQueue rest e)).link c').queue e' =
      if c' = c ∧ e' = e then rest else (net.link c').queue e' := by
  simp only [setLink, Heap.modify_apply]
  by_cases sameConn : c' = c
  · subst sameConn
    rw [if_pos rfl]
    rcases e.eq_or_eq_other e' with rfl | rfl
    · rw [if_pos ⟨rfl, rfl⟩, Link.queue_setQueue_self]
    · rw [if_neg fun same => e.other_ne same.2, Link.queue_setQueue_other]
  · rw [if_neg sameConn, if_neg fun same => sameConn same.1]

private theorem announced_pop {c : ConnId} {e : End} {s : Str} {rest : List Str}
    (announced : Announced net start wires name) (queue : (net.link c).queue e = s :: rest) :
    Announced (net.setLink c (·.setQueue rest e)) start wires name := by
  have fields : ∀ c', (∀ e', ((net.setLink c (·.setQueue rest e)).link c').socket e' =
      (net.link c').socket e') ∧
      ((net.setLink c (·.setQueue rest e)).link c').lost = (net.link c').lost := by
    intro c'
    simp only [setLink, Heap.modify_apply]
    split
    · next same => rw [same]; simp only [Link.socket_setQueue, Link.lost_setQueue, implies_true, and_self]
    · exact ⟨fun _ => rfl, rfl⟩
  refine ⟨announced.mesh, announced.clear, announced.next, ?_, ?_, ?_, announced.beliefs⟩
  · exact fun c' e' => ((fields c').1 e').trans (announced.ends c' e')
  · exact fun c' => (fields c').2.trans (announced.kept c')
  · intro c' e' s' member
    rw [queue_pop queue] at member
    split at member
    · next same =>
      refine announced.lines c' e' s' ?_
      rw [same.1, same.2, queue]
      exact List.mem_cons_of_mem s member
    · exact announced.lines c' e' s' member

/-- The next line of a connection is the announcement of some `i`, and the receiver
`j` believes it. -/
private theorem deliver_cases {c : ConnId} {e : End} (topology : Topology ι)
    (meshed : Meshed start wires) (noBar : '|' ∉ name) (announced : Announced net start wires name)
    (nonempty : (net.link c).queue e ≠ []) :
    ∃ i j rest n', i ≠ j ∧ c = wires.conn i j ∧ e = (wires.side i j).other ∧
      (net.link c).queue e = Node.announcement (start.node i).mesh name :: rest ∧
      n'.mesh = (net.node j).mesh ∧ n'.Believes name (some (wires.host j i)) ∧
      n'.Unsubscribed name ∧ react topology net (.deliver c e) =
        .ok ((net.setLink c (·.setQueue rest e)).take j n') := by
  obtain ⟨s, rest, queue⟩ := List.exists_cons_of_ne_nil nonempty
  obtain ⟨i, j, apart, rfl, rfl, rfl⟩ := announced.lines c e s (queue ▸ List.mem_cons_self)
  obtain ⟨k, _, isEnd, listener, _⟩ := meshed.socket j i apart.symm
  rw [(meshed.conn i j apart).1, (meshed.conn i j apart).2] at isEnd
  have socket := (announced.ends _ _).trans isEnd
  have mesh := announced.mesh j
  obtain ⟨n', heard, sameMesh, believes, clear⟩ : ∃ n',
      (net.node j).line k (Node.announcement (start.node i).mesh name) = .ok n' ∧
        n'.mesh = (net.node j).mesh ∧ n'.Believes name (some (wires.host j i)) ∧
        n'.Unsubscribed name :=
    Node.line_announcement (mesh ▸ listener) (mesh ▸ meshed.ready j i apart.symm) noBar
      (announced.clear j)
  refine ⟨i, j, rest, n', apart, rfl, rfl, queue, sameMesh, believes, clear, ?_⟩
  unfold Network.react
  simp only [socket, queue]
  exact tell_eq_ok.mpr ⟨n', heard, rfl⟩

/-- A delivered announcement of `i` is believed by `j`. -/
private theorem deliver_step {topology : Topology ι} {net' : Network ι} {c : ConnId} {e : End}
    (meshed : Meshed start wires) (noBar : '|' ∉ name) (announced : Announced net start wires name)
    (stepped : Step topology net (.deliver c e) net') :
    Announced net' start wires name ∧ ¬ Fresh net name ∧
      ∀ i, Won net start wires name i → Won net' start wires name i := by
  obtain ⟨⟨_, nonempty⟩, reacted⟩ := stepped
  obtain ⟨i, j, rest, n', apart, rfl, rfl, queue, sameMesh, believes, clear, reacts⟩ :=
    deliver_cases topology meshed noBar announced nonempty
  obtain rfl := Except.ok.inj (reacts.symm.trans reacted)
  have mesh := announced.mesh j
  have silent : n'.mesh.sent = [] := by
    rw [sameMesh, mesh]
    exact meshed.silent j
  have isHost : hostOf start wires j i = wires.host j i := if_neg apart.symm
  have after : Announced ((net.setLink (wires.conn i j)
      (·.setQueue rest (wires.side i j).other)).take j n') start wires name := by
    refine announced_take (announced_pop announced queue) ?_ clear (isHost.symm ▸ believes) ?_
    · rw [sameMesh, mesh, ← meshed.silent j]
    · intro c e s member
      rw [silent] at member
      cases member
  -- the queues behind the step
  have queues : ∀ c e, (((net.setLink (wires.conn i j)
      (·.setQueue rest (wires.side i j).other)).take j n').link c).queue e =
        if c = wires.conn i j ∧ e = (wires.side i j).other then rest
        else (net.link c).queue e := by
    intro c e
    rw [take_link, silent, Link.carry_nil, queue_pop queue]
  refine ⟨after, ?_, ?_⟩
  · intro fresh
    exact nonempty (fresh.2 _ _)
  · intro w won
    have sub : ∀ c e, ∀ s ∈ (((net.setLink (wires.conn i j)
        (·.setQueue rest (wires.side i j).other)).take j n').link c).queue e,
          s ∈ (net.link c).queue e := by
      intro c e s member
      rw [queues] at member
      split at member
      · next same =>
        rw [same.1, same.2, queue]
        exact List.mem_cons_of_mem _ member
      · exact member
    -- what was delivered came from `w`
    obtain ⟨j', apart', isConn, isSide⟩ := won.only _ _ _ (queue ▸ List.mem_cons_self)
    have sameSide : wires.side i j = wires.side w j' := by
      rw [← End.other_other (wires.side i j), isSide, End.other_other]
    obtain ⟨rfl, rfl⟩ := meshed.unique apart apart' isConn sameSide
    refine ⟨?_, fun c e s member => won.only c e s (sub c e s member), ?_⟩
    · rw [take_node_of_ne _ _ apart]
      exact won.itself
    · intro l apartL
      by_cases isJ : l = j
      · subst isJ
        rw [take_node_self]
        exact .inl believes
      · rw [take_node_of_ne _ _ isJ, queues, if_neg]
        · exact won.all l apartL
        · rintro ⟨sameConn, otherSide⟩
          have sameSide : wires.side i l = wires.side i j := by
            rw [← End.other_other (wires.side i l), otherSide, End.other_other]
          exact isJ (meshed.unique apartL apart sameConn sameSide).2

end Network

namespace Watched

open Network

variable {ι : Type} [DecidableEq ι] {start : Network ι} {wires : Wires ι} {name : Str}

/-- The invariant of a watched network. -/
structure Settled (start : Network ι) (wires : Wires ι) (name : Str) (w : Watched ι) : Prop where
  announced : Announced w.net start wires name
  settled : ¬ w.crossed → Network.Fresh w.net name ∨ ∃ i, Won w.net start wires name i

private theorem settled_step {topology : Topology ι} {w w' : Watched ι} {action : Action ι}
    (meshed : Meshed start wires) (safe : LineSafe name) (noBar : '|' ∉ name)
    (settled : Settled start wires name w) (announcing : Announcing name action)
    (stepped : Watch topology name w action w') : Settled start wires name w' := by
  obtain ⟨⟨enabled, reacted⟩, crossed⟩ := stepped
  cases action with
  | call i input =>
      cases input with
      | publish called =>
          obtain rfl : called = name := announcing
          rcases publish_step meshed safe settled.announced reacted with
            ⟨already, same⟩ | ⟨effect, announced, wins⟩
          · refine ⟨same ▸ settled.announced, ?_⟩
            intro uncrossed
            rw [same]
            refine settled.settled fun before => uncrossed (crossed.mpr (.inr ⟨?_, before⟩))
            rintro ⟨i', isCall, effect⟩
            obtain ⟨rfl, _⟩ := Action.call.inj isCall
            exact effect already
          · refine ⟨announced, ?_⟩
            intro uncrossed
            refine .inr ⟨i, wins ?_⟩
            intro c e s member
            obtain ⟨i', j, apart, rfl, rfl, _⟩ := settled.announced.lines c e s member
            by_cases own : i = i'
            · subst own
              exact ⟨j, apart, rfl, rfl⟩
            · obtain ⟨k, _, isEnd, _⟩ := meshed.socket i' j apart
              refine absurd (crossed.mpr (.inl ⟨⟨i, rfl, effect⟩, ?_⟩)) uncrossed
              refine ⟨i, _, i', k, _, ?_, _, rfl, Ne.symm own,
                (settled.announced.ends _ _).trans isEnd, List.ne_nil_of_mem member⟩
              exact settled.announced.next ▸ meshed.known i' j apart
      | _ => exact absurd announcing id
  | deliver c e =>
      obtain ⟨announced, notFresh, wins⟩ :=
        deliver_step meshed noBar settled.announced ⟨enabled, reacted⟩
      refine ⟨announced, ?_⟩
      intro uncrossed
      have noCall : ¬ TakesEffect w.net name (.deliver c e) := by
        rintro ⟨_, isCall, _⟩
        cases isCall
      rcases settled.settled fun before => uncrossed (crossed.mpr (.inr ⟨noCall, before⟩)) with
        fresh | ⟨i, won⟩
      · exact absurd fresh notFresh
      · exact .inr ⟨i, wins i won⟩
  | _ => exact absurd announcing id

/-- No call and no delivery of such a run fails. -/
theorem announcing_returns {topology : Topology ι} {w : Watched ι} {action : Action ι}
    (meshed : Meshed start wires) (noBar : '|' ∉ name) (settled : Settled start wires name w)
    (announcing : Announcing name action) (enabled : Enabled topology w.net action) :
    ∃ net', react topology w.net action = .ok net' := by
  cases action with
  | call i input =>
      cases input with
      | publish called =>
          obtain rfl : called = name := announcing
          by_cases already : (w.net.node i).Believes called (some (w.net.node i).mesh.me)
          · exact ⟨_, tell_eq_ok.mpr ⟨_, Node.publish_again already, rfl⟩⟩
          · obtain ⟨n, published, _⟩ :=
              Node.publish_announces (settled.announced.clear i) already
            exact ⟨_, tell_eq_ok.mpr ⟨n, published, rfl⟩⟩
      | _ => exact absurd announcing id
  | deliver c e =>
      obtain ⟨_, _, _, _, _, _, _, _, _, _, _, reacts⟩ :=
        deliver_cases topology meshed noBar settled.announced enabled.2
      exact ⟨_, reacts⟩
  | _ => exact absurd announcing id

/-- In a network of connected nodes where nodes publish a channel, all nodes agree
on its publisher whenever nothing is in flight, provided that the last `publish()`
that took effect did not cross the announcement of another node. -/
theorem agreement_of_uncrossed {topology : Topology ι} {w : Watched ι}
    (meshed : Meshed start wires) (safe : LineSafe name) (noBar : '|' ∉ name)
    (absent : ∀ i, (start.node i).getChannel name = none)
    (reached : Reaches (Under (fun _ action => Announcing name action) (Watch topology name))
      ⟨start, False⟩ w)
    (silent : Silent w.net) (uncrossed : ¬ w.crossed) : Agreement w.net name := by
  have initial : Settled start wires name ⟨start, False⟩ :=
    ⟨meshed.announced absent, fun _ => .inl ⟨absent, meshed.empty⟩⟩
  obtain ⟨announced, settled⟩ := reached.invariant initial fun state action next settled both =>
    settled_step meshed safe noBar settled both.1 both.2
  rcases settled uncrossed with fresh | ⟨i, won⟩
  · constructor
    · intro i i' c c' found
      rw [fresh.1 i] at found
      cases found
    · rintro i i' ⟨c, found, _⟩
      rw [fresh.1 i] at found
      cases found
  · -- everybody believes that `i` is the publisher
    have believes : ∀ j c, (w.net.node j).getChannel name = some c →
        ((w.net.node j).chan c).publisher = some (hostOf start wires j i) := by
      intro j c found
      have believed : (w.net.node j).Believes name (some (hostOf start wires j i)) := by
        unfold hostOf
        split
        · next same => exact same ▸ won.itself
        · next apart =>
          refine (won.all j (Ne.symm apart)).resolve_right fun underWay => underWay ?_
          exact silent.queue (announced.next ▸ meshed.known i j (Ne.symm apart)) _
      obtain ⟨c', found', publisher⟩ := believed
      obtain rfl := Option.some.inj (found'.symm.trans found)
      exact publisher
    have denotes : ∀ j, w.net.denoted j (hostOf start wires j i) = some i := by
      intro j
      refine Eq.trans ?_ (meshed.denoted_hostOf j i)
      unfold denoted
      simp only [announced.mesh, announced.ends]
    constructor
    · intro j j' c c' found found'
      refine ⟨i, ?_, ?_⟩
      · rw [believes j c found]
        exact denotes j
      · rw [believes j' c' found']
        exact denotes j'
    · have isI : ∀ j, (w.net.node j).Believes name (some (w.net.node j).mesh.me) → i = j := by
        rintro j ⟨c, found, publisher⟩
        have isMe := Option.some.inj ((believes j c found).symm.trans publisher)
        have denoted := denotes j
        rw [isMe] at denoted
        unfold Network.denoted at denoted
        rw [if_pos rfl] at denoted
        exact (Option.some.inj denoted).symm
      intro j j' believed believed'
      exact (isI j believed).symm.trans (isI j' believed')

/-- A run in which nothing is under way at any call can be watched. -/
theorem reaches_of_silent {topology : Topology ι} {net : Network ι}
    {trace : List (Action ι × Network ι)}
    (ran : Every (Under (fun net action => Announcing name action ∧
      (Silent net ∨ ∀ i input, action ≠ .call i input)) (Network.Step topology)) net trace) :
    Reaches (Under (fun _ action => Announcing name action) (Watch topology name))
      ⟨net, False⟩ ⟨final net trace, False⟩ := by
  refine ⟨trace.map fun entry => (entry.1, ⟨entry.2, False⟩), ?_, ?_⟩
  · induction trace generalizing net with
    | nil => exact every_nil
    | cons entry trace ih =>
        obtain ⟨⟨announcing, alone⟩, stepped⟩ := ran.1
        refine ⟨⟨announcing, stepped, ?_⟩, ih ran.2⟩
        have noCross : ¬ Crosses net entry.1 := by
          rintro ⟨i, input, j, k, c, known, e, isCall, _, _, underWay⟩
          rcases alone with silent | noCall
          · exact underWay (silent.queue known e.other)
          · exact noCall i input isCall
        simp only [noCross, and_false, or_self]
  · clear ran
    induction trace generalizing net with
    | nil => rfl
    | cons entry trace ih => exact ih

end Watched

namespace Network

/-! ## Two nodes -/

/-- The socket at one end of connection 0. -/
def readySock (other : Str) (isClient : Bool) : TCPSocket SignalingListener where
  ip := other
  port := 10000
  isClient := isClient
  bStop := false
  bLinebuffer := true
  listeners := some (.host 1)
  thread := .receiving 0
  fdOpen := true

/-- A node with one ready Host on connection 0. -/
def readyNode (ID : Int32) (own other : Str) (isClient : Bool) : Node :=
  let me : Host := { ip := own, port := 10000, bReady := true, bServer := true }
  let peer : Host :=
    { ip := other, port := 10000, bReady := true, bServer := !isClient, socket := some 0 }
  let mesh : Mesh :=
    { Mesh.init ID 10000 with
      host := ⟨fun h => if h = 0 then me else peer, 2⟩
      peers := [1]
      sock := ⟨fun _ => readySock other isClient, 1⟩ }
  { Node.init ID 10000 Node.firstPort with mesh := mesh }

/-- Node `false` has connected to node `true`. -/
def readyPair : Network Bool where
  node i := if i then readyNode 2 "10.0.0.2".toList "10.0.0.1".toList false
    else readyNode 1 "10.0.0.1".toList "10.0.0.2".toList true
  link := ⟨fun _ => { client := false, clientSock := 0, server := true, serverSock := some 0 }, 1⟩
  dataLink := Heap.empty { client := false, server := true, channel := 0 }

def readyWires : Wires Bool where
  host _ _ := 1
  conn _ _ := 0
  side i _ := if i then .server else .client

def pairTopology : Topology Bool where
  names _ _ _ := true
  source i _ := if i then "10.0.0.2".toList else "10.0.0.1".toList

theorem meshed_readyPair : readyPair.Meshed readyWires where
  conn i j apart := by
    cases i <;> cases j <;> first | exact absurd rfl apart | exact ⟨rfl, rfl⟩
  listed i _ _ := by cases i <;> exact List.mem_singleton.mpr rfl
  ready i _ _ := by cases i <;> rfl
  remote i _ _ := by cases i <;> exact nofun
  others i h member _ := by
    refine ⟨!i, by cases i <;> exact nofun, ?_⟩
    cases i <;> exact List.mem_singleton.mp member
  socket i j apart := by
    refine ⟨0, ?_⟩
    cases i <;> cases j <;>
      first | exact absurd rfl apart | exact ⟨rfl, rfl, rfl, ⟨rfl, rfl⟩, rfl, rfl⟩
  known _ _ _ := Nat.zero_lt_one
  kept _ := rfl
  empty _ e := by cases e <;> rfl
  silent i := by cases i <;> rfl
  addressed i := by cases i <;> decide

/-- The actions that a replay allows: calls only while nothing is in flight. -/
private def calm (name : Str) (net : Network Bool) (action : Action Bool) : Bool :=
  decide (Enabled pairTopology net action ∧ Announcing name action) &&
    match action with
    | .call _ _ => decide (Silent net)
    | _ => true

private theorem reaches_of_calm {name : Str} {trace : List (Action Bool × Network Bool)}
    (ran : Every (Under (fun net action => calm name net action = true)
      fun net action next => react pairTopology net action = .ok next) readyPair trace) :
    Reaches (Under (fun _ action => Announcing name action) (Watched.Watch pairTopology name))
      ⟨readyPair, False⟩ ⟨final readyPair trace, False⟩ := by
  refine Watched.reaches_of_silent (ran.mono ?_)
  rintro net action next ⟨allowed, reacted⟩
  obtain ⟨possible, alone⟩ := Bool.and_eq_true_iff.mp allowed
  obtain ⟨enabled, announcing⟩ := of_decide_eq_true possible
  refine ⟨⟨announcing, ?_⟩, enabled, reacted⟩
  cases action with
  | call i input => exact .inl (of_decide_eq_true alone)
  | _ => exact .inr fun _ _ => nofun

/-- Node `false` publishes `c` and node `true` hears it. -/
theorem readyPair_agreement : ∃ w : Watched Bool,
    Reaches (Under (fun _ action => Announcing ['c'] action) (Watched.Watch pairTopology ['c']))
      ⟨readyPair, False⟩ w ∧ Agreement w.net ['c'] ∧
      (w.net.node true).Believes ['c'] (some (readyWires.host true false)) := by
  have replayed : replay (react pairTopology) (calm ['c'])
      (fun _ net => decide (Silent net ∧ (net.node true).getChannel ['c'] = some 0 ∧
        ((net.node true).chan 0).publisher = some 1))
      (.deliver 0 .server) readyPair [.call false (.publish ['c'])] = true := by decide
  obtain ⟨trace, net, ran, checked⟩ := replay_run replayed
  obtain ⟨silent, found, publisher⟩ := of_decide_eq_true checked
  have reached := reaches_of_calm ran
  rw [final_concat] at reached
  refine ⟨_, reached, ?_, 0, found, publisher⟩
  exact Watched.agreement_of_uncrossed meshed_readyPair (by decide) (by decide)
    (fun i => by cases i <;> rfl) reached silent id

/-- Nothing keeps two announcements from crossing: both nodes publish `c`, and each
then believes the other. And a name with `|` reaches other nodes cut short, so
that two nodes can publish it one after the other without noticing. -/
theorem not_agreement :
    (¬ ∀ (topology : Topology Bool) (start net : Network Bool) (wires : Wires Bool) (name : Str),
      start.Meshed wires → (∀ i, (start.node i).getChannel name = none) →
      Reaches (Under (fun _ action => Announcing name action) (Step topology)) start net →
      Silent net → Agreement net name) ∧
    ¬ ∀ (topology : Topology Bool) (start : Network Bool) (wires : Wires Bool) (name : Str)
      (w : Watched Bool),
      start.Meshed wires → (∀ i, (start.node i).getChannel name = none) →
      Reaches (Under (fun _ action => Announcing name action) (Watched.Watch topology name))
        ⟨start, False⟩ w →
      Silent w.net → ¬ w.crossed → Agreement w.net name := by
  constructor
  · intro law
    have replayed : replay (react pairTopology)
        (fun net action => decide (Enabled pairTopology net action ∧ Announcing ['c'] action))
        (fun _ net => decide (Silent net) &&
          ((net.node false).getChannel ['c'] = some 0 ∧ (net.node true).getChannel ['c'] = some 0 ∧
            ((net.node false).chan 0).publisher.bind (net.denoted false) = some true ∧
            ((net.node true).chan 0).publisher.bind (net.denoted true) = some false))
        (.deliver 0 .client) readyPair
        [.call false (.publish ['c']), .call true (.publish ['c']), .deliver 0 .server] = true := by
      decide
    obtain ⟨trace, net, ran, checked⟩ := replay_run replayed
    obtain ⟨silent, facts⟩ := Bool.and_eq_true_iff.mp checked
    obtain ⟨found, found', publisher, publisher'⟩ := of_decide_eq_true facts
    have steps : Every (Under (fun _ action => Announcing ['c'] action) (Step pairTopology))
        readyPair (trace ++ [(.deliver 0 .client, net)]) := by
      refine ran.mono ?_
      rintro state action next ⟨allowed, reacted⟩
      obtain ⟨enabled, announcing⟩ := of_decide_eq_true allowed
      exact ⟨announcing, enabled, reacted⟩
    have agreement := law pairTopology readyPair net readyWires ['c'] meshed_readyPair
      (fun i => by cases i <;> rfl) ⟨_, steps, final_concat _ _ _⟩ (of_decide_eq_true silent)
    obtain ⟨j, isJ, isJ'⟩ := agreement.same false true 0 0 found found'
    rw [publisher] at isJ
    rw [publisher'] at isJ'
    exact absurd (isJ.trans isJ'.symm) (by decide)
  · intro law
    have replayed : replay (react pairTopology) (calm "a|b".toList)
        (fun _ net => decide (Silent net) &&
          ((net.node false).getChannel "a|b".toList = some 0 ∧
            ((net.node false).chan 0).publisher = some (net.node false).mesh.me ∧
            (net.node true).getChannel "a|b".toList = some 1 ∧
            ((net.node true).chan 1).publisher = some (net.node true).mesh.me))
        (.deliver 0 .client) readyPair
        [.call false (.publish "a|b".toList), .deliver 0 .server,
          .call true (.publish "a|b".toList)] = true := by decide
    obtain ⟨trace, net, ran, checked⟩ := replay_run replayed
    obtain ⟨silent, facts⟩ := Bool.and_eq_true_iff.mp checked
    obtain ⟨found, publisher, found', publisher'⟩ := of_decide_eq_true facts
    have reached := reaches_of_calm ran
    rw [final_concat] at reached
    have agreement := law pairTopology readyPair readyWires "a|b".toList _ meshed_readyPair
      (fun i => by cases i <;> rfl) reached (of_decide_eq_true silent) id
    exact absurd (agreement.one false true ⟨0, found, publisher⟩ ⟨1, found', publisher'⟩)
      (by decide)

end Network

end LibPubSub
