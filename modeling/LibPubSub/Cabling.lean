import LibPubSub.Subscriptors

/-! Which sockets stand at the two ends of a data connection: one that dialled, at the
client, and one with a subscriptor of the channel, at the server, once the connection has
been accepted. -/

set_option autoImplicit false

namespace LibPubSub

open Fallible Transition

namespace TCPSocket

variable {Listener : Type} {s mid s' : TCPSocket Listener}

theorem side_eq_client : s.side = .client ↔ s.isClient = true := by
  unfold side
  cases s.isClient <;> decide

theorem side_eq_server : s.side = .server ↔ s.isClient = false := by
  unfold side
  cases s.isClient <;> decide

/-- The socket is heard, if at all, by who has heard it before. -/
structure Fainter (s s' : TCPSocket Listener) : Prop where
  eased : Eased s s'
  heard : ∀ listener, s'.listeners = some listener → s.listeners = some listener

theorem Fainter.refl (s : TCPSocket Listener) : Fainter s s :=
  ⟨.refl s, fun _ => id⟩

theorem Fainter.trans (first : Fainter s mid) (second : Fainter mid s') : Fainter s s' :=
  ⟨first.eased.trans second.eased, fun listener => first.heard listener ∘ second.heard listener⟩

theorem fainter_closeFd (s : TCPSocket Listener) : Fainter s s.closeFd :=
  ⟨⟨rfl, rfl, rfl, rfl, rfl, nofun, id⟩, fun _ => id⟩

theorem fainter_removeListeners (s : TCPSocket Listener) : Fainter s s.removeListeners :=
  ⟨⟨rfl, rfl, rfl, rfl, rfl, id, fun _ => rfl⟩, nofun⟩

end TCPSocket

namespace Node

variable {n mid n' : Node} {k : SockPtr} {d : ConnId}

/-! ## Listeners -/

theorem fainter_shut (transport : Transport) (sock : TCPSocket SubPtr) :
    sock.Fainter (shut transport sock) := by
  refine ⟨eased_shut transport sock, ?_⟩
  cases transport <;> exact nofun

/-- Every data socket has fallen behind or is new. -/
def Quieter (n n' : Node) : Prop :=
  ∀ k, (n.dataSock k).Fainter (n'.dataSock k) ∨ (n'.dataSock k).Made

namespace Quieter

theorem of_dataSock (same : n'.dataSock = n.dataSock) : Quieter n n' := by
  intro k
  rw [same]
  exact .inl (.refl _)

theorem of_alloc {made : TCPSocket SubPtr} (alloc : n'.dataSock = n.dataSock.alloc made)
    (isMade : made.Made) : Quieter n n' := by
  intro k
  rw [alloc, Heap.alloc_apply]
  split
  · exact .inr isMade
  · exact .inl (.refl _)

theorem of_modify {change : TCPSocket SubPtr → TCPSocket SubPtr}
    (modify : n'.dataSock = n.dataSock.modify k change)
    (fainter : ∀ sock : TCPSocket SubPtr, sock.Fainter (change sock)) : Quieter n n' := by
  intro j
  rw [modify, Heap.modify_apply]
  split
  · next same => exact .inl (same ▸ fainter _)
  · exact .inl (.refl _)

theorem trans (first : Quieter n mid) (second : Quieter mid n') : Quieter n n' := by
  intro k
  rcases second k with fainter | made
  · rcases first k with fainter' | made
    · exact .inl (fainter'.trans fainter)
    · exact .inr (made.eased fainter.eased)
  · exact .inr made

end Quieter

theorem Move.quieter (move : Move n n') : Quieter n n' := by
  cases move with
  | mesh m => exact .of_dataSock rfl
  | record call => exact .of_dataSock rfl
  | created created => exact .of_dataSock created.dataSock
  | channel c change _ _ => exact .of_dataSock rfl
  | subscribed c => exact .of_dataSock rfl
  | dialled _ _ c publisher => exact .of_alloc rfl ⟨rfl, fun _ => rfl⟩
  | mapped _ _ c => exact .of_dataSock rfl
  | closed _ ran =>
      obtain ⟨sub, k, _, _, rfl⟩ := subClose_shut ran
      exact .of_modify rfl (fainter_shut sub.transport)
  | accepted c ip port conn =>
      unfold acceptSubscriptor
      split
      · exact .of_dataSock rfl
      · exact .of_alloc rfl ⟨rfl, nofun⟩

theorem dataClosed_quieter (ran : n.dataClosed k = .ok n') : Quieter n n' := by
  unfold dataClosed at ran
  split at ran
  · obtain ⟨_, j, _, _, rfl⟩ := subOnClose_cases ran
    exact .of_modify rfl TCPSocket.fainter_removeListeners
  · exact .of_dataSock (by rw [pure_eq_ok.mp ran])

/-- A client that receives has received before and been heard by the same, or has just
been connected. -/
theorem step_receiving {input : Input} (stepped : Step n input n')
    (isClient : (n'.dataSock k).isClient = true)
    (receiving : (n'.dataSock k).thread = .receiving d) :
    ((n.dataSock k).isClient = true ∧ (n.dataSock k).thread = .receiving d ∧
      ∀ s, (n'.dataSock k).listeners = some s → (n.dataSock k).listeners = some s) ∨
    input = .dataConnected k d := by
  have of_quieter : (n.dataSock k).Fainter (n'.dataSock k) ∨ (n'.dataSock k).Made →
      (n.dataSock k).isClient = true ∧ (n.dataSock k).thread = .receiving d ∧
        ∀ s, (n'.dataSock k).listeners = some s → (n.dataSock k).listeners = some s := by
    rintro (⟨eased, heard⟩ | made)
    · exact ⟨eased.isClient ▸ isClient, eased.thread ▸ receiving, heard⟩
    · rw [made.2 isClient] at receiving
      cases receiving
  have of_moves : Moves n n' → Quieter n n' := fun moves =>
    moves.relation (.of_dataSock rfl) fun _ _ before move => before.trans move.quieter
  cases input with
  | dataConnected j conn =>
      obtain ⟨_, dataSock, _⟩ := dataConnected_cases stepped
      by_cases same : k = j
      · subst same
        rw [dataSock, Heap.modify_self, TCPSocket.connected] at receiving
        cases receiving
        exact .inr rfl
      · refine .inl (of_quieter (.inl ?_))
        rw [dataSock, Heap.modify_of_ne _ _ same]
        exact .refl _
  | dataEof j =>
      obtain ⟨closed, left, rest⟩ := bind_eq_ok.mp stepped
      have before : Quieter n closed :=
        Quieter.trans (.of_modify rfl TCPSocket.fainter_closeFd) (dataClosed_quieter left)
      rw [← pure_eq_ok.mp rest] at receiving of_quieter ⊢
      by_cases same : k = j
      · subst same
        -- the thread that has noticed the end does not receive
        simp only [setDataSock, Heap.modify_self, TCPSocket.reconnectOrEnd] at receiving
        split at receiving <;> cases receiving
      · refine .inl (of_quieter ?_)
        simp only [setDataSock, Heap.modify_of_ne _ _ same]
        exact before k
  | _ => exact .inl (of_quieter (of_moves (step_moves stepped rfl) k))

/-- An accepted socket that receives belongs to a subscriptor. -/
theorem Attached.attends (attached : Attached n) (isServer : (n.dataSock k).isClient = false)
    (receiving : (n.dataSock k).thread = .receiving d) : ∃ c s, Attends n c s k d := by
  rcases attached.servers k isServer with ⟨c, s, d', attends⟩ | ⟨_, ended, _⟩
  · have same := attends.holds.1
    rw [receiving] at same
    cases same
    exact ⟨c, s, attends⟩
  · rw [ended] at receiving
    cases receiving

end Node

/-! ## Networks -/

namespace Network

variable {ι : Type} {topology : Topology ι} {net net' : Network ι} {action : Action ι} {i j : ι}
  {c : ChanPtr} {d : ConnId}

/-- The data connections behind an action. -/
def dataLinks (net : Network ι) : Action ι → Heap (DataLink ι)
  | .dataConnect i _ j channel =>
      net.dataLink.alloc { client := i, server := j, channel := channel }
  | .dataAccept d _ => net.dataLink.modify d fun l => { l with accepted := true }
  | _ => net.dataLink

section

variable [DecidableEq ι]

theorem react_dataLink (reacted : net.react topology action = .ok net') :
    net'.dataLink = net.dataLinks action := by
  have of_tell : ∀ (mid : Network ι) (i : ι) (input : Node.Input), mid.tell i input = .ok net' →
      mid.dataLink = net.dataLinks action → net'.dataLink = net.dataLinks action := by
    intro mid i input told same
    obtain ⟨n', _, rfl⟩ := tell_eq_ok.mp told
    exact same
  cases action with
  | call i input => exact of_tell _ _ _ reacted rfl
  | connect i k peer => exact of_tell _ _ _ reacted rfl
  | accept c port => exact of_tell _ _ _ reacted rfl
  | deliver c e =>
      unfold react at reacted
      dsimp only at reacted
      split at reacted
      · exact of_tell _ _ _ reacted rfl
      · rw [← pure_eq_ok.mp reacted]
        rfl
  | eof c e =>
      unfold react at reacted
      dsimp only at reacted
      split at reacted
      · exact of_tell _ _ _ reacted rfl
      · rw [← pure_eq_ok.mp reacted]
        rfl
  | lose c => rw [← pure_eq_ok.mp reacted]; rfl
  | dataConnect i k peer channel => exact of_tell _ _ _ reacted rfl
  | dataAccept d port => exact of_tell _ _ _ reacted rfl

end

/-- What stays of a data connection. -/
structure Keeps (net : Network ι) (net' : Network ι) : Prop where
  next : net.dataLink.next ≤ net'.dataLink.next
  client : ∀ d < net.dataLink.next, (net'.dataLink d).client = (net.dataLink d).client
  server : ∀ d < net.dataLink.next, (net'.dataLink d).server = (net.dataLink d).server
  channel : ∀ d < net.dataLink.next, (net'.dataLink d).channel = (net.dataLink d).channel
  accepted : ∀ d < net.dataLink.next, (net.dataLink d).accepted = true →
    (net'.dataLink d).accepted = true

theorem Keeps.refl (net : Network ι) : Keeps net net :=
  ⟨Nat.le_refl _, fun _ _ => rfl, fun _ _ => rfl, fun _ _ => rfl, fun _ _ => id⟩

theorem Keeps.trans {mid : Network ι} (first : Keeps net mid) (second : Keeps mid net') :
    Keeps net net' := by
  have inside : ∀ d < net.dataLink.next, d < mid.dataLink.next :=
    fun d known => Nat.lt_of_lt_of_le known first.next
  refine ⟨Nat.le_trans first.next second.next, ?_, ?_, ?_, ?_⟩
  · exact fun d known => (second.client d (inside d known)).trans (first.client d known)
  · exact fun d known => (second.server d (inside d known)).trans (first.server d known)
  · exact fun d known => (second.channel d (inside d known)).trans (first.channel d known)
  · exact fun d known accepted => second.accepted d (inside d known) (first.accepted d known accepted)

theorem keeps_dataLinks (same : net'.dataLink = net.dataLinks action) : Keeps net net' := by
  have of_same : net'.dataLink = net.dataLink → Keeps net net' := by
    intro same
    constructor <;> simp only [same, implies_true, Nat.le_refl, imp_self]
  cases action with
  | dataConnect i k j channel =>
      have old : ∀ d < net.dataLink.next, net'.dataLink d = net.dataLink d := by
        intro d old
        rw [same]
        exact net.dataLink.alloc_of_lt _ old
      refine ⟨?_, ?_, ?_, ?_, ?_⟩
      · rw [same]
        exact Nat.le_succ _
      all_goals
        intro d isOld
        rw [old d isOld]
      exact id
  | dataAccept d port =>
      have cell : ∀ e, net'.dataLink e =
          if e = d then { net.dataLink d with accepted := true } else net.dataLink e := by
        intro e
        rw [same, dataLinks, Heap.modify_apply]
      refine ⟨by rw [same]; exact Nat.le_refl _, ?_, ?_, ?_, ?_⟩
      all_goals
        intro e _
        rw [cell]
        split
        · next isSame => simp only [isSame, implies_true]
        · simp only [imp_self]
  | _ => exact of_same same

/-- The sockets at the ends of the data connections. -/
structure Cabled (net : Network ι) : Prop where
  grounded : ∀ i, (net.node i).Grounded
  served : ∀ i, (net.node i).ServersKnown
  staffed : ∀ i, (net.node i).Staffed
  dialled : ∀ i k d, ((net.node i).dataSock k).isClient = true →
    ((net.node i).dataSock k).thread = .receiving d →
      d < net.dataLink.next ∧ (net.dataLink d).client = i
  single : ∀ i k k' d, ((net.node i).dataSock k).isClient = true →
    ((net.node i).dataSock k).thread = .receiving d →
      ((net.node i).dataSock k').isClient = true →
        ((net.node i).dataSock k').thread = .receiving d → k' = k
  attended : ∀ j c s k d, (net.node j).Attends c s k d → d < net.dataLink.next ∧
    (net.dataLink d).accepted = true ∧ (net.dataLink d).server = j ∧ (net.dataLink d).channel = c
  alone : ∀ j c s k c' s' k' d, (net.node j).Attends c s k d → (net.node j).Attends c' s' k' d →
    k' = k

theorem Booted.cabled (booted : net.Booted) : Cabled net := by
  have isInit : ∀ i, ∃ ID port bindPort, net.node i = Node.init ID port bindPort := booted
  refine ⟨?_, ?_, ?_, ?_, ?_, ?_, ?_⟩
  · intro i
    obtain ⟨ID, port, bindPort, isInit⟩ := isInit i
    exact isInit ▸ Node.grounded_init ID port bindPort
  · intro i c isOpen
    obtain ⟨ID, port, bindPort, isInit⟩ := isInit i
    rw [isInit] at isOpen
    exact absurd rfl isOpen
  · intro i
    obtain ⟨ID, port, bindPort, isInit⟩ := isInit i
    exact isInit ▸ Node.staffed_init ID port bindPort
  · intro i k d _ receiving
    obtain ⟨ID, port, bindPort, isInit⟩ := isInit i
    rw [isInit] at receiving
    cases receiving
  · intro i k k' d _ receiving
    obtain ⟨ID, port, bindPort, isInit⟩ := isInit i
    rw [isInit] at receiving
    cases receiving
  · intro j c s k d attends
    have receiving := attends.holds.1
    obtain ⟨ID, port, bindPort, isInit⟩ := isInit j
    rw [isInit] at receiving
    cases receiving
  · intro j c s k c' s' k' d attends
    have receiving := attends.holds.1
    obtain ⟨ID, port, bindPort, isInit⟩ := isInit j
    rw [isInit] at receiving
    cases receiving

/-- A connection has one socket at each end. -/
theorem Cabled.same {i i' : ι} {k k' : SockPtr} (cabled : Cabled net)
    (receiving : ((net.node i).dataSock k).thread = .receiving d)
    (receiving' : ((net.node i').dataSock k').thread = .receiving d)
    (side : ((net.node i').dataSock k').side = ((net.node i).dataSock k).side) :
    i' = i ∧ k' = k := by
  cases isClient : ((net.node i).dataSock k).isClient with
  | true =>
      have isClient' : ((net.node i').dataSock k').isClient = true :=
        TCPSocket.side_eq_client.mp (side.trans (TCPSocket.side_eq_client.mpr isClient))
      obtain rfl : i' = i := (cabled.dialled i' k' d isClient' receiving').2.symm.trans
        (cabled.dialled i k d isClient receiving).2
      exact ⟨rfl, cabled.single i' k k' d isClient receiving isClient' receiving'⟩
  | false =>
      have isServer' : ((net.node i').dataSock k').isClient = false :=
        TCPSocket.side_eq_server.mp (side.trans (TCPSocket.side_eq_server.mpr isClient))
      obtain ⟨c, s, attends⟩ := (cabled.staffed i).attached.attends isClient receiving
      obtain ⟨c', s', attends'⟩ := (cabled.staffed i').attached.attends isServer' receiving'
      obtain rfl : i' = i := (cabled.attended i' c' s' k' d attends').2.2.1.symm.trans
        (cabled.attended i c s k d attends).2.2.1
      exact ⟨rfl, cabled.alone i' c s k c' s' k' d attends attends'⟩

section

variable [DecidableEq ι]

/-- A client has received before and been heard by the same, or the connection is new. -/
theorem receiving_step {k : SockPtr} (live : Live topology net action net')
    (isClient : ((net'.node i).dataSock k).isClient = true)
    (receiving : ((net'.node i).dataSock k).thread = .receiving d) :
    (((net.node i).dataSock k).isClient = true ∧ ((net.node i).dataSock k).thread = .receiving d ∧
      ∀ s, ((net'.node i).dataSock k).listeners = some s →
        ((net.node i).dataSock k).listeners = some s) ∨
    ∃ j c, action = .dataConnect i k j c ∧ d = net.dataLink.next := by
  obtain ⟨real, _, reacted⟩ := live
  rcases react_node reacted i with same | ⟨input, n', stimulated, stepped, same⟩
  · rw [same] at isClient receiving ⊢
    exact .inl ⟨isClient, receiving, fun _ => id⟩
  · rw [same] at isClient receiving ⊢
    rcases Node.step_receiving stepped isClient receiving with before | rfl
    · exact .inl before
    · obtain ⟨j, c, rfl⟩ := real.dataConnected stimulated
      cases stimulated
      exact .inr ⟨j, c, rfl, rfl⟩

omit [DecidableEq ι] in
theorem Real.dataAccepted {ip : Str} {port : Int32} (real : net.Real action)
    (stimulated : net.stimulus topology action = some (j, .dataAccepted c ip port d)) :
    ∃ port, action = .dataAccept d port ∧ (net.dataLink d).server = j ∧
      (net.dataLink d).channel = c := by
  cases action with
  | call i input =>
      cases stimulated
      cases real
  | deliver c e =>
      dsimp only [stimulus] at stimulated
      split at stimulated <;> cases stimulated
  | eof c e =>
      obtain ⟨owner, _, same⟩ := Option.map_eq_some_iff.mp stimulated
      cases same
  | dataAccept d port =>
      cases stimulated
      exact ⟨port, rfl, rfl, rfl⟩
  | _ => cases stimulated

/-- The reaction of a process, with what it does to the subscriptors. -/
theorem Cabled.turnover (cabled : Cabled net) (live : Live topology net action net') (j : ι) :
    (net'.node j).Staffed ∧ ∀ c s k d, (net'.node j).Attends c s k d →
      (net.node j).Attends c s k d ∨ ∃ port, action = .dataAccept d port ∧
        (net.dataLink d).server = j ∧ (net.dataLink d).channel = c ∧
          k = (net.node j).dataSock.next := by
  obtain ⟨real, enabled, reacted⟩ := live
  rcases react_node reacted j with same | ⟨input, n', stimulated, stepped, same⟩
  · rw [same]
    exact ⟨cabled.staffed j, fun _ _ _ _ => .inl⟩
  · have turnover := Node.step_turnover (cabled.grounded j) (cabled.served j) (cabled.staffed j)
      stepped fun k conn isConnected => by
        subst isConnected
        obtain ⟨peer, c, rfl⟩ := real.dataConnected stimulated
        exact enabled.1
    rw [same]
    constructor
    · exact turnover.staffed.mesh _
    · intro c s k d attends
      rcases turnover.fresh c s k d ⟨attends.object, attends.socket⟩ with before | isNew
      · exact .inl before
      · obtain ⟨ip, port, rfl, _, isNext⟩ := isNew
        obtain ⟨port', isAccept, isServer, isChannel⟩ := real.dataAccepted stimulated
        exact .inr ⟨port', isAccept, isServer, isChannel, isNext⟩

theorem Cabled.step (cabled : Cabled net) (live : Live topology net action net') :
    Cabled net' := by
  have reacted := live.2.2
  have links := react_dataLink reacted
  have keeps := keeps_dataLinks links
  have turnover := fun j => cabled.turnover live j
  -- a connection that is being made is in nobody's hands
  have fresh : ∀ {i k j c}, action = .dataConnect i k j c →
      net.dataLink.next < net'.dataLink.next ∧ (net'.dataLink net.dataLink.next).client = i := by
    rintro i k j c rfl
    rw [links]
    simp only [dataLinks, Heap.alloc_next, Heap.alloc_self, Nat.lt_succ_self, and_self]
  refine ⟨?_, ?_, fun j => (turnover j).1, ?_, ?_, ?_, ?_⟩
  · intro i
    rcases react_node reacted i with same | ⟨_, n', _, stepped, same⟩
    · exact same ▸ cabled.grounded i
    · have grounded := Node.step_grounded (cabled.grounded i) stepped
      rw [same]
      exact ⟨grounded.vacant, grounded.listed, grounded.owned, grounded.client,
        grounded.persistent⟩
  · intro i
    rcases react_node reacted i with same | ⟨_, n', _, stepped, same⟩
    · exact same ▸ cabled.served i
    · rw [same]
      exact (Node.step_serversKnown (cabled.served i) stepped).1
  · intro i k d isClient receiving
    rcases receiving_step live isClient receiving with ⟨wasClient, before, _⟩ | ⟨j, c, isConnect, rfl⟩
    · obtain ⟨known, client⟩ := cabled.dialled i k d wasClient before
      exact ⟨Nat.lt_of_lt_of_le known keeps.next, (keeps.client d known).trans client⟩
    · exact fresh isConnect
  · intro i k k' d isClient receiving isClient' receiving'
    rcases receiving_step live isClient receiving with ⟨was, before, _⟩ | ⟨j, c, isConnect, isNew⟩
    · rcases receiving_step live isClient' receiving' with ⟨was', before', _⟩ | ⟨_, _, _, isNew⟩
      · exact cabled.single i k k' d was before was' before'
      · exact absurd (cabled.dialled i k d was before).1 (isNew ▸ Nat.lt_irrefl _)
    · rcases receiving_step live isClient' receiving' with ⟨was', before', _⟩ | ⟨_, _, again, _⟩
      · exact absurd (cabled.dialled i k' d was' before').1 (isNew ▸ Nat.lt_irrefl _)
      · rw [isConnect] at again
        cases again
        rfl
  · intro j c s k d attends
    rcases (turnover j).2 c s k d attends with before | ⟨port, isAccept, server, channel, _⟩
    · obtain ⟨known, accepted, server, channel⟩ := cabled.attended j c s k d before
      exact ⟨Nat.lt_of_lt_of_le known keeps.next, keeps.accepted d known accepted,
        (keeps.server d known).trans server, (keeps.channel d known).trans channel⟩
    · subst isAccept
      have known : d < net.dataLink.next := live.2.1.1
      refine ⟨Nat.lt_of_lt_of_le known keeps.next, ?_, (keeps.server d known).trans server,
        (keeps.channel d known).trans channel⟩
      rw [links, dataLinks, Heap.modify_self]
  · intro j c s k c' s' k' d attends again
    -- nothing is accepted twice
    have twice : ∀ {c s k} port, (net.node j).Attends c s k d → action ≠ .dataAccept d port := by
      rintro c s k port before rfl
      have accepted := (cabled.attended j c s k d before).2.1
      rw [live.2.1.2] at accepted
      cases accepted
    rcases (turnover j).2 c s k d attends with before | ⟨port, isAccept, _, _, isNext⟩
    · rcases (turnover j).2 c' s' k' d again with before' | ⟨port, isAccept, _⟩
      · exact cabled.alone j c s k c' s' k' d before before'
      · exact absurd isAccept (twice port before)
    · rcases (turnover j).2 c' s' k' d again with before' | ⟨_, _, _, _, isNext'⟩
      · exact absurd isAccept (twice port before')
      · rw [isNext, isNext']

end

end Network

end LibPubSub
