import LibPubSub.OwnChannels
import LibPubSub.Reconnection

/-! The subscriptors of a node. A subscriptor is made of an accepted data connection and
goes with it; while it is there, nothing happens to its object or to its socket. -/

set_option autoImplicit false

namespace LibPubSub

open Fallible Transition

namespace Node

/-- What `SubscriptionImpl(channel, socket, host)` constructs. -/
def subscriptor (c : ChanPtr) (h : HostPtr) (k : SockPtr) : SubscriptionImpl :=
  { channel := c, host := h, socket := some k, bConnected := true }

/-- The object at `s` is a subscriptor of channel `c`, with socket `k` on connection `d`. -/
structure Attends (n : Node) (c : ChanPtr) (s : SubPtr) (k : SockPtr) (d : ConnId) : Prop where
  object : ∃ h, n.sub s = some (subscriptor c h k)
  socket : ∃ ip port, n.dataSock k = .accepted ip port d s false

variable {n n' : Node} {c c' : ChanPtr} {s s' : SubPtr} {k k' : SockPtr} {d d' : ConnId}

theorem Attends.unique (attends : Attends n c s k d) (again : Attends n c' s k' d') :
    c' = c ∧ k' = k ∧ d' = d := by
  obtain ⟨⟨h, object⟩, ip, port, socket⟩ := attends
  obtain ⟨⟨h', object'⟩, ip', port', socket'⟩ := again
  rw [object, subscriptor, subscriptor] at object'
  cases object'
  rw [socket, TCPSocket.accepted, TCPSocket.accepted] at socket'
  cases socket'
  exact ⟨rfl, rfl, rfl⟩

/-- A socket has one subscriptor. -/
theorem Attends.same (attends : Attends n c s k d) (again : Attends n c' s' k d') : s' = s := by
  obtain ⟨_, ip, port, socket⟩ := attends
  obtain ⟨_, ip', port', socket'⟩ := again
  rw [socket, TCPSocket.accepted, TCPSocket.accepted] at socket'
  cases socket'
  rfl

theorem Attends.isClient (attends : Attends n c s k d) : (n.dataSock k).isClient = false := by
  obtain ⟨_, _, _, socket⟩ := attends
  rw [socket]
  rfl

theorem Attends.holds (attends : Attends n c s k d) : (n.dataSock k).Holds d := by
  obtain ⟨_, _, _, socket⟩ := attends
  rw [socket]
  exact ⟨rfl, rfl⟩

theorem Attends.of_same (attends : Attends n c s k d) (sub : n'.sub s = n.sub s)
    (dataSock : n'.dataSock k = n.dataSock k) : Attends n' c s k d :=
  ⟨sub.symm ▸ attends.object, dataSock.symm ▸ attends.socket⟩

theorem Attends.known (attends : Attends n c s k d) (grounded : Grounded n) :
    s < n.sub.next ∧ k < n.dataSock.next := by
  obtain ⟨h, object⟩ := attends.object
  exact ⟨grounded.known object, grounded.owned s _ k object rfl⟩

/-- The objects and sockets of the subscriptors. -/
structure Attached (n : Node) : Prop where
  objects : ∀ s sub k, n.sub s = some sub → sub.socket = some k →
    (n.dataSock k).isClient = false → ∃ c d, Attends n c s k d
  servers : ∀ k, (n.dataSock k).isClient = false →
    (∃ c s d, Attends n c s k d) ∨ (k < n.dataSock.next ∧
      (n.dataSock k).thread = .ended ∧ (n.dataSock k).listeners = none)
  clients : ∀ k s, (n.dataSock k).isClient = true → (n.dataSock k).listeners = some s →
    ∀ c k' d, ¬ Attends n c s k' d
  heard : ∀ k s, (n.dataSock k).listeners = some s → s < n.sub.next
  bound : ∀ c, ∀ s ∈ (n.chan c).subscriptors, s < n.sub.next
  single : ∀ c, (n.chan c).subscriptors.Nodup

theorem attached_init (ID port : Int32) (bindPort : ChanPtr → DataPort) :
    Attached (init ID port bindPort) where
  objects _ _ _ := nofun
  servers _ := nofun
  clients _ _ _ := nofun
  heard _ _ := nofun
  bound _ _ := nofun
  single _ := List.nodup_nil

/-- What a move or a reaction leaves of the subscriptors. -/
structure Retains (n n' : Node) : Prop where
  attached : Attached n'
  chanNext : n.chan.next ≤ n'.chan.next
  attends : ∀ c s k d, Attends n c s k d → Attends n' c s k d
  listed : ∀ c < n.chan.next, ∀ s ∈ (n.chan c).subscriptors, (∃ k d, Attends n c s k d) →
    s ∈ (n'.chan c).subscriptors

namespace Retains

theorem refl (attached : Attached n) : Retains n n :=
  ⟨attached, Nat.le_refl _, fun _ _ _ _ => id, fun _ _ _ member _ => member⟩

theorem trans {mid : Node} (first : Retains n mid) (second : Retains mid n') : Retains n n' where
  attached := second.attached
  chanNext := Nat.le_trans first.chanNext second.chanNext
  attends c s k d attends := second.attends c s k d (first.attends c s k d attends)
  listed c known s member attended := by
    obtain ⟨k, d, attends⟩ := attended
    have inside := first.listed c known s member ⟨k, d, attends⟩
    exact second.listed c (Nat.lt_of_lt_of_le known first.chanNext) s inside
      ⟨k, d, first.attends c s k d attends⟩

/-- Neither objects nor sockets are concerned. -/
theorem of_same (attached : Attached n) (sub : n'.sub = n.sub)
    (dataSock : n'.dataSock = n.dataSock) (chanNext : n.chan.next ≤ n'.chan.next)
    (lists : ∀ c, (n'.chan c).subscriptors = (n.chan c).subscriptors ∨
      (n.chan.next ≤ c ∧ (n'.chan c).subscriptors = [])) : Retains n n' := by
  have forth : ∀ {c s k d}, Attends n c s k d → Attends n' c s k d := fun attends =>
    attends.of_same (by rw [sub]) (by rw [dataSock])
  have back : ∀ {c s k d}, Attends n' c s k d → Attends n c s k d := fun attends =>
    attends.of_same (by rw [sub]) (by rw [dataSock])
  refine ⟨⟨?_, ?_, ?_, ?_, ?_, ?_⟩, chanNext, fun _ _ _ _ => forth, ?_⟩
  · intro s sub' k found socket isServer
    rw [sub] at found
    rw [dataSock] at isServer
    obtain ⟨c, d, attends⟩ := attached.objects s sub' k found socket isServer
    exact ⟨c, d, forth attends⟩
  · intro k isServer
    rw [dataSock] at isServer ⊢
    rcases attached.servers k isServer with ⟨c, s, d, attends⟩ | gone
    · exact .inl ⟨c, s, d, forth attends⟩
    · exact .inr gone
  · intro k s isClient listening c k' d attends
    rw [dataSock] at isClient listening
    exact attached.clients k s isClient listening c k' d (back attends)
  · intro k s listening
    rw [dataSock] at listening
    rw [sub]
    exact attached.heard k s listening
  · intro c s member
    rw [sub]
    rcases lists c with same | ⟨_, empty⟩
    · exact attached.bound c s (same ▸ member)
    · rw [empty] at member
      cases member
  · intro c
    rcases lists c with same | ⟨_, empty⟩
    · rw [same]
      exact attached.single c
    · rw [empty]
      exact List.nodup_nil
  · intro c known s member _
    rcases lists c with same | ⟨outside, _⟩
    · rw [same]
      exact member
    · exact absurd known (Nat.not_lt.mpr outside)

/-- Objects and client sockets that have nothing to do with the subscriptors change. -/
theorem of_beside (attached : Attached n)
    (forth : ∀ c s k d, Attends n c s k d → Attends n' c s k d)
    (objects : ∀ s sub' k, n'.sub s = some sub' → sub'.socket = some k →
      (n'.dataSock k).isClient = false → ∃ sub, n.sub s = some sub ∧ sub.socket = some k)
    (back : ∀ c s k d, Attends n' c s k d → Attends n c s k d)
    (servers : ∀ k, (n'.dataSock k).isClient = false → n'.dataSock k = n.dataSock k)
    (clients : ∀ k s, (n'.dataSock k).isClient = true → (n'.dataSock k).listeners = some s →
      ((n.dataSock k).isClient = true ∧ (n.dataSock k).listeners = some s) ∨
        (s < n'.sub.next ∧ ∀ c k' d, ¬ Attends n c s k' d))
    (subNext : n.sub.next ≤ n'.sub.next) (sockNext : n.dataSock.next ≤ n'.dataSock.next)
    (chan : n'.chan.next = n.chan.next)
    (lists : ∀ c, (n'.chan c).subscriptors.Sublist (n.chan c).subscriptors)
    (keeps : ∀ c, ∀ s ∈ (n.chan c).subscriptors, (∃ k d, Attends n c s k d) →
      s ∈ (n'.chan c).subscriptors) : Retains n n' := by
  refine ⟨⟨?_, ?_, ?_, ?_, ?_, ?_⟩, Nat.le_of_eq chan.symm, forth, fun c _ => keeps c⟩
  · intro s sub' k found socket isServer
    obtain ⟨sub, before, socket'⟩ := objects s sub' k found socket isServer
    rw [servers k isServer] at isServer
    obtain ⟨c, d, attends⟩ := attached.objects s sub k before socket' isServer
    exact ⟨c, d, forth _ _ _ _ attends⟩
  · intro k isServer
    have same := servers k isServer
    rw [same] at isServer ⊢
    rcases attached.servers k isServer with ⟨c, s, d, attends⟩ | ⟨known, gone⟩
    · exact .inl ⟨c, s, d, forth _ _ _ _ attends⟩
    · exact .inr ⟨Nat.lt_of_lt_of_le known sockNext, gone⟩
  · intro k s isClient listening c k' d attends
    rcases clients k s isClient listening with ⟨wasClient, before⟩ | ⟨_, never⟩
    · exact attached.clients k s wasClient before c k' d (back _ _ _ _ attends)
    · exact never c k' d (back _ _ _ _ attends)
  · intro k s listening
    cases side : (n'.dataSock k).isClient with
    | false =>
        rw [servers k side] at listening
        exact Nat.lt_of_lt_of_le (attached.heard k s listening) subNext
    | true =>
        rcases clients k s side listening with ⟨_, before⟩ | ⟨known, _⟩
        · exact Nat.lt_of_lt_of_le (attached.heard k s before) subNext
        · exact known
  · intro c s member
    exact Nat.lt_of_lt_of_le (attached.bound c s ((lists c).subset member)) subNext
  · exact fun c => (attached.single c).sublist (lists c)

end Retains

/-! ## Moves -/

/-- A subscription whose socket dials is no subscriptor. -/
theorem not_attends_of_client {sub : SubscriptionImpl} (found : n.sub s = some sub)
    (socket : sub.socket = some k) (isClient : (n.dataSock k).isClient = true) :
    ∀ c k' d, ¬ Attends n c s k' d := by
  intro c k' d attends
  obtain ⟨h, object⟩ := attends.object
  rw [found] at object
  obtain rfl := Option.some.inj object
  obtain rfl := Option.some.inj socket
  rw [attends.isClient] at isClient
  cases isClient

theorem not_attends_of_unconnected {sub : SubscriptionImpl} (found : n.sub s = some sub)
    (unconnected : sub.bConnected = false) : ∀ c k d, ¬ Attends n c s k d := by
  intro c k d attends
  obtain ⟨h, object⟩ := attends.object
  rw [found] at object
  obtain rfl := Option.some.inj object
  cases unconnected

theorem deleteSub_subscriptors (n : Node) (s : SubPtr) (c d : ChanPtr) :
    ((n.deleteSub s c).chan d).subscriptors =
      if d = c then (n.chan d).subscriptors.filter (· != s) else (n.chan d).subscriptors := by
  simp only [deleteSub, setChan, Heap.modify_apply]
  split
  · next same => rw [same]
  · rfl

/-- The end of a subscription whose socket dials: the object goes, and the socket is only
changed as far as nobody who serves can see. -/
theorem retains_delete {sub : SubscriptionImpl} {change : TCPSocket SubPtr → TCPSocket SubPtr}
    (attached : Attached n) (found : n.sub s = some sub) (socket : sub.socket = some k)
    (isClient : (n.dataSock k).isClient = true)
    (keepsSide : ∀ sock, (change sock).isClient = sock.isClient)
    (deaf : ∀ sock t, (change sock).listeners = some t → sock.listeners = some t) :
    Retains n ((n.setDataSock k change).deleteSub s sub.channel) := by
  have never := not_attends_of_client found socket isClient
  have cell : ∀ t, ((n.setDataSock k change).deleteSub s sub.channel).sub t =
      if t = s then none else n.sub t := fun t => n.sub.modify_apply s t fun _ => none
  have sock : ∀ j, ((n.setDataSock k change).deleteSub s sub.channel).dataSock j =
      if j = k then change (n.dataSock k) else n.dataSock j := fun j =>
    n.dataSock.modify_apply k j change
  have servers : ∀ j, (((n.setDataSock k change).deleteSub s sub.channel).dataSock j).isClient =
      false → ((n.setDataSock k change).deleteSub s sub.channel).dataSock j = n.dataSock j := by
    intro j isServer
    rw [sock] at isServer ⊢
    split at isServer
    · rw [keepsSide, isClient] at isServer
      cases isServer
    · next other => rw [if_neg other]
  have apart : ∀ {c t j d}, Attends n c t j d → t ≠ s ∧ j ≠ k := by
    intro c t j d attends
    constructor
    · rintro rfl
      exact never c j d attends
    · rintro rfl
      rw [attends.isClient] at isClient
      cases isClient
  refine .of_beside attached ?_ ?_ ?_ servers ?_ (Nat.le_refl _) (Nat.le_refl _) rfl ?_ ?_
  · intro c t j d attends
    obtain ⟨otherSub, otherSock⟩ := apart attends
    exact attends.of_same (by rw [cell, if_neg otherSub]) (by rw [sock, if_neg otherSock])
  · intro t sub' j isSub isSocket _
    rw [cell] at isSub
    split at isSub
    · cases isSub
    · exact ⟨sub', isSub, isSocket⟩
  · intro c t j d attends
    obtain ⟨h, object⟩ := attends.object
    rw [cell] at object
    split at object
    · cases object
    · next other =>
      exact attends.of_same (by rw [cell, if_neg other]) (servers j attends.isClient).symm
  · intro j t side listening
    rw [sock] at side listening
    split at listening
    · next same =>
      subst same
      exact .inl ⟨isClient, deaf _ _ listening⟩
    · next other =>
      rw [if_neg other] at side
      exact .inl ⟨side, listening⟩
  · intro c
    rw [deleteSub_subscriptors]
    split
    · exact List.filter_sublist
    · exact List.Sublist.refl _
  · intro c t member attended
    obtain ⟨j, d, attends⟩ := attended
    rw [deleteSub_subscriptors]
    split
    · exact List.mem_filter.mpr ⟨member, by simpa using (apart attends).1⟩
    · exact member

theorem subClose_retains (grounded : Grounded n) (attached : Attached n)
    (listed : s ∈ (n.chan c).subscriptions) (ran : n.subClose s = .ok n') : Retains n n' := by
  obtain ⟨sub, k, found, socket, rfl⟩ := subClose_shut ran
  have isClient := grounded.client c s listed sub k found socket
  refine retains_delete attached found socket isClient ?_ ?_
  · exact fun sock => (eased_shut sub.transport sock).isClient
  · intro sock t listening
    have deaf : (shut sub.transport sock).listeners = none := by cases sub.transport <;> rfl
    rw [deaf] at listening
    cases listening

/-- An unconnected subscription changes, and a socket that dials for it may be made. -/
theorem retains_modify {sub : SubscriptionImpl} {change : SubscriptionImpl → SubscriptionImpl}
    (made : TCPSocket SubPtr) (grounded : Grounded n) (attached : Attached n)
    (found : n.sub s = some sub) (unconnected : sub.bConnected = false)
    (subs : n'.sub = n.sub.modify s (Option.map change)) (chan : n'.chan = n.chan)
    (sockets : n'.dataSock = n.dataSock ∧ (change sub).socket = sub.socket ∨
      n'.dataSock = n.dataSock.alloc made ∧ made.isClient = true ∧ made.listeners = some s ∧
        (change sub).socket = some n.dataSock.next) : Retains n n' := by
  have never := not_attends_of_unconnected found unconnected
  have other : ∀ t, t ≠ s → n'.sub t = n.sub t := by
    intro t apart
    rw [subs, Heap.modify_of_ne _ _ apart]
  have changed : n'.sub s = some (change sub) := by
    rw [subs, Heap.modify_self, found, Option.map_some]
  have old : ∀ k, k ≠ n.dataSock.next → n'.dataSock k = n.dataSock k := by
    intro k apart
    rcases sockets with ⟨same, _⟩ | ⟨alloc, _⟩
    · rw [same]
    · rw [alloc, Heap.alloc_of_ne _ _ apart]
  have servers : ∀ k, (n'.dataSock k).isClient = false → n'.dataSock k = n.dataSock k := by
    intro k isServer
    rcases sockets with ⟨same, _⟩ | ⟨alloc, isClient, _⟩
    · rw [same]
    · refine old k ?_
      rintro rfl
      rw [alloc, Heap.alloc_self, isClient] at isServer
      cases isServer
  have back : ∀ c t k d, Attends n' c t k d → t ≠ s → Attends n c t k d := by
    intro c t k d attends apart
    exact attends.of_same (other t apart).symm (servers k attends.isClient).symm
  have gone : ∀ c k d, ¬ Attends n' c s k d := by
    intro c k d attends
    have isServer := attends.isClient
    obtain ⟨h, object⟩ := attends.object
    rw [changed] at object
    have socket : (change sub).socket = some k := by
      rw [Option.some.inj object]
      rfl
    rcases sockets with ⟨same, socket'⟩ | ⟨alloc, isClient, _, socket'⟩
    · rw [same] at isServer
      obtain ⟨c, d, attends⟩ := attached.objects s sub k found (socket'.symm.trans socket) isServer
      exact never c k d attends
    · obtain rfl := Option.some.inj (socket'.symm.trans socket)
      rw [alloc, Heap.alloc_self, isClient] at isServer
      cases isServer
  refine .of_beside attached ?_ ?_ ?_ servers ?_ ?_ ?_ ?_ ?_ ?_
  · intro c t k d attends
    have apart : t ≠ s := by
      rintro rfl
      exact never c k d attends
    exact attends.of_same (other t apart) (old k (Nat.ne_of_lt (attends.known grounded).2))
  · intro t sub' k isSub socket isServer
    by_cases same : t = s
    · subst same
      rw [changed] at isSub
      obtain rfl := Option.some.inj isSub
      rcases sockets with ⟨_, socket'⟩ | ⟨alloc, isClient, _, socket'⟩
      · exact ⟨sub, found, socket'.symm.trans socket⟩
      · obtain rfl := Option.some.inj (socket'.symm.trans socket)
        rw [alloc, Heap.alloc_self, isClient] at isServer
        cases isServer
    · rw [other t same] at isSub
      exact ⟨sub', isSub, socket⟩
  · intro c t k d attends
    refine back c t k d attends ?_
    rintro rfl
    exact gone c k d attends
  · intro k t isClient listening
    rcases sockets with ⟨same, _⟩ | ⟨alloc, _, listens, _⟩
    · rw [same] at isClient listening
      exact .inl ⟨isClient, listening⟩
    · rw [alloc, Heap.alloc_apply] at isClient listening
      split at listening
      · obtain rfl := Option.some.inj (listens.symm.trans listening)
        refine .inr ⟨?_, never⟩
        rw [subs, Heap.modify_next]
        exact grounded.known found
      · next apart =>
        rw [if_neg apart] at isClient
        exact .inl ⟨isClient, listening⟩
  · rw [subs, Heap.modify_next]
  · rcases sockets with ⟨same, _⟩ | ⟨alloc, _⟩
    · rw [same]
    · rw [alloc]
      exact Nat.le_succ _
  · rw [chan]
  · exact fun c => by rw [chan]
  · exact fun c t member _ => by rw [chan]; exact member

theorem acceptSubscriptor_retains (grounded : Grounded n) (attached : Attached n) (c : ChanPtr)
    (ip : Str) (port : Int32) (conn : ConnId) :
    Retains n (n.acceptSubscriptor c ip port conn) := by
  cases server : (n.chan c).server with
  | none =>
      simp only [acceptSubscriptor, server]
      exact .refl attached
  | some server' =>
      let n' := n.acceptSubscriptor c ip port conn
      have sub : ∀ t, n'.sub t =
          if t = n.sub.next then some (subscriptor c server'.host n.dataSock.next) else n.sub t := by
        intro t
        simp only [n', acceptSubscriptor, server]
        exact n.sub.alloc_apply _ t
      have sock : ∀ k, n'.dataSock k = if k = n.dataSock.next
          then .accepted ip port conn n.sub.next false else n.dataSock k := by
        intro k
        simp only [n', acceptSubscriptor, server]
        exact n.dataSock.alloc_apply _ k
      have lists : ∀ e, (n'.chan e).subscriptors =
          if e = c then (n.chan c).subscriptors ++ [n.sub.next] else (n.chan e).subscriptors := by
        intro e
        simp only [n', acceptSubscriptor, server, setChan, Heap.modify_apply]
        split <;> rfl
      have next : n'.chan.next = n.chan.next ∧ n'.sub.next = n.sub.next + 1 := by
        simp only [n', acceptSubscriptor, server]
        exact ⟨rfl, rfl⟩
      have sockNext : n'.dataSock.next = n.dataSock.next + 1 := by
        simp only [n', acceptSubscriptor, server]
        rfl
      have new : Attends n' c n.sub.next n.dataSock.next conn :=
        ⟨⟨server'.host, by rw [sub, if_pos rfl]⟩, ip, port, by rw [sock, if_pos rfl]⟩
      have forth : ∀ e t k d, Attends n e t k d → Attends n' e t k d := by
        intro e t k d attends
        obtain ⟨oldSub, oldSock⟩ := attends.known grounded
        refine attends.of_same ?_ ?_
        · rw [sub, if_neg (Nat.ne_of_lt oldSub)]
        · rw [sock, if_neg (Nat.ne_of_lt oldSock)]
      refine ⟨⟨?_, ?_, ?_, ?_, ?_, ?_⟩, Nat.le_of_eq next.1.symm, forth, ?_⟩
      · intro t sub' k found socket isServer
        change n'.sub t = some sub' at found
        rw [sub] at found
        split at found
        · next same =>
          subst same
          obtain rfl := Option.some.inj found
          obtain rfl := Option.some.inj socket
          exact ⟨c, conn, new⟩
        · have old := grounded.owned t sub' k found socket
          change (n'.dataSock k).isClient = false at isServer
          rw [sock, if_neg (Nat.ne_of_lt old)] at isServer
          obtain ⟨e, d, attends⟩ := attached.objects t sub' k found socket isServer
          exact ⟨e, d, forth _ _ _ _ attends⟩
      · intro k isServer
        change (n'.dataSock k).isClient = false at isServer
        by_cases isNew : k = n.dataSock.next
        · subst isNew
          exact .inl ⟨c, _, conn, new⟩
        · have same : n'.dataSock k = n.dataSock k := by rw [sock, if_neg isNew]
          rw [same] at isServer
          rcases attached.servers k isServer with ⟨e, t, d, attends⟩ | ⟨known, gone⟩
          · exact .inl ⟨e, t, d, forth _ _ _ _ attends⟩
          · refine .inr ?_
            change k < n'.dataSock.next ∧ (n'.dataSock k).thread = _ ∧ (n'.dataSock k).listeners = _
            rw [sockNext, same]
            exact ⟨Nat.lt_succ_of_lt known, gone⟩
      · intro k t isClient listening e k' d attends
        change (n'.dataSock k).isClient = true at isClient
        change (n'.dataSock k).listeners = some t at listening
        change Attends n' e t k' d at attends
        rw [sock] at isClient listening
        split at listening
        · next isNew =>
          rw [if_pos isNew] at isClient
          cases isClient
        · next old =>
          rw [if_neg old] at isClient
          have known := attached.heard k t listening
          obtain ⟨⟨h, object⟩, ip', port', socket⟩ := attends
          rw [sub, if_neg (Nat.ne_of_lt known)] at object
          have oldSock := grounded.owned t _ k' object rfl
          rw [sock, if_neg (Nat.ne_of_lt oldSock)] at socket
          exact attached.clients k t isClient listening e k' d ⟨⟨h, object⟩, ip', port', socket⟩
      · intro k t listening
        change (n'.dataSock k).listeners = some t at listening
        change t < n'.sub.next
        rw [next.2]
        rw [sock] at listening
        split at listening
        · rw [← Option.some.inj listening]
          exact Nat.lt_succ_self _
        · exact Nat.lt_succ_of_lt (attached.heard k t listening)
      · intro e t member
        change t ∈ (n'.chan e).subscriptors at member
        change t < n'.sub.next
        rw [next.2]
        rw [lists] at member
        split at member
        · rcases List.mem_append.mp member with old | isNew
          · exact Nat.lt_succ_of_lt (attached.bound c t old)
          · rw [List.mem_singleton.mp isNew]
            exact Nat.lt_succ_self _
        · exact Nat.lt_succ_of_lt (attached.bound e t member)
      · intro e
        change (n'.chan e).subscriptors.Nodup
        rw [lists]
        split
        · refine List.nodup_append.mpr ⟨attached.single c, List.nodup_singleton _, ?_⟩
          rintro t old u isNew rfl
          exact absurd (attached.bound c t old) (by rw [List.mem_singleton.mp isNew]; exact Nat.lt_irrefl _)
        · exact attached.single e
      · intro e _ t member _
        change t ∈ (n'.chan e).subscriptors
        rw [lists]
        split
        · next same => exact List.mem_append_left _ (same ▸ member)
        · exact member

theorem Move.retains (grounded : Grounded n) (attached : Attached n) (move : Move n n') :
    Retains n n' := by
  cases move with
  | mesh m => exact .of_same attached rfl rfl (Nat.le_refl _) fun _ => .inl rfl
  | record call => exact .of_same attached rfl rfl (Nat.le_refl _) fun _ => .inl rfl
  | @created _ _ c created =>
      refine .of_same attached created.sub created.dataSock created.chanNext fun e => ?_
      by_cases old : e < n.chan.next
      · exact .inl (by rw [created.old e old])
      · by_cases same : e = c
        · subst same
          exact .inr ⟨Nat.not_lt.mp old, by rw [created.fresh (Nat.not_lt.mp old)]⟩
        · exact .inl (by rw [created.other e same])
  | channel c change _ subscriptors =>
      refine .of_same attached rfl rfl (Nat.le_refl _) fun e => .inl ?_
      simp only [setChan, Heap.modify_apply]
      split
      · next same => rw [subscriptors, same]
      · rfl
  | subscribed c =>
      have sub : ∀ t, (n.addSubscription c).sub t =
          if t = n.sub.next then some { channel := c, host := n.mesh.me } else n.sub t :=
        fun t => n.sub.alloc_apply _ t
      refine .of_beside attached ?_ ?_ ?_ (fun _ _ => rfl) (fun _ _ isClient listening =>
        .inl ⟨isClient, listening⟩) (Nat.le_succ _) (Nat.le_refl _) rfl ?_ ?_
      · intro e t k d attends
        exact attends.of_same (by rw [sub, if_neg (Nat.ne_of_lt (attends.known grounded).1)]) rfl
      · intro t sub' k found socket _
        rw [sub] at found
        split at found
        · obtain rfl := Option.some.inj found
          cases socket
        · exact ⟨sub', found, socket⟩
      · intro e t k d attends
        obtain ⟨h, object⟩ := attends.object
        rw [sub] at object
        split at object
        · cases object
        · next old => exact attends.of_same (by rw [sub, if_neg old]) rfl
      · intro e
        simp only [addSubscription, Node.record, setChan, Heap.modify_apply]
        split
        · next same => rw [same]
        · exact List.Sublist.refl _
      · intro e t member _
        simp only [addSubscription, Node.record, setChan, Heap.modify_apply]
        split
        · next same => exact same ▸ member
        · exact member
  | @dialled s _ found unconnected c publisher =>
      exact retains_modify _ grounded attached found unconnected rfl rfl
        (.inr ⟨rfl, rfl, rfl, rfl⟩)
  | mapped found unconnected c =>
      exact retains_modify {} grounded attached found unconnected rfl rfl (.inl ⟨rfl, rfl⟩)
  | closed listed ran => exact subClose_retains grounded attached listed ran
  | accepted c ip port conn => exact acceptSubscriptor_retains grounded attached c ip port conn

theorem Moves.retains (moves : Moves n n') (grounded : Grounded n) (attached : Attached n) :
    Retains n n' := by
  have both : KeepsSockets n n' ∧ Retains n n' :=
    moves.relation (R := fun n n' => KeepsSockets n n' ∧ Retains n n')
      ⟨.refl grounded, .refl attached⟩ fun _ _ before move =>
        ⟨before.1.trans grounded (move.keepsSockets before.1.grounded),
          before.2.trans (move.retains before.1.grounded before.2.attached)⟩
  exact both.2

/-! ## The threads of the data sockets -/

/-- Something happens to a socket that dials which makes nobody hear it. -/
theorem retains_setDataSock {change : TCPSocket SubPtr → TCPSocket SubPtr} (attached : Attached n)
    (isClient : (n.dataSock k).isClient = true)
    (keepsSide : ∀ sock, (change sock).isClient = sock.isClient)
    (deaf : ∀ sock t, (change sock).listeners = some t → sock.listeners = some t) :
    Retains n (n.setDataSock k change) := by
  have sock : ∀ j, (n.setDataSock k change).dataSock j =
      if j = k then change (n.dataSock k) else n.dataSock j := fun j =>
    n.dataSock.modify_apply k j change
  have servers : ∀ j, ((n.setDataSock k change).dataSock j).isClient = false →
      (n.setDataSock k change).dataSock j = n.dataSock j := by
    intro j isServer
    rw [sock] at isServer ⊢
    split at isServer
    · rw [keepsSide, isClient] at isServer
      cases isServer
    · next other => rw [if_neg other]
  refine .of_beside attached ?_ ?_ ?_ servers ?_ (Nat.le_refl _) (Nat.le_refl _) rfl
    (fun _ => List.Sublist.refl _) fun _ _ member _ => member
  · intro c t j d attends
    have apart : j ≠ k := by
      rintro rfl
      rw [attends.isClient] at isClient
      cases isClient
    exact attends.of_same rfl (by rw [sock, if_neg apart])
  · exact fun t sub' j found socket _ => ⟨sub', found, socket⟩
  · exact fun c t j d attends => attends.of_same rfl (servers j attends.isClient).symm
  · intro j t side listening
    rw [sock] at side listening
    split at listening
    · next same =>
      subst same
      exact .inl ⟨isClient, deaf _ _ listening⟩
    · next other =>
      rw [if_neg other] at side
      exact .inl ⟨side, listening⟩

/-- Threads only dial on sockets of their own making. -/
theorem Attached.isClient_of_dialling (attached : Attached n) (dialling : (n.dataSock k).Dialling) :
    (n.dataSock k).isClient = true := by
  cases side : (n.dataSock k).isClient with
  | true => rfl
  | false =>
      have connecting := dialling.1
      rcases attached.servers k side with ⟨c, s, d, attends⟩ | ⟨_, ended, _⟩
      · rw [attends.holds.1] at connecting
        cases connecting
      · rw [ended] at connecting
        cases connecting

theorem dataConnected_retains {conn : ConnId} (attached : Attached n)
    (dialling : (n.dataSock k).Dialling) (ran : n.dataConnected k conn = .ok n') : Retains n n' := by
  have isClient := attached.isClient_of_dialling dialling
  have connected : Retains n (n.setDataSock k (·.connected conn)) :=
    retains_setDataSock attached isClient (fun _ => rfl) fun _ _ => id
  unfold dataConnected at ran
  dsimp only at ran
  split at ran
  · next s listening =>
    obtain ⟨sub, found, rest⟩ := bind_eq_ok.mp ran
    obtain rfl := pure_eq_ok.mp rest
    refine connected.trans ?_
    have attached' := connected.attached
    have isClient' : ((n.setDataSock k (·.connected conn)).dataSock k).isClient = true := by
      simp only [setDataSock, Heap.modify_self]
      exact isClient
    have never := attached'.clients k s isClient' listening
    have cell : ∀ t, ((n.setDataSock k (·.connected conn)).setSub s fun sub =>
        { sub with bConnected := true }).sub t = if t = s
          then some { sub with bConnected := true } else n.sub t := by
      intro t
      refine (n.sub.modify_apply s t _).trans ?_
      split
      · rw [show n.sub s = some sub from subAt_eq_ok.mp found]
        rfl
      · rfl
    refine .of_beside attached' ?_ ?_ ?_ (fun _ _ => rfl) (fun _ _ side listens =>
      .inl ⟨side, listens⟩) (Nat.le_refl _) (Nat.le_refl _) rfl (fun _ => List.Sublist.refl _)
      fun _ _ member _ => member
    · intro c t j d attends
      have apart : t ≠ s := by
        rintro rfl
        exact never c j d attends
      exact attends.of_same (by rw [cell, if_neg apart]; rfl) rfl
    · intro t sub' j isSub socket _
      rw [cell] at isSub
      split at isSub
      · next same =>
        obtain rfl := Option.some.inj isSub
        exact ⟨sub, same ▸ subAt_eq_ok.mp found, socket⟩
      · exact ⟨sub', isSub, socket⟩
    · intro c t j d attends
      by_cases same : t = s
      · subst same
        obtain ⟨h, object⟩ := attends.object
        rw [cell, if_pos rfl] at object
        have socket : sub.socket = some j :=
          congrArg SubscriptionImpl.socket (Option.some.inj object)
        obtain ⟨c, d, before⟩ := attached'.objects t sub j (subAt_eq_ok.mp found) socket
          attends.isClient
        exact absurd before (never c j d)
      · exact attends.of_same (by rw [cell, if_neg same]; rfl) rfl
  · exact pure_eq_ok.mp ran ▸ connected

/-- The lists hold the subscriptors, and channels that do not exist have none. -/
structure Staffed (n : Node) : Prop where
  attached : Attached n
  entered : ∀ c, ∀ s ∈ (n.chan c).subscriptors, ∃ k d, Attends n c s k d
  listed : ∀ c s k d, Attends n c s k d → s ∈ (n.chan c).subscriptors
  vacant : ∀ c, n.chan.next ≤ c → (n.chan c).subscriptors = []

theorem staffed_init (ID port : Int32) (bindPort : ChanPtr → DataPort) :
    Staffed (init ID port bindPort) where
  attached := attached_init ID port bindPort
  entered _ _ := nofun
  listed c s k d attends := by
    obtain ⟨h, object⟩ := attends.object
    cases object
  vacant _ _ := rfl

theorem Staffed.mesh (staffed : Staffed n) (m : Mesh) : Staffed { n with mesh := m } := by
  have kept : Retains n { n with mesh := m } :=
    .of_same staffed.attached rfl rfl (Nat.le_refl _) fun _ => .inl rfl
  refine ⟨kept.attached, fun c s member => ?_, fun c s k d attends => ?_, staffed.vacant⟩
  · obtain ⟨k, d, attends⟩ := staffed.entered c s member
    exact ⟨k, d, kept.attends c s k d attends⟩
  · exact staffed.listed c s k d (attends.of_same rfl rfl)

/-- What the end of the connection of socket `k` leaves of the subscriptors. -/
structure Parts (n : Node) (k : SockPtr) (n' : Node) : Prop where
  attached : Attached n'
  chan : n'.chan.next = n.chan.next
  kept : ∀ c s j d, Attends n c s j d → j ≠ k → Attends n' c s j d
  back : ∀ c s j d, Attends n' c s j d → j ≠ k ∧ Attends n c s j d
  lists : ∀ c s, s ∈ (n'.chan c).subscriptors ↔
    s ∈ (n.chan c).subscriptors ∧ ∀ d, ¬ Attends n c s k d

/-- The thread of an accepted socket has ended, and its subscriptor is deleted. -/
theorem parts_of_ended (attached : Attached n) (side : (n.dataSock k).isClient = false)
    (known : k < n.dataSock.next) (sockNext : n'.dataSock.next = n.dataSock.next)
    (others : ∀ j, j ≠ k → n'.dataSock j = n.dataSock j)
    (ended : (n'.dataSock k).thread = .ended) (deaf : (n'.dataSock k).listeners = none)
    (dead : ∀ c s d, Attends n c s k d → n'.sub s = none)
    (alive : ∀ s, (∀ c d, ¬ Attends n c s k d) → n'.sub s = n.sub s)
    (subNext : n'.sub.next = n.sub.next) (chan : n'.chan.next = n.chan.next)
    (sublists : ∀ c, (n'.chan c).subscriptors.Sublist (n.chan c).subscriptors)
    (lists : ∀ c s, s ∈ (n'.chan c).subscriptors ↔
      s ∈ (n.chan c).subscriptors ∧ ∀ d, ¬ Attends n c s k d) : Parts n k n' := by
  have still : ∀ {s}, n'.sub s ≠ none → n'.sub s = n.sub s := by
    intro s exists_
    refine alive s fun c d attends => ?_
    exact exists_ (dead c s d attends)
  have kept : ∀ c s j d, Attends n c s j d → j ≠ k → Attends n' c s j d := by
    intro c s j d attends apart
    refine attends.of_same (alive s fun c' d' again => ?_) (others j apart)
    exact apart (attends.unique again).2.1.symm
  have back : ∀ c s j d, Attends n' c s j d → j ≠ k ∧ Attends n c s j d := by
    intro c s j d attends
    have apart : j ≠ k := by
      rintro rfl
      rw [attends.holds.1] at ended
      cases ended
    obtain ⟨h, object⟩ := attends.object
    have same := still (s := s) (by rw [object]; exact Option.some_ne_none _)
    exact ⟨apart, attends.of_same same.symm (others j apart).symm⟩
  refine ⟨⟨?_, ?_, ?_, ?_, ?_, ?_⟩, chan, kept, back, lists⟩
  · intro s sub j found socket isServer
    have same := still (s := s) (by rw [found]; exact Option.some_ne_none _)
    have before : n.sub s = some sub := same.symm.trans found
    by_cases atK : j = k
    · subst atK
      obtain ⟨c, d, attends⟩ := attached.objects s sub j before socket side
      rw [dead c s d attends] at found
      cases found
    · rw [others j atK] at isServer
      obtain ⟨c, d, attends⟩ := attached.objects s sub j before socket isServer
      exact ⟨c, d, kept c s j d attends atK⟩
  · intro j isServer
    by_cases atK : j = k
    · subst atK
      exact .inr ⟨sockNext ▸ known, ended, deaf⟩
    · rw [others j atK] at isServer ⊢
      rw [sockNext]
      rcases attached.servers j isServer with ⟨c, s, d, attends⟩ | gone
      · exact .inl ⟨c, s, d, kept c s j d attends atK⟩
      · exact .inr gone
  · intro j s isClient listening c j' d attends
    by_cases atK : j = k
    · subst atK
      rw [deaf] at listening
      cases listening
    · rw [others j atK] at isClient listening
      exact attached.clients j s isClient listening c j' d (back c s j' d attends).2
  · intro j s listening
    by_cases atK : j = k
    · subst atK
      rw [deaf] at listening
      cases listening
    · rw [others j atK] at listening
      rw [subNext]
      exact attached.heard j s listening
  · intro c s member
    rw [subNext]
    exact attached.bound c s ((sublists c).subset member)
  · exact fun c => (attached.single c).sublist (sublists c)

/-- The socket of a server has done its last round. -/
theorem reconnectOrEnd_server {sock : TCPSocket SubPtr} (isServer : sock.isClient = false) :
    sock.reconnectOrEnd = { sock with thread := .ended } := by
  unfold TCPSocket.reconnectOrEnd
  rw [isServer, Bool.and_false]
  rfl

/-- Only a subscription that has dialled hears of the end of a client's connection. -/
theorem dataEof_client (staffed : Staffed n) (side : (n.dataSock k).isClient = true)
    (ran : n.dataEof k = .ok n') : Parts n k n' := by
  obtain ⟨closed, left, rest⟩ := bind_eq_ok.mp ran
  obtain rfl := pure_eq_ok.mp rest
  have keepsSide : ∀ sock : TCPSocket SubPtr, sock.reconnectOrEnd.isClient = sock.isClient := by
    intro sock
    unfold TCPSocket.reconnectOrEnd
    split <;> rfl
  have hears : ∀ (sock : TCPSocket SubPtr) t, sock.reconnectOrEnd.listeners = some t →
      sock.listeners = some t := by
    intro sock t listening
    rwa [TCPSocket.reconnectOrEnd_listeners] at listening
  let start := n.setDataSock k (·.closeFd)
  have first : Retains n start :=
    retains_setDataSock staffed.attached side (fun _ => rfl) fun _ _ => id
  have sideStart : (start.dataSock k).isClient = true := by
    simp only [start, setDataSock, Heap.modify_self]
    exact side
  have second : Retains start closed ∧ (closed.dataSock k).isClient = true ∧
      closed.chan.next = n.chan.next ∧
      (∀ c s, s ∈ (closed.chan c).subscriptors → s ∈ (n.chan c).subscriptors) ∧
      ∀ c s j d, Attends closed c s j d → Attends start c s j d := by
    unfold dataClosed at left
    split at left
    · next s listening =>
      obtain ⟨sub, j, found, socket, rfl⟩ := subOnClose_cases left
      have never := first.attached.clients k s sideStart listening
      have dials : (start.dataSock j).isClient = true := by
        cases sideJ : (start.dataSock j).isClient with
        | true => rfl
        | false =>
            obtain ⟨c, d, attends⟩ := first.attached.objects s sub j found socket sideJ
            exact absurd attends (never c j d)
      have unheard : ∀ (sock : TCPSocket SubPtr) t, sock.removeListeners.listeners = some t →
          sock.listeners = some t := by
        intro sock t listening
        cases listening
      refine ⟨retains_delete first.attached found socket dials (fun _ => rfl) unheard,
        ?_, rfl, ?_, ?_⟩
      · change ((start.dataSock.modify j (·.removeListeners)) k).isClient = true
        rw [Heap.modify_apply]
        split
        · exact dials
        · exact sideStart
      · intro c t member
        rw [deleteSub_subscriptors] at member
        split at member
        · exact (List.mem_filter.mp member).1
        · exact member
      · intro c t i d attends
        have apart : t ≠ s := by
          rintro rfl
          obtain ⟨h, object⟩ := attends.object
          change (start.sub.modify t fun _ => none) t = _ at object
          rw [Heap.modify_self] at object
          cases object
        have otherSock : i ≠ j := by
          rintro rfl
          have isServer := attends.isClient
          change ((start.dataSock.modify i (·.removeListeners)) i).isClient = false at isServer
          rw [Heap.modify_self] at isServer
          exact absurd dials (by rw [show (start.dataSock i).isClient = false from isServer]; decide)
        refine attends.of_same ?_ ?_
        · exact (start.sub.modify_of_ne (fun _ => none) apart).symm
        · exact (start.dataSock.modify_of_ne (·.removeListeners) otherSock).symm
    · rw [← pure_eq_ok.mp left]
      exact ⟨.refl first.attached, sideStart, rfl, fun _ _ => id, fun _ _ _ _ => id⟩
  obtain ⟨retained, sideClosed, chan, subset, backClosed⟩ := second
  have last : Retains closed (closed.setDataSock k (·.reconnectOrEnd)) :=
    retains_setDataSock retained.attached sideClosed keepsSide hears
  have all := (first.trans retained).trans last
  have notServed : ∀ c s d, ¬ Attends n c s k d := by
    intro c s d attends
    rw [attends.isClient] at side
    cases side
  have other : ∀ {m : Node} {change : TCPSocket SubPtr → TCPSocket SubPtr} {j : SockPtr},
      j ≠ k → (m.setDataSock k change).dataSock j = m.dataSock j := by
    intro m change j apart
    exact m.dataSock.modify_of_ne change apart
  refine ⟨all.attached, chan, fun c s j d attends _ => all.attends c s j d attends, ?_, ?_⟩
  · intro c s j d attends
    have apart : j ≠ k := by
      rintro rfl
      have isServer := attends.isClient
      change ((closed.dataSock.modify j (·.reconnectOrEnd)) j).isClient = false at isServer
      rw [Heap.modify_self, keepsSide, sideClosed] at isServer
      cases isServer
    have before := backClosed c s j d (attends.of_same rfl (other apart).symm)
    exact ⟨apart, before.of_same rfl (other apart).symm⟩
  · intro c s
    constructor
    · exact fun member => ⟨subset c s member, notServed c s⟩
    · rintro ⟨member, _⟩
      obtain ⟨j, d, attends⟩ := staffed.entered c s member
      refine all.listed c ?_ s member ⟨j, d, attends⟩
      by_contra outside
      rw [staffed.vacant c (Nat.not_lt.mp outside)] at member
      cases member

/-- `on_close` of a subscriptor, between the `::close(fd)` and the end of the thread. -/
theorem parts_subscriptor (attached : Attached n) (known : k < n.dataSock.next)
    (attends : Attends n c s k d) :
    Parts n k ((((n.setDataSock k (·.closeFd)).setDataSock k (·.removeListeners)).deleteSub
      s c).setDataSock k (·.reconnectOrEnd)) := by
  have side := attends.isClient
  have sock : ∀ i, ((((n.setDataSock k (·.closeFd)).setDataSock k (·.removeListeners)).deleteSub
      s c).setDataSock k (·.reconnectOrEnd)).dataSock i = if i = k
        then (n.dataSock k).closeFd.removeListeners.reconnectOrEnd else n.dataSock i := by
    intro i
    simp only [setDataSock, deleteSub, setChan, Heap.modify_apply, ↓reduceIte]
    split <;> rfl
  have final : (n.dataSock k).closeFd.removeListeners.reconnectOrEnd =
      { (n.dataSock k).closeFd.removeListeners with thread := .ended } :=
    reconnectOrEnd_server side
  refine parts_of_ended attached side known rfl (fun i apart => (sock i).trans (if_neg apart))
    ?_ ?_ ?_ ?_ rfl rfl ?_ ?_
  · rw [sock k, if_pos rfl, final]
  · rw [sock k, if_pos rfl, final]
    rfl
  · intro c' t d' again
    rw [attends.same again]
    exact n.sub.modify_self s fun _ => none
  · intro t never
    refine n.sub.modify_of_ne (fun _ => none) ?_
    rintro rfl
    exact never c d attends
  · intro e
    change (((Node.deleteSub _ s c).chan e).subscriptors).Sublist _
    rw [deleteSub_subscriptors]
    split
    · exact List.filter_sublist
    · exact List.Sublist.refl _
  · intro e t
    change t ∈ ((Node.deleteSub _ s c).chan e).subscriptors ↔ _
    rw [deleteSub_subscriptors]
    split
    · next same =>
      subst same
      rw [List.mem_filter]
      refine and_congr_right fun _ => ?_
      simp only [bne_iff_ne, ne_eq]
      constructor
      · exact fun apart d' again => apart (attends.same again)
      · rintro never rfl
        exact never d attends
    · next otherChan =>
      refine ⟨fun member => ⟨member, fun d' again => ?_⟩, fun both => both.1⟩
      obtain rfl := attends.same again
      exact otherChan (attends.unique again).1

/-- A socket that is not heard any more comes to its end. -/
theorem parts_unheard (attached : Attached n) (known : k < n.dataSock.next)
    (side : (n.dataSock k).isClient = false) (ended : (n.dataSock k).thread = .ended) (deaf : (n.dataSock k).listeners = none) :
    Parts n k ((n.setDataSock k (·.closeFd)).setDataSock k (·.reconnectOrEnd)) := by
  have notServed : ∀ c s d, ¬ Attends n c s k d := by
    intro c s d attends
    rw [attends.holds.1] at ended
    cases ended
  have sock : ∀ i, ((n.setDataSock k (·.closeFd)).setDataSock k (·.reconnectOrEnd)).dataSock i =
      if i = k then (n.dataSock k).closeFd.reconnectOrEnd else n.dataSock i := by
    intro i
    simp only [setDataSock, Heap.modify_apply, ↓reduceIte]
    split <;> rfl
  have final : (n.dataSock k).closeFd.reconnectOrEnd =
      { (n.dataSock k).closeFd with thread := .ended } := reconnectOrEnd_server side
  refine parts_of_ended attached side known rfl (fun i apart => (sock i).trans (if_neg apart)) ?_ ?_
    (fun c s d attends => absurd attends (notServed c s d)) (fun _ _ => rfl) rfl rfl
    (fun _ => List.Sublist.refl _) fun c s => ⟨fun member => ⟨member, notServed c s⟩, And.left⟩
  · rw [sock k, if_pos rfl, final]
  · rw [sock k, if_pos rfl, final]
    exact deaf

/-- A subscriptor goes with its connection. -/
theorem dataEof_parts (grounded : Grounded n) (staffed : Staffed n) (ran : n.dataEof k = .ok n') : Parts n k n' := by
  cases side : (n.dataSock k).isClient with
  | true => exact dataEof_client staffed side ran
  | false =>
      have attached := staffed.attached
      rcases attached.servers k side with ⟨c, s, d, attends⟩ | ⟨known, ended, deaf⟩
      · have known := (attends.known grounded).2
        obtain ⟨⟨h, object⟩, ip, port, socket⟩ := attends
        obtain ⟨closed, left, rest⟩ := bind_eq_ok.mp ran
        have listening : ((n.setDataSock k (·.closeFd)).dataSock k).listeners = some s := by
          simp only [setDataSock, Heap.modify_self, TCPSocket.closeFd, socket]
          rfl
        simp only [dataClosed, listening] at left
        obtain ⟨sub, j, found, isSocket, result⟩ := subOnClose_cases left
        obtain rfl := Option.some.inj (object.symm.trans found)
        obtain rfl := Option.some.inj isSocket
        rw [← pure_eq_ok.mp rest, result]
        exact parts_subscriptor attached known ⟨⟨h, object⟩, ip, port, socket⟩
      · rw [dataEof_unheard deaf] at ran
        rw [← Except.ok.inj ran]
        exact parts_unheard attached known side ended deaf

/-! ## The reactions -/

/-- Accepted sockets of reactions without an accepted connection have been there before. -/
theorem Plain.attends_back (plain : Plain n n') (grounded : Grounded n) (attached : Attached n)
    (attends : Attends n' c s k d) : Attends n c s k d := by
  have isServer := plain.servers k attends.isClient
  rcases attached.servers k isServer with ⟨c', s', d', before⟩ | ⟨known, ended, _⟩
  · have after := (plain.moves.retains grounded attached).attends c' s' k d' before
    obtain rfl := attends.same after
    obtain ⟨rfl, _, rfl⟩ := attends.unique after
    exact before
  · rcases (plain.moves.keepsSockets grounded).sockets k with eased | ⟨isNew, _⟩
    · have receiving := attends.holds.1
      rw [eased.thread, ended] at receiving
      cases receiving
    · exact absurd known (Nat.not_lt.mpr isNew)

/-- What a reaction does to the subscriptors. -/
structure Turnover (n : Node) (input : Input) (n' : Node) : Prop where
  staffed : Staffed n'
  kept : ∀ c s k d, Attends n c s k d → Attends n' c s k d ∨ input = .dataEof k
  fresh : ∀ c s k d, Attends n' c s k d → Attends n c s k d ∨
    ∃ ip port, input = .dataAccepted c ip port d ∧ s = n.sub.next ∧ k = n.dataSock.next

/-- Nobody has come or gone. -/
theorem turnover_of_retains {input : Input} (staffed : Staffed n) (retains : Retains n n')
    (back : ∀ c s k d, Attends n' c s k d → Attends n c s k d)
    (lists : ∀ c s, s ∈ (n'.chan c).subscriptors → s ∈ (n.chan c).subscriptors) :
    Turnover n input n' := by
  have known : ∀ c s, s ∈ (n.chan c).subscriptors → c < n.chan.next := by
    intro c s member
    by_contra outside
    rw [staffed.vacant c (Nat.not_lt.mp outside)] at member
    cases member
  refine ⟨⟨retains.attached, ?_, ?_, ?_⟩, fun c s k d attends => .inl (retains.attends c s k d
    attends), fun c s k d attends => .inl (back c s k d attends)⟩
  · intro c s member
    obtain ⟨k, d, attends⟩ := staffed.entered c s (lists c s member)
    exact ⟨k, d, retains.attends c s k d attends⟩
  · intro c s k d attends
    have before := back c s k d attends
    have member := staffed.listed c s k d before
    exact retains.listed c (known c s member) s member ⟨k, d, before⟩
  · intro c outside
    refine List.eq_nil_iff_forall_not_mem.mpr fun s member => ?_
    exact absurd (Nat.lt_of_lt_of_le (known c s (lists c s member)) retains.chanNext)
      (Nat.not_lt.mpr outside)

theorem accept_turnover {ip : Str} {port : Int32} {conn : ConnId} (grounded : Grounded n)
    (served : ServersKnown n) (staffed : Staffed n) (isOpen : (n.chan c).server ≠ none) :
    Turnover n (.dataAccepted c ip port conn) (n.acceptSubscriptor c ip port conn) := by
  have retains := acceptSubscriptor_retains grounded staffed.attached c ip port conn
  obtain ⟨server, isServer⟩ := Option.ne_none_iff_exists'.mp isOpen
  have lists : ∀ d, ((n.acceptSubscriptor c ip port conn).chan d).subscriptors =
      if d = c then (n.chan d).subscriptors ++ [n.sub.next] else (n.chan d).subscriptors :=
    acceptSubscriptor_subscriptors isOpen
  have fresh : ∀ e t k d, Attends (n.acceptSubscriptor c ip port conn) e t k d →
      Attends n e t k d ∨ e = c ∧ d = conn ∧ t = n.sub.next ∧ k = n.dataSock.next := by
    intro e t k d attends
    obtain ⟨⟨h, object⟩, ip', port', socket⟩ := attends
    simp only [acceptSubscriptor, isServer, setChan, Heap.alloc_apply] at object socket
    split at object
    · next isNew =>
      rw [subscriptor] at object
      cases object
      rw [if_pos rfl, TCPSocket.accepted, TCPSocket.accepted] at socket
      cases socket
      exact .inr ⟨rfl, rfl, isNew, rfl⟩
    · next old =>
      have oldSock := grounded.owned t _ k object rfl
      rw [if_neg (Nat.ne_of_lt oldSock)] at socket
      exact .inl ⟨⟨h, object⟩, ip', port', socket⟩
  have joined : Attends (n.acceptSubscriptor c ip port conn) c n.sub.next n.dataSock.next conn := by
    refine ⟨⟨server.host, ?_⟩, ip, port, ?_⟩
    · simp only [acceptSubscriptor, isServer]
      exact n.sub.alloc_self _
    · simp only [acceptSubscriptor, isServer]
      exact n.dataSock.alloc_self _
  refine ⟨⟨retains.attached, ?_, ?_, ?_⟩, fun e t k d attends => .inl (retains.attends e t k d
    attends), ?_⟩
  · intro e t member
    rw [lists] at member
    have old : t ∈ (n.chan e).subscriptors → ∃ k d,
        Attends (n.acceptSubscriptor c ip port conn) e t k d := by
      intro before
      obtain ⟨k, d, attends⟩ := staffed.entered e t before
      exact ⟨k, d, retains.attends e t k d attends⟩
    split at member
    · next same =>
      rcases List.mem_append.mp member with before | isNew
      · exact old before
      · rw [List.mem_singleton.mp isNew, same]
        exact ⟨_, _, joined⟩
    · exact old member
  · intro e t k d attends
    rw [lists]
    rcases fresh e t k d attends with before | ⟨rfl, _, rfl, _⟩
    · have member := staffed.listed e t k d before
      split
      · exact List.mem_append_left _ member
      · exact member
    · rw [if_pos rfl]
      exact List.mem_append_right _ (List.mem_singleton_self _)
  · intro e outside
    have outside' : n.chan.next ≤ e := Nat.le_trans retains.chanNext outside
    rw [lists, if_neg (Nat.ne_of_gt (Nat.lt_of_lt_of_le (served c isOpen) outside')),
      staffed.vacant e outside']
  · intro e t k d attends
    rcases fresh e t k d attends with before | ⟨rfl, rfl, isSub, isSock⟩
    · exact .inl before
    · exact .inr ⟨ip, port, rfl, isSub, isSock⟩

theorem step_turnover {input : Input} (grounded : Grounded n) (served : ServersKnown n)
    (staffed : Staffed n) (stepped : Step n input n')
    (dials : ∀ k conn, input = .dataConnected k conn → (n.dataSock k).Dialling) :
    Turnover n input n' := by
  have of_plain : Plain n n' → (∀ c ip port conn, input ≠ .dataAccepted c ip port conn) →
      Turnover n input n' := by
    intro plain notAccepted
    refine turnover_of_retains staffed (plain.moves.retains grounded staffed.attached)
      (fun c s k d => plain.attends_back grounded staffed.attached) ?_
    cases serving_effect stepped with
    | kept kept => exact kept.subscriptors
    | offered request h c _ result =>
        intro e s member
        rwa [result, request.offer_subscriptors] at member
    | accepted c ip port conn isAccept _ _ => exact absurd isAccept (notAccepted c ip port conn)
  cases input with
  | dataConnected k conn =>
      have dialling := dials k conn rfl
      have isClient := staffed.attached.isClient_of_dialling dialling
      have retains := dataConnected_retains staffed.attached dialling stepped
      obtain ⟨chan, dataSock, _⟩ := dataConnected_cases stepped
      refine turnover_of_retains staffed retains ?_ fun c s => by rw [chan]; exact id
      intro c s j d attends
      have isServer := attends.isClient
      have same : n'.dataSock j = n.dataSock j := by
        rw [dataSock, Heap.modify_apply] at isServer ⊢
        split at isServer
        · rw [show (n.dataSock k).isClient = false from isServer] at isClient
          cases isClient
        · next apart => rw [if_neg apart]
      have holds := attends.holds
      rw [same] at isServer holds
      rcases staffed.attached.servers j isServer with ⟨c', s', d', before⟩ | ⟨_, ended, _⟩
      · have after := retains.attends c' s' j d' before
        obtain rfl := attends.same after
        obtain ⟨rfl, _, rfl⟩ := attends.unique after
        exact before
      · rw [holds.1] at ended
        cases ended
  | dataEof k =>
      have parts := dataEof_parts grounded staffed stepped
      refine ⟨⟨parts.attached, ?_, ?_, ?_⟩, ?_, fun c s j d attends => .inl (parts.back c s j d
        attends).2⟩
      · intro c s member
        obtain ⟨before, notServed⟩ := (parts.lists c s).mp member
        obtain ⟨j, d, attends⟩ := staffed.entered c s before
        refine ⟨j, d, parts.kept c s j d attends ?_⟩
        rintro rfl
        exact notServed d attends
      · intro c s j d attends
        obtain ⟨apart, before⟩ := parts.back c s j d attends
        refine (parts.lists c s).mpr ⟨staffed.listed c s j d before, fun d' again => ?_⟩
        exact apart (before.unique again).2.1.symm
      · intro c outside
        rw [parts.chan] at outside
        refine List.eq_nil_iff_forall_not_mem.mpr fun s member => ?_
        have before := ((parts.lists c s).mp member).1
        rw [staffed.vacant c outside] at before
        cases before
      · intro c s j d attends
        by_cases same : j = k
        · exact .inr (by rw [same])
        · exact .inl (parts.kept c s j d attends same)
  | dataAccepted c ip port conn =>
      have result : n' = n.acceptSubscriptor c ip port conn := (pure_eq_ok.mp stepped).symm
      cases server : (n.chan c).server with
      | none =>
          simp only [acceptSubscriptor, server] at result
          subst result
          exact turnover_of_retains staffed (.refl staffed.attached) (fun _ _ _ _ => id)
            fun _ _ => id
      | some _ =>
          rw [result]
          exact accept_turnover grounded served staffed (by simp [server])
  | _ => exact of_plain (step_plain stepped rfl fun _ _ _ _ => Input.noConfusion) fun _ _ _ _ =>
      Input.noConfusion

end Node

end LibPubSub
