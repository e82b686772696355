import LibPubSub.Cabling
import LibPubSub.DirectMemory
import LibPubSub.Framing

/-! The data plane: what is written to a channel or to a subscription, the connections that
carry it, and the `on_message` calls at the other ends. A connection carries bytes in
order; how many of them a `recv()` returns is up to the network. -/

set_option autoImplicit false

namespace LibPubSub

open Fallible Transition

/-- Whose `on_message` a data socket's `cbRecv` calls. -/
inductive Callback where
  | subscription (s : SubPtr)
  | channel (c : ChanPtr)
  deriving DecidableEq

/-- A call of `on_message`, and the end of the data connection that the bytes came to. -/
structure Message (ι : Type) where
  process : ι
  callback : Callback
  conn : ConnId
  side : End
  bytes : Str

/-- Everything that was written to one end of a data connection, and how many bytes of it
have been received. -/
structure Flow where
  written : Str := []
  taken : Nat := 0

/-- What is still under way. -/
def Flow.left (flow : Flow) : Str :=
  flow.written.drop flow.taken

/-- A network with its data. -/
structure Traffic (ι : Type) where
  net : Network ι
  flow : ConnId → End → Flow := fun _ _ => {}
  heard : List (Message ι) := []

namespace Node

/-- The `on_message` behind data socket `k`: a subscription calls its own, a subscriptor that
of its channel. -/
def callback (n : Node) (k : SockPtr) : Option Callback :=
  match (n.dataSock k).listeners with
  | none => none
  | some s =>
      if (n.dataSock k).isClient then some (.subscription s)
      else (n.sub s).map fun sub => .channel sub.channel

/-- The object at `s` is a subscription that has not been deleted. -/
def Subscribing (n : Node) (s : SubPtr) : Prop :=
  match n.sub s with
  | some sub => s ∈ (n.chan sub.channel).subscriptions
  | none => False

instance (n : Node) (s : SubPtr) : Decidable (n.Subscribing s) := by
  unfold Subscribing
  cases n.sub s <;> infer_instance

/-- A write of subscription `s` goes to connection `d`. -/
def WritesTo (n : Node) (s : SubPtr) (d : ConnId) : Prop :=
  match n.handle s with
  | some (.socket k) => (n.dataSock k).Holds d
  | _ => False

instance (n : Node) (s : SubPtr) (d : ConnId) : Decidable (n.WritesTo s d) := by
  unfold WritesTo
  split <;> infer_instance

end Node

namespace Traffic

variable {ι : Type}

/-- What can happen: an action of the network, a `Channel::write`, a `Subscription::write`,
and a `recv()` of the thread of data socket `k` that returns `len` bytes of connection `d`. -/
inductive Event (ι : Type) where
  | act (action : Action ι)
  | write (i : ι) (c : ChanPtr) (memory : Memory) (msg : Ptr) (len : Nat)
  | subWrite (i : ι) (s : SubPtr) (memory : Memory) (msg : Ptr) (len : Nat)
  | recv (i : ι) (k : SockPtr) (d : ConnId) (len : Nat)

/-- The bytes of `sent` that go to end `e` of connection `d`: those for sockets of process `n`
that are the other end. -/
def carried (n : Node) (sent : List Sent) (d : ConnId) (e : End) : Str :=
  (sent.filter fun entry =>
    (n.dataSock entry.socket).Holds d ∧ (n.dataSock entry.socket).side = e.other).flatMap Sent.bytes

/-- `send()` of process `i`. -/
def carry (t : Traffic ι) (i : ι) (sent : List Sent) : Traffic ι :=
  { t with flow := fun d e =>
    { t.flow d e with written := (t.flow d e).written ++ carried (t.net.node i) sent d e } }

@[simp] theorem carry_written (t : Traffic ι) (i : ι) (sent : List Sent) (d : ConnId) (e : End) :
    ((t.carry i sent).flow d e).written =
      (t.flow d e).written ++ carried (t.net.node i) sent d e := rfl

/-- One round of the receive loop, with `cbRecv(buf, n)`. -/
def receive (t : Traffic ι) (i : ι) (k : SockPtr) (d : ConnId) (len : Nat) : Traffic ι :=
  let side := ((t.net.node i).dataSock k).side
  let bytes := (t.flow d side).left.take len
  { t with
    flow := fun d' e =>
      if d' = d ∧ e = side then { t.flow d' e with taken := (t.flow d' e).taken + len }
      else t.flow d' e
    heard := t.heard ++ ((t.net.node i).callback k).toList.map (⟨i, ·, d, side, bytes⟩) }

@[simp] theorem receive_written (t : Traffic ι) (i : ι) (k : SockPtr) (d : ConnId) (len : Nat)
    (d' : ConnId) (e : End) :
    ((t.receive i k d len).flow d' e).written = (t.flow d' e).written := by
  unfold receive
  dsimp only
  split <;> rfl

def react [DecidableEq ι] (topology : Topology ι) (t : Traffic ι) : Event ι → Result (Traffic ι)
  | .act action => do return { t with net := ← t.net.react topology action }
  | .write i c memory msg len => do
      return t.carry i (← (t.net.node i).channelWrite memory c msg len)
  | .subWrite i s memory msg len => do
      return t.carry i (← (t.net.node i).subWrite memory msg len s)
  | .recv i k d len => return t.receive i k d len

/-- Applications write to channels and to subscriptions that they have, and `recv()` returns
some of the bytes that are under way. -/
def Enabled (topology : Topology ι) (t : Traffic ι) : Event ι → Prop
  | .act action => t.net.Real action ∧ Network.Enabled topology t.net action
  | .write _ _ _ _ _ => True
  | .subWrite i s _ _ _ => (t.net.node i).Subscribing s
  | .recv i k d len =>
      ((t.net.node i).dataSock k).thread = .receiving d ∧ 0 < len ∧ len ≤ BUFSIZE ∧
        len ≤ (t.flow d ((t.net.node i).dataSock k).side).left.length

/-- A call of an application and a callback are one step each. So between the `::close(fd)` of a
receive thread and the end of its `on_close` nothing else happens in its process, and what is
written to or closed is a descriptor of the socket itself. -/
def Step [DecidableEq ι] (topology : Topology ι) (t : Traffic ι) (event : Event ι)
    (t' : Traffic ι) : Prop :=
  Enabled topology t event ∧ react topology t event = .ok t'

/-- What `on_message` has got at end `e` of connection `d`. -/
def heardAt (t : Traffic ι) (d : ConnId) (e : End) : Str :=
  (t.heard.filter fun message => message.conn = d ∧ message.side = e).flatMap Message.bytes

/-- The channel of connection `d` has a subscriptor on it. -/
def Attended (t : Traffic ι) (d : ConnId) : Prop :=
  ∃ s k, (t.net.node (t.net.dataLink d).server).Attends (t.net.dataLink d).channel s k d

/-- A thread receives at end `e` of connection `d` and somebody listens. -/
def Listens (t : Traffic ι) (d : ConnId) (e : End) : Prop :=
  ∃ i k, ((t.net.node i).dataSock k).thread = .receiving d ∧
    ((t.net.node i).dataSock k).side = e ∧ ((t.net.node i).dataSock k).listeners ≠ none

/-- What an event writes to channel `c` of process `i`. -/
def Event.publishes [DecidableEq ι] (i : ι) (c : ChanPtr) : Event ι → Str
  | .write j channel memory msg len => if j = i ∧ channel = c then memory.bytes msg len else []
  | _ => []

/-- All that the writes of a run to channel `c` of process `i` come to. -/
def published [DecidableEq ι] (i : ι) (c : ChanPtr) (trace : List (Event ι × Traffic ι)) : Str :=
  trace.flatMap fun entry => entry.1.publishes i c

/-- What an event writes through a subscription that is connected by `d`. -/
def Event.spoken (t : Traffic ι) (d : ConnId) : Event ι → Str
  | .subWrite i s memory msg len =>
      if (t.net.node i).WritesTo s d then memory.bytes msg len else []
  | _ => []

/-- All that the subscriptions of a run write through connection `d`. -/
def spoken (d : ConnId) : Traffic ι → List (Event ι × Traffic ι) → Str
  | _, [] => []
  | t, (event, t') :: later => event.spoken t d ++ spoken d t' later

/-! ## What a write puts on the connections -/

theorem carried_flatMap {n : Node} {subs : List SubPtr} (sentFor : SubPtr → List Sent) (d : ConnId)
    (e : End) :
    carried n (subs.flatMap sentFor) d e = subs.flatMap fun s => carried n (sentFor s) d e := by
  induction subs with
  | nil => rfl
  | cons s subs ih =>
      simp only [List.flatMap_cons, ← ih]
      simp only [carried, List.filter_append, List.flatMap_append]

theorem carried_singleton (n : Node) (k : SockPtr) (bytes : Str) (d : ConnId) (e : End) :
    carried n [⟨k, bytes⟩] d e =
      if (n.dataSock k).Holds d ∧ (n.dataSock k).side = e.other then bytes else [] := by
  unfold carried
  by_cases met : (n.dataSock k).Holds d ∧ (n.dataSock k).side = e.other
  · simp [met]
  · simp only [List.filter_singleton, met, decide_false, cond_false, List.flatMap_nil, ↓reduceIte]

/-- Where all elements but one contribute nothing, what the one contributes is all. -/
private theorem flatMap_of_single {α β : Type} {items : List α} {part : α → List β} {one : α}
    (nodup : items.Nodup) (member : one ∈ items)
    (others : ∀ item ∈ items, item ≠ one → part item = []) : items.flatMap part = part one := by
  induction items with
  | nil => cases member
  | cons item items ih =>
      obtain ⟨notMember, nodup⟩ := List.nodup_cons.mp nodup
      rw [List.flatMap_cons]
      rcases List.mem_cons.mp member with rfl | later
      · have rest : items.flatMap part = [] := by
          refine List.flatMap_eq_nil_iff.mpr fun other inside => ?_
          refine others other (List.mem_cons_of_mem _ inside) ?_
          rintro rfl
          exact notMember inside
        rw [rest, List.append_nil]
      · have apart : item ≠ one := by
          rintro rfl
          exact notMember later
        rw [others item List.mem_cons_self apart, List.nil_append,
          ih nodup later fun other inside => others other (List.mem_cons_of_mem _ inside)]

section

variable {n : Node} {c : ChanPtr} {s : SubPtr} {k : SockPtr} {d : ConnId} {e : End} {bytes : Str}

theorem side_of_attends (attends : n.Attends c s k d) : (n.dataSock k).side = .server :=
  TCPSocket.side_eq_server.mpr attends.isClient

theorem handle_of_attends (attends : n.Attends c s k d) : n.handle s = some (.socket k) := by
  obtain ⟨h, object⟩ := attends.object
  rw [Node.handle, object]
  rfl

theorem carried_attends (attends : n.Attends c s k d) (d' : ConnId) (e : End) :
    carried n (n.sentFor bytes s) d' e = if d' = d ∧ e = .client then bytes else [] := by
  have holds : (n.dataSock k).Holds d' ↔ d' = d := by
    constructor
    · intro holds
      have same := attends.holds.1
      rw [holds.1] at same
      cases same
      rfl
    · rintro rfl
      exact attends.holds
  have isOther : End.server = e.other ↔ e = .client := by cases e <;> decide
  rw [Node.sentFor, handle_of_attends attends]
  simp only [carried_singleton, side_of_attends attends, holds, isOther]

/-- A write to a channel goes once to every connection that has a subscriptor. -/
theorem carried_write {net : Network ι} (cabled : net.Cabled) (i : ι) (c : ChanPtr) (bytes : Str)
    (d : ConnId) (e : End) :
    ((∃ s k, (net.node i).Attends c s k d) ∧ e = .client →
        carried (net.node i)
          (((net.node i).chan c).subscriptors.flatMap ((net.node i).sentFor bytes)) d e = bytes) ∧
      (¬ ((∃ s k, (net.node i).Attends c s k d) ∧ e = .client) →
        carried (net.node i)
          (((net.node i).chan c).subscriptors.flatMap ((net.node i).sentFor bytes)) d e = []) := by
  have staffed := cabled.staffed i
  rw [carried_flatMap]
  constructor
  · rintro ⟨⟨s, k, attends⟩, rfl⟩
    have only : ∀ t ∈ ((net.node i).chan c).subscriptors, t ≠ s →
        carried (net.node i) ((net.node i).sentFor bytes t) d .client = [] := by
      intro t member other
      obtain ⟨k', d', attends'⟩ := staffed.entered c t member
      rw [carried_attends attends', if_neg]
      rintro ⟨rfl, _⟩
      -- two subscriptors on one connection would share its socket
      have sameSock := cabled.alone i c s k c t k' d attends attends'
      exact other (attends.same (sameSock ▸ attends'))
    rw [flatMap_of_single (staffed.attached.single c) (staffed.listed c s k d attends) only,
      carried_attends attends, if_pos ⟨rfl, rfl⟩]
  · intro nobody
    refine List.flatMap_eq_nil_iff.mpr fun t member => ?_
    obtain ⟨k', d', attends'⟩ := staffed.entered c t member
    rw [carried_attends attends', if_neg]
    rintro ⟨rfl, isClient⟩
    exact nobody ⟨⟨t, k', attends'⟩, isClient⟩

theorem writable_of_staffed (staffed : n.Staffed) (c : ChanPtr) : n.Writable c := by
  intro s member
  obtain ⟨k, d, attends⟩ := staffed.entered c s member
  obtain ⟨h, object⟩ := attends.object
  constructor
  · rw [object]
    exact Option.some_ne_none _
  · rw [Node.missing, object]
    rfl

theorem handle_eq {sub : SubscriptionImpl} {target : Option Handle} (found : n.sub s = some sub)
    (chosen : sub.write = .ok target) : n.handle s = target := by
  simp only [Node.handle, found, Option.map_some, chosen]

theorem socket_of_write {sub : SubscriptionImpl} (chosen : sub.write = .ok (some (.socket k))) :
    sub.socket = some k := by
  unfold SubscriptionImpl.write at chosen
  split at chosen
  · cases chosen
  · split at chosen
    · split at chosen
      · cases chosen
      · next j socket =>
        cases chosen
        exact socket
    · split at chosen <;> cases chosen

/-- A subscription writes on a socket that dialled. -/
theorem isClient_of_handle (grounded : n.Grounded) (subscribed : n.Subscribing s)
    (handle : n.handle s = some (.socket k)) : (n.dataSock k).isClient = true := by
  unfold Node.Subscribing at subscribed
  unfold Node.handle at handle
  cases found : n.sub s with
  | none => rw [found] at subscribed; cases subscribed
  | some sub =>
      rw [found] at subscribed
      rw [found, Option.map_some] at handle
      cases chosen : sub.write with
      | error missing => rw [chosen] at handle; cases handle
      | ok target =>
          simp only [chosen] at handle
          have socket := socket_of_write (chosen.trans (congrArg Except.ok handle))
          exact grounded.client _ s subscribed sub k found socket

/-- What a subscription writes goes to the server's end of the connection it holds. -/
theorem carried_subWrite {memory : Memory} {msg : Ptr} {len : Nat} {sent : List Sent}
    (grounded : n.Grounded) (subscribed : n.Subscribing s)
    (wrote : n.subWrite memory msg len s = .ok sent) (d : ConnId) (e : End) :
    carried n sent d e = if e = .server ∧ n.WritesTo s d then memory.bytes msg len else [] := by
  obtain ⟨sub, found, rest⟩ := bind_eq_ok.mp wrote
  have handle : ∀ target, sub.write = .ok target → n.handle s = target :=
    fun _ => handle_eq (Node.subAt_eq_ok.mp found)
  cases chosen : sub.write with
  | error missing =>
      simp only [chosen] at rest
      cases rest
  | ok target =>
      have handle := handle target chosen
      simp only [chosen] at rest
      rcases target with _ | k | segment
      · cases rest
        simp only [Node.WritesTo, handle, and_false, if_false]
        rfl
      · cases rest
        have isClient := isClient_of_handle grounded subscribed handle
        have isOther : End.client = e.other ↔ e = .server := by cases e <;> decide
        simp only [carried_singleton, TCPSocket.side_eq_client.mpr isClient, isOther,
          Node.WritesTo, handle, and_comm]
      · cases rest
        simp only [Node.WritesTo, handle, and_false, if_false]
        rfl

theorem receiving_of_writesTo (grounded : n.Grounded) (subscribed : n.Subscribing s)
    (writesTo : n.WritesTo s d) :
    ∃ k, (n.dataSock k).isClient = true ∧ (n.dataSock k).thread = .receiving d := by
  unfold Node.WritesTo at writesTo
  split at writesTo
  · next k handle => exact ⟨k, isClient_of_handle grounded subscribed handle, writesTo.1⟩
  · cases writesTo

end

/-! ## The invariant -/

/-- What the ends of the data connections have received and heard. -/
structure Sound (t : Traffic ι) : Prop where
  cabled : t.net.Cabled
  bounded : ∀ d e, (t.flow d e).taken ≤ (t.flow d e).written.length
  future : ∀ d, t.net.dataLink.next ≤ d → ∀ e, (t.flow d e).written = []
  unaccepted : ∀ d, (t.net.dataLink d).accepted = false →
    (t.flow d .client).written = [] ∧ (t.flow d .server).taken = 0
  part : ∀ d e, ∃ m ≤ (t.flow d e).taken, t.heardAt d e = (t.flow d e).written.take m
  whole : ∀ d e, t.Listens d e → t.heardAt d e = (t.flow d e).written.take (t.flow d e).taken
  known : ∀ message ∈ t.heard, message.conn < t.net.dataLink.next
  servers : ∀ message ∈ t.heard, message.side = .server →
    message.process = (t.net.dataLink message.conn).server ∧
      message.callback = .channel (t.net.dataLink message.conn).channel
  clients : ∀ d, ∃ s, (∀ message ∈ t.heard, message.conn = d → message.side = .client →
      message.process = (t.net.dataLink d).client ∧ message.callback = .subscription s) ∧
    ∀ i k, ((t.net.node i).dataSock k).isClient = true →
      ((t.net.node i).dataSock k).thread = .receiving d →
        ∀ u, ((t.net.node i).dataSock k).listeners = some u → u = s

theorem sound_of_booted {net : Network ι} (booted : net.Booted) : Sound { net := net } where
  cabled := booted.cabled
  bounded _ _ := Nat.le_refl _
  future _ _ _ := rfl
  unaccepted _ _ := ⟨rfl, rfl⟩
  part _ _ := ⟨0, Nat.le_refl _, rfl⟩
  whole _ _ _ := rfl
  known _ := nofun
  servers _ := nofun
  clients d := by
    refine ⟨0, fun _ => nofun, fun i k _ receiving => ?_⟩
    obtain ⟨ID, port, bindPort, isInit⟩ := booted i
    rw [isInit] at receiving
    cases receiving

variable {t : Traffic ι}

/-- Nothing has been received of a connection that does not exist. -/
theorem Sound.untaken {d : ConnId} (sound : Sound t) (outside : t.net.dataLink.next ≤ d) (e : End) :
    (t.flow d e).taken = 0 := by
  have bounded := sound.bounded d e
  rw [sound.future d outside e] at bounded
  exact Nat.le_zero.mp bounded

theorem Sound.heardAt_of_untaken {d : ConnId} {e : End} (sound : Sound t)
    (untaken : (t.flow d e).taken = 0) : t.heardAt d e = [] := by
  obtain ⟨m, atMost, heard⟩ := sound.part d e
  rw [untaken, Nat.le_zero] at atMost
  rw [heard, atMost, List.take_zero]

section

variable [DecidableEq ι] {topology : Topology ι}

/-- Who listens at an end has listened before, or nothing has been received there. -/
theorem Sound.listens {net' : Network ι} {action : Action ι} {d : ConnId} {e : End}
    (sound : Sound t) (live : Network.Live topology t.net action net')
    (listens : Listens { t with net := net' } d e) : t.Listens d e ∨ (t.flow d e).taken = 0 := by
  obtain ⟨i, k, receiving, side, listening⟩ := listens
  change ((net'.node i).dataSock k).thread = _ at receiving
  change ((net'.node i).dataSock k).side = _ at side
  change ((net'.node i).dataSock k).listeners ≠ _ at listening
  cases isClient : ((net'.node i).dataSock k).isClient with
  | true =>
      obtain rfl := (TCPSocket.side_eq_client.mpr isClient).symm.trans side
      rcases Network.receiving_step live isClient receiving with ⟨was, before, heard⟩ | ⟨j, c, _, rfl⟩
      · obtain ⟨s, listening⟩ := Option.ne_none_iff_exists'.mp listening
        refine .inl ⟨i, k, before, TCPSocket.side_eq_client.mpr was, ?_⟩
        rw [heard s listening]
        exact Option.some_ne_none s
      · exact .inr (sound.untaken (Nat.le_refl _) _)
  | false =>
      obtain rfl := (TCPSocket.side_eq_server.mpr isClient).symm.trans side
      have turnover := sound.cabled.turnover live i
      obtain ⟨c, s, attends⟩ := turnover.1.attached.attends isClient receiving
      rcases turnover.2 c s k d attends with before | ⟨port, isAccept, _⟩
      · refine .inl ⟨i, k, before.holds.1, side_of_attends before, ?_⟩
        obtain ⟨_, _, _, socket⟩ := before
        rw [socket]
        exact Option.some_ne_none s
      · subst isAccept
        exact .inr (sound.unaccepted d live.2.1.2).2

theorem Sound.act {net' : Network ι} {action : Action ι} (sound : Sound t)
    (live : Network.Live topology t.net action net') : Sound { t with net := net' } := by
  have keeps := Network.keeps_dataLinks (Network.react_dataLink live.2.2)
  refine ⟨sound.cabled.step live, sound.bounded, ?_, ?_, sound.part, ?_, ?_, ?_, ?_⟩
  · exact fun d outside => sound.future d (Nat.le_trans keeps.next outside)
  · intro d unaccepted
    change (net'.dataLink d).accepted = false at unaccepted
    by_cases old : d < t.net.dataLink.next
    · refine sound.unaccepted d ?_
      cases accepted : (t.net.dataLink d).accepted with
      | false => rfl
      | true => exact absurd (keeps.accepted d old accepted) (Bool.eq_false_iff.mp unaccepted)
    · have outside := Nat.not_lt.mp old
      exact ⟨sound.future d outside _, sound.untaken outside _⟩
  · intro d e listens
    rcases sound.listens live listens with before | untaken
    · exact sound.whole d e before
    · change t.heardAt d e = _
      rw [sound.heardAt_of_untaken untaken, untaken, List.take_zero]
  · exact fun message member => Nat.lt_of_lt_of_le (sound.known message member) keeps.next
  · intro message member isServer
    have old := sound.known message member
    rw [keeps.server _ old, keeps.channel _ old]
    exact sound.servers message member isServer
  · intro d
    obtain ⟨s, same, owner⟩ := sound.clients d
    by_cases old : d < t.net.dataLink.next
    · refine ⟨s, ?_, ?_⟩
      · change ∀ message ∈ t.heard, _ → _ → message.process = (net'.dataLink d).client ∧ _
        rw [keeps.client d old]
        exact same
      · intro i k isClient receiving u listening
        rcases Network.receiving_step live isClient receiving with
          ⟨was, before, heard⟩ | ⟨_, _, _, isNew⟩
        · exact owner i k was before u (heard u listening)
        · exact absurd old (isNew ▸ Nat.lt_irrefl _)
    · -- nobody has heard anything of a new connection, and one socket has it
      have unheard : ∀ message ∈ t.heard, message.conn ≠ d := by
        rintro message member rfl
        exact old (sound.known message member)
      have cabled := sound.cabled.step live
      have alone : ∃ s, ∀ i k, ((net'.node i).dataSock k).isClient = true →
          ((net'.node i).dataSock k).thread = .receiving d →
            ∀ u, ((net'.node i).dataSock k).listeners = some u → u = s := by
        by_cases someone : ∃ i k s, ((net'.node i).dataSock k).isClient = true ∧
            ((net'.node i).dataSock k).thread = .receiving d ∧
              ((net'.node i).dataSock k).listeners = some s
        · obtain ⟨i, k, s, isClient, receiving, listening⟩ := someone
          refine ⟨s, fun j k' isClient' receiving' u listening' => ?_⟩
          obtain ⟨rfl, rfl⟩ := cabled.same receiving receiving'
            ((TCPSocket.side_eq_client.mpr isClient').trans
              (TCPSocket.side_eq_client.mpr isClient).symm)
          rw [listening] at listening'
          exact (Option.some.inj listening').symm
        · refine ⟨0, fun i k isClient receiving u listening => ?_⟩
          exact absurd ⟨i, k, u, isClient, receiving, listening⟩ someone
      obtain ⟨s, alone⟩ := alone
      exact ⟨s, fun message member isConn => absurd isConn (unheard message member), alone⟩

omit [DecidableEq ι] in
theorem Sound.carry {i : ι} {sent : List Sent} (sound : Sound t)
    (known : ∀ d e, carried (t.net.node i) sent d e ≠ [] → d < t.net.dataLink.next)
    (accepted : ∀ d, carried (t.net.node i) sent d .client ≠ [] →
      (t.net.dataLink d).accepted = true) : Sound (t.carry i sent) := by
  have take : ∀ d e m, m ≤ (t.flow d e).taken →
      ((t.carry i sent).flow d e).written.take m = (t.flow d e).written.take m := by
    intro d e m atMost
    exact List.take_append_of_le_length (Nat.le_trans atMost (sound.bounded d e))
  refine ⟨sound.cabled, ?_, ?_, ?_, ?_, ?_, sound.known, sound.servers, sound.clients⟩
  · intro d e
    change (t.flow d e).taken ≤ ((t.flow d e).written ++ _).length
    rw [List.length_append]
    exact Nat.le_trans (sound.bounded d e) (Nat.le_add_right _ _)
  · intro d outside e
    change (t.flow d e).written ++ _ = []
    rw [sound.future d outside e, List.nil_append]
    by_contra something
    exact absurd (known d e something) (Nat.not_lt.mpr outside)
  · intro d unaccepted
    obtain ⟨unwritten, untaken⟩ := sound.unaccepted d unaccepted
    refine ⟨?_, untaken⟩
    change (t.flow d .client).written ++ _ = []
    rw [unwritten, List.nil_append]
    by_contra something
    have isAccepted := accepted d something
    change (t.net.dataLink d).accepted = false at unaccepted
    rw [unaccepted] at isAccepted
    cases isAccepted
  · intro d e
    obtain ⟨m, atMost, heard⟩ := sound.part d e
    exact ⟨m, atMost, heard.trans (take d e m atMost).symm⟩
  · intro d e listens
    exact (sound.whole d e listens).trans (take d e _ (Nat.le_refl _)).symm

omit [DecidableEq ι] in
theorem heardAt_receive (t : Traffic ι) (i : ι) (k : SockPtr) (d : ConnId) (len : Nat)
    (d' : ConnId) (e : End) :
    (t.receive i k d len).heardAt d' e = t.heardAt d' e ++
      if d' = d ∧ e = ((t.net.node i).dataSock k).side ∧ ((t.net.node i).callback k).isSome then
        (t.flow d e).left.take len else [] := by
  simp only [heardAt, receive, List.filter_append, List.flatMap_append]
  congr 1
  cases (t.net.node i).callback k with
  | none => simp
  | some callback =>
      by_cases here : d' = d ∧ e = ((t.net.node i).dataSock k).side
      · obtain ⟨rfl, rfl⟩ := here
        simp
      · have other : ¬ (d = d' ∧ ((t.net.node i).dataSock k).side = e) :=
          fun both => here ⟨both.1.symm, both.2.symm⟩
        simp [here, other]

omit [DecidableEq ι] in
/-- Whom the `cbRecv` of a socket that receives calls. -/
theorem Sound.callback {i : ι} {k : SockPtr} {d : ConnId} {callback : Callback} (sound : Sound t)
    (receiving : ((t.net.node i).dataSock k).thread = .receiving d)
    (calls : (t.net.node i).callback k = some callback) :
    (((t.net.node i).dataSock k).side = .client ∧
      ((t.net.node i).dataSock k).isClient = true ∧
      ∃ s, ((t.net.node i).dataSock k).listeners = some s ∧ callback = .subscription s) ∨
    (((t.net.node i).dataSock k).side = .server ∧ i = (t.net.dataLink d).server ∧
      callback = .channel (t.net.dataLink d).channel) := by
  unfold Node.callback at calls
  split at calls
  · cases calls
  · next s listening =>
    cases isClient : ((t.net.node i).dataSock k).isClient with
    | true =>
        rw [isClient, if_pos rfl] at calls
        exact .inl ⟨TCPSocket.side_eq_client.mpr isClient, rfl, s, listening,
          (Option.some.inj calls).symm⟩
    | false =>
        obtain ⟨c, s', attends⟩ := (sound.cabled.staffed i).attached.attends isClient receiving
        obtain ⟨_, _, server, channel⟩ := sound.cabled.attended i c s' k d attends
        obtain ⟨⟨h, object⟩, ip, port, socket⟩ := attends
        have isSubscriptor : s = s' := by
          rw [socket] at listening
          exact (Option.some.inj listening).symm
        rw [isClient, isSubscriptor, object] at calls
        refine .inr ⟨TCPSocket.side_eq_server.mpr isClient, server.symm, ?_⟩
        rw [channel]
        exact (Option.some.inj calls).symm

omit [DecidableEq ι] in
/-- `cbRecv` is installed as long as anybody listens. -/
theorem Sound.callback_isSome {i : ι} {k : SockPtr} {d : ConnId} (sound : Sound t)
    (receiving : ((t.net.node i).dataSock k).thread = .receiving d)
    (listening : ((t.net.node i).dataSock k).listeners ≠ none) :
    ((t.net.node i).callback k).isSome := by
  obtain ⟨s, listening⟩ := Option.ne_none_iff_exists'.mp listening
  cases isClient : ((t.net.node i).dataSock k).isClient with
  | true => simp [Node.callback, listening, isClient]
  | false =>
      obtain ⟨c, s', attends⟩ := (sound.cabled.staffed i).attached.attends isClient receiving
      obtain ⟨⟨h, object⟩, ip, port, socket⟩ := attends
      rw [socket] at listening
      obtain rfl : s' = s := Option.some.inj listening
      simp [Node.callback, socket, TCPSocket.accepted, object]

omit [DecidableEq ι] in
/-- Who listens has heard everything before, and now hears the next bytes. -/
theorem Sound.heard_and_more {i : ι} {k : SockPtr} {d : ConnId} (sound : Sound t)
    (receiving : ((t.net.node i).dataSock k).thread = .receiving d)
    (isSome : ((t.net.node i).callback k).isSome) (len : Nat) :
    let flow := t.flow d ((t.net.node i).dataSock k).side
    t.heardAt d ((t.net.node i).dataSock k).side ++ flow.left.take len =
      flow.written.take (flow.taken + len) := by
  have listening : ((t.net.node i).dataSock k).listeners ≠ none := by
    intro unheard
    rw [Node.callback, unheard] at isSome
    cases isSome
  dsimp only
  rw [sound.whole d _ ⟨i, k, receiving, rfl, listening⟩, Flow.left, List.take_add]

omit [DecidableEq ι] in
theorem Sound.receive {i : ι} {k : SockPtr} {d : ConnId} {len : Nat} (sound : Sound t)
    (receiving : ((t.net.node i).dataSock k).thread = .receiving d)
    (arrived : len ≤ (t.flow d ((t.net.node i).dataSock k).side).left.length) :
    Sound (t.receive i k d len) := by
  have written := t.receive_written i k d len
  have taken : ∀ d' e, ((t.receive i k d len).flow d' e).taken = (t.flow d' e).taken +
      if d' = d ∧ e = ((t.net.node i).dataSock k).side then len else 0 := by
    intro d' e
    simp only [Traffic.receive]
    split <;> rfl
  have known : d < t.net.dataLink.next := by
    cases isClient : ((t.net.node i).dataSock k).isClient with
    | true => exact (sound.cabled.dialled i k d isClient receiving).1
    | false =>
        obtain ⟨c, s, attends⟩ := (sound.cabled.staffed i).attached.attends isClient receiving
        exact (sound.cabled.attended i c s k d attends).1
  have calls : ∀ message ∈ (t.receive i k d len).heard, message ∈ t.heard ∨
      (message.conn = d ∧ message.process = i ∧
        message.side = ((t.net.node i).dataSock k).side ∧
          (t.net.node i).callback k = some message.callback) := by
    intro message member
    rcases List.mem_append.mp member with old | isNew
    · exact .inl old
    · obtain ⟨callback, isCallback, rfl⟩ := List.mem_map.mp isNew
      exact .inr ⟨rfl, rfl, rfl, Option.mem_toList.mp isCallback⟩
  refine ⟨sound.cabled, ?_, ?_, ?_, ?_, ?_, ?_, ?_, ?_⟩
  · intro d' e
    rw [written, taken]
    split
    · next here =>
      obtain ⟨rfl, rfl⟩ := here
      have bounded := sound.bounded d' ((t.net.node i).dataSock k).side
      rw [Flow.left, List.length_drop] at arrived
      omega
    · exact sound.bounded d' e
  · intro d' outside e
    rw [written]
    exact sound.future d' outside e
  · intro d' unaccepted
    obtain ⟨unwritten, untaken⟩ := sound.unaccepted d' unaccepted
    refine ⟨(written d' .client).trans unwritten, ?_⟩
    rw [taken, untaken, if_neg]
    rintro ⟨rfl, isServer⟩
    obtain ⟨c, s, attends⟩ := (sound.cabled.staffed i).attached.attends
      (TCPSocket.side_eq_server.mp isServer.symm) receiving
    have accepted := (sound.cabled.attended i c s k d' attends).2.1
    change (t.net.dataLink d').accepted = false at unaccepted
    rw [unaccepted] at accepted
    cases accepted
  · intro d' e
    obtain ⟨m, atMost, heard⟩ := sound.part d' e
    rw [written, taken, heardAt_receive]
    by_cases here : d' = d ∧ e = ((t.net.node i).dataSock k).side ∧
        ((t.net.node i).callback k).isSome
    · rw [if_pos here, if_pos ⟨here.1, here.2.1⟩]
      obtain ⟨rfl, rfl, isSome⟩ := here
      exact ⟨_, Nat.le_refl _, sound.heard_and_more receiving isSome len⟩
    · rw [if_neg here, List.append_nil]
      exact ⟨m, Nat.le_trans atMost (Nat.le_add_right _ _), heard⟩
  · intro d' e listens
    rw [written, taken, heardAt_receive]
    by_cases here : d' = d ∧ e = ((t.net.node i).dataSock k).side
    · obtain ⟨rfl, rfl⟩ := here
      -- the socket that listens is this one
      obtain ⟨i', k', receiving', side, listening⟩ := listens
      obtain ⟨rfl, rfl⟩ := sound.cabled.same receiving receiving' side
      have isSome := sound.callback_isSome receiving listening
      rw [if_pos ⟨rfl, rfl, isSome⟩, if_pos ⟨rfl, rfl⟩]
      exact sound.heard_and_more receiving isSome len
    · rw [if_neg fun both => here ⟨both.1, both.2.1⟩, if_neg here, List.append_nil, Nat.add_zero]
      exact sound.whole d' e listens
  · intro message member
    rcases calls message member with old | ⟨rfl, _⟩
    · exact sound.known message old
    · exact known
  · intro message member isServer
    rcases calls message member with old | ⟨rfl, rfl, side, isCallback⟩
    · exact sound.servers message old isServer
    · rcases sound.callback receiving isCallback with ⟨isClient, _⟩ | ⟨_, process, callback⟩
      · rw [← side, isServer] at isClient
        cases isClient
      · exact ⟨process, callback⟩
  · intro d'
    obtain ⟨s, same, owner⟩ := sound.clients d'
    refine ⟨s, ?_, owner⟩
    intro message member isConn isClient
    rcases calls message member with old | ⟨rfl, rfl, side, isCallback⟩
    · exact same message old isConn isClient
    · rcases sound.callback receiving isCallback with ⟨_, dials, u, listening, callback⟩ | ⟨isServer, _⟩
      · subst isConn
        obtain rfl := owner _ k dials receiving u listening
        exact ⟨(sound.cabled.dialled _ k _ dials receiving).2.symm, callback⟩
      · rw [← side, isClient] at isServer
        cases isServer

/-! ## Steps -/

omit [DecidableEq ι] in
/-- Publishing never fails. -/
theorem Sound.channelWrite (sound : Sound t) (i : ι) (c : ChanPtr) (memory : Memory) (msg : Ptr)
    (len : Nat) : (t.net.node i).channelWrite memory c msg len = .ok
      (((t.net.node i).chan c).subscriptors.flatMap
        ((t.net.node i).sentFor (memory.bytes msg len))) :=
  Node.channelWrite_eq (writable_of_staffed (sound.cabled.staffed i) c) msg len

theorem Sound.step {event : Event ι} {t' : Traffic ι} (sound : Sound t)
    (stepped : Step topology t event t') : Sound t' := by
  obtain ⟨enabled, reacted⟩ := stepped
  cases event with
  | act action =>
      obtain ⟨net', reacted, result⟩ := bind_eq_ok.mp reacted
      rw [← pure_eq_ok.mp result]
      exact sound.act ⟨enabled.1, enabled.2, reacted⟩
  | write i c memory msg len =>
      obtain ⟨sent, wrote, result⟩ := bind_eq_ok.mp reacted
      obtain rfl := Except.ok.inj ((sound.channelWrite i c memory msg len).symm.trans wrote)
      rw [← pure_eq_ok.mp result]
      have attended : ∀ {d e}, carried (t.net.node i) (((t.net.node i).chan c).subscriptors.flatMap
          ((t.net.node i).sentFor (memory.bytes msg len))) d e ≠ [] →
            ∃ s k, (t.net.node i).Attends c s k d := by
        intro d e something
        by_contra nobody
        exact something ((carried_write sound.cabled i c _ d e).2 fun both => nobody both.1)
      refine sound.carry (fun d e something => ?_) fun d something => ?_
      · obtain ⟨s, k, attends⟩ := attended something
        exact (sound.cabled.attended i c s k d attends).1
      · obtain ⟨s, k, attends⟩ := attended something
        exact (sound.cabled.attended i c s k d attends).2.1
  | subWrite i s memory msg len =>
      obtain ⟨sent, wrote, result⟩ := bind_eq_ok.mp reacted
      have carried := carried_subWrite (sound.cabled.grounded i) enabled wrote
      rw [← pure_eq_ok.mp result]
      refine sound.carry (fun d e something => ?_) fun d something => ?_
      · rw [carried] at something
        split at something
        · next met =>
          obtain ⟨k, isClient, receiving⟩ :=
            receiving_of_writesTo (sound.cabled.grounded i) enabled met.2
          exact (sound.cabled.dialled i k d isClient receiving).1
        · exact absurd rfl something
      · rw [carried, if_neg fun met => End.noConfusion met.1] at something
        exact absurd rfl something
  | recv i k d len =>
      rw [← pure_eq_ok.mp reacted]
      exact sound.receive enabled.1 enabled.2.2.2

/-- What a step adds to what was written to the two ends of a connection. -/
theorem Sound.written {event : Event ι} {t' : Traffic ι} (sound : Sound t)
    (stepped : Step topology t event t') (d : ConnId) :
    (t'.flow d .server).written = (t.flow d .server).written ++ event.spoken t d ∧
      (t.Attended d → (t'.flow d .client).written = (t.flow d .client).written ++
        event.publishes (t.net.dataLink d).server (t.net.dataLink d).channel) ∧
      (¬ t.Attended d → (t'.flow d .client).written = (t.flow d .client).written) := by
  obtain ⟨enabled, reacted⟩ := stepped
  cases event with
  | act action =>
      obtain ⟨net', _, result⟩ := bind_eq_ok.mp reacted
      rw [← pure_eq_ok.mp result]
      exact ⟨(List.append_nil _).symm, fun _ => (List.append_nil _).symm, fun _ => rfl⟩
  | write i c memory msg len =>
      obtain ⟨sent, wrote, result⟩ := bind_eq_ok.mp reacted
      obtain rfl := Except.ok.inj ((sound.channelWrite i c memory msg len).symm.trans wrote)
      rw [← pure_eq_ok.mp result]
      have all := carried_write sound.cabled i c (memory.bytes msg len) d
      simp only [carry_written, Event.spoken, Event.publishes]
      refine ⟨?_, fun attended => ?_, fun nobody => ?_⟩
      · rw [(all .server).2 fun both => End.noConfusion both.2]
      · split
        · next same =>
          obtain ⟨rfl, rfl⟩ := same
          obtain ⟨s, k, attends⟩ := attended
          rw [(all .client).1 ⟨⟨s, k, attends⟩, rfl⟩]
        · next other =>
          rw [(all .client).2 fun both => other ?_]
          obtain ⟨⟨s, k, attends⟩, _⟩ := both
          obtain ⟨_, _, server, channel⟩ := sound.cabled.attended i c s k d attends
          exact ⟨server.symm, channel.symm⟩
      · rw [(all .client).2 fun both => nobody ?_, List.append_nil]
        obtain ⟨⟨s, k, attends⟩, _⟩ := both
        obtain ⟨_, _, rfl, rfl⟩ := sound.cabled.attended i c s k d attends
        exact ⟨s, k, attends⟩
  | subWrite i s memory msg len =>
      obtain ⟨sent, wrote, result⟩ := bind_eq_ok.mp reacted
      have carried := carried_subWrite (sound.cabled.grounded i) enabled wrote d
      rw [← pure_eq_ok.mp result]
      simp only [carry_written, carried, Event.spoken, Event.publishes, true_and, reduceCtorEq,
        false_and, if_false, List.append_nil, implies_true, and_self]
  | recv i k d' len =>
      rw [← pure_eq_ok.mp reacted]
      simp only [receive_written, Event.spoken, Event.publishes, List.append_nil, implies_true,
        and_self]

/-- A connection keeps its ends, and a subscriptor that has gone does not come back. -/
theorem Sound.link_step {event : Event ι} {t' : Traffic ι} {d : ConnId} (sound : Sound t)
    (stepped : Step topology t event t') (known : d < t.net.dataLink.next) :
    Network.Keeps t.net t'.net ∧
      ((t.net.dataLink d).accepted = true → t'.Attended d → t.Attended d) := by
  obtain ⟨enabled, reacted⟩ := stepped
  have of_same : t'.net = t.net → Network.Keeps t.net t'.net ∧
      ((t.net.dataLink d).accepted = true → t'.Attended d → t.Attended d) := by
    intro same
    refine ⟨?_, fun _ attended => ?_⟩
    · rw [same]
      exact .refl _
    · unfold Attended at attended
      rwa [same] at attended
  cases event with
  | act action =>
      obtain ⟨net', reacted, result⟩ := bind_eq_ok.mp reacted
      rw [← pure_eq_ok.mp result]
      have keeps := Network.keeps_dataLinks (Network.react_dataLink reacted)
      refine ⟨keeps, fun accepted attended => ?_⟩
      obtain ⟨s, k, attends⟩ := attended
      change (net'.node (net'.dataLink d).server).Attends (net'.dataLink d).channel s k d at attends
      rw [keeps.server d known, keeps.channel d known] at attends
      have turnover := sound.cabled.turnover ⟨enabled.1, enabled.2, reacted⟩ (t.net.dataLink d).server
      rcases turnover.2 _ s k d attends with before | ⟨port, isAccept, _⟩
      · exact ⟨s, k, before⟩
      · rw [isAccept] at enabled
        rw [enabled.2.2] at accepted
        cases accepted
  | write i c memory msg len =>
      obtain ⟨sent, _, result⟩ := bind_eq_ok.mp reacted
      exact of_same (by rw [← pure_eq_ok.mp result]; rfl)
  | subWrite i s memory msg len =>
      obtain ⟨sent, _, result⟩ := bind_eq_ok.mp reacted
      exact of_same (by rw [← pure_eq_ok.mp result]; rfl)
  | recv i k d' len => exact of_same (by rw [← pure_eq_ok.mp reacted]; rfl)

/-! ## Runs -/

omit [DecidableEq ι] in
theorem spoken_concat (d : ConnId) (trace : List (Event ι × Traffic ι)) (event : Event ι)
    (last : Traffic ι) :
    spoken d t (trace ++ [(event, last)]) = spoken d t trace ++ event.spoken (final t trace) d := by
  induction trace generalizing t with
  | nil => exact List.append_nil _
  | cons entry trace ih =>
      obtain ⟨first, next⟩ := entry
      simp only [List.cons_append, spoken, ih, final_cons, List.append_assoc]

theorem Sound.run {trace : List (Event ι × Traffic ι)} (sound : Sound t)
    (ran : Every (Step topology) t trace) : Sound (final t trace) :=
  ran.invariant sound fun _ _ _ => Sound.step

/-- What has been written to the end that dialled since the connection was accepted. -/
theorem Sound.stream {d : ConnId} {trace : List (Event ι × Traffic ι)} (sound : Sound t)
    (known : d < t.net.dataLink.next) (accepted : (t.net.dataLink d).accepted = true)
    (ran : Every (Step topology) t trace) :
    let last := final t trace
    let said := published (t.net.dataLink d).server (t.net.dataLink d).channel trace
    Network.Keeps t.net last.net ∧
      (last.flow d .client).written <+: (t.flow d .client).written ++ said ∧
      (last.Attended d → (last.flow d .client).written = (t.flow d .client).written ++ said) := by
  induction trace using List.reverseRecOn with
  | nil => exact ⟨.refl _, by simp [published], fun _ => (List.append_nil _).symm⟩
  | append_singleton trace entry ih =>
      obtain ⟨event, last⟩ := entry
      obtain ⟨ranBefore, stepped, _⟩ := (every_append _ _).mp ran
      obtain ⟨keeps, isPrefix, isAll⟩ := ih ranBefore
      have sound' := sound.run ranBefore
      have known' := Nat.lt_of_lt_of_le known keeps.next
      have written := sound'.written stepped d
      have link := sound'.link_step stepped known'
      rw [keeps.server d known, keeps.channel d known] at written
      simp only [final_concat, published, List.flatMap_append, List.flatMap_cons,
        List.flatMap_nil, List.append_nil, ← List.append_assoc]
      refine ⟨keeps.trans link.1, ?_, fun attended => ?_⟩
      · by_cases attended : (final t trace).Attended d
        · rw [written.2.1 attended, isAll attended]
          exact List.prefix_rfl
        · rw [written.2.2 attended]
          exact isPrefix.trans (List.prefix_append _ _)
      · have before := link.2 (keeps.accepted d known accepted) attended
        rw [written.2.1 before, isAll before]
        rfl

/-- What has been written to the end that accepts. -/
theorem Sound.stream_server {d : ConnId} {trace : List (Event ι × Traffic ι)} (sound : Sound t)
    (ran : Every (Step topology) t trace) :
    ((final t trace).flow d .server).written = (t.flow d .server).written ++ spoken d t trace := by
  induction trace using List.reverseRecOn with
  | nil => exact (List.append_nil _).symm
  | append_singleton trace entry ih =>
      obtain ⟨event, last⟩ := entry
      obtain ⟨ranBefore, stepped, _⟩ := (every_append _ _).mp ran
      rw [final_concat, spoken_concat, ((sound.run ranBefore).written stepped d).1, ih ranBefore,
        List.append_assoc]

omit [DecidableEq ι] in
theorem Sound.heard_prefix (sound : Sound t) (d : ConnId) (e : End) :
    t.heardAt d e <+: (t.flow d e).written := by
  obtain ⟨m, _, heard⟩ := sound.part d e
  rw [heard]
  exact List.take_prefix _ _

omit [DecidableEq ι] in
theorem Sound.heard_all {d : ConnId} {e : End} (sound : Sound t) (listens : t.Listens d e) :
    t.heardAt d e ++ (t.flow d e).left = (t.flow d e).written := by
  rw [sound.whole d e listens, Flow.left, List.take_append_drop]

/-- In every run, what the subscriber's `on_message` gets over a data connection is a prefix of
what has been written to the publisher's channel since the connection was accepted; as long
as both ends are there, nothing is missing but what is under way. All of it goes to one
subscription. -/
theorem delivered {start : Network ι} {before after : List (Event ι × Traffic ι)} {d : ConnId}
    {port : Int32} (booted : start.Booted)
    (ran : Every (Step topology) { net := start } (before ++ (.act (.dataAccept d port), t) :: after)) :
    let last := final t after
    let link := last.net.dataLink d
    let said := published link.server link.channel after
    last.heardAt d .client <+: said ∧
      (last.Attended d → last.Listens d .client →
        last.heardAt d .client ++ (last.flow d .client).left = said) ∧
      ∃ s, ∀ message ∈ last.heard, message.conn = d → message.side = .client →
        message.process = link.client ∧ message.callback = .subscription s := by
  obtain ⟨ranBefore, stepped, ranAfter⟩ := (every_append _ _).mp ran
  have sound := (sound_of_booted booted).run ranBefore
  have sound' := sound.step stepped
  obtain ⟨⟨_, known, unaccepted⟩, reacted⟩ := stepped
  obtain ⟨net', told, result⟩ := bind_eq_ok.mp reacted
  obtain rfl := pure_eq_ok.mp result
  have links := Network.react_dataLink told
  have keeps := Network.keeps_dataLinks links
  have accepted : (net'.dataLink d).accepted = true := by
    rw [links, Network.dataLinks, Heap.modify_self]
  have unwritten := (sound.unaccepted d unaccepted).1
  have known' : d < net'.dataLink.next := Nat.lt_of_lt_of_le known keeps.next
  obtain ⟨kept, isPrefix, isAll⟩ := sound'.stream known' accepted ranAfter
  have last := sound'.run ranAfter
  rw [unwritten, List.nil_append, ← kept.server d known', ← kept.channel d known'] at isPrefix isAll
  refine ⟨(last.heard_prefix d .client).trans isPrefix, fun attended listens => ?_, ?_⟩
  · rw [last.heard_all listens, isAll attended]
  · obtain ⟨s, same, _⟩ := last.clients d
    exact ⟨s, same⟩

/-- In every run, what the `on_message` of a channel gets over a data connection is a prefix of
what has been written through the subscription that holds the other end; as long as the
subscriptor is there, nothing is missing but what is under way. -/
theorem heard_back {start : Network ι} {trace : List (Event ι × Traffic ι)} (booted : start.Booted)
    (ran : Every (Step topology) { net := start } trace) (d : ConnId) :
    let last := final { net := start } trace
    let said := spoken d { net := start } trace
    last.heardAt d .server <+: said ∧
      (last.Listens d .server → last.heardAt d .server ++ (last.flow d .server).left = said) ∧
      ∀ message ∈ last.heard, message.conn = d → message.side = .server →
        message.process = (last.net.dataLink d).server ∧
          message.callback = .channel (last.net.dataLink d).channel := by
  have sound := sound_of_booted booted
  have last := sound.run ran
  have written := sound.stream_server (d := d) ran
  rw [List.nil_append] at written
  refine ⟨written ▸ last.heard_prefix d .server, fun listens => ?_, ?_⟩
  · rw [last.heard_all listens, written]
  · rintro message member rfl isServer
    exact last.servers message member isServer

omit [DecidableEq ι] in
theorem mem_sent {i : ι} {c : ChanPtr} {k : SockPtr} {bytes bytes' : Str} (sound : Sound t) :
    ⟨k, bytes'⟩ ∈ ((t.net.node i).chan c).subscriptors.flatMap ((t.net.node i).sentFor bytes) ↔
      bytes' = bytes ∧ ∃ s d, (t.net.node i).Attends c s k d := by
  have staffed := sound.cabled.staffed i
  rw [List.mem_flatMap]
  constructor
  · rintro ⟨s, member, inside⟩
    obtain ⟨k', d, attends⟩ := staffed.entered c s member
    simp only [Node.sentFor, handle_of_attends attends, List.mem_singleton, Sent.mk.injEq] at inside
    obtain ⟨rfl, rfl⟩ := inside
    exact ⟨rfl, s, d, attends⟩
  · rintro ⟨rfl, s, d, attends⟩
    refine ⟨s, staffed.listed c s k d attends, ?_⟩
    simp only [Node.sentFor, handle_of_attends attends, List.mem_singleton]

/-- From every reachable state in which somebody listens at an end of a data connection, rounds
of its receive loop alone bring everything that has been written to it to `on_message`. -/
theorem receivable {start : Network ι} {d : ConnId} {e : End} (booted : start.Booted)
    (reached : Reaches (Step topology) { net := start } t) (listens : t.Listens d e) :
    ∃ later, Every (Step topology) t later ∧
      (∀ entry ∈ later, ∃ i k len, entry.1 = .recv i k d len) ∧
      (final t later).heardAt d e = (t.flow d e).written := by
  have sound : Sound t := reached.invariant (sound_of_booted booted) fun _ _ _ => Sound.step
  clear reached
  induction left : (t.flow d e).left.length using Nat.strong_induction_on generalizing t with
  | _ left' ih =>
    by_cases done : (t.flow d e).left = []
    · refine ⟨[], trivial, nofun, ?_⟩
      rw [final_nil, ← sound.heard_all listens, done, List.append_nil]
    · have some : 0 < (t.flow d e).left.length := List.length_pos_iff.mpr done
      obtain ⟨i, k, receiving, side, listening⟩ := listens
      let len := min BUFSIZE (t.flow d e).left.length
      have positive : 0 < len := Nat.lt_min.mpr ⟨by decide, some⟩
      have stepped : Step topology t (.recv i k d len) (t.receive i k d len) := by
        refine ⟨⟨receiving, positive, Nat.min_le_left _ _, ?_⟩, rfl⟩
        rw [side]
        exact Nat.min_le_right _ _
      have fewer : ((t.receive i k d len).flow d e).left.length < left' := by
        simp only [receive, side, and_self, if_true, Flow.left, List.length_drop] at left some ⊢
        omega
      have listens' : (t.receive i k d len).Listens d e := ⟨i, k, receiving, side, listening⟩
      obtain ⟨later, ran, events, heard⟩ := ih _ fewer listens' (sound.step stepped) rfl
      refine ⟨(.recv i k d len, _) :: later, ⟨stepped, ran⟩, ?_, ?_⟩
      · intro entry member
        rcases List.mem_cons.mp member with rfl | member
        · exact ⟨i, k, len, rfl⟩
        · exact events entry member
      · rw [final_cons, heard, receive_written]

end

/-! ## Two machines -/

instance [DecidableEq ι] (topology : Topology ι) (t : Traffic ι) :
    (event : Event ι) → Decidable (Enabled topology t event)
  | .act action =>
      inferInstanceAs (Decidable (t.net.Real action ∧ Network.Enabled topology t.net action))
  | .write _ _ _ _ _ => .isTrue trivial
  | .subWrite i s _ _ _ => inferInstanceAs (Decidable ((t.net.node i).Subscribing s))
  | .recv _ _ _ _ => inferInstanceAs (Decidable (_ ∧ _ ∧ _ ∧ _))

private def alphabet : Memory := fun address => Char.ofNat ('a'.toNat + address % 1000)

private def starting (i : Fin 2) : Traffic (Fin 2) :=
  { net := (Crowd.subnet 2).begin i }

private theorem starting_booted : (starting 0).net.Booted :=
  fun _ => ⟨_, _, _, rfl⟩

private def enabled (t : Traffic (Fin 2)) (event : Event (Fin 2)) : Bool :=
  decide (Enabled (Crowd.subnet 2).scattered t event)

/-- Machine `i` subscribes to the channel that machine `j` publishes, and dials. -/
private def meeting (i j : Fin 2) : List (Event (Fin 2)) :=
  [.act (.call i (.subscribe ['c'])), .act (.call i (.addHost "10.0.0.2".toList 10000)),
    .act (.connect i 0 j), .act (.accept 0 4000), .act (.deliver 0 .server),
    .act (.deliver 0 .server), .act (.deliver 0 .client), .act (.deliver 0 .client),
    .act (.deliver 0 .client), .act (.deliver 0 .server), .act (.call j (.publish ['c'])),
    .act (.deliver 0 .client), .act (.deliver 0 .client), .act (.deliver 0 .client),
    .act (.deliver 0 .server), .act (.deliver 0 .server), .act (.deliver 0 .server),
    .act (.deliver 0 .client), .act (.dataConnect i 0 j 0)]

/-- Machine 1 writes `abcd`, of which three bytes are received, and machine 0 answers `ef`, of
which one byte is received. -/
private theorem conversation : ∃ before t after,
    Every (Step (Crowd.subnet 2).scattered) (starting 0)
      (before ++ (.act (.dataAccept 0 5000), t) :: after) ∧
    (final t after).heardAt 0 .client = "abc".toList ∧
      (final t after).heardAt 0 .server = "e".toList ∧ (final t after).Listens 0 .client ∧
      (((final t after).net.node 1).chan 0).subscriptors = [0] := by
  have replayed : replay (react (Crowd.subnet 2).scattered) enabled
      (fun _ t => replay (react (Crowd.subnet 2).scattered) enabled
        (fun _ last => decide ((last.heardAt 0 .client, last.heardAt 0 .server,
            ((last.net.node 0).dataSock 0).thread, ((last.net.node 0).dataSock 0).side,
            ((last.net.node 0).dataSock 0).listeners, ((last.net.node 1).chan 0).subscriptors) =
          ("abc".toList, "e".toList, .receiving 0, .client, some 0, [0])))
        (.recv 1 0 0 1) t [.write 1 0 alphabet 1000 4, .recv 0 0 0 3, .subWrite 0 0 alphabet 1004 2])
      (.act (.dataAccept 0 5000)) (starting 0) (meeting 0 1) = true := by
    decide +kernel
  have of_enabled : ∀ {t : Traffic (Fin 2)} {trace : List (Event (Fin 2) × Traffic (Fin 2))},
      Every (Under (fun t event => enabled t event = true) fun t event t' =>
        react (Crowd.subnet 2).scattered t event = .ok t') t trace →
      Every (Step (Crowd.subnet 2).scattered) t trace := fun ran =>
    ran.mono fun _ _ _ stepped => ⟨of_decide_eq_true stepped.1, stepped.2⟩
  obtain ⟨before, t, first, later⟩ := replay_run replayed
  obtain ⟨after, last, second, checked⟩ := replay_run later
  simp only [Prod.mk.injEq, decide_eq_true_eq] at checked
  obtain ⟨client, server, receiving, side, listening, subscriptors⟩ := checked
  refine ⟨before, t, after ++ [(.recv 1 0 0 1, last)], ?_, ?_⟩
  · have ran := (every_append before _).mp (of_enabled first)
    exact (every_append _ _).mpr ⟨ran.1, ran.2.1, of_enabled second⟩
  · rw [final_concat]
    refine ⟨client, server, ⟨0, 0, receiving, side, ?_⟩, subscriptors⟩
    rw [listening]
    exact Option.some_ne_none 0

theorem delivered_abc : ∃ before t after,
    Every (Step (Crowd.subnet 2).scattered) (starting 0)
      (before ++ (.act (.dataAccept 0 5000), t) :: after) ∧
    "abc".toList <+: published ((final t after).net.dataLink 0).server
      ((final t after).net.dataLink 0).channel after := by
  obtain ⟨before, t, after, ran, heard, _⟩ := conversation
  exact ⟨before, t, after, ran, heard ▸ (delivered starting_booted ran).1⟩

theorem heard_back_e : ∃ trace, Every (Step (Crowd.subnet 2).scattered) (starting 0) trace ∧
    "e".toList <+: spoken 0 (starting 0) trace := by
  obtain ⟨before, t, after, ran, _, heard, _⟩ := conversation
  refine ⟨_, ran, ?_⟩
  have said := (heard_back starting_booted ran 0).1
  rwa [final_append, final_cons, heard] at said

theorem receivable_abcd : ∃ t, Reaches (Step (Crowd.subnet 2).scattered) (starting 0) t ∧
    t.heardAt 0 .client = "abc".toList ∧
      ∃ later, Every (Step (Crowd.subnet 2).scattered) t later ∧
        (final t later).heardAt 0 .client = (t.flow 0 .client).written := by
  obtain ⟨before, t, after, ran, heard, _, listens, _⟩ := conversation
  have reached : Reaches (Step (Crowd.subnet 2).scattered) (starting 0) (final t after) :=
    ⟨_, ran, final_append _ _⟩
  obtain ⟨later, went, _, all⟩ := receivable starting_booted reached listens
  exact ⟨_, reached, heard, later, went, all⟩

end Traffic

end LibPubSub
