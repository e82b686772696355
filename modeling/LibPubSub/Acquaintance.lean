import LibPubSub.FullMesh
import LibPubSub.Library.Runs
import LibPubSub.Simulation

/-! How processes get to know each other while no connection is lost: what holds in every
state of their runs, and what that means when nothing is pending any more. -/

set_option autoImplicit false

namespace LibPubSub

open Transition
open Handshake (Message Status Entry)

variable {ι : Type}

/-! ## Runs -/

/-- All processes are in the state behind `init()`. -/
structure Crowd.Starts (crowd : Crowd ι) (net : Network ι) : Prop where
  node : ∀ i, ∃ bindPort, net.node i = Node.init (crowd.ID i) (crowd.port i) bindPort
  link : net.link.next = 0

/-- What happens when processes get to know each other: `add_host` is called for other
processes, or for hosts that are known already, and no connection is lost. -/
def Crowd.Meets (crowd : Crowd ι) (net : Network ι) : Action ι → Prop
  | .call i (.addHost ip port) =>
      (∃ q, q ≠ i ∧ ip = crowd.ip q ∧ port = crowd.port q) ∨
        (net.node i).mesh.hasHost ip port = true
  | .connect _ _ _ | .accept _ _ | .deliver _ _ | .eof _ _ => True
  | .call _ _ | .lose _ | .dataConnect _ _ _ _ | .dataAccept _ _ => False

namespace Network

/-- Nothing is pending: no line is under way, and no connection is about to be made,
accepted or closed. -/
structure Still [DecidableEq ι] (topology : Topology ι) (net : Network ι) : Prop where
  connected : ∀ i, ∀ k < (net.node i).mesh.sock.next, ∀ j, ¬ Enabled topology net (.connect i k j)
  accepted : ∀ c < net.link.next, ∀ port, ¬ Enabled topology net (.accept c port)
  delivered : ∀ c < net.link.next, ∀ e, ¬ Enabled topology net (.deliver c e)
  closed : ∀ c < net.link.next, ∀ e, ¬ Enabled topology net (.eof c e)

def Lossless (net : Network ι) : Prop :=
  ∀ c < net.link.next, (net.link c).lost = false

variable [DecidableEq ι] {topology : Topology ι} {net net' : Network ι} {action : Action ι}

theorem Lossless.take (lossless : net.Lossless) (i : ι) (n : Node) : (net.take i n).Lossless := by
  intro c known
  rw [take_link, Link.lost_carry]
  exact lossless c known

omit [DecidableEq ι] in
theorem Lossless.setLink {c : ConnId} {change : Link ι → Link ι} (lossless : net.Lossless)
    (keeps : ∀ l, (change l).lost = l.lost) : (net.setLink c change).Lossless := by
  intro d known
  have link : (net.setLink c change).link d = if d = c then change (net.link c) else net.link d :=
    net.link.modify_apply c d change
  rw [link]
  split
  · next same =>
    rw [keeps, ← same]
    exact lossless d known
  · exact lossless d known

theorem Step.lossless (step : Step topology net action net') (lossless : net.Lossless)
    (kept : ∀ c, action ≠ .lose c) : net'.Lossless := by
  obtain ⟨_, reacted⟩ := step
  cases action with
  | call i input =>
      obtain ⟨n, _, rfl⟩ := tell_eq_ok.mp reacted
      exact lossless.take i n
  | connect i k j =>
      obtain ⟨n, _, rfl⟩ := tell_eq_ok.mp reacted
      refine Lossless.take ?_ i n
      intro c known
      dsimp only at known ⊢
      rcases Nat.lt_succ_iff_lt_or_eq.mp known with old | rfl
      · rw [Heap.alloc_of_lt _ _ old]
        exact lossless c old
      · rw [Heap.alloc_self]
  | accept c port =>
      obtain ⟨n, _, rfl⟩ := tell_eq_ok.mp reacted
      refine Lossless.take ?_ _ n
      exact lossless.setLink fun _ => rfl
  | deliver c e =>
      unfold react at reacted
      dsimp only at reacted
      split at reacted
      · obtain ⟨n, _, rfl⟩ := tell_eq_ok.mp reacted
        exact (lossless.setLink fun l => l.lost_setQueue _ e).take _ n
      · rw [← Fallible.pure_eq_ok.mp reacted]
        exact lossless
  | eof c e =>
      unfold react at reacted
      dsimp only at reacted
      split at reacted
      · obtain ⟨n, _, rfl⟩ := tell_eq_ok.mp reacted
        exact lossless.take _ n
      · rw [← Fallible.pure_eq_ok.mp reacted]
        exact lossless
  | lose c => exact absurd rfl (kept c)
  | dataConnect i k j channel =>
      obtain ⟨n, _, rfl⟩ := tell_eq_ok.mp reacted
      exact Lossless.take (fun c known => lossless c known) i n
  | dataAccept d port =>
      obtain ⟨n, _, rfl⟩ := tell_eq_ok.mp reacted
      exact Lossless.take (fun c known => lossless c known) (net.dataLink d).server n

end Network

section

variable [DecidableEq ι] {crowd : Crowd ι} {strict : Prop} {topology : Topology ι}
  {start net net' : Network ι} {action : Action ι} {a : Gossip.State ι} {x y z : ι}

/-- Nothing has happened yet. -/
def Gossip.State.unmet (net : Network ι) : Gossip.State ι where
  addressed _ := false
  entry _ _ := none
  wire := ⟨fun c => .blank (net.link c).client (net.link c).server, 0⟩

omit [DecidableEq ι] in
theorem Tidy.init (crowd : Crowd ι) (p : ι) :
    Tidy crowd p (Mesh.init (crowd.ID p) (crowd.port p)) false fun _ => none := by
  have host (h : HostPtr) (other : h ≠ 0) :
      ((Mesh.init (crowd.ID p) (crowd.port p)).host h).socket = none := by
    have same : (Mesh.init (crowd.ID p) (crowd.port p)).host h =
        { ip := [], port := 0, bServer := false } := Heap.alloc_of_ne _ _ other
    rw [same]
  constructor
  · rfl
  · exact ⟨rfl, rfl⟩
  · exact ⟨rfl, rfl⟩
  · intro h
    refine iff_of_false List.not_mem_nil ?_
    rintro ⟨positive, inside⟩
    exact Nat.not_lt_of_ge positive inside
  · exact List.nodup_nil
  · exact Nat.zero_lt_one
  · exact fun h outside => host h (Nat.ne_of_gt outside)
  · exact fun h listed => absurd listed List.not_mem_nil
  · exact fun q h h' knows => absurd knows.listed List.not_mem_nil
  · exact fun q _ h knows => absurd knows.listed List.not_mem_nil
  · exact nofun
  · exact fun k inside => absurd inside (Nat.not_lt_zero k)
  · exact fun _ _ => rfl

omit [DecidableEq ι] in
theorem Crowd.Starts.represents (starts : crowd.Starts start) :
    Represents crowd strict start (.unmet start) := by
  refine ⟨⟨starts.link, ?_, ?_⟩, ?_, ?_, ?_, ?_⟩
  · intro p k c thread
    obtain ⟨bindPort, same⟩ := starts.node p
    rw [same] at thread
    cases thread
  · intro c known
    rw [starts.link] at known
    exact absurd known (Nat.not_lt_zero c)
  · intro p
    obtain ⟨bindPort, same⟩ := starts.node p
    rw [same]
    exact Tidy.init crowd p
  · intro p
    obtain ⟨bindPort, same⟩ := starts.node p
    have empty : LineSafe [] := by decide
    have isLocal : LineSafe "localhost".toList := by decide
    rw [same]
    exact ⟨fun _ => empty, isLocal⟩
  · intro _ p
    obtain ⟨bindPort, same⟩ := starts.node p
    rw [same]
    rfl
  · intro p
    obtain ⟨bindPort, same⟩ := starts.node p
    rw [same]
    rfl

omit [DecidableEq ι] in
theorem Gossip.State.unmet_unmet (net : Network ι) : Gossip.Unmet (.unmet net) :=
  ⟨fun _ => rfl, fun _ _ => rfl, rfl⟩

/-- What holds while processes get to know each other. -/
structure Acquainted (crowd : Crowd ι) (net : Network ι) (a : Gossip.State ι) : Prop where
  represents : Represents crowd True net a
  coupled : Gossip.Coupled crowd.yields a
  told : Gossip.Told a
  lossless : net.Lossless

theorem Crowd.Starts.acquainted (starts : crowd.Starts start) :
    Acquainted crowd start (.unmet start) := by
  have unmet := Gossip.State.unmet_unmet start
  refine ⟨starts.represents, unmet.coupled, unmet.told, fun c known => ?_⟩
  rw [starts.link] at known
  exact absurd known (Nat.not_lt_zero c)

omit [DecidableEq ι] in
theorem Crowd.Meets.permits (meets : crowd.Meets net action) : crowd.Permits True net action := by
  cases action with
  | call i input =>
      cases input with
      | addHost ip port => exact meets
      | _ => exact meets.elim
  | _ => first | exact trivial | exact meets.elim

omit [DecidableEq ι] in
/-- Who gives way is settled between any two. -/
theorem Crowd.Placed.yields (placed : crowd.Placed topology) (apart : x ≠ y) :
    crowd.yields y x = !crowd.yields x y := by
  have distinct := placed.distinct x y apart
  unfold Crowd.yields
  by_cases less : crowd.ID x < crowd.ID y
  · rw [decide_eq_true less, decide_eq_false fun greater => Int32.lt_asymm less greater]
    rfl
  · have greater : crowd.ID y < crowd.ID x := by
      rcases Int32.lt_or_le (crowd.ID y) (crowd.ID x) with greater | atMost
      · exact greater
      · exact absurd (Int32.le_antisymm atMost (Int32.not_lt.mp less)) distinct
    rw [decide_eq_true greater, decide_eq_false less]
    rfl

theorem Gossip.Coupled.careful {yields : ι → ι → Bool} (coupled : Gossip.Coupled yields a) :
    Gossip.Careful yields a action :=
  fun _ known _ incoming allowed => coupled.unready known incoming allowed

theorem Acquainted.step (acquainted : Acquainted crowd net a) (placed : crowd.Placed topology)
    (meets : crowd.Meets net action) (step : Network.Step topology net action net') :
    ∃ a', Acquainted crowd net' a' ∧ ∀ u v, a.entry u v ≠ none → a'.entry u v ≠ none := by
  have kept (c : ConnId) : action ≠ .lose c := by
    rintro rfl
    exact meets
  have lossless := step.lossless acquainted.lossless kept
  obtain ⟨a', represents, moves⟩ := acquainted.represents.step acquainted.coupled.sane placed
    meets.permits (fun _ => acquainted.coupled.careful) step
  have losslessA : Gossip.Lossless a' := by
    intro c known
    rw [← represents.next] at known
    exact (represents.link c known).lost.symm.trans (lossless c known)
  cases moves with
  | still same =>
      rw [same] at represents
      exact ⟨a, ⟨represents, acquainted.coupled, acquainted.told, lossless⟩, fun _ _ => id⟩
  | step moved =>
      exact ⟨a', ⟨represents,
        moved.coupled acquainted.coupled (fun _ _ => placed.yields) losslessA,
        moved.told acquainted.coupled losslessA acquainted.told, lossless⟩,
        fun _ _ => moved.known⟩
  | steps chatty => exact absurd trivial chatty

/-- Every run of processes that get to know each other is one of the protocol. -/
theorem Crowd.Starts.acquaintance (starts : crowd.Starts start) (placed : crowd.Placed topology)
    (reached : Reaches (Under crowd.Meets (Network.Step topology)) start net) :
    ∃ a, Acquainted crowd net a := by
  refine reached.invariant (P := fun net => ∃ a, Acquainted crowd net a)
    ⟨_, starts.acquainted⟩ ?_
  rintro state action next ⟨a, acquainted⟩ ⟨meets, step⟩
  obtain ⟨a', acquainted', _⟩ := acquainted.step placed meets step
  exact ⟨a', acquainted'⟩

/-! ## When nothing is pending -/

namespace TCPSocket

variable {s : TCPSocket SignalingListener} {c : ConnId}

omit [DecidableEq ι] in
theorem statusOn_born : s.statusOn c ≠ .unborn := by
  unfold statusOn
  split
  · split
    · exact nofun
    · split <;> exact nofun
    · exact nofun
  · exact nofun

theorem reads_of_open (isOpen : (s.statusOn c).Open) : s.thread = .receiving c := by
  by_contra elsewhere
  rw [statusOn_eq_ended.mpr elsewhere] at isOpen
  rcases isOpen with same | same <;> cases same

end TCPSocket

namespace Represents

variable {c : ConnId} {e : End}

omit [DecidableEq ι] in
/-- Somebody is at an end that has been accepted. -/
theorem somebody (represents : Represents crowd strict net a) (known : c < net.link.next)
    (born : (a.wire c).line.status e ≠ .unborn) :
    ∃ i k, (net.link c).socket e = some (i, k) ∧
      ((net.node i).mesh.sock k).statusOn c = (a.wire c).line.status e := by
  have same := (represents.link c known).status e
  cases socket : (net.link c).socket e with
  | none =>
      unfold Network.statusAt Network.sockAt at same
      rw [socket] at same
      exact absurd same.symm born
  | some holder =>
      obtain ⟨i, k⟩ := holder
      exact ⟨i, k, rfl, (Carried.statusAt_of_socket socket).symm.trans same⟩

omit [DecidableEq ι] in
theorem reads (represents : Represents crowd strict net a) (known : c < net.link.next)
    (isOpen : ((a.wire c).line.status e).Open) : net.Reads c e := by
  have born : (a.wire c).line.status e ≠ .unborn := by
    intro unborn
    rw [unborn] at isOpen
    rcases isOpen with same | same <;> cases same
  obtain ⟨i, k, socket, same⟩ := represents.somebody known born
  refine ⟨_, ?_, TCPSocket.reads_of_open (same.symm ▸ isOpen)⟩
  unfold Network.sockAt
  rw [socket]
  rfl

omit [DecidableEq ι] in
/-- An end that its owner has left is closed. -/
theorem closedAt (represents : Represents crowd strict net a) (sane : Gossip.Sane a)
    (known : c < net.link.next) (closed : ((a.wire c).line.status e).Closed) : net.ClosedAt c e := by
  have born : (a.wire c).line.status e ≠ .unborn := by
    intro unborn
    rw [unborn] at closed
    rcases closed with same | same | same <;> cases same
  obtain ⟨i, k, socket, same⟩ := represents.somebody known born
  refine ⟨(net.node i).mesh.sock k, ?_, ?_⟩
  · unfold Network.sockAt
    rw [socket]
    rfl
  rintro ⟨reads, isOpen⟩
  rw [← same] at closed
  cases listener : ((net.node i).mesh.sock k).listeners with
  | none =>
      have waits := represents.waits sane socket reads fun h heard => nomatch listener.symm.trans heard
      rw [(waits.aside.incoming isOpen).1] at listener
      cases listener
  | some whose =>
      cases whose with
      | incoming =>
          rw [TCPSocket.statusOn_incoming reads listener, if_pos isOpen] at closed
          rcases closed with same | same | same <;> cases same
      | host h =>
          rw [TCPSocket.statusOn_current reads listener] at closed
          rcases closed with same | same | same <;> cases same

/-- Nothing is pending for the protocol either. -/
theorem still (represents : Represents crowd strict net a) (sane : Gossip.Sane a)
    (placed : crowd.Placed topology) (still : net.Still topology) : Gossip.Quiet a := by
  constructor
  · intro x y entry met isClient conn
    obtain ⟨h, isHost⟩ := (represents.mesh x).met y entry met
    obtain ⟨k, _, inside, current⟩ := isHost.socket
    have idle := (current.idle conn).2
    rw [isClient, if_neg Bool.false_ne_true] at idle
    obtain ⟨ip, port, _⟩ := current.dials isClient
    refine still.connected x k inside y ⟨idle, ?_, ?_⟩
    · rw [ip]
      exact placed.named x y
    · rw [port, (represents.mesh y).signalingPort]
  · intro c knownA unborn
    have known : c < net.link.next := represents.next.symm ▸ knownA
    refine still.accepted c known 0 ⟨known, ?_⟩
    cases serverSock : (net.link c).serverSock with
    | none => rfl
    | some k =>
        have socket : (net.link c).socket .server = some ((net.link c).server, k) := by
          unfold Link.socket
          rw [serverSock]
          rfl
        have same := (represents.link c known).status .server
        rw [unborn, Carried.statusAt_of_socket socket] at same
        exact absurd same TCPSocket.statusOn_born
  · intro c knownA e isOpen
    have known : c < net.link.next := represents.next.symm ▸ knownA
    have queue := (represents.link c known).queue e
    cases lines : (net.link c).queue e with
    | nil =>
        rw [lines] at queue
        generalize (a.wire c).line.queue e = messages at queue
        cases queue
        rfl
    | cons t rest =>
        refine absurd ⟨represents.reads known isOpen, ?_⟩ (still.delivered c known e)
        rw [lines]
        exact List.cons_ne_nil _ _
  · intro c knownA e isOpen closed
    have known : c < net.link.next := represents.next.symm ▸ knownA
    exact still.closed c known e
      ⟨represents.reads known isOpen, .inr (.inr (represents.closedAt sane known closed))⟩

end Represents

/-- `x` has an entry for `y` that is ready. -/
def Crowd.Ready (crowd : Crowd ι) (net : Network ι) (x y : ι) : Prop :=
  ∃ h, crowd.Knows (net.node x).mesh y h ∧ ((net.node x).mesh.host h).bReady = true

omit [DecidableEq ι] in
theorem Represents.ready_iff (represents : Represents crowd strict net a) :
    crowd.Ready net x y ↔ a.ready x y = true := by
  have tidy := represents.mesh x
  unfold Gossip.State.ready
  constructor
  · rintro ⟨h, knows, ready⟩
    cases met : a.entry x y with
    | none => exact absurd knows (tidy.unmet y met h)
    | some entry =>
        obtain ⟨h', isHost⟩ := tidy.met y entry met
        obtain rfl := tidy.unique y h h' knows isHost.toKnows
        exact isHost.ready.symm.trans ready
  · intro ready
    cases met : a.entry x y with
    | none =>
        rw [met] at ready
        cases ready
    | some entry =>
        rw [met] at ready
        obtain ⟨h, isHost⟩ := tidy.met y entry met
        exact ⟨h, isHost.toKnows, isHost.ready.trans ready⟩

end

end LibPubSub
