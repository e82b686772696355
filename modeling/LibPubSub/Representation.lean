import Mathlib.Data.List.Forall2
import LibPubSub.Chatter
import LibPubSub.Encounters
import LibPubSub.Gossip

/-! When a network of processes that are all known under one address looks to the
handshakes like a state of the gossip protocol: every table holds the entries, every
socket has the status and every line carries the message that the protocol says. -/

set_option autoImplicit false

namespace LibPubSub

open Handshake (Message Status Entry talk)

variable {ι : Type}

/-- What a line of `p` tells `q`. A `strict` crowd has no channels. -/
inductive Means (crowd : Crowd ι) (strict : Prop) (p q : ι) : Str → Message (Option ι) → Prop where
  | id : Means crowd strict p q (Mesh.idLine (crowd.ID p) (crowd.port p)) .id
  | you : Means crowd strict p q (Mesh.youLine (crowd.ip q)) .you
  | connected : Means crowd strict p q "CONNECTED".toList .connected
  | host (r : ι) :
      Means crowd strict p q (Mesh.hostText (crowd.ip r) (crowd.port r)) (.talk (some r))
  | statement (chatty : ¬ strict) {s : Str} (statement : Statement s) :
      Means crowd strict p q s (.talk none)

/-- The status of end `e` of connection `c`. -/
def Network.statusAt (net : Network ι) (c : ConnId) (e : End) : Status :=
  match net.sockAt c e with
  | none => .unborn
  | some s => s.statusOn c

/-- Connection `c` is as the protocol says. -/
structure Carried (crowd : Crowd ι) (strict : Prop) (net : Network ι) (c : ConnId)
    (w : Gossip.Wire ι) : Prop where
  client : (net.link c).client = w.client
  server : (net.link c).server = w.server
  lost : (net.link c).lost = w.line.lost
  queue : ∀ e, List.Forall₂ (Means crowd strict (w.owner e.other) (w.owner e))
    ((net.link c).queue e) (w.line.queue e)
  status : ∀ e, net.statusAt c e = w.line.status e
  peer : ∀ s ∈ net.sockAt c .server, s.thread = .receiving c → s.listeners = some .incoming →
    Mesh.localName s.ip = crowd.ip w.client

/-- All connections are. -/
structure Wired (crowd : Crowd ι) (strict : Prop) (net : Network ι) (a : Gossip.State ι) :
    Prop where
  next : net.link.next = a.wire.next
  born : ∀ p k c, ((net.node p).mesh.sock k).thread = .receiving c → c < net.link.next
  link : ∀ c < net.link.next, Carried crowd strict net c (a.wire c)

/-- The network is as the protocol says. -/
structure Represents (crowd : Crowd ι) (strict : Prop) (net : Network ι) (a : Gossip.State ι) :
    Prop extends Wired crowd strict net a where
  mesh : ∀ p, Tidy crowd p (net.node p).mesh (a.addressed p) (a.entry p)
  clean : ∀ p, (net.node p).Clean
  quiet : strict → ∀ p, (net.node p).chan.next = 0
  silent : ∀ p, (net.node p).mesh.sent = []

/-- Connection `c` is still as the protocol says when process `i` goes on with mesh `m`, and
what it has written is under way. -/
structure Turns (crowd : Crowd ι) (strict : Prop) (net : Network ι) (i : ι) (m : Mesh)
    (c : ConnId) (w w' : Gossip.Wire ι) : Prop where
  client : w'.client = w.client
  server : w'.server = w.server
  lost : w'.line.lost = w.line.lost
  queue : ∀ e, ∃ more, List.Forall₂ (Means crowd strict (w.owner e.other) (w.owner e))
    (written m.sent c e.other) more ∧
      w'.line.queue e = if w.line.lost then w.line.queue e else w.line.queue e ++ more
  mine : ∀ e k, (net.link c).socket e = some (i, k) → (m.sock k).statusOn c = w'.line.status e
  others : ∀ e, (∀ k, (net.link c).socket e ≠ some (i, k)) → w'.line.status e = w.line.status e
  peer : ∀ k, (net.link c).socket .server = some (i, k) → (m.sock k).thread = .receiving c →
    (m.sock k).listeners = some .incoming → Mesh.localName (m.sock k).ip = crowd.ip w.client

section

variable {crowd : Crowd ι} {strict : Prop} {net : Network ι} {a a' : Gossip.State ι}
  {p q i : ι} {m m' : Mesh} {c d : ConnId} {e : End} {k : SockPtr}

namespace Carried

variable {w : Gossip.Wire ι}

theorem owner (carried : Carried crowd strict net c w) {j : ι}
    (socket : (net.link c).socket e = some (j, k)) : w.owner e = j := by
  cases e with
  | client =>
      have same := (Prod.mk.inj (Option.some.inj socket)).1
      exact carried.client.symm.trans same
  | server =>
      obtain ⟨k', _, same⟩ := Option.map_eq_some_iff.mp socket
      exact carried.server.symm.trans (Prod.mk.inj same).1

theorem statusAt_of_socket {j : ι} (socket : (net.link c).socket e = some (j, k)) :
    net.statusAt c e = ((net.node j).mesh.sock k).statusOn c := by
  unfold Network.statusAt Network.sockAt
  rw [socket]
  rfl

end Carried

/-- The network goes on with what process `i` has written. -/
theorem Wired.take [DecidableEq ι] (wired : Wired crowd strict net a) {n : Node}
    (next : a'.wire.next = a.wire.next)
    (born : ∀ k c, (n.mesh.sock k).thread = .receiving c → c < net.link.next)
    (turns : ∀ c < net.link.next, Turns crowd strict net i n.mesh c (a.wire c) (a'.wire c)) :
    Wired crowd strict (net.take i n) a' := by
  constructor
  · rw [next]
    exact wired.next
  · intro p k c thread
    by_cases same : p = i
    · rw [same, Network.take_node_self] at thread
      exact born k c thread
    · rw [Network.take_node_of_ne _ _ same] at thread
      exact wired.born p k c thread
  · intro c known
    have carried := wired.link c known
    have turn := turns c known
    have owner (e : End) : (a'.wire c).owner e = (a.wire c).owner e := by
      cases e with
      | client => exact turn.client
      | server => exact turn.server
    have link : (net.take i n).link c = (net.link c).carry c n.mesh.sent := rfl
    have sockAt (e : End) : (net.take i n).sockAt c e =
        ((net.link c).socket e).map fun owner =>
          if owner.1 = i then n.mesh.sock owner.2 else (net.node owner.1).mesh.sock owner.2 := by
      unfold Network.sockAt
      rw [link, Link.socket_carry]
      congr 1
      funext owner
      split
      · next same => rw [same, Network.take_node_self]
      · next other => rw [Network.take_node_of_ne _ _ other]
    constructor
    · rw [link, turn.client, ← carried.client]
      unfold Link.carry
      split <;> rfl
    · rw [link, turn.server, ← carried.server]
      unfold Link.carry
      split <;> rfl
    · rw [link, Link.lost_carry, turn.lost]
      exact carried.lost
    · intro e
      obtain ⟨more, means, queue⟩ := turn.queue e
      rw [link, Link.queue_carry, carried.lost, queue, owner, owner]
      split
      · exact carried.queue e
      · exact List.rel_append (carried.queue e) means
    · intro e
      unfold Network.statusAt
      rw [sockAt]
      cases socket : (net.link c).socket e with
      | none =>
          rw [turn.others e (fun k same => nomatch (socket.symm.trans same :)), ← carried.status e]
          unfold Network.statusAt Network.sockAt
          rw [socket]
          rfl
      | some holder =>
          obtain ⟨j, k⟩ := holder
          rw [Option.map_some]
          dsimp only
          by_cases same : j = i
          · rw [if_pos same]
            rw [same] at socket
            exact turn.mine e k socket
          · rw [if_neg same]
            have foreign : ∀ k', (net.link c).socket e ≠ some (i, k') := by
              intro k' isI
              exact same (Prod.mk.inj (Option.some.inj (socket.symm.trans isI))).1
            rw [turn.others e foreign, ← carried.status e]
            exact (Carried.statusAt_of_socket socket).symm
    · intro s member reads incoming
      rw [turn.client]
      rw [sockAt, Option.mem_def, Option.map_eq_some_iff] at member
      obtain ⟨⟨j, k⟩, socket, isSock⟩ := member
      dsimp only at isSock
      split at isSock
      · next same =>
        rw [same] at socket
        rw [← isSock] at reads incoming ⊢
        exact turn.peer k socket reads incoming
      · refine carried.peer s ?_ reads incoming
        unfold Network.sockAt
        rw [socket]
        exact congrArg some isSock

/-- The network goes on with what process `i` has done. -/
theorem Represents.take [DecidableEq ι] (represents : Represents crowd strict net a) {n : Node}
    (wired : Wired crowd strict (net.take i n) a')
    (mesh : Tidy crowd i n.mesh (a'.addressed i) (a'.entry i)) (clean : n.Clean)
    (quiet : strict → n.chan.next = 0)
    (others : ∀ p, p ≠ i → a'.addressed p = a.addressed p ∧ a'.entry p = a.entry p) :
    Represents crowd strict (net.take i n) a' := by
  refine ⟨wired, ?_, ?_, ?_, ?_⟩
  · intro p
    by_cases same : p = i
    · rw [same, Network.take_node_self]
      exact mesh.of_table rfl
    · rw [Network.take_node_of_ne _ _ same, (others p same).1, (others p same).2]
      exact represents.mesh p
  · intro p
    by_cases same : p = i
    · rw [same, Network.take_node_self]
      exact ⟨clean.names, clean.address⟩
    · rw [Network.take_node_of_ne _ _ same]
      exact represents.clean p
  · intro isStrict p
    by_cases same : p = i
    · rw [same, Network.take_node_self]
      exact quiet isStrict
    · rw [Network.take_node_of_ne _ _ same]
      exact represents.quiet isStrict p
  · intro p
    by_cases same : p = i
    · rw [same, Network.take_node_self]
    · rw [Network.take_node_of_ne _ _ same]
      exact represents.silent p

/-- What is under way on a connection changes, its ends stay. -/
theorem Wired.relink (wired : Wired crowd strict net a) {change : Link ι → Link ι}
    {changeLine : Handshake.Wire (Option ι) → Handshake.Wire (Option ι)}
    (client : (change (net.link c)).client = (net.link c).client)
    (server : (change (net.link c)).server = (net.link c).server)
    (socket : ∀ e, (change (net.link c)).socket e = (net.link c).socket e)
    (status : ∀ e, (changeLine (a.wire c).line).status e = (a.wire c).line.status e)
    (lost : c < net.link.next → (change (net.link c)).lost = (changeLine (a.wire c).line).lost)
    (queue : c < net.link.next → ∀ e,
      List.Forall₂ (Means crowd strict ((a.wire c).owner e.other) ((a.wire c).owner e))
        ((change (net.link c)).queue e) ((changeLine (a.wire c).line).queue e)) :
    Wired crowd strict (net.setLink c change) (a.setLine c changeLine) := by
  refine ⟨wired.next, wired.born, ?_⟩
  intro d known
  have carried := wired.link d known
  have link : (net.setLink c change).link d = if d = c then change (net.link c) else net.link d :=
    net.link.modify_apply c d change
  have sockets (e : End) : ((net.setLink c change).link d).socket e = (net.link d).socket e := by
    rw [link]
    split
    · next same =>
      rw [same]
      exact socket e
    · rfl
  have sockAt (e : End) : (net.setLink c change).sockAt d e = net.sockAt d e := by
    unfold Network.sockAt
    rw [sockets]
    rfl
  have statusAt (e : End) : (net.setLink c change).statusAt d e = (a.wire d).line.status e := by
    unfold Network.statusAt
    rw [sockAt]
    exact carried.status e
  rw [Gossip.State.setLine_wire]
  split
  · next same =>
    subst same
    rw [if_pos rfl] at link
    constructor
    · rw [link, client]
      exact carried.client
    · rw [link, server]
      exact carried.server
    · rw [link]
      exact lost known
    · intro e
      rw [link, Gossip.Wire.owner_setLine, Gossip.Wire.owner_setLine]
      exact queue known e
    · intro e
      rw [statusAt]
      exact (status e).symm
    · intro s member
      rw [sockAt] at member
      exact carried.peer s member
  · next other =>
    rw [if_neg other] at link
    refine ⟨?_, ?_, ?_, ?_, statusAt, ?_⟩
    · rw [link]
      exact carried.client
    · rw [link]
      exact carried.server
    · rw [link]
      exact carried.lost
    · intro e
      rw [link]
      exact carried.queue e
    · intro s member
      rw [sockAt] at member
      exact carried.peer s member

/-- A line has been received. -/
theorem Wired.pop (wired : Wired crowd strict net a) {s : Str} {rest : List Str}
    (head : (net.link c).queue e = s :: rest) :
    Wired crowd strict (net.setLink c (·.setQueue rest e)) (a.setLine c (·.pop e)) := by
  refine wired.relink ?_ ?_ ?_ (fun _ => rfl) ?_ ?_
  · cases e <;> rfl
  · cases e <;> rfl
  · exact (net.link c).socket_setQueue rest e
  · intro known
    rw [Link.lost_setQueue]
    exact (wired.link c known).lost
  · intro known e'
    have before := (wired.link c known).queue e'
    rcases e.eq_or_eq_other e' with rfl | rfl
    · rw [Link.queue_setQueue_self, Handshake.Wire.pop_queue_self]
      rw [head] at before
      generalize (a.wire c).line.queue e' = lines at before
      cases before with
      | cons _ tail => exact tail
    · rw [Link.queue_setQueue_other, Handshake.Wire.pop_queue_other]
      exact before

/-- A connection is lost. -/
theorem Wired.lose (wired : Wired crowd strict net a) (c : ConnId) :
    Wired crowd strict (net.setLink c fun l => { l with lost := true })
      (a.setLine c fun w => { w with lost := true }) := by
  refine wired.relink rfl rfl ?_ (fun _ => rfl) (fun _ => rfl) ?_
  · intro e
    cases e <;> rfl
  · intro known e
    have before := (wired.link c known).queue e
    cases e <;> exact before

theorem Represents.pop (represents : Represents crowd strict net a) {s : Str} {rest : List Str}
    (head : (net.link c).queue e = s :: rest) :
    Represents crowd strict (net.setLink c (·.setQueue rest e)) (a.setLine c (·.pop e)) :=
  ⟨represents.toWired.pop head, represents.mesh, represents.clean, represents.quiet,
    represents.silent⟩

/-! ## What is said -/

/-- A Host that can be written to has an entry with that connection. -/
theorem Tidy.entry_of_voice {addressed : Bool} {entry : ι → Option Entry} {h : HostPtr}
    (tidy : Tidy crowd p m addressed entry) (voice : m.voice h = some (c, e)) :
    ∃ q entry', entry q = some entry' ∧ IsHost crowd m q entry' h ∧ entry'.conn = some c ∧
      entry'.side = e := by
  have owns : ∃ k, (m.host h).socket = some k := by
    cases socket : (m.host h).socket with
    | none =>
        unfold Mesh.voice at voice
        rw [socket] at voice
        cases voice
    | some k => exact ⟨k, rfl⟩
  obtain ⟨k, owns⟩ := owns
  obtain ⟨q, entry', _, met, isHost, _⟩ := tidy.host_of_socket owns
  rw [isHost.voice] at voice
  obtain ⟨c', conn, same⟩ := Option.map_eq_some_iff.mp voice
  obtain ⟨rfl, rfl⟩ := Prod.mk.inj same
  exact ⟨q, entry', met, isHost, conn, rfl⟩

/-- The protocol knows everybody that can be written to. -/
theorem Represents.voice_of_host (represents : Represents crowd strict net a) {h : HostPtr}
    (voice : (net.node p).mesh.voice h = some (c, e)) :
    ∃ q, a.voice p q = some (c, e) ∧ a.ready p q = ((net.node p).mesh.host h).bReady := by
  obtain ⟨q, entry, met, isHost, conn, side⟩ := (represents.mesh p).entry_of_voice voice
  refine ⟨q, ?_, ?_⟩
  · rw [Gossip.State.voice_of_entry met, conn, side]
    rfl
  · rw [Gossip.State.ready_of_entry met]
    exact isHost.ready.symm

/-- What `i` has written is talk to those it has connections with, and a strict crowd
only talks to those who are ready. -/
def Spoken (crowd : Crowd ι) (strict : Prop) (i : ι) (a : Gossip.State ι)
    (sent : List (ConnId × End × Str)) : Prop :=
  ∀ entry ∈ sent, (∃ y, a.voice i y = some (entry.1, entry.2.1) ∧ (strict → a.ready i y = true)) ∧
    ∀ line ∈ linesOf entry.2.2, ∃ text, ∀ y, Means crowd strict i y line (.talk text)

theorem Spoken.append {sent more : List (ConnId × End × Str)} (first : Spoken crowd strict i a sent)
    (second : Spoken crowd strict i a more) : Spoken crowd strict i a (sent ++ more) := by
  intro entry member
  rcases List.mem_append.mp member with member | member
  · exact first entry member
  · exact second entry member

theorem Spoken.nil : Spoken crowd strict i a [] :=
  nofun

/-- The lines that are written on a connection are one talk. -/
theorem Spoken.talks {sent : List (ConnId × End × Str)} (spoken : Spoken crowd strict i a sent)
    (c : ConnId) (e : End) (y : ι) :
    ∃ texts, List.Forall₂ (Means crowd strict i y) (written sent c e) (talk texts) := by
  have each : ∀ line ∈ written sent c e, ∃ text, Means crowd strict i y line (.talk text) := by
    intro line member
    obtain ⟨text, said, inside⟩ := mem_written member
    obtain ⟨told, means⟩ := (spoken _ said).2 line inside
    exact ⟨told, means y⟩
  revert each
  generalize written sent c e = lines
  intro each
  induction lines with
  | nil => exact ⟨[], .nil⟩
  | cons line lines ih =>
      obtain ⟨text, means⟩ := each line List.mem_cons_self
      obtain ⟨texts, rest⟩ := ih fun line member => each line (List.mem_cons_of_mem _ member)
      exact ⟨text :: texts, .cons means rest⟩

theorem Spoken.written_nil {sent : List (ConnId × End × Str)} (spoken : Spoken crowd strict i a sent)
    (silent : ∀ y, a.voice i y ≠ some (c, e)) : written sent c e = [] := by
  cases lines : written sent c e with
  | nil => rfl
  | cons line rest =>
      have member : line ∈ written sent c e := by
        rw [lines]
        exact List.mem_cons_self
      obtain ⟨text, said, _⟩ := mem_written member
      obtain ⟨⟨y, voice, _⟩, _⟩ := spoken _ said
      exact absurd voice (silent y)

theorem exists_of_mem_left {α β : Type} {R : α → β → Prop} {xs : List α} {ys : List β} {x : α}
    (related : List.Forall₂ R xs ys) (member : x ∈ xs) : ∃ y ∈ ys, R x y := by
  induction related with
  | nil => cases member
  | cons head tail ih =>
      rcases List.mem_cons.mp member with rfl | later
      · exact ⟨_, List.mem_cons_self, head⟩
      · obtain ⟨y, inside, related⟩ := ih later
        exact ⟨y, List.mem_cons_of_mem _ inside, related⟩

/-- An address is read in one way. -/
theorem Mesh.hostText_injective {ip ip' : Str} {port port' : Int32} (colon : ':' ∉ ip)
    (colon' : ':' ∉ ip') (same : Mesh.hostText ip port = Mesh.hostText ip' port') :
    ip = ip' ∧ port = port' := by
  have read (ip : Str) (port : Int32) (noColon : ':' ∉ ip) :
      strBefore (strAfter (Mesh.hostText ip port) ['=']) [':'] = ip ∧
        atoi (strAfter (strAfter (Mesh.hostText ip port) ['=']) [':']) = port := by
    have split : Mesh.hostText ip port = "Host".toList ++ '=' :: (ip ++ ':' :: printInt port) := by
      unfold Mesh.hostText
      simp
    rw [split, strAfter_separator (by decide), strBefore_separator noColon,
      strAfter_separator noColon, atoi_printInt]
    exact ⟨rfl, rfl⟩
  have left := read ip port colon
  have right := read ip' port' colon'
  rw [same] at left
  exact ⟨left.1.symm.trans right.1, left.2.symm.trans right.2⟩

/-- A line that starts with `Host=` is about a process. -/
theorem Means.host_of_starts {s : Str} {message : Message (Option ι)}
    (means : Means crowd strict p q s message) (starts : strStartsWith s "Host=".toList = true) :
    ∃ r, s = Mesh.hostText (crowd.ip r) (crowd.port r) ∧ message = .talk (some r) := by
  have foreign {P : Prop} (other : strStartsWith s "Host=".toList = false) : P := by
    rw [starts] at other
    cases other
  cases means with
  | id => exact foreign (strStartsWith_eq_false Mesh.idLine_starts (by decide))
  | you => exact foreign (strStartsWith_eq_false Mesh.youLine_starts (by decide))
  | connected => exact foreign (by decide)
  | host r => exact ⟨r, rfl, rfl⟩
  | statement chatty statement => exact foreign statement.notHost

theorem Means.of_hostText {r : ι} {message : Message (Option ι)} (named : crowd.Named)
    (means : Means crowd strict p q (Mesh.hostText (crowd.ip r) (crowd.port r)) message) :
    message = .talk (some r) := by
  obtain ⟨r', same, rfl⟩ := means.host_of_starts Mesh.hostText_starts
  obtain ⟨ip, port⟩ := Mesh.hostText_injective (named.text r).colon (named.text r').colon same
  rw [named.apart r r' ip port]

/-- A process talks, and its table stays as it is. -/
theorem Represents.says [DecidableEq ι] (represents : Represents crowd strict net a)
    (sane : Gossip.Sane a) {n : Node}
    (mesh : Tidy crowd i n.mesh (a.addressed i) (a.entry i)) (clean : n.Clean)
    (quiet : strict → n.chan.next = 0) (steady : (net.node i).mesh.Steady n.mesh)
    (spoken : Spoken crowd strict i a n.mesh.sent) :
    ∃ talks, Represents crowd strict (net.take i n) (a.say i talks) ∧
      (strict → ∀ y, talks y = [] ∨ a.ready i y = true) ∧
      ∀ y c e z, a.voice i y = some (c, e) →
        Mesh.hostText (crowd.ip z) (crowd.port z) ∈ written n.mesh.sent c e →
          crowd.Named → some z ∈ talks y := by
  have exist : ∀ y, ∃ texts, (∀ c e, a.voice i y = some (c, e) →
      List.Forall₂ (Means crowd strict i y) (written n.mesh.sent c e) (talk texts)) ∧
        (a.voice i y = none → texts = []) := by
    intro y
    cases voice : a.voice i y with
    | none => exact ⟨[], nofun, fun _ => rfl⟩
    | some talker =>
        obtain ⟨c, e⟩ := talker
        obtain ⟨texts, means⟩ := spoken.talks c e y
        refine ⟨texts, ?_, nofun⟩
        intro c' e' same
        obtain ⟨rfl, rfl⟩ := Prod.mk.inj (Option.some.inj same)
        exact means
  choose talks means nothing using exist
  refine ⟨talks, ?_, ?_, ?_⟩
  · refine represents.take (represents.toWired.take rfl
      (fun k c thread => represents.born i k c ((steady k).thread.mp thread)) fun c known => ?_)
      mesh clean quiet fun _ _ => ⟨rfl, rfl⟩
    have carried := represents.link c known
    have status (e : End) : (a.said i talks c (a.wire c)).status e = (a.wire c).line.status e := by
      by_cases silent : ∀ y e, a.voice i y ≠ some (c, e)
      · rw [Gossip.Sane.said_of_silent talks _ silent]
      · obtain ⟨y, e', voice⟩ : ∃ y e', a.voice i y = some (c, e') := by
          by_contra none
          exact silent fun y e' voice => none ⟨y, e', voice⟩
        rw [sane.said_of_voice talks voice, Handshake.Wire.push_status]
    have still (e : End) (k : SockPtr) (socket : (net.link c).socket e = some (i, k)) :
        (n.mesh.sock k).statusOn c = (a.wire c).line.status e := by
      rw [(steady k).status, ← carried.status e]
      exact (Carried.statusAt_of_socket socket).symm
    refine ⟨rfl, rfl, ?_, ?_, ?_, ?_, ?_⟩
    · change (a.said i talks c (a.wire c)).lost = _
      by_cases silent : ∀ y e, a.voice i y ≠ some (c, e)
      · rw [Gossip.Sane.said_of_silent talks _ silent]
      · obtain ⟨y, e', voice⟩ : ∃ y e', a.voice i y = some (c, e') := by
          by_contra none
          exact silent fun y e' voice => none ⟨y, e', voice⟩
        rw [sane.said_of_voice talks voice, Handshake.Wire.push_lost]
    · intro e
      change ∃ more, _ ∧ (a.said i talks c (a.wire c)).queue e = _
      by_cases speaks : ∃ y, a.voice i y = some (c, e.other)
      · obtain ⟨y, voice⟩ := speaks
        obtain ⟨_, own, other, _⟩ := sane.voice _ _ _ _ voice
        rw [End.other_other] at other
        rw [own, other]
        refine ⟨_, means y c e.other voice, ?_⟩
        rw [sane.said_of_voice talks voice, End.other_other]
        cases lost : (a.wire c).line.lost with
        | true =>
            rw [Handshake.Wire.push_of_lost lost]
            rfl
        | false =>
            rw [Handshake.Wire.push_queue_self lost]
            rfl
      · have quietEnd : written n.mesh.sent c e.other = [] :=
          spoken.written_nil fun y voice => speaks ⟨y, voice⟩
        refine ⟨[], by rw [quietEnd]; exact .nil, ?_⟩
        rw [List.append_nil, ite_self]
        by_cases silent : ∀ y e, a.voice i y ≠ some (c, e)
        · rw [Gossip.Sane.said_of_silent talks _ silent]
        · obtain ⟨y, e', voice⟩ : ∃ y e', a.voice i y = some (c, e') := by
            by_contra none
            exact silent fun y e' voice => none ⟨y, e', voice⟩
          have here : e' = e := by
            rcases e.eq_or_eq_other e' with same | same
            · exact same
            · rw [same] at voice
              exact absurd ⟨y, voice⟩ speaks
          rw [sane.said_of_voice talks voice, here, Handshake.Wire.push_queue_back]
    · intro e k socket
      change _ = (a.said i talks c (a.wire c)).status e
      rw [status]
      exact still e k socket
    · exact fun e _ => status e
    · intro k socket reads incoming
      have same := (steady k).incoming incoming
      rw [same] at reads incoming ⊢
      refine carried.peer _ ?_ reads incoming
      unfold Network.sockAt
      rw [socket]
      rfl
  · intro isStrict y
    cases voice : a.voice i y with
    | none => exact .inl (nothing y voice)
    | some talker =>
        obtain ⟨c, e⟩ := talker
        have whole := means y c e voice
        cases lines : written n.mesh.sent c e with
        | nil =>
            rw [lines] at whole
            cases texts : talks y with
            | nil => exact .inl rfl
            | cons text texts' =>
                rw [texts] at whole
                cases whole
        | cons line rest =>
            have member : line ∈ written n.mesh.sent c e := by
              rw [lines]
              exact List.mem_cons_self
            obtain ⟨text, said, _⟩ := mem_written member
            obtain ⟨⟨y', voice', ready⟩, _⟩ := spoken _ said
            obtain ⟨_, _, isY, _⟩ := sane.voice _ _ _ _ voice
            obtain ⟨_, _, isY', _⟩ := sane.voice _ _ _ _ voice'
            rw [isY.symm.trans isY']
            exact .inr (ready isStrict)
  · intro y c e z voice member named
    obtain ⟨message, inside, meant⟩ := exists_of_mem_left (means y c e voice) member
    rw [meant.of_hostText named] at inside
    obtain ⟨text, told, same⟩ := List.mem_map.mp inside
    rw [← Message.talk.inj same]
    exact told

end

end LibPubSub
