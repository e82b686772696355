import LibPubSub.Library.Heap
import LibPubSub.Socket

/-! The handshake of two processes on its own: who greets whom on which connection.
A connection is known by the lines that are under way on it and by what its owner
does with each end; there are no sockets, no addresses and no channels. The
processes are `false` and `true`, and `!p` is the other one of `p`. -/

set_option autoImplicit false

namespace LibPubSub

namespace Handshake

/-- The lines of the handshake. Everything else is talk. -/
inductive Message (Text : Type) where
  | id
  | you
  | connected
  | talk (text : Text)

/-- What the owner of an end does with it. -/
inductive Status where
  /-- Nobody has accepted the connection yet. -/
  | unborn
  /-- It waits for the `ID=` of an accepted connection. -/
  | incoming
  /-- It is the socket of the Host entry. -/
  | current
  /-- It has closed the end because it keeps its own connection. -/
  | rejected
  /-- It has closed the end because it has moved to another connection. -/
  | dropped
  /-- The thread has left the receive loop. -/
  | ended
  deriving DecidableEq

namespace Status

/-- The end can still receive what is new. -/
def Open (s : Status) : Prop :=
  s = .incoming ∨ s = .current

/-- Its owner has closed it. -/
def Closed (s : Status) : Prop :=
  s = .rejected ∨ s = .dropped ∨ s = .ended

end Status

/-- The entry of a process for the other one. -/
structure Entry where
  server : Bool
  ready : Bool
  conn : Option ConnId

/-- The end of its connection that an entry holds. -/
def Entry.side (e : Entry) : End :=
  if e.server then .server else .client

structure Wire (Text : Type) where
  client : Bool
  status : End → Status
  queue : End → List (Message Text)
  lost : Bool

structure State (Text : Type) where
  addressed : Bool → Bool
  entry : Bool → Option Entry
  wire : Heap (Wire Text)

variable {Text : Type}

namespace Wire

def owner (w : Wire Text) : End → Bool
  | .client => w.client
  | .server => !w.client

/-- A connection that `p` has just dialled and greeted on. -/
def dialled (p : Bool) : Wire Text where
  client := p
  status
    | .client => .current
    | .server => .unborn
  queue
    | .client => []
    | .server => [.id, .you]
  lost := false

def setStatus (e : End) (s : Status) (w : Wire Text) : Wire Text :=
  { w with status := Function.update w.status e s }

/-- The first line for end `e` has been received. -/
def pop (e : End) (w : Wire Text) : Wire Text :=
  { w with queue := Function.update w.queue e (w.queue e).tail }

/-- More lines are under way to end `e`, unless the connection is lost. -/
def push (e : End) (lines : List (Message Text)) (w : Wire Text) : Wire Text :=
  if w.lost then w else { w with queue := Function.update w.queue e (w.queue e ++ lines) }

end Wire

namespace State

def ready (a : State Text) (p : Bool) : Bool :=
  match a.entry p with
  | some e => e.ready
  | none => false

/-- The connection and the end that `p` talks on. -/
def voice (a : State Text) (p : Bool) : Option (ConnId × End) :=
  match a.entry p with
  | some e => e.conn.map (·, e.side)
  | none => none

def setEntry (a : State Text) (p : Bool) (e : Entry) : State Text :=
  { a with entry := Function.update a.entry p (some e) }

def setWire (a : State Text) (c : ConnId) (change : Wire Text → Wire Text) : State Text :=
  { a with wire := a.wire.modify c change }

def setAddressed (a : State Text) (p : Bool) : State Text :=
  { a with addressed := Function.update a.addressed p true }

def changeEntry (a : State Text) (p : Bool) (change : Entry → Entry) : State Text :=
  { a with entry := Function.update a.entry p ((a.entry p).map change) }

/-- The first line for end `e` of `c` has been received and answered by `lines`. -/
def answer (a : State Text) (c : ConnId) (e : End) (lines : List (Message Text)) : State Text :=
  a.setWire c fun w => (w.pop e).push e.other lines

/-- `p` talks. -/
def say (a : State Text) (p : Bool) (lines : List (Message Text)) : State Text :=
  match a.voice p with
  | some (c, e) => a.setWire c (·.push e.other lines)
  | none => a

/-- A new connection of `p`, which it greets on. -/
def connect (a : State Text) (p : Bool) : State Text :=
  { a.setEntry p ⟨false, false, some a.wire.next⟩ with
    wire := a.wire.alloc (.dialled p) }

/-- The entry of `p` leaves its connection, whose end is `s` from now on. -/
def release (a : State Text) (p : Bool) (s : Status) : State Text :=
  match a.voice p with
  | some (c, e) =>
      (a.changeEntry p fun entry => { entry with ready := false, conn := none }).setWire c
        (·.setStatus e s)
  | none => a

/-- The entry of `p` takes the accepted connection `c` and greets on it. -/
def attach (a : State Text) (p : Bool) (c : ConnId) : State Text :=
  (a.setEntry p ⟨true, false, some c⟩).setWire c fun w =>
    ((w.pop .server).setStatus .server .current).push .client [.id, .you, .connected]

end State

/-- The talk of `talks`. -/
def talk (talks : List Text) : List (Message Text) :=
  talks.map .talk

/-- One step. `yields p` says that `p` gives way when both have dialled, because its
ID is the lower one. A process moves an entry that is ready to no other
connection: that is what it should do. -/
inductive Step (yields : Bool → Bool) (a : State Text) : State Text → Prop where
  | dial (p : Bool) (unmet : a.entry p = none) :
      Step yields a (a.setEntry p ⟨false, false, none⟩)
  | connect (p : Bool) (ready : Bool) (dialling : a.entry p = some ⟨false, ready, none⟩) :
      Step yields a (a.connect p)
  | accept (c : ConnId) (known : c < a.wire.next) (unborn : (a.wire c).status .server = .unborn) :
      Step yields a (a.setWire c (·.setStatus .server .incoming))
  | greet (c : ConnId) (e : End) (known : c < a.wire.next)
      (current : (a.wire c).status e = .current) (rest : List (Message Text))
      (first : (a.wire c).queue e = .id :: rest) :
      Step yields a (a.answer c e [.connected])
  | address (c : ConnId) (e : End) (known : c < a.wire.next)
      (current : (a.wire c).status e = .current) (rest : List (Message Text))
      (first : (a.wire c).queue e = .you :: rest) :
      Step yields a ((a.answer c e []).setAddressed ((a.wire c).owner e))
  | ready (c : ConnId) (e : End) (talks : List Text) (known : c < a.wire.next)
      (current : (a.wire c).status e = .current) (rest : List (Message Text))
      (first : (a.wire c).queue e = .connected :: rest) :
      Step yields a ((a.answer c e (talk talks)).changeEntry ((a.wire c).owner e)
        fun entry => { entry with ready := true })
  | hear (c : ConnId) (e : End) (text : Text) (talks : List Text) (known : c < a.wire.next)
      (current : (a.wire c).status e = .current) (rest : List (Message Text))
      (first : (a.wire c).queue e = .talk text :: rest)
      (entitled : talks = [] ∨ a.ready ((a.wire c).owner e) = true) :
      Step yields a (a.answer c e (talk talks))
  | adopt (c : ConnId) (known : c < a.wire.next)
      (incoming : (a.wire c).status .server = .incoming) (rest : List (Message Text))
      (first : (a.wire c).queue .server = .id :: rest)
      (allowed : ∀ e, a.entry (!(a.wire c).client) = some e →
        e.ready = false ∧ (yields (!(a.wire c).client) = true ∨ e.server = true)) :
      Step yields a ((a.release (!(a.wire c).client) .dropped).attach (!(a.wire c).client) c)
  | reject (c : ConnId) (known : c < a.wire.next)
      (incoming : (a.wire c).status .server = .incoming) (rest : List (Message Text))
      (first : (a.wire c).queue .server = .id :: rest)
      (e : Entry) (met : a.entry (!(a.wire c).client) = some e)
      (keeps : yields (!(a.wire c).client) = false) (dialled : e.server = false) :
      Step yields a (a.setWire c fun w => (w.pop .server).setStatus .server .rejected)
  | ignore (c : ConnId) (e : End) (known : c < a.wire.next)
      (closed : (a.wire c).status e = .rejected ∨ (a.wire c).status e = .dropped)
      (first : Message Text) (rest : List (Message Text))
      (head : (a.wire c).queue e = first :: rest) :
      Step yields a (a.setWire c (·.pop e))
  | hangUp (c : ConnId) (e : End) (known : c < a.wire.next)
      (current : (a.wire c).status e = .current)
      (why : (a.wire c).lost = true ∨ ((a.wire c).status e.other).Closed) :
      Step yields a (a.release ((a.wire c).owner e) .ended)
  | leave (c : ConnId) (e : End) (known : c < a.wire.next)
      (reads : (a.wire c).status e = .incoming ∨ (a.wire c).status e = .rejected ∨
        (a.wire c).status e = .dropped)
      (why : (a.wire c).status e = .incoming →
        (a.wire c).lost = true ∨ ((a.wire c).status e.other).Closed) :
      Step yields a (a.setWire c (·.setStatus e .ended))
  | lose (c : ConnId) (known : c < a.wire.next) :
      Step yields a (a.setWire c fun w => { w with lost := true })
  | talk (p : Bool) (talks : List Text) (entitled : talks = [] ∨ a.ready p = true) :
      Step yields a (a.say p (talk talks))

/-! ## What a process may rely on -/

/-- What is under way to a process that has been greeted: first its address, then
`CONNECTED`, and talk only behind it. -/
inductive Flow : Bool → Bool → List (Message Text) → Prop where
  | greeted (addressed : Bool) (talks : List Text) :
      Flow false addressed (.you :: .connected :: talk talks)
  | addressed (talks : List Text) : Flow false true (.connected :: talk talks)
  | ready (talks : List Text) : Flow true true (talk talks)

/-- The server has moved to the connection, and the client has not read its
greeting yet. -/
structure Unanswered (ready addressed : Bool → Bool) (w : Wire Text) : Prop where
  client : ready w.client = false
  server : ready (!w.client) = false
  toClient : w.queue .client = [.id, .you, .connected]
  toServer : w.queue .server = [.you] ∨
    (w.queue .server = [] ∧ addressed (!w.client) = true)

/-- How far a handshake can be. -/
def Orderly (ready addressed : Bool → Bool) (w : Wire Text) : Prop :=
  Unanswered ready addressed w ∨
    ∀ e, Flow (ready (w.owner e)) (addressed (w.owner e)) (w.queue e)

/-- Before `CONNECTED` comes `YOU=`. -/
def Gated (lines : List (Message Text)) : Prop :=
  ∀ before after, lines = before ++ .connected :: after → .you ∈ before

/-- One connection. -/
structure Kept (ready addressed : Bool → Bool) (w : Wire Text) : Prop where
  client : w.status .client = .current ∨ w.status .client = .dropped ∨ w.status .client = .ended
  opening : w.status .server = .unborn ∨ w.status .server = .incoming →
    w.queue .client = [] ∧ w.queue .server = [.id, .you] ∧
      (w.status .client = .current → ready w.client = false)
  refused : w.status .server = .rejected → .id ∉ w.queue .server
  orderly : w.status .client = .current → w.status .server = .current → w.lost = false →
    Orderly ready addressed w
  gated : ∀ e, w.status e = .current → addressed (w.owner e) = true ∨ Gated (w.queue e)

/-- The invariant of the handshake. -/
structure Sound (a : State Text) : Prop where
  voice : ∀ p c e, a.voice p = some (c, e) → c < a.wire.next ∧ (a.wire c).owner e = p
  current : ∀ c < a.wire.next, ∀ e,
    (a.wire c).status e = .current ↔ a.voice ((a.wire c).owner e) = some (c, e)
  idle : ∀ p, a.voice p = none → a.ready p = false
  addressed : ∀ p, a.ready p = true → a.addressed p = true
  wire : ∀ c < a.wire.next, Kept a.ready a.addressed (a.wire c)

/-! ## The operations -/

variable {ready ready' addressed addressed' : Bool → Bool} {w : Wire Text} {e : End}
  {lines : List (Message Text)}

namespace Wire

@[simp] theorem owner_setStatus (w : Wire Text) (e : End) (s : Status) :
    (w.setStatus e s).owner = w.owner := by
  funext side
  cases side <;> rfl

@[simp] theorem owner_pop (w : Wire Text) (e : End) : (w.pop e).owner = w.owner := by
  funext side
  cases side <;> rfl

@[simp] theorem pop_queue_self (w : Wire Text) (e : End) :
    (w.pop e).queue e = (w.queue e).tail :=
  Function.update_self ..

@[simp] theorem pop_queue_other (w : Wire Text) (e : End) :
    (w.pop e).queue e.other = w.queue e.other :=
  Function.update_of_ne (End.other_ne e) ..

@[simp] theorem setStatus_status_self (w : Wire Text) (e : End) (s : Status) :
    (w.setStatus e s).status e = s :=
  Function.update_self ..

@[simp] theorem setStatus_status_other (w : Wire Text) (e : End) (s : Status) :
    (w.setStatus e s).status e.other = w.status e.other :=
  Function.update_of_ne (End.other_ne e) ..

theorem setStatus_same {s : Status} (same : w.status e = s) : w.setStatus e s = w := by
  unfold setStatus
  rw [← same, Function.update_eq_self]

@[simp] theorem push_client (w : Wire Text) (e : End) (lines : List (Message Text)) :
    (w.push e lines).client = w.client := by
  unfold push
  split <;> rfl

@[simp] theorem push_status (w : Wire Text) (e : End) (lines : List (Message Text)) :
    (w.push e lines).status = w.status := by
  unfold push
  split <;> rfl

@[simp] theorem push_nil (w : Wire Text) (e : End) : w.push e [] = w := by
  unfold push
  split
  · rfl
  · rw [List.append_nil, Function.update_eq_self]

@[simp] theorem push_lost (w : Wire Text) (e : End) (lines : List (Message Text)) :
    (w.push e lines).lost = w.lost := by
  unfold push
  split <;> rfl

@[simp] theorem owner_push (w : Wire Text) (e : End) (lines : List (Message Text)) :
    (w.push e lines).owner = w.owner := by
  funext side
  cases side <;> simp only [owner, push_client]

@[simp] theorem push_queue_other (w : Wire Text) (e : End) (lines : List (Message Text)) :
    (w.push e lines).queue e.other = w.queue e.other := by
  unfold push
  split
  · rfl
  · exact Function.update_of_ne (End.other_ne e) ..

@[simp] theorem push_queue_back (w : Wire Text) (e : End) (lines : List (Message Text)) :
    (w.push e.other lines).queue e = w.queue e := by
  have back := w.push_queue_other e.other lines
  rwa [End.other_other] at back

theorem push_queue_self (kept : w.lost = false) :
    (w.push e lines).queue e = w.queue e ++ lines := by
  unfold push
  rw [kept]
  exact Function.update_self ..

theorem push_of_lost (lost : w.lost = true) : w.push e lines = w := by
  unfold push
  rw [lost]
  rfl

end Wire

namespace State

variable {a : State Text} {p q : Bool} {c d : ConnId}

theorem setWire_self (a : State Text) (c : ConnId) (change : Wire Text → Wire Text) :
    (a.setWire c change).wire c = change (a.wire c) :=
  a.wire.modify_self c change

theorem setWire_of_ne (a : State Text) (change : Wire Text → Wire Text) (other : d ≠ c) :
    (a.setWire c change).wire d = a.wire d :=
  a.wire.modify_of_ne change other

theorem changeEntry_of_ne (a : State Text) (change : Entry → Entry) (other : q ≠ p) :
    (a.changeEntry p change).entry q = a.entry q :=
  Function.update_of_ne other ..

theorem changeEntry_self (a : State Text) (p : Bool) (change : Entry → Entry) :
    (a.changeEntry p change).entry p = (a.entry p).map change :=
  Function.update_self ..

theorem setEntry_of_ne (a : State Text) (e : Entry) (other : q ≠ p) :
    (a.setEntry p e).entry q = a.entry q :=
  Function.update_of_ne other ..

theorem setEntry_self (a : State Text) (p : Bool) (e : Entry) :
    (a.setEntry p e).entry p = some e :=
  Function.update_self ..

theorem ready_congr {a' : State Text} (same : a'.entry p = a.entry p) : a'.ready p = a.ready p := by
  unfold ready
  rw [same]

theorem voice_congr {a' : State Text} (same : a'.entry p = a.entry p) : a'.voice p = a.voice p := by
  unfold voice
  rw [same]

/-- Who talks holds an entry with its connection. -/
theorem entry_of_voice {e : End} (talks : a.voice p = some (c, e)) :
    ∃ entry, a.entry p = some entry ∧ entry.conn = some c ∧ entry.side = e := by
  unfold voice at talks
  cases met : a.entry p with
  | none =>
      rw [met] at talks
      cases talks
  | some entry =>
      rw [met] at talks
      obtain ⟨d, conn, same⟩ := Option.map_eq_some_iff.mp talks
      obtain ⟨rfl, rfl⟩ := Prod.mk.inj same
      exact ⟨entry, rfl, conn, rfl⟩

/-- A change of an entry that keeps its connection and its side keeps the voice. -/
theorem voice_changeEntry (a : State Text) (p q : Bool) {change : Entry → Entry}
    (conn : ∀ e, (change e).conn = e.conn) (server : ∀ e, (change e).server = e.server) :
    (a.changeEntry p change).voice q = a.voice q := by
  by_cases same : q = p
  · subst same
    unfold voice
    rw [changeEntry_self]
    cases a.entry q with
    | none => rfl
    | some e => simp only [Option.map_some, Entry.side, conn, server]
  · exact voice_congr (a.changeEntry_of_ne change same)

theorem release_silent (s : Status) (silent : a.voice p = none) : a.release p s = a := by
  unfold release
  rw [silent]

theorem release_talking {e : End} (s : Status) (talks : a.voice p = some (c, e)) :
    a.release p s = (a.changeEntry p fun entry =>
      { entry with ready := false, conn := none }).setWire c (·.setStatus e s) := by
  unfold release
  rw [talks]

theorem release_next (a : State Text) (p : Bool) (s : Status) :
    (a.release p s).wire.next = a.wire.next := by
  unfold release
  split <;> rfl

theorem release_addressed (a : State Text) (p : Bool) (s : Status) :
    (a.release p s).addressed = a.addressed := by
  unfold release
  split <;> rfl

theorem release_entry_of_ne (a : State Text) (s : Status) (other : q ≠ p) :
    (a.release p s).entry q = a.entry q := by
  unfold release
  split
  · exact changeEntry_of_ne a _ other
  · rfl

/-- The wires only change at the end that `p` has talked on. -/
theorem release_wire (a : State Text) (p : Bool) (s : Status) (d : ConnId) :
    ((a.release p s).wire d).client = (a.wire d).client ∧
      ((a.release p s).wire d).queue = (a.wire d).queue ∧
      ((a.release p s).wire d).lost = (a.wire d).lost ∧
      ∀ e, ((a.release p s).wire d).status e =
        if a.voice p = some (d, e) then s else (a.wire d).status e := by
  cases voice : a.voice p with
  | none =>
      rw [release_silent s voice]
      exact ⟨rfl, rfl, rfl, fun e => (if_neg nofun).symm⟩
  | some talker =>
      obtain ⟨c, side⟩ := talker
      rw [release_talking s voice]
      by_cases same : d = c
      · subst same
        rw [setWire_self]
        refine ⟨rfl, rfl, rfl, fun e => ?_⟩
        rcases side.eq_or_eq_other e with rfl | rfl
        · rw [if_pos rfl]
          exact Wire.setStatus_status_self ..
        · rw [if_neg fun here => side.other_ne (Prod.mk.inj (Option.some.inj here)).2.symm]
          exact Wire.setStatus_status_other ..
      · rw [setWire_of_ne _ _ same]
        refine ⟨rfl, rfl, rfl, fun e => ?_⟩
        rw [if_neg fun here => same (Prod.mk.inj (Option.some.inj here)).1.symm]
        rfl

theorem release_voice_self (a : State Text) (p : Bool) (s : Status) :
    (a.release p s).voice p = none := by
  cases voice : a.voice p with
  | none =>
      rw [release_silent s voice]
      exact voice
  | some talker =>
      obtain ⟨entry, met, _, _⟩ := entry_of_voice voice
      rw [release_talking s voice]
      change (a.changeEntry p _).voice p = none
      unfold State.voice
      rw [changeEntry_self, met]
      rfl

theorem owner_congr {w w' : Wire Text} (client : w'.client = w.client) (e : End) :
    w'.owner e = w.owner e := by
  cases e <;> simp only [Wire.owner, client]

end State

theorem Flow.push {isReady isAddressed : Bool} (flow : Flow isReady isAddressed lines)
    (talks : List Text) : Flow isReady isAddressed (lines ++ talk talks) := by
  have join : ∀ before : List Text,
      talk before ++ talk talks = (talk (before ++ talks) : List (Message Text)) :=
    fun before => List.map_append.symm
  cases flow with
  | greeted addressed before =>
      rw [List.cons_append, List.cons_append, join]
      exact .greeted _ _
  | addressed before =>
      rw [List.cons_append, join]
      exact .addressed _
  | ready before =>
      rw [join]
      exact .ready _

/-- A process that has nothing left to read is ready. -/
theorem Flow.nil {isReady isAddressed : Bool}
    (flow : Flow isReady isAddressed ([] : List (Message Text))) : isReady = true := by
  generalize empty : ([] : List (Message Text)) = queue at flow
  cases flow with
  | greeted => cases empty
  | addressed => cases empty
  | ready => rfl

/-- What can be read first while the client has not answered. -/
theorem Unanswered.head {first : Message Text} (unanswered : Unanswered ready addressed w)
    (head : w.queue e = first :: lines) :
    (e = .client ∧ first = .id ∧ lines = [.you, .connected]) ∨
      (e = .server ∧ first = .you ∧ lines = []) := by
  cases e with
  | client =>
      rw [unanswered.toClient] at head
      obtain ⟨same, rest⟩ := List.cons.inj head
      exact .inl ⟨rfl, same.symm, rest.symm⟩
  | server =>
      rcases unanswered.toServer with queue | ⟨queue, _⟩
      · rw [queue] at head
        obtain ⟨same, rest⟩ := List.cons.inj head
        exact .inr ⟨rfl, same.symm, rest.symm⟩
      · rw [queue] at head
        cases head

/-- What can be read first. -/
theorem Flow.cons {isReady isAddressed : Bool} {first : Message Text}
    (flow : Flow isReady isAddressed (first :: lines)) :
    (first = .you ∧ isReady = false ∧ ∃ talks, lines = .connected :: talk talks) ∨
      (first = .connected ∧ isReady = false ∧ isAddressed = true ∧ ∃ talks, lines = talk talks) ∨
      ((∃ text, first = .talk text) ∧ isReady = true ∧ isAddressed = true ∧
        ∃ talks, lines = talk talks) := by
  generalize whole : first :: lines = queue at flow
  cases flow with
  | greeted addressed talks =>
      obtain ⟨rfl, rfl⟩ := List.cons.inj whole
      exact .inl ⟨rfl, rfl, talks, rfl⟩
  | addressed talks =>
      obtain ⟨rfl, rfl⟩ := List.cons.inj whole
      exact .inr (.inl ⟨rfl, rfl, rfl, talks, rfl⟩)
  | ready talks =>
      cases talks with
      | nil => cases whole
      | cons text talks =>
          obtain ⟨rfl, rfl⟩ := List.cons.inj whole
          exact .inr (.inr ⟨⟨text, rfl⟩, rfl, rfl, talks, rfl⟩)

theorem id_not_mem_talk (talks : List Text) : .id ∉ (talk talks : List (Message Text)) := by
  simp [talk]

theorem gated_of_not_mem (none : .connected ∉ lines) : Gated lines := by
  rintro before after rfl
  exact absurd (List.mem_append_right before List.mem_cons_self) none

theorem gated_cons_you : Gated (.you :: lines) := by
  intro before after split
  cases before with
  | nil => cases split
  | cons first before =>
      obtain ⟨rfl, _⟩ := List.cons.inj split
      exact List.mem_cons_self

theorem gated_cons_id (gated : Gated lines) : Gated (.id :: lines) := by
  intro before after split
  cases before with
  | nil => cases split
  | cons first before =>
      obtain ⟨_, split⟩ := List.cons.inj split
      exact List.mem_cons_of_mem _ (gated before after split)

theorem Gated.tail {first : Message Text} (gated : Gated (first :: lines)) (other : first ≠ .you) :
    Gated lines := by
  rintro before after rfl
  rcases List.mem_cons.mp (gated (first :: before) after rfl) with same | member
  · exact absurd same.symm other
  · exact member

theorem Gated.not_connected (gated : Gated (.connected :: lines)) : False :=
  List.not_mem_nil (gated [] lines rfl)

theorem Flow.gated {isReady isAddressed : Bool} (flow : Flow isReady isAddressed lines) :
    isAddressed = true ∨ Gated lines := by
  cases flow with
  | greeted => exact .inr gated_cons_you
  | addressed => exact .inl rfl
  | ready => exact .inl rfl

/-- An orderly connection is gated at both ends. -/
theorem Orderly.gated (orderly : Orderly ready addressed w) (e : End) :
    addressed (w.owner e) = true ∨ Gated (w.queue e) := by
  rcases orderly with unanswered | flow
  · cases e with
    | client =>
        rw [unanswered.toClient]
        exact .inr (gated_cons_id gated_cons_you)
    | server =>
        rcases unanswered.toServer with queue | ⟨_, addressed⟩
        · rw [queue]
          exact .inr gated_cons_you
        · exact .inl addressed
  · exact (flow e).gated

/-- Talk in return to a line keeps a connection orderly if what is left to read is. -/
theorem orderly_answer {rest : List (Message Text)} (talks : List Text) (lives : w.lost = false)
    (rest_eq : (w.queue e).tail = rest)
    (here : Flow (ready' (w.owner e)) (addressed' (w.owner e)) rest)
    (there : Flow (ready' (w.owner e.other)) (addressed' (w.owner e.other)) (w.queue e.other)) :
    Orderly ready' addressed' ((w.pop e).push e.other (talk talks)) := by
  have lives' : (w.pop e).lost = false := lives
  refine .inr fun side => ?_
  rw [Wire.owner_push, Wire.owner_pop]
  rcases e.eq_or_eq_other side with rfl | rfl
  · rw [Wire.push_queue_back, Wire.pop_queue_self, rest_eq]
    exact here
  · rw [Wire.push_queue_self lives', Wire.pop_queue_other]
    exact there.push talks

/-- What a connection relies on are the processes that talk on it. -/
theorem Kept.frame (kept : Kept ready addressed w)
    (same : ∀ e, w.status e = .current →
      ready' (w.owner e) = ready (w.owner e) ∧ addressed' (w.owner e) = addressed (w.owner e)) :
    Kept ready' addressed' w where
  client := kept.client
  opening start := by
    obtain ⟨toClient, toServer, unready⟩ := kept.opening start
    refine ⟨toClient, toServer, ?_⟩
    intro current
    exact (same .client current).1.trans (unready current)
  refused := kept.refused
  orderly client server lives := by
    have both : ∀ e, ready' (w.owner e) = ready (w.owner e) ∧
        addressed' (w.owner e) = addressed (w.owner e) := by
      intro e
      cases e with
      | client => exact same .client client
      | server => exact same .server server
    rcases kept.orderly client server lives with unanswered | flow
    · refine .inl ⟨(both .client).1.trans unanswered.client, (both .server).1.trans unanswered.server,
        unanswered.toClient, unanswered.toServer.imp id ?_⟩
      rintro ⟨empty, addressed⟩
      exact ⟨empty, (both .server).2.trans addressed⟩
    · refine .inr fun e => ?_
      rw [(both e).1, (both e).2]
      exact flow e
  gated e current := by
    rw [(same e current).2]
    exact kept.gated e current

/-- Nobody talks on an end any more. -/
theorem Kept.setStatus {s : Status} (kept : Kept ready addressed w) (quiet : s ≠ .current)
    (client : e = .client → s = .dropped ∨ s = .ended)
    (opening : e = .server → s = .unborn ∨ s = .incoming → w.status .server = .unborn)
    (refused : e = .server → s = .rejected → .id ∉ w.queue .server) :
    Kept ready addressed (w.setStatus e s) := by
  cases e with
  | client =>
      have self : (w.setStatus .client s).status .client = s := Wire.setStatus_status_self ..
      have server : (w.setStatus .client s).status .server = w.status .server :=
        Wire.setStatus_status_other w .client s
      refine ⟨.inr (self ▸ client rfl), ?_, server ▸ kept.refused, ?_, ?_⟩
      · intro start
        rw [server] at start
        obtain ⟨toClient, toServer, _⟩ := kept.opening start
        exact ⟨toClient, toServer, fun current => absurd (self ▸ current) quiet⟩
      · intro current
        exact absurd (self ▸ current) quiet
      · intro side current
        rw [Wire.owner_setStatus]
        cases side with
        | client => exact absurd (self ▸ current) quiet
        | server => exact kept.gated .server (server ▸ current)
  | server =>
      have self : (w.setStatus .server s).status .server = s := Wire.setStatus_status_self ..
      have client : (w.setStatus .server s).status .client = w.status .client :=
        Wire.setStatus_status_other w .server s
      refine ⟨client ▸ kept.client, ?_, fun isRefused => refused rfl (self ▸ isRefused), ?_, ?_⟩
      · intro start
        rw [client]
        exact kept.opening (.inl (opening rfl (self ▸ start)))
      · intro _ current
        exact absurd (self ▸ current) quiet
      · intro side current
        rw [Wire.owner_setStatus]
        cases side with
        | client => exact kept.gated .client (client ▸ current)
        | server => exact absurd (self ▸ current) quiet

namespace Sound

variable {a a' : State Text} {c : ConnId} {p : Bool}

theorem voice_of_current (sound : Sound a) (known : c < a.wire.next)
    (current : (a.wire c).status e = .current) :
    a.voice ((a.wire c).owner e) = some (c, e) :=
  (sound.current c known e).mp current

theorem status_of_voice (sound : Sound a) (talks : a.voice p = some (c, e)) :
    (a.wire c).status e = .current := by
  obtain ⟨known, owner⟩ := sound.voice p c e talks
  rw [sound.current c known e, owner]
  exact talks

/-- Everybody keeps their connection and at most `c` and those who talk on it change. -/
theorem change (sound : Sound a) (c : ConnId) (voice : ∀ q, a'.voice q = a.voice q)
    (next : a'.wire.next = a.wire.next) (others : ∀ d, d ≠ c → a'.wire d = a.wire d)
    (client : (a'.wire c).client = (a.wire c).client)
    (status : ∀ e, (a'.wire c).status e = .current ↔ (a.wire c).status e = .current)
    (away : ∀ q, (∀ e, a.voice q ≠ some (c, e)) →
      a'.ready q = a.ready q ∧ a'.addressed q = a.addressed q)
    (addressed : ∀ q, a'.ready q = true → a'.addressed q = true)
    (kept : c < a.wire.next → Kept a'.ready a'.addressed (a'.wire c)) : Sound a' := by
  have owner : ∀ d e, (a'.wire d).owner e = (a.wire d).owner e := by
    intro d e
    by_cases same : d = c
    · subst same
      cases e <;> simp only [Wire.owner, client]
    · rw [others d same]
  constructor
  · intro q d e talks
    rw [voice] at talks
    rw [next, owner]
    exact sound.voice q d e talks
  · intro d known e
    rw [next] at known
    rw [voice, owner, ← sound.current d known e]
    by_cases same : d = c
    · rw [same]
      exact status e
    · rw [others d same]
  · intro q silent
    rw [voice] at silent
    rw [(away q fun e talks => by rw [silent] at talks; cases talks).1]
    exact sound.idle q silent
  · exact addressed
  · intro d known
    rw [next] at known
    by_cases same : d = c
    · subst same
      exact kept known
    · rw [others d same]
      refine (sound.wire d known).frame ?_
      intro e current
      refine away _ ?_
      intro e' talks
      have talks' := sound.voice_of_current known current
      rw [talks] at talks'
      exact same (Prod.mk.inj (Option.some.inj talks')).1.symm

/-- The owner `p` of an end reads a line there and answers on the same connection. -/
theorem answered (sound : Sound a) {first : Message Text} {rest : List (Message Text)}
    (known : c < a.wire.next) (current : (a.wire c).status e = .current)
    (head : (a.wire c).queue e = first :: rest) (noId : .id ∉ lines)
    (owner : (a.wire c).owner e = p) (wire : a'.wire = (a.answer c e lines).wire)
    (voice : ∀ q, a'.voice q = a.voice q)
    (away : ∀ q, q ≠ p → a'.ready q = a.ready q ∧ a'.addressed q = a.addressed q)
    (addressed : a'.ready p = true → a'.addressed p = true)
    (gate : a'.addressed p = true ∨ Gated rest)
    (orderly : (a.wire c).status e.other = .current → (a.wire c).lost = false →
      Orderly a'.ready a'.addressed (((a.wire c).pop e).push e.other lines)) : Sound a' := by
  have kept := sound.wire c known
  have self : a'.wire c = ((a.wire c).pop e).push e.other lines := by
    rw [wire]
    exact a.setWire_self c _
  have status : (a'.wire c).status = (a.wire c).status := by
    rw [self, Wire.push_status]
    rfl
  have lost : (a'.wire c).lost = (a.wire c).lost := by
    rw [self, Wire.push_lost]
    rfl
  have owners : (a'.wire c).owner = (a.wire c).owner := by
    rw [self, Wire.owner_push, Wire.owner_pop]
  have popped : (a'.wire c).queue e = rest := by
    rw [self, Wire.push_queue_back, Wire.pop_queue_self, head]
    rfl
  have pushed : (a'.wire c).queue e.other = (a.wire c).queue e.other ∨
      ((a.wire c).lost = false ∧
        (a'.wire c).queue e.other = (a.wire c).queue e.other ++ lines) := by
    rw [self]
    cases isLost : (a.wire c).lost with
    | true =>
        have isLost' : ((a.wire c).pop e).lost = true := isLost
        rw [Wire.push_of_lost isLost', Wire.pop_queue_other]
        exact .inl rfl
    | false =>
        have lives : ((a.wire c).pop e).lost = false := isLost
        rw [Wire.push_queue_self lives, Wire.pop_queue_other]
        exact .inr ⟨rfl, rfl⟩
  have apart : (a.wire c).owner e.other ≠ p := by
    rw [← owner]
    cases e <;> simp [Wire.owner, End.other]
  refine sound.change c voice (by rw [wire]; rfl) ?_ (by rw [self, Wire.push_client]; rfl) ?_ ?_ ?_ ?_
  · intro d other
    rw [wire]
    exact a.setWire_of_ne _ other
  · intro side
    rw [status]
  · intro q notHere
    refine away q ?_
    rintro rfl
    exact notHere e (owner ▸ sound.voice_of_current known current)
  · intro q isReady
    by_cases same : q = p
    · rw [same] at isReady ⊢
      exact addressed isReady
    · rw [(away q same).1] at isReady
      rw [(away q same).2]
      exact sound.addressed q isReady
  · intro _
    have onlyClient : (a.wire c).status .server ≠ .current → e = .client := by
      intro notCurrent
      cases e with
      | client => rfl
      | server => exact absurd current notCurrent
    constructor
    · rw [status]
      exact kept.client
    · intro start
      rw [status] at start
      have notCurrent : (a.wire c).status .server ≠ .current := by
        intro started
        rcases start with start | start <;> rw [start] at started <;> cases started
      obtain rfl := onlyClient notCurrent
      rw [(kept.opening start).1] at head
      cases head
    · intro refused
      rw [status] at refused
      have notCurrent : (a.wire c).status .server ≠ .current := by
        intro started
        rw [refused] at started
        cases started
      obtain rfl := onlyClient notCurrent
      rcases pushed with same | ⟨_, more⟩
      · rw [show End.server = End.client.other from rfl, same]
        exact kept.refused refused
      · rw [show End.server = End.client.other from rfl, more, List.mem_append]
        rintro (before | added)
        · exact kept.refused refused before
        · exact noId added
    · intro client server lives
      rw [status] at client server
      rw [lost] at lives
      rw [self]
      refine orderly ?_ lives
      cases e with
      | client => exact server
      | server => exact client
    · intro side isCurrent
      rw [status] at isCurrent
      rcases e.eq_or_eq_other side with rfl | rfl
      · rw [owners, owner, popped]
        exact gate
      · rcases pushed with same | ⟨lives, _⟩
        · rw [owners, same, (away _ apart).2]
          exact kept.gated _ isCurrent
        · rw [self]
          exact (orderly isCurrent lives).gated _

/-- Both ends of a connection are current once one is and the other is. -/
theorem both (sound : Sound a) (known : c < a.wire.next) (current : (a.wire c).status e = .current)
    (other : (a.wire c).status e.other = .current) (lives : (a.wire c).lost = false) :
    Orderly a.ready a.addressed (a.wire c) := by
  cases e with
  | client => exact (sound.wire c known).orderly current other lives
  | server => exact (sound.wire c known).orderly other current lives

theorem greet (sound : Sound a) {rest : List (Message Text)} (known : c < a.wire.next)
    (current : (a.wire c).status e = .current) (head : (a.wire c).queue e = .id :: rest) :
    Sound (a.answer c e [.connected]) := by
  have gate : a.addressed ((a.wire c).owner e) = true ∨ Gated rest :=
    ((sound.wire c known).gated e current).imp id fun gated => (head ▸ gated).tail nofun
  refine sound.answered known current head (by simp) rfl rfl (fun _ => rfl) (fun _ _ => ⟨rfl, rfl⟩)
    (sound.addressed _) gate ?_
  intro other lives
  change Orderly a.ready a.addressed _
  have lives' : ((a.wire c).pop e).lost = false := lives
  rcases sound.both known current other lives with unanswered | flow
  · rcases unanswered.head head with ⟨rfl, _, rfl⟩ | ⟨_, same, _⟩
    · refine .inr fun side => ?_
      rw [Wire.owner_push, Wire.owner_pop]
      cases side with
      | client =>
          have here : (((a.wire c).pop .client).push End.client.other [.connected]).queue .client =
              [.you, .connected] := by
            rw [Wire.push_queue_back, Wire.pop_queue_self, unanswered.toClient]
            rfl
          have unready : a.ready ((a.wire c).owner .client) = false := unanswered.client
          rw [here, unready]
          exact .greeted _ []
      | server =>
          have unready : a.ready ((a.wire c).owner .server) = false := unanswered.server
          have there : (((a.wire c).pop .client).push .server [.connected]).queue .server =
              (a.wire c).queue .server ++ [.connected] := by
            rw [Wire.push_queue_self lives']
            exact congrArg (· ++ _) ((a.wire c).pop_queue_other .client)
          rw [show End.client.other = End.server from rfl, there, unready]
          rcases unanswered.toServer with queue | ⟨queue, addressed⟩
          · rw [queue]
            exact .greeted _ []
          · have isAddressed : a.addressed ((a.wire c).owner .server) = true := addressed
            rw [queue, isAddressed]
            exact .addressed []
    · cases same
  · have here := flow e
    rw [head] at here
    rcases here.cons with ⟨same, _⟩ | ⟨same, _⟩ | ⟨⟨_, same⟩, _⟩ <;> cases same

theorem address (sound : Sound a) {rest : List (Message Text)} (known : c < a.wire.next)
    (current : (a.wire c).status e = .current) (head : (a.wire c).queue e = .you :: rest) :
    Sound ((a.answer c e []).setAddressed ((a.wire c).owner e)) := by
  have self : ((a.answer c e []).setAddressed ((a.wire c).owner e)).addressed
      ((a.wire c).owner e) = true := Function.update_self ..
  have others : ∀ q, q ≠ (a.wire c).owner e →
      ((a.answer c e []).setAddressed ((a.wire c).owner e)).addressed q = a.addressed q :=
    fun q other => Function.update_of_ne other ..
  refine sound.answered known current head (by simp) rfl rfl (fun _ => rfl)
    (fun q other => ⟨rfl, others q other⟩) (fun _ => self) (.inl self) ?_
  intro other lives
  change Orderly a.ready _ _
  have apart : (a.wire c).owner e.other ≠ (a.wire c).owner e := by
    cases e <;> simp [Wire.owner, End.other]
  rcases sound.both known current other lives with unanswered | flow
  · rcases unanswered.head head with ⟨_, same, _⟩ | ⟨rfl, _, empty⟩
    · cases same
    · have lives' : ((a.wire c).pop .server).lost = false := lives
      refine .inl ⟨?_, ?_, ?_, .inr ⟨?_, ?_⟩⟩
      · rw [Wire.push_client]
        exact unanswered.client
      · rw [Wire.push_client]
        exact unanswered.server
      · have there : (((a.wire c).pop .server).push .client []).queue .client =
            ((a.wire c).pop .server).queue .client ++ [] := Wire.push_queue_self lives'
        rw [List.append_nil] at there
        exact there.trans (((a.wire c).pop_queue_other .server).trans unanswered.toClient)
      · rw [Wire.push_queue_back, Wire.pop_queue_self, head]
        exact empty
      · rw [Wire.push_client]
        exact self
  · have here := flow e
    rw [head] at here
    rcases here.cons with ⟨_, unready, talks, rfl⟩ | ⟨same, _⟩ | ⟨⟨_, same⟩, _⟩
    · refine orderly_answer [] lives (by rw [head, List.tail_cons]) ?_ ?_
      · rw [self, unready]
        exact .addressed talks
      · rw [others _ apart]
        exact flow e.other
    · cases same
    · cases same

theorem becomesReady (sound : Sound a) {rest : List (Message Text)} (talks : List Text)
    (known : c < a.wire.next) (current : (a.wire c).status e = .current)
    (head : (a.wire c).queue e = .connected :: rest) :
    Sound ((a.answer c e (talk talks)).changeEntry ((a.wire c).owner e)
      fun entry => { entry with ready := true }) := by
  generalize isOwner : (a.wire c).owner e = p
  have addressed : a.addressed p = true := by
    rcases (sound.wire c known).gated e current with addressed | gated
    · exact isOwner ▸ addressed
    · rw [head] at gated
      exact gated.not_connected.elim
  obtain ⟨entry, met, _, _⟩ := State.entry_of_voice (sound.voice_of_current known current)
  have self : ((a.answer c e (talk talks)).changeEntry p
      fun entry => { entry with ready := true }).ready p = true := by
    have met' : (a.answer c e (talk talks)).entry p = some entry := isOwner ▸ met
    unfold State.ready
    rw [State.changeEntry_self, met']
    rfl
  have others : ∀ q, q ≠ p → ((a.answer c e (talk talks)).changeEntry p
      fun entry => { entry with ready := true }).ready q = a.ready q :=
    fun q other => State.ready_congr (State.changeEntry_of_ne _ _ other)
  refine sound.answered known current head (id_not_mem_talk talks) isOwner rfl
    (fun q => State.voice_changeEntry _ p q (fun _ => rfl) fun _ => rfl)
    (fun q other => ⟨others q other, rfl⟩) (fun _ => addressed) (.inl addressed) ?_
  intro other lives
  have apart : (a.wire c).owner e.other ≠ p := by
    rw [← isOwner]
    cases e <;> simp [Wire.owner, End.other]
  rcases sound.both known current other lives with unanswered | flow
  · rcases unanswered.head head with ⟨_, same, _⟩ | ⟨_, same, _⟩ <;> cases same
  · have here := flow e
    rw [head] at here
    rcases here.cons with ⟨same, _⟩ | ⟨_, _, _, before, rfl⟩ | ⟨⟨_, same⟩, _⟩
    · cases same
    · refine orderly_answer talks lives (by rw [head, List.tail_cons]) ?_ ?_
      · rw [isOwner, self]
        exact (congrArg (Flow true · _) addressed).mpr (.ready before)
      · rw [others _ apart]
        exact flow e.other
    · cases same

theorem hears (sound : Sound a) {text : Text} {rest : List (Message Text)} (talks : List Text)
    (known : c < a.wire.next) (current : (a.wire c).status e = .current)
    (head : (a.wire c).queue e = .talk text :: rest) :
    Sound (a.answer c e (talk talks)) := by
  have gate : a.addressed ((a.wire c).owner e) = true ∨ Gated rest :=
    ((sound.wire c known).gated e current).imp id fun gated => (head ▸ gated).tail nofun
  refine sound.answered known current head (id_not_mem_talk talks) rfl rfl (fun _ => rfl)
    (fun _ _ => ⟨rfl, rfl⟩) (sound.addressed _) gate ?_
  intro other lives
  change Orderly a.ready a.addressed _
  rcases sound.both known current other lives with unanswered | flow
  · rcases unanswered.head head with ⟨_, same, _⟩ | ⟨_, same, _⟩ <;> cases same
  · have here := flow e
    rw [head] at here
    rcases here.cons with ⟨same, _⟩ | ⟨same, _⟩ | ⟨_, ready, addressed, before, rfl⟩
    · cases same
    · cases same
    · refine orderly_answer talks lives (by rw [head, List.tail_cons]) ?_ (flow e.other)
      rw [ready, addressed]
      exact .ready before

/-- A process that is ready may talk at any time. -/
theorem say (sound : Sound a) (talks : List Text) (entitled : talks = [] ∨ a.ready p = true) :
    Sound (a.say p (talk talks)) := by
  unfold State.say
  cases voice : a.voice p with
  | none => exact sound
  | some talker =>
      obtain ⟨c, e⟩ := talker
      obtain ⟨known, owner⟩ := sound.voice p c e voice
      have current := sound.status_of_voice voice
      have kept := sound.wire c known
      dsimp only
      have self := a.setWire_self c (·.push e.other (talk talks))
      refine sound.change c (fun _ => rfl) rfl (fun d other => a.setWire_of_ne _ other) ?_ ?_
        (fun _ _ => ⟨rfl, rfl⟩) sound.addressed ?_
      · rw [self, Wire.push_client]
      · intro side
        rw [self, Wire.push_status]
      · intro _
        change Kept a.ready a.addressed _
        rw [self]
        cases lost : (a.wire c).lost with
        | true =>
            rw [Wire.push_of_lost lost]
            exact kept
        | false =>
            -- what is talked on an orderly connection keeps it so
            have orderly : (a.wire c).status e.other = .current →
                Orderly a.ready a.addressed ((a.wire c).push e.other (talk talks)) := by
              intro other
              rcases sound.both known current other lost with unanswered | flow
              · have unready : a.ready p = false := by
                  rw [← owner]
                  cases e with
                  | client => exact unanswered.client
                  | server => exact unanswered.server
                have silent : talks = [] :=
                  entitled.resolve_right fun ready => by rw [unready] at ready; cases ready
                refine .inl ⟨?_, ?_, ?_, ?_⟩
                all_goals simp only [silent, talk, List.map_nil, Wire.push, lost,
                  Bool.false_eq_true, ↓reduceIte, List.append_nil, Function.update_eq_self]
                · exact unanswered.client
                · exact unanswered.server
                · exact unanswered.toClient
                · exact unanswered.toServer
              · refine .inr fun side => ?_
                rw [Wire.owner_push]
                rcases e.eq_or_eq_other side with rfl | rfl
                · rw [Wire.push_queue_back]
                  exact flow side
                · rw [Wire.push_queue_self lost]
                  exact (flow e.other).push talks
            constructor
            · rw [Wire.push_status]
              exact kept.client
            · rw [Wire.push_status, Wire.push_client]
              intro start
              obtain ⟨toClient, toServer, unready⟩ := kept.opening start
              have isClient : e = .client := by
                cases e with
                | client => rfl
                | server =>
                    rw [current] at start
                    rcases start with start | start <;> cases start
              subst isClient
              have silent : talks = [] := by
                refine entitled.resolve_right fun ready => ?_
                have isOwner : (a.wire c).client = p := owner
                rw [← isOwner, unready current] at ready
                cases ready
              simp only [silent, talk, List.map_nil, Wire.push, lost, Bool.false_eq_true,
                ↓reduceIte, List.append_nil, Function.update_eq_self]
              exact ⟨toClient, toServer, unready⟩
            · rw [Wire.push_status]
              intro refused
              rcases e.eq_or_eq_other .server with same | same
              · rw [same, Wire.push_queue_back, ← same]
                exact kept.refused refused
              · rw [same, Wire.push_queue_self lost, ← same, List.mem_append]
                rintro (before | added)
                · exact kept.refused refused before
                · exact id_not_mem_talk talks added
            · rw [Wire.push_status]
              intro client server _
              refine orderly ?_
              cases e with
              | client => exact server
              | server => exact client
            · rw [Wire.push_status, Wire.owner_push]
              intro side isCurrent
              rcases e.eq_or_eq_other side with rfl | rfl
              · rw [Wire.push_queue_back]
                exact kept.gated side isCurrent
              · have gated := (orderly isCurrent).gated e.other
                rwa [Wire.owner_push] at gated

/-- An end that nobody talks on changes its state, or a connection is lost. -/
theorem aside (sound : Sound a) {change : Wire Text → Wire Text}
    (client : (change (a.wire c)).client = (a.wire c).client)
    (status : ∀ e, (change (a.wire c)).status e = .current ↔ (a.wire c).status e = .current)
    (kept : c < a.wire.next → Kept a.ready a.addressed (change (a.wire c))) :
    Sound (a.setWire c change) := by
  have self := a.setWire_self c change
  refine sound.change c (fun _ => rfl) rfl (fun d other => a.setWire_of_ne _ other) (self ▸ client)
    (fun e => self ▸ status e) (fun _ _ => ⟨rfl, rfl⟩) sound.addressed ?_
  intro known
  rw [self]
  exact kept known

/-- An end on which nobody talks gets another status. -/
theorem setStatus (sound : Sound a) {s : Status} (before : (a.wire c).status e ≠ .current)
    (quiet : s ≠ .current) (client : e = .client → s = .dropped ∨ s = .ended)
    (opening : e = .server → s = .unborn ∨ s = .incoming → (a.wire c).status .server = .unborn)
    (refused : e = .server → s = .rejected → .id ∉ (a.wire c).queue .server) :
    Sound (a.setWire c (·.setStatus e s)) := by
  refine sound.aside rfl ?_ fun known => (sound.wire c known).setStatus quiet client opening refused
  intro side
  rcases e.eq_or_eq_other side with rfl | rfl
  · rw [Wire.setStatus_status_self]
    exact iff_of_false quiet before
  · rw [Wire.setStatus_status_other]

theorem reject (sound : Sound a)
    (incoming : (a.wire c).status .server = .incoming) :
    Sound (a.setWire c fun w => (w.pop .server).setStatus .server .rejected) := by
  have client : (((a.wire c).pop .server).setStatus .server .rejected).status .client =
      (a.wire c).status .client :=
    ((a.wire c).pop .server).setStatus_status_other .server .rejected
  refine sound.aside rfl ?_ ?_
  · intro e
    cases e with
    | client => rw [client]
    | server =>
        rw [Wire.setStatus_status_self, incoming]
        exact iff_of_false nofun nofun
  · intro known
    have kept := sound.wire c known
    refine ⟨client ▸ kept.client, ?_, ?_, ?_, ?_⟩
    · rw [Wire.setStatus_status_self]
      rintro (start | start) <;> cases start
    · intro _
      have queue : (((a.wire c).pop .server).setStatus .server .rejected).queue .server = [.you] := by
        refine ((a.wire c).pop_queue_self .server).trans ?_
        rw [(kept.opening (.inr incoming)).2.1]
        rfl
      rw [queue]
      simp
    · rw [Wire.setStatus_status_self]
      exact fun _ => nofun
    · intro e
      rw [Wire.owner_setStatus, Wire.owner_pop]
      cases e with
      | client =>
          have queue : (((a.wire c).pop .server).setStatus .server .rejected).queue .client =
              (a.wire c).queue .client := (a.wire c).pop_queue_other .server
          rw [client, queue]
          exact kept.gated .client
      | server =>
          rw [Wire.setStatus_status_self]
          exact nofun

theorem ignore (sound : Sound a) {first : Message Text} {rest : List (Message Text)}
    (closed : (a.wire c).status e = .rejected ∨ (a.wire c).status e = .dropped)
    (head : (a.wire c).queue e = first :: rest) : Sound (a.setWire c (·.pop e)) := by
  have notCurrent : (a.wire c).status e ≠ .current := by
    rcases closed with same | same <;> rw [same] <;> exact nofun
  refine sound.aside rfl (fun _ => Iff.rfl) ?_
  intro known
  have kept := sound.wire c known
  refine ⟨kept.client, ?_, ?_, ?_, ?_⟩
  · intro start
    have start' : (a.wire c).status .server = .unborn ∨ (a.wire c).status .server = .incoming := start
    cases e with
    | client =>
        rw [(kept.opening start').1] at head
        cases head
    | server =>
        rcases closed with same | same <;> rw [same] at start' <;>
          rcases start' with start' | start' <;> cases start'
  · intro refused
    have before := kept.refused refused
    cases e with
    | client => exact ((a.wire c).pop_queue_other .client).symm ▸ before
    | server =>
        rw [Wire.pop_queue_self]
        exact fun member => before (List.mem_of_mem_tail member)
  · intro client server
    cases e with
    | client => exact absurd client notCurrent
    | server => exact absurd server notCurrent
  · intro side current
    rcases e.eq_or_eq_other side with rfl | rfl
    · exact absurd current notCurrent
    · rw [Wire.owner_pop, Wire.pop_queue_other]
      exact kept.gated _ current

theorem lose (sound : Sound a) : Sound (a.setWire c fun w => { w with lost := true }) := by
  refine sound.aside rfl (fun _ => Iff.rfl) ?_
  intro known
  have kept := sound.wire c known
  have owner : ({ a.wire c with lost := true } : Wire Text).owner = (a.wire c).owner := by
    funext side
    cases side <;> rfl
  refine ⟨kept.client, kept.opening, kept.refused, fun _ _ => nofun, ?_⟩
  rw [owner]
  exact kept.gated

theorem dial (sound : Sound a) (unmet : a.entry p = none) :
    Sound (a.setEntry p ⟨false, false, none⟩) := by
  have voice : ∀ q, (a.setEntry p ⟨false, false, none⟩).voice q = a.voice q := by
    intro q
    by_cases same : q = p
    · subst same
      unfold State.voice
      rw [State.setEntry_self, unmet]
      rfl
    · exact State.voice_congr (a.setEntry_of_ne _ same)
  have ready : ∀ q, (a.setEntry p ⟨false, false, none⟩).ready q = a.ready q := by
    intro q
    by_cases same : q = p
    · subst same
      unfold State.ready
      rw [State.setEntry_self, unmet]
    · exact State.ready_congr (a.setEntry_of_ne _ same)
  refine sound.change a.wire.next voice rfl (fun _ _ => rfl) rfl (fun _ => Iff.rfl)
    (fun q _ => ⟨ready q, rfl⟩) ?_ (fun known => absurd known (Nat.lt_irrefl _))
  intro q isReady
  rw [ready] at isReady
  exact sound.addressed q isReady

theorem release (sound : Sound a) {s : Status} (leaves : s = .dropped ∨ s = .ended) :
    Sound (a.release p s) := by
  cases talks : a.voice p with
  | none =>
      rw [State.release_silent s talks]
      exact sound
  | some talker =>
      obtain ⟨c, e⟩ := talker
      have self := a.release_voice_self p s
      have others : ∀ q, q ≠ p → (a.release p s).voice q = a.voice q :=
        fun q other => State.voice_congr (a.release_entry_of_ne s other)
      have readySelf : (a.release p s).ready p = false := by
        obtain ⟨entry, met, _, _⟩ := State.entry_of_voice talks
        rw [State.release_talking s talks]
        change (a.changeEntry p _).ready p = false
        unfold State.ready
        rw [State.changeEntry_self, met]
        rfl
      have readyOthers : ∀ q, q ≠ p → (a.release p s).ready q = a.ready q :=
        fun q other => State.ready_congr (a.release_entry_of_ne s other)
      have wire := a.release_wire p s
      have owner : ∀ d side, ((a.release p s).wire d).owner side = (a.wire d).owner side :=
        fun d => State.owner_congr (wire d).1
      have quiet : s ≠ .current := by
        rcases leaves with rfl | rfl <;> exact nofun
      have current : ∀ d < a.wire.next, ∀ side, ((a.release p s).wire d).status side = .current ↔
          (a.release p s).voice ((a.wire d).owner side) = some (d, side) := by
        intro d known side
        rw [(wire d).2.2.2 side]
        by_cases isP : (a.wire d).owner side = p
        · rw [isP, self]
          refine iff_of_false ?_ nofun
          split
          · exact quiet
          · next notHere =>
            intro isCurrent
            exact notHere (isP ▸ sound.voice_of_current known isCurrent)
        · have notHere : a.voice p ≠ some (d, side) := fun here => isP (sound.voice p d side here).2
          rw [if_neg notHere, others _ isP]
          exact sound.current d known side
      constructor
      · intro q d side voice
        by_cases isP : q = p
        · rw [isP, self] at voice
          cases voice
        · rw [others q isP] at voice
          rw [State.release_next, owner]
          exact sound.voice q d side voice
      · intro d known side
        rw [State.release_next] at known
        rw [owner]
        exact current d known side
      · intro q silent
        by_cases isP : q = p
        · exact isP ▸ readySelf
        · rw [others q isP] at silent
          exact (readyOthers q isP).trans (sound.idle q silent)
      · intro q ready
        rw [State.release_addressed]
        by_cases isP : q = p
        · rw [isP, readySelf] at ready
          cases ready
        · exact sound.addressed q (readyOthers q isP ▸ ready)
      · intro d known
        rw [State.release_next] at known
        have kept : Kept a.ready a.addressed ((a.release p s).wire d) := by
          rw [State.release_talking s talks]
          by_cases same : d = c
          · subst same
            rw [State.setWire_self]
            refine (sound.wire d known).setStatus quiet (fun _ => leaves) ?_ ?_
            · intro _ start
              rcases leaves with rfl | rfl <;> rcases start with start | start <;> cases start
            · intro _ refused
              rcases leaves with rfl | rfl <;> cases refused
          · rw [State.setWire_of_ne _ _ same]
            exact sound.wire d known
        refine kept.frame ?_
        intro side isCurrent
        rw [State.release_addressed]
        have notP : ((a.release p s).wire d).owner side ≠ p := by
          intro isP
          have here := (current d known side).mp isCurrent
          rw [← owner, isP, self] at here
          cases here
        exact ⟨readyOthers _ notP, rfl⟩

/-- A process without a connection gets one: `c` at end `e`. -/
theorem gains (sound : Sound a) (silent : a.voice p = none) (known : c < a'.wire.next)
    (next : a.wire.next ≤ a'.wire.next) (voice : a'.voice p = some (c, e))
    (unready : a'.ready p = false) (entries : ∀ q, q ≠ p → a'.entry q = a.entry q)
    (addressed : a'.addressed = a.addressed)
    (others : ∀ d < a'.wire.next, d ≠ c → d < a.wire.next ∧ a'.wire d = a.wire d)
    (owner : (a'.wire c).owner e = p) (current : (a'.wire c).status e = .current)
    (apart : a.voice (!p) ≠ some (c, e))
    (other : (a'.wire c).status e.other = .current ↔ a.voice (!p) = some (c, e.other))
    (kept : Kept a.ready a.addressed (a'.wire c)) : Sound a' := by
  have voices : ∀ q, q ≠ p → a'.voice q = a.voice q :=
    fun q different => State.voice_congr (entries q different)
  have ready : a'.ready = a.ready := by
    funext q
    by_cases same : q = p
    · rw [same, unready, sound.idle p silent]
    · exact State.ready_congr (entries q same)
  have notP : (!p) ≠ p := by
    cases p <;> decide
  have isOther : ∀ q, q ≠ p → q = !p := by
    intro q different
    cases p <;> cases q <;> first | rfl | exact absurd rfl different
  have ownerOther : (a'.wire c).owner e.other = !p := by
    rw [← owner]
    cases e <;> simp [Wire.owner, End.other]
  constructor
  · intro q d side talks
    by_cases isP : q = p
    · rw [isP, voice] at talks
      obtain ⟨rfl, rfl⟩ := Prod.mk.inj (Option.some.inj talks)
      exact ⟨known, isP ▸ owner⟩
    · obtain rfl := isOther q isP
      rw [voices _ isP] at talks
      by_cases here : d = c
      · subst here
        rcases e.eq_or_eq_other side with rfl | rfl
        · exact absurd talks apart
        · exact ⟨known, ownerOther⟩
      · obtain ⟨before, isOwner⟩ := sound.voice _ d side talks
        have inside := Nat.lt_of_lt_of_le before next
        rw [(others d inside here).2]
        exact ⟨inside, isOwner⟩
  · intro d inside side
    by_cases here : d = c
    · subst here
      rcases e.eq_or_eq_other side with rfl | rfl
      · rw [owner, voice]
        exact iff_of_true current rfl
      · rw [ownerOther, voices _ notP]
        exact other
    · obtain ⟨before, same⟩ := others d inside here
      rw [same]
      by_cases isP : (a.wire d).owner side = p
      · have notCurrent := (sound.current d before side).not
        rw [isP, silent] at notCurrent
        rw [isP, voice]
        refine iff_of_false (notCurrent.mpr (Option.some_ne_none _).symm) ?_
        intro same
        exact here (Prod.mk.inj (Option.some.inj same)).1.symm
      · rw [voices _ isP]
        exact sound.current d before side
  · intro q quiet
    by_cases isP : q = p
    · rw [isP, voice] at quiet
      cases quiet
    · rw [voices q isP] at quiet
      rw [ready]
      exact sound.idle q quiet
  · rw [ready, addressed]
    exact sound.addressed
  · intro d inside
    rw [ready, addressed]
    by_cases here : d = c
    · exact here ▸ kept
    · obtain ⟨before, same⟩ := others d inside here
      rw [same]
      exact sound.wire d before

theorem connect (sound : Sound a) {ready : Bool} (dialling : a.entry p = some ⟨false, ready, none⟩) :
    Sound (a.connect p) := by
  have silent : a.voice p = none := by
    unfold State.voice
    rw [dialling]
    rfl
  have entry : (a.connect p).entry p = some ⟨false, false, some a.wire.next⟩ :=
    Function.update_self ..
  have wire : (a.connect p).wire a.wire.next = .dialled p := Heap.alloc_self ..
  have nobody : ∀ q side, a.voice q ≠ some (a.wire.next, side) :=
    fun q side talks => absurd (sound.voice q _ side talks).1 (Nat.lt_irrefl _)
  refine sound.gains silent (Nat.lt_succ_self a.wire.next) (Nat.le_succ _)
    (by simp only [State.voice, entry]; rfl) (by simp only [State.ready, entry])
    (fun q other => Function.update_of_ne other ..) rfl ?_ (by rw [wire]; rfl) (by rw [wire]; rfl)
    (nobody _ .client) ?_ ?_
  · intro d inside other
    have before : d < a.wire.next := Nat.lt_of_le_of_ne (Nat.le_of_lt_succ inside) other
    exact ⟨before, Heap.alloc_of_lt _ _ before⟩
  · rw [wire]
    exact iff_of_false nofun (nobody _ .server)
  · rw [wire]
    refine ⟨.inl rfl, fun _ => ⟨rfl, rfl, fun _ => sound.idle p silent⟩, nofun, fun _ => nofun, ?_⟩
    intro e current
    cases e with
    | client => exact .inr (gated_of_not_mem List.not_mem_nil)
    | server => cases current

theorem attach (sound : Sound a) (known : c < a.wire.next)
    (silent : a.voice (!(a.wire c).client) = none)
    (incoming : (a.wire c).status .server = .incoming) :
    Sound (a.attach (!(a.wire c).client) c) := by
  generalize isServer : (!(a.wire c).client) = p at silent
  have kept := sound.wire c known
  obtain ⟨toClient, toServer, unready⟩ := kept.opening (.inr incoming)
  have owner : (a.wire c).owner .server = p := isServer
  have entry : (a.attach p c).entry p = some ⟨true, false, some c⟩ := Function.update_self ..
  have wire : (a.attach p c).wire c =
      (((a.wire c).pop .server).setStatus .server .current).push .client [.id, .you, .connected] :=
    (a.setEntry p ⟨true, false, some c⟩).setWire_self c _
  have client : ((a.attach p c).wire c).client = (a.wire c).client := by
    rw [wire, Wire.push_client]
    rfl
  have status : ((a.attach p c).wire c).status .server = .current ∧
      ((a.attach p c).wire c).status .client = (a.wire c).status .client := by
    rw [wire, Wire.push_status]
    exact ⟨Wire.setStatus_status_self .., Wire.setStatus_status_other _ .server .current⟩
  have serverQueue : ((a.attach p c).wire c).queue .server = [.you] := by
    rw [wire]
    refine (Wire.push_queue_back _ .server _).trans ?_
    refine ((a.wire c).pop_queue_self .server).trans ?_
    rw [toServer]
    rfl
  have clientQueue : ((a.attach p c).wire c).queue .client =
      if (a.wire c).lost then [] else [.id, .you, .connected] := by
    have before : (((a.wire c).pop .server).setStatus .server .current).queue .client = [] :=
      ((a.wire c).pop_queue_other .server).trans toClient
    have sameLost : (((a.wire c).pop .server).setStatus .server .current).lost = (a.wire c).lost := rfl
    rw [wire]
    cases isLost : (a.wire c).lost with
    | true =>
        rw [Wire.push_of_lost (sameLost.trans isLost)]
        exact before
    | false =>
        rw [Wire.push_queue_self (sameLost.trans isLost), before]
        rfl
  have lost : ((a.attach p c).wire c).lost = (a.wire c).lost := by
    rw [wire, Wire.push_lost]
    rfl
  have notTwice : a.voice (!p) ≠ some (c, .server) := by
    intro talks
    have isOwner := (sound.voice _ c _ talks).2
    rw [owner] at isOwner
    cases p <;> cases isOwner
  refine sound.gains silent known (Nat.le_refl _) (by simp only [State.voice, entry]; rfl)
    (by simp only [State.ready, entry]) (fun q other => Function.update_of_ne other ..) rfl ?_
    ((State.owner_congr client .server).trans owner) status.1 notTwice ?_ ?_
  · intro d inside other
    exact ⟨inside, State.setWire_of_ne _ _ other⟩
  · have ownerClient : (a.wire c).owner .client = !p := by
      rw [← isServer, Bool.not_not]
      rfl
    rw [show End.server.other = End.client from rfl, status.2, ← ownerClient]
    exact sound.current c known .client
  · refine ⟨status.2 ▸ kept.client, ?_, ?_, ?_, ?_⟩
    · rw [status.1]
      rintro (start | start) <;> cases start
    · rw [status.1]
      exact nofun
    · rw [status.2, lost]
      intro current _ lives
      refine .inl ⟨?_, ?_, ?_, .inl serverQueue⟩
      · rw [client]
        exact unready current
      · rw [client, isServer]
        exact sound.idle p silent
      · rw [clientQueue, lives]
        rfl
    · intro e _
      cases e with
      | client =>
          refine .inr ?_
          rw [clientQueue]
          split
          · exact gated_of_not_mem List.not_mem_nil
          · exact gated_cons_id gated_cons_you
      | server =>
          rw [serverQueue]
          exact .inr gated_cons_you

end Sound

/-- Every step of the handshake keeps the invariant. -/
theorem Step.sound {yields : Bool → Bool} {a a' : State Text} (step : Step yields a a')
    (sound : Sound a) : Sound a' := by
  cases step with
  | dial p unmet => exact sound.dial unmet
  | connect p ready dialling => exact sound.connect dialling
  | accept c known unborn =>
      refine sound.setStatus ?_ nofun nofun (fun _ _ => unborn) nofun
      rw [unborn]
      exact nofun
  | greet c e known current rest head => exact sound.greet known current head
  | address c e known current rest head => exact sound.address known current head
  | ready c e talks known current rest head => exact sound.becomesReady talks known current head
  | hear c e text talks known current rest head entitled => exact sound.hears talks known current head
  | adopt c known incoming rest head allowed =>
      have released : Sound (a.release (!(a.wire c).client) .dropped) := sound.release (.inl rfl)
      have wire := a.release_wire (!(a.wire c).client) .dropped c
      have silent := a.release_voice_self (!(a.wire c).client) .dropped
      have stillIncoming :
          ((a.release (!(a.wire c).client) .dropped).wire c).status .server = .incoming := by
        rw [wire.2.2.2 .server, if_neg, incoming]
        intro talks
        have current := sound.status_of_voice talks
        rw [incoming] at current
        cases current
      have attached := released.attach (c := c) (by rw [State.release_next]; exact known)
        (by rw [wire.1]; exact silent) stillIncoming
      rwa [wire.1] at attached
  | reject c known incoming rest head e met keeps dialled => exact sound.reject incoming
  | ignore c e known closed first rest head => exact sound.ignore closed head
  | hangUp c e known current why => exact sound.release (.inr rfl)
  | leave c e known reads why =>
      refine sound.setStatus ?_ nofun (fun _ => .inr rfl) ?_ nofun
      · rcases reads with same | same | same <;> rw [same] <;> exact nofun
      · rintro _ (start | start) <;> cases start
  | lose c known => exact sound.lose
  | talk p talks entitled => exact sound.say talks entitled

end Handshake

end LibPubSub
