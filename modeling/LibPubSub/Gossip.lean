import LibPubSub.Tiebreak

/-! Any number of processes that greet each other and pass on which hosts they know. A
process has an entry for another one and the connections between them as in the
handshake of two, and it tells all that are ready about all that are ready. There are
no sockets and no addresses. -/

set_option autoImplicit false

namespace LibPubSub

namespace Gossip

open Handshake (Message Status Entry talk)

/-- A connection, and how the handshake of its two ends sees it. Talk of `some r` tells
about process `r`; `none` is any other statement. -/
structure Wire (ι : Type) where
  client : ι
  server : ι
  line : Handshake.Wire (Option ι)

structure State (ι : Type) where
  addressed : ι → Bool
  entry : ι → ι → Option Entry
  wire : Heap (Wire ι)

variable {ι : Type}

def Wire.owner (w : Wire ι) : End → ι
  | .client => w.client
  | .server => w.server

namespace State

def ready (a : State ι) (x y : ι) : Bool :=
  match a.entry x y with
  | some e => e.ready
  | none => false

/-- The connection and the end that `x` talks to `y` on. -/
def voice (a : State ι) (x y : ι) : Option (ConnId × End) :=
  match a.entry x y with
  | some e => e.conn.map (·, e.side)
  | none => none

variable [DecidableEq ι]

def setEntry (a : State ι) (x y : ι) (e : Entry) : State ι :=
  { a with entry := Function.update a.entry x (Function.update (a.entry x) y (some e)) }

def changeEntry (a : State ι) (x y : ι) (change : Entry → Entry) : State ι :=
  { a with
    entry := Function.update a.entry x (Function.update (a.entry x) y ((a.entry x y).map change)) }

def setAddressed (a : State ι) (x : ι) : State ι :=
  { a with addressed := Function.update a.addressed x true }

omit [DecidableEq ι] in
def setLine (a : State ι) (c : ConnId)
    (change : Handshake.Wire (Option ι) → Handshake.Wire (Option ι)) : State ι :=
  { a with wire := a.wire.modify c fun w => { w with line := change w.line } }

omit [DecidableEq ι] in
/-- The first line for end `e` of `c` has been received and answered by `lines`. -/
def answer (a : State ι) (c : ConnId) (e : End) (lines : List (Message (Option ι))) : State ι :=
  a.setLine c fun w => (w.pop e).push e.other lines

/-- What connection `c` looks like when `x` has said `talks y` to everybody it has a
connection with. -/
def said (a : State ι) (x : ι) (talks : ι → List (Option ι)) (c : ConnId) (w : Wire ι) :
    Handshake.Wire (Option ι) :=
  if a.voice x w.server = some (c, .client) then w.line.push .server (talk (talks w.server))
  else if a.voice x w.client = some (c, .server) then w.line.push .client (talk (talks w.client))
  else w.line

def say (a : State ι) (x : ι) (talks : ι → List (Option ι)) : State ι :=
  { a with
    wire := ⟨fun c => { a.wire c with line := a.said x talks c (a.wire c) }, a.wire.next⟩ }

/-- A new connection of `x` to `y`, which it greets on. -/
def connect (a : State ι) (x y : ι) : State ι :=
  { a.setEntry x y ⟨false, false, some a.wire.next⟩ with
    wire := a.wire.alloc ⟨x, y, .dialled false⟩ }

/-- The entry of `x` for `y` leaves its connection, whose end is `s` from now on. -/
def release (a : State ι) (x y : ι) (s : Status) : State ι :=
  match a.voice x y with
  | some (c, e) =>
      (a.changeEntry x y fun entry => { entry with ready := false, conn := none }).setLine c
        (·.setStatus e s)
  | none => a

/-- The entry of `x` for `y` takes the accepted connection `c` and greets on it. A
process that takes itself to be ready already does not say `CONNECTED`. -/
def attach (a : State ι) (x y : ι) (c : ConnId) (ready : Bool) : State ι :=
  (a.setEntry x y ⟨true, ready, some c⟩).setLine c fun w =>
    ((w.pop .server).setStatus .server .current).push .client
      (.id :: .you :: if ready then [] else [.connected])

/-- `x` gets to know `y` and dials it, if it does not know it yet. -/
def meet (a : State ι) (x y : ι) : State ι :=
  if x ≠ y ∧ a.entry x y = none then a.setEntry x y ⟨false, false, none⟩ else a

/-- `x` hears from `y`, to which it listens only when it is ready. -/
def hear (a : State ι) (x y : ι) (text : Option ι) : State ι :=
  match text with
  | some r => if a.ready x y then a.meet x r else a
  | none => a

end State

section

variable [DecidableEq ι]

/-- One step of any process. `yields x y` says that `x` gives way to `y`. In a `strict`
system nobody moves an entry that is ready to another connection, and only those
who are ready are talked to. -/
inductive Step (strict : Prop) (yields : ι → ι → Bool) (a : State ι) : State ι → Prop where
  | meet (x y : ι) : Step strict yields a (a.meet x y)
  | connect (x y : ι) (apart : x ≠ y) (dialling : a.entry x y = some ⟨false, false, none⟩) :
      Step strict yields a (a.connect x y)
  | accept (c : ConnId) (known : c < a.wire.next)
      (unborn : (a.wire c).line.status .server = .unborn) :
      Step strict yields a (a.setLine c (·.setStatus .server .incoming))
  | greet (c : ConnId) (e : End) (known : c < a.wire.next)
      (current : (a.wire c).line.status e = .current) (rest : List (Message (Option ι)))
      (first : (a.wire c).line.queue e = .id :: rest) :
      Step strict yields a (a.answer c e [.connected])
  | address (c : ConnId) (e : End) (known : c < a.wire.next)
      (current : (a.wire c).line.status e = .current) (rest : List (Message (Option ι)))
      (first : (a.wire c).line.queue e = .you :: rest) :
      Step strict yields a ((a.answer c e []).setAddressed ((a.wire c).owner e))
  | ready (c : ConnId) (e : End) (talks : ι → List (Option ι)) (known : c < a.wire.next)
      (current : (a.wire c).line.status e = .current) (rest : List (Message (Option ι)))
      (first : (a.wire c).line.queue e = .connected :: rest) (a' : State ι)
      (after : a' = (a.answer c e []).changeEntry ((a.wire c).owner e) ((a.wire c).owner e.other)
        fun entry => { entry with ready := true })
      (tells : ∀ y z, a'.ready ((a.wire c).owner e) y = true →
        a'.ready ((a.wire c).owner e) z = true → some z ∈ talks y)
      (entitled : strict → ∀ y, talks y = [] ∨ a'.ready ((a.wire c).owner e) y = true) :
      Step strict yields a (a'.say ((a.wire c).owner e) talks)
  | hear (c : ConnId) (e : End) (text : Option ι) (known : c < a.wire.next)
      (current : (a.wire c).line.status e = .current) (rest : List (Message (Option ι)))
      (first : (a.wire c).line.queue e = .talk text :: rest) :
      Step strict yields a
        ((a.answer c e []).hear ((a.wire c).owner e) ((a.wire c).owner e.other) text)
  | adopt (c : ConnId) (known : c < a.wire.next)
      (incoming : (a.wire c).line.status .server = .incoming) (rest : List (Message (Option ι)))
      (first : (a.wire c).line.queue .server = .id :: rest)
      (allowed : ∀ e, a.entry (a.wire c).server (a.wire c).client = some e →
        yields (a.wire c).server (a.wire c).client = true ∨ e.server = true)
      (unready : strict → a.ready (a.wire c).server (a.wire c).client = false) :
      Step strict yields a
        ((a.release (a.wire c).server (a.wire c).client .dropped).attach (a.wire c).server
          (a.wire c).client c (a.ready (a.wire c).server (a.wire c).client))
  | reject (c : ConnId) (known : c < a.wire.next)
      (incoming : (a.wire c).line.status .server = .incoming) (rest : List (Message (Option ι)))
      (first : (a.wire c).line.queue .server = .id :: rest)
      (e : Entry) (met : a.entry (a.wire c).server (a.wire c).client = some e)
      (keeps : yields (a.wire c).server (a.wire c).client = false) (dialled : e.server = false) :
      Step strict yields a (a.setLine c fun w => (w.pop .server).setStatus .server .rejected)
  | ignore (c : ConnId) (e : End) (known : c < a.wire.next)
      (closed : (a.wire c).line.status e = .rejected ∨ (a.wire c).line.status e = .dropped)
      (first : Message (Option ι)) (rest : List (Message (Option ι)))
      (head : (a.wire c).line.queue e = first :: rest) :
      Step strict yields a (a.setLine c (·.pop e))
  | hangUp (c : ConnId) (e : End) (known : c < a.wire.next)
      (current : (a.wire c).line.status e = .current)
      (why : (a.wire c).line.lost = true ∨ ((a.wire c).line.status e.other).Closed) :
      Step strict yields a
        (a.release ((a.wire c).owner e) ((a.wire c).owner e.other) .ended)
  | leave (c : ConnId) (e : End) (known : c < a.wire.next)
      (reads : (a.wire c).line.status e = .incoming ∨ (a.wire c).line.status e = .rejected ∨
        (a.wire c).line.status e = .dropped)
      (why : (a.wire c).line.status e = .incoming →
        (a.wire c).line.lost = true ∨ ((a.wire c).line.status e.other).Closed) :
      Step strict yields a (a.setLine c (·.setStatus e .ended))
  | lose (c : ConnId) (known : c < a.wire.next) :
      Step strict yields a (a.setLine c fun w => { w with lost := true })
  | say (x : ι) (talks : ι → List (Option ι))
      (entitled : strict → ∀ y, talks y = [] ∨ a.ready x y = true) :
      Step strict yields a (a.say x talks)

end

/-! ## What every system keeps -/

/-- Before the first talk comes `YOU=`. -/
def YouFirst (lines : List (Message (Option ι))) : Prop :=
  ∃ before after, lines = before ++ .you :: after ∧ ∀ text, .talk text ∉ before

/-- Whoever hears talk has been told its address: it will be first, or nobody has
written anything. -/
def Greeted (addressed : Bool) (lines : List (Message (Option ι))) (silent : Prop) : Prop :=
  addressed = true ∨ YouFirst lines ∨ (lines = [] ∧ silent)

/-- Nothing that is written on the other side of end `e` can arrive. -/
def Wire.Silent (w : Wire ι) (e : End) : Prop :=
  w.line.status e.other ≠ .current ∨ w.line.lost = true

/-- One connection. -/
structure Proper (addressed : ι → Bool) (w : Wire ι) : Prop where
  apart : w.client ≠ w.server
  client : w.line.status .client = .current ∨ w.line.status .client = .dropped ∨
    w.line.status .client = .ended
  opening : w.line.status .server = .unborn ∨ w.line.status .server = .incoming →
    w.line.queue .client = [] ∧
      ∃ talks, w.line.queue .server = .id :: .you :: talk talks
  refused : w.line.status .server = .rejected → .id ∉ w.line.queue .server
  greeted : ∀ e, w.line.status e = .current →
    Greeted (addressed (w.owner e)) (w.line.queue e) (w.Silent e)

/-- The invariant of all systems. -/
structure Sane (a : State ι) : Prop where
  self : ∀ x, a.entry x x = none
  voice : ∀ x y c e, a.voice x y = some (c, e) → c < a.wire.next ∧ (a.wire c).owner e = x ∧
    (a.wire c).owner e.other = y ∧ (a.wire c).line.status e = .current
  current : ∀ c < a.wire.next, ∀ e, (a.wire c).line.status e = .current →
    a.voice ((a.wire c).owner e) ((a.wire c).owner e.other) = some (c, e)
  idle : ∀ x y, a.voice x y = none → a.ready x y = false
  wire : ∀ c < a.wire.next, Proper a.addressed (a.wire c)

namespace Greeted

variable {isAddressed : Bool} {lines : List (Message (Option ι))} {silent : Prop}

theorem push (greeted : Greeted isAddressed lines silent) (talks : ¬ silent)
    (more : List (Message (Option ι))) : Greeted isAddressed (lines ++ more) silent := by
  rcases greeted with told | ⟨before, after, whole, none⟩ | ⟨_, quiet⟩
  · exact .inl told
  · refine .inr (.inl ⟨before, after ++ more, ?_, none⟩)
    rw [whole, List.append_assoc]
    rfl
  · exact absurd quiet talks

theorem pop {first : Message (Option ι)} (greeted : Greeted isAddressed (first :: lines) silent)
    (notYou : first ≠ .you) : Greeted isAddressed lines silent := by
  rcases greeted with told | ⟨before, after, whole, none⟩ | ⟨empty, _⟩
  · exact .inl told
  · cases before with
    | nil => exact absurd (List.cons.inj whole).1 notYou
    | cons head before =>
        refine .inr (.inl ⟨before, after, (List.cons.inj whole).2, ?_⟩)
        exact fun text member => none text (List.mem_cons_of_mem _ member)
  · cases empty

/-- Talk is heard only by those who have been told their address. -/
theorem told {text : Option ι} (greeted : Greeted isAddressed (.talk text :: lines) silent) :
    isAddressed = true := by
  rcases greeted with told | ⟨before, after, whole, none⟩ | ⟨empty, _⟩
  · exact told
  · cases before with
    | nil => cases (List.cons.inj whole).1
    | cons head before =>
        have isTalk := (List.cons.inj whole).1
        exact absurd (isTalk ▸ List.mem_cons_self) (none text)
  · cases empty

theorem mono {isAddressed' : Bool} {silent' : Prop} (greeted : Greeted isAddressed lines silent)
    (stays : isAddressed = true → isAddressed' = true) (quiet : silent → silent') :
    Greeted isAddressed' lines silent' := by
  rcases greeted with told | first | ⟨empty, isSilent⟩
  · exact .inl (stays told)
  · exact .inr (.inl first)
  · exact .inr (.inr ⟨empty, quiet isSilent⟩)

end Greeted

/-! ## The operations -/

namespace Wire

variable {w : Wire ι}

theorem owner_setLine (w : Wire ι) (line : Handshake.Wire (Option ι)) (e : End) :
    ({ w with line := line } : Wire ι).owner e = w.owner e := by
  cases e <;> rfl

theorem owner_other_ne (apart : w.client ≠ w.server) (e : End) : w.owner e.other ≠ w.owner e := by
  cases e with
  | client => exact apart.symm
  | server => exact apart

end Wire

namespace State

variable {a a' : State ι} {x y u v : ι} {c d : ConnId} {e : End}

theorem ready_congr (same : a'.entry x y = a.entry x y) : a'.ready x y = a.ready x y := by
  unfold ready
  rw [same]

theorem voice_congr (same : a'.entry x y = a.entry x y) : a'.voice x y = a.voice x y := by
  unfold voice
  rw [same]

theorem voice_of_entry {entry : Entry} (met : a.entry x y = some entry) :
    a.voice x y = entry.conn.map (·, entry.side) := by
  unfold voice
  rw [met]

theorem ready_of_entry {entry : Entry} (met : a.entry x y = some entry) :
    a.ready x y = entry.ready := by
  unfold ready
  rw [met]

theorem entry_of_voice (talks : a.voice x y = some (c, e)) :
    ∃ entry, a.entry x y = some entry ∧ entry.conn = some c ∧ entry.side = e := by
  unfold voice at talks
  cases met : a.entry x y with
  | none =>
      rw [met] at talks
      cases talks
  | some entry =>
      rw [met] at talks
      obtain ⟨d, conn, same⟩ := Option.map_eq_some_iff.mp talks
      obtain ⟨rfl, rfl⟩ := Prod.mk.inj same
      exact ⟨entry, rfl, conn, rfl⟩

theorem setLine_wire (a : State ι) (c d : ConnId)
    (change : Handshake.Wire (Option ι) → Handshake.Wire (Option ι)) :
    (a.setLine c change).wire d =
      if d = c then { a.wire c with line := change (a.wire c).line } else a.wire d :=
  a.wire.modify_apply c d fun w => { w with line := change w.line }

variable [DecidableEq ι]

private theorem update_at (entry : ι → ι → Option Entry) (x y : ι) (value : Option Entry) :
    Function.update entry x (Function.update (entry x) y value) x y = value := by
  rw [Function.update_self, Function.update_self]

private theorem update_beside (entry : ι → ι → Option Entry) (value : Option Entry)
    (other : ¬ (u = x ∧ v = y)) :
    Function.update entry x (Function.update (entry x) y value) u v = entry u v := by
  by_cases same : u = x
  · subst same
    rw [Function.update_self, Function.update_of_ne fun isY => other ⟨rfl, isY⟩]
  · rw [Function.update_of_ne same]

theorem setEntry_self (a : State ι) (x y : ι) (entry : Entry) :
    (a.setEntry x y entry).entry x y = some entry :=
  update_at a.entry x y (some entry)

theorem setEntry_of_ne (a : State ι) (entry : Entry) (other : ¬ (u = x ∧ v = y)) :
    (a.setEntry x y entry).entry u v = a.entry u v :=
  update_beside a.entry (some entry) other

theorem changeEntry_self (a : State ι) (x y : ι) (change : Entry → Entry) :
    (a.changeEntry x y change).entry x y = (a.entry x y).map change :=
  update_at a.entry x y _

theorem changeEntry_of_ne (a : State ι) (change : Entry → Entry) (other : ¬ (u = x ∧ v = y)) :
    (a.changeEntry x y change).entry u v = a.entry u v :=
  update_beside a.entry _ other

/-- A change of an entry that keeps its connection and its side keeps the voices. -/
theorem voice_changeEntry (a : State ι) (x y u v : ι) {change : Entry → Entry}
    (conn : ∀ entry, (change entry).conn = entry.conn)
    (server : ∀ entry, (change entry).server = entry.server) :
    (a.changeEntry x y change).voice u v = a.voice u v := by
  by_cases same : u = x ∧ v = y
  · obtain ⟨rfl, rfl⟩ := same
    unfold voice
    rw [changeEntry_self]
    cases a.entry u v with
    | none => rfl
    | some entry => simp only [Option.map_some, Entry.side, conn, server]
  · exact voice_congr (a.changeEntry_of_ne change same)

theorem meet_entry (a : State ι) (x y u v : ι) :
    (a.meet x y).entry u v = a.entry u v ∨
      (u = x ∧ v = y ∧ x ≠ y ∧ a.entry x y = none ∧
        (a.meet x y).entry u v = some ⟨false, false, none⟩) := by
  unfold meet
  split
  · next new =>
    by_cases same : u = x ∧ v = y
    · obtain ⟨rfl, rfl⟩ := same
      exact .inr ⟨rfl, rfl, new.1, new.2, a.setEntry_self u v _⟩
    · exact .inl (a.setEntry_of_ne _ same)
  · exact .inl rfl

/-- Who is met is neither connected nor ready. -/
theorem meet_voice (a : State ι) (x y u v : ι) : (a.meet x y).voice u v = a.voice u v := by
  rcases a.meet_entry x y u v with same | ⟨rfl, rfl, _, none, new⟩
  · exact voice_congr same
  · rw [voice_of_entry new]
    unfold voice
    rw [none]
    rfl

theorem meet_ready (a : State ι) (x y u v : ι) : (a.meet x y).ready u v = a.ready u v := by
  rcases a.meet_entry x y u v with same | ⟨rfl, rfl, _, none, new⟩
  · exact ready_congr same
  · rw [ready_of_entry new]
    unfold ready
    rw [none]

theorem meet_wire (a : State ι) (x y : ι) : (a.meet x y).wire = a.wire := by
  unfold meet
  split <;> rfl

theorem meet_addressed (a : State ι) (x y : ι) : (a.meet x y).addressed = a.addressed := by
  unfold meet
  split <;> rfl

theorem release_silent (s : Status) (silent : a.voice x y = none) : a.release x y s = a := by
  unfold release
  rw [silent]

theorem release_talking (s : Status) (talks : a.voice x y = some (c, e)) :
    a.release x y s = (a.changeEntry x y fun entry =>
      { entry with ready := false, conn := none }).setLine c (·.setStatus e s) := by
  unfold release
  rw [talks]

theorem release_next (a : State ι) (x y : ι) (s : Status) :
    (a.release x y s).wire.next = a.wire.next := by
  unfold release
  split <;> rfl

theorem release_addressed (a : State ι) (x y : ι) (s : Status) :
    (a.release x y s).addressed = a.addressed := by
  unfold release
  split <;> rfl

theorem release_entry_of_ne (a : State ι) (s : Status) (other : ¬ (u = x ∧ v = y)) :
    (a.release x y s).entry u v = a.entry u v := by
  unfold release
  split
  · exact changeEntry_of_ne a _ other
  · rfl

theorem release_voice_self (a : State ι) (x y : ι) (s : Status) :
    (a.release x y s).voice x y = none := by
  cases voice : a.voice x y with
  | none =>
      rw [release_silent s voice]
      exact voice
  | some talker =>
      obtain ⟨entry, met, _, _⟩ := entry_of_voice voice
      rw [release_talking s voice]
      change (a.changeEntry x y _).voice x y = none
      unfold State.voice
      rw [changeEntry_self, met]
      rfl

/-- Only the end that `x` has talked on changes. -/
theorem release_wire (a : State ι) (x y : ι) (s : Status) (d : ConnId) :
    (a.release x y s).wire d = a.wire d ∨
      ∃ e, a.voice x y = some (d, e) ∧
        (a.release x y s).wire d = { a.wire d with line := (a.wire d).line.setStatus e s } := by
  cases voice : a.voice x y with
  | none =>
      rw [release_silent s voice]
      exact .inl rfl
  | some talker =>
      obtain ⟨c, e⟩ := talker
      rw [release_talking s voice]
      by_cases same : d = c
      · subst same
        refine .inr ⟨e, rfl, ?_⟩
        rw [setLine_wire, if_pos rfl]
        rfl
      · left
        rw [setLine_wire, if_neg same]
        rfl

end State

/-! ## Every step keeps the invariant -/

theorem Proper.mono {addressed addressed' : ι → Bool} {w : Wire ι} (proper : Proper addressed w)
    (stays : ∀ x, addressed x = true → addressed' x = true) : Proper addressed' w :=
  ⟨proper.apart, proper.client, proper.opening, proper.refused,
    fun e current => (proper.greeted e current).mono (stays _) id⟩

namespace Proper

variable {addressed : ι → Bool} {w : Wire ι} {e : End}

/-- While the server has not answered, only the client has a voice. -/
theorem client_of_start (_ : Proper addressed w)
    (start : w.line.status .server = .unborn ∨ w.line.status .server = .incoming)
    (current : w.line.status e = .current) : e = .client := by
  cases e with
  | client => rfl
  | server =>
      rw [current] at start
      rcases start with start | start <;> cases start

theorem pop {first : Message (Option ι)} {rest : List (Message (Option ι))}
    (proper : Proper addressed w) (current : w.line.status e = .current)
    (head : w.line.queue e = first :: rest) (told : first = .you → addressed (w.owner e) = true) :
    Proper addressed { w with line := w.line.pop e } := by
  have here : (w.line.pop e).queue e = rest := by
    rw [Handshake.Wire.pop_queue_self, head]
    rfl
  constructor
  · exact proper.apart
  · exact proper.client
  · intro start
    have reader := proper.client_of_start start current
    rw [reader, (proper.opening start).1] at head
    cases head
  · intro rejected
    have rejected' : w.line.status .server = .rejected := rejected
    cases e with
    | server =>
        rw [rejected'] at current
        cases current
    | client =>
        rw [show End.server = End.client.other from rfl]
        change .id ∉ (w.line.pop .client).queue _
        rw [Handshake.Wire.pop_queue_other]
        exact proper.refused rejected'
  · intro side isCurrent
    have greeted := proper.greeted side isCurrent
    rw [Wire.owner_setLine]
    rcases e.eq_or_eq_other side with rfl | rfl
    · change Greeted _ ((w.line.pop side).queue side) _
      rw [here]
      rw [head] at greeted
      by_cases isYou : first = .you
      · exact .inl (told isYou)
      · exact greeted.pop isYou
    · change Greeted _ ((w.line.pop e).queue e.other) _
      rw [Handshake.Wire.pop_queue_other]
      exact greeted

theorem push {lines : List (Message (Option ι))} (proper : Proper addressed w)
    (current : w.line.status e = .current) (noId : .id ∉ lines)
    (start : w.line.status .server = .unborn ∨ w.line.status .server = .incoming →
      ∃ talks, lines = talk talks) :
    Proper addressed { w with line := w.line.push e.other lines } := by
  cases lost : w.line.lost with
  | true =>
      rw [Handshake.Wire.push_of_lost lost]
      exact proper
  | false =>
      have there : (w.line.push e.other lines).queue e.other = w.line.queue e.other ++ lines :=
        Handshake.Wire.push_queue_self lost
      have here := w.line.push_queue_back e lines
      have status := w.line.push_status e.other lines
      have quiet (side : End) :
          ({ w with line := w.line.push e.other lines } : Wire ι).Silent side ↔ w.Silent side := by
        unfold Wire.Silent
        rw [status, Handshake.Wire.push_lost]
      constructor
      · exact proper.apart
      · rw [status]
        exact proper.client
      · intro early
        rw [status] at early
        obtain rfl := proper.client_of_start early current
        obtain ⟨toClient, earlier, toServer⟩ := proper.opening early
        obtain ⟨talks, rfl⟩ := start early
        refine ⟨here.trans toClient, earlier ++ talks, ?_⟩
        rw [show End.server = End.client.other from rfl, there]
        rw [show End.client.other = End.server from rfl, toServer]
        unfold talk
        rw [List.map_append]
        rfl
      · intro rejected
        rw [status] at rejected
        cases e with
        | server =>
            rw [current] at rejected
            cases rejected
        | client =>
            rw [show End.server = End.client.other from rfl, there]
            intro member
            rcases List.mem_append.mp member with old | new
            · exact proper.refused rejected old
            · exact noId new
      · intro side isCurrent
        rw [status] at isCurrent
        rw [Wire.owner_setLine]
        have greeted := proper.greeted side isCurrent
        rcases e.eq_or_eq_other side with rfl | rfl
        · rw [here]
          exact greeted.mono id (quiet side).mpr
        · rw [there]
          have speaks : ¬ w.Silent e.other := by
            unfold Wire.Silent
            rw [End.other_other, current, lost]
            exact fun silent => silent.elim (· rfl) nofun
          exact (greeted.push speaks lines).mono id (quiet e.other).mpr

end Proper

namespace Sane

variable {a a' : State ι} {x y : ι} {c : ConnId} {e : End}

/-- Everybody keeps their voice. -/
theorem frame (sane : Sane a) (self : ∀ x, a'.entry x x = none)
    (voice : ∀ x y, a'.voice x y = a.voice x y)
    (idle : ∀ x y, a.voice x y = none → a'.ready x y = false)
    (next : a'.wire.next = a.wire.next)
    (ends : ∀ d e, (a'.wire d).owner e = (a.wire d).owner e)
    (status : ∀ d e, (a'.wire d).line.status e = .current ↔ (a.wire d).line.status e = .current)
    (proper : ∀ d < a.wire.next, Proper a'.addressed (a'.wire d)) : Sane a' := by
  constructor
  · exact self
  · intro x y d e talks
    rw [voice] at talks
    rw [next, ends, ends, status]
    exact sane.voice x y d e talks
  · intro d known e current
    rw [next] at known
    rw [status] at current
    rw [ends, ends, voice]
    exact sane.current d known e current
  · intro x y silent
    rw [voice] at silent
    exact idle x y silent
  · intro d known
    rw [next] at known
    exact proper d known

/-- One connection changes, and nobody starts or stops to talk on it. -/
theorem setLine (sane : Sane a)
    {change : Handshake.Wire (Option ι) → Handshake.Wire (Option ι)}
    (status : ∀ e, (change (a.wire c).line).status e = .current ↔
      (a.wire c).line.status e = .current)
    (proper : Proper a.addressed (a.wire c) →
      Proper a.addressed { a.wire c with line := change (a.wire c).line }) :
    Sane (a.setLine c change) := by
  refine sane.frame sane.self (fun _ _ => rfl) sane.idle rfl ?_ ?_ ?_
  · intro d e
    rw [State.setLine_wire]
    split
    · next same =>
      rw [same]
      exact Wire.owner_setLine ..
    · rfl
  · intro d e
    rw [State.setLine_wire]
    split
    · next same =>
      rw [same]
      exact status e
    · exact Iff.rfl
  · intro d known
    rw [State.setLine_wire]
    split
    · next same => exact proper (sane.wire c (same ▸ known))
    · exact sane.wire d known

/-- A line is read by its receiver and answered on the same connection. -/
theorem answer (sane : Sane a) {first : Message (Option ι)} {rest lines : List (Message (Option ι))}
    (current : (a.wire c).line.status e = .current)
    (head : (a.wire c).line.queue e = first :: rest) (noId : .id ∉ lines)
    (told : first = .you → a.addressed ((a.wire c).owner e) = true) :
    Sane (a.answer c e lines) := by
  have status : ∀ side, (((a.wire c).line.pop e).push e.other lines).status side =
      (a.wire c).line.status side := by
    intro side
    rw [Handshake.Wire.push_status]
    rfl
  refine sane.setLine (fun side => by rw [status]) fun proper => ?_
  have popped := proper.pop current head told
  refine popped.push current noId fun start => ?_
  -- before the server has answered, there is nothing to read for the client
  have reader := proper.client_of_start start current
  rw [reader, (proper.opening start).1] at head
  cases head

theorem setAddressed [DecidableEq ι] (sane : Sane a) (x : ι) : Sane (a.setAddressed x) := by
  refine sane.frame sane.self (fun _ _ => rfl) sane.idle rfl (fun _ _ => rfl)
    (fun _ _ => Iff.rfl) ?_
  intro d known
  refine (sane.wire d known).mono fun y told => ?_
  by_cases same : y = x
  · subst same
    exact Function.update_self ..
  · exact (Function.update_of_ne same ..).trans told

theorem meet [DecidableEq ι] (sane : Sane a) (x y : ι) : Sane (a.meet x y) := by
  refine sane.frame ?_ (a.meet_voice x y) ?_ ?_ ?_ ?_ ?_
  · intro z
    rcases a.meet_entry x y z z with same | ⟨isX, isY, apart, _⟩
    · rw [same]
      exact sane.self z
    · exact absurd (isX.symm.trans isY) apart
  · intro u v silent
    rw [a.meet_ready]
    exact sane.idle u v silent
  · rw [a.meet_wire]
  · intro d e
    rw [a.meet_wire]
  · intro d e
    rw [a.meet_wire]
  · intro d known
    rw [a.meet_wire, a.meet_addressed]
    exact sane.wire d known

/-- The entry that a voice belongs to becomes ready. -/
theorem becomeReady [DecidableEq ι] (sane : Sane a) (talks : a.voice x y = some (c, e)) :
    Sane (a.changeEntry x y fun entry => { entry with ready := true }) := by
  have voice : ∀ u v, (a.changeEntry x y fun entry => { entry with ready := true }).voice u v =
      a.voice u v := fun u v => a.voice_changeEntry x y u v (fun _ => rfl) fun _ => rfl
  have apart : x ≠ y := by
    rintro rfl
    obtain ⟨entry, met, _⟩ := State.entry_of_voice talks
    rw [sane.self x] at met
    cases met
  refine sane.frame ?_ voice ?_ rfl (fun _ _ => rfl) (fun _ _ => Iff.rfl) sane.wire
  · intro z
    rw [State.changeEntry_of_ne _ _ fun both => apart (both.1.symm.trans both.2)]
    exact sane.self z
  · intro u v silent
    have notHere : ¬ (u = x ∧ v = y) := by
      rintro ⟨rfl, rfl⟩
      rw [talks] at silent
      cases silent
    rw [State.ready_congr (State.changeEntry_of_ne _ _ notHere)]
    exact sane.idle u v silent

/-- What `x` says on a connection. -/
theorem said_of_voice [DecidableEq ι] (sane : Sane a) (talks : ι → List (Option ι))
    (voice : a.voice x y = some (c, e)) :
    a.said x talks c (a.wire c) = (a.wire c).line.push e.other (talk (talks y)) := by
  obtain ⟨_, isX, isY, _⟩ := sane.voice x y c e voice
  unfold State.said
  cases e with
  | client =>
      have server : (a.wire c).server = y := isY
      rw [server, if_pos voice]
      rfl
  | server =>
      have server : (a.wire c).server = x := isX
      have client : (a.wire c).client = y := isY
      have alone : a.voice x x = none := by
        unfold State.voice
        rw [sane.self x]
      rw [server, client, alone, if_neg nofun, if_pos voice]
      rfl

theorem said_of_silent [DecidableEq ι] (talks : ι → List (Option ι)) (w : Wire ι)
    (silent : ∀ y e, a.voice x y ≠ some (c, e)) : a.said x talks c w = w.line := by
  unfold State.said
  rw [if_neg (silent _ _), if_neg (silent _ _)]

theorem say [DecidableEq ι] (sane : Sane a) (x : ι) (talks : ι → List (Option ι)) :
    Sane (a.say x talks) := by
  have said : ∀ d, a.said x talks d (a.wire d) = (a.wire d).line ∨
      ∃ e, d < a.wire.next ∧ (a.wire d).line.status e = .current ∧ ∃ more,
        a.said x talks d (a.wire d) = (a.wire d).line.push e.other (talk more) := by
    intro d
    by_cases silent : ∀ y e, a.voice x y ≠ some (d, e)
    · exact .inl (said_of_silent talks _ silent)
    · simp only [not_forall, not_not] at silent
      obtain ⟨y, e, voice⟩ := silent
      obtain ⟨known, _, _, current⟩ := sane.voice x y d e voice
      exact .inr ⟨e, known, current, talks y, sane.said_of_voice talks voice⟩
  refine sane.frame sane.self (fun _ _ => rfl) sane.idle rfl ?_ ?_ ?_
  · intro d e
    exact Wire.owner_setLine ..
  · intro d e
    change (a.said x talks d (a.wire d)).status e = _ ↔ _
    rcases said d with same | ⟨e', _, _, more, pushed⟩
    · rw [same]
    · rw [pushed, Handshake.Wire.push_status]
  · intro d known
    change Proper a.addressed { a.wire d with line := a.said x talks d (a.wire d) }
    rcases said d with same | ⟨e', _, current, more, pushed⟩
    · rw [same]
      exact sane.wire d known
    · rw [pushed]
      refine (sane.wire d known).push current ?_ fun _ => ⟨more, rfl⟩
      exact Handshake.id_not_mem_talk more

/-- Nobody starts or stops to talk when an end changes that nobody talks on. -/
theorem setStatus (sane : Sane a) {s : Status} (before : (a.wire c).line.status e ≠ .current)
    (quiet : s ≠ .current)
    (client : e = .client → s = .dropped ∨ s = .ended)
    (start : s = .unborn ∨ s = .incoming →
      (a.wire c).line.status e = .unborn ∨ (a.wire c).line.status e = .incoming)
    (refused : s ≠ .rejected) : Sane (a.setLine c (·.setStatus e s)) := by
  have here := (a.wire c).line.setStatus_status_self e s
  have there := (a.wire c).line.setStatus_status_other e s
  have split (side : End) : ((a.wire c).line.setStatus e s).status side = .current ↔
      (a.wire c).line.status side = .current := by
    rcases e.eq_or_eq_other side with rfl | rfl
    · rw [here]
      exact iff_of_false quiet before
    · rw [there]
  refine sane.setLine split fun proper => ?_
  constructor
  · exact proper.apart
  · cases e with
    | client => exact .inr ((client rfl).imp here.trans here.trans)
    | server =>
        have same : ((a.wire c).line.setStatus .server s).status .client =
            (a.wire c).line.status .client := there
        exact proper.client.imp same.trans (Or.imp same.trans same.trans)
  · intro early
    cases e with
    | client => exact proper.opening (there ▸ early)
    | server => exact proper.opening (start (here ▸ early))
  · intro rejected
    cases e with
    | client => exact proper.refused (there ▸ rejected)
    | server => exact absurd (here ▸ rejected) refused
  · intro side isCurrent
    rw [Wire.owner_setLine]
    refine (proper.greeted side ((split side).mp isCurrent)).mono id fun silent => ?_
    exact silent.imp (fun quiet isCurrent => quiet ((split side.other).mp isCurrent)) id

/-- An end on which nobody talks has read a line. -/
theorem popAside (sane : Sane a) (aside : (a.wire c).line.status e ≠ .current)
    (opened : (a.wire c).line.status .server ≠ .unborn ∧
      (a.wire c).line.status .server ≠ .incoming) : Sane (a.setLine c (·.pop e)) := by
  refine sane.setLine (fun _ => Iff.rfl) fun proper => ?_
  constructor
  · exact proper.apart
  · exact proper.client
  · intro start
    exact absurd start (not_or.mpr opened)
  · intro rejected
    have refused := proper.refused rejected
    cases e with
    | client =>
        change .id ∉ ((a.wire c).line.pop .client).queue End.client.other
        rw [Handshake.Wire.pop_queue_other]
        exact refused
    | server =>
        change .id ∉ ((a.wire c).line.pop .server).queue .server
        rw [Handshake.Wire.pop_queue_self]
        exact fun member => refused (List.mem_of_mem_tail member)
  · intro side isCurrent
    rcases e.eq_or_eq_other side with rfl | rfl
    · exact absurd isCurrent aside
    · have greeted := proper.greeted e.other isCurrent
      rw [Wire.owner_setLine]
      change Greeted _ (((a.wire c).line.pop e).queue e.other) _
      rw [Handshake.Wire.pop_queue_other]
      exact greeted

/-- The server keeps its own connection and closes the one it has accepted. -/
theorem reject (sane : Sane a) (incoming : (a.wire c).line.status .server = .incoming)
    (known : c < a.wire.next) :
    Sane (a.setLine c fun w => (w.pop .server).setStatus .server .rejected) := by
  obtain ⟨_, talks, toServer⟩ := (sane.wire c known).opening (.inr incoming)
  have here : (((a.wire c).line.pop .server).setStatus .server .rejected).status .server =
      .rejected := Handshake.Wire.setStatus_status_self ..
  have there : (((a.wire c).line.pop .server).setStatus .server .rejected).status .client =
      (a.wire c).line.status .client := Handshake.Wire.setStatus_status_other ..
  have split (side : End) :
      (((a.wire c).line.pop .server).setStatus .server .rejected).status side = .current ↔
        (a.wire c).line.status side = .current := by
    cases side with
    | client => rw [there]
    | server =>
        rw [here, incoming]
        exact iff_of_false nofun nofun
  refine sane.setLine split fun proper => ?_
  constructor
  · exact proper.apart
  · rw [there]
    exact proper.client
  · intro start
    rw [here] at start
    rcases start with start | start <;> cases start
  · intro _
    change .id ∉ ((a.wire c).line.pop .server).queue .server
    rw [Handshake.Wire.pop_queue_self, toServer]
    intro member
    rcases List.mem_cons.mp member with same | member
    · cases same
    · exact Handshake.id_not_mem_talk talks member
  · intro side isCurrent
    have wasCurrent := (split side).mp isCurrent
    rw [Wire.owner_setLine]
    cases side with
    | server =>
        rw [incoming] at wasCurrent
        cases wasCurrent
    | client =>
        change Greeted _ (((a.wire c).line.pop .server).queue End.server.other) _
        rw [Handshake.Wire.pop_queue_other]
        refine (proper.greeted .client wasCurrent).mono id fun silent => ?_
        exact silent.imp (fun quiet isCurrent => quiet ((split .server).mp isCurrent)) id

theorem lose (sane : Sane a) : Sane (a.setLine c fun w => { w with lost := true }) := by
  refine sane.setLine (fun _ => Iff.rfl) fun proper => ?_
  refine ⟨proper.apart, proper.client, proper.opening, proper.refused, fun side isCurrent => ?_⟩
  exact (proper.greeted side isCurrent).mono id fun _ => .inr rfl

/-- An entry leaves its connection. -/
theorem release [DecidableEq ι] (sane : Sane a) (x y : ι) {s : Status}
    (leaves : s = .dropped ∨ s = .ended) : Sane (a.release x y s) := by
  cases talks : a.voice x y with
  | none =>
      rw [State.release_silent s talks]
      exact sane
  | some talker =>
      obtain ⟨c, e⟩ := talker
      obtain ⟨known, isX, isY, current⟩ := sane.voice x y c e talks
      obtain ⟨entry, met, _, _⟩ := State.entry_of_voice talks
      rw [State.release_talking s talks]
      generalize isMid : (a.changeEntry x y fun entry =>
        { entry with ready := false, conn := none }) = mid
      have entrySelf : mid.entry x y = some { entry with ready := false, conn := none } := by
        rw [← isMid, State.changeEntry_self, met]
        rfl
      have entryOther (u v : ι) (other : ¬ (u = x ∧ v = y)) : mid.entry u v = a.entry u v := by
        rw [← isMid]
        exact State.changeEntry_of_ne _ _ other
      have wire : mid.wire = a.wire := by
        rw [← isMid]
        rfl
      have addressed : mid.addressed = a.addressed := by
        rw [← isMid]
        rfl
      have quiet : s ≠ .current := by
        rcases leaves with rfl | rfl <;> exact nofun
      have here := (a.wire c).line.setStatus_status_self e s
      have there := (a.wire c).line.setStatus_status_other e s
      have status (d : ConnId) (side : End) :
          ((mid.setLine c (·.setStatus e s)).wire d).line.status side = .current ↔
            (a.wire d).line.status side = .current ∧ ¬ (d = c ∧ side = e) := by
        rw [State.setLine_wire, wire]
        by_cases same : d = c
        · subst same
          rw [if_pos rfl]
          rcases e.eq_or_eq_other side with rfl | rfl
          · refine iff_of_false (fun isCurrent => quiet ?_) fun both => both.2 ⟨rfl, rfl⟩
            exact here.symm.trans isCurrent
          · rw [there]
            exact (and_iff_left fun both => e.other_ne both.2).symm
        · rw [if_neg same]
          exact (and_iff_left fun both => same both.1).symm
      have owner (d : ConnId) (side : End) :
          ((mid.setLine c (·.setStatus e s)).wire d).owner side = (a.wire d).owner side := by
        rw [State.setLine_wire, wire]
        split
        · next same =>
          rw [same]
          exact Wire.owner_setLine ..
        · rfl
      constructor
      · intro z
        by_cases same : z = x ∧ z = y
        · rw [← same.1, ← same.2, sane.self z] at met
          cases met
        · exact (entryOther z z same).trans (sane.self z)
      · intro u v d side voice
        change mid.voice u v = _ at voice
        by_cases same : u = x ∧ v = y
        · rw [same.1, same.2, State.voice_of_entry entrySelf] at voice
          cases voice
        · rw [State.voice_congr (entryOther u v same)] at voice
          obtain ⟨known, isU, isV, isCurrent⟩ := sane.voice u v d side voice
          rw [owner, owner, status]
          have known' : d < mid.wire.next := by
            rw [wire]
            exact known
          refine ⟨known', isU, isV, isCurrent, ?_⟩
          rintro ⟨rfl, rfl⟩
          exact same ⟨isU.symm.trans isX, isV.symm.trans isY⟩
      · intro d known side isCurrent
        obtain ⟨wasCurrent, notHere⟩ := (status d side).mp isCurrent
        rw [owner, owner]
        change mid.voice _ _ = _
        have known' : d < a.wire.next := by
          rw [← wire]
          exact known
        have voice := sane.current d known' side wasCurrent
        rw [State.voice_congr (entryOther _ _ ?_)]
        · exact voice
        · rintro ⟨isX, isY⟩
          rw [isX, isY, talks] at voice
          obtain ⟨rfl, rfl⟩ := Prod.mk.inj (Option.some.inj voice)
          exact notHere ⟨rfl, rfl⟩
      · intro u v silent
        change mid.voice u v = none at silent
        change mid.ready u v = false
        by_cases same : u = x ∧ v = y
        · rw [same.1, same.2]
          exact State.ready_of_entry entrySelf
        · rw [State.voice_congr (entryOther u v same)] at silent
          rw [State.ready_congr (entryOther u v same)]
          exact sane.idle u v silent
      · intro d known
        change Proper mid.addressed _
        rw [addressed, State.setLine_wire, wire]
        have known' : d < a.wire.next := by
          rw [← wire]
          exact known
        split
        · next same =>
          subst same
          have proper := sane.wire d known'
          constructor
          · exact proper.apart
          · cases e with
            | client => exact .inr (leaves.imp here.trans here.trans)
            | server =>
                have same : ((a.wire d).line.setStatus .server s).status .client =
                    (a.wire d).line.status .client := there
                exact proper.client.imp same.trans (Or.imp same.trans same.trans)
          · intro start
            cases e with
            | client => exact proper.opening (there ▸ start)
            | server =>
                have start' : s = .unborn ∨ s = .incoming := here ▸ start
                rcases leaves with rfl | rfl <;> rcases start' with start | start <;> cases start
          · intro rejected
            cases e with
            | client => exact proper.refused (there ▸ rejected)
            | server =>
                have rejected' : s = .rejected := here ▸ rejected
                rcases leaves with rfl | rfl <;> cases rejected'
          · intro side isCurrent
            rw [Wire.owner_setLine]
            rcases e.eq_or_eq_other side with rfl | rfl
            · exact absurd (here.symm.trans isCurrent) quiet
            · refine (proper.greeted e.other (there ▸ isCurrent)).mono id fun silent => ?_
              refine silent.imp (fun _ => ?_) id
              change ((a.wire d).line.setStatus e s).status e.other.other ≠ _
              rw [End.other_other, here]
              exact quiet
        · exact sane.wire d known'

/-- An entry without connection takes one that waits for it. -/
theorem attach [DecidableEq ι] (sane : Sane a) (known : c < a.wire.next)
    (silent : a.voice (a.wire c).server (a.wire c).client = none)
    (incoming : (a.wire c).line.status .server = .incoming) (ready : Bool) :
    Sane (a.attach (a.wire c).server (a.wire c).client c ready) := by
  have proper := sane.wire c known
  obtain ⟨toClient, talks, toServer⟩ := proper.opening (.inr incoming)
  unfold State.attach
  generalize isMid : a.setEntry (a.wire c).server (a.wire c).client ⟨true, ready, some c⟩ = mid
  have entrySelf : mid.entry (a.wire c).server (a.wire c).client = some ⟨true, ready, some c⟩ := by
    rw [← isMid]
    exact State.setEntry_self ..
  have entryOther (u v : ι) (other : ¬ (u = (a.wire c).server ∧ v = (a.wire c).client)) :
      mid.entry u v = a.entry u v := by
    rw [← isMid]
    exact State.setEntry_of_ne _ _ other
  have wire : mid.wire = a.wire := by
    rw [← isMid]
    rfl
  have addressed : mid.addressed = a.addressed := by
    rw [← isMid]
    rfl
  have voiceSelf : mid.voice (a.wire c).server (a.wire c).client = some (c, .server) :=
    State.voice_of_entry entrySelf
  generalize isGreeting :
    (.id :: .you :: if ready then [] else [.connected] : List (Message (Option ι))) = greeting
  generalize isLine : (((a.wire c).line.pop .server).setStatus .server .current).push .client
    greeting = line
  have server : line.status .server = .current := by
    rw [← isLine, Handshake.Wire.push_status]
    exact Handshake.Wire.setStatus_status_self ..
  have client : line.status .client = (a.wire c).line.status .client := by
    rw [← isLine, Handshake.Wire.push_status]
    exact Handshake.Wire.setStatus_status_other ((a.wire c).line.pop .server) .server .current
  have after (d : ConnId) : (mid.setLine c fun w =>
      ((w.pop .server).setStatus .server .current).push .client greeting).wire d =
        if d = c then { a.wire c with line := line } else a.wire d := by
    rw [State.setLine_wire, wire, isLine]
  have status (d : ConnId) (side : End) (other : ¬ (d = c ∧ side = .server)) :
      ((mid.setLine c fun w =>
        ((w.pop .server).setStatus .server .current).push .client greeting).wire d).line.status side =
          (a.wire d).line.status side := by
    rw [after]
    split
    · next same =>
      subst same
      cases side with
      | client => exact client
      | server => exact absurd ⟨rfl, rfl⟩ other
    · rfl
  have owner (d : ConnId) (side : End) :
      ((mid.setLine c fun w =>
        ((w.pop .server).setStatus .server .current).push .client greeting).wire d).owner side =
          (a.wire d).owner side := by
    rw [after]
    split
    · next same =>
      rw [same]
      exact Wire.owner_setLine ..
    · rfl
  constructor
  · intro z
    by_cases same : z = (a.wire c).server ∧ z = (a.wire c).client
    · exact absurd (same.2.symm.trans same.1) proper.apart
    · exact (entryOther z z same).trans (sane.self z)
  · intro u v d side voice
    change mid.voice u v = _ at voice
    change d < mid.wire.next ∧ _
    rw [owner, owner, wire]
    by_cases same : u = (a.wire c).server ∧ v = (a.wire c).client
    · rw [same.1, same.2, voiceSelf] at voice
      obtain ⟨rfl, rfl⟩ := Prod.mk.inj (Option.some.inj voice)
      refine ⟨known, same.1.symm, same.2.symm, ?_⟩
      rw [after, if_pos rfl]
      exact server
    · rw [State.voice_congr (entryOther u v same)] at voice
      obtain ⟨known', isU, isV, isCurrent⟩ := sane.voice u v d side voice
      refine ⟨known', isU, isV, ?_⟩
      rw [status d side]
      · exact isCurrent
      · rintro ⟨rfl, rfl⟩
        rw [incoming] at isCurrent
        cases isCurrent
  · intro d known' side isCurrent
    change d < mid.wire.next at known'
    rw [owner, owner]
    change mid.voice _ _ = _
    rw [wire] at known'
    by_cases here : d = c ∧ side = .server
    · obtain ⟨rfl, rfl⟩ := here
      exact voiceSelf
    · rw [status d side here] at isCurrent
      have voice := sane.current d known' side isCurrent
      rw [State.voice_congr (entryOther _ _ ?_)]
      · exact voice
      · rintro ⟨isServer, isClient⟩
        rw [isServer, isClient, silent] at voice
        cases voice
  · intro u v none
    change mid.voice u v = _ at none
    change mid.ready u v = false
    have other : ¬ (u = (a.wire c).server ∧ v = (a.wire c).client) := by
      rintro ⟨rfl, rfl⟩
      rw [voiceSelf] at none
      cases none
    rw [State.voice_congr (entryOther u v other)] at none
    rw [State.ready_congr (entryOther u v other)]
    exact sane.idle u v none
  · intro d known'
    change d < mid.wire.next at known'
    change Proper mid.addressed _
    rw [addressed, after]
    rw [wire] at known'
    split
    · constructor
      · exact proper.apart
      · rw [client]
        exact proper.client
      · intro start
        rw [server] at start
        rcases start with start | start <;> cases start
      · intro rejected
        rw [server] at rejected
        cases rejected
      · intro side isCurrent
        rw [Wire.owner_setLine]
        cases side with
        | server =>
            refine .inr (.inl ⟨[], talk talks, ?_, fun _ => List.not_mem_nil⟩)
            rw [← isLine]
            change ((((a.wire c).line.pop .server).setStatus .server .current).push
              End.server.other greeting).queue .server = _
            rw [Handshake.Wire.push_queue_back]
            change ((a.wire c).line.pop .server).queue .server = _
            rw [Handshake.Wire.pop_queue_self, toServer]
            rfl
        | client =>
            have before : (((a.wire c).line.pop .server).setStatus .server .current).queue .client =
                [] := by
              change ((a.wire c).line.pop .server).queue End.server.other = []
              rw [Handshake.Wire.pop_queue_other]
              exact toClient
            cases lost : (a.wire c).line.lost with
            | true =>
                have isLost : (((a.wire c).line.pop .server).setStatus .server .current).lost =
                    true := lost
                rw [← isLine, Handshake.Wire.push_of_lost isLost, before]
                exact .inr (.inr ⟨rfl, .inr lost⟩)
            | false =>
                have lives : (((a.wire c).line.pop .server).setStatus .server .current).lost =
                    false := lost
                rw [← isLine, Handshake.Wire.push_queue_self lives, before, ← isGreeting]
                refine .inr (.inl ⟨[.id], _, rfl, fun text member => ?_⟩)
                cases List.mem_singleton.mp member
    · exact sane.wire d known'

/-- A client gets a new connection. -/
theorem connect [DecidableEq ι] (sane : Sane a) (apart : x ≠ y)
    (dialling : a.entry x y = some ⟨false, false, none⟩) : Sane (a.connect x y) := by
  generalize isMid : a.setEntry x y ⟨false, false, some a.wire.next⟩ = mid
  have entrySelf : mid.entry x y = some ⟨false, false, some a.wire.next⟩ := by
    rw [← isMid]
    exact State.setEntry_self ..
  have entryOther (u v : ι) (other : ¬ (u = x ∧ v = y)) : mid.entry u v = a.entry u v := by
    rw [← isMid]
    exact State.setEntry_of_ne _ _ other
  have result : a.connect x y =
      { mid with wire := a.wire.alloc ⟨x, y, .dialled false⟩ } := by
    rw [← isMid]
    rfl
  have addressed : mid.addressed = a.addressed := by
    rw [← isMid]
    rfl
  have voiceSelf : mid.voice x y = some (a.wire.next, .client) := State.voice_of_entry entrySelf
  rw [result]
  constructor
  · intro z
    by_cases same : z = x ∧ z = y
    · exact absurd (same.1.symm.trans same.2) apart
    · exact (entryOther z z same).trans (sane.self z)
  · intro u v d side voice
    change mid.voice u v = _ at voice
    change d < a.wire.next + 1 ∧ ((a.wire.alloc _) d).owner side = u ∧
      ((a.wire.alloc _) d).owner side.other = v ∧ ((a.wire.alloc _) d).line.status side = _
    by_cases same : u = x ∧ v = y
    · rw [same.1, same.2, voiceSelf] at voice
      obtain ⟨rfl, rfl⟩ := Prod.mk.inj (Option.some.inj voice)
      rw [Heap.alloc_self]
      exact ⟨Nat.lt_succ_self _, same.1.symm, same.2.symm, rfl⟩
    · rw [State.voice_congr (entryOther u v same)] at voice
      obtain ⟨known, rest⟩ := sane.voice u v d side voice
      rw [Heap.alloc_of_lt _ _ known]
      exact ⟨Nat.lt_succ_of_lt known, rest⟩
  · intro d known side isCurrent
    change mid.voice (((a.wire.alloc _) d).owner side) (((a.wire.alloc _) d).owner side.other) = _
    change ((a.wire.alloc _) d).line.status side = _ at isCurrent
    by_cases new : d = a.wire.next
    · subst new
      rw [Heap.alloc_self] at isCurrent ⊢
      cases side with
      | client => exact voiceSelf
      | server => cases isCurrent
    · have old : d < a.wire.next := Nat.lt_of_le_of_ne (Nat.le_of_lt_succ known) new
      rw [Heap.alloc_of_lt _ _ old] at isCurrent ⊢
      have voice := sane.current d old side isCurrent
      rw [State.voice_congr (entryOther _ _ ?_)]
      · exact voice
      · rintro ⟨isX, isY⟩
        rw [isX, isY, State.voice_of_entry dialling] at voice
        cases voice
  · intro u v none
    change mid.voice u v = _ at none
    change mid.ready u v = false
    have other : ¬ (u = x ∧ v = y) := by
      rintro ⟨rfl, rfl⟩
      rw [voiceSelf] at none
      cases none
    rw [State.voice_congr (entryOther u v other)] at none
    rw [State.ready_congr (entryOther u v other)]
    exact sane.idle u v none
  · intro d known
    change Proper mid.addressed ((a.wire.alloc _) d)
    rw [addressed]
    by_cases new : d = a.wire.next
    · subst new
      rw [Heap.alloc_self]
      refine ⟨apart, .inl rfl, fun _ => ⟨rfl, [], rfl⟩, nofun, fun side isCurrent => ?_⟩
      cases side with
      | client => exact .inr (.inr ⟨rfl, .inl nofun⟩)
      | server => cases isCurrent
    · have old : d < a.wire.next := Nat.lt_of_le_of_ne (Nat.le_of_lt_succ known) new
      rw [Heap.alloc_of_lt _ _ old]
      exact sane.wire d old

/-- A connection that nobody talks on is not the one that an entry leaves. -/
theorem release_wire_of_incoming [DecidableEq ι] (sane : Sane a) (s : Status)
    (incoming : (a.wire c).line.status .server = .incoming) :
    ((a.release (a.wire c).server y s).wire c) = a.wire c := by
  rcases a.release_wire (a.wire c).server y s c with same | ⟨e, voice, _⟩
  · exact same
  · obtain ⟨known, isServer, _, current⟩ := sane.voice _ _ _ _ voice
    cases e with
    | server =>
        rw [incoming] at current
        cases current
    | client => exact absurd isServer (sane.wire c known).apart

theorem adopt [DecidableEq ι] (sane : Sane a) (known : c < a.wire.next)
    (incoming : (a.wire c).line.status .server = .incoming) (ready : Bool) :
    Sane ((a.release (a.wire c).server (a.wire c).client .dropped).attach (a.wire c).server
      (a.wire c).client c ready) := by
  have released := sane.release (a.wire c).server (a.wire c).client (s := .dropped) (.inl rfl)
  have same := sane.release_wire_of_incoming (y := (a.wire c).client) .dropped incoming
  have silent := a.release_voice_self (a.wire c).server (a.wire c).client .dropped
  have attached := released.attach (c := c) (by rw [State.release_next]; exact known)
    (by rw [same]; exact silent) (by rw [same]; exact incoming) ready
  rwa [same] at attached

end Sane

/-- Every step keeps the invariant, in a strict system and in any other. -/
theorem Step.sane [DecidableEq ι] {strict : Prop} {yields : ι → ι → Bool} {a a' : State ι}
    (step : Step strict yields a a') (sane : Sane a) : Sane a' := by
  cases step with
  | meet x y => exact sane.meet x y
  | connect x y apart dialling => exact sane.connect apart dialling
  | accept c known unborn =>
      refine sane.setStatus ?_ nofun nofun (fun _ => .inl unborn) nofun
      rw [unborn]
      exact nofun
  | greet c e known current rest head =>
      exact sane.answer current head (fun member => nomatch member) nofun
  | address c e known current rest head =>
      have told : Sane ((a.setAddressed ((a.wire c).owner e)).answer c e []) :=
        (sane.setAddressed ((a.wire c).owner e)).answer current head List.not_mem_nil
          fun _ => Function.update_self ..
      exact told
  | ready c e talks known current rest head a' after tells entitled =>
      have answered : Sane (a.answer c e []) :=
        sane.answer current head List.not_mem_nil nofun
      have voice := sane.current c known e current
      rw [after]
      exact (answered.becomeReady voice).say _ talks
  | hear c e text known current rest head =>
      have answered : Sane (a.answer c e []) :=
        sane.answer current head List.not_mem_nil nofun
      unfold State.hear
      cases text with
      | none => exact answered
      | some r =>
          dsimp only
          split
          · exact answered.meet _ r
          · exact answered
  | adopt c known incoming rest head allowed unready => exact sane.adopt known incoming _
  | reject c known incoming rest head e met keeps dialled => exact sane.reject incoming known
  | ignore c e known closed first rest head =>
      have aside : (a.wire c).line.status e ≠ .current := by
        rcases closed with same | same <;> rw [same] <;> exact nofun
      refine sane.popAside aside ?_
      have proper := sane.wire c known
      cases e with
      | client =>
          refine not_or.mp fun start => ?_
          rw [(proper.opening start).1] at head
          cases head
      | server => rcases closed with same | same <;> rw [same] <;> exact ⟨nofun, nofun⟩
  | hangUp c e known current why => exact sane.release _ _ (.inr rfl)
  | leave c e known reads why =>
      refine sane.setStatus ?_ nofun (fun _ => .inr rfl) ?_ nofun
      · rcases reads with same | same | same <;> rw [same] <;> exact nofun
      · rintro (start | start) <;> cases start
  | lose c known => exact sane.lose
  | say x talks entitled => exact sane.say x talks

/-- Nobody is forgotten. -/
theorem Step.known [DecidableEq ι] {strict : Prop} {yields : ι → ι → Bool} {a a' : State ι}
    {u v : ι} (step : Step strict yields a a') (known : a.entry u v ≠ none) :
    a'.entry u v ≠ none := by
  have change (b : State ι) (x y : ι) (f : Entry → Entry) (met : b.entry u v ≠ none) :
      (b.changeEntry x y f).entry u v ≠ none := by
    by_cases same : u = x ∧ v = y
    · obtain ⟨rfl, rfl⟩ := same
      rw [State.changeEntry_self]
      exact fun none => met (Option.map_eq_none_iff.mp none)
    · rw [State.changeEntry_of_ne _ _ same]
      exact met
  have set (b : State ι) (x y : ι) (e : Entry) (met : b.entry u v ≠ none) :
      (b.setEntry x y e).entry u v ≠ none := by
    by_cases same : u = x ∧ v = y
    · obtain ⟨rfl, rfl⟩ := same
      rw [State.setEntry_self]
      exact nofun
    · rw [State.setEntry_of_ne _ _ same]
      exact met
  have meet (b : State ι) (x y : ι) (met : b.entry u v ≠ none) : (b.meet x y).entry u v ≠ none := by
    rcases b.meet_entry x y u v with same | ⟨_, _, _, _, new⟩
    · rw [same]
      exact met
    · rw [new]
      exact nofun
  have release (b : State ι) (x y : ι) (s : Status) (met : b.entry u v ≠ none) :
      (b.release x y s).entry u v ≠ none := by
    unfold State.release
    split
    · exact change b x y _ met
    · exact met
  cases step with
  | meet x y => exact meet a x y known
  | connect x y apart dialling => exact set a x y _ known
  | ready c e talks known' current rest first mid after tells entitled =>
      rw [after]
      exact change (a.answer c e []) _ _ _ known
  | hear c e text known' current rest first =>
      unfold State.hear
      split
      · split
        · exact meet (a.answer c e []) _ _ known
        · exact known
      · exact known
  | adopt c known' incoming rest first allowed unready =>
      exact set _ _ _ _ (release a _ _ _ known)
  | hangUp c e known' current why => exact release a _ _ _ known
  | accept | greet | address | reject | ignore | leave | lose | say => exact known

/-- Nobody knows anybody. -/
structure Unmet (a : State ι) : Prop where
  addressed : ∀ x, a.addressed x = false
  entry : ∀ x y, a.entry x y = none
  wire : a.wire.next = 0

theorem Unmet.sane {a : State ι} (unmet : Unmet a) : Sane a := by
  have silent (x y : ι) : a.voice x y = none := by
    unfold State.voice
    rw [unmet.entry]
  constructor
  · exact fun x => unmet.entry x x
  · intro x y c e voice
    rw [silent] at voice
    cases voice
  · intro c known
    rw [unmet.wire] at known
    exact absurd known (Nat.not_lt_zero c)
  · intro x y _
    unfold State.ready
    rw [unmet.entry]
  · intro c known
    rw [unmet.wire] at known
    exact absurd known (Nat.not_lt_zero c)

end Gossip

end LibPubSub
