import LibPubSub.Gossip

/-! Each two of any number of processes carry out the handshake of two. What the others
do is nothing to them, except that a process may learn its own address from anybody. -/

set_option autoImplicit false

namespace LibPubSub

open Handshake (Message Status Entry talk)

namespace Handshake

variable {Text : Type} {a a' : State Text}

/-- Something has happened that the two have no part in. -/
structure Beside (a a' : State Text) : Prop where
  entry : ∀ p, a'.entry p = a.entry p
  addressed : ∀ p, a.addressed p = true → a'.addressed p = true
  next : a.wire.next ≤ a'.wire.next
  old : ∀ c < a.wire.next, a'.wire c = a.wire c
  new : ∀ c, a.wire.next ≤ c → c < a'.wire.next → (∀ e, (a'.wire c).status e = .ended) ∧
    (∀ e, (a'.wire c).queue e = []) ∧ (a'.wire c).lost = false

theorem Flow.learn {isReady isAddressed isAddressed' : Bool} {lines : List (Message Text)}
    (flow : Flow isReady isAddressed lines) (stays : isAddressed = true → isAddressed' = true) :
    Flow isReady isAddressed' lines := by
  cases flow with
  | greeted _ talks => exact .greeted isAddressed' talks
  | addressed talks =>
      rw [stays rfl]
      exact .addressed talks
  | ready talks =>
      rw [stays rfl]
      exact .ready talks

theorem Kept.learn {ready addressed addressed' : Bool → Bool} {w : Wire Text}
    (kept : Kept ready addressed w) (stays : ∀ p, addressed p = true → addressed' p = true) :
    Kept ready addressed' w := by
  refine ⟨kept.client, kept.opening, kept.refused, ?_, ?_⟩
  · intro client server lives
    rcases kept.orderly client server lives with unanswered | flow
    · refine .inl ⟨unanswered.client, unanswered.server, unanswered.toClient, ?_⟩
      exact unanswered.toServer.imp id fun both => ⟨both.1, stays _ both.2⟩
    · exact .inr fun e => (flow e).learn (stays _)
  · intro e current
    exact (kept.gated e current).imp (stays _) id

namespace Beside

theorem refl (a : State Text) : Beside a a :=
  ⟨fun _ => rfl, fun _ => id, Nat.le_refl _, fun _ _ => rfl,
    fun _ new known => absurd known (Nat.not_lt_of_ge new)⟩

theorem voice (beside : Beside a a') (p : Bool) : a'.voice p = a.voice p :=
  State.voice_congr (beside.entry p)

theorem ready (beside : Beside a a') (p : Bool) : a'.ready p = a.ready p :=
  State.ready_congr (beside.entry p)

theorem sound (beside : Beside a a') (sound : Sound a) : Sound a' := by
  have ready : a'.ready = a.ready := funext beside.ready
  constructor
  · intro p c e voice
    rw [beside.voice] at voice
    obtain ⟨known, owner⟩ := sound.voice p c e voice
    rw [beside.old c known]
    exact ⟨Nat.lt_of_lt_of_le known beside.next, owner⟩
  · intro c known e
    rcases Nat.lt_or_ge c a.wire.next with old | new
    · rw [beside.old c old, beside.voice]
      exact sound.current c old e
    · rw [(beside.new c new known).1 e, beside.voice]
      refine iff_of_false nofun fun voice => ?_
      exact Nat.not_lt_of_ge new (sound.voice _ c e voice).1
  · intro p silent
    rw [beside.voice] at silent
    rw [beside.ready]
    exact sound.idle p silent
  · intro p isReady
    rw [beside.ready] at isReady
    exact beside.addressed p (sound.addressed p isReady)
  · intro c known
    rw [ready]
    rcases Nat.lt_or_ge c a.wire.next with old | new
    · rw [beside.old c old]
      exact (sound.wire c old).learn beside.addressed
    · obtain ⟨status, queue, _⟩ := beside.new c new known
      constructor
      · exact .inr (.inr (status .client))
      · intro start
        rw [status] at start
        rcases start with start | start <;> cases start
      · intro _
        rw [queue]
        exact List.not_mem_nil
      · intro current
        rw [status] at current
        cases current
      · intro e current
        rw [status] at current
        cases current

theorem undecided (beside : Beside a a') (undecided : Undecided a) : Undecided a' := by
  constructor
  · intro p e met
    rw [beside.entry] at met
    exact undecided.entry p e met
  · intro c known
    rcases Nat.lt_or_ge c a.wire.next with old | new
    · rw [beside.old c old]
      exact undecided.toClient c old
    · exact (beside.new c new known).2.1 .client
  · intro c known
    rcases Nat.lt_or_ge c a.wire.next with old | new
    · rw [beside.old c old]
      exact undecided.wire c old
    · obtain ⟨status, queue, _⟩ := beside.new c new known
      rw [queue]
      exact .inr ⟨.inr (status .server), List.not_mem_nil⟩

theorem decided (beside : Beside a a') {yields : Bool → Bool} {x : Bool} {c : ConnId}
    (decided : Decided yields x c a) : Decided yields x c a' := by
  constructor
  · rw [beside.voice]
    exact decided.client
  · rw [beside.voice]
    exact decided.server
  · intro d known start
    rcases Nat.lt_or_ge d a.wire.next with old | new
    · rw [beside.old d old] at start ⊢
      exact decided.others d old start
    · rw [(beside.new d new known).1] at start
      rcases start with start | start <;> cases start

end Beside

end Handshake

namespace Gossip

variable {ι : Type}

/-- The two processes of a pair. -/
def pick (x y : ι) : Bool → ι
  | false => x
  | true => y

/-- The connection leads from the one of the pair to the other. -/
def Wire.Joins (w : Wire ι) (x y : ι) (b : Bool) : Prop :=
  w.client = pick x y b ∧ w.server = pick x y !b

/-- What the pair sees of a connection of others. -/
def gone : Handshake.Wire (Option ι) where
  client := false
  status _ := .ended
  queue _ := []
  lost := false

section

variable {x y : ι} {w : Wire ι} {b : Bool}

/-- The one of a pair is not the other. -/
theorem pick_injective (apart : x ≠ y) {b b' : Bool} (same : pick x y b = pick x y b') : b = b' := by
  cases b <;> cases b'
  · rfl
  · exact absurd same apart
  · exact absurd same apart.symm
  · rfl

theorem Wire.joins_or_apart (w : Wire ι) (x y : ι) :
    (∃ b, w.Joins x y b) ∨ ∀ b, ¬ w.Joins x y b := by
  by_cases joins : ∃ b, w.Joins x y b
  · exact .inl joins
  · exact .inr fun b here => joins ⟨b, here⟩

/-- An end belongs to one of the pair, and the other end to the other one. -/
theorem Wire.joins_of_owner {e : End} (own : w.owner e = pick x y b)
    (other : w.owner e.other = pick x y !b) : ∃ b', w.Joins x y b' := by
  cases e with
  | client => exact ⟨b, own, other⟩
  | server => exact ⟨!b, other, own.trans (by rw [Bool.not_not])⟩

theorem owner_other (w : Handshake.Wire (Option ι)) (e : End) : w.owner e.other = !w.owner e := by
  cases e with
  | client => rfl
  | server => exact (Bool.not_not _).symm

end

variable [DecidableEq ι]

/-- How a pair sees a connection. -/
def Wire.seen (w : Wire ι) (x y : ι) : Handshake.Wire (Option ι) :=
  if w.client = x ∧ w.server = y then { w.line with client := false }
  else if w.client = y ∧ w.server = x then { w.line with client := true }
  else gone

/-- How a pair sees the state. -/
def State.seen (a : State ι) (x y : ι) : Handshake.State (Option ι) where
  addressed b := a.addressed (pick x y b)
  entry b := a.entry (pick x y b) (pick x y !b)
  wire := ⟨fun c => (a.wire c).seen x y, a.wire.next⟩

section

variable {a : State ι} {x y u v : ι} {w : Wire ι} {b : Bool} {c d : ConnId} {e : End}
  {change : Handshake.Wire (Option ι) → Handshake.Wire (Option ι)}

theorem Wire.seen_of_joins (apart : x ≠ y) (joins : w.Joins x y b) :
    w.seen x y = { w.line with client := b } := by
  obtain ⟨client, server⟩ := joins
  unfold Wire.seen
  cases b with
  | false => exact if_pos ⟨client, server⟩
  | true =>
      have notFirst : ¬ (w.client = x ∧ w.server = y) := by
        rintro ⟨isX, _⟩
        exact apart (isX.symm.trans client)
      rw [if_neg notFirst]
      exact if_pos ⟨client, server⟩

theorem Wire.seen_of_apart (apart : ∀ b, ¬ w.Joins x y b) : w.seen x y = gone := by
  have notFirst : ¬ (w.client = x ∧ w.server = y) := apart false
  have notSecond : ¬ (w.client = y ∧ w.server = x) := apart true
  unfold Wire.seen
  rw [if_neg notFirst, if_neg notSecond]

theorem Wire.owner_of_joins (apart : x ≠ y) (joins : w.Joins x y b) (e : End) :
    w.owner e = pick x y ((w.seen x y).owner e) := by
  rw [Wire.seen_of_joins apart joins]
  cases e with
  | client => exact joins.1
  | server => exact joins.2

theorem seen_voice (a : State ι) (x y : ι) (b : Bool) :
    (a.seen x y).voice b = a.voice (pick x y b) (pick x y !b) := rfl

theorem seen_ready (a : State ι) (x y : ι) (b : Bool) :
    (a.seen x y).ready b = a.ready (pick x y b) (pick x y !b) := rfl

/-! ## What the pair sees of the operations -/

omit [DecidableEq ι] in
/-- The change does not depend on who has dialled. -/
def Blind (change : Handshake.Wire (Option ι) → Handshake.Wire (Option ι)) : Prop :=
  ∀ (w : Handshake.Wire (Option ι)) (b : Bool),
    { change w with client := b } = change { w with client := b }

omit [DecidableEq ι] in
theorem blind_push (e : End) (lines : List (Message (Option ι))) : Blind (·.push e lines) := by
  intro w b
  unfold Handshake.Wire.push
  dsimp only
  split <;> rfl

theorem seen_setLine_of_joins (apart : x ≠ y) (joins : (a.wire c).Joins x y b)
    (blind : Blind change) : (a.setLine c change).seen x y = (a.seen x y).setWire c change := by
  unfold State.seen Handshake.State.setWire
  congr 1
  unfold Heap.modify
  congr 1
  funext d
  dsimp only
  rw [State.setLine_wire]
  by_cases same : d = c
  · subst same
    have after : Wire.Joins { a.wire d with line := change (a.wire d).line } x y b := joins
    rw [if_pos rfl, Function.update_self, Wire.seen_of_joins apart after,
      Wire.seen_of_joins apart joins]
    exact blind _ _
  · rw [if_neg same, Function.update_of_ne same]

theorem seen_setLine_of_apart (apart : ∀ b, ¬ (a.wire c).Joins x y b) :
    (a.setLine c change).seen x y = a.seen x y := by
  unfold State.seen
  congr 1
  congr 1
  funext d
  rw [State.setLine_wire]
  split
  · next same =>
    rw [same, Wire.seen_of_apart apart]
    exact Wire.seen_of_apart apart
  · rfl

theorem seen_setEntry_self (apart : x ≠ y) (b : Bool) (entry : Entry) :
    (a.setEntry (pick x y b) (pick x y !b) entry).seen x y = (a.seen x y).setEntry b entry := by
  unfold State.seen Handshake.State.setEntry
  congr 1
  funext b'
  by_cases same : b' = b
  · subst same
    rw [Function.update_self]
    exact a.setEntry_self ..
  · rw [Function.update_of_ne same]
    exact a.setEntry_of_ne _ fun both => same (pick_injective apart both.1)

theorem seen_setEntry_of_ne (entry : Entry)
    (other : ∀ b, ¬ (u = pick x y b ∧ v = pick x y !b)) :
    (a.setEntry u v entry).seen x y = a.seen x y := by
  unfold State.seen
  congr 1
  funext b
  exact a.setEntry_of_ne _ fun both => other b ⟨both.1.symm, both.2.symm⟩

theorem seen_changeEntry_self (apart : x ≠ y) (b : Bool) (update : Entry → Entry) :
    (a.changeEntry (pick x y b) (pick x y !b) update).seen x y =
      (a.seen x y).changeEntry b update := by
  unfold State.seen Handshake.State.changeEntry
  congr 1
  funext b'
  by_cases same : b' = b
  · subst same
    rw [Function.update_self]
    exact a.changeEntry_self ..
  · rw [Function.update_of_ne same]
    exact a.changeEntry_of_ne _ fun both => same (pick_injective apart both.1)

theorem seen_changeEntry_of_ne (update : Entry → Entry)
    (other : ∀ b, ¬ (u = pick x y b ∧ v = pick x y !b)) :
    (a.changeEntry u v update).seen x y = a.seen x y := by
  unfold State.seen
  congr 1
  funext b
  exact a.changeEntry_of_ne _ fun both => other b ⟨both.1.symm, both.2.symm⟩

theorem seen_setAddressed_self (apart : x ≠ y) (b : Bool) :
    (a.setAddressed (pick x y b)).seen x y = (a.seen x y).setAddressed b := by
  unfold State.seen Handshake.State.setAddressed
  congr 1
  funext b'
  by_cases same : b' = b
  · subst same
    rw [Function.update_self]
    exact Function.update_self ..
  · rw [Function.update_of_ne same]
    exact Function.update_of_ne (fun isB => same (pick_injective apart isB)) ..

theorem seen_release_self (sane : Sane a) (apart : x ≠ y) (b : Bool) (s : Status) :
    (a.release (pick x y b) (pick x y !b) s).seen x y = (a.seen x y).release b s := by
  cases voice : a.voice (pick x y b) (pick x y !b) with
  | none =>
      have silent : (a.seen x y).voice b = none := voice
      rw [State.release_silent s voice, Handshake.State.release_silent s silent]
  | some talker =>
      obtain ⟨c, e⟩ := talker
      have talks : (a.seen x y).voice b = some (c, e) := voice
      obtain ⟨_, own, other, _⟩ := sane.voice _ _ _ _ voice
      obtain ⟨b', joins⟩ := Wire.joins_of_owner own other
      rw [State.release_talking s voice, Handshake.State.release_talking s talks]
      generalize isMid : a.changeEntry (pick x y b) (pick x y !b) (fun entry =>
        { entry with ready := false, conn := none }) = mid
      have joins' : (mid.wire c).Joins x y b' := by
        rw [← isMid]
        exact joins
      rw [seen_setLine_of_joins apart joins' fun _ _ => rfl, ← isMid, seen_changeEntry_self apart]

theorem seen_release_of_ne (sane : Sane a) (s : Status)
    (other : ∀ b, ¬ (u = pick x y b ∧ v = pick x y !b)) :
    (a.release u v s).seen x y = a.seen x y := by
  cases voice : a.voice u v with
  | none => rw [State.release_silent s voice]
  | some talker =>
      obtain ⟨c, e⟩ := talker
      obtain ⟨_, isU, isV, _⟩ := sane.voice _ _ _ _ voice
      rw [State.release_talking s voice]
      generalize isMid : a.changeEntry u v (fun entry =>
        { entry with ready := false, conn := none }) = mid
      have apart : ∀ b, ¬ (mid.wire c).Joins x y b := by
        intro b joins
        rw [← isMid] at joins
        obtain ⟨client, server⟩ : (a.wire c).client = pick x y b ∧
          (a.wire c).server = pick x y !b := joins
        cases e with
        | client => exact other b ⟨isU.symm.trans client, isV.symm.trans server⟩
        | server =>
            refine other (!b) ⟨isU.symm.trans server, ?_⟩
            rw [Bool.not_not]
            exact isV.symm.trans client
      rw [seen_setLine_of_apart apart, ← isMid, seen_changeEntry_of_ne _ other]

theorem seen_connect_self (apart : x ≠ y) (b : Bool) :
    (a.connect (pick x y b) (pick x y !b)).seen x y = (a.seen x y).connect b := by
  have entry := seen_setEntry_self (a := a) apart b ⟨false, false, some a.wire.next⟩
  have new : Wire.seen ⟨pick x y b, pick x y !b, .dialled false⟩ x y = .dialled b :=
    Wire.seen_of_joins apart ⟨rfl, rfl⟩
  unfold Handshake.State.connect
  change _ = { (a.seen x y).setEntry b ⟨false, false, some a.wire.next⟩ with
    wire := (a.seen x y).wire.alloc (.dialled b) }
  rw [← entry]
  unfold State.connect State.seen
  congr 1
  unfold Heap.alloc
  congr 1
  funext d
  dsimp only
  by_cases same : d = a.wire.next
  · rw [same, Function.update_self, Function.update_self]
    exact new
  · rw [Function.update_of_ne same, Function.update_of_ne same]

theorem beside_connect (other : ∀ b, ¬ (u = pick x y b ∧ v = pick x y !b)) :
    Handshake.Beside (a.seen x y) ((a.connect u v).seen x y) := by
  have entry := seen_setEntry_of_ne (a := a) ⟨false, false, some a.wire.next⟩ other
  refine ⟨?_, fun _ => id, Nat.le_succ _, ?_, ?_⟩
  · intro b
    have same := congrArg (fun seen : Handshake.State (Option ι) => seen.entry b) entry
    exact same
  · intro c known
    have old : (a.connect u v).wire c = a.wire c := Heap.alloc_of_lt _ _ known
    exact congrArg (fun w : Wire ι => w.seen x y) old
  · intro c new known
    have isNew : c = a.wire.next := Nat.le_antisymm (Nat.le_of_lt_succ known) new
    have seen : ((a.connect u v).seen x y).wire c = gone := by
      change ((a.wire.alloc _) c).seen x y = gone
      rw [isNew, Heap.alloc_self]
      exact Wire.seen_of_apart other
    rw [seen]
    exact ⟨fun _ => rfl, fun _ => rfl, rfl⟩

/-- Who gets to know whom is the dialling of a pair, or nothing to it. -/
theorem seen_meet (apart : x ≠ y) (u v : ι) :
    (a.meet u v).seen x y = a.seen x y ∨ ∃ b, (a.seen x y).entry b = none ∧
      (a.meet u v).seen x y = (a.seen x y).setEntry b ⟨false, false, none⟩ := by
  unfold State.meet
  split
  · next new =>
    by_cases within : ∃ b, u = pick x y b ∧ v = pick x y !b
    · obtain ⟨b, rfl, rfl⟩ := within
      exact .inr ⟨b, new.2, seen_setEntry_self apart b _⟩
    · exact .inl (seen_setEntry_of_ne _ fun b both => within ⟨b, both⟩)
  · exact .inl rfl

/-- What one of a pair says to everybody it says to the other one. -/
theorem seen_say_self (sane : Sane a) (apart : x ≠ y) (b : Bool) (talks : ι → List (Option ι)) :
    (a.say (pick x y b) talks).seen x y = (a.seen x y).say b (talk (talks (pick x y !b))) := by
  have wire : ∀ d, ((a.say (pick x y b) talks).wire d).seen x y =
      if (a.seen x y).voice b = some (d, .client) then
        ((a.wire d).seen x y).push .server (talk (talks (pick x y !b)))
      else if (a.seen x y).voice b = some (d, .server) then
        ((a.wire d).seen x y).push .client (talk (talks (pick x y !b)))
      else (a.wire d).seen x y := by
    intro d
    rw [seen_voice]
    change Wire.seen { a.wire d with line := a.said (pick x y b) talks d (a.wire d) } x y = _
    rcases (a.wire d).joins_or_apart x y with ⟨b', joins⟩ | none
    · have after (line : Handshake.Wire (Option ι)) :
          Wire.seen { a.wire d with line := line } x y = { line with client := b' } :=
        Wire.seen_of_joins apart joins
      rw [after, Wire.seen_of_joins apart joins]
      by_cases speaks : ∃ e, a.voice (pick x y b) (pick x y !b) = some (d, e)
      · obtain ⟨e, voice⟩ := speaks
        rw [sane.said_of_voice talks voice, voice]
        cases e with
        | client =>
            rw [if_pos rfl]
            exact blind_push _ _ _ _
        | server =>
            rw [if_neg (by simp), if_pos rfl]
            exact blind_push _ _ _ _
      · rw [if_neg fun here => speaks ⟨_, here⟩, if_neg fun here => speaks ⟨_, here⟩,
          Sane.said_of_silent talks]
        intro z e voice
        obtain ⟨_, own, other, _⟩ := sane.voice _ _ _ _ voice
        have isOther : z = pick x y !b := by
          rw [Wire.owner_of_joins apart joins] at own other
          rw [owner_other, pick_injective apart own] at other
          exact other.symm
        rw [isOther] at voice
        exact speaks ⟨e, voice⟩
    · have after (line : Handshake.Wire (Option ι)) :
          Wire.seen { a.wire d with line := line } x y = gone :=
        Wire.seen_of_apart none
      have silent (e : End) : a.voice (pick x y b) (pick x y !b) ≠ some (d, e) := by
        intro voice
        obtain ⟨_, own, other, _⟩ := sane.voice _ _ _ _ voice
        obtain ⟨b', joins⟩ := Wire.joins_of_owner own other
        exact none b' joins
      rw [after, if_neg (silent _), if_neg (silent _), Wire.seen_of_apart none]
  unfold Handshake.State.say
  cases voice : (a.seen x y).voice b with
  | none =>
      unfold State.seen
      congr 1
      congr 1
      funext d
      refine (wire d).trans ?_
      rw [voice, if_neg (by simp), if_neg (by simp)]
  | some talker =>
      obtain ⟨c, e⟩ := talker
      unfold Handshake.State.setWire State.seen
      congr 1
      unfold Heap.modify
      congr 1
      funext d
      refine (wire d).trans ?_
      rw [voice]
      by_cases same : d = c
      · subst same
        rw [Function.update_self]
        cases e with
        | client => rw [if_pos rfl]; rfl
        | server => rw [if_neg (by simp), if_pos rfl]; rfl
      · rw [Function.update_of_ne same, if_neg, if_neg]
        · exact fun here => same (Prod.mk.inj (Option.some.inj here)).1.symm
        · exact fun here => same (Prod.mk.inj (Option.some.inj here)).1.symm

theorem seen_say_of_ne (sane : Sane a) (other : ∀ b, u ≠ pick x y b)
    (talks : ι → List (Option ι)) : (a.say u talks).seen x y = a.seen x y := by
  unfold State.seen
  congr 1
  congr 1
  funext d
  change Wire.seen { a.wire d with line := a.said u talks d (a.wire d) } x y = _
  rcases (a.wire d).joins_or_apart x y with ⟨b, joins⟩ | none
  · rw [Sane.said_of_silent talks]
    intro z e voice
    obtain ⟨_, own, _, _⟩ := sane.voice _ _ _ _ voice
    cases e with
    | client => exact other b (own.symm.trans joins.1)
    | server => exact other (!b) (own.symm.trans joins.2)
  · rw [Wire.seen_of_apart none]
    exact Wire.seen_of_apart none

end

/-! ## Every step is a step of the handshake or nothing to the pair -/

section

variable {yields : ι → ι → Bool} {a a' : State ι} {x y : ι} {c : ConnId} {e : End}

/-- Who of the pair yields to the other one. -/
def between (yields : ι → ι → Bool) (x y : ι) (b : Bool) : Bool :=
  yields (pick x y b) (pick x y !b)

omit [DecidableEq ι] in
private theorem push_push (w : Handshake.Wire (Option ι)) (e : End)
    (lines more : List (Message (Option ι))) :
    (w.push e lines).push e more = w.push e (lines ++ more) := by
  unfold Handshake.Wire.push
  cases lost : w.lost with
  | true => simp only [lost, ↓reduceIte]
  | false =>
      simp only [Bool.false_eq_true, ↓reduceIte, Function.update_self, Function.update_idem,
        List.append_assoc]

/-- `CONNECTED` and what is said then. -/
private theorem seen_ready_say (mid : State ι) (sane : Sane a) (apart : x ≠ y) {b b' : Bool}
    (joins : (a.wire c).Joins x y b') (own : (a.wire c).owner e = pick x y b)
    (other : (a.wire c).owner e.other = pick x y !b) (current : (a.wire c).line.status e = .current)
    (known : c < a.wire.next) (talks : ι → List (Option ι))
    (isMid : mid = (a.answer c e []).changeEntry (pick x y b) (pick x y !b)
      fun entry => { entry with ready := true }) (saneMid : Sane mid) :
    (mid.say (pick x y b) talks).seen x y =
      ((a.seen x y).answer c e (talk (talks (pick x y !b)))).changeEntry b
        fun entry => { entry with ready := true } := by
  have seenMid : mid.seen x y = ((a.seen x y).answer c e []).changeEntry b
      fun entry => { entry with ready := true } := by
    have joins' : ((a.answer c e []).wire c).Joins x y b' := by
      unfold State.answer
      rw [State.setLine_wire, if_pos rfl]
      exact joins
    rw [isMid, seen_changeEntry_self apart]
    unfold State.answer
    rw [seen_setLine_of_joins apart joins]
    · rfl
    · intro w b
      exact blind_push _ _ (w.pop e) b
  have voice : (mid.seen x y).voice b = some (c, e) := by
    have before := sane.current c known e current
    rw [own, other] at before
    rw [seenMid]
    refine Eq.trans ?_ before
    exact ((a.seen x y).answer c e []).voice_changeEntry b b (fun _ => rfl) fun _ => rfl
  rw [seen_say_self saneMid apart]
  have said : (mid.seen x y).say b (talk (talks (pick x y !b))) =
      (mid.seen x y).setWire c (·.push e.other (talk (talks (pick x y !b)))) := by
    unfold Handshake.State.say
    rw [voice]
  rw [said, seenMid]
  unfold Handshake.State.answer Handshake.State.changeEntry Handshake.State.setWire
  congr 1
  unfold Heap.modify
  congr 1
  funext d
  by_cases same : d = c
  · subst same
    simp only [Function.update_self, push_push, List.nil_append]
  · simp only [Function.update_of_ne same]

/-- A pair that no other process has a part in. -/
theorem Step.seen (step : Step True yields a a') (sane : Sane a) (apart : x ≠ y) :
    Handshake.Step (between yields x y) (a.seen x y) (a'.seen x y) ∨
      Handshake.Beside (a.seen x y) (a'.seen x y) := by
  have unseen {a' : State ι} (same : a'.seen x y = a.seen x y) :
      Handshake.Beside (a.seen x y) (a'.seen x y) := by
    rw [same]
    exact .refl _
  have view {c : ConnId} {b : Bool} (joins : (a.wire c).Joins x y b) :
      (a.seen x y).wire c = { (a.wire c).line with client := b } := Wire.seen_of_joins apart joins
  have owner {c : ConnId} {b : Bool} (joins : (a.wire c).Joins x y b) (e : End) :
      (a.wire c).owner e = pick x y (((a.seen x y).wire c).owner e) ∧
        (a.wire c).owner e.other = pick x y !((a.seen x y).wire c).owner e := by
    refine ⟨Wire.owner_of_joins apart joins e, ?_⟩
    rw [← owner_other]
    exact Wire.owner_of_joins apart joins e.other
  have blindAnswer (e : End) (lines : List (Message (Option ι))) :
      Blind fun w => (w.pop e).push e.other lines := fun w b => blind_push _ _ (w.pop e) b
  -- the other cases are about one connection, which is one of the pair or not
  have line {c : ConnId} {change : Handshake.Wire (Option ι) → Handshake.Wire (Option ι)}
      (blind : Blind change)
      (turn : ∀ b, (a.wire c).Joins x y b → Handshake.Step (between yields x y) (a.seen x y)
        ((a.seen x y).setWire c change)) :
      Handshake.Step (between yields x y) (a.seen x y) ((a.setLine c change).seen x y) ∨
        Handshake.Beside (a.seen x y) ((a.setLine c change).seen x y) := by
    rcases (a.wire c).joins_or_apart x y with ⟨b, joins⟩ | none
    · rw [seen_setLine_of_joins apart joins blind]
      exact .inl (turn b joins)
    · exact .inr (unseen (seen_setLine_of_apart none))
  cases step with
  | meet u v =>
      rcases seen_meet (a := a) apart u v with same | ⟨b, unmet, result⟩
      · exact .inr (unseen same)
      · rw [result]
        exact .inl (.dial b unmet)
  | connect u v others dialling =>
      by_cases within : ∃ b, u = pick x y b ∧ v = pick x y !b
      · obtain ⟨b, rfl, rfl⟩ := within
        rw [seen_connect_self apart]
        exact .inl (.connect b false dialling)
      · exact .inr (beside_connect fun b both => within ⟨b, both⟩)
  | accept c known unborn =>
      refine line (fun _ _ => rfl) fun b joins => .accept c known ?_
      rw [view joins]
      exact unborn
  | greet c e known current rest first =>
      refine line (blindAnswer e _) fun b joins => .greet c e known ?_ rest ?_
      · rw [view joins]
        exact current
      · rw [view joins]
        exact first
  | address c e known current rest first =>
      rcases (a.wire c).joins_or_apart x y with ⟨b, joins⟩ | none
      · left
        rw [(owner joins e).1, seen_setAddressed_self apart]
        unfold State.answer
        rw [seen_setLine_of_joins apart joins (blindAnswer e [])]
        refine .address c e known ?_ rest ?_
        · rw [view joins]
          exact current
        · rw [view joins]
          exact first
      · right
        have same : (a.answer c e []).seen x y = a.seen x y := seen_setLine_of_apart none
        refine ⟨fun _ => rfl, ?_, Nat.le_refl _, ?_, ?_⟩
        · intro b told
          change Function.update a.addressed _ true (pick x y b) = true
          by_cases isOwner : pick x y b = (a.wire c).owner e
          · rw [isOwner]
            exact Function.update_self ..
          · rw [Function.update_of_ne isOwner]
            exact told
        · intro d _
          have wire := congrArg (fun seen : Handshake.State (Option ι) => seen.wire d) same
          exact wire
        · exact fun _ new old => absurd old (Nat.not_lt_of_ge new)
  | ready c e talks known current rest first a' after tells entitled =>
      have saneAfter : Sane a' := by
        have answered : Sane (a.answer c e []) :=
          sane.answer current first List.not_mem_nil nofun
        rw [after]
        exact answered.becomeReady (sane.current c known e current)
      rcases (a.wire c).joins_or_apart x y with ⟨b, joins⟩ | none
      · left
        obtain ⟨own, other⟩ := owner joins e
        rw [own, seen_ready_say a' sane apart joins own other current known talks
          (by rw [after, own, other]) saneAfter]
        refine .ready c e _ known ?_ rest ?_
        · rw [view joins]
          exact current
        · rw [view joins]
          exact first
      · have strange : ∀ b, ¬ ((a.wire c).owner e = pick x y b ∧
            (a.wire c).owner e.other = pick x y !b) := by
          rintro b ⟨own, other⟩
          obtain ⟨b', joins⟩ := Wire.joins_of_owner own other
          exact none b' joins
        have same : a'.seen x y = a.seen x y := by
          rw [after, seen_changeEntry_of_ne _ strange]
          exact seen_setLine_of_apart none
        by_cases within : ∃ b, (a.wire c).owner e = pick x y b
        · left
          obtain ⟨b, own⟩ := within
          rw [own, seen_say_self saneAfter apart, same]
          refine .talk b _ ?_
          rw [own] at entitled
          refine (entitled trivial (pick x y !b)).imp id fun isReady => ?_
          rw [← same]
          exact isReady
        · right
          refine unseen ((seen_say_of_ne saneAfter ?_ talks).trans same)
          exact fun b own => within ⟨b, own⟩
  | hear c e text known current rest first =>
      have meets (a' : State ι) (r : ι) (met : ∀ b, (a.wire c).owner e = pick x y b →
          r = pick x y (!b) → a'.entry (pick x y b) (pick x y !b) ≠ none) :
          (a'.meet ((a.wire c).owner e) r).seen x y = a'.seen x y := by
        unfold State.meet
        split
        · next new =>
          refine seen_setEntry_of_ne _ fun b both => ?_
          have unmet := new.2
          rw [both.1, both.2] at unmet
          exact met b both.1 both.2 unmet
        · rfl
      rcases (a.wire c).joins_or_apart x y with ⟨b, joins⟩ | none
      · left
        obtain ⟨own, other⟩ := owner joins e
        have heard : ((a.answer c e []).hear ((a.wire c).owner e) ((a.wire c).owner e.other)
            text).seen x y = (a.answer c e []).seen x y := by
          unfold State.hear
          cases text with
          | none => rfl
          | some r =>
              dsimp only
              split
              · refine meets _ r fun b' own' _ => ?_
                obtain rfl := pick_injective apart (own.symm.trans own')
                have voice := sane.current c known e current
                rw [own, other] at voice
                obtain ⟨entry, met, _⟩ := State.entry_of_voice voice
                exact fun unmet => nomatch (met.symm.trans unmet :)
              · rfl
        rw [heard]
        unfold State.answer
        rw [seen_setLine_of_joins apart joins (blindAnswer e [])]
        refine .hear c e text [] known ?_ rest ?_ (.inl rfl)
        · rw [view joins]
          exact current
        · rw [view joins]
          exact first
      · have same : (a.answer c e []).seen x y = a.seen x y := seen_setLine_of_apart none
        unfold State.hear
        cases text with
        | none => exact .inr (unseen same)
        | some r =>
            dsimp only
            split
            · rcases seen_meet (a := a.answer c e []) apart ((a.wire c).owner e) r with
                still | ⟨b, unmet, result⟩
              · exact .inr (unseen (still.trans same))
              · rw [result, same]
                exact .inl (.dial b unmet)
            · exact .inr (unseen same)
  | adopt c known incoming rest first allowed unready =>
      rcases (a.wire c).joins_or_apart x y with ⟨b, joins⟩ | none
      · left
        have client := joins.1
        have server := joins.2
        have notReady := unready trivial
        rw [notReady]
        rw [client, server] at allowed notReady ⊢
        have back : pick x y b = pick x y !!b := by rw [Bool.not_not]
        rw [back] at allowed notReady ⊢
        generalize isMid : a.release (pick x y !b) (pick x y !!b) .dropped = mid
        have seenMid : mid.seen x y = (a.seen x y).release (!b) .dropped := by
          rw [← isMid]
          exact seen_release_self sane apart (!b) .dropped
        have wire : mid.wire c = a.wire c := by
          rw [← isMid, ← server]
          exact sane.release_wire_of_incoming .dropped incoming
        have result : (mid.attach (pick x y !b) (pick x y !!b) c false).seen x y =
            (mid.seen x y).attach (!b) c := by
          unfold State.attach
          generalize isNext : mid.setEntry (pick x y !b) (pick x y !!b) ⟨true, false, some c⟩ = next
          have joins' : (next.wire c).Joins x y b := by
            rw [← isNext]
            change (mid.wire c).Joins x y b
            rw [wire]
            exact joins
          rw [seen_setLine_of_joins apart joins', ← isNext, seen_setEntry_self apart]
          · rfl
          · intro w b
            exact blind_push _ _ ((w.pop .server).setStatus .server .current) b
        rw [result, seenMid]
        have isClient : ((a.seen x y).wire c).client = b := by rw [view joins]
        have adopted : Handshake.Step (between yields x y) (a.seen x y)
            (((a.seen x y).release (!((a.seen x y).wire c).client) .dropped).attach
              (!((a.seen x y).wire c).client) c) := by
          refine .adopt c known ?_ rest ?_ ?_
          · rw [view joins]
            exact incoming
          · rw [view joins]
            exact first
          · rw [isClient]
            intro entry met
            refine ⟨?_, allowed entry met⟩
            have isReady := State.ready_of_entry (a := a) met
            exact isReady.symm.trans notReady
        rw [isClient] at adopted
        exact adopted
      · have strange : ∀ b, ¬ ((a.wire c).server = pick x y b ∧
            (a.wire c).client = pick x y !b) := by
          rintro b ⟨own, other⟩
          obtain ⟨b', joins⟩ := Wire.joins_of_owner (e := .server) own other
          exact none b' joins
        right
        unfold State.attach
        generalize isMid : a.release (a.wire c).server (a.wire c).client .dropped = mid
        have seenMid : mid.seen x y = a.seen x y := by
          rw [← isMid]
          exact seen_release_of_ne sane .dropped strange
        have wire : mid.wire c = a.wire c := by
          rw [← isMid]
          exact sane.release_wire_of_incoming .dropped incoming
        refine unseen (Eq.trans (seen_setLine_of_apart ?_) ((seen_setEntry_of_ne _ strange).trans
          seenMid))
        intro b joins
        change (mid.wire c).Joins x y b at joins
        rw [wire] at joins
        exact none b joins
  | reject c known incoming rest first entry met keeps dialled =>
      refine line (fun _ _ => rfl) fun b joins => ?_
      have client := joins.1
      have server := joins.2
      rw [client, server] at met keeps
      have back : pick x y b = pick x y !!b := by rw [Bool.not_not]
      have isClient : ((a.seen x y).wire c).client = b := by rw [view joins]
      refine .reject c known ?_ rest ?_ entry ?_ ?_ dialled
      · rw [view joins]
        exact incoming
      · rw [view joins]
        exact first
      · rw [isClient]
        change a.entry (pick x y !b) (pick x y !!b) = some entry
        rw [← back]
        exact met
      · rw [isClient]
        unfold between
        rw [← back]
        exact keeps
  | ignore c e known closed head rest first =>
      refine line (fun _ _ => rfl) fun b joins => .ignore c e known ?_ head rest ?_
      · rw [view joins]
        exact closed
      · rw [view joins]
        exact first
  | hangUp c e known current why =>
      rcases (a.wire c).joins_or_apart x y with ⟨b, joins⟩ | none
      · left
        obtain ⟨own, other⟩ := owner joins e
        rw [own, other, seen_release_self sane apart]
        refine .hangUp c e known ?_ ?_
        · rw [view joins]
          exact current
        · rw [view joins]
          exact why
      · right
        refine unseen (seen_release_of_ne sane .ended ?_)
        rintro b ⟨own, other⟩
        obtain ⟨b', joins⟩ := Wire.joins_of_owner own other
        exact none b' joins
  | leave c e known reads why =>
      refine line (fun _ _ => rfl) fun b joins => .leave c e known ?_ ?_
      · rw [view joins]
        exact reads
      · rw [view joins]
        exact why
  | lose c known => exact line (fun _ _ => rfl) fun b joins => .lose c known
  | say u talks entitled =>
      by_cases within : ∃ b, u = pick x y b
      · left
        obtain ⟨b, rfl⟩ := within
        rw [seen_say_self sane apart]
        exact .talk b _ (entitled trivial _)
      · exact .inr (unseen (seen_say_of_ne sane (fun b isU => within ⟨b, isU⟩) talks))

end

end Gossip

end LibPubSub
