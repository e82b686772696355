import LibPubSub.Meeting

/-! How often a process passes on what it knows. Every `CONNECTED` makes `on_receive` tell
all hosts about all hosts, and each end of a connection hears it at most once, whatever
happens to the connection. -/

set_option autoImplicit false

namespace LibPubSub

open Handshake (Message Status Entry talk)
open Fallible Transition

namespace Handshake.Message

variable {Text : Type}

def isId : Message Text → Bool
  | .id => true
  | _ => false

def isConnected : Message Text → Bool
  | .connected => true
  | _ => false

end Handshake.Message

/-! ## The protocol -/

namespace Gossip

variable {ι : Type}

namespace Wire

/-- Whether the server has still to take the connection. -/
def opening (w : Wire ι) : Nat :=
  if w.line.status .server = .unborn ∨ w.line.status .server = .incoming then 1 else 0

/-- How often what is under way and the server can make the other end of `e` say `CONNECTED`. -/
def pledged (w : Wire ι) : End → Nat
  | .client => w.opening
  | .server => (w.line.queue .client).countP Message.isId + w.opening

/-- How often end `e` may still hear `CONNECTED`. -/
def promised (w : Wire ι) (e : End) : Nat :=
  (w.line.queue e).countP Message.isConnected + w.pledged e

/-- A server that has taken the connection will not hear `ID=` on it. -/
def Spent (w : Wire ι) : Prop :=
  w.line.status .server = .current → (w.line.queue .server).countP Message.isId = 0

/-- Nothing new is promised. -/
structure Spends (w w' : Wire ι) : Prop where
  promised : ∀ e, w'.promised e ≤ w.promised e
  pledged : ∀ e, w'.pledged e ≤ w.pledged e
  spent : w'.Spent

variable {w mid w' : Wire ι}

theorem Spends.refl (spent : w.Spent) : Spends w w :=
  ⟨fun _ => Nat.le_refl _, fun _ => Nat.le_refl _, spent⟩

theorem Spends.trans (first : Spends w mid) (second : Spends mid w') : Spends w w' :=
  ⟨fun e => Nat.le_trans (second.promised e) (first.promised e),
    fun e => Nat.le_trans (second.pledged e) (first.pledged e), second.spent⟩

/-- Lines may have been received, and an end may have been left. -/
theorem spends_of_fewer (spent : w.Spent)
    (queue : ∀ e (counts : Message (Option ι) → Bool),
      (w'.line.queue e).countP counts ≤ (w.line.queue e).countP counts)
    (opening : w'.opening ≤ w.opening)
    (current : w'.line.status .server = .current → w.line.status .server = .current) :
    Spends w w' := by
  have pledged : ∀ e, w'.pledged e ≤ w.pledged e := by
    intro e
    cases e with
    | client => exact opening
    | server => exact Nat.add_le_add (queue .client _) opening
  refine ⟨fun e => Nat.add_le_add (queue e _) (pledged e), pledged, fun isCurrent => ?_⟩
  have before := queue .server Message.isId
  rw [spent (current isCurrent)] at before
  exact Nat.le_zero.mp before

theorem countP_pop (line : Handshake.Wire (Option ι)) (e e' : End)
    (counts : Message (Option ι) → Bool) :
    ((line.pop e).queue e').countP counts ≤ (line.queue e').countP counts := by
  unfold Handshake.Wire.pop
  dsimp only
  by_cases same : e' = e
  · subst same
    rw [Function.update_self]
    exact (List.tail_sublist _).countP_le
  · rw [Function.update_of_ne same]

theorem spends_pop (spent : w.Spent) (e : End) : Spends w { w with line := w.line.pop e } :=
  spends_of_fewer spent (fun e' counts => countP_pop w.line e e' counts) (Nat.le_refl _) id

theorem status_setStatus (line : Handshake.Wire (Option ι)) (e e' : End) (s : Status) :
    (line.setStatus e s).status e' = if e' = e then s else line.status e' :=
  Function.update_apply ..

/-- An end becomes neither current nor, if it has been taken, open again. -/
theorem spends_setStatus (spent : w.Spent) (e : End) {s : Status} (notCurrent : s ≠ .current)
    (opens : e = .server → s = .unborn ∨ s = .incoming → w.opening = 1) :
    Spends w { w with line := w.line.setStatus e s } := by
  refine spends_of_fewer spent (fun _ _ => Nat.le_refl _) ?_ ?_
  · unfold opening
    simp only [status_setStatus]
    by_cases isServer : End.server = e
    · rw [if_pos isServer]
      split
      · next starts =>
        have isOpen := opens isServer.symm starts
        unfold opening at isOpen
        rw [isOpen]
      · exact Nat.zero_le _
    · rw [if_neg isServer]
  · intro isCurrent
    change (w.line.setStatus e s).status .server = .current at isCurrent
    rw [status_setStatus] at isCurrent
    split at isCurrent
    · exact absurd isCurrent notCurrent
    · exact isCurrent

theorem spends_lose (spent : w.Spent) : Spends w { w with line := { w.line with lost := true } } :=
  spends_of_fewer spent (fun _ _ => Nat.le_refl _) (Nat.le_refl _) id

theorem countP_push (line : Handshake.Wire (Option ι)) (e e' : End)
    (lines : List (Message (Option ι))) (counts : Message (Option ι) → Bool) :
    ((line.push e lines).queue e').countP counts ≤
      (line.queue e').countP counts + if e' = e then lines.countP counts else 0 := by
  unfold Handshake.Wire.push
  split
  · exact Nat.le_add_right _ _
  · dsimp only
    by_cases same : e' = e
    · subst same
      rw [Function.update_self, if_pos rfl, List.countP_append]
    · rw [Function.update_of_ne same, if_neg same]
      exact Nat.le_refl _

theorem status_push (line : Handshake.Wire (Option ι)) (e : End)
    (lines : List (Message (Option ι))) : (line.push e lines).status = line.status := by
  unfold Handshake.Wire.push
  split <;> rfl

theorem spends_talk (spent : w.Spent) (e : End) (texts : List (Option ι)) :
    Spends w { w with line := w.line.push e (talk texts) } := by
  have none : ∀ counts : Message (Option ι) → Bool, (∀ text, counts (.talk text) = false) →
      (talk texts).countP counts = 0 := by
    intro counts unheard
    refine List.countP_eq_zero.mpr fun message member => ?_
    obtain ⟨text, _, rfl⟩ := List.mem_map.mp member
    rw [unheard]
    exact Bool.false_ne_true
  have fewer : ∀ (e' : End) (counts : Message (Option ι) → Bool),
      (∀ text, counts (.talk text) = false) →
      ((w.line.push e (talk texts)).queue e').countP counts ≤ (w.line.queue e').countP counts := by
    intro e' counts unheard
    have atMost := countP_push w.line e e' (talk texts) counts
    rw [none counts unheard, ite_self] at atMost
    exact atMost
  have opening : opening { w with line := w.line.push e (talk texts) } = w.opening := by
    unfold Wire.opening
    rw [status_push]
  have pledged : ∀ e', Wire.pledged { w with line := w.line.push e (talk texts) } e' ≤
      w.pledged e' := by
    intro e'
    cases e' with
    | client => exact Nat.le_of_eq opening
    | server => exact Nat.add_le_add (fewer .client _ fun _ => rfl) (Nat.le_of_eq opening)
  refine ⟨fun e' => Nat.add_le_add (fewer e' _ fun _ => rfl) (pledged e'), pledged, ?_⟩
  intro current
  have status : w.line.status .server = .current := by
    rw [← status_push w.line e (talk texts)]
    exact current
  have before := fewer .server Message.isId fun _ => rfl
  rw [spent status] at before
  exact Nat.le_zero.mp before

/-- The client hears `ID=` and answers. -/
theorem spends_greet {rest : List (Message (Option ι))} (spent : w.Spent)
    (first : w.line.queue .client = .id :: rest) :
    Spends w { w with line := (w.line.pop .client).push .server [.connected] } := by
  let line := (w.line.pop .client).push .server [.connected]
  have queue : (w.line.pop .client).queue .client = rest := by
    simp only [Handshake.Wire.pop, Function.update_self, first, List.tail_cons]
  have other : (w.line.pop .client).queue .server = w.line.queue .server := by
    simp only [Handshake.Wire.pop]
    exact Function.update_of_ne (by decide) ..
  have client : ∀ counts, (line.queue .client).countP counts ≤ rest.countP counts := by
    intro counts
    have atMost := countP_push (w.line.pop .client) .server .client [.connected] counts
    rwa [queue] at atMost
  have server : ∀ counts, (line.queue .server).countP counts ≤
      (w.line.queue .server).countP counts + [Message.connected].countP counts := by
    intro counts
    have atMost := countP_push (w.line.pop .client) .server .server [.connected] counts
    rwa [other] at atMost
  have opening : Wire.opening { w with line := line } = w.opening := by
    unfold Wire.opening
    change (if line.status .server = _ ∨ line.status .server = _ then 1 else 0) = _
    rw [status_push]
    rfl
  have heard : (w.line.queue .client).countP Message.isConnected = rest.countP Message.isConnected := by
    rw [first]
    rfl
  have said : (w.line.queue .client).countP Message.isId = rest.countP Message.isId + 1 := by
    rw [first]
    exact List.countP_cons_of_pos rfl
  have ids := client Message.isId
  have connecteds := client Message.isConnected
  have answered : (line.queue .server).countP Message.isConnected ≤
      (w.line.queue .server).countP Message.isConnected + 1 := server Message.isConnected
  refine ⟨fun e => ?_, fun e => ?_, ?_⟩
  · cases e with
    | client =>
        change (line.queue .client).countP _ + Wire.opening _ ≤ _ + _
        rw [opening, heard]
        exact Nat.add_le_add_right connecteds _
    | server =>
        change (line.queue .server).countP _ + ((line.queue .client).countP _ + Wire.opening _) ≤
          _ + (_ + _)
        rw [opening, said]
        omega
  · cases e with
    | client => exact Nat.le_of_eq opening
    | server =>
        change (line.queue .client).countP _ + Wire.opening _ ≤ _ + _
        rw [opening, said]
        omega
  · intro current
    change line.status .server = .current at current
    rw [status_push] at current
    have before := server Message.isId
    rw [spent current] at before
    exact Nat.le_zero.mp before

/-- The server takes the connection and greets on it. -/
theorem spends_attach {talks : List (Option ι)} (incoming : w.line.status .server = .incoming)
    (first : w.line.queue .server = .id :: .you :: talk talks) (ready : Bool) :
    Spends w { w with line := (((w.line.pop .server).setStatus .server .current).push .client
      (.id :: .you :: if ready then [] else [.connected])) } := by
  let before := (w.line.pop .server).setStatus .server .current
  let greeting : List (Message (Option ι)) := .id :: .you :: if ready then [] else [.connected]
  let line := before.push .client greeting
  have server : before.queue .server = .you :: talk talks := by
    simp only [before, Handshake.Wire.pop, Handshake.Wire.setStatus, Function.update_self, first,
      List.tail_cons]
  have client : before.queue .client = w.line.queue .client := by
    simp only [before, Handshake.Wire.pop, Handshake.Wire.setStatus]
    exact Function.update_of_ne (by decide) ..
  have toServer : ∀ counts, (line.queue .server).countP counts ≤
      (Message.you :: talk talks).countP counts := by
    intro counts
    have atMost := countP_push before .client .server greeting counts
    rwa [server] at atMost
  have toClient : ∀ counts, (line.queue .client).countP counts ≤
      (w.line.queue .client).countP counts + greeting.countP counts := by
    intro counts
    have atMost := countP_push before .client .client greeting counts
    rwa [client] at atMost
  have opened : w.opening = 1 := by
    unfold opening
    rw [if_pos (.inr incoming)]
  have taken : Wire.opening { w with line := line } = 0 := by
    have current : line.status .server = .current := by
      simp only [line, before, status_push, status_setStatus, ↓reduceIte]
    unfold opening
    rw [current]
    rfl
  have ids : greeting.countP Message.isId = 1 := by cases ready <;> rfl
  have connecteds : greeting.countP Message.isConnected ≤ 1 := by
    cases ready
    · exact Nat.le_refl 1
    · exact Nat.zero_le 1
  have noId : (Message.you :: talk talks).countP Message.isId = 0 := by
    refine List.countP_eq_zero.mpr fun message member => ?_
    rcases List.mem_cons.mp member with rfl | member
    · exact Bool.false_ne_true
    · obtain ⟨text, _, rfl⟩ := List.mem_map.mp member
      exact Bool.false_ne_true
  have fewer : (line.queue .server).countP Message.isConnected ≤
      (w.line.queue .server).countP Message.isConnected := by
    refine Nat.le_trans (toServer _) ?_
    rw [first]
    exact (List.sublist_cons_self _ _).countP_le
  have more := toClient Message.isId
  have moreConnected := toClient Message.isConnected
  refine ⟨fun e => ?_, fun e => ?_, fun _ => ?_⟩
  · cases e with
    | client =>
        change (line.queue .client).countP _ + Wire.opening { w with line := line } ≤ _ + w.opening
        rw [taken]
        omega
    | server =>
        change (line.queue .server).countP _ + ((line.queue .client).countP _ +
          Wire.opening { w with line := line }) ≤ _ + (_ + w.opening)
        rw [taken]
        omega
  · cases e with
    | client =>
        change Wire.opening { w with line := line } ≤ w.opening
        rw [taken]
        exact Nat.zero_le _
    | server =>
        change (line.queue .client).countP _ + Wire.opening { w with line := line } ≤ _ + w.opening
        rw [taken]
        omega
  · have none := toServer Message.isId
    rw [noId] at none
    exact Nat.le_zero.mp none

/-- A connection that has just been dialled. -/
structure Fresh (w : Wire ι) : Prop where
  promised : ∀ e, w.promised e ≤ 1
  spent : w.Spent

theorem fresh_dialled (x y : ι) : Fresh ⟨x, y, .dialled false⟩ := by
  constructor
  · intro e
    cases e <;> exact Nat.le_refl 1
  · intro current
    cases current

end Wire

variable [DecidableEq ι] {strict : Prop} {yields : ι → ι → Bool} {a mid a' : State ι}

/-- What a step does to what is promised on the connections. -/
structure Spends (a a' : State ι) : Prop where
  next : a.wire.next ≤ a'.wire.next
  old : ∀ c < a.wire.next, Wire.Spends (a.wire c) (a'.wire c)
  fresh : ∀ c < a'.wire.next, a.wire.next ≤ c → Wire.Fresh (a'.wire c)

/-- No server that has taken a connection will hear `ID=` on it. -/
def Spent (a : State ι) : Prop :=
  ∀ c < a.wire.next, (a.wire c).Spent

namespace Spends

omit [DecidableEq ι] in
theorem spent (spends : Spends a a') : Spent a' := by
  intro c known
  by_cases old : c < a.wire.next
  · exact (spends.old c old).spent
  · exact (spends.fresh c known (Nat.not_lt.mp old)).spent

omit [DecidableEq ι] in
theorem of_wire (spent : Spent a) (next : a'.wire.next = a.wire.next)
    (each : ∀ c < a.wire.next, a'.wire c = a.wire c ∨ Wire.Spends (a.wire c) (a'.wire c)) :
    Spends a a' := by
  refine ⟨Nat.le_of_eq next.symm, fun c known => ?_, fun c known outside => ?_⟩
  · rcases each c known with same | spends
    · rw [same]
      exact .refl (spent c known)
    · exact spends
  · rw [next] at known
    exact absurd known (Nat.not_lt.mpr outside)

omit [DecidableEq ι] in
theorem refl (spent : Spent a) : Spends a a :=
  of_wire spent rfl fun _ _ => .inl rfl

omit [DecidableEq ι] in
theorem trans (first : Spends a mid) (second : Spends mid a') : Spends a a' := by
  refine ⟨Nat.le_trans first.next second.next, fun c known => ?_, fun c known outside => ?_⟩
  · exact (first.old c known).trans (second.old c (Nat.lt_of_lt_of_le known first.next))
  · by_cases there : c < mid.wire.next
    · have fresh := first.fresh c there outside
      have spends := second.old c there
      exact ⟨fun e => Nat.le_trans (spends.promised e) (fresh.promised e), spends.spent⟩
    · exact second.fresh c known (Nat.not_lt.mp there)

omit [DecidableEq ι] in
theorem congr (spends : Spends a mid) (same : a'.wire = mid.wire) : Spends a a' := by
  obtain ⟨next, old, fresh⟩ := spends
  rw [← same] at next old fresh
  exact ⟨next, old, fresh⟩

omit [DecidableEq ι] in
theorem setLine {c : ConnId} {change : Handshake.Wire (Option ι) → Handshake.Wire (Option ι)}
    (spent : Spent a)
    (spends : Wire.Spends (a.wire c) { a.wire c with line := change (a.wire c).line }) :
    Spends a (a.setLine c change) := by
  refine of_wire spent rfl fun d _ => ?_
  rw [State.setLine_wire]
  split
  · next same => exact .inr (same ▸ spends)
  · exact .inl rfl

theorem release (spent : Spent a) (x y : ι) {s : Status}
    (gone : s = .dropped ∨ s = .ended) : Spends a (a.release x y s) := by
  refine of_wire spent (State.release_next a x y s) fun c known => ?_
  rcases a.release_wire x y s c with same | ⟨e, voice, changed⟩
  · exact .inl same
  · rw [changed]
    refine .inr (Wire.spends_setStatus (spent c known) e ?_ ?_)
    · rcases gone with rfl | rfl <;> exact nofun
    · rintro _ (starts | starts) <;> rcases gone with rfl | rfl <;> cases starts

omit [DecidableEq ι] in
theorem say [DecidableEq ι] (spent : Spent a) (x : ι) (talks : ι → List (Option ι)) :
    Spends a (a.say x talks) := by
  refine of_wire spent rfl fun c known => ?_
  have changed : (a.say x talks).wire c = { a.wire c with line := a.said x talks c (a.wire c) } := rfl
  rw [changed]
  unfold State.said
  split
  · exact .inr (Wire.spends_talk (spent c known) .server _)
  · split
    · exact .inr (Wire.spends_talk (spent c known) .client _)
    · exact .inl rfl

theorem connect (spent : Spent a) (x y : ι) : Spends a (a.connect x y) := by
  have wire : (a.connect x y).wire = a.wire.alloc ⟨x, y, .dialled false⟩ := rfl
  refine ⟨?_, fun c known => ?_, fun c known outside => ?_⟩
  · rw [wire]
    exact Nat.le_succ _
  · rw [wire, a.wire.alloc_of_lt _ known]
    exact .refl (spent c known)
  · rw [wire] at known ⊢
    have isNext : c = a.wire.next := Nat.le_antisymm (Nat.le_of_lt_succ known) outside
    rw [isNext, Heap.alloc_self]
    exact Wire.fresh_dialled x y

end Spends

/-- No step promises more on an old connection than there was. -/
theorem Step.spends (step : Step strict yields a a') (sane : Sane a) (spent : Spent a) :
    Spends a a' := by
  have pop : ∀ {c} e, c < a.wire.next → Spends a (a.answer c e []) := by
    intro c e known
    have popped := Wire.spends_pop (spent c known) e
    exact .setLine spent (popped.trans (Wire.spends_talk popped.spent e.other []))
  cases step with
  | meet x y => exact .of_wire spent (by rw [State.meet_wire]) fun c _ => .inl (by rw [State.meet_wire])
  | connect x y apart dialling => exact .connect spent x y
  | accept c known unborn =>
      refine .setLine spent (Wire.spends_setStatus (spent c known) .server nofun fun _ _ => ?_)
      unfold Wire.opening
      rw [if_pos (.inl unborn)]
  | greet c e known current rest first =>
      cases e with
      | client => exact .setLine spent (Wire.spends_greet (spent c known) first)
      | server =>
          have none := spent c known current
          rw [first, List.countP_cons_of_pos rfl] at none
          cases none
  | address c e known current rest first => exact (pop e known).congr rfl
  | ready c e talks known current rest first mid after tells entitled =>
      have popped : Spends a mid := (pop e known).congr (by rw [after]; rfl)
      exact popped.trans (.say popped.spent _ talks)
  | hear c e text known current rest first =>
      have popped := pop e known
      unfold State.hear
      split
      · split
        · refine popped.trans (.of_wire popped.spent (by rw [State.meet_wire]) fun c _ => .inl ?_)
          rw [State.meet_wire]
        · exact popped
      · exact popped
  | adopt c known incoming rest first allowed unready =>
      have released := Spends.release spent (a.wire c).server (a.wire c).client
        (s := .dropped) (.inl rfl)
      have same := sane.release_wire_of_incoming (y := (a.wire c).client) .dropped incoming
      obtain ⟨_, talks, queue⟩ := (sane.wire c known).opening (.inr incoming)
      have attached := Wire.spends_attach incoming queue
      rw [← same] at attached
      have changed : ((a.release (a.wire c).server (a.wire c).client .dropped).attach
          (a.wire c).server (a.wire c).client c
            (a.ready (a.wire c).server (a.wire c).client)).wire =
          ((a.release (a.wire c).server (a.wire c).client .dropped).setLine c fun w =>
            ((w.pop .server).setStatus .server .current).push .client (.id :: .you ::
              if a.ready (a.wire c).server (a.wire c).client then [] else [.connected])).wire := rfl
      refine released.trans (.congr ?_ changed)
      exact .setLine released.spent (attached _)
  | reject c known incoming rest first e met keeps dialled =>
      have popped := Wire.spends_pop (spent c known) .server
      refine .setLine spent (popped.trans (Wire.spends_setStatus popped.spent .server nofun ?_))
      rintro _ (starts | starts) <;> cases starts
  | ignore c e known closed first rest head =>
      exact .setLine spent (Wire.spends_pop (spent c known) e)
  | hangUp c e known current why => exact .release spent _ _ (.inr rfl)
  | leave c e known reads why =>
      refine .setLine spent (Wire.spends_setStatus (spent c known) e nofun ?_)
      rintro _ (starts | starts) <;> cases starts
  | lose c known => exact .setLine spent (Wire.spends_lose (spent c known))
  | say x talks entitled => exact .say spent x talks

end Gossip

/-! ## The network -/

variable {ι : Type} {crowd : Crowd ι} {strict : Prop} {net net' start : Network ι}
  {topology : Topology ι} {action : Action ι} {a : Gossip.State ι} {c : ConnId} {e : End}

namespace Network

/-- The action brings `CONNECTED` to end `e` of connection `c`. -/
def Brings [DecidableEq ι] (c : ConnId) (e : End) (net : Network ι) (action : Action ι) : Prop :=
  action = .deliver c e ∧ ((net.link c).queue e).head? = some "CONNECTED".toList

instance [DecidableEq ι] (c : ConnId) (e : End) (net : Network ι) (action : Action ι) :
    Decidable (net.Brings c e action) :=
  inferInstanceAs (Decidable (_ ∧ _))

/-- How often end `e` of connection `c` hears `CONNECTED` in a run. -/
def rounds [DecidableEq ι] (c : ConnId) (e : End) : Network ι → List (Action ι × Network ι) → Nat
  | _, [] => 0
  | net, (action, next) :: rest => (if net.Brings c e action then 1 else 0) + rounds c e next rest

theorem rounds_concat [DecidableEq ι] (before : List (Action ι × Network ι))
    (brings : (final start before).Brings c e action) :
    1 ≤ rounds c e start (before ++ [(action, net)]) := by
  induction before generalizing start with
  | nil =>
      have here : start.Brings c e action := brings
      change 1 ≤ (if start.Brings c e action then 1 else 0) + 0
      rw [if_pos here]
  | cons entry before ih => exact Nat.le_trans (ih brings) (Nat.le_add_left _ _)

end Network

theorem Means.isConnected {p q : ι} {s : Str} {message : Message (Option ι)}
    (means : Means crowd strict p q s message) :
    message.isConnected = (s == "CONNECTED".toList) := by
  cases means with
  | id =>
      symm
      refine beq_eq_false_iff_ne.mpr fun same => ?_
      have starts : strStartsWith (Mesh.idLine (crowd.ID p) (crowd.port p)) "ID=".toList = true :=
        Mesh.idLine_starts
      rw [same] at starts
      revert starts
      decide
  | you =>
      symm
      refine beq_eq_false_iff_ne.mpr fun same => ?_
      have starts : strStartsWith (Mesh.youLine (crowd.ip q)) "YOU=".toList = true :=
        Mesh.youLine_starts
      rw [same] at starts
      revert starts
      decide
  | connected => rfl
  | host r =>
      symm
      refine beq_eq_false_iff_ne.mpr fun same => ?_
      have starts : strStartsWith (Mesh.hostText (crowd.ip r) (crowd.port r)) "Host=".toList = true :=
        Mesh.hostText_starts
      rw [same] at starts
      revert starts
      decide
  | statement chatty statement =>
      symm
      exact beq_eq_false_iff_ne.mpr statement.notConnected

/-- The protocol has as many `CONNECTED` under way as the network. -/
theorem Carried.connected {w : Gossip.Wire ι} (carried : Carried crowd strict net c w) (e : End) :
    (w.line.queue e).countP Message.isConnected =
      ((net.link c).queue e).countP (· == "CONNECTED".toList) := by
  have means := carried.queue e
  generalize (net.link c).queue e = lines at means
  generalize w.line.queue e = messages at means
  induction means with
  | nil => rfl
  | cons first _ ih => rw [List.countP_cons, List.countP_cons, ih, first.isConnected]

section

variable [DecidableEq ι] {i : ι} {n : Node} {k : SockPtr} {h : HostPtr} {entry : Entry}

/-- A process answers `CONNECTED` on its own ends only. -/
theorem Listens.told (listens : Listens crowd net a c e i k h entry)
    (represents : Represents crowd strict net a) (sane : Gossip.Sane a) (named : crowd.Named)
    (ran : (net.node i).line k "CONNECTED".toList = .ok n) :
    written n.mesh.sent c e.other = [] := by
  rw [Node.line_connected listens.isCurrent.listener] at ran
  have isNew := Except.ok.inj ran
  generalize isMid : ({ net.node i with mesh := Node.receiveConnected (net.node i).mesh h } : Node) =
    mid
  have becomes : n = { mid.broadcastPublishedChannels with
      mesh := mid.broadcastPublishedChannels.mesh.broadcastHosts } := by
    rw [← isNew, ← isMid]
    rfl
  obtain ⟨tidy, sent, _⟩ := (represents.mesh i).receiveConnected named listens.met listens.isHost
  generalize isEntries : Function.update (a.entry i) ((a.wire c).owner e.other)
    (some { entry with ready := true }) = entries at tidy
  have tidyMid : Tidy crowd i mid.mesh (a.addressed i) entries := by
    rw [← isMid]
    exact tidy
  have silent : mid.mesh.sent = [] := by
    rw [← isMid]
    exact sent.trans (represents.silent i)
  -- whoever can be written to now could be written to before
  have own : ∀ h', mid.mesh.voice h' ≠ some (c, e.other) := by
    intro h' voice
    obtain ⟨q, entry', met, _, conn, side⟩ := tidyMid.entry_of_voice voice
    have before : a.voice i q = some (c, e.other) := by
      rw [← isEntries] at met
      by_cases same : q = (a.wire c).owner e.other
      · subst same
        rw [Function.update_self] at met
        obtain rfl := Option.some.inj met
        rw [Gossip.State.voice_of_entry listens.met]
        change Option.map (·, entry.side) entry.conn = _
        have sameSide : entry.side = e.other := side
        have sameConn : entry.conn = some c := conn
        rw [sameConn, sameSide]
        rfl
      · rw [Function.update_of_ne same] at met
        rw [Gossip.State.voice_of_entry met, conn, side]
        rfl
    have owner := (sane.voice _ _ _ _ before).2.1
    exact Gossip.Wire.owner_other_ne listens.apart e (owner.trans listens.owner.symm)
  have clean : mid.Clean := by
    refine tidyMid.clean named fun d => ?_
    rw [← isMid]
    exact (represents.clean i).names d
  have chats := Node.broadcastPublishedChannels_chats clean
  obtain ⟨added, published, said⟩ := chats.sent
  obtain ⟨hosts, gossip, told, _⟩ := (tidyMid.of_table chats.table).broadcastHosts_said named
  have whole : n.mesh.sent = added ++ hosts := by
    rw [becomes]
    change mid.broadcastPublishedChannels.mesh.broadcastHosts.sent = _
    rw [gossip, published, silent, List.nil_append]
  refine List.eq_nil_iff_forall_not_mem.mpr fun line member => ?_
  obtain ⟨text, inside, _⟩ := mem_written member
  rw [whole] at inside
  rcases List.mem_append.mp inside with inside | inside
  · obtain ⟨⟨h', voice⟩, _⟩ := said _ inside
    exact own h' voice
  · obtain ⟨⟨h', voice, _⟩, _⟩ := told _ inside
    rw [Mesh.voice_of_table chats.table] at voice
    exact own h' voice

/-- Nobody adds to the queue that `CONNECTED` is taken from. -/
theorem Represents.brought (represents : Represents crowd strict net a) (sane : Gossip.Sane a)
    (named : crowd.Named) {rest : List Str}
    (head : (net.link c).queue e = "CONNECTED".toList :: rest)
    (step : Network.Step topology net (.deliver c e) net') : (net'.link c).queue e = rest := by
  obtain ⟨⟨⟨s, member, reads⟩, _⟩, reacted⟩ := step
  obtain ⟨⟨i, k⟩, socket, rfl⟩ := Option.map_eq_some_iff.mp (Option.mem_def.mp member)
  unfold Network.react at reacted
  dsimp only at reacted
  rw [socket, head] at reacted
  obtain ⟨n, ran, rfl⟩ := Network.tell_eq_ok.mp reacted
  have ran : (net.node i).line k "CONNECTED".toList = .ok n := ran
  have silent : written n.mesh.sent c e.other = [] := by
    by_cases heard : ∃ h, ((net.node i).mesh.sock k).listeners = some (.host h)
    · obtain ⟨h, listener⟩ := heard
      obtain ⟨entry, listens⟩ := represents.listens sane socket reads listener
      exact listens.told represents sane named ran
    · -- nobody makes anything of it
      have same : net.node i = n := by
        have foreign : strStartsWith "CONNECTED".toList "ID=".toList = false := by decide
        unfold Node.line at ran
        split at ran
        · exact Fallible.pure_eq_ok.mp ran
        · unfold Mesh.handleIncomingConnection at ran
          rw [foreign, if_neg Bool.false_ne_true] at ran
          exact Fallible.pure_eq_ok.mp ran
        · next h listener => exact absurd ⟨h, listener⟩ heard
      rw [← same, represents.silent i]
      rfl
  rw [Network.take_link, Link.queue_carry, Network.setLink, Heap.modify_self,
    Link.queue_setQueue_self, silent, List.append_nil, ite_self]

/-- What may still be heard behind a step and what the step brings is no more than what was
promised before it. -/
theorem Represents.rounds (represents : Represents crowd False net a) (sane : Gossip.Sane a)
    (spent : Gossip.Spent a) (placed : crowd.Placed topology)
    (permits : crowd.Permits False net action) (step : Network.Step topology net action net') :
    ∃ a', Represents crowd False net' a' ∧ Gossip.Sane a' ∧ Gossip.Spends a a' ∧
      ∀ c < a.wire.next, ∀ e, (if net.Brings c e action then 1 else 0) + (a'.wire c).promised e ≤
        (a.wire c).promised e := by
  obtain ⟨a', after, moves⟩ :=
    represents.step sane placed permits (fun isStrict => isStrict.elim) step
  have moved : Gossip.Sane a' ∧ Gossip.Spends a a' := by
    cases moves with
    | still same =>
        rw [same]
        exact ⟨sane, .refl spent⟩
    | step moved => exact ⟨moved.sane sane, moved.spends sane spent⟩
    | steps _ mid first second =>
        have before := first.spends sane spent
        have behind := second.spends (first.sane sane) before.spent
        exact ⟨second.sane (first.sane sane), before.trans behind⟩
  refine ⟨a', after, moved.1, moved.2, fun c known e => ?_⟩
  have spends := moved.2.old c known
  split
  · next brings =>
    obtain ⟨rfl, head⟩ := brings
    obtain ⟨rest, queue⟩ := List.head?_eq_some_iff.mp head
    have known' : c < net.link.next := represents.next ▸ known
    have knownAfter : c < net'.link.next := after.next ▸ Nat.lt_of_lt_of_le known moved.2.next
    have before := (represents.link c known').connected e
    have behind := (after.link c knownAfter).connected e
    rw [represents.brought sane placed.addresses queue step] at behind
    have isConnected : ("CONNECTED".toList == "CONNECTED".toList) = true := beq_self_eq_true _
    rw [queue, List.countP_cons, if_pos isConnected] at before
    have pledged := spends.pledged e
    unfold Gossip.Wire.promised
    omega
  · rw [Nat.zero_add]
    exact spends.promised e

omit [DecidableEq ι] in
/-- Nobody hears anything on a connection that nobody has dialled. -/
theorem Represents.unbrought [DecidableEq ι] (represents : Represents crowd strict net a)
    (outside : a.wire.next ≤ c) (enabled : Network.Enabled topology net action) :
    ¬ net.Brings c e action := by
  rintro ⟨rfl, _⟩
  obtain ⟨⟨s, member, reads⟩, _⟩ := enabled
  obtain ⟨⟨i, k⟩, _, rfl⟩ := Option.map_eq_some_iff.mp (Option.mem_def.mp member)
  have known := represents.next ▸ represents.born i k c reads
  exact Nat.not_lt_of_ge outside known

/-- A run spends what is promised. -/
theorem Represents.spends {trace : List (Action ι × Network ι)}
    (represents : Represents crowd False net a) (sane : Gossip.Sane a) (spent : Gossip.Spent a)
    (placed : crowd.Placed topology)
    (ran : Every (Under (crowd.Permits False) (Network.Step topology)) net trace) (c : ConnId)
    (e : End) :
    Network.rounds c e net trace ≤ if c < a.wire.next then (a.wire c).promised e else 1 := by
  induction trace generalizing net a with
  | nil => exact Nat.zero_le _
  | cons entry trace ih =>
      obtain ⟨action, next⟩ := entry
      obtain ⟨⟨permits, step⟩, later⟩ := ran
      obtain ⟨a', after, sane', spends, each⟩ :=
        represents.rounds sane spent placed permits step
      have rest := ih after sane' spends.spent later
      unfold Network.rounds
      by_cases known : c < a.wire.next
      · rw [if_pos (Nat.lt_of_lt_of_le known spends.next)] at rest
        rw [if_pos known]
        have one := each c known e
        omega
      · have outside := Nat.not_lt.mp known
        rw [if_neg (represents.unbrought outside step.1), if_neg known, Nat.zero_add]
        by_cases dialled : c < a'.wire.next
        · rw [if_pos dialled] at rest
          exact Nat.le_trans rest ((spends.fresh c dialled outside).promised e)
        · rw [if_neg dialled] at rest
          exact rest

end

namespace Crowd

/-- What two machines do that know each other's addresses. -/
private def courteous (net : Network (Fin 2)) : Action (Fin 2) → Bool
  | .call i (.addHost ip port) => decide ((subnet 2).Meets net (.call i (.addHost ip port)))
  | .call _ (.publish name) => decide (LineSafe name)
  | .call _ _ | .dataConnect _ _ _ _ | .dataAccept _ _ => false
  | .connect _ _ _ | .accept _ _ | .deliver _ _ | .eof _ _ | .lose _ => true

private theorem permits_of_courteous {net : Network (Fin 2)} {action : Action (Fin 2)}
    (allowed : courteous net action = true) : (subnet 2).Permits False net action := by
  cases action with
  | call i input =>
      cases input with
      | addHost ip port => exact of_decide_eq_true (p := (subnet 2).Meets net _) allowed
      | publish name => exact ⟨id, of_decide_eq_true allowed⟩
      | _ => cases allowed
  | dataConnect | dataAccept => cases allowed
  | _ => exact trivial

end Crowd

end LibPubSub
