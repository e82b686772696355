import LibPubSub.Pairs

/-! Processes that pass on which hosts they know, while no connection is lost: whoever
is ready for two others has told each of them about the other one, so in the end
those two are ready for each other as well. -/

set_option autoImplicit false

namespace LibPubSub

namespace Gossip

open Handshake (Message Status Entry talk Sound Undecided Decided)

variable {ι : Type}

def Lossless (a : State ι) : Prop :=
  ∀ c < a.wire.next, (a.wire c).line.lost = false

/-- Nothing happens any more by itself. -/
structure Quiet (a : State ι) : Prop where
  connected : ∀ x y e, a.entry x y = some e → e.server = false → e.conn ≠ none
  accepted : ∀ c < a.wire.next, (a.wire c).line.status .server ≠ .unborn
  delivered : ∀ c < a.wire.next, ∀ e, ((a.wire c).line.status e).Open → (a.wire c).line.queue e = []
  closed : ∀ c < a.wire.next, ∀ e, ((a.wire c).line.status e).Open →
    ¬ ((a.wire c).line.status e.other).Closed

/-- What `x` has said about `z` has not reached `y` yet. -/
def Hears (a : State ι) (x y z : ι) : Prop :=
  ∃ c e, a.voice x y = some (c, e) ∧ .talk (some z) ∈ (a.wire c).line.queue e.other

/-- Two that a third one is ready for know of each other, or will hear. -/
def Told (a : State ι) : Prop :=
  ∀ x y z, y ≠ z → a.ready x y = true → a.ready x z = true →
    a.entry y z ≠ none ∨ a.entry z y ≠ none ∨ Hears a x y z ∨ Hears a x z y

variable [DecidableEq ι]

/-- Each two of the processes are in a handshake. -/
structure Shaking (a : State ι) : Prop where
  sane : Sane a
  sound : ∀ x y, x ≠ y → Sound (a.seen x y)

/-- And their choice between two connections is open or made. -/
structure Coupled (yields : ι → ι → Bool) (a : State ι) : Prop extends Shaking a where
  lossless : Lossless a
  choice : ∀ x y, x ≠ y → Undecided (a.seen x y) ∨
    ∃ b c, Decided (between yields x y) b c (a.seen x y)

section

variable {yields : ι → ι → Bool} {a a' : State ι} {x y z : ι} {c : ConnId} {e : End}

theorem Step.shaking (step : Step True yields a a') (shaking : Shaking a) : Shaking a' := by
  refine ⟨step.sane shaking.sane, fun x y apart => ?_⟩
  rcases step.seen shaking.sane apart with turn | beside
  · exact turn.sound (shaking.sound x y apart)
  · exact beside.sound (shaking.sound x y apart)

theorem Lossless.seen (lossless : Lossless a) (apart : x ≠ y) :
    ∀ d < (a.seen x y).wire.next, ((a.seen x y).wire d).lost = false := by
  intro d known
  change ((a.wire d).seen x y).lost = false
  rcases (a.wire d).joins_or_apart x y with ⟨b, joins⟩ | none
  · rw [Wire.seen_of_joins apart joins]
    exact lossless d known
  · rw [Wire.seen_of_apart none]
    rfl

/-- The choice stays open or is made for good. -/
theorem Step.coupled (step : Step True yields a a') (coupled : Coupled yields a)
    (distinct : ∀ x y, x ≠ y → yields y x = !yields x y) (lossless : Lossless a') :
    Coupled yields a' := by
  refine ⟨step.shaking coupled.toShaking, lossless, fun x y apart => ?_⟩
  have sound := coupled.sound x y apart
  rcases step.seen coupled.sane apart with turn | beside
  · rcases coupled.choice x y apart with undecided | ⟨b, c, decided⟩
    · refine undecided.step sound ?_ (lossless.seen apart) turn
      intro b
      cases b with
      | false => exact distinct x y apart
      | true => exact distinct y x apart.symm
    · exact .inr ⟨b, c, decided.step sound (lossless.seen apart) turn⟩
  · rcases coupled.choice x y apart with undecided | ⟨b, c, decided⟩
    · exact .inl (beside.undecided undecided)
    · exact .inr ⟨b, c, beside.decided decided⟩

namespace Unmet

omit [DecidableEq ι] in
theorem silent (unmet : Unmet a) (x y : ι) : a.voice x y = none := by
  unfold State.voice
  rw [unmet.entry]

omit [DecidableEq ι] in
theorem unready (unmet : Unmet a) (x y : ι) : a.ready x y = false := by
  unfold State.ready
  rw [unmet.entry]

theorem shaking (unmet : Unmet a) : Shaking a := by
  have nothing {c : ConnId} (known : c < a.wire.next) : False := by
    rw [unmet.wire] at known
    exact Nat.not_lt_zero c known
  refine ⟨unmet.sane, fun x y _ => ⟨?_, ?_, ?_, ?_, ?_⟩⟩
  · intro b c e voice
    rw [seen_voice, unmet.silent] at voice
    cases voice
  · exact fun c known => (nothing known).elim
  · exact fun b _ => unmet.unready _ _
  · intro b ready
    rw [seen_ready, unmet.unready] at ready
    cases ready
  · exact fun c known => (nothing known).elim

theorem coupled (unmet : Unmet a) : Coupled yields a := by
  have nothing {c : ConnId} (known : c < a.wire.next) : False := by
    rw [unmet.wire] at known
    exact Nat.not_lt_zero c known
  refine ⟨unmet.shaking, fun c known => (nothing known).elim, fun x y _ => .inl ⟨?_, ?_, ?_⟩⟩
  · intro b e met
    rw [show (a.seen x y).entry b = none from unmet.entry _ _] at met
    cases met
  · exact fun c known => (nothing known).elim
  · exact fun c known => (nothing known).elim

omit [DecidableEq ι] in
theorem told (unmet : Unmet a) : Told a := by
  intro x y z _ ready
  rw [unmet.unready] at ready
  cases ready

end Unmet

/-! ## What those who are ready may rely on -/

namespace Coupled

/-- Who is ready shares a connection with the other one. -/
theorem shared (coupled : Coupled yields a) (ready : a.ready x y = true) :
    ∃ c e, a.voice x y = some (c, e) ∧ a.voice y x = some (c, e.other) := by
  have apart : x ≠ y := by
    rintro rfl
    unfold State.ready at ready
    rw [coupled.sane.self x] at ready
    cases ready
  rcases coupled.choice x y apart with undecided | ⟨b, c, decided⟩
  · unfold State.ready at ready
    cases met : a.entry x y with
    | none =>
        rw [met] at ready
        cases ready
    | some entry =>
        rw [met] at ready
        exact absurd ready ((undecided.entry false entry met).2 ▸ Bool.false_ne_true)
  · have client := decided.client
    have server := decided.server
    rw [seen_voice] at client server
    cases b with
    | false => exact ⟨c, .client, client, server⟩
    | true => exact ⟨c, .server, server, client⟩

/-- While nothing is lost an entry that is ready is not asked to move. -/
theorem unready (coupled : Coupled yields a) (known : c < a.wire.next)
    (incoming : (a.wire c).line.status .server = .incoming)
    (allowed : ∀ e, a.entry (a.wire c).server (a.wire c).client = some e →
      yields (a.wire c).server (a.wire c).client = true ∨ e.server = true) :
    a.ready (a.wire c).server (a.wire c).client = false := by
  have apart : (a.wire c).client ≠ (a.wire c).server := (coupled.sane.wire c known).apart
  have joins : (a.wire c).Joins (a.wire c).client (a.wire c).server false := ⟨rfl, rfl⟩
  cases ready : a.ready (a.wire c).server (a.wire c).client with
  | false => rfl
  | true =>
      exfalso
      rcases coupled.choice _ _ apart with undecided | ⟨b, c', decided⟩
      · obtain ⟨c', e, voice, _⟩ := coupled.shared ready
        obtain ⟨entry, met, _⟩ := State.entry_of_voice voice
        rw [State.ready_of_entry met] at ready
        rw [(undecided.entry true entry met).2] at ready
        cases ready
      · -- the one that has dialled the chosen connection does not give way
        have status : ((a.seen (a.wire c).client (a.wire c).server).wire c).status .server =
            .incoming := by
          change ((a.wire c).seen _ _).status .server = .incoming
          rw [Wire.seen_of_joins apart joins]
          exact incoming
        obtain ⟨isClient, keeps⟩ := decided.others c known (.inr status)
        have isOther : b = true := by
          change ((a.wire c).seen _ _).client = !b at isClient
          rw [Wire.seen_of_joins apart joins] at isClient
          cases b with
          | true => rfl
          | false => cases isClient
        subst isOther
        have voice : a.voice (a.wire c).server (a.wire c).client = some (c', .client) :=
          decided.client
        obtain ⟨entry, met, _, side⟩ := State.entry_of_voice voice
        rcases allowed entry met with gives | server
        · exact Bool.false_ne_true (keeps.symm.trans gives)
        · unfold Entry.side at side
          rw [server] at side
          cases side

/-- The end that a ready process talks to is read by the other one. -/
theorem heard (coupled : Coupled yields a) (ready : a.ready x y = true)
    (voice : a.voice x y = some (c, e)) :
    a.voice y x = some (c, e.other) ∧ c < a.wire.next ∧
      (a.wire c).line.status e = .current ∧ (a.wire c).line.status e.other = .current := by
  obtain ⟨c', e', mine, other⟩ := coupled.shared ready
  obtain ⟨rfl, rfl⟩ := Prod.mk.inj (Option.some.inj (mine.symm.trans voice))
  exact ⟨other, (coupled.sane.voice _ _ _ _ mine).1, (coupled.sane.voice _ _ _ _ mine).2.2.2,
    (coupled.sane.voice _ _ _ _ other).2.2.2⟩

/-- Talk reaches nobody who is not ready. -/
theorem ready_of_talk (coupled : Coupled yields a) {text : Option ι}
    {rest : List (Message (Option ι))} (known : c < a.wire.next)
    (current : (a.wire c).line.status e = .current)
    (other : (a.wire c).line.status e.other = .current)
    (first : (a.wire c).line.queue e = .talk text :: rest) :
    a.ready ((a.wire c).owner e) ((a.wire c).owner e.other) = true := by
  have apart : (a.wire c).client ≠ (a.wire c).server := (coupled.sane.wire c known).apart
  have joins : (a.wire c).Joins (a.wire c).client (a.wire c).server false := ⟨rfl, rfl⟩
  have view : (a.seen (a.wire c).client (a.wire c).server).wire c =
      { (a.wire c).line with client := false } := Wire.seen_of_joins apart joins
  have both (side : End) : (a.wire c).line.status side = .current := by
    rcases e.eq_or_eq_other side with rfl | rfl
    · exact current
    · exact other
  have kept := (coupled.sound _ _ apart).wire c known
  rw [view] at kept
  rcases kept.orderly (both .client) (both .server) (coupled.lossless c known) with
    unanswered | flow
  · rcases unanswered.head first with ⟨_, isTalk, _⟩ | ⟨_, isTalk, _⟩ <;> cases isTalk
  · have here := flow e
    rw [show ({ (a.wire c).line with client := false } : Handshake.Wire (Option ι)).queue e =
      _ from first] at here
    rcases here.cons with ⟨isTalk, _⟩ | ⟨isTalk, _⟩ | ⟨_, isReady, _⟩
    · cases isTalk
    · cases isTalk
    · rw [seen_ready] at isReady
      cases e with
      | client => exact isReady
      | server => exact isReady

end Coupled

/-! ## Everybody is told -/

namespace Told

omit [DecidableEq ι] in
/-- Nobody forgets anybody, nobody has become ready, and what a ready process has said
stays under way or has been heard. -/
theorem frame (told : Told a) (entry : ∀ x y, a.entry x y ≠ none → a'.entry x y ≠ none)
    (ready : ∀ x y, a'.ready x y = true → a.ready x y = true)
    (hears : ∀ x y z c e, a'.ready x y = true → y ≠ z → a.voice x y = some (c, e) →
      .talk (some z) ∈ (a.wire c).line.queue e.other → Hears a' x y z ∨ a'.entry y z ≠ none) :
    Told a' := by
  intro x y z apart readyY readyZ
  rcases told x y z apart (ready x y readyY) (ready x z readyZ) with met | met | said | said
  · exact .inl (entry y z met)
  · exact .inr (.inl (entry z y met))
  · obtain ⟨c, e, voice, member⟩ := said
    rcases hears x y z c e readyY apart voice member with still | met
    · exact .inr (.inr (.inl still))
    · exact .inl met
  · obtain ⟨c, e, voice, member⟩ := said
    rcases hears x z y c e readyZ apart.symm voice member with still | met
    · exact .inr (.inr (.inr still))
    · exact .inr (.inl met)

omit [DecidableEq ι] in
/-- The entries stay as they are, and a line is only taken away where no talk is lost. -/
theorem setLine (told : Told a) {change : Handshake.Wire (Option ι) → Handshake.Wire (Option ι)}
    (keeps : ∀ x y z e, a.ready x y = true → a.voice x y = some (c, e) →
      .talk (some z) ∈ (a.wire c).line.queue e.other →
        .talk (some z) ∈ (change (a.wire c).line).queue e.other) :
    Told (a.setLine c change) := by
  intro x y z apart readyY readyZ
  have hears (x y z : ι) (ready : a.ready x y = true) (said : Hears a x y z) :
      Hears (a.setLine c change) x y z := by
    obtain ⟨d, e, voice, member⟩ := said
    refine ⟨d, e, voice, ?_⟩
    rw [State.setLine_wire]
    split
    · next same =>
      subst same
      exact keeps x y z e ready voice member
    · exact member
  rcases told x y z apart readyY readyZ with met | met | said | said
  · exact .inl met
  · exact .inr (.inl met)
  · exact .inr (.inr (.inl (hears x y z readyY said)))
  · exact .inr (.inr (.inr (hears x z y readyZ said)))

end Told

omit [DecidableEq ι] in
theorem mem_push {text : Message (Option ι)} {w : Handshake.Wire (Option ι)} {side : End}
    (e : End) (lines : List (Message (Option ι))) (member : text ∈ w.queue side) :
    text ∈ (w.push e lines).queue side := by
  unfold Handshake.Wire.push
  split
  · exact member
  · change text ∈ Function.update w.queue e (w.queue e ++ lines) side
    by_cases same : side = e
    · rw [same, Function.update_self]
      exact List.mem_append_left _ (same ▸ member)
    · rw [Function.update_of_ne same]
      exact member

omit [DecidableEq ι] in
theorem mem_pop {text first : Message (Option ι)} {rest : List (Message (Option ι))}
    {w : Handshake.Wire (Option ι)} {side : End} (head : w.queue e = first :: rest)
    (other : side = e → text ≠ first) (member : text ∈ w.queue side) :
    text ∈ (w.pop e).queue side := by
  rcases e.eq_or_eq_other side with rfl | rfl
  · rw [Handshake.Wire.pop_queue_self, head]
    rw [head] at member
    exact (List.mem_cons.mp member).resolve_left (other rfl)
  · rw [Handshake.Wire.pop_queue_other]
    exact member

namespace Told

omit [DecidableEq ι] in
/-- A line that is no talk is read and answered. -/
theorem answer (told : Told a) {first : Message (Option ι)} {rest : List (Message (Option ι))}
    (head : (a.wire c).line.queue e = first :: rest) (noTalk : ∀ text, first ≠ .talk text)
    (lines : List (Message (Option ι))) : Told (a.answer c e lines) :=
  told.setLine fun _ _ _ _ _ _ member =>
    mem_push _ _ (mem_pop head (fun _ => (noTalk _).symm) member)

theorem meet (told : Told a) (x y : ι) : Told (a.meet x y) := by
  refine told.frame ?_ ?_ ?_
  · intro u v met
    rcases a.meet_entry x y u v with same | ⟨_, _, _, _, new⟩
    · rw [same]
      exact met
    · rw [new]
      exact nofun
  · intro u v ready
    rw [State.meet_ready] at ready
    exact ready
  · intro u v z c e _ _ voice member
    refine .inl ⟨c, e, ?_, ?_⟩
    · rw [State.meet_voice]
      exact voice
    · rw [State.meet_wire]
      exact member

theorem say (told : Told a) (sane : Sane a) (x : ι) (talks : ι → List (Option ι)) :
    Told (a.say x talks) := by
  refine told.frame (fun _ _ => id) (fun _ _ => id) ?_
  intro u v z c e _ _ voice member
  refine .inl ⟨c, e, voice, ?_⟩
  change _ ∈ (a.said x talks c (a.wire c)).queue e.other
  by_cases silent : ∀ y e, a.voice x y ≠ some (c, e)
  · rw [Sane.said_of_silent talks _ silent]
    exact member
  · obtain ⟨y, e', speaks⟩ : ∃ y e', a.voice x y = some (c, e') := by
      by_contra none
      exact silent fun y e' speaks => none ⟨y, e', speaks⟩
    rw [sane.said_of_voice talks speaks]
    exact mem_push _ _ member

/-- An entry that is not ready changes. -/
theorem changed (told : Told a) (sane : Sane a)
    (entry : ∀ u v, ¬ (u = x ∧ v = y) → a'.entry u v = a.entry u v)
    (new : ∃ entry, a'.entry x y = some entry ∧ entry.ready = false)
    (lines : ∀ d < a.wire.next, ∀ side text, .talk text ∈ (a.wire d).line.queue side →
      .talk text ∈ (a'.wire d).line.queue side) : Told a' := by
  obtain ⟨fresh, isFresh, unready⟩ := new
  have other {u v : ι} (ready : a'.ready u v = true) : ¬ (u = x ∧ v = y) := by
    rintro ⟨rfl, rfl⟩
    rw [State.ready_of_entry isFresh, unready] at ready
    cases ready
  refine told.frame ?_ ?_ ?_
  · intro u v met
    by_cases same : u = x ∧ v = y
    · rw [same.1, same.2, isFresh]
      exact nofun
    · rw [entry u v same]
      exact met
  · intro u v ready
    rw [← State.ready_congr (entry u v (other ready))]
    exact ready
  · intro u v z c e ready _ voice member
    refine .inl ⟨c, e, ?_, lines c (sane.voice _ _ _ _ voice).1 _ _ member⟩
    rw [State.voice_congr (entry u v (other ready))]
    exact voice

end Told

/-- A process that has become ready tells everybody about everybody. -/
private theorem told_ready (lossless : Lossless a')
    {mid : State ι} (told : Told a) (sane : Sane mid) {x y : ι}
    (entry : ∀ u v, ¬ (u = x ∧ v = y) → mid.entry u v = a.entry u v)
    (met : a.entry x y ≠ none → mid.entry x y ≠ none)
    (voice : ∀ u v, mid.voice u v = a.voice u v)
    (lines : ∀ d side text, .talk text ∈ (a.wire d).line.queue side →
      .talk text ∈ (mid.wire d).line.queue side)
    (talks : ι → List (Option ι)) (after : a' = mid.say x talks)
    (tells : ∀ v z, mid.ready x v = true → mid.ready x z = true → some z ∈ talks v) :
    Told a' := by
  have said (u v z : ι) (hears : Hears mid u v z) : Hears a' u v z := by
    obtain ⟨c, e, speaks, member⟩ := hears
    refine ⟨c, e, by rw [after]; exact speaks, ?_⟩
    rw [after]
    change _ ∈ (mid.said x talks c (mid.wire c)).queue e.other
    by_cases silent : ∀ y e, mid.voice x y ≠ some (c, e)
    · rw [Sane.said_of_silent talks _ silent]
      exact member
    · obtain ⟨y, e', speaks'⟩ : ∃ y e', mid.voice x y = some (c, e') := by
        by_contra none
        exact silent fun y e' speaks' => none ⟨y, e', speaks'⟩
      rw [sane.said_of_voice talks speaks']
      exact mem_push _ _ member
  have entries (u v : ι) (known : a.entry u v ≠ none) : a'.entry u v ≠ none := by
    rw [after]
    change mid.entry u v ≠ none
    by_cases same : u = x ∧ v = y
    · rw [same.1, same.2] at known ⊢
      exact met known
    · rw [entry u v same]
      exact known
  intro u v z apart readyV readyZ
  have readyV' : mid.ready u v = true := by rw [after] at readyV; exact readyV
  have readyZ' : mid.ready u z = true := by rw [after] at readyZ; exact readyZ
  by_cases speaker : u = x
  · -- `x` has just said it
    subst speaker
    have speaks : ∃ c e, mid.voice u v = some (c, e) := by
      cases here : mid.voice u v with
      | none =>
          rw [sane.idle u v here] at readyV'
          cases readyV'
      | some talker => exact ⟨talker.1, talker.2, rfl⟩
    obtain ⟨c, e, speaks⟩ := speaks
    have known := (sane.voice _ _ _ _ speaks).1
    refine .inr (.inr (.inl ⟨c, e, by rw [after]; exact speaks, ?_⟩))
    have line : (a'.wire c).line = (mid.wire c).line.push e.other (talk (talks v)) := by
      rw [after]
      exact sane.said_of_voice talks speaks
    have lives : (mid.wire c).line.lost = false := by
      have still := lossless c (by rw [after]; exact known)
      rw [line, Handshake.Wire.push_lost] at still
      exact still
    rw [line, Handshake.Wire.push_queue_self lives]
    refine List.mem_append_right _ (List.mem_map.mpr ⟨some z, tells v z readyV' readyZ', rfl⟩)
  · have same (w : ι) : mid.entry u w = a.entry u w := entry u w fun both => speaker both.1
    rw [State.ready_congr (same v)] at readyV'
    rw [State.ready_congr (same z)] at readyZ'
    have carried (v z : ι) (hears : Hears a u v z) : Hears mid u v z := by
      obtain ⟨c, e, speaks, member⟩ := hears
      exact ⟨c, e, (voice u v).trans speaks, lines c _ _ member⟩
    rcases told u v z apart readyV' readyZ' with known | known | hears | hears
    · exact .inl (entries v z known)
    · exact .inr (.inl (entries z v known))
    · exact .inr (.inr (.inl (said u v z (carried v z hears))))
    · exact .inr (.inr (.inr (said u z v (carried z v hears))))

omit [DecidableEq ι] in
private theorem release_queue [DecidableEq ι] (a : State ι) (x y : ι) (s : Status) (d : ConnId) :
    ((a.release x y s).wire d).line.queue = (a.wire d).line.queue := by
  rcases a.release_wire x y s d with same | ⟨_, _, same⟩
  · rw [same]
  · rw [same]
    rfl

theorem Step.told (step : Step True yields a a') (coupled : Coupled yields a)
    (lossless : Lossless a') (told : Told a) : Told a' := by
  cases step with
  | meet x y => exact told.meet x y
  | connect x y apart dialling =>
      refine told.changed coupled.sane (x := x) (y := y) ?_ ⟨_, a.setEntry_self x y _, rfl⟩ ?_
      · exact fun u v other => a.setEntry_of_ne _ other
      · intro d known side text member
        have old : (a.connect x y).wire d = a.wire d := Heap.alloc_of_lt _ _ known
        rw [old]
        exact member
  | accept c known unborn => exact told.setLine fun _ _ _ _ _ _ => id
  | greet c e known current rest head => exact told.answer head nofun _
  | address c e known current rest head => exact told.answer head nofun _
  | ready c e talks known current rest head mid after tells entitled =>
      have answered : Sane (a.answer c e []) :=
        coupled.sane.answer current head List.not_mem_nil nofun
      have saneMid : Sane mid := by
        rw [after]
        exact answered.becomeReady (coupled.sane.current c known e current)
      refine told_ready (y := (a.wire c).owner e.other) lossless told saneMid ?_ ?_ ?_ ?_ talks rfl
        tells
      · intro u v other
        rw [after]
        exact (a.answer c e []).changeEntry_of_ne _ other
      · intro met
        rw [after, State.changeEntry_self]
        exact fun none => met (Option.map_eq_none_iff.mp none)
      · intro u v
        rw [after]
        exact (a.answer c e []).voice_changeEntry _ _ u v (fun _ => rfl) fun _ => rfl
      · intro d side text member
        rw [after]
        change _ ∈ ((a.answer c e []).wire d).line.queue side
        unfold State.answer
        rw [State.setLine_wire]
        split
        · next same =>
          rw [same] at member
          exact mem_push _ _ (mem_pop head (fun _ => nofun) member)
        · exact member
  | hear c e text known current rest head =>
      generalize isX : (a.wire c).owner e = x
      generalize isY : (a.wire c).owner e.other = y
      have entry (u v : ι) : ((a.answer c e []).hear x y text).entry u v = a.entry u v ∨
          ((a.answer c e []).hear x y text).entry u v ≠ none := by
        unfold State.hear
        split
        · next r =>
          split
          · rcases (a.answer c e []).meet_entry x r u v with same | ⟨_, _, _, _, new⟩
            · exact .inl same
            · rw [new]
              exact .inr nofun
          · exact .inl rfl
        · exact .inl rfl
      have ready (u v : ι) : ((a.answer c e []).hear x y text).ready u v = a.ready u v := by
        unfold State.hear
        split
        · split
          · exact (a.answer c e []).meet_ready ..
          · rfl
        · rfl
      have voice (u v : ι) : ((a.answer c e []).hear x y text).voice u v = a.voice u v := by
        unfold State.hear
        split
        · split
          · exact (a.answer c e []).meet_voice ..
          · rfl
        · rfl
      have wire : ((a.answer c e []).hear x y text).wire = (a.answer c e []).wire := by
        unfold State.hear
        split
        · split
          · exact (a.answer c e []).meet_wire ..
          · rfl
        · rfl
      refine told.frame ?_ ?_ ?_
      · intro u v met
        rcases entry u v with same | known
        · rw [same]
          exact met
        · exact known
      · intro u v isReady
        rwa [ready] at isReady
      · intro u v z d side isReady apart speaks member
        rw [ready] at isReady
        by_cases here : d = c ∧ side.other = e ∧ text = some z
        · -- the line that was under way is heard
          right
          obtain ⟨rfl, rfl, rfl⟩ := here
          obtain ⟨_, isU, isV, _⟩ := coupled.sane.voice _ _ _ _ speaks
          obtain ⟨_, _, currentU, _⟩ := coupled.heard isReady speaks
          have isV' : v = x := isV.symm.trans isX
          subst isV'
          have other : (a.wire d).line.status side.other.other = .current := by
            rw [End.other_other]
            exact currentU
          have listens := coupled.ready_of_talk known current other head
          rw [isX, isY] at listens
          have listens' : (a.answer d side.other []).ready v y = true := listens
          unfold State.hear
          dsimp only
          rw [if_pos listens']
          unfold State.meet
          by_cases unmet : v ≠ z ∧ (a.answer d side.other []).entry v z = none
          · rw [if_pos unmet, State.setEntry_self]
            exact nofun
          · rw [if_neg unmet]
            exact fun none => unmet ⟨apart, none⟩
        · left
          refine ⟨d, side, (voice u v).trans speaks, ?_⟩
          rw [wire]
          unfold State.answer
          rw [State.setLine_wire]
          split
          · next same =>
            subst same
            refine mem_push _ _ (mem_pop head ?_ member)
            intro isSide isText
            exact here ⟨rfl, isSide, (Message.talk.inj isText).symm⟩
          · exact member
  | adopt c known incoming rest head allowed unready =>
      rw [unready trivial]
      generalize isX : (a.wire c).server = x
      generalize isY : (a.wire c).client = y
      refine told.changed coupled.sane (x := x) (y := y) ?_
        ⟨_, (a.release x y .dropped).setEntry_self x y ⟨true, false, some c⟩, rfl⟩ ?_
      · intro u v other
        exact ((a.release x y .dropped).setEntry_of_ne _ other).trans
          (a.release_entry_of_ne _ other)
      · intro d _ side text member
        have queue := release_queue a x y .dropped
        change _ ∈ ((((a.release x y .dropped).setEntry x y ⟨true, false, some c⟩).setLine c
          fun w => ((w.pop .server).setStatus .server .current).push .client
            [.id, .you, .connected]).wire d).line.queue side
        rw [State.setLine_wire]
        split
        · next same =>
          subst same
          refine mem_push _ _ ?_
          have popped : ((a.release x y .dropped).wire d).line.queue .server = .id :: rest :=
            (congrFun (queue d) .server).trans head
          refine mem_pop popped (fun _ => nofun) ?_
          change _ ∈ ((a.release x y .dropped).wire d).line.queue side
          rw [queue]
          exact member
        · change _ ∈ ((a.release x y .dropped).wire d).line.queue side
          rw [queue]
          exact member
  | reject c known incoming rest head entry met keeps dialled =>
      exact told.setLine fun _ _ _ _ _ _ member => mem_pop head (fun _ => nofun) member
  | ignore c e known closed first rest head =>
      refine told.setLine fun x y z side ready voice member => ?_
      refine mem_pop head ?_ member
      -- an end that a ready process talks to has not been closed
      rintro rfl
      obtain ⟨_, _, _, current⟩ := coupled.heard ready voice
      rw [current] at closed
      rcases closed with closed | closed <;> cases closed
  | hangUp c e known current why =>
      have voice := coupled.sane.current c known e current
      obtain ⟨entry, met, _⟩ := State.entry_of_voice voice
      have new : (a.release ((a.wire c).owner e) ((a.wire c).owner e.other) .ended).entry
          ((a.wire c).owner e) ((a.wire c).owner e.other) =
            some { entry with ready := false, conn := none } := by
        rw [State.release_talking _ voice]
        refine (a.changeEntry_self _ _ _).trans ?_
        rw [met]
        rfl
      refine told.changed coupled.sane ?_ ⟨_, new, rfl⟩ ?_
      · exact fun u v other => a.release_entry_of_ne _ other
      · intro d _ side text member
        rw [release_queue]
        exact member
  | leave c e known reads why => exact told.setLine fun _ _ _ _ _ _ => id
  | lose c known => exact told.setLine fun _ _ _ _ _ _ => id
  | say x talks entitled => exact told.say coupled.sane x talks

/-! ## When nothing happens any more -/

theorem Quiet.seen (quiet : Quiet a) (apart : x ≠ y) : Handshake.Quiet (a.seen x y) := by
  have view {d : ConnId} {P : Handshake.Wire (Option ι) → Prop} (isGone : P gone)
      (joins : ∀ b, P { (a.wire d).line with client := b }) : P ((a.seen x y).wire d) := by
    change P ((a.wire d).seen x y)
    rcases (a.wire d).joins_or_apart x y with ⟨b, isJoined⟩ | none
    · rw [Wire.seen_of_joins apart isJoined]
      exact joins b
    · rw [Wire.seen_of_apart none]
      exact isGone
  have closed (e : End) : ¬ (gone (ι := ι).status e).Open := by
    rintro (isOpen | isOpen) <;> cases isOpen
  constructor
  · exact fun p e met => quiet.connected _ _ e met
  · intro d known
    exact view (P := fun w => w.status .server ≠ .unborn) nofun fun _ => quiet.accepted d known
  · intro d known e
    exact view (P := fun w => (w.status e).Open → w.queue e = []) (fun isOpen => absurd isOpen (closed e))
      fun _ => quiet.delivered d known e
  · intro d known e
    exact view (P := fun w => (w.status e).Open → ¬ (w.status e.other).Closed)
      (fun isOpen => absurd isOpen (closed e)) fun _ => quiet.closed d known e

/-- Two of whom one knows the other agree on one connection, are ready for each other, and
keep no other connection open. -/
theorem Coupled.united (coupled : Coupled yields a) (quiet : Quiet a) (apart : x ≠ y)
    (met : a.entry x y ≠ none ∨ a.entry y x ≠ none) :
    ∃ c e, a.voice x y = some (c, e) ∧ a.voice y x = some (c, e.other) ∧ a.ready x y = true ∧
      a.ready y x = true ∧ ∀ d < a.wire.next, d ≠ c → ∀ b, (a.wire d).Joins x y b →
        ∀ e, ¬ ((a.wire d).line.status e).Open := by
  have known : ∃ b, (a.seen x y).entry b ≠ none := by
    rcases met with met | met
    · exact ⟨false, met⟩
    · exact ⟨true, met⟩
  obtain ⟨b, c, decided, ready, others⟩ := Handshake.settled (coupled.sound x y apart)
    (coupled.lossless.seen apart) (coupled.choice x y apart) (quiet.seen apart) known
  have alone : ∀ d < a.wire.next, d ≠ c → ∀ b, (a.wire d).Joins x y b →
      ∀ e, ¬ ((a.wire d).line.status e).Open := by
    intro d inside differs b' joins e isOpen
    refine others d inside differs e ?_
    change (((a.wire d).seen x y).status e).Open
    rw [Wire.seen_of_joins apart joins]
    exact isOpen
  have client := decided.client
  have server := decided.server
  rw [seen_voice] at client server
  cases b with
  | false => exact ⟨c, .client, client, server, ready false, ready true, alone⟩
  | true => exact ⟨c, .server, server, client, ready false, ready true, alone⟩

theorem Coupled.settled (coupled : Coupled yields a) (quiet : Quiet a) (apart : x ≠ y)
    (met : a.entry x y ≠ none ∨ a.entry y x ≠ none) :
    a.ready x y = true ∧ a.ready y x = true := by
  obtain ⟨_, _, _, _, readyX, readyY, _⟩ := coupled.united quiet apart met
  exact ⟨readyX, readyY⟩

/-- Readiness is transitive in the end. -/
theorem Told.transitive (told : Told a) (coupled : Coupled yields a) (quiet : Quiet a)
    (apart : y ≠ z) (readyY : a.ready x y = true) (readyZ : a.ready x z = true) :
    a.ready y z = true ∧ a.ready z y = true := by
  have silent {u v w : ι} (ready : a.ready u v = true) (hears : Hears a u v w) : False := by
    obtain ⟨c, e, voice, member⟩ := hears
    obtain ⟨_, known, _, current⟩ := coupled.heard ready voice
    rw [quiet.delivered c known e.other (.inr current)] at member
    cases member
  refine coupled.settled quiet apart ?_
  rcases told x y z apart readyY readyZ with met | met | hears | hears
  · exact .inl met
  · exact .inr met
  · exact (silent readyY hears).elim
  · exact (silent readyZ hears).elim

end

end Gossip

end LibPubSub
