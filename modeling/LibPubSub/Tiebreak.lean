import LibPubSub.Handshake

/-! Two processes that may both dial, on connections that are not lost. Until one of
them has moved its entry to an accepted connection nothing is decided; from then on
it is decided for good, because the one with the higher ID never gives way. -/

set_option autoImplicit false

namespace LibPubSub

namespace Handshake

variable {Text : Type} {yields : Bool → Bool} {a a' : State Text} {c : ConnId} {x : Bool}

/-- Nobody has given way yet: there are only clients, and none is ready. -/
structure Undecided (a : State Text) : Prop where
  entry : ∀ p e, a.entry p = some e → e.server = false ∧ e.ready = false
  toClient : ∀ c < a.wire.next, (a.wire c).queue .client = []
  wire : ∀ c < a.wire.next,
    ((a.wire c).status .client = .current ∧
      ((a.wire c).status .server = .unborn ∨ (a.wire c).status .server = .incoming)) ∨
    (((a.wire c).status .server = .rejected ∨ (a.wire c).status .server = .ended) ∧
      .id ∉ (a.wire c).queue .server)

/-- The connection `c` that `x` has dialled is the one. If the other one dials too,
`x` does not give way. -/
structure Decided (yields : Bool → Bool) (x : Bool) (c : ConnId) (a : State Text) : Prop where
  client : a.voice x = some (c, .client)
  server : a.voice (!x) = some (c, .server)
  others : ∀ d < a.wire.next,
    (a.wire d).status .server = .unborn ∨ (a.wire d).status .server = .incoming →
      (a.wire d).client = !x ∧ yields x = false

/-- Nothing happens any more by itself. -/
structure Quiet (a : State Text) : Prop where
  connected : ∀ p e, a.entry p = some e → e.server = false → e.conn ≠ none
  accepted : ∀ c < a.wire.next, (a.wire c).status .server ≠ .unborn
  delivered : ∀ c < a.wire.next, ∀ e, ((a.wire c).status e).Open → (a.wire c).queue e = []
  closed : ∀ c < a.wire.next, ∀ e, ((a.wire c).status e).Open → ¬ ((a.wire c).status e.other).Closed

theorem State.say_nil (a : State Text) (p : Bool) : a.say p [] = a := by
  unfold State.say
  split
  · next c e _ =>
    have same : (a.wire c).push e.other [] = a.wire c := by
      unfold Wire.push
      split
      · rfl
      · rw [List.append_nil, Function.update_eq_self]
    unfold State.setWire Heap.modify
    dsimp only
    rw [same, Function.update_eq_self]
  · rfl

/-- The statuses, the clients and the voices are all that a decision is about. -/
theorem Decided.congr (decided : Decided yields x c a) (voice : ∀ p, a'.voice p = a.voice p)
    (next : a'.wire.next = a.wire.next)
    (wire : ∀ d, (a'.wire d).client = (a.wire d).client ∧
      ((a'.wire d).status .server = .unborn ∨ (a'.wire d).status .server = .incoming →
        (a.wire d).status .server = .unborn ∨ (a.wire d).status .server = .incoming)) :
    Decided yields x c a' := by
  refine ⟨(voice x).trans decided.client, (voice _).trans decided.server, ?_⟩
  intro d known start
  rw [next] at known
  rw [(wire d).1]
  exact decided.others d known ((wire d).2 start)

/-- Only one wire has changed. -/
theorem Decided.setWire (decided : Decided yields x c a) {d : ConnId}
    {change : Wire Text → Wire Text} (client : (change (a.wire d)).client = (a.wire d).client)
    (status : (change (a.wire d)).status .server = .unborn ∨
      (change (a.wire d)).status .server = .incoming →
        (a.wire d).status .server = .unborn ∨ (a.wire d).status .server = .incoming) :
    Decided yields x c (a.setWire d change) := by
  refine decided.congr (fun _ => rfl) rfl ?_
  intro d'
  by_cases same : d' = d
  · rw [same, State.setWire_self]
    exact ⟨client, status⟩
  · rw [State.setWire_of_ne _ _ same]
    exact ⟨rfl, id⟩

theorem Decided.answer (decided : Decided yields x c a) (d : ConnId) (e : End)
    (lines : List (Message Text)) : Decided yields x c (a.answer d e lines) := by
  refine decided.setWire ?_ ?_
  · rw [Wire.push_client]
    rfl
  · rw [Wire.push_status]
    exact id

/-- A decision is final while nothing is lost. -/
theorem Decided.step (decided : Decided yields x c a) (sound : Sound a)
    (lives : ∀ d < a'.wire.next, (a'.wire d).lost = false) (step : Step yields a a') :
    Decided yields x c a' := by
  obtain ⟨xEntry, xMet, xConn, xSide⟩ := State.entry_of_voice decided.client
  obtain ⟨yEntry, yMet, yConn, ySide⟩ := State.entry_of_voice decided.server
  have known := (sound.voice _ c _ decided.client).1
  have clientStatus := sound.status_of_voice decided.client
  have serverStatus := sound.status_of_voice decided.server
  have met : ∀ p, ∃ entry, a.entry p = some entry ∧ entry.conn = some c := by
    intro p
    by_cases same : p = x
    · exact ⟨xEntry, same ▸ xMet, xConn⟩
    · have isOther : p = !x := by
        cases p <;> cases x <;> first | rfl | exact absurd rfl same
      exact ⟨yEntry, isOther ▸ yMet, yConn⟩
  cases step with
  | dial p unmet =>
      obtain ⟨entry, found, _⟩ := met p
      rw [unmet] at found
      cases found
  | connect p ready dialling =>
      obtain ⟨entry, found, conn⟩ := met p
      rw [dialling] at found
      rw [← Option.some.inj found] at conn
      cases conn
  | accept d _ unborn =>
      exact decided.setWire rfl fun _ => .inl unborn
  | greet d e => exact decided.answer d e _
  | address d e => exact (decided.answer d e []).congr (fun _ => rfl) rfl fun _ => ⟨rfl, id⟩
  | ready d e talks =>
      refine (decided.answer d e (talk talks)).congr ?_ rfl fun _ => ⟨rfl, id⟩
      exact fun q => State.voice_changeEntry _ _ q (fun _ => rfl) fun _ => rfl
  | hear d e _ talks => exact decided.answer d e _
  | adopt d inside incoming rest head allowed =>
      -- only `!x` may still be dialling, and `x` does not give way to it
      obtain ⟨isClient, keeps⟩ := decided.others d inside (.inr incoming)
      rw [isClient, Bool.not_not] at allowed
      obtain ⟨_, gives | isServer⟩ := allowed xEntry xMet
      · rw [keeps] at gives
        cases gives
      · unfold Entry.side at xSide
        rw [isServer] at xSide
        cases xSide
  | reject d =>
      refine decided.setWire rfl ?_
      rw [Wire.setStatus_status_self]
      rintro (start | start) <;> cases start
  | ignore d e => exact decided.setWire rfl id
  | hangUp d e inside current why =>
      -- the ends of `c` are both current
      have voice := sound.voice_of_current inside current
      obtain ⟨entry, found, conn, side⟩ := State.entry_of_voice voice
      obtain ⟨entry', found', conn'⟩ := met ((a.wire d).owner e)
      obtain rfl := Option.some.inj (found.symm.trans found')
      obtain rfl := Option.some.inj (conn.symm.trans conn')
      have closed : ((a.wire d).status e.other).Closed := by
        refine why.resolve_left fun lost => ?_
        have still := lives d (by rw [State.release_next]; exact inside)
        rw [(a.release_wire _ _ d).2.2.1, lost] at still
        cases still
      have open' : (a.wire d).status e.other = .current := by
        cases e with
        | client => exact serverStatus
        | server => exact clientStatus
      rw [open'] at closed
      rcases closed with same | same | same <;> cases same
  | leave d e inside reads why =>
      refine decided.setWire rfl ?_
      cases e with
      | client => exact id
      | server =>
          rw [Wire.setStatus_status_self]
          rintro (start | start) <;> cases start
  | lose d inside =>
      have still := lives d inside
      rw [State.setWire_self] at still
      cases still
  | talk p talks =>
      unfold State.say
      split
      · refine decided.setWire (Wire.push_client ..) ?_
        rw [Wire.push_status]
        exact id
      · exact decided

/-- Of two processes with different IDs one yields. A step leaves everything open or
decides. -/
theorem Undecided.step (undecided : Undecided a) (sound : Sound a)
    (distinct : ∀ p, yields (!p) = !yields p)
    (lives : ∀ d < a'.wire.next, (a'.wire d).lost = false) (step : Step yields a a') :
    Undecided a' ∨ ∃ x c, Decided yields x c a' := by
  have unready : ∀ p, a.ready p = false := by
    intro p
    unfold State.ready
    cases met : a.entry p with
    | none => rfl
    | some e => exact (undecided.entry p e met).2
  -- nobody reads on a current end
  have silent : ∀ c < a.wire.next, ∀ e first (rest : List (Message Text)),
      (a.wire c).status e = .current → (a.wire c).queue e ≠ first :: rest := by
    intro c known e first rest current head
    cases e with
    | client =>
        rw [undecided.toClient c known] at head
        cases head
    | server =>
        rcases undecided.wire c known with ⟨_, start | start⟩ | ⟨start | start, _⟩ <;>
          rw [current] at start <;> cases start
  have setWire : ∀ (c : ConnId) (change : Wire Text → Wire Text),
      (c < a.wire.next → (change (a.wire c)).queue .client = [] ∧
        (((change (a.wire c)).status .client = .current ∧
            ((change (a.wire c)).status .server = .unborn ∨
              (change (a.wire c)).status .server = .incoming)) ∨
          (((change (a.wire c)).status .server = .rejected ∨
              (change (a.wire c)).status .server = .ended) ∧
            .id ∉ (change (a.wire c)).queue .server))) →
      Undecided (a.setWire c change) := by
    intro c change good
    have each : ∀ d < a.wire.next, _ := fun d known => And.intro (undecided.toClient d known)
      (undecided.wire d known)
    refine ⟨undecided.entry, ?_, ?_⟩
    all_goals
      intro d known
      by_cases same : d = c
      · subst same
        rw [State.setWire_self]
        first | exact (good known).1 | exact (good known).2
      · rw [State.setWire_of_ne _ _ same]
        first | exact (each d known).1 | exact (each d known).2
  cases step with
  | dial p unmet =>
      refine .inl ⟨?_, undecided.toClient, undecided.wire⟩
      intro q e met
      by_cases same : q = p
      · rw [same, State.setEntry_self] at met
        rw [← Option.some.inj met]
        exact ⟨rfl, rfl⟩
      · rw [State.setEntry_of_ne _ _ same] at met
        exact undecided.entry q e met
  | connect p ready dialling =>
      refine .inl ⟨?_, ?_, ?_⟩
      · intro q e met
        by_cases same : q = p
        · have entry : (a.connect p).entry p = some ⟨false, false, some a.wire.next⟩ :=
            Function.update_self ..
          rw [same, entry] at met
          rw [← Option.some.inj met]
          exact ⟨rfl, rfl⟩
        · have entry : (a.connect p).entry q = a.entry q := Function.update_of_ne same ..
          rw [entry] at met
          exact undecided.entry q e met
      all_goals
        intro d known
        rcases Nat.lt_succ_iff_lt_or_eq.mp known with before | rfl
        · have wire : (a.connect p).wire d = a.wire d := Heap.alloc_of_lt _ _ before
          rw [wire]
          first | exact undecided.toClient d before | exact undecided.wire d before
        · have wire : (a.connect p).wire a.wire.next = .dialled p := Heap.alloc_self ..
          rw [wire]
          first | rfl | exact .inl ⟨rfl, .inl rfl⟩
  | accept c known unborn =>
      refine .inl (setWire c _ fun _ => ⟨undecided.toClient c known, ?_⟩)
      rcases undecided.wire c known with ⟨current, _⟩ | ⟨start | start, _⟩
      · exact .inl ⟨(Wire.setStatus_status_other _ .server .incoming).trans current,
          .inr (Wire.setStatus_status_self ..)⟩
      · rw [unborn] at start
        cases start
      · rw [unborn] at start
        cases start
  | greet c e known current rest head => exact absurd head (silent c known e _ _ current)
  | address c e known current rest head => exact absurd head (silent c known e _ _ current)
  | ready c e talks known current rest head => exact absurd head (silent c known e _ _ current)
  | hear c e text talks known current rest head => exact absurd head (silent c known e _ _ current)
  | adopt c known incoming rest head allowed =>
      refine .inr ⟨(a.wire c).client, c, ?_⟩
      generalize isServer : (!(a.wire c).client) = y at allowed
      have notX : (a.wire c).client ≠ y := by
        rw [← isServer]
        cases (a.wire c).client <;> exact nofun
      have clientCurrent : (a.wire c).status .client = .current := by
        rcases undecided.wire c known with ⟨current, _⟩ | ⟨start | start, _⟩
        · exact current
        · rw [incoming] at start
          cases start
        · rw [incoming] at start
          cases start
      have voiceX : a.voice (a.wire c).client = some (c, .client) :=
        sound.voice_of_current known clientCurrent
      have wire := a.release_wire y .dropped
      have notServer : ∀ d, a.voice y ≠ some (d, .server) := by
        intro d talks
        obtain ⟨entry, met, _, side⟩ := State.entry_of_voice talks
        unfold Entry.side at side
        rw [(undecided.entry y entry met).1] at side
        cases side
      constructor
      · refine Eq.trans (State.voice_congr ?_) voiceX
        exact (State.setEntry_of_ne _ _ notX).trans (a.release_entry_of_ne _ notX)
      · have entry : ((a.release y .dropped).attach y c).entry y = some ⟨true, false, some c⟩ :=
          Function.update_self ..
        rw [isServer]
        simp only [State.voice, entry]
        rfl
      · intro d inside start
        have inside' : d < a.wire.next := by
          have next : ((a.release y .dropped).attach y c).wire.next = a.wire.next :=
            a.release_next y .dropped
          rwa [next] at inside
        by_cases same : d = c
        · subst same
          have self : (((a.release y .dropped).attach y d).wire d).status .server = .current := by
            have changed := ((a.release y .dropped).setEntry y ⟨true, false, some d⟩).setWire_self d
              fun w => ((w.pop .server).setStatus .server .current).push .client
                [.id, .you, .connected]
            refine (congrArg (fun w : Wire Text => w.status .server) changed).trans ?_
            rw [Wire.push_status]
            exact Wire.setStatus_status_self ..
          rw [self] at start
          rcases start with start | start <;> cases start
        · have other : ((a.release y .dropped).attach y c).wire d = (a.release y .dropped).wire d :=
            State.setWire_of_ne _ _ same
          rw [other, (wire d).2.2.2 .server, if_neg (notServer d)] at start
          have current : (a.wire d).status .client = .current := by
            rcases undecided.wire d inside' with ⟨current, _⟩ | ⟨ended | ended, _⟩
            · exact current
            · rw [ended] at start
              rcases start with start | start <;> cases start
            · rw [ended] at start
              rcases start with start | start <;> cases start
          have voice : a.voice (a.wire d).client = some (d, .client) :=
            sound.voice_of_current inside' current
          have isY : (a.wire d).client = y := by
            by_contra notY
            have isX : (a.wire d).client = (a.wire c).client := by
              rw [← isServer] at notY
              cases isD : (a.wire d).client <;> cases isC : (a.wire c).client <;>
                first | rfl | exact absurd (by rw [isD, isC]; rfl) notY
            rw [isX, voiceX] at voice
            exact same (Prod.mk.inj (Option.some.inj voice)).1.symm
          -- `y` has dialled `d`, so it has given way because its ID is the lower one
          obtain ⟨entry, met, _, _⟩ := State.entry_of_voice (isY ▸ voice)
          have gives : yields y = true := by
            refine (allowed entry met).2.resolve_right fun isServer => ?_
            rw [(undecided.entry y entry met).1] at isServer
            cases isServer
          have keeps : yields (a.wire c).client = false := by
            have apart := distinct (a.wire c).client
            rw [isServer, gives] at apart
            cases kept : yields (a.wire c).client with
            | false => rfl
            | true =>
                rw [kept] at apart
                cases apart
          rw [other, (wire d).1, isServer]
          exact ⟨isY, keeps⟩
  | reject c known incoming rest head =>
      refine .inl (setWire c _ fun _ => ⟨?_, .inr ⟨.inl (Wire.setStatus_status_self ..), ?_⟩⟩)
      · exact ((a.wire c).pop_queue_other .server).trans (undecided.toClient c known)
      · have queue : (((a.wire c).pop .server).setStatus .server .rejected).queue .server = [.you] := by
          refine ((a.wire c).pop_queue_self .server).trans ?_
          rw [((sound.wire c known).opening (.inr incoming)).2.1]
          rfl
        rw [queue]
        simp
  | ignore c e known closed first rest head =>
      refine .inl (setWire c _ fun _ => ?_)
      cases e with
      | client =>
          rw [undecided.toClient c known] at head
          cases head
      | server =>
          refine ⟨((a.wire c).pop_queue_other .server).trans (undecided.toClient c known), .inr ?_⟩
          rcases undecided.wire c known with ⟨_, start | start⟩ | ⟨ended, noId⟩
          · rw [start] at closed
            rcases closed with closed | closed <;> cases closed
          · rw [start] at closed
            rcases closed with closed | closed <;> cases closed
          · refine ⟨ended, ?_⟩
            rw [Wire.pop_queue_self]
            exact fun member => noId (List.mem_of_mem_tail member)
  | hangUp c e known current why =>
      have voice := sound.voice_of_current known current
      have wire := a.release_wire ((a.wire c).owner e) .ended
      have isClient : e = .client := by
        cases e with
        | client => rfl
        | server =>
            rcases undecided.wire c known with ⟨_, start | start⟩ | ⟨start | start, _⟩ <;>
              rw [current] at start <;> cases start
      subst isClient
      refine .inl ⟨?_, ?_, ?_⟩
      · intro q e met
        by_cases same : q = (a.wire c).owner .client
        · rw [State.release_talking _ voice, same] at met
          have changed := (State.changeEntry_self a ((a.wire c).owner .client) fun entry =>
            { entry with ready := false, conn := none }).symm.trans met
          obtain ⟨entry, found, result⟩ := Option.map_eq_some_iff.mp changed
          rw [← result]
          exact ⟨(undecided.entry _ entry found).1, rfl⟩
        · rw [State.release_entry_of_ne _ _ same] at met
          exact undecided.entry q e met
      · intro d inside
        rw [State.release_next] at inside
        rw [(wire d).2.1]
        exact undecided.toClient d inside
      · intro d inside
        rw [State.release_next] at inside
        rw [(wire d).2.1, (wire d).2.2.2 .client, (wire d).2.2.2 .server, voice,
          if_neg (by simp : some (c, End.client) ≠ some (d, End.server))]
        by_cases same : d = c
        · subst same
          -- the client leaves because the server has closed
          have closed : ((a.wire d).status .server).Closed := by
            refine why.resolve_left fun lost => ?_
            have still := lives d (by rw [State.release_next]; exact inside)
            rw [(wire d).2.2.1, lost] at still
            cases still
          rcases undecided.wire d inside with ⟨_, start | start⟩ | ended
          · rw [start] at closed
            rcases closed with closed | closed | closed <;> cases closed
          · rw [start] at closed
            rcases closed with closed | closed | closed <;> cases closed
          · exact .inr ended
        · rw [if_neg fun here => same (Prod.mk.inj (Option.some.inj here)).1.symm]
          exact undecided.wire d inside
  | leave c e known reads why =>
      refine .inl (setWire c _ fun _ => ⟨undecided.toClient c known, ?_⟩)
      cases e with
      | client =>
          rcases undecided.wire c known with ⟨current, _⟩ | ended
          · rw [current] at reads
            rcases reads with reads | reads | reads <;> cases reads
          · exact .inr ⟨((a.wire c).setStatus_status_other .client .ended).symm ▸ ended.1, ended.2⟩
      | server =>
          rcases undecided.wire c known with ⟨current, start | start⟩ | ended
          · rw [start] at reads
            rcases reads with reads | reads | reads <;> cases reads
          · rcases why start with lost | closed
            · have still := lives c known
              rw [State.setWire_self] at still
              have notLost : (a.wire c).lost = false := still
              rw [notLost] at lost
              cases lost
            · rw [show End.server.other = End.client from rfl, current] at closed
              rcases closed with closed | closed | closed <;> cases closed
          · exact .inr ⟨.inr (Wire.setStatus_status_self ..), ended.2⟩
  | lose c known =>
      have still := lives c known
      rw [State.setWire_self] at still
      cases still
  | talk p talks entitled =>
      have nothing : talks = [] :=
        entitled.resolve_right fun ready => by rw [unready] at ready; cases ready
      rw [nothing]
      exact .inl ((a.say_nil p).symm ▸ undecided)

/-- When nothing happens any more, the two agree on one connection and are ready. -/
theorem settled (sound : Sound a) (lives : ∀ d < a.wire.next, (a.wire d).lost = false)
    (state : Undecided a ∨ ∃ x c, Decided yields x c a) (quiet : Quiet a)
    (met : ∃ p, a.entry p ≠ none) :
    ∃ x c, Decided yields x c a ∧ (∀ p, a.ready p = true) ∧
      ∀ d < a.wire.next, d ≠ c → ∀ e, ¬ ((a.wire d).status e).Open := by
  rcases state with undecided | ⟨x, c, decided⟩
  · obtain ⟨p, isMet⟩ := met
    obtain ⟨entry, found⟩ := Option.ne_none_iff_exists'.mp isMet
    obtain ⟨isClient, _⟩ := undecided.entry p entry found
    obtain ⟨c, conn⟩ := Option.ne_none_iff_exists'.mp (quiet.connected p entry found isClient)
    have voice : a.voice p = some (c, .client) := by
      unfold State.voice Entry.side
      simp only [found, conn, isClient]
      rfl
    obtain ⟨known, _⟩ := sound.voice p c _ voice
    have current := sound.status_of_voice voice
    rcases undecided.wire c known with ⟨_, start | start⟩ | ⟨ended, _⟩
    · exact absurd start (quiet.accepted c known)
    · have empty := quiet.delivered c known .server (.inl start)
      rw [((sound.wire c known).opening (.inr start)).2.1] at empty
      cases empty
    · refine absurd ?_ (quiet.closed c known .client (.inr current))
      exact ended.elim .inl fun ended => .inr (.inr ended)
  · refine ⟨x, c, decided, ?_, ?_⟩
    · obtain ⟨known, isClient⟩ := sound.voice _ c _ decided.client
      obtain ⟨_, isServer⟩ := sound.voice _ c _ decided.server
      have clientStatus := sound.status_of_voice decided.client
      have serverStatus := sound.status_of_voice decided.server
      have toClient := quiet.delivered c known .client (.inr clientStatus)
      have toServer := quiet.delivered c known .server (.inr serverStatus)
      rcases (sound.wire c known).orderly clientStatus serverStatus (lives c known) with
        unanswered | flow
      · rw [unanswered.toClient] at toClient
        cases toClient
      · have readyAt : ∀ e, (a.wire c).queue e = [] → a.ready ((a.wire c).owner e) = true := by
          intro e empty
          have here := flow e
          rw [empty] at here
          exact here.nil
        intro p
        by_cases same : p = x
        · rw [same, ← isClient]
          exact readyAt .client toClient
        · have isOther : p = !x := by
            cases p <;> cases x <;> first | rfl | exact absurd rfl same
          rw [isOther, ← isServer]
          exact readyAt .server toServer
    · rintro d known other e (start | current)
      · cases e with
        | client =>
            rcases (sound.wire d known).client with same | same | same <;>
              rw [same] at start <;> cases start
        | server =>
            have empty := quiet.delivered d known .server (.inl start)
            rw [((sound.wire d known).opening (.inr start)).2.1] at empty
            cases empty
      · have voice := sound.voice_of_current known current
        have same : ∀ p, ∃ e, a.voice p = some (c, e) := by
          intro p
          by_cases isX : p = x
          · exact ⟨_, isX ▸ decided.client⟩
          · have isOther : p = !x := by
              cases p <;> cases x <;> first | rfl | exact absurd rfl isX
            exact ⟨_, isOther ▸ decided.server⟩
        obtain ⟨e', here⟩ := same ((a.wire d).owner e)
        rw [here] at voice
        exact other (Prod.mk.inj (Option.some.inj voice)).1.symm

end Handshake

end LibPubSub
