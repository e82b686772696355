import LibPubSub.Endpoints
import LibPubSub.SharedMemory

/-! What the shared segment of a `ServerSHM` and its `ClientSHM`s passes on. Each callback
gets the whole segment, so behind a short message stands what is left of those before it. -/

set_option autoImplicit false

namespace LibPubSub

open Transition

/-! ## Refilling a buffer -/

namespace Pipe

variable {bufsize : Nat} {buf : Str} {chunks : List Str}

@[simp] theorem length_passed (buf : Str) (chunks : List Str) :
    (passed buf chunks).length = chunks.length := by
  induction chunks generalizing buf with
  | nil => rfl
  | cons chunk chunks ih => simp only [passed, List.length_cons, ih]

theorem left_concat (buf : Str) (chunks : List Str) (chunk : Str) :
    left buf (chunks ++ [chunk]) = chunk ++ (left buf chunks).drop chunk.length := by
  simp only [left, List.foldl_append, List.foldl_cons, List.foldl_nil]

theorem passed_concat_left (buf : Str) (chunks : List Str) (chunk : Str) :
    passed buf (chunks ++ [chunk]) = passed buf chunks ++ [left buf (chunks ++ [chunk])] := by
  rw [passed_concat, left_concat]

theorem length_left (size : buf.length = bufsize)
    (fit : ∀ chunk ∈ chunks, chunk.length ≤ bufsize) : (left buf chunks).length = bufsize := by
  induction chunks generalizing buf with
  | nil => exact size
  | cons chunk chunks ih =>
      obtain ⟨fits, later⟩ := List.forall_mem_cons.mp fit
      exact ih (length_refilled size fits) later

end Pipe

/-! ## Runs of the ends -/

namespace SharedMemory

variable {P : Type} {bufsize : Nat} {segment : Str}

/-- What the ends call: `send` of either is `write(buf, len)`, and the thread of an end that
reads calls `read()`. -/
def Event.OfEnds : Event P → Prop
  | .call _ (.write _) | .call _ .receive => True
  | .call _ .signal | .call _ (.read _) => False
  | .construct _ | .semWait _ | .access _ | .semPost _ => True

instance : (event : Event P) → Decidable event.OfEnds
  | .call _ (.write _) | .call _ .receive => .isTrue trivial
  | .call _ .signal | .call _ (.read _) => .isFalse id
  | .construct _ | .semWait _ | .access _ | .semPost _ => .isTrue trivial

/-- A method that an end calls. -/
inductive Access.OfEnds (bufsize : Nat) : Access → Prop where
  | copyIn (bytes : Str) (fits : bytes.length ≤ bufsize) : OfEnds bufsize (.copyIn bytes)
  | receive : OfEnds bufsize .receive

variable [DecidableEq P] {side : P → Side} {s s' : State P} {turn : Turn P} {p : P} {m : Method}

/-- The invariant: the segment is what the messages have left in it, and the callbacks have
got it as it was behind each of them. -/
structure Refilled (bufsize : Nat) (segment : Str) (s : State P) (turn : Turn P) : Prop where
  hands : HandsOver s turn
  ends : ∀ p m, (s.pc p).method? = some m → m.access.OfEnds bufsize
  fit : ∀ message ∈ s.written, message.length ≤ bufsize
  content : s.segment = Pipe.left segment s.written
  received : s.received = Pipe.passed segment (s.written.take s.received.length)

theorem refilled_start (side : P → Side) (sems : Sem → Option Nat) (bufsize : Nat)
    (segment : Str) : Refilled bufsize segment (start side sems segment) (.free .write) := by
  refine ⟨handsOver_start side sems segment, fun p m => ?_, nofun, rfl, rfl⟩
  simp only [start]
  split <;> simp [Pc.method?]

/-- How many messages are still to be read. -/
theorem HandsOver.count (hands : HandsOver s turn) :
    s.written.length = s.received.length + if s.full turn then 1 else 0 := by
  obtain ⟨read, pending, written, conveyed, rest⟩ := hands.handed
  rw [written, List.length_append, conveyed.length_eq]
  split at rest
  · next full =>
    obtain ⟨message, rfl, _⟩ := rest
    rw [if_pos full, List.length_singleton]
  · next empty => rw [if_neg empty, rest, List.length_nil]

/-- Nothing is written or read outside `memcpy` and the callback. -/
theorem Refilled.beside {turn' : Turn P} (refilled : Refilled bufsize segment s turn)
    (hands : HandsOver s' turn')
    (ends : ∀ p m, (s'.pc p).method? = some m → m.access.OfEnds bufsize)
    (written : s'.written = s.written) (received : s'.received = s.received)
    (same : s'.segment = s.segment) : Refilled bufsize segment s' turn' := by
  refine ⟨hands, ends, ?_, ?_, ?_⟩
  · rw [written]
    exact refilled.fit
  · rw [same, written]
    exact refilled.content
  · rw [received, written]
    exact refilled.received

theorem Refilled.ends_goto {pc : Pc} (refilled : Refilled bufsize segment s turn)
    (ends : ∀ m, pc.method? = some m → m.access.OfEnds bufsize) (q : P) (m : Method)
    (inMethod : ((s.goto p pc).pc q).method? = some m) : m.access.OfEnds bufsize := by
  by_cases same : q = p
  · subst same
    rw [goto_self] at inMethod
    exact ends m inMethod
  · rw [goto_of_ne s pc same] at inMethod
    exact refilled.ends q m inMethod

theorem Refilled.access (size : segment.length = bufsize)
    (refilled : Refilled bufsize segment s turn) (entered : s.pc p = .entered m) :
    Refilled bufsize segment ((s.perform bufsize m.access).goto p (.accessed m)) turn := by
  have inMethod : (s.pc p).method? = some m := by rw [entered]; rfl
  have hands : HandsOver ((s.perform bufsize m.access).goto p (.accessed m)) turn :=
    refilled.hands.access entered
  have count := refilled.hands.count
  have held : turn = .held p := (refilled.hands.inside p).mp (by rw [entered]; rfl)
  have waits := (refilled.hands.fair p m inMethod).waits
  have full : s.full turn = (m.waits = Sem.read : Bool) := by
    rw [held]
    simp only [State.full, entered, Pc.full]
  rw [full] at count
  obtain ⟨-, pcs⟩ := perform_beside bufsize s m.access
  have ends (q : P) (m' : Method)
      (within : (((s.perform bufsize m.access).goto p (.accessed m)).pc q).method? = some m') :
      m'.access.OfEnds bufsize := by
    by_cases same : q = p
    · subst same
      rw [goto_self] at within
      obtain rfl := Option.some.inj within
      exact refilled.ends q m inMethod
    · rw [goto_of_ne _ _ same, pcs] at within
      exact refilled.ends q m' within
  have isEnd := refilled.ends p m inMethod
  obtain ⟨waitsFor, access, posts⟩ := m
  cases isEnd with
  | copyIn bytes fits =>
      have waits : waitsFor = .write := waits
      have all : s.written.length = s.received.length := by simpa [waits] using count
      refine ⟨hands, ends, ?_, ?_, ?_⟩
      · intro message member
        rcases List.mem_append.mp member with old | new
        · exact refilled.fit message old
        · rw [List.mem_singleton.mp new]
          exact fits
      · change bytes ++ s.segment.drop bytes.length = Pipe.left segment (s.written ++ [bytes])
        rw [Pipe.left_concat, refilled.content]
      · change s.received = Pipe.passed segment ((s.written ++ [bytes]).take s.received.length)
        rw [← all, List.take_left]
        have received := refilled.received
        rwa [← all, List.take_length] at received
  | receive =>
      have waits : waitsFor = .read := waits
      have one : s.written.length = s.received.length + 1 := by simpa [waits] using count
      refine ⟨hands, ends, refilled.fit, refilled.content, ?_⟩
      change s.received ++ [s.segment.take bufsize] =
        Pipe.passed segment (s.written.take (s.received ++ [s.segment.take bufsize]).length)
      obtain ⟨before, last, written⟩ : ∃ before last, s.written = before ++ [last] :=
        ⟨_, _, (List.dropLast_concat_getLast (List.ne_nil_of_length_eq_add_one one)).symm⟩
      have length : before.length = s.received.length := by
        rw [written, List.length_append, List.length_singleton] at one
        omega
      have received := refilled.received
      rw [written, ← length, List.take_left] at received
      have whole : s.segment.take bufsize = Pipe.left segment (before ++ [last]) := by
        rw [refilled.content, written]
        apply List.take_of_length_le
        rw [Pipe.length_left size (written ▸ refilled.fit)]
      rw [List.length_append, List.length_singleton, ← one, List.take_length, whole, received,
        written, Pipe.passed_concat_left]

theorem Refilled.step {event : Event P} (size : segment.length = bufsize)
    (refilled : Refilled bufsize segment s turn) (ofEnds : event.OfEnds)
    (stepped : Step bufsize side s event s') : ∃ turn', Refilled bufsize segment s' turn' := by
  obtain ⟨turn', hands⟩ := refilled.hands.step stepped
  unfold Step at stepped
  cases event with
  | construct p =>
      simp only [react] at stepped
      split at stepped
      · cases stepped
        exact ⟨turn', refilled.beside hands (refilled.ends_goto fun _ none => by cases none) rfl rfl rfl⟩
      · cases stepped
  | call p call =>
      simp only [react] at stepped
      split at stepped
      · split at stepped
        · next within =>
          cases stepped
          refine ⟨turn', refilled.beside hands (refilled.ends_goto ?_) rfl rfl rfl⟩
          rintro m ⟨⟩
          cases call with
          | write bytes => cases side p <;> exact .copyIn bytes within
          | receive => cases side p <;> exact .receive
          | signal | read => cases ofEnds
        · cases stepped
      · cases stepped
  | semWait p =>
      simp only [react] at stepped
      split at stepped
      · next m calling =>
        split at stepped
        · cases stepped
          refine ⟨turn', refilled.beside hands (refilled.ends_goto ?_) rfl rfl rfl⟩
          rintro m' ⟨⟩
          exact refilled.ends p m (by rw [calling]; rfl)
        · cases stepped
      · cases stepped
  | access p =>
      simp only [react] at stepped
      split at stepped
      · next m entered =>
        cases stepped
        exact ⟨turn, refilled.access size entered⟩
      · cases stepped
  | semPost p =>
      simp only [react] at stepped
      split at stepped
      · cases stepped
        exact ⟨turn', refilled.beside hands (refilled.ends_goto fun _ none => by cases none) rfl rfl rfl⟩
      · cases stepped

/-- What is known of the messages that the callbacks have got. -/
structure Served (bufsize : Nat) (segment : Str) (s : State P) : Prop where
  /-- A message is what was written, and behind it what is left of the messages before it. -/
  received : s.received = Pipe.passed segment (s.written.take s.received.length)
  size : ∀ message ∈ s.received, message.length = bufsize
  /-- At most the last message has not been read. -/
  lagging : s.received.length ≤ s.written.length ∧ s.written.length ≤ s.received.length + 1
  /-- The callbacks get what was written exactly if each message fills the segment. -/
  exact : s.received.flatten = (s.written.take s.received.length).flatten ↔
    ∀ message ∈ s.written.take s.received.length, message.length = bufsize

theorem Refilled.served (size : segment.length = bufsize)
    (refilled : Refilled bufsize segment s turn) : Served bufsize segment s := by
  have fit : ∀ message ∈ s.written.take s.received.length, message.length ≤ bufsize :=
    fun message member => refilled.fit message (List.mem_of_mem_take member)
  have count := refilled.hands.count
  constructor
  · exact refilled.received
  · rw [refilled.received]
    exact Pipe.length_of_mem_passed size fit
  · split at count <;> omega
  · have same := Pipe.flatten_passed_iff size fit
    rwa [← refilled.received] at same

/-- In every run of the ends of a segment, whatever writes and reads interleave, the callbacks
get the segment as the messages have left it. -/
theorem served_of_ends {sems : Sem → Option Nat} (size : segment.length = bufsize)
    (reached : Reaches (Under (fun _ event => Event.OfEnds event) (Step bufsize side))
      (start side sems segment) s) : Served bufsize segment s := by
  obtain ⟨turn, refilled⟩ := reached.invariant
    (P := fun s => ∃ turn, Refilled bufsize segment s turn)
    ⟨_, refilled_start side sems bufsize segment⟩
    fun _ _ _ ⟨_, refilled⟩ stepped => refilled.step size stepped.1 stepped.2
  exact refilled.served size

/-- The second callback gets bytes of the first message. -/
theorem served_of_ends_twice : ∃ s : State Bool,
    s.received = ["abcd".toList, "efcd".toList] ∧ s.received.flatten ≠ s.written.flatten := by
  let side : Bool → Side := fun p => if p then .server else .client
  have replayed : replay (fun s event => (react 4 side s event).elim (.error ()) .ok)
      (fun _ event => decide event.OfEnds)
      (fun _ s => s.received = ["abcd".toList, "efcd".toList] ∧
        s.written = ["abcd".toList, "ef".toList]) (.access true)
      (start side (fun _ => none) "----".toList)
      [.construct false, .call true .receive, .call false (.write "abcd".toList), .semWait false,
        .access false, .semPost false, .semWait true, .access true, .semPost true,
        .call false (.write "ef".toList), .call true .receive, .semWait false, .access false,
        .semPost false, .semWait true] = true := by decide
  obtain ⟨trace, s, ran, checked⟩ := replay_run_of_option replayed
  obtain ⟨received, written⟩ := of_decide_eq_true checked
  have ofEnds : Every (Under (fun _ event => Event.OfEnds event) (Step 4 side)) _ _ :=
    ran.mono fun _ _ _ stepped => ⟨of_decide_eq_true stepped.1, stepped.2⟩
  have size : "----".toList.length = 4 := rfl
  have exact := (served_of_ends size ⟨_, ofEnds, final_concat _ _ _⟩).exact
  refine ⟨s, received, fun same => ?_⟩
  rw [received, written] at exact same
  exact absurd (exact.mp same "ef".toList (by decide)) (by decide)

end SharedMemory

end LibPubSub
