import LibPubSub.PortRegistry
import LibPubSub.Transport

/-! The factory of `protocols.cpp` and the ends that it makes: which client finds the
server of a description, and what the loop of `ServerPipe` passes on. -/

set_option autoImplicit false

namespace LibPubSub

open Transition
open PortRegistry (cstr)

/-! ## The factory -/

/-- The conversion of an `int` to `size_t`. -/
def sizeOfInt (n : Int32) : UInt64 :=
  n.toInt64.toUInt64

/-- The constructors of the servers with their arguments. -/
inductive Server where
  | tcp (port : Int32)
  | shm (name : Str) (isInput : Bool) (bufsize : UInt64)
  | pipe (channel : Str) (isInput : Bool) (bufsize : UInt64)
  | rtc (channel : Str) (isInput : Bool) (port : Int32)
  deriving DecidableEq

/-- The constructors of the clients with their arguments. -/
inductive Client where
  | tcp (ip : Str) (port : Int32)
  | shm (name : Str) (isInput : Bool)
  | pipe (channel : Str) (isInput : Bool) (bufsize : UInt64)
  deriving DecidableEq

namespace TransportDescription

/-- `create_client()`. The constructor of `ClientRTC` throws. -/
def createClient (d : TransportDescription) : Except Str (Option Client) :=
  if d.protocol = "tcp".toList then .ok (some (.tcp (cstr d.ip) d.port))
  else if d.protocol = "shm".toList then .ok (some (.shm (cstr d.channel) (d.type == .output)))
  else if d.protocol = "pipe".toList then
    .ok (some (.pipe (cstr d.channel) (d.type == .output) (sizeOfInt d.port)))
  else if d.protocol = "rtc".toList then .error "Not Implemented".toList
  else .ok none

/-- `create_server()`, where `get_free_port(10001, channel)` returns `freePort`, and the
description behind it. -/
def createServer (d : TransportDescription) (freePort : Int32) :
    Option Server × TransportDescription :=
  if d.protocol = "tcp".toList then
    if d.port ≠ 0 then (some (.tcp d.port), d)
    else (some (.tcp freePort), { d with port := freePort })
  else if d.protocol = "shm".toList then
    (some (.shm (cstr d.channel) (d.type == .input) (sizeOfInt d.port)), d)
  else if d.protocol = "pipe".toList then
    (some (.pipe (cstr d.channel) (d.type == .input) (sizeOfInt d.port)), d)
  else if d.protocol = "rtc".toList then
    (some (.rtc (cstr d.channel) (d.type == .input) d.port), d)
  else (none, d)

end TransportDescription

/-! ## The constructors -/

/-- What the system answers to the constructors of one end. -/
structure System where
  /-- `gethostbyname()` finds the host. -/
  resolves : Str → Bool
  /-- `socket()` returns a descriptor. -/
  socket : Bool
  /-- `::bind()` takes the port. -/
  binds : Int32 → Bool
  /-- `open()` of the fifo of a channel, which waits for the other end, returns a descriptor. -/
  opens : Str → Bool
  /-- `mmap()` maps so many bytes of the segment of a channel. -/
  maps : Str → UInt64 → Bool

/-- `mmap()` refuses a length of 0. -/
def System.mmap (sys : System) (name : Str) (length : UInt64) : Bool :=
  length != 0 && sys.maps name length

/-- The number in each file `/tmp/shm_<name>_infos`. -/
abbrev Infos :=
  Str → UInt64

/-- The constructor of a server: the exception that it throws, or the files behind it. The one
of `ServerSHM` has the parameters of `shm.h`. A pipe that reads is opened by its thread, which
throws nothing. -/
def Server.construct (sys : System) (infos : Infos) : Server → Except Str Infos
  | .tcp port =>
      if sys.socket = false then .error "ERROR opening socket".toList
      else if sys.binds port = false then .error "ERROR on binding".toList
      else .ok infos
  | .shm name _ bufsize =>
      -- `print_infos("%lu", bufsize)` stands before the mapping
      if sys.mmap name (bufsize + 4) then .ok (Function.update infos name bufsize)
      else .error "mmap".toList
  | .pipe channel isInput _ =>
      if isInput || sys.opens channel then .ok infos
      else .error "Cannot open output file\n".toList
  | .rtc _ _ _ => .ok infos

/-- The constructor of a client: the exception that it throws, or the `bufsize` of the end.
The one of `ClientSHM` runs behind the one of a server, so its file is there. -/
def Client.construct (sys : System) (infos : Infos) : Client → Except Str (Option UInt64)
  | .tcp ip _ =>
      if sys.resolves ip = false then .error "Couldn't resolve host".toList
      else if sys.socket = false then .error "ERROR opening socket".toList
      else .ok none
  | .shm name _ =>
      -- `scan_infos("%lu", &bufsize)`
      if sys.mmap name (infos name) then .ok (some (infos name)) else .error "mmap".toList
  | .pipe channel _ bufsize =>
      if sys.opens channel then .ok (some bufsize) else .error "Cannot open fifo\n".toList

/-- The client, with the `bufsize` it has, reaches the server, and where only one side of a pipe
or a segment reads, one does. -/
def Server.Fits : Server → Client → Option UInt64 → Prop
  | .tcp port, .tcp _ port', _ => port = port'
  | .shm name isInput bufsize, .shm name' isInput', size =>
      name = name' ∧ size = some bufsize ∧ (isInput ^^ isInput') = true
  | .pipe name isInput bufsize, .pipe name' isInput' _, size =>
      name = name' ∧ size = some bufsize ∧ (isInput ^^ isInput') = true
  | _, _, _ => False

/-- The two constructors, that of the server first, end without an exception, and the ends fit. -/
def Server.Meets (there here : System) (infos : Infos) (s : Server) (c : Client) : Prop :=
  ∃ infos' size, s.construct there infos = .ok infos' ∧ c.construct here infos' = .ok size ∧
    s.Fits c size

section

variable {there here : System} {infos : Infos}

theorem Server.meets_tcp_iff {port port' : Int32} {ip : Str} :
    (Server.tcp port).Meets there here infos (.tcp ip port') ↔
      port = port' ∧ there.socket = true ∧ there.binds port = true ∧
        here.resolves ip = true ∧ here.socket = true := by
  simp only [Server.Meets, Server.construct, Client.construct, Server.Fits]
  cases there.socket <;> cases there.binds port <;> cases here.resolves ip <;>
    cases here.socket <;> simp

theorem Server.meets_shm_iff {name : Str} {isInput isInput' : Bool} {bufsize : UInt64} :
    (Server.shm name isInput bufsize).Meets there here infos (.shm name isInput') ↔
      (isInput ^^ isInput') = true ∧ there.mmap name (bufsize + 4) = true ∧
        here.mmap name bufsize = true := by
  simp only [Server.Meets, Server.construct, Client.construct, Server.Fits]
  cases there.mmap name (bufsize + 4) with
  | false => simp
  | true => cases mapped : here.mmap name bufsize <;> simp [mapped]

theorem Server.meets_pipe_iff {name : Str} {isInput isInput' : Bool} {bufsize : UInt64} :
    (Server.pipe name isInput bufsize).Meets there here infos (.pipe name isInput' bufsize) ↔
      (isInput ^^ isInput') = true ∧ (isInput = true ∨ there.opens name = true) ∧
        here.opens name = true := by
  simp only [Server.Meets, Server.construct, Client.construct, Server.Fits]
  cases isInput <;> cases there.opens name <;> cases here.opens name <;> simp

end

namespace TransportDescription

variable {d : TransportDescription}

/-- A port is filled in at most. -/
theorem createServer_snd (d : TransportDescription) (freePort : Int32) :
    (d.createServer freePort).2 = if d.protocol = "tcp".toList ∧ d.port = 0 then
      { d with port := freePort } else d := by
  unfold createServer
  by_cases tcp : d.protocol = "tcp".toList
  · by_cases port : d.port = 0 <;> simp [tcp, port]
  · simp only [tcp, ↓reduceIte, false_and]
    split_ifs <;> rfl

theorem WellFormed.setPort (wellFormed : d.WellFormed) (port : Int32) :
    WellFormed { d with port := port } :=
  ⟨wellFormed.valid, wellFormed.lower, wellFormed.protocol, wellFormed.isLocal,
    wellFormed.noColon, wellFormed.noSlash, wellFormed.named⟩

theorem WellFormed.createServer (wellFormed : d.WellFormed) (freePort : Int32) :
    (d.createServer freePort).2.WellFormed := by
  rw [createServer_snd]
  split
  · exact wellFormed.setPort freePort
  · exact wellFormed

/-- Which side reads, when the client has read what the server has printed. -/
theorem direction_fits (type : EndPointType) (ip : Str) :
    ((type == .input) ^^ ((if type = .both then .named ip else type) == EndPointType.output)) =
      true ↔ type ≠ .both ∨ EndPointType.named ip = .output := by
  cases type with
  | input | output => simp
  | both =>
      rw [if_pos rfl]
      simp

section

variable (freePort : Int32)

theorem createServer_tcp (tcp : d.protocol = "tcp".toList) : (d.createServer freePort).1 =
    some (.tcp (if d.port ≠ 0 then d.port else freePort)) := by
  unfold createServer
  rw [if_pos tcp]
  split <;> rfl

theorem createServer_shm (shm : d.protocol = "shm".toList) : d.createServer freePort =
    (some (.shm (cstr d.channel) (d.type == .input) (sizeOfInt d.port)), d) := by
  unfold createServer
  rw [shm, if_neg (by decide), if_pos rfl]

theorem createServer_pipe (pipe : d.protocol = "pipe".toList) : d.createServer freePort =
    (some (.pipe (cstr d.channel) (d.type == .input) (sizeOfInt d.port)), d) := by
  unfold createServer
  rw [pipe, if_neg (by decide), if_neg (by decide), if_pos rfl]

end

theorem createClient_tcp (tcp : d.protocol = "tcp".toList) :
    d.createClient = .ok (some (.tcp (cstr d.ip) d.port)) := by
  unfold createClient
  rw [if_pos tcp]

theorem createClient_shm (shm : d.protocol = "shm".toList) :
    d.createClient = .ok (some (.shm (cstr d.channel) (d.type == .output))) := by
  unfold createClient
  rw [shm, if_neg (by decide), if_pos rfl]

theorem createClient_pipe (pipe : d.protocol = "pipe".toList) : d.createClient =
    .ok (some (.pipe (cstr d.channel) (d.type == .output) (sizeOfInt d.port))) := by
  unfold createClient
  rw [pipe, if_neg (by decide), if_neg (by decide), if_pos rfl]

/-- Only these three protocols have a client. -/
theorem protocol_of_createClient {c : Client} (made : d.createClient = .ok (some c)) :
    d.protocol = "tcp".toList ∨ d.protocol = "shm".toList ∨ d.protocol = "pipe".toList := by
  unfold createClient at made
  split at made
  · next tcp => exact .inl tcp
  split at made
  · next shm => exact .inr (.inl shm)
  split at made
  · next pipe => exact .inr (.inr pipe)
  split at made <;> cases made

/-- The ends of a description meet exactly if their constructors get what they ask of the system
and, for `shm` and `pipe`, the description has a direction. -/
theorem ends_fit {directory : List (Nat × Str)} {r : PortRegistry.Registry} {k i : Nat}
    (reached : Transition.Reaches (PortRegistry.Step 10001) (PortRegistry.start directory) r)
    (known : k < r.calls.next) (returned : (r.calls k).pc = .returned i) (isInt : i < 2 ^ 31)
    (there here : System) (infos : Infos) (channel desc : Str) :
    (∃ s c, ((parse channel desc).createServer (Int32.ofNat i)).1 = some s ∧
      (parse channel ((parse channel desc).createServer (Int32.ofNat i)).2.toString).createClient =
        .ok (some c) ∧ s.Meets there here infos c) ↔
      ((parse channel desc).protocol = "tcp".toList ∧ there.socket = true ∧
        there.binds (if (parse channel desc).port ≠ 0 then (parse channel desc).port
          else Int32.ofNat i) = true ∧
        here.resolves (cstr (parse channel desc).ip) = true ∧ here.socket = true) ∨
      ((parse channel desc).type ≠ .both ∨ EndPointType.named (parse channel desc).ip = .output) ∧
        ((parse channel desc).protocol = "shm".toList ∧
          there.mmap (cstr channel) (sizeOfInt (parse channel desc).port + 4) = true ∧
          here.mmap (cstr channel) (sizeOfInt (parse channel desc).port) = true ∨
        (parse channel desc).protocol = "pipe".toList ∧
          ((parse channel desc).type = .input ∨ there.opens (cstr channel) = true) ∧
          here.opens (cstr channel) = true) := by
  have filed : PortRegistry.Filed 10001 directory r :=
    reached.invariant (PortRegistry.filed_start 10001 directory) fun _ _ _ filed step => filed.step step
  have first := filed.started k known
  rw [returned] at first
  have nonzero : Int32.ofNat i ≠ 0 := by
    intro zero
    have ints := congrArg Int32.toInt zero
    rw [Int32.toInt_ofNat_of_lt isInt] at ints
    change 10001 ≤ i at first
    simp at ints
    omega
  generalize Int32.ofNat i = freePort at nonzero
  have wellFormed := wellFormed_parse channel desc
  have isChannel : (parse channel desc).channel = channel := rfl
  generalize parse channel desc = d at wellFormed isChannel
  rw [parse_toString (wellFormed.createServer freePort), createServer_snd]
  subst isChannel
  by_cases tcp : d.protocol = "tcp".toList
  · rw [createServer_tcp freePort tcp, createClient_tcp (by split <;> exact tcp)]
    by_cases port : d.port = 0 <;> simp [Server.meets_tcp_iff, tcp, port]
  rw [if_neg fun both => tcp both.1]
  have fits := direction_fits d.type d.ip
  constructor
  · rintro ⟨s, c, server, client, meets⟩
    have protocol := protocol_of_createClient client
    dsimp only at protocol
    rcases protocol with isTcp | shm | pipe
    · exact absurd isTcp tcp
    · rw [createServer_shm freePort shm] at server
      have made := client.symm.trans (createClient_shm shm)
      obtain rfl := Option.some.inj server
      obtain rfl := Option.some.inj (Except.ok.inj made)
      obtain ⟨directed, mapped⟩ := Server.meets_shm_iff.mp meets
      exact .inr ⟨fits.mp directed, .inl ⟨shm, mapped⟩⟩
    · rw [createServer_pipe freePort pipe] at server
      have made := client.symm.trans (createClient_pipe pipe)
      obtain rfl := Option.some.inj server
      obtain rfl := Option.some.inj (Except.ok.inj made)
      obtain ⟨directed, first, second⟩ := Server.meets_pipe_iff.mp meets
      exact .inr ⟨fits.mp directed, .inr ⟨pipe, first.imp_left eq_of_beq, second⟩⟩
  · rintro (⟨isTcp, -⟩ | ⟨directed, ⟨shm, mapped⟩ | ⟨pipe, first, second⟩⟩)
    · exact absurd isTcp tcp
    · refine ⟨_, _, congrArg Prod.fst (createServer_shm freePort shm), createClient_shm shm, ?_⟩
      exact Server.meets_shm_iff.mpr ⟨fits.mpr directed, mapped⟩
    · refine ⟨_, _, congrArg Prod.fst (createServer_pipe freePort pipe), createClient_pipe pipe, ?_⟩
      exact Server.meets_pipe_iff.mpr
        ⟨fits.mpr directed, first.imp_left beq_iff_eq.mpr, second⟩

/-- The ends on a machine that knows 10.0.0.2 and refuses no call: `tcp` needs the host, `shm` a
direction and a size. -/
theorem ends_fit_images : ∃ here : System, ∃ infos : Infos,
    (∃ s c, ((parse "images".toList "tcp://10.0.0.2".toList).createServer 10001).1 = some s ∧
      (parse "images".toList ((parse "images".toList "tcp://10.0.0.2".toList).createServer
        10001).2.toString).createClient = .ok (some c) ∧ s.Meets here here infos c) ∧
    (∃ s c, ((parse "images".toList "shm://x:64/out".toList).createServer 10001).1 = some s ∧
      (parse "images".toList ((parse "images".toList "shm://x:64/out".toList).createServer
        10001).2.toString).createClient = .ok (some c) ∧ s.Meets here here infos c) ∧
    (∀ desc ∈ ["tcp://nowhere".toList, "shm://x/out".toList, "shm://x:64".toList],
      ¬ ∃ s c, ((parse "images".toList desc).createServer 10001).1 = some s ∧
        (parse "images".toList ((parse "images".toList desc).createServer
          10001).2.toString).createClient = .ok (some c) ∧ s.Meets here here infos c) := by
  have replayed : replay (fun r event => (PortRegistry.react 10001 r event).elim (.error ()) .ok)
      (fun _ _ => true) (fun _ r => 0 < r.calls.next ∧ (r.calls 0).pc = .returned 10001)
      (.step 0) (PortRegistry.start []) [.call ⟨"images".toList, by decide⟩ [], .step 0] = true := by
    decide
  obtain ⟨trace, r, ran, checked⟩ := replay_run_of_option replayed
  obtain ⟨known, returned⟩ := of_decide_eq_true checked
  have fit := ends_fit ⟨_, ran.of_under, final_concat _ _ _⟩ known returned (by decide)
    ⟨fun host => host = "10.0.0.2".toList, true, fun _ => true, fun _ => true, fun _ _ => true⟩
    ⟨fun host => host = "10.0.0.2".toList, true, fun _ => true, fun _ => true, fun _ _ => true⟩
    (fun _ => 0) "images".toList
  refine ⟨_, _, (fit _).mpr (.inl (by decide)), (fit _).mpr (.inr (by decide)), ?_⟩
  intro desc member meets
  have condition := (fit desc).mp meets
  simp only [List.mem_cons, List.not_mem_nil, or_false] at member
  rcases member with rfl | rfl | rfl
  · exact absurd condition (by decide)
  · exact absurd condition (by decide)
  · exact absurd condition (by decide)

end TransportDescription

/-! ## The pipe -/

namespace Pipe

/-- The fifo with the threads at it. `sent`, `read` and `given` are what has been written, what
`read()` has returned and what `on_receive` was called with. -/
structure State where
  content : Str
  /-- The descriptors that are open for writing. -/
  writers : Nat
  buf : Str
  sent : Str
  read : List Str
  given : List Str
  deriving DecidableEq

inductive Event where
  | opens
  | closes
  /-- `write(fd, buf, len)` of either end. -/
  | send (bytes : Str)
  /-- `read(fd, buf, bufsize); on_receive(buf, bufsize);` where `read()` returns `n`. -/
  | round (n : Nat)
  deriving DecidableEq

/-- `read()` waits while the fifo is empty and somebody may still write. -/
def State.Returns (s : State) (bufsize n : Nat) : Prop :=
  n ≤ bufsize ∧ n ≤ s.content.length ∧ (n = 0 → bufsize = 0 ∨ (s.content = [] ∧ s.writers = 0))

instance (s : State) (bufsize n : Nat) : Decidable (s.Returns bufsize n) :=
  inferInstanceAs (Decidable (_ ∧ _))

/-- One step at the fifo; `none` where it cannot be taken. -/
def react (bufsize : Nat) (s : State) : Event → Option State
  | .opens => some { s with writers := s.writers + 1 }
  | .closes => if 0 < s.writers then some { s with writers := s.writers - 1 } else none
  | .send bytes =>
      if 0 < s.writers then
        some { s with content := s.content ++ bytes, sent := s.sent ++ bytes }
      else none
  | .round n =>
      if s.Returns bufsize n then
        let buf := s.content.take n ++ s.buf.drop n
        some { s with
          content := s.content.drop n
          buf := buf
          read := s.read ++ [s.content.take n]
          given := s.given ++ [buf] }
      else none

def Step (bufsize : Nat) (s : State) (event : Event) (s' : State) : Prop :=
  react bufsize s event = some s'

/-- Behind `new char[bufsize]`, whatever its array holds. -/
def start (buf : Str) : State where
  content := []
  writers := 0
  buf := buf
  sent := []
  read := []
  given := []

/-- What the loop passes on when its reads return `chunks`. -/
def passed (buf : Str) : List Str → List Str
  | [] => []
  | chunk :: chunks =>
      (chunk ++ buf.drop chunk.length) :: passed (chunk ++ buf.drop chunk.length) chunks

/-- The buffer behind these reads. -/
def left (buf : Str) (chunks : List Str) : Str :=
  chunks.foldl (fun buf chunk => chunk ++ buf.drop chunk.length) buf

theorem passed_concat (buf : Str) (chunks : List Str) (chunk : Str) :
    passed buf (chunks ++ [chunk]) =
      passed buf chunks ++ [chunk ++ (left buf chunks).drop chunk.length] := by
  induction chunks generalizing buf with
  | nil => rfl
  | cons first chunks ih =>
      rw [List.cons_append, passed, ih]
      rfl

section

variable {bufsize : Nat} {buf : Str} {chunks : List Str}

theorem length_refilled {chunk : Str} (size : buf.length = bufsize) (fits : chunk.length ≤ bufsize) :
    (chunk ++ buf.drop chunk.length).length = bufsize := by
  rw [List.length_append, List.length_drop]
  omega

theorem length_of_mem_passed (size : buf.length = bufsize)
    (fit : ∀ chunk ∈ chunks, chunk.length ≤ bufsize) :
    ∀ given ∈ passed buf chunks, given.length = bufsize := by
  induction chunks generalizing buf with
  | nil => exact nofun
  | cons chunk chunks ih =>
      obtain ⟨fits, later⟩ := List.forall_mem_cons.mp fit
      have refilled := length_refilled size fits
      exact List.forall_mem_cons.mpr ⟨refilled, ih refilled later⟩

theorem length_flatten_le (size : buf.length = bufsize)
    (fit : ∀ chunk ∈ chunks, chunk.length ≤ bufsize) :
    chunks.flatten.length ≤ (passed buf chunks).flatten.length := by
  induction chunks generalizing buf with
  | nil => exact Nat.le_refl _
  | cons chunk chunks ih =>
      obtain ⟨fits, later⟩ := List.forall_mem_cons.mp fit
      have rest := ih (length_refilled size fits) later
      simp only [passed, List.flatten_cons, List.length_append]
      omega

/-- The loop passes on what it has read exactly if each read has filled the buffer. -/
theorem flatten_passed_iff (size : buf.length = bufsize)
    (fit : ∀ chunk ∈ chunks, chunk.length ≤ bufsize) :
    (passed buf chunks).flatten = chunks.flatten ↔ ∀ chunk ∈ chunks, chunk.length = bufsize := by
  induction chunks generalizing buf with
  | nil => simp [passed]
  | cons chunk chunks ih =>
      obtain ⟨fits, later⟩ := List.forall_mem_cons.mp fit
      have refilled := length_refilled size fits
      have rest := length_flatten_le refilled later
      rw [List.forall_mem_cons, ← ih refilled later, passed, List.flatten_cons, List.flatten_cons]
      constructor
      · intro same
        have lengths := congrArg List.length same
        rw [List.length_append, refilled, List.length_append] at lengths
        have full : chunk.length = bufsize := by omega
        refine ⟨full, List.append_inj_right same ?_⟩
        rw [refilled, full]
      · rintro ⟨full, same⟩
        rw [same, full, ← size, List.drop_length, List.append_nil]

end

/-! ## Runs of the pipe -/

/-- The invariant. -/
structure Kept (bufsize : Nat) (junk : Str) (s : State) : Prop where
  sent : s.sent = s.read.flatten ++ s.content
  fit : ∀ chunk ∈ s.read, chunk.length ≤ bufsize
  buf : s.buf = left junk s.read
  given : s.given = passed junk s.read

theorem kept_start (bufsize : Nat) (junk : Str) : Kept bufsize junk (start junk) :=
  ⟨rfl, nofun, rfl, rfl⟩

theorem Kept.step {bufsize : Nat} {junk : Str} {s s' : State} {event : Event}
    (kept : Kept bufsize junk s) (step : Step bufsize s event s') : Kept bufsize junk s' := by
  unfold Step react at step
  cases event with
  | opens =>
      obtain rfl := Option.some.inj step
      exact ⟨kept.sent, kept.fit, kept.buf, kept.given⟩
  | closes =>
      dsimp only at step
      split at step
      · obtain rfl := Option.some.inj step
        exact ⟨kept.sent, kept.fit, kept.buf, kept.given⟩
      · cases step
  | send bytes =>
      dsimp only at step
      split at step
      · obtain rfl := Option.some.inj step
        refine ⟨?_, kept.fit, kept.buf, kept.given⟩
        dsimp only
        rw [kept.sent, List.append_assoc]
      · cases step
  | round n =>
      dsimp only at step
      split at step
      · next returns =>
        obtain rfl := Option.some.inj step
        have length : (s.content.take n).length = n := List.length_take_of_le returns.2.1
        constructor
        · dsimp only
          rw [kept.sent, List.flatten_append, List.flatten_singleton, List.append_assoc,
            List.take_append_drop]
        · intro chunk member
          rcases List.mem_append.mp member with old | new
          · exact kept.fit chunk old
          · rw [List.mem_singleton.mp new, length]
            exact returns.1
        · dsimp only
          rw [kept.buf, left, left, List.foldl_append, List.foldl_cons, List.foldl_nil, length]
        · dsimp only
          rw [kept.given, kept.buf, passed_concat, length]
      · cases step

/-- What is known of the messages that the loop has passed on. -/
structure Served (bufsize : Nat) (junk : Str) (s : State) : Prop where
  /-- The bytes are read in the order in which they were written, none is lost. -/
  sent : s.sent = s.read.flatten ++ s.content
  /-- A message is what was read, and behind it what is left of the message before it. -/
  given : s.given = passed junk s.read
  size : ∀ message ∈ s.given, message.length = bufsize
  /-- The messages are what was written exactly if each read has filled the buffer. -/
  exact : s.given.flatten = s.read.flatten ↔ ∀ chunk ∈ s.read, chunk.length = bufsize
  /-- Without a buffer nothing ever comes out. -/
  mute : bufsize = 0 → s.given.flatten = [] ∧ s.content = s.sent

theorem served_of_reaches {bufsize : Nat} {junk : Str} {s : State} (size : junk.length = bufsize)
    (reached : Reaches (Step bufsize) (start junk) s) : Served bufsize junk s := by
  have kept : Kept bufsize junk s :=
    reached.invariant (kept_start bufsize junk) fun _ _ _ kept step => kept.step step
  have sizes : ∀ message ∈ s.given, message.length = bufsize := by
    rw [kept.given]
    exact length_of_mem_passed size kept.fit
  refine ⟨kept.sent, kept.given, sizes, ?_, ?_⟩
  · rw [kept.given]
    exact flatten_passed_iff size kept.fit
  · rintro rfl
    have empty : s.read.flatten = [] := by
      rw [List.flatten_eq_nil_iff]
      intro chunk member
      exact List.eq_nil_of_length_eq_zero (Nat.le_zero.mp (kept.fit chunk member))
    constructor
    · rw [List.flatten_eq_nil_iff]
      intro message member
      exact List.eq_nil_of_length_eq_zero (sizes message member)
    · rw [kept.sent, empty, List.nil_append]

end Pipe

/-- The loop of the `ServerPipe` that a description makes: it passes on messages of as many
bytes as the port of the description says, and without a port nothing. -/
theorem TransportDescription.pipe_served {channel desc : Str} {freePort : Int32} {name junk : Str}
    {bufsize : UInt64} {s : Pipe.State}
    (made : ((parse channel desc).createServer freePort).1 = some (.pipe name true bufsize))
    (size : junk.length = bufsize.toNat)
    (reached : Reaches (Pipe.Step bufsize.toNat) (Pipe.start junk) s) :
    Pipe.Served bufsize.toNat junk s ∧
      (':' ∉ strAfter desc "://".toList → s.given.flatten = [] ∧ s.content = s.sent) := by
  have served := Pipe.served_of_reaches size reached
  refine ⟨served, fun noPort => served.mute ?_⟩
  have port : (parse channel desc).port = 0 := by
    have absent : strHas (strAfter desc "://".toList) [':'] = false := by
      rw [Bool.eq_false_iff, Ne, strHas_singleton]
      exact noPort
    unfold parse
    dsimp only
    rw [absent]
    rfl
  generalize parse channel desc = d at made port
  unfold createServer at made
  split at made
  · split at made <;> cases made
  split at made
  · cases made
  split at made
  · obtain ⟨-, -, rfl⟩ := Server.pipe.inj (Option.some.inj made)
    rw [port]
    rfl
  split at made <;> cases made

/-- The second message ends with bytes of the first. -/
theorem TransportDescription.pipe_served_twice : ∃ s : Pipe.State,
    s.given = ["abcd".toList, "efcd".toList] ∧ s.given.flatten ≠ s.read.flatten := by
  have replayed : replay (fun s event => (Pipe.react 4 s event).elim (.error ()) .ok)
      (fun _ _ => true) (fun _ s => s.given = ["abcd".toList, "efcd".toList] ∧
        s.read = ["abcd".toList, "ef".toList])
      (.round 2) (Pipe.start "----".toList) [.opens, .send "abcdef".toList, .round 4] = true := by
    decide
  obtain ⟨trace, s, ran, checked⟩ := replay_run_of_option replayed
  obtain ⟨given, read⟩ := of_decide_eq_true checked
  have made : ((parse "c".toList "pipe://x:4/in".toList).createServer 10001).1 =
      some (.pipe "c".toList true 4) := by
    decide
  have served := pipe_served made rfl ⟨_, ran.of_under, final_concat _ _ _⟩
  refine ⟨s, given, mt served.1.exact.mp ?_⟩
  rw [read]
  decide

end LibPubSub
