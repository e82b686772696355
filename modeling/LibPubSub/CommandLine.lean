import LibPubSub.Library.Pieces
import LibPubSub.HostTable
import LibPubSub.PortRegistry
import LibPubSub.Throws

/-! The `-h` option. `parse_args` cuts a list of hosts at the commas and dials each of
them, and the table of one process, written host by host as `Host::tostring` writes
it, gives another process the same hosts. -/

set_option autoImplicit false

namespace LibPubSub

open Pieces Transition
open PortRegistry (CStr)

/-! ## Tokens -/

def isComma (c : Char) : Bool :=
  c == ','

/-- `strtok(s, ",")`, or `strtok(NULL, ",")` where `s` is left: the token and what is left
behind it. -/
def strtok (s : Str) : Option (Str × Str) :=
  match s.dropWhile isComma with
  | [] => none
  | c :: rest => some (c :: rest.takeWhile (!isComma ·), (rest.dropWhile (!isComma ·)).drop 1)

private theorem pieces_skip (s : Str) :
    pieces isComma s = pieces isComma (s.dropWhile isComma) := by
  induction s with
  | nil => rfl
  | cons c s ih =>
      cases comma : isComma c with
      | true => rw [pieces_cons_delimiter comma, ih, List.dropWhile_cons_of_pos comma]
      | false => rw [List.dropWhile_cons_of_neg (by simp [comma])]

theorem pieces_of_strtok_none {s : Str} (none : strtok s = none) : pieces isComma s = [] := by
  rw [pieces_skip]
  unfold strtok at none
  split at none
  · next empty => rw [empty, pieces_nil]
  · cases none

theorem pieces_of_strtok {s h rest : Str} (found : strtok s = some (h, rest)) :
    pieces isComma s = h :: pieces isComma rest ∧ rest.length < s.length := by
  rw [pieces_skip]
  unfold strtok at found
  split at found
  · cases found
  next c tail shape =>
  have notComma : isComma c = false := by
    have := List.head?_dropWhile_not isComma s
    rw [shape] at this
    simpa using this
  obtain ⟨rfl, rfl⟩ := Prod.mk.inj (Option.some.inj found)
  have within : (c :: tail).length ≤ s.length := shape ▸ List.length_dropWhile_le ..
  rw [shape]
  have clean : ∀ item ∈ c :: tail.takeWhile (!isComma ·), isComma item = false := by
    intro item member
    rcases List.mem_cons.mp member with rfl | member
    · exact notComma
    · simpa using List.mem_takeWhile_imp member
  constructor
  · cases after : tail.dropWhile (!isComma ·) with
    | nil =>
        have whole := List.takeWhile_append_dropWhile (p := (!isComma ·)) (l := tail)
        rw [after, List.append_nil] at whole
        rw [List.drop_nil, pieces_nil]
        rw [whole] at clean ⊢
        exact pieces_run (List.cons_ne_nil _ _) clean
    | cons d more =>
        have comma : isComma d = true := by
          have := List.head?_dropWhile_not (!isComma ·) tail
          rw [after] at this
          simpa using this
        have whole := List.takeWhile_append_dropWhile (p := (!isComma ·)) (l := tail)
        rw [after] at whole
        have run := pieces_run_delimiter (List.cons_ne_nil c _) clean comma more
        rw [List.cons_append, whole] at run
        rw [run]
        rfl
  · have shorter := List.length_dropWhile_le (!isComma ·) tail
    rw [List.length_drop]
    rw [List.length_cons] at within
    omega

namespace Mesh

/-- The `ip` and the `port` of a `url`. -/
def decodeUrl (url : Str) : Str × Int32 :=
  (strBefore url [':'], atoi (strAfter url [':']))

/-- `add_host(url)`. -/
def addHostUrl (m : Mesh) (url : Str) : Mesh :=
  m.addHost (strBefore url [':']) (atoi (strAfter url [':']))

/-- `for(char* h = strtok(hosts, ","); h; h = strtok(NULL, ",")) add_host(h);` -/
def addHosts (m : Mesh) (hosts : Str) : Mesh :=
  match _found : strtok hosts with
  | none => m
  | some (h, rest) => (m.addHostUrl h).addHosts rest
termination_by hosts.length
decreasing_by exact (pieces_of_strtok _found).2

theorem addHosts_eq (m : Mesh) (hosts : Str) :
    m.addHosts hosts = (pieces isComma hosts).foldl addHostUrl m := by
  fun_induction addHosts m hosts with
  | case1 m hosts none => rw [pieces_of_strtok_none none, List.foldl_nil]
  | case2 m hosts h rest found ih => rw [ih, (pieces_of_strtok found).1, List.foldl_cons]

/-! ## The hosts that are new -/

/-- The keys of the hosts, in the order of the table. -/
def keys (m : Mesh) : List (Str × Int32) :=
  m.hosts.map fun h => ((m.host h).ip, (m.host h).port)

theorem hasHost_iff_mem_keys {m : Mesh} {ip : Str} {port : Int32} :
    m.hasHost ip port = true ↔ (ip, port) ∈ m.keys := by
  rw [hasHost_eq_true_iff, keys, List.mem_map]
  simp only [Prod.mk.injEq]

/-- Hosts with these keys have joined the table, a socket was made for each of them that
dials it, and that is all. -/
structure Joined (m m' : Mesh) (added : List (Str × Int32)) : Prop where
  keys : m'.keys = m.keys ++ added
  known : ∀ h ∈ m'.hosts, h < m'.host.next
  host : m'.host.next = m.host.next + added.length
  sock : m'.sock.next = m.sock.next + added.length
  dials : ∀ i, ∀ key ∈ added[i]?, m'.sock (m.sock.next + i) = TCPSocket.connect key.1 key.2
    { bLinebuffer := true, listeners := some (.host (m.host.next + i)) }
  owns : ∀ i < added.length, (m'.host (m.host.next + i)).socket = some (m.sock.next + i)
  oldHost : ∀ h < m.host.next, m'.host h = m.host h
  oldSock : ∀ k < m.sock.next, m'.sock k = m.sock k
  sent : m'.sent = m.sent

theorem Joined.refl {m : Mesh} (known : ∀ h ∈ m.hosts, h < m.host.next) : Joined m m [] where
  keys := (List.append_nil _).symm
  known := known
  host := rfl
  sock := rfl
  dials _ _ member := nomatch member
  owns _ inside := absurd inside (Nat.not_lt_zero _)
  oldHost _ _ := rfl
  oldSock _ _ := rfl
  sent := rfl

theorem Joined.trans {m mid m' : Mesh} {first second : List (Str × Int32)}
    (joined : Joined m mid first) (joined' : Joined mid m' second) :
    Joined m m' (first ++ second) where
  keys := by rw [joined'.keys, joined.keys, List.append_assoc]
  known := joined'.known
  host := by rw [joined'.host, joined.host, List.length_append, Nat.add_assoc]
  sock := by rw [joined'.sock, joined.sock, List.length_append, Nat.add_assoc]
  dials i key member := by
    by_cases early : i < first.length
    · rw [List.getElem?_append_left early] at member
      rw [joined'.oldSock _ (by rw [joined.sock]; omega)]
      exact joined.dials i key member
    · rw [List.getElem?_append_right (Nat.not_lt.mp early)] at member
      have late := joined'.dials (i - first.length) key member
      rw [joined.sock, joined.host, Nat.add_assoc, Nat.add_assoc,
        Nat.add_sub_of_le (Nat.not_lt.mp early)] at late
      exact late
  owns i inside := by
    rw [List.length_append] at inside
    by_cases early : i < first.length
    · rw [joined'.oldHost _ (by rw [joined.host]; omega)]
      exact joined.owns i early
    · have late := joined'.owns (i - first.length) (by omega)
      rw [joined.sock, joined.host, Nat.add_assoc, Nat.add_assoc,
        Nat.add_sub_of_le (Nat.not_lt.mp early)] at late
      exact late
  oldHost h old := by
    rw [joined'.oldHost h (by rw [joined.host]; omega), joined.oldHost h old]
  oldSock k old := by
    rw [joined'.oldSock k (by rw [joined.sock]; omega), joined.oldSock k old]
  sent := joined'.sent.trans joined.sent

/-- `new Host(ip, port)` for a key that is not in the table. -/
theorem newHost_eq (m : Mesh) {ip : Str} {port : Int32} (unknown : m.hasHost ip port = false) :
    m.newHost ip port = { m with
      host := (m.host.alloc { ip := ip, port := port, bServer := false }).modify m.host.next
        fun host => { host with socket := some m.sock.next }
      peers := m.peers ++ [m.host.next]
      sock := ((m.sock.alloc {}).modify m.sock.next fun s =>
        { s with bLinebuffer := true, listeners := some (.host m.host.next) }).modify
          m.sock.next (·.connect ip port) } := by
  unfold newHost pushUnlessKnown setSocket
  simp [unknown, setHost, setSock]

theorem joined_newHost {m : Mesh} {ip : Str} {port : Int32}
    (known : ∀ h ∈ m.hosts, h < m.host.next) (unknown : m.hasHost ip port = false) :
    Joined m (m.newHost ip port) [(ip, port)] := by
  have shape := newHost_eq m unknown
  generalize m.newHost ip port = m' at shape
  have host : m'.host = (m.host.alloc { ip := ip, port := port, bServer := false }).modify
      m.host.next fun host => { host with socket := some m.sock.next } := by
    rw [shape]
  have sock : m'.sock = ((m.sock.alloc {}).modify m.sock.next fun s =>
      { s with bLinebuffer := true, listeners := some (.host m.host.next) }).modify
        m.sock.next (·.connect ip port) := by
    rw [shape]
  have hosts : m'.hosts = m.hosts ++ [m.host.next] := by
    rw [shape, Mesh.hosts, Mesh.hosts, List.cons_append]
  have old : ∀ h < m.host.next, m'.host h = m.host h := by
    intro h below
    rw [host, Heap.modify_of_ne _ _ (Nat.ne_of_lt below), Heap.alloc_of_lt _ _ below]
  have new : m'.host m.host.next =
      { ip := ip, port := port, bServer := false, socket := some m.sock.next } := by
    rw [host, Heap.modify_self, Heap.alloc_self]
  constructor
  · unfold Mesh.keys
    rw [hosts, List.map_append, List.map_singleton, new]
    congr 1
    apply List.map_congr_left
    intro h member
    rw [old h (known h member)]
  · intro h member
    rw [host, Heap.modify_next, Heap.alloc_next]
    rw [hosts, List.mem_append, List.mem_singleton] at member
    rcases member with isOld | rfl
    · exact Nat.lt_succ_of_lt (known h isOld)
    · exact Nat.lt_succ_self _
  · rw [host]
    rfl
  · rw [sock]
    rfl
  · intro i key member
    obtain ⟨inside, rfl⟩ := List.getElem?_eq_some_iff.mp member
    obtain rfl : i = 0 := by simpa using inside
    rw [Nat.add_zero, Nat.add_zero, sock, Heap.modify_self, Heap.modify_self, Heap.alloc_self]
    rfl
  · intro i inside
    obtain rfl : i = 0 := by simpa using inside
    rw [Nat.add_zero, Nat.add_zero, new]
  · exact old
  · intro k below
    rw [sock, Heap.modify_of_ne _ _ (Nat.ne_of_lt below), Heap.modify_of_ne _ _ (Nat.ne_of_lt below),
      Heap.alloc_of_lt _ _ below]
  · rw [shape]

theorem addHost_joined {m : Mesh} (known : ∀ h ∈ m.hosts, h < m.host.next) (ip : Str)
    (port : Int32) :
    ((ip, port) ∈ m.keys ∧ m.addHost ip port = m) ∨
      ((ip, port) ∉ m.keys ∧ Joined m (m.addHost ip port) [(ip, port)]) := by
  unfold addHost
  rw [← hasHost_iff_mem_keys]
  cases isKnown : m.hasHost ip port with
  | true => exact .inl ⟨rfl, rfl⟩
  | false => exact .inr ⟨Bool.false_ne_true, joined_newHost known isKnown⟩

/-- The keys of the list that are not in the table, in the order in which the list first
names them. -/
def newKeys (m : Mesh) (urls : List Str) : List (Str × Int32) :=
  ((urls.map decodeUrl).filter (· ∉ m.keys)).eraseDups

theorem mem_newKeys {m : Mesh} {urls : List Str} {key : Str × Int32} :
    key ∈ m.newKeys urls ↔ key ∉ m.keys ∧ ∃ url ∈ urls, decodeUrl url = key := by
  simp only [newKeys, List.mem_eraseDups, List.mem_filter, List.mem_map, decide_eq_true_eq]
  exact and_comm

theorem newKeys_cons_known {m : Mesh} {url : Str} {urls : List Str}
    (known : decodeUrl url ∈ m.keys) : m.newKeys (url :: urls) = m.newKeys urls := by
  rw [newKeys, List.map_cons, List.filter_cons_of_neg (by simpa using known), newKeys]

theorem newKeys_cons_new {m m' : Mesh} {url : Str} {urls : List Str}
    (isNew : decodeUrl url ∉ m.keys) (keys : m'.keys = m.keys ++ [decodeUrl url]) :
    m.newKeys (url :: urls) = decodeUrl url :: m'.newKeys urls := by
  unfold newKeys
  rw [List.map_cons, List.filter_cons_of_pos (by simpa using isNew), List.eraseDups_cons, keys,
    List.filter_filter]
  congr 2
  apply List.filter_congr
  intro key _
  by_cases same : key = decodeUrl url <;> simp [same]

/-- Dialling a list of hosts adds those that are not known. -/
theorem foldl_addHostUrl_joined (urls : List Str) {m : Mesh}
    (known : ∀ h ∈ m.hosts, h < m.host.next) :
    Joined m (urls.foldl addHostUrl m) (m.newKeys urls) := by
  induction urls generalizing m with
  | nil => exact .refl known
  | cons url urls ih =>
      rw [List.foldl_cons]
      rcases addHost_joined known (decodeUrl url).1 (decodeUrl url).2 with
        ⟨isKnown, same⟩ | ⟨isNew, joined⟩
      · change m.addHostUrl url = m at same
        rw [same, newKeys_cons_known isKnown]
        exact ih known
      · change Joined m (m.addHostUrl url) [decodeUrl url] at joined
        rw [newKeys_cons_new isNew joined.keys]
        exact joined.trans (ih joined.known)

/-- Hosts that are all known are not dialled again. -/
theorem foldl_addHostUrl_known {urls : List Str} {m : Mesh}
    (known : ∀ url ∈ urls, decodeUrl url ∈ m.keys) : urls.foldl addHostUrl m = m := by
  induction urls with
  | nil => rfl
  | cons url urls ih =>
      have isKnown := hasHost_iff_mem_keys.mpr (known url List.mem_cons_self)
      have same : m.addHostUrl url = m := if_pos isKnown
      rw [List.foldl_cons, same]
      exact ih fun other member => known other (List.mem_cons_of_mem _ member)

/-! ## A table as an argument -/

/-- What `Host::tostring` has written is decoded to the key of the Host. -/
theorem decodeUrl_hostString {host : Host} (clean : ':' ∉ host.ip) :
    decodeUrl (hostString host) = (host.ip, host.port) := by
  have shape : hostString host = host.ip ++ ':' :: printInt host.port :=
    List.append_assoc host.ip ":".toList _
  rw [shape, decodeUrl, strBefore_separator clean, strAfter_separator clean, atoi_printInt]

theorem pieces_hostStrings {table : List Host} (clean : ∀ host ∈ table, ',' ∉ host.ip) :
    pieces isComma ([','].intercalate (table.map hostString)) = table.map hostString := by
  apply pieces_intercalate rfl
  intro text member
  obtain ⟨host, listed, rfl⟩ := List.mem_map.mp member
  constructor
  · simp [hostString]
  · intro c inText
    unfold isComma
    rw [beq_eq_false_iff_ne]
    rintro rfl
    simp only [hostString, List.append_assoc, List.mem_append] at inText
    rcases inText with inIp | colon | inPort
    · exact clean host listed inIp
    · revert colon
      decide
    · exact not_mem_printInt (by decide) (by decide) inPort

end Mesh

def hostsOption : CStr := ⟨"-h".toList, by decide⟩

namespace Mesh

/-! ## Hosts that cannot be dialled -/

/-- `add_host(url)` with its lock and its exceptions. -/
def addHostUrlLocking (outside : Outside) (m : Mesh) (url : Str) : Locking Mesh :=
  m.addHostLocking outside (strBefore url [':']) (atoi (strAfter url [':']))

/-- The loop of `parse_args` with them: what is thrown ends it. -/
def addHostsLocking (outside : Outside) (m : Mesh) (hosts : Str) : Locking Mesh :=
  match _found : strtok hosts with
  | none => return m
  | some (h, rest) => do (← m.addHostUrlLocking outside h).addHostsLocking outside rest
termination_by hosts.length
decreasing_by exact (pieces_of_strtok _found).2

theorem addHostsLocking_eq (outside : Outside) (m : Mesh) (hosts : Str) :
    m.addHostsLocking outside hosts =
      (pieces isComma hosts).foldlM (addHostUrlLocking outside) m := by
  fun_induction addHostsLocking outside m hosts with
  | case1 m hosts none => rw [pieces_of_strtok_none none, List.foldlM_nil]
  | case2 m hosts h rest found ih =>
      rw [(pieces_of_strtok found).1, List.foldlM_cons]
      exact congrArg _ (funext ih)

/-- Without exceptions the loop does what `addHosts` says. -/
theorem foldlM_addHostUrl_gives {outside : Outside} {urls : List Str} {m : Mesh}
    (known : ∀ h ∈ m.hosts, h < m.host.next)
    (connects : ∀ key ∈ m.newKeys urls, outside.Connects key.1 outside.hostSocket) :
    Locking.Returns (urls.foldlM (addHostUrlLocking outside) m) (.ok (urls.foldl addHostUrl m)) := by
  induction urls generalizing m with
  | nil => exact Locking.gives_pure m
  | cons url urls ih =>
      rw [List.foldlM_cons, List.foldl_cons]
      rcases addHost_joined known (decodeUrl url).1 (decodeUrl url).2 with
        ⟨isKnown, same⟩ | ⟨isNew, joined⟩
      · change m.addHostUrl url = m at same
        rw [newKeys_cons_known isKnown] at connects
        have first : (m.addHostUrlLocking outside url).Returns (.ok (m.addHostUrl url)) :=
          addHostLocking_gives (.inl (hasHost_iff_mem_keys.mpr isKnown))
        rw [same] at first ⊢
        exact first.bind (ih known connects)
      · change Joined m (m.addHostUrl url) [decodeUrl url] at joined
        rw [newKeys_cons_new isNew joined.keys] at connects
        have able := connects _ List.mem_cons_self
        refine (addHostLocking_gives (.inr able)).bind (ih joined.known fun key member => ?_)
        exact connects key (List.mem_cons_of_mem _ member)

/-- The first host that cannot be dialled ends the loop with the mutex taken. -/
theorem foldlM_addHostUrl_raises {outside : Outside} {urls : List Str} {m : Mesh}
    (known : ∀ h ∈ m.hosts, h < m.host.next)
    (fails : ∃ key ∈ m.newKeys urls, ¬ outside.Connects key.1 outside.hostSocket) :
    ∃ thrown, ∀ locks, urls.foldlM (addHostUrlLocking outside) m locks =
      (.error thrown, { locks with mesh := locks.mesh + 1 }) := by
  induction urls generalizing m with
  | nil =>
      obtain ⟨_, member, _⟩ := fails
      cases member
  | cons url urls ih =>
      rw [List.foldlM_cons]
      rcases addHost_joined known (decodeUrl url).1 (decodeUrl url).2 with
        ⟨isKnown, same⟩ | ⟨isNew, joined⟩
      · change m.addHostUrl url = m at same
        have first : (m.addHostUrlLocking outside url).Returns (.ok (m.addHostUrl url)) :=
          addHostLocking_gives (.inl (hasHost_iff_mem_keys.mpr isKnown))
        rw [newKeys_cons_known isKnown] at fails
        rw [same] at first
        obtain ⟨thrown, raises⟩ := ih known fails
        exact ⟨thrown, fun locks => first.bind_apply locks ▸ raises locks⟩
      · change Joined m (m.addHostUrl url) [decodeUrl url] at joined
        rw [newKeys_cons_new isNew joined.keys] at fails
        by_cases able : outside.Connects (decodeUrl url).1 outside.hostSocket
        · have first : (m.addHostUrlLocking outside url).Returns (.ok (m.addHostUrl url)) :=
            addHostLocking_gives (.inr able)
          obtain ⟨key, member, unable⟩ := fails
          have later : key ∈ (m.addHostUrl url).newKeys urls :=
            (List.mem_cons.mp member).resolve_left fun isUrl => unable (isUrl ▸ able)
          obtain ⟨thrown, raises⟩ := ih joined.known ⟨key, later, unable⟩
          exact ⟨thrown, fun locks => first.bind_apply locks ▸ raises locks⟩
        · have unknown : m.hasHost (decodeUrl url).1 (decodeUrl url).2 = false :=
            Bool.eq_false_iff.mpr fun isKnown => isNew (hasHost_iff_mem_keys.mp isKnown)
          obtain ⟨thrown, raises⟩ := addHostLocking_raises unknown able
          exact ⟨thrown, fun locks => Locking.bind_raises (raises locks)⟩

end Mesh

namespace Node

/-- `parse_args` where no host throws. `argv` is without the null pointer at its end: behind
a `-h` that comes last there is nothing to cut. -/
def parseArgs (n : Node) (argv : List CStr) : Option Node :=
  if argv[1]?.map Subtype.val = some "-h".toList then
    argv[2]?.map fun hosts => { n with mesh := n.mesh.addHosts hosts.val }
  else some n

/-- `parse_args` with the lock of `add_host` and its exceptions. -/
def parseArgsLocking (outside : Outside) (n : Node) (argv : List CStr) : Option (Locking Node) :=
  if argv[1]?.map Subtype.val = some "-h".toList then
    argv[2]?.map fun hosts => do
      let m ← n.mesh.addHostsLocking outside hosts.val
      return { n with mesh := m }
  else some (return n)

/-- `main` of the `publish` tool up to its loop. -/
def publishTool (n : Node) (argv : List CStr) : Option (Result Node) := do
  let n ← n.parseArgs argv
  let name ← argv[1]?
  return n.publish name.val

/-- `main` of the `subscribe` tool up to its loop. -/
def subscribeTool (n : Node) (argv : List CStr) : Option (Result Node) := do
  let n ← n.parseArgs argv
  let name ← argv[1]?
  return n.subscribe name.val

theorem parseArgs_hosts (n : Node) (prog hosts : CStr) (argv : List CStr) :
    n.parseArgs (prog :: hostsOption :: hosts :: argv) =
      some { n with mesh := (pieces isComma hosts.val).foldl Mesh.addHostUrl n.mesh } := by
  rw [← Mesh.addHosts_eq]
  rfl

/-- With `-h`, both tools take the option for the name of the channel and do not read the
name behind the hosts. -/
theorem tools_ignore_name (n : Node) (prog hosts : CStr) (argv argv' : List CStr) :
    n.publishTool (prog :: hostsOption :: hosts :: argv) =
        n.publishTool (prog :: hostsOption :: hosts :: argv') ∧
      n.subscribeTool (prog :: hostsOption :: hosts :: argv) =
        n.subscribeTool (prog :: hostsOption :: hosts :: argv') := by
  unfold publishTool subscribeTool
  rw [parseArgs_hosts, parseArgs_hosts]
  exact ⟨rfl, rfl⟩

theorem parseArgsLocking_hosts (outside : Outside) (n : Node) (prog hosts : CStr)
    (argv : List CStr) :
    n.parseArgsLocking outside (prog :: hostsOption :: hosts :: argv) = some
      ((pieces isComma hosts.val).foldlM (Mesh.addHostUrlLocking outside) n.mesh >>=
        fun m => pure { n with mesh := m }) := by
  rw [← Mesh.addHostsLocking_eq]
  rfl

/-- In every state of a process `-h` dials each host of the list whose key is not in the
table, in the order of the list and each once, and changes nothing else; one that
cannot be dialled makes it throw with the mutex taken. A table that `Host::tostring`
has written is read back whole, and reading it again does nothing. -/
theorem parseArgs_restores {ID port : Int32} {bindPort : ChanPtr → DataPort} {n : Node}
    (reached : Reaches Step (init ID port bindPort) n) (outside : Outside) (prog hosts : CStr)
    (argv : List CStr) :
    ∃ n' call again, n.parseArgs (prog :: hostsOption :: hosts :: argv) = some n' ∧
      n' = { n with mesh := n'.mesh } ∧
      n.mesh.Joined n'.mesh (n.mesh.newKeys (pieces isComma hosts.val)) ∧
      n.parseArgsLocking outside (prog :: hostsOption :: hosts :: argv) = some call ∧
      ((∀ key ∈ n.mesh.newKeys (pieces isComma hosts.val),
        outside.Connects key.1 outside.hostSocket) → call.Returns (.ok n')) ∧
      ((∃ key ∈ n.mesh.newKeys (pieces isComma hosts.val),
        ¬ outside.Connects key.1 outside.hostSocket) →
          ∃ thrown, ∀ locks, call locks = (.error thrown, { locks with mesh := locks.mesh + 1 })) ∧
      (∀ table : List Host, hosts.val = [','].intercalate (table.map Mesh.hostString) →
        (∀ host ∈ table, ',' ∉ host.ip ∧ ':' ∉ host.ip) →
          ∀ key, key ∈ n'.mesh.keys ↔ key ∈ n.mesh.keys ∨ ∃ host ∈ table, (host.ip, host.port) = key) ∧
      n'.parseArgsLocking outside (prog :: hostsOption :: hosts :: argv) = some again ∧
      again.Returns (.ok n') := by
  have tabled : Tabled n := reached.invariant (tabled_init ID port bindPort)
    fun _ _ _ tabled step => step_tabled tabled step
  have joined := Mesh.foldl_addHostUrl_joined (pieces isComma hosts.val) tabled.known
  have nothing : Mesh.newKeys ((pieces isComma hosts.val).foldl Mesh.addHostUrl n.mesh)
      (pieces isComma hosts.val) = [] := by
    rw [List.eq_nil_iff_forall_not_mem]
    intro key member
    obtain ⟨unknown, url, listed, decoded⟩ := Mesh.mem_newKeys.mp member
    rw [joined.keys, List.mem_append, not_or] at unknown
    exact unknown.2 (Mesh.mem_newKeys.mpr ⟨unknown.1, url, listed, decoded⟩)
  refine ⟨_, _, _, parseArgs_hosts n prog hosts argv, rfl, joined,
    parseArgsLocking_hosts outside n prog hosts argv, ?_, ?_, ?_,
    parseArgsLocking_hosts outside _ prog hosts argv, ?_⟩
  · intro connects
    exact (Mesh.foldlM_addHostUrl_gives tabled.known connects).bind (Locking.gives_pure _)
  · intro fails
    obtain ⟨thrown, raises⟩ := Mesh.foldlM_addHostUrl_raises tabled.known fails
    exact ⟨thrown, fun locks => Locking.bind_raises (raises locks)⟩
  · intro table written clean key
    have keys : key ∈ n.mesh.newKeys (pieces isComma hosts.val) ↔
        key ∉ n.mesh.keys ∧ ∃ host ∈ table, (host.ip, host.port) = key := by
      rw [Mesh.mem_newKeys, written, Mesh.pieces_hostStrings fun host listed => (clean host listed).1]
      apply and_congr_right
      intro _
      simp only [List.mem_map, exists_exists_and_eq_and]
      apply exists_congr
      intro host
      apply and_congr_right
      intro listed
      rw [Mesh.decodeUrl_hostString (clean host listed).2]
    rw [joined.keys, List.mem_append, keys]
    tauto
  · have idle : ∀ m : Mesh, m.newKeys (pieces isComma hosts.val) = [] →
        (pieces isComma hosts.val).foldl Mesh.addHostUrl m = m := by
      intro m none
      apply Mesh.foldl_addHostUrl_known
      intro url member
      by_contra unknown
      have isNew := Mesh.mem_newKeys.mpr ⟨unknown, url, member, rfl⟩
      rw [none] at isNew
      cases isNew
    have again : Locking.Returns ((pieces isComma hosts.val).foldlM (Mesh.addHostUrlLocking outside) _)
        (.ok _) := Mesh.foldlM_addHostUrl_gives joined.known fun key member => by
      rw [nothing] at member
      cases member
    rw [idle _ nothing] at again
    exact again.bind (Locking.gives_pure _)

/-- A process that has dialled 10.0.0.2 is started with a table of two hosts, of which only
the new one has to be found. -/
theorem parseArgs_restores_pair : ∃ n n' call,
    Reaches Step (init 1 12213 firstPort) n ∧ n.mesh.hasHost "10.0.0.2".toList 12212 = true ∧
      n.parseArgsLocking ⟨fun ip => ip == "10.0.0.3".toList, true, fun _ => true, true⟩
        [⟨"publish".toList, by decide⟩, hostsOption,
          ⟨"10.0.0.2:12212,10.0.0.3:12214".toList, by decide⟩] = some call ∧
      call.Returns (.ok n') ∧ ("10.0.0.3".toList, 12214) ∈ n'.mesh.keys := by
  let n : Node := { init 1 12213 firstPort with
    mesh := (init 1 12213 firstPort).mesh.addHost "10.0.0.2".toList 12212 }
  have reached : Reaches Step (init 1 12213 firstPort) n :=
    ⟨[(.addHost "10.0.0.2".toList 12212, n)], ⟨rfl, trivial⟩, rfl⟩
  obtain ⟨n', call, _, _, _, _, parsed, gives, _, restored, _⟩ := parseArgs_restores reached
    ⟨fun ip => ip == "10.0.0.3".toList, true, fun _ => true, true⟩ ⟨"publish".toList, by decide⟩
    ⟨"10.0.0.2:12212,10.0.0.3:12214".toList, by decide⟩ []
  let told : Host := { ip := "10.0.0.2".toList, port := 12212, bServer := false }
  let other : Host := { ip := "10.0.0.3".toList, port := 12214, bServer := true }
  have keys := restored [told, other] (by decide) (by decide) ("10.0.0.3".toList, 12214)
  refine ⟨n, n', call, reached, by decide, parsed, gives ?_, keys.mpr (.inr ⟨other, by simp, rfl⟩)⟩
  intro key member
  have isNew : key ∈ [("10.0.0.3".toList, (12214 : Int32))] := by
    have listed : n.mesh.newKeys (pieces isComma "10.0.0.2:12212,10.0.0.3:12214".toList) =
        [("10.0.0.3".toList, 12214)] := by decide +kernel
    exact listed ▸ member
  rw [List.mem_singleton.mp isNew]
  exact ⟨by decide, rfl⟩

end Node

end LibPubSub
