import LibPubSub.Messages
import LibPubSub.Network

/-! What a process writes and where it goes: `Host::send` and `Host::broadcast` as
lists of writes, and how the network carries them to the other ends. -/

set_option autoImplicit false

namespace LibPubSub

/-- The connection and the end that `Host::send` of `h` writes to, if any. -/
def Mesh.voice (m : Mesh) (h : HostPtr) : Option (ConnId × End) :=
  match (m.host h).socket with
  | none => none
  | some k =>
      if (m.sock k).bStop then none
      else match (m.sock k).thread, (m.sock k).fdOpen with
        | .receiving c, true => some (c, (m.sock k).side)
        | _, _ => none

/-- The text `s` as written where `voice` says. -/
def utter (voice : Option (ConnId × End)) (s : Str) : List (ConnId × End × Str) :=
  voice.toList.map fun v => (v.1, v.2, s)

namespace Mesh

variable {m m' : Mesh}

theorem send_eq (m : Mesh) (h : HostPtr) (s : Str) :
    m.send h s = { m with sent := m.sent ++ utter (m.voice h) s } := by
  unfold send voice utter
  cases socket : (m.host h).socket with
  | none => simp only [Option.toList_none, List.map_nil, List.append_nil]
  | some k =>
      dsimp only
      cases stopped : (m.sock k).bStop with
      | true => simp only [↓reduceIte, Option.toList_none, List.map_nil, List.append_nil]
      | false =>
          simp only [Bool.false_eq_true, ↓reduceIte, write]
          cases (m.sock k).thread <;> cases (m.sock k).fdOpen <;>
            simp only [Option.toList_none, Option.toList_some, List.map_nil, List.map_cons,
              List.append_nil]

theorem voice_of_table (same : m'.table = m.table) (h : HostPtr) : m'.voice h = m.voice h := by
  unfold voice
  rw [host_of_table same, sock_of_table same]

theorem broadcast_eq (m : Mesh) (s : Str) : m.broadcast s = { m with
    sent := m.sent ++ (m.peers.filter fun h => (m.host h).bReady).flatMap fun h =>
      utter (m.voice h) s } := by
  have loop : ∀ (peers : List HostPtr) (m : Mesh),
      peers.foldl (fun m h => if (m.host h).bReady then m.send h s else m) m = { m with
        sent := m.sent ++ (peers.filter fun h => (m.host h).bReady).flatMap fun h =>
          utter (m.voice h) s } := by
    intro peers
    induction peers with
    | nil =>
        intro m
        simp only [List.foldl_nil, List.filter_nil, List.flatMap_nil, List.append_nil]
    | cons h peers ih =>
        intro m
        rw [List.foldl_cons]
        cases ready : (m.host h).bReady with
        | false =>
            have dropped : (h :: peers).filter (fun h => (m.host h).bReady) =
                peers.filter fun h => (m.host h).bReady :=
              List.filter_cons_of_neg (by rw [ready]; exact Bool.false_ne_true)
            rw [if_neg Bool.false_ne_true, ih m, dropped]
        | true =>
            have kept : (h :: peers).filter (fun h => (m.host h).bReady) =
                h :: peers.filter fun h => (m.host h).bReady := List.filter_cons_of_pos ready
            rw [if_pos rfl, send_eq, ih, kept, List.flatMap_cons, ← List.append_assoc]
            rfl
  exact loop m.peers m

end Mesh

/-! ## What the writes come out as -/

variable {c : ConnId} {e : End} {sent more : List (ConnId × End × Str)}

@[simp] theorem written_nil (c : ConnId) (e : End) : written [] c e = [] := rfl

theorem written_append (sent more : List (ConnId × End × Str)) (c : ConnId) (e : End) :
    written (sent ++ more) c e = written sent c e ++ written more c e :=
  List.flatMap_append

theorem written_utter_self (c : ConnId) (e : End) (s : Str) :
    written (utter (some (c, e)) s) c e = linesOf s := by
  simp [written, utter]

theorem written_utter_of_ne {voice : Option (ConnId × End)} (other : voice ≠ some (c, e))
    (s : Str) : written (utter voice s) c e = [] := by
  cases voice with
  | none => rfl
  | some v =>
      have different : ¬ (v.1 = c ∧ v.2 = e) := by
        rintro ⟨rfl, rfl⟩
        exact other rfl
      simp only [written, utter, Option.toList_some, List.map_cons, List.map_nil,
        List.flatMap_cons, different, ↓reduceIte, List.flatMap_nil, List.append_nil]

/-- A line under way was written by somebody. -/
theorem mem_written {s : Str} (member : s ∈ written sent c e) :
    ∃ text, (c, e, text) ∈ sent ∧ s ∈ linesOf text := by
  obtain ⟨⟨c', e', text⟩, inside, line⟩ := List.mem_flatMap.mp member
  split at line
  · next same =>
    obtain ⟨rfl, rfl⟩ := same
    exact ⟨text, inside, line⟩
  · cases line

namespace Link

variable {ι : Type}

/-- What is written on one end is queued for the other. -/
theorem queue_carry (l : Link ι) (c : ConnId) (sent : List (ConnId × End × Str)) (e : End) :
    (l.carry c sent).queue e =
      if l.lost then l.queue e else l.queue e ++ written sent c e.other := by
  unfold carry
  split
  · rfl
  · cases e <;> rfl

@[simp] theorem socket_carry (l : Link ι) (c : ConnId) (sent : List (ConnId × End × Str))
    (e : End) : (l.carry c sent).socket e = l.socket e := by
  unfold carry
  split
  · rfl
  · cases e <;> rfl

@[simp] theorem lost_carry (l : Link ι) (c : ConnId) (sent : List (ConnId × End × Str)) :
    (l.carry c sent).lost = l.lost := by
  unfold carry
  split <;> rfl

@[simp] theorem carry_nil (l : Link ι) (c : ConnId) : l.carry c [] = l := by
  unfold carry
  split
  · rfl
  · simp only [written_nil, List.append_nil]

@[simp] theorem socket_setQueue (l : Link ι) (lines : List Str) (e e' : End) :
    (l.setQueue lines e).socket e' = l.socket e' := by
  cases e <;> cases e' <;> rfl

@[simp] theorem lost_setQueue (l : Link ι) (lines : List Str) (e : End) :
    (l.setQueue lines e).lost = l.lost := by
  cases e <;> rfl

@[simp] theorem queue_setQueue_self (l : Link ι) (lines : List Str) (e : End) :
    (l.setQueue lines e).queue e = lines := by
  cases e <;> rfl

@[simp] theorem queue_setQueue_other (l : Link ι) (lines : List Str) (e : End) :
    (l.setQueue lines e).queue e.other = l.queue e.other := by
  cases e <;> rfl

end Link

namespace Network

variable {ι : Type} [DecidableEq ι]

@[simp] theorem take_node_self (net : Network ι) (i : ι) (n : Node) :
    (net.take i n).node i = { n with mesh := { n.mesh with sent := [] } } := by
  simp only [take, Function.update_self]

theorem take_node_of_ne (net : Network ι) {i j : ι} (n : Node) (other : j ≠ i) :
    (net.take i n).node j = net.node j := by
  simp only [take, Function.update_of_ne other]

@[simp] theorem take_link (net : Network ι) (i : ι) (n : Node) (c : ConnId) :
    (net.take i n).link c = (net.link c).carry c n.mesh.sent := rfl

@[simp] theorem take_link_next (net : Network ι) (i : ι) (n : Node) :
    (net.take i n).link.next = net.link.next := rfl

theorem tell_eq_ok {net net' : Network ι} {i : ι} {input : Node.Input} :
    net.tell i input = .ok net' ↔
      ∃ n, (net.node i).react input = .ok n ∧ net' = net.take i n := by
  unfold tell
  rw [Fallible.bind_eq_ok]
  constructor
  · rintro ⟨n, reacted, result⟩
    exact ⟨n, reacted, (Fallible.pure_eq_ok.mp result).symm⟩
  · rintro ⟨n, reacted, rfl⟩
    exact ⟨n, reacted, rfl⟩

end Network

end LibPubSub
