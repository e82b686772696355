import LibPubSub.Library.Pieces
import LibPubSub.Utils

/-! Line framing of the signaling sockets: what `TCPSocket::write` puts on the
wire and what the receive loop of `TCPSocket::run` hands to `cbRecv` when
`bLinebuffer` is set. -/

set_option autoImplicit false

namespace LibPubSub

open Pieces

/-- The size of the receive buffer. -/
def BUFSIZE : Nat := 512000

/-- `!buf[j] || buf[j]=='\n'`. -/
def isDelimiter (b : Char) : Bool :=
  b == NUL || b == '\n'

/-! ## The two loops over a buffer -/

/-- `for(j=i; j<n; j++) if(!buf[j] || buf[j]=='\n') break;` and the `j` it ends with. -/
def scan (buf : Str) (j : Nat) : Nat :=
  if inside : j < buf.length then
    if isDelimiter buf[j] then j else scan buf (j + 1)
  else j
termination_by buf.length - j

theorem le_scan (buf : Str) (j : Nat) : j ≤ scan buf j := by
  fun_induction scan with
  | case1 j inside delimiter => exact Nat.le_refl j
  | case2 j inside other ih => omega
  | case3 j outside => exact Nat.le_refl j

/-- `for(int i=0; i<n; i++) { ... if(j-i) cbRecv(&buf[i], j-i); i = j; }` from
index `i` on: the arguments of the calls of `cbRecv`. -/
def lineLoop (buf : Str) (i : Nat) : List Str :=
  if i < buf.length then
    let j := scan buf i
    (if j - i ≠ 0 then [(buf.drop i).take (j - i)] else []) ++ lineLoop buf (j + 1)
  else []
termination_by buf.length - i
decreasing_by
  have := le_scan buf i
  omega

/-- The calls of `cbRecv` for a series of `recv()` results. The loop keeps nothing
from one result to the next. -/
def receive : List Str → List Str
  | [] => []
  | buf :: rest => lineLoop buf 0 ++ receive rest

/-- `write(const string& s)`: `write(s.c_str(), strlen(s.c_str()) + 1)`. -/
def wire (s : Str) : Str :=
  s.takeWhile (fun b => b != NUL) ++ [NUL]

/-- The bytes of a connection after these writes. -/
def stream (writes : List Str) : Str :=
  writes.flatMap wire

/-- The results of the successive `recv()` calls that read `bytes`. -/
structure RecvResults (bytes : Str) where
  chunks : List Str
  nonempty : ∀ buf ∈ chunks, buf ≠ []
  bounded : ∀ buf ∈ chunks, buf.length ≤ BUFSIZE
  complete : chunks.flatten = bytes

/-- The lines of a write that is received whole. -/
def linesOf (s : Str) : List Str :=
  pieces isDelimiter (wire s)

/-! ## What the loops compute -/

/-- The inner loop stops at the first delimiter from `j` on, or at the end. -/
private theorem scan_spec (buf : Str) (j : Nat) (bound : j ≤ buf.length) :
    scan buf j ≤ buf.length ∧
      (∀ b ∈ (buf.drop j).take (scan buf j - j), isDelimiter b = false) ∧
      (∀ inside : scan buf j < buf.length, isDelimiter buf[scan buf j] = true) := by
  fun_induction scan buf j with
  | case1 j inside delimiter =>
      exact ⟨bound, by simp, fun _ => delimiter⟩
  | case2 j inside other ih =>
      obtain ⟨upper, clean, stopped⟩ := ih (by omega)
      refine ⟨upper, ?_, stopped⟩
      have later := le_scan buf (j + 1)
      rw [List.drop_eq_getElem_cons inside,
        show scan buf (j + 1) - j = (scan buf (j + 1) - (j + 1)) + 1 by omega, List.take_succ_cons]
      exact List.forall_mem_cons.mpr ⟨by simpa using other, clean⟩
  | case3 j outside =>
      exact ⟨bound, by simp, fun inside => absurd inside outside⟩

/-- The two loops pass to `cbRecv` the non-empty pieces of what is left. -/
theorem lineLoop_eq_pieces (buf : Str) (i : Nat) :
    lineLoop buf i = pieces isDelimiter (buf.drop i) := by
  fun_induction lineLoop buf i with
  | case1 i inside j ih =>
      obtain ⟨upper, clean, stopped⟩ := scan_spec buf i (by omega)
      have lower := le_scan buf i
      have split : buf.drop i = (buf.drop i).take (j - i) ++ buf.drop j := by
        rw [show buf.drop j = (buf.drop i).drop (j - i) by
          rw [List.drop_drop, show i + (j - i) = j by omega], List.take_append_drop]
      have head : (if j - i ≠ 0 then [(buf.drop i).take (j - i)] else []) =
          pieces isDelimiter ((buf.drop i).take (j - i)) := by
        by_cases empty : j - i = 0
        · simp [empty]
        · have nonempty : (buf.drop i).take (j - i) ≠ [] := by
            intro nil
            have size := congrArg List.length nil
            simp only [List.length_take, List.length_drop, List.length_nil] at size
            omega
          rw [if_pos empty, pieces_run nonempty clean]
      rw [ih, head]
      by_cases atEnd : j < buf.length
      · have delimiter : isDelimiter buf[j] = true := stopped atEnd
        conv_rhs => rw [split, List.drop_eq_getElem_cons atEnd, pieces_append_delimiter delimiter]
      · have nothing : buf.drop j = [] := List.drop_eq_nil_of_le (by omega)
        have nothing' : buf.drop (j + 1) = [] := List.drop_eq_nil_of_le (by omega)
        conv_rhs => rw [split, nothing, List.append_nil]
        rw [nothing', pieces_nil, List.append_nil]
  | case2 i outside =>
      rw [List.drop_eq_nil_of_le (by omega), pieces_nil]

theorem receive_eq_flatMap (chunks : List Str) :
    receive chunks = chunks.flatMap (pieces isDelimiter) := by
  induction chunks with
  | nil => rfl
  | cons buf chunks ih =>
      rw [receive, lineLoop_eq_pieces, List.drop_zero, ih, List.flatMap_cons]

/-- The receive loop delivers the lines of the whole stream exactly when every
`recv()` boundary touches a NUL or a newline. -/
theorem receive_eq_lines_iff (writes : List Str) (results : RecvResults (stream writes)) :
    receive results.chunks = pieces isDelimiter (stream writes) ↔
      CutsAtDelimiters isDelimiter results.chunks := by
  rw [receive_eq_flatMap, ← flatMap_pieces_eq_iff results.nonempty, results.complete]

/-- `CONNECTED` received as `CONN` and `ECTED` comes out as two lines. -/
theorem receive_depends_on_cuts :
    ¬ ∀ (writes : List Str) (results : RecvResults (stream writes)),
      receive results.chunks = pieces isDelimiter (stream writes) := by
  intro same
  let results : RecvResults (stream ["CONNECTED".toList]) :=
    { chunks := ["CONN".toList, "ECTED".toList ++ [NUL]]
      nonempty := by decide
      bounded := by decide
      complete := by decide }
  have whole := same _ results
  rw [receive_eq_flatMap] at whole
  revert whole
  decide

/-! ## Whole lines -/

/-- A text is sent as one line if it has no NUL and no newline. -/
def LineSafe (s : Str) : Prop :=
  NUL ∉ s ∧ '\n' ∉ s

instance (s : Str) : Decidable (LineSafe s) :=
  inferInstanceAs (Decidable (_ ∧ _))

theorem LineSafe.clean {s : Str} (safe : LineSafe s) : ∀ b ∈ s, isDelimiter b = false := by
  intro b member
  have notNul : b ≠ NUL := fun same => safe.1 (same ▸ member)
  have notNewline : b ≠ '\n' := fun same => safe.2 (same ▸ member)
  simp [isDelimiter, notNul, notNewline]

theorem LineSafe.append {s t : Str} (left : LineSafe s) (right : LineSafe t) :
    LineSafe (s ++ t) :=
  ⟨fun member => (List.mem_append.mp member).elim left.1 right.1,
    fun member => (List.mem_append.mp member).elim left.2 right.2⟩

theorem lineSafe_printInt (n : Int32) : LineSafe (printInt n) :=
  ⟨not_mem_printInt (by decide) (by decide), not_mem_printInt (by decide) (by decide)⟩

theorem wire_of_lineSafe {s : Str} (noNul : NUL ∉ s) : wire s = s ++ [NUL] := by
  rw [wire, List.takeWhile_eq_self_iff.mpr]
  intro b member
  simp only [bne_iff_ne, ne_eq]
  exact fun same => noNul (same ▸ member)

theorem linesOf_lineSafe {s : Str} (nonempty : s ≠ []) (safe : LineSafe s) : linesOf s = [s] := by
  rw [linesOf, wire_of_lineSafe safe.1,
    pieces_run_delimiter nonempty safe.clean (by decide), pieces_nil]

end LibPubSub
