import LibPubSub.Framing

/-! The loops that split a received buffer, with the indices that they read: the buffer
is memory of which only the first `n` bytes have been received. -/

set_option autoImplicit false

namespace LibPubSub

open Pieces

/-- What the loops do with a buffer: the indices they read, and the offset and the
length of each call of `cbRecv`. -/
structure Sweep where
  reads : List Nat
  calls : List (Nat × Nat)

/-- The inner loop from `j` on, and the `j` it ends with. -/
def probe (buf : Nat → Char) (n j : Nat) : List Nat × Nat :=
  if j < n then
    if isDelimiter (buf j) then ([j], j)
    else (j :: (probe buf n (j + 1)).1, (probe buf n (j + 1)).2)
  else ([], j)
termination_by n - j

variable {buf : Nat → Char} {n i j : Nat}

theorem le_probe (buf : Nat → Char) (n j : Nat) : j ≤ (probe buf n j).2 := by
  fun_induction probe with
  | case1 | case3 => exact Nat.le_refl _
  | case2 j inside other ih => exact Nat.le_trans (Nat.le_succ j) ih

/-- The outer loop from `i` on. -/
def sweep (buf : Nat → Char) (n i : Nat) : Sweep :=
  if i < n then
    let reads := (probe buf n i).1
    let j := (probe buf n i).2
    let rest := sweep buf n (j + 1)
    { reads := reads ++ rest.reads
      calls := (if j - i ≠ 0 then [(i, j - i)] else []) ++ rest.calls }
  else { reads := [], calls := [] }
termination_by n - i
decreasing_by
  have := le_probe buf n i
  omega

/-- What a call of `cbRecv` gets. -/
def received (buf : Nat → Char) (call : Nat × Nat) : Str :=
  (List.range call.2).map fun k => buf (call.1 + k)

/-- The calls of `cbRecv` for a buffer of `n` received bytes. -/
def receivedLines (buf : Nat → Char) (n : Nat) : List Str :=
  (sweep buf n 0).calls.map (received buf)

/-! ## Maximal runs -/

/-- `len` bytes at `i` are none of them a delimiter, and cannot be extended. -/
structure MaximalRun (buf : Nat → Char) (n : Nat) (i len : Nat) : Prop where
  nonempty : 0 < len
  inside : i + len ≤ n
  clean : ∀ k, i ≤ k → k < i + len → isDelimiter (buf k) = false
  before : i = 0 ∨ isDelimiter (buf (i - 1)) = true
  after : i + len = n ∨ isDelimiter (buf (i + len)) = true

/-- The inner loop reads the bytes up to the first delimiter, or all that are left. -/
structure Probed (buf : Nat → Char) (n j : Nat) (reads : List Nat) (stop : Nat) : Prop where
  reads : ∀ k ∈ reads, k < n
  lower : j ≤ stop
  upper : stop ≤ n
  clean : ∀ k, j ≤ k → k < stop → isDelimiter (buf k) = false
  stopped : stop < n → isDelimiter (buf stop) = true

theorem probe_probed (inside : j ≤ n) : Probed buf n j (probe buf n j).1 (probe buf n j).2 := by
  fun_induction probe buf n j with
  | case1 j below delimiter =>
      refine ⟨?_, Nat.le_refl j, inside, ?_, fun _ => delimiter⟩
      · simp [below]
      · omega
  | case2 j below other ih =>
      have later := ih below
      constructor
      · intro k member
        cases member with
        | head => exact below
        | tail _ member => exact later.reads k member
      · exact Nat.le_trans (Nat.le_succ j) later.lower
      · exact later.upper
      · intro k lower upper
        cases Nat.eq_or_lt_of_le lower with
        | inl same =>
            subst same
            simpa using other
        | inr above => exact later.clean k above upper
      · exact later.stopped
  | case3 j above =>
      refine ⟨by simp, Nat.le_refl j, inside, ?_, ?_⟩
      · omega
      · exact fun below => absurd below above

theorem sweep_reads (buf : Nat → Char) (n i : Nat) : ∀ k ∈ (sweep buf n i).reads, k < n := by
  fun_induction sweep buf n i with
  | case1 i inside reads j rest ih =>
      have spec : Probed buf n i reads j := probe_probed (Nat.le_of_lt inside)
      intro k member
      cases List.mem_append.mp member with
      | inl first => exact spec.reads k first
      | inr later => exact ih k later
  | case2 i outside => simp

/-- Two runs that begin at the same place are the same. -/
theorem MaximalRun.unique {len len' : Nat} (run : MaximalRun buf n i len)
    (run' : MaximalRun buf n i len') : len = len' := by
  have bound {a b : Nat} (first : MaximalRun buf n i a) (second : MaximalRun buf n i b) :
      ¬ a < b := by
    intro shorter
    have inside := second.inside
    have clean := second.clean (i + a) (by omega) (by omega)
    cases first.after with
    | inl atEnd => omega
    | inr delimiter => simp [delimiter] at clean
  have := bound run run'
  have := bound run' run
  omega

/-- From a place where a run can begin, the calls are the maximal runs that are left. -/
theorem mem_sweep_calls (buf : Nat → Char) (n i : Nat)
    (start : i = 0 ∨ n < i ∨ isDelimiter (buf (i - 1)) = true) (p len : Nat) :
    (p, len) ∈ (sweep buf n i).calls ↔ i ≤ p ∧ MaximalRun buf n p len := by
  fun_induction sweep buf n i with
  | case1 i inside reads j rest ih =>
      have spec : Probed buf n i reads j := probe_probed (Nat.le_of_lt inside)
      have lower := spec.lower
      have upper := spec.upper
      have next : j + 1 = 0 ∨ n < j + 1 ∨ isDelimiter (buf (j + 1 - 1)) = true := by
        cases Nat.lt_or_ge j n with
        | inl below => exact .inr (.inr (spec.stopped below))
        | inr atEnd => exact .inr (.inl (by omega))
      have mine : i < j → MaximalRun buf n i (j - i) := by
        intro nonempty
        have whole : i + (j - i) = j := by omega
        constructor
        · omega
        · omega
        · intro k above below
          exact spec.clean k above (by omega)
        · cases start with
          | inl zero => exact .inl zero
          | inr later =>
              cases later with
              | inl outside => omega
              | inr delimiter => exact .inr delimiter
        · rw [whole]
          cases Nat.lt_or_ge j n with
          | inl below => exact .inr (spec.stopped below)
          | inr atEnd => exact .inl (by omega)
      rw [List.mem_append, ih next]
      constructor
      · intro member
        cases member with
        | inl first =>
            split at first
            · next nonempty =>
              simp only [List.mem_singleton, Prod.mk.injEq] at first
              obtain ⟨rfl, rfl⟩ := first
              exact ⟨Nat.le_refl p, mine (by omega)⟩
            · cases first
        | inr later => exact ⟨by omega, later.2⟩
      · intro ⟨above, run⟩
        have runInside := run.inside
        have nonempty := run.nonempty
        cases Nat.lt_or_ge j p with
        | inl beyond => exact .inr ⟨beyond, run⟩
        | inr atMost =>
            -- a run that begins up to the delimiter is the one that the inner loop has seen
            have notStop : p ≠ j := by
              intro same
              have delimiter := spec.stopped (by omega)
              have clean := run.clean p (Nat.le_refl p) (by omega)
              rw [same, delimiter] at clean
              cases clean
            have isStart : p = i := by
              cases Nat.eq_or_lt_of_le above with
              | inl same => exact same.symm
              | inr later =>
                  have clean := spec.clean (p - 1) (by omega) (by omega)
                  cases run.before with
                  | inl zero => omega
                  | inr delimiter => simp [delimiter] at clean
            subst isStart
            have same := run.unique (mine (by omega))
            subst same
            exact .inl (by simp [show j - p ≠ 0 by omega])
  | case2 i outside =>
      simp only [List.not_mem_nil, false_iff, not_and]
      intro above run
      have runInside := run.inside
      have nonempty := run.nonempty
      omega

theorem sweep_ordered (buf : Nat → Char) (n i : Nat) :
    (∀ call ∈ (sweep buf n i).calls, i ≤ call.1) ∧
      (sweep buf n i).calls.Pairwise fun a b => a.1 + a.2 < b.1 := by
  fun_induction sweep buf n i with
  | case1 i inside reads j rest ih =>
      have lower : i ≤ j := le_probe buf n i
      constructor
      · intro call member
        cases List.mem_append.mp member with
        | inl first =>
            split at first
            · simp at first
              simp [first]
            · cases first
        | inr later =>
            have := ih.1 call later
            omega
      · rw [List.pairwise_append]
        refine ⟨?_, ih.2, ?_⟩
        · split <;> simp
        · intro a first b later
          have := ih.1 b later
          split at first
          · simp at first
            simp only [first]
            omega
          · cases first
  | case2 i outside => simp

/-! ## The bytes that are handed over -/

/-- The bytes of `s` have been received; what lies behind them is left from earlier. -/
def Loaded (buf : Nat → Char) (s : Str) : Prop :=
  ∀ k (inside : k < s.length), buf k = s[k]

theorem probe_scan {s : Str} (loaded : Loaded buf s) (j : Nat) :
    (probe buf s.length j).2 = scan s j := by
  fun_induction scan s j with
  | case1 j inside delimiter =>
      unfold probe
      simp [inside, loaded j inside, delimiter]
  | case2 j inside other ih =>
      unfold probe
      simp [inside, loaded j inside, other, ih]
  | case3 j outside =>
      unfold probe
      simp [outside]

theorem received_eq {s : Str} (loaded : Loaded buf s) {i len : Nat} (inside : i + len ≤ s.length) :
    received buf (i, len) = (s.drop i).take len := by
  apply List.ext_getElem
  · simp [received]
    omega
  · intro k left right
    simp only [received, List.length_map, List.length_range] at left
    simp only [received, List.getElem_map, List.getElem_range, List.getElem_take,
      List.getElem_drop]
    exact loaded (i + k) (by omega)

theorem map_received_sweep {s : Str} (loaded : Loaded buf s) (i : Nat) :
    (sweep buf s.length i).calls.map (received buf) = lineLoop s i := by
  fun_induction lineLoop s i with
  | case1 i inside j ih =>
      have stop : (probe buf s.length i).2 = j := probe_scan loaded i
      have spec : Probed buf s.length i _ (probe buf s.length i).2 :=
        probe_probed (Nat.le_of_lt inside)
      have upper : j ≤ s.length := stop ▸ spec.upper
      have lower : i ≤ j := le_scan s i
      unfold sweep
      simp only [inside, ↓reduceIte, stop, List.map_append, ih]
      split
      · simp only [List.map_cons, List.map_nil]
        rw [received_eq loaded (by omega)]
      · rfl
  | case2 i outside =>
      unfold sweep
      simp [outside]

theorem receivedLines_eq {s : Str} (loaded : Loaded buf s) :
    receivedLines buf s.length = pieces isDelimiter s := by
  rw [receivedLines, map_received_sweep loaded, lineLoop_eq_pieces, List.drop_zero]

/-- A buffer's lines are its maximal runs, and two buffers have the lines of their
concatenation exactly when they meet at a delimiter. -/
theorem sweep_exact :
    (∀ (buf : Nat → Char) (n : Nat),
      (∀ k ∈ (sweep buf n 0).reads, k < n) ∧
        (∀ i len, (i, len) ∈ (sweep buf n 0).calls ↔ MaximalRun buf n i len) ∧
        (sweep buf n 0).calls.Pairwise fun a b => a.1 + a.2 < b.1) ∧
      ∀ (a b : Str) (first second whole : Nat → Char), a ≠ [] → b ≠ [] → Loaded first a →
        Loaded second b → Loaded whole (a ++ b) →
        (receivedLines first a.length ++ receivedLines second b.length =
            receivedLines whole (a ++ b).length ↔
          (∃ last ∈ a.getLast?, isDelimiter last = true) ∨
            ∃ head ∈ b.head?, isDelimiter head = true) := by
  constructor
  · intro buf n
    refine ⟨sweep_reads buf n 0, ?_, (sweep_ordered buf n 0).2⟩
    intro i len
    simp [mem_sweep_calls buf n 0 (.inl rfl)]
  · intro a b first second whole nonemptyA nonemptyB loadedA loadedB loaded
    rw [receivedLines_eq loadedA, receivedLines_eq loadedB, receivedLines_eq loaded]
    have parts : ∀ part ∈ [a, b], part ≠ [] := by simp [nonemptyA, nonemptyB]
    have cuts := @flatMap_pieces_eq_iff _ isDelimiter [a, b] parts
    simpa [CutsAtDelimiters, CutAtDelimiter] using cuts

/-- A buffer that was zero before. -/
def load (s : Str) (k : Nat) : Char :=
  s.getD k NUL

theorem loaded_load (s : Str) : Loaded (load s) s := by
  intro k inside
  simp [load, inside]

/-- `CONNECTED` in one buffer, and split behind `CONN`. -/
theorem sweep_connected :
    receivedLines (load "CONN".toList) 4 ++ receivedLines (load "ECTED\n".toList) 6 ≠
      receivedLines (load "CONNECTED\n".toList) 10 := by
  intro same
  have cut := (sweep_exact.2 "CONN".toList "ECTED\n".toList _ _ _ (by decide) (by decide)
    (loaded_load _) (loaded_load _) (loaded_load _)).mp same
  cases cut with
  | inl atEnd =>
      obtain ⟨last, isLast, delimiter⟩ := atEnd
      cases isLast
      cases delimiter
  | inr atHead =>
      obtain ⟨head, isHead, delimiter⟩ := atHead
      cases isHead
      cases delimiter

end LibPubSub
