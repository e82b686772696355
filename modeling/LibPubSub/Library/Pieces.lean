import Mathlib.Data.List.Basic

/-! The non-empty pieces of a list between delimiters, and when the pieces of a
concatenation are the pieces of its parts. -/

set_option autoImplicit false

namespace Pieces

variable {α : Type} (delimiter : α → Bool)

/-- The maximal non-empty runs of elements that are no delimiters, in order. -/
def pieces (items : List α) : List (List α) :=
  (items.splitOnP delimiter).filter fun piece => !piece.isEmpty

/-- A cut between two lists lies at a delimiter: the last element before it or
the first element after it is one. -/
def CutAtDelimiter (before after : List α) : Prop :=
  (∃ last ∈ before.getLast?, delimiter last = true) ∨
    ∃ first ∈ after.head?, delimiter first = true

instance (before after : List α) : Decidable (CutAtDelimiter delimiter before after) :=
  inferInstanceAs (Decidable (_ ∨ _))

variable {delimiter}

@[simp] theorem pieces_nil : pieces delimiter [] = [] := rfl

theorem pieces_append_delimiter {separator : α} (isDelimiter : delimiter separator = true)
    (before after : List α) :
    pieces delimiter (before ++ separator :: after) =
      pieces delimiter before ++ pieces delimiter after := by
  simp only [pieces, List.splitOnP_append_cons before after isDelimiter, List.filter_append]

theorem pieces_cons_delimiter {separator : α} (isDelimiter : delimiter separator = true)
    (after : List α) : pieces delimiter (separator :: after) = pieces delimiter after := by
  simpa only [List.nil_append, pieces_nil] using pieces_append_delimiter isDelimiter [] after

theorem pieces_run {items : List α} (nonempty : items ≠ [])
    (clean : ∀ item ∈ items, delimiter item = false) : pieces delimiter items = [items] := by
  simp only [pieces, List.splitOnP_eq_singleton clean, List.filter_cons, List.isEmpty_eq_false_iff.mpr nonempty,
    Bool.not_false, ↓reduceIte, List.filter_nil]

theorem pieces_run_delimiter {items : List α} (nonempty : items ≠ [])
    (clean : ∀ item ∈ items, delimiter item = false) {separator : α}
    (isDelimiter : delimiter separator = true) (after : List α) :
    pieces delimiter (items ++ separator :: after) = items :: pieces delimiter after := by
  rw [pieces_append_delimiter isDelimiter, pieces_run nonempty clean, List.singleton_append]

/-- Runs that are joined by a delimiter are its pieces. -/
theorem pieces_intercalate {separator : α} (isDelimiter : delimiter separator = true)
    {runs : List (List α)}
    (clean : ∀ run ∈ runs, run ≠ [] ∧ ∀ item ∈ run, delimiter item = false) :
    pieces delimiter ([separator].intercalate runs) = runs := by
  induction runs with
  | nil => rfl
  | cons run runs ih =>
      obtain ⟨nonempty, cleanRun⟩ := clean run List.mem_cons_self
      have later := ih fun other member => clean other (List.mem_cons_of_mem _ member)
      cases runs with
      | nil => rw [List.intercalate_singleton, pieces_run nonempty cleanRun]
      | cons next runs =>
          rw [List.intercalate_cons_cons, List.append_assoc, List.singleton_append,
            pieces_run_delimiter nonempty cleanRun isDelimiter, later]

/-- A list is a run without delimiters, or such a run, a delimiter and a rest. -/
theorem clean_or_split (delimiter : α → Bool) (items : List α) :
    (∀ item ∈ items, delimiter item = false) ∨
      ∃ run separator rest, items = run ++ separator :: rest ∧
        (∀ item ∈ run, delimiter item = false) ∧ delimiter separator = true := by
  induction items with
  | nil => exact .inl (by simp only [List.not_mem_nil, false_implies, implies_true])
  | cons head tail ih =>
      cases headKind : delimiter head with
      | true => exact .inr ⟨[], head, tail, rfl, by simp, headKind⟩
      | false =>
          rcases ih with clean | ⟨run, separator, rest, rfl, clean, isDelimiter⟩
          · exact .inl (List.forall_mem_cons.mpr ⟨headKind, clean⟩)
          · exact .inr ⟨head :: run, separator, rest, rfl,
              List.forall_mem_cons.mpr ⟨headKind, clean⟩, isDelimiter⟩

theorem mem_pieces_clean {items piece : List α} (member : piece ∈ pieces delimiter items) :
    piece ≠ [] ∧ ∀ item ∈ piece, delimiter item = false := by
  induction length : items.length using Nat.strongRecOn generalizing items with
  | _ size ih =>
    rcases clean_or_split delimiter items with
      clean | ⟨run, separator, rest, rfl, clean, isDelimiter⟩
    · by_cases empty : items = []
      · subst empty
        simp only [pieces_nil, List.not_mem_nil] at member
      · rw [pieces_run empty clean, List.mem_singleton] at member
        exact member ▸ ⟨empty, clean⟩
    · have shorter : rest.length < size := by
        simp only [List.length_append, List.length_cons] at length
        omega
      rw [pieces_append_delimiter isDelimiter, List.mem_append] at member
      rcases member with inRun | inRest
      · by_cases empty : run = []
        · subst empty
          simp only [pieces_nil, List.not_mem_nil] at inRun
        · rw [pieces_run empty clean, List.mem_singleton] at inRun
          exact inRun ▸ ⟨empty, clean⟩
      · exact ih rest.length shorter inRest rfl

/-- A piece is a part of the list. -/
theorem infix_of_mem_pieces {items piece : List α} (member : piece ∈ pieces delimiter items) :
    piece <:+: items := by
  induction length : items.length using Nat.strongRecOn generalizing items with
  | _ size ih =>
    rcases clean_or_split delimiter items with
      clean | ⟨run, separator, rest, rfl, clean, isDelimiter⟩
    · by_cases empty : items = []
      · rw [empty, pieces_nil] at member
        cases member
      · rw [pieces_run empty clean, List.mem_singleton] at member
        exact member ▸ List.infix_refl items
    · have shorter : rest.length < size := by
        simp only [List.length_append, List.length_cons] at length
        omega
      rw [pieces_append_delimiter isDelimiter, List.mem_append] at member
      rcases member with inRun | inRest
      · by_cases empty : run = []
        · rw [empty, pieces_nil] at inRun
          cases inRun
        · rw [pieces_run empty clean, List.mem_singleton] at inRun
          exact inRun ▸ (List.prefix_append run _).isInfix
      · have later := ih rest.length shorter inRest rfl
        exact later.trans ((List.suffix_cons separator rest).trans (List.suffix_append run _)).isInfix

/-- A part that does not contain the separator lies on one side of it. -/
theorem infix_of_infix_append_cons {before after part : List α} {separator : α}
    (inside : part <:+: before ++ separator :: after) (absent : separator ∉ part) :
    part <:+: before ∨ part <:+: after := by
  obtain ⟨first, last, same⟩ := inside
  rcases List.append_eq_append_iff.mp same with ⟨gap, isBefore, -⟩ | ⟨gap, isFirst, isAfter⟩
  · exact .inl ⟨first, gap, isBefore.symm⟩
  · cases gap with
    | nil => exact .inl ⟨first, [], by rw [isFirst, List.append_nil, List.append_nil]⟩
    | cons head gap =>
        obtain ⟨rfl, rfl⟩ := List.cons.inj isAfter
        rcases List.append_eq_append_iff.mp isFirst with ⟨lead, -, isPart⟩ | ⟨lead, -, isGap⟩
        · exact absurd (isPart ▸ List.mem_append_right _ List.mem_cons_self) absent
        · cases lead with
          | nil =>
              rw [List.nil_append] at isGap
              exact absurd (isGap ▸ List.mem_cons_self) absent
          | cons head lead =>
              obtain ⟨-, rfl⟩ := List.cons.inj isGap
              exact .inr ⟨lead, last, rfl⟩

/-- A cut at a delimiter splits the pieces as it splits the list. -/
theorem pieces_append_of_cut {before after : List α}
    (cut : CutAtDelimiter delimiter before after) :
    pieces delimiter (before ++ after) = pieces delimiter before ++ pieces delimiter after := by
  rcases cut with ⟨last, isLast, isDelimiter⟩ | ⟨first, isFirst, isDelimiter⟩
  · obtain ⟨initial, rfl⟩ := List.getLast?_eq_some_iff.mp isLast
    rw [List.append_assoc, List.singleton_append, pieces_append_delimiter isDelimiter,
      pieces_append_delimiter isDelimiter, pieces_nil, List.append_nil]
  · obtain ⟨rest, rfl⟩ := List.head?_eq_some_iff.mp isFirst
    rw [pieces_append_delimiter isDelimiter, pieces_cons_delimiter isDelimiter]

/-- The pieces of a list that begins with no delimiter start with its first run. -/
theorem exists_first_piece (items : List α) {head : α} (nonDelimiter : delimiter head = false) :
    ∃ run later, pieces delimiter (head :: items) = (head :: run) :: later ∧
      ∀ (before : List α), before ≠ [] → (∀ item ∈ before, delimiter item = false) →
        pieces delimiter (before ++ head :: items) = (before ++ head :: run) :: later := by
  rcases clean_or_split delimiter items with
    clean | ⟨run, separator, rest, rfl, clean, isDelimiter⟩
  · have cleanAll : ∀ item ∈ head :: items, delimiter item = false :=
      List.forall_mem_cons.mpr ⟨nonDelimiter, clean⟩
    refine ⟨items, [], pieces_run (List.cons_ne_nil _ _) cleanAll, ?_⟩
    intro before nonempty beforeClean
    refine pieces_run (by simp [nonempty]) ?_
    intro item member
    exact (List.mem_append.mp member).elim (beforeClean item) (cleanAll item)
  · have cleanAll : ∀ item ∈ head :: run, delimiter item = false :=
      List.forall_mem_cons.mpr ⟨nonDelimiter, clean⟩
    refine ⟨run, pieces delimiter rest, ?_, ?_⟩
    · exact pieces_run_delimiter (List.cons_ne_nil _ _) cleanAll isDelimiter rest
    · intro before nonempty beforeClean
      have joinedClean : ∀ item ∈ before ++ head :: run, delimiter item = false :=
        fun item member => (List.mem_append.mp member).elim (beforeClean item) (cleanAll item)
      have joined := pieces_run_delimiter (by simp) joinedClean isDelimiter rest
      simpa only [List.append_assoc, List.cons_append] using joined

/-- A cut inside a run yields one piece more than the whole list has. -/
theorem length_pieces_append_of_not_cut {before after : List α} (beforeNonempty : before ≠ [])
    (afterNonempty : after ≠ []) (inside : ¬ CutAtDelimiter delimiter before after) :
    (pieces delimiter before).length + (pieces delimiter after).length =
      (pieces delimiter (before ++ after)).length + 1 := by
  obtain ⟨head, tail, rfl⟩ := List.exists_cons_of_ne_nil afterNonempty
  have headKind : delimiter head = false := by
    by_contra isDelimiter
    exact inside (.inr ⟨head, rfl, by simpa using isDelimiter⟩)
  obtain ⟨run, later, whole, extended⟩ := exists_first_piece tail headKind
  -- induction on `before`: only its last run touches the cut
  induction length : before.length using Nat.strongRecOn generalizing before with
  | _ size ih =>
    rcases clean_or_split delimiter before with
      clean | ⟨first, separator, rest, rfl, clean, isDelimiter⟩
    · rw [extended before beforeNonempty clean, pieces_run beforeNonempty clean, whole]
      simp only [List.length_cons, List.length_nil]
      omega
    · have restNonempty : rest ≠ [] := by
        rintro rfl
        exact inside (.inl ⟨separator, by simp, isDelimiter⟩)
      have shorter : rest.length < size := by
        simp only [List.length_append, List.length_cons] at length
        omega
      have restInside : ¬ CutAtDelimiter delimiter rest (head :: tail) := by
        rintro (⟨last, isLast, lastKind⟩ | atHead)
        · refine inside (.inl ⟨last, ?_, lastKind⟩)
          rw [List.getLast?_append_cons, List.getLast?_cons]
          simp [Option.mem_def.mp isLast]
        · exact inside (.inr atHead)
      have smaller := ih rest.length shorter restNonempty restInside rfl
      rw [List.append_assoc, List.cons_append, pieces_append_delimiter isDelimiter,
        pieces_append_delimiter isDelimiter]
      simp only [List.length_append]
      omega

/-- Neighbouring parts of a list of lists are all cut at delimiters. -/
def CutsAtDelimiters (delimiter : α → Bool) (parts : List (List α)) : Prop :=
  parts.IsChain (CutAtDelimiter delimiter)

instance (parts : List (List α)) : Decidable (CutsAtDelimiters delimiter parts) :=
  inferInstanceAs (Decidable (parts.IsChain _))

private theorem head?_flatten {part : List α} {parts : List (List α)} (nonempty : part ≠ []) :
    (part :: parts).flatten.head? = part.head? := by
  obtain ⟨head, tail, rfl⟩ := List.exists_cons_of_ne_nil nonempty
  rfl

private theorem cut_flatten {before next : List α} (parts : List (List α)) (nonempty : next ≠ []) :
    CutAtDelimiter delimiter before (next :: parts).flatten ↔
      CutAtDelimiter delimiter before next := by
  simp only [CutAtDelimiter, head?_flatten nonempty]

private theorem length_pieces_flatten_le (delimiter : α → Bool) {parts : List (List α)}
    (nonempty : ∀ part ∈ parts, part ≠ []) :
    (pieces delimiter parts.flatten).length ≤ (parts.flatMap (pieces delimiter)).length := by
  induction parts with
  | nil => exact Nat.le_refl _
  | cons first rest ih =>
      have restBound := ih fun part member => nonempty part (List.mem_cons_of_mem _ member)
      simp only [List.flatten_cons, List.flatMap_cons, List.length_append]
      by_cases cut : CutAtDelimiter delimiter first rest.flatten
      · rw [pieces_append_of_cut cut, List.length_append]
        omega
      · by_cases empty : rest.flatten = []
        · rw [empty, List.append_nil]
          omega
        · have one := length_pieces_append_of_not_cut (nonempty first List.mem_cons_self) empty cut
          omega

/-- Splitting part by part gives the pieces of the whole list exactly when no
part ends inside a run. -/
theorem flatMap_pieces_eq_iff {parts : List (List α)} (nonempty : ∀ part ∈ parts, part ≠ []) :
    parts.flatMap (pieces delimiter) = pieces delimiter parts.flatten ↔
      CutsAtDelimiters delimiter parts := by
  induction parts with
  | nil => simp [CutsAtDelimiters]
  | cons first rest ih =>
      have restNonempty : ∀ part ∈ rest, part ≠ [] :=
        fun part member => nonempty part (List.mem_cons_of_mem _ member)
      cases rest with
      | nil => simp [CutsAtDelimiters]
      | cons second rest =>
          have secondNonempty := restNonempty second List.mem_cons_self
          have flattenNonempty : (second :: rest).flatten ≠ [] := by
            simp [secondNonempty]
          rw [CutsAtDelimiters, List.isChain_cons_cons, ← cut_flatten rest secondNonempty]
          change _ ↔ _ ∧ CutsAtDelimiters delimiter (second :: rest)
          rw [← ih restNonempty, List.flatMap_cons, List.flatten_cons]
          constructor
          · intro same
            have bound := length_pieces_flatten_le delimiter restNonempty
            have lengths := congrArg List.length same
            rw [List.length_append] at lengths
            have cut : CutAtDelimiter delimiter first (second :: rest).flatten := by
              by_contra inside
              have one := length_pieces_append_of_not_cut (nonempty first List.mem_cons_self)
                flattenNonempty inside
              omega
            refine ⟨cut, ?_⟩
            rw [pieces_append_of_cut cut] at same
            exact List.append_cancel_left same
          · rintro ⟨cut, same⟩
            rw [same, pieces_append_of_cut cut]

end Pieces
