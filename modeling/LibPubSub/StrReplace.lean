import LibPubSub.Library.Substitution
import LibPubSub.Utils

/-! `str_replace`, and what the search that it uses finds. -/

set_option autoImplicit false

namespace LibPubSub

open Substitution

/-! ## Searching -/

/-- `s.find(needle, pos)`. -/
def findFrom (s needle : Str) (pos : Nat) : Option Nat :=
  if pos ≤ s.length then (find (s.drop pos) needle).map (pos + ·) else none

/-! ## Replacing -/

/-- `s.replace(pos, len, text)`. -/
def replaceAt (s : Str) (pos len : Nat) (text : Str) : Str :=
  s.take pos ++ text ++ s.drop (pos + len)

/-- At most `fuel` tests of the `while`; `none` if it would be tested again. -/
def strReplaceLoop (search replace : Str) : Nat → Str → Nat → Option Str
  | 0, _, _ => none
  | fuel + 1, subject, pos =>
      match findFrom subject search pos with
      | none => some subject
      | some pos =>
          strReplaceLoop search replace fuel (replaceAt subject pos search.length replace)
            (pos + replace.length)

/-- `str_replace` returns `result`. -/
def StrReplaces (subject search replace result : Str) : Prop :=
  ∃ fuel, strReplaceLoop search replace fuel subject 0 = some result

variable {subject search replace result : Str}

/-- Behind what is done the loop replaces the occurrences in what is left. -/
theorem strReplaceLoop_replaced (nonempty : search ≠ []) (done rest : Str) :
    ∃ fuel out,
      strReplaceLoop search replace fuel (done ++ rest) done.length = some (done ++ out) ∧
      Replaced search replace rest out := by
  induction length : rest.length using Nat.strongRecOn generalizing done rest with
  | _ size ih =>
    have from_done : findFrom (done ++ rest) search done.length =
        (find rest search).map (done.length + ·) := by
      simp [findFrom]
    cases found : find rest search with
    | none =>
        refine ⟨1, rest, ?_, .rest (find_eq_none.mp found)⟩
        simp [strReplaceLoop, from_done, found]
    | some i =>
        obtain ⟨inside, ⟨after, there⟩, first⟩ := find_eq_some found
        have split : rest = rest.take i ++ search ++ after := by
          rw [List.append_assoc, there, List.take_append_drop]
        have before : (rest.take i).length = i := by simp [inside]
        have shorter : after.length < size := by
          have lengths := congrArg List.length split
          have := List.length_pos_iff.mpr nonempty
          simp only [List.length_append, before] at lengths
          omega
        obtain ⟨fuel, out, returns, replaced⟩ :=
          ih _ shorter (done ++ rest.take i ++ replace) after rfl
        refine ⟨fuel + 1, rest.take i ++ replace ++ out, ?_, ?_⟩
        · have round : replaceAt (done ++ rest) (done.length + i) search.length replace =
              done ++ rest.take i ++ replace ++ after := by
            have right : rest.drop (i + search.length) = after := by
              rw [← List.drop_drop, ← there, List.drop_left]
            rw [replaceAt, Nat.add_assoc, List.take_length_add_append, List.drop_length_add_append,
              right]
          have size : (done ++ rest.take i ++ replace).length = done.length + i + replace.length := by
            simp only [List.length_append, before]
          unfold strReplaceLoop
          rw [from_done, found, Option.map_some]
          dsimp only
          rw [round, ← size, returns]
          simp
        · have occurrence : Replaced search replace (rest.take i ++ search ++ after)
              (rest.take i ++ replace ++ out) :=
            .occurrence (by rw [← split, before]; exact first) replaced
          rw [← split] at occurrence
          exact occurrence

/-- The empty string is found again and again. -/
theorem strReplaceLoop_empty (fuel : Nat) {pos : Nat} (inside : pos ≤ subject.length) :
    strReplaceLoop [] replace fuel subject pos = none := by
  induction fuel generalizing subject pos with
  | zero => rfl
  | succ fuel ih =>
      have here (s : Str) : find s [] = some 0 := by
        cases s <;> simp [find, strStartsWith]
      unfold strReplaceLoop
      simp only [findFrom, inside, ↓reduceIte, here, Option.map_some, Nat.add_zero]
      apply ih
      simp [replaceAt]
      omega

/-- `str_replace` returns, and what it returns is the substitution, exactly if there is something
to search for. -/
theorem strReplaces_iff (subject search replace : Str) :
    (∃ result, StrReplaces subject search replace result ∧
      ∀ out, Replaced search replace subject out ↔ out = result) ↔ search ≠ [] := by
  constructor
  · rintro ⟨result, ⟨fuel, returns⟩, _⟩ rfl
    rw [strReplaceLoop_empty fuel (Nat.zero_le _)] at returns
    cases returns
  · intro nonempty
    obtain ⟨fuel, out, returns, replaced⟩ := strReplaceLoop_replaced nonempty [] subject
    refine ⟨out, ⟨fuel, returns⟩, fun other => ⟨fun also => also.unique replaced, ?_⟩⟩
    rintro rfl
    exact replaced

/-- Nothing to search for. -/
theorem not_always_strReplaces :
    ¬ ∀ subject search replace : Str, ∃ result, StrReplaces subject search replace result ∧
      ∀ out, Replaced search replace subject out ↔ out = result := by
  intro law
  exact (strReplaces_iff _ _ _).mp (law "a/b".toList [] "@@@".toList) rfl

end LibPubSub
