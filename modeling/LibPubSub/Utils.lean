import Mathlib.Algebra.Group.Int.Defs
import Mathlib.Data.List.Basic
import Mathlib.Data.List.TakeWhile
import Mathlib.Tactic.Common

/-! The string helpers of `utils.cpp`, with the parts of the standard library
that the signaling code uses on strings: `std::string::find`, `atoi` and the
output of an `int` to a stream. A C++ string is a list of characters. -/

set_option autoImplicit false

namespace LibPubSub

/-- A C++ `std::string`; a `char` is a Lean `Char`. -/
abbrev Str := List Char

/-- The character `'\0'`. -/
def NUL : Char := Char.ofNat 0

/-! ## Searching -/

/-- `s.compare(0, prefix.length(), prefix) == 0`. -/
def strStartsWith (s start : Str) : Bool :=
  s.take start.length == start

/-- `s.find(needle)`: the first position of `needle`, `none` for `npos`. -/
def find : Str → Str → Option Nat
  | [], needle => if needle = [] then some 0 else none
  | c :: s, needle =>
      if strStartsWith (c :: s) needle then some 0 else (find s needle).map (· + 1)

def strAfter (s start : Str) : Str :=
  match find s start with
  | none => s
  | some i => s.drop (i + start.length)

def strBefore (s suffix : Str) : Str :=
  match find s suffix with
  | none => s
  | some i => s.take i

theorem strStartsWith_iff {s start : Str} : strStartsWith s start = true ↔ start <+: s := by
  simp only [strStartsWith, beq_iff_eq]
  constructor
  · intro taken
    exact taken ▸ List.take_prefix _ _
  · rintro ⟨rest, rfl⟩
    exact List.take_left

theorem strStartsWith_append (start rest : Str) : strStartsWith (start ++ rest) start = true :=
  strStartsWith_iff.mpr (List.prefix_append _ _)

/-- Two starts of one string are comparable. -/
theorem strStartsWith_comparable {s start other : Str} (left : strStartsWith s start = true)
    (right : strStartsWith s other = true) : start <+: other ∨ other <+: start :=
  List.prefix_or_prefix_of_prefix (strStartsWith_iff.mp left) (strStartsWith_iff.mp right)

theorem strStartsWith_eq_false {s start other : Str} (starts : strStartsWith s start = true)
    (apart : ¬ start <+: other ∧ ¬ other <+: start) : strStartsWith s other = false := by
  by_contra starts'
  rw [Bool.not_eq_false] at starts'
  exact (strStartsWith_comparable starts starts').elim apart.1 apart.2

/-- A text that starts with one keyword is not taken for another one. -/
theorem not_strStartsWith {s start : Str} (other : Str) (starts : strStartsWith s start = true)
    (apart : ¬ start <+: other ∧ ¬ other <+: start) : ¬ strStartsWith s other = true := by
  rw [strStartsWith_eq_false starts apart]
  exact Bool.false_ne_true

theorem ne_of_strStartsWith {s start : Str} (text : Str) (starts : strStartsWith s start = true)
    (apart : ¬ start <+: text) : s ≠ text := by
  rintro rfl
  exact apart (strStartsWith_iff.mp starts)

section

variable {s needle : Str} {i : Nat}

/-- A position is found if the needle is there and nowhere before. -/
theorem find_eq_some : find s needle = some i → i ≤ s.length ∧ needle <+: s.drop i ∧
    ∀ j < i, ¬ needle <+: s.drop j := by
  induction s generalizing i with
  | nil =>
      intro found
      unfold find at found
      split at found
      · next empty =>
        cases found
        simp [empty]
      · cases found
  | cons head tail ih =>
      intro found
      unfold find at found
      split at found
      · next here =>
        cases found
        simp [strStartsWith_iff.mp here]
      · next notHere =>
        obtain ⟨j, later, rfl⟩ := Option.map_eq_some_iff.mp found
        obtain ⟨inside, there, first⟩ := ih later
        refine ⟨by simpa using inside, there, ?_⟩
        intro k below
        cases k with
        | zero => exact fun starts => notHere (strStartsWith_iff.mpr starts)
        | succ k => exact first k (by omega)

theorem find_eq_none : find s needle = none ↔ ¬ needle <:+: s := by
  induction s with
  | nil =>
      unfold find
      split
      · next empty => simp [empty]
      · next nonempty => simp [nonempty]
  | cons head tail ih =>
      unfold find
      split
      · next here =>
        simp only [reduceCtorEq, false_iff, not_not]
        exact (strStartsWith_iff.mp here).isInfix
      · next notHere =>
        have notPrefix : ¬ needle <+: head :: tail :=
          fun starts => notHere (strStartsWith_iff.mpr starts)
        simp [List.infix_cons_iff, notPrefix, ih]

theorem find_of_first (there : needle <+: s.drop i) (first : ∀ j < i, ¬ needle <+: s.drop j) :
    find s needle = some i := by
  cases found : find s needle with
  | none => exact absurd (there.isInfix.trans (List.drop_suffix i s).isInfix) (find_eq_none.mp found)
  | some j =>
      obtain ⟨_, there', first'⟩ := find_eq_some found
      have notBefore : ¬ i < j := fun before => first' i before there
      have notBehind : ¬ j < i := fun behind => first j behind there'
      rw [show j = i by omega]

end

/-- A one-character needle is found right after the characters that differ from it. -/
theorem find_singleton {before : Str} {separator : Char} (absent : separator ∉ before)
    (rest : Str) : find (before ++ separator :: rest) [separator] = some before.length := by
  induction before with
  | nil => simp [find, strStartsWith]
  | cons c before ih =>
      obtain ⟨different, absent⟩ := not_or.mp (mt List.mem_cons.mpr absent)
      have notHere : strStartsWith (c :: (before ++ separator :: rest)) [separator] = false := by
        simp [strStartsWith, Ne.symm different]
      simp only [List.cons_append, find, notHere, Bool.false_eq_true, ↓reduceIte, ih absent,
        Option.map_some, List.length_cons]

theorem find_singleton_none {s : Str} {separator : Char} (absent : separator ∉ s) :
    find s [separator] = none := by
  induction s with
  | nil => rfl
  | cons c s ih =>
      obtain ⟨different, absent⟩ := not_or.mp (mt List.mem_cons.mpr absent)
      have notHere : strStartsWith (c :: s) [separator] = false := by
        simp [strStartsWith, Ne.symm different]
      simp only [find, notHere, Bool.false_eq_true, ↓reduceIte, ih absent, Option.map_none]

theorem strAfter_separator {before : Str} {separator : Char} (absent : separator ∉ before)
    (rest : Str) : strAfter (before ++ separator :: rest) [separator] = rest := by
  simp [strAfter, find_singleton absent rest]

theorem strBefore_separator {before : Str} {separator : Char} (absent : separator ∉ before)
    (rest : Str) : strBefore (before ++ separator :: rest) [separator] = before := by
  simp [strBefore, find_singleton absent rest]

/-- Without the separator both helpers return the whole string. -/
theorem strAfter_absent {s : Str} {separator : Char} (absent : separator ∉ s) :
    strAfter s [separator] = s := by
  simp only [strAfter, find_singleton_none absent]

theorem strBefore_absent {s : Str} {separator : Char} (absent : separator ∉ s) :
    strBefore s [separator] = s := by
  simp only [strBefore, find_singleton_none absent]

theorem mem_of_mem_strAfter {s separator : Str} {b : Char} (member : b ∈ strAfter s separator) :
    b ∈ s := by
  unfold strAfter at member
  split at member
  · exact member
  · exact List.mem_of_mem_drop member

theorem mem_of_mem_strBefore {s separator : Str} {b : Char} (member : b ∈ strBefore s separator) :
    b ∈ s := by
  unfold strBefore at member
  split at member
  · exact member
  · exact List.mem_of_mem_take member

/-- What stands before a separator does not contain it. -/
theorem not_mem_strBefore (s : Str) (separator : Char) : separator ∉ strBefore s [separator] := by
  by_cases absent : separator ∈ s
  · obtain ⟨before, rest, rfl, first⟩ := List.eq_append_cons_of_mem absent
    rw [strBefore_separator first]
    exact first
  · rw [strBefore_absent absent]
    exact absent

/-! ## Numbers -/

/-- `isspace` in the C locale. -/
def isSpace (c : Char) : Bool :=
  c == ' ' || (Char.ofNat 9 ≤ c && c ≤ Char.ofNat 13)

/-- The value of the leading digits, `0` when there is none. -/
def leadingDigits (s : Str) : Nat :=
  Nat.ofDigitChars 10 (s.takeWhile Char.isDigit) 0

/-- `atoi`: `(int) strtol(s, NULL, 10)`, where `strtol` saturates at the bounds of
a 64-bit `long` and the conversion keeps the low 32 bits. -/
def atoi (s : Str) : Int32 :=
  match s.dropWhile isSpace with
  | '-' :: digits => Int32.ofInt (max (-(2 ^ 63)) (-(leadingDigits digits : Int)))
  | '+' :: digits => Int32.ofInt (min (2 ^ 63 - 1) (leadingDigits digits))
  | digits => Int32.ofInt (min (2 ^ 63 - 1) (leadingDigits digits))

/-- `stream << n` for an `int`. -/
def printInt (n : Int32) : Str :=
  match n.toInt with
  | .ofNat m => Nat.toDigits 10 m
  | .negSucc m => '-' :: Nat.toDigits 10 (m + 1)

theorem isDigit_of_mem_toDigits {n : Nat} {c : Char} (member : c ∈ Nat.toDigits 10 n) :
    c.isDigit = true :=
  Nat.isDigit_of_mem_toDigits (by decide) (by decide) member

theorem mem_printInt {n : Int32} {c : Char} (member : c ∈ printInt n) :
    c = '-' ∨ c.isDigit = true := by
  unfold printInt at member
  split at member
  · exact .inr (isDigit_of_mem_toDigits member)
  · rcases List.mem_cons.mp member with rfl | member
    · exact .inl rfl
    · exact .inr (isDigit_of_mem_toDigits member)

/-- A character that is no digit and no minus sign does not occur in a number. -/
theorem not_mem_printInt {n : Int32} {c : Char} (notDigit : c.isDigit = false)
    (notMinus : c ≠ '-') : c ∉ printInt n := by
  intro member
  rcases mem_printInt member with minus | digit
  · exact notMinus minus
  · rw [notDigit] at digit
    cases digit

private theorem leadingDigits_toDigits (n : Nat) (rest : Str)
    (stop : ∀ c ∈ rest.head?, c.isDigit = false) :
    leadingDigits (Nat.toDigits 10 n ++ rest) = n := by
  have digits : ∀ c ∈ Nat.toDigits 10 n, c.isDigit = true := fun _ => isDigit_of_mem_toDigits
  have stopped : rest.takeWhile Char.isDigit = [] := by
    cases rest with
    | nil => rfl
    | cons c rest => simp [stop c rfl]
  rw [leadingDigits, List.takeWhile_append_of_pos digits, stopped, List.append_nil,
    Nat.ofDigitChars_ten_toDigits]

private theorem digit_not_space {c : Char} (digit : c.isDigit = true) :
    isSpace c = false ∧ c ≠ '-' ∧ c ≠ '+' := by
  have lower : '0' ≤ c := by
    simp only [Char.isDigit, Bool.and_eq_true, decide_eq_true_eq] at digit
    exact digit.1
  have below : ∀ d : Char, d < '0' → c ≠ d := by
    rintro d small rfl
    exact absurd lower (Char.not_le.mpr small)
  refine ⟨?_, below '-' (by decide), below '+' (by decide)⟩
  have above : ¬ c ≤ Char.ofNat 13 := by
    intro small
    exact absurd (Char.le_trans lower small) (by decide)
  simp [isSpace, below ' ' (by decide), above]

/-- Reading back a printed `int` gives the same number, whatever follows it that
is no digit. -/
theorem atoi_printInt_append (n : Int32) (rest : Str)
    (stop : ∀ c ∈ rest.head?, c.isDigit = false) : atoi (printInt n ++ rest) = n := by
  have upper := n.toInt_lt
  have lower := n.le_toInt
  unfold printInt
  split
  · next m value =>
    obtain ⟨c, digits, shape⟩ := List.exists_cons_of_ne_nil (@Nat.toDigits_ne_nil m 10)
    have digit : c.isDigit = true := isDigit_of_mem_toDigits (shape ▸ List.mem_cons_self)
    obtain ⟨notSpace, notMinus, notPlus⟩ := digit_not_space digit
    have number := leadingDigits_toDigits m rest stop
    rw [shape, List.cons_append] at number ⊢
    have bound : (min (2 ^ 63 - 1) (m : Int)) = n.toInt := by
      rw [value]
      simp only [Int.ofNat_eq_natCast]
      rw [value, Int.ofNat_eq_natCast] at upper
      omega
    unfold atoi
    rw [List.dropWhile_cons_of_neg (by simp [notSpace])]
    split
    · next same => exact absurd (List.cons.inj same).1 notMinus
    · next same => exact absurd (List.cons.inj same).1 notPlus
    · rw [number, bound, Int32.ofInt_toInt]
  · next m value =>
    have number := leadingDigits_toDigits (m + 1) rest stop
    have bound : (max (-(2 ^ 63)) (-((m + 1 : Nat) : Int))) = n.toInt := by
      rw [value]
      rw [value] at lower
      omega
    unfold atoi
    rw [List.cons_append, List.dropWhile_cons_of_neg (by decide)]
    simp only [number, bound, Int32.ofInt_toInt]

theorem atoi_printInt (n : Int32) : atoi (printInt n) = n := by
  have plain := atoi_printInt_append n [] (by simp)
  rwa [List.append_nil] at plain

end LibPubSub
