import LibPubSub.Utils
import Mathlib.Data.List.Infix

/-! `TransportDescription` of `protocols.h`: a transport protocol for a channel, read from
a text `protocol://address[:port][/direction]` and printed as one. -/

set_option autoImplicit false

namespace LibPubSub

/-! ## String helpers -/

def strHas (s needle : Str) : Bool :=
  (find s needle).isSome

def strToLower (s : Str) : Str :=
  s.map Char.toLower

section

variable {s t needle : Str} {c : Char}

theorem strHas_iff : strHas s needle = true ↔ needle <:+: s := by
  unfold strHas
  cases found : find s needle with
  | none => simp [find_eq_none.mp found]
  | some i =>
      have present : needle <:+: s := by
        by_contra absent
        simp [find_eq_none.mpr absent] at found
      simp [present]

theorem strHas_singleton : strHas s [c] = true ↔ c ∈ s := by
  rw [strHas_iff]
  exact List.singleton_infix_iff c s

/-- A text that shares no character with the needle adds no occurrence. -/
theorem infix_append_of_apart (nonempty : needle ≠ []) (apart : ∀ c ∈ needle, c ∉ t) :
    needle <:+: s ++ t ↔ needle <:+: s := by
  constructor
  · intro present
    rcases List.infix_append_iff_ne_nil.mp present with inside | outside | ⟨_, l, _, some, rfl, _, starts⟩
    · exact inside
    · obtain ⟨c, member⟩ := List.exists_mem_of_ne_nil _ nonempty
      exact absurd (outside.subset member) (apart c member)
    · obtain ⟨c, member⟩ := List.exists_mem_of_ne_nil _ some
      exact absurd (starts.subset member) (apart c (List.mem_append_right _ member))
  · exact fun present => present.trans (List.infix_append_left)

theorem isUpper_iff : c.isUpper = true ↔ c.val ≥ 'A'.val ∧ c.val ≤ 'Z'.val :=
  decide_eq_true_iff

theorem isLower_iff : c.isLower = true ↔ c.val ≥ 'a'.val ∧ c.val ≤ 'z'.val := by
  refine Bool.and_eq_true_iff.trans (and_congr ?_ ?_)
  · exact decide_eq_true_iff
  · exact decide_eq_true_iff

theorem toLower_cases (c : Char) :
    (c.isUpper = true ∧ c.toLower.isLower = true) ∨ (c.isUpper = false ∧ c.toLower = c) := by
  unfold Char.toLower
  split
  · next upper =>
    refine .inl ⟨isUpper_iff.mpr upper, isLower_iff.mpr ?_⟩
    have lowest : 65 ≤ c.val.toNat := UInt32.le_iff_toNat_le.mp upper.1
    have highest : c.val.toNat ≤ 90 := UInt32.le_iff_toNat_le.mp upper.2
    have shifted : (c.val + ('a'.val - 'A'.val)).toNat = c.val.toNat + 32 := by
      have small : c.val.toNat + 32 < 2 ^ 32 := by omega
      rw [UInt32.toNat_add]
      exact Nat.mod_eq_of_lt small
    rw [ge_iff_le, UInt32.le_iff_toNat_le, UInt32.le_iff_toNat_le, shifted]
    exact ⟨Nat.add_le_add_right lowest 32, Nat.add_le_add_right highest 32⟩
  · next other =>
    refine .inr ⟨?_, rfl⟩
    rw [← Bool.not_eq_true, isUpper_iff]
    exact other

theorem isUpper_of_isLower (lower : c.isLower = true) : c.isUpper = false := by
  rw [← Bool.not_eq_true, isUpper_iff]
  rintro ⟨_, highest⟩
  have low : 97 ≤ c.val.toNat := UInt32.le_iff_toNat_le.mp (isLower_iff.mp lower).1
  have high : c.val.toNat ≤ 90 := UInt32.le_iff_toNat_le.mp highest
  omega

theorem isAlpha_eq_false_iff : c.isAlpha = false ↔ c.isUpper = false ∧ c.isLower = false :=
  Bool.or_eq_false_iff

theorem toLower_toLower (c : Char) : c.toLower.toLower = c.toLower := by
  cases toLower_cases c with
  | inl upper =>
      cases toLower_cases c.toLower with
      | inl again => simp [isUpper_of_isLower upper.2] at again
      | inr same => exact same.2
  | inr same => rw [same.2, same.2]

/-- Lowering makes letters of letters only. -/
theorem toLower_eq_iff (notAlpha : c.isAlpha = false) (d : Char) : d.toLower = c ↔ d = c := by
  cases toLower_cases d with
  | inl upper =>
      have letter := isAlpha_eq_false_iff.mp notAlpha
      constructor
      · rintro rfl
        rw [upper.2] at letter
        cases letter.2
      · rintro rfl
        rw [upper.1] at letter
        cases letter.1
  | inr same => rw [same.2]

theorem strToLower_strToLower (s : Str) : strToLower (strToLower s) = strToLower s := by
  unfold strToLower
  rw [List.map_map]
  exact List.map_congr_left fun c _ => toLower_toLower c

/-- What has no letters is not made by lowering. -/
theorem infix_strToLower_iff (noLetters : needle.all (!·.isAlpha) = true) :
    needle <:+: strToLower s ↔ needle <:+: s := by
  have noLetter : ∀ c ∈ needle, c.isAlpha = false := by
    intro c member
    simpa using List.all_eq_true.mp noLetters c member
  have lower {l : Str} (same : needle = l.map Char.toLower) : needle = l := by
    apply List.ext_getElem
    · simp [same]
    · intro k left right
      have one : l[k].toLower = needle[k] := by simp [same]
      exact ((toLower_eq_iff (noLetter _ (List.getElem_mem left)) _).mp one).symm
  have fixed : needle.map Char.toLower = needle := by
    conv_rhs => rw [← List.map_id needle]
    exact List.map_congr_left fun c member => (toLower_eq_iff (noLetter c member) c).mpr rfl
  constructor
  · intro present
    obtain ⟨l, inside, same⟩ := List.infix_map_iff.mp present
    rw [lower same]
    exact inside
  · intro present
    have lowered := present.map Char.toLower
    rw [fixed] at lowered
    exact lowered

theorem not_infix_strBefore (s : Str) (nonempty : needle ≠ []) :
    ¬ needle <:+: strBefore s needle := by
  unfold strBefore
  cases found : find s needle with
  | none => exact find_eq_none.mp found
  | some i =>
      obtain ⟨_, _, first⟩ := find_eq_some found
      rintro ⟨before, after, whole⟩
      dsimp only at whole
      have length := congrArg List.length whole
      have := List.length_pos_iff.mpr nonempty
      simp only [List.length_append, List.length_take] at length
      refine first before.length (by omega) ⟨after ++ s.drop i, ?_⟩
      have split : before ++ (needle ++ (after ++ s.drop i)) = s := by
        rw [← List.append_assoc, ← List.append_assoc, whole, List.take_append_drop]
      have dropped := congrArg (List.drop before.length) split
      rw [List.drop_left] at dropped
      rw [← dropped]

/-- The separator of protocol and address does not overlap itself. -/
theorem find_scheme (absent : ¬ "://".toList <:+: s) (t : Str) :
    find (s ++ "://".toList ++ t) "://".toList = some s.length := by
  apply find_of_first
  · simp
  · intro j before starts
    rw [List.append_assoc, List.drop_append_of_le_length (Nat.le_of_lt before)] at starts
    generalize tail : s.drop j = rest at starts
    have nonempty : rest ≠ [] := by
      rintro rfl
      exact absurd (List.drop_eq_nil_iff.mp tail) (by omega)
    have inside : rest <:+: s := tail ▸ (List.drop_suffix j s).isInfix
    -- the characters behind the start of the occurrence are compared one by one
    match rest, nonempty with
    | [_], _ => simp at starts
    | [_, _], _ => simp at starts
    | _ :: _ :: _ :: rest, _ =>
        simp [List.cons_prefix_cons] at starts
        obtain ⟨rfl, rfl, rfl⟩ := starts
        exact absent (List.IsInfix.trans ⟨[], rest, rfl⟩ inside)

end

/-! ## Descriptions -/

inductive EndPointType where
  | input
  | output
  | both
  deriving DecidableEq

structure TransportDescription where
  valid : Bool
  protocol : Str
  isLocal : Bool
  ip : Str
  port : Int32
  channel : Str
  type : EndPointType
  deriving DecidableEq

/-- The tests of the direction, in their order. -/
def EndPointType.named (details : Str) : EndPointType :=
  if strHas details "in".toList then .input
  else if strHas details "out".toList then .output
  else .both

namespace TransportDescription

/-- The constructor `TransportDescription(channel, desc)`. -/
def parse (channel desc : Str) : TransportDescription :=
  let protocol := strToLower (strBefore desc "://".toList)
  let url := strAfter desc "://".toList
  let ip := strBefore (strBefore url [':']) ['/']
  let port := if strHas url [':'] then atoi (strAfter url [':']) else 0
  let details := strAfter url ['/']
  let isLocal := protocol == "shm".toList
  { valid := true
    protocol := protocol
    isLocal := isLocal
    ip := if !isLocal && ip == [] then "localhost".toList else ip
    port := port
    channel := channel
    type := .named details }

/-- `if(port) ss << ":" << port;` -/
def portText (port : Int32) : Str :=
  if port ≠ 0 then ':' :: printInt port else []

/-- `if(type!=BOTH) ss << (type == INPUT ? "/input" : "/output");` -/
def typeText : EndPointType → Str
  | .input => "/input".toList
  | .output => "/output".toList
  | .both => []

@[simp] theorem typeText_both : typeText .both = [] := rfl

def toString (d : TransportDescription) : Str :=
  if !d.valid then []
  else d.protocol ++ "://".toList ++ d.ip ++ portText d.port ++ typeText d.type

/-! ## Reading a printed description -/

/-- What the constructor makes sure of. -/
structure WellFormed (d : TransportDescription) : Prop where
  valid : d.valid = true
  lower : strToLower d.protocol = d.protocol
  protocol : ¬ "://".toList <:+: d.protocol
  isLocal : d.isLocal = (d.protocol == "shm".toList)
  noColon : ':' ∉ d.ip
  noSlash : '/' ∉ d.ip
  named : d.isLocal = false → d.ip ≠ []

theorem wellFormed_parse (channel desc : Str) : (parse channel desc).WellFormed := by
  constructor
  · rfl
  · exact strToLower_strToLower _
  · unfold parse
    dsimp only
    rw [infix_strToLower_iff (by decide)]
    exact not_infix_strBefore desc (by decide)
  · rfl
  · unfold parse
    dsimp only
    split
    · decide
    · exact fun member => not_mem_strBefore _ ':' (mem_of_mem_strBefore member)
  · unfold parse
    dsimp only
    split
    · decide
    · exact not_mem_strBefore _ '/'
  · unfold parse
    dsimp only
    intro remote
    rw [remote]
    split
    · decide
    · next named =>
      intro empty
      exact named (by rw [empty]; rfl)

variable {d : TransportDescription}

theorem not_mem_portText {c : Char} (notColon : c ≠ ':') (notDigit : c.isDigit = false)
    (notMinus : c ≠ '-') (port : Int32) : c ∉ portText port := by
  unfold portText
  split
  · simp [notColon, not_mem_printInt notDigit notMinus]
  · simp

theorem digits_stop (type : EndPointType) : ∀ c ∈ (typeText type).head?, c.isDigit = false := by
  intro c first
  cases type with
  | both => cases first
  | input =>
      obtain rfl : c = '/' := (Option.some.inj first).symm
      rfl
  | output =>
      obtain rfl : c = '/' := (Option.some.inj first).symm
      rfl

theorem not_mem_typeText_colon (type : EndPointType) : ':' ∉ typeText type := by
  cases type <;> decide

/-- The address of a printed description. -/
def url (d : TransportDescription) : Str :=
  d.ip ++ portText d.port ++ typeText d.type

theorem find_toString (wellFormed : d.WellFormed) :
    strBefore d.toString "://".toList = d.protocol ∧ strAfter d.toString "://".toList = d.url := by
  have whole : d.toString = d.protocol ++ "://".toList ++ d.url := by
    simp [toString, url, wellFormed.valid]
  have found := find_scheme wellFormed.protocol d.url
  rw [← whole] at found
  constructor
  · simp only [strBefore, found]
    rw [whole, List.append_assoc, List.take_left]
  · simp only [strAfter, found]
    rw [whole, ← List.length_append, List.drop_left]

theorem ip_url (wellFormed : d.WellFormed) : strBefore (strBefore d.url [':']) ['/'] = d.ip := by
  unfold url portText
  split
  · rw [List.append_assoc, List.cons_append, strBefore_separator wellFormed.noColon,
      strBefore_absent wellFormed.noSlash]
  · have noColon : ':' ∉ d.ip ++ typeText d.type := by
      simp [wellFormed.noColon, not_mem_typeText_colon]
    rw [List.append_nil, strBefore_absent noColon]
    cases d.type with
    | both =>
        rw [typeText_both, List.append_nil]
        exact strBefore_absent wellFormed.noSlash
    | input => exact strBefore_separator wellFormed.noSlash _
    | output => exact strBefore_separator wellFormed.noSlash _

theorem port_url (wellFormed : d.WellFormed) :
    (if strHas d.url [':'] then atoi (strAfter d.url [':']) else 0) = d.port := by
  unfold url portText
  by_cases port : d.port = 0
  · have absent : strHas (d.ip ++ typeText d.type) [':'] = false := by
      rw [Bool.eq_false_iff, Ne, strHas_singleton]
      simp [wellFormed.noColon, not_mem_typeText_colon]
    simp [port, absent]
  · have present : strHas (d.ip ++ ':' :: printInt d.port ++ typeText d.type) [':'] = true := by
      rw [strHas_singleton]
      simp
    rw [if_pos port, if_pos present, List.append_assoc, List.cons_append,
      strAfter_separator wellFormed.noColon]
    apply atoi_printInt_append
    exact digits_stop d.type

/-- A port adds no direction to an address. -/
theorem named_portText (ip : Str) (port : Int32) :
    EndPointType.named (ip ++ portText port) = .named ip := by
  have same {needle : Str} (nonempty : needle ≠ [])
      (letters : (needle.all fun c => c != ':' && !c.isDigit && c != '-') = true) :
      strHas (ip ++ portText port) needle = strHas ip needle := by
    rw [Bool.eq_iff_iff, strHas_iff, strHas_iff]
    apply infix_append_of_apart nonempty
    intro c member
    have letter := List.all_eq_true.mp letters c member
    simp only [Bool.and_eq_true, bne_iff_ne, Bool.not_eq_true'] at letter
    obtain ⟨⟨notColon, notDigit⟩, notMinus⟩ := letter
    exact not_mem_portText notColon notDigit notMinus port
  unfold EndPointType.named
  rw [same (by decide) (by decide), same (by decide) (by decide)]

theorem type_url (wellFormed : d.WellFormed) :
    EndPointType.named (strAfter d.url ['/']) = if d.type = .both then .named d.ip else d.type := by
  have noSlash : '/' ∉ d.ip ++ portText d.port := by
    simp [wellFormed.noSlash, not_mem_portText]
  unfold url
  cases d.type with
  | both =>
      simp only [typeText_both, List.append_nil, ↓reduceIte]
      rw [strAfter_absent noSlash, named_portText]
  | input =>
      have details : strAfter (d.ip ++ portText d.port ++ typeText .input) ['/'] = "input".toList :=
        strAfter_separator noSlash _
      rw [details]
      rfl
  | output =>
      have details : strAfter (d.ip ++ portText d.port ++ typeText .output) ['/'] = "output".toList :=
        strAfter_separator noSlash _
      rw [details]
      rfl

/-- All but the direction is read as it was printed. -/
theorem parse_toString (wellFormed : d.WellFormed) (channel : Str) :
    parse channel d.toString = { d with
      channel := channel
      type := if d.type = .both then .named d.ip else d.type } := by
  obtain ⟨before, after⟩ := find_toString wellFormed
  unfold parse
  rw [before, after]
  dsimp only
  rw [wellFormed.lower, ip_url wellFormed, port_url wellFormed, type_url wellFormed,
    ← wellFormed.isLocal]
  have named : (!d.isLocal && d.ip == []) = false := by
    cases remote : d.isLocal with
    | true => rfl
    | false => simpa using wellFormed.named remote
  rw [named, wellFormed.valid]
  rfl

/-! ## Printing what was read -/

/-- Printing and reading again changes nothing. -/
structure Survives (d d' : TransportDescription) : Prop where
  protocol : d'.protocol = d.protocol
  ip : d'.ip = d.ip
  port : d'.port = d.port
  type : d'.type = d.type
  isLocal : d'.isLocal = d.isLocal
  printed : d'.toString = d.toString

/-- The host name of a description does not look like a direction, unless the part behind
the first `/` of the address does as well. -/
def Directed (desc : Str) : Prop :=
  let url := strAfter desc "://".toList
  let host := strBefore (strBefore url [':']) ['/']
  let details := strAfter url ['/']
  strHas host "in".toList = true ∨ strHas host "out".toList = true →
    strHas details "in".toList = true ∨ strHas details "out".toList = true

theorem named_eq_both_iff {details : Str} : EndPointType.named details = .both ↔
    ¬ (strHas details "in".toList = true ∨ strHas details "out".toList = true) := by
  unfold EndPointType.named
  cases strHas details "in".toList <;> cases strHas details "out".toList <;> decide

/-- A name that stands in for an empty one says nothing about the direction. -/
theorem named_ip (channel desc : Str) : EndPointType.named (parse channel desc).ip =
    .named (strBefore (strBefore (strAfter desc "://".toList) [':']) ['/']) := by
  unfold parse
  dsimp only
  split
  · next nameless =>
    rw [Bool.and_eq_true, beq_iff_eq] at nameless
    rw [nameless.2]
    decide
  · rfl

theorem type_stays_iff (channel desc : Str) :
    (if (parse channel desc).type = .both then .named (parse channel desc).ip
      else (parse channel desc).type) = (parse channel desc).type ↔ Directed desc := by
  have type : (parse channel desc).type =
      .named (strAfter (strAfter desc "://".toList) ['/']) := rfl
  unfold Directed
  dsimp only
  rw [named_ip, type]
  split
  · next undirected =>
    rw [undirected, named_eq_both_iff]
    rw [named_eq_both_iff] at undirected
    simp only [undirected, imp_false]
  · next directed =>
    rw [named_eq_both_iff, not_not] at directed
    simp only [directed, implies_true]

/-- A description survives printing and reading exactly if its host name does not become
the direction. -/
theorem survives_iff_directed (channel desc : Str) :
    Survives (parse channel desc) (parse channel (parse channel desc).toString) ↔
      Directed desc := by
  have wellFormed := wellFormed_parse channel desc
  have again := parse_toString wellFormed channel
  rw [← type_stays_iff channel desc]
  constructor
  · intro survives
    have type := survives.type
    rw [again] at type
    exact type
  · intro same
    rw [same] at again
    have whole : parse channel (parse channel desc).toString = parse channel desc := again
    rw [whole]
    exact ⟨rfl, rfl, rfl, rfl, rfl, rfl⟩

/-- A host named `internal` and a path that names no direction. -/
theorem not_always_survives_printing : ¬ ∀ channel desc : Str,
    Survives (parse channel desc) (parse channel (parse channel desc).toString) := by
  intro law
  have survives := law "images".toList "tcp://internal:80/".toList
  have directed := (survives_iff_directed _ _).mp survives
  revert directed
  unfold Directed
  decide

end TransportDescription

end LibPubSub
