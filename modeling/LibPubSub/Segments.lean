import LibPubSub.Lifecycle
import LibPubSub.Writes

/-! Shared memory segments. `connect_shm` and `offer_shm` write the keywords without the
`=` that `digest_message` looks for, so what they ask for and offer is at best
read as a message about another channel, whose name is shorter. -/

set_option autoImplicit false

namespace LibPubSub

open Pieces Fallible Transition

namespace Node

/-- The texts that were written between two states of a node. -/
def writes (n n' : Node) : List Str :=
  (n'.mesh.sent.drop n.mesh.sent.length).map fun written => written.2.2

/-- A text of Host `h` that arrives whole. -/
def deliver (h : HostPtr) (n : Node) (text : Str) : Result Node :=
  (linesOf text).foldlM (fun n line => n.digestMessage h line) n

/-- Node `a` runs `connect_shm` on channel `c`. What it writes is delivered to `b`, which
knows it as Host `q`, and what `b` writes then is delivered to `a` as from Host `p`. -/
def negotiate (a b : Node) (c : ChanPtr) (p q : HostPtr) : Result (Node × Node) := do
  let asked ← a.connectShm c
  let b' ← (a.writes asked).foldlM (deliver q) b
  let a' ← (b.writes b').foldlM (deliver p) asked
  return (a', b')

/-- The offer of channel `d` of `b` has been answered on channel `c` of `a`, which has the
parameters of `d` now, and the subscriptions it had have mapped the segment. -/
structure Negotiated (a a' b' : Node) (c d : ChanPtr) : Prop where
  answered : ∃ h, Call.offeredShm h c (b'.offeredShm d) ∈ a'.log.drop a.log.length
  offered : a'.offeredShm c = b'.offeredShm d
  mapped : ∀ s ∈ (a.chan c).subscriptions, ∃ sub, a'.sub s = some sub ∧ sub.bConnected = true ∧
    sub.transport = .shm ∧ (sub.bAsync = false → sub.shm = some (b'.offeredShm d))

/-! ## The two messages -/

theorem writes_self (n : Node) : n.writes n = [] := by
  simp [writes]

theorem writes_utter {n n' : Node} {voice : Option (ConnId × End)} {text : Str}
    (sent : n'.mesh.sent = n.mesh.sent ++ utter voice text) :
    n.writes n' = [] ∨ n.writes n' = [text] := by
  rw [writes, sent, List.drop_left]
  cases voice with
  | none => exact .inl rfl
  | some v => exact .inr rfl

theorem deliver_lineSafe {h : HostPtr} {n : Node} {text : Str} (nonempty : text ≠ [])
    (safe : LineSafe text) : deliver h n text = n.digestMessage h text := by
  rw [deliver, linesOf_lineSafe nonempty safe, List.foldlM_cons]
  simp only [List.foldlM_nil, bind_pure]

/-- Without the separator the keywords of the segments are read as nothing. -/
theorem digest_ignores {n : Node} {h : HostPtr} {word rest : Str}
    (isWord : word = "CONNECT_SHM".toList ∨ word = "OFFER_SHM".toList)
    (noSeparator : rest.head? ≠ some '=') : n.digestMessage h (word ++ rest) = .ok n := by
  have starts : strStartsWith (word ++ rest) word = true := strStartsWith_append word rest
  have other {start : Str} (apart : ∀ word ∈ ["CONNECT_SHM".toList, "OFFER_SHM".toList],
      ¬ word <+: start ∧ ¬ start <+: word) : ¬ strStartsWith (word ++ rest) start = true := by
    rcases isWord with rfl | rfl
    · exact not_strStartsWith start starts (apart _ List.mem_cons_self)
    · exact not_strStartsWith start starts (apart _ (List.mem_cons_of_mem _ List.mem_cons_self))
  have notPublish : ¬ strStartsWith (word ++ rest) "PUBLISH=".toList = true := other (by decide)
  have notUnpublish : ¬ strStartsWith (word ++ rest) "UNPUBLISH=".toList = true := other (by decide)
  have notConnectTcp : ¬ strStartsWith (word ++ rest) "CONNECT_TCP=".toList = true :=
    other (by decide)
  have notOfferTcp : ¬ strStartsWith (word ++ rest) "OFFER_TCP=".toList = true := other (by decide)
  have unseparated : ∀ word', word' = "CONNECT_SHM".toList ∨ word' = "OFFER_SHM".toList →
      strStartsWith (word ++ rest) (word' ++ ['=']) ≠ true := by
    intro word' isWord' separated
    by_cases same : word' = word
    · subst same
      obtain ⟨later, whole⟩ := strStartsWith_iff.mp separated
      rw [List.append_assoc] at whole
      have rest' := List.append_cancel_left whole
      exact noSeparator (by rw [← rest']; rfl)
    · rw [strStartsWith_eq_false starts (by
        rcases isWord with rfl | rfl
        · rcases isWord' with rfl | rfl
          · exact absurd rfl same
          · decide
        · rcases isWord' with rfl | rfl
          · decide
          · exact absurd rfl same)] at separated
      cases separated
  have notConnect : strStartsWith (word ++ rest) "CONNECT_SHM=".toList ≠ true :=
    unseparated "CONNECT_SHM".toList (.inl rfl)
  have notOffer : strStartsWith (word ++ rest) "OFFER_SHM=".toList ≠ true :=
    unseparated "OFFER_SHM".toList (.inr rfl)
  unfold digestMessage
  rw [if_neg notPublish, if_neg notUnpublish, if_neg notConnectTcp, if_neg notConnect,
    if_neg notOfferTcp, if_neg notOffer]
  rfl

theorem digest_connectShm {n : Node} {h : HostPtr} (rest : Str) :
    n.digestMessage h ("CONNECT_SHM".toList ++ '=' :: rest) = .ok (n.makeOfferShm h rest) := by
  have starts : strStartsWith ("CONNECT_SHM".toList ++ '=' :: rest) "CONNECT_SHM=".toList = true :=
    strStartsWith_append "CONNECT_SHM=".toList rest
  unfold digestMessage
  rw [if_neg (not_strStartsWith "PUBLISH=".toList starts (by decide)),
    if_neg (not_strStartsWith "UNPUBLISH=".toList starts (by decide)),
    if_neg (not_strStartsWith "CONNECT_TCP=".toList starts (by decide)), if_pos starts,
    strAfter_separator (by decide)]
  rfl

theorem digest_offerShm_separated {n : Node} {h : HostPtr} (rest : Str) :
    n.digestMessage h ("OFFER_SHM".toList ++ '=' :: rest) = n.answerOfferShm h rest := by
  have starts : strStartsWith ("OFFER_SHM".toList ++ '=' :: rest) "OFFER_SHM=".toList = true :=
    strStartsWith_append "OFFER_SHM=".toList rest
  unfold digestMessage
  rw [if_neg (not_strStartsWith "PUBLISH=".toList starts (by decide)),
    if_neg (not_strStartsWith "UNPUBLISH=".toList starts (by decide)),
    if_neg (not_strStartsWith "CONNECT_TCP=".toList starts (by decide)),
    if_neg (not_strStartsWith "CONNECT_SHM=".toList starts (by decide)),
    if_neg (not_strStartsWith "OFFER_TCP=".toList starts (by decide)), if_pos starts,
    strAfter_separator (by decide)]

/-- What `offer_shm` writes. -/
def offerShmText (name : Str) (size : UInt64) : Str :=
  "OFFER_SHM".toList ++ name ++ "|".toList ++ name ++ "|".toList ++ Nat.toDigits 10 size.toNat

theorem offerShmText_eq (name : Str) (size : UInt64) :
    ∃ rest, offerShmText name size = "OFFER_SHM".toList ++ (name ++ '|' :: rest) := by
  refine ⟨name ++ "|".toList ++ Nat.toDigits 10 size.toNat, ?_⟩
  unfold offerShmText
  generalize "OFFER_SHM".toList = word
  have bar : "|".toList = ['|'] := rfl
  simp only [bar, List.append_assoc, List.cons_append, List.nil_append]

/-- A publisher that is asked for channel `name` writes an offer of that channel. -/
theorem makeOfferShm_writes (n : Node) (h : HostPtr) (name : Str) :
    n.writes (n.makeOfferShm h name) = [] ∨
      ∃ size, n.writes (n.makeOfferShm h name) = [offerShmText name size] := by
  unfold makeOfferShm
  cases known : n.getChannel name with
  | none => exact .inl (writes_self n)
  | some c =>
      obtain ⟨_, named⟩ := getChannel_eq_some known
      let mid := n.setChan c fun channel => { channel with offeredShmPath := channel.name }
      have channel : (mid.chan c).name = name ∧ (mid.chan c).offeredShmPath = name := by
        rw [show mid.chan c = { n.chan c with offeredShmPath := (n.chan c).name } from
          n.setChan_self c _]
        exact ⟨named, named⟩
      have sent : (n.offerShm c h).mesh.sent = n.mesh.sent ++
          utter (n.mesh.voice h) (offerShmText name (mid.chan c).size) := by
        have offered : n.offerShm c h = mid.send h ("OFFER_SHM".toList ++ (mid.chan c).name ++
            "|".toList ++ (mid.chan c).offeredShmPath ++ "|".toList ++
            Nat.toDigits 10 (mid.chan c).size.toNat) := rfl
        rw [offered, channel.1, channel.2]
        change (n.mesh.send h _).sent = _
        rw [Mesh.send_eq]
        rfl
      rcases writes_utter sent with silent | spoken
      · exact .inl silent
      · exact .inr ⟨_, spoken⟩

theorem lineSafe_offerShmText {name : Str} (safe : LineSafe name) (size : UInt64) :
    LineSafe (offerShmText name size) := by
  have word : LineSafe "OFFER_SHM".toList := by decide
  have bar : LineSafe "|".toList := by decide
  have digits : LineSafe (Nat.toDigits 10 size.toNat) := by
    constructor
    · exact fun nul => absurd (isDigit_of_mem_toDigits nul) (by decide)
    · exact fun newline => absurd (isDigit_of_mem_toDigits newline) (by decide)
  exact ((((word.append safe).append bar).append safe).append bar).append digits

/-! ## The offer that never comes -/

/-- No offer of channel `c` has been answered on `n` since it was `a`. -/
def Unanswered (a : Node) (c : ChanPtr) (n : Node) : Prop :=
  ∃ more, n.log = a.log ++ more ∧ ∀ h shm, Call.offeredShm h c shm ∉ more

theorem Unanswered.refl (a : Node) (c : ChanPtr) : Unanswered a c a :=
  ⟨[], (List.append_nil a.log).symm, fun _ _ => List.not_mem_nil⟩

theorem Unanswered.record {a n n' : Node} {c : ChanPtr} {call : Call}
    (before : Unanswered a c n) (log : n'.log = n.log ++ [call])
    (other : ∀ h shm, call ≠ .offeredShm h c shm) : Unanswered a c n' := by
  obtain ⟨more, whole, none⟩ := before
  constructor
  constructor
  · rw [log, whole, List.append_assoc]
  · intro h shm member
    rcases List.mem_append.mp member with old | new
    · exact none h shm old
    · exact other h shm (List.mem_singleton.mp new).symm

theorem Unanswered.unsettled {a a' b' : Node} {c d : ChanPtr} (left : Unanswered a c a') :
    ¬ Negotiated a a' b' c d := by
  intro negotiated
  obtain ⟨more, whole, none⟩ := left
  obtain ⟨h, member⟩ := negotiated.answered
  rw [whole, List.drop_left] at member
  exact none h _ member

theorem connectShm_unanswered {a n n' : Node} {c d : ChanPtr} (before : Unanswered a c n)
    (ran : n.connectShm d = .ok n') : Unanswered a c n' := by
  have recorded : Unanswered a c (n.record (.connectShm d (n.chan d).publisher)) :=
    before.record rfl (fun _ _ => nofun)
  rcases connectShm_cases ran with ⟨_, p, _, rfl⟩ | ⟨_, mapped⟩
  · exact recorded
  · refine foldlM_invariant mapped recorded ?_
    intro mid t next _ same round
    obtain ⟨sub, _, ⟨_, rfl⟩ | ⟨_, rfl⟩⟩ := subConnectShm_cases round
    · exact same
    · exact same.record rfl (fun _ _ => nofun)

/-- An offer of another channel is no answer on this one. -/
theorem answerOfferShm_unanswered {a n n' : Node} {h : HostPtr} {t : Str} {c : ChanPtr}
    (before : Unanswered a c n) (other : (n.chan c).name ≠ strBefore t ['|'])
    (ran : n.answerOfferShm h t = .ok n') : Unanswered a c n' := by
  unfold answerOfferShm at ran
  dsimp only at ran
  split at ran
  · next d known =>
    obtain ⟨_, named⟩ := getChannel_eq_some known
    have different : d ≠ c := by
      rintro rfl
      exact other named
    have recorded : Unanswered a c
        (n.record (.offeredShm h d (decodeShm (strAfter t ['|'])))) := by
      refine before.record rfl ?_
      intro h' shm same
      cases same
      exact different rfl
    exact connectShm_unanswered (n := (n.record _).setChan d _) recorded ran
  · rw [← pure_eq_ok.mp ran]
    exact before

/-- A request is read as nothing, or as one for what follows a `=` in the name. -/
theorem request_heard {b b' : Node} {q : HostPtr} {name : Str} (safe : LineSafe name)
    (heard : deliver q b ("CONNECT_SHM".toList ++ name) = .ok b') :
    b' = b ∨ ∃ rest, name = '=' :: rest ∧ b' = b.makeOfferShm q rest := by
  have word : LineSafe "CONNECT_SHM".toList := by decide
  have nonempty : "CONNECT_SHM".toList ++ name ≠ [] :=
    List.append_ne_nil_of_left_ne_nil (by decide) name
  rw [deliver_lineSafe nonempty (word.append safe)] at heard
  by_cases separated : name.head? = some '='
  · obtain ⟨rest, whole⟩ := List.head?_eq_some_iff.mp separated
    rw [whole, digest_connectShm, Except.ok.injEq] at heard
    exact .inr ⟨rest, whole, heard.symm⟩
  · rw [digest_ignores (.inl rfl) separated, Except.ok.injEq] at heard
    exact .inl heard.symm

/-- An offer of `rest` is not answered on a channel with a longer name. -/
theorem offer_unanswered {a n n' : Node} {p : HostPtr} {c : ChanPtr} {rest : Str} {size : UInt64}
    (before : Unanswered a c n) (safe : LineSafe rest) (noBar : '|' ∉ rest)
    (name : rest.length < (n.chan c).name.length)
    (answered : deliver p n (offerShmText rest size) = .ok n') : Unanswered a c n' := by
  obtain ⟨tail, text⟩ := offerShmText_eq rest size
  have nonempty : "OFFER_SHM".toList ++ (rest ++ '|' :: tail) ≠ [] :=
    List.append_ne_nil_of_left_ne_nil (by decide) _
  have clean : LineSafe ("OFFER_SHM".toList ++ (rest ++ '|' :: tail)) :=
    text ▸ lineSafe_offerShmText safe size
  rw [text, deliver_lineSafe nonempty clean] at answered
  by_cases separated : (rest ++ '|' :: tail).head? = some '='
  · obtain ⟨others, whole⟩ : ∃ others, rest = '=' :: others := by
      cases rest with
      | nil => cases separated
      | cons first others =>
          cases separated
          exact ⟨others, rfl⟩
    subst whole
    rw [List.cons_append, digest_offerShm_separated] at answered
    refine answerOfferShm_unanswered before ?_ answered
    rw [strBefore_separator fun member => noBar (List.mem_cons_of_mem _ member)]
    intro same
    rw [same, List.length_cons] at name
    omega
  · rw [digest_ignores (.inr rfl) separated, Except.ok.injEq] at answered
    rw [← answered]
    exact before

theorem negotiate_unanswered {a b a' b' : Node} {c : ChanPtr} {p q : HostPtr}
    (published : (a.chan c).publisher = some p) (unasked : (a.chan c).offeredShmPath = [])
    (safe : LineSafe (a.chan c).name) (noBar : '|' ∉ (a.chan c).name)
    (ran : negotiate a b c p q = .ok (a', b')) : Unanswered a c a' := by
  obtain ⟨asked, requested, ran⟩ := bind_eq_ok.mp ran
  obtain ⟨mid, heard, ran⟩ := bind_eq_ok.mp ran
  obtain ⟨last, answered, ran⟩ := bind_eq_ok.mp ran
  cases pure_eq_ok.mp ran
  have before : Unanswered a c asked := connectShm_unanswered (Unanswered.refl a c) requested
  have request : asked = (a.record (.connectShm c (a.chan c).publisher)).send p
      ("CONNECT_SHM".toList ++ (a.chan c).name) := by
    rcases connectShm_cases requested with ⟨_, p', published', result⟩ | ⟨offered, _⟩
    · rw [published, Option.some.injEq] at published'
      rw [published']
      exact result
    · exact absurd unasked offered
  have chan : asked.chan = a.chan := by
    rw [request]
    rfl
  have sent : asked.mesh.sent = a.mesh.sent ++
      utter (a.mesh.voice p) ("CONNECT_SHM".toList ++ (a.chan c).name) := by
    rw [request]
    change (a.mesh.send p _).sent = _
    rw [Mesh.send_eq]
  -- where the publisher writes nothing, there is nothing to answer
  have quiet : b.writes b' = [] → Unanswered a c a' := by
    intro silent
    rw [silent, List.foldlM_nil, pure_eq_ok] at answered
    rw [← answered]
    exact before
  rcases writes_utter sent with silent | spoken
  · rw [silent, List.foldlM_nil, pure_eq_ok] at heard
    rw [← heard] at quiet
    exact quiet (writes_self b)
  · rw [spoken, List.foldlM_cons] at heard
    simp only [List.foldlM_nil, bind_pure] at heard
    rcases request_heard safe heard with rfl | ⟨rest, name, rfl⟩
    · exact quiet (writes_self b')
    · rcases makeOfferShm_writes b q rest with silent | ⟨size, offer⟩
      · exact quiet silent
      · rw [offer, List.foldlM_cons] at answered
        simp only [List.foldlM_nil, bind_pure] at answered
        rw [name] at safe noBar
        have restSafe : LineSafe rest :=
          ⟨fun nul => safe.1 (List.mem_cons_of_mem _ nul),
            fun newline => safe.2 (List.mem_cons_of_mem _ newline)⟩
        have shorter : rest.length < (asked.chan c).name.length := by
          rw [chan, name]
          exact Nat.lt_succ_self _
        exact offer_unanswered before restSafe
          (fun bar => noBar (List.mem_cons_of_mem _ bar)) shorter answered

/-- The negotiation never completes: whatever the name, the size and the states of the
two nodes, an offer of the channel is not answered on the channel that asked for it. -/
theorem not_negotiated {a b : Node} {c d : ChanPtr} {p q : HostPtr}
    (published : (a.chan c).publisher = some p) (unasked : (a.chan c).offeredShmPath = [])
    (safe : LineSafe (a.chan c).name) (noBar : '|' ∉ (a.chan c).name) :
    ¬ ∃ a' b', negotiate a b c p q = .ok (a', b') ∧ Negotiated a a' b' c d := by
  rintro ⟨a', b', ran, negotiated⟩
  exact (negotiate_unanswered published unasked safe noBar ran).unsettled negotiated

/-- The run of a subscriber on the machine of its publisher, up to the subscription. -/
private def subscriber : List Input :=
  [.accepted "10.0.0.1".toList 40000 0, .line 0 "ID=2|PORT=10001".toList,
    .line 0 "YOU=10.0.0.1".toList, .line 0 "CONNECTED".toList,
    .line 0 "PUBLISH=Pc|10.0.0.1:10001".toList]

/-- The run of the publisher, up to the publication. -/
private def publisher : List Input :=
  [.addHost "10.0.0.1".toList 10000, .connected 0 0, .line 0 "ID=1|PORT=10000".toList,
    .line 0 "YOU=10.0.0.1".toList, .line 0 "CONNECTED".toList]

/-- What the two runs end in. -/
private structure Colocated (a b : Node) : Prop where
  subscribing : Reaches Step (init 1 10000 firstPort) a
  publishing : Reaches Step (init 2 10001 firstPort) b
  named : (a.chan 0).name = ['c']
  publisher : (a.chan 0).publisher = some 1
  isLocal : a.mesh.isLocal 1 = true
  waiting : (a.chan 0).subscriptions = [0]
  unasked : (a.chan 0).offeredShmPath = []
  known : b.getChannel ['c'] = some 0
  published : (b.chan 0).publisher = some b.mesh.me

private theorem colocated : ∃ a b, Colocated a b := by
  have subscribes : replay react (fun _ _ => true) (fun _ a => (a.chan 0).name = ['c'] ∧
        (a.chan 0).publisher = some 1 ∧ a.mesh.isLocal 1 = true ∧
        (a.chan 0).subscriptions = [0] ∧ (a.chan 0).offeredShmPath = [])
      (.subscribe ['c']) (init 1 10000 firstPort) subscriber = true := by decide
  have publishes : replay react (fun _ _ => true) (fun _ b =>
        b.getChannel ['c'] = some 0 ∧ (b.chan 0).publisher = some b.mesh.me)
      (.publish ['c']) (init 2 10001 firstPort) publisher = true := by decide
  obtain ⟨_, a, allowed, checked⟩ := replay_run subscribes
  obtain ⟨_, b, allowed', checked'⟩ := replay_run publishes
  obtain ⟨named, published, isLocal, waiting, unasked⟩ := of_decide_eq_true checked
  obtain ⟨known, here⟩ := of_decide_eq_true checked'
  exact ⟨a, b, ⟨_, allowed.of_under, final_concat _ _ _⟩,
    ⟨_, allowed'.of_under, final_concat _ _ _⟩, named, published, isLocal, waiting, unasked,
    known, here⟩

theorem colocated_not_negotiated : ∃ a b, (a.chan 0).publisher = some 1 ∧
    a.mesh.isLocal 1 = true ∧ (a.chan 0).subscriptions = [0] ∧
    (b.chan 0).publisher = some b.mesh.me ∧
    ¬ ∃ a' b', negotiate a b 0 1 1 = .ok (a', b') ∧ Negotiated a a' b' 0 0 := by
  obtain ⟨a, b, run⟩ := colocated
  refine ⟨a, b, run.publisher, run.isLocal, run.waiting, run.published, ?_⟩
  refine not_negotiated run.publisher run.unasked ?_ ?_
  · rw [run.named]
    decide
  · rw [run.named]
    decide

/-- The request `CONNECT_SHMc` of a subscriber is not understood by its publisher. -/
theorem not_always_negotiated :
    ¬ ∀ (ID ID' port port' : Int32) (bindPort bindPort' : ChanPtr → DataPort) (a b : Node)
        (c d : ChanPtr) (p q : HostPtr),
      Reaches Step (init ID port bindPort) a → Reaches Step (init ID' port' bindPort') b →
        LineSafe (a.chan c).name → '|' ∉ (a.chan c).name →
          (a.chan c).publisher = some p → a.mesh.isLocal p = true →
            (a.chan c).subscriptions ≠ [] → (a.chan c).offeredShmPath = [] →
              b.getChannel (a.chan c).name = some d → (b.chan d).publisher = some b.mesh.me →
                ∃ a' b', negotiate a b c p q = .ok (a', b') ∧ Negotiated a a' b' c d := by
  intro law
  obtain ⟨a, b, run⟩ := colocated
  have safe : LineSafe (a.chan 0).name := by
    rw [run.named]
    decide
  have noBar : '|' ∉ (a.chan 0).name := by
    rw [run.named]
    decide
  have waiting : (a.chan 0).subscriptions ≠ [] := by
    rw [run.waiting]
    decide
  obtain ⟨a', b', ran, negotiated⟩ := law _ _ _ _ _ _ a b 0 0 1 1 run.subscribing run.publishing
    safe noBar run.publisher run.isLocal waiting run.unasked (run.named ▸ run.known) run.published
  exact (negotiate_unanswered run.publisher run.unasked safe noBar ran).unsettled negotiated

end Node

end LibPubSub
