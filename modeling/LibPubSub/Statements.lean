import LibPubSub.HostTable
import LibPubSub.Robustness

/-! Lines that are no well-formed statements. The string helpers return the whole
string when a separator is missing and `atoi` reads a prefix, so such a line is
handled like a statement; `Harmless` says when it changes nothing. -/

set_option autoImplicit false

namespace LibPubSub

open Fallible Transition

namespace Node

/-- A decimal number between 1 and 65535. -/
def DecimalPort (t : Str) : Prop :=
  t ≠ [] ∧ (∀ c ∈ t, c.isDigit = true) ∧ 1 ≤ leadingDigits t ∧ leadingDigits t ≤ 65535

instance (t : Str) : Decidable (DecimalPort t) :=
  inferInstanceAs (Decidable (_ ∧ _ ∧ _ ∧ _))

/-- What `Host::on_receive` and `digest_message` compare a line with the start of. -/
def prefixes : List Str :=
  ["ID=".toList, "YOU=".toList, "Host=".toList, "PUBLISH=".toList, "UNPUBLISH=".toList,
    "CONNECT_TCP=".toList, "CONNECT_SHM=".toList, "OFFER_TCP=".toList, "OFFER_SHM=".toList]

/-- The lines that are no well-formed statements. -/
inductive Malformed (s : Str) : Prop where
  | publish (starts : strStartsWith s "PUBLISH=".toList = true)
      (bad : (∀ type ∈ (strAfter s ['=']).head?, type ∉ ['P', 'A', 'S', 'R', 'N']) ∨
        '|' ∉ (strAfter s ['=']).drop 1)
  | unpublish (starts : strStartsWith s "UNPUBLISH=".toList = true)
      (bad : '|' ∉ strAfter s ['='])
  | offerTcp (starts : strStartsWith s "OFFER_TCP=".toList = true)
      (bad : '|' ∉ strAfter s ['='] ∨ ¬ DecimalPort (strAfter (strAfter s ['=']) ['|']))
  | host (starts : strStartsWith s "Host=".toList = true)
      (bad : ':' ∉ strAfter s ['='] ∨ ¬ DecimalPort (strAfter (strAfter s ['=']) [':']))
  | unknown (other : ∀ start ∈ prefixes, strStartsWith s start = false)
      (notConnected : s ≠ "CONNECTED".toList)

/-- The registry, the publishers and the offers of the channels, and the table of
hosts are the same. -/
structure Unchanged (n n' : Node) : Prop where
  registry : n'.chan.next = n.chan.next
  channels : ∀ c, (n'.chan c).core = (n.chan c).core
  hosts : n'.mesh.hosts = n.mesh.hosts
  entries : ∀ h ∈ n.mesh.hosts, n'.mesh.host h = n.mesh.host h

/-- Host `h` says line `s`, the line is handled and nothing has changed. -/
def ChangesNothing (n : Node) (h : HostPtr) (s : Str) : Prop :=
  ∃ n', n.onReceive h s = .ok n' ∧ Unchanged n n'

/-- `setPublisher(p)` finds channel `c` as it leaves it. -/
def AlreadySet (n : Node) (c : ChanPtr) (p : Option HostPtr) : Prop :=
  (n.chan c).publisher = p ∧ (n.chan c).offeredPort = 0

/-- When a line of Host `h` that reaches these handlers changes nothing. -/
structure Harmless (n : Node) (h : HostPtr) (s : Str) : Prop where
  publish : strStartsWith s "PUBLISH=".toList = true →
    strAfter s ['='] ≠ [] ∧ ∃ c, n.statedChannel (strAfter s ['=']) = some c ∧
      ((strAfter s ['=']).head? = some 'P' → AlreadySet n c (some h)) ∧
      ((strAfter s ['=']).head? = some 'A' ∨ (strAfter s ['=']).head? = some 'S' →
        (n.chan c).publisher = none →
          n.namedHost (strAfter (strAfter s ['=']) ['|']) = none ∧ (n.chan c).offeredPort = 0)
  unpublish : strStartsWith s "UNPUBLISH=".toList = true →
    strAfter s ['='] ≠ [] ∧ ∀ c, n.statedChannel (strAfter s ['=']) = some c → AlreadySet n c none
  offerTcp : strStartsWith s "OFFER_TCP=".toList = true →
    ∀ c, n.getChannel (strBefore (strAfter s ['=']) ['|']) = some c →
      (n.chan c).offeredPort = atoi (strAfter (strAfter s ['=']) ['|']) ∧
      ((n.chan c).publisher.isSome ∨ ((n.chan c).offeredPort ≠ 0 ∧
        ∀ t ∈ (n.chan c).subscriptions, ∀ sub, n.sub t = some sub → sub.bConnected = true))
  host : strStartsWith s "Host=".toList = true →
    n.mesh.hasHost (strBefore (strAfter s ['=']) [':']) (atoi (strAfter (strAfter s ['=']) [':'])) =
      true

/-! ## Nothing changes -/

namespace Unchanged

theorem refl (n : Node) : Unchanged n n :=
  ⟨rfl, fun _ => rfl, rfl, fun _ _ => rfl⟩

theorem of_core {n n' : Node} (next : n'.chan.next = n.chan.next)
    (core : ∀ c, (n'.chan c).core = (n.chan c).core) (table : n'.mesh.table = n.mesh.table) :
    Unchanged n n' := by
  have host := Mesh.host_of_table table
  refine ⟨next, core, ?_, fun h _ => by rw [host]⟩
  rw [Mesh.hosts, Mesh.hosts, Mesh.me_of_table table, Mesh.peers_of_table table]

end Unchanged

/-- A call of `setPublisher` changes nothing exactly if the channel is set already. -/
theorem setPublisher_unchanged_iff {n : Node} {c : ChanPtr} {p : Option HostPtr}
    (populated : Populated n) :
    (∃ n', n.setPublisher c p = .ok n' ∧ Unchanged n n') ↔ AlreadySet n c p := by
  constructor
  · rintro ⟨n', ran, unchanged⟩
    have core := (setPublisher_spec ran).core c
    rw [if_pos rfl, unchanged.channels c] at core
    exact ⟨congrArg ChannelImpl.publisher core, congrArg ChannelImpl.offeredPort core⟩
  · rintro ⟨published, unoffered⟩
    obtain ⟨n', ran⟩ := (setPublisher_ok_iff (p := p) populated).mpr
      fun breaks => breaks.2.1 published
    have set := setPublisher_spec ran
    refine ⟨n', ran, .of_core set.chanNext ?_ set.table⟩
    intro d
    rw [set.core d]
    split
    · next same =>
      subst same
      subst published
      have same : (n.chan d).core.offeredPort = 0 := unoffered
      rw [← same]
      rfl
    · rfl

/-- A channel that was created stays. -/
theorem not_unchanged_of_created {n mid n' : Node} {name : Str} {c : ChanPtr}
    (created : Created n mid name c) (unknown : n.getChannel name = none)
    (grown : mid.chan.next ≤ n'.chan.next) : ¬ Unchanged n n' := by
  intro unchanged
  have fresh : n.chan.next ≤ c := by
    by_contra old
    obtain ⟨found, _⟩ := created.found (Nat.lt_of_not_le old)
    rw [unknown] at found
    cases found
  rw [unchanged.registry] at grown
  exact Nat.lt_irrefl _ (Nat.lt_of_lt_of_le created.known (Nat.le_trans grown fresh))

theorem applyPublishStatement_unchanged_iff {n : Node} {h : HostPtr} {t : Str}
    (populated : Populated n) :
    (∃ n', n.applyPublishStatement h t = .ok n' ∧ Unchanged n n') ↔
      t ≠ [] ∧ ∃ c, n.statedChannel t = some c ∧
        (t.head? = some 'P' → AlreadySet n c (some h)) ∧
        (t.head? = some 'A' ∨ t.head? = some 'S' → (n.chan c).publisher = none →
          n.namedHost (strAfter t ['|']) = none ∧ (n.chan c).offeredPort = 0) := by
  cases t with
  | nil =>
      refine iff_of_false ?_ fun able => able.1 rfl
      rintro ⟨n', ran, _⟩
      cases ran
  | cons type rest =>
      have stated : n.statedChannel (type :: rest) = n.getChannel (strBefore rest ['|']) := rfl
      rw [stated]
      simp only [List.head?_cons, Option.some.injEq, ne_eq, reduceCtorEq, not_false_eq_true,
        true_and]
      cases known : n.getChannel (strBefore rest ['|']) with
      | none =>
          refine iff_of_false ?_ fun ⟨c, found, _⟩ => nomatch found
          rintro ⟨n', ran, unchanged⟩
          obtain ⟨name, named, mid, c, _, created, set⟩ := applyPublishStatement_cases ran
          rw [statementName_cons, Except.ok.injEq] at named
          subst named
          refine not_unchanged_of_created created known ?_ unchanged
          rcases set with ⟨_, set⟩ | ⟨_, rfl | ⟨_, _, set⟩⟩
          · exact Nat.le_of_eq (setPublisher_spec set).chanNext.symm
          · exact Nat.le_refl _
          · exact Nat.le_of_eq (setPublisher_spec set).chanNext.symm
      | some c =>
          have body : n.applyPublishStatement h (type :: rest) =
              if type = 'P' then n.setPublisher c (some h)
              else if type = 'A' ∨ type = 'S' then
                if (n.chan c).publisher.isSome then .ok n
                else n.setPublisher c (n.namedHost (strAfter (type :: rest) ['|']))
              else .ok n := by
            unfold applyPublishStatement
            rw [statementName_cons]
            dsimp only [bind, Except.bind, List.headD_cons]
            rw [getOrCreateChannel_found known]
            rfl
          simp only [Option.some.injEq, exists_eq_left']
          rw [body]
          split
          · next isP =>
            rw [setPublisher_unchanged_iff populated]
            subst isP
            constructor
            · exact fun already => ⟨fun _ => already, fun impossible => absurd impossible (by decide)⟩
            · exact fun able => able.1 rfl
          · next notP =>
            split
            · next isAS =>
              split
              · next published =>
                refine iff_of_true ⟨n, rfl, .refl n⟩ ⟨fun isP => absurd isP notP, ?_⟩
                intro _ unpublished
                rw [unpublished] at published
                cases published
              · next unpublished =>
                have nobody : (n.chan c).publisher = none := by simpa using unpublished
                rw [setPublisher_unchanged_iff populated, AlreadySet, nobody]
                constructor
                · exact fun already => ⟨fun isP => absurd isP notP, fun _ _ =>
                    ⟨already.1.symm, already.2⟩⟩
                · intro able
                  obtain ⟨unnamed, unoffered⟩ := able.2 isAS rfl
                  exact ⟨unnamed.symm, unoffered⟩
            · next notAS =>
              refine iff_of_true ⟨n, rfl, .refl n⟩ ⟨fun isP => absurd isP notP, ?_⟩
              exact fun isAS => absurd isAS notAS

theorem applyUnpublishStatement_unchanged_iff {n : Node} {h : HostPtr} {t : Str}
    (populated : Populated n) :
    (∃ n', n.applyUnpublishStatement h t = .ok n' ∧ Unchanged n n') ↔
      t ≠ [] ∧ ∀ c, n.statedChannel t = some c → AlreadySet n c none := by
  cases t with
  | nil =>
      refine iff_of_false ?_ fun able => able.1 rfl
      rintro ⟨n', ran, _⟩
      cases ran
  | cons type rest =>
      have stated : n.statedChannel (type :: rest) = n.getChannel (strBefore rest ['|']) := rfl
      rw [stated]
      unfold applyUnpublishStatement
      rw [statementName_cons]
      dsimp only [bind, Except.bind]
      cases known : n.getChannel (strBefore rest ['|']) with
      | none => exact iff_of_true ⟨n, rfl, .refl n⟩ ⟨List.cons_ne_nil _ _, fun c => nofun⟩
      | some d =>
          dsimp only
          rw [setPublisher_unchanged_iff populated]
          constructor
          · intro already
            refine ⟨List.cons_ne_nil _ _, fun c same => ?_⟩
            rwa [← Option.some.inj same]
          · exact fun able => able.2 d rfl

theorem answerOfferTcp_unchanged_iff {n : Node} {h : HostPtr} {t : Str} (populated : Populated n) :
    (∃ n', n.answerOfferTcp h t = .ok n' ∧ Unchanged n n') ↔
      ∀ c, n.getChannel (strBefore t ['|']) = some c →
        (n.chan c).offeredPort = atoi (strAfter t ['|']) ∧
        ((n.chan c).publisher.isSome ∨ ((n.chan c).offeredPort ≠ 0 ∧
          ∀ s ∈ (n.chan c).subscriptions, ∀ sub, n.sub s = some sub → sub.bConnected = true)) := by
  have returns := answerOfferTcp_ok_iff (h := h) (t := t) populated
  -- what an answered offer leaves of channel `c`
  have answered : ∀ c, n.getChannel (strBefore t ['|']) = some c → ∀ n',
      n.answerOfferTcp h t = .ok n' → n'.chan = (n.setChan c fun channel =>
        { channel with offeredPort := atoi (strAfter t ['|']) }).chan ∧
        n'.mesh.table = n.mesh.table := by
    intro c known n' ran
    unfold answerOfferTcp at ran
    dsimp only at ran
    rw [known] at ran
    have connecting := connectTcp_connecting ran
    exact ⟨connecting.chan, connecting.table⟩
  constructor
  · rintro ⟨n', ran, unchanged⟩ c known
    have able := returns.mp ⟨n', ran⟩ c known
    obtain ⟨chan, _⟩ := answered c known n' ran
    have core := unchanged.channels c
    rw [chan, setChan_self] at core
    have offered : atoi (strAfter t ['|']) = (n.chan c).offeredPort :=
      congrArg ChannelImpl.offeredPort core
    rw [offered] at able
    exact ⟨offered.symm, able⟩
  · intro able
    obtain ⟨n', ran⟩ := returns.mpr fun c known => by
      obtain ⟨offered, able⟩ := able c known
      rwa [← offered]
    refine ⟨n', ran, ?_⟩
    cases known : n.getChannel (strBefore t ['|']) with
    | none =>
        unfold answerOfferTcp at ran
        dsimp only at ran
        rw [known] at ran
        exact pure_eq_ok.mp ran ▸ .refl n
    | some c =>
        obtain ⟨chan, table⟩ := answered c known n' ran
        refine .of_core (by rw [chan]; rfl) ?_ table
        intro d
        rw [chan]
        by_cases isC : d = c
        · subst isC
          rw [setChan_self, ← (able d known).1]
        · rw [setChan_of_ne _ _ isC]

theorem receiveHost_unchanged_iff {n : Node} {s : Str} :
    Unchanged n { n with mesh := receiveHost n.mesh s } ↔
      n.mesh.hasHost (strBefore (strAfter s ['=']) [':'])
        (atoi (strAfter (strAfter s ['=']) [':'])) = true := by
  unfold receiveHost
  dsimp only
  rcases n.mesh.addHost_table (strBefore (strAfter s ['=']) [':'])
    (atoi (strAfter (strAfter s ['=']) [':'])) with ⟨known, same⟩ | ⟨unknown, grown⟩
  · rw [same]
    exact iff_of_true (.refl n) known
  · refine iff_of_false (fun unchanged => ?_) (by rw [unknown]; exact Bool.false_ne_true)
    have hosts := unchanged.hosts
    rw [Grown.hosts grown] at hosts
    have lengths := congrArg List.length hosts
    rw [List.length_append, List.length_singleton] at lengths
    omega

/-- In every reachable state, a line of a ready Host that is no well-formed statement is
handled without changing the registry, a publisher, an offer or the table of
hosts exactly if it is harmless. -/
theorem changesNothing_iff_harmless {ID port : Int32} {bindPort : ChanPtr → DataPort} {n : Node}
    (reached : Reaches Step (init ID port bindPort) n) {h : HostPtr}
    (ready : (n.mesh.host h).bReady = true) {s : Str} (malformed : Malformed s) :
    ChangesNothing n h s ↔ Harmless n h s := by
  have populated := populated_of_reaches reached
  unfold ChangesNothing
  cases malformed with
  | publish starts _ =>
      rw [onReceive_statement ready starts (by decide) (by decide), digest_publish starts,
        applyPublishStatement_unchanged_iff populated]
      refine ⟨fun able => ⟨fun _ => able, ?_, ?_, ?_⟩, fun harmless => harmless.publish starts⟩
      all_goals
        intro other
        rw [strStartsWith_eq_false starts (by decide)] at other
        cases other
  | unpublish starts _ =>
      rw [onReceive_statement ready starts (by decide) (by decide), digest_unpublish starts,
        applyUnpublishStatement_unchanged_iff populated]
      refine ⟨fun able => ⟨?_, fun _ => able, ?_, ?_⟩, fun harmless => harmless.unpublish starts⟩
      all_goals
        intro other
        rw [strStartsWith_eq_false starts (by decide)] at other
        cases other
  | offerTcp starts _ =>
      rw [onReceive_statement ready starts (by decide) (by decide), digest_offerTcp starts,
        answerOfferTcp_unchanged_iff populated]
      refine ⟨fun able => ⟨?_, ?_, fun _ => able, ?_⟩, fun harmless => harmless.offerTcp starts⟩
      all_goals
        intro other
        rw [strStartsWith_eq_false starts (by decide)] at other
        cases other
  | host starts _ =>
      have handled : n.onReceive h s = .ok { n with mesh := receiveHost n.mesh s } := by
        have notId : strStartsWith s "ID=".toList = false :=
          strStartsWith_eq_false starts (by decide)
        have notYou : strStartsWith s "YOU=".toList = false :=
          strStartsWith_eq_false starts (by decide)
        have notConnected : s ≠ "CONNECTED".toList := by
          rintro rfl
          exact absurd starts (by decide)
        rw [onReceive, notId, notYou, if_neg Bool.false_ne_true, if_neg Bool.false_ne_true,
          if_neg notConnected, ready, if_neg (by decide), if_pos starts]
        rfl
      rw [handled]
      simp only [Except.ok.injEq, exists_eq_left']
      rw [receiveHost_unchanged_iff]
      refine ⟨fun known => ⟨?_, ?_, ?_, fun _ => known⟩, fun harmless => harmless.host starts⟩
      all_goals
        intro other
        rw [strStartsWith_eq_false starts (by decide)] at other
        cases other
  | unknown other notConnected =>
      have apart : ∀ start ∈ prefixes, strStartsWith s start ≠ true := fun start member => by
        rw [other start member]
        exact Bool.false_ne_true
      have ignored : n.onReceive h s = .ok n := by
        rw [onReceive, if_neg (apart _ (by simp [prefixes])), if_neg (apart _ (by simp [prefixes])),
          if_neg notConnected, ready, if_neg (by decide), if_neg (apart _ (by simp [prefixes])),
          digestMessage, if_neg (apart _ (by simp [prefixes])),
          if_neg (apart _ (by simp [prefixes])), if_neg (apart _ (by simp [prefixes])),
          if_neg (apart _ (by simp [prefixes])), if_neg (apart _ (by simp [prefixes])),
          if_neg (apart _ (by simp [prefixes]))]
        rfl
      refine iff_of_true ⟨n, ignored, .refl n⟩ ⟨?_, ?_, ?_, ?_⟩
      all_goals
        intro starts
        exact absurd starts (apart _ (by simp [prefixes]))

/-- An `UNPUBLISH=` without separator for a channel that is not known. -/
theorem unpublish_changesNothing : ∃ n, Reaches Step (init 1 10000 firstPort) n ∧
    Malformed "UNPUBLISH=Nc".toList ∧ ChangesNothing n 1 "UNPUBLISH=Nc".toList := by
  have replayed : replay react (fun _ _ => true) (fun _ n =>
        (n.mesh.host 1).bReady = true ∧ n.getChannel ['c'] = none)
      (.line 0 "CONNECTED".toList) (init 1 10000 firstPort)
      [.accepted "10.0.0.2".toList 40000 0, .line 0 "ID=2|PORT=10000".toList] = true := by decide
  obtain ⟨trace, n, allowed, checked⟩ := replay_run replayed
  obtain ⟨ready, unknown⟩ := of_decide_eq_true checked
  have reached : Reaches Step (init 1 10000 firstPort) n :=
    ⟨_, allowed.of_under, final_concat _ _ _⟩
  have malformed : Malformed "UNPUBLISH=Nc".toList := .unpublish (by decide) (by decide)
  have payload : strAfter "UNPUBLISH=Nc".toList ['='] = ['N', 'c'] := by decide
  refine ⟨n, reached, malformed, (changesNothing_iff_harmless reached ready malformed).mpr ?_⟩
  refine ⟨fun starts => absurd starts (by decide), fun _ => ?_,
    fun starts => absurd starts (by decide), fun starts => absurd starts (by decide)⟩
  rw [payload]
  refine ⟨by decide, fun c known => ?_⟩
  have name : strBefore (['N', 'c'].drop 1) ['|'] = ['c'] := by decide
  rw [statedChannel, name, unknown] at known
  cases known

/-- `PUBLISH=Pc` has no separator and makes its sender the publisher of a new channel. -/
theorem not_always_changesNothing :
    ¬ ∀ (ID port : Int32) (bindPort : ChanPtr → DataPort) (n : Node) (h : HostPtr) (s : Str),
      Reaches Step (init ID port bindPort) n → (n.mesh.host h).bReady = true → Malformed s →
        ChangesNothing n h s := by
  intro law
  have replayed : replay react (fun _ _ => true) (fun _ n => (n.mesh.host 1).bReady = true ∧
        n.chan.next = 0 ∧
        (n.onReceive 1 "PUBLISH=Pc".toList).toOption.map (fun n' => n'.chan.next) = some 1)
      (.line 0 "CONNECTED".toList) (init 1 10000 firstPort)
      [.accepted "10.0.0.2".toList 40000 0, .line 0 "ID=2|PORT=10000".toList] = true := by decide
  obtain ⟨trace, n, allowed, checked⟩ := replay_run replayed
  obtain ⟨ready, before, after⟩ := of_decide_eq_true checked
  have reached : Reaches Step (init 1 10000 firstPort) n :=
    ⟨_, allowed.of_under, final_concat _ _ _⟩
  have malformed : Malformed "PUBLISH=Pc".toList := .publish (by decide) (.inr (by decide))
  obtain ⟨n', ran, unchanged⟩ := law _ _ _ n 1 "PUBLISH=Pc".toList reached ready malformed
  rw [ran] at after
  have grown : n'.chan.next = 1 := Option.some.inj after
  rw [unchanged.registry, before] at grown
  cases grown

end Node

end LibPubSub
