import LibPubSub.Segments
import LibPubSub.Serving

/-! Serving a channel without publishing it. Neither `make_offer_tcp` and `make_offer_shm`
nor the data server look at the publisher, so the law is about when they are asked. -/

set_option autoImplicit false

namespace LibPubSub

open Fallible Transition

/-! ## The texts of offers -/

/-- The message of `offer_tcp`. -/
def tcpOffer (name : Str) (port : Int32) : Str :=
  "OFFER_TCP=".toList ++ name ++ "|".toList ++ printInt port

/-- The message of `offer_shm`, whose path is the name of the channel. -/
def shmOffer (name : Str) (size : UInt64) : Str :=
  "OFFER_SHM".toList ++ name ++ "|".toList ++ name ++ "|".toList ++ Nat.toDigits 10 size.toNat

/-- What stands before and behind the last separator. -/
theorem split_last {front front' back back' : Str} (clean : '|' ∉ back) (clean' : '|' ∉ back')
    (same : front ++ "|".toList ++ back = front' ++ "|".toList ++ back') :
    front = front' ∧ back = back' := by
  have noBar {rest back : Str} {more : Str} (clean : '|' ∉ back)
      (same : "|".toList ++ back = rest ++ ("|".toList ++ more)) : rest = [] := by
    cases rest with
    | nil => rfl
    | cons first rest =>
        injection same with _ tail
        change back = rest ++ '|' :: more at tail
        apply absurd _ clean
        rw [tail]
        simp
  rw [List.append_assoc, List.append_assoc] at same
  cases List.append_eq_append_iff.mp same with
  | inl longer =>
      obtain ⟨rest, isFront, rest_back⟩ := longer
      have empty := noBar clean rest_back
      subst empty
      exact ⟨by simpa using isFront.symm, by simpa using rest_back⟩
  | inr shorter =>
      obtain ⟨rest, isFront, rest_back⟩ := shorter
      have empty := noBar clean' rest_back
      subst empty
      exact ⟨by simpa using isFront, by simpa using rest_back.symm⟩

theorem tcpOffer_injective {name name' : Str} {port port' : Int32}
    (same : tcpOffer name port = tcpOffer name' port') : name = name' := by
  have clean (port : Int32) : '|' ∉ printInt port := not_mem_printInt (by decide) (by decide)
  have fronts := (split_last (clean port) (clean port') same).1
  exact List.append_cancel_left fronts

theorem shmOffer_injective {name name' : Str} {size size' : UInt64}
    (same : shmOffer name size = shmOffer name' size') : name = name' := by
  have clean (size : UInt64) : '|' ∉ Nat.toDigits 10 size.toNat :=
    fun member => absurd (isDigit_of_mem_toDigits member) (by decide)
  have fronts := (split_last (clean size) (clean size') same).1
  rw [List.append_assoc, List.append_assoc, List.append_assoc, List.append_assoc] at fronts
  have doubled := List.append_cancel_left fronts
  have lengths := congrArg List.length doubled
  simp only [List.length_append] at lengths
  exact (List.append_inj doubled (by omega)).1

theorem tcpOffer_starts (name : Str) (port : Int32) :
    strStartsWith (tcpOffer name port) Word.offerTcp.text = true := by
  unfold tcpOffer
  rw [List.append_assoc, List.append_assoc]
  exact strStartsWith_append _ _

theorem shmOffer_starts (name : Str) (size : UInt64) :
    strStartsWith (shmOffer name size) Word.offerShm.text = true := by
  unfold shmOffer
  rw [List.append_assoc, List.append_assoc, List.append_assoc, List.append_assoc]
  exact strStartsWith_append _ _

theorem tcpOffer_ne_shmOffer (name name' : Str) (port : Int32) (size : UInt64) :
    tcpOffer name port ≠ shmOffer name' size := by
  intro same
  have starts := tcpOffer_starts name port
  rw [same] at starts
  have apart := strStartsWith_eq_false starts
    (show ¬ Word.offerTcp.text <+: Word.offerShm.text ∧
      ¬ Word.offerShm.text <+: Word.offerTcp.text by decide)
  rw [shmOffer_starts] at apart
  cases apart

namespace Node

/-! ## The law -/

/-- An `OFFER_TCP` or an `OFFER_SHM` for channel `c` was sent between two states. -/
def Offered (n n' : Node) (c : ChanPtr) : Prop :=
  ∃ text ∈ n.writes n', (∃ port, text = tcpOffer (n.chan c).name port) ∨
    ∃ size, text = shmOffer (n.chan c).name size

/-- Channel `c` has a new subscriptor. -/
def Joined (n n' : Node) (c : ChanPtr) : Prop :=
  ∃ s ∈ (n'.chan c).subscriptors, s ∉ (n.chan c).subscriptors

/-- Only a channel that this node publishes is offered or joined. -/
def ServesOwn (n n' : Node) : Prop :=
  ∀ c < n.chan.next, Offered n n' c ∨ Joined n n' c → (n.chan c).publisher = some n.mesh.me

/-- Requests that can be answered, and connections to a data server, come while this node
is the publisher of their channel. -/
structure AsksPublisher (n : Node) (input : Input) : Prop where
  requests : ∀ request h c, n.Asks request h c input → n.mesh.voice h ≠ none →
    (n.chan c).publisher = some n.mesh.me
  connections : ∀ c ip port conn, input = .dataAccepted c ip port conn → c < n.chan.next →
    (n.chan c).server ≠ none → (n.chan c).publisher = some n.mesh.me

/-- Subscriptors are objects that exist. -/
def Attended (n : Node) : Prop :=
  ∀ c, ∀ s ∈ (n.chan c).subscriptors, s < n.sub.next

/-! ## What is offered -/

variable {n n' : Node} {c d : ChanPtr} {h : HostPtr}

theorem KeepsServing.not_offered (kept : KeepsServing n n') : ¬ Offered n n' c := by
  intro ⟨text, written, isOffer⟩
  obtain ⟨added, sent, silent⟩ := kept.mute
  rw [writes, sent, List.drop_left] at written
  obtain ⟨entry, member, rfl⟩ := List.mem_map.mp written
  apply silent entry member
  cases isOffer with
  | inl tcp =>
      obtain ⟨port, same⟩ := tcp
      rw [same]
      exact .inl (tcpOffer_starts _ _)
  | inr shm =>
      obtain ⟨size, same⟩ := shm
      rw [same]
      exact .inr (shmOffer_starts _ _)

theorem KeepsServing.not_joined (kept : KeepsServing n n') : ¬ Joined n n' c :=
  fun ⟨s, member, new⟩ => new (kept.subscriptors c s member)

/-- Both offers write one text to the Host that asked. -/
theorem Request.offer_sent (request : Request) (n : Node) (c : ChanPtr) (h : HostPtr) :
    ∃ text, (request.offer n c h).mesh.sent = n.mesh.sent ++ utter (n.mesh.voice h) text ∧
      ((∃ port, text = tcpOffer (n.chan c).name port) ∨
        ∃ size, text = shmOffer (n.chan c).name size) := by
  cases request with
  | tcp =>
      let server := (n.chan c).server.getD ⟨n.bindPort c, h⟩
      let served := n.setChan c fun channel => { channel with server := some server }
      have name : (served.chan c).name = (n.chan c).name := by rw [setChan_self]
      refine ⟨tcpOffer (served.chan c).name server.port, ?_, .inl ⟨server.port, by rw [name]⟩⟩
      exact congrArg Mesh.sent (n.mesh.send_eq h _)
  | shm =>
      let shared := n.setChan c fun channel => { channel with offeredShmPath := channel.name }
      have name : (shared.chan c).name = (n.chan c).name := by rw [setChan_self]
      have path : (shared.chan c).offeredShmPath = (shared.chan c).name := by rw [setChan_self]
      refine ⟨shmOffer (shared.chan c).name (shared.chan c).size, ?_,
        .inr ⟨(shared.chan c).size, by rw [name]⟩⟩
      change (n.mesh.send h ("OFFER_SHM".toList ++ (shared.chan c).name ++ "|".toList ++
        (shared.chan c).offeredShmPath ++ "|".toList ++
        Nat.toDigits 10 (shared.chan c).size.toNat)).sent = _
      rw [path]
      exact congrArg Mesh.sent (n.mesh.send_eq h _)

theorem Request.offer_subscriptors (request : Request) (n : Node) (c d : ChanPtr) (h : HostPtr) :
    ((request.offer n c h).chan d).subscriptors = (n.chan d).subscriptors := by
  cases request <;>
  · simp only [Request.offer, offerTcp, offerShm, send, setChan, Heap.modify_apply]
    split
    · next same => rw [same]
    · rfl

theorem offered_of_offer (request : Request) (audible : n.mesh.voice h ≠ none) :
    Offered n (request.offer n c h) c := by
  obtain ⟨text, sent, isOffer⟩ := request.offer_sent n c h
  refine ⟨text, ?_, isOffer⟩
  obtain ⟨v, voice⟩ := Option.ne_none_iff_exists'.mp audible
  rw [writes, sent, List.drop_left, voice]
  exact List.mem_singleton_self text

/-- Only the channel that was asked for is offered, and only where somebody listens. -/
theorem offer_offered {request : Request} (named : Named n) (known : c < n.chan.next)
    (known' : d < n.chan.next) (offered : Offered n (request.offer n d h) c) :
    c = d ∧ n.mesh.voice h ≠ none := by
  obtain ⟨text, sent, isOffer⟩ := request.offer_sent n d h
  obtain ⟨other, written, isOther⟩ := offered
  rw [writes, sent, List.drop_left] at written
  obtain ⟨entry, member, rfl⟩ := List.mem_map.mp written
  obtain ⟨v, voice, rfl⟩ := List.mem_map.mp member
  have audible : n.mesh.voice h ≠ none := by
    rw [Option.mem_toList.mp voice]
    exact Option.some_ne_none v
  refine ⟨named.unique c known d known' ?_, audible⟩
  rcases isOffer with ⟨port, rfl⟩ | ⟨size, rfl⟩
  · rcases isOther with ⟨port', same⟩ | ⟨size', same⟩
    · exact (tcpOffer_injective same).symm
    · exact absurd same (tcpOffer_ne_shmOffer _ _ _ _)
  · rcases isOther with ⟨port', same⟩ | ⟨size', same⟩
    · exact absurd same.symm (tcpOffer_ne_shmOffer _ _ _ _)
    · exact (shmOffer_injective same).symm

/-! ## Who joins -/

theorem acceptSubscriptor_subscriptors {ip : Str} {port : Int32} {conn : ConnId}
    (isOpen : (n.chan c).server ≠ none) (d : ChanPtr) :
    ((n.acceptSubscriptor c ip port conn).chan d).subscriptors =
      if d = c then (n.chan d).subscriptors ++ [n.sub.next] else (n.chan d).subscriptors := by
  obtain ⟨server, isServer⟩ := Option.ne_none_iff_exists'.mp isOpen
  simp only [acceptSubscriptor, isServer, setChan, Heap.modify_apply]
  split
  · next same => rw [same]
  · rfl

theorem acceptSubscriptor_sent (n : Node) (c : ChanPtr) (ip : Str) (port : Int32) (conn : ConnId) :
    (n.acceptSubscriptor c ip port conn).mesh = n.mesh := by
  unfold acceptSubscriptor
  split <;> rfl

theorem attended_step {input : Input} (attended : Attended n) (stepped : Step n input n') :
    Attended n' := by
  intro c s member
  cases serving_effect stepped with
  | kept kept =>
      exact Nat.lt_of_lt_of_le (attended c s (kept.subscriptors c s member)) kept.subNext
  | offered request h d asks result =>
      rw [result, request.offer_subscriptors] at member
      have next : n'.sub.next = n.sub.next := by
        rw [result]
        cases request <;> rfl
      rw [next]
      exact attended c s member
  | accepted d ip port conn isAccept isOpen result =>
      have next : n'.sub.next = n.sub.next + 1 := by
        obtain ⟨server, isServer⟩ := Option.ne_none_iff_exists'.mp isOpen
        rw [result, acceptSubscriptor, isServer]
        rfl
      rw [next]
      rw [result, acceptSubscriptor_subscriptors isOpen] at member
      split at member
      · cases List.mem_append.mp member with
        | inl old => exact Nat.lt_succ_of_lt (attended c s old)
        | inr new => exact Nat.lt_succ_of_le (Nat.le_of_eq (List.mem_singleton.mp new))
      · exact Nat.lt_succ_of_lt (attended c s member)

/-! ## Runs -/

theorem servesOwn_of_asksPublisher {input : Input} (named : Named n)
    (stepped : Step n input n') (asks : AsksPublisher n input) : ServesOwn n n' := by
  intro c known served
  cases serving_effect stepped with
  | kept kept => exact served.elim (absurd · kept.not_offered) (absurd · kept.not_joined)
  | offered request h d asked result =>
      have known' : d < n.chan.next := by
        obtain ⟨s, _, _, found⟩ := asked
        exact (getChannel_eq_some found).1
      cases served with
      | inl offered =>
          rw [result] at offered
          obtain ⟨rfl, audible⟩ := offer_offered named known known' offered
          exact asks.requests request h c asked audible
      | inr joined =>
          obtain ⟨s, member, new⟩ := joined
          rw [result, request.offer_subscriptors] at member
          exact absurd member new
  | accepted d ip port conn isAccept isOpen result =>
      cases served with
      | inl offered =>
          obtain ⟨text, written, _⟩ := offered
          rw [result, writes, acceptSubscriptor_sent, List.drop_length] at written
          cases written
      | inr joined =>
          obtain ⟨s, member, new⟩ := joined
          rw [result, acceptSubscriptor_subscriptors isOpen] at member
          split at member
          · next same =>
            rw [same] at known ⊢
            exact asks.connections d ip port conn isAccept known isOpen
          · exact absurd member new

theorem asksPublisher_of_servesOwn {input : Input} (attended : Attended n)
    (stepped : Step n input n') (serves : ServesOwn n n') : AsksPublisher n input := by
  constructor
  · intro request h c asks audible
    have known : c < n.chan.next := by
      obtain ⟨s, _, _, found⟩ := asks
      exact (getChannel_eq_some found).1
    refine serves c known (.inl ?_)
    rw [asks.ran stepped]
    exact offered_of_offer request audible
  · intro c ip port conn isAccept known isOpen
    refine serves c known (.inr ⟨n.sub.next, ?_, ?_⟩)
    · rw [isAccept] at stepped
      rw [← pure_eq_ok.mp stepped, acceptSubscriptor_subscriptors isOpen, if_pos rfl]
      exact List.mem_append_right _ (List.mem_singleton_self _)
    · exact fun member => Nat.lt_irrefl _ (attended c _ member)

/-- A run serves only what the node publishes exactly when it is asked for nothing else. -/
theorem every_servesOwn_iff {ID port : Int32} {bindPort : ChanPtr → DataPort}
    {trace : List (Input × Node)} (ran : Every Step (init ID port bindPort) trace) :
    Every (fun n _ n' => ServesOwn n n') (init ID port bindPort) trace ↔
      Every (fun n input _ => AsksPublisher n input) (init ID port bindPort) trace := by
  let good (n : Node) : Prop := Named n ∧ Attended n
  have initial : good (init ID port bindPort) := ⟨named_init ID port bindPort, fun _ _ => nofun⟩
  refine ran.exchange initial ?_ ?_
  · intro n input n' both stepped
    exact ⟨asksPublisher_of_servesOwn both.2 stepped, servesOwn_of_asksPublisher both.1 stepped⟩
  · intro n input n' both stepped _
    exact ⟨(step_keepsRegistry stepped).named both.1, attended_step both.2 stepped⟩

/-- Every channel is this node's, unless the reaction is to something else than a line or a
data connection. -/
def publishesAll (n : Node) : Input → Bool
  | .line _ _ | .dataAccepted _ _ _ _ =>
      decide (∀ c < n.chan.next, (n.chan c).publisher = some n.mesh.me)
  | _ => true

theorem asksPublisher_of_publishesAll {input : Input} (all : publishesAll n input = true) :
    AsksPublisher n input := by
  constructor
  · rintro request h c ⟨s, ⟨k, rfl, _⟩, _, found⟩ _
    exact of_decide_eq_true all c (getChannel_eq_some found).1
  · rintro c ip port conn rfl known _
    exact of_decide_eq_true all c known

/-- The publisher of a channel offers it and is joined. -/
theorem every_servesOwn_publisher : ∃ (trace : List (Input × Node)) (n : Node),
    Every (fun n _ n' => ServesOwn n n') (init 1 10000 firstPort) trace ∧
      final (init 1 10000 firstPort) trace = n ∧ (n.chan 0).subscriptors = [0] := by
  have replayed : replay react publishesAll (fun _ n => (n.chan 0).subscriptors = [0])
      (.dataAccepted 0 "10.0.0.2".toList 40001 1) (init 1 10000 firstPort)
      [.publish ['c'], .accepted "10.0.0.2".toList 40000 0, .line 0 "ID=2|PORT=10000".toList,
        .line 0 "YOU=10.0.0.1".toList, .line 0 "CONNECTED".toList,
        .line 0 "CONNECT_TCP=c".toList] = true := by decide
  obtain ⟨trace, n, allowed, checked⟩ := replay_run replayed
  refine ⟨_, n, (every_servesOwn_iff allowed.of_under).mpr (allowed.mono ?_), final_concat _ _ _,
    of_decide_eq_true checked⟩
  exact fun _ _ _ stepped => asksPublisher_of_publishesAll stepped.1

/-- A node that has subscribed is asked for the channel, and offers it. -/
theorem not_every_servesOwn :
    ¬ ∀ (ID port : Int32) (bindPort : ChanPtr → DataPort) (trace : List (Input × Node)),
      Every Step (init ID port bindPort) trace →
        Every (fun n _ n' => ServesOwn n n') (init ID port bindPort) trace := by
  intro law
  have replayed : replay react (fun _ _ => true) (fun n n' =>
        (n.chan 0).name = ['c'] ∧ (n.chan 0).publisher = none ∧ n.chan.next = 1 ∧
          n.writes n' = [tcpOffer ['c'] 10000])
      (.line 0 "CONNECT_TCP=c".toList) (init 1 10000 firstPort)
      [.subscribe ['c'], .accepted "10.0.0.2".toList 40000 0, .line 0 "ID=2|PORT=10000".toList,
        .line 0 "YOU=10.0.0.1".toList, .line 0 "CONNECTED".toList] = true := by decide
  obtain ⟨trace, n', allowed, checked⟩ := replay_run replayed
  obtain ⟨name, unpublished, one, wrote⟩ := of_decide_eq_true checked
  have every := law 1 10000 firstPort _ allowed.of_under
  have serves := ((every_append _ _).mp every).2.1
  have offered : Offered (final (init 1 10000 firstPort) trace) n' 0 := by
    refine ⟨tcpOffer ['c'] 10000, ?_, .inl ⟨10000, by rw [name]⟩⟩
    rw [wrote]
    exact List.mem_singleton_self _
  have published := serves 0 (by omega) (.inl offered)
  rw [unpublished] at published
  cases published

end Node

end LibPubSub
