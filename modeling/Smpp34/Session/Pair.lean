import Smpp34.Session.Causes

namespace Smpp34

open Octets
open Correlation (Ledger)
open Machine (run Throughout)

def Side.other : Side → Side
  | server => client
  | client => server

@[simp] theorem Side.other_other (side : Side) : side.other.other = side := by
  cases side <;> rfl

@[simp] theorem Side.other_ne (side : Side) : side.other ≠ side := by
  cases side <;> decide

theorem Side.eq_or_other (side any : Side) : any = side ∨ any = side.other := by
  cases side <;> cases any <;> simp [Side.other]

/-- What the two ends agreed on, their timers, and what a pipe holds. -/
structure Pairing where
  bound : BoundType
  responseTimer : Side → Nat
  inactivityTimer : Side → Nat
  capacity : Nat

def Pairing.endpoint (pairing : Pairing) (side : Side) : Endpoint :=
  ⟨side, pairing.bound, pairing.responseTimer side, pairing.inactivityTimer side⟩

structure Pair where
  ends : Side → Session
  pipe : Side → Bytes

namespace Pairing

variable (pairing : Pairing)

def start : Pair := ⟨fun side => (pairing.endpoint side).start, fun _ => []⟩

/-- What the pipes allow: octets come out in order, go in as far as there is room, and the stream
    ends when the peer's writer is gone. -/
def allows (pair : Pair) (side : Side) : Event → Bool
  | .receive piece => piece.isPrefixOf (pair.pipe side)
  | .write (.accepted count) => (pair.pipe side.other).length + count ≤ pairing.capacity
  | .hangUp => (pair.ends side.other).writer = .stopped
  | _ => true

def written (session : Session) : Event → Bytes
  | .write outcome =>
    match session.writer with
    | .registered emission => write emission.frame.pdu outcome
    | _ => []
  | _ => []

def step (pair : Pair) (move : Side × Event) : Option Pair :=
  let (side, event) := move
  if pairing.allows pair side event then
    ((pair.ends side).step (pairing.endpoint side) event).map fun next =>
      ⟨Function.update pair.ends side next,
        Function.update (Function.update pair.pipe side ((pair.pipe side).drop event.piece.length))
          side.other (pair.pipe side.other ++ written (pair.ends side) event)⟩
  else none

end Pairing

namespace Pair

/-- The PDU that removes a request from the table was sent in reaction to that very request: to
    the only frame under its number, which the peer took up at the place it reacted to. -/
def NoCrossTalk (pair : Pair) : Prop :=
  ∀ side number place, (number, place) ∈ (pair.ends side).completions →
    ∃ reply cause asked,
      (pair.ends side.other).sent[place]? = some reply ∧
      (pair.ends side).received[place]? = some reply.frame.pdu ∧
      reply.origin = .reaction cause ∧
      (pair.ends side).sent[cause]? = some asked ∧
      (pair.ends side.other).received[cause]? = some asked.frame.pdu ∧
      asked.frame.ourSequenceNumber = some number ∧
      ∀ (other : Nat) (emission : Emission), (pair.ends side).sent[other]? = some emission →
        emission.frame.ourSequenceNumber = some number → other = cause

end Pair

namespace Pairing

/-- A step as the ends are meant to take it: the writer's call takes a whole PDU that the peer's
    framer takes for one, or fails, and the session's own step is proper. -/
def proper (pairing : Pairing) (pair : Pair) (move : Side × Event) : Bool :=
  (pair.ends move.1).proper (pairing.endpoint move.1) move.2 &&
    match move.2, (pair.ends move.1).writer with
    | .write (.accepted count), .registered emission =>
      count = emission.frame.pdu.length && Whole emission.frame.pdu
    | _, _ => true

variable {pairing : Pairing} {pair next : Pair}

theorem step_eq_some {side : Side} {event : Event} (taken : pairing.step pair (side, event) = some next) :
    ∃ session, pairing.allows pair side event = true ∧
      (pair.ends side).step (pairing.endpoint side) event = some session ∧
      next.ends side = session ∧ next.ends side.other = pair.ends side.other ∧
      next.pipe side = (pair.pipe side).drop event.piece.length ∧
      next.pipe side.other = pair.pipe side.other ++ written (pair.ends side) event := by
  unfold step at taken
  dsimp only at taken
  split at taken
  · rename_i allowed
    obtain ⟨session, stepped, rfl⟩ := Option.map_eq_some_iff.mp taken
    refine ⟨session, allowed, stepped, ?_, ?_, ?_, ?_⟩
    · exact Function.update_self side session pair.ends
    · exact Function.update_of_ne (Side.other_ne side) session pair.ends
    · dsimp only
      rw [Function.update_of_ne (Side.other_ne side).symm, Function.update_self]
    · exact Function.update_self side.other _ _
  · cases taken

theorem run_ends {moves : List (Side × Event)} (reached : run pairing.step pairing.start moves = some pair)
    (side : Side) : ∃ events,
      run (Session.step (pairing.endpoint side)) (pairing.endpoint side).start events =
        some (pair.ends side) := by
  have kept : ∀ (pair : Pair) (move : Side × Event) (next : Pair),
      (∃ events, run (Session.step (pairing.endpoint side)) (pairing.endpoint side).start events =
        some (pair.ends side)) → pairing.step pair move = some next →
      ∃ events, run (Session.step (pairing.endpoint side)) (pairing.endpoint side).start events =
        some (next.ends side) := ?_
  · exact Machine.run_invariant kept ⟨[], rfl⟩ reached
  rintro pair ⟨mover, event⟩ next ⟨events, before⟩ taken
  obtain ⟨session, -, stepped, moved, still, -⟩ := step_eq_some taken
  rcases Side.eq_or_other mover side with same | other
  · subst same
    rw [moved]
    exact ⟨events ++ [event], Machine.run_append before (Machine.run_single stepped)⟩
  · rw [other] at before ⊢
    rw [still]
    exact ⟨events, before⟩

structure Orderly (pair : Pair) : Prop where
  caused : ∀ side, (pair.ends side).Caused
  stream : ∀ side, Stream (pair.ends side.other).sent (pair.ends side) (pair.pipe side)

theorem start_orderly (pairing : Pairing) : Orderly pairing.start where
  caused side := Session.start_caused (pairing.endpoint side)
  stream side := Stream.start (pairing.endpoint side)

theorem step_orderly {move : Side × Event} (orderly : Orderly pair)
    (proper : pairing.proper pair move = true) (taken : pairing.step pair move = some next) :
    Orderly next := by
  obtain ⟨side, event⟩ := move
  obtain ⟨session, allowed, stepped, moved, still, inward, outward⟩ := step_eq_some taken
  simp only [Pairing.proper, Bool.and_eq_true] at proper
  obtain ⟨proper, wholly⟩ := proper
  constructor
  · intro any
    rcases Side.eq_or_other side any with here | there
    · rw [here, moved]
      exact Session.step_caused (orderly.caused side) proper stepped
    · rw [there, still]
      exact orderly.caused side.other
  · intro any
    rcases Side.eq_or_other side any with here | there
    · rw [here, moved, still, inward]
      apply (orderly.stream side).read (Session.step_consumes stepped)
      cases event with
      | receive piece => exact List.isPrefixOf_iff_prefix.mp allowed
      | _ => exact List.nil_prefix
    · have stream := orderly.stream side.other
      rw [Side.other_other] at stream
      rw [there, Side.other_other, moved, still, outward]
      rcases Session.step_sent stepped with ⟨emission, count, rfl, stage, sent⟩ | ⟨other, sent⟩
      · simp only [stage, Bool.and_eq_true, decide_eq_true_eq] at wholly
        obtain ⟨rfl, whole⟩ := wholly
        have written : written (pair.ends side) (.write (.accepted emission.frame.pdu.length)) =
            emission.frame.pdu := by
          simp only [Pairing.written, stage, Smpp34.write, List.take_length]
        rw [sent, written]
        exact stream.written whole
      · have nothing : written (pair.ends side) event = [] := by
          cases event with
          | write outcome =>
            cases outcome with
            | accepted count => exact absurd rfl (other count)
            | failed =>
              unfold written
              dsimp only
              split <;> rfl
          | _ => rfl
        rw [sent, nothing, List.append_nil]
        exact stream

theorem run_orderly {moves : List (Side × Event)}
    (proper : Throughout pairing.step (fun pair move => pairing.proper pair move = true)
      pairing.start moves)
    (reached : run pairing.step pairing.start moves = some pair) : Orderly pair :=
  Machine.run_invariant_where (fun _ _ _ => step_orderly) (start_orderly pairing) proper reached

end Pairing

/-- Between two ends whose steps are all proper, the numbers of one direction never meddle with
    those of the other. -/
theorem no_cross_talk (pairing : Pairing) (moves : List (Side × Event)) (pair : Pair)
    (reached : run pairing.step pairing.start moves = some pair)
    (proper : Throughout pairing.step (fun pair move => pairing.proper pair move = true)
      pairing.start moves)
    (few : ∀ side, (pair.ends side).issued < 2 ^ 32) : pair.NoCrossTalk := by
  have orderly := Pairing.run_orderly proper reached
  intro side number place completed
  obtain ⟨events, ran⟩ := Pairing.run_ends reached side
  obtain ⟨-, sound⟩ := Session.run_ledger_sound ran (few side).le
  obtain ⟨pdu, received, answers⟩ := sound.answered.completed (number, place) completed
  obtain ⟨response, shown⟩ := answeredNumber_eq answers
  obtain ⟨reply, sent, rfl⟩ := (orderly.stream side).found received
  -- the peer sends a response only in reaction to a request that it took up
  obtain ⟨cause, origin, responds⟩ : ∃ cause, reply.origin = .reaction cause ∧
      Responds (pair.ends side.other).received cause reply.frame.pdu := by
    have caused := (orderly.caused side.other).outgoing reply
      (Session.mem_outgoing.mpr (by simp [List.mem_of_getElem? sent]))
    unfold Emission.Caused at caused
    split at caused
    · exact ⟨_, ‹_›, caused.2⟩
    · rw [response] at caused
      cases caused.2
  obtain ⟨request, taken, low, -, echoes⟩ := responds
  have stream := orderly.stream side.other
  rw [Side.other_other] at stream
  obtain ⟨asked, asking, rfl⟩ := stream.found taken
  -- and a request that this end sent is one of its own, under the number that it shows
  have own : asked.frame.ourSequenceNumber = some number := by
    have caused := (orderly.caused side).outgoing asked
      (Session.mem_outgoing.mpr (by simp [List.mem_of_getElem? asking]))
    unfold Emission.Caused at caused
    split at caused
    · obtain ⟨-, -, -, -, high, -⟩ := caused
      rw [low] at high
      cases high
    · obtain ⟨used, keyed⟩ := Option.ne_none_iff_exists'.mp caused.1
      have stamped := (sound.carried asked (.inr (.inr (List.mem_of_getElem? asking)))).stamped
        used keyed
      have same : used = number := (Eq.symm stamped).trans (echoes.symm.trans shown)
      rw [keyed, same]
  refine ⟨reply, cause, asked, sent, received, origin, asking, taken, own, ?_⟩
  intro other emission found keyed
  exact Ledger.sent_once sound.fresh found keyed asking own

def passing (side : Side) (pdu : Bytes) : List (Side × Event) :=
  [(side, .check), (side, .take), (side, .register), (side, .write (.accepted pdu.length)),
    (side.other, .receive pdu), (side.other, .extract), (side.other, .extract)]

theorem enquire_link_without_cross_talk :
    let pairing : Pairing := ⟨.trx, fun _ => 60, fun _ => 600, 1000⟩
    let link := EnquireLink.new 2
    ∃ pair, run pairing.step pairing.start
        ([(.client, .tick), (.client, .enqueue 0)] ++ passing .client link.encode ++
          passing .server link.accept.encode) = some pair ∧
      (pair.ends .client).completions = [(2, 0)] ∧ pair.NoCrossTalk := by
  intro pairing link
  have ran : (run pairing.step pairing.start
      ([(.client, .tick), (.client, .enqueue 0)] ++ passing .client link.encode ++
        passing .server link.accept.encode)).map (fun pair =>
          ((pair.ends .client).completions, (pair.ends .client).issued, (pair.ends .server).issued)) =
      some ([(2, 0)], 1, 0) := by decide +kernel
  obtain ⟨pair, reached, facts⟩ := Option.map_eq_some_iff.mp ran
  simp only [Prod.mk.injEq] at facts
  have few : ∀ side, (pair.ends side).issued < 2 ^ 32 := by
    intro side
    cases side with
    | client =>
      rw [facts.2.1]
      decide
    | server =>
      rw [facts.2.2]
      decide
  exact ⟨pair, reached, facts.1, no_cross_talk pairing _ pair reached (by decide +kernel) few⟩

def emptyDeliverSm (number : UInt32) : DeliverSm where
  header := ⟨33, CommandId.deliverSm.value, SmppError.ESME_ROK.code, number⟩
  serviceType := Utf8.Str.empty
  sourceAddrTon := 0
  sourceAddrNpi := 0
  sourceAddr := Utf8.Str.empty
  destAddrTon := 0
  destAddrNpi := 0
  destinationAddr := Utf8.Str.empty
  esmClass := 0
  protocolId := 0
  priorityFlag := 0
  scheduleDeliveryTime := Utf8.Str.empty
  validityPeriod := Utf8.Str.empty
  registeredDelivery := 0
  replaceIfPresentFlag := 0
  dataCoding := 0
  smDefaultMsgId := 0
  smLength := 0
  shortMessage := []
  tlvs := []

theorem nacked_deliver_sm_resp_crosses :
    let pairing : Pairing := ⟨.rx, fun _ => 60, fun _ => 600, 1000⟩
    let deliver := emptyDeliverSm 2
    ∃ pair, run pairing.step pairing.start
        (([(.server, .call (.deliverSm deliver)), (.server, .call (.deliverSm deliver)),
            (.server, .enqueue 1)] : List (Side × Event)) ++
          passing .server deliver.encode ++
          ([(.client, .respond 0 (.deliverSm deliver.accept)), (.client, .enqueue 0)] :
            List (Side × Event)) ++
          passing .client deliver.accept.encode ++
          ([(.client, .call (.unbind (Unbind.withSequenceNumber 0))), (.client, .enqueue 0),
            (.client, .check), (.client, .take), (.client, .register)] : List (Side × Event)) ++
          passing .server (nack .ESME_RINVCMDID 2)) = some pair ∧
      ¬ pair.NoCrossTalk := by
  intro pairing deliver
  have ran : (run pairing.step pairing.start
      (([(.server, .call (.deliverSm deliver)), (.server, .call (.deliverSm deliver)),
          (.server, .enqueue 1)] : List (Side × Event)) ++
        passing .server deliver.encode ++
        ([(.client, .respond 0 (.deliverSm deliver.accept)), (.client, .enqueue 0)] :
          List (Side × Event)) ++
        passing .client deliver.accept.encode ++
        ([(.client, .call (.unbind (Unbind.withSequenceNumber 0))), (.client, .enqueue 0),
          (.client, .check), (.client, .take), (.client, .register)] : List (Side × Event)) ++
        passing .server (nack .ESME_RINVCMDID 2))).map (fun pair =>
          ((pair.ends .client).completions, (pair.ends .server).sent[1]?.map Emission.origin,
            (pair.ends .client).sent[0]?.map fun emission => emission.frame.ourSequenceNumber)) =
      some ([(2, 1)], some (.reaction 0), some none) := by decide +kernel
  obtain ⟨pair, reached, facts⟩ := Option.map_eq_some_iff.mp ran
  simp only [Prod.mk.injEq] at facts
  obtain ⟨completions, reacted, answered⟩ := facts
  refine ⟨pair, reached, fun clear => ?_⟩
  obtain ⟨reply, cause, asked, sent, -, origin, asking, -, own, -⟩ :=
    clear .client 2 1 (by rw [completions]; exact List.mem_singleton_self _)
  -- the nack is the reaction to the client's first frame, which is no request
  rw [show (pair.ends .server).sent[1]? = some reply from sent, Option.map_some, origin] at reacted
  cases reacted
  rw [asking, Option.map_some, own] at answered
  cases answered

end Smpp34
