import Smpp34.Codec.Alert
import Smpp34.Codec.RoundTrip
import Smpp34.Session.Incoming
import Smpp34.Session.Pair
import Smpp34.Session.Spawned

namespace Smpp34

open Octets
open Parse
open Correlation (Ledger Slot)
open Machine (run Throughout)

namespace Request

/-- The requests that read back: their strings hold no NUL, their length octets tell the truth and
    their parameters fit. A cancel_sm is never one of them. -/
def Legible : Request → Prop
  | submitSm pdu =>
    pdu.header.commandId = CommandId.submitSm.value ∧ pdu.toMessageFields.WellFormed ∧
      ∀ tlv ∈ pdu.tlvs, tlv.Fits
  | submitSmMulti pdu =>
    pdu.header.commandId = CommandId.submitMulti.value ∧ pdu.toMultiFields.WellFormed ∧
      ∀ tlv ∈ pdu.tlvs, tlv.Fits
  | deliverSm pdu =>
    pdu.header.commandId = CommandId.deliverSm.value ∧ pdu.toMessageFields.WellFormed ∧
      ∀ tlv ∈ pdu.tlvs, tlv.Fits
  | dataSm pdu =>
    pdu.header.commandId = CommandId.dataSm.value ∧ pdu.toDataFields.WellFormed ∧
      ∀ tlv ∈ pdu.tlvs, tlv.Fits
  | querySm pdu =>
    pdu.header.commandId = CommandId.querySm.value ∧ pdu.toQueryFields.WellFormed
  | replaceSm pdu =>
    pdu.header.commandId = CommandId.replaceSm.value ∧ pdu.toReplaceFields.WellFormed
  | alertNotification pdu =>
    pdu.header.commandId = CommandId.alertNotification.value ∧ pdu.toAlertFields.WellFormed
  | unbind _ => True
  | _ => False

def headed : Request → CommandHeader → Request
  | submitSmMulti pdu, header => submitSmMulti { pdu with header }
  | alertNotification pdu, header => alertNotification { pdu with header }
  | unbind _, header => unbind ⟨header⟩
  | request, header => request.withHeader header

/-- The read loop itself awaits the listener on an alert_notification and on an unbind. -/
def spawned : Request → Bool
  | alertNotification _ | unbind _ => false
  | _ => true

end Request

def Branch.hands : Branch → Option Request
  | alert pdu => some (.alertNotification pdu)
  | branch => branch.asks

structure Endpoint.Faces (endpoint peer : Endpoint) : Prop where
  side : peer.side = endpoint.side.other
  bound : peer.bound = endpoint.bound

section Handed

variable {endpoint peer : Endpoint} {header : CommandHeader} {pdu : Bytes} {number : UInt32}

theorem framed_header {written : CommandHeader} {body : Bytes}
    (framed : CommandHeader.decode (written.encode ++ body) = .ok header) : header = written := by
  rw [CommandHeader.decode_encode] at framed
  split at framed
  · cases framed
    rfl
  · cases framed

variable (faces : endpoint.Faces peer)

include faces in
theorem branch_from_client (client : endpoint.side = .client) :
    peer.branch header pdu = serverBranch endpoint.bound header pdu := by
  unfold Endpoint.branch
  rw [faces.side, faces.bound, client]
  rfl

include faces in
theorem branch_from_server (server : endpoint.side = .server) :
    peer.branch header pdu = clientBranch endpoint.bound header pdu := by
  unfold Endpoint.branch
  rw [faces.side, faces.bound, server]
  rfl

/-- What has been handed over is what was sent, under the header of its frame. -/
structure Request.ArrivesAs (request : Request) (header : CommandHeader) (branch : Branch) :
    Prop where
  hands : branch.hands = some (request.headed header)
  spawns : branch.spawns = if request.spawned then some (request.headed header) else none
  same : header.SamePdu request.header

theorem dispatched_arrives {α : Type} {decoded : Decoded α} {value : α} {wrap : α → Request}
    {onError : SmppError → Bytes} {request : Request} (read : decoded = .ok value)
    (body : wrap value = request.headed header) (spawned : request.spawned = true)
    (same : header.SamePdu request.header) :
    request.ArrivesAs header (dispatched decoded (fun pdu => .request (wrap pdu)) onError) := by
  rw [read]
  refine ⟨congrArg some body, ?_, same⟩
  rw [if_pos spawned]
  exact congrArg some body

include faces

theorem branch_dataSm (same : header.commandId = CommandId.dataSm.value) :
    peer.branch header pdu =
      dispatched (DataSm.decode header pdu) (fun pdu => .request (.dataSm pdu)) fun error =>
        (DataSm.genericReject (potentialSeqNo pdu) error).encode := by
  cases side : endpoint.side with
  | client => rw [branch_from_client faces side, serverBranch_dataSm same]
  | server => rw [branch_from_server faces side, clientBranch_dataSm same]

theorem branch_unbind (same : header.commandId = CommandId.unbind.value) :
    peer.branch header pdu = unbindBranch (Unbind.decode header pdu) (potentialSeqNo pdu) := by
  cases side : endpoint.side with
  | client => rw [branch_from_client faces side, serverBranch_unbind same]
  | server =>
    rw [branch_from_server faces side]
    simp [clientBranch, same]

/-- Whatever an end may send and the peer's decoder can read is handed to the peer's listener. -/
theorem legible_arrives {request : Request} (sends : endpoint.maySend request = true)
    (legible : request.Legible)
    (encoded : (request.setSequenceNumber number).encode = some pdu)
    (framed : CommandHeader.decode pdu = .ok header) :
    (request.setSequenceNumber number).ArrivesAs header (peer.branch header pdu) := by
  cases request with
  | submitSm sent =>
    obtain ⟨client, transmits⟩ := Bool.and_eq_true_iff.mp sends
    obtain ⟨named, formed, fits⟩ := legible
    cases encoded
    have written := framed_header framed
    rw [branch_from_client faces (of_decide_eq_true client),
      serverBranch_submitSm (written ▸ named) transmits]
    refine dispatched_arrives ?_ rfl rfl (written ▸ ⟨rfl, rfl, rfl⟩)
    exact SubmitSm.decode_layout header sent.toMessageFields sent.tlvs formed fits
  | submitSmMulti sent =>
    obtain ⟨client, transmits⟩ := Bool.and_eq_true_iff.mp sends
    obtain ⟨named, formed, fits⟩ := legible
    cases encoded
    have written := framed_header framed
    rw [branch_from_client faces (of_decide_eq_true client),
      serverBranch_submitMulti (written ▸ named) transmits]
    refine dispatched_arrives ?_ rfl rfl (written ▸ ⟨rfl, rfl, rfl⟩)
    exact SubmitSmMulti.decode_layout header sent.toMultiFields sent.tlvs formed fits
  | deliverSm sent =>
    obtain ⟨server, receives⟩ := Bool.and_eq_true_iff.mp sends
    obtain ⟨named, formed, fits⟩ := legible
    cases encoded
    have written := framed_header framed
    rw [branch_from_server faces (of_decide_eq_true server),
      clientBranch_deliverSm (written ▸ named) receives]
    refine dispatched_arrives ?_ rfl rfl (written ▸ ⟨rfl, rfl, rfl⟩)
    exact DeliverSm.decode_layout header sent.toMessageFields sent.tlvs formed fits
  | dataSm sent =>
    obtain ⟨named, formed, fits⟩ := legible
    cases encoded
    have written := framed_header framed
    rw [branch_dataSm faces (written ▸ named)]
    refine dispatched_arrives ?_ rfl rfl (written ▸ ⟨rfl, rfl, rfl⟩)
    exact DataSm.decode_layout header sent.toDataFields sent.tlvs formed fits
  | querySm sent =>
    obtain ⟨client, transmits⟩ := Bool.and_eq_true_iff.mp sends
    obtain ⟨named, formed⟩ := legible
    cases encoded
    have written := framed_header framed
    rw [branch_from_client faces (of_decide_eq_true client),
      serverBranch_querySm (written ▸ named) transmits]
    refine dispatched_arrives ?_ rfl rfl (written ▸ ⟨rfl, rfl, rfl⟩)
    exact QuerySm.decode_layout header sent.toQueryFields formed
  | replaceSm sent =>
    obtain ⟨client, transmits⟩ := Bool.and_eq_true_iff.mp sends
    obtain ⟨named, formed⟩ := legible
    cases encoded
    have written := framed_header framed
    rw [branch_from_client faces (of_decide_eq_true client),
      serverBranch_replaceSm (written ▸ named) transmits]
    refine dispatched_arrives ?_ rfl rfl (written ▸ ⟨rfl, rfl, rfl⟩)
    exact ReplaceSm.decode_layout header sent.toReplaceFields formed
  | alertNotification sent =>
    obtain ⟨server, -⟩ := Bool.and_eq_true_iff.mp sends
    obtain ⟨named, formed⟩ := legible
    cases encoded
    have written := framed_header framed
    have read := AlertNotification.decode_encode
      { sent with header := { sent.header with sequenceNumber := number } } formed
    rw [branch_from_server faces (of_decide_eq_true server),
      clientBranch_alertNotification (written ▸ named), written]
    have alert : ∀ onError, dispatched (AlertNotification.decode _ _) Branch.alert onError = _ :=
      fun onError => congrArg (fun decoded => dispatched decoded Branch.alert onError) read
    exact ⟨congrArg Branch.hands (alert _), congrArg Branch.spawns (alert _), rfl, rfl, rfl⟩
  | unbind sent =>
    cases encoded
    have written : header = (Unbind.withSequenceNumber number).header := by
      rw [← List.append_nil (Unbind.encode _)] at framed
      exact framed_header framed
    subst written
    rw [branch_unbind faces rfl]
    exact ⟨rfl, rfl, rfl, rfl, rfl⟩
  | cancelSm | enquireLink | bind | outbind => exact legible.elim

omit faces

theorem dispatched_hands_some {α : Type} {decoded : Decoded α} {onOk : α → Branch}
    {onError : SmppError → Bytes} {request : Request}
    (handed : (dispatched decoded onOk onError).hands = some request) :
    ∃ value, decoded = .ok value ∧ (onOk value).hands = some request := by
  revert handed
  refine dispatched_cases ?_ ?_ ?_
  · exact fun value read handed => ⟨value, read, handed⟩
  · exact fun _ _ handed => by cases handed
  · exact fun _ handed => by cases handed

theorem settled_hands {α : Type} {decoded : Decoded α} {onOk : α → Response} {closes : Bool}
    {onError : SmppError → Option Bytes} :
    (settled decoded onOk closes onError).hands = none := by
  refine settled_cases ?_ ?_ ?_
  · exact fun _ _ => rfl
  · exact fun _ _ => rfl
  · exact fun _ => rfl

theorem hands_request {request : Request}
    (handed : (endpoint.branch header pdu).hands = some request) :
    header.commandId < 0x80000000 ∧ header.commandId ≠ CommandId.enquireLink.value := by
  have named {id : CommandId} (same : header.commandId = id.value)
      (low : id.value < 0x80000000 ∧ id.value ≠ CommandId.enquireLink.value) :
      header.commandId < 0x80000000 ∧ header.commandId ≠ CommandId.enquireLink.value :=
    same ▸ low
  have link {decoded : Decoded EnquireLink} {onError : SmppError → Bytes} :
      (dispatched decoded (fun pdu => .reply pdu.accept.encode) onError).hands ≠ some request := by
    intro handed
    obtain ⟨value, -, never⟩ := dispatched_hands_some handed
    cases never
  unfold Endpoint.branch at handed
  cases side : endpoint.side with
  | server =>
    rw [side] at handed
    have chain := serverBranch_chain endpoint.bound header pdu
    change (serverBranch endpoint.bound header pdu).hands = some request at handed
    generalize serverBranch endpoint.bound header pdu = branch at chain handed
    cases chain with
    | enquireLink => exact absurd handed link
    | enquireLinkResp | unsupported => cases handed
    | deliverSmResp | dataSmResp | genericNack =>
      rw [settled_hands] at handed
      cases handed
    | submitSm same | submitMulti same | dataSm same | cancelSm same | querySm same
    | replaceSm same | unbind same => exact named same (by decide)
  | client =>
    rw [side] at handed
    have chain := clientBranch_chain endpoint.bound header pdu
    change (clientBranch endpoint.bound header pdu).hands = some request at handed
    generalize clientBranch endpoint.bound header pdu = branch at chain handed
    cases chain with
    | enquireLink => exact absurd handed link
    | enquireLinkResp | unsupported => cases handed
    | submitSmResp | submitMultiResp | dataSmResp | cancelSmResp | querySmResp | replaceSmResp
    | unbindResp | genericNack =>
      rw [settled_hands] at handed
      cases handed
    | deliverSm same | dataSm same | alertNotification same | unbind same =>
      exact named same (by decide)

end Handed

/-- The application sends legible requests, and its listener's responses are responses. -/
def Event.Sensible : Event → Prop
  | .call request => request.Legible
  | .respond _ resp => 0x80000000 ≤ resp.header.commandId
  | .unbound resp => 0x80000000 ≤ resp.header.commandId
  | _ => True

def Emission.Attributed (endpoint : Endpoint) (slots : List (Slot UInt32 Request Response))
    (emission : Emission) : Prop :=
  match emission.origin with
  | .call caller => ∃ slot, slots[caller]? = some slot ∧ slot.ask.Legible ∧
      endpoint.maySend slot.ask = true ∧ emission.frame.ourSequenceNumber = some slot.key ∧
      (slot.ask.setSequenceNumber slot.key).encode = some emission.frame.pdu
  | .link => ∃ number, emission.frame.pdu = (EnquireLink.new number).encode
  | .reaction _ => isResponse emission.frame.pdu = true

theorem Emission.Attributed.keeps {endpoint : Endpoint} {emission : Emission}
    {slots later : List (Slot UInt32 Request Response)}
    (attributed : emission.Attributed endpoint slots) (keeps : Ledger.Keeps slots later) :
    emission.Attributed endpoint later := by
  unfold Attributed at *
  cases origin : emission.origin with
  | call caller =>
    rw [origin] at attributed
    obtain ⟨slot, found, rest⟩ := attributed
    obtain ⟨slot', found', ask, key⟩ := keeps caller slot found
    refine ⟨slot', found', ?_⟩
    rw [ask, key]
    exact rest
  | link =>
    rw [origin] at attributed
    exact attributed
  | reaction place =>
    rw [origin] at attributed
    exact attributed

namespace Session

variable {endpoint : Endpoint} {session next : Session}

def Attributed (endpoint : Endpoint) (session : Session) : Prop :=
  ∀ emission ∈ session.outgoing, emission.Attributed endpoint session.ledger.slots

theorem start_attributed (endpoint : Endpoint) : endpoint.start.Attributed endpoint := by
  intro emission member
  simp [outgoing, Endpoint.start, WriterStage.inHand, WriterStage.held, ReaderStage.queued]
    at member

theorem response_isResponse {resp : Response} (high : 0x80000000 ≤ resp.header.commandId) :
    isResponse resp.encode = true := by
  unfold isResponse
  rw [resp.encode_words.1]
  exact decide_eq_true high

theorem creates_attributed {event : Event} {emission : Emission} (sensible : event.Sensible)
    (creates : Creates endpoint session event emission)
    (taken : session.step endpoint event = some next) :
    emission.Attributed endpoint next.ledger.slots := by
  cases creates with
  | @call request pdu sends encoded =>
    obtain ⟨-, -, -, rfl⟩ := call_some taken
    refine ⟨⟨request, session.sequenceNumber, none⟩, ?_, sensible, sends, rfl, encoded⟩
    simp [ledger, Call.toSlot]
  | tick => exact ⟨session.sequenceNumber, rfl⟩
  | respond asked => exact response_isResponse sensible
  | @unbound place cursor pdu resp asked =>
    exact @response_isResponse (.unbind resp) sensible
  | answer coming answers =>
    obtain ⟨header, framed⟩ := upcoming_framed coming
    exact (answer_fits framed answers).1

theorem step_attributed (consistent : session.Consistent endpoint)
    (attributed : session.Attributed endpoint) {event : Event} (sensible : event.Sensible)
    (taken : session.step endpoint event = some next) : next.Attributed endpoint := by
  intro emission member
  rcases step_outgoing taken emission member with old | new
  · exact (attributed emission old).keeps (Ledger.run_keeps (step_moves consistent taken))
  · exact creates_attributed sensible new taken

/-- What the listener has been handed and has not answered, with the places where it came in. -/
def Handed (endpoint : Endpoint) (session : Session) : Prop :=
  ∀ debt ∈ session.owed, ∃ pdu header, session.received[debt.1]? = some pdu ∧
    CommandHeader.decode pdu = .ok header ∧
    (endpoint.branch header pdu).hands = some debt.2

theorem start_handed (endpoint : Endpoint) : endpoint.start.Handed endpoint := by
  intro debt member
  simp [owed, Endpoint.start, ReaderStage.owed] at member

theorem step_handed (handed : session.Handed endpoint) {event : Event}
    (taken : session.step endpoint event = some next) : next.Handed endpoint := by
  intro debt member
  rcases step_owed taken debt member with
    old | ⟨rfl, pdu, cursor, header, coming, framed, place, branched⟩
  · obtain ⟨pdu, header, found, rest⟩ := handed debt old
    exact ⟨pdu, header, found_later (step_consumes taken).grows found, rest⟩
  · have hands : (endpoint.branch header pdu).hands = some debt.2 := by
      rcases branched with request | ⟨unbind, branch, same⟩
      · rw [request]
        rfl
      · rw [branch, same]
        rfl
    have other : endpoint.branch header pdu ≠ .linkResp := by
      intro link
      rw [link] at hands
      cases hands
    refine ⟨pdu, header, ?_, framed, hands⟩
    rw [extract_received coming framed other taken, place]
    simp

def SentAt (session : Session) (place caller : Nat) (call : Call) : Prop :=
  ∃ emission, session.sent[place]? = some emission ∧ emission.origin = .call caller ∧
    session.calls[caller]? = some call

end Session

namespace Pair

/-- What one end has taken up and handed to its listener, and the handlers it has spawned for that,
    against what the other has sent. -/
structure Delivers (pairing : Pairing) (pair : Pair) (side : Side)
    (handlers : List (Nat × Request)) : Prop where
  inOrder : ∃ rest,
    (pair.ends side.other).sent.map (fun emission => emission.frame.pdu) =
      (pair.ends side).received ++ rest ∧
    ∀ cursor, (pair.ends side).reader.position = some cursor →
      rest.flatten = (pair.ends side).buffer.drop cursor ++ pair.pipe side
  handed : ∀ place pdu header request, (pair.ends side).received[place]? = some pdu →
    CommandHeader.decode pdu = .ok header →
    ((pairing.endpoint side).branch header pdu).hands = some request →
    ∃ caller call, (pair.ends side.other).SentAt place caller call ∧
      request = (call.request.setSequenceNumber call.number).headed header
  arrives : ∀ place caller call pdu, (pair.ends side.other).SentAt place caller call →
    (pair.ends side).received[place]? = some pdu →
    ∃ header, CommandHeader.decode pdu = .ok header ∧
      (call.request.setSequenceNumber call.number).ArrivesAs header
        ((pairing.endpoint side).branch header pdu)
  once : ∀ first second caller call, (pair.ends side.other).SentAt first caller call →
    (pair.ends side.other).SentAt second caller call → first = second
  owed : (pair.ends side).Handed (pairing.endpoint side)
  spawned : ∀ place request, (place, request) ∈ handlers ↔
    ∃ caller call pdu header, (pair.ends side.other).SentAt place caller call ∧
      (pair.ends side).received[place]? = some pdu ∧ CommandHeader.decode pdu = .ok header ∧
      call.request.spawned = true ∧
      request = (call.request.setSequenceNumber call.number).headed header
  inTurn : (handlers.map Prod.fst).Pairwise (· < ·)

end Pair

namespace Pairing

variable {pairing : Pairing} {pair next : Pair}

/-- The writer's call takes a whole PDU that the peer's framer takes for one, or fails. -/
def carries (pair : Pair) (move : Side × Event) : Bool :=
  match move.2, (pair.ends move.1).writer with
  | .write (.accepted count), .registered emission =>
    count = emission.frame.pdu.length && Whole emission.frame.pdu
  | _, _ => true

theorem faces (pairing : Pairing) (side : Side) :
    (pairing.endpoint side).Faces (pairing.endpoint side.other) := ⟨rfl, rfl⟩

theorem step_written {side : Side} {event : Event} {session : Session}
    (carried : carries pair (side, event) = true)
    (stepped : (pair.ends side).step (pairing.endpoint side) event = some session) :
    (∃ emission, Whole emission.frame.pdu ∧ session.sent = (pair.ends side).sent ++ [emission] ∧
      written (pair.ends side) event = emission.frame.pdu) ∨
    session.sent = (pair.ends side).sent ∧ written (pair.ends side) event = [] := by
  rcases Session.step_sent stepped with ⟨emission, count, rfl, stage, sent⟩ | ⟨other, sent⟩
  · left
    simp only [carries, stage, Bool.and_eq_true, decide_eq_true_eq] at carried
    obtain ⟨rfl, whole⟩ := carried
    refine ⟨emission, whole, sent, ?_⟩
    simp only [written, stage, Smpp34.write, List.take_length]
  · refine .inr ⟨sent, ?_⟩
    cases event with
    | write outcome =>
      cases outcome with
      | accepted count => exact absurd rfl (other count)
      | failed =>
        unfold written
        dsimp only
        split <;> rfl
    | _ => rfl

structure Conveys (pairing : Pairing) (pair : Pair) : Prop where
  stream : ∀ side, Stream (pair.ends side.other).sent (pair.ends side) (pair.pipe side)
  consistent : ∀ side, (pair.ends side).Consistent (pairing.endpoint side)
  attributed : ∀ side, (pair.ends side).Attributed (pairing.endpoint side)
  handed : ∀ side, (pair.ends side).Handed (pairing.endpoint side)

theorem start_conveys (pairing : Pairing) : Conveys pairing pairing.start where
  stream side := Stream.start (pairing.endpoint side)
  consistent side := Session.start_consistent (pairing.endpoint side)
  attributed side := Session.start_attributed (pairing.endpoint side)
  handed side := Session.start_handed (pairing.endpoint side)

theorem step_each {holds : Endpoint → Session → Prop} {side : Side} {event : Event}
    (before : ∀ side, holds (pairing.endpoint side) (pair.ends side))
    (kept : ∀ session, (pair.ends side).step (pairing.endpoint side) event = some session →
      holds (pairing.endpoint side) session)
    (taken : pairing.step pair (side, event) = some next) :
    ∀ side, holds (pairing.endpoint side) (next.ends side) := by
  obtain ⟨session, -, stepped, moved, still, -⟩ := step_eq_some taken
  intro any
  rcases Side.eq_or_other side any with rfl | rfl
  · rw [moved]
    exact kept session stepped
  · rw [still]
    exact before side.other

theorem step_stream {side : Side} {event : Event}
    (streams : ∀ side, Stream (pair.ends side.other).sent (pair.ends side) (pair.pipe side))
    (carried : carries pair (side, event) = true)
    (taken : pairing.step pair (side, event) = some next) :
    ∀ side, Stream (next.ends side.other).sent (next.ends side) (next.pipe side) := by
  obtain ⟨session, allowed, stepped, moved, still, inward, outward⟩ := step_eq_some taken
  intro any
  rcases Side.eq_or_other side any with same | other
  · rw [same, moved, still, inward]
    apply (streams side).read (Session.step_consumes stepped)
    cases event with
    | receive piece => exact List.isPrefixOf_iff_prefix.mp allowed
    | _ => exact List.nil_prefix
  · have stream := streams side.other
    rw [Side.other_other] at stream
    rw [other, Side.other_other, moved, still, outward]
    rcases step_written carried stepped with ⟨emission, whole, sent, wrote⟩ | ⟨sent, wrote⟩
    · rw [sent, wrote]
      exact stream.written whole
    · rw [sent, wrote, List.append_nil]
      exact stream

theorem step_conveys {move : Side × Event} (conveys : Conveys pairing pair)
    (carried : carries pair move = true) (sensible : move.2.Sensible)
    (taken : pairing.step pair move = some next) : Conveys pairing next where
  stream := step_stream conveys.stream carried taken
  consistent := step_each conveys.consistent
    (fun _ stepped => Session.step_consistent (conveys.consistent move.1) stepped) taken
  attributed := step_each
    (fun side => show Session.Attributed (pairing.endpoint side) _ from conveys.attributed side)
    (fun _ stepped => Session.step_attributed (conveys.consistent move.1)
      (conveys.attributed move.1) sensible stepped) taken
  handed := step_each
    (fun side => show Session.Handed (pairing.endpoint side) _ from conveys.handed side)
    (fun _ stepped => Session.step_handed (conveys.handed move.1) stepped) taken

theorem run_conveys {moves : List (Side × Event)} (sensible : ∀ move ∈ moves, move.2.Sensible)
    (carried : Throughout pairing.step (fun pair move => carries pair move = true)
      pairing.start moves)
    (reached : run pairing.step pairing.start moves = some pair) : Conveys pairing pair :=
  Machine.run_invariant_where
    (fun _ _ _ conveys met => step_conveys conveys met.1 met.2)
    (start_conveys pairing)
    (Machine.throughout_and carried (Machine.throughout_of_forall sensible pairing.start)) reached

section Delivered

variable {side : Side} {place caller : Nat} {call : Call} {pdu : Bytes} {header : CommandHeader}

theorem whole_framed (whole : Whole pdu) : ∃ header, CommandHeader.decode pdu = .ok header := by
  obtain ⟨header, framed⟩ := decode_framed whole
  rw [List.take_length] at framed
  exact ⟨header, framed⟩

theorem Conveys.called (conveys : Conveys pairing pair) {emission : Emission}
    (sent : emission ∈ (pair.ends side).sent) (origin : emission.origin = .call caller) :
    ∃ call, (pair.ends side).calls[caller]? = some call ∧ call.request.Legible ∧
      (pairing.endpoint side).maySend call.request = true ∧
      emission.frame.ourSequenceNumber = some call.number ∧
      (call.request.setSequenceNumber call.number).encode = some emission.frame.pdu := by
  have attributed := conveys.attributed side emission
    (Session.mem_outgoing.mpr (.inr (.inr (.inr (.inr (.inl sent))))))
  unfold Emission.Attributed at attributed
  rw [origin] at attributed
  obtain ⟨slot, found, rest⟩ := attributed
  change ((pair.ends side).calls.map Call.toSlot)[caller]? = some slot at found
  rw [List.getElem?_map] at found
  obtain ⟨call, calling, rfl⟩ := Option.map_eq_some_iff.mp found
  exact ⟨call, calling, rest⟩

theorem Conveys.arrives (conveys : Conveys pairing pair)
    (sent : (pair.ends side.other).SentAt place caller call)
    (received : (pair.ends side).received[place]? = some pdu) :
    ∃ header, CommandHeader.decode pdu = .ok header ∧
      (call.request.setSequenceNumber call.number).ArrivesAs header
        ((pairing.endpoint side).branch header pdu) := by
  obtain ⟨emission, found, origin, calling⟩ := sent
  obtain ⟨other, found', rfl⟩ := (conveys.stream side).found received
  rw [found] at found'
  cases found'
  have member := List.mem_of_getElem? found
  obtain ⟨own, calling', legible, sends, -, encoded⟩ := conveys.called member origin
  rw [calling] at calling'
  cases calling'
  obtain ⟨header, framed⟩ := whole_framed ((conveys.stream side).whole emission member)
  have faces := faces pairing side.other
  rw [Side.other_other] at faces
  exact ⟨header, framed, legible_arrives faces sends legible encoded framed⟩

/-- What is handed over is a call's: the other frames are enquire_links and responses. -/
theorem Conveys.handed_call (conveys : Conveys pairing pair) {request : Request}
    (received : (pair.ends side).received[place]? = some pdu)
    (framed : CommandHeader.decode pdu = .ok header)
    (handed : ((pairing.endpoint side).branch header pdu).hands = some request) :
    ∃ caller call, (pair.ends side.other).SentAt place caller call ∧
      request = (call.request.setSequenceNumber call.number).headed header := by
  obtain ⟨low, other⟩ := hands_request handed
  obtain ⟨emission, found, rfl⟩ := (conveys.stream side).found received
  have member := List.mem_of_getElem? found
  have attributed := conveys.attributed side.other emission
    (Session.mem_outgoing.mpr (.inr (.inr (.inr (.inr (.inl member))))))
  unfold Emission.Attributed at attributed
  cases origin : emission.origin with
  | call caller =>
    obtain ⟨call, calling, -⟩ := conveys.called member origin
    have sent : (pair.ends side.other).SentAt place caller call :=
      ⟨emission, found, origin, calling⟩
    obtain ⟨shown, framed', arrives⟩ := conveys.arrives sent received
    rw [framed] at framed'
    cases framed'
    exact ⟨caller, call, sent, Option.some.inj (handed.symm.trans arrives.hands)⟩
  | link =>
    rw [origin] at attributed
    obtain ⟨number, link⟩ := attributed
    rw [link, ← List.append_nil (EnquireLink.encode _)] at framed
    exact absurd (framed_header framed ▸ rfl) other
  | reaction cause =>
    rw [origin] at attributed
    rw [(isResponse_iff framed).mpr low] at attributed
    cases attributed

theorem Conveys.once (conveys : Conveys pairing pair) {first second : Nat} {call' : Call}
    (sound : (pair.ends side).ledger.Sound (pairing.endpoint side).labels
      (pairing.endpoint side).responseTimer)
    (sent : (pair.ends side).SentAt first caller call)
    (again : (pair.ends side).SentAt second caller call') : first = second := by
  obtain ⟨emission, found, origin, -⟩ := sent
  obtain ⟨emission', found', origin', -⟩ := again
  obtain ⟨own, calling, -, -, keyed, -⟩ := conveys.called (List.mem_of_getElem? found) origin
  obtain ⟨own', calling', -, -, keyed', -⟩ :=
    conveys.called (List.mem_of_getElem? found') origin'
  rw [calling] at calling'
  cases calling'
  exact Ledger.sent_once sound.fresh found keyed found' keyed'

theorem spawned_setSequenceNumber (request : Request) (number : UInt32) :
    (request.setSequenceNumber number).spawned = request.spawned := by
  cases request <;> rfl

theorem Conveys.spawned (conveys : Conveys pairing pair) {request : Request} :
    (place, request) ∈ (pairing.endpoint side).requests (pair.ends side).received ↔
      ∃ caller call pdu header, (pair.ends side.other).SentAt place caller call ∧
        (pair.ends side).received[place]? = some pdu ∧ CommandHeader.decode pdu = .ok header ∧
        call.request.spawned = true ∧
        request = (call.request.setSequenceNumber call.number).headed header := by
  rw [Endpoint.mem_requests]
  constructor
  · rintro ⟨pdu, received, spawns⟩
    obtain ⟨emission, found, rfl⟩ := (conveys.stream side).found received
    obtain ⟨header, framed⟩ := whole_framed ((conveys.stream side).whole emission
      (List.mem_of_getElem? found))
    have branch := (Endpoint.spawns_iff framed request).mp spawns
    have handed : ((pairing.endpoint side).branch header emission.frame.pdu).hands =
        some request := by
      rw [branch]
      rfl
    obtain ⟨caller, call, sent, same⟩ := conveys.handed_call received framed handed
    obtain ⟨shown, framed', arrives⟩ := conveys.arrives sent received
    rw [framed] at framed'
    cases framed'
    refine ⟨caller, call, _, header, sent, received, framed, ?_, same⟩
    have started := arrives.spawns
    rw [branch, spawned_setSequenceNumber] at started
    by_contra awaited
    rw [if_neg awaited] at started
    cases started
  · rintro ⟨caller, call, pdu, header, sent, received, framed, spawned, rfl⟩
    obtain ⟨shown, framed', arrives⟩ := conveys.arrives sent received
    rw [framed] at framed'
    cases framed'
    refine ⟨pdu, received, ?_⟩
    rw [Endpoint.spawns, framed]
    dsimp only
    rw [arrives.spawns, spawned_setSequenceNumber, if_pos spawned]

theorem Conveys.delivers (conveys : Conveys pairing pair)
    (sound : ∀ side, (pair.ends side).ledger.Sound (pairing.endpoint side).labels
      (pairing.endpoint side).responseTimer) (side : Side) :
    pair.Delivers pairing side
      ((pairing.endpoint side).requests (pair.ends side).received) where
  inOrder := (conveys.stream side).rest
  handed _ _ _ _ received framed handed := conveys.handed_call received framed handed
  arrives _ _ _ _ sent received := conveys.arrives sent received
  once _ _ _ _ sent again := conveys.once (sound side.other) sent again
  owed := conveys.handed side
  spawned _ _ := conveys.spawned
  inTurn := Endpoint.requests_ordered _

end Delivered

def spawned (pairing : Pairing) (side : Side) (moves : List (Side × Event)) :
    List (Nat × Request) :=
  Machine.gained pairing.step (fun pair => (pair.ends side).handlers) pairing.start moves

theorem run_spawned {moves : List (Side × Event)} (side : Side)
    (reached : run pairing.step pairing.start moves = some pair) :
    (pairing.endpoint side).requests (pair.ends side).received = pairing.spawned side moves := by
  have moved : ∀ pair move next, (pair.ends side).Linking (pairing.endpoint side) →
      pairing.step pair move = some next →
      (pair.ends side).Spawns (pairing.endpoint side) (next.ends side) ∧
        (next.ends side).Linking (pairing.endpoint side) := by
    rintro pair ⟨mover, event⟩ next linking taken
    obtain ⟨session, -, stepped, moved, still, -⟩ := step_eq_some taken
    rcases Side.eq_or_other mover side with rfl | rfl
    · rw [moved]
      exact Session.step_spawns linking stepped
    · rw [still]
      exact ⟨Session.Spawns.still rfl (Nat.le_refl _), linking⟩
  exact Machine.run_gained (fun pair move next linking taken => (moved pair move next linking taken).2)
    (fun pair move next linking taken => (moved pair move next linking taken).1)
    (Session.start_linking (pairing.endpoint side)) reached

end Pairing

/-- Where every write takes a whole PDU and the applications send legible requests, each end takes
    up the other's PDUs in the order sent, none lost and none twice, and its listener is handed the
    calls of the other end and nothing else, each as it was made; the session spawns one handler for
    each of them that the read loop does not await itself, in the same order. -/
theorem requests_delivered_in_order (pairing : Pairing) (moves : List (Side × Event)) (pair : Pair)
    (reached : run pairing.step pairing.start moves = some pair)
    (sensible : ∀ move ∈ moves, move.2.Sensible)
    (carried : Throughout pairing.step (fun pair move => Pairing.carries pair move = true)
      pairing.start moves)
    (few : ∀ side, (pair.ends side).issued < 2 ^ 32) (side : Side) :
    pair.Delivers pairing side (pairing.spawned side moves) := by
  have conveys := Pairing.run_conveys sensible carried reached
  rw [← Pairing.run_spawned side reached]
  refine conveys.delivers ?_ side
  intro any
  obtain ⟨events, ran⟩ := Pairing.run_ends reached any
  exact (Session.run_ledger_sound ran (few any).le).2

theorem deliver_sm_delivered_in_order :
    let pairing : Pairing := ⟨.rx, fun _ => 60, fun _ => 600, 1000⟩
    let frame := (emptyDeliverSm 1).encode
    let moves : List (Side × Event) :=
      [(.server, .call (.deliverSm (emptyDeliverSm 0))), (.server, .enqueue 0), (.server, .check),
        (.server, .take), (.server, .register), (.server, .write (.accepted frame.length)),
        (.client, .receive (frame.take 20)), (.client, .extract),
        (.client, .receive (frame.drop 20)), (.client, .extract)]
    ∃ pair, run pairing.step pairing.start moves = some pair ∧
      (pair.ends .client).received = [frame] ∧
      pairing.spawned .client moves = [(0, .deliverSm (emptyDeliverSm 1))] ∧
      pair.Delivers pairing .client (pairing.spawned .client moves) := by
  intro pairing frame moves
  have ran : (run pairing.step pairing.start moves).map (fun pair =>
      ((pair.ends .client).received, (pair.ends .client).issued, (pair.ends .server).issued)) =
      some ([frame], 0, 1) := by decide +kernel
  obtain ⟨pair, reached, facts⟩ := Option.map_eq_some_iff.mp ran
  simp only [Prod.mk.injEq] at facts
  have few : ∀ side, (pair.ends side).issued < 2 ^ 32 := by
    intro side
    cases side with
    | client =>
      rw [facts.2.1]
      decide
    | server =>
      rw [facts.2.2]
      decide
  have sensible : ∀ move ∈ moves, move.2.Sensible := by
    simp only [moves, List.forall_mem_cons, Event.Sensible]
    refine ⟨⟨rfl, ⟨?_, ?_, ?_, ?_, ?_, rfl⟩, ?_⟩, ?_⟩
    · decide
    · decide
    · decide
    · decide
    · decide
    · exact fun _ member => by cases member
    · simp
  have carried : Throughout pairing.step (fun pair move => Pairing.carries pair move = true)
      pairing.start moves := by decide +kernel
  have spawned : pairing.spawned .client moves = [(0, .deliverSm (emptyDeliverSm 1))] := by
    decide +kernel
  exact ⟨pair, reached, facts.1, spawned,
    requests_delivered_in_order pairing moves pair reached sensible carried few .client⟩

end Smpp34
