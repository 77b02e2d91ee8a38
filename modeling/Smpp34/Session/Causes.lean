import Smpp34.Session.Frames
import Smpp34.Session.Stream

namespace Smpp34

open Octets
open Machine (run)

def isResponse (pdu : Bytes) : Bool := 0x80000000 ≤ beU32At pdu 4

theorem isResponse_of_id {pdu : Bytes} {id : CommandId} (same : beU32At pdu 4 = id.value)
    (high : 0x80000000 ≤ id.value) : isResponse pdu = true := by
  unfold isResponse
  rw [same]
  exact decide_eq_true high

theorem isResponse_iff {pdu : Bytes} {header : CommandHeader}
    (framed : CommandHeader.decode pdu = .ok header) :
    isResponse pdu = false ↔ header.commandId < 0x80000000 := by
  obtain ⟨rfl, -⟩ := CommandHeader.decode_ok_eq framed
  unfold isResponse
  rw [decide_eq_false_iff_not, UInt32.not_le]

theorem answeredNumber_eq {pdu : Bytes} {number : UInt32} (answers : answeredNumber pdu = some number) :
    isResponse pdu = true ∧ beU32At pdu 12 = number := by
  unfold answeredNumber at answers
  split at answers
  · rename_i header framed
    split at answers
    · cases answers
    · rename_i high
      cases answers
      refine ⟨?_, ?_⟩
      · by_contra low
        exact high ((isResponse_iff framed).mp (eq_false_of_ne_true low))
      · rw [(CommandHeader.decode_ok_eq framed).1]
  · cases answers

def Responds (received : List Bytes) (place : Nat) (frame : Bytes) : Prop :=
  ∃ asked, received[place]? = some asked ∧ isResponse asked = false ∧ isResponse frame = true ∧
    beU32At frame 12 = beU32At asked 12

def Requests (received : List Bytes) (place : Nat) (number : UInt32) : Prop :=
  ∃ asked, received[place]? = some asked ∧ isResponse asked = false ∧ beU32At asked 12 = number

theorem Requests.responds {received : List Bytes} {place : Nat} {number : UInt32} {frame : Bytes}
    (requests : Requests received place number) (response : isResponse frame = true)
    (echoes : beU32At frame 12 = number) : Responds received place frame := by
  obtain ⟨asked, found, request, rfl⟩ := requests
  exact ⟨asked, found, request, response, echoes⟩

theorem Requests.mono {received later : List Bytes} {place : Nat} {number : UInt32}
    (grown : received <+: later) (requests : Requests received place number) :
    Requests later place number := by
  obtain ⟨asked, found, rest⟩ := requests
  exact ⟨asked, found_later grown found, rest⟩

theorem Responds.mono {received later : List Bytes} {place : Nat} {frame : Bytes}
    (grown : received <+: later) (responds : Responds received place frame) :
    Responds later place frame := by
  obtain ⟨asked, found, rest⟩ := responds
  exact ⟨asked, found_later grown found, rest⟩

def Emission.Caused (received : List Bytes) (emission : Emission) : Prop :=
  match emission.origin with
  | .reaction place =>
    emission.frame.ourSequenceNumber = none ∧ Responds received place emission.frame.pdu
  | _ => emission.frame.ourSequenceNumber ≠ none ∧ isResponse emission.frame.pdu = false

theorem Emission.Caused.mono {received later : List Bytes} {emission : Emission}
    (grown : received <+: later) (caused : emission.Caused received) : emission.Caused later := by
  unfold Emission.Caused at *
  split at caused
  · exact ⟨caused.1, caused.2.mono grown⟩
  · exact caused

theorem Emission.reaction_caused {received : List Bytes} {place : Nat} {frame : Bytes}
    (responds : Responds received place frame) : (Emission.reaction place frame).Caused received :=
  ⟨rfl, responds⟩

theorem Emission.own_caused {received : List Bytes} (emission : Emission)
    (own : ∀ place, emission.origin ≠ .reaction place)
    (numbered : emission.frame.ourSequenceNumber ≠ none)
    (request : isResponse emission.frame.pdu = false) : emission.Caused received := by
  unfold Emission.Caused
  split
  · rename_i place origin
    exact absurd origin (own place)
  · exact ⟨numbered, request⟩

section Branches

/-- What a branch does with a PDU fits it: a request is handed on with its header, and whatever
    is sent back is a response with its number. -/
def Branch.Fits (header : CommandHeader) : Branch → Prop
  | request pdu => header.commandId < 0x80000000 ∧ pdu.header = header
  | reply frame => isResponse frame = true ∧ beU32At frame 12 = header.sequenceNumber
  | unbind pdu => header.commandId < 0x80000000 ∧ pdu.header = header
  | unbindReject frame =>
    header.commandId < 0x80000000 ∧ isResponse frame = true ∧
      beU32At frame 12 = header.sequenceNumber
  | response (.refuse (some frame)) =>
    isResponse frame = true ∧ beU32At frame 12 = header.sequenceNumber
  | _ => True

variable {header : CommandHeader} {pdu : Bytes}

theorem response_fits (resp : Response) (id : CommandId) (same : resp.header.commandId = id.value)
    (high : 0x80000000 ≤ id.value) (echoes : resp.header.sequenceNumber = header.sequenceNumber) :
    (Branch.reply resp.encode).Fits header := by
  obtain ⟨command, sequence⟩ := resp.encode_words
  exact ⟨isResponse_of_id (command.trans same) high, sequence.trans echoes⟩

theorem nack_fits (error : SmppError) {number : UInt32} (echoes : number = header.sequenceNumber) :
    (Branch.reply (nack error number)).Fits header :=
  response_fits (.genericNack ⟨⟨16, CommandId.genericNack.value, error.code, number⟩⟩) .genericNack
    rfl (by decide) echoes

theorem submit_reject_fits (error : SmppError) {number : UInt32}
    (echoes : number = header.sequenceNumber) :
    (Branch.reply (SubmitSm.genericReject number error).encode).Fits header :=
  response_fits (.submitSm (SubmitSm.genericReject number error)) .submitSmResp rfl (by decide) echoes

theorem dispatched_fits {α : Type} {decoded : Decoded α} {onOk : α → Branch}
    {onError : SmppError → Bytes}
    (accepted : ∀ value, decoded = .ok value → (onOk value).Fits header)
    (rejected : ∀ error, (Branch.reply (onError error)).Fits header) :
    (dispatched decoded onOk onError).Fits header := by
  refine dispatched_cases ?_ ?_ ?_
  · exact accepted
  · exact fun error _ => rejected error
  · exact fun _ => True.intro

theorem settled_fits {α : Type} {decoded : Decoded α} {onOk : α → Response} {closes : Bool}
    {onError : SmppError → Option Bytes}
    (rejected : ∀ error frame, onError error = some frame → (Branch.reply frame).Fits header) :
    (settled decoded onOk closes onError).Fits header := by
  refine settled_cases ?_ ?_ ?_
  · exact fun _ _ => True.intro
  · intro error _
    cases reply : onError error with
    | none => exact True.intro
    | some frame => exact rejected error frame reply
  · exact fun _ => True.intro

theorem Unbind.decode_header {unbind : Unbind} (decoded : decode header pdu = .ok unbind) :
    unbind.header = header := by
  obtain ⟨bare, checked, decoded⟩ := bind_ok decoded
  cases decoded
  unfold decodeBare at checked
  repeat' split at checked
  all_goals cases checked
  rfl

theorem EnquireLink.decode_header {link : EnquireLink} (decoded : decode header pdu = .ok link) :
    link.header = header := by
  obtain ⟨bare, checked, decoded⟩ := bind_ok decoded
  cases decoded
  unfold decodeBare at checked
  repeat' split at checked
  all_goals cases checked
  rfl

theorem unbindBranch_fits (same : header.commandId = CommandId.unbind.value) {number : UInt32}
    (echoes : number = header.sequenceNumber) :
    (unbindBranch (Unbind.decode header pdu) number).Fits header := by
  have request : header.commandId < 0x80000000 := by
    rw [same]
    decide
  refine unbindBranch_cases ?_ ?_ ?_
  · exact fun unbind decoded => ⟨request, Unbind.decode_header decoded⟩
  · intro error _
    exact ⟨request, response_fits (.unbind (Unbind.genericReject number error)) .unbindResp rfl
      (by decide) echoes⟩
  · exact fun _ => True.intro

theorem link_fits (number : UInt32) (echoes : number = header.sequenceNumber) :
    (dispatched (EnquireLink.decode header pdu) (fun pdu => .reply pdu.accept.encode)
      fun error => (SubmitSm.genericReject number error).encode).Fits header := by
  refine dispatched_fits ?_ fun error => submit_reject_fits error echoes
  intro link decoded
  have same := EnquireLink.decode_header decoded
  subst same
  exact response_fits (.enquireLink link.accept) .enquireLinkResp rfl (by decide) rfl

theorem request_fits {α : Type} {decoded : Decoded α} {wrap : α → Request} {id : CommandId}
    {onError : SmppError → Bytes} (same : header.commandId = id.value)
    (low : id.value < 0x80000000)
    (headers : ∀ value, decoded = .ok value → (wrap value).header = header)
    (rejected : ∀ error, (Branch.reply (onError error)).Fits header) :
    (dispatched decoded (fun value => .request (wrap value)) onError).Fits header :=
  dispatched_fits (fun value ok => ⟨same ▸ low, headers value ok⟩) rejected

theorem serverBranch_fits (bound : BoundType) (number : potentialSeqNo pdu = header.sequenceNumber) :
    (serverBranch bound header pdu).Fits header := by
  have submitReject := fun error => submit_reject_fits error number
  have refused : ∀ error frame, some (SubmitSm.genericReject (potentialSeqNo pdu) error).encode =
      some frame → (Branch.reply frame).Fits header := by
    intro error frame same
    cases same
    exact submitReject error
  have chain := serverBranch_chain bound header pdu
  generalize serverBranch bound header pdu = branch at chain
  cases chain with
  | submitSm same =>
    exact request_fits same (by decide) (fun _ => SubmitSm.decode_header) submitReject
  | submitMulti same =>
    apply request_fits same (by decide) fun _ => SubmitSmMulti.decode_header
    intro error
    exact response_fits (.submitSmMulti (SubmitSmMulti.genericReject _ error)) .submitMultiResp rfl
      (by decide) number
  | dataSm same =>
    apply request_fits same (by decide) fun _ => DataSm.decode_header
    intro error
    exact response_fits (.dataSm (DataSm.genericReject _ error)) .dataSmResp rfl (by decide) number
  | cancelSm same =>
    exact request_fits same (by decide) (fun _ => CancelSm.decode_header) submitReject
  | querySm same =>
    apply request_fits same (by decide) fun _ => QuerySm.decode_header
    intro error
    exact response_fits (.querySm (QuerySm.genericReject _ error)) .querySmResp rfl (by decide)
      number
  | replaceSm same =>
    apply request_fits same (by decide) fun _ => ReplaceSm.decode_header
    intro error
    exact response_fits (.replaceSm (ReplaceSm.genericReject _ error)) .replaceSmResp rfl (by decide)
      number
  | enquireLink same => exact link_fits _ number
  | enquireLinkResp same => exact True.intro
  | unbind same => exact unbindBranch_fits same number
  | deliverSmResp same => exact settled_fits refused
  | dataSmResp same => exact settled_fits refused
  | genericNack same => exact settled_fits fun _ _ none => by cases none
  | unsupported => exact nack_fits _ number

theorem clientBranch_fits (bound : BoundType) (number : potentialSeqNo pdu = header.sequenceNumber) :
    (clientBranch bound header pdu).Fits header := by
  have nacked : ∀ error frame, some (nack error (potentialSeqNo pdu)) = some frame →
      (Branch.reply frame).Fits header := by
    intro error frame same
    cases same
    exact nack_fits error number
  have chain := clientBranch_chain bound header pdu
  generalize clientBranch bound header pdu = branch at chain
  cases chain with
  | deliverSm same =>
    apply request_fits same (by decide) fun _ => DeliverSm.decode_header
    exact fun error => submit_reject_fits error number
  | dataSm same =>
    apply request_fits same (by decide) fun _ => DataSm.decode_header
    intro error
    exact response_fits (.dataSm (DataSm.genericReject _ error)) .dataSmResp rfl (by decide) number
  | submitSmResp same => exact settled_fits nacked
  | submitMultiResp same => exact settled_fits nacked
  | dataSmResp same => exact settled_fits nacked
  | cancelSmResp same => exact settled_fits nacked
  | querySmResp same => exact settled_fits nacked
  | replaceSmResp same => exact settled_fits nacked
  | alertNotification same =>
    exact dispatched_fits (fun _ _ => True.intro) fun error => nack_fits error number
  | enquireLink same => exact link_fits _ number
  | enquireLinkResp same => exact True.intro
  | unbind same => exact unbindBranch_fits same number
  | unbindResp same => exact settled_fits nacked
  | genericNack same => exact settled_fits fun _ _ none => by cases none
  | unsupported => exact nack_fits _ number

theorem branch_fits (endpoint : Endpoint) (framed : CommandHeader.decode pdu = .ok header) :
    (endpoint.branch header pdu).Fits header := by
  have number : potentialSeqNo pdu = header.sequenceNumber := by
    obtain ⟨rfl, long, -⟩ := CommandHeader.decode_ok_eq framed
    exact if_pos long
  unfold Endpoint.branch
  cases endpoint.side with
  | server => exact serverBranch_fits endpoint.bound number
  | client => exact clientBranch_fits endpoint.bound number

end Branches

namespace Session

/-- Every frame is a request of this end or responds to one of the peer's, and what the listener
    has is a request of the peer. -/
structure Caused (session : Session) : Prop where
  outgoing : ∀ emission ∈ session.outgoing, emission.Caused session.received
  owed : ∀ debt ∈ session.owed, Requests session.received debt.1 debt.2.header.sequenceNumber

/-- The read loop takes a response for something to be answered: its chain has no branch for it,
    or it does not decode while its request waits. -/
def answersResponse (endpoint : Endpoint) (session : Session) (pdu : Bytes) : Bool :=
  isResponse pdu && (session.answer endpoint pdu).isSome

/-- What the application and the peer promise for one step: a PDU handed to `send_*` is a request,
    a listener's response echoes the number it was asked with, and no response comes in that the
    read loop answers. -/
def proper (endpoint : Endpoint) (session : Session) : Event → Bool
  | .call request => request.header.commandId < 0x80000000
  | .respond handler resp =>
    session.handlers[handler]?.all fun (_, request) =>
      0x80000000 ≤ resp.header.commandId &&
        resp.header.sequenceNumber = request.header.sequenceNumber
  | .unbound resp =>
    match session.reader with
    | .unbinding _ pdu _ =>
      0x80000000 ≤ resp.header.commandId &&
        resp.header.sequenceNumber = pdu.header.sequenceNumber
    | _ => true
  | .extract => session.upcoming.all fun (pdu, _) => !session.answersResponse endpoint pdu
  | _ => true

section Causes

variable {endpoint : Endpoint} {session next : Session}

theorem start_caused (endpoint : Endpoint) : endpoint.start.Caused where
  outgoing := by
    simp [outgoing, Endpoint.start, WriterStage.inHand, WriterStage.held, ReaderStage.queued]
  owed := by simp [owed, Endpoint.start, ReaderStage.owed]

theorem request_isResponse {request : Request} {number : UInt32} {pdu : Bytes}
    (sends : endpoint.maySend request = true) (low : request.header.commandId < 0x80000000)
    (encoded : (request.setSequenceNumber number).encode = some pdu) :
    isResponse pdu = false := by
  have command : ∀ (header : CommandHeader) (body : Bytes), header.commandId < 0x80000000 →
      isResponse (header.encode ++ body) = false := by
    intro header body low
    unfold isResponse
    rw [(header_words header body).1, decide_eq_false_iff_not, UInt32.not_le]
    exact low
  cases request with
  | enquireLink request => cases sends
  | bind kind request => cases sends
  | outbind request => cases sends
  | unbind request =>
    cases encoded
    rw [← List.append_nil (Unbind.encode _)]
    exact command _ [] (show CommandId.unbind.value < 0x80000000 by decide)
  | _ =>
    cases encoded
    exact command _ _ low

theorem response_responds {received : List Bytes} {place : Nat} {number : UInt32} {resp : Response}
    (requests : Requests received place number) (high : 0x80000000 ≤ resp.header.commandId)
    (echoes : resp.header.sequenceNumber = number) : Responds received place resp.encode := by
  obtain ⟨command, sequence⟩ := resp.encode_words
  apply requests.responds
  · unfold isResponse
    rw [command]
    exact decide_eq_true high
  · exact sequence.trans echoes

theorem upcoming_framed {pdu : Bytes} {cursor : Nat} (coming : session.upcoming = some (pdu, cursor)) :
    ∃ header, CommandHeader.decode pdu = .ok header := by
  unfold upcoming at coming
  split at coming
  · split at coming
    · rename_i size whole
      cases coming
      rw [nextPdu_eq] at whole
      exact decode_framed whole
    · cases coming
  · cases coming

/-- The frame that the read loop answers a PDU with is a response with its number. -/
theorem answer_fits {pdu frame : Bytes} {header : CommandHeader}
    (framed : CommandHeader.decode pdu = .ok header)
    (answers : session.answer endpoint pdu = some frame) :
    isResponse frame = true ∧ beU32At frame 12 = header.sequenceNumber := by
  have fits := branch_fits endpoint framed
  rw [answer_eq endpoint session framed] at answers
  split at answers
  · rename_i reply branch
    cases answers
    rw [branch] at fits
    exact fits
  · rename_i reply branch
    cases answers
    rw [branch] at fits
    exact fits.2
  · rename_i reply branch
    rw [branch] at fits
    repeat' split at answers
    all_goals cases answers
    exact fits
  · cases answers

theorem takeUp_spawned {pdu : Bytes} {request : Request}
    (spawns : endpoint.spawns pdu = some request) (cursor : Nat) :
    (session.takeUp endpoint pdu cursor).received = session.received ++ [pdu] := by
  rcases takeUp_takenUp endpoint session pdu cursor with up | ⟨header, framed, link, -⟩
  · exact up.received
  · rw [Endpoint.spawns_iff framed, link] at spawns
    cases spawns

theorem extract_received {pdu : Bytes} {cursor : Nat} {header : CommandHeader}
    (coming : session.upcoming = some (pdu, cursor)) (framed : CommandHeader.decode pdu = .ok header)
    (other : endpoint.branch header pdu ≠ .linkResp)
    (taken : session.step endpoint .extract = some next) :
    next.received = session.received ++ [pdu] := by
  rw [extract_upcoming coming] at taken
  cases taken
  exact takeUp_received framed other cursor

theorem requests_taken {pdu : Bytes} {header : CommandHeader}
    (framed : CommandHeader.decode pdu = .ok header) (request : isResponse pdu = false) :
    Requests (session.received ++ [pdu]) session.received.length header.sequenceNumber := by
  refine ⟨pdu, by simp, request, ?_⟩
  rw [(CommandHeader.decode_ok_eq framed).1]

theorem creates_caused (caused : session.Caused) {event : Event} {emission : Emission}
    (proper : session.proper endpoint event = true)
    (creates : Creates endpoint session event emission)
    (taken : session.step endpoint event = some next) : emission.Caused next.received := by
  have grown := (step_consumes taken).grows
  cases creates with
  | call sends encoded =>
    exact Emission.own_caused _ nofun (Option.some_ne_none _)
      (request_isResponse sends (of_decide_eq_true proper) encoded)
  | tick =>
    refine Emission.own_caused _ nofun (Option.some_ne_none _) ?_
    unfold isResponse
    rw [show beU32At (EnquireLink.new session.sequenceNumber).encode 4 = _ from (bare_words _).1]
    rfl
  | @respond handler place request resp asked =>
    simp only [Session.proper, asked, Option.all_some, Bool.and_eq_true,
      decide_eq_true_eq] at proper
    have requests := caused.owed (place, request)
      (List.mem_append_left _ (List.mem_of_getElem? asked))
    exact Emission.reaction_caused
      ((response_responds requests proper.1 proper.2).mono grown)
  | @unbound place cursor pdu resp asked =>
    simp only [Session.proper, asked, Bool.and_eq_true, decide_eq_true_eq] at proper
    have requests := caused.owed (place, .unbind pdu)
      (List.mem_append_right _ (by rw [asked]; exact List.mem_singleton_self _))
    have responds : Responds session.received place (Response.unbind resp).encode :=
      response_responds requests proper.1 proper.2
    exact Emission.reaction_caused (responds.mono grown)
  | @answer pdu frame cursor coming answers =>
    obtain ⟨header, framed⟩ := upcoming_framed coming
    have request : isResponse pdu = false := by
      simpa [Session.proper, coming, answersResponse, answers] using proper
    have other : endpoint.branch header pdu ≠ .linkResp := by
      intro link
      rw [answer_eq endpoint session framed, link] at answers
      cases answers
    obtain ⟨response, echoes⟩ := answer_fits framed answers
    rw [extract_received coming framed other taken]
    exact Emission.reaction_caused ((requests_taken framed request).responds response echoes)

theorem step_caused (caused : session.Caused) {event : Event}
    (proper : session.proper endpoint event = true)
    (taken : session.step endpoint event = some next) : next.Caused := by
  have grown := (step_consumes taken).grows
  refine ⟨?_, ?_⟩
  · intro emission member
    rcases step_outgoing taken emission member with old | new
    · exact (caused.outgoing emission old).mono grown
    · exact creates_caused caused proper new taken
  · intro debt member
    rcases step_owed taken debt member with old | ⟨rfl, pdu, cursor, header, coming, framed, place, handed⟩
    · exact (caused.owed debt old).mono grown
    · have fits := branch_fits endpoint framed
      have other : endpoint.branch header pdu ≠ .linkResp := by
        rcases handed with request | ⟨unbind, branch, -⟩
        · rw [request]
          nofun
        · rw [branch]
          nofun
      have request : header.commandId < 0x80000000 ∧ debt.2.header = header := by
        rcases handed with request | ⟨unbind, branch, same⟩
        · rw [request] at fits
          exact fits
        · rw [branch] at fits
          rw [same]
          exact fits
      rw [extract_received coming framed other taken, place, request.2]
      exact requests_taken framed ((isResponse_iff framed).mpr request.1)

end Causes

end Session

end Smpp34
