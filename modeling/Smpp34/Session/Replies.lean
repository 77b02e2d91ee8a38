import Smpp34.Codec.Bounds
import Smpp34.Session.Dispatch

namespace Smpp34

open Octets

section Decoders

variable {header : CommandHeader} {pdu : Bytes}

theorem SubmitSm.decode_header {request : SubmitSm} (decoded : decode header pdu = .ok request) :
    request.header = header := by
  obtain ⟨input, _, decoded⟩ := bind_ok decoded
  obtain ⟨fields, _, decoded⟩ := bind_ok decoded
  cases decoded
  rfl

theorem SubmitSmMulti.decode_header {request : SubmitSmMulti}
    (decoded : decode header pdu = .ok request) : request.header = header := by
  obtain ⟨input, _, decoded⟩ := bind_ok decoded
  obtain ⟨fields, _, decoded⟩ := bind_ok decoded
  cases decoded
  rfl

theorem DeliverSm.decode_header {request : DeliverSm}
    (decoded : decode header pdu = .ok request) : request.header = header := by
  obtain ⟨input, _, decoded⟩ := bind_ok decoded
  obtain ⟨fields, _, decoded⟩ := bind_ok decoded
  cases decoded
  rfl

theorem DataSm.decode_header {request : DataSm} (decoded : decode header pdu = .ok request) :
    request.header = header := by
  obtain ⟨input, _, decoded⟩ := bind_ok decoded
  obtain ⟨fields, _, decoded⟩ := bind_ok decoded
  cases decoded
  rfl

theorem CancelSm.decode_header {request : CancelSm} (decoded : decode header pdu = .ok request) :
    request.header = header := by
  obtain ⟨fields, _, decoded⟩ := bind_ok decoded
  cases decoded
  rfl

theorem QuerySm.decode_header {request : QuerySm} (decoded : decode header pdu = .ok request) :
    request.header = header := by
  obtain ⟨input, _, decoded⟩ := bind_ok decoded
  obtain ⟨fields, _, decoded⟩ := bind_ok decoded
  cases decoded
  rfl

theorem ReplaceSm.decode_header {request : ReplaceSm}
    (decoded : decode header pdu = .ok request) : request.header = header := by
  obtain ⟨input, _, decoded⟩ := bind_ok decoded
  obtain ⟨fields, _, decoded⟩ := bind_ok decoded
  cases decoded
  rfl

theorem decodeBare_eq {id : CommandId} (same : header.commandId = id.value) :
    decodeBare id header pdu =
      if pdu.length = 16 then .ok header else .error (.error .ESME_ROPTPARNOTALLWD) := by
  rw [decodeBare, if_pos same]

end Decoders

def Request.respCommandId : Request → Option CommandId
  | submitSm _ => some .submitSmResp
  | submitSmMulti _ => some .submitMultiResp
  | deliverSm _ => some .deliverSmResp
  | dataSm _ => some .dataSmResp
  | cancelSm _ => some .cancelSmResp
  | querySm _ => some .querySmResp
  | replaceSm _ => some .replaceSmResp
  | unbind _ => some .unbindResp
  | enquireLink _ => some .enquireLinkResp
  | bind kind _ => some kind.respCommandId
  | alertNotification _ => none
  | outbind _ => none

/-- `accept` and `reject` answer the request they are called on. -/
def Verdict.Own : Verdict → Prop
  | accept _ => True
  | reject _ => True
  | genericReject _ _ => False

structure Listener where
  respond : Request → Response
  answers : ∀ request, request.respCommandId ≠ none →
    ∃ verdict tlvs, verdict.Own ∧
      (answer request verdict).map (fun resp => resp.withTlvs tlvs) = some (respond request)

theorem answer_header {request : Request} {verdict : Verdict} {resp : Response}
    (own : verdict.Own) (obtained : answer request verdict = some resp) :
    resp.header.sequenceNumber = request.header.sequenceNumber ∧
      request.respCommandId.map CommandId.value = some resp.header.commandId := by
  cases verdict with
  | genericReject seq error => exact own.elim
  | reject error => cases request <;> cases obtained <;> exact ⟨rfl, rfl⟩
  | accept args =>
    cases request with
    | submitSm pdu =>
      obtain ⟨resp, accepted, rfl⟩ := Option.map_eq_some_iff.mp obtained
      rw [SubmitSm.accept] at accepted
      split at accepted
      · cases accepted
      · cases accepted
        exact ⟨rfl, rfl⟩
    | dataSm pdu =>
      obtain ⟨resp, accepted, rfl⟩ := Option.map_eq_some_iff.mp obtained
      rw [DataSm.accept] at accepted
      split at accepted
      · cases accepted
      · cases accepted
        exact ⟨rfl, rfl⟩
    | _ => cases obtained <;> exact ⟨rfl, rfl⟩

theorem Response.withTlvs_header (resp : Response) (tlvs : List Tlv) :
    (resp.withTlvs tlvs).header = resp.header := by
  cases resp <;> rfl

theorem header_words (header : CommandHeader) (body : Bytes) :
    beU32At (header.encode ++ body) 4 = header.commandId ∧
      beU32At (header.encode ++ body) 12 = header.sequenceNumber :=
  ⟨header.beU32At_commandId body, header.beU32At_sequenceNumber body⟩

theorem bare_words (header : CommandHeader) :
    beU32At header.encode 4 = header.commandId ∧
      beU32At header.encode 12 = header.sequenceNumber := by
  simpa using header_words header []

theorem Response.encode_words (resp : Response) :
    beU32At resp.encode 4 = resp.header.commandId ∧
      beU32At resp.encode 12 = resp.header.sequenceNumber := by
  cases resp with
  | submitSm resp => exact header_words _ _
  | submitSmMulti resp => exact header_words _ _
  | deliverSm resp => exact header_words _ _
  | dataSm resp => exact header_words _ _
  | querySm resp => exact header_words _ _
  | bind kind resp => exact header_words _ _
  | cancelSm resp => exact bare_words _
  | replaceSm resp => exact bare_words _
  | unbind resp => exact bare_words _
  | enquireLink resp => exact bare_words _
  | genericNack resp => exact bare_words _

/-- A reply the peer can correlate: the request's number, and its response or a nack. -/
def Replies (header : CommandHeader) (reply : Bytes) : Prop :=
  beU32At reply 12 = header.sequenceNumber ∧
    (beU32At reply 4 = header.commandId ||| 0x80000000 ∨
      beU32At reply 4 = CommandId.genericNack.value)

instance (header : CommandHeader) (reply : Bytes) : Decidable (Replies header reply) :=
  inferInstanceAs (Decidable (_ ∧ _))

def Branch.replies (respond : Request → Response) : Branch → List Bytes
  | request pdu => [(respond pdu).encode]
  | reply frame => [frame]
  | unbind pdu => [(respond (.unbind pdu)).encode]
  | unbindReject frame => [frame]
  | response (.refuse (some frame)) => [frame]
  | _ => []

/-- Exactly one reply is queued, and it matches. -/
def AnsweredOnce (respond : Request → Response) (header : CommandHeader) (branch : Branch) :
    Prop :=
  ∃ reply, branch.replies respond = [reply] ∧ Replies header reply

theorem Listener.respond_replies (listener : Listener) (request : Request) {header : CommandHeader}
    {id : CommandId} (same : request.header = header)
    (answerable : request.respCommandId = some id)
    (answers_to : id.value = header.commandId ||| 0x80000000) :
    Replies header (listener.respond request).encode := by
  subst same
  obtain ⟨verdict, tlvs, own, responded⟩ := listener.answers request (by simp [answerable])
  obtain ⟨resp, obtained, withTlvs⟩ := Option.map_eq_some_iff.mp responded
  obtain ⟨sequence, command⟩ := answer_header own obtained
  obtain ⟨commandWord, sequenceWord⟩ := (resp.withTlvs tlvs).encode_words
  rw [answerable] at command
  rw [← withTlvs]
  refine ⟨?_, .inl ?_⟩
  · rw [sequenceWord, Response.withTlvs_header, sequence]
  · rw [commandWord, Response.withTlvs_header, ← Option.some.inj command, answers_to]

theorem response_replies {header : CommandHeader} (resp : Response) (id : CommandId)
    (sequence : resp.header.sequenceNumber = header.sequenceNumber)
    (command : resp.header.commandId = id.value)
    (answers_to : id.value = header.commandId ||| 0x80000000) : Replies header resp.encode := by
  obtain ⟨commandWord, sequenceWord⟩ := resp.encode_words
  exact ⟨sequenceWord.trans sequence, .inl (commandWord.trans (command.trans answers_to))⟩

theorem nack_replies {header : CommandHeader} (error : SmppError) {seqNo : UInt32}
    (sequence : seqNo = header.sequenceNumber) : Replies header (nack error seqNo) := by
  obtain ⟨commandWord, sequenceWord⟩ :=
    bare_words ⟨16, CommandId.genericNack.value, error.code, seqNo⟩
  exact ⟨sequenceWord.trans sequence, .inr commandWord⟩

theorem submit_reject_not_replies {header : CommandHeader} (seqNo : UInt32) (error : SmppError)
    (other : CommandId.submitSmResp.value ≠ header.commandId ||| 0x80000000) :
    ¬ Replies header (SubmitSm.genericReject seqNo error).encode := by
  have words : beU32At (SubmitSm.genericReject seqNo error).encode 4 =
      CommandId.submitSmResp.value :=
    (Response.submitSm (SubmitSm.genericReject seqNo error)).encode_words.1
  rintro ⟨_, same | nacked⟩
  · exact other (words.symm.trans same)
  · exact absurd (words.symm.trans nacked) (by decide)

section Dispatched

variable {respond : Request → Response} {header : CommandHeader} {α : Type} {decoded : Decoded α}
  {onOk : α → Branch} {onError : SmppError → Bytes}

theorem reply_once_iff {frame : Bytes} :
    AnsweredOnce respond header (.reply frame) ↔ Replies header frame := by
  constructor
  · rintro ⟨reply, only, replies⟩
    cases only
    exact replies
  · intro replies
    exact ⟨frame, rfl, replies⟩

theorem dispatched_once (safe : decoded ≠ .error .panic)
    (accepted : ∀ value, decoded = .ok value → AnsweredOnce respond header (onOk value))
    (rejected : ∀ error, Replies header (onError error)) :
    AnsweredOnce respond header (dispatched decoded onOk onError) := by
  refine dispatched_cases ?_ ?_ ?_
  · exact accepted
  · exact fun error _ => reply_once_iff.mpr (rejected error)
  · exact fun panicked => absurd panicked safe

theorem dispatched_once_iff (safe : decoded ≠ .error .panic)
    (accepted : ∀ value, decoded = .ok value → AnsweredOnce respond header (onOk value))
    (rejected : ∀ error, ¬ Replies header (onError error)) :
    AnsweredOnce respond header (dispatched decoded onOk onError) ↔
      ∃ value, decoded = .ok value := by
  cases decoded with
  | ok value => exact iff_of_true (accepted value rfl) ⟨value, rfl⟩
  | error fault =>
    cases fault with
    | error error => exact iff_of_false (mt reply_once_iff.mp (rejected error)) (by simp)
    | panic => exact absurd rfl safe

end Dispatched

/-- The requests whose decode error is answered with the response of another kind. -/
def Misanswered (side : Side) (bound : BoundType) (header : CommandHeader) (pdu : Bytes) : Prop :=
  (header.commandId = CommandId.enquireLink.value ∧ pdu.length ≠ 16) ∨
    (header.commandId = CommandId.cancelSm.value ∧ side = .server ∧ bound.transmits ∧
      ¬ ∃ request, CancelSm.decode header pdu = .ok request) ∨
    (header.commandId = CommandId.deliverSm.value ∧ side = .client ∧ bound.receives ∧
      ¬ ∃ request, DeliverSm.decode header pdu = .ok request)

theorem not_misanswered {side : Side} {bound : BoundType} {header : CommandHeader} {pdu : Bytes}
    (link : header.commandId ≠ CommandId.enquireLink.value)
    (cancel : header.commandId ≠ CommandId.cancelSm.value)
    (deliver : header.commandId ≠ CommandId.deliverSm.value) :
    ¬ Misanswered side bound header pdu := by
  rintro (⟨same, _⟩ | ⟨same, _⟩ | ⟨same, _⟩)
  · exact link same
  · exact cancel same
  · exact deliver same

theorem not_misanswered_of_eq {side : Side} {bound : BoundType} {header : CommandHeader}
    {pdu : Bytes} {id : CommandId} (same : header.commandId = id.value)
    (link : id.value ≠ CommandId.enquireLink.value) (cancel : id.value ≠ CommandId.cancelSm.value)
    (deliver : id.value ≠ CommandId.deliverSm.value) : ¬ Misanswered side bound header pdu := by
  rw [← same] at link cancel deliver
  exact not_misanswered link cancel deliver

section Loops

variable (listener : Listener) (bound : BoundType) {header : CommandHeader} {pdu : Bytes}

theorem request_once {α : Type} {decoded : Decoded α} (wrap : α → Request)
    (reject : SmppError → Response) {id : CommandId} (safe : decoded ≠ .error .panic)
    (headers : ∀ value, decoded = .ok value → (wrap value).header = header)
    (answerable : ∀ value, (wrap value).respCommandId = some id)
    (sequence : ∀ error, (reject error).header.sequenceNumber = header.sequenceNumber)
    (command : ∀ error, (reject error).header.commandId = id.value)
    (answers_to : id.value = header.commandId ||| 0x80000000) :
    AnsweredOnce listener.respond header
      (dispatched decoded (fun value => .request (wrap value)) fun error =>
        (reject error).encode) := by
  refine dispatched_once safe ?_ fun error => ?_
  · intro value ok
    exact ⟨_, rfl, listener.respond_replies _ (headers value ok) (answerable value) answers_to⟩
  · exact response_replies (reject error) id (sequence error) (command error) answers_to

theorem request_once_iff {α : Type} {decoded : Decoded α} (wrap : α → Request) {seqNo : UInt32}
    {id : CommandId} (safe : decoded ≠ .error .panic)
    (headers : ∀ value, decoded = .ok value → (wrap value).header = header)
    (answerable : ∀ value, (wrap value).respCommandId = some id)
    (answers_to : id.value = header.commandId ||| 0x80000000)
    (other : CommandId.submitSmResp.value ≠ id.value) :
    AnsweredOnce listener.respond header
      (dispatched decoded (fun value => .request (wrap value)) fun error =>
        (SubmitSm.genericReject seqNo error).encode) ↔ ∃ value, decoded = .ok value := by
  refine dispatched_once_iff safe ?_ fun error => ?_
  · intro value ok
    exact ⟨_, rfl, listener.respond_replies _ (headers value ok) (answerable value) answers_to⟩
  · rw [answers_to] at other
    exact submit_reject_not_replies seqNo error other

theorem enquire_link_once_iff (same : header.commandId = CommandId.enquireLink.value) :
    AnsweredOnce listener.respond header
      (dispatched (EnquireLink.decode header pdu) (fun pdu => .reply pdu.accept.encode)
        fun error => (SubmitSm.genericReject (potentialSeqNo pdu) error).encode) ↔
      pdu.length = 16 := by
  have bare : EnquireLink.decode header pdu =
      if pdu.length = 16 then .ok ⟨header⟩ else .error (.error .ESME_ROPTPARNOTALLWD) := by
    rw [EnquireLink.decode, decodeBare_eq same]
    split <;> rfl
  rw [bare]
  split
  · rename_i empty
    refine iff_of_true ?_ empty
    refine reply_once_iff.mpr (response_replies (.enquireLink _) .enquireLinkResp rfl rfl ?_)
    rw [same]
    decide
  · rename_i body
    refine iff_of_false ?_ body
    refine mt reply_once_iff.mp (submit_reject_not_replies _ _ ?_)
    rw [same]
    decide

theorem enquire_link_misanswered_iff {side : Side}
    (same : header.commandId = CommandId.enquireLink.value) :
    ¬ Misanswered side bound header pdu ↔ pdu.length = 16 := by
  simp only [Misanswered, same, show CommandId.enquireLink.value ≠ CommandId.cancelSm.value by decide,
    show CommandId.enquireLink.value ≠ CommandId.deliverSm.value by decide, true_and, false_and,
    or_false, not_not, ne_eq]

theorem not_response_id {id : CommandId} (request : header.commandId < 0x80000000)
    (response : ¬ id.value < 0x80000000) : ¬ header.commandId = id.value := by
  intro same
  rw [same] at request
  exact response request

variable (framed : CommandHeader.decode pdu = .ok header)

include framed

theorem potentialSeqNo_framed : potentialSeqNo pdu = header.sequenceNumber := by
  obtain ⟨rfl, long, -⟩ := CommandHeader.decode_ok_eq framed
  rw [potentialSeqNo, if_pos long]

theorem data_sm_once (same : header.commandId = CommandId.dataSm.value) :
    AnsweredOnce listener.respond header
      (dispatched (DataSm.decode header pdu) (fun pdu => .request (.dataSm pdu))
        fun error => (DataSm.genericReject (potentialSeqNo pdu) error).encode) :=
  request_once listener .dataSm (fun error => .dataSm (DataSm.genericReject _ error))
    DataSm.decode_ne_panic (fun _ => DataSm.decode_header) (fun _ => rfl)
    (fun _ => potentialSeqNo_framed framed) (fun _ => rfl) (by rw [same]; decide)

theorem unbind_once (same : header.commandId = CommandId.unbind.value) :
    AnsweredOnce listener.respond header
      (unbindBranch (Unbind.decode header pdu) (potentialSeqNo pdu)) := by
  have answers_to : CommandId.unbindResp.value = header.commandId ||| 0x80000000 := by
    rw [same]
    decide
  have bare : Unbind.decode header pdu =
      if pdu.length = 16 then .ok ⟨header⟩ else .error (.error .ESME_ROPTPARNOTALLWD) := by
    rw [Unbind.decode, decodeBare_eq same]
    split <;> rfl
  rw [bare]
  split
  · exact ⟨_, rfl, listener.respond_replies (.unbind ⟨header⟩) rfl rfl answers_to⟩
  · exact ⟨_, rfl, response_replies (.unbind (Unbind.genericReject _ _)) .unbindResp
      (potentialSeqNo_framed framed) rfl answers_to⟩

theorem server_once_iff (request : header.commandId < 0x80000000) :
    AnsweredOnce listener.respond header (serverBranch bound header pdu) ↔
      ¬ Misanswered .server bound header pdu := by
  have long : 16 ≤ pdu.length := (CommandHeader.decode_ok_eq framed).2.1
  have sequence := potentialSeqNo_framed framed
  rw [serverBranch]
  by_cases submit : header.commandId = CommandId.submitSm.value ∧ bound.transmits
  · rw [if_pos submit]
    refine iff_of_true ?_ (not_misanswered_of_eq submit.1 (by decide) (by decide) (by decide))
    exact request_once listener .submitSm (fun error => .submitSm (SubmitSm.genericReject _ error))
      SubmitSm.decode_ne_panic (fun _ => SubmitSm.decode_header) (fun _ => rfl)
      (fun _ => sequence) (fun _ => rfl) (by rw [submit.1]; decide)
  rw [if_neg submit]
  by_cases multi : header.commandId = CommandId.submitMulti.value ∧ bound.transmits
  · rw [if_pos multi]
    refine iff_of_true ?_ (not_misanswered_of_eq multi.1 (by decide) (by decide) (by decide))
    exact request_once listener .submitSmMulti
      (fun error => .submitSmMulti (SubmitSmMulti.genericReject _ error))
      (SubmitSmMulti.decode_ne_panic_iff.mpr long) (fun _ => SubmitSmMulti.decode_header) (fun _ => rfl)
      (fun _ => sequence) (fun _ => rfl) (by rw [multi.1]; decide)
  rw [if_neg multi]
  by_cases data : header.commandId = CommandId.dataSm.value
  · rw [if_pos data]
    exact iff_of_true (data_sm_once listener framed data)
      (not_misanswered_of_eq data (by decide) (by decide) (by decide))
  rw [if_neg data]
  by_cases cancel : header.commandId = CommandId.cancelSm.value ∧ bound.transmits
  · rw [if_pos cancel]
    refine Iff.trans (request_once_iff listener .cancelSm CancelSm.decode_ne_panic
      (fun _ => CancelSm.decode_header) (fun _ => rfl) (by rw [cancel.1]; decide) (by decide)) ?_
    simp [Misanswered, cancel.1, cancel.2, CommandId.value]
  rw [if_neg cancel]
  by_cases query : header.commandId = CommandId.querySm.value ∧ bound.transmits
  · rw [if_pos query]
    refine iff_of_true ?_ (not_misanswered_of_eq query.1 (by decide) (by decide) (by decide))
    exact request_once listener .querySm (fun error => .querySm (QuerySm.genericReject _ error))
      QuerySm.decode_ne_panic (fun _ => QuerySm.decode_header) (fun _ => rfl)
      (fun _ => sequence) (fun _ => rfl) (by rw [query.1]; decide)
  rw [if_neg query]
  by_cases replace : header.commandId = CommandId.replaceSm.value ∧ bound.transmits
  · rw [if_pos replace]
    refine iff_of_true ?_ (not_misanswered_of_eq replace.1 (by decide) (by decide) (by decide))
    exact request_once listener .replaceSm
      (fun error => .replaceSm (ReplaceSm.genericReject _ error)) ReplaceSm.decode_ne_panic
      (fun _ => ReplaceSm.decode_header) (fun _ => rfl) (fun _ => sequence) (fun _ => rfl)
      (by rw [replace.1]; decide)
  rw [if_neg replace]
  by_cases link : header.commandId = CommandId.enquireLink.value
  · rw [if_pos link, enquire_link_misanswered_iff bound link]
    exact enquire_link_once_iff listener link
  rw [if_neg link, if_neg (not_response_id request (by decide))]
  by_cases unbind : header.commandId = CommandId.unbind.value
  · rw [if_pos unbind]
    exact iff_of_true (unbind_once listener framed unbind)
      (not_misanswered_of_eq unbind (by decide) (by decide) (by decide))
  rw [if_neg unbind, if_neg fun both => not_response_id request (by decide) both.1,
    if_neg (not_response_id request (by decide)), if_neg (not_response_id request (by decide))]
  refine iff_of_true (reply_once_iff.mpr (nack_replies _ sequence)) ?_
  rintro (⟨same, _⟩ | ⟨same, _, transmits, _⟩ | ⟨_, client, _⟩)
  · exact link same
  · exact cancel ⟨same, transmits⟩
  · cases client

theorem client_once_iff (request : header.commandId < 0x80000000)
    (notAlert : header.commandId ≠ CommandId.alertNotification.value) :
    AnsweredOnce listener.respond header (clientBranch bound header pdu) ↔
      ¬ Misanswered .client bound header pdu := by
  have sequence := potentialSeqNo_framed framed
  rw [clientBranch]
  by_cases deliver : header.commandId = CommandId.deliverSm.value ∧ bound.receives
  · rw [if_pos deliver]
    refine Iff.trans (request_once_iff listener .deliverSm DeliverSm.decode_ne_panic
      (fun _ => DeliverSm.decode_header) (fun _ => rfl) (by rw [deliver.1]; decide)
      (by decide)) ?_
    simp [Misanswered, deliver.1, deliver.2, CommandId.value]
  rw [if_neg deliver]
  by_cases data : header.commandId = CommandId.dataSm.value
  · rw [if_pos data]
    exact iff_of_true (data_sm_once listener framed data)
      (not_misanswered_of_eq data (by decide) (by decide) (by decide))
  rw [if_neg data, if_neg fun both => not_response_id request (by decide) both.1,
    if_neg fun both => not_response_id request (by decide) both.1,
    if_neg fun both => not_response_id request (by decide) both.1,
    if_neg (not_response_id request (by decide)), if_neg (not_response_id request (by decide)),
    if_neg (not_response_id request (by decide)), if_neg notAlert]
  by_cases link : header.commandId = CommandId.enquireLink.value
  · rw [if_pos link, enquire_link_misanswered_iff bound link]
    exact enquire_link_once_iff listener link
  rw [if_neg link, if_neg (not_response_id request (by decide))]
  by_cases unbind : header.commandId = CommandId.unbind.value
  · rw [if_pos unbind]
    exact iff_of_true (unbind_once listener framed unbind)
      (not_misanswered_of_eq unbind (by decide) (by decide) (by decide))
  rw [if_neg unbind, if_neg (not_response_id request (by decide)),
    if_neg (not_response_id request (by decide))]
  refine iff_of_true (reply_once_iff.mpr (nack_replies _ sequence)) ?_
  rintro (⟨same, _⟩ | ⟨_, server, _⟩ | ⟨same, _, receives, _⟩)
  · exact link same
  · cases server
  · exact deliver ⟨same, receives⟩

end Loops

/-- One matching reply is queued for a framed request exactly when its kind's decode error, if it
    has one, is not answered with the response of another kind. -/
theorem request_answered_once_iff (side : Side) (bound : BoundType) (listener : Listener)
    (header : CommandHeader) (pdu : Bytes) (framed : CommandHeader.decode pdu = .ok header)
    (request : header.commandId < 0x80000000)
    (notAlert : header.commandId ≠ CommandId.alertNotification.value) :
    AnsweredOnce listener.respond header (side.branch bound header pdu) ↔
      ¬ Misanswered side bound header pdu := by
  cases side with
  | server => exact server_once_iff listener bound framed request
  | client => exact client_once_iff listener bound framed request notAlert

def rejecting : Listener where
  respond request :=
    (answer request (.reject .ESME_RSYSERR)).getD (.genericNack (.new .ESME_RSYSERR 0))
  answers request answerable := by
    refine ⟨.reject .ESME_RSYSERR, [], trivial, ?_⟩
    cases request <;> first | rfl | exact absurd rfl answerable

theorem enquire_link_answered_once :
    AnsweredOnce rejecting.respond ⟨16, 0x15, 0, 9⟩
      (Side.client.branch .rx ⟨16, 0x15, 0, 9⟩ (EnquireLink.new 9).encode) :=
  (request_answered_once_iff .client .rx rejecting _ _ (by decide) (by decide) (by decide)).mpr
    ((enquire_link_misanswered_iff .rx rfl).mpr rfl)

theorem long_enquire_link_misanswered :
    let pdu : Bytes := [0, 0, 0, 17, 0, 0, 0, 0x15, 0, 0, 0, 0, 0, 0, 0, 9, 0]
    ∃ header, CommandHeader.decode pdu = .ok header ∧
      (Side.server.branch .trx header pdu).replies rejecting.respond =
        [[0, 0, 0, 16, 0x80, 0, 0, 4, 0, 0, 0, 0xC1, 0, 0, 0, 9]] ∧
      ¬ AnsweredOnce rejecting.respond header (Side.server.branch .trx header pdu) := by
  refine ⟨⟨17, 0x15, 0, 9⟩, by decide, by decide, ?_⟩
  rintro ⟨reply, only, replies⟩
  have sent : (Side.server.branch .trx ⟨17, 0x15, 0, 9⟩
      [0, 0, 0, 17, 0, 0, 0, 0x15, 0, 0, 0, 0, 0, 0, 0, 9, 0]).replies rejecting.respond =
      [[0, 0, 0, 16, 0x80, 0, 0, 4, 0, 0, 0, 0xC1, 0, 0, 0, 9]] := by decide
  rw [sent] at only
  cases only
  exact absurd replies (by decide)

end Smpp34
