import Smpp34.Codec.Responses
import Smpp34.Session.Framing
import Smpp34.Session.Writer

namespace Smpp34

open Octets
open Utf8 (Str)

/-- What the server sends for the first PDU, and the bound state it goes to once that is out. -/
structure Reply where
  pdu : Bytes
  bound : Option BindKind
deriving DecidableEq, Repr

abbrev OnBind := (kind : BindKind) → BindRequest kind → BindResp kind

section Server

variable (onBind : OnBind)

/-- One of the three bind branches. A decoder that panics takes the connection's task with it. -/
def bindReply (kind : BindKind) (header : CommandHeader) (pdu : Bytes) : Option Reply :=
  match BindRequest.decode kind header pdu with
  | .ok request =>
    let resp := onBind kind request
    some ⟨resp.encode, if resp.isSuccess then some kind else none⟩
  | .error (.error error) =>
    some ⟨(BindRequest.genericReject kind (potentialSeqNo pdu) error).encode, none⟩
  | .error .panic => none

def serverReply (pdu : Bytes) : Option Reply :=
  match CommandHeader.decode pdu with
  | .ok header =>
    if header.commandId = CommandId.bindReceiver.value then bindReply onBind .receiver header pdu
    else if header.commandId = CommandId.bindTransmitter.value then
      bindReply onBind .transmitter header pdu
    else if header.commandId = CommandId.bindTransceiver.value then
      bindReply onBind .transceiver header pdu
    else some ⟨(GenericNack.new .ESME_RINVBNDSTS (potentialSeqNo pdu)).encode, none⟩
  | .error error => some ⟨(GenericNack.new error (potentialSeqNo pdu)).encode, none⟩

/-- An accepted bind is answered with one `write`, whose failure keeps the session from opening;
    everything else is answered with `write_all`, and the connection is closed. -/
def Reply.send (reply : Reply) (outcomes : List WriteOutcome) : Bytes × Option BindKind :=
  match reply.bound, outcomes with
  | some kind, outcome :: _ =>
    (write reply.pdu outcome, if outcome = .failed then none else some kind)
  | some _, [] => ([], none)
  | none, outcomes => (writeAll reply.pdu outcomes, none)

/-- The server's handshake: what it writes before the connection is bound or closed, and the state
    it is bound to. -/
def serverHandshake (reads : List Bytes) (outcomes : List WriteOutcome) :
    Bytes × Option BindKind :=
  match serverReply onBind (firstRead [] reads).1 with
  | some reply => reply.send outcomes
  | none => ([], none)

end Server

/-- The listener answers a bind through `accept`, or through `reject` with an error. -/
def OnBind.Answers (onBind : OnBind) : Prop :=
  ∀ kind (request : BindRequest kind),
    (∃ systemId version, onBind kind request = request.accept systemId version) ∨
      ∃ error, error ≠ SmppError.ESME_ROK ∧ onBind kind request = request.reject error

inductive Answer (onBind : OnBind) (stream : Bytes) : Bytes → Option BindKind → Prop
  | accepted {size : Nat} {kind : BindKind} {header : CommandHeader} {request : BindRequest kind}
      (framed : frameFirstPdu stream maxPduLen = .complete size)
      (headed : CommandHeader.decode (stream.take size) = .ok header)
      (asked : header.commandId = kind.commandId.value)
      (decoded : BindRequest.decode kind header (stream.take size) = .ok request)
      (named : (onBind kind request).header.commandId = kind.respCommandId.value)
      (success : (onBind kind request).header.commandStatus = SmppError.ESME_ROK.code)
      (echoed : (onBind kind request).header.sequenceNumber = header.sequenceNumber) :
      Answer onBind stream (onBind kind request).encode (some kind)
  | refused {size : Nat} {kind : BindKind} {header : CommandHeader} {request : BindRequest kind}
      {error : SmppError} (framed : frameFirstPdu stream maxPduLen = .complete size)
      (headed : CommandHeader.decode (stream.take size) = .ok header)
      (asked : header.commandId = kind.commandId.value)
      (decoded : BindRequest.decode kind header (stream.take size) = .ok request)
      (rejected : onBind kind request = request.reject error) (failure : error ≠ .ESME_ROK) :
      Answer onBind stream
        (CommandHeader.encode ⟨16, kind.respCommandId.value, error.code, header.sequenceNumber⟩)
        none
  | malformed {size : Nat} {kind : BindKind} {header : CommandHeader} {fault : Fault}
      (framed : frameFirstPdu stream maxPduLen = .complete size)
      (headed : CommandHeader.decode (stream.take size) = .ok header)
      (asked : header.commandId = kind.commandId.value)
      (undecoded : BindRequest.decode kind header (stream.take size) = .error fault) :
      Answer onBind stream
        (CommandHeader.encode ⟨16, kind.respCommandId.value, SmppError.ESME_RINVPARLEN.code,
          header.sequenceNumber⟩) none
  | otherPdu {size : Nat} {header : CommandHeader}
      (framed : frameFirstPdu stream maxPduLen = .complete size)
      (headed : CommandHeader.decode (stream.take size) = .ok header)
      (noBind : ∀ kind : BindKind, header.commandId ≠ kind.commandId.value) :
      Answer onBind stream
        (CommandHeader.encode ⟨16, CommandId.genericNack.value, SmppError.ESME_RINVBNDSTS.code,
          header.sequenceNumber⟩) none
  | unframed (noPdu : ∀ size, frameFirstPdu stream maxPduLen ≠ .complete size) :
      Answer onBind stream
        (CommandHeader.encode ⟨16, CommandId.genericNack.value, SmppError.ESME_RINVCMDLEN.code, 0⟩)
        none

theorem BindRequest.decode_cases (kind : BindKind) (header : CommandHeader) {pdu : Bytes}
    (long : 16 ≤ pdu.length) :
    (∃ request, BindRequest.decode kind header pdu = .ok request ∧ request.header = header) ∨
      BindRequest.decode kind header pdu = .error (.error .ESME_RINVPARLEN) := by
  have body : checkedBodyOf pdu = .ok (pdu.drop 16) := by
    rw [checkedBodyOf, if_neg (by omega), bodyOf, if_pos long]
  rw [BindRequest.decode, ok_bind body, readBody]
  cases BindFields.read (pdu.drop 16) with
  | none => exact .inr rfl
  | some result => exact .inl ⟨_, rfl, rfl⟩

theorem BindRequest.genericReject_encode (kind : BindKind) (seq : UInt32) {error : SmppError}
    (failure : error ≠ .ESME_ROK) :
    (BindRequest.genericReject kind seq error).encode =
      CommandHeader.encode ⟨16, kind.respCommandId.value, error.code, seq⟩ := by
  rw [BindRequest.genericReject, BindResp.encode, if_neg (mt (code_eq_iff error).mp failure)]
  exact List.append_nil _

theorem potentialSeqNo_eq {pdu : Bytes} {header : CommandHeader}
    (headed : CommandHeader.decode pdu = .ok header) :
    16 ≤ pdu.length ∧ potentialSeqNo pdu = header.sequenceNumber := by
  have long := ((CommandHeader.decode_ok_iff pdu).mp ⟨header, headed⟩).1
  rw [CommandHeader.decode, if_neg (by omega)] at headed
  dsimp only at headed
  split at headed
  · cases headed
  · cases headed
    exact ⟨long, if_pos long⟩

section Answered

variable {onBind : OnBind} {stream : Bytes} {size : Nat} {header : CommandHeader}
variable (answers : onBind.Answers) (framed : frameFirstPdu stream maxPduLen = .complete size)
variable (headed : CommandHeader.decode (stream.take size) = .ok header)

include answers framed headed in
theorem bindReply_answer {kind : BindKind} (asked : header.commandId = kind.commandId.value) :
    ∃ reply, bindReply onBind kind header (stream.take size) = some reply ∧
      Answer onBind stream reply.pdu reply.bound := by
  obtain ⟨long, number⟩ := potentialSeqNo_eq headed
  rcases BindRequest.decode_cases kind header long with ⟨request, decoded, kept⟩ | undecoded
  · rw [bindReply, decoded]
    refine ⟨_, rfl, ?_⟩
    rcases answers kind request with ⟨systemId, version, accepted⟩ | ⟨error, failure, rejected⟩
    · have success : (onBind kind request).isSuccess = true := by
        rw [accepted]
        rfl
      have echoed : (onBind kind request).header.sequenceNumber = header.sequenceNumber := by
        rw [accepted, ← kept]
        rfl
      dsimp only
      rw [if_pos success]
      exact .accepted framed headed asked decoded (by rw [accepted]; rfl) (by rw [accepted]; rfl)
        echoed
    · have failed : (onBind kind request).isSuccess = false := by
        rw [rejected]
        exact decide_eq_false (mt (code_eq_iff error).mp failure)
      have bare : (onBind kind request).encode = CommandHeader.encode
          ⟨16, kind.respCommandId.value, error.code, header.sequenceNumber⟩ := by
        rw [rejected, ← kept]
        exact BindRequest.genericReject_encode kind _ failure
      dsimp only
      rw [failed, bare]
      exact .refused framed headed asked decoded rejected failure
  · rw [bindReply, undecoded]
    refine ⟨_, rfl, ?_⟩
    dsimp only
    rw [number, BindRequest.genericReject_encode kind _ (by decide)]
    exact .malformed framed headed asked undecoded

include answers framed headed in
theorem serverReply_answer :
    ∃ reply, serverReply onBind (stream.take size) = some reply ∧
      Answer onBind stream reply.pdu reply.bound := by
  have number := (potentialSeqNo_eq headed).2
  rw [serverReply, headed]
  dsimp only
  split
  · rename_i asked
    exact bindReply_answer answers framed headed asked
  · rename_i noReceiver
    split
    · rename_i asked
      exact bindReply_answer answers framed headed asked
    · rename_i noTransmitter
      split
      · rename_i asked
        exact bindReply_answer answers framed headed asked
      · rename_i noTransceiver
        refine ⟨_, rfl, ?_⟩
        rw [number]
        apply Answer.otherPdu framed headed
        intro kind
        cases kind with
        | receiver => exact noReceiver
        | transmitter => exact noTransmitter
        | transceiver => exact noTransceiver

end Answered

theorem Reply.send_whole {reply : Reply} {outcomes : List WriteOutcome}
    (whole : outcomes.head? = some (.accepted reply.pdu.length)) :
    reply.send outcomes = (reply.pdu, reply.bound) := by
  obtain ⟨later, rfl⟩ := List.head?_eq_some_iff.mp whole
  obtain ⟨pdu, bound⟩ := reply
  cases bound with
  | some kind =>
    have all : write pdu (.accepted pdu.length) = pdu := List.take_length
    exact congrArg (·, some kind) all
  | none =>
    have all : writeAll pdu (.accepted pdu.length :: later) = pdu := by
      rw [writeAll]
      split
      · rename_i empty
        exact empty.symm
      · rw [List.take_length, List.drop_length]
        cases later with
        | nil => exact List.append_nil pdu
        | cons outcome later => cases outcome <;> exact List.append_nil pdu
    exact congrArg (·, none) all

theorem Answer.self_delimiting_iff {onBind : OnBind} {stream written : Bytes}
    {bound : Option BindKind} (answers : onBind.Answers)
    (answer : Answer onBind stream written bound) :
    SelfDelimiting written ↔ written.length < 2 ^ 32 := by
  refine ⟨?_, ?_⟩
  · intro told
    rw [← told]
    exact UInt32.toNat_lt _
  · intro small
    cases answer with
    | @accepted size kind header request framed headed asked decoded named success echoed =>
      rcases answers kind request with ⟨systemId, version, accepted⟩ | ⟨error, failure, rejected⟩
      · rw [accepted] at small ⊢
        exact request.accept_self_delimiting systemId version small
      · rw [rejected] at success
        exact absurd ((code_eq_iff error).mp success) failure
    | refused | malformed | otherPdu | unframed => exact bare_self_delimiting _ _ _

/-- Whatever the peer sends and however it is cut into reads, the server answers with one PDU, and
only an accepted bind is followed by a bound state. -/
theorem server_handshake_answers (onBind : OnBind) (answers : onBind.Answers) (reads : List Bytes)
    (nonempty : [] ∉ reads) (outcomes : List WriteOutcome)
    (whole : ∀ reply, serverReply onBind (firstRead [] reads).1 = some reply →
      outcomes.head? = some (.accepted reply.pdu.length)) :
    Answer onBind reads.flatten (serverHandshake onBind reads outcomes).1
        (serverHandshake onBind reads outcomes).2 ∧
      (SelfDelimiting (serverHandshake onBind reads outcomes).1 ↔
        (serverHandshake onBind reads outcomes).1.length < 2 ^ 32) := by
  obtain ⟨reply, replied, answer⟩ : ∃ reply,
      serverReply onBind (firstRead [] reads).1 = some reply ∧
        Answer onBind reads.flatten reply.pdu reply.bound := by
    by_cases complete : ∃ size, frameFirstPdu reads.flatten maxPduLen = .complete size
    · obtain ⟨size, framed⟩ := complete
      obtain ⟨leftover, rest, first, -⟩ := firstRead_complete [] reads nonempty size framed
      obtain ⟨header, headed⟩ := decode_framed framed
      rw [first]
      exact serverReply_answer answers framed headed
    · have noPdu : ∀ size, frameFirstPdu reads.flatten maxPduLen ≠ .complete size :=
        fun size framed => complete ⟨size, framed⟩
      rw [firstRead_nothing [] reads nonempty noPdu]
      exact ⟨_, rfl, .unframed noPdu⟩
  have sent : serverHandshake onBind reads outcomes = (reply.pdu, reply.bound) := by
    rw [serverHandshake, replied]
    exact Reply.send_whole (whole reply replied)
  rw [sent]
  exact ⟨answer, answer.self_delimiting_iff answers⟩

def welcoming (systemId : Str) : OnBind := fun _ request => request.accept systemId none

theorem welcoming_answers (systemId : Str) : (welcoming systemId).Answers :=
  fun _ _ => .inl ⟨systemId, none, rfl⟩

def bareBind : BindRequest .receiver :=
  ⟨⟨Str.empty, Str.empty, Str.empty, 0x34, 0, 0, Str.empty⟩,
    ⟨23, CommandId.bindReceiver.value, SmppError.ESME_ROK.code, 1⟩⟩

theorem bind_in_pieces_is_answered :
    let reads : List Bytes := [bareBind.encode.take 5, bareBind.encode.drop 5]
    let written := (bareBind.accept Str.empty none).encode
    serverHandshake (welcoming Str.empty) reads [.accepted 17] = (written, some .receiver) ∧
      Answer (welcoming Str.empty) reads.flatten written (some .receiver) := by
  intro reads written
  have sent : serverHandshake (welcoming Str.empty) reads [.accepted 17] =
      (written, some .receiver) := rfl
  refine ⟨sent, ?_⟩
  have whole : ∀ reply, serverReply (welcoming Str.empty) (firstRead [] reads).1 = some reply →
      [WriteOutcome.accepted 17].head? = some (.accepted reply.pdu.length) := by
    intro reply replied
    cases replied
    rfl
  have answered := server_handshake_answers (welcoming Str.empty) (welcoming_answers Str.empty)
    reads (by decide) [.accepted 17] whole
  rw [sent] at answered
  exact answered.1

theorem BindRequest.accept_length {kind : BindKind} (request : BindRequest kind) (systemId : Str) :
    (request.accept systemId none).encode.length = 16 + (systemId.len + 1) := by
  rw [BindRequest.accept, BindResp.encode, if_pos rfl]
  simp only [List.length_append, CommandHeader.encode_length, List.length_singleton]
  rfl

theorem bareBind_welcome (systemId : Str) :
    serverReply (welcoming systemId) (firstRead [] [bareBind.encode]).1 =
      some ⟨(bareBind.accept systemId none).encode, some .receiver⟩ := rfl

theorem long_system_id_not_self_delimiting :
    let onBind := welcoming (letters (2 ^ 32))
    let outcomes : List WriteOutcome :=
      [.accepted (bareBind.accept (letters (2 ^ 32)) none).encode.length]
    onBind.Answers ∧ [] ∉ [bareBind.encode] ∧
      (∀ reply, serverReply onBind (firstRead [] [bareBind.encode]).1 = some reply →
        outcomes.head? = some (.accepted reply.pdu.length)) ∧
      ¬ SelfDelimiting (serverHandshake onBind [bareBind.encode] outcomes).1 := by
  intro onBind outcomes
  have replied := bareBind_welcome (letters (2 ^ 32))
  have sent : serverHandshake onBind [bareBind.encode] outcomes =
      ((bareBind.accept (letters (2 ^ 32)) none).encode, some .receiver) := by
    rw [serverHandshake, replied]
    exact Reply.send_whole rfl
  refine ⟨welcoming_answers _, by decide, ?_, ?_⟩
  · intro reply same
    rw [replied] at same
    cases same
    rfl
  · rw [sent]
    intro told
    have small : (bareBind.accept (letters (2 ^ 32)) none).encode.length < 2 ^ 32 := by
      rw [← told]
      exact UInt32.toNat_lt _
    have size : (letters (2 ^ 32)).len = 2 ^ 32 := List.length_replicate
    rw [BindRequest.accept_length, size] at small
    omega

end Smpp34
