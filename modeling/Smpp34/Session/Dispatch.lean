import Smpp34.Session.Framing

namespace Smpp34

open Octets

inductive BoundType where
  | rx
  | tx
  | trx
deriving DecidableEq, Repr

def BoundType.transmits (bound : BoundType) : Bool := bound = .tx || bound = .trx

def BoundType.receives (bound : BoundType) : Bool := bound = .rx || bound = .trx

/-- What the loop does with a response it had a request for. -/
inductive Settlement where
  | deliver (resp : Response) (closes : Bool)
  | refuse (reply : Option Bytes)
  | panic
deriving DecidableEq

/-- What the loop does with a PDU whose header is sound. -/
inductive Branch where
  | request (pdu : Request)
  | alert (pdu : AlertNotification)
  | reply (frame : Bytes)
  | unbind (pdu : Unbind)
  | unbindReject (frame : Bytes)
  | linkResp
  | response (settlement : Settlement)
  | panic
deriving DecidableEq

def nack (error : SmppError) (sequenceNumber : UInt32) : Bytes :=
  CommandHeader.encode ⟨16, CommandId.genericNack.value, error.code, sequenceNumber⟩

def dispatched {α : Type} (decoded : Decoded α) (onOk : α → Branch)
    (onError : SmppError → Bytes) : Branch :=
  match decoded with
  | .ok pdu => onOk pdu
  | .error (.error error) => .reply (onError error)
  | .error .panic => .panic

def settled {α : Type} (decoded : Decoded α) (onOk : α → Response) (closes : Bool)
    (onError : SmppError → Option Bytes) : Branch :=
  match decoded with
  | .ok resp => .response (.deliver (onOk resp) closes)
  | .error (.error error) => .response (.refuse (onError error))
  | .error .panic => .response .panic

def unbindBranch (decoded : Decoded Unbind) (sequenceNumber : UInt32) : Branch :=
  match decoded with
  | .ok pdu => .unbind pdu
  | .error (.error error) => .unbindReject (Unbind.genericReject sequenceNumber error).encode
  | .error .panic => .panic

section Cases

variable {α : Type} {decoded : Decoded α} {motive : Branch → Prop}

@[elab_as_elim]
theorem dispatched_cases {onOk : α → Branch} {onError : SmppError → Bytes}
    (accepted : ∀ value, decoded = .ok value → motive (onOk value))
    (rejected : ∀ error, decoded = .error (.error error) → motive (.reply (onError error)))
    (panicked : decoded = .error .panic → motive .panic) :
    motive (dispatched decoded onOk onError) := by
  cases decoded with
  | ok value => exact accepted value rfl
  | error fault =>
    cases fault with
    | error error => exact rejected error rfl
    | panic => exact panicked rfl

@[elab_as_elim]
theorem settled_cases {onOk : α → Response} {closes : Bool} {onError : SmppError → Option Bytes}
    (delivered : ∀ value, decoded = .ok value → motive (.response (.deliver (onOk value) closes)))
    (refused : ∀ error, decoded = .error (.error error) →
      motive (.response (.refuse (onError error))))
    (panicked : decoded = .error .panic → motive (.response .panic)) :
    motive (settled decoded onOk closes onError) := by
  cases decoded with
  | ok value => exact delivered value rfl
  | error fault =>
    cases fault with
    | error error => exact refused error rfl
    | panic => exact panicked rfl

@[elab_as_elim]
theorem unbindBranch_cases {decoded : Decoded Unbind} {number : UInt32}
    (accepted : ∀ unbind, decoded = .ok unbind → motive (.unbind unbind))
    (rejected : ∀ error, decoded = .error (.error error) →
      motive (.unbindReject (Unbind.genericReject number error).encode))
    (panicked : decoded = .error .panic → motive .panic) :
    motive (unbindBranch decoded number) := by
  cases decoded with
  | ok unbind => exact accepted unbind rfl
  | error fault =>
    cases fault with
    | error error => exact rejected error rfl
    | panic => exact panicked rfl

end Cases

def serverBranch (bound : BoundType) (header : CommandHeader) (pdu : Bytes) : Branch :=
  let seqNo := potentialSeqNo pdu
  let submitReject := fun error => (SubmitSm.genericReject seqNo error).encode
  if header.commandId = CommandId.submitSm.value ∧ bound.transmits then
    dispatched (SubmitSm.decode header pdu) (fun pdu => .request (.submitSm pdu)) submitReject
  else if header.commandId = CommandId.submitMulti.value ∧ bound.transmits then
    dispatched (SubmitSmMulti.decode header pdu) (fun pdu => .request (.submitSmMulti pdu))
      fun error => (SubmitSmMulti.genericReject seqNo error).encode
  else if header.commandId = CommandId.dataSm.value then
    dispatched (DataSm.decode header pdu) (fun pdu => .request (.dataSm pdu))
      fun error => (DataSm.genericReject seqNo error).encode
  else if header.commandId = CommandId.cancelSm.value ∧ bound.transmits then
    dispatched (CancelSm.decode header pdu) (fun pdu => .request (.cancelSm pdu)) submitReject
  else if header.commandId = CommandId.querySm.value ∧ bound.transmits then
    dispatched (QuerySm.decode header pdu) (fun pdu => .request (.querySm pdu))
      fun error => (QuerySm.genericReject seqNo error).encode
  else if header.commandId = CommandId.replaceSm.value ∧ bound.transmits then
    dispatched (ReplaceSm.decode header pdu) (fun pdu => .request (.replaceSm pdu))
      fun error => (ReplaceSm.genericReject seqNo error).encode
  else if header.commandId = CommandId.enquireLink.value then
    dispatched (EnquireLink.decode header pdu) (fun pdu => .reply pdu.accept.encode) submitReject
  else if header.commandId = CommandId.enquireLinkResp.value then .linkResp
  else if header.commandId = CommandId.unbind.value then
    unbindBranch (Unbind.decode header pdu) seqNo
  else if header.commandId = CommandId.deliverSmResp.value ∧ bound.transmits then
    settled (DeliverSmResp.decode header pdu) .deliverSm false fun error =>
      some (submitReject error)
  else if header.commandId = CommandId.dataSmResp.value then
    settled (DataSmResp.decode header pdu) .dataSm false fun error => some (submitReject error)
  else if header.commandId = CommandId.genericNack.value then
    settled (GenericNack.decode header pdu) .genericNack false fun _ => none
  else .reply (nack .ESME_RINVCMDID seqNo)

def clientBranch (bound : BoundType) (header : CommandHeader) (pdu : Bytes) : Branch :=
  let seqNo := potentialSeqNo pdu
  let submitReject := fun error => (SubmitSm.genericReject seqNo error).encode
  let nacked := fun error => some (nack error seqNo)
  if header.commandId = CommandId.deliverSm.value ∧ bound.receives then
    dispatched (DeliverSm.decode header pdu) (fun pdu => .request (.deliverSm pdu)) submitReject
  else if header.commandId = CommandId.dataSm.value then
    dispatched (DataSm.decode header pdu) (fun pdu => .request (.dataSm pdu))
      fun error => (DataSm.genericReject seqNo error).encode
  else if header.commandId = CommandId.submitSmResp.value ∧ bound.transmits then
    settled (SubmitSmResp.decode header pdu) .submitSm false nacked
  else if header.commandId = CommandId.submitMultiResp.value ∧ bound.transmits then
    settled (SubmitSmMultiResp.decode header pdu) .submitSmMulti false nacked
  else if header.commandId = CommandId.dataSmResp.value ∧ bound.transmits then
    settled (DataSmResp.decode header pdu) .dataSm false nacked
  else if header.commandId = CommandId.cancelSmResp.value then
    settled (CancelSmResp.decode header pdu) .cancelSm false nacked
  else if header.commandId = CommandId.querySmResp.value then
    settled (QuerySmResp.decode header pdu) .querySm false nacked
  else if header.commandId = CommandId.replaceSmResp.value then
    settled (ReplaceSmResp.decode header pdu) .replaceSm false nacked
  else if header.commandId = CommandId.alertNotification.value then
    dispatched (AlertNotification.decode header pdu) .alert fun error => nack error seqNo
  else if header.commandId = CommandId.enquireLink.value then
    dispatched (EnquireLink.decode header pdu) (fun pdu => .reply pdu.accept.encode) submitReject
  else if header.commandId = CommandId.enquireLinkResp.value then .linkResp
  else if header.commandId = CommandId.unbind.value then
    unbindBranch (Unbind.decode header pdu) seqNo
  else if header.commandId = CommandId.unbindResp.value then
    settled (UnbindResp.decode header pdu) .unbind true nacked
  else if header.commandId = CommandId.genericNack.value then
    settled (GenericNack.decode header pdu) .genericNack false fun _ => none
  else .reply (nack .ESME_RINVCMDID seqNo)

inductive Side where
  | server
  | client
deriving DecidableEq, Repr

def Side.branch : Side → BoundType → CommandHeader → Bytes → Branch
  | server => serverBranch
  | client => clientBranch

/-- What the server's chain can come to, and for which PDUs. -/
inductive ServerChain (bound : BoundType) (header : CommandHeader) (pdu : Bytes) : Branch → Prop
  | submitSm (same : header.commandId = CommandId.submitSm.value) (transmits : bound.transmits) :
      ServerChain bound header pdu
        (dispatched (SubmitSm.decode header pdu) (fun pdu => .request (.submitSm pdu)) fun error =>
          (SubmitSm.genericReject (potentialSeqNo pdu) error).encode)
  | submitMulti (same : header.commandId = CommandId.submitMulti.value)
      (transmits : bound.transmits) :
      ServerChain bound header pdu
        (dispatched (SubmitSmMulti.decode header pdu) (fun pdu => .request (.submitSmMulti pdu))
          fun error => (SubmitSmMulti.genericReject (potentialSeqNo pdu) error).encode)
  | dataSm (same : header.commandId = CommandId.dataSm.value) :
      ServerChain bound header pdu
        (dispatched (DataSm.decode header pdu) (fun pdu => .request (.dataSm pdu)) fun error =>
          (DataSm.genericReject (potentialSeqNo pdu) error).encode)
  | cancelSm (same : header.commandId = CommandId.cancelSm.value) (transmits : bound.transmits) :
      ServerChain bound header pdu
        (dispatched (CancelSm.decode header pdu) (fun pdu => .request (.cancelSm pdu)) fun error =>
          (SubmitSm.genericReject (potentialSeqNo pdu) error).encode)
  | querySm (same : header.commandId = CommandId.querySm.value) (transmits : bound.transmits) :
      ServerChain bound header pdu
        (dispatched (QuerySm.decode header pdu) (fun pdu => .request (.querySm pdu)) fun error =>
          (QuerySm.genericReject (potentialSeqNo pdu) error).encode)
  | replaceSm (same : header.commandId = CommandId.replaceSm.value) (transmits : bound.transmits) :
      ServerChain bound header pdu
        (dispatched (ReplaceSm.decode header pdu) (fun pdu => .request (.replaceSm pdu)) fun error =>
          (ReplaceSm.genericReject (potentialSeqNo pdu) error).encode)
  | enquireLink (same : header.commandId = CommandId.enquireLink.value) :
      ServerChain bound header pdu
        (dispatched (EnquireLink.decode header pdu) (fun pdu => .reply pdu.accept.encode)
          fun error => (SubmitSm.genericReject (potentialSeqNo pdu) error).encode)
  | enquireLinkResp (same : header.commandId = CommandId.enquireLinkResp.value) :
      ServerChain bound header pdu .linkResp
  | unbind (same : header.commandId = CommandId.unbind.value) :
      ServerChain bound header pdu (unbindBranch (Unbind.decode header pdu) (potentialSeqNo pdu))
  | deliverSmResp (same : header.commandId = CommandId.deliverSmResp.value)
      (transmits : bound.transmits) :
      ServerChain bound header pdu
        (settled (DeliverSmResp.decode header pdu) .deliverSm false fun error =>
          some (SubmitSm.genericReject (potentialSeqNo pdu) error).encode)
  | dataSmResp (same : header.commandId = CommandId.dataSmResp.value) :
      ServerChain bound header pdu
        (settled (DataSmResp.decode header pdu) .dataSm false fun error =>
          some (SubmitSm.genericReject (potentialSeqNo pdu) error).encode)
  | genericNack (same : header.commandId = CommandId.genericNack.value) :
      ServerChain bound header pdu
        (settled (GenericNack.decode header pdu) .genericNack false fun _ => none)
  | unsupported (other : header.commandId ≠ CommandId.genericNack.value) :
      ServerChain bound header pdu (.reply (nack .ESME_RINVCMDID (potentialSeqNo pdu)))

inductive ClientChain (bound : BoundType) (header : CommandHeader) (pdu : Bytes) : Branch → Prop
  | deliverSm (same : header.commandId = CommandId.deliverSm.value) (receives : bound.receives) :
      ClientChain bound header pdu
        (dispatched (DeliverSm.decode header pdu) (fun pdu => .request (.deliverSm pdu))
          fun error => (SubmitSm.genericReject (potentialSeqNo pdu) error).encode)
  | dataSm (same : header.commandId = CommandId.dataSm.value) :
      ClientChain bound header pdu
        (dispatched (DataSm.decode header pdu) (fun pdu => .request (.dataSm pdu)) fun error =>
          (DataSm.genericReject (potentialSeqNo pdu) error).encode)
  | submitSmResp (same : header.commandId = CommandId.submitSmResp.value)
      (transmits : bound.transmits) :
      ClientChain bound header pdu
        (settled (SubmitSmResp.decode header pdu) .submitSm false fun error =>
          some (nack error (potentialSeqNo pdu)))
  | submitMultiResp (same : header.commandId = CommandId.submitMultiResp.value)
      (transmits : bound.transmits) :
      ClientChain bound header pdu
        (settled (SubmitSmMultiResp.decode header pdu) .submitSmMulti false fun error =>
          some (nack error (potentialSeqNo pdu)))
  | dataSmResp (same : header.commandId = CommandId.dataSmResp.value)
      (transmits : bound.transmits) :
      ClientChain bound header pdu
        (settled (DataSmResp.decode header pdu) .dataSm false fun error =>
          some (nack error (potentialSeqNo pdu)))
  | cancelSmResp (same : header.commandId = CommandId.cancelSmResp.value) :
      ClientChain bound header pdu
        (settled (CancelSmResp.decode header pdu) .cancelSm false fun error =>
          some (nack error (potentialSeqNo pdu)))
  | querySmResp (same : header.commandId = CommandId.querySmResp.value) :
      ClientChain bound header pdu
        (settled (QuerySmResp.decode header pdu) .querySm false fun error =>
          some (nack error (potentialSeqNo pdu)))
  | replaceSmResp (same : header.commandId = CommandId.replaceSmResp.value) :
      ClientChain bound header pdu
        (settled (ReplaceSmResp.decode header pdu) .replaceSm false fun error =>
          some (nack error (potentialSeqNo pdu)))
  | alertNotification (same : header.commandId = CommandId.alertNotification.value) :
      ClientChain bound header pdu
        (dispatched (AlertNotification.decode header pdu) .alert fun error =>
          nack error (potentialSeqNo pdu))
  | enquireLink (same : header.commandId = CommandId.enquireLink.value) :
      ClientChain bound header pdu
        (dispatched (EnquireLink.decode header pdu) (fun pdu => .reply pdu.accept.encode)
          fun error => (SubmitSm.genericReject (potentialSeqNo pdu) error).encode)
  | enquireLinkResp (same : header.commandId = CommandId.enquireLinkResp.value) :
      ClientChain bound header pdu .linkResp
  | unbind (same : header.commandId = CommandId.unbind.value) :
      ClientChain bound header pdu (unbindBranch (Unbind.decode header pdu) (potentialSeqNo pdu))
  | unbindResp (same : header.commandId = CommandId.unbindResp.value) :
      ClientChain bound header pdu
        (settled (UnbindResp.decode header pdu) .unbind true fun error =>
          some (nack error (potentialSeqNo pdu)))
  | genericNack (same : header.commandId = CommandId.genericNack.value) :
      ClientChain bound header pdu
        (settled (GenericNack.decode header pdu) .genericNack false fun _ => none)
  | unsupported (other : header.commandId ≠ CommandId.genericNack.value) :
      ClientChain bound header pdu (.reply (nack .ESME_RINVCMDID (potentialSeqNo pdu)))

theorem chain_ite {chain : Branch → Prop} {condition : Prop} [Decidable condition]
    {this otherwise : Branch} (holds : condition → chain this) (fails : ¬ condition → chain otherwise) :
    chain (if condition then this else otherwise) := by
  by_cases decided : condition
  · rw [if_pos decided]
    exact holds decided
  · rw [if_neg decided]
    exact fails decided

theorem serverBranch_chain (bound : BoundType) (header : CommandHeader) (pdu : Bytes) :
    ServerChain bound header pdu (serverBranch bound header pdu) := by
  unfold serverBranch
  refine chain_ite (fun same => .submitSm same.1 same.2) fun _ => ?_
  refine chain_ite (fun same => .submitMulti same.1 same.2) fun _ => ?_
  refine chain_ite (fun same => .dataSm same) fun _ => ?_
  refine chain_ite (fun same => .cancelSm same.1 same.2) fun _ => ?_
  refine chain_ite (fun same => .querySm same.1 same.2) fun _ => ?_
  refine chain_ite (fun same => .replaceSm same.1 same.2) fun _ => ?_
  refine chain_ite (fun same => .enquireLink same) fun _ => ?_
  refine chain_ite (fun same => .enquireLinkResp same) fun _ => ?_
  refine chain_ite (fun same => .unbind same) fun _ => ?_
  refine chain_ite (fun same => .deliverSmResp same.1 same.2) fun _ => ?_
  refine chain_ite (fun same => .dataSmResp same) fun _ => ?_
  exact chain_ite (fun same => .genericNack same) fun other => .unsupported other

theorem clientBranch_chain (bound : BoundType) (header : CommandHeader) (pdu : Bytes) :
    ClientChain bound header pdu (clientBranch bound header pdu) := by
  unfold clientBranch
  refine chain_ite (fun same => .deliverSm same.1 same.2) fun _ => ?_
  refine chain_ite (fun same => .dataSm same) fun _ => ?_
  refine chain_ite (fun same => .submitSmResp same.1 same.2) fun _ => ?_
  refine chain_ite (fun same => .submitMultiResp same.1 same.2) fun _ => ?_
  refine chain_ite (fun same => .dataSmResp same.1 same.2) fun _ => ?_
  refine chain_ite (fun same => .cancelSmResp same) fun _ => ?_
  refine chain_ite (fun same => .querySmResp same) fun _ => ?_
  refine chain_ite (fun same => .replaceSmResp same) fun _ => ?_
  refine chain_ite (fun same => .alertNotification same) fun _ => ?_
  refine chain_ite (fun same => .enquireLink same) fun _ => ?_
  refine chain_ite (fun same => .enquireLinkResp same) fun _ => ?_
  refine chain_ite (fun same => .unbind same) fun _ => ?_
  refine chain_ite (fun same => .unbindResp same) fun _ => ?_
  exact chain_ite (fun same => .genericNack same) fun other => .unsupported other

section Selection

variable {bound : BoundType} {header : CommandHeader} {pdu : Bytes}

theorem serverBranch_submitSm (same : header.commandId = CommandId.submitSm.value) (transmits : bound.transmits) :
    serverBranch bound header pdu =
      dispatched (SubmitSm.decode header pdu) (fun pdu => .request (.submitSm pdu)) fun error =>
        (SubmitSm.genericReject (potentialSeqNo pdu) error).encode := by
  simp [serverBranch, same, transmits]

theorem serverBranch_submitMulti (same : header.commandId = CommandId.submitMulti.value) (transmits : bound.transmits) :
    serverBranch bound header pdu =
      dispatched (SubmitSmMulti.decode header pdu) (fun pdu => .request (.submitSmMulti pdu)) fun error =>
        (SubmitSmMulti.genericReject (potentialSeqNo pdu) error).encode := by
  simp [serverBranch, same, transmits]

theorem serverBranch_dataSm (same : header.commandId = CommandId.dataSm.value) :
    serverBranch bound header pdu =
      dispatched (DataSm.decode header pdu) (fun pdu => .request (.dataSm pdu)) fun error =>
        (DataSm.genericReject (potentialSeqNo pdu) error).encode := by
  simp [serverBranch, same]

theorem serverBranch_cancelSm (same : header.commandId = CommandId.cancelSm.value) (transmits : bound.transmits) :
    serverBranch bound header pdu =
      dispatched (CancelSm.decode header pdu) (fun pdu => .request (.cancelSm pdu)) fun error =>
        (SubmitSm.genericReject (potentialSeqNo pdu) error).encode := by
  simp [serverBranch, same, transmits]

theorem serverBranch_querySm (same : header.commandId = CommandId.querySm.value) (transmits : bound.transmits) :
    serverBranch bound header pdu =
      dispatched (QuerySm.decode header pdu) (fun pdu => .request (.querySm pdu)) fun error =>
        (QuerySm.genericReject (potentialSeqNo pdu) error).encode := by
  simp [serverBranch, same, transmits]

theorem serverBranch_replaceSm (same : header.commandId = CommandId.replaceSm.value) (transmits : bound.transmits) :
    serverBranch bound header pdu =
      dispatched (ReplaceSm.decode header pdu) (fun pdu => .request (.replaceSm pdu)) fun error =>
        (ReplaceSm.genericReject (potentialSeqNo pdu) error).encode := by
  simp [serverBranch, same, transmits]

theorem clientBranch_deliverSm (same : header.commandId = CommandId.deliverSm.value) (receives : bound.receives) :
    clientBranch bound header pdu =
      dispatched (DeliverSm.decode header pdu) (fun pdu => .request (.deliverSm pdu)) fun error =>
        (SubmitSm.genericReject (potentialSeqNo pdu) error).encode := by
  simp [clientBranch, same, receives]

theorem clientBranch_dataSm (same : header.commandId = CommandId.dataSm.value) :
    clientBranch bound header pdu =
      dispatched (DataSm.decode header pdu) (fun pdu => .request (.dataSm pdu)) fun error =>
        (DataSm.genericReject (potentialSeqNo pdu) error).encode := by
  simp [clientBranch, same]

theorem clientBranch_alertNotification (same : header.commandId = CommandId.alertNotification.value) :
    clientBranch bound header pdu =
      dispatched (AlertNotification.decode header pdu) .alert fun error =>
        nack error (potentialSeqNo pdu) := by
  simp [clientBranch, same]

theorem clientBranch_submitSmResp (same : header.commandId = CommandId.submitSmResp.value)
    (transmits : bound.transmits) :
    clientBranch bound header pdu =
      settled (SubmitSmResp.decode header pdu) .submitSm false fun error =>
        some (nack error (potentialSeqNo pdu)) := by
  simp [clientBranch, same, transmits]

theorem clientBranch_submitMultiResp (same : header.commandId = CommandId.submitMultiResp.value)
    (transmits : bound.transmits) :
    clientBranch bound header pdu =
      settled (SubmitSmMultiResp.decode header pdu) .submitSmMulti false fun error =>
        some (nack error (potentialSeqNo pdu)) := by
  simp [clientBranch, same, transmits]

theorem clientBranch_dataSmResp (same : header.commandId = CommandId.dataSmResp.value)
    (transmits : bound.transmits) :
    clientBranch bound header pdu =
      settled (DataSmResp.decode header pdu) .dataSm false fun error =>
        some (nack error (potentialSeqNo pdu)) := by
  simp [clientBranch, same, transmits]

theorem clientBranch_cancelSmResp (same : header.commandId = CommandId.cancelSmResp.value) :
    clientBranch bound header pdu =
      settled (CancelSmResp.decode header pdu) .cancelSm false fun error =>
        some (nack error (potentialSeqNo pdu)) := by
  simp [clientBranch, same]

theorem clientBranch_querySmResp (same : header.commandId = CommandId.querySmResp.value) :
    clientBranch bound header pdu =
      settled (QuerySmResp.decode header pdu) .querySm false fun error =>
        some (nack error (potentialSeqNo pdu)) := by
  simp [clientBranch, same]

theorem clientBranch_replaceSmResp (same : header.commandId = CommandId.replaceSmResp.value) :
    clientBranch bound header pdu =
      settled (ReplaceSmResp.decode header pdu) .replaceSm false fun error =>
        some (nack error (potentialSeqNo pdu)) := by
  simp [clientBranch, same]

theorem clientBranch_unbindResp (same : header.commandId = CommandId.unbindResp.value) :
    clientBranch bound header pdu =
      settled (UnbindResp.decode header pdu) .unbind true fun error =>
        some (nack error (potentialSeqNo pdu)) := by
  simp [clientBranch, same]

theorem serverBranch_deliverSmResp (same : header.commandId = CommandId.deliverSmResp.value)
    (transmits : bound.transmits) :
    serverBranch bound header pdu =
      settled (DeliverSmResp.decode header pdu) .deliverSm false fun error =>
        some (SubmitSm.genericReject (potentialSeqNo pdu) error).encode := by
  simp [serverBranch, same, transmits]

theorem serverBranch_dataSmResp (same : header.commandId = CommandId.dataSmResp.value) :
    serverBranch bound header pdu =
      settled (DataSmResp.decode header pdu) .dataSm false fun error =>
        some (SubmitSm.genericReject (potentialSeqNo pdu) error).encode := by
  simp [serverBranch, same]

theorem branch_enquireLink (side : Side) (same : header.commandId = CommandId.enquireLink.value) :
    side.branch bound header pdu =
      dispatched (EnquireLink.decode header pdu) (fun pdu => .reply pdu.accept.encode) fun error =>
        (SubmitSm.genericReject (potentialSeqNo pdu) error).encode := by
  cases side with
  | server => simp [Side.branch, serverBranch, same]
  | client => simp [Side.branch, clientBranch, same]

theorem branch_enquireLinkResp (side : Side)
    (same : header.commandId = CommandId.enquireLinkResp.value) :
    side.branch bound header pdu = .linkResp := by
  cases side with
  | server => simp [Side.branch, serverBranch, same]
  | client => simp [Side.branch, clientBranch, same]

theorem serverBranch_deliverSmResp_rx (same : header.commandId = CommandId.deliverSmResp.value)
    (receiver : bound.transmits = false) :
    serverBranch bound header pdu = .reply (nack .ESME_RINVCMDID (potentialSeqNo pdu)) := by
  simp [serverBranch, same, receiver]

/-- No server session has a branch for the response to its own unbind. -/
theorem serverBranch_unbindResp (same : header.commandId = CommandId.unbindResp.value) :
    serverBranch bound header pdu = .reply (nack .ESME_RINVCMDID (potentialSeqNo pdu)) := by
  simp [serverBranch, same]

end Selection

end Smpp34
