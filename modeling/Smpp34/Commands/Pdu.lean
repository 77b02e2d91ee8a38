import Smpp34.Commands.Bind
import Smpp34.Commands.DataSm
import Smpp34.Commands.Link
import Smpp34.Commands.Manage
import Smpp34.Commands.Message
import Smpp34.Commands.SubmitSmMulti

namespace Smpp34

open Octets
open Utf8 (Str)

inductive Request where
  | submitSm (pdu : SubmitSm)
  | submitSmMulti (pdu : SubmitSmMulti)
  | deliverSm (pdu : DeliverSm)
  | dataSm (pdu : DataSm)
  | cancelSm (pdu : CancelSm)
  | querySm (pdu : QuerySm)
  | replaceSm (pdu : ReplaceSm)
  | unbind (pdu : Unbind)
  | enquireLink (pdu : EnquireLink)
  | bind (kind : BindKind) (pdu : BindRequest kind)
  | alertNotification (pdu : AlertNotification)
  | outbind (pdu : Outbind)
deriving DecidableEq

inductive Response where
  | submitSm (resp : SubmitSmResp)
  | submitSmMulti (resp : SubmitSmMultiResp)
  | deliverSm (resp : DeliverSmResp)
  | dataSm (resp : DataSmResp)
  | cancelSm (resp : CancelSmResp)
  | querySm (resp : QuerySmResp)
  | replaceSm (resp : ReplaceSmResp)
  | unbind (resp : UnbindResp)
  | enquireLink (resp : EnquireLinkResp)
  | bind (kind : BindKind) (resp : BindResp kind)
  | genericNack (resp : GenericNack)
deriving DecidableEq

namespace Request

def header : Request → CommandHeader
  | submitSm pdu => pdu.header
  | submitSmMulti pdu => pdu.header
  | deliverSm pdu => pdu.header
  | dataSm pdu => pdu.header
  | cancelSm pdu => pdu.header
  | querySm pdu => pdu.header
  | replaceSm pdu => pdu.header
  | unbind pdu => pdu.header
  | enquireLink pdu => pdu.header
  | bind _ pdu => pdu.header
  | alertNotification pdu => pdu.header
  | outbind pdu => pdu.header

def encode : Request → Option Bytes
  | submitSm pdu => some pdu.encode
  | submitSmMulti pdu => some pdu.encode
  | deliverSm pdu => some pdu.encode
  | dataSm pdu => some pdu.encode
  | cancelSm pdu => some pdu.encode
  | querySm pdu => some pdu.encode
  | replaceSm pdu => some pdu.encode
  | unbind pdu => some pdu.encode
  | enquireLink pdu => some pdu.encode
  | bind _ pdu => some pdu.encode
  | alertNotification pdu => some pdu.encode
  | outbind pdu => pdu.encode

end Request

namespace Response

def header : Response → CommandHeader
  | submitSm resp => resp.header
  | submitSmMulti resp => resp.header
  | deliverSm resp => resp.header
  | dataSm resp => resp.header
  | cancelSm resp => resp.header
  | querySm resp => resp.header
  | replaceSm resp => resp.header
  | unbind resp => resp.header
  | enquireLink resp => resp.header
  | bind _ resp => resp.header
  | genericNack resp => resp.header

def encode : Response → Bytes
  | submitSm resp => resp.encode
  | submitSmMulti resp => resp.encode
  | deliverSm resp => resp.encode
  | dataSm resp => resp.encode
  | cancelSm resp => resp.encode
  | querySm resp => resp.encode
  | replaceSm resp => resp.encode
  | unbind resp => resp.encode
  | enquireLink resp => resp.encode
  | bind _ resp => resp.encode
  | genericNack resp => resp.encode

def withTlvs : Response → List Tlv → Response
  | dataSm resp, tlvs => dataSm (resp.withTlvs tlvs)
  | resp, _ => resp

end Response

structure AcceptArgs where
  messageId : Str
  unsuccessSme : List UnsuccessSme
  finalDate : Str
  messageState : UInt8
  errorCode : UInt8
  systemId : Str
  scInterfaceVersion : Option UInt8
deriving DecidableEq

def AcceptArgs.empty : AcceptArgs := ⟨Str.empty, [], Str.empty, 0, 0, Str.empty, none⟩

inductive Verdict where
  | accept (args : AcceptArgs)
  | reject (error : SmppError)
  | genericReject (sequenceNumber : UInt32) (error : SmppError)
deriving DecidableEq

/-- A request's own `accept`, `reject` or `generic_reject`. There is none where the method
    panics, and none for the PDUs that have no response. -/
def answer : Request → Verdict → Option Response
  | .submitSm pdu, .accept args => (pdu.accept args.messageId).map .submitSm
  | .submitSm pdu, .reject error => some (.submitSm (pdu.reject error))
  | .submitSm _, .genericReject seq error => some (.submitSm (SubmitSm.genericReject seq error))
  | .submitSmMulti pdu, .accept args =>
    some (.submitSmMulti (pdu.accept args.messageId args.unsuccessSme))
  | .submitSmMulti pdu, .reject error => some (.submitSmMulti (pdu.reject error))
  | .submitSmMulti _, .genericReject seq error =>
    some (.submitSmMulti (SubmitSmMulti.genericReject seq error))
  | .deliverSm pdu, .accept _ => some (.deliverSm pdu.accept)
  | .deliverSm pdu, .reject error => some (.deliverSm (pdu.reject error))
  | .deliverSm _, .genericReject seq error =>
    some (.deliverSm (DeliverSm.genericReject seq error))
  | .dataSm pdu, .accept args => (pdu.accept args.messageId).map .dataSm
  | .dataSm pdu, .reject error => some (.dataSm (pdu.reject error))
  | .dataSm _, .genericReject seq error => some (.dataSm (DataSm.genericReject seq error))
  | .cancelSm pdu, .accept _ => some (.cancelSm pdu.accept)
  | .cancelSm pdu, .reject error => some (.cancelSm (pdu.reject error))
  | .cancelSm _, .genericReject seq error => some (.cancelSm (CancelSm.genericReject seq error))
  | .querySm pdu, .accept args =>
    some (.querySm (pdu.accept args.messageId args.finalDate args.messageState args.errorCode))
  | .querySm pdu, .reject error => some (.querySm (pdu.reject error))
  | .querySm _, .genericReject seq error => some (.querySm (QuerySm.genericReject seq error))
  | .replaceSm pdu, .accept _ => some (.replaceSm pdu.accept)
  | .replaceSm pdu, .reject error => some (.replaceSm (pdu.reject error))
  | .replaceSm _, .genericReject seq error =>
    some (.replaceSm (ReplaceSm.genericReject seq error))
  | .unbind pdu, .accept _ => some (.unbind pdu.accept)
  | .unbind pdu, .reject error => some (.unbind (pdu.reject error))
  | .unbind _, .genericReject seq error => some (.unbind (Unbind.genericReject seq error))
  | .enquireLink pdu, .accept _ => some (.enquireLink pdu.accept)
  | .enquireLink pdu, .reject error => some (.enquireLink (pdu.reject error))
  | .enquireLink _, .genericReject seq error =>
    some (.enquireLink (EnquireLink.genericReject seq error))
  | .bind kind pdu, .accept args =>
    some (.bind kind (pdu.accept args.systemId args.scInterfaceVersion))
  | .bind kind pdu, .reject error => some (.bind kind (pdu.reject error))
  | .bind kind _, .genericReject seq error =>
    some (.bind kind (BindRequest.genericReject kind seq error))
  | .alertNotification _, _ => none
  | .outbind _, _ => none

end Smpp34
