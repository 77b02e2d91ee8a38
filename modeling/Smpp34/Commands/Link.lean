import Smpp34.Common.Tlv

namespace Smpp34

open Octets
open Parse
open Utf8 (Str)

/-- The decoders of PDUs without a body check the command_id and that nothing follows. -/
def decodeBare (id : CommandId) (header : CommandHeader) (pdu : Bytes) : Decoded CommandHeader :=
  if header.commandId = id.value then
    if pdu.length = 16 then .ok header else .error (.error .ESME_ROPTPARNOTALLWD)
  else .error (.error .ESME_RINVCMDID)

structure Unbind where
  header : CommandHeader
deriving DecidableEq

structure UnbindResp where
  header : CommandHeader
deriving DecidableEq

namespace Unbind

def withSequenceNumber (sequenceNumber : UInt32) : Unbind :=
  ⟨⟨16, CommandId.unbind.value, SmppError.ESME_ROK.code, sequenceNumber⟩⟩

def decode (header : CommandHeader) (pdu : Bytes) : Decoded Unbind := do
  let header ← decodeBare .unbind header pdu
  pure ⟨header⟩

def encode (pdu : Unbind) : Bytes := pdu.header.encode

def accept (pdu : Unbind) : UnbindResp :=
  ⟨⟨16, CommandId.unbindResp.value, SmppError.ESME_ROK.code, pdu.header.sequenceNumber⟩⟩

def genericReject (sequenceNumber : UInt32) (error : SmppError) : UnbindResp :=
  ⟨⟨16, CommandId.unbindResp.value, error.code, sequenceNumber⟩⟩

def reject (pdu : Unbind) (error : SmppError) : UnbindResp :=
  ⟨⟨16, CommandId.unbindResp.value, error.code, pdu.header.sequenceNumber⟩⟩

end Unbind

namespace UnbindResp

def encode (resp : UnbindResp) : Bytes := resp.header.encode

def decode (header : CommandHeader) (pdu : Bytes) : Decoded UnbindResp := do
  let header ← decodeBare .unbindResp header pdu
  pure ⟨header⟩

end UnbindResp

structure EnquireLink where
  header : CommandHeader
deriving DecidableEq

structure EnquireLinkResp where
  header : CommandHeader
deriving DecidableEq

namespace EnquireLink

def new (seqNo : UInt32) : EnquireLink :=
  ⟨⟨16, CommandId.enquireLink.value, SmppError.ESME_ROK.code, seqNo⟩⟩

def decode (header : CommandHeader) (pdu : Bytes) : Decoded EnquireLink := do
  let header ← decodeBare .enquireLink header pdu
  pure ⟨header⟩

def encode (pdu : EnquireLink) : Bytes := pdu.header.encode

def accept (pdu : EnquireLink) : EnquireLinkResp :=
  ⟨⟨16, CommandId.enquireLinkResp.value, SmppError.ESME_ROK.code, pdu.header.sequenceNumber⟩⟩

def genericReject (sequenceNumber : UInt32) (error : SmppError) : EnquireLinkResp :=
  ⟨⟨16, CommandId.enquireLinkResp.value, error.code, sequenceNumber⟩⟩

def reject (pdu : EnquireLink) (error : SmppError) : EnquireLinkResp :=
  ⟨⟨16, CommandId.enquireLinkResp.value, error.code, pdu.header.sequenceNumber⟩⟩

end EnquireLink

def EnquireLinkResp.encode (resp : EnquireLinkResp) : Bytes := resp.header.encode

structure GenericNack where
  header : CommandHeader
deriving DecidableEq

namespace GenericNack

def new (error : SmppError) (seqNo : UInt32) : GenericNack :=
  ⟨⟨16, CommandId.genericNack.value, error.code, seqNo⟩⟩

def decode (header : CommandHeader) (pdu : Bytes) : Decoded GenericNack := do
  let header ← decodeBare .genericNack header pdu
  pure ⟨header⟩

def encode (pdu : GenericNack) : Bytes := pdu.header.encode

def getError (pdu : GenericNack) : SmppError :=
  SmppError.fromCommandStatus pdu.header.commandStatus

end GenericNack

structure AlertFields where
  sourceAddrTon : UInt8
  sourceAddrNpi : UInt8
  sourceAddr : Str
  esmeAddrTon : UInt8
  esmeAddrNpi : UInt8
  esmeAddr : Str
deriving DecidableEq

namespace AlertFields

def encode (fields : AlertFields) : Bytes :=
  [fields.sourceAddrTon] ++ [fields.sourceAddrNpi] ++ cOctetString fields.sourceAddr ++
    [fields.esmeAddrTon] ++ [fields.esmeAddrNpi] ++ cOctetString fields.esmeAddr

def parse : Reader AlertFields := do
  let sourceAddrTon ← octet
  let sourceAddrNpi ← octet
  let sourceAddr ← parseCOctetStringNom
  let esmeAddrTon ← octet
  let esmeAddrNpi ← octet
  let esmeAddr ← parseCOctetStringNom
  pure { sourceAddrTon, sourceAddrNpi, sourceAddr, esmeAddrTon, esmeAddrNpi, esmeAddr }

structure WellFormed (fields : AlertFields) : Prop where
  sourceAddr : NulFree fields.sourceAddr
  esmeAddr : NulFree fields.esmeAddr

theorem encode_length (fields : AlertFields) :
    fields.encode.length = 2 + fields.sourceAddr.len + 1 + 2 + fields.esmeAddr.len + 1 := by
  simp only [encode, List.length_append, cOctetString_length, List.length_singleton]
  omega

theorem reads_encode (fields : AlertFields) (formed : fields.WellFormed) :
    Reads parse fields.encode fields := by
  simp only [encode, List.append_assoc]
  refine (reads_octet _).bind ?_
  refine (reads_octet _).bind ?_
  refine (reads_cOctetString _ formed.sourceAddr).bind ?_
  refine (reads_octet _).bind ?_
  refine (reads_octet _).bind ?_
  exact (reads_cOctetString _ formed.esmeAddr).last fun found => { fields with esmeAddr := found }

end AlertFields

structure AlertNotification extends AlertFields where
  header : CommandHeader
  msAvailabilityStatus : Option UInt8
deriving DecidableEq

namespace AlertNotification

def new (sequenceNumber : UInt32) (sourceAddrTon sourceAddrNpi : UInt8) (sourceAddr : Str)
    (esmeAddrTon esmeAddrNpi : UInt8) (esmeAddr : Str) (msAvailabilityStatus : Option UInt8) :
    Option AlertNotification :=
  if sourceAddr.len ≤ 65 ∧ esmeAddr.len ≤ 65 then
    some
      { sourceAddrTon, sourceAddrNpi, sourceAddr, esmeAddrTon, esmeAddrNpi, esmeAddr,
        msAvailabilityStatus,
        header :=
          ⟨UInt32.ofNat
            (16 + 2 + sourceAddr.len + 1 + 2 + esmeAddr.len + 1 +
              if msAvailabilityStatus.isSome then 5 else 0),
            CommandId.alertNotification.value, SmppError.ESME_ROK.code, sequenceNumber⟩ }
  else none

/-- The status of an old peer is a bare octet, else it is a parameter of its own. -/
def readStatus (pdu : Bytes) : Option UInt8 :=
  match pdu with
  | [] => none
  | [status] => some status
  | _ => (getTlv (decodeTlvs pdu) .msAvailabilityStatus).bind Tlv.asU8

def decode (header : CommandHeader) (pdu : Bytes) : Decoded AlertNotification := do
  let input ← checkedBodyOf pdu
  let (fields, input) ← readBody AlertFields.parse input
  pure { fields with header, msAvailabilityStatus := readStatus input }

def encode (pdu : AlertNotification) : Bytes :=
  pdu.header.encode ++ (pdu.toAlertFields.encode ++ (match pdu.msAvailabilityStatus with
    | some status => (Tlv.fromU8 .msAvailabilityStatus status).encode
    | none => []))

end AlertNotification

end Smpp34
