import Smpp34.Common.Tlv

namespace Smpp34

open Octets
open Parse
open Utf8 (Str)

inductive BindKind where
  | receiver
  | transmitter
  | transceiver
deriving DecidableEq, Repr

def BindKind.commandId : BindKind → CommandId
  | receiver => .bindReceiver
  | transmitter => .bindTransmitter
  | transceiver => .bindTransceiver

def BindKind.respCommandId : BindKind → CommandId
  | receiver => .bindReceiverResp
  | transmitter => .bindTransmitterResp
  | transceiver => .bindTransceiverResp

structure BindFields where
  systemId : Str
  password : Str
  systemType : Str
  interfaceVersion : UInt8
  addrTon : UInt8
  addrNpi : UInt8
  addressRange : Str
deriving DecidableEq

namespace BindFields

def encode (fields : BindFields) : Bytes :=
  cOctetString fields.systemId ++ cOctetString fields.password ++
    cOctetString fields.systemType ++ [fields.interfaceVersion] ++ [fields.addrTon] ++
    [fields.addrNpi] ++ cOctetString fields.addressRange

def read : Reader BindFields := do
  let systemId ← parseCOctetStringNom
  let password ← parseCOctetStringNom
  let systemType ← parseCOctetStringNom
  let interfaceVersion ← octet
  let addrTon ← octet
  let addrNpi ← octet
  let addressRange ← parseCOctetStringNom
  pure { systemId, password, systemType, interfaceVersion, addrTon, addrNpi, addressRange }

structure WellFormed (fields : BindFields) : Prop where
  systemId : NulFree fields.systemId
  password : NulFree fields.password
  systemType : NulFree fields.systemType
  addressRange : NulFree fields.addressRange

theorem encode_length (fields : BindFields) :
    16 + fields.encode.length =
      16 + fields.systemId.len + 1 + fields.password.len + 1 + fields.systemType.len + 1 + 3 +
        fields.addressRange.len + 1 := by
  simp only [encode, List.length_append, cOctetString_length, List.length_singleton]
  omega

theorem reads_encode (fields : BindFields) (formed : fields.WellFormed) :
    Reads read fields.encode fields := by
  simp only [encode, List.append_assoc]
  refine (reads_cOctetString _ formed.systemId).bind ?_
  refine (reads_cOctetString _ formed.password).bind ?_
  refine (reads_cOctetString _ formed.systemType).bind ?_
  refine (reads_octet _).bind ?_
  refine (reads_octet _).bind ?_
  refine (reads_octet _).bind ?_
  exact (reads_cOctetString _ formed.addressRange).last fun found =>
    { fields with addressRange := found }

end BindFields

/-- The three bind requests differ in their command_id only. -/
structure BindRequest (kind : BindKind) extends BindFields where
  header : CommandHeader
deriving DecidableEq

abbrev BindReceiver := BindRequest .receiver

abbrev BindTransmitter := BindRequest .transmitter

abbrev BindTransceiver := BindRequest .transceiver

structure BindResp (kind : BindKind) where
  header : CommandHeader
  systemId : Option Str
  scInterfaceVersion : Option UInt8
deriving DecidableEq

abbrev BindReceiverResp := BindResp .receiver

abbrev BindTransmitterResp := BindResp .transmitter

abbrev BindTransceiverResp := BindResp .transceiver

namespace BindRequest

variable {kind : BindKind}

def new (kind : BindKind) (sequenceNumber : UInt32) (systemId password systemType : Str)
    (addrTon addrNpi : UInt8) (addressRange : Str) : Option (BindRequest kind) :=
  if systemId.len < 16 ∧ password.len < 9 ∧ systemType.len < 13 ∧ addressRange.len < 41 then
    some
      { systemId, password, systemType, interfaceVersion := 0x34, addrTon, addrNpi,
        addressRange,
        header :=
          ⟨UInt32.ofNat
            (16 + systemId.len + 1 + password.len + 1 + systemType.len + 1 + 3 +
              addressRange.len + 1), kind.commandId.value, SmppError.ESME_ROK.code,
            sequenceNumber⟩ }
  else none

def decode (kind : BindKind) (header : CommandHeader) (pdu : Bytes) : Decoded (BindRequest kind) := do
  let input ← checkedBodyOf pdu
  let (fields, _) ← readBody BindFields.read input
  pure { fields with header }

def encode (pdu : BindRequest kind) : Bytes := pdu.header.encode ++ pdu.toBindFields.encode

def accept (pdu : BindRequest kind) (systemId : Str) (scInterfaceVersion : Option UInt8) :
    BindResp kind :=
  ⟨⟨16 + UInt32.ofNat systemId.len + 1 + (if scInterfaceVersion.isSome then 5 else 0),
    kind.respCommandId.value, SmppError.ESME_ROK.code, pdu.header.sequenceNumber⟩,
    some systemId, scInterfaceVersion⟩

def genericReject (kind : BindKind) (sequenceNumber : UInt32) (error : SmppError) :
    BindResp kind :=
  ⟨⟨16, kind.respCommandId.value, error.code, sequenceNumber⟩, none, none⟩

def reject (pdu : BindRequest kind) (error : SmppError) : BindResp kind :=
  ⟨⟨16, kind.respCommandId.value, error.code, pdu.header.sequenceNumber⟩, none, none⟩

end BindRequest

namespace BindResp

variable {kind : BindKind}

def isSuccess (resp : BindResp kind) : Bool :=
  resp.header.commandStatus = SmppError.ESME_ROK.code

def decode (kind : BindKind) (header : CommandHeader) (pdu : Bytes) :
    Decoded (BindResp kind) :=
  if header.commandStatus ≠ SmppError.ESME_ROK.code then .ok ⟨header, none, none⟩
  else if pdu.length ≤ 16 then .error (.error .ESME_RINVPARLEN)
  else do
    let input ← bodyOf pdu
    let (systemId, input) ← readBody parseCOctetStringNom input
    let scInterfaceVersion :=
      if input = [] then none
      else (getTlv (decodeTlvs input) .scInterfaceVersion).bind Tlv.asU8
    pure ⟨header, some systemId, scInterfaceVersion⟩

def encode (resp : BindResp kind) : Bytes :=
  resp.header.encode ++
    ((if resp.header.commandStatus = SmppError.ESME_ROK.code then
        (match resp.systemId with
          | some id => id.bytes
          | none => []) ++ [0x00]
      else []) ++
      (match resp.scInterfaceVersion with
        | some version => (Tlv.fromTag .scInterfaceVersion [version]).encode
        | none => []))

end BindResp

structure Outbind where
  header : CommandHeader
  systemId : Str
  password : Str
deriving DecidableEq

namespace Outbind

def new (seqNo : UInt32) (systemId password : Str) : Outbind :=
  ⟨⟨UInt32.ofNat (16 + systemId.len + password.len + 2), CommandId.outbind.value,
    SmppError.ESME_ROK.code, seqNo⟩, systemId, password⟩

/-- `pdu[16 + system_id.len() + 1..]`, a slice behind a terminator that was found. -/
def afterSystemId (pdu : Bytes) (systemId : Str) : Decoded Bytes :=
  if 16 + systemId.len + 1 ≤ pdu.length then .ok (pdu.drop (16 + systemId.len + 1))
  else .error .panic

def decode (header : CommandHeader) (pdu : Bytes) : Decoded Outbind :=
  if header.commandId = CommandId.outbind.value then
    if 18 ≤ pdu.length then do
      let input ← bodyOf pdu
      let systemId ← parseCOctetString input 16
      let input ← afterSystemId pdu systemId
      let password ← parseCOctetString input 9
      pure ⟨header, systemId, password⟩
    else .error (.error .ESME_RINVPARLEN)
  else .error (.error .ESME_RINVCMDID)

/-- Over-long strings make the encoder panic. -/
def encode (pdu : Outbind) : Option Bytes :=
  if pdu.systemId.len > 16 then none
  else if pdu.password.len > 9 then none
  else some (pdu.header.encode ++ (cOctetString pdu.systemId ++ cOctetString pdu.password))

end Outbind

end Smpp34
