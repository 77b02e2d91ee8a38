import Smpp34.Common.Tlv

namespace Smpp34

open Octets
open Parse
open Utf8 (Str)

/-- The mandatory fields that submit_sm and deliver_sm share. -/
structure MessageFields where
  serviceType : Str
  sourceAddrTon : UInt8
  sourceAddrNpi : UInt8
  sourceAddr : Str
  destAddrTon : UInt8
  destAddrNpi : UInt8
  destinationAddr : Str
  esmClass : UInt8
  protocolId : UInt8
  priorityFlag : UInt8
  scheduleDeliveryTime : Str
  validityPeriod : Str
  registeredDelivery : UInt8
  replaceIfPresentFlag : UInt8
  dataCoding : UInt8
  smDefaultMsgId : UInt8
  smLength : UInt8
  shortMessage : Bytes
deriving DecidableEq

namespace MessageFields

def messageCommandLength (fields : MessageFields) : UInt32 :=
  UInt32.ofNat
    (16 + fields.serviceType.len + 1 + 1 + 1 + fields.sourceAddr.len + 1 + 1 + 1 +
      fields.destinationAddr.len + 1 + 1 + 1 + 1 + fields.scheduleDeliveryTime.len + 1 +
      fields.validityPeriod.len + 1 + 1 + 1 + 1 + 1 + 1 + fields.shortMessage.length)

def encode (fields : MessageFields) : Bytes :=
  cOctetString fields.serviceType ++ [fields.sourceAddrTon] ++ [fields.sourceAddrNpi] ++
    cOctetString fields.sourceAddr ++ [fields.destAddrTon] ++ [fields.destAddrNpi] ++
    cOctetString fields.destinationAddr ++ [fields.esmClass] ++ [fields.protocolId] ++
    [fields.priorityFlag] ++ cOctetString fields.scheduleDeliveryTime ++
    cOctetString fields.validityPeriod ++ [fields.registeredDelivery] ++
    [fields.replaceIfPresentFlag] ++ [fields.dataCoding] ++ [fields.smDefaultMsgId] ++
    [fields.smLength] ++ fields.shortMessage

def read : Reader MessageFields := do
  let serviceType ← parseCOctetStringNom
  let sourceAddrTon ← octet
  let sourceAddrNpi ← octet
  let sourceAddr ← parseCOctetStringNom
  let destAddrTon ← octet
  let destAddrNpi ← octet
  let destinationAddr ← parseCOctetStringNom
  let esmClass ← octet
  let protocolId ← octet
  let priorityFlag ← octet
  let scheduleDeliveryTime ← parseCOctetStringNom
  let validityPeriod ← parseCOctetStringNom
  let registeredDelivery ← octet
  let replaceIfPresentFlag ← octet
  let dataCoding ← octet
  let smDefaultMsgId ← octet
  let smLength ← octet
  let shortMessage ← take smLength.toNat
  pure
    { serviceType, sourceAddrTon, sourceAddrNpi, sourceAddr, destAddrTon, destAddrNpi,
      destinationAddr, esmClass, protocolId, priorityFlag, scheduleDeliveryTime,
      validityPeriod, registeredDelivery, replaceIfPresentFlag, dataCoding, smDefaultMsgId,
      smLength, shortMessage }

/-- No string holds its terminator, and the length octet tells the message's length. -/
structure WellFormed (fields : MessageFields) : Prop where
  serviceType : NulFree fields.serviceType
  sourceAddr : NulFree fields.sourceAddr
  destinationAddr : NulFree fields.destinationAddr
  scheduleDeliveryTime : NulFree fields.scheduleDeliveryTime
  validityPeriod : NulFree fields.validityPeriod
  smLength : fields.smLength.toNat = fields.shortMessage.length

theorem encode_length (fields : MessageFields) :
    16 + fields.encode.length =
      16 + fields.serviceType.len + 1 + 1 + 1 + fields.sourceAddr.len + 1 + 1 + 1 +
        fields.destinationAddr.len + 1 + 1 + 1 + 1 + fields.scheduleDeliveryTime.len + 1 +
        fields.validityPeriod.len + 1 + 1 + 1 + 1 + 1 + 1 + fields.shortMessage.length := by
  simp only [encode, List.length_append, cOctetString_length, List.length_singleton]
  omega

theorem reads_encode (fields : MessageFields) (formed : fields.WellFormed) :
    Reads read fields.encode fields := by
  have message : Reads (take fields.smLength.toNat) fields.shortMessage fields.shortMessage := by
    rw [formed.smLength]
    exact reads_take fields.shortMessage
  simp only [encode, List.append_assoc]
  refine (reads_cOctetString _ formed.serviceType).bind ?_
  refine (reads_octet _).bind ?_
  refine (reads_octet _).bind ?_
  refine (reads_cOctetString _ formed.sourceAddr).bind ?_
  refine (reads_octet _).bind ?_
  refine (reads_octet _).bind ?_
  refine (reads_cOctetString _ formed.destinationAddr).bind ?_
  refine (reads_octet _).bind ?_
  refine (reads_octet _).bind ?_
  refine (reads_octet _).bind ?_
  refine (reads_cOctetString _ formed.scheduleDeliveryTime).bind ?_
  refine (reads_cOctetString _ formed.validityPeriod).bind ?_
  refine (reads_octet _).bind ?_
  refine (reads_octet _).bind ?_
  refine (reads_octet _).bind ?_
  refine (reads_octet _).bind ?_
  refine (reads_octet _).bind ?_
  exact message.last fun found => { fields with shortMessage := found }

theorem total_length (fields : MessageFields) (tlvs : List Tlv)
    (small : 16 + (fields.encode ++ encodeTlvs tlvs).length < 2 ^ 32) :
    (fields.messageCommandLength + UInt32.ofNat (tlvsEncodedLen tlvs)).toNat =
      16 + (fields.encode ++ encodeTlvs tlvs).length := by
  rw [List.length_append, encodeTlvs_length, ← Nat.add_assoc] at small ⊢
  rw [messageCommandLength, ← encode_length, length_ofNat_add small]

end MessageFields

structure SubmitSm extends MessageFields where
  header : CommandHeader
  tlvs : List Tlv
deriving DecidableEq

structure SubmitSmResp where
  header : CommandHeader
  messageId : Option Str
deriving DecidableEq

namespace SubmitSm

/-- An assertion that fails gives no PDU. -/
def new (sequenceNumber : UInt32) (serviceType : Str) (sourceAddrTon sourceAddrNpi : UInt8)
    (sourceAddr : Str) (destAddrTon destAddrNpi : UInt8) (destinationAddr : Str)
    (esmClass protocolId priorityFlag : UInt8) (scheduleDeliveryTime validityPeriod : Str)
    (registeredDelivery replaceIfPresentFlag dataCoding smDefaultMsgId : UInt8)
    (shortMessage : Bytes) : Option SubmitSm :=
  if shortMessage.length ≤ 254 then
    let fields : MessageFields :=
      { serviceType, sourceAddrTon, sourceAddrNpi, sourceAddr, destAddrTon, destAddrNpi,
        destinationAddr, esmClass, protocolId, priorityFlag, scheduleDeliveryTime,
        validityPeriod, registeredDelivery, replaceIfPresentFlag, dataCoding, smDefaultMsgId,
        smLength := UInt8.ofNat shortMessage.length, shortMessage }
    some
      { fields with
        header :=
          ⟨fields.messageCommandLength, CommandId.submitSm.value, SmppError.ESME_ROK.code,
            sequenceNumber⟩
        tlvs := [] }
  else none

def withTlvs (pdu : SubmitSm) (tlvs : List Tlv) : SubmitSm :=
  { pdu with tlvs := pdu.tlvs ++ tlvs }

def pushTlv (pdu : SubmitSm) (tlv : Tlv) : SubmitSm := { pdu with tlvs := pdu.tlvs ++ [tlv] }

theorem withTlvs_withTlvs (pdu : SubmitSm) (tlvs more : List Tlv) :
    (pdu.withTlvs tlvs).withTlvs more = pdu.withTlvs (tlvs ++ more) := by
  simp only [withTlvs, List.append_assoc]

def setSequenceNumber (pdu : SubmitSm) (sequenceNumber : UInt32) : SubmitSm :=
  { pdu with header := { pdu.header with sequenceNumber } }

def decode (header : CommandHeader) (pdu : Bytes) : Decoded SubmitSm := do
  let input ← checkedBodyOf pdu
  let (fields, input) ← readBody MessageFields.read input
  pure { fields with header, tlvs := decodeTlvs input }

def encode (pdu : SubmitSm) : Bytes :=
  let totalLen := pdu.messageCommandLength + UInt32.ofNat (tlvsEncodedLen pdu.tlvs)
  { pdu.header with commandLength := totalLen }.encode ++
    (pdu.toMessageFields.encode ++ encodeTlvs pdu.tlvs)

def accept (pdu : SubmitSm) (messageId : Str) : Option SubmitSmResp :=
  if messageId.len > 65 then none
  else
    some
      ⟨⟨16 + UInt32.ofNat messageId.len + 1, CommandId.submitSmResp.value,
        SmppError.ESME_ROK.code, pdu.header.sequenceNumber⟩, some messageId⟩

def genericReject (sequenceNumber : UInt32) (error : SmppError) : SubmitSmResp :=
  ⟨⟨16, CommandId.submitSmResp.value, error.code, sequenceNumber⟩, none⟩

def reject (pdu : SubmitSm) (error : SmppError) : SubmitSmResp :=
  ⟨⟨16, CommandId.submitSmResp.value, error.code, pdu.header.sequenceNumber⟩, none⟩

end SubmitSm

namespace SubmitSmResp

def encode (resp : SubmitSmResp) : Bytes :=
  resp.header.encode ++ (match resp.messageId with
    | some messageId => cOctetString messageId
    | none => [])

def decode (header : CommandHeader) (pdu : Bytes) : Decoded SubmitSmResp :=
  if header.commandStatus ≠ SmppError.ESME_ROK.code then .ok ⟨header, none⟩
  else do
    let input ← bodyOf pdu
    let (messageId, _) ← readBody parseCOctetStringNom input
    pure ⟨header, some messageId⟩

end SubmitSmResp

structure DeliverSm extends MessageFields where
  header : CommandHeader
  tlvs : List Tlv
deriving DecidableEq

structure DeliverSmResp where
  header : CommandHeader
  messageId : Str
deriving DecidableEq

namespace DeliverSm

def new (sequenceNumber : UInt32) (serviceType : Str) (sourceAddrTon sourceAddrNpi : UInt8)
    (sourceAddr : Str) (destAddrTon destAddrNpi : UInt8) (destinationAddr : Str)
    (esmClass protocolId priorityFlag : UInt8) (scheduleDeliveryTime validityPeriod : Str)
    (registeredDelivery replaceIfPresentFlag dataCoding smDefaultMsgId : UInt8)
    (shortMessage : Bytes) : Option DeliverSm :=
  if shortMessage.length ≤ 254 then
    let fields : MessageFields :=
      { serviceType, sourceAddrTon, sourceAddrNpi, sourceAddr, destAddrTon, destAddrNpi,
        destinationAddr, esmClass, protocolId, priorityFlag, scheduleDeliveryTime,
        validityPeriod, registeredDelivery, replaceIfPresentFlag, dataCoding, smDefaultMsgId,
        smLength := UInt8.ofNat shortMessage.length, shortMessage }
    some
      { fields with
        header :=
          ⟨fields.messageCommandLength, CommandId.deliverSm.value, SmppError.ESME_ROK.code,
            sequenceNumber⟩
        tlvs := [] }
  else none

def withTlvs (pdu : DeliverSm) (tlvs : List Tlv) : DeliverSm :=
  { pdu with tlvs := pdu.tlvs ++ tlvs }

def pushTlv (pdu : DeliverSm) (tlv : Tlv) : DeliverSm := { pdu with tlvs := pdu.tlvs ++ [tlv] }

theorem withTlvs_withTlvs (pdu : DeliverSm) (tlvs more : List Tlv) :
    (pdu.withTlvs tlvs).withTlvs more = pdu.withTlvs (tlvs ++ more) := by
  simp only [withTlvs, List.append_assoc]

def setSequenceNumber (pdu : DeliverSm) (sequenceNumber : UInt32) : DeliverSm :=
  { pdu with header := { pdu.header with sequenceNumber } }

def decode (header : CommandHeader) (pdu : Bytes) : Decoded DeliverSm := do
  let input ← checkedBodyOf pdu
  let (fields, input) ← readBody MessageFields.read input
  pure { fields with header, tlvs := decodeTlvs input }

def encode (pdu : DeliverSm) : Bytes :=
  let totalLen := pdu.messageCommandLength + UInt32.ofNat (tlvsEncodedLen pdu.tlvs)
  { pdu.header with commandLength := totalLen }.encode ++
    (pdu.toMessageFields.encode ++ encodeTlvs pdu.tlvs)

def accept (pdu : DeliverSm) : DeliverSmResp :=
  ⟨⟨16 + 1, CommandId.deliverSmResp.value, SmppError.ESME_ROK.code, pdu.header.sequenceNumber⟩,
    Str.empty⟩

def genericReject (sequenceNumber : UInt32) (error : SmppError) : DeliverSmResp :=
  ⟨⟨16, CommandId.deliverSmResp.value, error.code, sequenceNumber⟩, Str.empty⟩

def reject (pdu : DeliverSm) (error : SmppError) : DeliverSmResp :=
  ⟨⟨16, CommandId.deliverSmResp.value, error.code, pdu.header.sequenceNumber⟩, Str.empty⟩

end DeliverSm

namespace DeliverSmResp

def encode (resp : DeliverSmResp) : Bytes := resp.header.encode ++ cOctetString resp.messageId

def decode (header : CommandHeader) (pdu : Bytes) : Decoded DeliverSmResp :=
  if header.commandStatus ≠ SmppError.ESME_ROK.code then .ok ⟨header, Str.empty⟩
  else if pdu.length > 16 then do
    let input ← bodyOf pdu
    let (messageId, _) ← readBody parseCOctetStringNom input
    pure ⟨header, messageId⟩
  else .ok ⟨header, Str.empty⟩

end DeliverSmResp

end Smpp34
