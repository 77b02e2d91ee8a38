import Smpp34.Common.Tlv

namespace Smpp34

open Octets
open Parse
open Utf8 (Str)

inductive DestAddress where
  | sme (destAddrTon destAddrNpi : UInt8) (destinationAddr : Str)
  | distributionList (dlName : Str)
deriving DecidableEq

namespace DestAddress

def encodedLen : DestAddress → Nat
  | sme _ _ destinationAddr => 1 + 1 + 1 + destinationAddr.len + 1
  | distributionList dlName => 1 + dlName.len + 1

def encode : DestAddress → Bytes
  | sme destAddrTon destAddrNpi destinationAddr =>
    [0x01] ++ [destAddrTon] ++ [destAddrNpi] ++ cOctetString destinationAddr
  | distributionList dlName => [0x02] ++ cOctetString dlName

/-- Every flag but that of a distribution list is taken for an SME address. -/
def parse : Reader DestAddress := do
  let destFlag ← octet
  if destFlag = 0x02 then
    let dlName ← parseCOctetStringNom
    pure (distributionList dlName)
  else
    let destAddrTon ← octet
    let destAddrNpi ← octet
    let destinationAddr ← parseCOctetStringNom
    pure (sme destAddrTon destAddrNpi destinationAddr)

def WellFormed : DestAddress → Prop
  | sme _ _ destinationAddr => NulFree destinationAddr
  | distributionList dlName => NulFree dlName

instance : (dest : DestAddress) → Decidable dest.WellFormed
  | sme _ _ destinationAddr => inferInstanceAs (Decidable (NulFree destinationAddr))
  | distributionList dlName => inferInstanceAs (Decidable (NulFree dlName))

@[simp] theorem encode_length (dest : DestAddress) : dest.encode.length = dest.encodedLen := by
  cases dest <;> simp only [encode, encodedLen, List.length_append, cOctetString_length,
    List.length_singleton] <;> omega

theorem reads_encode (dest : DestAddress) (formed : dest.WellFormed) :
    Reads parse dest.encode dest := by
  cases dest with
  | sme ton npi addr =>
    simp only [encode, List.append_assoc]
    refine (reads_octet _).bind ?_
    rw [if_neg (by decide)]
    refine (reads_octet _).bind ?_
    refine (reads_octet _).bind ?_
    exact (reads_cOctetString addr formed).last (sme ton npi)
  | distributionList name =>
    refine (reads_octet _).bind ?_
    rw [if_pos rfl]
    exact (reads_cOctetString name formed).last distributionList

end DestAddress

structure UnsuccessSme where
  destAddrTon : UInt8
  destAddrNpi : UInt8
  destinationAddr : Str
  errorStatusCode : UInt32
deriving DecidableEq

namespace UnsuccessSme

def encodedLen (entry : UnsuccessSme) : Nat := 1 + 1 + entry.destinationAddr.len + 1 + 4

def encode (entry : UnsuccessSme) : Bytes :=
  [entry.destAddrTon] ++ [entry.destAddrNpi] ++ cOctetString entry.destinationAddr ++
    be32 entry.errorStatusCode

def parse : Reader UnsuccessSme := do
  let destAddrTon ← octet
  let destAddrNpi ← octet
  let destinationAddr ← parseCOctetStringNom
  let errorStatusCode ← word32
  pure ⟨destAddrTon, destAddrNpi, destinationAddr, errorStatusCode⟩

@[simp] theorem encode_length (entry : UnsuccessSme) :
    entry.encode.length = entry.encodedLen := by
  simp only [encode, encodedLen, List.length_append, cOctetString_length, List.length_singleton,
    be32_length]
  omega

theorem reads_encode (entry : UnsuccessSme) (clean : NulFree entry.destinationAddr) :
    Reads parse entry.encode entry := by
  simp only [encode, List.append_assoc]
  refine (reads_octet _).bind ?_
  refine (reads_octet _).bind ?_
  refine (reads_cOctetString _ clean).bind ?_
  exact (reads_word32 _).last fun found => { entry with errorStatusCode := found }

end UnsuccessSme

theorem flatMap_length {α : Type} (encode : α → Bytes) (encodedLen : α → Nat)
    (size : ∀ value, (encode value).length = encodedLen value) (values : List α) :
    (values.flatMap encode).length = (values.map encodedLen).sum := by
  rw [List.length_flatMap]
  congr 1
  exact List.map_congr_left fun value _ => size value

structure MultiFields where
  serviceType : Str
  sourceAddrTon : UInt8
  sourceAddrNpi : UInt8
  sourceAddr : Str
  numberOfDests : UInt8
  destAddresses : List DestAddress
  esmClass : UInt8
  protocolId : UInt8
  priorityFlag : UInt8
  scheduleDeliveryTime : Str
  validityPeriod : Str
  registeredDelivery : UInt8
  replaceIfPresentFlag : UInt8
  dataCoding : UInt8
  smDefaultMsgId : UInt8
  smLength : UInt8
  shortMessage : Bytes
deriving DecidableEq

namespace MultiFields

def baseLen (fields : MultiFields) : UInt32 :=
  let dests := (fields.destAddresses.map DestAddress.encodedLen).sum
  UInt32.ofNat
    (16 + fields.serviceType.len + 1 + 1 + 1 + fields.sourceAddr.len + 1 + 1 + dests + 1 + 1 +
      1 + fields.scheduleDeliveryTime.len + 1 + fields.validityPeriod.len + 1 + 1 + 1 + 1 + 1 +
      1 + fields.shortMessage.length)

def encode (fields : MultiFields) : Bytes :=
  cOctetString fields.serviceType ++ [fields.sourceAddrTon] ++ [fields.sourceAddrNpi] ++
    cOctetString fields.sourceAddr ++ [fields.numberOfDests] ++
    fields.destAddresses.flatMap DestAddress.encode ++ [fields.esmClass] ++
    [fields.protocolId] ++ [fields.priorityFlag] ++ cOctetString fields.scheduleDeliveryTime ++
    cOctetString fields.validityPeriod ++ [fields.registeredDelivery] ++
    [fields.replaceIfPresentFlag] ++ [fields.dataCoding] ++ [fields.smDefaultMsgId] ++
    [fields.smLength] ++ fields.shortMessage

def read : Reader MultiFields := do
  let serviceType ← parseCOctetStringNom
  let sourceAddrTon ← octet
  let sourceAddrNpi ← octet
  let sourceAddr ← parseCOctetStringNom
  let numberOfDests ← octet
  let destAddresses ← times DestAddress.parse numberOfDests.toNat
  let esmClass ← octet
  let protocolId ← octet
  let priorityFlag ← octet
  let scheduleDeliveryTime ← parseCOctetStringNom
  let validityPeriod ← parseCOctetStringNom
  let registeredDelivery ← octet
  let replaceIfPresentFlag ← octet
  let dataCoding ← octet
  let smDefaultMsgId ← octet
  let smLength ← octet
  let shortMessage ← take smLength.toNat
  pure
    { serviceType, sourceAddrTon, sourceAddrNpi, sourceAddr, numberOfDests, destAddresses,
      esmClass, protocolId, priorityFlag, scheduleDeliveryTime, validityPeriod,
      registeredDelivery, replaceIfPresentFlag, dataCoding, smDefaultMsgId, smLength,
      shortMessage }

structure WellFormed (fields : MultiFields) : Prop where
  serviceType : NulFree fields.serviceType
  sourceAddr : NulFree fields.sourceAddr
  numberOfDests : fields.numberOfDests.toNat = fields.destAddresses.length
  destAddresses : ∀ dest ∈ fields.destAddresses, dest.WellFormed
  scheduleDeliveryTime : NulFree fields.scheduleDeliveryTime
  validityPeriod : NulFree fields.validityPeriod
  smLength : fields.smLength.toNat = fields.shortMessage.length

theorem encode_length (fields : MultiFields) :
    16 + fields.encode.length =
      16 + fields.serviceType.len + 1 + 1 + 1 + fields.sourceAddr.len + 1 + 1 +
        (fields.destAddresses.map DestAddress.encodedLen).sum + 1 + 1 + 1 +
        fields.scheduleDeliveryTime.len + 1 + fields.validityPeriod.len + 1 + 1 + 1 + 1 + 1 +
        1 + fields.shortMessage.length := by
  simp only [encode, List.length_append, cOctetString_length, List.length_singleton,
    flatMap_length DestAddress.encode DestAddress.encodedLen DestAddress.encode_length]
  omega

theorem reads_encode (fields : MultiFields) (formed : fields.WellFormed) :
    Reads read fields.encode fields := by
  have dests : Reads (times DestAddress.parse fields.numberOfDests.toNat)
      (fields.destAddresses.flatMap DestAddress.encode) fields.destAddresses := by
    rw [formed.numberOfDests]
    exact Reads.times fields.destAddresses fun dest member =>
      dest.reads_encode (formed.destAddresses dest member)
  have message : Reads (take fields.smLength.toNat) fields.shortMessage fields.shortMessage := by
    rw [formed.smLength]
    exact reads_take fields.shortMessage
  simp only [encode, List.append_assoc]
  refine (reads_cOctetString _ formed.serviceType).bind ?_
  refine (reads_octet _).bind ?_
  refine (reads_octet _).bind ?_
  refine (reads_cOctetString _ formed.sourceAddr).bind ?_
  refine (reads_octet _).bind ?_
  refine dests.bind ?_
  refine (reads_octet _).bind ?_
  refine (reads_octet _).bind ?_
  refine (reads_octet _).bind ?_
  refine (reads_cOctetString _ formed.scheduleDeliveryTime).bind ?_
  refine (reads_cOctetString _ formed.validityPeriod).bind ?_
  refine (reads_octet _).bind ?_
  refine (reads_octet _).bind ?_
  refine (reads_octet _).bind ?_
  refine (reads_octet _).bind ?_
  refine (reads_octet _).bind ?_
  exact message.last fun found => { fields with shortMessage := found }

theorem total_length (fields : MultiFields) (tlvs : List Tlv)
    (small : 16 + (fields.encode ++ encodeTlvs tlvs).length < 2 ^ 32) :
    (fields.baseLen + UInt32.ofNat (tlvsEncodedLen tlvs)).toNat =
      16 + (fields.encode ++ encodeTlvs tlvs).length := by
  rw [List.length_append, encodeTlvs_length, ← Nat.add_assoc] at small ⊢
  rw [baseLen, ← encode_length, length_ofNat_add small]

end MultiFields

structure SubmitSmMulti extends MultiFields where
  header : CommandHeader
  tlvs : List Tlv
deriving DecidableEq

structure SubmitSmMultiResp where
  header : CommandHeader
  messageId : Option Str
  noUnsuccess : UInt8
  unsuccessSme : List UnsuccessSme
deriving DecidableEq

namespace SubmitSmMulti

def new (sequenceNumber : UInt32) (serviceType : Str) (sourceAddrTon sourceAddrNpi : UInt8)
    (sourceAddr : Str) (destAddresses : List DestAddress)
    (esmClass protocolId priorityFlag : UInt8) (scheduleDeliveryTime validityPeriod : Str)
    (registeredDelivery replaceIfPresentFlag dataCoding smDefaultMsgId : UInt8)
    (shortMessage : Bytes) : Option SubmitSmMulti :=
  if shortMessage.length ≤ 254 ∧ destAddresses.length ≤ 254 then
    let fields : MultiFields :=
      { serviceType, sourceAddrTon, sourceAddrNpi, sourceAddr,
        numberOfDests := UInt8.ofNat destAddresses.length, destAddresses, esmClass, protocolId,
        priorityFlag, scheduleDeliveryTime, validityPeriod, registeredDelivery,
        replaceIfPresentFlag, dataCoding, smDefaultMsgId,
        smLength := UInt8.ofNat shortMessage.length, shortMessage }
    some
      { fields with
        header :=
          ⟨fields.baseLen, CommandId.submitMulti.value, SmppError.ESME_ROK.code, sequenceNumber⟩
        tlvs := [] }
  else none

def withTlvs (pdu : SubmitSmMulti) (tlvs : List Tlv) : SubmitSmMulti :=
  { pdu with tlvs := pdu.tlvs ++ tlvs }

def pushTlv (pdu : SubmitSmMulti) (tlv : Tlv) : SubmitSmMulti := { pdu with tlvs := pdu.tlvs ++ [tlv] }

theorem withTlvs_withTlvs (pdu : SubmitSmMulti) (tlvs more : List Tlv) :
    (pdu.withTlvs tlvs).withTlvs more = pdu.withTlvs (tlvs ++ more) := by
  simp only [withTlvs, List.append_assoc]

def setSequenceNumber (pdu : SubmitSmMulti) (sequenceNumber : UInt32) : SubmitSmMulti :=
  { pdu with header := { pdu.header with sequenceNumber } }

def decode (header : CommandHeader) (pdu : Bytes) : Decoded SubmitSmMulti := do
  let input ← bodyOf pdu
  let (fields, input) ← readBody MultiFields.read input
  pure { fields with header, tlvs := decodeTlvs input }

def encode (pdu : SubmitSmMulti) : Bytes :=
  let totalLen := pdu.baseLen + UInt32.ofNat (tlvsEncodedLen pdu.tlvs)
  { pdu.header with commandLength := totalLen }.encode ++
    (pdu.toMultiFields.encode ++ encodeTlvs pdu.tlvs)

def accept (pdu : SubmitSmMulti) (messageId : Str) (unsuccessSme : List UnsuccessSme) :
    SubmitSmMultiResp :=
  let unsuccessLen := (unsuccessSme.map UnsuccessSme.encodedLen).sum
  ⟨⟨UInt32.ofNat (16 + messageId.len + 1 + 1 + unsuccessLen), CommandId.submitMultiResp.value,
    SmppError.ESME_ROK.code, pdu.header.sequenceNumber⟩, some messageId,
    UInt8.ofNat unsuccessSme.length, unsuccessSme⟩

def genericReject (sequenceNumber : UInt32) (error : SmppError) : SubmitSmMultiResp :=
  ⟨⟨16, CommandId.submitMultiResp.value, error.code, sequenceNumber⟩, none, 0, []⟩

def reject (pdu : SubmitSmMulti) (error : SmppError) : SubmitSmMultiResp :=
  genericReject pdu.header.sequenceNumber error

end SubmitSmMulti

namespace SubmitSmMultiResp

def decode (header : CommandHeader) (pdu : Bytes) : Decoded SubmitSmMultiResp :=
  if header.commandStatus ≠ SmppError.ESME_ROK.code then .ok ⟨header, none, 0, []⟩
  else do
    let input ← bodyOf pdu
    let (messageId, input) ← readBody parseCOctetStringNom input
    let (noUnsuccess, input) ← readBody octet input
    let (unsuccessSme, _) ← readBody (times UnsuccessSme.parse noUnsuccess.toNat) input
    pure ⟨header, some messageId, noUnsuccess, unsuccessSme⟩

def encode (resp : SubmitSmMultiResp) : Bytes :=
  resp.header.encode ++
    if resp.header.commandStatus = SmppError.ESME_ROK.code then
      (match resp.messageId with
        | some messageId => messageId.bytes
        | none => []) ++ [0x00] ++ [resp.noUnsuccess] ++
        resp.unsuccessSme.flatMap UnsuccessSme.encode
    else []

end SubmitSmMultiResp

end Smpp34
