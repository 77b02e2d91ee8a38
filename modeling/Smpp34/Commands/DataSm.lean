import Smpp34.Common.Tlv

namespace Smpp34

open Octets
open Parse
open Utf8 (Str)

structure DataFields where
  serviceType : Str
  sourceAddrTon : UInt8
  sourceAddrNpi : UInt8
  sourceAddr : Str
  destAddrTon : UInt8
  destAddrNpi : UInt8
  destinationAddr : Str
  esmClass : UInt8
  registeredDelivery : UInt8
  dataCoding : UInt8
deriving DecidableEq

namespace DataFields

def baseCommandLength (fields : DataFields) : UInt32 :=
  UInt32.ofNat
    (16 + fields.serviceType.len + 1 + 2 + fields.sourceAddr.len + 1 + 2 +
      fields.destinationAddr.len + 1 + 3)

def encode (fields : DataFields) : Bytes :=
  cOctetString fields.serviceType ++ [fields.sourceAddrTon] ++ [fields.sourceAddrNpi] ++
    cOctetString fields.sourceAddr ++ [fields.destAddrTon] ++ [fields.destAddrNpi] ++
    cOctetString fields.destinationAddr ++ [fields.esmClass] ++ [fields.registeredDelivery] ++
    [fields.dataCoding]

def read : Reader DataFields := do
  let serviceType ← parseCOctetStringNom
  let sourceAddrTon ← octet
  let sourceAddrNpi ← octet
  let sourceAddr ← parseCOctetStringNom
  let destAddrTon ← octet
  let destAddrNpi ← octet
  let destinationAddr ← parseCOctetStringNom
  let esmClass ← octet
  let registeredDelivery ← octet
  let dataCoding ← octet
  pure
    { serviceType, sourceAddrTon, sourceAddrNpi, sourceAddr, destAddrTon, destAddrNpi,
      destinationAddr, esmClass, registeredDelivery, dataCoding }

structure WellFormed (fields : DataFields) : Prop where
  serviceType : NulFree fields.serviceType
  sourceAddr : NulFree fields.sourceAddr
  destinationAddr : NulFree fields.destinationAddr

theorem encode_length (fields : DataFields) :
    16 + fields.encode.length =
      16 + fields.serviceType.len + 1 + 2 + fields.sourceAddr.len + 1 + 2 +
        fields.destinationAddr.len + 1 + 3 := by
  simp only [encode, List.length_append, cOctetString_length, List.length_singleton]
  omega

theorem reads_encode (fields : DataFields) (formed : fields.WellFormed) :
    Reads read fields.encode fields := by
  simp only [encode, List.append_assoc]
  refine (reads_cOctetString _ formed.serviceType).bind ?_
  refine (reads_octet _).bind ?_
  refine (reads_octet _).bind ?_
  refine (reads_cOctetString _ formed.sourceAddr).bind ?_
  refine (reads_octet _).bind ?_
  refine (reads_octet _).bind ?_
  refine (reads_cOctetString _ formed.destinationAddr).bind ?_
  refine (reads_octet _).bind ?_
  refine (reads_octet _).bind ?_
  exact (reads_octet _).last fun found => { fields with dataCoding := found }

theorem total_length (fields : DataFields) (tlvs : List Tlv)
    (small : 16 + (fields.encode ++ encodeTlvs tlvs).length < 2 ^ 32) :
    (fields.baseCommandLength + UInt32.ofNat (tlvsEncodedLen tlvs)).toNat =
      16 + (fields.encode ++ encodeTlvs tlvs).length := by
  rw [List.length_append, encodeTlvs_length, ← Nat.add_assoc] at small ⊢
  rw [baseCommandLength, ← encode_length, length_ofNat_add small]

end DataFields

structure DataSm extends DataFields where
  header : CommandHeader
  tlvs : List Tlv
deriving DecidableEq

structure DataSmResp where
  header : CommandHeader
  messageId : Option Str
  tlvs : List Tlv
deriving DecidableEq

namespace DataSm

def new (sequenceNumber : UInt32) (serviceType : Str) (sourceAddrTon sourceAddrNpi : UInt8)
    (sourceAddr : Str) (destAddrTon destAddrNpi : UInt8) (destinationAddr : Str)
    (esmClass registeredDelivery dataCoding : UInt8) : DataSm :=
  let fields : DataFields :=
    { serviceType, sourceAddrTon, sourceAddrNpi, sourceAddr, destAddrTon, destAddrNpi,
      destinationAddr, esmClass, registeredDelivery, dataCoding }
  { fields with
    header :=
      ⟨fields.baseCommandLength, CommandId.dataSm.value, SmppError.ESME_ROK.code, sequenceNumber⟩
    tlvs := [] }

def withTlvs (pdu : DataSm) (tlvs : List Tlv) : DataSm := { pdu with tlvs := pdu.tlvs ++ tlvs }

def pushTlv (pdu : DataSm) (tlv : Tlv) : DataSm := { pdu with tlvs := pdu.tlvs ++ [tlv] }

theorem withTlvs_withTlvs (pdu : DataSm) (tlvs more : List Tlv) :
    (pdu.withTlvs tlvs).withTlvs more = pdu.withTlvs (tlvs ++ more) := by
  simp only [withTlvs, List.append_assoc]

def setSequenceNumber (pdu : DataSm) (sequenceNumber : UInt32) : DataSm :=
  { pdu with header := { pdu.header with sequenceNumber } }

def decode (header : CommandHeader) (pdu : Bytes) : Decoded DataSm := do
  let input ← checkedBodyOf pdu
  let (fields, input) ← readBody DataFields.read input
  pure { fields with header, tlvs := decodeTlvs input }

def encode (pdu : DataSm) : Bytes :=
  let totalLen := pdu.baseCommandLength + UInt32.ofNat (tlvsEncodedLen pdu.tlvs)
  { pdu.header with commandLength := totalLen }.encode ++
    (pdu.toDataFields.encode ++ encodeTlvs pdu.tlvs)

def accept (pdu : DataSm) (messageId : Str) : Option DataSmResp :=
  if messageId.len > 65 then none
  else
    some
      ⟨⟨16 + UInt32.ofNat messageId.len + 1, CommandId.dataSmResp.value,
        SmppError.ESME_ROK.code, pdu.header.sequenceNumber⟩, some messageId, []⟩

def genericReject (sequenceNumber : UInt32) (error : SmppError) : DataSmResp :=
  ⟨⟨16, CommandId.dataSmResp.value, error.code, sequenceNumber⟩, none, []⟩

def reject (pdu : DataSm) (error : SmppError) : DataSmResp :=
  ⟨⟨16, CommandId.dataSmResp.value, error.code, pdu.header.sequenceNumber⟩, none, []⟩

end DataSm

namespace DataSmResp

def withTlvs (resp : DataSmResp) (tlvs : List Tlv) : DataSmResp :=
  { resp with tlvs := resp.tlvs ++ tlvs }

def encode (resp : DataSmResp) : Bytes :=
  let baseLen : UInt32 := 16 + (match resp.messageId with
    | some messageId => UInt32.ofNat messageId.len + 1
    | none => 0)
  let totalLen := baseLen + UInt32.ofNat (tlvsEncodedLen resp.tlvs)
  { resp.header with commandLength := totalLen }.encode ++
    ((match resp.messageId with
      | some messageId => cOctetString messageId
      | none => []) ++ encodeTlvs resp.tlvs)

def decode (header : CommandHeader) (pdu : Bytes) : Decoded DataSmResp :=
  if header.commandStatus ≠ SmppError.ESME_ROK.code then
    .ok ⟨header, none, decodeTlvs (pdu.drop 16)⟩
  else if pdu.length > 16 then do
    let input ← bodyOf pdu
    let (messageId, input) ← readBody parseCOctetStringNom input
    pure ⟨header, some messageId, decodeTlvs input⟩
  else .ok ⟨header, none, []⟩

end DataSmResp

end Smpp34
