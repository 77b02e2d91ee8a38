import Smpp34.Common.Fields

namespace Smpp34

open Octets
open Parse
open Utf8 (Str)

structure CancelFields where
  serviceType : Str
  messageId : Str
  sourceAddrTon : UInt8
  sourceAddrNpi : UInt8
  sourceAddr : Str
  destAddrTon : UInt8
  destAddrNpi : UInt8
  destinationAddr : Str
deriving DecidableEq

namespace CancelFields

def encode (fields : CancelFields) : Bytes :=
  cOctetString fields.serviceType ++ cOctetString fields.messageId ++ [fields.sourceAddrTon] ++
    [fields.sourceAddrNpi] ++ cOctetString fields.sourceAddr ++ [fields.destAddrTon] ++
    [fields.destAddrNpi] ++ cOctetString fields.destinationAddr

def parse : Reader CancelFields := do
  let serviceType ← parseCOctetStringNom
  let messageId ← parseCOctetStringNom
  let sourceAddrTon ← octet
  let sourceAddrNpi ← octet
  let sourceAddr ← parseCOctetStringNom
  let destAddrTon ← octet
  let destAddrNpi ← octet
  let destinationAddr ← parseCOctetStringNom
  pure
    { serviceType, messageId, sourceAddrTon, sourceAddrNpi, sourceAddr, destAddrTon,
      destAddrNpi, destinationAddr }

structure WellFormed (fields : CancelFields) : Prop where
  serviceType : NulFree fields.serviceType
  messageId : NulFree fields.messageId
  sourceAddr : NulFree fields.sourceAddr
  destinationAddr : NulFree fields.destinationAddr

theorem encode_length (fields : CancelFields) :
    fields.encode.length =
      fields.serviceType.len + 1 + (fields.messageId.len + 1) + 2 + fields.sourceAddr.len + 1 +
        2 + fields.destinationAddr.len + 1 := by
  simp only [encode, List.length_append, cOctetString_length, List.length_singleton]
  omega

end CancelFields

structure CancelSm extends CancelFields where
  header : CommandHeader
deriving DecidableEq

structure CancelSmResp where
  header : CommandHeader
deriving DecidableEq

namespace CancelSm

/-- The length leaves out the message_id and its terminator. -/
def new (sequenceNumber : UInt32) (serviceType messageId : Str)
    (sourceAddrTon sourceAddrNpi : UInt8) (sourceAddr : Str) (destAddrTon destAddrNpi : UInt8)
    (destinationAddr : Str) : Option CancelSm :=
  if serviceType.len < 6 ∧ sourceAddr.len < 21 ∧ destinationAddr.len < 21 then
    some
      { serviceType, messageId, sourceAddrTon, sourceAddrNpi, sourceAddr, destAddrTon,
        destAddrNpi, destinationAddr,
        header :=
          ⟨UInt32.ofNat
            (16 + serviceType.len + 1 + 2 + sourceAddr.len + 1 + 2 + destinationAddr.len + 1),
            CommandId.cancelSm.value, SmppError.ESME_ROK.code, sequenceNumber⟩ }
  else none

/-- The body is looked for at the front of the slice it is given, header and all. -/
def decode (header : CommandHeader) (pdu : Bytes) : Decoded CancelSm := do
  let (fields, _) ← readBody CancelFields.parse pdu
  pure { fields with header }

def encode (pdu : CancelSm) : Bytes := pdu.header.encode ++ pdu.toCancelFields.encode

def accept (pdu : CancelSm) : CancelSmResp :=
  ⟨⟨16, CommandId.cancelSmResp.value, SmppError.ESME_ROK.code, pdu.header.sequenceNumber⟩⟩

def genericReject (sequenceNumber : UInt32) (error : SmppError) : CancelSmResp :=
  ⟨⟨16, CommandId.cancelSmResp.value, error.code, sequenceNumber⟩⟩

def reject (pdu : CancelSm) (error : SmppError) : CancelSmResp :=
  ⟨⟨16, CommandId.cancelSmResp.value, error.code, pdu.header.sequenceNumber⟩⟩

end CancelSm

namespace CancelSmResp

def decode (header : CommandHeader) (_pdu : Bytes) : Decoded CancelSmResp := .ok ⟨header⟩

def encode (resp : CancelSmResp) : Bytes := resp.header.encode

end CancelSmResp

structure QueryFields where
  messageId : Str
  sourceAddrTon : UInt8
  sourceAddrNpi : UInt8
  sourceAddr : Str
deriving DecidableEq

namespace QueryFields

def encode (fields : QueryFields) : Bytes :=
  cOctetString fields.messageId ++ [fields.sourceAddrTon] ++ [fields.sourceAddrNpi] ++
    cOctetString fields.sourceAddr

def read : Reader QueryFields := do
  let messageId ← parseCOctetStringNom
  let sourceAddrTon ← octet
  let sourceAddrNpi ← octet
  let sourceAddr ← parseCOctetStringNom
  pure { messageId, sourceAddrTon, sourceAddrNpi, sourceAddr }

structure WellFormed (fields : QueryFields) : Prop where
  messageId : NulFree fields.messageId
  sourceAddr : NulFree fields.sourceAddr

theorem encode_length (fields : QueryFields) :
    16 + fields.encode.length =
      16 + fields.messageId.len + 1 + 1 + 1 + fields.sourceAddr.len + 1 := by
  simp only [encode, List.length_append, cOctetString_length, List.length_singleton]
  omega

theorem reads_encode (fields : QueryFields) (formed : fields.WellFormed) :
    Reads read fields.encode fields := by
  simp only [encode, List.append_assoc]
  refine (reads_cOctetString _ formed.messageId).bind ?_
  refine (reads_octet _).bind ?_
  refine (reads_octet _).bind ?_
  exact (reads_cOctetString _ formed.sourceAddr).last fun found =>
    { fields with sourceAddr := found }

end QueryFields

structure QuerySm extends QueryFields where
  header : CommandHeader
deriving DecidableEq

structure QuerySmResp where
  header : CommandHeader
  messageId : Str
  finalDate : Str
  messageState : UInt8
  errorCode : UInt8
deriving DecidableEq

namespace QuerySm

def new (sequenceNumber : UInt32) (messageId : Str) (sourceAddrTon sourceAddrNpi : UInt8)
    (sourceAddr : Str) : QuerySm :=
  { messageId, sourceAddrTon, sourceAddrNpi, sourceAddr,
    header :=
      ⟨UInt32.ofNat (16 + messageId.len + 1 + 1 + 1 + sourceAddr.len + 1),
        CommandId.querySm.value, SmppError.ESME_ROK.code, sequenceNumber⟩ }

def decode (header : CommandHeader) (pdu : Bytes) : Decoded QuerySm := do
  let input ← checkedBodyOf pdu
  let (fields, _) ← readBody QueryFields.read input
  pure { fields with header }

def encode (pdu : QuerySm) : Bytes := pdu.header.encode ++ pdu.toQueryFields.encode

def accept (pdu : QuerySm) (messageId finalDate : Str) (messageState errorCode : UInt8) :
    QuerySmResp :=
  ⟨⟨UInt32.ofNat (16 + messageId.len + 1 + finalDate.len + 1 + 1 + 1),
    CommandId.querySmResp.value, SmppError.ESME_ROK.code, pdu.header.sequenceNumber⟩,
    messageId, finalDate, messageState, errorCode⟩

def genericReject (sequenceNumber : UInt32) (error : SmppError) : QuerySmResp :=
  ⟨⟨16, CommandId.querySmResp.value, error.code, sequenceNumber⟩, Str.empty, Str.empty, 0, 0⟩

def reject (pdu : QuerySm) (error : SmppError) : QuerySmResp :=
  ⟨⟨16, CommandId.querySmResp.value, error.code, pdu.header.sequenceNumber⟩, Str.empty,
    Str.empty, 0, 0⟩

end QuerySm

namespace QuerySmResp

def decode (header : CommandHeader) (pdu : Bytes) : Decoded QuerySmResp :=
  if header.commandStatus ≠ SmppError.ESME_ROK.code then
    .ok ⟨header, Str.empty, Str.empty, 0, 0⟩
  else if pdu.length ≤ 16 then .error (.error .ESME_RINVPARLEN)
  else do
    let input ← bodyOf pdu
    let (messageId, input) ← readBody parseCOctetStringNom input
    let (finalDate, input) ← readBody parseCOctetStringNom input
    let (messageState, input) ← readBody octet input
    let (errorCode, _) ← readBody octet input
    pure ⟨header, messageId, finalDate, messageState, errorCode⟩

def encode (resp : QuerySmResp) : Bytes :=
  resp.header.encode ++
    if resp.header.commandStatus = SmppError.ESME_ROK.code then
      cOctetString resp.messageId ++ cOctetString resp.finalDate ++ [resp.messageState] ++
        [resp.errorCode]
    else []

end QuerySmResp

structure ReplaceFields where
  messageId : Str
  sourceAddrTon : UInt8
  sourceAddrNpi : UInt8
  sourceAddr : Str
  scheduleDeliveryTime : Str
  validityPeriod : Str
  registeredDelivery : UInt8
  smDefaultMsgId : UInt8
  smLength : UInt8
  shortMessage : Bytes
deriving DecidableEq

namespace ReplaceFields

def encode (fields : ReplaceFields) : Bytes :=
  cOctetString fields.messageId ++ [fields.sourceAddrTon] ++ [fields.sourceAddrNpi] ++
    cOctetString fields.sourceAddr ++ cOctetString fields.scheduleDeliveryTime ++
    cOctetString fields.validityPeriod ++ [fields.registeredDelivery] ++
    [fields.smDefaultMsgId] ++ [fields.smLength] ++ fields.shortMessage

def read : Reader ReplaceFields := do
  let messageId ← parseCOctetStringNom
  let sourceAddrTon ← octet
  let sourceAddrNpi ← octet
  let sourceAddr ← parseCOctetStringNom
  let scheduleDeliveryTime ← parseCOctetStringNom
  let validityPeriod ← parseCOctetStringNom
  let registeredDelivery ← octet
  let smDefaultMsgId ← octet
  let smLength ← octet
  let shortMessage ← take smLength.toNat
  pure
    { messageId, sourceAddrTon, sourceAddrNpi, sourceAddr, scheduleDeliveryTime,
      validityPeriod, registeredDelivery, smDefaultMsgId, smLength, shortMessage }

structure WellFormed (fields : ReplaceFields) : Prop where
  messageId : NulFree fields.messageId
  sourceAddr : NulFree fields.sourceAddr
  scheduleDeliveryTime : NulFree fields.scheduleDeliveryTime
  validityPeriod : NulFree fields.validityPeriod
  smLength : fields.smLength.toNat = fields.shortMessage.length

theorem encode_length (fields : ReplaceFields) :
    16 + fields.encode.length =
      16 + fields.messageId.len + 1 + 1 + 1 + fields.sourceAddr.len + 1 +
        fields.scheduleDeliveryTime.len + 1 + fields.validityPeriod.len + 1 + 1 + 1 + 1 +
        fields.shortMessage.length := by
  simp only [encode, List.length_append, cOctetString_length, List.length_singleton]
  omega

theorem reads_encode (fields : ReplaceFields) (formed : fields.WellFormed) :
    Reads read fields.encode fields := by
  have message : Reads (take fields.smLength.toNat) fields.shortMessage fields.shortMessage := by
    rw [formed.smLength]
    exact reads_take fields.shortMessage
  simp only [encode, List.append_assoc]
  refine (reads_cOctetString _ formed.messageId).bind ?_
  refine (reads_octet _).bind ?_
  refine (reads_octet _).bind ?_
  refine (reads_cOctetString _ formed.sourceAddr).bind ?_
  refine (reads_cOctetString _ formed.scheduleDeliveryTime).bind ?_
  refine (reads_cOctetString _ formed.validityPeriod).bind ?_
  refine (reads_octet _).bind ?_
  refine (reads_octet _).bind ?_
  refine (reads_octet _).bind ?_
  exact message.last fun found => { fields with shortMessage := found }

end ReplaceFields

structure ReplaceSm extends ReplaceFields where
  header : CommandHeader
deriving DecidableEq

structure ReplaceSmResp where
  header : CommandHeader
deriving DecidableEq

namespace ReplaceSm

def new (sequenceNumber : UInt32) (messageId : Str) (sourceAddrTon sourceAddrNpi : UInt8)
    (sourceAddr scheduleDeliveryTime validityPeriod : Str)
    (registeredDelivery smDefaultMsgId : UInt8) (shortMessage : Bytes) : Option ReplaceSm :=
  if shortMessage.length ≤ 254 then
    some
      { messageId, sourceAddrTon, sourceAddrNpi, sourceAddr, scheduleDeliveryTime,
        validityPeriod, registeredDelivery, smDefaultMsgId,
        smLength := UInt8.ofNat shortMessage.length, shortMessage,
        header :=
          ⟨UInt32.ofNat
            (16 + messageId.len + 1 + 1 + 1 + sourceAddr.len + 1 + scheduleDeliveryTime.len + 1 +
              validityPeriod.len + 1 + 1 + 1 + 1 + shortMessage.length),
            CommandId.replaceSm.value, SmppError.ESME_ROK.code, sequenceNumber⟩ }
  else none

def decode (header : CommandHeader) (pdu : Bytes) : Decoded ReplaceSm := do
  let input ← checkedBodyOf pdu
  let (fields, _) ← readBody ReplaceFields.read input
  pure { fields with header }

def encode (pdu : ReplaceSm) : Bytes := pdu.header.encode ++ pdu.toReplaceFields.encode

def accept (pdu : ReplaceSm) : ReplaceSmResp :=
  ⟨⟨16, CommandId.replaceSmResp.value, SmppError.ESME_ROK.code, pdu.header.sequenceNumber⟩⟩

def genericReject (sequenceNumber : UInt32) (error : SmppError) : ReplaceSmResp :=
  ⟨⟨16, CommandId.replaceSmResp.value, error.code, sequenceNumber⟩⟩

def reject (pdu : ReplaceSm) (error : SmppError) : ReplaceSmResp :=
  ⟨⟨16, CommandId.replaceSmResp.value, error.code, pdu.header.sequenceNumber⟩⟩

end ReplaceSm

namespace ReplaceSmResp

def decode (header : CommandHeader) (_pdu : Bytes) : Decoded ReplaceSmResp := .ok ⟨header⟩

def encode (resp : ReplaceSmResp) : Bytes := resp.header.encode

end ReplaceSmResp

end Smpp34
