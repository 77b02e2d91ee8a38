import Smpp34.Common.Fields

namespace Smpp34

open Octets
open Parse

structure Tlv where
  tag : UInt16
  value : Bytes
deriving DecidableEq, Repr

inductive TlvTag where
  | destAddrSubunit
  | destNetworkType
  | destBearerType
  | destTelematicsId
  | sourceAddrSubunit
  | sourceNetworkType
  | sourceBearerType
  | sourceTelematicsId
  | qosTimeToLive
  | payloadType
  | additionalStatusInfoText
  | receiptedMessageId
  | msMsgWaitFacilities
  | privacyIndicator
  | sourceSubaddress
  | destSubaddress
  | userMessageReference
  | userResponseCode
  | sourcePort
  | destinationPort
  | sarMsgRefNum
  | languageIndicator
  | sarTotalSegments
  | sarSegmentSeqnum
  | scInterfaceVersion
  | callbackNumPresInd
  | callbackNumAtag
  | numberOfMessages
  | callbackNum
  | dpfResult
  | setDpf
  | msAvailabilityStatus
  | networkErrorCode
  | messagePayload
  | deliveryFailureReason
  | moreMessagesToSend
  | messageStateTlv
  | ussdServiceOp
  | displayTime
  | smsSignal
  | msValidity
  | alertOnMessageDelivery
  | itsReplyType
  | itsSessionInfo
deriving DecidableEq, Repr

def TlvTag.value : TlvTag → UInt16
  | .destAddrSubunit => 0x0005
  | .destNetworkType => 0x0006
  | .destBearerType => 0x0007
  | .destTelematicsId => 0x0008
  | .sourceAddrSubunit => 0x000D
  | .sourceNetworkType => 0x000E
  | .sourceBearerType => 0x000F
  | .sourceTelematicsId => 0x0010
  | .qosTimeToLive => 0x0017
  | .payloadType => 0x0019
  | .additionalStatusInfoText => 0x001D
  | .receiptedMessageId => 0x001E
  | .msMsgWaitFacilities => 0x0030
  | .privacyIndicator => 0x0201
  | .sourceSubaddress => 0x0202
  | .destSubaddress => 0x0203
  | .userMessageReference => 0x0204
  | .userResponseCode => 0x0205
  | .sourcePort => 0x020A
  | .destinationPort => 0x020B
  | .sarMsgRefNum => 0x020C
  | .languageIndicator => 0x020D
  | .sarTotalSegments => 0x020E
  | .sarSegmentSeqnum => 0x020F
  | .scInterfaceVersion => 0x0210
  | .callbackNumPresInd => 0x0302
  | .callbackNumAtag => 0x0303
  | .numberOfMessages => 0x0304
  | .callbackNum => 0x0381
  | .dpfResult => 0x0420
  | .setDpf => 0x0421
  | .msAvailabilityStatus => 0x0422
  | .networkErrorCode => 0x0423
  | .messagePayload => 0x0424
  | .deliveryFailureReason => 0x0425
  | .moreMessagesToSend => 0x0426
  | .messageStateTlv => 0x0427
  | .ussdServiceOp => 0x0501
  | .displayTime => 0x1201
  | .smsSignal => 0x1203
  | .msValidity => 0x1204
  | .alertOnMessageDelivery => 0x130C
  | .itsReplyType => 0x1380
  | .itsSessionInfo => 0x1383

namespace Tlv

def fromTag (tag : TlvTag) (value : Bytes) : Tlv := ⟨tag.value, value⟩

def fromU8 (tag : TlvTag) (value : UInt8) : Tlv := fromTag tag [value]

def encode (tlv : Tlv) : Bytes :=
  be16 tlv.tag ++ be16 (UInt16.ofNat tlv.value.length) ++ tlv.value

def encodedLen (tlv : Tlv) : Nat := 4 + tlv.value.length

def asU8 (tlv : Tlv) : Option UInt8 :=
  match tlv.value with
  | [value] => some value
  | _ => none

/-- The value's length fits the two octets that tell it. -/
def Fits (tlv : Tlv) : Prop := tlv.value.length ≤ 65535

instance (tlv : Tlv) : Decidable tlv.Fits := inferInstanceAs (Decidable (_ ≤ _))

@[simp] theorem encode_length (tlv : Tlv) : tlv.encode.length = tlv.encodedLen := by
  simp [encode, encodedLen]
  omega

end Tlv

def getTlv (tlvs : List Tlv) (tag : TlvTag) : Option Tlv :=
  tlvs.find? fun tlv => tlv.tag = tag.value

def messagePayload (tlvs : List Tlv) : Option Bytes :=
  (getTlv tlvs .messagePayload).map Tlv.value

def parseSingleTlv : Reader Tlv := do
  let tag ← word16
  let length ← word16
  let value ← take length.toNat
  pure ⟨tag, value⟩

/-- At most one parameter is read for each unit of `fuel`. -/
def decodeTlvsFrom : Nat → Bytes → List Tlv
  | 0, _ => []
  | fuel + 1, input =>
    if 4 ≤ input.length then
      match parseSingleTlv input with
      | some (tlv, remaining) => tlv :: decodeTlvsFrom fuel remaining
      | none => []
    else []

def decodeTlvs (input : Bytes) : List Tlv := decodeTlvsFrom input.length input

def encodeTlvs (tlvs : List Tlv) : Bytes := tlvs.flatMap Tlv.encode

def tlvsEncodedLen (tlvs : List Tlv) : Nat := (tlvs.map Tlv.encodedLen).sum

@[simp] theorem encodeTlvs_length (tlvs : List Tlv) :
    (encodeTlvs tlvs).length = tlvsEncodedLen tlvs := by
  induction tlvs with
  | nil => rfl
  | cons tlv tlvs ih =>
    rw [encodeTlvs, List.flatMap_cons, List.length_append, Tlv.encode_length]
    rw [tlvsEncodedLen, List.map_cons, List.sum_cons, ← tlvsEncodedLen, ← ih, encodeTlvs]

theorem reads_tlv (tlv : Tlv) (fits : tlv.Fits) : Reads parseSingleTlv tlv.encode tlv := by
  have size : (UInt16.ofNat tlv.value.length).toNat = tlv.value.length := by
    have small : tlv.value.length ≤ 65535 := fits
    rw [UInt16.toNat_ofNat']
    omega
  have value : Reads (take (UInt16.ofNat tlv.value.length).toNat) tlv.value tlv.value := by
    rw [size]
    exact reads_take tlv.value
  rw [Tlv.encode, List.append_assoc]
  refine (reads_word16 tlv.tag).bind ?_
  refine (reads_word16 _).bind ?_
  exact value.last (Tlv.mk tlv.tag)

theorem spells_tlv : Spells parseSingleTlv Tlv.encode := by
  intro input tlv remaining read
  simp only [parseSingleTlv, bind_eq_some, pure_eq_some] at read
  obtain ⟨tag, afterTag, tagged, length, afterLength, told, value, rest, valued, rfl, rfl⟩ := read
  have size : UInt16.ofNat value.length = length := by
    rw [(take_length valued).1]
    exact UInt16.ofNat_toNat
  have whole : input = be16 tag ++ (be16 length ++ (value ++ rest)) := by
    rw [spells_word16 _ _ _ tagged, spells_word16 _ _ _ told, spells_take _ _ _ _ valued]
    rfl
  rw [whole, Tlv.encode, size]
  simp only [List.append_assoc]

theorem parseSingleTlv_fits {input remaining : Bytes} {tlv : Tlv}
    (read : parseSingleTlv input = some (tlv, remaining)) : tlv.Fits := by
  simp only [parseSingleTlv, bind_eq_some, pure_eq_some] at read
  obtain ⟨tag, afterTag, -, length, afterLength, -, value, rest, valued, rfl, rfl⟩ := read
  have size := (take_length valued).1
  have bound := length.toNat_lt
  change value.length ≤ 65535
  omega

theorem parseSingleTlv_none {input : Bytes} (long : 4 ≤ input.length)
    (refused : parseSingleTlv input = none) :
    ∃ tag length rest, input = be16 tag ++ (be16 length ++ rest) ∧ rest.length < length.toNat := by
  match input, long with
  | a :: b :: c :: d :: rest, _ =>
    refine ⟨ofBe16 a b, ofBe16 c d, rest, ?_, ?_⟩
    · rw [be16_ofBe16, be16_ofBe16]
      rfl
    · by_contra enough
      have taken : take (ofBe16 c d).toNat rest =
          some (rest.take (ofBe16 c d).toNat, rest.drop (ofBe16 c d).toNat) := by
        rw [take, if_pos (by omega)]
      simp only [parseSingleTlv, bind_eq, word16, Option.bind_some, taken] at refused
      cases refused

theorem parseSingleTlv_length {input remaining : Bytes} {tlv : Tlv}
    (read : parseSingleTlv input = some (tlv, remaining)) :
    input.length = 4 + tlv.value.length + remaining.length := by
  simp only [parseSingleTlv, bind_eq_some, pure_eq_some] at read
  obtain ⟨tag, afterTag, tagged, length, afterLength, told, value, rest, valued, rfl, rfl⟩ := read
  have first := word16_length tagged
  have second := word16_length told
  have third := take_length valued
  dsimp only
  omega

theorem decodeTlvsFrom_enough (fuel : Nat) (input : Bytes) (enough : input.length ≤ fuel) :
    decodeTlvsFrom fuel input = decodeTlvs input := by
  have general (fuel other : Nat) (input : Bytes) (left : input.length ≤ fuel)
      (right : input.length ≤ other) : decodeTlvsFrom fuel input = decodeTlvsFrom other input := by
    induction fuel generalizing other input with
    | zero =>
      have empty : input.length = 0 := by omega
      cases other with
      | zero => rfl
      | succ other =>
        rw [decodeTlvsFrom, decodeTlvsFrom, if_neg (by omega)]
    | succ fuel ih =>
      cases other with
      | zero =>
        rw [decodeTlvsFrom, decodeTlvsFrom, if_neg (by omega)]
      | succ other =>
        rw [decodeTlvsFrom, decodeTlvsFrom]
        cases read : parseSingleTlv input with
        | none => rfl
        | some result =>
          obtain ⟨tlv, remaining⟩ := result
          have shorter := parseSingleTlv_length read
          simp only
          rw [ih other remaining (by omega) (by omega)]
  exact general fuel input.length input enough (Nat.le_refl _)

theorem decodeTlvs_cons {input remaining : Bytes} {tlv : Tlv}
    (read : parseSingleTlv input = some (tlv, remaining)) :
    decodeTlvs input = tlv :: decodeTlvs remaining := by
  have shorter := parseSingleTlv_length read
  obtain ⟨fuel, size⟩ : ∃ fuel, input.length = fuel + 1 := ⟨input.length - 1, by omega⟩
  rw [decodeTlvs, size, decodeTlvsFrom, if_pos (by omega), read]
  simp only
  rw [decodeTlvsFrom_enough fuel remaining (by omega)]

theorem decodeTlvsFrom_fits (fuel : Nat) (input : Bytes) :
    ∀ tlv ∈ decodeTlvsFrom fuel input, tlv.Fits := by
  induction fuel generalizing input with
  | zero =>
    intro tlv member
    cases member
  | succ fuel ih =>
    intro tlv member
    rw [decodeTlvsFrom] at member
    split at member
    · split at member
      · rename_i first remaining read
        rcases List.mem_cons.mp member with same | later
        · rw [same]
          exact parseSingleTlv_fits read
        · exact ih remaining tlv later
      · cases member
    · cases member

theorem decodeTlvs_fits (input : Bytes) : ∀ tlv ∈ decodeTlvs input, tlv.Fits :=
  decodeTlvsFrom_fits input.length input

theorem decodeTlvs_none {input : Bytes} (refused : parseSingleTlv input = none) :
    decodeTlvs input = [] := by
  rw [decodeTlvs]
  cases size : input.length with
  | zero => rfl
  | succ fuel =>
    rw [decodeTlvsFrom, refused]
    split <;> rfl

theorem decodeTlvs_short {input : Bytes} (short : input.length < 4) : decodeTlvs input = [] := by
  rw [decodeTlvs]
  cases size : input.length with
  | zero => rfl
  | succ fuel => rw [decodeTlvsFrom, if_neg (by omega)]

/-- Parameters come back in order, and a tail too short for another is dropped. -/
theorem decodeTlvs_encodeTlvs (tlvs : List Tlv) (tail : Bytes) (short : tail.length < 4)
    (fits : ∀ tlv ∈ tlvs, tlv.Fits) : decodeTlvs (encodeTlvs tlvs ++ tail) = tlvs := by
  induction tlvs with
  | nil => exact decodeTlvs_short short
  | cons tlv tlvs ih =>
    have first := reads_tlv tlv (fits tlv List.mem_cons_self) (encodeTlvs tlvs ++ tail)
    rw [encodeTlvs, List.flatMap_cons, List.append_assoc, ← encodeTlvs, decodeTlvs_cons first,
      ih fun other member => fits other (List.mem_cons_of_mem tlv member)]

theorem decodeTlvs_encoded (tlvs : List Tlv) (fits : ∀ tlv ∈ tlvs, tlv.Fits) :
    decodeTlvs (encodeTlvs tlvs) = tlvs := by
  simpa using decodeTlvs_encodeTlvs tlvs [] (by simp) fits

end Smpp34
