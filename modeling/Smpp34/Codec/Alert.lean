import Smpp34.Codec.SelfDelimiting

namespace Smpp34

open Octets
open Parse
open Utf8 (Str)

/-- The mandatory fields of a frame as they stand on the wire; their strings need not be text. -/
structure RawAlert where
  sourceAddrTon : UInt8
  sourceAddrNpi : UInt8
  sourceAddr : Bytes
  esmeAddrTon : UInt8
  esmeAddrNpi : UInt8
  esmeAddr : Bytes

namespace RawAlert

def image (raw : RawAlert) : Bytes :=
  [raw.sourceAddrTon] ++ [raw.sourceAddrNpi] ++ (raw.sourceAddr ++ [0x00]) ++
    [raw.esmeAddrTon] ++ [raw.esmeAddrNpi] ++ (raw.esmeAddr ++ [0x00])

def fields (raw : RawAlert) : AlertFields where
  sourceAddrTon := raw.sourceAddrTon
  sourceAddrNpi := raw.sourceAddrNpi
  sourceAddr := Str.ofLossy raw.sourceAddr
  esmeAddrTon := raw.esmeAddrTon
  esmeAddrNpi := raw.esmeAddrNpi
  esmeAddr := Str.ofLossy raw.esmeAddr

structure Terminated (raw : RawAlert) : Prop where
  sourceAddr : (0x00 : UInt8) ∉ raw.sourceAddr
  esmeAddr : (0x00 : UInt8) ∉ raw.esmeAddr

theorem reads_image (raw : RawAlert) (ends : raw.Terminated) :
    Reads AlertFields.parse raw.image raw.fields := by
  simp only [image, List.append_assoc]
  refine (reads_octet _).bind ?_
  refine (reads_octet _).bind ?_
  rw [← List.append_assoc raw.sourceAddr]
  refine (reads_terminated raw.sourceAddr ends.sourceAddr).bind ?_
  refine (reads_octet _).bind ?_
  refine (reads_octet _).bind ?_
  exact (reads_terminated raw.esmeAddr ends.esmeAddr).last fun found =>
    { raw.fields with esmeAddr := found }

end RawAlert

namespace AlertNotification

theorem readStatus_encodeTlvs (tlvs : List Tlv) (fits : ∀ tlv ∈ tlvs, tlv.Fits) :
    readStatus (encodeTlvs tlvs) = (getTlv tlvs .msAvailabilityStatus).bind Tlv.asU8 := by
  cases tlvs with
  | nil => rfl
  | cons tlv tlvs =>
    rw [readStatus, decodeTlvs_encoded (tlv :: tlvs) fits]
    · exact nofun
    · exact nofun

/-- Whatever stands behind the mandatory fields is read as the status. -/
theorem decode_reads {header : CommandHeader} {front body tail : Bytes} {fields : AlertFields}
    (size : front.length = 16) (reads : Reads AlertFields.parse body fields) :
    decode header (front ++ (body ++ tail)) =
      .ok { fields with header, msAvailabilityStatus := readStatus tail } := by
  rw [decode, ok_bind (checkedBodyOf_append size), ok_bind (readBody_reads reads tail)]
  rfl

theorem readStatus_fromU8 (status : UInt8) :
    readStatus (Tlv.fromU8 .msAvailabilityStatus status).encode = some status := by
  have fits : ∀ tlv ∈ [Tlv.fromU8 .msAvailabilityStatus status], tlv.Fits := by
    intro tlv member
    rw [List.mem_singleton.mp member]
    change 1 ≤ 65535
    decide
  have read := readStatus_encodeTlvs [Tlv.fromU8 .msAvailabilityStatus status] fits
  simpa [encodeTlvs, getTlv, Tlv.fromU8, Tlv.fromTag, Tlv.asU8] using read

theorem decode_encode (pdu : AlertNotification) (formed : pdu.toAlertFields.WellFormed) :
    decode pdu.header pdu.encode = .ok pdu := by
  obtain ⟨fields, header, status⟩ := pdu
  rw [encode, decode_reads header.encode_length (fields.reads_encode formed)]
  cases status with
  | none => rfl
  | some status =>
    dsimp only
    rw [readStatus_fromU8]

/-- What smpp34 up to 1.2.1 sent: the status is one bare octet. -/
def legacyImage (pdu : AlertNotification) : Bytes :=
  let body := pdu.toAlertFields.encode ++ pdu.msAvailabilityStatus.toList
  { pdu.header with commandLength := UInt32.ofNat (16 + body.length) }.encode ++ body

theorem readStatus_bare (status : Option UInt8) : readStatus status.toList = status := by
  cases status <;> rfl

theorem new_fields {seq : UInt32} {sourceTon sourceNpi : UInt8} {source : Str}
    {esmeTon esmeNpi : UInt8} {esme : Str} {status : Option UInt8} {pdu : AlertNotification}
    (made : new seq sourceTon sourceNpi source esmeTon esmeNpi esme status = some pdu) :
    pdu.toAlertFields = ⟨sourceTon, sourceNpi, source, esmeTon, esmeNpi, esme⟩ ∧
      pdu.msAvailabilityStatus = status ∧ pdu.toAlertFields.encode.length ≤ 136 := by
  rw [new] at made
  split at made
  · rename_i short
    cases made
    refine ⟨rfl, rfl, ?_⟩
    rw [AlertFields.encode_length]
    dsimp only
    omega
  · cases made

theorem decode_legacyImage (pdu : AlertNotification) (formed : pdu.toAlertFields.WellFormed)
    (header : CommandHeader) : decode header pdu.legacyImage = .ok { pdu with header } := by
  rw [legacyImage]
  dsimp only
  rw [decode_reads (CommandHeader.encode_length _) (pdu.reads_encode formed), readStatus_bare]

theorem encode_framed {seq : UInt32} {sourceTon sourceNpi : UInt8} {source : Str}
    {esmeTon esmeNpi : UInt8} {esme : Str} {status : Option UInt8} {pdu : AlertNotification}
    (made : new seq sourceTon sourceNpi source esmeTon esmeNpi esme status = some pdu) :
    CommandHeader.decode pdu.encode = .ok pdu.header := by
  have short := (new_fields made).2.2
  have small : pdu.encode.length < 2 ^ 32 := by
    rw [encode]
    cases pdu.msAvailabilityStatus with
    | none =>
      simp only [List.length_append, CommandHeader.encode_length, List.length_nil]
      omega
    | some status =>
      simp only [List.length_append, CommandHeader.encode_length, Tlv.encode_length,
        Tlv.encodedLen, Tlv.fromU8, Tlv.fromTag, List.length_singleton]
      omega
  have told := new_self_delimiting made small
  rw [encode] at told ⊢
  rw [selfDelimiting_iff] at told
  rw [CommandHeader.decode_encode, if_pos told]

theorem legacyImage_framed {seq : UInt32} {sourceTon sourceNpi : UInt8} {source : Str}
    {esmeTon esmeNpi : UInt8} {esme : Str} {status : Option UInt8} {pdu : AlertNotification}
    (made : new seq sourceTon sourceNpi source esmeTon esmeNpi esme status = some pdu) :
    ∃ header, CommandHeader.decode pdu.legacyImage = .ok header := by
  have short := (new_fields made).2.2
  have octet : pdu.msAvailabilityStatus.toList.length ≤ 1 := by
    cases pdu.msAvailabilityStatus <;> simp
  have small : 16 + (pdu.toAlertFields.encode ++ pdu.msAvailabilityStatus.toList).length <
      2 ^ 32 := by
    rw [List.length_append]
    omega
  rw [legacyImage]
  dsimp only
  rw [CommandHeader.decode_encode, if_pos (length_ofNat small)]
  exact ⟨_, rfl⟩

end AlertNotification

theorem getTlv_asU8_eq_some (tlvs : List Tlv) (tag : TlvTag) (value : UInt8) :
    (getTlv tlvs tag).bind Tlv.asU8 = some value ↔
      ∃ before after, tlvs = before ++ Tlv.fromU8 tag value :: after ∧
        ∀ other ∈ before, other.tag ≠ tag.value := by
  constructor
  · intro found
    obtain ⟨tlv, first, single⟩ := Option.bind_eq_some_iff.mp found
    obtain ⟨same, before, after, split, others⟩ := List.find?_eq_some_iff_append.mp first
    have shape : tlv = Tlv.fromU8 tag value := by
      obtain ⟨tlvTag, octets⟩ := tlv
      have tagged : tlvTag = tag.value := of_decide_eq_true same
      rw [Tlv.asU8] at single
      split at single
      · rename_i octet held
        cases single
        rw [show octets = [value] from held, tagged]
        rfl
      · cases single
    refine ⟨before, after, by rw [← shape, split], ?_⟩
    intro other member
    simpa using others other member
  · rintro ⟨before, after, rfl, others⟩
    have first : getTlv (before ++ Tlv.fromU8 tag value :: after) tag =
        some (Tlv.fromU8 tag value) := by
      apply List.find?_eq_some_iff_append.mpr
      refine ⟨by simp [Tlv.fromU8, Tlv.fromTag], before, after, rfl, ?_⟩
      intro other member
      simpa using others other member
    rw [first]
    rfl

/-- Both forms of an alert_notification read back, and of any frame with parameters behind its
    fields the status is the first one with the status's tag, or nothing. -/
theorem alert_notification_forms :
    (∀ (seq : UInt32) (sourceTon sourceNpi : UInt8) (source : Str) (esmeTon esmeNpi : UInt8)
        (esme : Str) (status : Option UInt8) (pdu : AlertNotification),
      AlertNotification.new seq sourceTon sourceNpi source esmeTon esmeNpi esme status = some pdu →
      NulFree source → NulFree esme →
        CommandHeader.decode pdu.encode = .ok pdu.header ∧
        AlertNotification.decode pdu.header pdu.encode = .ok pdu ∧
        ∃ header, CommandHeader.decode pdu.legacyImage = .ok header ∧
          AlertNotification.decode header pdu.legacyImage = .ok { pdu with header }) ∧
    ∀ (front : Bytes) (raw : RawAlert) (tlvs : List Tlv) (header : CommandHeader),
      front.length = 16 → raw.Terminated → (∀ tlv ∈ tlvs, tlv.Fits) →
      CommandHeader.decode (front ++ (raw.image ++ encodeTlvs tlvs)) = .ok header →
        ∃ decoded,
          AlertNotification.decode header (front ++ (raw.image ++ encodeTlvs tlvs)) = .ok decoded ∧
          decoded.header = header ∧ decoded.toAlertFields = raw.fields ∧
          ∀ status, decoded.msAvailabilityStatus = some status ↔
            ∃ before after, tlvs = before ++ ⟨0x0422, [status]⟩ :: after ∧
              ∀ other ∈ before, other.tag ≠ 0x0422 := by
  constructor
  · intro seq sourceTon sourceNpi source esmeTon esmeNpi esme status pdu made cleanSource cleanEsme
    obtain ⟨fields, -⟩ := AlertNotification.new_fields made
    have formed : pdu.toAlertFields.WellFormed := by
      rw [fields]
      exact ⟨cleanSource, cleanEsme⟩
    obtain ⟨header, framed⟩ := AlertNotification.legacyImage_framed made
    exact ⟨AlertNotification.encode_framed made, pdu.decode_encode formed, header, framed,
      pdu.decode_legacyImage formed header⟩
  · intro front raw tlvs header size ends fits framed
    refine ⟨_, AlertNotification.decode_reads size (raw.reads_image ends), rfl, rfl, ?_⟩
    intro status
    rw [AlertNotification.readStatus_encodeTlvs tlvs fits]
    exact getTlv_asU8_eq_some tlvs .msAvailabilityStatus status

theorem alert_notification_in_both_forms :
    let source : Str := ⟨[0x31], rfl⟩
    let raw : RawAlert := ⟨1, 1, [0x31], 0, 0, [0xFF]⟩
    let tlvs : List Tlv := [⟨0x1401, [7]⟩, ⟨0x0422, [1, 2]⟩, ⟨0x0422, [3]⟩]
    let header : CommandHeader := ⟨40, CommandId.alertNotification.value, 0, 9⟩
    (∃ pdu, AlertNotification.new 9 1 1 source 0 0 Str.empty (some 2) = some pdu ∧
      AlertNotification.decode pdu.header pdu.encode = .ok pdu ∧
      ∃ legacy, CommandHeader.decode pdu.legacyImage = .ok legacy ∧
        AlertNotification.decode legacy pdu.legacyImage = .ok { pdu with header := legacy }) ∧
    ∃ decoded,
      AlertNotification.decode header (header.encode ++ (raw.image ++ encodeTlvs tlvs)) =
        .ok decoded ∧
      ∀ status, decoded.msAvailabilityStatus = some status ↔
        ∃ before after, tlvs = before ++ ⟨0x0422, [status]⟩ :: after ∧
          ∀ other ∈ before, other.tag ≠ 0x0422 := by
  intro source raw tlvs header
  have framed : CommandHeader.decode (header.encode ++ (raw.image ++ encodeTlvs tlvs)) =
      .ok header := by
    rw [CommandHeader.decode_encode]
    rfl
  obtain ⟨decoded, read, -, -, found⟩ := alert_notification_forms.2 header.encode raw tlvs header
    rfl ⟨by decide, by decide⟩ (by decide) framed
  have both := alert_notification_forms.1 9 1 1 source 0 0 Str.empty (some 2) _ rfl (by decide)
    (by decide)
  exact ⟨⟨_, rfl, both.2⟩, decoded, read, found⟩

end Smpp34
