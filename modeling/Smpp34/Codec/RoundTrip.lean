import Smpp34.Codec.SelfDelimiting

namespace Smpp34

open Octets
open Parse
open Utf8 (Str)

section Tlvs

/-- No parameter stands here: the header is cut short, or declares more octets than follow it. -/
def Unreadable (input : Bytes) : Prop :=
  input.length < 4 ∨ ∃ tag length rest,
    input = be16 tag ++ (be16 length ++ rest) ∧ rest.length < length.toNat

theorem decodeTlvs_spelled (input : Bytes) :
    ∃ rest, input = encodeTlvs (decodeTlvs input) ++ rest ∧ Unreadable rest := by
  induction size : input.length using Nat.strong_induction_on generalizing input with
  | _ n ih =>
    by_cases short : input.length < 4
    · rw [decodeTlvs_short short]
      exact ⟨input, rfl, .inl short⟩
    · cases read : parseSingleTlv input with
      | none =>
        rw [decodeTlvs_none read]
        exact ⟨input, rfl, .inr (parseSingleTlv_none (by omega) read)⟩
      | some result =>
        obtain ⟨tlv, remaining⟩ := result
        have shorter := parseSingleTlv_length read
        obtain ⟨rest, spelled, unreadable⟩ := ih remaining.length (by omega) remaining rfl
        refine ⟨rest, ?_, unreadable⟩
        rw [decodeTlvs_cons read, encodeTlvs, List.flatMap_cons, ← encodeTlvs, List.append_assoc,
          ← spelled]
        exact spells_tlv _ _ _ read

/-- The stream of optional parameters, both ways. -/
theorem tlv_stream_exact :
    (∀ (tlvs : List Tlv) (tail : Bytes), (∀ tlv ∈ tlvs, tlv.Fits) → tail.length < 4 →
      decodeTlvs (encodeTlvs tlvs ++ tail) = tlvs ∧
        tlvsEncodedLen tlvs = (encodeTlvs tlvs).length) ∧
    ∀ input : Bytes, ∃ rest, input = encodeTlvs (decodeTlvs input) ++ rest ∧ Unreadable rest := by
  refine ⟨?_, decodeTlvs_spelled⟩
  intro tlvs tail fits short
  exact ⟨decodeTlvs_encodeTlvs tlvs tail short fits, (encodeTlvs_length tlvs).symm⟩

theorem tlv_stream_exact_with_a_tail :
    decodeTlvs (encodeTlvs [Tlv.fromU8 .msAvailabilityStatus 2] ++ [0x04, 0x24]) =
      [Tlv.fromU8 .msAvailabilityStatus 2] := by
  refine (tlv_stream_exact.1 [Tlv.fromU8 .msAvailabilityStatus 2] [0x04, 0x24] ?_ ?_).1
  · intro tlv member
    cases List.mem_singleton.mp member
    decide
  · decide

end Tlvs

section Decoding

variable (header : CommandHeader) {written : CommandHeader}

theorem SubmitSm.decode_layout (fields : MessageFields) (tlvs : List Tlv)
    (formed : fields.WellFormed) (fits : ∀ tlv ∈ tlvs, tlv.Fits) :
    SubmitSm.decode header (written.encode ++ (fields.encode ++ encodeTlvs tlvs)) =
      .ok { fields with header, tlvs } := by
  rw [SubmitSm.decode, ok_bind (checkedBodyOf_append written.encode_length),
    ok_bind (readBody_reads (fields.reads_encode formed) _)]
  simp only [decodeTlvs_encoded tlvs fits]
  rfl

theorem DeliverSm.decode_layout (fields : MessageFields) (tlvs : List Tlv)
    (formed : fields.WellFormed) (fits : ∀ tlv ∈ tlvs, tlv.Fits) :
    DeliverSm.decode header (written.encode ++ (fields.encode ++ encodeTlvs tlvs)) =
      .ok { fields with header, tlvs } := by
  rw [DeliverSm.decode, ok_bind (checkedBodyOf_append written.encode_length),
    ok_bind (readBody_reads (fields.reads_encode formed) _)]
  simp only [decodeTlvs_encoded tlvs fits]
  rfl

theorem DataSm.decode_layout (fields : DataFields) (tlvs : List Tlv)
    (formed : fields.WellFormed) (fits : ∀ tlv ∈ tlvs, tlv.Fits) :
    DataSm.decode header (written.encode ++ (fields.encode ++ encodeTlvs tlvs)) =
      .ok { fields with header, tlvs } := by
  rw [DataSm.decode, ok_bind (checkedBodyOf_append written.encode_length),
    ok_bind (readBody_reads (fields.reads_encode formed) _)]
  simp only [decodeTlvs_encoded tlvs fits]
  rfl

theorem SubmitSmMulti.decode_layout (fields : MultiFields) (tlvs : List Tlv)
    (formed : fields.WellFormed) (fits : ∀ tlv ∈ tlvs, tlv.Fits) :
    SubmitSmMulti.decode header (written.encode ++ (fields.encode ++ encodeTlvs tlvs)) =
      .ok { fields with header, tlvs } := by
  rw [SubmitSmMulti.decode, ok_bind (bodyOf_append written.encode_length),
    ok_bind (readBody_reads (fields.reads_encode formed) _)]
  simp only [decodeTlvs_encoded tlvs fits]
  rfl

theorem QuerySm.decode_layout (fields : QueryFields) (formed : fields.WellFormed) :
    QuerySm.decode header (written.encode ++ fields.encode) = .ok { fields with header } := by
  have read := readBody_reads (fields.reads_encode formed) []
  rw [List.append_nil] at read
  rw [QuerySm.decode, ok_bind (checkedBodyOf_append written.encode_length), ok_bind read]
  rfl

theorem ReplaceSm.decode_layout (fields : ReplaceFields) (formed : fields.WellFormed) :
    ReplaceSm.decode header (written.encode ++ fields.encode) = .ok { fields with header } := by
  have read := readBody_reads (fields.reads_encode formed) []
  rw [List.append_nil] at read
  rw [ReplaceSm.decode, ok_bind (checkedBodyOf_append written.encode_length), ok_bind read]
  rfl

theorem BindRequest.decode_layout (kind : BindKind) (fields : BindFields)
    (formed : fields.WellFormed) :
    BindRequest.decode kind header (written.encode ++ fields.encode) = .ok { fields with header } := by
  have read := readBody_reads (fields.reads_encode formed) []
  rw [List.append_nil] at read
  rw [BindRequest.decode, ok_bind (checkedBodyOf_append written.encode_length), ok_bind read]
  rfl

end Decoding

namespace Request

/-- The requests whose bodies have a fixed layout, optional parameters apart. -/
def fixedLayout : Request → Bool
  | submitSm _ | deliverSm _ | dataSm _ | querySm _ | replaceSm _ | bind _ _ => true
  | _ => false

def takesTlvs : Request → Bool
  | submitSm _ | deliverSm _ | dataSm _ => true
  | _ => false

def strings : Request → List Str
  | submitSm pdu =>
    [pdu.serviceType, pdu.sourceAddr, pdu.destinationAddr, pdu.scheduleDeliveryTime,
      pdu.validityPeriod]
  | deliverSm pdu =>
    [pdu.serviceType, pdu.sourceAddr, pdu.destinationAddr, pdu.scheduleDeliveryTime,
      pdu.validityPeriod]
  | dataSm pdu => [pdu.serviceType, pdu.sourceAddr, pdu.destinationAddr]
  | querySm pdu => [pdu.messageId, pdu.sourceAddr]
  | replaceSm pdu =>
    [pdu.messageId, pdu.sourceAddr, pdu.scheduleDeliveryTime, pdu.validityPeriod]
  | bind _ pdu => [pdu.systemId, pdu.password, pdu.systemType, pdu.addressRange]
  | _ => []

def tlvs : Request → List Tlv
  | submitSm pdu => pdu.tlvs
  | deliverSm pdu => pdu.tlvs
  | dataSm pdu => pdu.tlvs
  | _ => []

def withHeader : Request → CommandHeader → Request
  | submitSm pdu, header => submitSm { pdu with header }
  | deliverSm pdu, header => deliverSm { pdu with header }
  | dataSm pdu, header => dataSm { pdu with header }
  | querySm pdu, header => querySm { pdu with header }
  | replaceSm pdu, header => replaceSm { pdu with header }
  | bind kind pdu, header => bind kind { pdu with header }
  | request, _ => request

def decodeAs : Request → CommandHeader → Bytes → Decoded Request
  | submitSm _, header, bytes => (SubmitSm.decode header bytes).map submitSm
  | deliverSm _, header, bytes => (DeliverSm.decode header bytes).map deliverSm
  | dataSm _, header, bytes => (DataSm.decode header bytes).map dataSm
  | querySm _, header, bytes => (QuerySm.decode header bytes).map querySm
  | replaceSm _, header, bytes => (ReplaceSm.decode header bytes).map replaceSm
  | bind kind _, header, bytes => (BindRequest.decode kind header bytes).map (bind kind)
  | _, _, _ => .error (.error .ESME_RINVCMDID)

end Request

section WellFormed

theorem smLength_told {message : Bytes} (short : message.length ≤ 254) :
    (UInt8.ofNat message.length).toNat = message.length := by
  rw [UInt8.toNat_ofNat']
  omega

theorem SubmitSm.new_wellFormed {seq : UInt32} {serviceType : Str} {sourceTon sourceNpi : UInt8}
    {source : Str} {destTon destNpi : UInt8} {destination : Str}
    {esmClass protocolId priority : UInt8} {schedule validity : Str}
    {registered replace coding defaultId : UInt8} {message : Bytes} {pdu : SubmitSm}
    (made : SubmitSm.new seq serviceType sourceTon sourceNpi source destTon destNpi destination
      esmClass protocolId priority schedule validity registered replace coding defaultId
      message = some pdu)
    (clean : ∀ s ∈ (Request.submitSm pdu).strings, NulFree s) :
    pdu.toMessageFields.WellFormed := by
  rw [SubmitSm.new] at made
  split at made
  · rename_i short
    cases made
    simp only [Request.strings, List.forall_mem_cons] at clean
    obtain ⟨service, source, destination, schedule, validity, -⟩ := clean
    exact ⟨service, source, destination, schedule, validity, smLength_told short⟩
  · cases made

theorem DeliverSm.new_wellFormed {seq : UInt32} {serviceType : Str} {sourceTon sourceNpi : UInt8}
    {source : Str} {destTon destNpi : UInt8} {destination : Str}
    {esmClass protocolId priority : UInt8} {schedule validity : Str}
    {registered replace coding defaultId : UInt8} {message : Bytes} {pdu : DeliverSm}
    (made : DeliverSm.new seq serviceType sourceTon sourceNpi source destTon destNpi destination
      esmClass protocolId priority schedule validity registered replace coding defaultId
      message = some pdu)
    (clean : ∀ s ∈ (Request.deliverSm pdu).strings, NulFree s) :
    pdu.toMessageFields.WellFormed := by
  rw [DeliverSm.new] at made
  split at made
  · rename_i short
    cases made
    simp only [Request.strings, List.forall_mem_cons] at clean
    obtain ⟨service, source, destination, schedule, validity, -⟩ := clean
    exact ⟨service, source, destination, schedule, validity, smLength_told short⟩
  · cases made

theorem ReplaceSm.new_wellFormed {seq : UInt32} {messageId : Str} {ton npi : UInt8}
    {source schedule validity : Str} {registered defaultId : UInt8} {message : Bytes}
    {pdu : ReplaceSm}
    (made : ReplaceSm.new seq messageId ton npi source schedule validity registered defaultId
      message = some pdu)
    (clean : ∀ s ∈ (Request.replaceSm pdu).strings, NulFree s) :
    pdu.toReplaceFields.WellFormed := by
  rw [ReplaceSm.new] at made
  split at made
  · rename_i short
    cases made
    simp only [Request.strings, List.forall_mem_cons] at clean
    obtain ⟨message, source, schedule, validity, -⟩ := clean
    exact ⟨message, source, schedule, validity, smLength_told short⟩
  · cases made

end WellFormed

theorem decode_written {header : CommandHeader} {body : Bytes}
    (told : header.commandLength.toNat = 16 + body.length) :
    CommandHeader.decode (header.encode ++ body) = .ok header := by
  rw [CommandHeader.decode_encode, if_pos told]

/-- What a request's decoder gives for what its encoder writes: the same body, under a header that
    differs from the request's own in the length at most. -/
def Request.ReadsBack (request : Request) (bytes : Bytes) : Prop :=
  ∃ header, CommandHeader.decode bytes = .ok header ∧
    request.decodeAs header bytes = .ok (request.withHeader header) ∧
    header.sequenceNumber = request.header.sequenceNumber ∧
    header.commandId = request.header.commandId ∧
    header.commandStatus = request.header.commandStatus

theorem SubmitSm.reads_back (pdu : SubmitSm) (formed : pdu.toMessageFields.WellFormed)
    (fits : ∀ tlv ∈ pdu.tlvs, tlv.Fits) (small : pdu.encode.length < 2 ^ 32) :
    (Request.submitSm pdu).ReadsBack pdu.encode := by
  have told := pdu.self_delimiting small
  rw [SubmitSm.encode, selfDelimiting_iff] at told
  refine ⟨_, decode_written told, ?_, rfl, rfl, rfl⟩
  rw [Request.decodeAs, SubmitSm.encode, SubmitSm.decode_layout _ _ _ formed fits]
  rfl

theorem DeliverSm.reads_back (pdu : DeliverSm) (formed : pdu.toMessageFields.WellFormed)
    (fits : ∀ tlv ∈ pdu.tlvs, tlv.Fits) (small : pdu.encode.length < 2 ^ 32) :
    (Request.deliverSm pdu).ReadsBack pdu.encode := by
  have told := pdu.self_delimiting small
  rw [DeliverSm.encode, selfDelimiting_iff] at told
  refine ⟨_, decode_written told, ?_, rfl, rfl, rfl⟩
  rw [Request.decodeAs, DeliverSm.encode, DeliverSm.decode_layout _ _ _ formed fits]
  rfl

theorem DataSm.reads_back (pdu : DataSm) (formed : pdu.toDataFields.WellFormed)
    (fits : ∀ tlv ∈ pdu.tlvs, tlv.Fits) (small : pdu.encode.length < 2 ^ 32) :
    (Request.dataSm pdu).ReadsBack pdu.encode := by
  have told := pdu.self_delimiting small
  rw [DataSm.encode, selfDelimiting_iff] at told
  refine ⟨_, decode_written told, ?_, rfl, rfl, rfl⟩
  rw [Request.decodeAs, DataSm.encode, DataSm.decode_layout _ _ _ formed fits]
  rfl

theorem QuerySm.reads_back (pdu : QuerySm) (formed : pdu.toQueryFields.WellFormed)
    (told : SelfDelimiting pdu.encode) : (Request.querySm pdu).ReadsBack pdu.encode := by
  rw [QuerySm.encode, selfDelimiting_iff] at told
  refine ⟨_, decode_written told, ?_, rfl, rfl, rfl⟩
  rw [Request.decodeAs, QuerySm.encode, QuerySm.decode_layout _ _ formed]
  rfl

theorem ReplaceSm.reads_back (pdu : ReplaceSm) (formed : pdu.toReplaceFields.WellFormed)
    (told : SelfDelimiting pdu.encode) : (Request.replaceSm pdu).ReadsBack pdu.encode := by
  rw [ReplaceSm.encode, selfDelimiting_iff] at told
  refine ⟨_, decode_written told, ?_, rfl, rfl, rfl⟩
  rw [Request.decodeAs, ReplaceSm.encode, ReplaceSm.decode_layout _ _ formed]
  rfl

theorem BindRequest.reads_back {kind : BindKind} (pdu : BindRequest kind)
    (formed : pdu.toBindFields.WellFormed) (told : SelfDelimiting pdu.encode) :
    (Request.bind kind pdu).ReadsBack pdu.encode := by
  rw [BindRequest.encode, selfDelimiting_iff] at told
  refine ⟨_, decode_written told, ?_, rfl, rfl, rfl⟩
  rw [Request.decodeAs, BindRequest.encode, BindRequest.decode_layout _ _ _ formed]
  rfl

/-- What `with_tlvs` and `push_tlv` make of the requests that come from a constructor. -/
inductive Composed : Request → Prop
  | built {request : Request} (built : Built request) : Composed request
  | submitSm {pdu : SubmitSm} (before : Composed (.submitSm pdu)) (tlvs : List Tlv) :
      Composed (.submitSm (pdu.withTlvs tlvs))
  | pushSubmitSm {pdu : SubmitSm} (before : Composed (.submitSm pdu)) (tlv : Tlv) :
      Composed (.submitSm (pdu.pushTlv tlv))
  | deliverSm {pdu : DeliverSm} (before : Composed (.deliverSm pdu)) (tlvs : List Tlv) :
      Composed (.deliverSm (pdu.withTlvs tlvs))
  | pushDeliverSm {pdu : DeliverSm} (before : Composed (.deliverSm pdu)) (tlv : Tlv) :
      Composed (.deliverSm (pdu.pushTlv tlv))
  | dataSm {pdu : DataSm} (before : Composed (.dataSm pdu)) (tlvs : List Tlv) :
      Composed (.dataSm (pdu.withTlvs tlvs))
  | pushDataSm {pdu : DataSm} (before : Composed (.dataSm pdu)) (tlv : Tlv) :
      Composed (.dataSm (pdu.pushTlv tlv))
  | submitSmMulti {pdu : SubmitSmMulti} (before : Composed (.submitSmMulti pdu))
      (tlvs : List Tlv) : Composed (.submitSmMulti (pdu.withTlvs tlvs))
  | pushSubmitSmMulti {pdu : SubmitSmMulti} (before : Composed (.submitSmMulti pdu)) (tlv : Tlv) :
      Composed (.submitSmMulti (pdu.pushTlv tlv))

namespace Built

theorem submitSm_withTlvs {pdu : SubmitSm} (built : Built (.submitSm pdu)) (more : List Tlv) :
    Built (.submitSm (pdu.withTlvs more)) := by
  cases built with
  | submitSm tlvs made =>
    rw [SubmitSm.withTlvs_withTlvs]
    exact .submitSm (tlvs ++ more) made

theorem deliverSm_withTlvs {pdu : DeliverSm} (built : Built (.deliverSm pdu)) (more : List Tlv) :
    Built (.deliverSm (pdu.withTlvs more)) := by
  cases built with
  | deliverSm tlvs made =>
    rw [DeliverSm.withTlvs_withTlvs]
    exact .deliverSm (tlvs ++ more) made

theorem dataSm_withTlvs {pdu : DataSm} (built : Built (.dataSm pdu)) (more : List Tlv) :
    Built (.dataSm (pdu.withTlvs more)) := by
  cases built with
  | dataSm =>
    rw [DataSm.withTlvs_withTlvs]
    exact .dataSm _ _ _ _ _ _ _ _ _ _ _ _

theorem submitSmMulti_withTlvs {pdu : SubmitSmMulti} (built : Built (.submitSmMulti pdu))
    (more : List Tlv) : Built (.submitSmMulti (pdu.withTlvs more)) := by
  cases built with
  | submitSmMulti tlvs made =>
    rw [SubmitSmMulti.withTlvs_withTlvs]
    exact .submitSmMulti (tlvs ++ more) made

end Built

/-- However the parameters were attached, they are one list behind what the constructor made. -/
theorem Composed.isBuilt {request : Request} (composed : Composed request) : Built request := by
  induction composed with
  | built built => exact built
  | submitSm _ tlvs ih => exact ih.submitSm_withTlvs tlvs
  | pushSubmitSm _ tlv ih => exact ih.submitSm_withTlvs [tlv]
  | deliverSm _ tlvs ih => exact ih.deliverSm_withTlvs tlvs
  | pushDeliverSm _ tlv ih => exact ih.deliverSm_withTlvs [tlv]
  | dataSm _ tlvs ih => exact ih.dataSm_withTlvs tlvs
  | pushDataSm _ tlv ih => exact ih.dataSm_withTlvs [tlv]
  | submitSmMulti _ tlvs ih => exact ih.submitSmMulti_withTlvs tlvs
  | pushSubmitSmMulti _ tlv ih => exact ih.submitSmMulti_withTlvs [tlv]

theorem Composed.readsBack {request : Request} {bytes : Bytes} (composed : Composed request)
    (takes : request.takesTlvs = true) (clean : ∀ s ∈ request.strings, NulFree s)
    (fits : ∀ tlv ∈ request.tlvs, tlv.Fits) (encoded : request.encode = some bytes)
    (small : bytes.length < 2 ^ 32) : request.ReadsBack bytes := by
  cases composed.isBuilt with
  | submitSm tlvs made =>
    cases encoded
    have formed := SubmitSm.new_wellFormed made clean
    exact SubmitSm.reads_back _ formed fits small
  | deliverSm tlvs made =>
    cases encoded
    have formed := DeliverSm.new_wellFormed made clean
    exact DeliverSm.reads_back _ formed fits small
  | dataSm =>
    cases encoded
    simp only [Request.strings, List.forall_mem_cons] at clean
    obtain ⟨service, source, destination, -⟩ := clean
    exact DataSm.reads_back _ ⟨service, source, destination⟩ fits small
  | _ => cases takes

/-- Decoding undoes encoding for the requests of a fixed layout. -/
theorem fixed_layout_round_trip (request : Request) (bytes : Bytes) (composed : Composed request)
    (fixed : request.fixedLayout = true) (clean : ∀ s ∈ request.strings, NulFree s)
    (fits : ∀ tlv ∈ request.tlvs, tlv.Fits) (encoded : request.encode = some bytes)
    (small : bytes.length < 2 ^ 32) : request.ReadsBack bytes := by
  by_cases takes : request.takesTlvs = true
  · exact composed.readsBack takes clean fits encoded small
  cases composed.isBuilt with
  | querySm seq messageId ton npi source =>
    cases encoded
    simp only [Request.strings, List.forall_mem_cons] at clean
    obtain ⟨message, address, -⟩ := clean
    exact QuerySm.reads_back _ ⟨message, address⟩
      (QuerySm.new_self_delimiting seq messageId ton npi source small)
  | replaceSm made =>
    cases encoded
    exact ReplaceSm.reads_back _ (ReplaceSm.new_wellFormed made clean)
      (ReplaceSm.new_self_delimiting made small)
  | bind kind made =>
    cases encoded
    simp only [Request.strings, List.forall_mem_cons] at clean
    obtain ⟨systemId, password, systemType, range, -⟩ := clean
    exact BindRequest.reads_back _ ⟨systemId, password, systemType, range⟩
      (BindRequest.new_self_delimiting made small)
  | submitSm | deliverSm | dataSm => exact absurd rfl takes
  | _ => cases fixed

theorem submit_sm_round_trip :
    ∃ pdu, SubmitSm.new 7 Str.empty 1 1 Str.empty 1 1 Str.empty 0 0 0 Str.empty Str.empty 0 0 4 0
        [0, 16, 0] = some pdu ∧
      (Request.submitSm (pdu.withTlvs [⟨0x0424, []⟩])).ReadsBack
        (pdu.withTlvs [⟨0x0424, []⟩]).encode := by
  have made : SubmitSm.new 7 Str.empty 1 1 Str.empty 1 1 Str.empty 0 0 0 Str.empty Str.empty 0 0 4
      0 [0, 16, 0] = some _ := rfl
  refine ⟨_, made, ?_⟩
  apply fixed_layout_round_trip _ _ (.built (.submitSm [⟨0x0424, []⟩] made)) rfl
  · decide
  · decide
  · rfl
  · decide

/-- The headers name the same PDU; their lengths may differ. -/
def CommandHeader.SamePdu (header other : CommandHeader) : Prop :=
  header.commandId = other.commandId ∧ header.commandStatus = other.commandStatus ∧
    header.sequenceNumber = other.sequenceNumber

namespace SubmitSmMulti

theorem encode_withHeader (pdu : SubmitSmMulti) {header : CommandHeader}
    (same : header.SamePdu pdu.header) : { pdu with header }.encode = pdu.encode := by
  obtain ⟨length, id, status, number⟩ := header
  obtain ⟨rfl, rfl, rfl⟩ := same
  rfl

theorem new_wellFormed {seq : UInt32} {serviceType : Str} {sourceTon sourceNpi : UInt8}
    {source : Str} {destinations : List DestAddress} {esmClass protocolId priority : UInt8}
    {schedule validity : Str} {registered replace coding defaultId : UInt8} {message : Bytes}
    {pdu : SubmitSmMulti}
    (made : SubmitSmMulti.new seq serviceType sourceTon sourceNpi source destinations esmClass
      protocolId priority schedule validity registered replace coding defaultId message =
      some pdu)
    (clean : ∀ s ∈ [serviceType, source, schedule, validity], NulFree s)
    (dests : ∀ dest ∈ destinations, dest.WellFormed) :
    pdu.toMultiFields.WellFormed ∧ pdu.destAddresses = destinations := by
  rw [SubmitSmMulti.new] at made
  split at made
  · rename_i short
    cases made
    simp only [List.forall_mem_cons] at clean
    obtain ⟨service, source, schedule, validity, -⟩ := clean
    have told : (UInt8.ofNat destinations.length).toNat = destinations.length := by
      rw [UInt8.toNat_ofNat']
      omega
    exact ⟨⟨service, source, told, dests, schedule, validity, smLength_told short.1⟩, rfl⟩
  · cases made

end SubmitSmMulti

/-- A submit_sm_multi reads back with its destinations, and is written again as it was. -/
theorem submit_sm_multi_round_trip {seq : UInt32} {serviceType : Str}
    {sourceTon sourceNpi : UInt8} {source : Str} {destinations : List DestAddress}
    {esmClass protocolId priority : UInt8} {schedule validity : Str}
    {registered replace coding defaultId : UInt8} {message : Bytes} {pdu : SubmitSmMulti}
    (made : SubmitSmMulti.new seq serviceType sourceTon sourceNpi source destinations esmClass
      protocolId priority schedule validity registered replace coding defaultId message =
      some pdu)
    (clean : ∀ s ∈ [serviceType, source, schedule, validity], NulFree s)
    (dests : ∀ dest ∈ destinations, dest.WellFormed) (tlvs : List Tlv)
    (fits : ∀ tlv ∈ tlvs, tlv.Fits) :
    (∀ header : CommandHeader, header.SamePdu pdu.header →
      ∃ decoded, SubmitSmMulti.decode header (pdu.withTlvs tlvs).encode = .ok decoded ∧
        decoded.destAddresses = destinations ∧
        decoded.numberOfDests.toNat = destinations.length ∧
        decoded.toMultiFields = pdu.toMultiFields ∧ decoded.tlvs = tlvs ∧
        decoded.header = header ∧ decoded.encode = (pdu.withTlvs tlvs).encode) ∧
    ((pdu.withTlvs tlvs).encode.length < 2 ^ 32 →
      ∃ header, CommandHeader.decode (pdu.withTlvs tlvs).encode = .ok header ∧
        header.SamePdu pdu.header) := by
  obtain ⟨formed, listed⟩ := SubmitSmMulti.new_wellFormed made clean dests
  have bare : pdu.tlvs = [] := by
    rw [SubmitSmMulti.new] at made
    split at made
    · cases made
      rfl
    · cases made
  have attached : (pdu.withTlvs tlvs).tlvs = tlvs := by
    rw [SubmitSmMulti.withTlvs, bare, List.nil_append]
  constructor
  · intro header same
    refine ⟨{ pdu.withTlvs tlvs with header }, ?_, listed, ?_, rfl, attached, rfl, ?_⟩
    · have formed' : (pdu.withTlvs tlvs).toMultiFields.WellFormed := formed
      rw [SubmitSmMulti.encode, SubmitSmMulti.decode_layout _ _ _ formed' (attached.symm ▸ fits)]
    · rw [← listed]
      exact formed.numberOfDests
    · exact SubmitSmMulti.encode_withHeader _ same
  · intro small
    have told := (pdu.withTlvs tlvs).self_delimiting small
    rw [SubmitSmMulti.encode, selfDelimiting_iff] at told
    exact ⟨_, decode_written told, rfl, rfl, rfl⟩

theorem submit_sm_multi_round_trip_of_a_mixed_list :
    ∃ pdu, SubmitSmMulti.new 7 Str.empty 1 1 Str.empty
        [.distributionList Str.empty, .sme 1 1 Str.empty] 0 0 0 Str.empty Str.empty 0 0 4 0 [0] =
        some pdu ∧
      ∃ decoded, SubmitSmMulti.decode pdu.header (pdu.withTlvs []).encode = .ok decoded ∧
        decoded.destAddresses = [.distributionList Str.empty, .sme 1 1 Str.empty] := by
  have made : SubmitSmMulti.new 7 Str.empty 1 1 Str.empty
      [.distributionList Str.empty, .sme 1 1 Str.empty] 0 0 0 Str.empty Str.empty 0 0 4 0 [0] =
      some _ := rfl
  refine ⟨_, made, ?_⟩
  obtain ⟨reads, -⟩ := submit_sm_multi_round_trip made (by decide) (by decide) [] (by decide)
  obtain ⟨decoded, read, listed, -⟩ := reads _ ⟨rfl, rfl, rfl⟩
  exact ⟨decoded, read, listed⟩

end Smpp34
