import Smpp34.Codec.Responses

namespace Smpp34

open Octets
open Utf8 (Str)

/-- The peer decodes the same parameters, the message body among them. -/
def Request.Arrives (request : Request) (bytes : Bytes) (before : List Tlv) (body : Bytes) : Prop :=
  ∃ header decoded, CommandHeader.decode bytes = .ok header ∧
    request.decodeAs header bytes = .ok decoded ∧ decoded.tlvs = request.tlvs ∧
    ((∀ tlv ∈ before, tlv.tag ≠ TlvTag.messagePayload.value) →
      messagePayload decoded.tlvs = some body)

theorem messagePayload_append {before after : List Tlv} {body : Bytes}
    (first : ∀ tlv ∈ before, tlv.tag ≠ TlvTag.messagePayload.value) :
    messagePayload (before ++ Tlv.fromTag .messagePayload body :: after) = some body := by
  have skipped : before.find? (fun tlv => tlv.tag = TlvTag.messagePayload.value) = none := by
    apply List.find?_eq_none.mpr
    intro tlv member found
    exact first tlv member (of_decide_eq_true found)
  rw [messagePayload, getTlv, List.find?_append, skipped]
  simp [Tlv.fromTag]

theorem mapped_ok {α : Type} {decoded : Decoded α} {wrap : α → Request} {request : Request}
    (ran : decoded.map wrap = .ok request) : ∃ value, decoded = .ok value ∧ request = wrap value := by
  cases decoded with
  | error fault => cases ran
  | ok value =>
    cases ran
    exact ⟨value, rfl, rfl⟩

/-- No decoder gives a parameter that does not fit. -/
theorem Request.decodeAs_fits {request decoded : Request} {header : CommandHeader} {bytes : Bytes}
    (takes : request.takesTlvs = true) (ran : request.decodeAs header bytes = .ok decoded) :
    ∀ tlv ∈ decoded.tlvs, tlv.Fits := by
  cases request with
  | submitSm pdu =>
    obtain ⟨value, read, rfl⟩ := mapped_ok ran
    obtain ⟨input, -, read⟩ := bind_ok read
    obtain ⟨⟨fields, rest⟩, -, read⟩ := bind_ok read
    cases read
    exact decodeTlvs_fits rest
  | deliverSm pdu =>
    obtain ⟨value, read, rfl⟩ := mapped_ok ran
    obtain ⟨input, -, read⟩ := bind_ok read
    obtain ⟨⟨fields, rest⟩, -, read⟩ := bind_ok read
    cases read
    exact decodeTlvs_fits rest
  | dataSm pdu =>
    obtain ⟨value, read, rfl⟩ := mapped_ok ran
    obtain ⟨input, -, read⟩ := bind_ok read
    obtain ⟨⟨fields, rest⟩, -, read⟩ := bind_ok read
    cases read
    exact decodeTlvs_fits rest
  | _ => cases takes

theorem Request.Arrives.fits {request : Request} {bytes : Bytes} {before : List Tlv} {body : Bytes}
    (takes : request.takesTlvs = true) (arrives : request.Arrives bytes before body) :
    ∀ tlv ∈ request.tlvs, tlv.Fits := by
  obtain ⟨header, decoded, -, ran, same, -⟩ := arrives
  rw [← same]
  exact Request.decodeAs_fits takes ran

theorem Request.ReadsBack.arrives {request : Request} {bytes : Bytes} {before after : List Tlv}
    {body : Bytes} (readsBack : request.ReadsBack bytes)
    (carried : request.tlvs = before ++ Tlv.fromTag .messagePayload body :: after) :
    request.Arrives bytes before body := by
  obtain ⟨header, told, decoded, -⟩ := readsBack
  have same : (request.withHeader header).tlvs = request.tlvs := by
    cases request <;> rfl
  refine ⟨header, _, told, decoded, same, ?_⟩
  intro first
  rw [same, carried]
  exact messagePayload_append first

/-- The length of a parameter is two octets, and nothing keeps a value that short. The frame that
carries a longer one is still within the limit, and the peer reads the rest of the value as
further parameters. -/
theorem message_payload_intact (request : Request) (bytes : Bytes) (before after : List Tlv)
    (body : Bytes) (composed : Composed request) (takes : request.takesTlvs = true)
    (carried : request.tlvs = before ++ Tlv.fromTag .messagePayload body :: after)
    (encoded : request.encode = some bytes) (small : bytes.length ≤ maxPduLen) :
    (request.Arrives bytes before body → ∀ tlv ∈ request.tlvs, tlv.Fits) ∧
      ((∀ s ∈ request.strings, NulFree s) → (∀ tlv ∈ request.tlvs, tlv.Fits) →
        request.Arrives bytes before body) := by
  refine ⟨Request.Arrives.fits takes, ?_⟩
  intro clean fits
  have limit : maxPduLen < 2 ^ 32 := by decide
  have readsBack := composed.readsBack takes clean fits encoded (by omega)
  exact readsBack.arrives carried

theorem short_message_payload_intact :
    let pdu := DataSm.new 7 Str.empty 1 1 Str.empty 1 1 Str.empty 0 0 4
    let tlvs : List Tlv := [Tlv.fromU8 .msAvailabilityStatus 2, Tlv.fromTag .messagePayload [72, 0]]
    (Request.dataSm (pdu.withTlvs tlvs)).Arrives (pdu.withTlvs tlvs).encode
      [Tlv.fromU8 .msAvailabilityStatus 2] [72, 0] := by
  intro pdu tlvs
  have composed : Composed (.dataSm (pdu.withTlvs tlvs)) :=
    .built (.dataSm 7 Str.empty 1 1 Str.empty 1 1 Str.empty 0 0 4 tlvs)
  have known := message_payload_intact _ _ [Tlv.fromU8 .msAvailabilityStatus 2] [] [72, 0]
    composed rfl rfl rfl (by decide)
  exact known.2 (by decide) (by decide)

theorem payload_only_length (body : Bytes) :
    ((DataSm.new 7 Str.empty 1 1 Str.empty 1 1 Str.empty 0 0 4).withTlvs
      [Tlv.fromTag .messagePayload body]).encode.length = 30 + body.length := by
  have fields : (DataSm.new 7 Str.empty 1 1 Str.empty 1 1 Str.empty 0 0
      4).toDataFields.encode.length = 10 := by decide
  have parameters : (encodeTlvs [Tlv.fromTag .messagePayload body]).length = 4 + body.length := by
    rw [encodeTlvs_length]
    rfl
  rw [DataSm.encode, List.length_append, List.length_append, CommandHeader.encode_length]
  calc
    _ = 16 + (10 + (4 + body.length)) := congrArg₂ (fun m n => 16 + (m + n)) fields parameters
    _ = 30 + body.length := by omega

theorem long_message_payload_lost :
    let pdu := DataSm.new 7 Str.empty 1 1 Str.empty 1 1 Str.empty 0 0 4
    let body : Bytes := List.replicate 65536 0x41
    let sent := pdu.withTlvs [Tlv.fromTag .messagePayload body]
    Composed (.dataSm sent) ∧ sent.encode.length ≤ maxPduLen ∧
      (∀ s ∈ (Request.dataSm sent).strings, NulFree s) ∧
      ¬ (Request.dataSm sent).Arrives sent.encode [] body := by
  intro pdu body sent
  have long : body.length = 65536 := List.length_replicate
  refine ⟨.built (.dataSm 7 Str.empty 1 1 Str.empty 1 1 Str.empty 0 0 4 _), ?_, ?_, ?_⟩
  · rw [payload_only_length, long]
    decide
  · decide
  · intro arrives
    have fits := arrives.fits rfl (Tlv.fromTag .messagePayload body) (List.mem_singleton_self _)
    rw [Tlv.Fits, Tlv.fromTag, long] at fits
    omega

end Smpp34
