import Smpp34.Codec.Alert
import Smpp34.Codec.Relay
import Smpp34.Session.Dispatch

namespace Smpp34

open Octets
open Parse
open Utf8 (Str)

/-- The bodies of the requests a session hands to its listener, field by field. -/
inductive Body where
  | submitSm (fields : MessageFields) (tlvs : List Tlv)
  | submitSmMulti (fields : MultiFields) (tlvs : List Tlv)
  | dataSm (fields : DataFields) (tlvs : List Tlv)
  | cancelSm (fields : CancelFields)
  | querySm (fields : QueryFields)
  | replaceSm (fields : ReplaceFields)
  | deliverSm (fields : MessageFields) (tlvs : List Tlv)
  | alertNotification (fields : AlertFields) (tlvs : List Tlv)

namespace Body

def commandId : Body → CommandId
  | submitSm _ _ => .submitSm
  | submitSmMulti _ _ => .submitMulti
  | dataSm _ _ => .dataSm
  | cancelSm _ => .cancelSm
  | querySm _ => .querySm
  | replaceSm _ => .replaceSm
  | deliverSm _ _ => .deliverSm
  | alertNotification _ _ => .alertNotification

def layout : Body → Bytes
  | submitSm fields tlvs => fields.encode ++ encodeTlvs tlvs
  | submitSmMulti fields tlvs => fields.encode ++ encodeTlvs tlvs
  | dataSm fields tlvs => fields.encode ++ encodeTlvs tlvs
  | cancelSm fields => fields.encode
  | querySm fields => fields.encode
  | replaceSm fields => fields.encode
  | deliverSm fields tlvs => fields.encode ++ encodeTlvs tlvs
  | alertNotification fields tlvs => fields.encode ++ encodeTlvs tlvs

def WellFormed : Body → Prop
  | submitSm fields tlvs => fields.WellFormed ∧ ∀ tlv ∈ tlvs, tlv.Fits
  | submitSmMulti fields tlvs => fields.WellFormed ∧ ∀ tlv ∈ tlvs, tlv.Fits
  | dataSm fields tlvs => fields.WellFormed ∧ ∀ tlv ∈ tlvs, tlv.Fits
  | cancelSm fields => fields.WellFormed
  | querySm fields => fields.WellFormed
  | replaceSm fields => fields.WellFormed
  | deliverSm fields tlvs => fields.WellFormed ∧ ∀ tlv ∈ tlvs, tlv.Fits
  | alertNotification fields tlvs => fields.WellFormed ∧ ∀ tlv ∈ tlvs, tlv.Fits

/-- The kinds each end hands on, by the type of its bind. -/
def Listened (side : Side) (bound : BoundType) : Body → Prop
  | submitSm _ _ => side = .server ∧ bound.transmits
  | submitSmMulti _ _ => side = .server ∧ bound.transmits
  | dataSm _ _ => True
  | cancelSm _ => side = .server ∧ bound.transmits
  | querySm _ => side = .server ∧ bound.transmits
  | replaceSm _ => side = .server ∧ bound.transmits
  | deliverSm _ _ => side = .client ∧ bound.receives
  | alertNotification _ _ => side = .client

/-- The callback with exactly the fields of the body. -/
def callback (header : CommandHeader) : Body → Branch
  | submitSm fields tlvs => .request (.submitSm { fields with header, tlvs })
  | submitSmMulti fields tlvs => .request (.submitSmMulti { fields with header, tlvs })
  | dataSm fields tlvs => .request (.dataSm { fields with header, tlvs })
  | cancelSm fields => .request (.cancelSm { fields with header })
  | querySm fields => .request (.querySm { fields with header })
  | replaceSm fields => .request (.replaceSm { fields with header })
  | deliverSm fields tlvs => .request (.deliverSm { fields with header, tlvs })
  | alertNotification fields tlvs =>
    .alert { fields with
      header, msAvailabilityStatus := (getTlv tlvs .msAvailabilityStatus).bind Tlv.asU8 }

end Body

section Decoding

variable (header : CommandHeader)

theorem AlertNotification.decode_layout (fields : AlertFields) (tlvs : List Tlv)
    (formed : fields.WellFormed) (fits : ∀ tlv ∈ tlvs, tlv.Fits) :
    AlertNotification.decode header (header.encode ++ (fields.encode ++ encodeTlvs tlvs)) =
      .ok { fields with
        header, msAvailabilityStatus := (getTlv tlvs .msAvailabilityStatus).bind Tlv.asU8 } := by
  rw [AlertNotification.decode_reads header.encode_length (fields.reads_encode formed),
    AlertNotification.readStatus_encodeTlvs tlvs fits]

end Decoding

section Cancel

variable (status sequenceNumber : UInt32)

theorem parse_nul (rest : Bytes) : parseCOctetStringNom (0 :: rest) = some (Str.empty, rest) := by
  rfl

theorem string_position {frame left : Bytes} {p n : Nat} {s : Str}
    (read : parseCOctetStringNom (frame.drop p) = some (s, left)) (nul : frame[n]? = some 0)
    (before : p ≤ n) :
    ∃ q, left = frame.drop q ∧ p < q ∧ q ≤ n + 1 ∧ s.len ≤ 3 * (q - 1 - p) := by
  obtain ⟨found, until_nul, rfl⟩ := parse_string read
  have within : found.length ≤ n - p := by
    apply takeUntil_within until_nul
    rw [List.getElem?_drop, Nat.add_sub_of_le before, nul]
  obtain ⟨_, whole, _⟩ := takeUntil_spec until_nul
  refine ⟨p + found.length + 1, ?_, by omega, by omega, ?_⟩
  · rw [Nat.add_assoc, ← List.drop_drop, whole, ← List.drop_drop, List.drop_left]
    rfl
  · have bound := Utf8.lossy_length_le found
    change (Utf8.lossy found).length ≤ _
    omega

theorem found_at_length (front : Bytes) (b : UInt8) (back : Bytes) :
    (front ++ b :: back)[front.length]? = some b := by
  rw [List.getElem?_append_right (Nat.le_refl _), Nat.sub_self]
  rfl

theorem octet_position {frame left : Bytes} {p : Nat} {b : UInt8}
    (read : octet (frame.drop p) = some (b, left)) : left = frame.drop (p + 1) := by
  rw [← List.drop_drop]
  cases behind : frame.drop p with
  | nil =>
    rw [behind] at read
    cases read
  | cons first rest =>
    rw [behind] at read
    cases read
    rfl

def cancelHeader (size : Nat) : CommandHeader :=
  ⟨UInt32.ofNat size, CommandId.cancelSm.value, status, sequenceNumber⟩

/-- What the octets of the header spell when they are taken for a body that a NUL follows. -/
def spelled (size : Nat) : CancelFields :=
  { serviceType := Str.empty
    messageId := Str.empty
    sourceAddrTon := 0
    sourceAddrNpi := UInt8.ofNat size
    sourceAddr := Str.empty
    destAddrTon := 0
    destAddrNpi := 0
    destinationAddr :=
      Str.ofLossy (8 :: (be32 status ++ be32 sequenceNumber).takeWhile fun b => b ≠ 0) }

theorem cancelHeader_encode {size : Nat} (small : size ≤ maxPduLen) :
    (cancelHeader status sequenceNumber size).encode =
      0 :: UInt8.ofNat (size / 65536) :: UInt8.ofNat (size / 256) :: UInt8.ofNat size ::
        0 :: 0 :: 0 :: 8 :: (be32 status ++ be32 sequenceNumber) := by
  have bound : size < 2 ^ 32 := by
    rw [maxPduLen] at small
    omega
  have high : size / 16777216 = 0 := by
    rw [maxPduLen] at small
    omega
  simp only [cancelHeader, CommandHeader.encode, be32, length_ofNat bound, high,
    List.cons_append, List.nil_append]
  rfl

theorem spelled_short {fields : CancelFields} {left : Bytes} {size : Nat}
    (sized : size = 16 + fields.encode.length) (small : size ≤ maxPduLen)
    (parsed : CancelFields.parse
      ((cancelHeader status sequenceNumber size).encode ++ fields.encode) = some (fields, left)) :
    size < 65536 := by
  simp only [CancelFields.parse, bind_eq_some, pure_eq_some] at parsed
  obtain ⟨service, _, readService, message, _, readMessage, ton, _, readTon, npi, _, readNpi,
    source, _, readSource, destTon, _, readDestTon, destNpi, _, readDestNpi, dest, _, readDest,
    rfl, rfl⟩ := parsed
  rw [cancelHeader_encode status sequenceNumber small] at *
  generalize framed : (0 :: UInt8.ofNat (size / 65536) :: UInt8.ofNat (size / 256) ::
    UInt8.ofNat size :: 0 :: 0 :: 0 :: 8 :: (be32 status ++ be32 sequenceNumber)) ++ _ = frame at *
  have first : frame[0]? = some 0 := by rw [← framed]; rfl
  have fifth : frame[4]? = some 0 := by rw [← framed]; rfl
  obtain ⟨q, rfl, low, high, serviceLen⟩ := string_position
    (show parseCOctetStringNom (frame.drop 0) = _ from readService) first (Nat.le_refl 0)
  obtain rfl : q = 1 := by omega
  obtain ⟨q, rfl, low, high, messageLen⟩ := string_position readMessage fifth (by omega)
  obtain rfl := octet_position readTon
  obtain rfl := octet_position readNpi
  have noService : service.bytes = [] := List.length_eq_zero_iff.mp (Nat.le_zero.mp serviceLen)
  have body : frame[16]? = some 0 := by
    rw [← framed]
    change (CancelFields.encode _)[0]? = some 0
    simp [CancelFields.encode, cOctetString, noService]
  obtain ⟨r, rfl, low, high, sourceLen⟩ := string_position readSource body (by omega)
  obtain rfl := octet_position readDestTon
  obtain rfl := octet_position readDestNpi
  have sourceEnd : frame[20 + message.len + source.len]? = some 0 := by
    obtain ⟨front, back, split, length⟩ : ∃ front back, frame = front ++ 0 :: back ∧
        front.length = 20 + message.len + source.len := by
      refine ⟨([0, UInt8.ofNat (size / 65536), UInt8.ofNat (size / 256), UInt8.ofNat size, 0, 0,
        0, 8] ++ (be32 status ++ be32 sequenceNumber)) ++ [0] ++ message.bytes ++
        [0, ton, npi] ++ source.bytes, [destTon, destNpi] ++ dest.bytes ++ [0], ?_, ?_⟩
      · rw [← framed]
        simp [CancelFields.encode, cOctetString, noService]
      · simp only [List.length_append, List.length_cons, List.length_nil, be32_length, Str.len]
        omega
    rw [split, ← length, found_at_length]
  obtain ⟨t, rfl, low, high, destLen⟩ := string_position readDest sourceEnd (by omega)
  rw [CancelFields.encode_length] at sized
  dsimp only at sized
  omega

theorem parse_terminated (bytes rest : Bytes) :
    ∃ left, parseCOctetStringNom (bytes ++ 0 :: rest) =
      some (Str.ofLossy (bytes.takeWhile fun b => b ≠ 0), left) := by
  rw [parseCOctetStringNom, bind_eq, takeUntil_takeWhile]
  simp only [Option.bind_some, bind_eq, take, List.length_append, List.length_cons]
  rw [if_pos (by omega)]
  exact ⟨_, rfl⟩

/-- Below 64 KiB the header alone settles what a cancel_sm reads, once a NUL follows it. -/
theorem parse_spelled {size : Nat} (low : size < 65536) (rest : Bytes) :
    ∃ left, CancelFields.parse ((cancelHeader status sequenceNumber size).encode ++ 0 :: rest) =
      some ({ spelled status sequenceNumber size with
        sourceAddrTon := UInt8.ofNat (size / 256) }, left) := by
  obtain ⟨left, read⟩ := parse_terminated (8 :: (be32 status ++ be32 sequenceNumber)) rest
  have zero : size / 65536 = 0 := by omega
  rw [cancelHeader_encode status sequenceNumber (by rw [maxPduLen]; omega), zero]
  refine ⟨left, ?_⟩
  simp only [List.cons_append] at read ⊢
  simp only [CancelFields.parse, bind_eq, parse_nul, octet, read, Option.bind_some,
    show UInt8.ofNat 0 = 0 from rfl]
  rfl

theorem spelled_len (size : Nat) (ton : UInt8) :
    { spelled status sequenceNumber size with sourceAddrTon := ton }.encode.length ≤ 35 := by
  have lossy := Utf8.lossy_length_le
    (8 :: (be32 status ++ be32 sequenceNumber).takeWhile fun b => b ≠ 0)
  have words : ((be32 status ++ be32 sequenceNumber).takeWhile fun b => b ≠ 0).length ≤ 8 :=
    (List.takeWhile_prefix _).length_le
  rw [List.length_cons] at lossy
  rw [CancelFields.encode_length]
  change 0 + 1 + (0 + 1) + 2 + 0 + 1 + 2 + (Utf8.lossy _).length + 1 ≤ 35
  omega

theorem parse_no_service {fields : CancelFields} {rest left : Bytes}
    (parsed : CancelFields.parse (0 :: rest) = some (fields, left)) :
    fields.serviceType = Str.empty := by
  simp only [CancelFields.parse, bind_eq_some, parse_nul, pure_eq_some] at parsed
  obtain ⟨_, _, ⟨rfl, rfl⟩, _, _, _, _, _, _, _, _, _, _, _, _, _, _, _, _, _, _, _, _, _, rfl,
    rfl⟩ := parsed
  rfl

theorem cancel_parsed_iff {fields : CancelFields} {size : Nat}
    (sized : size = 16 + fields.encode.length) (small : size ≤ maxPduLen) :
    (∃ left, CancelFields.parse
      ((cancelHeader status sequenceNumber size).encode ++ fields.encode) =
        some (fields, left)) ↔ fields = spelled status sequenceNumber size := by
  have nulFirst (same : fields.serviceType = Str.empty) : ∃ rest, fields.encode = 0 :: rest := by
    rw [CancelFields.encode, same]
    exact ⟨_, rfl⟩
  constructor
  · rintro ⟨left, parsed⟩
    have low := spelled_short status sequenceNumber sized small parsed
    have service : fields.serviceType = Str.empty := by
      rw [cancelHeader_encode status sequenceNumber small] at parsed
      exact parse_no_service parsed
    obtain ⟨rest, encoded⟩ := nulFirst service
    obtain ⟨other, spelt⟩ := parse_spelled status sequenceNumber low rest
    rw [encoded, spelt] at parsed
    cases parsed
    have bound := spelled_len status sequenceNumber size (UInt8.ofNat (size / 256))
    have zero : size / 256 = 0 := by omega
    rw [zero]
    rfl
  · intro same
    have bound := spelled_len status sequenceNumber size 0
    have zero : size / 256 = 0 := by
      rw [same] at sized
      change size = 16 + { spelled status sequenceNumber size with
        sourceAddrTon := 0 }.encode.length at sized
      omega
    obtain ⟨rest, encoded⟩ := nulFirst (by rw [same]; rfl)
    obtain ⟨left, spelt⟩ := parse_spelled status sequenceNumber (show size < 65536 by omega) rest
    rw [encoded, spelt, zero]
    exact ⟨left, by rw [same]; rfl⟩

end Cancel

/-- A body whose fields the callback gets as they are laid out: of the cancel_sm bodies only the
    ones their own header happens to spell. -/
def Body.Legible (status sequenceNumber : UInt32) (size : Nat) : Body → Prop
  | .cancelSm fields => fields = spelled status sequenceNumber size
  | _ => True

theorem cancel_callback_iff (bound : BoundType) (status sequenceNumber : UInt32)
    (fields : CancelFields) {size : Nat} (transmits : bound.transmits)
    (sized : size = 16 + fields.encode.length) (small : size ≤ maxPduLen) :
    serverBranch bound (cancelHeader status sequenceNumber size)
        ((cancelHeader status sequenceNumber size).encode ++ fields.encode) =
      .request (.cancelSm { fields with header := cancelHeader status sequenceNumber size }) ↔
      fields = spelled status sequenceNumber size := by
  rw [← cancel_parsed_iff status sequenceNumber sized small, serverBranch_cancelSm rfl transmits,
    CancelSm.decode, readBody]
  cases parsed : CancelFields.parse
      ((cancelHeader status sequenceNumber size).encode ++ fields.encode) with
  | none =>
    refine iff_of_false ?_ (by simp)
    intro same
    cases same
  | some result =>
    obtain ⟨other, left⟩ := result
    constructor
    · intro same
      have equal : other = fields := by
        injection same with same
        injection same with same
        exact congrArg CancelSm.toCancelFields same
      exact ⟨left, by rw [equal]⟩
    · rintro ⟨_, same⟩
      cases same
      rfl

/-- The callback gets the fields of every well-formed frame as they are laid out behind the
    header, but for cancel_sm. -/
theorem callback_fields_iff (side : Side) (bound : BoundType) (body : Body)
    (status sequenceNumber : UInt32) (listened : body.Listened side bound)
    (formed : body.WellFormed) (small : 16 + body.layout.length ≤ maxPduLen) :
    let header : CommandHeader :=
      ⟨UInt32.ofNat (16 + body.layout.length), body.commandId.value, status, sequenceNumber⟩
    side.branch bound header (header.encode ++ body.layout) = body.callback header ↔
      body.Legible status sequenceNumber (16 + body.layout.length) := by
  intro header
  cases body with
  | submitSm fields tlvs =>
    obtain ⟨rfl, transmits⟩ := listened
    refine iff_of_true ?_ trivial
    refine (show serverBranch bound header _ = _ from serverBranch_submitSm rfl transmits).trans ?_
    exact congrArg (fun decoded => dispatched decoded _ _) (SubmitSm.decode_layout header fields tlvs formed.1 formed.2)
  | submitSmMulti fields tlvs =>
    obtain ⟨rfl, transmits⟩ := listened
    refine iff_of_true ?_ trivial
    refine (show serverBranch bound header _ = _ from serverBranch_submitMulti rfl transmits).trans ?_
    exact congrArg (fun decoded => dispatched decoded _ _) (SubmitSmMulti.decode_layout header fields tlvs formed.1 formed.2)
  | dataSm fields tlvs =>
    have decoded := @DataSm.decode_layout header header fields tlvs formed.1 formed.2
    refine iff_of_true ?_ trivial
    cases side with
    | server =>
      refine (show serverBranch bound header _ = _ from serverBranch_dataSm rfl).trans ?_
      exact congrArg (fun decoded => dispatched decoded _ _) decoded
    | client =>
      refine (show clientBranch bound header _ = _ from clientBranch_dataSm rfl).trans ?_
      exact congrArg (fun decoded => dispatched decoded _ _) decoded
  | cancelSm fields =>
    obtain ⟨rfl, transmits⟩ := listened
    exact cancel_callback_iff bound status sequenceNumber fields transmits rfl small
  | querySm fields =>
    obtain ⟨rfl, transmits⟩ := listened
    refine iff_of_true ?_ trivial
    refine (show serverBranch bound header _ = _ from serverBranch_querySm rfl transmits).trans ?_
    exact congrArg (fun decoded => dispatched decoded _ _) (QuerySm.decode_layout header fields formed)
  | replaceSm fields =>
    obtain ⟨rfl, transmits⟩ := listened
    refine iff_of_true ?_ trivial
    refine (show serverBranch bound header _ = _ from serverBranch_replaceSm rfl transmits).trans ?_
    exact congrArg (fun decoded => dispatched decoded _ _) (ReplaceSm.decode_layout header fields formed)
  | deliverSm fields tlvs =>
    obtain ⟨rfl, receives⟩ := listened
    refine iff_of_true ?_ trivial
    refine (show clientBranch bound header _ = _ from clientBranch_deliverSm rfl receives).trans ?_
    exact congrArg (fun decoded => dispatched decoded _ _) (DeliverSm.decode_layout header fields tlvs formed.1 formed.2)
  | alertNotification fields tlvs =>
    obtain rfl := listened
    refine iff_of_true ?_ trivial
    refine (show clientBranch bound header _ = _ from clientBranch_alertNotification rfl).trans ?_
    exact congrArg (fun decoded => dispatched decoded _ _)
      (AlertNotification.decode_layout header fields tlvs formed.1 formed.2)

theorem query_sm_callback_fields :
    serverBranch .tx ⟨UInt32.ofNat 20, CommandId.querySm.value, 0, 3⟩
        (CommandHeader.encode ⟨UInt32.ofNat 20, CommandId.querySm.value, 0, 3⟩ ++ [0, 1, 2, 0]) =
      .request (.querySm ⟨⟨Str.empty, 1, 2, Str.empty⟩, ⟨20, CommandId.querySm.value, 0, 3⟩⟩) :=
  (callback_fields_iff .server .tx (.querySm ⟨Str.empty, 1, 2, Str.empty⟩) 0 3 ⟨rfl, rfl⟩
    ⟨by decide, by decide⟩ (by decide)).mpr trivial

theorem cancel_sm_callback_misread :
    let fields : CancelFields := ⟨Str.empty, ⟨[0x37], by decide⟩, 1, 1, ⟨[0x35], by decide⟩, 1, 1,
      Str.empty⟩
    let header : CommandHeader := ⟨26, CommandId.cancelSm.value, 0, 3⟩
    fields.WellFormed ∧ fields.encode.length = 10 ∧
      serverBranch .trx header (header.encode ++ fields.encode) ≠
        .request (.cancelSm { fields with header }) ∧
      serverBranch .trx header (header.encode ++ fields.encode) =
        .request (.cancelSm ⟨⟨Str.empty, Str.empty, 0, 26, Str.empty, 0, 0, ⟨[8], by decide⟩⟩,
          header⟩) := by
  exact ⟨⟨by decide, by decide, by decide, by decide⟩, by decide, by decide, by decide⟩

end Smpp34
