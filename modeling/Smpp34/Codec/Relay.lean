import Smpp34.Codec.RoundTrip

namespace Smpp34

open Octets
open Parse
open Utf8 (Str)

/-- A C-octet string that is UTF-8, so that nothing in it is replaced. -/
def strictCOctetString : Reader Str := do
  let result ← takeUntil 0x00
  let _ ← take 1
  fun input => (Str.fromUtf8 result).map fun s => (s, input)

theorem parse_string {input left : Bytes} {s : Str}
    (read : parseCOctetStringNom input = some (s, left)) :
    ∃ found, takeUntil 0x00 input = some (found, 0x00 :: left) ∧ s = Str.ofLossy found := by
  simp only [parseCOctetStringNom, bind_eq_some, pure_eq_some] at read
  obtain ⟨found, behind, until_nul, nul, rest, taken, rfl, rfl⟩ := read
  obtain ⟨_, _, more, rfl⟩ := takeUntil_spec until_nul
  simp only [take, List.length_cons] at taken
  rw [if_pos (by omega)] at taken
  cases taken
  exact ⟨found, until_nul, rfl⟩

theorem parse_nulFree {input left : Bytes} {s : Str}
    (read : parseCOctetStringNom input = some (s, left)) : NulFree s := by
  obtain ⟨found, until_nul, rfl⟩ := parse_string read
  exact Utf8.lossy_zero_free (takeUntil_spec until_nul).1

theorem strict_string {input left : Bytes} {s : Str}
    (read : strictCOctetString input = some (s, left)) :
    takeUntil 0x00 input = some (s.bytes, 0x00 :: left) := by
  simp only [strictCOctetString, bind_eq_some] at read
  obtain ⟨found, behind, until_nul, nul, rest, taken, decoded⟩ := read
  obtain ⟨_, _, more, rfl⟩ := takeUntil_spec until_nul
  simp only [take, List.length_cons] at taken
  rw [if_pos (by omega)] at taken
  cases taken
  rw [Str.fromUtf8] at decoded
  split at decoded
  · cases decoded
    exact until_nul
  · cases decoded

theorem strict_cOctetString :
    Canonical strictCOctetString parseCOctetStringNom cOctetString NulFree where
  spells input s left read := by
    obtain ⟨_, whole, _⟩ := takeUntil_spec (strict_string read)
    rw [whole, cOctetString, List.append_assoc]
    rfl
  agrees input result read := by
    obtain ⟨s, left⟩ := result
    rw [parseCOctetStringNom, bind_eq, strict_string read]
    simp [bind_eq, pure_eq_some, take, Str.ofLossy_bytes]
  formed input s left read := parse_nulFree read
  reads s clean rest := by
    have found : takeUntil 0x00 (cOctetString s ++ rest) = some (s.bytes, 0x00 :: rest) := by
      rw [cOctetString, List.append_assoc]
      exact takeUntil_append 0x00 s.bytes rest clean
    have valid : Str.fromUtf8 s.bytes = some s := by
      rw [Str.fromUtf8, dif_pos s.valid]
    rw [strictCOctetString, bind_eq, found]
    simp [bind_eq, take, valid]

def MessageFields.readWith (text : Reader Str) : Reader MessageFields := do
  let serviceType ← text
  let sourceAddrTon ← octet
  let sourceAddrNpi ← octet
  let sourceAddr ← text
  let destAddrTon ← octet
  let destAddrNpi ← octet
  let destinationAddr ← text
  let esmClass ← octet
  let protocolId ← octet
  let priorityFlag ← octet
  let scheduleDeliveryTime ← text
  let validityPeriod ← text
  let registeredDelivery ← octet
  let replaceIfPresentFlag ← octet
  let dataCoding ← octet
  let smDefaultMsgId ← octet
  let smLength ← octet
  let shortMessage ← take smLength.toNat
  pure
    { serviceType, sourceAddrTon, sourceAddrNpi, sourceAddr, destAddrTon, destAddrNpi,
      destinationAddr, esmClass, protocolId, priorityFlag, scheduleDeliveryTime,
      validityPeriod, registeredDelivery, replaceIfPresentFlag, dataCoding, smDefaultMsgId,
      smLength, shortMessage }

theorem MessageFields.read_eq : MessageFields.read = MessageFields.readWith parseCOctetStringNom :=
  rfl

theorem MessageFields.canonical :
    Canonical (readWith strictCOctetString) read encode WellFormed := by
  have text := strict_cOctetString
  rw [read_eq]
  unfold readWith
  apply Canonical.respell
  · apply text.bind serviceType fun _ formed => formed.serviceType
    intro _ service
    apply canonical_octet.bind sourceAddrTon fun _ _ => trivial
    intro _ _
    apply canonical_octet.bind sourceAddrNpi fun _ _ => trivial
    intro _ _
    apply text.bind sourceAddr fun fields formed => (show fields.WellFormed by tauto).sourceAddr
    intro _ source
    apply canonical_octet.bind destAddrTon fun _ _ => trivial
    intro _ _
    apply canonical_octet.bind destAddrNpi fun _ _ => trivial
    intro _ _
    apply text.bind destinationAddr fun fields formed =>
      (show fields.WellFormed by tauto).destinationAddr
    intro _ destination
    apply canonical_octet.bind esmClass fun _ _ => trivial
    intro _ _
    apply canonical_octet.bind protocolId fun _ _ => trivial
    intro _ _
    apply canonical_octet.bind priorityFlag fun _ _ => trivial
    intro _ _
    apply text.bind scheduleDeliveryTime fun fields formed =>
      (show fields.WellFormed by tauto).scheduleDeliveryTime
    intro _ schedule
    apply text.bind validityPeriod fun fields formed =>
      (show fields.WellFormed by tauto).validityPeriod
    intro _ validity
    apply canonical_octet.bind registeredDelivery fun _ _ => trivial
    intro _ _
    apply canonical_octet.bind replaceIfPresentFlag fun _ _ => trivial
    intro _ _
    apply canonical_octet.bind dataCoding fun _ _ => trivial
    intro _ _
    apply canonical_octet.bind smDefaultMsgId fun _ _ => trivial
    intro _ _
    apply canonical_octet.bind smLength fun _ _ => trivial
    intro _ _
    apply (canonical_take _).last shortMessage (fun _ => rfl)
    intro fields
    simp only [and_assoc]
    constructor
    · rintro ⟨formed, rfl, rfl, rfl, rfl, rfl, rfl, rfl, rfl, rfl, rfl, rfl, rfl, rfl, rfl, rfl, rfl,
        rfl⟩
      exact ⟨formed.smLength.symm, rfl⟩
    · rintro ⟨size, same⟩
      rw [same]
      exact ⟨⟨service, source, destination, schedule, validity, size.symm⟩, rfl, rfl, rfl, rfl, rfl,
        rfl, rfl, rfl, rfl, rfl, rfl, rfl, rfl, rfl, rfl, rfl, rfl⟩
  · intro fields
    simp only [encode, List.append_assoc, id]

def DataFields.readWith (text : Reader Str) : Reader DataFields := do
  let serviceType ← text
  let sourceAddrTon ← octet
  let sourceAddrNpi ← octet
  let sourceAddr ← text
  let destAddrTon ← octet
  let destAddrNpi ← octet
  let destinationAddr ← text
  let esmClass ← octet
  let registeredDelivery ← octet
  let dataCoding ← octet
  pure
    { serviceType, sourceAddrTon, sourceAddrNpi, sourceAddr, destAddrTon, destAddrNpi,
      destinationAddr, esmClass, registeredDelivery, dataCoding }

theorem DataFields.read_eq : DataFields.read = DataFields.readWith parseCOctetStringNom := rfl

theorem DataFields.canonical :
    Canonical (readWith strictCOctetString) read encode WellFormed := by
  have text := strict_cOctetString
  rw [read_eq]
  unfold readWith
  apply Canonical.respell
  · apply text.bind serviceType fun _ formed => formed.serviceType
    intro _ service
    apply canonical_octet.bind sourceAddrTon fun _ _ => trivial
    intro _ _
    apply canonical_octet.bind sourceAddrNpi fun _ _ => trivial
    intro _ _
    apply text.bind sourceAddr fun fields formed => (show fields.WellFormed by tauto).sourceAddr
    intro _ source
    apply canonical_octet.bind destAddrTon fun _ _ => trivial
    intro _ _
    apply canonical_octet.bind destAddrNpi fun _ _ => trivial
    intro _ _
    apply text.bind destinationAddr fun fields formed =>
      (show fields.WellFormed by tauto).destinationAddr
    intro _ destination
    apply canonical_octet.bind esmClass fun _ _ => trivial
    intro _ _
    apply canonical_octet.bind registeredDelivery fun _ _ => trivial
    intro _ _
    apply canonical_octet.last dataCoding (fun _ => rfl)
    intro fields
    simp only [and_assoc]
    constructor
    · rintro ⟨formed, rfl, rfl, rfl, rfl, rfl, rfl, rfl, rfl, rfl⟩
      exact ⟨trivial, rfl⟩
    · rintro ⟨-, same⟩
      rw [same]
      exact ⟨⟨service, source, destination⟩, rfl, rfl, rfl, rfl, rfl, rfl, rfl, rfl, rfl⟩
  · intro fields
    simp only [encode, List.append_assoc]

/-- A destination under one of the two flags that the encoder writes. -/
def DestAddress.parseStrict : Reader DestAddress := do
  let destFlag ← octet
  if destFlag = 0x02 then
    let dlName ← strictCOctetString
    pure (distributionList dlName)
  else if destFlag = 0x01 then
    let destAddrTon ← octet
    let destAddrNpi ← octet
    let destinationAddr ← strictCOctetString
    pure (sme destAddrTon destAddrNpi destinationAddr)
  else fun _ => none

theorem DestAddress.canonical : Canonical parseStrict parse encode WellFormed where
  spells input dest rest read := by
    obtain ⟨flag, after, flagged, read⟩ := bind_eq_some.mp read
    rw [spells_octet _ _ _ flagged]
    split at read
    · rename_i list
      simp only [bind_eq_some, pure_eq_some] at read
      obtain ⟨name, _, named, rfl, rfl⟩ := read
      rw [strict_cOctetString.spells _ _ _ named, list]
      rfl
    · split at read
      · rename_i single
        simp only [bind_eq_some, pure_eq_some] at read
        obtain ⟨ton, _, first, npi, _, second, addr, _, third, rfl, rfl⟩ := read
        rw [spells_octet _ _ _ first, spells_octet _ _ _ second,
          strict_cOctetString.spells _ _ _ third, single]
        simp only [encode, List.append_assoc]
      · cases read
  agrees input result read := by
    obtain ⟨flag, after, flagged, read⟩ := bind_eq_some.mp read
    refine bind_eq_some.mpr ⟨flag, after, flagged, ?_⟩
    split at read
    · rename_i list
      rw [if_pos list]
      obtain ⟨name, left, named, built⟩ := bind_eq_some.mp read
      exact bind_eq_some.mpr ⟨name, left, strict_cOctetString.agrees _ _ named, built⟩
    · rename_i other
      rw [if_neg other]
      split at read
      · simp only [bind_eq_some] at read ⊢
        obtain ⟨ton, _, first, npi, _, second, addr, _, third, built⟩ := read
        exact ⟨ton, _, first, npi, _, second, addr, _, strict_cOctetString.agrees _ _ third, built⟩
      · cases read
  formed input dest rest read := by
    obtain ⟨flag, after, -, read⟩ := bind_eq_some.mp read
    split at read
    · simp only [bind_eq_some, pure_eq_some] at read
      obtain ⟨name, _, named, rfl, rfl⟩ := read
      exact parse_nulFree named
    · simp only [bind_eq_some, pure_eq_some] at read
      obtain ⟨ton, _, -, npi, _, -, addr, _, third, rfl, rfl⟩ := read
      exact parse_nulFree third
  reads dest formed := by
    cases dest with
    | sme ton npi addr =>
      simp only [encode, List.append_assoc]
      refine (reads_octet _).bind ?_
      rw [if_neg (by decide), if_pos rfl]
      refine (reads_octet _).bind ?_
      refine (reads_octet _).bind ?_
      exact (strict_cOctetString.reads addr formed).last (sme ton npi)
    | distributionList name =>
      refine (reads_octet _).bind ?_
      rw [if_pos rfl]
      exact (strict_cOctetString.reads name formed).last distributionList

def MultiFields.readWith (text : Reader Str) (dest : Reader DestAddress) : Reader MultiFields := do
  let serviceType ← text
  let sourceAddrTon ← octet
  let sourceAddrNpi ← octet
  let sourceAddr ← text
  let numberOfDests ← octet
  let destAddresses ← times dest numberOfDests.toNat
  let esmClass ← octet
  let protocolId ← octet
  let priorityFlag ← octet
  let scheduleDeliveryTime ← text
  let validityPeriod ← text
  let registeredDelivery ← octet
  let replaceIfPresentFlag ← octet
  let dataCoding ← octet
  let smDefaultMsgId ← octet
  let smLength ← octet
  let shortMessage ← take smLength.toNat
  pure
    { serviceType, sourceAddrTon, sourceAddrNpi, sourceAddr, numberOfDests, destAddresses,
      esmClass, protocolId, priorityFlag, scheduleDeliveryTime, validityPeriod,
      registeredDelivery, replaceIfPresentFlag, dataCoding, smDefaultMsgId, smLength,
      shortMessage }

theorem MultiFields.read_eq :
    MultiFields.read = MultiFields.readWith parseCOctetStringNom DestAddress.parse := rfl

theorem MultiFields.canonical :
    Canonical (readWith strictCOctetString DestAddress.parseStrict) read encode WellFormed := by
  have text := strict_cOctetString
  rw [read_eq]
  unfold readWith
  apply Canonical.respell
  · apply text.bind serviceType fun _ formed => formed.serviceType
    intro _ service
    apply canonical_octet.bind sourceAddrTon fun _ _ => trivial
    intro _ _
    apply canonical_octet.bind sourceAddrNpi fun _ _ => trivial
    intro _ _
    apply text.bind sourceAddr fun fields formed => (show fields.WellFormed by tauto).sourceAddr
    intro _ source
    apply canonical_octet.bind numberOfDests fun _ _ => trivial
    intro count _
    apply (DestAddress.canonical.times count.toNat).bind destAddresses
    · intro fields formed
      have whole : fields.WellFormed := by tauto
      have told := whole.numberOfDests
      rw [formed.2] at told
      exact ⟨told.symm, whole.destAddresses⟩
    intro _ dests
    apply canonical_octet.bind esmClass fun _ _ => trivial
    intro _ _
    apply canonical_octet.bind protocolId fun _ _ => trivial
    intro _ _
    apply canonical_octet.bind priorityFlag fun _ _ => trivial
    intro _ _
    apply text.bind scheduleDeliveryTime fun fields formed =>
      (show fields.WellFormed by tauto).scheduleDeliveryTime
    intro _ schedule
    apply text.bind validityPeriod fun fields formed =>
      (show fields.WellFormed by tauto).validityPeriod
    intro _ validity
    apply canonical_octet.bind registeredDelivery fun _ _ => trivial
    intro _ _
    apply canonical_octet.bind replaceIfPresentFlag fun _ _ => trivial
    intro _ _
    apply canonical_octet.bind dataCoding fun _ _ => trivial
    intro _ _
    apply canonical_octet.bind smDefaultMsgId fun _ _ => trivial
    intro _ _
    apply canonical_octet.bind smLength fun _ _ => trivial
    intro _ _
    apply (canonical_take _).last shortMessage (fun _ => rfl)
    intro fields
    simp only [and_assoc]
    constructor
    · rintro ⟨formed, rfl, rfl, rfl, rfl, rfl, rfl, rfl, rfl, rfl, rfl, rfl, rfl, rfl, rfl, rfl, rfl⟩
      exact ⟨formed.smLength.symm, rfl⟩
    · rintro ⟨size, same⟩
      rw [same]
      exact ⟨⟨service, source, dests.1.symm, dests.2, schedule, validity, size.symm⟩, rfl, rfl, rfl,
        rfl, rfl, rfl, rfl, rfl, rfl, rfl, rfl, rfl, rfl, rfl, rfl, rfl⟩
  · intro fields
    simp only [encode, List.append_assoc, id]

def withSequenceNumber (pdu : Bytes) (number : UInt32) : Bytes :=
  pdu.take 12 ++ (be32 number ++ pdu.drop 16)

inductive RelayKind where
  | submitSm
  | deliverSm
  | dataSm
  | submitSmMulti
deriving DecidableEq, Repr

namespace RelayKind

/-- The PDU is decoded, given the sequence_number of the other session and encoded. -/
def relay : RelayKind → CommandHeader → Bytes → UInt32 → Decoded Bytes
  | submitSm, header, pdu, number =>
    (SubmitSm.decode header pdu).map fun pdu => (pdu.setSequenceNumber number).encode
  | deliverSm, header, pdu, number =>
    (DeliverSm.decode header pdu).map fun pdu => (pdu.setSequenceNumber number).encode
  | dataSm, header, pdu, number =>
    (DataSm.decode header pdu).map fun pdu => (pdu.setSequenceNumber number).encode
  | submitSmMulti, header, pdu, number =>
    (SubmitSmMulti.decode header pdu).map fun pdu => (pdu.setSequenceNumber number).encode

def parameterArea : RelayKind → Bytes → Option Bytes
  | submitSm, pdu | deliverSm, pdu => (MessageFields.read (pdu.drop 16)).map Prod.snd
  | dataSm, pdu => (DataFields.read (pdu.drop 16)).map Prod.snd
  | submitSmMulti, pdu => (MultiFields.read (pdu.drop 16)).map Prod.snd

/-- Every C-octet string of the body is UTF-8, and every dest_flag is one of the two. -/
def strict : RelayKind → Bytes → Bool
  | submitSm, pdu | deliverSm, pdu =>
    (MessageFields.readWith strictCOctetString (pdu.drop 16)).isSome
  | dataSm, pdu => (DataFields.readWith strictCOctetString (pdu.drop 16)).isSome
  | submitSmMulti, pdu =>
    (MultiFields.readWith strictCOctetString DestAddress.parseStrict (pdu.drop 16)).isSome

end RelayKind

theorem parameters_spelled {area : Bytes} (consumed : tlvsEncodedLen (decodeTlvs area) = area.length) :
    encodeTlvs (decodeTlvs area) = area := by
  obtain ⟨rest, spelled, -⟩ := decodeTlvs_spelled area
  have sizes := congrArg List.length spelled
  rw [List.length_append, encodeTlvs_length, consumed] at sizes
  have nothing : rest = [] := List.eq_nil_of_length_eq_zero (by omega)
  rw [nothing, List.append_nil] at spelled
  exact spelled.symm

theorem header_octets {pdu : Bytes} {header : CommandHeader}
    (decoded : CommandHeader.decode pdu = .ok header) :
    pdu.take 12 =
      be32 header.commandLength ++ be32 header.commandId ++ be32 header.commandStatus := by
  obtain ⟨rfl, long, -⟩ := CommandHeader.decode_ok_eq decoded
  match pdu, long with
  | a :: b :: c :: d :: e :: f :: g :: h :: i :: j :: k :: l :: rest, _ =>
    simp only [beU32At, List.drop_zero, List.drop_succ_cons, be32_ofBe32]
    rfl

theorem written_iff {pdu body : Bytes} {header : CommandHeader} {total number : UInt32}
    (decoded : CommandHeader.decode pdu = .ok header)
    (told : 16 + body.length < 2 ^ 32 → total.toNat = 16 + body.length) :
    { header with commandLength := total, sequenceNumber := number }.encode ++ body =
        withSequenceNumber pdu number ↔ body = pdu.drop 16 := by
  obtain ⟨-, long, size⟩ := CommandHeader.decode_ok_eq decoded
  constructor
  · intro same
    have behind := congrArg (List.drop 16) same
    have front : (pdu.take 12 ++ be32 number).length = 16 := by
      rw [List.length_append, List.length_take, be32_length]
      omega
    rw [withSequenceNumber, ← List.append_assoc] at behind
    rw [List.drop_left' (CommandHeader.encode_length _), List.drop_left' front] at behind
    exact behind
  · intro same
    have whole : 16 + body.length = pdu.length := by
      rw [same, List.length_drop]
      omega
    have bound := header.commandLength.toNat_lt
    have length : total = header.commandLength := by
      apply UInt32.toNat_inj.mp
      rw [told (by omega)]
      omega
    rw [withSequenceNumber, header_octets decoded, same, length, CommandHeader.encode]
    simp only [List.append_assoc]

/-- Fields that were read are written as they stood exactly when the strict reader takes them. -/
theorem fields_written_iff {α : Type} {strict lenient : Reader α} {encode : α → Bytes}
    {Formed : α → Prop} (canonical : Canonical strict lenient encode Formed) {pdu area : Bytes}
    {fields : α} {header : CommandHeader} {total : UInt32} (number : UInt32)
    (decoded : CommandHeader.decode pdu = .ok header)
    (read : lenient (pdu.drop 16) = some (fields, area))
    (consumed : tlvsEncodedLen (decodeTlvs area) = area.length)
    (told : 16 + (encode fields ++ encodeTlvs (decodeTlvs area)).length < 2 ^ 32 →
      total.toNat = 16 + (encode fields ++ encodeTlvs (decodeTlvs area)).length) :
    { header with commandLength := total, sequenceNumber := number }.encode ++
        (encode fields ++ encodeTlvs (decodeTlvs area)) = withSequenceNumber pdu number ↔
      (strict (pdu.drop 16)).isSome := by
  rw [written_iff decoded told, parameters_spelled consumed]
  exact canonical.spelled_iff read

/-- A relayed PDU keeps its octets, the sequence_number apart, exactly when its strings are UTF-8
    and its dest_flags are those of the encoder. -/
theorem relay_preserves_iff (kind : RelayKind) (pdu area relayed : Bytes) (header : CommandHeader)
    (number : UInt32) (decoded : CommandHeader.decode pdu = .ok header)
    (ran : kind.relay header pdu number = .ok relayed)
    (behind : kind.parameterArea pdu = some area)
    (consumed : tlvsEncodedLen (decodeTlvs area) = area.length) :
    relayed = withSequenceNumber pdu number ↔ kind.strict pdu = true := by
  obtain ⟨-, long, -⟩ := CommandHeader.decode_ok_eq decoded
  have unchecked : bodyOf pdu = .ok (pdu.drop 16) := by rw [bodyOf, if_pos long]
  have checked : checkedBodyOf pdu = .ok (pdu.drop 16) := by
    rw [checkedBodyOf, if_neg (by omega), unchecked]
  cases kind with
  | submitSm =>
    obtain ⟨⟨fields, area⟩, read, rfl⟩ := Option.map_eq_some_iff.mp behind
    have body : readBody MessageFields.read (pdu.drop 16) = .ok (fields, area) := by
      rw [readBody, read]
    rw [RelayKind.relay, SubmitSm.decode, ok_bind checked, ok_bind body] at ran
    cases ran
    have written := fields_written_iff MessageFields.canonical number decoded read consumed
      (fields.total_length (decodeTlvs area))
    exact written
  | deliverSm =>
    obtain ⟨⟨fields, area⟩, read, rfl⟩ := Option.map_eq_some_iff.mp behind
    have body : readBody MessageFields.read (pdu.drop 16) = .ok (fields, area) := by
      rw [readBody, read]
    rw [RelayKind.relay, DeliverSm.decode, ok_bind checked, ok_bind body] at ran
    cases ran
    have written := fields_written_iff MessageFields.canonical number decoded read consumed
      (fields.total_length (decodeTlvs area))
    exact written
  | dataSm =>
    obtain ⟨⟨fields, area⟩, read, rfl⟩ := Option.map_eq_some_iff.mp behind
    have body : readBody DataFields.read (pdu.drop 16) = .ok (fields, area) := by
      rw [readBody, read]
    rw [RelayKind.relay, DataSm.decode, ok_bind checked, ok_bind body] at ran
    cases ran
    have written := fields_written_iff DataFields.canonical number decoded read consumed
      (fields.total_length (decodeTlvs area))
    exact written
  | submitSmMulti =>
    obtain ⟨⟨fields, area⟩, read, rfl⟩ := Option.map_eq_some_iff.mp behind
    have body : readBody MultiFields.read (pdu.drop 16) = .ok (fields, area) := by
      rw [readBody, read]
    rw [RelayKind.relay, SubmitSmMulti.decode, ok_bind unchecked, ok_bind body] at ran
    cases ran
    have written := fields_written_iff MultiFields.canonical number decoded read consumed
      (fields.total_length (decodeTlvs area))
    exact written

theorem relay_preserves_an_empty_data_sm :
    let pdu := [0, 0, 0, 26, 0, 0, 1, 3, 0, 0, 0, 0, 0, 0, 0, 1, 0, 1, 1, 0, 1, 1, 0, 0, 0, 0]
    RelayKind.dataSm.relay ⟨26, 0x103, 0, 1⟩ pdu 9 =
      .ok [0, 0, 0, 26, 0, 0, 1, 3, 0, 0, 0, 0, 0, 0, 0, 9, 0, 1, 1, 0, 1, 1, 0, 0, 0, 0] := by
  intro pdu
  have ran : RelayKind.dataSm.relay ⟨26, 0x103, 0, 1⟩ pdu 9 = .ok _ := rfl
  rw [ran, (relay_preserves_iff .dataSm pdu [] _ ⟨26, 0x103, 0, 1⟩ 9 (by decide) ran (by decide)
    (by decide)).mpr (by decide)]
  rfl

theorem relay_replaces_a_latin1_letter :
    let pdu := [0, 0, 0, 27, 0, 0, 1, 3, 0, 0, 0, 0, 0, 0, 0, 1, 0, 1, 1, 0xE9, 0, 1, 1, 0, 0, 0, 0]
    CommandHeader.decode pdu = .ok ⟨27, 0x103, 0, 1⟩ ∧
      RelayKind.dataSm.parameterArea pdu = some [] ∧
      RelayKind.dataSm.relay ⟨27, 0x103, 0, 1⟩ pdu 9 =
        .ok [0, 0, 0, 29, 0, 0, 1, 3, 0, 0, 0, 0, 0, 0, 0, 9, 0, 1, 1, 0xEF, 0xBF, 0xBD, 0, 1, 1, 0,
          0, 0, 0] ∧
      RelayKind.dataSm.relay ⟨27, 0x103, 0, 1⟩ pdu 9 ≠ .ok (withSequenceNumber pdu 9) := by
  decide

end Smpp34
