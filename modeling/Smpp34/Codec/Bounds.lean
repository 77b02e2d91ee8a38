import Smpp34.Commands.Pdu

namespace Smpp34

open Octets
open Parse
open Utf8 (Str)

def index (bytes : Bytes) (i : Nat) : Decoded UInt8 :=
  match bytes[i]? with
  | some b => .ok b
  | none => .error .panic

/-- `&bytes[low..high]`. -/
def slice (bytes : Bytes) (low high : Nat) : Decoded Bytes :=
  if low ≤ high ∧ high ≤ bytes.length then .ok ((bytes.take high).drop low) else .error .panic

abbrev Indexing (α : Type) := StateT Bytes (Except Fault) α

def nom {α : Type} (reader : Reader α) : Indexing α := readBody reader

def indexed (bytes : Bytes) (i : Nat) : Indexing UInt8 := StateT.lift (index bytes i)

theorem slice_from (pdu : Bytes) (low : Nat) :
    slice pdu low pdu.length =
      if low ≤ pdu.length then .ok (pdu.drop low) else .error .panic := by
  simp only [slice, List.take_length, Nat.le_refl, and_true]

theorem slice_in_range {bytes : Bytes} {low high : Nat} (ordered : low ≤ high)
    (within : high ≤ bytes.length) :
    slice bytes low high = .ok ((bytes.take high).drop low) := by
  rw [slice, if_pos ⟨ordered, within⟩]

section Readers

variable {α β : Type}

theorem nom_pure (value : α) : nom (pure value : Reader α) = pure value := by
  funext input
  rfl

theorem nom_bind (reader : Reader α) (next : α → Reader β) :
    nom (reader >>= next) = nom reader >>= fun value => nom (next value) := by
  funext input
  change readBody (reader >>= next) input = (readBody reader input >>= fun result => _)
  rw [readBody, readBody, bind_eq]
  cases reader input with
  | none => rfl
  | some result => rfl

theorem nom_take_one (next : Bytes → Indexing β) :
    (nom (take 1) >>= next) = nom octet >>= fun b => next [b] := by
  funext input
  cases input with
  | nil => rfl
  | cons b input => rfl

theorem readBody_take_one (input : Bytes) (next : Bytes × Bytes → Decoded β) :
    (readBody (take 1) input >>= next) =
      readBody octet input >>= fun result => next ([result.1], result.2) := by
  cases input with
  | nil => rfl
  | cons b input => rfl

theorem indexed_singleton (b : UInt8) : indexed [b] 0 = pure b := by
  funext input
  rfl

end Readers

section Fields

def MessageFields.readIndexed : Indexing MessageFields := do
  let serviceType ← nom parseCOctetStringNom
  let sourceAddrTonBytes ← nom (take 1)
  let sourceAddrNpiBytes ← nom (take 1)
  let sourceAddr ← nom parseCOctetStringNom
  let destAddrTonBytes ← nom (take 1)
  let destAddrNpiBytes ← nom (take 1)
  let destinationAddr ← nom parseCOctetStringNom
  let esmClassBytes ← nom (take 1)
  let protocolIdBytes ← nom (take 1)
  let priorityFlagBytes ← nom (take 1)
  let scheduleDeliveryTime ← nom parseCOctetStringNom
  let validityPeriod ← nom parseCOctetStringNom
  let registeredDeliveryBytes ← nom (take 1)
  let replaceIfPresentFlagBytes ← nom (take 1)
  let dataCodingBytes ← nom (take 1)
  let smDefaultMsgIdBytes ← nom (take 1)
  let smLengthBytes ← nom (take 1)
  let smLength ← indexed smLengthBytes 0
  let shortMessage ← nom (take smLength.toNat)
  pure
    { serviceType, sourceAddr, destinationAddr, scheduleDeliveryTime, validityPeriod, smLength,
      shortMessage
      sourceAddrTon := ← indexed sourceAddrTonBytes 0
      sourceAddrNpi := ← indexed sourceAddrNpiBytes 0
      destAddrTon := ← indexed destAddrTonBytes 0
      destAddrNpi := ← indexed destAddrNpiBytes 0
      esmClass := ← indexed esmClassBytes 0
      protocolId := ← indexed protocolIdBytes 0
      priorityFlag := ← indexed priorityFlagBytes 0
      registeredDelivery := ← indexed registeredDeliveryBytes 0
      replaceIfPresentFlag := ← indexed replaceIfPresentFlagBytes 0
      dataCoding := ← indexed dataCodingBytes 0
      smDefaultMsgId := ← indexed smDefaultMsgIdBytes 0 }

def DataFields.readIndexed : Indexing DataFields := do
  let serviceType ← nom parseCOctetStringNom
  let sourceAddrTonBytes ← nom (take 1)
  let sourceAddrNpiBytes ← nom (take 1)
  let sourceAddr ← nom parseCOctetStringNom
  let destAddrTonBytes ← nom (take 1)
  let destAddrNpiBytes ← nom (take 1)
  let destinationAddr ← nom parseCOctetStringNom
  let esmClassBytes ← nom (take 1)
  let registeredDeliveryBytes ← nom (take 1)
  let dataCodingBytes ← nom (take 1)
  pure
    { serviceType, sourceAddr, destinationAddr
      sourceAddrTon := ← indexed sourceAddrTonBytes 0
      sourceAddrNpi := ← indexed sourceAddrNpiBytes 0
      destAddrTon := ← indexed destAddrTonBytes 0
      destAddrNpi := ← indexed destAddrNpiBytes 0
      esmClass := ← indexed esmClassBytes 0
      registeredDelivery := ← indexed registeredDeliveryBytes 0
      dataCoding := ← indexed dataCodingBytes 0 }

def QueryFields.readIndexed : Indexing QueryFields := do
  let messageId ← nom parseCOctetStringNom
  let sourceAddrTonBytes ← nom (take 1)
  let sourceAddrNpiBytes ← nom (take 1)
  let sourceAddr ← nom parseCOctetStringNom
  pure
    { messageId, sourceAddr
      sourceAddrTon := ← indexed sourceAddrTonBytes 0
      sourceAddrNpi := ← indexed sourceAddrNpiBytes 0 }

def ReplaceFields.readIndexed : Indexing ReplaceFields := do
  let messageId ← nom parseCOctetStringNom
  let sourceAddrTonBytes ← nom (take 1)
  let sourceAddrNpiBytes ← nom (take 1)
  let sourceAddr ← nom parseCOctetStringNom
  let scheduleDeliveryTime ← nom parseCOctetStringNom
  let validityPeriod ← nom parseCOctetStringNom
  let registeredDeliveryBytes ← nom (take 1)
  let smDefaultMsgIdBytes ← nom (take 1)
  let smLengthBytes ← nom (take 1)
  let smLength ← indexed smLengthBytes 0
  let shortMessage ← nom (take smLength.toNat)
  pure
    { messageId, sourceAddr, scheduleDeliveryTime, validityPeriod, smLength, shortMessage
      sourceAddrTon := ← indexed sourceAddrTonBytes 0
      sourceAddrNpi := ← indexed sourceAddrNpiBytes 0
      registeredDelivery := ← indexed registeredDeliveryBytes 0
      smDefaultMsgId := ← indexed smDefaultMsgIdBytes 0 }

def BindFields.readIndexed : Indexing BindFields := do
  let systemId ← nom parseCOctetStringNom
  let password ← nom parseCOctetStringNom
  let systemType ← nom parseCOctetStringNom
  let interfaceVersionBytes ← nom (take 1)
  let addrTonBytes ← nom (take 1)
  let addrNpiBytes ← nom (take 1)
  let addressRange ← nom parseCOctetStringNom
  pure
    { systemId, password, systemType, addressRange
      interfaceVersion := ← indexed interfaceVersionBytes 0
      addrTon := ← indexed addrTonBytes 0
      addrNpi := ← indexed addrNpiBytes 0 }

theorem MessageFields.readIndexed_eq : MessageFields.readIndexed = nom MessageFields.read := by
  simp only [MessageFields.readIndexed, MessageFields.read, nom_bind, nom_pure, nom_take_one,
    indexed_singleton, pure_bind]

theorem DataFields.readIndexed_eq : DataFields.readIndexed = nom DataFields.read := by
  simp only [DataFields.readIndexed, DataFields.read, nom_bind, nom_pure, nom_take_one,
    indexed_singleton, pure_bind]

theorem QueryFields.readIndexed_eq : QueryFields.readIndexed = nom QueryFields.read := by
  simp only [QueryFields.readIndexed, QueryFields.read, nom_bind, nom_pure, nom_take_one,
    indexed_singleton, pure_bind]

theorem ReplaceFields.readIndexed_eq : ReplaceFields.readIndexed = nom ReplaceFields.read := by
  simp only [ReplaceFields.readIndexed, ReplaceFields.read, nom_bind, nom_pure, nom_take_one,
    indexed_singleton, pure_bind]

theorem BindFields.readIndexed_eq : BindFields.readIndexed = nom BindFields.read := by
  simp only [BindFields.readIndexed, BindFields.read, nom_bind, nom_pure, nom_take_one,
    indexed_singleton, pure_bind]

end Fields

section Parameters

def parseSingleTlvIndexed : Indexing Tlv := do
  let tagBytes ← nom (take 2)
  let lengthBytes ← nom (take 2)
  let tag := ofBe16 (← indexed tagBytes 0) (← indexed tagBytes 1)
  let length := ofBe16 (← indexed lengthBytes 0) (← indexed lengthBytes 1)
  let value ← nom (take length.toNat)
  pure ⟨tag, value⟩

def decodeTlvsIndexedFrom : Nat → Bytes → Decoded (List Tlv)
  | 0, _ => .ok []
  | fuel + 1, input =>
    if 4 ≤ input.length then
      match parseSingleTlvIndexed input with
      | .ok (tlv, remaining) => do
        let tlvs ← decodeTlvsIndexedFrom fuel remaining
        pure (tlv :: tlvs)
      | .error .panic => .error .panic
      | .error (.error _) => .ok []
    else .ok []

def decodeTlvsIndexed (input : Bytes) : Decoded (List Tlv) :=
  decodeTlvsIndexedFrom input.length input

def Tlv.asU8Indexed (tlv : Tlv) : Decoded (Option UInt8) :=
  if tlv.value.length = 1 then do
    let value ← index tlv.value 0
    pure (some value)
  else .ok none

def getU8Indexed (tlvs : List Tlv) (tag : TlvTag) : Decoded (Option UInt8) :=
  match getTlv tlvs tag with
  | some tlv => tlv.asU8Indexed
  | none => .ok none

theorem parseSingleTlvIndexed_eq : parseSingleTlvIndexed = nom parseSingleTlv := by
  funext input
  match input with
  | [] => rfl
  | [_] => rfl
  | [_, _] => rfl
  | [_, _, _] => rfl
  | a :: b :: c :: d :: rest =>
    simp only [parseSingleTlv, nom_bind, nom_pure]
    rfl

theorem decodeTlvsIndexedFrom_eq (fuel : Nat) (input : Bytes) :
    decodeTlvsIndexedFrom fuel input = .ok (decodeTlvsFrom fuel input) := by
  induction fuel generalizing input with
  | zero => rfl
  | succ fuel ih =>
    rw [decodeTlvsIndexedFrom, decodeTlvsFrom, parseSingleTlvIndexed_eq]
    by_cases long : 4 ≤ input.length
    · rw [if_pos long, if_pos long, nom, readBody]
      cases parseSingleTlv input with
      | none => rfl
      | some result =>
        obtain ⟨tlv, remaining⟩ := result
        simp only [ih]
        rfl
    · rw [if_neg long, if_neg long]

theorem decodeTlvsIndexed_eq (input : Bytes) :
    decodeTlvsIndexed input = .ok (decodeTlvs input) :=
  decodeTlvsIndexedFrom_eq input.length input

theorem Tlv.asU8Indexed_eq (tlv : Tlv) : tlv.asU8Indexed = .ok tlv.asU8 := by
  obtain ⟨tag, value⟩ := tlv
  match value with
  | [] => rfl
  | [_] => rfl
  | _ :: _ :: rest =>
    rw [asU8Indexed, if_neg (by simp)]
    rfl

theorem getU8Indexed_eq (tlvs : List Tlv) (tag : TlvTag) :
    getU8Indexed tlvs tag = .ok ((getTlv tlvs tag).bind Tlv.asU8) := by
  rw [getU8Indexed]
  cases getTlv tlvs tag with
  | none => rfl
  | some tlv => exact tlv.asU8Indexed_eq

end Parameters

section Decoders

variable (header : CommandHeader) (pdu : Bytes)

def wordAt (low high : Nat) : Decoded UInt32 := do
  match ← slice pdu low high with
  | [a, b, c, d] => pure (ofBe32 a b c d)
  | _ => .error (.error .ESME_RINVCMDLEN)

def CommandHeader.decodeIndexed : Decoded CommandHeader :=
  if pdu.length < 16 then .error (.error .ESME_RINVCMDLEN)
  else do
    let header : CommandHeader :=
      ⟨← wordAt pdu 0 4, ← wordAt pdu 4 8, ← wordAt pdu 8 12, ← wordAt pdu 12 16⟩
    if pdu.length ≠ header.commandLength.toNat then .error (.error .ESME_RINVMSGLEN)
    else .ok header

def parseCOctetStringIndexed (bytes : Bytes) (maximumLength : Nat) : Decoded Str :=
  match bytes.findIdx? fun r => r = 0x00 with
  | some index =>
    if index ≤ maximumLength then do
      match Str.fromUtf8 (← slice bytes 0 index) with
      | some string => .ok string
      | none => .error (.error .ESME_RINVPARLEN)
    else .error (.error .ESME_RINVPARLEN)
  | none => .error (.error .ESME_RINVPARLEN)

def SubmitSm.decodeIndexed : Decoded SubmitSm := do
  let input ← checkedBodyOf pdu
  let (fields, input) ← MessageFields.readIndexed input
  pure { fields with header, tlvs := ← decodeTlvsIndexed input }

def DeliverSm.decodeIndexed : Decoded DeliverSm := do
  let input ← checkedBodyOf pdu
  let (fields, input) ← MessageFields.readIndexed input
  pure { fields with header, tlvs := ← decodeTlvsIndexed input }

def SubmitSmMulti.decodeIndexed : Decoded SubmitSmMulti := do
  let input ← bodyOf pdu
  let (fields, input) ← readBody MultiFields.read input
  pure { fields with header, tlvs := ← decodeTlvsIndexed input }

def DataSm.decodeIndexed : Decoded DataSm := do
  let input ← checkedBodyOf pdu
  let (fields, input) ← DataFields.readIndexed input
  pure { fields with header, tlvs := ← decodeTlvsIndexed input }

def DataSmResp.decodeIndexed : Decoded DataSmResp :=
  if header.commandStatus ≠ SmppError.ESME_ROK.code then do
    pure ⟨header, none, ← decodeTlvsIndexed (pdu.drop 16)⟩
  else if pdu.length > 16 then do
    let input ← bodyOf pdu
    let (messageId, input) ← readBody parseCOctetStringNom input
    pure ⟨header, some messageId, ← decodeTlvsIndexed input⟩
  else .ok ⟨header, none, []⟩

def QuerySm.decodeIndexed : Decoded QuerySm := do
  let input ← checkedBodyOf pdu
  let (fields, _) ← QueryFields.readIndexed input
  pure { fields with header }

def QuerySmResp.decodeIndexed : Decoded QuerySmResp :=
  if header.commandStatus ≠ SmppError.ESME_ROK.code then
    .ok ⟨header, Str.empty, Str.empty, 0, 0⟩
  else if pdu.length ≤ 16 then .error (.error .ESME_RINVPARLEN)
  else do
    let input ← bodyOf pdu
    let (messageId, input) ← readBody parseCOctetStringNom input
    let (finalDate, input) ← readBody parseCOctetStringNom input
    let (messageStateBytes, input) ← readBody (take 1) input
    let (errorCodeBytes, _) ← readBody (take 1) input
    pure ⟨header, messageId, finalDate, ← index messageStateBytes 0, ← index errorCodeBytes 0⟩

def ReplaceSm.decodeIndexed : Decoded ReplaceSm := do
  let input ← checkedBodyOf pdu
  let (fields, _) ← ReplaceFields.readIndexed input
  pure { fields with header }

def AlertNotification.readStatusIndexed (pdu : Bytes) : Decoded (Option UInt8) :=
  match pdu with
  | [] => .ok none
  | [status] => .ok (some status)
  | _ => do
    let tlvs ← decodeTlvsIndexed pdu
    let status ← getU8Indexed tlvs .msAvailabilityStatus
    let _ ← slice pdu pdu.length pdu.length
    pure status

def AlertNotification.decodeIndexed : Decoded AlertNotification := do
  let input ← checkedBodyOf pdu
  let (fields, input) ← readBody AlertFields.parse input
  pure { fields with header, msAvailabilityStatus := ← readStatusIndexed input }

def BindRequest.decodeIndexed (kind : BindKind) : Decoded (BindRequest kind) := do
  let input ← checkedBodyOf pdu
  let (fields, _) ← BindFields.readIndexed input
  pure { fields with header }

def BindResp.decodeIndexed (kind : BindKind) : Decoded (BindResp kind) :=
  if header.commandStatus ≠ SmppError.ESME_ROK.code then .ok ⟨header, none, none⟩
  else if pdu.length ≤ 16 then .error (.error .ESME_RINVPARLEN)
  else do
    let input ← bodyOf pdu
    let (systemId, input) ← readBody parseCOctetStringNom input
    let scInterfaceVersion ←
      if input = [] then pure none
      else do
        let tlvs ← decodeTlvsIndexed input
        getU8Indexed tlvs .scInterfaceVersion
    pure ⟨header, some systemId, scInterfaceVersion⟩

def Outbind.decodeIndexed : Decoded Outbind :=
  if header.commandId = CommandId.outbind.value then
    if 18 ≤ pdu.length then do
      let systemId ← parseCOctetStringIndexed (← slice pdu 16 pdu.length) 16
      let password ← parseCOctetStringIndexed (← slice pdu (16 + systemId.len + 1) pdu.length) 9
      pure ⟨header, systemId, password⟩
    else .error (.error .ESME_RINVPARLEN)
  else .error (.error .ESME_RINVCMDID)

variable {header pdu}

theorem wordAt_eq (low : Nat) (within : low + 4 ≤ pdu.length) :
    wordAt pdu low (low + 4) = .ok (beU32At pdu low) := by
  have remaining : 4 ≤ (pdu.drop low).length := by
    rw [List.length_drop]
    omega
  rw [wordAt, slice_in_range (by omega) within, List.drop_take, Nat.add_sub_cancel_left, beU32At]
  generalize pdu.drop low = rest at remaining
  rcases rest with - | ⟨a, - | ⟨b, - | ⟨c, - | ⟨d, rest⟩⟩⟩⟩
  · cases remaining
  · simp at remaining
  · simp at remaining
  · simp at remaining
  · rfl

theorem CommandHeader.decodeIndexed_eq :
    decodeIndexed pdu = (CommandHeader.decode pdu).mapError Fault.error := by
  rw [decodeIndexed, CommandHeader.decode]
  by_cases short : pdu.length < 16
  · rw [if_pos short, if_pos short]
    rfl
  · rw [if_neg short, if_neg short, ok_bind (wordAt_eq 0 (by omega)),
      ok_bind (wordAt_eq 4 (by omega)), ok_bind (wordAt_eq 8 (by omega)),
      ok_bind (wordAt_eq 12 (by omega))]
    dsimp only
    split
    · rfl
    · rfl

theorem parseCOctetStringIndexed_eq (bytes : Bytes) (maximumLength : Nat) :
    parseCOctetStringIndexed bytes maximumLength = parseCOctetString bytes maximumLength := by
  rw [parseCOctetStringIndexed, parseCOctetString]
  cases found : bytes.findIdx? fun r => r = 0x00 with
  | none => rfl
  | some index =>
    have within : index < bytes.length := (List.findIdx?_eq_some_iff_getElem.mp found).1
    dsimp only
    rw [slice_in_range (Nat.zero_le index) (Nat.le_of_lt within), List.drop_zero]
    rfl

theorem SubmitSm.decodeIndexed_eq : decodeIndexed header pdu = decode header pdu := by
  simp only [decodeIndexed, decode, MessageFields.readIndexed_eq, decodeTlvsIndexed_eq]
  rfl

theorem DeliverSm.decodeIndexed_eq : decodeIndexed header pdu = decode header pdu := by
  simp only [decodeIndexed, decode, MessageFields.readIndexed_eq, decodeTlvsIndexed_eq]
  rfl

theorem SubmitSmMulti.decodeIndexed_eq : decodeIndexed header pdu = decode header pdu := by
  simp only [decodeIndexed, decode, decodeTlvsIndexed_eq]
  rfl

theorem DataSm.decodeIndexed_eq : decodeIndexed header pdu = decode header pdu := by
  simp only [decodeIndexed, decode, DataFields.readIndexed_eq, decodeTlvsIndexed_eq]
  rfl

theorem DataSmResp.decodeIndexed_eq : decodeIndexed header pdu = decode header pdu := by
  simp only [decodeIndexed, decode, decodeTlvsIndexed_eq]
  rfl

theorem QuerySm.decodeIndexed_eq : decodeIndexed header pdu = decode header pdu := by
  simp only [decodeIndexed, decode, QueryFields.readIndexed_eq]
  rfl

theorem ReplaceSm.decodeIndexed_eq : decodeIndexed header pdu = decode header pdu := by
  simp only [decodeIndexed, decode, ReplaceFields.readIndexed_eq]
  rfl

theorem BindRequest.decodeIndexed_eq {kind : BindKind} :
    decodeIndexed header pdu kind = decode kind header pdu := by
  simp only [decodeIndexed, decode, BindFields.readIndexed_eq]
  rfl

theorem AlertNotification.readStatusIndexed_eq :
    readStatusIndexed pdu = .ok (readStatus pdu) := by
  match pdu with
  | [] => rfl
  | [_] => rfl
  | a :: b :: rest =>
    have nothing := slice_in_range (Nat.le_refl _) (Nat.le_refl (a :: b :: rest).length)
    rw [readStatusIndexed, ok_bind (decodeTlvsIndexed_eq _), ok_bind (getU8Indexed_eq _ _),
      ok_bind nothing]
    · rfl
    · simp
    · simp

theorem AlertNotification.decodeIndexed_eq : decodeIndexed header pdu = decode header pdu := by
  simp only [decodeIndexed, decode, readStatusIndexed_eq]
  rfl

theorem BindResp.decodeIndexed_eq {kind : BindKind} :
    decodeIndexed header pdu kind = decode kind header pdu := by
  simp only [decodeIndexed, decode, ok_bind (decodeTlvsIndexed_eq _), getU8Indexed_eq]
  congr 3
  funext input
  congr 1
  funext result
  obtain ⟨systemId, rest⟩ := result
  dsimp only
  split
  · rfl
  · rfl

theorem QuerySmResp.decodeIndexed_eq : decodeIndexed header pdu = decode header pdu := by
  simp only [decodeIndexed, decode, readBody_take_one]
  rfl

theorem Outbind.decodeIndexed_eq : decodeIndexed header pdu = decode header pdu := by
  simp only [decodeIndexed, decode, slice_from, parseCOctetStringIndexed_eq]
  rfl

end Decoders

section Panics

variable {header : CommandHeader} {pdu : Bytes}

theorem ok_ne_panic {α : Type} (value : α) : (.ok value : Decoded α) ≠ .error .panic := by
  simp

theorem mapError_ne_panic {α : Type} (result : Except SmppError α) :
    result.mapError Fault.error ≠ .error .panic := by
  cases result <;> simp [Except.mapError]

theorem SubmitSm.decode_ne_panic : decode header pdu ≠ .error .panic :=
  bind_ne_panic (checkedBodyOf_ne_panic pdu) fun _ =>
    bind_ne_panic (readBody_ne_panic _ _) fun _ => ok_ne_panic _

theorem DeliverSm.decode_ne_panic : decode header pdu ≠ .error .panic :=
  bind_ne_panic (checkedBodyOf_ne_panic pdu) fun _ =>
    bind_ne_panic (readBody_ne_panic _ _) fun _ => ok_ne_panic _

theorem DataSm.decode_ne_panic : decode header pdu ≠ .error .panic :=
  bind_ne_panic (checkedBodyOf_ne_panic pdu) fun _ =>
    bind_ne_panic (readBody_ne_panic _ _) fun _ => ok_ne_panic _

theorem CancelSm.decode_ne_panic : decode header pdu ≠ .error .panic :=
  bind_ne_panic (readBody_ne_panic _ _) fun _ => ok_ne_panic _

theorem QuerySm.decode_ne_panic : decode header pdu ≠ .error .panic :=
  bind_ne_panic (checkedBodyOf_ne_panic pdu) fun _ =>
    bind_ne_panic (readBody_ne_panic _ _) fun _ => ok_ne_panic _

theorem ReplaceSm.decode_ne_panic : decode header pdu ≠ .error .panic :=
  bind_ne_panic (checkedBodyOf_ne_panic pdu) fun _ =>
    bind_ne_panic (readBody_ne_panic _ _) fun _ => ok_ne_panic _

theorem AlertNotification.decode_ne_panic : decode header pdu ≠ .error .panic :=
  bind_ne_panic (checkedBodyOf_ne_panic pdu) fun _ =>
    bind_ne_panic (readBody_ne_panic _ _) fun _ => ok_ne_panic _

theorem BindRequest.decode_ne_panic {kind : BindKind} :
    decode kind header pdu ≠ .error .panic :=
  bind_ne_panic (checkedBodyOf_ne_panic pdu) fun _ =>
    bind_ne_panic (readBody_ne_panic _ _) fun _ => ok_ne_panic _

theorem decodeBare_ne_panic {id : CommandId} : decodeBare id header pdu ≠ .error .panic := by
  rw [decodeBare]
  split_ifs <;> simp

theorem bodyOf_bind_ne_panic_iff {α : Type} {next : Bytes → Decoded α}
    (safe : ∀ input, next input ≠ .error .panic) :
    (bodyOf pdu >>= next) ≠ .error .panic ↔ 16 ≤ pdu.length := by
  constructor
  · intro returned
    by_contra short
    rw [bodyOf, if_neg short] at returned
    exact returned rfl
  · intro long
    exact bind_ne_panic (bodyOf_ne_panic long) safe

theorem SubmitSmMulti.decode_ne_panic_iff :
    decode header pdu ≠ .error .panic ↔ 16 ≤ pdu.length :=
  bodyOf_bind_ne_panic_iff fun _ => bind_ne_panic (readBody_ne_panic _ _) fun _ => ok_ne_panic _

theorem SubmitSmResp.decode_ne_panic_iff :
    decode header pdu ≠ .error .panic ↔
      (header.commandStatus = SmppError.ESME_ROK.code → 16 ≤ pdu.length) := by
  rw [decode]
  by_cases success : header.commandStatus = SmppError.ESME_ROK.code
  · rw [if_neg (not_not.mpr success)]
    simp only [success, forall_const]
    exact bodyOf_bind_ne_panic_iff fun _ => bind_ne_panic (readBody_ne_panic _ _) fun _ => ok_ne_panic _
  · rw [if_pos success]
    simp [success]

theorem SubmitSmMultiResp.decode_ne_panic_iff :
    decode header pdu ≠ .error .panic ↔
      (header.commandStatus = SmppError.ESME_ROK.code → 16 ≤ pdu.length) := by
  rw [decode]
  by_cases success : header.commandStatus = SmppError.ESME_ROK.code
  · rw [if_neg (not_not.mpr success)]
    simp only [success, forall_const]
    refine bodyOf_bind_ne_panic_iff fun _ => ?_
    refine bind_ne_panic (readBody_ne_panic _ _) fun _ => ?_
    refine bind_ne_panic (readBody_ne_panic _ _) fun _ => ?_
    exact bind_ne_panic (readBody_ne_panic _ _) fun _ => ok_ne_panic _
  · rw [if_pos success]
    simp [success]

theorem DeliverSmResp.decode_ne_panic : decode header pdu ≠ .error .panic := by
  rw [decode]
  split
  · simp
  · split
    · exact bind_ne_panic (bodyOf_ne_panic (by omega)) fun _ =>
        bind_ne_panic (readBody_ne_panic _ _) fun _ => ok_ne_panic _
    · simp

theorem DataSmResp.decode_ne_panic : decode header pdu ≠ .error .panic := by
  rw [decode]
  split
  · simp
  · split
    · exact bind_ne_panic (bodyOf_ne_panic (by omega)) fun _ =>
        bind_ne_panic (readBody_ne_panic _ _) fun _ => ok_ne_panic _
    · simp

theorem QuerySmResp.decode_ne_panic : decode header pdu ≠ .error .panic := by
  rw [decode]
  split
  · simp
  · split
    · simp
    · refine bind_ne_panic (bodyOf_ne_panic (by omega)) fun _ => ?_
      refine bind_ne_panic (readBody_ne_panic _ _) fun _ => ?_
      refine bind_ne_panic (readBody_ne_panic _ _) fun _ => ?_
      refine bind_ne_panic (readBody_ne_panic _ _) fun _ => ?_
      exact bind_ne_panic (readBody_ne_panic _ _) fun _ => ok_ne_panic _

theorem BindResp.decode_ne_panic {kind : BindKind} :
    decode kind header pdu ≠ .error .panic := by
  rw [decode]
  split
  · simp
  · split
    · simp
    · exact bind_ne_panic (bodyOf_ne_panic (by omega)) fun _ =>
        bind_ne_panic (readBody_ne_panic _ _) fun _ => ok_ne_panic _

theorem parseCOctetString_ne_panic (bytes : Bytes) (maximumLength : Nat) :
    parseCOctetString bytes maximumLength ≠ .error .panic := by
  rw [parseCOctetString]
  cases bytes.findIdx? fun r => r = 0x00 with
  | none => simp
  | some index =>
    dsimp only
    split
    · cases Str.fromUtf8 (bytes.take index) with
      | none => simp
      | some string => simp
    · simp

theorem parseCOctetString_len {bytes : Bytes} {maximumLength : Nat} {string : Str}
    (parsed : parseCOctetString bytes maximumLength = .ok string) :
    string.len < bytes.length := by
  rw [parseCOctetString] at parsed
  cases found : bytes.findIdx? fun r => r = 0x00 with
  | none =>
    rw [found] at parsed
    cases parsed
  | some index =>
    have within : index < bytes.length := (List.findIdx?_eq_some_iff_getElem.mp found).1
    rw [found] at parsed
    dsimp only at parsed
    split at parsed
    · cases whole : Str.fromUtf8 (bytes.take index) with
      | none =>
        rw [whole] at parsed
        cases parsed
      | some found =>
        rw [whole] at parsed
        cases parsed
        rw [Str.fromUtf8] at whole
        split at whole
        · cases whole
          change (bytes.take index).length < bytes.length
          rw [List.length_take]
          omega
        · cases whole
    · cases parsed

theorem Outbind.decode_ne_panic : decode header pdu ≠ .error .panic := by
  rw [decode]
  split
  · split
    · rename_i long
      have body : bodyOf pdu = .ok (pdu.drop 16) := by
        rw [bodyOf, if_pos (by omega)]
      have first := parseCOctetString_ne_panic (pdu.drop 16) 16
      rw [ok_bind body]
      cases parsed : parseCOctetString (pdu.drop 16) 16 with
      | error fault =>
        rw [parsed] at first
        intro panicked
        cases panicked
        exact first rfl
      | ok systemId =>
        have inside := parseCOctetString_len parsed
        rw [List.length_drop] at inside
        have after : afterSystemId pdu systemId = .ok (pdu.drop (16 + systemId.len + 1)) := by
          rw [afterSystemId, if_pos (by omega)]
        rw [ok_bind rfl, ok_bind after]
        exact bind_ne_panic (parseCOctetString_ne_panic _ _) fun _ => ok_ne_panic _
    · simp
  · simp

end Panics

inductive Decoder where
  | commandHeader
  | submitSm
  | submitSmResp
  | submitSmMulti
  | submitSmMultiResp
  | deliverSm
  | deliverSmResp
  | dataSm
  | dataSmResp
  | cancelSm
  | cancelSmResp
  | querySm
  | querySmResp
  | replaceSm
  | replaceSmResp
  | alertNotification
  | outbind
  | genericNack
  | unbindResp
  | enquireLink
  | bind (kind : BindKind)
  | bindResp (kind : BindKind)
  | tlvs
deriving DecidableEq

namespace Decoder

def Output : Decoder → Type
  | commandHeader => CommandHeader
  | submitSm => SubmitSm
  | submitSmResp => SubmitSmResp
  | submitSmMulti => SubmitSmMulti
  | submitSmMultiResp => SubmitSmMultiResp
  | deliverSm => DeliverSm
  | deliverSmResp => DeliverSmResp
  | dataSm => DataSm
  | dataSmResp => DataSmResp
  | cancelSm => CancelSm
  | cancelSmResp => CancelSmResp
  | querySm => QuerySm
  | querySmResp => QuerySmResp
  | replaceSm => ReplaceSm
  | replaceSmResp => ReplaceSmResp
  | alertNotification => AlertNotification
  | outbind => Outbind
  | genericNack => GenericNack
  | unbindResp => UnbindResp
  | enquireLink => EnquireLink
  | bind kind => BindRequest kind
  | bindResp kind => BindResp kind
  | tlvs => List Tlv

def decode : (decoder : Decoder) → CommandHeader → Bytes → Decoded decoder.Output
  | commandHeader, _, pdu => CommandHeader.decodeIndexed pdu
  | submitSm, header, pdu => SubmitSm.decodeIndexed header pdu
  | submitSmResp, header, pdu => SubmitSmResp.decode header pdu
  | submitSmMulti, header, pdu => SubmitSmMulti.decodeIndexed header pdu
  | submitSmMultiResp, header, pdu => SubmitSmMultiResp.decode header pdu
  | deliverSm, header, pdu => DeliverSm.decodeIndexed header pdu
  | deliverSmResp, header, pdu => DeliverSmResp.decode header pdu
  | dataSm, header, pdu => DataSm.decodeIndexed header pdu
  | dataSmResp, header, pdu => DataSmResp.decodeIndexed header pdu
  | cancelSm, header, pdu => CancelSm.decode header pdu
  | cancelSmResp, header, pdu => CancelSmResp.decode header pdu
  | querySm, header, pdu => QuerySm.decodeIndexed header pdu
  | querySmResp, header, pdu => QuerySmResp.decodeIndexed header pdu
  | replaceSm, header, pdu => ReplaceSm.decodeIndexed header pdu
  | replaceSmResp, header, pdu => ReplaceSmResp.decode header pdu
  | alertNotification, header, pdu => AlertNotification.decodeIndexed header pdu
  | outbind, header, pdu => Outbind.decodeIndexed header pdu
  | genericNack, header, pdu => GenericNack.decode header pdu
  | unbindResp, header, pdu => UnbindResp.decode header pdu
  | enquireLink, header, pdu => EnquireLink.decode header pdu
  | bind kind, header, pdu => BindRequest.decodeIndexed header pdu kind
  | bindResp kind, header, pdu => BindResp.decodeIndexed header pdu kind
  | tlvs, _, pdu => decodeTlvsIndexed pdu

/-- The decoders that slice off the header before any look at the length, and when they do. -/
def Unguarded (header : CommandHeader) : Decoder → Prop
  | submitSmMulti => True
  | submitSmResp => header.commandStatus = SmppError.ESME_ROK.code
  | submitSmMultiResp => header.commandStatus = SmppError.ESME_ROK.code
  | _ => False

end Decoder

/-- The caller gets a value or an error. -/
def Returns {α : Type} (result : Decoded α) : Prop :=
  (∃ value, result = .ok value) ∨ ∃ error, result = .error (.error error)

theorem returns_iff {α : Type} (result : Decoded α) : Returns result ↔ result ≠ .error .panic := by
  rw [Returns]
  rcases result with fault | value
  · cases fault <;> simp
  · simp

/-- A decoder that checks before it slices returns on every input. -/
theorem returns_of_safe {decoder : Decoder} {header : CommandHeader} {pdu : Bytes}
    {result : Decoded decoder.Output} (same : decoder.decode header pdu = result)
    (safe : result ≠ .error .panic) (guarded : decoder.Unguarded header → False) :
    Returns (decoder.decode header pdu) ↔ (decoder.Unguarded header → 16 ≤ pdu.length) := by
  rw [returns_iff, same]
  exact iff_of_true safe fun unguarded => (guarded unguarded).elim

theorem decoder_returns_iff (decoder : Decoder) (header : CommandHeader) (pdu : Bytes) :
    Returns (decoder.decode header pdu) ↔ (decoder.Unguarded header → 16 ≤ pdu.length) := by
  have bare {id : CommandId} : decodeBare id header pdu ≠ .error .panic := decodeBare_ne_panic
  cases decoder with
  | submitSmMulti =>
    rw [returns_iff, Decoder.decode, SubmitSmMulti.decodeIndexed_eq]
    simp only [Decoder.Unguarded, forall_const]
    exact SubmitSmMulti.decode_ne_panic_iff
  | submitSmResp => exact (returns_iff _).trans SubmitSmResp.decode_ne_panic_iff
  | submitSmMultiResp => exact (returns_iff _).trans SubmitSmMultiResp.decode_ne_panic_iff
  | commandHeader =>
    exact returns_of_safe CommandHeader.decodeIndexed_eq (mapError_ne_panic _) id
  | submitSm => exact returns_of_safe SubmitSm.decodeIndexed_eq SubmitSm.decode_ne_panic id
  | deliverSm => exact returns_of_safe DeliverSm.decodeIndexed_eq DeliverSm.decode_ne_panic id
  | deliverSmResp => exact returns_of_safe rfl DeliverSmResp.decode_ne_panic id
  | dataSm => exact returns_of_safe DataSm.decodeIndexed_eq DataSm.decode_ne_panic id
  | dataSmResp => exact returns_of_safe DataSmResp.decodeIndexed_eq DataSmResp.decode_ne_panic id
  | cancelSm => exact returns_of_safe rfl CancelSm.decode_ne_panic id
  | cancelSmResp => exact returns_of_safe rfl (ok_ne_panic _) id
  | querySm => exact returns_of_safe QuerySm.decodeIndexed_eq QuerySm.decode_ne_panic id
  | querySmResp =>
    exact returns_of_safe QuerySmResp.decodeIndexed_eq QuerySmResp.decode_ne_panic id
  | replaceSm => exact returns_of_safe ReplaceSm.decodeIndexed_eq ReplaceSm.decode_ne_panic id
  | replaceSmResp => exact returns_of_safe rfl (ok_ne_panic _) id
  | alertNotification =>
    exact returns_of_safe AlertNotification.decodeIndexed_eq AlertNotification.decode_ne_panic id
  | outbind => exact returns_of_safe Outbind.decodeIndexed_eq Outbind.decode_ne_panic id
  | genericNack => exact returns_of_safe rfl (bind_ne_panic bare fun _ => ok_ne_panic _) id
  | unbindResp => exact returns_of_safe rfl (bind_ne_panic bare fun _ => ok_ne_panic _) id
  | enquireLink => exact returns_of_safe rfl (bind_ne_panic bare fun _ => ok_ne_panic _) id
  | bind kind => exact returns_of_safe BindRequest.decodeIndexed_eq BindRequest.decode_ne_panic id
  | bindResp kind => exact returns_of_safe BindResp.decodeIndexed_eq BindResp.decode_ne_panic id
  | tlvs => exact returns_of_safe (decodeTlvsIndexed_eq pdu) (ok_ne_panic _) id

theorem empty_submit_sm_multi_panics :
    ¬ Returns (Decoder.submitSmMulti.decode
      ⟨16, CommandId.submitMulti.value, SmppError.ESME_ROK.code, 1⟩ []) := by
  rw [returns_iff, not_not]
  rfl

end Smpp34
