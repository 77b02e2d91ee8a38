import Smpp34.Codec.Laid

namespace Smpp34

open Octets
open Parse
open Utf8 (Str)

inductive Carrier where
  | submitSm
  | deliverSm
  | dataSm
  | querySm
  | replaceSm
deriving DecidableEq

def Carrier.place : Carrier → Argument → Option Nat
  | submitSm | deliverSm => MessageFields.place
  | dataSm => DataFields.place
  | querySm => QueryFields.place
  | replaceSm => ReplaceFields.place

/-- The string is the last field of the body. -/
def Carrier.Closes (carrier : Carrier) (arg : Argument) : Prop :=
  carrier = .querySm ∧ arg = .sourceAddr

instance (carrier : Carrier) (arg : Argument) : Decidable (carrier.Closes arg) :=
  inferInstanceAs (Decidable (_ ∧ _))

def Carrier.commandId : Carrier → CommandId
  | submitSm => .submitSm
  | deliverSm => .deliverSm
  | dataSm => .dataSm
  | querySm => .querySm
  | replaceSm => .replaceSm

namespace Request

def carrier : Request → Option Carrier
  | submitSm _ => some .submitSm
  | deliverSm _ => some .deliverSm
  | dataSm _ => some .dataSm
  | querySm _ => some .querySm
  | replaceSm _ => some .replaceSm
  | _ => none

def get (arg : Argument) : Request → Str
  | submitSm pdu => pdu.toMessageFields.get arg
  | deliverSm pdu => pdu.toMessageFields.get arg
  | dataSm pdu => pdu.toDataFields.get arg
  | querySm pdu => pdu.toQueryFields.get arg
  | replaceSm pdu => pdu.toReplaceFields.get arg
  | _ => Str.empty

def put (arg : Argument) (s : Str) : Request → Request
  | submitSm pdu => submitSm { pdu with toMessageFields := pdu.toMessageFields.put arg s }
  | deliverSm pdu => deliverSm { pdu with toMessageFields := pdu.toMessageFields.put arg s }
  | dataSm pdu => dataSm { pdu with toDataFields := pdu.toDataFields.put arg s }
  | querySm pdu => querySm { pdu with toQueryFields := pdu.toQueryFields.put arg s }
  | replaceSm pdu => replaceSm { pdu with toReplaceFields := pdu.toReplaceFields.put arg s }
  | request => request

def masked (arg : Argument) (request : Request) : Request :=
  (request.put arg Str.empty).withHeader { request.header with commandLength := 0 }

/-- Every field but the one string is the same, the length aside. -/
def SameBut (arg : Argument) (request other : Request) : Prop :=
  request.masked arg = other.masked arg

/-- What the peer decodes from the encoded request. -/
def PeerReads (request decoded : Request) : Prop :=
  ∃ bytes header, request.encode = some bytes ∧ CommandHeader.decode bytes = .ok header ∧
    request.decodeAs header bytes = .ok decoded

theorem masked_carrier (arg : Argument) (request : Request) :
    (request.masked arg).carrier = request.carrier := by
  cases request <;> rfl

end Request

/-- A request as its mandatory fields under a header, with parameters where it takes any. -/
structure Carrying (Fields : Type) where
  kind : Carrier
  laid : Laid Fields
  sample : laid.Sample
  wrap : Fields → CommandHeader → List Tlv → Request
  tail : List Tlv → Bytes
  trailing : Bytes → List Tlv
  place : kind.place = laid.place
  wraps : ∀ request, request.carrier = some kind →
    ∃ fields header tlvs, request = wrap fields header tlvs
  carried : ∀ fields header tlvs, (wrap fields header tlvs).carrier = some kind
  get : ∀ arg fields header tlvs, (wrap fields header tlvs).get arg = laid.get arg fields
  masked : ∀ arg fields header tlvs, (wrap fields header tlvs).masked arg =
    wrap (laid.put arg Str.empty fields) { header with commandLength := 0 } tlvs
  parts : ∀ fields header tlvs others head more, wrap fields header tlvs = wrap others head more →
    fields = others ∧ header = head ∧ tail tlvs = tail more
  encodes : ∀ fields header tlvs, ∃ written : CommandHeader, written.SamePdu header ∧
    (wrap fields header tlvs).encode = some (written.encode ++ (laid.encode fields ++ tail tlvs))
  decodes : ∀ fields header tlvs (head written : CommandHeader) body,
    (wrap fields header tlvs).decodeAs head (written.encode ++ body) =
      (readBody laid.read body).map fun (found, rest) => wrap found head (trailing rest)
  closing : ∀ arg i, laid.place arg = some i → laid.layout.length = i + 1 →
    ∀ rest more, trailing rest = trailing more
  ends : ∀ arg i, laid.place arg = some i →
    (laid.layout.length = i + 1 ↔ kind.Closes arg)
  made : ∀ arg v b s, ∃ header : CommandHeader, header.SamePdu ⟨0, kind.commandId.value, 0, 1⟩ ∧
    Built (wrap (laid.put arg v (sample.fields b s)) header [])
  short : ∀ arg v b s, s.len ≤ 1 →
    (laid.encode (laid.put arg v (sample.fields b s))).length + (tail []).length ≤ v.len + 300

theorem fullMessage_told : UInt8.ofNat fullMessage.length = 254 := by
  rw [fullMessage_length]
  rfl

theorem MessageFields.put_sample_length (arg : Argument) (v : Str) (b : UInt8) (s : Str)
    (one : s.len ≤ 1) :
    (encode (put arg v (sample.fields b s))).length + (encodeTlvs []).length ≤ v.len + 300 := by
  have total := encode_length (put arg v (sample.fields b s))
  have message := fullMessage_length
  have none : (encodeTlvs []).length = 0 := rfl
  cases arg <;> dsimp only [put, sample] at total ⊢ <;> omega

/-- submit_sm and deliver_sm are the same fields under another command. -/
inductive MessageKind where
  | submitSm
  | deliverSm

namespace MessageKind

def carrier : MessageKind → Carrier
  | submitSm => .submitSm
  | deliverSm => .deliverSm

def wrap (kind : MessageKind) (fields : MessageFields) (header : CommandHeader) (tlvs : List Tlv) :
    Request :=
  match kind with
  | submitSm => .submitSm { fields with header, tlvs }
  | deliverSm => .deliverSm { fields with header, tlvs }

theorem built_of (kind : MessageKind) (fields : MessageFields)
    (told : UInt8.ofNat fields.shortMessage.length = fields.smLength)
    (short : fields.shortMessage.length ≤ 254) :
    ∃ header : CommandHeader, header.SamePdu ⟨0, kind.carrier.commandId.value, 0, 1⟩ ∧
      Built (kind.wrap fields header []) := by
  refine ⟨⟨fields.messageCommandLength, kind.carrier.commandId.value, 0, 1⟩, ⟨rfl, rfl, rfl⟩, ?_⟩
  cases kind with
  | submitSm =>
    have made : SubmitSm.new 1 fields.serviceType fields.sourceAddrTon fields.sourceAddrNpi
        fields.sourceAddr fields.destAddrTon fields.destAddrNpi fields.destinationAddr
        fields.esmClass fields.protocolId fields.priorityFlag fields.scheduleDeliveryTime
        fields.validityPeriod fields.registeredDelivery fields.replaceIfPresentFlag
        fields.dataCoding fields.smDefaultMsgId fields.shortMessage =
        some { fields with
          header := ⟨fields.messageCommandLength, CommandId.submitSm.value, 0, 1⟩, tlvs := [] } := by
      rw [SubmitSm.new, if_pos short, told]
      rfl
    exact .submitSm [] made
  | deliverSm =>
    have made : DeliverSm.new 1 fields.serviceType fields.sourceAddrTon fields.sourceAddrNpi
        fields.sourceAddr fields.destAddrTon fields.destAddrNpi fields.destinationAddr
        fields.esmClass fields.protocolId fields.priorityFlag fields.scheduleDeliveryTime
        fields.validityPeriod fields.registeredDelivery fields.replaceIfPresentFlag
        fields.dataCoding fields.smDefaultMsgId fields.shortMessage =
        some { fields with
          header := ⟨fields.messageCommandLength, CommandId.deliverSm.value, 0, 1⟩, tlvs := [] } := by
      rw [DeliverSm.new, if_pos short, told]
      rfl
    exact .deliverSm [] made

theorem wraps (kind : MessageKind) (request : Request) (same : request.carrier = some kind.carrier) :
    ∃ fields header tlvs, request = kind.wrap fields header tlvs := by
  cases kind with
  | submitSm =>
    cases request with
    | submitSm pdu => exact ⟨pdu.toMessageFields, pdu.header, pdu.tlvs, rfl⟩
    | _ => cases same
  | deliverSm =>
    cases request with
    | deliverSm pdu => exact ⟨pdu.toMessageFields, pdu.header, pdu.tlvs, rfl⟩
    | _ => cases same

def carrying (kind : MessageKind) : Carrying MessageFields where
  kind := kind.carrier
  laid := MessageFields.laid
  sample := MessageFields.sample
  wrap := kind.wrap
  tail := encodeTlvs
  trailing := decodeTlvs
  place := by cases kind <;> rfl
  wraps := kind.wraps
  carried _ _ _ := by cases kind <;> rfl
  get _ _ _ _ := by cases kind <;> rfl
  masked _ _ _ _ := by cases kind <;> rfl
  parts fields header tlvs others head more same := by
    cases kind <;> cases same <;> exact ⟨rfl, rfl, rfl⟩
  encodes fields header tlvs := by
    refine ⟨{ header with
      commandLength := fields.messageCommandLength + UInt32.ofNat (tlvsEncodedLen tlvs) },
      ⟨rfl, rfl, rfl⟩, ?_⟩
    cases kind <;> rfl
  decodes fields header tlvs head written body := by
    have taken : checkedBodyOf (written.encode ++ body) = .ok body :=
      checkedBodyOf_append written.encode_length
    cases kind <;>
      simp only [wrap, Request.decodeAs, SubmitSm.decode, DeliverSm.decode, ok_bind taken] <;>
      change Except.map _ (readBody MessageFields.read body >>= _) =
        Except.map _ (readBody MessageFields.read body) <;>
      cases readBody MessageFields.read body <;> rfl
  closing arg i at_ size := by
    cases arg <;> cases at_ <;> cases size
  ends arg i at_ := by
    cases kind <;> cases arg <;> cases at_ <;> decide
  made arg v b s := by
    cases arg <;> exact kind.built_of _ fullMessage_told (Nat.le_of_eq fullMessage_length)
  short := MessageFields.put_sample_length

end MessageKind

theorem DataFields.put_sample_length (arg : Argument) (v : Str) (b : UInt8) (s : Str)
    (one : s.len ≤ 1) :
    (encode (put arg v (sample.fields b s))).length + (encodeTlvs []).length ≤ v.len + 300 := by
  have total := encode_length (put arg v (sample.fields b s))
  have none : (encodeTlvs []).length = 0 := rfl
  cases arg <;> dsimp only [put, sample] at total ⊢ <;> omega

def DataSm.carrying : Carrying DataFields where
  kind := .dataSm
  laid := DataFields.laid
  sample := DataFields.sample
  wrap fields header tlvs := .dataSm { fields with header, tlvs }
  tail := encodeTlvs
  trailing := decodeTlvs
  place := rfl
  wraps request same := by
    cases request with
    | dataSm pdu => exact ⟨pdu.toDataFields, pdu.header, pdu.tlvs, rfl⟩
    | _ => cases same
  carried _ _ _ := rfl
  get _ _ _ _ := rfl
  masked _ _ _ _ := rfl
  parts fields header tlvs others head more same := by
    cases same
    exact ⟨rfl, rfl, rfl⟩
  encodes fields header tlvs :=
    ⟨{ header with commandLength := fields.baseCommandLength + UInt32.ofNat (tlvsEncodedLen tlvs) },
      ⟨rfl, rfl, rfl⟩, rfl⟩
  decodes fields header tlvs head written body := by
    rw [Request.decodeAs, DataSm.decode, ok_bind (checkedBodyOf_append written.encode_length)]
    change Except.map _ (readBody DataFields.read body >>= _) =
      Except.map _ (readBody DataFields.read body)
    cases readBody DataFields.read body <;> rfl
  closing arg i at_ size := by
    cases arg <;> cases at_ <;> cases size
  ends arg i at_ := by
    cases arg <;> cases at_ <;> decide
  made arg v b s := by
    let fields := DataFields.put arg v (DataFields.sample.fields b s)
    exact ⟨⟨fields.baseCommandLength, _, 0, 1⟩, ⟨rfl, rfl, rfl⟩,
      .dataSm 1 fields.serviceType fields.sourceAddrTon fields.sourceAddrNpi fields.sourceAddr
        fields.destAddrTon fields.destAddrNpi fields.destinationAddr fields.esmClass
        fields.registeredDelivery fields.dataCoding []⟩
  short := DataFields.put_sample_length

theorem QueryFields.put_sample_length (arg : Argument) (v : Str) (b : UInt8) (s : Str)
    (one : s.len ≤ 1) : (encode (put arg v (sample.fields b s))).length + 0 ≤ v.len + 300 := by
  have total := encode_length (put arg v (sample.fields b s))
  cases arg <;> dsimp only [put, sample] at total ⊢ <;> omega

def QuerySm.carrying : Carrying QueryFields where
  kind := .querySm
  laid := QueryFields.laid
  sample := QueryFields.sample
  wrap fields header _ := .querySm { fields with header }
  tail _ := []
  trailing _ := []
  place := rfl
  wraps request same := by
    cases request with
    | querySm pdu => exact ⟨pdu.toQueryFields, pdu.header, [], rfl⟩
    | _ => cases same
  carried _ _ _ := rfl
  get _ _ _ _ := rfl
  masked _ _ _ _ := rfl
  parts fields header tlvs others head more same := by
    cases same
    exact ⟨rfl, rfl, rfl⟩
  encodes fields header tlvs := by
    refine ⟨header, ⟨rfl, rfl, rfl⟩, ?_⟩
    rw [List.append_nil]
    rfl
  decodes fields header tlvs head written body := by
    rw [Request.decodeAs, QuerySm.decode, ok_bind (checkedBodyOf_append written.encode_length)]
    change Except.map _ (readBody QueryFields.read body >>= _) =
      Except.map _ (readBody QueryFields.read body)
    cases readBody QueryFields.read body <;> rfl
  closing _ _ _ _ _ _ := rfl
  ends arg i at_ := by
    cases arg <;> cases at_ <;> decide
  made arg v b s := by
    let fields := QueryFields.put arg v (QueryFields.sample.fields b s)
    exact ⟨(QuerySm.new 1 fields.messageId fields.sourceAddrTon fields.sourceAddrNpi
      fields.sourceAddr).header, ⟨rfl, rfl, rfl⟩,
      .querySm 1 fields.messageId fields.sourceAddrTon fields.sourceAddrNpi fields.sourceAddr⟩
  short := QueryFields.put_sample_length

theorem ReplaceFields.put_sample_length (arg : Argument) (v : Str) (b : UInt8) (s : Str)
    (one : s.len ≤ 1) : (encode (put arg v (sample.fields b s))).length + 0 ≤ v.len + 300 := by
  have total := encode_length (put arg v (sample.fields b s))
  have message := fullMessage_length
  cases arg <;> dsimp only [put, sample] at total ⊢ <;> omega

theorem ReplaceSm.built_of (fields : ReplaceFields)
    (told : UInt8.ofNat fields.shortMessage.length = fields.smLength)
    (short : fields.shortMessage.length ≤ 254) :
    ∃ header : CommandHeader, header.SamePdu ⟨0, CommandId.replaceSm.value, 0, 1⟩ ∧
      Built (.replaceSm { fields with header }) := by
  have made : ∃ length, ReplaceSm.new 1 fields.messageId fields.sourceAddrTon fields.sourceAddrNpi
      fields.sourceAddr fields.scheduleDeliveryTime fields.validityPeriod
      fields.registeredDelivery fields.smDefaultMsgId fields.shortMessage =
      some { fields with header := ⟨length, CommandId.replaceSm.value, 0, 1⟩ } := by
    rw [ReplaceSm.new, if_pos short, told]
    exact ⟨_, rfl⟩
  obtain ⟨length, made⟩ := made
  exact ⟨⟨length, _, 0, 1⟩, ⟨rfl, rfl, rfl⟩, .replaceSm made⟩

def ReplaceSm.carrying : Carrying ReplaceFields where
  kind := .replaceSm
  laid := ReplaceFields.laid
  sample := ReplaceFields.sample
  wrap fields header _ := .replaceSm { fields with header }
  tail _ := []
  trailing _ := []
  place := rfl
  wraps request same := by
    cases request with
    | replaceSm pdu => exact ⟨pdu.toReplaceFields, pdu.header, [], rfl⟩
    | _ => cases same
  carried _ _ _ := rfl
  get _ _ _ _ := rfl
  masked _ _ _ _ := rfl
  parts fields header tlvs others head more same := by
    cases same
    exact ⟨rfl, rfl, rfl⟩
  encodes fields header tlvs := by
    refine ⟨header, ⟨rfl, rfl, rfl⟩, ?_⟩
    rw [List.append_nil]
    rfl
  decodes fields header tlvs head written body := by
    rw [Request.decodeAs, ReplaceSm.decode, ok_bind (checkedBodyOf_append written.encode_length)]
    change Except.map _ (readBody ReplaceFields.read body >>= _) =
      Except.map _ (readBody ReplaceFields.read body)
    cases readBody ReplaceFields.read body <;> rfl
  closing _ _ _ _ _ _ := rfl
  ends arg i at_ := by
    cases arg <;> cases at_ <;> decide
  made arg v b s := by
    cases arg <;> exact ReplaceSm.built_of _ fullMessage_told (Nat.le_of_eq fullMessage_length)
  short := ReplaceFields.put_sample_length

namespace Carrying

variable {Fields : Type} (carrying : Carrying Fields) {arg : Argument} {i : Nat}
variable {fields : Fields} {header : CommandHeader} {tlvs : List Tlv}

theorem peerReads {decoded : Request}
    (reads : (carrying.wrap fields header tlvs).PeerReads decoded) :
    ∃ head found rest, head.SamePdu header ∧
      carrying.laid.read (carrying.laid.encode fields ++ carrying.tail tlvs) = some (found, rest) ∧
      decoded = carrying.wrap found head (carrying.trailing rest) := by
  obtain ⟨bytes, head, encoded, told, ran⟩ := reads
  obtain ⟨written, same, spelled⟩ := carrying.encodes fields header tlvs
  rw [spelled] at encoded
  cases encoded
  rw [CommandHeader.decode_encode] at told
  split at told
  · cases told
    rw [carrying.decodes, readBody] at ran
    split at ran
    · rename_i result read
      obtain ⟨found, rest⟩ := result
      cases ran
      exact ⟨_, found, rest, same, read, rfl⟩
    · cases ran
  · cases told

theorem peerReads_of {found : Fields} {rest : Bytes}
    (built : Built (carrying.wrap fields header tlvs))
    (small : 16 + (carrying.laid.encode fields ++ carrying.tail tlvs).length < 2 ^ 32)
    (read : carrying.laid.read (carrying.laid.encode fields ++ carrying.tail tlvs) =
      some (found, rest)) :
    ∃ head, head.SamePdu header ∧ (carrying.wrap fields header tlvs).PeerReads
      (carrying.wrap found head (carrying.trailing rest)) := by
  obtain ⟨written, same, spelled⟩ := carrying.encodes fields header tlvs
  have size : (written.encode ++ (carrying.laid.encode fields ++ carrying.tail tlvs)).length =
      16 + (carrying.laid.encode fields ++ carrying.tail tlvs).length := by
    rw [List.length_append, written.encode_length]
  have delimited := (built.self_delimiting_iff spelled (by omega)).mpr ?_
  · rw [selfDelimiting_iff] at delimited
    refine ⟨written, same, _, written, spelled, decode_written delimited, ?_⟩
    rw [carrying.decodes, readBody, read]
    rfl
  · intro pdu same
    have kind := carrying.carried fields header tlvs
    rw [same] at kind
    cases kind

theorem sameBut_of {found other : Fields} {head next : CommandHeader} {tlvs more : List Tlv}
    (same : carrying.laid.put arg Str.empty found = carrying.laid.put arg Str.empty other)
    (headers : head.SamePdu next) (parameters : tlvs = more) :
    (carrying.wrap found head tlvs).SameBut arg (carrying.wrap other next more) := by
  obtain ⟨length, id, status, number⟩ := head
  obtain ⟨rfl, rfl, rfl⟩ := headers
  rw [Request.SameBut, carrying.masked, carrying.masked, same, parameters]

theorem sameBut_parts {found other : Fields} {head next : CommandHeader} {tlvs more : List Tlv}
    (same : (carrying.wrap found head tlvs).SameBut arg (carrying.wrap other next more)) :
    carrying.laid.put arg Str.empty found = carrying.laid.put arg Str.empty other ∧
      head.SamePdu next ∧ carrying.tail tlvs = carrying.tail more := by
  rw [Request.SameBut, carrying.masked, carrying.masked] at same
  obtain ⟨fields, headers, parameters⟩ := carrying.parts _ _ _ _ _ _ same
  obtain ⟨-, id, status, number⟩ := CommandHeader.mk.inj headers
  exact ⟨fields, ⟨id, status, number⟩, parameters⟩

theorem contained {a b x y : Request} (at_ : carrying.laid.place arg = some i)
    (kind : a.carrier = some carrying.kind) (same : a.SameBut arg b)
    (earlier : carrying.laid.layout.length ≠ i + 1 →
      ∀ other j, carrying.laid.place other = some j → j < i → NulFree (a.get other))
    (held : NulFree (a.get arg) ∨ carrying.laid.layout.length = i + 1)
    (otherHeld : NulFree (b.get arg) ∨ carrying.laid.layout.length = i + 1)
    (reads : a.PeerReads x) (otherReads : b.PeerReads y) : x.SameBut arg y := by
  have otherKind : b.carrier = some carrying.kind := by
    rw [← b.masked_carrier arg, ← same, a.masked_carrier, kind]
  obtain ⟨fields, header, tlvs, rfl⟩ := carrying.wraps a kind
  obtain ⟨others, head, more, rfl⟩ := carrying.wraps b otherKind
  obtain ⟨masked, headers, parameters⟩ := carrying.sameBut_parts same
  obtain ⟨first, found, rest, heading, read, rfl⟩ := carrying.peerReads reads
  obtain ⟨second, otherFound, otherRest, otherHeading, otherRead, rfl⟩ :=
    carrying.peerReads otherReads
  rw [← parameters] at otherRead
  simp only [carrying.get] at earlier held otherHeld
  have heads : first.SamePdu second :=
    ⟨heading.1.trans (headers.1.trans otherHeading.1.symm),
      heading.2.1.trans (headers.2.1.trans otherHeading.2.1.symm),
      heading.2.2.trans (headers.2.2.trans otherHeading.2.2.symm)⟩
  by_cases last : carrying.laid.layout.length = i + 1
  · have equal := carrying.laid.contained_last at_ last masked read otherRead
    exact carrying.sameBut_of equal heads (carrying.closing arg i at_ last rest otherRest)
  · have plain := carrying.laid.plain_before fields at_ (earlier last)
    have clean := held.resolve_right last
    have otherClean := otherHeld.resolve_right last
    obtain ⟨equal, left⟩ := carrying.laid.contained at_ masked plain clean otherClean read otherRead
    exact carrying.sameBut_of equal heads (congrArg carrying.trailing left)

theorem forges {value : Str} (at_ : carrying.laid.place arg = some i)
    (inner : carrying.laid.layout.length ≠ i + 1) (unclean : ¬ NulFree value)
    (small : value.len + 1024 < 2 ^ 32) :
    ∃ a b x y, Built a ∧ Built b ∧ a.carrier = some carrying.kind ∧ a.SameBut arg b ∧
      a.get arg = value ∧
      (∀ other j, carrying.laid.place other = some j → j ≠ i → NulFree (a.get other)) ∧
      NulFree (b.get arg) ∧ a.PeerReads x ∧ b.PeerReads y ∧ ¬ x.SameBut arg y := by
  have inside : i + 1 < carrying.laid.layout.length := by
    have bound := carrying.laid.place_lt at_ (carrying.sample.fields 0 Str.empty)
    omega
  have empty : NulFree Str.empty := List.not_mem_nil
  obtain ⟨octet, s, clean, one, found, rest, read, differs⟩ :=
    carrying.sample.forges at_ inside unclean (carrying.tail [])
  obtain ⟨header, heading, built⟩ := carrying.made arg value octet s
  obtain ⟨head, otherHeading, otherBuilt⟩ := carrying.made arg Str.empty octet s
  have plain := carrying.sample.put_plain (b := octet) clean at_ empty
  have otherRead := carrying.laid.read_plain plain (carrying.tail [])
  have size := carrying.short arg value octet s one
  have otherSize := carrying.short arg Str.empty octet s one
  have none : Str.empty.len = 0 := rfl
  obtain ⟨first, -, reads⟩ := carrying.peerReads_of built
    (by rw [List.length_append]; omega) read
  obtain ⟨second, -, otherReads⟩ := carrying.peerReads_of otherBuilt
    (by rw [List.length_append]; omega) otherRead
  have headers : header.SamePdu head :=
    ⟨heading.1.trans otherHeading.1.symm, heading.2.1.trans otherHeading.2.1.symm,
      heading.2.2.trans otherHeading.2.2.symm⟩
  have same : carrying.laid.put arg Str.empty
        (carrying.laid.put arg value (carrying.sample.fields octet s)) =
      carrying.laid.put arg Str.empty
        (carrying.laid.put arg Str.empty (carrying.sample.fields octet s)) := by
    rw [carrying.laid.put_put at_, carrying.laid.put_put at_]
  refine ⟨_, _, _, _, built, otherBuilt, carrying.carried _ _ _,
    carrying.sameBut_of same headers rfl, ?_, ?_, ?_, reads, otherReads, ?_⟩
  · rw [carrying.get, carrying.laid.get_put at_]
  · intro other j there different
    rw [carrying.get]
    exact carrying.sample.get_clean clean at_ value there different
  · rw [carrying.get, carrying.laid.get_put at_]
    exact empty
  · intro alike
    have equal := (carrying.sameBut_parts alike).1
    rw [carrying.laid.put_put at_] at equal
    exact differs equal

end Carrying

def Carrier.Holds (carrier : Carrier) (arg : Argument) (value : Str) : Prop :=
  NulFree value ∨ carrier.Closes arg

/-- Two argument tuples that differ in one string. The strings before it read back, where there is a
    field behind it to be moved. -/
structure Tuples (carrier : Carrier) (arg : Argument) (a b : Request) : Prop where
  built : Built a
  otherBuilt : Built b
  kind : a.carrier = some carrier
  same : a.SameBut arg b
  earlier : ¬ carrier.Closes arg → ∀ other i j, carrier.place arg = some i →
    carrier.place other = some j → j < i → NulFree (a.get other)
  held : carrier.Holds arg (b.get arg)

/-- The value changes no field but its own. -/
def Carrier.Contains (carrier : Carrier) (arg : Argument) (value : Str) : Prop :=
  ∀ a b x y, Tuples carrier arg a b → a.get arg = value → a.PeerReads x → b.PeerReads y →
    x.SameBut arg y

namespace Carrying

variable {Fields : Type} (carrying : Carrying Fields) {arg : Argument} {i : Nat}

theorem holds_iff (at_ : carrying.laid.place arg = some i) (value : Str) :
    carrying.kind.Holds arg value ↔ NulFree value ∨ carrying.laid.layout.length = i + 1 := by
  rw [Carrier.Holds, carrying.ends arg i at_]

theorem contains_holds (at_ : carrying.laid.place arg = some i) (value : Str) :
    (carrying.kind.Holds arg value → carrying.kind.Contains arg value) ∧
      (value.len + 1024 < 2 ^ 32 → carrying.kind.Contains arg value →
        carrying.kind.Holds arg value) := by
  constructor
  · intro holds a b x y tuples told reads otherReads
    have held := (carrying.holds_iff at_ _).mp holds
    have otherHeld := (carrying.holds_iff at_ _).mp tuples.held
    have earlier : carrying.laid.layout.length ≠ i + 1 →
        ∀ other j, carrying.laid.place other = some j → j < i → NulFree (a.get other) := by
      intro inner other j there before
      rw [ne_eq, carrying.ends arg i at_] at inner
      rw [← carrying.place] at at_ there
      exact tuples.earlier inner other i j at_ there before
    rw [← told] at held
    exact carrying.contained at_ tuples.kind tuples.same earlier held otherHeld reads otherReads
  · intro small contains
    rw [carrying.holds_iff at_]
    by_contra neither
    obtain ⟨unclean, inner⟩ := not_or.mp neither
    obtain ⟨a, b, x, y, built, otherBuilt, kind, same, told, others, clean, reads, otherReads,
      differ⟩ := carrying.forges at_ inner unclean small
    have earlier : ¬ carrying.kind.Closes arg → ∀ other i j, carrying.kind.place arg = some i →
        carrying.kind.place other = some j → j < i → NulFree (a.get other) := by
      intro _ other k j here there before
      rw [carrying.place] at here there
      rw [at_] at here
      cases here
      exact others other j there (by omega)
    have tuples : Tuples carrying.kind arg a b :=
      ⟨built, otherBuilt, kind, same, earlier, .inl clean⟩
    exact differ (contains a b x y tuples told reads otherReads)

end Carrying

/-- A NUL moves the boundary of every field behind the string. -/
theorem no_forgery (carrier : Carrier) (arg : Argument) (value : Str)
    (takes : (carrier.place arg).isSome) :
    (carrier.Holds arg value → carrier.Contains arg value) ∧
      (value.len + 1024 < 2 ^ 32 → carrier.Contains arg value → carrier.Holds arg value) := by
  obtain ⟨i, at_⟩ := Option.isSome_iff_exists.mp takes
  cases carrier with
  | submitSm => exact MessageKind.submitSm.carrying.contains_holds at_ value
  | deliverSm => exact MessageKind.deliverSm.carrying.contains_holds at_ value
  | dataSm => exact DataSm.carrying.contains_holds at_ value
  | querySm => exact QuerySm.carrying.contains_holds at_ value
  | replaceSm => exact ReplaceSm.carrying.contains_holds at_ value

def forgedSource : Str := ⟨[0x31, 0x00, 0x01, 0x01, 0x39], rfl⟩

theorem source_addr_contains :
    Carrier.submitSm.Contains .sourceAddr (letters 3) ∧
      ¬ Carrier.submitSm.Contains .sourceAddr forgedSource := by
  have letters := no_forgery .submitSm .sourceAddr (letters 3) rfl
  have forged := no_forgery .submitSm .sourceAddr forgedSource rfl
  refine ⟨letters.1 (.inl (letters_nulFree 3)), ?_⟩
  intro contains
  rcases forged.2 (by decide) contains with clean | ⟨query, -⟩
  · exact absurd clean (by decide)
  · cases query

theorem source_addr_forges_destination_addr :
    ∃ a b x y,
      SubmitSm.new 1 Str.empty 0 0 forgedSource 1 1 (letters 2) 0 0 0 Str.empty Str.empty 0 0 0 0
        [] = some a ∧
      SubmitSm.new 1 Str.empty 0 0 (letters 1) 1 1 (letters 2) 0 0 0 Str.empty Str.empty 0 0 0 0
        [] = some b ∧
      (Request.submitSm a).SameBut .sourceAddr (.submitSm b) ∧
      (Request.submitSm a).PeerReads (.submitSm x) ∧
      (Request.submitSm b).PeerReads (.submitSm y) ∧
      x.destinationAddr = ⟨[0x39], rfl⟩ ∧ y.destinationAddr = letters 2 ∧
      ¬ (Request.submitSm x).SameBut .sourceAddr (.submitSm y) := by
  refine ⟨_, _, _, _, rfl, rfl, rfl, ⟨_, _, rfl, rfl, rfl⟩, ⟨_, _, rfl, rfl, rfl⟩, rfl, rfl, ?_⟩
  intro same
  have equal : (⟨[0x39], rfl⟩ : Str) = letters 2 := congrArg (Request.get .destinationAddr) same
  exact absurd equal (by decide)

end Smpp34
