import Smpp34.Session.Machine
import Mathlib.Data.List.Induction

namespace Smpp34

open Octets
open Utf8 (Str)

/-- The seventeen arguments of `send_submit_sm` and of `send_deliver_sm`. -/
structure SendArguments where
  serviceType : Str
  sourceAddrTon : UInt8
  sourceAddrNpi : UInt8
  sourceAddr : Str
  destAddrTon : UInt8
  destAddrNpi : UInt8
  destinationAddr : Str
  esmClass : UInt8
  protocolId : UInt8
  priorityFlag : UInt8
  scheduleDeliveryTime : Str
  validityPeriod : Str
  registeredDelivery : UInt8
  replaceIfPresentFlag : UInt8
  dataCoding : UInt8
  smDefaultMsgId : UInt8
  shortMessage : Bytes
deriving DecidableEq

/-- What `SubmitSmBuilder` and `DeliverSmBuilder` hold; the setters of the two are the same. -/
structure MessageBuilder extends SendArguments where
  tlvs : List Tlv

inductive Setter where
  | serviceType (v : Str)
  | sourceAddrTon (v : UInt8)
  | sourceAddrNpi (v : UInt8)
  | sourceAddr (v : Str)
  | destAddrTon (v : UInt8)
  | destAddrNpi (v : UInt8)
  | destinationAddr (v : Str)
  | esmClass (v : UInt8)
  | protocolId (v : UInt8)
  | priorityFlag (v : UInt8)
  | scheduleDeliveryTime (v : Str)
  | validityPeriod (v : Str)
  | registeredDelivery (v : UInt8)
  | replaceIfPresentFlag (v : UInt8)
  | dataCoding (v : UInt8)
  | smDefaultMsgId (v : UInt8)
  | shortMessage (v : Bytes)
  | tlv (tag : TlvTag) (value : Bytes)
  | tlvRaw (tag : UInt16) (value : Bytes)
  | tlvs (tlvs : List Tlv)

namespace MessageBuilder

def new : MessageBuilder where
  serviceType := Str.empty
  sourceAddrTon := 0
  sourceAddrNpi := 0
  sourceAddr := Str.empty
  destAddrTon := 0
  destAddrNpi := 0
  destinationAddr := Str.empty
  esmClass := 0
  protocolId := 0
  priorityFlag := 0
  scheduleDeliveryTime := Str.empty
  validityPeriod := Str.empty
  registeredDelivery := 0
  replaceIfPresentFlag := 0
  dataCoding := 0
  smDefaultMsgId := 0
  shortMessage := []
  tlvs := []

def set (builder : MessageBuilder) : Setter → MessageBuilder
  | .serviceType v => { builder with serviceType := v }
  | .sourceAddrTon v => { builder with sourceAddrTon := v }
  | .sourceAddrNpi v => { builder with sourceAddrNpi := v }
  | .sourceAddr v => { builder with sourceAddr := v }
  | .destAddrTon v => { builder with destAddrTon := v }
  | .destAddrNpi v => { builder with destAddrNpi := v }
  | .destinationAddr v => { builder with destinationAddr := v }
  | .esmClass v => { builder with esmClass := v }
  | .protocolId v => { builder with protocolId := v }
  | .priorityFlag v => { builder with priorityFlag := v }
  | .scheduleDeliveryTime v => { builder with scheduleDeliveryTime := v }
  | .validityPeriod v => { builder with validityPeriod := v }
  | .registeredDelivery v => { builder with registeredDelivery := v }
  | .replaceIfPresentFlag v => { builder with replaceIfPresentFlag := v }
  | .dataCoding v => { builder with dataCoding := v }
  | .smDefaultMsgId v => { builder with smDefaultMsgId := v }
  | .shortMessage v => { builder with shortMessage := v }
  | .tlv tag value => { builder with tlvs := builder.tlvs ++ [Tlv.fromTag tag value] }
  | .tlvRaw tag value => { builder with tlvs := builder.tlvs ++ [⟨tag, value⟩] }
  | .tlvs tlvs => { builder with tlvs := builder.tlvs ++ tlvs }

def after (calls : List Setter) : MessageBuilder := calls.foldl set new

end MessageBuilder

namespace Session

variable (endpoint : Endpoint) (session : Session)

def sendSubmitSm (serviceType : Str) (sourceAddrTon sourceAddrNpi : UInt8) (sourceAddr : Str)
    (destAddrTon destAddrNpi : UInt8) (destinationAddr : Str)
    (esmClass protocolId priorityFlag : UInt8) (scheduleDeliveryTime validityPeriod : Str)
    (registeredDelivery replaceIfPresentFlag dataCoding smDefaultMsgId : UInt8)
    (shortMessage : Bytes) : Option Session := do
  let pdu ← SubmitSm.new 0 serviceType sourceAddrTon sourceAddrNpi sourceAddr destAddrTon
    destAddrNpi destinationAddr esmClass protocolId priorityFlag scheduleDeliveryTime validityPeriod
    registeredDelivery replaceIfPresentFlag dataCoding smDefaultMsgId shortMessage
  session.call endpoint (.submitSm pdu)

def sendDeliverSm (serviceType : Str) (sourceAddrTon sourceAddrNpi : UInt8) (sourceAddr : Str)
    (destAddrTon destAddrNpi : UInt8) (destinationAddr : Str)
    (esmClass protocolId priorityFlag : UInt8) (scheduleDeliveryTime validityPeriod : Str)
    (registeredDelivery replaceIfPresentFlag dataCoding smDefaultMsgId : UInt8)
    (shortMessage : Bytes) : Option Session := do
  let pdu ← DeliverSm.new 0 serviceType sourceAddrTon sourceAddrNpi sourceAddr destAddrTon
    destAddrNpi destinationAddr esmClass protocolId priorityFlag scheduleDeliveryTime validityPeriod
    registeredDelivery replaceIfPresentFlag dataCoding smDefaultMsgId shortMessage
  session.call endpoint (.deliverSm pdu)

end Session

def SubmitSmBuilder.send (builder : MessageBuilder) (endpoint : Endpoint) (session : Session) :
    Option Session := do
  let pdu ← SubmitSm.new 0 builder.serviceType builder.sourceAddrTon builder.sourceAddrNpi
    builder.sourceAddr builder.destAddrTon builder.destAddrNpi builder.destinationAddr
    builder.esmClass builder.protocolId builder.priorityFlag builder.scheduleDeliveryTime
    builder.validityPeriod builder.registeredDelivery builder.replaceIfPresentFlag
    builder.dataCoding builder.smDefaultMsgId builder.shortMessage
  session.call endpoint (.submitSm (pdu.withTlvs builder.tlvs))

def DeliverSmBuilder.send (builder : MessageBuilder) (endpoint : Endpoint) (session : Session) :
    Option Session := do
  let pdu ← DeliverSm.new 0 builder.serviceType builder.sourceAddrTon builder.sourceAddrNpi
    builder.sourceAddr builder.destAddrTon builder.destAddrNpi builder.destinationAddr
    builder.esmClass builder.protocolId builder.priorityFlag builder.scheduleDeliveryTime
    builder.validityPeriod builder.registeredDelivery builder.replaceIfPresentFlag
    builder.dataCoding builder.smDefaultMsgId builder.shortMessage
  session.call endpoint (.deliverSm (pdu.withTlvs builder.tlvs))

/-- What the last of the calls that set a field has given it, or its initial value. -/
def lastSet {α : Type} (sets : Setter → Option α) (initial : α) (calls : List Setter) : α :=
  (calls.filterMap sets).getLast?.getD initial

def lastArguments (calls : List Setter) : SendArguments where
  serviceType := lastSet (fun | .serviceType v => some v | _ => none) Str.empty calls
  sourceAddrTon := lastSet (fun | .sourceAddrTon v => some v | _ => none) 0 calls
  sourceAddrNpi := lastSet (fun | .sourceAddrNpi v => some v | _ => none) 0 calls
  sourceAddr := lastSet (fun | .sourceAddr v => some v | _ => none) Str.empty calls
  destAddrTon := lastSet (fun | .destAddrTon v => some v | _ => none) 0 calls
  destAddrNpi := lastSet (fun | .destAddrNpi v => some v | _ => none) 0 calls
  destinationAddr := lastSet (fun | .destinationAddr v => some v | _ => none) Str.empty calls
  esmClass := lastSet (fun | .esmClass v => some v | _ => none) 0 calls
  protocolId := lastSet (fun | .protocolId v => some v | _ => none) 0 calls
  priorityFlag := lastSet (fun | .priorityFlag v => some v | _ => none) 0 calls
  scheduleDeliveryTime := lastSet (fun | .scheduleDeliveryTime v => some v | _ => none) Str.empty calls
  validityPeriod := lastSet (fun | .validityPeriod v => some v | _ => none) Str.empty calls
  registeredDelivery := lastSet (fun | .registeredDelivery v => some v | _ => none) 0 calls
  replaceIfPresentFlag := lastSet (fun | .replaceIfPresentFlag v => some v | _ => none) 0 calls
  dataCoding := lastSet (fun | .dataCoding v => some v | _ => none) 0 calls
  smDefaultMsgId := lastSet (fun | .smDefaultMsgId v => some v | _ => none) 0 calls
  shortMessage := lastSet (fun | .shortMessage v => some v | _ => none) [] calls

def Setter.appended : Setter → List Tlv
  | tlv tag value => [⟨tag.value, value⟩]
  | tlvRaw tag value => [⟨tag, value⟩]
  | tlvs list => list
  | _ => []

theorem lastSet_concat {α : Type} (sets : Setter → Option α) (initial : α) (calls : List Setter)
    (call : Setter) :
    lastSet sets initial (calls ++ [call]) = (sets call).getD (lastSet sets initial calls) := by
  unfold lastSet
  rw [List.filterMap_append]
  cases given : sets call with
  | none => simp [given]
  | some v => simp [given]

theorem MessageBuilder.after_eq (calls : List Setter) :
    after calls = { lastArguments calls with tlvs := calls.flatMap Setter.appended } := by
  induction calls using List.reverseRecOn with
  | nil => rfl
  | append_singleton calls call ih =>
    have last : after (calls ++ [call]) = (after calls).set call := List.foldl_concat ..
    rw [last, ih, List.flatMap_append]
    cases call <;> simp [set, lastArguments, lastSet_concat, Setter.appended, Tlv.fromTag]

def MessageFields.framed (fields : MessageFields) (header : CommandHeader) (tlvs : List Tlv) :
    Bytes :=
  { header with
    commandLength := fields.messageCommandLength + UInt32.ofNat (tlvsEncodedLen tlvs) }.encode ++
    (fields.encode ++ encodeTlvs tlvs)

/-- The frame is the plain one with parameters behind it and a number of its own. -/
def WriteFrame.Extends (frame plain : WriteFrame) (tlvs : List Tlv) (number : UInt32) : Prop :=
  frame.ourSequenceNumber = some number ∧
    ∃ (header : CommandHeader) (body : Bytes), plain.pdu = header.encode ++ body ∧
      frame.pdu =
        { header with
          commandLength := header.commandLength + UInt32.ofNat (tlvsEncodedLen tlvs)
          sequenceNumber := number }.encode ++ (body ++ encodeTlvs tlvs)

def Session.Offers (session : Session) (called : Option Session) (frame : WriteFrame) : Prop :=
  ∃ next, called = some next ∧
    next.senders = session.senders ++ [⟨frame, .call session.calls.length⟩]

section Frames

variable {endpoint : Endpoint}

theorem Session.call_offers {session : Session} {request : Request} {pdu : Bytes}
    (may : endpoint.maySend request = true)
    (encoded : (request.setSequenceNumber session.sequenceNumber).encode = some pdu) :
    session.Offers (session.call endpoint request)
      ⟨some session.sequenceNumber, pdu,
        if request.awaited then some session.calls.length else none⟩ := by
  rw [Session.call, if_pos may, encoded]
  exact ⟨_, rfl, rfl⟩

theorem Session.call_refused {session : Session} {request : Request}
    (not : endpoint.maySend request = false) : session.call endpoint request = none := by
  rw [Session.call, if_neg (by rw [not]; decide)]

theorem MessageFields.framed_extends (fields : MessageFields) (header : CommandHeader)
    (tlvs : List Tlv) (first number : UInt32) (waiter other : Option Nat) :
    WriteFrame.Extends
      ⟨some number, fields.framed { header with sequenceNumber := number } tlvs, waiter⟩
      ⟨some first, fields.framed { header with sequenceNumber := first } [], other⟩ tlvs number := by
  have none : encodeTlvs [] = [] := rfl
  have zero : tlvsEncodedLen [] = 0 := rfl
  refine ⟨rfl, { header with
    commandLength := fields.messageCommandLength, sequenceNumber := first }, fields.encode, ?_, rfl⟩
  rw [framed, none, zero, List.append_nil]
  simp

end Frames

/-- Both calls are refused, or the builder's frame is the other's with the parameters. -/
def Session.Agree (session other : Session) (built plain : Option Session) (tlvs : List Tlv)
    (may : Bool) : Prop :=
  if may then
    ∃ frame bare, session.Offers built frame ∧ other.Offers plain bare ∧
      frame.Extends bare tlvs session.sequenceNumber
  else built = none ∧ plain = none

/-- However a builder was filled, it sends what the method by place sends for the values that were
    set last, with the parameters behind it in the order of the calls. -/
theorem builders_agree_with_positional (calls : List Setter)
    (short : (lastArguments calls).shortMessage.length ≤ 254) (endpoint : Endpoint)
    (session other : Session) :
    let args := lastArguments calls
    let tlvs := calls.flatMap Setter.appended
    session.Agree other
      (SubmitSmBuilder.send (MessageBuilder.after calls) endpoint session)
      (other.sendSubmitSm endpoint args.serviceType args.sourceAddrTon args.sourceAddrNpi
        args.sourceAddr args.destAddrTon args.destAddrNpi args.destinationAddr args.esmClass
        args.protocolId args.priorityFlag args.scheduleDeliveryTime args.validityPeriod
        args.registeredDelivery args.replaceIfPresentFlag args.dataCoding args.smDefaultMsgId
        args.shortMessage)
      tlvs (endpoint.side = .client && endpoint.bound.transmits) ∧
    session.Agree other
      (DeliverSmBuilder.send (MessageBuilder.after calls) endpoint session)
      (other.sendDeliverSm endpoint args.serviceType args.sourceAddrTon args.sourceAddrNpi
        args.sourceAddr args.destAddrTon args.destAddrNpi args.destinationAddr args.esmClass
        args.protocolId args.priorityFlag args.scheduleDeliveryTime args.validityPeriod
        args.registeredDelivery args.replaceIfPresentFlag args.dataCoding args.smDefaultMsgId
        args.shortMessage)
      tlvs (endpoint.side = .server && endpoint.bound.receives) := by
  intro args tlvs
  have filled := MessageBuilder.after_eq calls
  constructor
  · rw [filled, SubmitSmBuilder.send, Session.sendSubmitSm, SubmitSm.new, if_pos short]
    simp only [Option.bind_eq_bind, Option.bind_some]
    generalize may : (endpoint.side = .client && endpoint.bound.transmits : Bool) = allowed
    cases allowed with
    | false => exact ⟨Session.call_refused may, Session.call_refused may⟩
    | true =>
      exact ⟨_, _, Session.call_offers may rfl, Session.call_offers may rfl,
        MessageFields.framed_extends _ _ tlvs _ _ _ _⟩
  · rw [filled, DeliverSmBuilder.send, Session.sendDeliverSm, DeliverSm.new, if_pos short]
    simp only [Option.bind_eq_bind, Option.bind_some]
    generalize may : (endpoint.side = .server && endpoint.bound.receives : Bool) = allowed
    cases allowed with
    | false => exact ⟨Session.call_refused may, Session.call_refused may⟩
    | true =>
      exact ⟨_, _, Session.call_offers may rfl, Session.call_offers may rfl,
        MessageFields.framed_extends _ _ tlvs _ _ _ _⟩

theorem builder_with_repeated_setters :
    let endpoint : Endpoint := ⟨.client, .trx, 10, 10⟩
    let calls : List Setter := [.dataCoding 3, .tlvRaw 0x1401 [1], .shortMessage [0x68], .esmClass 4,
      .dataCoding 8, .tlv .messageStateTlv [2]]
    (lastArguments calls).dataCoding = 8 ∧ (lastArguments calls).shortMessage = [0x68] ∧
      endpoint.start.Agree endpoint.start
        (SubmitSmBuilder.send (MessageBuilder.after calls) endpoint endpoint.start)
        (endpoint.start.sendSubmitSm endpoint Str.empty 0 0 Str.empty 0 0 Str.empty 4 0 0 Str.empty
          Str.empty 0 0 8 0 [0x68])
        [⟨0x1401, [1]⟩, ⟨0x0427, [2]⟩] true := by
  intro endpoint calls
  exact ⟨rfl, rfl,
    (builders_agree_with_positional calls (by decide) endpoint endpoint.start endpoint.start).1⟩

end Smpp34
