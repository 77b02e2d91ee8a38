import Smpp34.Session.Machine
import Smpp34.Session.Replies

namespace Smpp34

open Octets
open Correlation
open Relation (ReflTransGen)

/-- A response-class PDU answers the request of its sequence number. -/
def answeredNumber (pdu : Bytes) : Option UInt32 :=
  match CommandHeader.decode pdu with
  | .ok header => if header.commandId < 0x80000000 then none else some header.sequenceNumber
  | .error _ => none

def Origin.caller : Origin → Option Nat
  | call caller => some caller
  | _ => none

def Endpoint.labels (endpoint : Endpoint) : Labels UInt32 Emission Bytes Request where
  supply i := endpoint.side.firstSequenceNumber + UInt32.ofNat i
  key emission := emission.frame.ourSequenceNumber
  source emission := emission.origin.caller
  caller emission := emission.frame.oneshot
  stamped number emission := beU32At emission.frame.pdu 12 = number
  carries request number emission :=
    endpoint.maySend request ∧
      (request.setSequenceNumber number).encode = some emission.frame.pdu ∧
      emission.frame.oneshot = if request.awaited then emission.origin.caller else none
  answers := answeredNumber

abbrev SessionLedger := Ledger UInt32 Emission Bytes Request Response

def ReaderStage.links : ReaderStage → Option (Bytes × UInt32)
  | linking pdu number _ => some (pdu, number)
  | _ => none

def Call.toSlot (call : Call) : Slot UInt32 Request Response :=
  ⟨call.request, call.number, call.slot⟩

theorem Request.setSequenceNumber_word {endpoint : Endpoint} {request : Request} {number : UInt32}
    {pdu : Bytes} (sends : endpoint.maySend request = true)
    (encoded : (request.setSequenceNumber number).encode = some pdu) :
    beU32At pdu 12 = number := by
  cases request with
  | enquireLink request => cases sends
  | bind kind request => cases sends
  | outbind request => cases sends
  | unbind request =>
    cases encoded
    exact (bare_words _).2
  | _ =>
    cases encoded
    exact (header_words _ _).2

section Branches

variable {α : Type} {decoded : Decoded α} {onOk : α → Branch} {onError : SmppError → Bytes}

def Branch.settles : Branch → Bool
  | response _ | linkResp => true
  | _ => false

theorem dispatched_settles (requests : ∀ value, (onOk value).settles = false) :
    (dispatched decoded onOk onError).settles = false := by
  refine dispatched_cases ?_ ?_ ?_
  · exact fun value _ => requests value
  · exact fun _ _ => rfl
  · exact fun _ => rfl

theorem unbindBranch_settles (decoded : Decoded Unbind) (number : UInt32) :
    (unbindBranch decoded number).settles = false := by
  refine unbindBranch_cases ?_ ?_ ?_
  · exact fun _ _ => rfl
  · exact fun _ _ => rfl
  · exact fun _ => rfl

theorem request_settles (side : Side) (bound : BoundType) {header : CommandHeader} (pdu : Bytes)
    (request : header.commandId < 0x80000000) : (side.branch bound header pdu).settles = false := by
  have other {id : CommandId} {holds : Prop} (same : header.commandId = id.value)
      (response : ¬ id.value < 0x80000000) : holds :=
    absurd same (not_response_id request response)
  cases side with
  | server =>
    have chain := serverBranch_chain bound header pdu
    change (serverBranch bound header pdu).settles = false
    generalize serverBranch bound header pdu = branch at chain
    cases chain with
    | enquireLinkResp same => exact other same (by decide)
    | deliverSmResp same => exact other same (by decide)
    | dataSmResp same => exact other same (by decide)
    | genericNack same => exact other same (by decide)
    | unbind same => exact unbindBranch_settles _ _
    | unsupported => rfl
    | _ => exact dispatched_settles fun _ => rfl
  | client =>
    have chain := clientBranch_chain bound header pdu
    change (clientBranch bound header pdu).settles = false
    generalize clientBranch bound header pdu = branch at chain
    cases chain with
    | submitSmResp same => exact other same (by decide)
    | submitMultiResp same => exact other same (by decide)
    | dataSmResp same => exact other same (by decide)
    | cancelSmResp same => exact other same (by decide)
    | querySmResp same => exact other same (by decide)
    | replaceSmResp same => exact other same (by decide)
    | enquireLinkResp same => exact other same (by decide)
    | unbindResp same => exact other same (by decide)
    | genericNack same => exact other same (by decide)
    | unbind same => exact unbindBranch_settles _ _
    | unsupported => rfl
    | _ => exact dispatched_settles fun _ => rfl

end Branches

theorem answeredNumber_settles (endpoint : Endpoint) {header : CommandHeader} {pdu : Bytes}
    (framed : CommandHeader.decode pdu = .ok header)
    (settles : (endpoint.branch header pdu).settles = true) :
    answeredNumber pdu = some header.sequenceNumber := by
  have response : ¬ header.commandId < 0x80000000 := by
    intro request
    have none := request_settles endpoint.side endpoint.bound pdu request
    unfold Endpoint.branch at settles
    rw [none] at settles
    cases settles
  unfold answeredNumber
  rw [framed]
  exact if_neg response

namespace Session

def outbox (session : Session) : Multiset Emission :=
  ↑(session.senders ++ session.channel ++ session.writer.inHand)

def ledger (session : Session) : SessionLedger where
  now := session.now
  issued := session.issued
  slots := session.calls.map Call.toSlot
  outbox := session.outbox
  held := session.writer.held
  sent := session.sent
  registrations := session.registrations
  pending number := session.pendingRequests.lookup number
  heard := session.received
  completions := session.completions

abbrev Moves (endpoint : Endpoint) : SessionLedger → SessionLedger → Prop :=
  ReflTransGen (Ledger.Step endpoint.labels endpoint.responseTimer)

variable {endpoint : Endpoint} {session next : Session}

section Tables

theorem lookup_insert_eq (pending : AList fun _ : UInt32 => Entry) (number : UInt32)
    (entry : Entry) :
    (fun other => (pending.insert number entry).lookup other) =
      Function.update (fun other => pending.lookup other) number (some entry) := by
  funext other
  by_cases same : other = number
  · subst same
    rw [AList.lookup_insert, Function.update_self]
  · rw [AList.lookup_insert_ne same, Function.update_of_ne same]

theorem lookup_erase_eq (pending : AList fun _ : UInt32 => Entry) (number : UInt32) :
    (fun other => (pending.erase number).lookup other) =
      Function.update (fun other => pending.lookup other) number none := by
  funext other
  by_cases same : other = number
  · subst same
    rw [AList.lookup_erase, Function.update_self]
  · rw [AList.lookup_erase_ne same, Function.update_of_ne same]

theorem lookup_sweep (keep : Entry → Bool) (pending : AList fun _ : UInt32 => Entry)
    (number : UInt32) :
    (sweep keep pending).lookup number = (pending.lookup number).filter keep := by
  ext entry
  have swept : entry ∈ (sweep keep pending).lookup number ↔
      Sigma.mk number entry ∈ pending.entries.filter fun entry => keep entry.2 :=
    AList.mem_lookup_iff
  rw [← Option.mem_def, swept, List.mem_filter, ← AList.mem_lookup_iff, Option.mem_def,
    Option.filter_eq_some_iff]

theorem modify_slots {calls : List Call} {caller : Nat} {change : Call → Call}
    {effect : Slot UInt32 Request Response → Slot UInt32 Request Response}
    (agrees : ∀ call, calls[caller]? = some call → (change call).toSlot = effect call.toSlot) :
    (calls.modify caller change).map Call.toSlot = (calls.map Call.toSlot).modify caller effect := by
  apply List.ext_getElem?
  intro place
  rw [List.getElem?_map, List.getElem?_modify, List.getElem?_modify, List.getElem?_map]
  cases found : calls[place]? with
  | none => rfl
  | some call =>
    simp only [Option.map_eq_map, Option.map_some, Option.some.injEq]
    split
    · rename_i same
      subst same
      exact agrees call found
    · rfl

end Tables

theorem moves_of_eq (same : next.ledger = session.ledger) :
    Moves endpoint session.ledger next.ledger :=
  same ▸ .refl

/-- The number that a session hands out next is that of the supply, and the read loop waits with
    an enquire_link_resp only under its own number. -/
structure Consistent (endpoint : Endpoint) (session : Session) : Prop where
  supplied : session.sequenceNumber = endpoint.labels.supply session.issued
  linked : ∀ pdu number, session.reader.links = some (pdu, number) →
    answeredNumber pdu = some number

theorem outbox_sender (emission : Emission) (senders channel hand : List Emission) :
    (↑(senders ++ [emission] ++ channel ++ hand) : Multiset Emission) =
      emission ::ₘ ↑(senders ++ channel ++ hand) := by
  rw [Multiset.cons_coe, Multiset.coe_eq_coe, List.append_assoc, List.append_assoc,
    List.append_assoc, List.singleton_append]
  exact List.perm_middle

theorem outbox_queued (emission : Emission) (senders channel hand : List Emission) :
    (↑(senders ++ (channel ++ [emission]) ++ hand) : Multiset Emission) =
      emission ::ₘ ↑(senders ++ channel ++ hand) := by
  rw [Multiset.cons_coe, Multiset.coe_eq_coe, ← List.append_assoc, List.append_assoc _ _ hand,
    List.singleton_append]
  exact List.perm_middle

theorem outbox_taken (emission : Emission) (senders channel : List Emission) :
    (↑(senders ++ channel ++ [emission]) : Multiset Emission) = ↑(senders ++ emission :: channel) := by
  rw [Multiset.coe_eq_coe, List.append_assoc]
  exact (List.perm_append_singleton emission channel).append_left senders

theorem outbox_erase {senders : List Emission} {sender : Nat} {emission : Emission}
    (found : senders[sender]? = some emission) (channel hand : List Emission) :
    (↑(senders.eraseIdx sender ++ (channel ++ [emission]) ++ hand) : Multiset Emission) =
      ↑(senders ++ channel ++ hand) := by
  obtain ⟨inside, rfl⟩ := List.getElem?_eq_some_iff.mp found
  rw [outbox_queued, Multiset.cons_coe, Multiset.coe_eq_coe, List.append_assoc, List.append_assoc,
    ← List.cons_append]
  exact (List.getElem_cons_eraseIdx_perm inside).append_right _

section Callers

theorem call_moves (consistent : session.Consistent endpoint) {request : Request}
    (taken : session.call endpoint request = some next) :
    Moves endpoint session.ledger next.ledger := by
  unfold call at taken
  split at taken
  · rename_i sends
    obtain ⟨pdu, encoded, rfl⟩ := Option.map_eq_some_iff.mp taken
    have caller : ∀ awaited : Bool, (if awaited then some session.calls.length else none) = none ∨
        (if awaited then some session.calls.length else none) =
          some (session.calls.map Call.toSlot).length := by
      intro awaited
      cases awaited
      · exact .inl rfl
      · exact .inr (by simp)
    refine .single ?_
    convert @Ledger.Step.call _ _ _ _ Response _ endpoint.labels endpoint.responseTimer
      session.ledger request
      ⟨⟨some session.sequenceNumber, pdu,
        if request.awaited then some session.calls.length else none⟩, .call session.calls.length⟩
      (congrArg some consistent.supplied)
      (consistent.supplied ▸ Request.setSequenceNumber_word sends encoded)
      ⟨sends, consistent.supplied ▸ encoded, rfl⟩
      (by simp [Endpoint.labels, Origin.caller, ledger])
      (caller request.awaited) using 1
    simp only [ledger, outbox, outbox_sender, List.map_append, List.map_singleton, Call.toSlot]
    rw [← consistent.supplied]
  · cases taken

theorem modify_ledger (session : Session) (caller : Nat) {change : Call → Call}
    (effect : Slot UInt32 Request Response → Slot UInt32 Request Response)
    (agrees : ∀ call, session.calls[caller]? = some call →
      (change call).toSlot = effect call.toSlot) :
    { session with calls := session.calls.modify caller change }.ledger =
      { session.ledger with slots := session.ledger.slots.modify caller effect } := by
  simp only [ledger, outbox, modify_slots agrees]

theorem same_ledger (session : Session) (caller : Nat) {change : Call → Call}
    (keeps : ∀ call, session.calls[caller]? = some call → (change call).toSlot = call.toSlot) :
    { session with calls := session.calls.modify caller change }.ledger = session.ledger := by
  rw [modify_ledger session caller id keeps, List.modify_id]

theorem queued_ledger (session : Session) (origin : Origin) :
    (session.queued origin).ledger = session.ledger := by
  cases origin with
  | call caller =>
    rw [queued]
    refine same_ledger session caller fun call _ => ?_
    unfold Call.queued
    split <;> rfl
  | link =>
    rw [queued]
    split <;> rfl
  | reaction place => rfl

theorem enqueue_moves {sender : Nat} (taken : session.enqueue sender = some next) :
    Moves endpoint session.ledger next.ledger := by
  refine moves_of_eq ?_
  unfold enqueue at taken
  split at taken
  · rename_i emission found
    split at taken
    · cases taken
      rw [queued_ledger]
      simp only [ledger, outbox, outbox_erase found]
    · cases taken
  · cases taken

theorem returned_ledger (caller : Nat) (result : Except SmppError Response) :
    (session.returned caller result).ledger = session.ledger := by
  refine same_ledger session caller ?_
  exact fun _ _ => rfl

theorem resolve_moves {caller : Nat} (taken : session.resolve caller = some next) :
    Moves endpoint session.ledger next.ledger := by
  unfold resolve at taken
  split at taken
  · cases taken
    exact moves_of_eq (returned_ledger _ _)
  · cases taken

theorem expire_moves {caller : Nat} (taken : session.expire endpoint caller = some next) :
    Moves endpoint session.ledger next.ledger := by
  unfold expire at taken
  split at taken
  · split at taken
    · cases taken
      exact moves_of_eq (returned_ledger _ _)
    · cases taken
  · cases taken

theorem disconnect_moves {caller : Nat} (taken : session.disconnect caller = some next) :
    Moves endpoint session.ledger next.ledger := by
  unfold disconnect at taken
  split at taken
  · split at taken
    · cases taken
      exact moves_of_eq (returned_ledger _ _)
    · cases taken
  · split at taken
    · cases taken
    · cases taken
      exact moves_of_eq (returned_ledger _ _)
  · cases taken

end Callers

section Ticker

theorem tick_moves (consistent : session.Consistent endpoint) (taken : session.tick = some next) :
    Moves endpoint session.ledger next.ledger := by
  unfold tick at taken
  split at taken
  · split at taken
    · cases taken
      refine .single ?_
      convert @Ledger.Step.issue _ _ _ _ Response _ endpoint.labels endpoint.responseTimer
        session.ledger
        ⟨⟨some session.sequenceNumber, (EnquireLink.new session.sequenceNumber).encode, none⟩,
          .link⟩ (congrArg some consistent.supplied)
        (consistent.supplied ▸ (bare_words (EnquireLink.new session.sequenceNumber).header).2) rfl rfl
        using 1
      simp only [ledger, outbox, outbox_sender]
    · cases taken
      exact .refl
  · cases taken

theorem linkArrives_moves (taken : session.linkArrives = some next) :
    Moves endpoint session.ledger next.ledger := by
  unfold linkArrives at taken
  split at taken
  · cases taken
    exact .refl
  · cases taken

theorem linkExpires_moves (taken : session.linkExpires endpoint = some next) :
    Moves endpoint session.ledger next.ledger := by
  unfold linkExpires at taken
  split at taken
  · split at taken
    · cases taken
      exact .refl
    · cases taken
  · cases taken

theorem linkFails_moves (taken : session.linkFails = some next) :
    Moves endpoint session.ledger next.ledger := by
  unfold linkFails at taken
  split at taken
  · split at taken
    · cases taken
      exact .refl
    · cases taken
  · cases taken

theorem abortTicker_moves (session : Session) :
    Moves endpoint session.ledger session.abortTicker.ledger := by
  refine .single (Ledger.Step.forget session.ledger ?_)
  simp only [ledger, outbox, abortTicker, Multiset.coe_le]
  exact ((List.filter_sublist.append_right _).append_right _).subperm

end Ticker

section Writer

theorem check_moves (taken : session.check = some next) :
    Moves endpoint session.ledger next.ledger := by
  unfold check at taken
  split at taken
  · rename_i checking
    cases taken
    refine moves_of_eq ?_
    simp only [ledger, outbox, checking]
    split <;> rfl
  · cases taken

theorem take_moves (taken : session.take = some next) :
    Moves endpoint session.ledger next.ledger := by
  unfold take at taken
  split at taken
  · rename_i emission channel receiving queue
    cases taken
    refine moves_of_eq ?_
    simp only [ledger, outbox, receiving, queue, WriterStage.inHand, WriterStage.held, outbox_taken,
      List.append_nil]
  · cases taken

theorem register_moves (taken : session.register = some next) :
    Moves endpoint session.ledger next.ledger := by
  unfold register at taken
  split at taken
  · rename_i emission stage
    refine .single ?_
    convert @Ledger.Step.register _ _ _ _ _ _ endpoint.labels endpoint.responseTimer
      session.ledger emission ↑(session.senders ++ session.channel) ?_ ?_ using 1
    · unfold Ledger.register
      cases own : emission.frame.ourSequenceNumber with
      | none =>
        simp only [own] at taken
        cases taken
        simp [ledger, outbox, Endpoint.labels, own, WriterStage.inHand, WriterStage.held]
      | some number =>
        simp only [own] at taken
        cases taken
        simp [ledger, outbox, Endpoint.labels, own, WriterStage.inHand, WriterStage.held,
          lookup_insert_eq]
    · simp only [ledger, outbox, stage, WriterStage.inHand]
      rw [Multiset.cons_coe, Multiset.coe_eq_coe]
      exact List.perm_append_singleton _ _
    · simp only [ledger, stage, WriterStage.held]
  · cases taken

theorem write_moves {outcome : WriteOutcome} (taken : session.write outcome = some next) :
    Moves endpoint session.ledger next.ledger := by
  unfold write at taken
  split at taken
  · rename_i emission stage
    split at taken
    · cases outcome with
      | accepted count =>
        cases taken
        refine .single ?_
        convert @Ledger.Step.write _ _ _ _ _ _ endpoint.labels endpoint.responseTimer
          session.ledger emission (by simp only [ledger, stage, WriterStage.held]) using 1
        simp only [ledger, outbox, stage, WriterStage.inHand, WriterStage.held]
      | failed =>
        cases taken
        refine moves_of_eq ?_
        simp only [ledger, outbox, stage, WriterStage.inHand, WriterStage.held]
    · cases taken
  · cases taken

theorem rollback_moves (taken : session.rollback = some next) :
    Moves endpoint session.ledger next.ledger := by
  unfold rollback at taken
  split at taken
  · rename_i emission stage
    refine .single ?_
    convert @Ledger.Step.rollback _ _ _ _ _ _ endpoint.labels endpoint.responseTimer
      session.ledger emission (by simp only [ledger, stage, WriterStage.held]) using 1
    unfold Ledger.withdraw
    cases own : emission.frame.ourSequenceNumber with
    | none =>
      simp only [own] at taken
      cases taken
      simp only [ledger, outbox, stage, Endpoint.labels, own, WriterStage.inHand, WriterStage.held]
    | some number =>
      simp only [own] at taken
      cases taken
      simp only [ledger, outbox, stage, Endpoint.labels, own, WriterStage.inHand, WriterStage.held,
        lookup_erase_eq]
  · cases taken

end Writer

section Reader

variable (endpoint session)

theorem react_moves (place : Nat) (frame : Bytes) :
    Moves endpoint session.ledger
      { session with channel := session.channel ++ [Emission.reaction place frame] }.ledger := by
  refine .single ?_
  convert @Ledger.Step.react _ _ _ _ _ _ endpoint.labels endpoint.responseTimer session.ledger
    (Emission.reaction place frame) rfl rfl rfl using 1
  simp only [ledger, outbox, outbox_queued]

theorem proceed_moves (cursor : Nat) (control : Control) :
    Moves endpoint session.ledger (session.proceed cursor control).ledger := by
  cases control with
  | proceed => exact .refl
  | unbound => exact .refl
  | writerDead => exact abortTicker_moves session

theorem sendReply_moves (place : Nat) (frame : Bytes) (cursor : Nat) (control : Control) :
    Moves endpoint session.ledger (session.sendReply place frame cursor control).ledger :=
  (react_moves endpoint session place frame).trans (proceed_moves endpoint _ cursor control)

theorem reply_moves (place : Nat) (frame : Bytes) (cursor : Nat) (control : Control) :
    Moves endpoint session.ledger (session.reply place frame cursor control).ledger := by
  unfold reply
  split
  · exact .refl
  · split
    · exact sendReply_moves endpoint session place frame cursor control
    · exact .refl

theorem hearing_moves (pdu : Bytes) (reader : ReaderStage) :
    Moves endpoint session.ledger
      { session with received := session.received ++ [pdu], reader := reader }.ledger :=
  .single (Ledger.Step.hear session.ledger pdu)

theorem deliver_ledger (caller place : Nat) (resp : Response) :
    (session.deliver (some caller) place resp).ledger = session.ledger ∨
      (session.deliver (some caller) place resp).ledger =
        { session.ledger with
          slots := session.ledger.slots.modify caller fun slot =>
            { slot with reply := some (place, resp) } } := by
  by_cases waiting : ∃ call since, session.calls[caller]? = some call ∧ call.stage = .waiting since
  · obtain ⟨call, since, found, stage⟩ := waiting
    refine .inr (modify_ledger session caller _ fun other at_caller => ?_)
    rw [found] at at_caller
    cases at_caller
    simp only [Call.fill, stage, Call.toSlot]
  · refine .inl (same_ledger session caller fun call found => ?_)
    unfold Call.fill
    split
    · rename_i since stage
      exact absurd ⟨call, since, found, stage⟩ waiting
    · rfl

variable {pdu : Bytes} {number : UInt32} (answers : answeredNumber pdu = some number)

include answers

theorem complete_moves {entry : Entry}
    (found : session.pendingRequests.lookup number = some entry) (reader : ReaderStage) :
    Moves endpoint session.ledger
      ({ session with received := session.received ++ [pdu], reader := reader }.complete number
        session.received.length).ledger := by
  refine .single ?_
  convert @Ledger.Step.settle _ _ _ _ _ _ endpoint.labels endpoint.responseTimer session.ledger
    pdu number entry answers found using 1
  simp only [ledger, outbox, complete, lookup_erase_eq]

theorem deliver_moves {entry : Entry}
    (found : session.pendingRequests.lookup number = some entry) (reader : ReaderStage)
    (resp : Response) :
    Moves endpoint session.ledger
      (({ session with received := session.received ++ [pdu], reader := reader }.complete number
        session.received.length).deliver entry.caller session.received.length resp).ledger := by
  have settled := complete_moves endpoint session answers found reader
  cases waits : entry.caller with
  | none => exact settled
  | some caller =>
    rcases deliver_ledger ({ session with
      received := session.received ++ [pdu], reader := reader }.complete number
        session.received.length) caller session.received.length resp with same | filled
    · rw [same]
      exact settled
    · rw [filled]
      refine .single ?_
      convert @Ledger.Step.deliver _ _ _ _ _ _ endpoint.labels endpoint.responseTimer
        session.ledger pdu number entry caller resp answers found waits using 1
      simp only [ledger, outbox, complete, lookup_erase_eq]

theorem settle_moves (reader : ReaderStage) (cursor : Nat) (settlement : Settlement) :
    Moves endpoint session.ledger
      ({ session with received := session.received ++ [pdu], reader := reader }.settle endpoint
        number session.received.length cursor settlement).ledger := by
  unfold settle
  dsimp only
  split
  · exact hearing_moves endpoint session pdu reader
  · rename_i entry found
    have settled := complete_moves endpoint session answers found reader
    split
    · exact settled
    · cases settlement with
      | deliver resp closes =>
        cases closes <;> exact deliver_moves endpoint session answers found reader resp
      | refuse reply =>
        cases reply with
        | none => exact settled
        | some frame => exact settled.trans (reply_moves endpoint _ _ frame cursor .proceed)
      | panic => exact settled

theorem settleLink_moves (cursor : Nat) :
    Moves endpoint session.ledger (session.settleLink endpoint pdu number cursor).ledger := by
  unfold settleLink
  dsimp only
  split
  · exact hearing_moves endpoint session pdu _
  · rename_i entry found
    have settled := complete_moves endpoint session answers found
      (.extracting (cursor + pdu.length))
    split <;> exact settled

theorem link_moves (cursor : Nat) :
    Moves endpoint session.ledger (session.link endpoint pdu number cursor).ledger := by
  unfold link
  split
  · exact settleLink_moves endpoint session answers cursor
  · split
    · exact settleLink_moves endpoint { session with links := session.links ++ [number] } answers
        cursor
    · exact .refl

omit answers

theorem dispatch_moves {header : CommandHeader} {pdu : Bytes}
    (framed : CommandHeader.decode pdu = .ok header) (cursor : Nat) :
    Moves endpoint session.ledger (session.dispatch endpoint header pdu cursor).ledger := by
  have answers := answeredNumber_settles endpoint framed
  have heard := hearing_moves endpoint session pdu (.extracting (cursor + pdu.length))
  unfold dispatch
  cases branch : endpoint.branch header pdu with
  | request request => exact heard
  | alert alert => exact heard
  | reply frame => exact heard.trans (reply_moves endpoint _ _ frame _ .proceed)
  | unbind unbind => exact heard.trans (abortTicker_moves _)
  | unbindReject frame =>
    exact (heard.trans (abortTicker_moves _)).trans (reply_moves endpoint _ _ frame _ .unbound)
  | linkResp => exact link_moves endpoint session (answers (by rw [branch]; rfl)) cursor
  | response settlement =>
    exact settle_moves endpoint session (answers (by rw [branch]; rfl)) _ _ settlement
  | panic => exact heard

theorem takeUp_moves (pdu : Bytes) (cursor : Nat) :
    Moves endpoint session.ledger (session.takeUp endpoint pdu cursor).ledger := by
  unfold takeUp
  split
  · rename_i header framed
    exact dispatch_moves endpoint session framed cursor
  · exact (hearing_moves endpoint session pdu session.reader).trans
      (reply_moves endpoint _ _ _ _ .writerDead)

theorem finishRead_moves (cursor : Nat) :
    Moves endpoint session.ledger (session.finishRead endpoint cursor).ledger := by
  refine .single (Ledger.Step.sweep session.ledger fun number => ?_)
  simp only [ledger, finishRead, lookup_sweep]
  cases found : session.pendingRequests.lookup number with
  | none => exact .inl rfl
  | some entry =>
    rw [Option.filter_some]
    split
    · exact .inl rfl
    · rename_i late
      refine .inr ⟨rfl, entry, rfl, ?_⟩
      simp only [lapsed, Bool.not_eq_true', decide_eq_false_iff_not, not_not] at late
      exact late

variable {endpoint session}

theorem extract_moves (taken : session.extract endpoint = some next) :
    Moves endpoint session.ledger next.ledger := by
  unfold extract at taken
  split at taken
  · split at taken
    · cases taken
      exact finishRead_moves endpoint session _
    · cases taken
      exact .refl
    · cases taken
      exact takeUp_moves endpoint session _ _
  · cases taken

theorem receive_moves {piece : Bytes} (taken : session.receive piece = some next) :
    Moves endpoint session.ledger next.ledger := by
  unfold receive at taken
  split at taken
  · cases taken
    exact .refl
  · cases taken

theorem hangUp_moves (taken : session.hangUp = some next) :
    Moves endpoint session.ledger next.ledger := by
  unfold hangUp at taken
  split at taken
  · cases taken
    exact .refl
  · cases taken

theorem idle_moves (taken : session.idle endpoint = some next) :
    Moves endpoint session.ledger next.ledger := by
  unfold idle at taken
  split at taken
  · split at taken <;> cases taken <;> exact .refl
  · cases taken

theorem enqueueReply_moves (taken : session.enqueueReply = some next) :
    Moves endpoint session.ledger next.ledger := by
  unfold enqueueReply at taken
  split at taken
  · split at taken
    · cases taken
      exact .refl
    · split at taken
      · cases taken
        exact sendReply_moves endpoint session _ _ _ _
      · cases taken
  · cases taken

theorem unbound_moves {resp : UnbindResp} (taken : session.unbound resp = some next) :
    Moves endpoint session.ledger next.ledger := by
  unfold unbound at taken
  split at taken
  · cases taken
    exact reply_moves endpoint session _ _ _ _
  · cases taken

theorem close_moves (taken : session.close = some next) :
    Moves endpoint session.ledger next.ledger := by
  unfold close at taken
  split at taken
  · cases taken
    have aborted : Moves endpoint session.ledger session.abortTicker.ledger :=
      abortTicker_moves session
    have dropped := Relation.ReflTransGen.tail aborted
      (Ledger.Step.abandon session.abortTicker.ledger)
    refine dropped.tail (Ledger.Step.forget _ ?_)
    simp only [ledger, outbox, abortTicker, WriterStage.inHand, List.append_nil, Multiset.coe_le]
    exact (List.sublist_append_left _ _).subperm
  · cases taken

theorem stop_moves (taken : session.stop endpoint = some next) :
    Moves endpoint session.ledger next.ledger := by
  unfold stop at taken
  split at taken
  · cases taken
    exact .refl
  · cases taken

theorem respond_moves {handler : Nat} {resp : Response}
    (taken : session.respond handler resp = some next) :
    Moves endpoint session.ledger next.ledger := by
  unfold respond at taken
  split at taken
  · rename_i place request found
    split at taken
    · cases taken
      refine .single ?_
      convert @Ledger.Step.react _ _ _ _ _ _ endpoint.labels endpoint.responseTimer session.ledger
        (Emission.reaction place resp.encode) rfl rfl rfl using 1
      simp only [ledger, outbox, outbox_sender]
    · cases taken
  · cases taken

theorem enqueueNumber_moves (consistent : session.Consistent endpoint)
    (taken : session.enqueueNumber endpoint = some next) :
    Moves endpoint session.ledger next.ledger := by
  unfold enqueueNumber at taken
  split at taken
  · rename_i pdu number cursor stage
    have answers : answeredNumber pdu = some number := by
      refine consistent.linked pdu number ?_
      rw [stage]
      rfl
    split at taken
    · cases taken
      exact settleLink_moves endpoint session answers cursor
    · split at taken
      · cases taken
        exact settleLink_moves endpoint { session with links := session.links ++ [number] } answers
          cursor
      · cases taken
  · cases taken

end Reader

/-- Every step of a session is made of moves of its ledger. -/
theorem step_moves (consistent : session.Consistent endpoint) {event : Event}
    (taken : session.step endpoint event = some next) :
    Moves endpoint session.ledger next.ledger := by
  cases event with
  | advance duration =>
    cases taken
    exact .single (Ledger.Step.wait session.ledger (Nat.le_add_right _ _))
  | call request => exact call_moves consistent taken
  | enqueue sender => exact enqueue_moves taken
  | resolve caller => exact resolve_moves taken
  | expire caller => exact expire_moves taken
  | disconnect caller => exact disconnect_moves taken
  | tick => exact tick_moves consistent taken
  | linkArrives => exact linkArrives_moves taken
  | linkExpires => exact linkExpires_moves taken
  | linkFails => exact linkFails_moves taken
  | check => exact check_moves taken
  | take => exact take_moves taken
  | register => exact register_moves taken
  | write outcome => exact write_moves taken
  | rollback => exact rollback_moves taken
  | receive piece => exact receive_moves taken
  | hangUp => exact hangUp_moves taken
  | idle => exact idle_moves taken
  | extract => exact extract_moves taken
  | enqueueReply => exact enqueueReply_moves taken
  | enqueueNumber => exact enqueueNumber_moves consistent taken
  | unbound resp => exact unbound_moves taken
  | close => exact close_moves taken
  | stop => exact stop_moves taken
  | respond handler resp => exact respond_moves taken

theorem supply_succ (endpoint : Endpoint) (i : Nat) :
    endpoint.labels.supply (i + 1) = endpoint.labels.supply i + 1 := by
  simp only [Endpoint.labels, UInt32.ofNat_add, UInt32.add_assoc]
  rfl

section Links

variable (endpoint session)

theorem reply_links (place : Nat) (frame : Bytes) (cursor : Nat) (control : Control) :
    (session.reply place frame cursor control).reader.links = none := by
  obtain ⟨senders, channel, ticker, reader, same, -, stands⟩ :=
    reply_eq session place frame cursor control
  rw [same]
  rcases stands with ⟨rfl, -⟩ | rfl | rfl <;> rfl

theorem settle_links (number : UInt32) (place cursor : Nat) (settlement : Settlement)
    (none : session.reader.links = none) :
    (session.settle endpoint number place cursor settlement).reader.links = .none := by
  unfold settle
  split
  · exact none
  · rename_i entry found
    dsimp only
    split
    · exact none
    · cases settlement with
      | deliver resp closes =>
        cases closes
        · cases entry.caller <;> exact none
        · rfl
      | refuse reply =>
        cases reply with
        | none => exact none
        | some frame => exact reply_links _ place frame cursor .proceed
      | panic => rfl

theorem settleLink_links (pdu : Bytes) (number : UInt32) (cursor : Nat) :
    (session.settleLink endpoint pdu number cursor).reader.links = none := by
  unfold settleLink
  dsimp only
  split
  · rfl
  · split <;> rfl

theorem takeUp_links (pdu : Bytes) (cursor : Nat) {waited : Bytes} {number : UInt32}
    (links : (session.takeUp endpoint pdu cursor).reader.links = some (waited, number)) :
    answeredNumber waited = some number := by
  unfold takeUp at links
  split at links
  · rename_i header framed
    have answers := answeredNumber_settles endpoint framed
    unfold dispatch at links
    cases branch : endpoint.branch header pdu <;> simp only [branch] at links
    case linkResp =>
      unfold link at links
      split at links
      · rw [settleLink_links] at links
        cases links
      · split at links
        · rw [settleLink_links] at links
          cases links
        · cases links
          exact answers (by rw [branch]; rfl)
    case reply frame =>
      rw [reply_links] at links
      cases links
    case unbindReject frame =>
      rw [reply_links] at links
      cases links
    case response settlement =>
      rw [settle_links _ _ _ _ _ _ rfl] at links
      cases links
    all_goals cases links
  · rw [reply_links] at links
    cases links

end Links

theorem step_links {event : Event} {pdu : Bytes} {number : UInt32}
    (taken : session.step endpoint event = some next)
    (links : next.reader.links = some (pdu, number)) :
    session.reader.links = some (pdu, number) ∨ answeredNumber pdu = some number := by
  by_cases reads : event.ofReader = true
  · cases step_reader reads taken with
    | waits stage => exact .inl links
    | finishes stage =>
      unfold finishRead at links
      dsimp only at links
      split at links <;> cases links
    | takesUp stage whole => exact .inr (takeUp_links endpoint session _ _ links)
    | @queuesReply place frame cursor control stage => cases control <;> cases links
    | queuesNumber stage =>
      rw [settleLink_links] at links
      cases links
    | answers stage =>
      rw [reply_links] at links
      cases links
    | _ stage => cases links
  · rw [(step_elsewhere (Bool.not_eq_true _ ▸ reads) taken).1] at links
    exact .inl links

theorem step_consistent (consistent : session.Consistent endpoint) {event : Event}
    (taken : session.step endpoint event = some next) : next.Consistent endpoint := by
  constructor
  · rcases step_numbers taken with ⟨number, issued⟩ | ⟨-, number, issued⟩
    · rw [number, issued]
      exact consistent.supplied
    · rw [number, issued, supply_succ, consistent.supplied]
  · intro pdu number links
    rcases step_links taken links with before | answers
    · exact consistent.linked pdu number before
    · exact answers

theorem start_ledger (endpoint : Endpoint) : endpoint.start.ledger = Ledger.empty := rfl

theorem start_consistent (endpoint : Endpoint) : endpoint.start.Consistent endpoint := by
  refine ⟨?_, nofun⟩
  simp [Endpoint.start, Endpoint.labels]

theorem supply_injective (endpoint : Endpoint) :
    ∀ i < 2 ^ 32, ∀ j < 2 ^ 32, endpoint.labels.supply i = endpoint.labels.supply j → i = j := by
  intro i small j smaller same
  simp only [Endpoint.labels, UInt32.add_right_inj] at same
  have values := congrArg UInt32.toNat same
  rwa [UInt32.toNat_ofNat_of_lt' small, UInt32.toNat_ofNat_of_lt' smaller] at values

/-- The ledger of a session stays sound as long as fewer than 2^32 numbers are drawn. -/
theorem run_ledger_sound {events : List Event}
    (reached : Machine.run (step endpoint) endpoint.start events = some session)
    (room : session.issued ≤ 2 ^ 32) :
    session.Consistent endpoint ∧ session.ledger.Sound endpoint.labels endpoint.responseTimer := by
  have consistent : session.Consistent endpoint :=
    Machine.run_invariant (fun _ _ _ before taken => step_consistent before taken)
      (start_consistent endpoint) reached
  have moves : Moves endpoint endpoint.start.ledger session.ledger :=
    Machine.run_refines (fun _ _ _ before taken => step_consistent before taken)
      (fun _ _ _ before taken => step_moves before taken) (start_consistent endpoint) reached
  exact ⟨consistent, Ledger.run_sound (supply_injective endpoint)
    (start_ledger endpoint ▸ Ledger.empty_sound) room moves⟩

end Session

end Smpp34
