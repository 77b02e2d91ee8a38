import Smpp34.Session.Ledger

namespace Smpp34

open Octets
open Correlation
open Machine (run)

def Request.responseOf (request : Request) (pdu : Bytes) : Option Response :=
  match CommandHeader.decode pdu with
  | .error _ => none
  | .ok header =>
    match request with
    | submitSm _ => expect header .submitSmResp (SubmitSmResp.decode header pdu) .submitSm
    | submitSmMulti _ =>
      expect header .submitMultiResp (SubmitSmMultiResp.decode header pdu) .submitSmMulti
    | deliverSm _ => expect header .deliverSmResp (DeliverSmResp.decode header pdu) .deliverSm
    | dataSm _ => expect header .dataSmResp (DataSmResp.decode header pdu) .dataSm
    | cancelSm _ => expect header .cancelSmResp (CancelSmResp.decode header pdu) .cancelSm
    | querySm _ => expect header .querySmResp (QuerySmResp.decode header pdu) .querySm
    | replaceSm _ => expect header .replaceSmResp (ReplaceSmResp.decode header pdu) .replaceSm
    | unbind _ => expect header .unbindResp (UnbindResp.decode header pdu) .unbind
    | _ => none
where
  expect {α : Type} (header : CommandHeader) (id : CommandId) (decoded : Decoded α)
      (wrap : α → Response) : Option Response :=
    if header.commandId = id.value then decoded.toOption.map wrap else none

theorem Request.expect_eq_some {α : Type} {header : CommandHeader} {id : CommandId}
    {decoded : Decoded α} {wrap : α → Response} {resp : Response}
    (expected : responseOf.expect header id decoded wrap = some resp) :
    header.commandId = id.value ∧ ∃ value, decoded = .ok value ∧ wrap value = resp := by
  unfold responseOf.expect at expected
  split at expected
  · rename_i same
    obtain ⟨value, found, rfl⟩ := Option.map_eq_some_iff.mp expected
    cases decoded with
    | error fault => cases found
    | ok other =>
      cases found
      exact ⟨same, value, rfl, rfl⟩
  · cases expected

theorem settled_ok {α : Type} {decoded : Decoded α} {value : α} (ok : decoded = .ok value)
    (onOk : α → Response) (closes : Bool) (onError : SmppError → Option Bytes) :
    settled decoded onOk closes onError = .response (.deliver (onOk value) closes) := by
  rw [ok]
  rfl

section Branches

variable {endpoint : Endpoint} {request : Request} {header : CommandHeader} {pdu : Bytes}
  {resp : Response}

theorem Request.responseOf_matches (framed : CommandHeader.decode pdu = .ok header)
    (matching : request.responseOf pdu = some resp) :
    request.Matches resp = true ∧ request.awaited = true := by
  unfold responseOf at matching
  rw [framed] at matching
  cases request <;>
    first
    | (obtain ⟨-, value, -, rfl⟩ := expect_eq_some matching; exact ⟨rfl, rfl⟩)
    | cases matching

theorem client_delivers (client : endpoint.side = .client)
    (sends : endpoint.maySend request = true) (framed : CommandHeader.decode pdu = .ok header)
    (matching : request.responseOf pdu = some resp) :
    ∃ closes, endpoint.branch header pdu = .response (.deliver resp closes) := by
  have chain : endpoint.branch header pdu = clientBranch endpoint.bound header pdu := by
    rw [Endpoint.branch, client]
    rfl
  rw [chain]
  unfold Request.responseOf at matching
  rw [framed] at matching
  cases request with
  | submitSm request =>
    obtain ⟨same, value, ok, rfl⟩ := Request.expect_eq_some matching
    have transmits : endpoint.bound.transmits = true := by
      simpa [Endpoint.maySend, client] using sends
    exact ⟨false, (clientBranch_submitSmResp same transmits).trans (settled_ok ok _ _ _)⟩
  | submitSmMulti request =>
    obtain ⟨same, value, ok, rfl⟩ := Request.expect_eq_some matching
    have transmits : endpoint.bound.transmits = true := by
      simpa [Endpoint.maySend, client] using sends
    exact ⟨false, (clientBranch_submitMultiResp same transmits).trans (settled_ok ok _ _ _)⟩
  | dataSm request =>
    obtain ⟨same, value, ok, rfl⟩ := Request.expect_eq_some matching
    have transmits : endpoint.bound.transmits = true := by
      simpa [Endpoint.maySend, client] using sends
    exact ⟨false, (clientBranch_dataSmResp same transmits).trans (settled_ok ok _ _ _)⟩
  | cancelSm request =>
    obtain ⟨same, value, ok, rfl⟩ := Request.expect_eq_some matching
    exact ⟨false, (clientBranch_cancelSmResp same).trans (settled_ok ok _ _ _)⟩
  | querySm request =>
    obtain ⟨same, value, ok, rfl⟩ := Request.expect_eq_some matching
    exact ⟨false, (clientBranch_querySmResp same).trans (settled_ok ok _ _ _)⟩
  | replaceSm request =>
    obtain ⟨same, value, ok, rfl⟩ := Request.expect_eq_some matching
    exact ⟨false, (clientBranch_replaceSmResp same).trans (settled_ok ok _ _ _)⟩
  | unbind request =>
    obtain ⟨same, value, ok, rfl⟩ := Request.expect_eq_some matching
    exact ⟨true, (clientBranch_unbindResp same).trans (settled_ok ok _ _ _)⟩
  | deliverSm request => simp [Endpoint.maySend, client] at sends
  | enquireLink request => cases matching
  | bind kind request => cases matching
  | alertNotification request => cases matching
  | outbind request => cases matching

/-- The requests whose response the server's read loop has a branch for. -/
def Served (bound : BoundType) : Request → Prop
  | .dataSm _ => True
  | .deliverSm _ => bound ≠ .rx
  | _ => False

theorem server_delivers (server : endpoint.side = .server) (served : Served endpoint.bound request)
    (framed : CommandHeader.decode pdu = .ok header)
    (matching : request.responseOf pdu = some resp) :
    endpoint.branch header pdu = .response (.deliver resp false) := by
  have chain : endpoint.branch header pdu = serverBranch endpoint.bound header pdu := by
    rw [Endpoint.branch, server]
    rfl
  rw [chain]
  unfold Request.responseOf at matching
  rw [framed] at matching
  cases request with
  | dataSm request =>
    obtain ⟨same, value, ok, rfl⟩ := Request.expect_eq_some matching
    exact (serverBranch_dataSmResp same).trans (settled_ok ok _ _ _)
  | deliverSm request =>
    obtain ⟨same, value, ok, rfl⟩ := Request.expect_eq_some matching
    have transmits : endpoint.bound.transmits = true := by
      unfold Served at served
      cases bound : endpoint.bound with
      | rx => exact absurd bound served
      | tx => rfl
      | trx => rfl
    exact (serverBranch_deliverSmResp same transmits).trans (settled_ok ok _ _ _)
  | _ => exact served.elim

theorem server_nacks (server : endpoint.side = .server)
    (sends : endpoint.maySend request = true) (unserved : ¬ Served endpoint.bound request)
    (framed : CommandHeader.decode pdu = .ok header)
    (matching : request.responseOf pdu = some resp) :
    endpoint.branch header pdu = .reply (nack .ESME_RINVCMDID (potentialSeqNo pdu)) := by
  have chain : endpoint.branch header pdu = serverBranch endpoint.bound header pdu := by
    rw [Endpoint.branch, server]
    rfl
  rw [chain]
  unfold Request.responseOf at matching
  rw [framed] at matching
  cases request with
  | dataSm request => exact absurd trivial unserved
  | deliverSm request =>
    obtain ⟨same, -⟩ := Request.expect_eq_some matching
    have receiver : endpoint.bound = .rx := not_not.mp unserved
    exact serverBranch_deliverSmResp_rx same (by rw [receiver]; rfl)
  | unbind request =>
    obtain ⟨same, -⟩ := Request.expect_eq_some matching
    exact serverBranch_unbindResp same
  | alertNotification request => cases matching
  | _ => simp [Endpoint.maySend, server] at sends

end Branches

namespace Session

def upcoming (session : Session) : Option (Bytes × Nat) :=
  match session.reader with
  | .extracting cursor =>
    match nextPdu session.buffer cursor with
    | .complete size => some ((session.buffer.drop cursor).take size, cursor)
    | _ => none
  | _ => none

theorem extract_upcoming {endpoint : Endpoint} {session : Session} {pdu : Bytes} {cursor : Nat}
    (coming : session.upcoming = some (pdu, cursor)) :
    session.step endpoint .extract = some (session.takeUp endpoint pdu cursor) := by
  unfold upcoming at coming
  split at coming
  · rename_i here stage
    split at coming
    · rename_i size whole
      cases coming
      simp only [step, extract, stage, whole]
    · cases coming
  · cases coming

/-- The read loop comes to the first response to a request that is on the wire: it is of the
    matching type and decodes, it is in time, and the caller still waits. -/
structure Answering (endpoint : Endpoint) (session : Session) (caller : Nat) (call : Call)
    (pdu : Bytes) (resp : Response) : Prop where
  asked : session.calls[caller]? = some call
  waits : ∃ since, call.stage = .waiting since
  onWire : ∃ emission ∈ session.sent, emission.origin = .call caller
  next : ∃ cursor, session.upcoming = some (pdu, cursor)
  matching : call.request.responseOf pdu = some resp
  number : answeredNumber pdu = some call.number
  first : ∀ registration ∈ session.registrations, registration.key = call.number →
    ∀ earlier ∈ session.received.drop registration.heard,
      answeredNumber earlier ≠ some call.number
  inTime : ∀ registration ∈ session.registrations, registration.key = call.number →
    session.now - registration.entry.time ≤ endpoint.responseTimer

/-- The caller has the response of one place of the stream: it returns `Ok` of it as soon as it
    runs, or has done so. -/
def Got (endpoint : Endpoint) (session : Session) (caller place : Nat) (resp : Response) : Prop :=
  ∃ call, session.calls[caller]? = some call ∧ call.slot = some (place, resp) ∧
    (((∃ since, call.stage = .waiting since) ∧
        session.step endpoint (.resolve caller) = some (session.returned caller (.ok resp))) ∨
      call.stage = .returned (.ok resp))

section Answering

variable {endpoint : Endpoint} {session : Session} {caller : Nat} {call : Call} {pdu : Bytes}
  {resp : Response}

theorem Answering.framed (answering : session.Answering endpoint caller call pdu resp) :
    ∃ header, CommandHeader.decode pdu = .ok header ∧ header.sequenceNumber = call.number := by
  have number := answering.number
  unfold answeredNumber at number
  split at number
  · rename_i header framed
    split at number
    · cases number
    · exact ⟨header, framed, Option.some.inj number⟩
  · cases number

theorem sent_carried (sound : session.ledger.Sound endpoint.labels endpoint.responseTimer)
    {emission : Emission} (sent : emission ∈ session.sent) (origin : emission.origin = .call caller)
    (asked : session.calls[caller]? = some call) :
    emission.frame.ourSequenceNumber = some call.number ∧
      endpoint.labels.carries call.request call.number emission := by
  obtain ⟨slot, found, key, carries⟩ := (sound.carried emission (.inr (.inr sent))).carries caller
    (by simp [Endpoint.labels, origin, Origin.caller])
  have same : slot = call.toSlot := by
    simp only [ledger, List.getElem?_map, asked, Option.map_some, Option.some.injEq] at found
    exact found.symm
  subst same
  exact ⟨key, carries⟩

theorem Answering.pending (answering : session.Answering endpoint caller call pdu resp)
    (sound : session.ledger.Sound endpoint.labels endpoint.responseTimer) :
    ∃ entry, session.pendingRequests.lookup call.number = some entry ∧
      entry.caller = some caller ∧ session.now - entry.time ≤ endpoint.responseTimer := by
  obtain ⟨header, framed, -⟩ := answering.framed
  obtain ⟨emission, sent, origin⟩ := answering.onWire
  obtain ⟨key, sends, encoded, oneshot⟩ := sent_carried sound sent origin answering.asked
  have awaited := (Request.responseOf_matches framed answering.matching).2
  obtain ⟨registration, member, same, waits⟩ :=
    sound.kept.recorded emission (.inr sent) call.number key
  have wired : 1 ≤ session.ledger.onWire endpoint.labels registration.key := by
    refine List.countP_pos_iff.mpr ⟨emission, List.mem_append_left _ sent, ?_⟩
    rw [same]
    exact decide_eq_true key
  have inTime := answering.inTime registration member same
  have first := answering.first registration member same
  rw [← same] at first
  have found := sound.kept.pending registration member wired inTime first
  refine ⟨registration.entry, same ▸ found, ?_, inTime⟩
  rw [waits]
  simp [Endpoint.labels, oneshot, awaited, origin, Origin.caller]

theorem Answering.sends (answering : session.Answering endpoint caller call pdu resp)
    (sound : session.ledger.Sound endpoint.labels endpoint.responseTimer) :
    endpoint.maySend call.request = true := by
  obtain ⟨emission, sent, origin⟩ := answering.onWire
  exact (sent_carried sound sent origin answering.asked).2.1

theorem Answering.slot_empty (answering : session.Answering endpoint caller call pdu resp)
    (sound : session.ledger.Sound endpoint.labels endpoint.responseTimer) : call.slot = none := by
  obtain ⟨entry, found, waits, -⟩ := answering.pending sound
  obtain ⟨slot, at_caller, -, empty⟩ :=
    sound.claimed.pending call.number entry caller found waits
  simp only [ledger, List.getElem?_map, answering.asked, Option.map_some, Option.some.injEq]
    at at_caller
  subst at_caller
  exact empty

theorem Answering.extract (answering : session.Answering endpoint caller call pdu resp) :
    ∃ cursor, session.step endpoint .extract = some (session.takeUp endpoint pdu cursor) := by
  obtain ⟨cursor, coming⟩ := answering.next
  exact ⟨cursor, extract_upcoming coming⟩

end Answering

section Delivery

variable {endpoint : Endpoint} {session next : Session} {caller : Nat} {pdu : Bytes}
  {header : CommandHeader} {resp : Response} {closes : Bool} {entry : Entry}

/-- A response that comes in time reaches the caller of its entry, and nothing is sent for it. -/
theorem takeUp_delivers (framed : CommandHeader.decode pdu = .ok header)
    (branch : endpoint.branch header pdu = .response (.deliver resp closes))
    (found : session.pendingRequests.lookup header.sequenceNumber = some entry)
    (waits : entry.caller = some caller)
    (inTime : session.now - entry.time ≤ endpoint.responseTimer) (cursor : Nat) :
    session.takeUp endpoint pdu cursor =
      { session with
        received := session.received ++ [pdu]
        reader := if closes then .leaving else .extracting (cursor + pdu.length)
        pendingRequests := session.pendingRequests.erase header.sequenceNumber
        completions := session.completions ++ [(header.sequenceNumber, session.received.length)]
        calls := session.calls.modify caller fun call =>
          call.fill session.received.length resp } := by
  simp only [takeUp, framed, dispatch, branch, settle, found, complete, lapsed, waits, deliver]
  split
  · rename_i late
    exact absurd (of_decide_eq_true late) (Nat.not_lt.mpr inTime)
  · cases closes <;> rfl

theorem fill_waiting {call : Call} {since : Nat} (stage : call.stage = .waiting since) (place : Nat)
    (resp : Response) : call.fill place resp = { call with slot := some (place, resp) } := by
  unfold Call.fill
  rw [stage]

end Delivery

section Persistence

variable {endpoint : Endpoint} {session next : Session}

theorem reply_calls (session : Session) (place : Nat) (frame : Bytes) (cursor : Nat)
    (control : Control) : (session.reply place frame cursor control).calls = session.calls := by
  obtain ⟨senders, channel, ticker, reader, same, -⟩ := reply_eq session place frame cursor control
  rw [same]

theorem modify_stages {calls : List Call} {caller : Nat} {change : Call → Call}
    (keeps : ∀ call, (change call).stage = call.stage) :
    (calls.modify caller change).map Call.stage = calls.map Call.stage := by
  apply List.ext_getElem?
  intro place
  rw [List.getElem?_map, List.getElem?_map, List.getElem?_modify]
  cases calls[place]? with
  | none => rfl
  | some call =>
    simp only [Option.map_eq_map, Option.map_some, Option.some.injEq]
    split
    · exact keeps call
    · rfl

theorem fill_stage (call : Call) (place : Nat) (resp : Response) :
    (call.fill place resp).stage = call.stage := by
  unfold Call.fill
  split <;> rfl

theorem settle_stages (session : Session) (number : UInt32) (place cursor : Nat)
    (settlement : Settlement) :
    (session.settle endpoint number place cursor settlement).calls.map Call.stage =
      session.calls.map Call.stage := by
  unfold settle
  split
  · rfl
  · rename_i entry found
    dsimp only
    split
    · rfl
    · cases settlement with
      | deliver resp closes =>
        have delivered : ((session.complete number place).deliver entry.caller place resp).calls.map
            Call.stage = session.calls.map Call.stage := by
          cases entry.caller with
          | none => rfl
          | some caller => exact modify_stages fun call => fill_stage call place resp
        cases closes <;> exact delivered
      | refuse reply =>
        cases reply with
        | none => rfl
        | some frame => exact congrArg _ (reply_calls _ place frame cursor .proceed)
      | panic => rfl

theorem settleLink_calls (session : Session) (pdu : Bytes) (number : UInt32) (cursor : Nat) :
    (session.settleLink endpoint pdu number cursor).calls = session.calls := by
  unfold settleLink
  dsimp only
  split
  · rfl
  · split <;> rfl

theorem takeUp_stages (session : Session) (pdu : Bytes) (cursor : Nat) :
    (session.takeUp endpoint pdu cursor).calls.map Call.stage = session.calls.map Call.stage := by
  unfold takeUp
  split
  · unfold dispatch
    dsimp only
    split
    · rfl
    · rfl
    · exact congrArg _ (reply_calls _ _ _ _ .proceed)
    · rfl
    · exact congrArg _ (reply_calls _ _ _ _ .unbound)
    · unfold link
      split
      · exact congrArg _ (settleLink_calls session _ _ _)
      · split
        · exact congrArg _ (settleLink_calls _ _ _ _)
        · rfl
    · exact settle_stages _ _ _ _ _
    · rfl
  · exact congrArg _ (reply_calls _ _ _ _ .writerDead)

def Holding (session : Session) (caller place : Nat) (resp : Response) : Prop :=
  ∃ call, session.calls[caller]? = some call ∧ call.slot = some (place, resp) ∧
    call.request.outcome resp = .ok resp ∧
    ((∃ since, call.stage = .waiting since) ∨ call.stage = .returned (.ok resp))

theorem Holding.got {caller place : Nat} {resp : Response}
    (holding : session.Holding caller place resp) : session.Got endpoint caller place resp := by
  obtain ⟨call, found, slot, outcome, waiting | returned⟩ := holding
  · refine ⟨call, found, slot, .inl ⟨waiting, ?_⟩⟩
    obtain ⟨since, stage⟩ := waiting
    obtain ⟨request, number, _, _⟩ := call
    cases slot
    cases stage
    simp only [step, resolve, found]
    rw [outcome]
  · exact ⟨call, found, slot, .inr returned⟩

theorem Holding.of_stage {caller place : Nat} {resp : Response} {call call' : Call}
    (slot : call.slot = some (place, resp)) (outcome : call.request.outcome resp = .ok resp)
    (standing : (∃ since, call.stage = .waiting since) ∨ call.stage = .returned (.ok resp))
    (found : next.calls[caller]? = some call') (same : call'.toSlot = call.toSlot)
    (stage : call'.stage = call.stage ∨ call'.stage = .returned (.ok resp)) :
    next.Holding caller place resp := by
  have request : call'.request = call.request := congrArg Slot.ask same
  have slot' : call'.slot = call.slot := congrArg Slot.reply same
  refine ⟨call', found, slot'.trans slot, by rw [request]; exact outcome, ?_⟩
  rcases stage with kept | returned
  · rw [kept]
    exact standing
  · exact .inr returned

theorem stages_kept {caller : Nat} {call call' : Call}
    (stages : next.calls.map Call.stage = session.calls.map Call.stage)
    (found : session.calls[caller]? = some call) (found' : next.calls[caller]? = some call') :
    call'.stage = call.stage := by
  have same := congrArg (fun stages : List CallStage => stages[caller]?) stages
  simp only [List.getElem?_map, found, found', Option.map_some, Option.some.injEq] at same
  exact same

theorem modified_stage {caller other : Nat} {call call' : Call} {change : Call → Call}
    (found : session.calls[caller]? = some call)
    (found' : (session.calls.modify other change)[caller]? = some call') :
    (other = caller ∧ call' = change call) ∨ call' = call := by
  rw [List.getElem?_modify, found] at found'
  cases found'
  split
  · rename_i same
    exact .inl ⟨same, rfl⟩
  · exact .inr rfl

theorem queued_stage {call : Call} (moved : call.stage ≠ .queueing) (now : Nat) :
    call.queued now = call := by
  unfold Call.queued
  split
  · rename_i stage
    exact absurd stage moved
  · rfl

inductive StageMove (session : Session) : Event → Session → Prop
  | kept {event : Event} {next : Session}
      (same : next.calls.map Call.stage = session.calls.map Call.stage) :
      StageMove session event next
  | called {request : Request} {next : Session} {call : Call}
      (new : next.calls = session.calls ++ [call]) (stage : call.stage = .queueing) :
      StageMove session (.call request) next
  | queued {event : Event} {next : Session} {caller : Nat}
      (changed : next.calls = session.calls.modify caller fun call => call.queued session.now) :
      StageMove session event next
  | resolved {event : Event} {next : Session} {caller place since : Nat} {number : UInt32}
      {request : Request} {resp : Response}
      (found : session.calls[caller]? = some ⟨request, number, .waiting since, some (place, resp)⟩)
      (changed : next = session.returned caller (request.outcome resp)) :
      StageMove session event next
  | dropped {event : Event} {next : Session} {caller : Nat} {call : Call}
      (found : session.calls[caller]? = some call)
      (unanswered : call.stage = .queueing ∨ call.slot = none)
      (changed : next = session.returned caller (.error .ESME_RSYSERR)) :
      StageMove session event next

theorem step_stages {event : Event} (taken : session.step endpoint event = some next) :
    StageMove session event next := by
  cases event with
  | advance duration =>
    cases taken
    exact .kept rfl
  | call request =>
    simp only [step, Session.call] at taken
    split at taken
    · obtain ⟨frame, encoded, rfl⟩ := Option.map_eq_some_iff.mp taken
      exact .called rfl rfl
    · cases taken
  | enqueue sender =>
    simp only [step, enqueue] at taken
    split at taken
    · rename_i emission found
      split at taken
      · cases taken
        cases origin : emission.origin with
        | call caller => exact .queued rfl
        | link =>
          unfold queued
          dsimp only
          split <;> exact .kept rfl
        | reaction place => exact .kept rfl
      · cases taken
    · cases taken
  | resolve caller =>
    simp only [step, resolve] at taken
    split at taken
    · rename_i found
      cases taken
      exact .resolved found rfl
    · cases taken
  | expire caller =>
    simp only [step, expire] at taken
    split at taken
    · rename_i found
      split at taken
      · cases taken
        exact .dropped found (.inr rfl) rfl
      · cases taken
    · cases taken
  | disconnect caller =>
    simp only [step, disconnect] at taken
    split at taken
    · rename_i found
      split at taken
      · cases taken
        exact .dropped found (.inl rfl) rfl
      · cases taken
    · rename_i found
      split at taken
      · cases taken
      · cases taken
        exact .dropped found (.inr rfl) rfl
    · cases taken
  | extract =>
    simp only [step, Session.extract] at taken
    repeat' split at taken
    all_goals cases taken
    · exact .kept rfl
    · exact .kept rfl
    · exact .kept (takeUp_stages session _ _)
  | enqueueReply =>
    simp only [step, enqueueReply] at taken
    split at taken
    · rename_i control stage
      repeat' split at taken
      all_goals cases taken
      · exact .kept rfl
      · cases control <;> exact .kept rfl
    · cases taken
  | enqueueNumber =>
    simp only [step, enqueueNumber] at taken
    repeat' split at taken
    all_goals cases taken
    all_goals exact .kept (congrArg _ (settleLink_calls _ _ _ _))
  | unbound resp =>
    simp only [step, unbound] at taken
    split at taken
    · cases taken
      exact .kept (congrArg _ (reply_calls session _ _ _ _))
    · cases taken
  | _ =>
    simp only [step, tick, linkArrives, linkExpires, linkFails, check, Session.take, register,
      Session.write, rollback, receive, hangUp, idle, close, stop, respond] at taken
    repeat' split at taken
    all_goals cases taken
    all_goals exact .kept rfl

theorem step_stage {caller place : Nat} {resp : Response} {call call' : Call} {event : Event}
    (taken : session.step endpoint event = some next)
    (found : session.calls[caller]? = some call) (found' : next.calls[caller]? = some call')
    (slot : call.slot = some (place, resp)) (outcome : call.request.outcome resp = .ok resp)
    (standing : (∃ since, call.stage = .waiting since) ∨ call.stage = .returned (.ok resp)) :
    call'.stage = call.stage ∨ call'.stage = .returned (.ok resp) := by
  have moved : call.stage ≠ .queueing := by
    rcases standing with ⟨since, stage⟩ | stage <;> rw [stage] <;> nofun
  cases step_stages taken with
  | kept stages => exact .inl (stages_kept stages found found')
  | called new stage =>
    rw [new, List.getElem?_append_left (List.getElem?_eq_some_iff.mp found).1, found] at found'
    cases found'
    exact .inl rfl
  | queued changed =>
    rw [changed] at found'
    rcases modified_stage found found' with ⟨-, rfl⟩ | rfl
    · rw [queued_stage moved]
      exact .inl rfl
    · exact .inl rfl
  | resolved at_other changed =>
    rw [changed] at found'
    rcases modified_stage found found' with ⟨rfl, rfl⟩ | rfl
    · rw [at_other] at found
      cases found
      cases slot
      exact .inr (congrArg CallStage.returned outcome)
    · exact .inl rfl
  | dropped at_other unanswered changed =>
    rw [changed] at found'
    rcases modified_stage found found' with ⟨rfl, rfl⟩ | rfl
    · rw [at_other] at found
      cases found
      rcases unanswered with queueing | empty
      · exact absurd queueing moved
      · rw [empty] at slot
        cases slot
    · exact .inl rfl

theorem step_holding {caller place : Nat} {resp : Response} {event : Event}
    (consistent : session.Consistent endpoint)
    (sound : session.ledger.Sound endpoint.labels endpoint.responseTimer)
    (room : next.issued ≤ 2 ^ 32) (holding : session.Holding caller place resp)
    (taken : session.step endpoint event = some next) : next.Holding caller place resp := by
  obtain ⟨call, found, slot, outcome, standing⟩ := holding
  have at_caller : session.ledger.slots[caller]? = some call.toSlot := by
    simp only [ledger, List.getElem?_map, found, Option.map_some]
  have replied : call.toSlot.reply ≠ none := by
    simp [Call.toSlot, slot]
  have still : next.ledger.slots[caller]? = some call.toSlot :=
    Ledger.run_reply (supply_injective endpoint) sound room (step_moves consistent taken) at_caller
      replied
  simp only [ledger, List.getElem?_map] at still
  obtain ⟨call', found', same⟩ := Option.map_eq_some_iff.mp still
  exact Holding.of_stage slot outcome standing found' same
    (step_stage taken found found' slot outcome standing)

/-- A response that a caller holds is the one that it returns, whatever happens next. -/
theorem run_holding {caller place : Nat} {resp : Response} {events : List Event} {final : Session}
    (consistent : session.Consistent endpoint)
    (sound : session.issued ≤ 2 ^ 32 →
      session.ledger.Sound endpoint.labels endpoint.responseTimer)
    (holding : session.Holding caller place resp)
    (reached : run (step endpoint) session events = some final) (room : final.issued ≤ 2 ^ 32) :
    final.ledger.Sound endpoint.labels endpoint.responseTimer ∧
      final.Holding caller place resp := by
  have invariant : final.Consistent endpoint ∧ (final.issued ≤ 2 ^ 32 →
      final.ledger.Sound endpoint.labels endpoint.responseTimer ∧
        final.Holding caller place resp) := by
    refine @Machine.run_invariant Session Event (step endpoint)
      (fun now => now.Consistent endpoint ∧ (now.issued ≤ 2 ^ 32 →
        now.ledger.Sound endpoint.labels endpoint.responseTimer ∧
          now.Holding caller place resp)) ?_ session final events
      ⟨consistent, fun few => ⟨sound few, holding⟩⟩ reached
    intro now event later before taken
    refine ⟨step_consistent before.1 taken, fun few => ?_⟩
    have moves := step_moves before.1 taken
    have fewer : now.issued ≤ 2 ^ 32 := (Ledger.run_issued moves).trans few
    obtain ⟨sound, holding⟩ := before.2 fewer
    exact ⟨Ledger.run_sound (supply_injective endpoint) sound few moves,
      step_holding before.1 sound few holding taken⟩
  exact invariant.2 room

theorem Holding.alone {caller other place : Nat} {resp resp' : Response} {call' : Call}
    (holding : session.Holding caller place resp)
    (sound : session.ledger.Sound endpoint.labels endpoint.responseTimer)
    (different : other ≠ caller) (found' : session.calls[other]? = some call') :
    call'.slot ≠ some (place, resp') := by
  intro filled
  obtain ⟨call, found, slot, -⟩ := holding
  have at_caller : session.ledger.slots[caller]? = some call.toSlot := by
    simp only [ledger, List.getElem?_map, found, Option.map_some]
  have at_other : session.ledger.slots[other]? = some call'.toSlot := by
    simp only [ledger, List.getElem?_map, found', Option.map_some]
  exact different (sound.answered.once other caller call'.toSlot call.toSlot place resp' resp
    at_other filled at_caller slot)

end Persistence

section Delivery

variable {endpoint : Endpoint} {session : Session} {caller : Nat} {call : Call} {pdu : Bytes}
  {resp : Response}

/-- The read loop hands the response to the caller, which returns it whatever happens next; no
    other caller gets it, and nothing is queued for the peer on account of it. -/
def Delivers (endpoint : Endpoint) (session : Session) (caller : Nat) (resp : Response) : Prop :=
  ∃ next, session.step endpoint .extract = some next ∧
    next.senders = session.senders ∧ next.channel = session.channel ∧
    next.handlers = session.handlers ∧
    (∀ place frame cursor control, next.reader ≠ .queueing place frame cursor control) ∧
    ∀ events final, run (step endpoint) next events = some final → final.issued < 2 ^ 32 →
      final.Got endpoint caller session.received.length resp ∧
      ∀ other call' resp', other ≠ caller → final.calls[other]? = some call' →
        call'.slot ≠ some (session.received.length, resp')

theorem Answering.delivers (answering : session.Answering endpoint caller call pdu resp)
    (consistent : session.Consistent endpoint)
    (sound : session.ledger.Sound endpoint.labels endpoint.responseTimer)
    (branch : ∀ header, CommandHeader.decode pdu = .ok header →
      ∃ closes, endpoint.branch header pdu = .response (.deliver resp closes)) :
    session.Delivers endpoint caller resp := by
  obtain ⟨cursor, taken⟩ := answering.extract
  obtain ⟨header, framed, number⟩ := answering.framed
  obtain ⟨closes, branch⟩ := branch header framed
  obtain ⟨entry, found, waits, inTime⟩ := answering.pending sound
  obtain ⟨since, stage⟩ := answering.waits
  rw [← number] at found
  have delivered := takeUp_delivers framed branch found waits inTime cursor
  rw [delivered] at taken
  have outcome : call.request.outcome resp = .ok resp := by
    unfold Request.outcome
    rw [(Request.responseOf_matches framed answering.matching).1]
    rfl
  refine ⟨_, taken, rfl, rfl, rfl, ?_, ?_⟩
  · intro place frame cursor control
    cases closes <;> exact nofun
  · intro events final reached few
    obtain ⟨soundAfter, holding⟩ : final.ledger.Sound endpoint.labels endpoint.responseTimer ∧
        final.Holding caller session.received.length resp := by
      refine run_holding (step_consistent consistent taken) (fun few => ?_) ?_ reached few.le
      · exact Ledger.run_sound (supply_injective endpoint) sound few (step_moves consistent taken)
      · refine ⟨{ call with slot := some (session.received.length, resp) }, ?_, rfl, outcome,
          .inl ⟨since, stage⟩⟩
        simp only [List.getElem?_modify_eq, answering.asked, Option.map_eq_map, Option.map_some,
          fill_waiting stage]
    exact ⟨holding.got, fun other call' resp' different found' =>
      holding.alone soundAfter different found'⟩

theorem Answering.not_delivers (answering : session.Answering endpoint caller call pdu resp)
    (sound : session.ledger.Sound endpoint.labels endpoint.responseTimer)
    (few : session.issued < 2 ^ 32)
    (branch : ∀ header, CommandHeader.decode pdu = .ok header →
      ∃ frame, endpoint.branch header pdu = .reply frame) :
    ¬ session.Delivers endpoint caller resp := by
  rintro ⟨next, taken, -, -, -, -, later⟩
  obtain ⟨cursor, extracted⟩ := answering.extract
  obtain ⟨header, framed, -⟩ := answering.framed
  obtain ⟨frame, branch⟩ := branch header framed
  have same : session.takeUp endpoint pdu cursor = next := Option.some.inj (extracted.symm.trans taken)
  have calls : next.calls = session.calls := by
    rw [← same]
    simp only [takeUp, framed, dispatch, branch]
    exact reply_calls _ _ _ _ .proceed
  have issued : next.issued = session.issued := by
    rw [← same]
    exact congrArg Background.issued (takeUp_background endpoint session pdu cursor)
  obtain ⟨⟨call', found, slot, -⟩, -⟩ := later [] next rfl (issued ▸ few)
  rw [calls, answering.asked] at found
  cases found
  rw [answering.slot_empty sound] at slot
  cases slot

end Delivery

structure Numbered (session : Session) (emission : Emission) (number : UInt32) : Prop where
  shown : beU32At emission.frame.pdu 12 = number
  registered : ∃ registration ∈ session.registrations, registration.key = number
  fresh : ∀ other ∈ session.senders ++ session.channel ++ session.sent,
    other.frame.ourSequenceNumber ≠ some number
  asked : ∀ caller, emission.origin = .call caller →
    ∃ call, session.calls[caller]? = some call ∧ call.number = number ∧
      (call.request.setSequenceNumber number).encode = some emission.frame.pdu

theorem registered_numbered {endpoint : Endpoint} {session : Session} {emission : Emission}
    {number : UInt32} (sound : session.ledger.Sound endpoint.labels endpoint.responseTimer)
    (stage : session.writer = .registered emission)
    (own : emission.frame.ourSequenceNumber = some number) : session.Numbered emission number := by
  have held : session.ledger.held = some emission := by
    simp only [ledger, stage, WriterStage.held]
  have faithful := sound.carried emission (.inr (.inl held))
  obtain ⟨registration, member, same, -⟩ := sound.kept.recorded emission (.inl held) number own
  have counted : 1 ≤ session.registrations.countP fun registration => registration.key = number :=
    List.countP_pos_iff.mpr ⟨registration, member, by simpa using same⟩
  have once := sound.fresh.once number
  have wired := sound.fresh.registered number
  refine ⟨faithful.stamped number own, ⟨registration, member, same⟩, ?_, ?_⟩
  · intro other present taken
    rcases List.mem_append.mp present with queued | sent
    · have drawn : 1 ≤ session.ledger.outbox.countP fun message =>
          endpoint.labels.key message = some number := by
        refine Multiset.countP_pos.mpr ⟨other, ?_, taken⟩
        exact Multiset.mem_coe.mpr (List.mem_append_left _ queued)
      unfold Ledger.drawn at once
      have sameCount : (session.ledger.registrations.countP fun registration =>
          registration.key = number) =
          session.registrations.countP fun registration => registration.key = number := rfl
      omega
    · have earlier : 1 ≤ session.sent.countP fun message =>
          endpoint.labels.key message = some number :=
        List.countP_pos_iff.mpr ⟨other, sent, decide_eq_true taken⟩
      have key : endpoint.labels.key emission = some number := own
      have inHand :
          ([emission].countP fun message => endpoint.labels.key message = some number) = 1 := by
        rw [List.countP_singleton, if_pos (decide_eq_true key)]
      have total : session.ledger.onWire endpoint.labels number =
          (session.sent.countP fun message => endpoint.labels.key message = some number) +
            [emission].countP fun message => endpoint.labels.key message = some number := by
        unfold Ledger.onWire
        rw [held, List.countP_append]
        rfl
      have few := Ledger.registered_once sound.fresh number
      omega
  · intro caller origin
    obtain ⟨slot, found, key, -, encoded, -⟩ := faithful.carries caller
      (by simp [Endpoint.labels, origin, Origin.caller])
    simp only [ledger, List.getElem?_map] at found
    obtain ⟨call, asked, rfl⟩ := Option.map_eq_some_iff.mp found
    have sameNumber : call.number = number := Option.some.inj (key.symm.trans own)
    exact ⟨call, asked, sameNumber, sameNumber ▸ encoded⟩

end Session

namespace Endpoint

variable (endpoint : Endpoint)

def exchange (request : Request) (frame incoming : Bytes) : List Event :=
  [.call request, .enqueue 0, .check, .take, .register, .write (.accepted frame.length),
    .receive incoming]

def exchanged (request : Request) (frame incoming : Bytes) : Session :=
  let number := endpoint.side.firstSequenceNumber
  { endpoint.start with
    sequenceNumber := number + 1
    calls := [⟨request, number, .waiting 0, none⟩]
    pendingRequests := AList.insert number ⟨0, some 0⟩ ∅
    reader := .extracting 0
    buffer := incoming
    issued := 1
    registrations := [⟨number, ⟨0, some 0⟩, 0⟩]
    sent := [⟨⟨some number, frame, some 0⟩, .call 0⟩] }

theorem exchange_run (request : Request) (incoming : Bytes) {frame : Bytes}
    (sends : endpoint.maySend request = true) (awaited : request.awaited = true)
    (encoded : (request.setSequenceNumber endpoint.side.firstSequenceNumber).encode = some frame)
    (whole : frame ≠ []) (more : incoming ≠ []) :
    run (Session.step endpoint) endpoint.start (exchange request frame incoming) =
      some (endpoint.exchanged request frame incoming) := by
  have called : Session.step endpoint endpoint.start (.call request) = some
      { endpoint.start with
        sequenceNumber := endpoint.side.firstSequenceNumber + 1
        issued := 1
        calls := [⟨request, endpoint.side.firstSequenceNumber, .queueing, none⟩]
        senders := [⟨⟨some endpoint.side.firstSequenceNumber, frame, some 0⟩, .call 0⟩] } := by
    simp [Session.step, Session.call, sends, encoded, awaited, start]
  have permitted : (WriteOutcome.accepted frame.length).Permitted frame :=
    ⟨List.length_pos_iff.mpr whole, le_rfl⟩
  simp only [exchange, Machine.run, List.foldlM_cons, called, Option.bind_eq_bind, Option.bind_some]
  simp [Session.step, Session.enqueue, Session.channelRoom, start, channelCapacity, Session.queued,
    Call.queued, awaited, Session.check, Session.take, Session.register, Session.write, permitted,
    Session.receive, more, exchanged]

theorem exchanged_answering {request : Request} {frame incoming : Bytes} {resp : Response}
    (whole : nextPdu incoming 0 = .complete incoming.length)
    (matching : request.responseOf incoming = some resp)
    (number : answeredNumber incoming = some endpoint.side.firstSequenceNumber) :
    (endpoint.exchanged request frame incoming).Answering endpoint 0
      ⟨request, endpoint.side.firstSequenceNumber, .waiting 0, none⟩ incoming resp where
  asked := rfl
  waits := ⟨0, rfl⟩
  onWire := ⟨_, List.mem_singleton_self _, rfl⟩
  next := ⟨0, by simp [Session.upcoming, exchanged, whole]⟩
  matching := matching
  number := number
  first := by simp [exchanged, start]
  inTime := by simp [exchanged, start]

end Endpoint

/-- A client session loses and misroutes nothing: every request goes out under a number of its own
    that is registered before it is written, and the first response of the matching type that
    comes in time is what its caller returns, and no other caller's. -/
theorem client_correlation (endpoint : Endpoint) (client : endpoint.side = .client)
    (events : List Event) (session : Session)
    (reached : run (Session.step endpoint) endpoint.start events = some session)
    (few : session.issued < 2 ^ 32) :
    (∀ emission number outcome next, session.writer = .registered emission →
      emission.frame.ourSequenceNumber = some number →
      session.step endpoint (.write outcome) = some next → session.Numbered emission number) ∧
    ∀ caller call pdu resp, session.Answering endpoint caller call pdu resp →
      session.Delivers endpoint caller resp := by
  obtain ⟨consistent, sound⟩ := Session.run_ledger_sound reached few.le
  refine ⟨fun emission number _ _ stage own _ => Session.registered_numbered sound stage own, ?_⟩
  intro caller call pdu resp answering
  have sends := answering.sends sound
  exact answering.delivers consistent sound fun header framed =>
    client_delivers client sends framed answering.matching

theorem client_correlation_of_a_query :
    let client : Endpoint := ⟨.client, .tx, 60, 600⟩
    let query := QuerySm.new 77 Utf8.Str.empty 0 0 Utf8.Str.empty
    let resp := QuerySm.genericReject 2 .ESME_RQUERYFAIL
    let session := client.exchanged (.querySm query)
      ({ query with header := { query.header with sequenceNumber := 2 } } : QuerySm).encode resp.encode
    session.Delivers client 0 (.querySm resp) := by
  intro client query resp session
  have reached := client.exchange_run (.querySm query) resp.encode rfl rfl rfl (by decide) (by decide)
  exact (client_correlation client rfl _ session reached (by decide)).2 0 _ resp.encode _
    (Endpoint.exchanged_answering _ (by decide +kernel) (by decide +kernel) (by decide +kernel))

/-- A server session delivers the response to a data_sm, and to a deliver_sm unless it is bound as
    a receiver; it takes every other response for a PDU that it does not know. -/
theorem server_correlation_iff (endpoint : Endpoint) (server : endpoint.side = .server)
    (events : List Event) (session : Session)
    (reached : run (Session.step endpoint) endpoint.start events = some session)
    (few : session.issued < 2 ^ 32) (caller : Nat) (call : Call) (pdu : Bytes) (resp : Response)
    (answering : session.Answering endpoint caller call pdu resp) :
    session.Delivers endpoint caller resp ↔ Served endpoint.bound call.request := by
  obtain ⟨consistent, sound⟩ := Session.run_ledger_sound reached few.le
  have sends := answering.sends sound
  constructor
  · intro delivers
    by_contra unserved
    exact answering.not_delivers sound few
      (fun header framed => ⟨_, server_nacks server sends unserved framed answering.matching⟩)
      delivers
  · intro served
    exact answering.delivers consistent sound fun header framed =>
      ⟨false, server_delivers server served framed answering.matching⟩

theorem server_correlation_of_a_data_sm :
    let server : Endpoint := ⟨.server, .rx, 60, 600⟩
    let data := DataSm.new 77 Utf8.Str.empty 0 0 Utf8.Str.empty 0 0 Utf8.Str.empty 0 0 0
    let resp := DataSm.genericReject 1 .ESME_RSYSERR
    let session := server.exchanged (.dataSm data) (data.setSequenceNumber 1).encode resp.encode
    session.Delivers server 0 (.dataSm resp) := by
  intro server data resp session
  have reached := server.exchange_run (.dataSm data) resp.encode rfl rfl rfl (by decide) (by decide)
  exact (server_correlation_iff server rfl _ session reached (by decide) 0 _ resp.encode _
    (Endpoint.exchanged_answering _ (by decide +kernel) (by decide +kernel) (by decide +kernel))).mpr
    trivial

theorem unbind_resp_is_nacked :
    let server : Endpoint := ⟨.server, .trx, 60, 600⟩
    let unbind := Unbind.withSequenceNumber 1
    let session := server.exchanged (.unbind unbind) unbind.encode unbind.accept.encode
    run (Session.step server) server.start
        (Endpoint.exchange (.unbind unbind) unbind.encode unbind.accept.encode) = some session ∧
      session.Answering server 0 ⟨.unbind unbind, 1, .waiting 0, none⟩ unbind.accept.encode
        (.unbind unbind.accept) ∧
      ¬ session.Delivers server 0 (.unbind unbind.accept) ∧
      (session.step server .extract).map Session.channel =
        some [.reaction 0 (nack .ESME_RINVCMDID 1)] := by
  intro server unbind session
  have reached := server.exchange_run (.unbind unbind) unbind.accept.encode rfl rfl rfl (by decide)
    (by decide)
  have answering : session.Answering server 0 _ unbind.accept.encode (.unbind unbind.accept) :=
    Endpoint.exchanged_answering _ (by decide +kernel) (by decide +kernel) (by decide +kernel)
  obtain ⟨-, sound⟩ := Session.run_ledger_sound reached (by decide)
  refine ⟨reached, answering, ?_, by decide +kernel⟩
  exact answering.not_delivers sound (by decide) fun header framed =>
    ⟨_, server_nacks rfl rfl id framed answering.matching⟩

end Smpp34
