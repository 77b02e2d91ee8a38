import Smpp34.Base.Filing
import Smpp34.Codec.Legible
import Smpp34.Session.Delivery
import Smpp34.Session.Fates
import Smpp34.Session.Unbinding

namespace Smpp34

open Octets
open Correlation (Ledger Slot)
open Machine (run Throughout)

section Heeded

variable {endpoint : Endpoint} {header : CommandHeader} {resp : Response}

namespace Response

def commandId : Response → CommandId
  | submitSm _ => .submitSmResp
  | submitSmMulti _ => .submitMultiResp
  | deliverSm _ => .deliverSmResp
  | dataSm _ => .dataSmResp
  | cancelSm _ => .cancelSmResp
  | querySm _ => .querySmResp
  | replaceSm _ => .replaceSmResp
  | unbind _ => .unbindResp
  | enquireLink _ => .enquireLinkResp
  | bind kind _ => kind.respCommandId
  | genericNack _ => .genericNack

theorem commandId_high (resp : Response) : 0x80000000 ≤ resp.commandId.value := by
  unfold commandId
  cases resp with
  | bind kind resp => cases kind <;> exact of_decide_eq_true rfl
  | _ => exact of_decide_eq_true rfl

theorem Legible.named (legible : resp.Legible) : resp.header.commandId = resp.commandId.value := by
  cases resp with
  | bind kind resp => exact legible.elim
  | submitSm resp | submitSmMulti resp | deliverSm resp | dataSm resp | querySm resp =>
    exact legible.1
  | _ => exact legible

theorem encode_header (resp : Response) : (∃ data, resp = .dataSm data) ∨
    ∃ body, resp.encode = resp.header.encode ++ body := by
  cases resp with
  | dataSm resp => exact .inl ⟨resp, rfl⟩
  | bind kind resp => exact .inr ⟨_, rfl⟩
  | cancelSm resp | replaceSm resp | unbind resp | enquireLink resp | genericNack resp =>
    exact .inr ⟨[], (List.append_nil _).symm⟩
  | _ => exact .inr ⟨_, rfl⟩

theorem framed_same (framed : CommandHeader.decode resp.encode = .ok header) :
    header.SamePdu resp.header ∧ ((∃ data, resp = .dataSm data) ∨ header = resp.header) := by
  rcases resp.encode_header with ⟨data, rfl⟩ | ⟨body, encoded⟩
  · refine ⟨?_, .inl ⟨data, rfl⟩⟩
    rw [framed_header framed]
    exact ⟨rfl, rfl, rfl⟩
  · rw [encoded] at framed
    have same := framed_header framed
    exact ⟨same ▸ ⟨rfl, rfl, rfl⟩, .inr same⟩

end Response

inductive Branch.Heeds (resp : Response) (number : UInt32) : Branch → Prop
  | deliver {read : Response} {closes : Bool} (shows : read.Shows resp) :
      Heeds resp number (.response (.deliver read closes))
  | link {link : EnquireLinkResp} (same : resp = .enquireLink link) : Heeds resp number .linkResp
  | nack : Heeds resp number (.reply (Smpp34.nack .ESME_RINVCMDID number))

theorem settled_heeds {α : Type} {decoded : Decoded α} {value : α} {wrap : α → Response}
    {closes : Bool} {onError : SmppError → Option Bytes} {number : UInt32}
    (read : decoded = .ok value) (shows : (wrap value).Shows resp) :
    (settled decoded wrap closes onError).Heeds resp number := by
  rw [settled_ok read]
  exact .deliver shows

theorem plain_heeds {α : Type} {decode : CommandHeader → Bytes → Decoded α} {wrap : α → Response}
    {value : α} {closes : Bool} {onError : SmppError → Option Bytes} {number : UInt32}
    (plain : ∀ data, wrap value ≠ .dataSm data)
    (framed : CommandHeader.decode (wrap value).encode = .ok header)
    (reads : decode (wrap value).header (wrap value).encode = .ok value) :
    (settled (decode header (wrap value).encode) wrap closes onError).Heeds (wrap value) number := by
  rcases (Response.framed_same framed).2 with ⟨data, other⟩ | rfl
  · exact absurd other (plain data)
  · exact settled_heeds reads (.refl _)

theorem dataSm_heeds {data : DataSmResp} {closes : Bool} {onError : SmppError → Option Bytes}
    {number : UInt32} (legible : data.Legible)
    (framed : CommandHeader.decode data.encode = .ok header) :
    (settled (DataSmResp.decode header data.encode) .dataSm closes onError).Heeds (.dataSm data)
      number := by
  have told := (@Response.framed_same header (.dataSm data) framed).1
  exact settled_heeds (legible.reads told.2.1) ⟨rfl, told⟩

theorem decodeBare_encoded {id : CommandId} (named : header.commandId = id.value) :
    decodeBare id header header.encode = .ok header := by
  rw [decodeBare, if_pos named, if_pos header.encode_length]

section Chains

variable (legible : resp.Legible) (framed : CommandHeader.decode resp.encode = .ok header)

include legible framed

theorem named_commandId {id : CommandId} (same : header.commandId = id.value) :
    resp.commandId.value = id.value := by
  rw [← legible.named, ← (Response.framed_same framed).1.1, same]

theorem not_request {id : CommandId} (same : header.commandId = id.value)
    (low : id.value < 0x80000000) : False := by
  have high := resp.commandId_high
  rw [named_commandId legible framed same] at high
  exact absurd low (UInt32.not_lt.mpr high)

theorem serverBranch_heeds (bound : BoundType) :
    (serverBranch bound header resp.encode).Heeds resp (potentialSeqNo resp.encode) := by
  have chain := serverBranch_chain bound header resp.encode
  generalize serverBranch bound header resp.encode = branch at chain
  cases chain with
  | submitSm same | submitMulti same | dataSm same | cancelSm same | querySm same | replaceSm same
  | enquireLink same | unbind same =>
    exact (not_request legible framed same (by decide)).elim
  | enquireLinkResp same =>
    have kind := named_commandId legible framed same
    cases resp with
    | enquireLink resp => exact .link rfl
    | bind bound resp => exact legible.elim
    | _ => exact absurd kind (of_decide_eq_false rfl)
  | deliverSmResp same =>
    have kind := named_commandId legible framed same
    cases resp with
    | deliverSm resp => exact plain_heeds (fun _ other => by cases other) framed legible.reads
    | bind bound resp => exact legible.elim
    | _ => exact absurd kind (of_decide_eq_false rfl)
  | dataSmResp same =>
    have kind := named_commandId legible framed same
    cases resp with
    | dataSm resp => exact dataSm_heeds legible framed
    | bind bound resp => exact legible.elim
    | _ => exact absurd kind (of_decide_eq_false rfl)
  | genericNack same =>
    have kind := named_commandId legible framed same
    cases resp with
    | genericNack resp =>
      exact plain_heeds (fun _ other => by cases other) framed
        (congrArg (Except.map _) (decodeBare_encoded legible))
    | bind bound resp => exact legible.elim
    | _ => exact absurd kind (of_decide_eq_false rfl)
  | unsupported => exact .nack

theorem clientBranch_heeds (bound : BoundType) :
    (clientBranch bound header resp.encode).Heeds resp (potentialSeqNo resp.encode) := by
  have chain := clientBranch_chain bound header resp.encode
  generalize clientBranch bound header resp.encode = branch at chain
  cases chain with
  | deliverSm same | dataSm same | alertNotification same | enquireLink same | unbind same =>
    exact (not_request legible framed same (by decide)).elim
  | enquireLinkResp same =>
    have kind := named_commandId legible framed same
    cases resp with
    | enquireLink resp => exact .link rfl
    | bind bound resp => exact legible.elim
    | _ => exact absurd kind (of_decide_eq_false rfl)
  | submitSmResp same =>
    have kind := named_commandId legible framed same
    cases resp with
    | submitSm resp => exact plain_heeds (fun _ other => by cases other) framed legible.reads
    | bind bound resp => exact legible.elim
    | _ => exact absurd kind (of_decide_eq_false rfl)
  | submitMultiResp same =>
    have kind := named_commandId legible framed same
    cases resp with
    | submitSmMulti resp => exact plain_heeds (fun _ other => by cases other) framed legible.reads
    | bind bound resp => exact legible.elim
    | _ => exact absurd kind (of_decide_eq_false rfl)
  | dataSmResp same =>
    have kind := named_commandId legible framed same
    cases resp with
    | dataSm resp => exact dataSm_heeds legible framed
    | bind bound resp => exact legible.elim
    | _ => exact absurd kind (of_decide_eq_false rfl)
  | cancelSmResp same =>
    have kind := named_commandId legible framed same
    cases resp with
    | cancelSm resp => exact plain_heeds (fun _ other => by cases other) framed rfl
    | bind bound resp => exact legible.elim
    | _ => exact absurd kind (of_decide_eq_false rfl)
  | querySmResp same =>
    have kind := named_commandId legible framed same
    cases resp with
    | querySm resp => exact plain_heeds (fun _ other => by cases other) framed legible.reads
    | bind bound resp => exact legible.elim
    | _ => exact absurd kind (of_decide_eq_false rfl)
  | replaceSmResp same =>
    have kind := named_commandId legible framed same
    cases resp with
    | replaceSm resp => exact plain_heeds (fun _ other => by cases other) framed rfl
    | bind bound resp => exact legible.elim
    | _ => exact absurd kind (of_decide_eq_false rfl)
  | unbindResp same =>
    have kind := named_commandId legible framed same
    cases resp with
    | unbind resp =>
      exact plain_heeds (fun _ other => by cases other) framed
        (congrArg (Except.map _) (decodeBare_encoded legible))
    | bind bound resp => exact legible.elim
    | _ => exact absurd kind (of_decide_eq_false rfl)
  | genericNack same =>
    have kind := named_commandId legible framed same
    cases resp with
    | genericNack resp =>
      exact plain_heeds (fun _ other => by cases other) framed
        (congrArg (Except.map _) (decodeBare_encoded legible))
    | bind bound resp => exact legible.elim
    | _ => exact absurd kind (of_decide_eq_false rfl)
  | unsupported => exact .nack

theorem legible_heeded (endpoint : Endpoint) :
    (endpoint.branch header resp.encode).Heeds resp (potentialSeqNo resp.encode) := by
  unfold Endpoint.branch
  cases endpoint.side with
  | server => exact serverBranch_heeds legible framed endpoint.bound
  | client => exact clientBranch_heeds legible framed endpoint.bound

end Chains

theorem Response.Shows.matches {read : Response} (shows : read.Shows resp) (request : Request) :
    request.Matches read = request.Matches resp := by
  rw [shows.body]
  cases resp <;> cases request <;> rfl

end Heeded

namespace Session

variable {endpoint : Endpoint} {session next : Session}

def Filled (endpoint : Endpoint) (session : Session) : Prop :=
  ∀ caller place resp, session.table.replies caller = some (place, resp) →
    ∃ pdu header closes, session.received[place]? = some pdu ∧
      CommandHeader.decode pdu = .ok header ∧
      endpoint.branch header pdu = .response (.deliver resp closes)

theorem start_filled (endpoint : Endpoint) : endpoint.start.Filled endpoint := by
  intro caller place resp found
  cases found

theorem fill_reply (calls : List Call) (caller place : Nat) (resp : Response) (other : Nat) :
    ((calls.modify caller fun call => call.fill place resp)[other]?.bind Call.slot) =
        (calls[other]?.bind Call.slot) ∨
    ((calls.modify caller fun call => call.fill place resp)[other]?.bind Call.slot) =
        some (place, resp) := by
  by_cases same : caller = other
  · subst same
    rw [List.getElem?_modify_eq]
    cases calls[caller]? with
    | none => exact .inl rfl
    | some call =>
      change (call.fill place resp).slot = call.slot ∨
        (call.fill place resp).slot = some (place, resp)
      unfold Call.fill
      split
      · exact .inr rfl
      · exact .inl rfl
  · rw [List.getElem?_modify_ne _ _ same]
    exact .inl rfl

theorem settle_replies (number : UInt32) (place cursor : Nat) (settlement : Settlement)
    (caller : Nat) :
    (session.settle endpoint number place cursor settlement).table.replies caller =
        session.table.replies caller ∨
    ∃ resp closes, settlement = .deliver resp closes ∧
      (session.settle endpoint number place cursor settlement).table.replies caller =
        some (place, resp) := by
  unfold settle
  split
  · exact .inl rfl
  · rename_i entry found
    dsimp only
    split
    · exact .inl rfl
    · cases settlement with
      | deliver resp closes =>
        have filled : ((session.complete number place).deliver entry.caller place resp).table.replies
              caller = session.table.replies caller ∨
            ((session.complete number place).deliver entry.caller place resp).table.replies
              caller = some (place, resp) := by
          cases entry.caller with
          | none => exact .inl rfl
          | some waiting => exact fill_reply session.calls waiting place resp caller
        rcases filled with same | new
        · left
          cases closes <;> exact same
        · right
          refine ⟨resp, closes, rfl, ?_⟩
          cases closes <;> exact new
      | refuse reply =>
        cases reply with
        | none => exact .inl rfl
        | some frame =>
          left
          exact congrFun (congrArg Table.replies (reply_table _ place frame cursor .proceed)) caller
      | panic => exact .inl rfl

theorem takeUp_replies (endpoint : Endpoint) (session : Session) (pdu : Bytes)
    (cursor caller : Nat) :
    (session.takeUp endpoint pdu cursor).table.replies caller = session.table.replies caller ∨
    ∃ header resp closes, CommandHeader.decode pdu = .ok header ∧
      endpoint.branch header pdu = .response (.deliver resp closes) ∧
      (session.takeUp endpoint pdu cursor).table.replies caller =
        some (session.received.length, resp) := by
  have replied {frame : Bytes} {control : Control} {cursor : Nat} {before : Session} :
      (before.reply session.received.length frame cursor control).table.replies caller =
        before.table.replies caller :=
    congrFun (congrArg Table.replies (reply_table before _ frame cursor control)) caller
  have linked (before : Session) (number : UInt32) :
      (before.settleLink endpoint pdu number cursor).table.replies caller =
        before.table.replies caller :=
    congrArg (fun calls : List Call => calls[caller]?.bind Call.slot)
      (settleLink_calls before pdu number cursor)
  unfold takeUp
  split
  · rename_i header framed
    unfold dispatch
    dsimp only
    cases branch : endpoint.branch header pdu with
    | reply frame => exact .inl replied
    | unbindReject frame => exact .inl replied
    | linkResp =>
      left
      change (session.link endpoint pdu header.sequenceNumber cursor).table.replies caller = _
      unfold link
      split
      · exact linked session _
      · split
        · exact linked _ _
        · rfl
    | response settlement =>
      rcases @settle_replies endpoint { session with
          received := session.received ++ [pdu]
          reader := .extracting (cursor + pdu.length) } header.sequenceNumber
        session.received.length (cursor + pdu.length) settlement caller with
        same | ⟨resp, closes, rfl, new⟩
      · exact .inl same
      · exact .inr ⟨header, resp, closes, framed, branch, new⟩
    | _ => exact .inl rfl
  · exact .inl replied

theorem step_replies {event : Event} (taken : session.step endpoint event = some next)
    (caller : Nat) :
    next.table.replies caller = session.table.replies caller ∨
    ∃ pdu header resp closes, next.received = session.received ++ [pdu] ∧
      CommandHeader.decode pdu = .ok header ∧
      endpoint.branch header pdu = .response (.deliver resp closes) ∧
      next.table.replies caller = some (session.received.length, resp) := by
  by_cases reads : event.ofReader = true
  · cases step_reader reads taken with
    | takesUp stage whole =>
      rcases takeUp_replies endpoint session _ _ caller with
        same | ⟨header, resp, closes, framed, branch, new⟩
      · exact .inl same
      · refine .inr ⟨_, header, resp, closes, takeUp_received framed ?_ _, framed, branch, new⟩
        rw [branch]
        exact fun same => by cases same
    | queuesReply stage =>
      rename_i control
      cases control <;> exact .inl rfl
    | queuesNumber stage =>
      exact .inl (congrArg (fun calls : List Call => calls[caller]?.bind Call.slot)
        (settleLink_calls _ _ _ _))
    | answers stage =>
      exact .inl (congrFun (congrArg Table.replies (reply_table session _ _ _ .unbound)) caller)
    | _ => exact .inl rfl
  · left
    have changes := step_changes taken
    cases changes with
    | nothing table => exact congrFun (congrArg Table.replies table) caller
    | registers stage keyed key table => exact congrFun (congrArg Table.replies table) caller
    | withdraws stage keyed table => exact congrFun (congrArg Table.replies table) caller
    | settles reader | lapses reader => exact absurd reader reads
    | sweeps table => exact absurd rfl reads

theorem step_filled (filled : session.Filled endpoint) {event : Event}
    (taken : session.step endpoint event = some next) : next.Filled endpoint := by
  intro caller place resp found
  have grown := (step_consumes taken).grows
  rcases step_replies taken caller with
    same | ⟨pdu, header, resp', closes, received, framed, branch, new⟩
  · rw [same] at found
    obtain ⟨pdu, header, closes, at_place, rest⟩ := filled caller place resp found
    exact ⟨pdu, header, closes, found_later grown at_place, rest⟩
  · rw [new] at found
    cases found
    exact ⟨pdu, header, closes, by rw [received, List.getElem?_concat_length], framed, branch⟩

/-- A caller that has come back with a response has come back with what is in its slot. -/
def Resolved (session : Session) : Prop :=
  ∀ (caller : Nat) (call : Call) (resp : Response), session.calls[caller]? = some call →
    call.stage = .returned (.ok resp) →
    ∃ place, call.slot = some (place, resp) ∧ call.request.Matches resp = true

theorem start_resolved (endpoint : Endpoint) : endpoint.start.Resolved := by
  intro caller call resp found
  cases found

theorem outcome_ok {request : Request} {resp result : Response}
    (ok : request.outcome resp = .ok result) : resp = result ∧ request.Matches result = true := by
  unfold Request.outcome at ok
  split at ok
  · rename_i matched
    cases ok
    exact ⟨rfl, matched⟩
  · split at ok <;> cases ok

theorem Resolved.kept (resolved : session.Resolved)
    (consistent : session.Consistent endpoint)
    (sound : session.ledger.Sound endpoint.labels endpoint.responseTimer)
    (room : next.issued ≤ 2 ^ 32) {event : Event}
    (taken : session.step endpoint event = some next) {caller : Nat} {call call' : Call}
    {resp : Response} (found : session.calls[caller]? = some call)
    (stage : call.stage = .returned (.ok resp)) (found' : next.calls[caller]? = some call') :
    ∃ place, call'.slot = some (place, resp) ∧ call'.request.Matches resp = true := by
  obtain ⟨place, slot, matched⟩ := resolved caller call resp found stage
  have at_caller : session.ledger.slots[caller]? = some call.toSlot := by
    simp only [ledger, List.getElem?_map, found, Option.map_some]
  have still := Ledger.run_reply (supply_injective endpoint) sound room
    (step_moves consistent taken) at_caller (by simp [Call.toSlot, slot])
  simp only [ledger, List.getElem?_map, found', Option.map_some, Option.some.injEq] at still
  have request : call'.request = call.request := congrArg Slot.ask still
  have slot' : call'.slot = call.slot := congrArg Slot.reply still
  exact ⟨place, slot'.trans slot, request ▸ matched⟩

theorem step_resolved (resolved : session.Resolved) (consistent : session.Consistent endpoint)
    (sound : session.ledger.Sound endpoint.labels endpoint.responseTimer)
    (room : next.issued ≤ 2 ^ 32) {event : Event}
    (taken : session.step endpoint event = some next) : next.Resolved := by
  intro caller call' resp found' stage'
  have kept : ∀ call, session.calls[caller]? = some call → call.stage = .returned (.ok resp) →
      ∃ place, call'.slot = some (place, resp) ∧ call'.request.Matches resp = true :=
    fun call found stage => resolved.kept consistent sound room taken found stage found'
  cases step_stages taken with
  | kept stages =>
    have same := congrArg (fun stages : List CallStage => stages[caller]?) stages
    simp only [List.getElem?_map, found', Option.map_some] at same
    obtain ⟨call, found, stage⟩ := Option.map_eq_some_iff.mp same.symm
    exact kept call found (stage.trans stage')
  | called new stage =>
    rw [new, List.getElem?_append] at found'
    split at found'
    · exact kept call' found' stage'
    · rw [List.getElem?_singleton] at found'
      split at found'
      · cases found'
        rw [stage] at stage'
        cases stage'
      · cases found'
  | @queued _ _ other changed =>
    rw [changed, List.getElem?_modify] at found'
    obtain ⟨call, found, rfl⟩ := Option.map_eq_some_iff.mp found'
    split at stage'
    · by_cases moved : call.stage = .queueing
      · unfold Call.queued at stage'
        rw [moved] at stage'
        dsimp only at stage'
        split at stage' <;> cases stage'
      · rw [queued_stage moved] at stage'
        exact kept call found stage'
    · exact kept call found stage'
  | @resolved _ _ other place since number request resp' at_other changed =>
    rw [changed] at found'
    by_cases same : other = caller
    · subst same
      change (session.calls.modify other _)[other]? = some call' at found'
      rw [List.getElem?_modify_eq, at_other] at found'
      cases found'
      obtain ⟨rfl, matched⟩ := outcome_ok (CallStage.returned.inj stage')
      exact ⟨place, rfl, matched⟩
    · change (session.calls.modify other _)[caller]? = some call' at found'
      rw [List.getElem?_modify_ne _ _ same] at found'
      exact kept call' found' stage'
  | @dropped _ _ other call at_other unanswered changed =>
    rw [changed] at found'
    by_cases same : other = caller
    · subst same
      change (session.calls.modify other _)[other]? = some call' at found'
      rw [List.getElem?_modify_eq, at_other] at found'
      cases found'
      cases stage'
    · change (session.calls.modify other _)[caller]? = some call' at found'
      rw [List.getElem?_modify_ne _ _ same] at found'
      exact kept call' found' stage'

end Session

/-- The application sends legible requests, and its listener answers with legible responses. -/
def Event.Legible : Event → Prop
  | .call request => request.Legible
  | .respond _ resp => resp.Legible
  | .unbound resp => (Response.unbind resp).Legible
  | _ => True

theorem Response.Legible.high {resp : Response} (legible : resp.Legible) :
    0x80000000 ≤ resp.header.commandId := by
  rw [legible.named]
  exact resp.commandId_high

theorem Event.Legible.sensible {event : Event} (legible : event.Legible) : event.Sensible := by
  cases event with
  | call request => exact legible
  | respond handler resp => exact Response.Legible.high legible
  | unbound resp => exact @Response.Legible.high (.unbind resp) legible
  | _ => exact True.intro

def Emission.Spoken (emission : Emission) : Prop :=
  ∀ place, emission.origin = .reaction place →
    ∃ resp : Response, resp.Legible ∧ emission.frame.pdu = resp.encode

structure Response.Automatic (resp : Response) : Prop where
  legible : resp.Legible
  strange : ∀ request : Request, request.Matches resp = false

theorem nack_automatic (error : SmppError) (number : UInt32) :
    ∃ resp : Response, resp.Automatic ∧ nack error number = resp.encode :=
  ⟨.genericNack ⟨⟨16, CommandId.genericNack.value, error.code, number⟩⟩,
    ⟨rfl, fun request => by cases request <;> rfl⟩, rfl⟩

theorem accept_automatic (link : EnquireLink) :
    ∃ resp : Response, resp.Automatic ∧ link.accept.encode = resp.encode :=
  ⟨.enquireLink link.accept, ⟨rfl, fun request => by cases request <;> rfl⟩, rfl⟩

theorem Stream.coming {sent : List Emission} {receiver : Session} {pipe pdu : Bytes} {cursor : Nat}
    (stream : Stream sent receiver pipe) (coming : receiver.upcoming = some (pdu, cursor)) :
    ∃ emission, sent[receiver.received.length]? = some emission ∧ emission.frame.pdu = pdu := by
  have stage := Session.upcoming_reader coming
  have stands : receiver.StandsAt pdu cursor := by
    unfold Session.upcoming at coming
    rw [stage] at coming
    dsimp only at coming
    split at coming
    · rename_i size whole
      cases coming
      have framed := whole
      rw [nextPdu_eq] at framed
      have length : ((receiver.buffer.drop cursor).take size).length = size := by
        rw [List.length_take]
        exact Nat.min_eq_left (frameFirstPdu_complete framed).2.2.1
      unfold Session.StandsAt
      rw [length]
      exact ⟨whole, rfl⟩
    · cases coming
  obtain ⟨rest, same, -⟩ := stream.front (by rw [stage]; rfl) stands
  have present : (sent.map fun emission => emission.frame.pdu)[receiver.received.length]? =
      some pdu := by
    rw [same, List.append_assoc, List.getElem?_append_right (Nat.le_refl _), Nat.sub_self]
    rfl
  rw [List.getElem?_map] at present
  exact Option.map_eq_some_iff.mp present

namespace Session

variable {endpoint : Endpoint} {session : Session} {pdu frame : Bytes} {header : CommandHeader}

theorem hands_unanswered {request : Request} (framed : CommandHeader.decode pdu = .ok header)
    (handed : (endpoint.branch header pdu).hands = some request) :
    session.answer endpoint pdu = none := by
  rw [answer_eq endpoint session framed]
  generalize endpoint.branch header pdu = branch at handed
  cases branch with
  | request | alert | unbind => rfl
  | _ => cases handed

theorem link_accepted {number : UInt32}
    (framed : CommandHeader.decode (EnquireLink.new number).encode = .ok header) :
    endpoint.branch header (EnquireLink.new number).encode =
      .reply (EnquireLink.new number).accept.encode := by
  obtain rfl : header = (EnquireLink.new number).header := by
    rw [← List.append_nil (EnquireLink.encode _)] at framed
    exact framed_header framed
  have bare := @decodeBare_encoded (EnquireLink.new number).header .enquireLink rfl
  have decoded : EnquireLink.decode (EnquireLink.new number).header (EnquireLink.new number).encode =
      .ok (EnquireLink.new number) := congrArg (Except.map EnquireLink.mk) bare
  unfold Endpoint.branch
  rw [branch_enquireLink endpoint.side rfl, decoded]
  rfl

theorem heeded_answer {resp : Response} {number : UInt32}
    (framed : CommandHeader.decode pdu = .ok header)
    (heeds : (endpoint.branch header pdu).Heeds resp number)
    (answers : session.answer endpoint pdu = some frame) :
    ∃ resp : Response, resp.Automatic ∧ frame = resp.encode := by
  rw [answer_eq endpoint session framed] at answers
  generalize endpoint.branch header pdu = branch at heeds answers
  cases heeds with
  | deliver | link => cases answers
  | nack =>
    cases answers
    exact nack_automatic _ number

end Session

namespace Pairing

variable {pairing : Pairing} {pair next : Pair} {side : Side}

theorem Conveys.answers_itself (conveys : Conveys pairing pair)
    (spoken : ∀ emission ∈ (pair.ends side.other).outgoing, emission.Spoken) {pdu frame : Bytes}
    {cursor : Nat} (coming : (pair.ends side).upcoming = some (pdu, cursor))
    (answers : (pair.ends side).answer (pairing.endpoint side) pdu = some frame) :
    ∃ resp : Response, resp.Automatic ∧ frame = resp.encode := by
  obtain ⟨header, framed⟩ := Session.upcoming_framed coming
  obtain ⟨emission, found, rfl⟩ := (conveys.stream side).coming coming
  have member : emission ∈ (pair.ends side.other).outgoing :=
    Session.mem_outgoing.mpr (.inr (.inr (.inr (.inr (.inl (List.mem_of_getElem? found))))))
  cases origin : emission.origin with
  | call caller =>
    obtain ⟨call, -, legible, sends, -, encoded⟩ :=
      conveys.called (List.mem_of_getElem? found) origin
    have faces := faces pairing side.other
    rw [Side.other_other] at faces
    have arrives := legible_arrives faces sends legible encoded framed
    rw [Session.hands_unanswered framed arrives.hands] at answers
    cases answers
  | link =>
    have attributed := conveys.attributed side.other emission member
    unfold Emission.Attributed at attributed
    rw [origin] at attributed
    obtain ⟨number, link⟩ := attributed
    rw [link] at framed answers
    rw [Session.answer_eq _ _ framed, Session.link_accepted framed] at answers
    cases answers
    exact accept_automatic _
  | reaction place =>
    obtain ⟨resp, legible, encoded⟩ := spoken emission member place origin
    rw [encoded] at framed answers
    exact Session.heeded_answer framed (legible_heeded legible framed (pairing.endpoint side)) answers

structure Civil (pairing : Pairing) (pair : Pair) : Prop where
  conveys : Conveys pairing pair
  spoken : ∀ side, ∀ emission ∈ (pair.ends side).outgoing, emission.Spoken
  filled : ∀ side, (pair.ends side).Filled (pairing.endpoint side)

theorem start_civil (pairing : Pairing) : Civil pairing pairing.start where
  conveys := start_conveys pairing
  spoken side emission member := by
    simp [start, Session.outgoing, Endpoint.start, WriterStage.inHand, WriterStage.held,
      ReaderStage.queued] at member
  filled side := Session.start_filled (pairing.endpoint side)

theorem Civil.creates (civil : Civil pairing pair) {event : Event} (legible : event.Legible)
    {emission : Emission}
    (creates : Session.Creates (pairing.endpoint side) (pair.ends side) event emission) :
    emission.Spoken := by
  intro place origin
  cases creates with
  | call | tick => cases origin
  | @respond handler place request resp asked => exact ⟨resp, legible, rfl⟩
  | @unbound place cursor pdu resp asked => exact ⟨.unbind resp, legible, rfl⟩
  | answer coming answers =>
    obtain ⟨resp, automatic, encoded⟩ :=
      civil.conveys.answers_itself (civil.spoken side.other) coming answers
    exact ⟨resp, automatic.legible, encoded⟩

theorem step_civil {move : Side × Event} (civil : Civil pairing pair)
    (carried : carries pair move = true) (legible : move.2.Legible)
    (taken : pairing.step pair move = some next) : Civil pairing next where
  conveys := step_conveys civil.conveys carried legible.sensible taken
  spoken := by
    have kept : ∀ side, ∀ emission ∈ (next.ends side).outgoing, emission.Spoken :=
      @step_each pairing pair next (fun _ session => ∀ emission ∈ session.outgoing, emission.Spoken)
        move.1 move.2 civil.spoken (by
          intro session stepped emission member
          rcases Session.step_outgoing stepped emission member with old | new
          · exact civil.spoken move.1 emission old
          · exact civil.creates legible new) taken
    exact kept
  filled := step_each civil.filled
    (fun _ stepped => Session.step_filled (civil.filled move.1) stepped) taken

theorem run_civil {moves : List (Side × Event)} (legible : ∀ move ∈ moves, move.2.Legible)
    (carried : Throughout pairing.step (fun pair move => carries pair move = true)
      pairing.start moves)
    (reached : run pairing.step pairing.start moves = some pair) : Civil pairing pair :=
  Machine.run_invariant_where
    (fun _ _ _ civil met => step_civil civil met.1 met.2)
    (start_civil pairing)
    (Machine.throughout_and carried (Machine.throughout_of_forall legible pairing.start)) reached

theorem run_received {moves : List (Side × Event)} {final : Pair}
    (reached : run pairing.step pair moves = some final) (side : Side) :
    (pair.ends side).received <+: (final.ends side).received := by
  have kept : ∀ (now : Pair) (move : Side × Event) (next : Pair),
      (pair.ends side).received <+: (now.ends side).received →
      pairing.step now move = some next →
      (pair.ends side).received <+: (next.ends side).received := ?_
  · exact Machine.run_invariant kept List.prefix_rfl reached
  rintro now ⟨mover, event⟩ next before taken
  obtain ⟨session, -, stepped, moved, still, -⟩ := step_eq_some taken
  rcases Side.eq_or_other mover side with rfl | rfl
  · rw [moved]
    exact before.trans (Session.step_consumes stepped).grows
  · rw [still]
    exact before

theorem run_creates {moves : List (Side × Event)}
    (reached : run pairing.step pairing.start moves = some pair) {emission : Emission}
    (member : emission ∈ (pair.ends side).outgoing) :
    ∃ before event after middle next, moves = before ++ (side, event) :: after ∧
      run pairing.step pairing.start before = some middle ∧
      pairing.step middle (side, event) = some next ∧ run pairing.step next after = some pair ∧
      Session.Creates (pairing.endpoint side) (middle.ends side) event emission := by
  have none : emission ∉ (pairing.start.ends side).outgoing := by
    simp [start, Session.outgoing, Endpoint.start, WriterStage.inHand, WriterStage.held,
      ReaderStage.queued]
  obtain ⟨before, ⟨mover, event⟩, after, middle, next, split, reached, taken, rest, absent, present⟩ :=
    @Machine.run_turn Pair (Side × Event) pairing.step
      (fun pair => emission ∈ (pair.ends side).outgoing) pairing.start pair moves reached none member
  obtain ⟨session, -, stepped, moved, still, -⟩ := step_eq_some taken
  rcases Side.eq_or_other mover side with rfl | rfl
  · rw [moved] at present
    rcases Session.step_outgoing stepped emission present with old | new
    · exact absurd old absent
    · exact ⟨before, event, after, middle, next, split, reached, taken, rest, new⟩
  · rw [still] at present
    exact absurd present absent

end Pairing

namespace Session

variable {endpoint : Endpoint} {session : Session}

theorem run_resolved {events : List Event}
    (reached : run (step endpoint) endpoint.start events = some session)
    (room : session.issued ≤ 2 ^ 32) : session.Resolved := by
  have invariant : session.Consistent endpoint ∧ (session.issued ≤ 2 ^ 32 →
      session.ledger.Sound endpoint.labels endpoint.responseTimer ∧ session.Resolved) := by
    refine @Machine.run_invariant Session Event (step endpoint)
      (fun now => now.Consistent endpoint ∧ (now.issued ≤ 2 ^ 32 →
        now.ledger.Sound endpoint.labels endpoint.responseTimer ∧ now.Resolved)) ?_
      endpoint.start session events ⟨start_consistent endpoint, fun _ =>
        ⟨start_ledger endpoint ▸ Ledger.empty_sound, start_resolved endpoint⟩⟩ reached
    intro now event later before taken
    refine ⟨step_consistent before.1 taken, fun few => ?_⟩
    have moves := step_moves before.1 taken
    obtain ⟨sound, resolved⟩ := before.2 ((Ledger.run_issued moves).trans few)
    exact ⟨Ledger.run_sound (supply_injective endpoint) sound few moves,
      step_resolved resolved before.1 sound few taken⟩
  exact (invariant.2 room).2

theorem run_filed {events : List Event}
    (reached : run (step endpoint) endpoint.start events = some session)
    (room : session.issued ≤ 2 ^ 32) : session.ledger.Filed := by
  have moves : Moves endpoint endpoint.start.ledger session.ledger :=
    Machine.run_refines (fun _ _ _ before taken => step_consistent before taken)
      (fun _ _ _ before taken => step_moves before taken) (start_consistent endpoint) reached
  exact Ledger.run_filed (supply_injective endpoint) (start_ledger endpoint ▸ Ledger.empty_sound)
    room moves (start_ledger endpoint ▸ Ledger.empty_filed)

end Session

namespace Session

theorem SentAt.sole {endpoint : Endpoint} {session : Session} {place caller asking : Nat}
    {call own : Call} (sent : session.SentAt place caller call)
    (sound : session.ledger.Sound endpoint.labels endpoint.responseTimer)
    (filed : session.ledger.Filed) (found : session.calls[asking]? = some own)
    (replied : own.slot ≠ none) (same : call.number = own.number) :
    caller = asking ∧ call = own := by
  obtain ⟨emission, at_place, origin, calling⟩ := sent
  have member := List.mem_of_getElem? at_place
  obtain ⟨keyed, -, -, oneshot⟩ := sent_carried sound member origin calling
  have at_asking : session.ledger.slots[asking]? = some own.toSlot := by
    simp only [ledger, List.getElem?_map, found, Option.map_some]
  have mine : emission.frame.oneshot = some asking :=
    filed.own sound.fresh sound.kept at_asking replied member (keyed.trans (congrArg some same))
  rw [mine, origin] at oneshot
  have here : caller = asking := by
    split at oneshot
    · exact (Option.some.inj oneshot).symm
    · cases oneshot
  subst here
  rw [found] at calling
  cases calling
  exact ⟨rfl, rfl⟩

/-- The listener's response has the number of the request that it was asked about. -/
def echoes (session : Session) : Event → Bool
  | .respond handler resp =>
    session.handlers[handler]?.all fun (_, request) =>
      resp.header.sequenceNumber = request.header.sequenceNumber
  | .unbound resp =>
    match session.reader with
    | .unbinding _ pdu _ => resp.header.sequenceNumber = pdu.header.sequenceNumber
    | _ => true
  | _ => true

inductive Answers (session : Session) (place : Nat) (request : Request) : Response → Event → Prop
  | respond {handler : Nat} {resp : Response}
      (asked : session.handlers[handler]? = some (place, request)) :
      Answers session place request resp (.respond handler resp)
  | unbound {cursor : Nat} {pdu : Unbind} {resp : UnbindResp}
      (asked : session.reader = .unbinding place pdu cursor) (same : request = .unbind pdu) :
      Answers session place request (.unbind resp) (.unbound resp)

variable {session : Session} {place : Nat} {request : Request} {resp : Response} {event : Event}

theorem Answers.owed (answers : session.Answers place request resp event) :
    (place, request) ∈ session.owed := by
  cases answers with
  | respond asked => exact List.mem_append_left _ (List.mem_of_getElem? asked)
  | unbound asked same =>
    rw [same]
    exact List.mem_append_right _ (by rw [asked]; exact List.mem_singleton_self _)

theorem Answers.echoed (answers : session.Answers place request resp event)
    (echoes : session.echoes event = true) :
    resp.header.sequenceNumber = request.header.sequenceNumber := by
  cases answers with
  | respond asked =>
    simp only [Session.echoes, asked, Option.all_some, decide_eq_true_eq] at echoes
    exact echoes
  | unbound asked same =>
    simp only [Session.echoes, asked, decide_eq_true_eq] at echoes
    rw [same]
    exact echoes

theorem Answers.legible (answers : session.Answers place request resp event)
    (legible : event.Legible) : resp.Legible := by
  cases answers with
  | respond => exact legible
  | unbound => exact legible

end Session

/-- At some step of the run the listener of an end answers the request of a place. -/
def Pairing.AnsweredIn (pairing : Pairing) (moves : List (Side × Event)) (side : Side)
    (place : Nat) (request : Request) (resp : Response) : Prop :=
  ∃ before event after middle, moves = before ++ (side, event) :: after ∧
    run pairing.step pairing.start before = some middle ∧
    (middle.ends side).Answers place request resp event

/-- The call has put its request on the wire, the listener of the other end was asked about that very
    request and no other, and the call's result is what it answered. -/
structure Pairing.Served (pairing : Pairing) (moves : List (Side × Event)) (pair : Pair)
    (side : Side) (caller : Nat) (call : Call) (result : Response) : Prop where
  answered : ∃ place header resp, (pair.ends side).SentAt place caller call ∧
    header.SamePdu (call.request.setSequenceNumber call.number).header ∧
    pairing.AnsweredIn moves side.other place
      ((call.request.setSequenceNumber call.number).headed header) resp ∧
    result.Shows resp

namespace Pairing

variable {pairing : Pairing} {pair : Pair} {side : Side}

def honest (pair : Pair) (move : Side × Event) : Bool :=
  carries pair move && (pair.ends move.1).echoes move.2

theorem headed_header {request : Request} (legible : request.Legible) (number : UInt32)
    (header : CommandHeader) : ((request.setSequenceNumber number).headed header).header = header := by
  cases request with
  | cancelSm | enquireLink | bind | outbind => exact legible.elim
  | _ => rfl

theorem Conveys.asked (conveys : Conveys pairing pair) {place : Nat} {request : Request}
    {pdu : Bytes} {header : CommandHeader} (received : (pair.ends side).received[place]? = some pdu)
    (framed : CommandHeader.decode pdu = .ok header)
    (handed : ((pairing.endpoint side).branch header pdu).hands = some request) :
    ∃ caller call, (pair.ends side.other).SentAt place caller call ∧
      request = (call.request.setSequenceNumber call.number).headed header ∧
      header.SamePdu (call.request.setSequenceNumber call.number).header ∧
      request.header.sequenceNumber = call.number := by
  obtain ⟨caller, call, sent, same⟩ := conveys.handed_call received framed handed
  obtain ⟨other, framed', arrives⟩ := conveys.arrives sent received
  rw [framed] at framed'
  cases framed'
  obtain ⟨emission, found, origin, calling⟩ := sent
  obtain ⟨own, calling', legible, sends, -, encoded⟩ :=
    conveys.called (List.mem_of_getElem? found) origin
  rw [calling] at calling'
  cases calling'
  refine ⟨caller, call, ⟨emission, found, origin, calling⟩, same, arrives.same, ?_⟩
  obtain ⟨written, found', wrote⟩ := (conveys.stream side).found received
  rw [found] at found'
  cases found'
  rw [same, headed_header legible, (CommandHeader.decode_ok_eq framed).1]
  exact wrote ▸ Request.setSequenceNumber_word sends encoded

structure Traced (pairing : Pairing) (moves : List (Side × Event)) (pair : Pair) (side : Side)
    (place : Nat) (request : Request) (resp : Response) : Prop where
  answered : pairing.AnsweredIn moves side place request resp
  echoed : resp.header.sequenceNumber = request.header.sequenceNumber
  handed : ∃ pdu header, (pair.ends side).received[place]? = some pdu ∧
    CommandHeader.decode pdu = .ok header ∧
    ((pairing.endpoint side).branch header pdu).hands = some request

section Run

variable {moves : List (Side × Event)}
  (reached : run pairing.step pairing.start moves = some pair)
  (legible : ∀ move ∈ moves, move.2.Legible)
  (honest : Throughout pairing.step (fun pair move => Pairing.honest pair move = true)
    pairing.start moves)

include legible honest in
theorem before_civil {before after : List (Side × Event)} {middle : Pair}
    (split : moves = before ++ after) (early : run pairing.step pairing.start before = some middle) :
    Civil pairing middle := by
  subst split
  have carried : Throughout pairing.step (fun pair move => carries pair move = true)
      pairing.start before :=
    Machine.throughout_mono (fun _ _ honest => (Bool.and_eq_true_iff.mp honest).1)
      (Machine.throughout_before honest)
  exact run_civil (fun move member => legible move (List.mem_append_left _ member)) carried early

include legible honest in
theorem answers_traced {before after : List (Side × Event)} {event : Event} {middle next : Pair}
    (split : moves = before ++ (side, event) :: after)
    (early : run pairing.step pairing.start before = some middle)
    (taken : pairing.step middle (side, event) = some next)
    (late : run pairing.step next after = some pair) {place : Nat} {request : Request}
    {resp : Response} (answers : (middle.ends side).Answers place request resp event) :
    pairing.Traced moves pair side place request resp := by
  have civil := before_civil legible honest split early
  obtain ⟨pdu, header, received, framed, handed⟩ :=
    civil.conveys.handed side (place, request) answers.owed
  have later := run_received (Machine.run_cons_iff.mpr ⟨next, taken, late⟩) side
  rw [split] at honest
  have upright := (Machine.throughout_append honest early).1
  exact ⟨⟨before, event, after, middle, split, early, answers⟩,
    answers.echoed (Bool.and_eq_true_iff.mp upright).2,
    pdu, header, found_later later received, framed, handed⟩

include reached legible honest

/-- What a caller takes for its response is an answer of the listener. -/
theorem answered_frame {emission : Emission} (member : emission ∈ (pair.ends side).outgoing)
    {cause : Nat} (origin : emission.origin = .reaction cause) {header : CommandHeader}
    (framed : CommandHeader.decode emission.frame.pdu = .ok header) {result : Response}
    {closes : Bool} {endpoint : Endpoint}
    (branch : endpoint.branch header emission.frame.pdu = .response (.deliver result closes))
    {asking : Request} (matched : asking.Matches result = true) :
    ∃ request resp, pairing.Traced moves pair side cause request resp ∧
      emission.frame.pdu = resp.encode ∧ result.Shows resp := by
  obtain ⟨before, event, after, middle, next, split, early, taken, late, creates⟩ :=
    run_creates reached member
  have told : event.Legible := legible (side, event) (by rw [split]; simp)
  have civil := before_civil legible honest split early
  have read : ∀ resp : Response, resp.Legible → emission.frame.pdu = resp.encode →
      result.Shows resp := by
    intro resp legible encoded
    rw [encoded] at framed branch
    have heeds := legible_heeded legible framed endpoint
    rw [branch] at heeds
    cases heeds with
    | deliver shows => exact shows
  have listened {request : Request} {resp : Response}
      (answers : (middle.ends side).Answers cause request resp event)
      (encoded : emission.frame.pdu = resp.encode) :
      ∃ request resp, pairing.Traced moves pair side cause request resp ∧
        emission.frame.pdu = resp.encode ∧ result.Shows resp :=
    ⟨request, resp, answers_traced legible honest split early taken late answers, encoded,
      read resp (answers.legible told) encoded⟩
  cases creates with
  | call | tick => cases origin
  | @respond handler place request resp asked =>
    cases origin
    exact listened (.respond asked) rfl
  | @unbound place cursor pdu resp asked =>
    cases origin
    exact listened (.unbound asked rfl) rfl
  | answer coming answers =>
    obtain ⟨resp, automatic, encoded⟩ :=
      civil.conveys.answers_itself (civil.spoken side.other) coming answers
    rw [(read resp automatic.legible encoded).matches asking, automatic.strange asking] at matched
    cases matched

end Run

end Pairing

theorem link_isResponse (number : UInt32) : isResponse (EnquireLink.new number).encode = false := by
  unfold isResponse
  rw [show beU32At (EnquireLink.new number).encode 4 = _ from (bare_words _).1]
  rfl

theorem Pairing.Conveys.reacted {pairing : Pairing} {pair : Pair} {side : Side}
    (conveys : Pairing.Conveys pairing pair) {emission : Emission} {place : Nat}
    (sent : (pair.ends side.other).sent[place]? = some emission)
    (received : (pair.ends side).received[place]? = some emission.frame.pdu)
    {header : CommandHeader} (framed : CommandHeader.decode emission.frame.pdu = .ok header)
    {settlement : Settlement}
    (branch : (pairing.endpoint side).branch header emission.frame.pdu = .response settlement)
    (response : isResponse emission.frame.pdu = true) :
    ∃ cause, emission.origin = .reaction cause := by
  cases origin : emission.origin with
  | call caller =>
    obtain ⟨call, calling, -⟩ := conveys.called (List.mem_of_getElem? sent) origin
    obtain ⟨other, framed', arrives⟩ := conveys.arrives ⟨emission, sent, origin, calling⟩ received
    rw [framed] at framed'
    cases framed'
    have hands := arrives.hands
    rw [branch] at hands
    cases hands
  | link =>
    have attributed := conveys.attributed side.other emission
      (Session.mem_outgoing.mpr (.inr (.inr (.inr (.inr (.inl (List.mem_of_getElem? sent)))))))
    unfold Emission.Attributed at attributed
    rw [origin] at attributed
    obtain ⟨number, link⟩ := attributed
    rw [link, link_isResponse] at response
    cases response
  | reaction cause => exact ⟨cause, rfl⟩

/-- Where every write takes a whole PDU, requests and responses read back and listeners echo the
    number they were asked with, a call only ever returns `Ok` of what the listener of the other end
    answered to that very request, however the two directions and their numbers interleave. -/
theorem results_are_answers (pairing : Pairing) (moves : List (Side × Event)) (pair : Pair)
    (reached : run pairing.step pairing.start moves = some pair)
    (legible : ∀ move ∈ moves, move.2.Legible)
    (honest : Throughout pairing.step (fun pair move => Pairing.honest pair move = true)
      pairing.start moves)
    (few : ∀ side, (pair.ends side).issued < 2 ^ 32) (side : Side) (caller : Nat) (call : Call)
    (result : Response) (found : (pair.ends side).calls[caller]? = some call)
    (returned : call.stage = .returned (.ok result)) :
    pairing.Served moves pair side caller call result := by
  have civil := Pairing.before_civil legible honest (List.append_nil moves).symm reached
  obtain ⟨events, ran⟩ := Pairing.run_ends reached side
  have sound := (Session.run_ledger_sound ran (few side).le).2
  have filed := Session.run_filed ran (few side).le
  obtain ⟨place, slot, matched⟩ :=
    Session.run_resolved ran (few side).le caller call result found returned
  have replies : (pair.ends side).table.replies caller = some (place, result) := by
    simp only [Session.table, found, Option.bind_some, slot]
  have at_caller : (pair.ends side).ledger.slots[caller]? = some call.toSlot := by
    simp only [Session.ledger, List.getElem?_map, found, Option.map_some]
  obtain ⟨pdu, header, closes, received, framed, branch⟩ :=
    civil.filled side caller place result replies
  obtain ⟨message, heard, answers⟩ :=
    sound.answered.heard caller call.toSlot place result at_caller slot
  obtain rfl : pdu = message := Option.some.inj (received.symm.trans heard)
  obtain ⟨response, number⟩ := answeredNumber_eq answers
  obtain ⟨emission, sent, rfl⟩ := (civil.conveys.stream side).found received
  obtain ⟨cause, origin⟩ := civil.conveys.reacted sent received framed branch response
  have member : emission ∈ (pair.ends side.other).outgoing :=
    Session.mem_outgoing.mpr (.inr (.inr (.inr (.inr (.inl (List.mem_of_getElem? sent))))))
  obtain ⟨request, resp, traced, encoded, shows⟩ :=
    Pairing.answered_frame reached legible honest member origin framed branch matched
  obtain ⟨asked, own, took, framed', handed⟩ := traced.handed
  obtain ⟨asking, call', wire, same, headers, numbered⟩ := civil.conveys.asked took framed' handed
  rw [Side.other_other] at wire
  have echoed : call'.number = call.number := by
    rw [← numbered, ← traced.echoed, ← resp.encode_words.2, ← encoded]
    exact number
  obtain ⟨rfl, rfl⟩ := wire.sole sound filed found (slot ▸ Option.some_ne_none _) echoed
  exact ⟨cause, own, resp, wire, headers, same ▸ traced.answered, shows⟩

def Call.result (call : Call) : Option Response :=
  match call.stage with
  | .returned (.ok resp) => some resp
  | _ => none

theorem Call.result_eq_some {call : Call} {resp : Response} (result : call.result = some resp) :
    call.stage = .returned (.ok resp) := by
  unfold Call.result at result
  split at result
  · rename_i stage
    cases result
    exact stage
  · cases result

theorem deliver_sm_result_is_answer :
    let pairing : Pairing := ⟨.trx, fun _ => 60, fun _ => 600, 1000⟩
    let frame := (emptyDeliverSm 1).encode
    let resp : Response :=
      .deliverSm ⟨⟨17, CommandId.deliverSmResp.value, SmppError.ESME_ROK.code, 1⟩, Utf8.Str.empty⟩
    let moves : List (Side × Event) :=
      [(.server, .call (.deliverSm (emptyDeliverSm 0))), (.server, .enqueue 0), (.server, .check),
        (.server, .take), (.server, .register), (.server, .write (.accepted frame.length)),
        (.client, .receive frame), (.client, .extract), (.client, .respond 0 resp),
        (.client, .enqueue 0), (.client, .check), (.client, .take), (.client, .register),
        (.client, .write (.accepted resp.encode.length)), (.server, .receive resp.encode),
        (.server, .extract), (.server, .resolve 0)]
    ∃ pair call, run pairing.step pairing.start moves = some pair ∧
      (pair.ends .server).calls[0]? = some call ∧ call.stage = .returned (.ok resp) ∧
      pairing.Served moves pair .server 0 call resp := by
  intro pairing frame resp moves
  have ran : (run pairing.step pairing.start moves).map (fun pair =>
      ((pair.ends .server).calls.map Call.result, (pair.ends .client).issued,
        (pair.ends .server).issued)) = some ([some resp], 0, 1) := by decide +kernel
  obtain ⟨pair, reached, facts⟩ := Option.map_eq_some_iff.mp ran
  simp only [Prod.mk.injEq] at facts
  have few : ∀ side, (pair.ends side).issued < 2 ^ 32 := by
    intro side
    cases side with
    | client =>
      rw [facts.2.1]
      decide
    | server =>
      rw [facts.2.2]
      decide
  have legible : ∀ move ∈ moves, move.2.Legible := by
    simp only [moves, List.forall_mem_cons, Event.Legible]
    refine ⟨⟨rfl, ⟨?_, ?_, ?_, ?_, ?_, rfl⟩, ?_⟩, ?_⟩
    · decide
    · decide
    · decide
    · decide
    · decide
    · exact fun _ member => by cases member
    · refine ⟨trivial, trivial, trivial, trivial, trivial, trivial, trivial, ⟨rfl, ?_, .inr rfl⟩, ?_⟩
      · decide
      · simp
  have honest : Throughout pairing.step (fun pair move => Pairing.honest pair move = true)
      pairing.start moves := by decide +kernel
  have first := congrArg (fun results : List (Option Response) => results[0]?) facts.1
  simp only [List.getElem?_map, List.getElem?_cons_zero] at first
  obtain ⟨call, found, result⟩ := Option.map_eq_some_iff.mp first
  have returned := Call.result_eq_some result
  exact ⟨pair, call, reached, found, returned,
    results_are_answers pairing moves pair reached legible honest few .server 0 call resp found
      returned⟩

end Smpp34
