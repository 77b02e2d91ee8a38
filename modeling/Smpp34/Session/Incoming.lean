import Smpp34.Session.Fates
import Smpp34.Session.Unbinding

namespace Smpp34

open Octets
open Machine (run)

def ReaderStage.ending : ReaderStage → Bool
  | unbinding _ _ _ | leaving | closed | gone => true
  | queueing _ _ _ control => control ≠ .proceed
  | _ => false

def ReaderStage.present : ReaderStage → Bool
  | closed | gone => false
  | _ => true

namespace Branch

def panics : Branch → Bool
  | panic | response .panic => true
  | _ => false

end Branch

section Branches

variable {bound : BoundType} {header : CommandHeader} {pdu : Bytes}

theorem dispatched_panics {α : Type} {decoded : Decoded α} {onOk : α → Branch}
    {onError : SmppError → Bytes} (safe : decoded ≠ .error .panic)
    (handled : ∀ value, (onOk value).panics = false) :
    (dispatched decoded onOk onError).panics = false := by
  refine dispatched_cases ?_ ?_ ?_
  · exact fun value _ => handled value
  · exact fun _ _ => rfl
  · exact fun panicked => absurd panicked safe

theorem settled_panics {α : Type} {decoded : Decoded α} {onOk : α → Response} {closes : Bool}
    {onError : SmppError → Option Bytes} (safe : decoded ≠ .error .panic) :
    (settled decoded onOk closes onError).panics = false := by
  refine settled_cases ?_ ?_ ?_
  · exact fun _ _ => rfl
  · exact fun _ _ => rfl
  · exact fun panicked => absurd panicked safe

theorem bare_ne_panic {α : Type} {id : CommandId} {wrap : CommandHeader → α} :
    (decodeBare id header pdu >>= fun header => pure (wrap header)) ≠ .error .panic :=
  bind_ne_panic decodeBare_ne_panic fun _ => ok_ne_panic _

theorem serverBranch_panics (bound : BoundType) (framed : CommandHeader.decode pdu = .ok header) :
    (serverBranch bound header pdu).panics = false := by
  have long := (CommandHeader.decode_ok_eq framed).2.1
  have chain := serverBranch_chain bound header pdu
  generalize serverBranch bound header pdu = branch at chain
  cases chain with
  | submitSm same => exact dispatched_panics SubmitSm.decode_ne_panic fun _ => rfl
  | submitMulti same =>
    exact dispatched_panics (SubmitSmMulti.decode_ne_panic_iff.mpr long) fun _ => rfl
  | dataSm same => exact dispatched_panics DataSm.decode_ne_panic fun _ => rfl
  | cancelSm same => exact dispatched_panics CancelSm.decode_ne_panic fun _ => rfl
  | querySm same => exact dispatched_panics QuerySm.decode_ne_panic fun _ => rfl
  | replaceSm same => exact dispatched_panics ReplaceSm.decode_ne_panic fun _ => rfl
  | enquireLink same => exact dispatched_panics bare_ne_panic fun _ => rfl
  | enquireLinkResp => rfl
  | unbind same =>
    refine unbindBranch_cases ?_ ?_ ?_
    · exact fun _ _ => rfl
    · exact fun _ _ => rfl
    · exact fun panicked => absurd panicked bare_ne_panic
  | deliverSmResp same => exact settled_panics DeliverSmResp.decode_ne_panic
  | dataSmResp same => exact settled_panics DataSmResp.decode_ne_panic
  | genericNack same => exact settled_panics bare_ne_panic
  | unsupported => rfl

theorem clientBranch_panics (bound : BoundType) (framed : CommandHeader.decode pdu = .ok header) :
    (clientBranch bound header pdu).panics = false := by
  have long := (CommandHeader.decode_ok_eq framed).2.1
  have chain := clientBranch_chain bound header pdu
  generalize clientBranch bound header pdu = branch at chain
  cases chain with
  | deliverSm same => exact dispatched_panics DeliverSm.decode_ne_panic fun _ => rfl
  | dataSm same => exact dispatched_panics DataSm.decode_ne_panic fun _ => rfl
  | submitSmResp same => exact settled_panics (SubmitSmResp.decode_ne_panic_iff.mpr fun _ => long)
  | submitMultiResp same =>
    exact settled_panics (SubmitSmMultiResp.decode_ne_panic_iff.mpr fun _ => long)
  | dataSmResp same => exact settled_panics DataSmResp.decode_ne_panic
  | cancelSmResp same => exact settled_panics (ok_ne_panic _)
  | querySmResp same => exact settled_panics QuerySmResp.decode_ne_panic
  | replaceSmResp same => exact settled_panics (ok_ne_panic _)
  | alertNotification same =>
    exact dispatched_panics AlertNotification.decode_ne_panic fun _ => rfl
  | enquireLink same => exact dispatched_panics bare_ne_panic fun _ => rfl
  | enquireLinkResp => rfl
  | unbind same =>
    refine unbindBranch_cases ?_ ?_ ?_
    · exact fun _ _ => rfl
    · exact fun _ _ => rfl
    · exact fun panicked => absurd panicked bare_ne_panic
  | unbindResp same => exact settled_panics bare_ne_panic
  | genericNack same => exact settled_panics bare_ne_panic
  | unsupported => rfl

theorem branch_panics (endpoint : Endpoint) (framed : CommandHeader.decode pdu = .ok header) :
    (endpoint.branch header pdu).panics = false := by
  unfold Endpoint.branch
  cases endpoint.side with
  | server => exact serverBranch_panics endpoint.bound framed
  | client => exact clientBranch_panics endpoint.bound framed

def Request.submits : Request → Bool
  | submitSm _ | submitSmMulti _ | cancelSm _ | querySm _ | replaceSm _ => true
  | _ => false

def Branch.asks : Branch → Option Request
  | request pdu => some pdu
  | unbind pdu => some (.unbind pdu)
  | _ => none

theorem dispatched_asks {α : Type} {decoded : Decoded α} {onOk : α → Branch}
    {onError : SmppError → Bytes} {request : Request} {holds : Prop}
    (asked : (dispatched decoded onOk onError).asks = some request)
    (handled : ∀ value, (onOk value).asks = some request → holds) : holds := by
  revert asked
  refine dispatched_cases ?_ ?_ ?_
  · exact fun value _ asked => handled value asked
  · exact fun _ _ asked => by cases asked
  · exact fun _ asked => by cases asked

theorem settled_asks {α : Type} {decoded : Decoded α} {onOk : α → Response} {closes : Bool}
    {onError : SmppError → Option Bytes} :
    (settled decoded onOk closes onError).asks = none := by
  refine settled_cases ?_ ?_ ?_
  · exact fun _ _ => rfl
  · exact fun _ _ => rfl
  · exact fun _ => rfl

theorem serverBranch_asks {request : Request}
    (asked : (serverBranch bound header pdu).asks = some request) :
    request.submits = true → bound.transmits = true := by
  have chain := serverBranch_chain bound header pdu
  generalize serverBranch bound header pdu = branch at chain asked
  cases chain with
  | submitSm same transmits => exact fun _ => transmits
  | submitMulti same transmits => exact fun _ => transmits
  | cancelSm same transmits => exact fun _ => transmits
  | querySm same transmits => exact fun _ => transmits
  | replaceSm same transmits => exact fun _ => transmits
  | dataSm same =>
    apply dispatched_asks asked
    intro value handled
    cases handled
    intro submits
    cases submits
  | enquireLink same =>
    apply dispatched_asks asked
    intro value handled
    cases handled
  | enquireLinkResp => cases asked
  | unbind same =>
    revert asked
    refine unbindBranch_cases ?_ ?_ ?_
    · intro unbind _ asked submits
      cases asked
      cases submits
    · exact fun _ _ asked => by cases asked
    · exact fun _ asked => by cases asked
  | deliverSmResp same =>
    rw [settled_asks] at asked
    cases asked
  | dataSmResp same =>
    rw [settled_asks] at asked
    cases asked
  | genericNack same =>
    rw [settled_asks] at asked
    cases asked
  | unsupported => cases asked

theorem serverBranch_unbind (same : header.commandId = CommandId.unbind.value) :
    serverBranch bound header pdu =
      unbindBranch (Unbind.decode header pdu) (potentialSeqNo pdu) := by
  simp [serverBranch, same]

end Branches

namespace Session

section Reader

variable {endpoint : Endpoint} {session next : Session}

theorem proceed_present (session : Session) (cursor : Nat) (control : Control) :
    (session.proceed cursor control).reader.present = true := by
  cases control <;> rfl

theorem reply_present (session : Session) (place : Nat) (frame : Bytes) (cursor : Nat)
    (control : Control) : (session.reply place frame cursor control).reader.present = true := by
  obtain ⟨senders, channel, ticker, reader, same, -, stands⟩ :=
    reply_eq session place frame cursor control
  rw [same]
  rcases stands with ⟨rfl, -⟩ | rfl | rfl <;> rfl

theorem reply_received (session : Session) (place : Nat) (frame : Bytes) (cursor : Nat)
    (control : Control) :
    (session.reply place frame cursor control).received = session.received := by
  obtain ⟨senders, channel, ticker, reader, same, -⟩ := reply_eq session place frame cursor control
  rw [same]

theorem reply_ending (session : Session) (place : Nat) (frame : Bytes) (cursor : Nat)
    {control : Control} (ends : control ≠ .proceed) :
    (session.reply place frame cursor control).reader.ending = true := by
  obtain ⟨senders, channel, ticker, reader, same, -, stands⟩ :=
    reply_eq session place frame cursor control
  rw [same]
  rcases stands with ⟨-, goesOn⟩ | rfl | rfl
  · exact absurd goesOn ends
  · rfl
  · exact decide_eq_true ends

theorem settle_present (present : session.reader.present = true) (number : UInt32)
    (place cursor : Nat) {settlement : Settlement} (safe : settlement ≠ .panic) :
    (session.settle endpoint number place cursor settlement).reader.present = true := by
  unfold settle
  split
  · exact present
  · rename_i entry found
    dsimp only
    split
    · exact present
    · cases settlement with
      | deliver resp closes =>
        cases entry.caller <;> cases closes
        · exact present
        · rfl
        · exact present
        · rfl
      | refuse reply =>
        cases reply with
        | none => exact present
        | some frame => exact reply_present _ place frame cursor .proceed
      | panic => exact absurd rfl safe

theorem settleLink_present (session : Session) (pdu : Bytes) (number : UInt32) (cursor : Nat) :
    (session.settleLink endpoint pdu number cursor).reader.present = true := by
  unfold settleLink
  dsimp only
  split
  · rfl
  · split <;> rfl

theorem link_present (session : Session) (pdu : Bytes) (number : UInt32) (cursor : Nat) :
    (session.link endpoint pdu number cursor).reader.present = true := by
  unfold link
  split
  · exact settleLink_present session pdu number cursor
  · split
    · exact settleLink_present _ pdu number cursor
    · rfl

theorem takeUp_present {pdu : Bytes} {header : CommandHeader}
    (framed : CommandHeader.decode pdu = .ok header)
    (safe : (endpoint.branch header pdu).panics = false) (cursor : Nat) :
    (session.takeUp endpoint pdu cursor).reader.present = true := by
  unfold takeUp
  rw [framed]
  dsimp only
  unfold dispatch
  dsimp only
  cases branch : endpoint.branch header pdu with
  | request request => rfl
  | alert alert => rfl
  | reply frame => exact reply_present _ _ frame _ .proceed
  | unbind unbind => rfl
  | unbindReject frame => exact reply_present _ _ frame _ .unbound
  | linkResp => exact link_present session pdu header.sequenceNumber cursor
  | response settlement =>
    apply settle_present rfl
    intro panics
    rw [branch, panics] at safe
    cases safe
  | panic =>
    rw [branch] at safe
    cases safe

/-- An unbind is the last PDU, whether it decodes or not. -/
theorem takeUp_ending {pdu : Bytes} {header : CommandHeader} (server : endpoint.side = .server)
    (framed : CommandHeader.decode pdu = .ok header)
    (same : header.commandId = CommandId.unbind.value) (cursor : Nat) :
    (session.takeUp endpoint pdu cursor).reader.ending = true := by
  have branch : endpoint.branch header pdu =
      unbindBranch (Unbind.decode header pdu) (potentialSeqNo pdu) := by
    unfold Endpoint.branch
    rw [server]
    exact serverBranch_unbind same
  unfold takeUp
  rw [framed]
  dsimp only
  unfold dispatch
  dsimp only
  rw [branch]
  cases Unbind.decode header pdu with
  | ok unbind => rfl
  | error fault =>
    cases fault with
    | error error => exact reply_ending _ _ _ _ (by decide)
    | panic => rfl

theorem step_present {event : Event} (goesOn : event = .stop → endpoint.side = .server)
    (present : session.reader.present = true) (taken : session.step endpoint event = some next) :
    (event = .close ∧ next.reader = .closed) ∨
      event ≠ .close ∧ next.reader.present = true := by
  by_cases reads : event.ofReader = true
  · cases step_reader reads taken with
    | waits stage => exact .inr ⟨Event.noConfusion, present⟩
    | finishes stage =>
      refine .inr ⟨Event.noConfusion, ?_⟩
      unfold finishRead
      dsimp only
      split <;> rfl
    | takesUp stage whole =>
      rw [nextPdu_eq] at whole
      obtain ⟨header, framed⟩ := decode_framed whole
      exact .inr ⟨Event.noConfusion, takeUp_present framed (branch_panics endpoint framed) _⟩
    | queuesReply stage => exact .inr ⟨Event.noConfusion, proceed_present _ _ _⟩
    | queuesNumber stage => exact .inr ⟨Event.noConfusion, settleLink_present _ _ _ _⟩
    | answers stage => exact .inr ⟨Event.noConfusion, reply_present session _ _ _ .unbound⟩
    | closes stage => exact .inl ⟨rfl, rfl⟩
    | stops running client =>
      rw [goesOn rfl] at client
      cases client
    | _ stage => exact .inr ⟨Event.noConfusion, rfl⟩
  · right
    constructor
    · rintro rfl
      exact reads rfl
    · rw [(step_elsewhere (Bool.not_eq_true _ ▸ reads) taken).1]
      exact present

theorem step_ending {event : Event} (ending : session.reader.ending = true)
    (taken : session.step endpoint event = some next) :
    next.reader.ending = true ∧ next.received = session.received := by
  by_cases reads : event.ofReader = true
  · cases step_reader reads taken with
    | dropsReply stage stopped => exact ⟨rfl, rfl⟩
    | @queuesReply place frame cursor control stage =>
      rw [stage] at ending
      have ends : control ≠ .proceed := of_decide_eq_true ending
      cases control with
      | proceed => exact absurd rfl ends
      | unbound => exact ⟨rfl, rfl⟩
      | writerDead => exact ⟨rfl, rfl⟩
    | answers stage =>
      exact ⟨reply_ending session _ _ _ Control.noConfusion,
        reply_received session _ _ _ .unbound⟩
    | closes stage => exact ⟨rfl, rfl⟩
    | stops running client => exact ⟨rfl, rfl⟩
    | _ stage =>
      rw [stage] at ending
      cases ending
  · obtain ⟨reader, received, -⟩ := step_elsewhere (Bool.not_eq_true _ ▸ reads) taken
    rw [reader]
    exact ⟨ending, received⟩

theorem step_takes {event : Event} {pdu : Bytes} {cursor : Nat}
    (stage : session.reader = .extracting cursor) (stands : session.StandsAt pdu cursor)
    (taken : session.step endpoint event = some next)
    (grown : next.received = session.received ++ [pdu]) :
    next = session.takeUp endpoint pdu cursor := by
  have longer : next.received ≠ session.received := by
    rw [grown]
    simp
  by_cases elsewhere : event.ofReader = false
  · exact absurd (step_elsewhere elsewhere taken).2.1 longer
  · cases event with
    | extract =>
      obtain ⟨whole, here⟩ := stands
      simp only [step, extract, stage, whole, here] at taken
      cases taken
      rfl
    | stop =>
      simp only [step, stop] at taken
      split at taken
      · cases taken
        exact absurd rfl longer
      · cases taken
    | receive | hangUp | idle | enqueueReply | enqueueNumber | unbound | close =>
      simp [step, receive, hangUp, idle, enqueueReply, enqueueNumber, unbound, close, stage]
        at taken
    | _ => simp [Event.ofReader] at elsewhere

def UnbindLast (session : Session) : Prop :=
  ∀ place, isUnbind session.received place = true →
    session.received.length = place + 1 ∧ session.reader.ending = true

theorem isUnbind_append {received : List Bytes} {pdu : Bytes} {place : Nat}
    (unbind : isUnbind (received ++ [pdu]) place = true) :
    isUnbind received place = true ∨
      place = received.length ∧ beU32At pdu 4 = CommandId.unbind.value := by
  unfold isUnbind at unbind ⊢
  by_cases inside : place < received.length
  · rw [List.getElem?_append_left inside] at unbind
    exact .inl unbind
  · rw [List.getElem?_append_right (Nat.le_of_not_lt inside), List.getElem?_singleton] at unbind
    split at unbind
    · rename_i last
      right
      exact ⟨by omega, of_decide_eq_true unbind⟩
    · cases unbind

theorem start_unbindLast (endpoint : Endpoint) : endpoint.start.UnbindLast := by
  intro place unbind
  simp [isUnbind, Endpoint.start] at unbind

theorem step_unbindLast {event : Event} (server : endpoint.side = .server)
    (consistent : session.Consistent endpoint) (last : session.UnbindLast)
    (taken : session.step endpoint event = some next) : next.UnbindLast := by
  have same (received : next.received = session.received) : next.UnbindLast := by
    intro place unbind
    rw [received] at unbind ⊢
    obtain ⟨only, ending⟩ := last place unbind
    exact ⟨only, (step_ending ending taken).1⟩
  have none (going : session.reader.ending = false) (place : Nat) :
      isUnbind session.received place ≠ true := by
    intro unbind
    have ending := (last place unbind).2
    rw [going] at ending
    cases ending
  have consumes := step_consumes taken
  generalize event.piece = piece at consumes
  cases consumes with
  | nothing received => exact same received
  | piece _ received => exact same received
  | tail _ received => exact same received
  | wait _ _ received => exact same received
  | @pdu pdu cursor standing grown =>
    intro place unbind
    rw [grown] at unbind ⊢
    rcases isUnbind_append unbind with old | ⟨rfl, id⟩
    · rcases standing with ⟨stage, -⟩ | ⟨number, stage⟩
      · exact absurd old (none (by rw [stage]; rfl) place)
      · exact absurd old (none (by rw [stage]; rfl) place)
    · rcases standing with ⟨stage, stands⟩ | ⟨number, stage⟩
      · have whole := stands.1
        rw [nextPdu_eq] at whole
        obtain ⟨header, framed⟩ := decode_framed whole
        rw [stands.2] at framed
        have named : header.commandId = CommandId.unbind.value := by
          rw [(CommandHeader.decode_ok_eq framed).1]
          exact id
        rw [step_takes stage stands taken grown]
        exact ⟨by simp, takeUp_ending server framed named cursor⟩
      · -- an enquire_link_resp is no unbind
        have answers := consistent.linked pdu number (by rw [stage]; rfl)
        have response := (answeredNumber_eq answers).1
        unfold isResponse at response
        rw [id] at response
        exact absurd response (by decide)

structure Heard (session : Session) (read : Bytes) : Prop where
  linking : ∀ pdu number cursor, session.reader = .linking pdu number cursor →
    session.StandsAt pdu cursor
  rest : ∃ rest, read = session.received.flatten ++ rest ∧
    ∀ cursor, session.reader.position = some cursor → rest = session.buffer.drop cursor

theorem start_heard (endpoint : Endpoint) : endpoint.start.Heard [] where
  linking _ _ _ stage := by cases stage
  rest := ⟨[], rfl, fun _ _ => by simp [Endpoint.start]⟩

theorem step_heard {event : Event} {read : Bytes} (heard : session.Heard read)
    (taken : session.step endpoint event = some next) : next.Heard (read ++ event.piece) := by
  obtain ⟨linking, rest, same, unread⟩ := heard
  have consumes := step_consumes taken
  generalize event.piece = piece at consumes ⊢
  cases consumes with
  | nothing received buffer position kept =>
    rw [List.append_nil]
    refine ⟨?_, rest, received ▸ same, ?_⟩
    · intro pdu number cursor stage
      have stands := linking pdu number cursor (kept pdu number cursor stage)
      unfold StandsAt at *
      rw [buffer]
      exact stands
    · intro cursor here
      rcases position with still | gone
      · rw [buffer]
        exact unread cursor (still ▸ here)
      · rw [gone] at here
        cases here
  | piece reading received buffer extracting =>
    have all := unread 0 (by rw [reading]; rfl)
    refine ⟨?_, rest ++ piece, ?_, ?_⟩
    · intro pdu number cursor stage
      rw [extracting] at stage
      cases stage
    · rw [same, received, List.append_assoc]
    · intro cursor here
      rw [extracting] at here
      cases here
      rw [all, buffer, List.drop_zero, List.drop_zero]
  | @tail start extracting received buffer reading =>
    have all := unread start (by rw [extracting]; rfl)
    rw [List.append_nil]
    refine ⟨?_, rest, received ▸ same, ?_⟩
    · intro pdu number cursor stage
      rcases reading with reading | leaving
      · rw [reading] at stage
        cases stage
      · rw [leaving] at stage
        cases stage
    · intro cursor here
      rcases reading with reading | leaving
      · rw [reading] at here
        cases here
        rw [buffer, List.drop_zero]
        exact all
      · rw [leaving] at here
        cases here
  | @wait pdu number start extracting stands received buffer waits =>
    have all := unread start (by rw [extracting]; rfl)
    rw [List.append_nil]
    refine ⟨?_, rest, received ▸ same, ?_⟩
    · intro other number cursor stage
      rw [waits] at stage
      cases stage
      unfold StandsAt at *
      rw [buffer]
      exact stands
    · intro cursor here
      rw [waits] at here
      cases here
      rw [buffer]
      exact all
  | @pdu pdu start standing received buffer position unlinked =>
    have here : session.reader.position = some start ∧ session.StandsAt pdu start := by
      rcases standing with ⟨stage, stands⟩ | ⟨number, stage⟩
      · exact ⟨by rw [stage]; rfl, stands⟩
      · exact ⟨by rw [stage]; rfl, linking pdu number start stage⟩
    have split : session.buffer.drop start =
        pdu ++ session.buffer.drop (start + pdu.length) := by
      rw [← List.drop_drop]
      conv_lhs => rw [← List.take_append_drop pdu.length (session.buffer.drop start)]
      rw [here.2.2]
    rw [List.append_nil]
    refine ⟨fun pdu number cursor stage => absurd stage (unlinked pdu number cursor),
      session.buffer.drop (start + pdu.length), ?_, ?_⟩
    · rw [same, unread start here.1, split, received, List.flatten_append, List.flatten_singleton,
        List.append_assoc]
    · intro cursor after
      rcases position with goesOn | ended
      · rw [goesOn] at after
        cases after
        rw [buffer]
      · rw [ended] at after
        cases after

end Reader

end Session

def BindKind.bound : BindKind → BoundType
  | receiver => .rx
  | transmitter => .tx
  | transceiver => .trx

def BindRequest.respond {kind : BindKind} (request : BindRequest kind) : Verdict → BindResp kind
  | .accept args => request.accept args.systemId args.scInterfaceVersion
  | .reject error => request.reject error
  | .genericReject number error => BindRequest.genericReject kind number error

/-- What the listener of a server is called with. -/
inductive Callback where
  | onBind (kind : BindKind) (pdu : BindRequest kind) (resp : BindResp kind)
  | onEsmeBound
  | onRequest (pdu : Request)
  | onTimeout (sequenceNumber : UInt32)
  | onEsmeUnbound

def Callback.isUnbound : Callback → Bool
  | onEsmeUnbound => true
  | _ => false

/-- A session of the server: what the handshake has read behind the bind, and the handlers that are
    spawned and have not called the listener yet. -/
structure Hosted where
  kind : BindKind
  announced : Bool
  leftover : Bytes
  watch : Watch
  spawned : List (Nat × Request)

inductive Phase where
  | handshake (buffer : Bytes)
  | refused
  | bound (hosted : Hosted)

def Phase.kind : Phase → Option BindKind
  | .bound hosted => some hosted.kind
  | _ => none

/-- The stream is all that the socket has delivered. -/
structure Incoming where
  phase : Phase
  trace : List Callback
  stream : Bytes

structure ServerTimers where
  responseTimer : Nat
  inactivityTimer : Nat

def ServerTimers.endpoint (timers : ServerTimers) (kind : BindKind) : Endpoint :=
  ⟨.server, kind.bound, timers.responseTimer, timers.inactivityTimer⟩

inductive IncomingEvent where
  | arrive (piece : Bytes)
  | giveUp
  | bind (verdict : Verdict) (written : Bool)
  | announce
  | act (event : Event)
  | notify
  | callback (task : Nat)

namespace Incoming

variable (timers : ServerTimers)

def start : Incoming := ⟨.handshake [], [], []⟩

/-- `OPEN::bind_*`: the session is there if the listener accepts and the response is written. -/
def bindWith (incoming : Incoming) (kind : BindKind) (header : CommandHeader) (pdu leftover : Bytes)
    (verdict : Verdict) (written : Bool) : Incoming :=
  match BindRequest.decode kind header pdu with
  | .ok request =>
    let resp := request.respond verdict
    { incoming with
      phase :=
        if resp.isSuccess && written then
          .bound ⟨kind, false, leftover, Watch.start (timers.endpoint kind), []⟩
        else .refused
      trace := incoming.trace ++ [.onBind kind request resp] }
  | .error _ => { incoming with phase := .refused }

def bindFirst (incoming : Incoming) (pdu leftover : Bytes) (verdict : Verdict) (written : Bool) :
    Incoming :=
  match CommandHeader.decode pdu with
  | .error _ => { incoming with phase := .refused }
  | .ok header =>
    if header.commandId = CommandId.bindReceiver.value then
      incoming.bindWith timers .receiver header pdu leftover verdict written
    else if header.commandId = CommandId.bindTransmitter.value then
      incoming.bindWith timers .transmitter header pdu leftover verdict written
    else if header.commandId = CommandId.bindTransceiver.value then
      incoming.bindWith timers .transceiver header pdu leftover verdict written
    else { incoming with phase := .refused }

/-- The loop is entered when `on_esme_bound` has returned, which also gives the application its
    handle; a handler answers after its callback; and what lies behind the bind is read first. -/
def allows (hosted : Hosted) : Event → Bool
  | .call _ => hosted.announced
  | .respond handler _ =>
    (hosted.watch.session.handlers[handler]?).all fun debt => debt ∉ hosted.spawned
  | .receive piece =>
    hosted.announced && (hosted.leftover = [] || piece.isPrefixOf hosted.leftover)
  | .hangUp | .idle => hosted.announced && hosted.leftover = []
  | event => !event.ofReader || hosted.announced

def spawns (session next : Session) : Event → List (Nat × Request)
  | .extract => next.handlers.drop session.handlers.length
  | _ => []

/-- The callbacks that the read loop makes itself. -/
def calls (next : Session) : Event → List Callback
  | .extract => next.reader.owed.map fun debt => .onRequest debt.2
  | .close => [.onEsmeUnbound]
  | _ => []

def serve (incoming : Incoming) (hosted : Hosted) (event : Event) (watch : Watch) : Incoming where
  phase := .bound
    { hosted with
      leftover := hosted.leftover.drop event.piece.length
      watch := watch
      spawned := hosted.spawned ++ spawns hosted.watch.session watch.session event }
  trace := incoming.trace ++ calls watch.session event
  stream := incoming.stream ++ if hosted.leftover = [] then event.piece else []

def step (incoming : Incoming) : IncomingEvent → Option Incoming
  | .arrive piece =>
    match incoming.phase with
    | .handshake buffer =>
      if frameFirstPdu buffer maxPduLen = .incomplete ∧ piece ≠ [] then
        some
          { incoming with
            phase := .handshake (buffer ++ piece)
            stream := incoming.stream ++ piece }
      else none
    | _ => none
  | .giveUp =>
    match incoming.phase with
    | .handshake buffer =>
      if frameFirstPdu buffer maxPduLen = .incomplete then
        some { incoming with phase := .refused }
      else none
    | _ => none
  | .bind verdict written =>
    match incoming.phase with
    | .handshake buffer =>
      match frameFirstPdu buffer maxPduLen with
      | .complete size =>
        some (incoming.bindFirst timers (buffer.take size) (buffer.drop size) verdict written)
      | .invalid _ => some { incoming with phase := .refused }
      | .incomplete => none
    | _ => none
  | .announce =>
    match incoming.phase with
    | .bound hosted =>
      if hosted.announced then none
      else
        some
          { incoming with
            phase := .bound { hosted with announced := true }
            trace := incoming.trace ++ [.onEsmeBound] }
    | _ => none
  | .act event =>
    match incoming.phase with
    | .bound hosted =>
      if allows hosted event then
        (hosted.watch.step (timers.endpoint hosted.kind) (.act event)).map
          (incoming.serve hosted event)
      else none
    | _ => none
  | .notify =>
    match incoming.phase with
    | .bound hosted =>
      match hosted.watch.due with
      | number :: _ =>
        (hosted.watch.step (timers.endpoint hosted.kind) .notify).map fun watch =>
          { incoming with
            phase := .bound { hosted with watch := watch }
            trace := incoming.trace ++ [.onTimeout number] }
      | [] => none
    | _ => none
  | .callback task =>
    match incoming.phase with
    | .bound hosted =>
      match hosted.spawned[task]? with
      | some debt =>
        some
          { incoming with
            phase := .bound { hosted with spawned := hosted.spawned.eraseIdx task }
            trace := incoming.trace ++ [.onRequest debt.2] }
      | none => none
    | _ => none

end Incoming

theorem Incoming.spawns_cases {endpoint : Endpoint} {session next : Session} {event : Event}
    (taken : session.step endpoint event = some next) :
    spawns session next event = [] ∨
      ∃ request, spawns session next event = [(session.received.length, request)] ∧
        next.received.length = session.received.length + 1 := by
  cases event with
  | extract =>
    cases Session.step_reader rfl taken with
    | finishes stage => exact .inl (List.drop_eq_nil_of_le (Nat.le_refl _))
    | refuses stage => exact .inl (List.drop_eq_nil_of_le (Nat.le_refl _))
    | @takesUp cursor size stage whole =>
      have handlers := Session.takeUp_handlers endpoint session
        ((session.buffer.drop cursor).take size) cursor
      unfold spawns
      cases starts : endpoint.spawns ((session.buffer.drop cursor).take size) with
      | none =>
        rw [starts] at handlers
        left
        rw [handlers]
        exact List.drop_left
      | some request =>
        rw [starts] at handlers
        refine .inr ⟨request, ?_, ?_⟩
        · rw [handlers, List.drop_left]
          rfl
        · rw [Session.takeUp_spawned starts, List.length_append]
          rfl
  | _ => exact .inl rfl

def Asked (bound : BoundType) (received : List Bytes) (request : Request) : Prop :=
  ∃ (place : Nat) (pdu : Bytes) (header : CommandHeader), received[place]? = some pdu ∧
    CommandHeader.decode pdu = .ok header ∧
    (serverBranch bound header pdu).asks = some request

theorem Asked.mono {bound : BoundType} {received later : List Bytes} {request : Request}
    (asked : Asked bound received request) (grown : received <+: later) :
    Asked bound later request := by
  obtain ⟨place, pdu, header, found, rest⟩ := asked
  exact ⟨place, pdu, header, found_later grown found, rest⟩

theorem Asked.receiver {received : List Bytes} {request : Request}
    (asked : Asked .rx received request) : request.submits = false := by
  obtain ⟨place, pdu, header, -, -, asks⟩ := asked
  by_contra submits
  have transmits := serverBranch_asks asks (eq_true_of_ne_false submits)
  cases transmits

theorem step_asked {endpoint : Endpoint} {session next : Session} {event : Event}
    (server : endpoint.side = .server)
    (asked : ∀ debt ∈ session.owed, Asked endpoint.bound session.received debt.2)
    (taken : session.step endpoint event = some next) :
    ∀ debt ∈ next.owed, Asked endpoint.bound next.received debt.2 := by
  intro debt member
  rcases Session.step_owed taken debt member with
    old | ⟨rfl, pdu, cursor, header, coming, framed, -, handed⟩
  · exact (asked debt old).mono (Session.step_consumes taken).grows
  · have asks : (endpoint.branch header pdu).asks = some debt.2 := by
      rcases handed with request | ⟨unbind, branch, same⟩
      · rw [request]
        rfl
      · rw [branch, same]
        rfl
    have other : endpoint.branch header pdu ≠ .linkResp := by
      intro link
      rw [link] at asks
      cases asks
    rw [Session.extract_received coming framed other taken]
    refine ⟨session.received.length, pdu, header, by simp, framed, ?_⟩
    unfold Endpoint.branch at asks
    rw [server] at asks
    exact asks

def Callback.Within (bound : BoundType) (received : List Bytes) : Callback → Prop
  | onRequest request => Asked bound received request
  | onTimeout _ | onEsmeUnbound => True
  | _ => False

theorem Callback.Within.mono {bound : BoundType} {received later : List Bytes} {callback : Callback}
    (within : callback.Within bound received) (grown : received <+: later) :
    callback.Within bound later := by
  cases callback with
  | onRequest request => exact Asked.mono within grown
  | onTimeout number => exact True.intro
  | onEsmeUnbound => exact True.intro
  | onBind kind pdu resp => exact within
  | onEsmeBound => exact within

structure Hosted.Lawful (timers : ServerTimers) (hosted : Hosted) : Prop where
  ran : ∃ events, run (Session.step (timers.endpoint hosted.kind))
    (timers.endpoint hosted.kind).start events = some hosted.watch.session
  present : hosted.watch.session.reader.present = true ∨ hosted.watch.session.reader = .closed
  last : hosted.watch.session.UnbindLast
  owed : ∀ debt ∈ hosted.watch.session.owed,
    Asked hosted.kind.bound hosted.watch.session.received debt.2
  spawned : ∀ debt ∈ hosted.spawned,
    Asked hosted.kind.bound hosted.watch.session.received debt.2
  silent : hosted.announced = false →
    hosted.spawned = [] ∧ hosted.watch.due = [] ∧ hosted.watch.session.reader = .reading

structure Hosted.Heard (hosted : Hosted) (incoming : Incoming) (pdu read : Bytes)
    (rest : List Callback) : Prop where
  accepted : ∃ (header : CommandHeader) (request : BindRequest hosted.kind)
      (resp : BindResp hosted.kind),
    CommandHeader.decode pdu = .ok header ∧
    BindRequest.decode hosted.kind header pdu = .ok request ∧
    resp.header.commandStatus = SmppError.ESME_ROK.code ∧
    incoming.trace = .onBind hosted.kind request resp ::
      ((if hosted.announced then [.onEsmeBound] else []) ++ rest)
  within : ∀ callback ∈ rest, callback.Within hosted.kind.bound hosted.watch.session.received
  once : rest.countP Callback.isUnbound =
    if hosted.watch.session.reader = .closed then 1 else 0
  silent : hosted.announced = false → rest = []
  stream : incoming.stream = pdu ++ (read ++ hosted.leftover)
  read : hosted.watch.session.Heard read

namespace Hosted

variable {timers : ServerTimers} {hosted : Hosted} {incoming : Incoming} {event : Event}
  {next : Session}

theorem Lawful.announced_of (lawful : hosted.Lawful timers)
    (busy : ¬ (hosted.spawned = [] ∧ hosted.watch.due = [] ∧
      hosted.watch.session.reader = .reading)) : hosted.announced = true := by
  by_contra silent
  exact busy (lawful.silent (eq_false_of_ne_true silent))

theorem record_due {endpoint : Endpoint} {watch : Watch} (elsewhere : event.ofReader = false)
    (taken : watch.session.step endpoint event = some next) :
    (watch.record event next).due = watch.due := by
  have same : next.timeouts = watch.session.timeouts := by
    cases Session.step_changes taken with
    | nothing table => exact congrArg Session.Table.timeouts table
    | registers stage keyed key table => exact congrArg Session.Table.timeouts table
    | withdraws stage keyed table => exact congrArg Session.Table.timeouts table
    | settles reads found table fills =>
      rw [reads] at elsewhere
      cases elsewhere
    | lapses reads found table =>
      rw [reads] at elsewhere
      cases elsewhere
    | sweeps table => cases elsewhere
  have goesOn : event.stops = false := by
    cases event with
    | stop => cases elsewhere
    | _ => rfl
  simp [Watch.record, goesOn, same]

theorem allowed_elsewhere (silent : hosted.announced = false)
    (allowed : Incoming.allows hosted event = true) : event.ofReader = false := by
  cases event <;> simp_all [Incoming.allows, Event.ofReader]

theorem calls_elsewhere (elsewhere : event.ofReader = false) :
    Incoming.calls next event = [] ∧ ∀ session, Incoming.spawns session next event = [] := by
  cases event with
  | extract => cases elsewhere
  | close => cases elsewhere
  | _ => exact ⟨rfl, fun _ => rfl⟩

theorem calls_within {received : List Bytes} {bound : BoundType}
    (asked : ∀ debt ∈ next.owed, Asked bound received debt.2) :
    ∀ callback ∈ Incoming.calls next event, callback.Within bound received := by
  intro callback member
  cases event with
  | extract =>
    obtain ⟨debt, owed, rfl⟩ := List.mem_map.mp member
    exact asked debt (List.mem_append_right _ owed)
  | close =>
    rw [List.mem_singleton.mp member]
    exact True.intro
  | _ => cases member

theorem calls_unbound (other : event ≠ .close) :
    (Incoming.calls next event).countP Callback.isUnbound = 0 := by
  cases event with
  | extract =>
    apply List.countP_eq_zero.mpr
    intro callback member
    obtain ⟨debt, -, rfl⟩ := List.mem_map.mp member
    exact Bool.false_ne_true
  | close => exact absurd rfl other
  | _ => rfl

theorem allowed_piece (allowed : Incoming.allows hosted event = true) :
    hosted.leftover = [] ∨ event.piece <+: hosted.leftover := by
  by_cases read : hosted.leftover = []
  · exact .inl read
  right
  cases event with
  | receive piece =>
    simp only [Incoming.allows, Bool.and_eq_true, Bool.or_eq_true, decide_eq_true_eq] at allowed
    rcases allowed.2 with none | first
    · exact absurd none read
    · exact List.isPrefixOf_iff_prefix.mp first
  | _ => exact List.nil_prefix

theorem serve_stream {pdu read : Bytes} (allowed : Incoming.allows hosted event = true)
    (stream : incoming.stream = pdu ++ (read ++ hosted.leftover)) :
    (incoming.stream ++ if hosted.leftover = [] then event.piece else []) =
      pdu ++ (read ++ event.piece ++ hosted.leftover.drop event.piece.length) := by
  rw [stream]
  rcases allowed_piece allowed with none | ⟨later, split⟩
  · rw [if_pos none, none, List.drop_nil, List.append_nil, List.append_nil, List.append_assoc]
  · have dropped : hosted.leftover.drop event.piece.length = later := by
      rw [← split, List.drop_left]
    rw [dropped]
    by_cases none : hosted.leftover = []
    · rw [none] at split
      obtain ⟨piece, rest⟩ := List.append_eq_nil_iff.mp split
      rw [none, piece, rest]
      simp
    · rw [if_neg none, ← split]
      simp

section Serve

variable (lawful : hosted.Lawful timers)
  (taken : hosted.watch.session.step (timers.endpoint hosted.kind) event = some next)

include lawful taken

theorem next_present : next.reader.present = true ∨ next.reader = .closed := by
  rcases lawful.present with present | closed
  · rcases Session.step_present (fun _ => rfl) present taken with ⟨-, closed⟩ | ⟨-, present⟩
    · exact .inr closed
    · exact .inl present
  · exact .inr (Session.step_closed closed taken).2

theorem next_once {rest : List Callback}
    (once : rest.countP Callback.isUnbound =
      if hosted.watch.session.reader = .closed then 1 else 0) :
    (rest ++ Incoming.calls next event).countP Callback.isUnbound =
      if next.reader = .closed then 1 else 0 := by
  rw [List.countP_append, once]
  rcases lawful.present with present | closed
  · have before : hosted.watch.session.reader ≠ .closed := by
      intro closed
      rw [closed] at present
      cases present
    rcases Session.step_present (fun _ => rfl) present taken with ⟨rfl, closed⟩ | ⟨other, present⟩
    · rw [if_neg before, if_pos closed]
      rfl
    · have after : next.reader ≠ .closed := by
        intro closed
        rw [closed] at present
        cases present
      rw [if_neg before, if_neg after, calls_unbound other]
  · obtain ⟨other, still⟩ := Session.step_closed closed taken
    rw [if_pos closed, if_pos still, calls_unbound other]

theorem next_asked : ∀ debt ∈ next.owed, Asked hosted.kind.bound next.received debt.2 :=
  step_asked rfl lawful.owed taken

theorem serve_lawful (allowed : Incoming.allows hosted event = true) :
    { hosted with
      leftover := hosted.leftover.drop event.piece.length
      watch := hosted.watch.record event next
      spawned := hosted.spawned ++
        Incoming.spawns hosted.watch.session next event }.Lawful timers := by
  obtain ⟨events, ran⟩ := lawful.ran
  have consistent := Machine.run_invariant
    (fun _ _ _ before taken => Session.step_consistent before taken)
    (Session.start_consistent (timers.endpoint hosted.kind)) ran
  have asked := next_asked lawful taken
  constructor
  · exact ⟨events ++ [event], Machine.run_append ran (Machine.run_single taken)⟩
  · exact next_present lawful taken
  · exact Session.step_unbindLast rfl consistent lawful.last taken
  · exact asked
  · intro debt member
    rcases List.mem_append.mp member with old | new
    · exact (lawful.spawned debt old).mono (Session.step_consumes taken).grows
    · cases event with
      | extract =>
        exact asked debt (List.mem_append_left _ (List.mem_of_mem_drop new))
      | _ => cases new
  · intro silent
    have quiet : hosted.announced = false := silent
    have elsewhere := allowed_elsewhere quiet allowed
    obtain ⟨spawned, due, reading⟩ := lawful.silent quiet
    refine ⟨?_, ?_, ?_⟩
    · rw [(calls_elsewhere elsewhere).2, spawned]
      rfl
    · rw [record_due elsewhere taken, due]
    · exact (Session.step_elsewhere elsewhere taken).1.trans reading

theorem serve_heard {pdu read : Bytes} {rest : List Callback}
    (allowed : Incoming.allows hosted event = true) (heard : hosted.Heard incoming pdu read rest) :
    { hosted with
      leftover := hosted.leftover.drop event.piece.length
      watch := hosted.watch.record event next
      spawned := hosted.spawned ++
        Incoming.spawns hosted.watch.session next event }.Heard
      (incoming.serve hosted event (hosted.watch.record event next)) pdu (read ++ event.piece)
      (rest ++ Incoming.calls next event) := by
  obtain ⟨header, request, resp, framed, decoded, accepted, trace⟩ := heard.accepted
  constructor
  · refine ⟨header, request, resp, framed, decoded, accepted, ?_⟩
    change incoming.trace ++ Incoming.calls next event = _
    rw [trace, List.cons_append, List.append_assoc]
  · intro callback member
    rcases List.mem_append.mp member with old | new
    · exact (heard.within callback old).mono (Session.step_consumes taken).grows
    · exact calls_within (next_asked lawful taken) callback new
  · exact next_once lawful taken heard.once
  · intro silent
    have quiet : hosted.announced = false := silent
    have elsewhere := allowed_elsewhere quiet allowed
    rw [heard.silent quiet, (calls_elsewhere elsewhere).1]
    rfl
  · exact serve_stream allowed heard.stream
  · exact Session.step_heard heard.read taken

end Serve

end Hosted

namespace Incoming

def Refused (incoming : Incoming) : Prop :=
  incoming.trace = [] ∨ ∃ kind request resp, incoming.trace = [.onBind kind request resp]

def Lawful (timers : ServerTimers) (incoming : Incoming) : Prop :=
  match incoming.phase with
  | .handshake buffer => incoming.trace = [] ∧ incoming.stream = buffer
  | .refused => incoming.Refused
  | .bound hosted =>
    hosted.Lawful timers ∧ ∃ pdu read rest, hosted.Heard incoming pdu read rest

variable {timers : ServerTimers} {incoming next : Incoming} {hosted : Hosted}

theorem lawful_handshake (lawful : incoming.Lawful timers) {buffer : Bytes}
    (phase : incoming.phase = .handshake buffer) :
    incoming.trace = [] ∧ incoming.stream = buffer := by
  unfold Lawful at lawful
  rw [phase] at lawful
  exact lawful

theorem lawful_bound (lawful : incoming.Lawful timers) (phase : incoming.phase = .bound hosted) :
    hosted.Lawful timers ∧ ∃ pdu read rest, hosted.Heard incoming pdu read rest := by
  unfold Lawful at lawful
  rw [phase] at lawful
  exact lawful

theorem start_hosted (timers : ServerTimers) (kind : BindKind) (leftover : Bytes) :
    Hosted.Lawful timers ⟨kind, false, leftover, Watch.start (timers.endpoint kind), []⟩ where
  ran := ⟨[], rfl⟩
  present := .inl rfl
  last := Session.start_unbindLast (timers.endpoint kind)
  owed _ member := absurd member List.not_mem_nil
  spawned _ member := absurd member List.not_mem_nil
  silent _ := ⟨rfl, rfl, rfl⟩

section Bind

variable {header : CommandHeader} {pdu leftover : Bytes} (quiet : incoming.trace = [])
  (stream : incoming.stream = pdu ++ leftover) (framed : CommandHeader.decode pdu = .ok header)

include quiet

theorem refuse_lawful : { incoming with phase := .refused }.Lawful timers :=
  .inl quiet

include stream framed

theorem bindWith_lawful (kind : BindKind) (verdict : Verdict) (written : Bool) :
    (incoming.bindWith timers kind header pdu leftover verdict written).Lawful timers := by
  unfold bindWith
  split
  · rename_i request decoded
    dsimp only
    by_cases accepted : ((request.respond verdict).isSuccess && written) = true
    · rw [if_pos accepted]
      have success := of_decide_eq_true (Bool.and_eq_true_iff.mp accepted).1
      refine ⟨start_hosted timers kind leftover, pdu, [], [], ?_⟩
      constructor
      · refine ⟨header, request, request.respond verdict, framed, decoded, success, ?_⟩
        rw [quiet]
        rfl
      · intro callback member
        cases member
      · rfl
      · exact fun _ => rfl
      · exact stream
      · exact Session.start_heard (timers.endpoint kind)
    · rw [if_neg accepted]
      refine .inr ⟨kind, request, request.respond verdict, ?_⟩
      rw [quiet]
      rfl
  · exact refuse_lawful quiet

end Bind

theorem bindFirst_lawful {pdu leftover : Bytes} (quiet : incoming.trace = [])
    (stream : incoming.stream = pdu ++ leftover) (verdict : Verdict) (written : Bool) :
    (incoming.bindFirst timers pdu leftover verdict written).Lawful timers := by
  unfold bindFirst
  split
  · exact refuse_lawful quiet
  · rename_i header framed
    split
    · exact bindWith_lawful quiet stream framed .receiver verdict written
    · split
      · exact bindWith_lawful quiet stream framed .transmitter verdict written
      · split
        · exact bindWith_lawful quiet stream framed .transceiver verdict written
        · exact refuse_lawful quiet

theorem announce_lawful (lawful : hosted.Lawful timers) {pdu read : Bytes} {rest : List Callback}
    (heard : hosted.Heard incoming pdu read rest) (silent : hosted.announced = false) :
    { incoming with
      phase := .bound { hosted with announced := true }
      trace := incoming.trace ++ [Callback.onEsmeBound] }.Lawful timers := by
  obtain ⟨header, request, resp, framed, decoded, accepted, trace⟩ := heard.accepted
  have nothing := heard.silent silent
  refine ⟨⟨lawful.ran, lawful.present, lawful.last, lawful.owed, lawful.spawned, ?_⟩,
    pdu, read, [], ?_⟩
  · intro never
    cases never
  · constructor
    · refine ⟨header, request, resp, framed, decoded, accepted, ?_⟩
      dsimp only
      rw [trace, nothing, silent]
      rfl
    · intro callback member
      cases member
    · have once := heard.once
      rw [nothing] at once
      exact once
    · exact fun _ => rfl
    · exact heard.stream
    · exact heard.read

theorem tell_lawful {watch : Watch} {spawned : List (Nat × Request)} {callback : Callback}
    (lawful : hosted.Lawful timers) {pdu read : Bytes} {rest : List Callback}
    (heard : hosted.Heard incoming pdu read rest) (announced : hosted.announced = true)
    (same : watch.session = hosted.watch.session) (fewer : spawned ⊆ hosted.spawned)
    (within : callback.Within hosted.kind.bound hosted.watch.session.received)
    (goesOn : callback.isUnbound = false) :
    { incoming with
      phase := .bound { hosted with watch := watch, spawned := spawned }
      trace := incoming.trace ++ [callback] }.Lawful timers := by
  obtain ⟨header, request, resp, framed, decoded, accepted, trace⟩ := heard.accepted
  constructor
  · constructor
    · exact same ▸ lawful.ran
    · exact same ▸ lawful.present
    · exact same ▸ lawful.last
    · exact same ▸ lawful.owed
    · exact fun debt member => same ▸ lawful.spawned debt (fewer member)
    · intro never
      rw [announced] at never
      cases never
  · refine ⟨pdu, read, rest ++ [callback], ?_⟩
    constructor
    · refine ⟨header, request, resp, framed, decoded, accepted, ?_⟩
      dsimp only
      rw [trace, List.cons_append, List.append_assoc]
    · intro other member
      dsimp only
      rw [same]
      rcases List.mem_append.mp member with old | new
      · exact heard.within other old
      · rw [List.mem_singleton.mp new]
        exact within
    · rw [List.countP_append, List.countP_singleton, goesOn, heard.once]
      dsimp only
      rw [same]
      rfl
    · intro never
      rw [announced] at never
      cases never
    · exact heard.stream
    · exact same ▸ heard.read

inductive Moves (timers : ServerTimers) (incoming : Incoming) : IncomingEvent → Incoming → Prop
  | arrives {buffer piece : Bytes} (phase : incoming.phase = .handshake buffer) :
      Moves timers incoming (.arrive piece)
        { incoming with
          phase := .handshake (buffer ++ piece)
          stream := incoming.stream ++ piece }
  | givesUp {buffer : Bytes} (phase : incoming.phase = .handshake buffer) :
      Moves timers incoming .giveUp { incoming with phase := .refused }
  | binds {buffer : Bytes} {size : Nat} {verdict : Verdict} {written : Bool}
      (phase : incoming.phase = .handshake buffer) :
      Moves timers incoming (.bind verdict written)
        (incoming.bindFirst timers (buffer.take size) (buffer.drop size) verdict written)
  | refuses {buffer : Bytes} {verdict : Verdict} {written : Bool}
      (phase : incoming.phase = .handshake buffer) :
      Moves timers incoming (.bind verdict written) { incoming with phase := .refused }
  | announces {hosted : Hosted} (phase : incoming.phase = .bound hosted)
      (silent : hosted.announced = false) :
      Moves timers incoming .announce
        { incoming with
          phase := .bound { hosted with announced := true }
          trace := incoming.trace ++ [.onEsmeBound] }
  | acts {hosted : Hosted} {event : Event} {session : Session}
      (phase : incoming.phase = .bound hosted) (allowed : allows hosted event = true)
      (moved : hosted.watch.session.step (timers.endpoint hosted.kind) event = some session) :
      Moves timers incoming (.act event)
        (incoming.serve hosted event (hosted.watch.record event session))
  | notifies {hosted : Hosted} {number : UInt32} {later : List UInt32} {watch : Watch}
      (phase : incoming.phase = .bound hosted) (due : hosted.watch.due = number :: later)
      (same : watch.session = hosted.watch.session) :
      Moves timers incoming .notify
        { incoming with
          phase := .bound { hosted with watch := watch }
          trace := incoming.trace ++ [.onTimeout number] }
  | calls {hosted : Hosted} {task : Nat} {debt : Nat × Request}
      (phase : incoming.phase = .bound hosted) (found : hosted.spawned[task]? = some debt) :
      Moves timers incoming (.callback task)
        { incoming with
          phase := .bound { hosted with spawned := hosted.spawned.eraseIdx task }
          trace := incoming.trace ++ [.onRequest debt.2] }

theorem step_moves {event : IncomingEvent} (taken : incoming.step timers event = some next) :
    Moves timers incoming event next := by
  cases event with
  | arrive piece =>
    simp only [step] at taken
    split at taken
    · rename_i buffer phase
      split at taken
      · cases taken
        exact .arrives phase
      · cases taken
    · cases taken
  | giveUp =>
    simp only [step] at taken
    split at taken
    · rename_i buffer phase
      split at taken
      · cases taken
        exact .givesUp phase
      · cases taken
    · cases taken
  | bind verdict written =>
    simp only [step] at taken
    split at taken
    · rename_i buffer phase
      split at taken
      · cases taken
        exact .binds phase
      · cases taken
        exact .refuses phase
      · cases taken
    · cases taken
  | announce =>
    simp only [step] at taken
    split at taken
    · rename_i hosted phase
      split at taken
      · cases taken
      · rename_i silent
        cases taken
        exact .announces phase (eq_false_of_ne_true silent)
    · cases taken
  | act event =>
    simp only [step] at taken
    split at taken
    · rename_i hosted phase
      split at taken
      · rename_i allowed
        obtain ⟨watch, watched, rfl⟩ := Option.map_eq_some_iff.mp taken
        rcases Watch.step_cases watched with ⟨act, session, same, moved, rfl⟩ | ⟨_, _, other, _⟩
        · cases same
          exact .acts phase allowed moved
        · cases other
      · cases taken
    · cases taken
  | notify =>
    simp only [step] at taken
    split at taken
    · rename_i hosted phase
      split at taken
      · rename_i number later due
        obtain ⟨watch, watched, rfl⟩ := Option.map_eq_some_iff.mp taken
        rcases Watch.step_cases watched with ⟨_, _, other, _⟩ | ⟨_, _, -, -, rfl⟩
        · cases other
        · exact .notifies phase due rfl
      · cases taken
    · cases taken
  | callback task =>
    simp only [step] at taken
    split at taken
    · rename_i hosted phase
      split at taken
      · rename_i debt found
        cases taken
        exact .calls phase found
      · cases taken
    · cases taken

theorem step_lawful {event : IncomingEvent} (lawful : incoming.Lawful timers)
    (taken : incoming.step timers event = some next) : next.Lawful timers := by
  cases step_moves taken with
  | @arrives buffer piece phase =>
    obtain ⟨quiet, stream⟩ := lawful_handshake lawful phase
    exact ⟨quiet, congrArg (· ++ piece) stream⟩
  | givesUp phase => exact refuse_lawful (lawful_handshake lawful phase).1
  | @binds buffer size verdict written phase =>
    obtain ⟨quiet, stream⟩ := lawful_handshake lawful phase
    apply bindFirst_lawful quiet
    rw [stream, List.take_append_drop]
  | refuses phase => exact refuse_lawful (lawful_handshake lawful phase).1
  | announces phase silent =>
    obtain ⟨hosts, pdu, read, rest, heard⟩ := lawful_bound lawful phase
    exact announce_lawful hosts heard silent
  | @acts hosted event session phase allowed moved =>
    obtain ⟨hosts, pdu, read, rest, heard⟩ := lawful_bound lawful phase
    exact ⟨Hosted.serve_lawful hosts moved allowed, pdu, read ++ event.piece, _,
      Hosted.serve_heard hosts moved allowed heard⟩
  | notifies phase due same =>
    obtain ⟨hosts, pdu, read, rest, heard⟩ := lawful_bound lawful phase
    have announced := hosts.announced_of fun idle => by simp [due] at idle
    exact tell_lawful hosts heard announced same (List.Subset.refl _) True.intro rfl
  | @calls hosted task debt phase found =>
    obtain ⟨hosts, pdu, read, rest, heard⟩ := lawful_bound lawful phase
    have member := List.mem_of_getElem? found
    have announced := hosts.announced_of fun idle => by simp [idle.1] at member
    exact tell_lawful hosts heard announced rfl (List.eraseIdx_subset)
      (hosts.spawned debt member) rfl

theorem start_lawful (timers : ServerTimers) : start.Lawful timers :=
  ⟨rfl, rfl⟩

theorem run_lawful {events : List IncomingEvent}
    (reached : run (step timers) start events = some incoming) : incoming.Lawful timers :=
  Machine.run_invariant (fun _ _ _ before taken => step_lawful before taken)
    (start_lawful timers) reached

theorem close_step (phase : incoming.phase = .bound hosted) (announced : hosted.announced = true)
    (leaving : hosted.watch.session.reader = .leaving) (told : hosted.watch.due = []) :
    ∃ final later, incoming.step timers (.act .close) = some final ∧
      final.phase = .bound later ∧ later.watch.session.reader = .closed ∧
      final.trace = incoming.trace ++ [.onEsmeUnbound] := by
  have allowed : allows hosted .close = true := announced
  let watch := hosted.watch.record .close
    { hosted.watch.session.abortTicker with
      reader := .closed, alive := false, writer := .stopped }
  have moved : hosted.watch.step (timers.endpoint hosted.kind) (.act .close) = some watch := by
    simp [Watch.step, Session.step, Session.close, leaving, told, watch]
  refine ⟨incoming.serve hosted .close watch, _, ?_, rfl, rfl, rfl⟩
  simp only [step, phase, moved]
  rw [if_pos allowed]
  rfl

theorem leaving_unbinds (phase : incoming.phase = .bound hosted)
    (announced : hosted.announced = true) (leaving : hosted.watch.session.reader = .leaving) :
    ∃ final later,
      run (step timers) incoming
        (List.replicate hosted.watch.due.length .notify ++ [.act .close]) = some final ∧
      final.phase = .bound later ∧ later.watch.session.reader = .closed ∧
      final.trace = incoming.trace ++ (hosted.watch.due.map .onTimeout ++ [.onEsmeUnbound]) := by
  generalize waiting : hosted.watch.due = due
  induction due generalizing incoming hosted with
  | nil =>
    obtain ⟨final, later, taken, rest⟩ :=
      @close_step timers incoming hosted phase announced leaving waiting
    exact ⟨final, later, Machine.run_single taken, rest⟩
  | cons number due ih =>
    let watch : Watch := { hosted.watch with due := due, told := hosted.watch.told ++ [number] }
    let told : Incoming :=
      { incoming with
        phase := .bound { hosted with watch := watch }
        trace := incoming.trace ++ [.onTimeout number] }
    have taken : incoming.step timers .notify = some told := by
      simp [step, phase, waiting, Watch.step, watch, told]
    obtain ⟨final, later, reached, closes, closed, trace⟩ :=
      @ih told { hosted with watch := watch } rfl announced leaving rfl
    refine ⟨final, later, Machine.run_cons_iff.mpr ⟨told, taken, reached⟩, closes, closed, ?_⟩
    rw [trace, List.append_assoc]
    rfl

end Incoming

/-- A connection whose bind was accepted: `pdu` is the bind, and `rest` is what the listener has
    heard since `on_esme_bound`. -/
structure Hosted.Follows (timers : ServerTimers) (hosted : Hosted) (incoming : Incoming)
    (pdu : Bytes) (rest : List Callback) : Prop where
  accepted : ∃ (header : CommandHeader) (request : BindRequest hosted.kind)
      (resp : BindResp hosted.kind),
    CommandHeader.decode pdu = .ok header ∧
    BindRequest.decode hosted.kind header pdu = .ok request ∧
    resp.header.commandStatus = SmppError.ESME_ROK.code ∧
    incoming.trace = .onBind hosted.kind request resp ::
      ((if hosted.announced then [.onEsmeBound] else []) ++ rest)
  announced : hosted.announced = false →
    rest = [] ∧ ∃ next, incoming.step timers .announce = some next ∧
      next.trace = incoming.trace ++ [.onEsmeBound]
  within : ∀ callback ∈ rest, callback.Within hosted.kind.bound hosted.watch.session.received
  receiver : hosted.kind = .receiver →
    ∀ request, .onRequest request ∈ rest → request.submits = false
  once : rest.countP Callback.isUnbound =
    if hosted.watch.session.reader = .closed then 1 else 0
  present : hosted.watch.session.reader.present = true ∨ hosted.watch.session.reader = .closed
  leaves : hosted.watch.session.reader = .leaving →
    ∃ final later,
      run (Incoming.step timers) incoming
        (List.replicate hosted.watch.due.length .notify ++ [.act .close]) = some final ∧
      final.phase = .bound later ∧ later.watch.session.reader = .closed ∧
      final.trace = incoming.trace ++ (hosted.watch.due.map .onTimeout ++ [.onEsmeUnbound])
  last : ∀ place, isUnbind hosted.watch.session.received place = true →
    hosted.watch.session.received.length = place + 1
  stream : ∃ remaining,
    incoming.stream = pdu ++ (hosted.watch.session.received.flatten ++ remaining)

theorem Hosted.Heard.follows {timers : ServerTimers} {hosted : Hosted} {incoming : Incoming}
    {pdu read : Bytes} {rest : List Callback} (phase : incoming.phase = .bound hosted)
    (lawful : hosted.Lawful timers) (heard : hosted.Heard incoming pdu read rest) :
    hosted.Follows timers incoming pdu rest where
  accepted := heard.accepted
  announced := by
    intro silent
    refine ⟨heard.silent silent, ?_⟩
    simp [Incoming.step, phase, silent]
  within := heard.within
  receiver := by
    intro receives request member
    have asked : Asked hosted.kind.bound hosted.watch.session.received request :=
      heard.within _ member
    rw [receives] at asked
    exact asked.receiver
  once := heard.once
  present := lawful.present
  leaves := by
    intro leaving
    have announced := lawful.announced_of fun idle => by simp [leaving] at idle
    exact Incoming.leaving_unbinds phase announced leaving
  last place unbind := (lawful.last place unbind).1
  stream := by
    obtain ⟨later, split, -⟩ := heard.read.rest
    refine ⟨later ++ hosted.leftover, ?_⟩
    rw [heard.stream, split, List.append_assoc]

/-- However a connection's octets arrive and whatever its listener decides, the listener hears at
    most of a bind, or of an accepted bind, of the session and of what that session may ask, and of
    its end once. -/
theorem callbacks_follow_accepted_bind (timers : ServerTimers) (events : List IncomingEvent)
    (incoming : Incoming)
    (reached : run (Incoming.step timers) Incoming.start events = some incoming) :
    ((∀ hosted, incoming.phase ≠ .bound hosted) ∧ incoming.Refused) ∨
      ∃ hosted pdu rest, incoming.phase = .bound hosted ∧
        hosted.Follows timers incoming pdu rest := by
  have lawful := Incoming.run_lawful reached
  cases phase : incoming.phase with
  | handshake buffer =>
    left
    refine ⟨?_, .inl (Incoming.lawful_handshake lawful phase).1⟩
    intro hosted bound
    cases bound
  | refused =>
    left
    unfold Incoming.Lawful at lawful
    rw [phase] at lawful
    refine ⟨?_, lawful⟩
    intro hosted bound
    cases bound
  | bound hosted =>
    right
    obtain ⟨hosts, pdu, read, rest, heard⟩ := Incoming.lawful_bound lawful phase
    exact ⟨hosted, pdu, rest, rfl, heard.follows phase hosts⟩

theorem receiver_hears_of_a_data_sm :
    let timers : ServerTimers := ⟨60, 600⟩
    let bind : Bytes := (⟨24, CommandId.bindReceiver.value, 0, 1⟩ : CommandHeader).encode ++
      ([101, 0, 0, 0, 0x34, 0, 0, 0] : Bytes)
    let data := (DataSm.new 1 Utf8.Str.empty 0 0 Utf8.Str.empty 0 0 Utf8.Str.empty 0 0 0).encode
    let events : List IncomingEvent :=
      [.arrive (bind.take 5), .arrive (bind.drop 5 ++ data), .bind (.accept .empty) true, .announce,
        .act (.receive data), .act .extract, .callback 0, .act .extract, .act .hangUp, .act .close]
    ∃ incoming hosted pdu rest,
      run (Incoming.step timers) Incoming.start events = some incoming ∧
      incoming.trace.length = 4 ∧ incoming.phase = .bound hosted ∧
      hosted.Follows timers incoming pdu rest := by
  intro timers bind data events
  have ran : (run (Incoming.step timers) Incoming.start events).map
      (fun incoming => incoming.trace.length) = some 4 := by decide +kernel
  obtain ⟨incoming, reached, four⟩ := Option.map_eq_some_iff.mp ran
  rcases callbacks_follow_accepted_bind timers events incoming reached with
    ⟨-, refused⟩ | ⟨hosted, pdu, rest, phase, follows⟩
  · -- a bind alone is one callback
    rcases refused with none | ⟨kind, request, resp, one⟩
    · rw [none] at four
      cases four
    · rw [one] at four
      cases four
  · exact ⟨incoming, hosted, pdu, rest, reached, four, phase, follows⟩

end Smpp34
