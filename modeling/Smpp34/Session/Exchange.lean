import Smpp34.Session.Pair

namespace Smpp34

open Octets
open Machine (run)

/-- How many PDUs a command can still set off at most, one after the other. -/
def commandRank (commandId : UInt32) : Nat :=
  if commandId = CommandId.genericNack.value then 0
  else if commandId = CommandId.submitSmResp.value then 1
  else if 0x80000000 ≤ commandId then 2
  else 3

def rank (pdu : Bytes) : Nat :=
  match CommandHeader.decode pdu with
  | .ok header => commandRank header.commandId
  | .error _ => 1

theorem rank_framed {pdu : Bytes} {header : CommandHeader}
    (framed : CommandHeader.decode pdu = .ok header) : rank pdu = commandRank header.commandId := by
  unfold rank
  rw [framed]

theorem rank_unframed {pdu : Bytes} {error : SmppError}
    (unframed : CommandHeader.decode pdu = .error error) : rank pdu = 1 := by
  unfold rank
  rw [unframed]

theorem rank_le {pdu : Bytes} {commandId : UInt32} (same : beU32At pdu 4 = commandId) :
    rank pdu ≤ max 1 (commandRank commandId) := by
  subst same
  cases framed : CommandHeader.decode pdu with
  | error error =>
    rw [rank_unframed framed]
    exact Nat.le_max_left _ _
  | ok header =>
    rw [rank_framed framed, (CommandHeader.decode_ok_eq framed).1]
    exact Nat.le_max_right _ _

theorem rank_pos {pdu : Bytes} {header : CommandHeader}
    (framed : CommandHeader.decode pdu = .ok header)
    (other : header.commandId ≠ CommandId.genericNack.value) : 0 < rank pdu := by
  rw [rank_framed framed]
  unfold commandRank
  rw [if_neg other]
  repeat' split
  all_goals omega

theorem rank_le_three (pdu : Bytes) : rank pdu ≤ 3 := by
  cases framed : CommandHeader.decode pdu with
  | error error =>
    rw [rank_unframed framed]
    omega
  | ok header =>
    rw [rank_framed framed]
    unfold commandRank
    repeat' split
    all_goals omega

theorem rank_nack (error : SmppError) (number : UInt32) : rank (nack error number) = 0 := by
  have framed : CommandHeader.decode (nack error number) =
      .ok ⟨16, CommandId.genericNack.value, error.code, number⟩ := by
    have decoded := CommandHeader.decode_encode
      ⟨16, CommandId.genericNack.value, error.code, number⟩ []
    rw [List.append_nil] at decoded
    exact decoded
  rw [rank_framed framed]
  rfl

theorem rank_submit_reject (number : UInt32) (error : SmppError) :
    rank (SubmitSm.genericReject number error).encode ≤ 1 := by
  have command : beU32At (SubmitSm.genericReject number error).encode 4 =
      CommandId.submitSmResp.value :=
    (Response.submitSm (SubmitSm.genericReject number error)).encode_words.1
  have bound := rank_le command
  have small : commandRank CommandId.submitSmResp.value = 1 := by decide
  rw [small] at bound
  exact bound

theorem rank_response {resp : Response} (high : 0x80000000 ≤ resp.header.commandId) :
    rank resp.encode ≤ 2 := by
  have bound := rank_le resp.encode_words.1
  have small : commandRank resp.header.commandId ≤ 2 := by
    unfold commandRank
    repeat' split
    all_goals omega
  omega

section Branches

/-- What a branch sets off is of lower rank: the listener is asked about requests only. -/
def Branch.Descends (above : Nat) : Branch → Prop
  | request _ => above = 3
  | reply frame => rank frame < above
  | unbind _ => above = 3
  | unbindReject frame => rank frame < above
  | response (.refuse (some frame)) => rank frame < above
  | _ => True

variable {above : Nat}

theorem dispatched_descends {α : Type} {decoded : Decoded α} {onOk : α → Branch}
    {onError : SmppError → Bytes} (accepted : ∀ value, (onOk value).Descends above)
    (rejected : ∀ error, rank (onError error) < above) :
    (dispatched decoded onOk onError).Descends above := by
  refine dispatched_cases ?_ ?_ ?_
  · exact fun value _ => accepted value
  · exact fun error _ => rejected error
  · exact fun _ => True.intro

theorem settled_descends {α : Type} {decoded : Decoded α} {onOk : α → Response} {closes : Bool}
    {onError : SmppError → Option Bytes}
    (rejected : ∀ error frame, onError error = some frame → rank frame < above) :
    (settled decoded onOk closes onError).Descends above := by
  refine settled_cases ?_ ?_ ?_
  · exact fun _ _ => True.intro
  · intro error _
    cases reply : onError error with
    | none => exact True.intro
    | some frame => exact rejected error frame reply
  · exact fun _ => True.intro

theorem unbindBranch_descends {decoded : Decoded Unbind} {number : UInt32} :
    (unbindBranch decoded number).Descends 3 := by
  refine unbindBranch_cases ?_ ?_ ?_
  · exact fun _ _ => rfl
  · intro error _
    have small : rank (Response.unbind (Unbind.genericReject number error)).encode ≤ 2 :=
      rank_response (show 0x80000000 ≤ CommandId.unbindResp.value by decide)
    exact Nat.lt_succ_of_le small
  · exact fun _ => True.intro

theorem request_descends {α : Type} {decoded : Decoded α} {wrap : α → Request} {id : CommandId}
    (reject : SmppError → Response) (named : ∀ error, (reject error).header.commandId = id.value)
    (high : 0x80000000 ≤ id.value) :
    (dispatched decoded (fun value => .request (wrap value)) fun error =>
      (reject error).encode).Descends 3 := by
  apply dispatched_descends
  · exact fun _ => rfl
  · intro error
    rw [← named error] at high
    exact Nat.lt_succ_of_le (rank_response high)

theorem link_descends {decoded : Decoded EnquireLink} {number : UInt32} :
    (dispatched decoded (fun pdu => .reply pdu.accept.encode) fun error =>
      (SubmitSm.genericReject number error).encode).Descends 3 := by
  apply dispatched_descends
  · intro link
    have small : rank (Response.enquireLink link.accept).encode ≤ 2 :=
      rank_response (show 0x80000000 ≤ CommandId.enquireLinkResp.value by decide)
    exact Nat.lt_succ_of_le small
  · intro error
    have small := rank_submit_reject number error
    omega

theorem nacked_descends {α : Type} {decoded : Decoded α} {onOk : α → Response} {closes : Bool}
    {number : UInt32} (positive : 0 < above) :
    (settled decoded onOk closes fun error => some (nack error number)).Descends above := by
  apply settled_descends
  intro error frame same
  cases same
  rw [rank_nack]
  exact positive

theorem refused_descends {α : Type} {decoded : Decoded α} {onOk : α → Response} {number : UInt32} :
    (settled decoded onOk false fun error =>
      some (SubmitSm.genericReject number error).encode).Descends 2 := by
  apply settled_descends
  intro error frame same
  cases same
  exact Nat.lt_succ_of_le (rank_submit_reject number error)

theorem unsupported_descends {header : CommandHeader} {pdu : Bytes} {number : UInt32}
    (framed : CommandHeader.decode pdu = .ok header)
    (other : header.commandId ≠ CommandId.genericNack.value) :
    (Branch.reply (nack .ESME_RINVCMDID number)).Descends (rank pdu) := by
  have positive := rank_pos framed other
  change rank (nack .ESME_RINVCMDID number) < rank pdu
  rw [rank_nack]
  exact positive

variable {header : CommandHeader} {pdu : Bytes}

theorem rank_id {id : CommandId} (framed : CommandHeader.decode pdu = .ok header)
    (same : header.commandId = id.value) : rank pdu = commandRank id.value := by
  rw [rank_framed framed, same]

theorem serverBranch_descends (bound : BoundType) (framed : CommandHeader.decode pdu = .ok header) :
    (serverBranch bound header pdu).Descends (rank pdu) := by
  have chain := serverBranch_chain bound header pdu
  generalize serverBranch bound header pdu = branch at chain
  have refused : ∀ error, (Response.submitSm
      (SubmitSm.genericReject (potentialSeqNo pdu) error)).header.commandId =
        CommandId.submitSmResp.value := fun _ => rfl
  cases chain with
  | submitSm same =>
    rw [rank_id framed same]
    exact request_descends _ refused (by decide)
  | submitMulti same =>
    rw [rank_id framed same]
    exact request_descends (fun error => .submitSmMulti (SubmitSmMulti.genericReject _ error))
      (fun _ => rfl) (show 0x80000000 ≤ CommandId.submitMultiResp.value by decide)
  | dataSm same =>
    rw [rank_id framed same]
    exact request_descends (fun error => .dataSm (DataSm.genericReject _ error)) (fun _ => rfl)
      (show 0x80000000 ≤ CommandId.dataSmResp.value by decide)
  | cancelSm same =>
    rw [rank_id framed same]
    exact request_descends _ refused (by decide)
  | querySm same =>
    rw [rank_id framed same]
    exact request_descends (fun error => .querySm (QuerySm.genericReject _ error)) (fun _ => rfl)
      (show 0x80000000 ≤ CommandId.querySmResp.value by decide)
  | replaceSm same =>
    rw [rank_id framed same]
    exact request_descends (fun error => .replaceSm (ReplaceSm.genericReject _ error))
      (fun _ => rfl) (show 0x80000000 ≤ CommandId.replaceSmResp.value by decide)
  | enquireLink same =>
    rw [rank_id framed same]
    exact link_descends
  | enquireLinkResp => exact True.intro
  | unbind same =>
    rw [rank_id framed same]
    exact unbindBranch_descends
  | deliverSmResp same =>
    rw [rank_id framed same]
    exact refused_descends
  | dataSmResp same =>
    rw [rank_id framed same]
    exact refused_descends
  | genericNack =>
    apply settled_descends
    intro error frame same
    cases same
  | unsupported other => exact unsupported_descends framed other

theorem clientBranch_descends (bound : BoundType) (framed : CommandHeader.decode pdu = .ok header) :
    (clientBranch bound header pdu).Descends (rank pdu) := by
  have chain := clientBranch_chain bound header pdu
  generalize clientBranch bound header pdu = branch at chain
  have positive : ∀ {id : CommandId}, header.commandId = id.value →
      id.value ≠ CommandId.genericNack.value → 0 < rank pdu := by
    intro id same other
    rw [← same] at other
    exact rank_pos framed other
  cases chain with
  | deliverSm same =>
    rw [rank_id framed same]
    exact request_descends (fun error => .submitSm (SubmitSm.genericReject _ error)) (fun _ => rfl)
      (show 0x80000000 ≤ CommandId.submitSmResp.value by decide)
  | dataSm same =>
    rw [rank_id framed same]
    exact request_descends (fun error => .dataSm (DataSm.genericReject _ error)) (fun _ => rfl)
      (show 0x80000000 ≤ CommandId.dataSmResp.value by decide)
  | submitSmResp same => exact nacked_descends (positive same (by decide))
  | submitMultiResp same => exact nacked_descends (positive same (by decide))
  | dataSmResp same => exact nacked_descends (positive same (by decide))
  | cancelSmResp same => exact nacked_descends (positive same (by decide))
  | querySmResp same => exact nacked_descends (positive same (by decide))
  | replaceSmResp same => exact nacked_descends (positive same (by decide))
  | alertNotification same =>
    rw [rank_id framed same]
    apply dispatched_descends
    · exact fun _ => True.intro
    · intro error
      rw [rank_nack]
      decide
  | enquireLink same =>
    rw [rank_id framed same]
    exact link_descends
  | enquireLinkResp => exact True.intro
  | unbind same =>
    rw [rank_id framed same]
    exact unbindBranch_descends
  | unbindResp same => exact nacked_descends (positive same (by decide))
  | genericNack =>
    apply settled_descends
    intro error frame same
    cases same
  | unsupported other => exact unsupported_descends framed other

theorem branch_descends (endpoint : Endpoint) (framed : CommandHeader.decode pdu = .ok header) :
    (endpoint.branch header pdu).Descends (rank pdu) := by
  unfold Endpoint.branch
  cases endpoint.side with
  | server => exact serverBranch_descends endpoint.bound framed
  | client => exact clientBranch_descends endpoint.bound framed

end Branches

/-- What a list of frames comes to: each of them, and what it sets off. -/
def weight (emissions : List Emission) : Nat :=
  (emissions.map fun emission => rank emission.frame.pdu + 1).sum

@[simp] theorem weight_nil : weight [] = 0 := rfl

@[simp] theorem weight_append (first second : List Emission) :
    weight (first ++ second) = weight first + weight second := by
  simp [weight]

@[simp] theorem weight_cons (emission : Emission) (emissions : List Emission) :
    weight (emission :: emissions) = rank emission.frame.pdu + 1 + weight emissions := by
  simp [weight]

theorem weight_filter (keep : Emission → Bool) (emissions : List Emission) :
    weight (emissions.filter keep) ≤ weight emissions := by
  induction emissions with
  | nil => exact Nat.le_refl 0
  | cons emission emissions ih =>
    rw [List.filter_cons]
    split
    · simp only [weight_cons]
      omega
    · rw [weight_cons]
      omega

theorem weight_eraseIdx {emissions : List Emission} {place : Nat} {emission : Emission}
    (found : emissions[place]? = some emission) :
    weight (emissions.eraseIdx place) + (rank emission.frame.pdu + 1) = weight emissions := by
  obtain ⟨inside, rfl⟩ := List.getElem?_eq_some_iff.mp found
  have same := ((List.getElem_cons_eraseIdx_perm inside).map fun emission : Emission =>
    rank emission.frame.pdu + 1).sum_nat
  unfold weight
  rw [← same, List.map_cons, List.sum_cons]
  omega

def Event.inner : Event → Bool
  | call _ | tick | receive _ | extract | write (.accepted _) | unbound _ | respond _ _ => false
  | _ => true

namespace Session

def backlog (session : Session) : Nat :=
  weight session.senders + weight session.channel + weight session.writer.inHand +
    weight session.writer.held.toList + 3 * session.handlers.length

/-- How many PDUs may still be set off, if the session takes up nothing more. -/
def prospect (session : Session) : Nat :=
  session.backlog + weight session.reader.queued + 3 * session.reader.owed.length

variable {endpoint : Endpoint} {session next : Session}

theorem prospect_eq (quiet : session.reader.queued = []) (free : session.reader.owed = []) :
    session.prospect = session.backlog := by
  simp [prospect, quiet, free]

theorem backlog_abortTicker (session : Session) : session.abortTicker.backlog ≤ session.backlog := by
  have fewer := weight_filter (fun emission => emission.origin ≠ .link) session.senders
  simp only [backlog, abortTicker]
  omega

theorem proceed_prospect (session : Session) (cursor : Nat) (control : Control) :
    (session.proceed cursor control).prospect ≤ session.backlog := by
  cases control with
  | proceed => exact Nat.le_refl _
  | unbound => exact Nat.le_refl _
  | writerDead => exact backlog_abortTicker session

theorem sendReply_prospect (session : Session) (place : Nat) (frame : Bytes) (cursor : Nat)
    (control : Control) :
    (session.sendReply place frame cursor control).prospect ≤ session.backlog + rank frame + 1 := by
  have queued : { session with
      channel := session.channel ++ [Emission.reaction place frame] }.backlog =
        session.backlog + rank frame + 1 := by
    simp only [backlog, weight_append, weight_cons, weight_nil, Emission.reaction]
    omega
  rw [← queued]
  exact proceed_prospect _ cursor control

theorem reply_prospect (session : Session) (place : Nat) (frame : Bytes) (cursor : Nat)
    (control : Control) :
    (session.reply place frame cursor control).prospect ≤ session.backlog + rank frame + 1 := by
  unfold reply
  split
  · have left : { session with reader := .leaving }.prospect = session.backlog := rfl
    omega
  · split
    · exact sendReply_prospect session place frame cursor control
    · have waits : { session with reader := .queueing place frame cursor control }.prospect =
          session.backlog + (rank frame + 1) := rfl
      omega

theorem settle_prospect (free : session.prospect = session.backlog) (number : UInt32)
    (place cursor : Nat) {settlement : Settlement} {above : Nat}
    (descends : (Branch.response settlement).Descends above) :
    (session.settle endpoint number place cursor settlement).prospect ≤
      session.backlog + above := by
  unfold settle
  split
  · omega
  · rename_i entry found
    dsimp only
    split
    · exact Nat.le_trans (Nat.le_of_eq free) (Nat.le_add_right _ _)
    · cases settlement with
      | deliver resp closes =>
        apply Nat.le_trans _ (Nat.le_add_right _ above)
        cases entry.caller <;> cases closes
        · exact Nat.le_of_eq free
        · exact Nat.le_refl _
        · exact Nat.le_of_eq free
        · exact Nat.le_refl _
      | refuse reply =>
        cases reply with
        | none => exact Nat.le_trans (Nat.le_of_eq free) (Nat.le_add_right _ _)
        | some frame =>
          have lower : rank frame < above := descends
          have queued := reply_prospect (session.complete number place) place frame cursor .proceed
          have same : (session.complete number place).backlog = session.backlog := rfl
          dsimp only
          omega
      | panic => exact Nat.le_add_right _ _

theorem settleLink_prospect (session : Session) (pdu : Bytes) (number : UInt32) (cursor : Nat) :
    (session.settleLink endpoint pdu number cursor).prospect ≤ session.backlog := by
  unfold settleLink
  dsimp only
  split
  · exact Nat.le_refl _
  · split <;> exact Nat.le_refl _

theorem link_prospect (session : Session) (pdu : Bytes) (number : UInt32) (cursor : Nat) :
    (session.link endpoint pdu number cursor).prospect ≤ session.backlog := by
  unfold link
  split
  · exact settleLink_prospect session pdu number cursor
  · split
    · exact settleLink_prospect { session with links := session.links ++ [number] } pdu number
        cursor
    · exact Nat.le_refl _

theorem takeUp_prospect (endpoint : Endpoint) (session : Session) (pdu : Bytes) (cursor : Nat) :
    (session.takeUp endpoint pdu cursor).prospect ≤ session.backlog + rank pdu := by
  unfold takeUp
  split
  · rename_i header framed
    have descends := branch_descends endpoint framed
    unfold dispatch
    dsimp only
    cases branch : endpoint.branch header pdu with
    | request request =>
      rw [branch] at descends
      have top : rank pdu = 3 := descends
      simp only [prospect, backlog, ReaderStage.queued, ReaderStage.owed, List.length_append,
        List.length_cons, List.length_nil, weight_nil]
      omega
    | alert alert => exact Nat.le_add_right _ _
    | reply frame =>
      rw [branch] at descends
      have lower : rank frame < rank pdu := descends
      apply Nat.le_trans (reply_prospect _ _ frame _ .proceed)
      change session.backlog + rank frame + 1 ≤ _
      omega
    | unbind unbind =>
      rw [branch] at descends
      have top : rank pdu = 3 := descends
      have fewer := backlog_abortTicker session
      rw [top]
      change session.abortTicker.backlog + 3 ≤ _
      omega
    | unbindReject frame =>
      rw [branch] at descends
      have lower : rank frame < rank pdu := descends
      have fewer := backlog_abortTicker session
      apply Nat.le_trans (reply_prospect _ _ frame _ .unbound)
      change session.abortTicker.backlog + rank frame + 1 ≤ _
      omega
    | linkResp =>
      exact Nat.le_trans (link_prospect session pdu header.sequenceNumber cursor)
        (Nat.le_add_right _ _)
    | response settlement =>
      rw [branch] at descends
      exact settle_prospect rfl header.sequenceNumber _ _ descends
    | panic => exact Nat.le_add_right _ _
  · rename_i error unframed
    rw [rank_unframed unframed]
    apply Nat.le_trans (reply_prospect _ _ _ _ .writerDead)
    rw [rank_nack]
    exact Nat.le_refl _

theorem enqueue_prospect {sender : Nat} (taken : session.enqueue sender = some next) :
    next.prospect = session.prospect := by
  obtain ⟨emission, calls, ticker, found, rfl, -⟩ := enqueue_some taken
  have moved := weight_eraseIdx found
  simp only [prospect, backlog, weight_append, weight_cons, weight_nil]
  omega

theorem reader_prospect {event : Event} (inner : event.inner = true)
    (moves : ReaderMoves endpoint session event next) : next.prospect ≤ session.prospect := by
  have shown : session.backlog ≤ session.prospect := by
    unfold prospect
    omega
  cases moves with
  | receives | finishes | refuses | takesUp | answers => cases inner
  | waits stage => exact Nat.le_refl _
  | queuesReply stage =>
    rename_i place frame cursor control
    have waits : session.prospect = session.backlog + (rank frame + 1) := by
      simp [prospect, stage, ReaderStage.queued, ReaderStage.owed, Emission.reaction]
    have queued := sendReply_prospect session place frame cursor control
    omega
  | queuesNumber stage =>
    exact Nat.le_trans (settleLink_prospect { session with links := _ } _ _ _) shown
  | closes stage =>
    have fewer := weight_filter (fun emission => emission.origin ≠ .link) session.senders
    simp only [prospect, backlog, abortTicker, WriterStage.inHand, WriterStage.held,
      ReaderStage.queued, ReaderStage.owed, weight_nil, Option.toList_none, List.length_nil]
    omega
  | _ => exact shown

theorem step_prospect {event : Event} (inner : event.inner = true)
    (taken : session.step endpoint event = some next) : next.prospect ≤ session.prospect := by
  by_cases reads : event.ofReader = true
  · exact reader_prospect inner (step_reader reads taken)
  cases event with
  | call | tick | respond => cases inner
  | advance duration =>
    cases taken
    exact Nat.le_refl _
  | enqueue sender => exact Nat.le_of_eq (enqueue_prospect taken)
  | check =>
    simp only [step, check] at taken
    split at taken
    · rename_i stage
      cases taken
      cases alive : session.alive <;>
        simp [prospect, backlog, stage, WriterStage.inHand, WriterStage.held]
    · cases taken
  | take =>
    simp only [step, take] at taken
    split at taken
    · rename_i first channel stage queue
      cases taken
      simp only [prospect, backlog, stage, queue, WriterStage.inHand, WriterStage.held,
        weight_cons, weight_nil, Option.toList_none]
      omega
    · cases taken
  | register =>
    simp only [step, register] at taken
    split at taken
    · rename_i first stage
      split at taken
      all_goals
        cases taken
        simp only [prospect, backlog, stage, WriterStage.inHand, WriterStage.held, weight_cons,
          weight_nil, Option.toList_none, Option.toList_some]
        omega
    · cases taken
  | write outcome =>
    cases outcome with
    | accepted count => cases inner
    | failed =>
      simp only [step, write] at taken
      split at taken
      · rename_i first stage
        split at taken
        · cases taken
          simp [prospect, backlog, stage, WriterStage.inHand, WriterStage.held]
        · cases taken
      · cases taken
  | rollback =>
    simp only [step, rollback] at taken
    split at taken
    · rename_i first stage
      split at taken
      all_goals
        cases taken
        simp [prospect, backlog, stage, WriterStage.inHand, WriterStage.held]
    · cases taken
  | receive | hangUp | idle | extract | enqueueReply | enqueueNumber | unbound | close | stop =>
    exact absurd rfl reads
  | _ =>
    simp only [step, resolve, expire, disconnect, linkArrives, linkExpires, linkFails] at taken
    repeat' split at taken
    all_goals cases taken
    all_goals exact Nat.le_refl _

structure Quiet (session : Session) : Prop where
  senders : session.senders = []
  channel : session.channel = []
  writer : session.writer = .checking ∨ session.writer = .receiving
  reader : session.reader = .reading
  handlers : session.handlers = []

theorem Quiet.prospect_eq (quiet : session.Quiet) : session.prospect = 0 := by
  obtain ⟨senders, channel, writer, reader, handlers⟩ := quiet
  rcases writer with writer | writer
  all_goals
    simp [prospect, backlog, senders, channel, writer, reader, handlers, WriterStage.inHand,
      WriterStage.held, ReaderStage.queued, ReaderStage.owed]

end Session

theorem respCommandId_high {request : Request} {id : CommandId}
    (answerable : request.respCommandId = some id) : 0x80000000 ≤ id.value := by
  cases request with
  | bind kind pdu =>
    cases answerable
    cases kind <;> decide
  | _ => cases answerable <;> decide

theorem answer_commandId {request : Request} {verdict : Verdict} {resp : Response}
    (obtained : answer request verdict = some resp) :
    request.respCommandId.map CommandId.value = some resp.header.commandId := by
  cases verdict with
  | genericReject number error => cases request <;> cases obtained <;> rfl
  | accept args =>
    have own : (Verdict.accept args).Own := True.intro
    exact (answer_header own obtained).2
  | reject error =>
    have own : (Verdict.reject error).Own := True.intro
    exact (answer_header own obtained).2

theorem answer_rank {request : Request} {verdict : Verdict} {resp : Response}
    (obtained : answer request verdict = some resp) (tlvs : List Tlv) :
    rank (resp.withTlvs tlvs).encode ≤ 2 := by
  obtain ⟨id, answerable, named⟩ := Option.map_eq_some_iff.mp (answer_commandId obtained)
  apply rank_response
  rw [Response.withTlvs_header, ← named]
  exact respCommandId_high answerable

/-- What one end does of its own accord, with the listener's verdicts. -/
inductive Turn where
  | act (event : Event)
  | finish
  | answer (handler : Nat) (verdict : Verdict) (tlvs : List Tlv)
  | answerUnbind (verdict : Verdict)

namespace Session

def turn (endpoint : Endpoint) (session : Session) : Turn → Option Session
  | .act event => if event.inner then session.step endpoint event else none
  | .finish =>
    match session.reader with
    | .extracting cursor => some (session.finishRead endpoint cursor)
    | _ => none
  | .answer handler verdict tlvs =>
    match session.handlers[handler]? with
    | some (_, request) =>
      (Smpp34.answer request verdict).bind fun resp =>
        session.step endpoint (.respond handler (resp.withTlvs tlvs))
    | none => none
  | .answerUnbind verdict =>
    match session.reader with
    | .unbinding _ pdu _ =>
      match Smpp34.answer (.unbind pdu) verdict with
      | some (.unbind resp) => session.step endpoint (.unbound resp)
      | _ => none
    | _ => none

def handed (endpoint : Endpoint) (session : Session) (pdu : Bytes) : Session :=
  { session with buffer := pdu, reader := .extracting 0 }.takeUp endpoint pdu 0

variable {endpoint : Endpoint} {session next : Session}

theorem handed_prospect (endpoint : Endpoint) (reading : session.reader = .reading) (pdu : Bytes) :
    (session.handed endpoint pdu).prospect ≤ session.prospect + rank pdu := by
  have bounded := takeUp_prospect endpoint
    { session with buffer := pdu, reader := .extracting 0 } pdu 0
  have same : session.prospect = session.backlog := by
    apply prospect_eq <;> rw [reading] <;> rfl
  rw [same]
  exact bounded

theorem respond_prospect {handler place : Nat} {request : Request} {resp : Response}
    (asked : session.handlers[handler]? = some (place, request)) (small : rank resp.encode ≤ 2)
    (taken : session.step endpoint (.respond handler resp) = some next) :
    next.prospect ≤ session.prospect := by
  obtain ⟨inside, -⟩ := List.getElem?_eq_some_iff.mp asked
  have fewer := List.length_eraseIdx_add_one inside
  simp only [step, respond, asked] at taken
  split at taken
  · cases taken
    simp only [prospect, backlog, Emission.reaction, weight_append, weight_cons, weight_nil]
    omega
  · cases taken

theorem unbound_prospect {place cursor : Nat} {pdu : Unbind} {resp : UnbindResp}
    (asked : session.reader = .unbinding place pdu cursor) (small : rank resp.encode ≤ 2)
    (taken : session.step endpoint (.unbound resp) = some next) :
    next.prospect ≤ session.prospect := by
  have waits : session.prospect = session.backlog + 3 := by
    simp [prospect, asked, ReaderStage.queued, ReaderStage.owed]
  simp only [step, unbound, asked] at taken
  cases taken
  have queued := reply_prospect session place resp.encode cursor .unbound
  omega

theorem turn_prospect {turn : Turn} (taken : session.turn endpoint turn = some next) :
    next.prospect ≤ session.prospect := by
  cases turn with
  | act event =>
    simp only [Session.turn] at taken
    split at taken
    · exact step_prospect ‹_› taken
    · cases taken
  | finish =>
    simp only [Session.turn] at taken
    split at taken
    · rename_i cursor stage
      cases taken
      have same : session.prospect = session.backlog := by
        apply prospect_eq <;> rw [stage] <;> rfl
      rw [same]
      unfold finishRead
      dsimp only
      split <;> exact Nat.le_refl _
    · cases taken
  | answer handler verdict tlvs =>
    simp only [Session.turn] at taken
    split at taken
    · rename_i place request asked
      obtain ⟨resp, obtained, taken⟩ := Option.bind_eq_some_iff.mp taken
      exact respond_prospect asked (answer_rank obtained tlvs) taken
    · cases taken
  | answerUnbind verdict =>
    simp only [Session.turn] at taken
    split at taken
    · rename_i place pdu cursor asked
      split at taken
      · rename_i resp obtained
        exact unbound_prospect asked (answer_rank obtained []) taken
      · cases taken
    · cases taken

theorem write_prospect {emission : Emission} {count : Nat}
    (stage : session.writer = .registered emission)
    (taken : session.step endpoint (.write (.accepted count)) = some next) :
    next.prospect + (rank emission.frame.pdu + 1) = session.prospect := by
  simp only [step, write, stage] at taken
  split at taken
  · cases taken
    simp only [prospect, backlog, stage, WriterStage.inHand, WriterStage.held, weight_cons,
      weight_nil, Option.toList_none, Option.toList_some]
    omega
  · cases taken

end Session

structure Peers where
  bound : Side → BoundType
  responseTimer : Side → Nat
  inactivityTimer : Side → Nat

def Peers.endpoint (peers : Peers) (side : Side) : Endpoint :=
  ⟨side, peers.bound side, peers.responseTimer side, peers.inactivityTimer side⟩

/-- Both sessions, the PDUs on their way to each of them, and all that were sent. -/
structure Exchange where
  ends : Side → Session
  mail : Side → List Bytes
  replies : List Bytes

inductive Move where
  | turn (turn : Turn)
  | write
  | deliver (place : Nat)

def Move.delivers : Move → Bool
  | deliver _ => true
  | _ => false

namespace Exchange

/-- A PDU is on its way to one of two ends. -/
def inject (ends : Side → Session) (side : Side) (pdu : Bytes) : Exchange :=
  ⟨ends, Function.update (fun _ => []) side [pdu], []⟩

def step (peers : Peers) (exchange : Exchange) : Side × Move → Option Exchange
  | (side, .turn turn) =>
    ((exchange.ends side).turn (peers.endpoint side) turn).map fun next =>
      { exchange with ends := Function.update exchange.ends side next }
  | (side, .write) =>
    match (exchange.ends side).writer with
    | .registered emission =>
      let pdu := emission.frame.pdu
      ((exchange.ends side).step (peers.endpoint side) (.write (.accepted pdu.length))).map
        fun next =>
          ⟨Function.update exchange.ends side next,
            Function.update exchange.mail side.other (exchange.mail side.other ++ [pdu]),
            exchange.replies ++ [pdu]⟩
    | _ => none
  | (side, .deliver place) =>
    match (exchange.mail side)[place]? with
    | some pdu =>
      if (exchange.ends side).reader = .reading then
        some
          { exchange with
            ends := Function.update exchange.ends side
              ((exchange.ends side).handed (peers.endpoint side) pdu)
            mail := Function.update exchange.mail side ((exchange.mail side).eraseIdx place) }
      else none
    | none => none

def due (exchange : Exchange) (side : Side) : Nat :=
  (exchange.ends side).prospect + ((exchange.mail side).map rank).sum

variable {peers : Peers} {exchange next : Exchange}

theorem rank_eraseIdx {mail : List Bytes} {place : Nat} {pdu : Bytes}
    (found : mail[place]? = some pdu) :
    ((mail.eraseIdx place).map rank).sum + rank pdu = (mail.map rank).sum ∧
      (mail.eraseIdx place).length + 1 = mail.length := by
  obtain ⟨inside, rfl⟩ := List.getElem?_eq_some_iff.mp found
  have same := ((List.getElem_cons_eraseIdx_perm inside).map rank).sum_nat
  rw [← same, List.map_cons, List.sum_cons]
  exact ⟨Nat.add_comm _ _, List.length_eraseIdx_add_one inside⟩

/-- Every PDU that is sent is paid for by what was due. -/
theorem step_due {side : Side} {move : Move} (taken : exchange.step peers (side, move) = some next) :
    next.replies.length + (next.due side + next.due side.other) ≤
      exchange.replies.length + (exchange.due side + exchange.due side.other) := by
  have apart : side ≠ side.other := (Side.other_ne side).symm
  cases move with
  | turn turn =>
    obtain ⟨session, moved, rfl⟩ := Option.map_eq_some_iff.mp taken
    have fewer := Session.turn_prospect moved
    simp only [due, Function.update_self, Function.update_of_ne (Side.other_ne side)]
    omega
  | write =>
    simp only [step] at taken
    split at taken
    · rename_i emission stage
      obtain ⟨session, moved, rfl⟩ := Option.map_eq_some_iff.mp taken
      have left := Session.write_prospect stage moved
      simp only [due, Function.update_self, Function.update_of_ne (Side.other_ne side),
        Function.update_of_ne apart, List.map_append, List.sum_append, List.map_cons, List.map_nil,
        List.sum_cons, List.sum_nil, List.length_append, List.length_cons, List.length_nil]
      omega
    · cases taken
  | deliver place =>
    simp only [step] at taken
    split at taken
    · rename_i pdu found
      split at taken
      · rename_i reading
        cases taken
        have bounded := Session.handed_prospect (peers.endpoint side) reading pdu
        have erased := (rank_eraseIdx found).1
        simp only [due, Function.update_self, Function.update_of_ne (Side.other_ne side)]
        omega
      · cases taken
    · cases taken

theorem step_mail {side : Side} {move : Move} (taken : exchange.step peers (side, move) = some next) :
    (next.mail side).length + (next.mail side.other).length + (if move.delivers then 1 else 0) +
        exchange.replies.length =
      (exchange.mail side).length + (exchange.mail side.other).length + next.replies.length := by
  have apart : side ≠ side.other := (Side.other_ne side).symm
  cases move with
  | turn turn =>
    obtain ⟨session, moved, rfl⟩ := Option.map_eq_some_iff.mp taken
    simp [Move.delivers]
  | write =>
    simp only [step] at taken
    split at taken
    · obtain ⟨session, moved, rfl⟩ := Option.map_eq_some_iff.mp taken
      simp only [Function.update_self, Function.update_of_ne apart, List.length_append,
        List.length_cons, List.length_nil, Move.delivers, Bool.false_eq_true, if_false]
      omega
    · cases taken
  | deliver place =>
    simp only [step] at taken
    split at taken
    · rename_i pdu found
      split at taken
      · cases taken
        have erased := (rank_eraseIdx found).2
        simp only [Function.update_self, Function.update_of_ne (Side.other_ne side),
          Move.delivers, if_true]
        omega
      · cases taken
    · cases taken

theorem run_due {moves : List (Side × Move)} {final : Exchange}
    (reached : run (step peers) exchange moves = some final) :
    final.replies.length + (final.due .server + final.due .client) ≤
      exchange.replies.length + (exchange.due .server + exchange.due .client) := by
  induction moves generalizing exchange with
  | nil =>
    cases reached
    exact Nat.le_refl _
  | cons move moves ih =>
    obtain ⟨next, taken, rest⟩ := Machine.run_cons_iff.mp reached
    obtain ⟨side, move⟩ := move
    have first := step_due taken
    have later := ih rest
    cases side with
    | server =>
      simp only [Side.other] at first
      omega
    | client =>
      simp only [Side.other] at first
      omega

theorem run_mail {moves : List (Side × Move)} {final : Exchange}
    (reached : run (step peers) exchange moves = some final) :
    (final.mail .server).length + (final.mail .client).length +
        moves.countP (fun move => move.2.delivers) + exchange.replies.length =
      (exchange.mail .server).length + (exchange.mail .client).length + final.replies.length := by
  induction moves generalizing exchange with
  | nil =>
    cases reached
    rfl
  | cons move moves ih =>
    obtain ⟨next, taken, rest⟩ := Machine.run_cons_iff.mp reached
    obtain ⟨side, move⟩ := move
    have first := step_mail taken
    have later := ih rest
    rw [List.countP_cons]
    dsimp only
    cases side with
    | server =>
      simp only [Side.other] at first
      omega
    | client =>
      simp only [Side.other] at first
      omega

end Exchange

/-- However the two loops interleave and whatever the listeners decide, a single PDU sets off at
    most three others, and with them the exchange is over. -/
theorem automatic_replies_die_out (peers : Peers) (ends : Side → Session)
    (quiet : ∀ side, (ends side).Quiet) (side : Side) (pdu : Bytes) (moves : List (Side × Move))
    (final : Exchange)
    (reached : run (Exchange.step peers) (Exchange.inject ends side pdu) moves = some final) :
    final.replies.length ≤ 3 ∧ moves.countP (fun move => move.2.delivers) ≤ 4 := by
  have due := Exchange.run_due reached
  have mail := Exchange.run_mail reached
  have small := rank_le_three pdu
  have server := (quiet .server).prospect_eq
  have client := (quiet .client).prospect_eq
  have injected : (Exchange.inject ends side pdu).due .server +
      (Exchange.inject ends side pdu).due .client = rank pdu := by
    cases side <;> simp [Exchange.due, Exchange.inject, server, client]
  have alone : ((Exchange.inject ends side pdu).mail .server).length +
      ((Exchange.inject ends side pdu).mail .client).length = 1 := by
    cases side <;> simp [Exchange.inject]
  have none : (Exchange.inject ends side pdu).replies.length = 0 := rfl
  constructor
  · omega
  · omega

def handing (side : Side) : List (Side × Move) :=
  [(side, .turn (.act .check)), (side, .turn (.act .take)), (side, .turn (.act .register)),
    (side, .write), (side.other, .deliver 0), (side.other, .turn .finish)]

theorem three_replies_to_a_data_sm :
    let peers : Peers := ⟨fun _ => .rx, fun _ => 60, fun _ => 600⟩
    let asked : AList fun _ : UInt32 => Correlation.Entry := AList.insert 5 ⟨0, none⟩ ∅
    let ends : Side → Session := fun side =>
      { (peers.endpoint side).start with pendingRequests := asked }
    let request := DataSm.new 5 Utf8.Str.empty 0 0 Utf8.Str.empty 0 0 Utf8.Str.empty 0 0 0
    let moves : List (Side × Move) :=
      ([(.client, .deliver 0), (.client, .turn .finish),
        (.client, .turn (.answer 0 (.reject .ESME_ROK) [⟨0x0101, List.replicate 257 1⟩])),
        (.client, .turn (.act (.enqueue 0)))] : List (Side × Move)) ++
      handing .client ++ handing .server ++ handing .client
    ∃ final, run (Exchange.step peers) (Exchange.inject ends .client request.encode) moves =
        some final ∧
      final.replies.length = 3 ∧ final.replies.length ≤ 3 ∧
      moves.countP (fun move => move.2.delivers) ≤ 4 := by
  intro peers asked ends request moves
  have quiet : ∀ side, (ends side).Quiet := by
    intro side
    exact ⟨rfl, rfl, .inl rfl, rfl, rfl⟩
  have ran : (run (Exchange.step peers) (Exchange.inject ends .client request.encode) moves).map
      (fun final => final.replies.length) = some 3 := by decide +kernel
  obtain ⟨final, reached, three⟩ := Option.map_eq_some_iff.mp ran
  exact ⟨final, reached, three,
    automatic_replies_die_out peers ends quiet .client request.encode moves final reached⟩

end Smpp34
