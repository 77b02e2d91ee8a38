import Smpp34.Session.Causes

namespace Smpp34

open Octets
open Machine (run)

def Emission.reactsTo (place : Nat) (emission : Emission) : Bool :=
  emission.origin = .reaction place

def ReaderStage.due : ReaderStage → List Nat
  | queueing place _ _ _ | unbinding place _ _ => [place]
  | _ => []

section Asks

def Branch.answers : Branch → Bool
  | request _ | reply _ | unbind _ | unbindReject _ => true
  | _ => false

/-- A request that the session has an answer to: every one but the alert_notification. -/
def Endpoint.Asks (endpoint : Endpoint) (pdu : Bytes) : Prop :=
  isResponse pdu = false ∧
    ¬ (endpoint.side = .client ∧ beU32At pdu 4 = CommandId.alertNotification.value)

variable {bound : BoundType} {header : CommandHeader} {pdu : Bytes}

theorem dispatched_answers {α : Type} {decoded : Decoded α} {onOk : α → Branch}
    {onError : SmppError → Bytes} (answers : ∀ value, (onOk value).answers = true) :
    (dispatched decoded onOk onError).answers = true ∨
      dispatched decoded onOk onError = .panic := by
  refine dispatched_cases (fun value _ => ?_) (fun error _ => ?_) (fun _ => ?_)
  · exact .inl (answers value)
  · exact .inl rfl
  · exact .inr rfl

theorem unbindBranch_answers {decoded : Decoded Unbind} {number : UInt32} :
    (unbindBranch decoded number).answers = true ∨ unbindBranch decoded number = .panic := by
  refine unbindBranch_cases (fun unbind _ => ?_) (fun error _ => ?_) (fun _ => ?_)
  · exact .inl rfl
  · exact .inl rfl
  · exact .inr rfl

theorem serverBranch_answers (request : header.commandId < 0x80000000) :
    (serverBranch bound header pdu).answers = true ∨ serverBranch bound header pdu = .panic := by
  have chain := serverBranch_chain bound header pdu
  generalize serverBranch bound header pdu = branch at chain ⊢
  cases chain with
  | submitSm | submitMulti | dataSm | cancelSm | querySm | replaceSm | enquireLink =>
    exact dispatched_answers fun value => rfl
  | unbind => exact unbindBranch_answers
  | unsupported => exact .inl rfl
  | enquireLinkResp same | deliverSmResp same | dataSmResp same | genericNack same =>
    rw [same] at request
    exact absurd request (by decide)

theorem clientBranch_answers (request : header.commandId < 0x80000000)
    (other : header.commandId ≠ CommandId.alertNotification.value) :
    (clientBranch bound header pdu).answers = true ∨ clientBranch bound header pdu = .panic := by
  have chain := clientBranch_chain bound header pdu
  generalize clientBranch bound header pdu = branch at chain ⊢
  cases chain with
  | deliverSm | dataSm | enquireLink => exact dispatched_answers fun value => rfl
  | unbind => exact unbindBranch_answers
  | unsupported => exact .inl rfl
  | alertNotification same => exact absurd same other
  | submitSmResp same | submitMultiResp same | dataSmResp same | cancelSmResp same
    | querySmResp same | replaceSmResp same | enquireLinkResp same | unbindResp same
    | genericNack same =>
    rw [same] at request
    exact absurd request (by decide)

theorem Endpoint.Asks.answers {endpoint : Endpoint} (asks : endpoint.Asks pdu)
    (framed : CommandHeader.decode pdu = .ok header) :
    (endpoint.branch header pdu).answers = true ∨ endpoint.branch header pdu = .panic := by
  have request := (isResponse_iff framed).mp asks.1
  have other := asks.2
  rw [show beU32At pdu 4 = header.commandId from (CommandHeader.decode_ok_eq framed).1 ▸ rfl]
    at other
  unfold Endpoint.branch
  cases side : endpoint.side with
  | server => exact serverBranch_answers request
  | client => exact clientBranch_answers request fun same => other ⟨side, same⟩

end Asks

namespace Session

/-- The handlers that have a PDU to answer, and the frames that answer it. -/
def carried (session : Session) (place : Nat) : Nat :=
  session.handlers.countP (fun debt => debt.1 = place) +
    session.senders.countP (Emission.reactsTo place) +
    session.channel.countP (Emission.reactsTo place) +
    session.writer.inHand.countP (Emission.reactsTo place) +
    session.writer.held.toList.countP (Emission.reactsTo place) +
    session.sent.countP (Emission.reactsTo place)

def due (session : Session) (place : Nat) : Nat :=
  session.carried place + session.reader.due.count place

variable {endpoint : Endpoint} {session next : Session}

theorem due_idle {place : Nat} (idle : next.reader.due = []) :
    next.due place = next.carried place := by
  unfold due
  rw [idle, List.count_nil, Nat.add_zero]

theorem carried_le_due (session : Session) (place : Nat) :
    session.carried place ≤ session.due place :=
  Nat.le_add_right _ _

theorem abortTicker_carried (session : Session) (place : Nat) :
    session.abortTicker.carried place = session.carried place := by
  have same : session.abortTicker.senders.countP (Emission.reactsTo place) =
      session.senders.countP (Emission.reactsTo place) := by
    unfold abortTicker
    rw [List.countP_filter]
    refine List.countP_congr fun emission _ => ?_
    simp only [Emission.reactsTo, Bool.and_eq_true, decide_eq_true_eq]
    exact ⟨And.left, fun origin => ⟨origin, by simp [origin]⟩⟩
  unfold carried
  rw [same]
  rfl

theorem proceed_due (session : Session) (cursor : Nat) (control : Control) (place : Nat) :
    (session.proceed cursor control).due place = session.carried place := by
  cases control with
  | proceed | unbound => rfl
  | writerDead => exact session.abortTicker_carried place

theorem sendReply_due (session : Session) (answered : Nat) (frame : Bytes) (cursor : Nat)
    (control : Control) (place : Nat) :
    (session.sendReply answered frame cursor control).due place =
      session.carried place + [answered].count place := by
  have new : [Emission.reaction answered frame].countP (Emission.reactsTo place) =
      [answered].count place := by
    simp [Emission.reactsTo, Emission.reaction, List.countP_cons, List.count_cons]
  refine (proceed_due _ cursor control place).trans ?_
  unfold carried
  dsimp only
  rw [List.countP_append, new]
  omega

theorem reply_due (session : Session) (answered : Nat) (frame : Bytes) (cursor : Nat)
    (control : Control) (place : Nat) :
    (session.reply answered frame cursor control).due place =
        session.carried place + [answered].count place ∨
      (session.reply answered frame cursor control).due place = session.carried place ∧
        (session.reply answered frame cursor control).reader = .leaving := by
  unfold reply
  split
  · exact .inr ⟨rfl, rfl⟩
  · split
    · exact .inl (sendReply_due session answered frame cursor control place)
    · exact .inl rfl

def Adds (session next : Session) (answered place : Nat) : Prop :=
  session.carried place ≤ next.due place ∧
    next.due place ≤ session.carried place + [answered].count place

theorem adds_none {answered place : Nat} (same : next.due place = session.carried place) :
    session.Adds next answered place :=
  ⟨same.ge, same.trans_le (Nat.le_add_right _ _)⟩

theorem adds_one {answered place : Nat}
    (same : next.due place = session.carried place + [answered].count place) :
    session.Adds next answered place :=
  ⟨same.ge.trans' (Nat.le_add_right _ _), same.le⟩

theorem Adds.of_carried {other : Session} {answered place : Nat}
    (adds : other.Adds next answered place) (same : other.carried place = session.carried place) :
    session.Adds next answered place := by
  unfold Adds at *
  rw [← same]
  exact adds

theorem reply_adds (session : Session) (answered : Nat) (frame : Bytes) (cursor : Nat)
    (control : Control) (place : Nat) :
    session.Adds (session.reply answered frame cursor control) answered place := by
  rcases reply_due session answered frame cursor control place with same | ⟨same, -⟩
  · exact adds_one same
  · exact adds_none same

theorem settle_adds (idle : session.reader.due = []) (number : UInt32) (answered cursor : Nat)
    (settlement : Settlement) (place : Nat) :
    session.Adds (session.settle endpoint number answered cursor settlement) answered place := by
  have same : session.due place = session.carried place := due_idle idle
  unfold settle
  split
  · exact adds_none same
  · rename_i entry found
    dsimp only
    split
    · exact adds_none same
    · cases settlement with
      | deliver resp closes =>
        cases entry.caller <;> cases closes
        · exact adds_none same
        · exact adds_none rfl
        · exact adds_none same
        · exact adds_none rfl
      | refuse reply =>
        cases reply with
        | none => exact adds_none same
        | some frame =>
          exact reply_adds (session.complete number answered) answered frame cursor .proceed place
      | panic => exact adds_none rfl

theorem settleLink_due (session : Session) (pdu : Bytes) (number : UInt32) (cursor place : Nat) :
    (session.settleLink endpoint pdu number cursor).due place = session.carried place := by
  unfold settleLink
  dsimp only
  split
  · rfl
  · split <;> rfl

theorem link_due (session : Session) (pdu : Bytes) (number : UInt32) (cursor place : Nat) :
    (session.link endpoint pdu number cursor).due place = session.carried place := by
  unfold link
  split
  · exact settleLink_due session pdu number cursor place
  · split
    · exact settleLink_due _ pdu number cursor place
    · rfl

theorem handler_due (answered : Nat) (request : Request) (place : Nat) :
    [(answered, request)].countP (fun debt => decide (debt.1 = place)) =
      [answered].count place := by
  simp [List.countP_cons, List.count_cons]

theorem takeUp_adds (endpoint : Endpoint) (session : Session) (pdu : Bytes) (cursor place : Nat) :
    session.Adds (session.takeUp endpoint pdu cursor) session.received.length place := by
  cases decoded : CommandHeader.decode pdu with
  | ok header =>
    simp only [takeUp, decoded, dispatch]
    cases branch : endpoint.branch header pdu with
    | request request =>
      refine adds_one ?_
      rw [due_idle rfl]
      unfold carried
      dsimp only
      rw [List.countP_append, handler_due]
      omega
    | alert alert => exact adds_none rfl
    | reply frame =>
      exact reply_adds { session with
        received := session.received ++ [pdu]
        reader := .extracting (cursor + pdu.length) } _ frame _ .proceed place
    | unbind unbind =>
      exact adds_one (congrArg (fun carried => carried + [session.received.length].count place)
        (session.abortTicker_carried place))
    | unbindReject frame =>
      exact (reply_adds { session.abortTicker with
        received := session.received ++ [pdu]
        reader := .extracting (cursor + pdu.length) } _ frame _ .unbound place).of_carried
          (session.abortTicker_carried place)
    | linkResp => exact adds_none (link_due session pdu header.sequenceNumber cursor place)
    | response settlement =>
      exact @settle_adds endpoint
        { session with
          received := session.received ++ [pdu]
          reader := .extracting (cursor + pdu.length) } rfl header.sequenceNumber _ _
        settlement place
    | panic => exact adds_none rfl
  | error error =>
    simp only [takeUp, decoded]
    exact reply_adds { session with received := session.received ++ [pdu] } _ _ _ .writerDead place

theorem reply_stays {answered : Nat} {frame : Bytes} {cursor : Nat} {control : Control}
    (stays : (session.reply answered frame cursor control).reader.position ≠ none) (place : Nat) :
    (session.reply answered frame cursor control).due place =
      session.carried place + [answered].count place := by
  rcases reply_due session answered frame cursor control place with same | ⟨-, leaves⟩
  · exact same
  · rw [leaves] at stays
    exact absurd rfl stays

/-- While the loop goes on, a request that it takes up is owed an answer. -/
theorem takeUp_asked {pdu : Bytes} {cursor : Nat} (asks : endpoint.Asks pdu)
    (stays : (session.takeUp endpoint pdu cursor).reader.position ≠ none) :
    1 ≤ (session.takeUp endpoint pdu cursor).due session.received.length := by
  have one : [session.received.length].count session.received.length = 1 := by simp
  cases decoded : CommandHeader.decode pdu with
  | ok header =>
    simp only [takeUp, decoded, dispatch] at stays ⊢
    rcases asks.answers decoded with answers | panics
    · cases branch : endpoint.branch header pdu with
      | request request =>
        rw [due_idle rfl]
        unfold carried
        dsimp only
        rw [List.countP_append, handler_due]
        omega
      | reply frame =>
        simp only [branch] at stays
        exact (reply_stays stays _).ge.trans' (one.ge.trans (Nat.le_add_left _ _))
      | unbind unbind => exact one.ge.trans (Nat.le_add_left _ _)
      | unbindReject frame =>
        simp only [branch] at stays
        exact (reply_stays stays _).ge.trans' (one.ge.trans (Nat.le_add_left _ _))
      | _ =>
        rw [branch] at answers
        cases answers
    · simp only [panics] at stays
      exact absurd rfl stays
  | error error =>
    simp only [takeUp, decoded] at stays ⊢
    exact (reply_stays stays _).ge.trans' (one.ge.trans (Nat.le_add_left _ _))

def Owes (session next : Session) (place : Nat) : Prop :=
  next.due place ≤ session.due place ∨
    next.received.length = session.received.length + 1 ∧
      next.due place ≤ session.due place + [session.received.length].count place

theorem takeUp_owes (endpoint : Endpoint) (session : Session) (pdu : Bytes) (cursor place : Nat) :
    session.Owes (session.takeUp endpoint pdu cursor) place := by
  have kept := session.carried_le_due place
  rcases takeUp_takenUp endpoint session pdu cursor with up | ⟨header, framed, branch, -, -⟩
  · refine .inr ⟨?_, (takeUp_adds endpoint session pdu cursor place).2.trans
      (Nat.add_le_add_right kept _)⟩
    rw [up.received, List.length_append]
    rfl
  · left
    simp only [takeUp, framed, dispatch, branch]
    exact (link_due session pdu header.sequenceNumber cursor place).trans_le kept

theorem finishRead_due (session : Session) (cursor place : Nat) :
    (session.finishRead endpoint cursor).due place = session.carried place := by
  unfold finishRead
  dsimp only
  split <;> rfl

theorem queued_due {answered place : Nat} (owed : session.reader.due = [answered]) :
    session.carried place + [answered].count place = session.due place := by
  unfold due
  rw [owed]

theorem reader_owes {event : Event} (moves : ReaderMoves endpoint session event next)
    (place : Nat) : session.Owes next place := by
  have kept := session.carried_le_due place
  cases moves with
  | takesUp stage whole => exact takeUp_owes endpoint session _ _ place
  | queuesReply stage =>
    refine .inl ((sendReply_due session _ _ _ _ place).trans_le (queued_due ?_).le)
    rw [stage]
    rfl
  | queuesNumber stage => exact .inl ((settleLink_due _ _ _ _ place).trans_le kept)
  | answers stage =>
    refine .inl ((reply_adds session _ _ _ .unbound place).2.trans (queued_due ?_).le)
    rw [stage]
    rfl
  | waits stage => exact .inl (Nat.le_refl _)
  | finishes stage short => exact .inl ((finishRead_due session _ place).trans_le kept)
  | closes stage =>
    have aborted := session.abortTicker_carried place
    refine .inl (le_trans ?_ kept)
    rw [due_idle rfl, ← aborted]
    unfold carried
    simp only [WriterStage.inHand, WriterStage.held, Option.toList_none, List.countP_nil]
    omega
  | _ stage => exact .inl kept

theorem reader_keeps {event : Event} (moves : ReaderMoves endpoint session event next)
    (stays : next.reader.position ≠ none) (place : Nat) : session.due place ≤ next.due place := by
  cases moves with
  | waits stage => exact Nat.le_refl _
  | receives stage =>
    have idle : session.due place = session.carried place := due_idle (by rw [stage]; rfl)
    exact idle.le
  | finishes stage short =>
    have idle : session.due place = session.carried place := due_idle (by rw [stage]; rfl)
    exact (idle.trans (finishRead_due session _ place).symm).le
  | takesUp stage whole =>
    have idle : session.due place = session.carried place := due_idle (by rw [stage]; rfl)
    exact idle.trans_le (takeUp_adds endpoint session _ _ place).1
  | @queuesReply answered frame cursor control stage =>
    have owed : session.carried place + [answered].count place = session.due place :=
      queued_due (by rw [stage]; rfl)
    exact owed.ge.trans (sendReply_due session answered frame cursor control place).ge
  | @queuesNumber pdu number cursor links stage =>
    have idle : session.due place = session.carried place := due_idle (by rw [stage]; rfl)
    have same := @settleLink_due endpoint { session with links := links } pdu number cursor place
    exact idle.le.trans same.ge
  | @answers answered pdu cursor resp stage =>
    have owed : session.carried place + [answered].count place = session.due place :=
      queued_due (by rw [stage]; rfl)
    exact owed.ge.trans (reply_stays stays place).ge
  | _ stage => exact absurd rfl stays

theorem countP_eraseIdx {α : Type} {items : List α} {item : α} {index : Nat} (holds : α → Bool)
    (found : items[index]? = some item) :
    items.countP holds = (items.eraseIdx index).countP holds + [item].countP holds := by
  obtain ⟨inside, rfl⟩ := List.getElem?_eq_some_iff.mp found
  rw [← (List.getElem_cons_eraseIdx_perm inside).countP_eq holds, ← List.singleton_append,
    List.countP_append, Nat.add_comm]

theorem countP_other {emission : Emission} {place : Nat}
    (other : ∀ place, emission.origin ≠ .reaction place) :
    [emission].countP (Emission.reactsTo place) = 0 := by
  simp [Emission.reactsTo, other place]

/-- The other tasks hand on what is owed, and lose only a frame whose write has failed. -/
theorem aside_due {event : Event} (elsewhere : event.ofReader = false)
    (taken : session.step endpoint event = some next) (place : Nat) :
    next.due place ≤ session.due place ∧
      (event ≠ .rollback → session.due place ≤ next.due place) := by
  have reader := (step_elsewhere elsewhere taken).1
  unfold due
  rw [reader, Nat.add_le_add_iff_right, Nat.add_le_add_iff_right]
  cases event with
  | call request =>
    obtain ⟨-, pdu, -, rfl⟩ := call_some taken
    unfold carried
    dsimp only
    rw [List.countP_append, countP_other (by simp)]
    exact ⟨Nat.le_refl _, fun _ => Nat.le_refl _⟩
  | enqueue sender =>
    obtain ⟨emission, calls, ticker, found, rfl, -⟩ := enqueue_some taken
    have same := countP_eraseIdx (Emission.reactsTo place) found
    unfold carried
    dsimp only
    rw [List.countP_append]
    omega
  | respond handler resp =>
    simp only [step, respond] at taken
    split at taken
    · rename_i answered request found
      split at taken
      · cases taken
        have same := countP_eraseIdx (fun debt => decide (debt.1 = place)) found
        have new : [Emission.reaction answered resp.encode].countP (Emission.reactsTo place) =
            [(answered, request)].countP (fun debt => decide (debt.1 = place)) := by
          simp [Emission.reactsTo, Emission.reaction, List.countP_cons]
        unfold carried
        dsimp only
        rw [List.countP_append, new]
        omega
      · cases taken
    · cases taken
  | tick =>
    simp only [step, tick] at taken
    repeat' split at taken
    all_goals cases taken
    · unfold carried
      dsimp only
      rw [List.countP_append, countP_other (by simp)]
      exact ⟨Nat.le_refl _, fun _ => Nat.le_refl _⟩
    · exact ⟨Nat.le_refl _, fun _ => Nat.le_refl _⟩
  | check | take | register | write | rollback =>
    simp only [step, check, take, register, write, rollback] at taken
    repeat' split at taken
    all_goals cases taken
    all_goals
      simp_all only [carried, WriterStage.inHand, WriterStage.held, List.countP_append,
        List.countP_cons, List.countP_nil, Option.toList_none, Option.toList_some]
    all_goals first | omega | exact ⟨by omega, fun unfailed => absurd rfl unfailed⟩
  | receive | hangUp | idle | extract | enqueueReply | enqueueNumber | unbound | close | stop =>
    cases elsewhere
  | _ =>
    simp only [step, resolve, expire, disconnect, linkArrives, linkExpires, linkFails] at taken
    repeat' split at taken
    all_goals cases taken
    all_goals exact ⟨Nat.le_refl _, fun _ => Nat.le_refl _⟩

theorem step_owes {event : Event} (taken : session.step endpoint event = some next)
    (place : Nat) : session.Owes next place := by
  by_cases reads : event.ofReader = true
  · exact reader_owes (step_reader reads taken) place
  · exact .inl (aside_due (Bool.not_eq_true _ ▸ reads) taken place).1

theorem step_keeps {event : Event} (taken : session.step endpoint event = some next)
    (unfailed : event ≠ .rollback) (stays : next.reader.position ≠ none) (place : Nat) :
    session.due place ≤ next.due place := by
  by_cases reads : event.ofReader = true
  · exact reader_keeps (step_reader reads taken) stays place
  · exact (aside_due (Bool.not_eq_true _ ▸ reads) taken place).2 unfailed

theorem reader_takes {event : Event} (moves : ReaderMoves endpoint session event next) :
    next.received = session.received ∧
        (∀ pdu number cursor, next.reader ≠ .linking pdu number cursor) ∨
      (∃ pdu cursor, next = session.takeUp endpoint pdu cursor) ∨
      ∃ pdu number cursor links, session.reader = .linking pdu number cursor ∧
        next = { session with links := links }.settleLink endpoint pdu number cursor := by
  cases moves with
  | takesUp stage whole => exact .inr (.inl ⟨_, _, rfl⟩)
  | queuesNumber stage => exact .inr (.inr ⟨_, _, _, _, stage, rfl⟩)
  | @queuesReply answered frame cursor control stage =>
    left
    cases control with
    | proceed | unbound | writerDead => exact ⟨rfl, unlinked rfl⟩
  | @answers answered pdu cursor resp stage =>
    obtain ⟨senders, channel, ticker, reader, same, -, stands⟩ :=
      reply_eq session answered resp.encode cursor .unbound
    rw [same]
    refine .inl ⟨rfl, ?_⟩
    rcases stands with ⟨rfl, -⟩ | rfl | rfl
    · exact unlinked rfl
    · exact unlinked rfl
    · exact unlinked rfl
  | waits stage => exact .inl ⟨rfl, unlinked (by rw [stage]; rfl)⟩
  | finishes stage short =>
    refine .inl ⟨rfl, ?_⟩
    unfold finishRead
    dsimp only
    split
    · exact unlinked rfl
    · exact unlinked rfl
  | _ stage => exact .inl ⟨rfl, unlinked rfl⟩

/-- The session owes no answer twice, and none to what it has not taken up. -/
structure Tended (session : Session) : Prop where
  once : ∀ place, session.due place ≤ 1
  fresh : ∀ place, session.received.length ≤ place → session.due place = 0

theorem start_tended (endpoint : Endpoint) : endpoint.start.Tended where
  once _ := Nat.zero_le 1
  fresh _ _ := rfl

theorem step_tended {event : Event} (tended : session.Tended)
    (taken : session.step endpoint event = some next) : next.Tended := by
  have grows := (step_consumes taken).grows.length_le
  refine ⟨fun place => ?_, fun place beyond => ?_⟩
  · rcases step_owes taken place with less | ⟨-, less⟩
    · exact less.trans (tended.once place)
    · rw [List.count_singleton] at less
      split at less
      · rename_i here
        rw [← eq_of_beq here, tended.fresh _ (Nat.le_refl _)] at less
        rw [← eq_of_beq here]
        exact less
      · exact less.trans (tended.once place)
  · have before := tended.fresh place (grows.trans beyond)
    rcases step_owes taken place with less | ⟨longer, less⟩
    · exact Nat.le_zero.mp (less.trans before.le)
    · rw [List.count_singleton, if_neg, before] at less
      · exact Nat.le_zero.mp less
      · intro here
        have same := eq_of_beq here
        omega

structure Attended (endpoint : Endpoint) (session : Session) : Prop where
  asked : ∀ place pdu, session.received[place]? = some pdu → endpoint.Asks pdu →
    1 ≤ session.due place
  linking : ∀ pdu number cursor, session.reader = .linking pdu number cursor → ¬ endpoint.Asks pdu

theorem start_attended (endpoint : Endpoint) : endpoint.start.Attended endpoint where
  asked place pdu found := by simp [Endpoint.start] at found
  linking pdu number cursor stage := by simp [Endpoint.start] at stage

theorem position_before {event : Event} (taken : session.step endpoint event = some next)
    (stays : next.reader.position ≠ none) : session.reader.position ≠ none := by
  by_cases reads : event.ofReader = true
  · cases step_reader reads taken with
    | closes stage => exact absurd rfl stays
    | stops running client => exact absurd rfl stays
    | _ stage =>
      rw [stage]
      exact Option.some_ne_none _
  · rw [← (step_elsewhere (Bool.not_eq_true _ ▸ reads) taken).1]
    exact stays

theorem linkResp_unasked {header : CommandHeader} {pdu : Bytes}
    (framed : CommandHeader.decode pdu = .ok header)
    (link : endpoint.branch header pdu = .linkResp) : ¬ endpoint.Asks pdu := by
  intro asks
  have answers := asks.answers framed
  rw [link] at answers
  rcases answers with answers | panics
  · cases answers
  · cases panics

theorem asked_later {place : Nat} {taken pdu : Bytes}
    (asked : ∀ place pdu, session.received[place]? = some pdu → endpoint.Asks pdu →
      1 ≤ next.due place)
    (new : endpoint.Asks taken → 1 ≤ next.due session.received.length)
    (found : (session.received ++ [taken])[place]? = some pdu) (asks : endpoint.Asks pdu) :
    1 ≤ next.due place := by
  rw [List.getElem?_append] at found
  split at found
  · exact asked place pdu found asks
  · rename_i beyond
    obtain ⟨last, rfl⟩ := List.getElem?_eq_some_iff.mp found
    rw [List.length_singleton] at last
    have here : place = session.received.length := by omega
    subst here
    simp only [Nat.sub_self, List.getElem_cons_zero] at asks
    exact new asks

theorem step_attended {event : Event} (attended : session.Attended endpoint)
    (taken : session.step endpoint event = some next) (unfailed : event ≠ .rollback)
    (stays : next.reader.position ≠ none) : next.Attended endpoint := by
  have asked : ∀ place pdu, session.received[place]? = some pdu → endpoint.Asks pdu →
      1 ≤ next.due place := fun place pdu found asks =>
    (attended.asked place pdu found asks).trans (step_keeps taken unfailed stays place)
  by_cases reads : event.ofReader = true
  · rcases reader_takes (step_reader reads taken) with
      ⟨received, unlinked⟩ | ⟨pdu, cursor, rfl⟩ | ⟨pdu, number, cursor, links, stage, rfl⟩
    · refine ⟨?_, fun pdu number cursor linking => absurd linking (unlinked pdu number cursor)⟩
      rw [received]
      exact asked
    · rcases takeUp_takenUp endpoint session pdu cursor with
        up | ⟨header, framed, link, linking, received⟩
      · refine ⟨?_, fun pdu number cursor linking => absurd linking (up.linking pdu number cursor)⟩
        rw [up.received]
        exact fun place pdu' => asked_later asked fun asks => takeUp_asked asks stays
      · refine ⟨received ▸ asked, ?_⟩
        intro pdu' number' cursor' linking'
        rw [linking] at linking'
        cases linking'
        exact linkResp_unasked framed link
    · have received : { session with links := links }.received = session.received := rfl
      have up : session.TakenUp pdu (cursor + pdu.length)
          ({ session with links := links }.settleLink endpoint pdu number cursor) :=
        settleLink_takenUp received pdu number cursor
      refine ⟨?_, fun pdu number cursor linking => absurd linking (up.linking pdu number cursor)⟩
      rw [up.received]
      exact fun place pdu' => asked_later asked fun asks =>
        absurd asks (attended.linking pdu number cursor stage)
  · obtain ⟨reader, received, -⟩ := step_elsewhere (Bool.not_eq_true _ ▸ reads) taken
    refine ⟨received ▸ asked, ?_⟩
    rw [reader]
    exact attended.linking

theorem run_tended {events : List Event}
    (reached : run (step endpoint) endpoint.start events = some session) : session.Tended :=
  Machine.run_invariant (fun _ _ _ tended taken => step_tended tended taken)
    (start_tended endpoint) reached

theorem run_attended {events : List Event}
    (reached : run (step endpoint) endpoint.start events = some session)
    (unfailed : .rollback ∉ events) (reading : session.reader.position ≠ none) :
    session.Attended endpoint := by
  have met : Machine.Throughout (step endpoint) (fun _ event => event ≠ Event.rollback)
      endpoint.start events := by
    refine Machine.throughout_of_forall (fun event member => ?_) _
    rintro rfl
    exact unfailed member
  let holds (now : Session) : Prop := now.reader.position ≠ none → now.Attended endpoint
  have kept : ∀ now event later, holds now → event ≠ Event.rollback →
      step endpoint now event = some later → holds later :=
    fun now event later attended unfailed taken stays =>
      step_attended (attended (position_before taken stays)) taken unfailed stays
  have initially : holds endpoint.start := fun _ => start_attended endpoint
  exact Machine.run_invariant_where kept initially met reached reading

end Session

/-- Whatever the peer and the listener do, no PDU is owed or sent two answers, and nothing is sent
    in answer to none. As long as the read loop goes on and no write has failed, each request that
    was taken up is owed or has been sent its one answer. -/
theorem requests_answered_once (endpoint : Endpoint) (events : List Event) (session : Session)
    (reached : run (Session.step endpoint) endpoint.start events = some session) :
    (∀ place, session.due place ≤ 1) ∧
      (∀ place, session.received.length ≤ place → session.due place = 0) ∧
      (.rollback ∉ events → session.reader.position ≠ none → ∀ place pdu,
        session.received[place]? = some pdu → endpoint.Asks pdu → session.due place = 1) := by
  have tended := Session.run_tended reached
  refine ⟨tended.once, tended.fresh, ?_⟩
  intro unfailed reading place pdu found asks
  exact Nat.le_antisymm (tended.once place)
    ((Session.run_attended reached unfailed reading).asked place pdu found asks)

theorem written_enquire_link_resp_is_the_one :
    let endpoint : Endpoint := ⟨.client, .trx, 60, 600⟩
    let pdu := (EnquireLink.new 5).encode
    ∃ session, run (Session.step endpoint) endpoint.start
        [.receive pdu, .extract, .check, .take, .register, .write (.accepted 16)] = some session ∧
      session.sent = [.reaction 0 (EnquireLink.new 5).accept.encode] ∧ session.due 0 = 1 := by
  intro endpoint pdu
  have ran : (run (Session.step endpoint) endpoint.start
      [.receive pdu, .extract, .check, .take, .register, .write (.accepted 16)]).map
        (fun session => (session.sent, session.received, session.reader.position)) =
      some ([.reaction 0 (EnquireLink.new 5).accept.encode], [pdu], some 16) := by
    decide +kernel
  obtain ⟨session, reached, facts⟩ := Option.map_eq_some_iff.mp ran
  simp only [Prod.mk.injEq] at facts
  obtain ⟨sent, received, position⟩ := facts
  refine ⟨session, reached, sent, ?_⟩
  refine (requests_answered_once endpoint _ session reached).2.2 (by simp) ?_ 0 pdu ?_ ?_
  · rw [position]
    exact Option.some_ne_none 16
  · rw [received]
    rfl
  · exact ⟨by decide, by decide⟩

end Smpp34
