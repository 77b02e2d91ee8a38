import Smpp34.Session.Correlation

namespace Smpp34

open Octets

def ReaderStage.queued : ReaderStage → List Emission
  | queueing place frame _ _ => [.reaction place frame]
  | _ => []

def ReaderStage.owed : ReaderStage → List (Nat × Request)
  | unbinding place pdu _ => [(place, .unbind pdu)]
  | _ => []

def Branch.spawns : Branch → Option Request
  | request pdu => some pdu
  | _ => none

/-- The request that a PDU starts a handler for. -/
def Endpoint.spawns (endpoint : Endpoint) (pdu : Bytes) : Option Request :=
  match CommandHeader.decode pdu with
  | .ok header => (endpoint.branch header pdu).spawns
  | .error _ => none

theorem Endpoint.spawns_iff {endpoint : Endpoint} {pdu : Bytes} {header : CommandHeader}
    (framed : CommandHeader.decode pdu = .ok header) (request : Request) :
    endpoint.spawns pdu = some request ↔ endpoint.branch header pdu = .request request := by
  rw [spawns, framed]
  dsimp only
  cases endpoint.branch header pdu <;> simp [Branch.spawns]

namespace Session

def outgoing (session : Session) : List Emission :=
  session.senders ++ session.channel ++ session.writer.inHand ++ session.writer.held.toList ++
    session.sent ++ session.reader.queued

def owed (session : Session) : List (Nat × Request) := session.handlers ++ session.reader.owed

/-- The frame that the read loop queues itself when it takes up a PDU. -/
def answer (endpoint : Endpoint) (session : Session) (pdu : Bytes) : Option Bytes :=
  match CommandHeader.decode pdu with
  | .error error => some (nack error (potentialSeqNo pdu))
  | .ok header =>
    match endpoint.branch header pdu with
    | .reply frame | .unbindReject frame => some frame
    | .response (.refuse (some frame)) =>
      match session.pendingRequests.lookup header.sequenceNumber with
      | none => none
      | some entry => if lapsed endpoint session entry then none else some frame
    | _ => none

theorem answer_eq (endpoint : Endpoint) (session : Session) {pdu : Bytes} {header : CommandHeader}
    (framed : CommandHeader.decode pdu = .ok header) :
    session.answer endpoint pdu =
      match endpoint.branch header pdu with
      | .reply frame | .unbindReject frame => some frame
      | .response (.refuse (some frame)) =>
        match session.pendingRequests.lookup header.sequenceNumber with
        | none => none
        | some entry => if lapsed endpoint session entry then none else some frame
      | _ => none := by
  unfold answer
  rw [framed]

theorem answer_refuse {endpoint : Endpoint} {session : Session} {pdu frame : Bytes}
    {header : CommandHeader} {entry : Correlation.Entry}
    (framed : CommandHeader.decode pdu = .ok header)
    (branch : endpoint.branch header pdu = .response (.refuse (some frame)))
    (found : session.pendingRequests.lookup header.sequenceNumber = some entry)
    (inTime : ¬ lapsed endpoint session entry = true) :
    session.answer endpoint pdu = some frame := by
  rw [answer_eq endpoint session framed, branch]
  simp only [found]
  exact if_neg inTime

/-- How a frame comes about: a caller or the ticker sends it, a handler or the read loop has the
    listener's response, or the read loop answers by itself. -/
inductive Creates (endpoint : Endpoint) (session : Session) : Event → Emission → Prop
  | call {request : Request} {pdu : Bytes} (sends : endpoint.maySend request = true)
      (encoded : (request.setSequenceNumber session.sequenceNumber).encode = some pdu) :
      Creates endpoint session (.call request)
        ⟨⟨some session.sequenceNumber, pdu,
          if request.awaited then some session.calls.length else none⟩, .call session.calls.length⟩
  | tick : Creates endpoint session .tick
      ⟨⟨some session.sequenceNumber, (EnquireLink.new session.sequenceNumber).encode, none⟩, .link⟩
  | respond {handler place : Nat} {request : Request} {resp : Response}
      (asked : session.handlers[handler]? = some (place, request)) :
      Creates endpoint session (.respond handler resp) (.reaction place resp.encode)
  | unbound {place cursor : Nat} {pdu : Unbind} {resp : UnbindResp}
      (asked : session.reader = .unbinding place pdu cursor) :
      Creates endpoint session (.unbound resp) (.reaction place resp.encode)
  | answer {pdu frame : Bytes} {cursor : Nat} (coming : session.upcoming = some (pdu, cursor))
      (answers : session.answer endpoint pdu = some frame) :
      Creates endpoint session .extract (.reaction session.received.length frame)

section Outgoing

variable {endpoint : Endpoint} {session next : Session}

theorem mem_outgoing {emission : Emission} :
    emission ∈ session.outgoing ↔
      emission ∈ session.senders ∨ emission ∈ session.channel ∨ emission ∈ session.writer.inHand ∨
        emission ∈ session.writer.held.toList ∨ emission ∈ session.sent ∨
        emission ∈ session.reader.queued := by
  simp only [outgoing, List.mem_append, or_assoc]

theorem mem_fewer {emission : Emission} (member : emission ∈ next.outgoing)
    (senders : next.senders ⊆ session.senders) (channel : next.channel = session.channel)
    (writer : next.writer = session.writer) (sent : next.sent = session.sent)
    (queued : next.reader.queued ⊆ session.reader.queued) : emission ∈ session.outgoing := by
  rw [mem_outgoing] at member ⊢
  rw [channel, writer, sent] at member
  have waiting := @senders emission
  have still := @queued emission
  tauto

theorem proceed_outgoing (session : Session) (cursor : Nat) (control : Control) :
    (session.proceed cursor control).outgoing ⊆ session.outgoing := by
  cases control with
  | proceed =>
    intro emission member
    exact mem_fewer member (List.Subset.refl _) rfl rfl rfl (List.nil_subset _)
  | unbound =>
    intro emission member
    exact mem_fewer member (List.Subset.refl _) rfl rfl rfl (List.nil_subset _)
  | writerDead =>
    intro emission member
    exact mem_fewer member (List.filter_subset_self _) rfl rfl rfl (List.nil_subset _)

theorem sendReply_outgoing (session : Session) (place : Nat) (frame : Bytes) (cursor : Nat)
    (control : Control) :
    ∀ emission ∈ (session.sendReply place frame cursor control).outgoing,
      emission ∈ session.outgoing ∨ emission = .reaction place frame := by
  intro emission member
  have queued := proceed_outgoing _ cursor control member
  rw [mem_outgoing] at queued ⊢
  simp only [List.mem_append, List.mem_singleton] at queued
  tauto

theorem reply_outgoing (session : Session) (place : Nat) (frame : Bytes) (cursor : Nat)
    (control : Control) :
    ∀ emission ∈ (session.reply place frame cursor control).outgoing,
      emission ∈ session.outgoing ∨ emission = .reaction place frame := by
  unfold reply
  split
  · intro emission member
    exact .inl (mem_fewer member (List.Subset.refl _) rfl rfl rfl (List.nil_subset _))
  · split
    · exact sendReply_outgoing session place frame cursor control
    · intro emission member
      rw [mem_outgoing] at member ⊢
      simp only [ReaderStage.queued, List.mem_singleton] at member
      tauto

theorem settle_outgoing {pdu : Bytes} {header : CommandHeader} {settlement : Settlement}
    (framed : CommandHeader.decode pdu = .ok header)
    (branch : endpoint.branch header pdu = .response settlement) (place cursor : Nat) :
    ∀ emission ∈ (session.settle endpoint header.sequenceNumber place cursor settlement).outgoing,
      emission ∈ session.outgoing ∨
        ∃ frame, session.answer endpoint pdu = some frame ∧ emission = .reaction place frame := by
  intro emission
  unfold settle
  split
  · exact .inl
  · rename_i entry found
    dsimp only
    split
    · exact .inl
    · rename_i inTime
      cases settlement with
      | deliver resp closes =>
        intro member
        left
        revert member
        cases entry.caller <;> cases closes
        · exact id
        · exact fun member =>
            mem_fewer member (List.Subset.refl _) rfl rfl rfl (List.nil_subset _)
        · exact id
        · exact fun member =>
            mem_fewer member (List.Subset.refl _) rfl rfl rfl (List.nil_subset _)
      | refuse reply =>
        cases reply with
        | none => exact .inl
        | some frame =>
          have own := answer_refuse framed branch found inTime
          intro member
          rcases reply_outgoing _ place frame cursor .proceed emission member with old | new
          · exact .inl old
          · exact .inr ⟨frame, own, new⟩
      | panic =>
        intro member
        exact .inl (mem_fewer member (List.Subset.refl _) rfl rfl rfl (List.nil_subset _))

theorem settleLink_outgoing (session : Session) (pdu : Bytes) (number : UInt32) (cursor : Nat) :
    (session.settleLink endpoint pdu number cursor).outgoing ⊆ session.outgoing := by
  intro emission member
  unfold settleLink at member
  dsimp only at member
  split at member
  · exact mem_fewer member (List.Subset.refl _) rfl rfl rfl (List.nil_subset _)
  · split at member <;>
      exact mem_fewer member (List.Subset.refl _) rfl rfl rfl (List.nil_subset _)

theorem link_outgoing (endpoint : Endpoint) (session : Session) (pdu : Bytes) (number : UInt32)
    (cursor : Nat) : (session.link endpoint pdu number cursor).outgoing ⊆ session.outgoing := by
  have same : { session with links := session.links ++ [number] }.outgoing = session.outgoing := rfl
  unfold link
  split
  · exact settleLink_outgoing session pdu number cursor
  · split
    · rw [← same]
      exact settleLink_outgoing _ pdu number cursor
    · exact fun _ member =>
        mem_fewer member (List.Subset.refl _) rfl rfl rfl (List.nil_subset _)

theorem takeUp_outgoing (endpoint : Endpoint) (session : Session) (pdu : Bytes) (cursor : Nat) :
    ∀ emission ∈ (session.takeUp endpoint pdu cursor).outgoing,
      emission ∈ session.outgoing ∨
        ∃ frame, session.answer endpoint pdu = some frame ∧
          emission = .reaction session.received.length frame := by
  intro emission member
  have heard : ∀ {reader : ReaderStage}, reader.queued = [] →
      { session with received := session.received ++ [pdu], reader := reader }.outgoing ⊆
        session.outgoing := fun none =>
    fun _ member => mem_fewer member (List.Subset.refl _) rfl rfl rfl (none ▸ List.nil_subset _)
  unfold takeUp at member
  split at member
  · rename_i header framed
    have answers := answer_eq endpoint session framed
    unfold dispatch at member
    cases branch : endpoint.branch header pdu with
    | request request =>
      rw [branch] at member
      exact .inl (heard rfl member)
    | alert alert =>
      rw [branch] at member
      exact .inl (heard rfl member)
    | reply frame =>
      rw [branch] at member answers
      rcases reply_outgoing _ _ frame _ .proceed emission member with old | new
      · exact .inl (heard rfl old)
      · exact .inr ⟨frame, answers, new⟩
    | unbind unbind =>
      rw [branch] at member
      exact .inl (mem_fewer member (List.filter_subset_self _) rfl rfl rfl (List.nil_subset _))
    | unbindReject frame =>
      rw [branch] at member answers
      rcases reply_outgoing _ _ frame _ .unbound emission member with old | new
      · exact .inl (mem_fewer old (List.filter_subset_self _) rfl rfl rfl (List.nil_subset _))
      · exact .inr ⟨frame, answers, new⟩
    | linkResp =>
      rw [branch] at member
      exact .inl (link_outgoing endpoint session pdu header.sequenceNumber cursor member)
    | response settlement =>
      rw [branch] at member
      rcases settle_outgoing framed branch _ _ emission member with old | new
      · exact .inl (heard rfl old)
      · exact .inr new
    | panic =>
      rw [branch] at member
      exact .inl (heard rfl member)
  · rename_i error unframed
    rcases reply_outgoing _ _ _ _ .writerDead emission member with old | new
    · exact .inl (mem_fewer old (List.Subset.refl _) rfl rfl rfl (List.Subset.refl _))
    · refine .inr ⟨_, ?_, new⟩
      unfold answer
      rw [unframed]

theorem upcoming_eq {cursor size : Nat} (stage : session.reader = .extracting cursor)
    (whole : nextPdu session.buffer cursor = .complete size) :
    session.upcoming = some ((session.buffer.drop cursor).take size, cursor) := by
  simp only [upcoming, stage, whole]

theorem enqueue_outgoing {sender : Nat} (taken : session.enqueue sender = some next) :
    next.outgoing ⊆ session.outgoing := by
  intro emission member
  obtain ⟨other, calls, ticker, found, rfl, -⟩ := enqueue_some taken
  rw [mem_outgoing] at member
  simp only [List.mem_append, List.mem_singleton] at member
  have kept : emission ∈ session.senders.eraseIdx sender → emission ∈ session.senders :=
    List.mem_of_mem_eraseIdx
  have present := List.mem_of_getElem? found
  rw [mem_outgoing]
  by_cases new : emission = other
  · exact .inl (new ▸ present)
  · tauto

theorem writer_outgoing {event : Event} (writes : event.ofWriter = true)
    (taken : session.step endpoint event = some next) : next.outgoing ⊆ session.outgoing := by
  intro emission member
  rw [mem_outgoing] at member ⊢
  cases event with
  | check =>
    simp only [step, check] at taken
    split at taken
    · rename_i stage
      cases taken
      cases alive : session.alive <;>
        simpa [alive, stage, WriterStage.inHand, WriterStage.held] using member
    · cases taken
  | take =>
    simp only [step, take] at taken
    split at taken
    · rename_i first channel stage queue
      cases taken
      simp only [queue, stage, WriterStage.inHand, WriterStage.held, List.mem_cons,
        List.not_mem_nil, Option.toList_none] at member ⊢
      tauto
    · cases taken
  | register =>
    simp only [step, register] at taken
    split at taken
    · rename_i first stage
      split at taken
      all_goals
        cases taken
        simp only [stage, WriterStage.inHand, WriterStage.held, List.not_mem_nil,
          Option.toList_none, Option.toList_some] at member ⊢
        tauto
    · cases taken
  | write outcome =>
    simp only [step, write] at taken
    split at taken
    · rename_i first stage
      repeat' split at taken
      all_goals cases taken
      all_goals
        simp only [stage, WriterStage.inHand, WriterStage.held, List.not_mem_nil, List.mem_append,
          Option.toList_none, Option.toList_some] at member ⊢
        tauto
    · cases taken
  | rollback =>
    simp only [step, rollback] at taken
    repeat' split at taken
    all_goals cases taken
    all_goals
      simp only [WriterStage.inHand, WriterStage.held, List.not_mem_nil, Option.toList_none]
        at member
      tauto
  | _ => cases writes

theorem reader_outgoing {event : Event} (reads : event.ofReader = true)
    (taken : session.step endpoint event = some next) :
    ∀ emission ∈ next.outgoing,
      emission ∈ session.outgoing ∨ Creates endpoint session event emission := by
  intro emission member
  have same : ∀ {next : Session}, emission ∈ next.outgoing → next.senders = session.senders →
      next.channel = session.channel → next.writer = session.writer → next.sent = session.sent →
      next.reader.queued ⊆ session.reader.queued →
      emission ∈ session.outgoing ∨ Creates endpoint session event emission :=
    fun member senders channel writer sent reader =>
      .inl (mem_fewer member (senders ▸ List.Subset.refl _) channel writer sent reader)
  cases step_reader reads taken with
  | waits stage => exact .inl member
  | finishes stage =>
    refine same member rfl rfl rfl rfl ?_
    unfold finishRead
    dsimp only
    split <;> exact List.nil_subset _
  | takesUp stage whole =>
    rcases takeUp_outgoing endpoint session _ _ emission member with old | ⟨frame, answers, rfl⟩
    · exact .inl old
    · exact .inr (.answer (upcoming_eq stage whole) answers)
  | @queuesReply place frame cursor control stage =>
    left
    rcases sendReply_outgoing session place frame cursor control emission member with old | rfl
    · exact old
    · rw [mem_outgoing, stage]
      simp [ReaderStage.queued]
  | queuesNumber stage =>
    have fewer := settleLink_outgoing _ _ _ _ member
    exact .inl fewer
  | @answers place pdu cursor resp stage =>
    rcases reply_outgoing session place _ cursor .unbound emission member with old | rfl
    · exact .inl old
    · exact .inr (.unbound stage)
  | closes stage =>
    left
    rw [mem_outgoing] at member ⊢
    simp only [abortTicker, WriterStage.inHand, WriterStage.held, ReaderStage.queued,
      List.mem_filter, List.not_mem_nil, Option.toList_none] at member
    tauto
  | _ stage => exact same member rfl rfl rfl rfl (List.nil_subset _)

theorem step_outgoing {event : Event} (taken : session.step endpoint event = some next) :
    ∀ emission ∈ next.outgoing,
      emission ∈ session.outgoing ∨ Creates endpoint session event emission := by
  by_cases reads : event.ofReader = true
  · exact reader_outgoing reads taken
  by_cases writes : event.ofWriter = true
  · exact fun emission member => .inl (writer_outgoing writes taken member)
  intro emission member
  have added : ∀ {new : Emission}, Creates endpoint session event new →
      next.outgoing = { session with senders := session.senders ++ [new] }.outgoing →
      emission ∈ session.outgoing ∨ Creates endpoint session event emission := by
    intro new creates grown
    rw [grown, mem_outgoing] at member
    rw [mem_outgoing]
    simp only [List.mem_append, List.mem_singleton] at member
    rcases member with (old | rfl) | old
    · exact .inl (.inl old)
    · exact .inr creates
    · exact .inl (.inr old)
  cases event with
  | advance duration =>
    cases taken
    exact .inl member
  | call request =>
    obtain ⟨sends, pdu, encoded, rfl⟩ := call_some taken
    exact added (.call sends encoded) rfl
  | enqueue sender => exact .inl (enqueue_outgoing taken member)
  | tick =>
    simp only [step, tick] at taken
    repeat' split at taken
    all_goals cases taken
    · exact added .tick rfl
    · exact .inl member
  | respond handler resp =>
    simp only [step, respond] at taken
    split at taken
    · rename_i place request found
      split at taken
      · cases taken
        exact added (.respond found) rfl
      · cases taken
    · cases taken
  | resolve | expire | disconnect | linkArrives | linkExpires | linkFails =>
    simp only [step, resolve, expire, disconnect, linkArrives, linkExpires, linkFails] at taken
    repeat' split at taken
    all_goals cases taken
    all_goals exact .inl member
  | check | take | register | write | rollback => exact absurd rfl writes
  | _ => exact absurd rfl reads

end Outgoing

def HandsOver (endpoint : Endpoint) (session : Session) (debt : Nat × Request) : Prop :=
  ∃ pdu cursor header, session.upcoming = some (pdu, cursor) ∧
    CommandHeader.decode pdu = .ok header ∧ debt.1 = session.received.length ∧
    (endpoint.branch header pdu = .request debt.2 ∨
      ∃ unbind, endpoint.branch header pdu = .unbind unbind ∧ debt.2 = .unbind unbind)

section Owed

variable {endpoint : Endpoint} {session next : Session}

theorem mem_owed {debt : Nat × Request} :
    debt ∈ session.owed ↔ debt ∈ session.handlers ∨ debt ∈ session.reader.owed :=
  List.mem_append

theorem reply_owed {debt : Nat × Request} {place cursor : Nat} {frame : Bytes} {control : Control}
    (member : debt ∈ (session.reply place frame cursor control).owed) :
    debt ∈ session.handlers := by
  obtain ⟨senders, channel, ticker, reader, same, -, stands⟩ :=
    reply_eq session place frame cursor control
  rw [same, mem_owed] at member
  rcases member with handled | read
  · exact handled
  · rcases stands with ⟨rfl, -⟩ | rfl | rfl <;> cases read

theorem settle_owed {debt : Nat × Request} {number : UInt32} {place cursor : Nat}
    {settlement : Settlement}
    (member : debt ∈ (session.settle endpoint number place cursor settlement).owed) :
    debt ∈ session.owed := by
  unfold settle at member
  split at member
  · exact member
  · rename_i entry found
    dsimp only at member
    split at member
    · exact member
    · rw [mem_owed]
      cases settlement with
      | deliver resp closes =>
        cases caller : entry.caller <;> cases closes <;>
          simp only [caller, deliver, complete, mem_owed, ReaderStage.owed, List.not_mem_nil,
            if_true, if_false, Bool.false_eq_true, or_false] at member
        · exact member
        · exact .inl member
        · exact member
        · exact .inl member
      | refuse reply =>
        cases reply with
        | none => exact mem_owed.mp member
        | some frame =>
          have old := reply_owed member
          exact .inl old
      | panic =>
        rcases mem_owed.mp member with handled | read
        · exact .inl handled
        · cases read

theorem settleLink_owed {debt : Nat × Request} {pdu : Bytes} {number : UInt32} {cursor : Nat}
    (member : debt ∈ (session.settleLink endpoint pdu number cursor).owed) :
    debt ∈ session.handlers := by
  unfold settleLink at member
  dsimp only at member
  split at member
  · simpa [owed, ReaderStage.owed] using member
  · split at member <;> simpa [owed, complete, ReaderStage.owed] using member

theorem takeUp_owed {pdu : Bytes} {header : CommandHeader}
    (framed : CommandHeader.decode pdu = .ok header) {cursor : Nat} {debt : Nat × Request}
    (member : debt ∈ (session.takeUp endpoint pdu cursor).owed) :
    debt ∈ session.owed ∨ debt.1 = session.received.length ∧
      (endpoint.branch header pdu = .request debt.2 ∨
        ∃ unbind, endpoint.branch header pdu = .unbind unbind ∧ debt.2 = .unbind unbind) := by
  have handled : debt ∈ session.handlers → debt ∈ session.owed := List.mem_append_left _
  unfold takeUp at member
  rw [framed] at member
  dsimp only at member
  unfold dispatch at member
  cases branch : endpoint.branch header pdu with
  | request request =>
    simp only [branch, owed, ReaderStage.owed, List.append_nil, List.mem_append,
      List.mem_singleton] at member
    rcases member with old | rfl
    · exact .inl (handled old)
    · exact .inr ⟨rfl, .inl rfl⟩
  | unbind unbind =>
    simp only [branch, owed, abortTicker, ReaderStage.owed, List.mem_append,
      List.mem_singleton] at member
    rcases member with old | rfl
    · exact .inl (handled old)
    · exact .inr ⟨rfl, .inr ⟨unbind, rfl, rfl⟩⟩
  | alert alert =>
    simp only [branch, owed, ReaderStage.owed, List.append_nil] at member
    exact .inl (handled member)
  | reply frame =>
    rw [branch] at member
    have old := reply_owed member
    exact .inl (handled old)
  | unbindReject frame =>
    rw [branch] at member
    have old := reply_owed member
    exact .inl (handled old)
  | linkResp =>
    rw [branch] at member
    dsimp only at member
    unfold link at member
    split at member
    · exact .inl (handled (settleLink_owed member))
    · split at member
      · have old := settleLink_owed member
        exact .inl (handled old)
      · simp only [owed, ReaderStage.owed, List.append_nil] at member
        exact .inl (handled member)
  | response settlement =>
    rw [branch] at member
    have old := settle_owed member
    simp only [owed, ReaderStage.owed, List.append_nil] at old
    exact .inl (handled old)
  | panic =>
    simp only [branch, owed, ReaderStage.owed, List.append_nil] at member
    exact .inl (handled member)

theorem reply_handlers (session : Session) (place : Nat) (frame : Bytes) (cursor : Nat)
    (control : Control) :
    (session.reply place frame cursor control).handlers = session.handlers := by
  obtain ⟨senders, channel, ticker, reader, same, -⟩ := reply_eq session place frame cursor control
  rw [same]

theorem settle_handlers (session : Session) (number : UInt32) (place cursor : Nat)
    (settlement : Settlement) :
    (session.settle endpoint number place cursor settlement).handlers = session.handlers := by
  unfold settle
  split
  · rfl
  · rename_i entry found
    dsimp only
    split
    · rfl
    · cases settlement with
      | deliver resp closes => cases entry.caller <;> cases closes <;> rfl
      | refuse reply =>
        cases reply with
        | none => rfl
        | some frame => exact reply_handlers _ place frame cursor .proceed
      | panic => rfl

theorem link_handlers (session : Session) (pdu : Bytes) (number : UInt32) (cursor : Nat) :
    (session.link endpoint pdu number cursor).handlers = session.handlers := by
  unfold link settleLink
  dsimp only
  repeat' split
  all_goals rfl

theorem takeUp_handlers (endpoint : Endpoint) (session : Session) (pdu : Bytes) (cursor : Nat) :
    (session.takeUp endpoint pdu cursor).handlers =
      session.handlers ++ (endpoint.spawns pdu).toList.map (Prod.mk session.received.length) := by
  unfold takeUp Endpoint.spawns
  cases framed : CommandHeader.decode pdu with
  | ok header =>
    dsimp only
    unfold dispatch
    cases endpoint.branch header pdu with
    | request request => rfl
    | reply frame => simp [Branch.spawns, reply_handlers]
    | unbindReject frame => simp [Branch.spawns, reply_handlers, abortTicker]
    | linkResp => simp [Branch.spawns, link_handlers]
    | response settlement => simp [Branch.spawns, settle_handlers]
    | _ => exact (List.append_nil _).symm
  | error error => simp [reply_handlers]

theorem reader_handlers {event : Event} (moves : ReaderMoves endpoint session event next) :
    next.handlers = session.handlers ∨
      ∃ pdu cursor, event = .extract ∧ next = session.takeUp endpoint pdu cursor := by
  cases moves with
  | takesUp stage whole => exact .inr ⟨_, _, rfl, rfl⟩
  | @queuesReply place frame cursor control stage =>
    left
    cases control <;> rfl
  | @queuesNumber pdu number cursor links stage =>
    left
    unfold settleLink
    dsimp only
    repeat' split
    all_goals rfl
  | answers stage => exact .inl (reply_handlers _ _ _ _ _)
  | _ stage => exact .inl rfl

theorem step_handlers {event : Event} (elsewhere : event.ofReader = false)
    (taken : session.step endpoint event = some next) :
    next.handlers.Sublist session.handlers := by
  cases event with
  | advance duration =>
    cases taken
    exact List.Sublist.refl _
  | call request =>
    obtain ⟨-, pdu, -, rfl⟩ := call_some taken
    exact List.Sublist.refl _
  | enqueue sender =>
    obtain ⟨emission, calls, ticker, found, rfl, -⟩ := enqueue_some taken
    exact List.Sublist.refl _
  | respond handler resp =>
    simp only [step, respond] at taken
    repeat' split at taken
    all_goals cases taken
    exact List.eraseIdx_sublist _ _
  | receive | hangUp | idle | extract | enqueueReply | enqueueNumber | unbound | close | stop =>
    cases elsewhere
  | _ =>
    simp only [step, resolve, expire, disconnect, tick, linkArrives, linkExpires, linkFails, check,
      take, register, write, rollback] at taken
    repeat' split at taken
    all_goals cases taken
    all_goals exact List.Sublist.refl _

theorem step_owed {event : Event} (taken : session.step endpoint event = some next) :
    ∀ debt ∈ next.owed,
      debt ∈ session.owed ∨ event = .extract ∧ session.HandsOver endpoint debt := by
  intro debt member
  have handled : debt ∈ session.handlers → debt ∈ session.owed := List.mem_append_left _
  have ended : ∀ next : Session, debt ∈ next.owed → next.handlers ⊆ session.handlers →
      next.reader.owed ⊆ session.reader.owed → debt ∈ session.owed := by
    intro next member handlers reader
    rcases mem_owed.mp member with handled | read
    · exact mem_owed.mpr (.inl (handlers handled))
    · exact mem_owed.mpr (.inr (reader read))
  by_cases reads : event.ofReader = true
  · cases step_reader reads taken with
    | finishes stage =>
      refine .inl (ended _ member (List.Subset.refl _) ?_)
      unfold finishRead
      dsimp only
      split <;> exact List.nil_subset _
    | takesUp stage whole =>
      have coming := upcoming_eq stage whole
      rw [nextPdu_eq] at whole
      obtain ⟨header, framed⟩ := decode_framed whole
      rcases takeUp_owed framed member with old | ⟨place, handed⟩
      · exact .inl old
      · exact .inr ⟨rfl, _, _, header, coming, framed, place, handed⟩
    | queuesReply stage =>
      rename_i control
      left
      cases control <;> exact ended _ member (List.Subset.refl _) (List.nil_subset _)
    | queuesNumber stage =>
      have old := settleLink_owed member
      exact .inl (handled old)
    | answers stage => exact .inl (handled (reply_owed member))
    | waits stage => exact .inl member
    | _ => exact .inl (ended _ member (List.Subset.refl _) (List.nil_subset _))
  · have elsewhere : event.ofReader = false := Bool.not_eq_true _ ▸ reads
    have reader := congrArg ReaderStage.owed (step_elsewhere elsewhere taken).1
    exact .inl (ended next member (step_handlers elsewhere taken).subset (reader ▸ List.Subset.refl _))

end Owed

end Session

end Smpp34
