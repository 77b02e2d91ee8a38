import Smpp34.Session.Pair

namespace Smpp34

open Octets
open Machine (run Throughout)

/-- The steps by which frames and octets move: those of the read loop and of the writer, as long
    as nothing fails and no timer runs out. -/
def Event.works : Event → Bool
  | receive _ | extract | enqueueReply | enqueueNumber | unbound _ | close | check | take
  | register | write (.accepted _) | rollback => true
  | _ => false

def ReaderStage.ended : ReaderStage → Bool
  | closed | gone => true
  | _ => false

def ReaderStage.isQueueing : ReaderStage → Bool
  | queueing _ _ _ _ => true
  | _ => false

def ReaderStage.isLinking : ReaderStage → Bool
  | linking _ _ _ => true
  | _ => false

namespace Pair

def IsOpen (pair : Pair) : Prop := ∀ side, (pair.ends side).reader.ended = false

def Busy (pair : Pair) : Prop := ∃ side, (pair.ends side).channel ≠ [] ∨ pair.pipe side ≠ []

end Pair

/-- An open session with something to do has a read loop or a writer that can do it. -/
def Pairing.Live (pairing : Pairing) (pair : Pair) : Prop :=
  pair.IsOpen → pair.Busy →
    ∃ side event next, event.works = true ∧ pairing.step pair (side, event) = some next

namespace Session

def wantsRoom (endpoint : Endpoint) (session : Session) : Event → Bool
  | .extract => session.upcoming.any fun (pdu, _) => (session.answer endpoint pdu).isSome
  | .unbound _ => true
  | _ => false

def wantsLink (endpoint : Endpoint) (session : Session) : Event → Bool
  | .extract =>
    session.upcoming.any fun (pdu, _) =>
      match CommandHeader.decode pdu with
      | .ok header =>
        endpoint.branch header pdu = .linkResp && session.ticker ≠ .finished &&
          channelCapacity ≤ session.links.length
      | .error _ => false
  | _ => false

end Session

/-- No read loop comes to wait for room in its channel while the other one waits already, and
    none waits for its ticker. -/
def Pairing.patient (pairing : Pairing) (pair : Pair) (move : Side × Event) : Bool :=
  !((pair.ends move.1).wantsRoom (pairing.endpoint move.1) move.2 &&
      channelCapacity ≤ (pair.ends move.1).channel.length &&
      (pair.ends move.1.other).reader.isQueueing) &&
    !(pair.ends move.1).wantsLink (pairing.endpoint move.1) move.2

namespace Session

variable {endpoint : Endpoint} {session next : Session}

section Frames

theorem ne_nil_of_append {header : CommandHeader} {body : Bytes} : header.encode ++ body ≠ [] :=
  List.append_ne_nil_of_left_ne_nil (List.ne_nil_of_length_eq_add_one rfl) body

theorem Response.encode_ne_nil (resp : Response) : resp.encode ≠ [] := by
  have bare : ∀ header : CommandHeader, header.encode ≠ [] :=
    fun header => List.ne_nil_of_length_eq_add_one rfl
  cases resp with
  | submitSm resp => exact ne_nil_of_append
  | submitSmMulti resp => exact ne_nil_of_append
  | deliverSm resp => exact ne_nil_of_append
  | dataSm resp => exact ne_nil_of_append
  | querySm resp => exact ne_nil_of_append
  | bind kind resp => exact ne_nil_of_append
  | _ => exact bare _

theorem isResponse_ne_nil {frame : Bytes} (response : isResponse frame = true) : frame ≠ [] := by
  rintro rfl
  revert response
  decide

theorem creates_ne_nil {event : Event} {emission : Emission}
    (creates : Creates endpoint session event emission) : emission.frame.pdu ≠ [] := by
  cases creates with
  | @call request pdu sends encoded =>
    cases request with
    | enquireLink request => cases sends
    | bind kind request => cases sends
    | outbind request => cases sends
    | unbind request =>
      cases encoded
      exact List.ne_nil_of_length_eq_add_one rfl
    | _ =>
      cases encoded
      exact ne_nil_of_append
  | tick => exact List.ne_nil_of_length_eq_add_one rfl
  | @respond handler place request resp asked => exact Response.encode_ne_nil resp
  | @unbound place cursor pdu resp asked => exact Response.encode_ne_nil (.unbind resp)
  | answer coming answers =>
    obtain ⟨header, framed⟩ := upcoming_framed coming
    exact isResponse_ne_nil (answer_fits framed answers).1

theorem step_frames {event : Event}
    (frames : ∀ emission ∈ session.outgoing, emission.frame.pdu ≠ [])
    (taken : session.step endpoint event = some next) :
    ∀ emission ∈ next.outgoing, emission.frame.pdu ≠ [] := by
  intro emission member
  rcases step_outgoing taken emission member with old | new
  · exact frames emission old
  · exact creates_ne_nil new

end Frames

structure Awake (session : Session) : Prop where
  alive : session.reader.ended = false → session.alive = true ∧ session.writer ≠ .stopped
  frames : ∀ emission ∈ session.outgoing, emission.frame.pdu ≠ []

theorem start_awake (endpoint : Endpoint) : endpoint.start.Awake where
  alive _ := ⟨rfl, nofun⟩
  frames := by
    simp [outgoing, Endpoint.start, WriterStage.inHand, WriterStage.held, ReaderStage.queued]

theorem step_open {event : Event} (taken : session.step endpoint event = some next)
    (stillOpen : next.reader.ended = false) :
    session.reader.ended = false ∧ next.alive = session.alive ∧
      (next.writer = .stopped → session.writer = .stopped ∨ session.alive = false) := by
  have wasOpen : session.reader.ended = false := by
    cases stage : session.reader with
    | closed =>
      rw [(step_closed stage taken).2] at stillOpen
      cases stillOpen
    | gone =>
      rw [step_gone stage taken] at stillOpen
      cases stillOpen
    | _ => rfl
  have flag : next.alive = session.alive := by
    rcases step_flag taken with same | ⟨-, rfl | rfl⟩
    · exact same
    · cases step_reader rfl taken with
      | closes stage => cases stillOpen
    · cases step_reader rfl taken with
      | stops running client => cases stillOpen
  refine ⟨wasOpen, flag, fun stopped => ?_⟩
  cases step_writer taken with
  | kept elsewhere writer sent registrations => exact .inl (writer.symm.trans stopped)
  | checks stage writer sent registrations =>
    right
    rw [writer] at stopped
    cases alive : session.alive with
    | true =>
      rw [alive] at stopped
      cases stopped
    | false => rfl
  | closes writer reader sent registrations =>
    rw [reader] at stillOpen
    cases stillOpen
  | takes stage queued writer sent registrations =>
    rw [writer] at stopped
    cases stopped
  | _ stage writer =>
    rw [writer] at stopped
    cases stopped

theorem step_awake {event : Event} (awake : session.Awake)
    (taken : session.step endpoint event = some next) : next.Awake := by
  refine ⟨?_, ?_⟩
  · intro stillOpen
    obtain ⟨before, alive, stopped⟩ := step_open taken stillOpen
    obtain ⟨wasAlive, running⟩ := awake.alive before
    refine ⟨alive.trans wasAlive, fun stop => ?_⟩
    rcases stopped stop with stopped | dead
    · exact running stopped
    · rw [wasAlive] at dead
      cases dead
  · exact step_frames awake.frames taken

section Waiting

theorem reply_queueing {place cursor : Nat} {frame : Bytes} {control : Control}
    (waits : (session.reply place frame cursor control).reader.isQueueing = true) :
    channelCapacity ≤ session.channel.length := by
  unfold reply at waits
  split at waits
  · cases waits
  · split at waits
    · cases control <;> cases waits
    · rename_i full
      exact Nat.le_of_not_lt full

theorem settle_queueing {pdu : Bytes} {header : CommandHeader} {settlement : Settlement}
    (framed : CommandHeader.decode pdu = .ok header)
    (branch : endpoint.branch header pdu = .response settlement) {place cursor : Nat}
    (waits : (session.settle endpoint header.sequenceNumber place cursor settlement).reader.isQueueing
      = true) :
    session.reader.isQueueing = true ∨
      (session.answer endpoint pdu).isSome = true ∧ channelCapacity ≤ session.channel.length := by
  unfold settle at waits
  split at waits
  · exact .inl waits
  · rename_i entry found
    dsimp only at waits
    split at waits
    · exact .inl waits
    · rename_i inTime
      cases settlement with
      | deliver resp closes =>
        cases caller : entry.caller <;> cases closes <;> rw [caller] at waits
        · exact .inl waits
        · cases waits
        · exact .inl waits
        · cases waits
      | refuse reply =>
        cases reply with
        | none => exact .inl waits
        | some frame =>
          have full := reply_queueing waits
          refine .inr ⟨?_, full⟩
          rw [answer_refuse framed branch found inTime]
          rfl
      | panic => cases waits

theorem settleLink_reader (session : Session) (pdu : Bytes) (number : UInt32) (cursor : Nat) :
    (session.settleLink endpoint pdu number cursor).reader = .extracting (cursor + pdu.length) := by
  unfold settleLink
  dsimp only
  split
  · rfl
  · split <;> rfl

theorem link_reader (session : Session) (pdu : Bytes) (number : UInt32) (cursor : Nat) :
    (session.link endpoint pdu number cursor).reader = .extracting (cursor + pdu.length) ∨
      (session.link endpoint pdu number cursor).reader = .linking pdu number cursor ∧
        session.ticker ≠ .finished ∧ channelCapacity ≤ session.links.length := by
  unfold link
  split
  · exact .inl (settleLink_reader session pdu number cursor)
  · rename_i ticking
    split
    · exact .inl (settleLink_reader _ pdu number cursor)
    · rename_i full
      exact .inr ⟨rfl, ticking, Nat.le_of_not_lt full⟩

theorem takeUp_waiting {pdu : Bytes} {header : CommandHeader}
    (framed : CommandHeader.decode pdu = .ok header) (cursor : Nat) :
    ((session.takeUp endpoint pdu cursor).reader.isQueueing = true →
      (session.answer endpoint pdu).isSome = true ∧ channelCapacity ≤ session.channel.length) ∧
    ((session.takeUp endpoint pdu cursor).reader.isLinking = true →
      endpoint.branch header pdu = .linkResp ∧ session.ticker ≠ .finished ∧
        channelCapacity ≤ session.links.length) := by
  refine ⟨?_, ?_⟩
  · intro waits
    have answers := answer_eq endpoint session framed
    unfold takeUp at waits
    rw [framed] at waits
    dsimp only at waits
    unfold dispatch at waits
    cases branch : endpoint.branch header pdu with
    | reply frame =>
      rw [branch] at waits answers
      have full := reply_queueing waits
      exact ⟨by rw [answers]; rfl, full⟩
    | unbindReject frame =>
      rw [branch] at waits answers
      have full := reply_queueing waits
      exact ⟨by rw [answers]; rfl, full⟩
    | linkResp =>
      rw [branch] at waits
      dsimp only at waits
      rcases link_reader session pdu header.sequenceNumber cursor with reader | ⟨reader, -⟩
      · rw [reader] at waits
        cases waits
      · rw [reader] at waits
        cases waits
    | response settlement =>
      rw [branch] at waits
      rcases settle_queueing framed branch waits with before | own
      · cases before
      · exact own
    | _ =>
      rw [branch] at waits
      cases waits
  · intro waits
    rcases takeUp_takenUp endpoint session pdu cursor with up | ⟨header', framed', branch, -⟩
    · revert waits
      cases stage : (session.takeUp endpoint pdu cursor).reader with
      | linking pdu number cursor => exact absurd stage (up.linking pdu number cursor)
      | _ => exact nofun
    · rw [framed] at framed'
      cases framed'
      refine ⟨branch, ?_⟩
      unfold takeUp at waits
      rw [framed] at waits
      dsimp only at waits
      unfold dispatch at waits
      rw [branch] at waits
      dsimp only at waits
      rcases link_reader session pdu header.sequenceNumber cursor with reader | ⟨-, full⟩
      · rw [reader] at waits
        cases waits
      · exact full

theorem step_waiting {event : Event} (taken : session.step endpoint event = some next) :
    (next.reader.isQueueing = true → session.reader.isQueueing = true ∨
      session.wantsRoom endpoint event = true ∧ channelCapacity ≤ session.channel.length) ∧
    (next.reader.isLinking = true → session.reader.isLinking = true ∨
      session.wantsLink endpoint event = true) := by
  have same : next.reader = session.reader →
      (next.reader.isQueueing = true → session.reader.isQueueing = true ∨
        session.wantsRoom endpoint event = true ∧ channelCapacity ≤ session.channel.length) ∧
      (next.reader.isLinking = true → session.reader.isLinking = true ∨
        session.wantsLink endpoint event = true) := by
    intro reader
    rw [reader]
    exact ⟨.inl, .inl⟩
  have free : next.reader.isQueueing = false → next.reader.isLinking = false →
      (next.reader.isQueueing = true → session.reader.isQueueing = true ∨
        session.wantsRoom endpoint event = true ∧ channelCapacity ≤ session.channel.length) ∧
      (next.reader.isLinking = true → session.reader.isLinking = true ∨
        session.wantsLink endpoint event = true) := by
    intro moving unlinked
    rw [moving, unlinked]
    exact ⟨fun waits => absurd waits (by decide), fun waits => absurd waits (by decide)⟩
  by_cases reads : event.ofReader = true
  · cases step_reader reads taken with
    | waits stage => exact same rfl
    | finishes stage =>
      apply free
      · unfold finishRead
        dsimp only
        split <;> rfl
      · unfold finishRead
        dsimp only
        split <;> rfl
    | takesUp stage whole =>
      have coming := upcoming_eq stage whole
      obtain ⟨header, framed⟩ := upcoming_framed coming
      obtain ⟨room, linked⟩ := @takeUp_waiting endpoint session _ header framed _
      refine ⟨fun waits => .inr ⟨?_, (room waits).2⟩, fun waits => .inr ?_⟩
      · simp only [wantsRoom, coming, Option.any_some]
        exact (room waits).1
      · obtain ⟨branch, ticking, full⟩ := linked waits
        simp only [wantsLink, coming, Option.any_some, framed, branch]
        simp [ticking, full]
    | queuesReply stage =>
      rename_i control
      cases control <;> exact free rfl rfl
    | queuesNumber stage =>
      apply free
      · rw [settleLink_reader]
        rfl
      · rw [settleLink_reader]
        rfl
    | answers stage =>
      refine ⟨fun waits => .inr ⟨rfl, reply_queueing waits⟩, ?_⟩
      intro waits
      unfold reply at waits
      split at waits
      · cases waits
      · split at waits <;> cases waits
    | _ => exact free rfl rfl
  · exact same (step_elsewhere (Bool.not_eq_true _ ▸ reads) taken).1

end Waiting

end Session

namespace Pairing

variable {pairing : Pairing} {pair next : Pair}

structure Unjammed (pair : Pair) : Prop where
  awake : ∀ side, (pair.ends side).Awake
  linking : ∀ side, (pair.ends side).reader.isLinking = false
  queueing : ∃ side, (pair.ends side).reader.isQueueing = false

theorem start_unjammed (pairing : Pairing) : Unjammed pairing.start where
  awake side := Session.start_awake (pairing.endpoint side)
  linking _ := rfl
  queueing := ⟨.client, rfl⟩

theorem step_unjammed {move : Side × Event} (unjammed : Unjammed pair)
    (patient : pairing.patient pair move = true) (taken : pairing.step pair move = some next) :
    Unjammed next := by
  obtain ⟨side, event⟩ := move
  obtain ⟨session, -, stepped, moved, still, -⟩ := step_eq_some taken
  obtain ⟨queueing, linking⟩ := Session.step_waiting stepped
  simp only [Pairing.patient, Bool.and_eq_true, Bool.not_eq_true'] at patient
  constructor
  · intro any
    rcases Side.eq_or_other side any with here | there
    · rw [here, moved]
      exact Session.step_awake (unjammed.awake side) stepped
    · rw [there, still]
      exact unjammed.awake side.other
  · intro any
    rcases Side.eq_or_other side any with here | there
    · rw [here, moved]
      by_contra waits
      rcases linking (eq_true_of_ne_false waits) with before | wants
      · rw [unjammed.linking side] at before
        cases before
      · rw [wants] at patient
        cases patient.2
    · rw [there, still]
      exact unjammed.linking side.other
  · by_cases other : (pair.ends side.other).reader.isQueueing = false
    · exact ⟨side.other, still ▸ other⟩
    · refine ⟨side, ?_⟩
      rw [moved]
      by_contra waits
      have otherWaits := eq_true_of_ne_false other
      rcases queueing (eq_true_of_ne_false waits) with before | ⟨wants, full⟩
      · obtain ⟨free, clear⟩ := unjammed.queueing
        rcases Side.eq_or_other side free with here | there
        · rw [here, before] at clear
          cases clear
        · rw [there, otherWaits] at clear
          cases clear
      · rw [wants, otherWaits, decide_eq_true full] at patient
        cases patient.1

theorem run_unjammed {moves : List (Side × Event)}
    (patient : Throughout pairing.step (fun pair move => pairing.patient pair move = true)
      pairing.start moves)
    (reached : run pairing.step pairing.start moves = some pair) : Unjammed pair :=
  Machine.run_invariant_where (fun _ _ _ => step_unjammed) (start_unjammed pairing) patient reached

def Stuck (pairing : Pairing) (pair : Pair) : Prop :=
  ∀ side event, event.works = true → pairing.step pair (side, event) = none

theorem Stuck.step_none (stuck : pairing.Stuck pair) (side : Side) (event : Event)
    (works : event.works = true) (allowed : pairing.allows pair side event = true) :
    (pair.ends side).step (pairing.endpoint side) event = none := by
  have blocked := stuck side event works
  unfold step at blocked
  dsimp only at blocked
  rw [if_pos allowed] at blocked
  exact Option.map_eq_none_iff.mp blocked

/-- A read loop that cannot go on has nothing to read, or waits for room. -/
theorem Stuck.reader (stuck : pairing.Stuck pair) (unjammed : Unjammed pair) (side : Side)
    (running : (pair.ends side).reader.ended = false) :
    (pair.ends side).reader.isQueueing = false ∧ pair.pipe side = [] ∨
      (pair.ends side).reader.isQueueing = true ∧
        channelCapacity ≤ (pair.ends side).channel.length := by
  have writer := ((unjammed.awake side).alive running).2
  have linking := unjammed.linking side
  cases stage : (pair.ends side).reader with
  | reading =>
    by_cases empty : pair.pipe side = []
    · exact .inl ⟨rfl, empty⟩
    · have blocked := stuck.step_none side (.receive (pair.pipe side)) rfl
        (List.isPrefixOf_iff_prefix.mpr List.prefix_rfl)
      simp [Session.step, Session.receive, stage, empty] at blocked
  | extracting cursor =>
    have blocked := stuck.step_none side .extract rfl rfl
    simp only [Session.step, Session.extract, stage] at blocked
    split at blocked <;> cases blocked
  | queueing place frame cursor control =>
    refine .inr ⟨rfl, ?_⟩
    by_contra room
    have blocked := stuck.step_none side .enqueueReply rfl rfl
    simp only [Session.step, Session.enqueueReply, stage, if_neg writer,
      if_pos (Nat.lt_of_not_le room)] at blocked
    cases blocked
  | linking pdu number cursor =>
    rw [stage] at linking
    cases linking
  | unbinding place pdu cursor =>
    have blocked := stuck.step_none side (.unbound pdu.accept) rfl rfl
    simp only [Session.step, Session.unbound, stage] at blocked
    cases blocked
  | leaving =>
    have blocked := stuck.step_none side .close rfl rfl
    simp [Session.step, Session.close, stage] at blocked
  | closed =>
    rw [stage] at running
    cases running
  | gone =>
    rw [stage] at running
    cases running

theorem Stuck.writer (stuck : pairing.Stuck pair) (unjammed : Unjammed pair) (side : Side)
    (running : (pair.ends side).reader.ended = false) :
    (pair.ends side).channel = [] ∨ pairing.capacity ≤ (pair.pipe side.other).length := by
  obtain ⟨awake, frames⟩ := unjammed.awake side
  cases stage : (pair.ends side).writer with
  | checking =>
    have blocked := stuck.step_none side .check rfl rfl
    simp [Session.step, Session.check, stage] at blocked
  | receiving =>
    cases queue : (pair.ends side).channel with
    | nil => exact .inl rfl
    | cons emission channel =>
      have blocked := stuck.step_none side .take rfl rfl
      simp only [Session.step, Session.take, stage, queue] at blocked
      cases blocked
  | taken emission =>
    have blocked := stuck.step_none side .register rfl rfl
    simp only [Session.step, Session.register, stage] at blocked
    split at blocked <;> cases blocked
  | registered emission =>
    right
    by_contra room
    have some_octet : emission.frame.pdu ≠ [] := by
      refine frames emission (Session.mem_outgoing.mpr ?_)
      simp [stage, WriterStage.held]
    have permitted : (WriteOutcome.accepted 1).Permitted emission.frame.pdu :=
      ⟨le_rfl, List.length_pos_iff.mpr some_octet⟩
    have blocked := stuck.step_none side (.write (.accepted 1)) rfl
      (decide_eq_true (by omega))
    simp only [Session.step, Session.write, stage, if_pos permitted] at blocked
    cases blocked
  | failed emission =>
    have blocked := stuck.step_none side .rollback rfl rfl
    simp only [Session.step, Session.rollback, stage] at blocked
    split at blocked <;> cases blocked
  | stopped => exact absurd stage (awake running).2

end Pairing

/-- Two ends whose read loops never wait for room at the same time do not come to a standstill. -/
theorem never_stuck (pairing : Pairing) (room : 0 < pairing.capacity)
    (moves : List (Side × Event)) (pair : Pair)
    (reached : run pairing.step pairing.start moves = some pair)
    (patient : Throughout pairing.step (fun pair move => pairing.patient pair move = true)
      pairing.start moves) : pairing.Live pair := by
  have unjammed := Pairing.run_unjammed patient reached
  intro isOpen busy
  by_contra nothing
  have stuck : pairing.Stuck pair := by
    intro side event works
    by_contra enabled
    obtain ⟨next, taken⟩ := Option.ne_none_iff_exists'.mp enabled
    exact nothing ⟨side, event, next, works, taken⟩
  -- the read loop that does not wait has read everything, so the other end's writer is through
  -- with its channel, so that end's read loop does not wait either
  obtain ⟨free, clear⟩ := unjammed.queueing
  have pipe : pair.pipe free = [] := by
    rcases stuck.reader unjammed free (isOpen free) with ⟨-, empty⟩ | ⟨waits, -⟩
    · exact empty
    · rw [clear] at waits
      cases waits
  have channelOther : (pair.ends free.other).channel = [] := by
    rcases stuck.writer unjammed free.other (isOpen free.other) with empty | full
    · exact empty
    · rw [Side.other_other, pipe] at full
      exact absurd room (Nat.not_lt.mpr full)
  have pipeOther : pair.pipe free.other = [] := by
    rcases stuck.reader unjammed free.other (isOpen free.other) with ⟨-, empty⟩ | ⟨-, full⟩
    · exact empty
    · rw [channelOther] at full
      exact absurd full (by decide)
  have channel : (pair.ends free).channel = [] := by
    rcases stuck.writer unjammed free (isOpen free) with empty | full
    · exact empty
    · rw [pipeOther] at full
      exact absurd room (Nat.not_lt.mpr full)
  obtain ⟨side, some_frame | some_octet⟩ := busy
  · cases side <;> cases free <;> first | exact some_frame channel | exact some_frame channelOther
  · cases side <;> cases free <;> first | exact some_octet pipe | exact some_octet pipeOther

theorem queued_enquire_link_moves :
    let pairing : Pairing := ⟨.trx, fun _ => 60, fun _ => 600, 65520⟩
    ∃ pair, run pairing.step pairing.start [(.client, .tick), (.client, .enqueue 0)] = some pair ∧
      pair.IsOpen ∧ pair.Busy ∧ pairing.Live pair := by
  intro pairing
  have ran : (run pairing.step pairing.start [(.client, .tick), (.client, .enqueue 0)]).any
      (fun pair => (pair.ends .client).reader = .reading ∧ (pair.ends .server).reader = .reading ∧
        (pair.ends .client).channel ≠ []) = true := by decide +kernel
  obtain ⟨pair, reached, facts⟩ := (Option.any_eq_true _ _).mp ran
  obtain ⟨client, server, queued⟩ := of_decide_eq_true facts
  refine ⟨pair, reached, ?_, ⟨.client, .inl queued⟩,
    never_stuck pairing (by decide) _ pair reached (by decide +kernel)⟩
  intro side
  cases side with
  | client =>
    rw [client]
    rfl
  | server =>
    rw [server]
    rfl

end Smpp34
