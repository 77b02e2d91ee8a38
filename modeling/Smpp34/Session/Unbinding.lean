import Smpp34.Session.Numbers
import Smpp34.Session.Progress

namespace Smpp34

open Octets
open Machine (run Throughout run_cons_iff throughout_append)

def isUnbind (received : List Bytes) (place : Nat) : Bool :=
  received[place]?.any fun pdu => beU32At pdu 4 = CommandId.unbind.value

theorem isUnbind_mono {received later : List Bytes} {place : Nat}
    (unbind : isUnbind received place = true) (grown : received <+: later) :
    isUnbind later place = true := by
  unfold isUnbind at unbind ⊢
  obtain ⟨pdu, found, id⟩ := (Option.any_eq_true _ _).mp unbind
  rw [found_later grown found]
  exact id

def Emission.answersUnbind (received : List Bytes) (emission : Emission) : Bool :=
  match emission.origin with
  | .reaction place => isUnbind received place
  | _ => false

section Branches

variable {endpoint : Endpoint} {header : CommandHeader} {pdu : Bytes}

def Branch.unbinds : Branch → Bool
  | unbind _ | unbindReject _ | request (.unbind _) => true
  | _ => false

theorem dispatched_unbinds {α : Type} {decoded : Decoded α} {onOk : α → Branch}
    {onError : SmppError → Bytes} (handled : ∀ value, (onOk value).unbinds = false) :
    (dispatched decoded onOk onError).unbinds = false := by
  refine dispatched_cases ?_ ?_ ?_
  · exact fun value _ => handled value
  · exact fun _ _ => rfl
  · exact fun _ => rfl

theorem settled_unbinds {α : Type} {decoded : Decoded α} {onOk : α → Response} {closes : Bool}
    {onError : SmppError → Option Bytes} :
    (settled decoded onOk closes onError).unbinds = false := by
  refine settled_cases ?_ ?_ ?_
  · exact fun _ _ => rfl
  · exact fun _ _ => rfl
  · exact fun _ => rfl

theorem branch_unbinds (unbinds : (endpoint.branch header pdu).unbinds = true) :
    header.commandId = CommandId.unbind.value := by
  have never {branch : Branch} (other : branch.unbinds = false) :
      branch.unbinds = true → header.commandId = CommandId.unbind.value := by
    rw [other]
    intro impossible
    cases impossible
  revert unbinds
  unfold Endpoint.branch
  cases endpoint.side with
  | server =>
    have chain := serverBranch_chain endpoint.bound header pdu
    change (serverBranch endpoint.bound header pdu).unbinds = true → _
    generalize serverBranch endpoint.bound header pdu = branch at chain
    cases chain with
    | unbind same => exact fun _ => same
    | enquireLinkResp | unsupported => exact never rfl
    | deliverSmResp | dataSmResp | genericNack => exact never settled_unbinds
    | _ => exact never (dispatched_unbinds fun _ => rfl)
  | client =>
    have chain := clientBranch_chain endpoint.bound header pdu
    change (clientBranch endpoint.bound header pdu).unbinds = true → _
    generalize clientBranch endpoint.bound header pdu = branch at chain
    cases chain with
    | unbind same => exact fun _ => same
    | enquireLinkResp | unsupported => exact never rfl
    | deliverSm | dataSm | alertNotification | enquireLink =>
      exact never (dispatched_unbinds fun _ => rfl)
    | _ => exact never settled_unbinds

end Branches

namespace Session

/-- The step in which the read loop has the response to an unbind: the listener gave it, or the
    PDU was an unbind that does not decode. -/
inductive Obtains (endpoint : Endpoint) (session : Session) : Event → Emission → Prop
  | listener {place cursor : Nat} {pdu : Unbind} {resp : UnbindResp}
      (asked : session.reader = .unbinding place pdu cursor) :
      Obtains endpoint session (.unbound resp) (.reaction place resp.encode)
  | reject {pdu frame : Bytes} {cursor : Nat} {header : CommandHeader}
      (coming : session.upcoming = some (pdu, cursor))
      (framed : CommandHeader.decode pdu = .ok header)
      (branch : endpoint.branch header pdu = .unbindReject frame) :
      Obtains endpoint session .extract (.reaction session.received.length frame)

def InTransit (session : Session) (emission : Emission) : Prop :=
  emission ∈ session.channel ∨ session.writer = .taken emission ∨
    session.writer = .registered emission

/-- The writer is given the time for the response to an unbind: the session is closed only when
    none is on its way, and the socket takes the whole of it. -/
def unhurried (session : Session) : Event → Bool
  | .close =>
    (session.channel ++ session.writer.inHand ++ session.writer.held.toList).all fun emission =>
      !emission.answersUnbind session.received
  | .write (.accepted count) =>
    session.writer.held.all fun emission =>
      !emission.answersUnbind session.received || count = emission.frame.pdu.length
  | _ => true

section Unbinding

variable {endpoint : Endpoint} {session next : Session}

def UnbindsTaken (session : Session) : Prop :=
  ∀ debt ∈ session.owed, ∀ unbind, debt.2 = .unbind unbind →
    isUnbind session.received debt.1 = true

theorem start_unbindsTaken (endpoint : Endpoint) : endpoint.start.UnbindsTaken := by
  simp [UnbindsTaken, owed, Endpoint.start, ReaderStage.owed]

theorem isUnbind_taken {pdu : Bytes} {header : CommandHeader}
    (framed : CommandHeader.decode pdu = .ok header)
    (unbinds : (endpoint.branch header pdu).unbinds = true) :
    isUnbind (session.received ++ [pdu]) session.received.length = true := by
  have id := branch_unbinds unbinds
  rw [(CommandHeader.decode_ok_eq framed).1] at id
  simpa [isUnbind] using id

theorem step_unbindsTaken {event : Event} (known : session.UnbindsTaken)
    (taken : session.step endpoint event = some next) : next.UnbindsTaken := by
  intro debt member unbind same
  have grown := (step_consumes taken).grows
  rcases step_owed taken debt member with
    old | ⟨rfl, pdu, cursor, header, coming, framed, place, handed⟩
  · exact isUnbind_mono (known debt old unbind same) grown
  · have unbinds : (endpoint.branch header pdu).unbinds = true := by
      rcases handed with request | ⟨unbind, branch, -⟩
      · rw [request, same]
        rfl
      · rw [branch]
        rfl
    have other : endpoint.branch header pdu ≠ .linkResp := by
      intro link
      rw [link] at unbinds
      cases unbinds
    rw [extract_received coming framed other taken, place]
    exact isUnbind_taken framed unbinds

structure Owing (session : Session) (place : Nat) (frame : Bytes) : Prop where
  unbind : isUnbind session.received place = true
  waits : (∃ cursor, session.reader = .queueing place frame cursor .unbound) ∨
    session.reader = .leaving ∧ session.InTransit (.reaction place frame)

theorem reply_owing {place : Nat} {frame : Bytes} {cursor : Nat}
    (unbind : isUnbind session.received place = true) (running : session.writer ≠ .stopped) :
    (session.reply place frame cursor .unbound).Owing place frame := by
  unfold reply
  rw [if_neg running]
  split
  · exact ⟨unbind, .inr ⟨rfl, .inl (List.mem_append_right _ (List.mem_singleton_self _))⟩⟩
  · exact ⟨unbind, .inl ⟨cursor, rfl⟩⟩

theorem upcoming_reader {pdu : Bytes} {cursor : Nat}
    (coming : session.upcoming = some (pdu, cursor)) : session.reader = .extracting cursor := by
  unfold upcoming at coming
  split at coming
  · split at coming
    · cases coming
      assumption
    · cases coming
  · cases coming

theorem obtains_owing {event : Event} {emission : Emission} (known : session.UnbindsTaken)
    (awake : session.Awake) (obtains : Obtains endpoint session event emission)
    (taken : session.step endpoint event = some next) :
    ∃ place frame, emission = .reaction place frame ∧ next.Owing place frame := by
  cases obtains with
  | @listener place cursor pdu resp stage =>
    refine ⟨place, resp.encode, rfl, ?_⟩
    have owed : (place, Request.unbind pdu) ∈ session.owed := by
      rw [mem_owed, stage]
      exact .inr (List.mem_singleton_self _)
    have running := (awake.alive (by rw [stage]; rfl)).2
    simp only [step, unbound, stage] at taken
    cases taken
    exact reply_owing (known _ owed pdu rfl) running
  | @reject pdu frame cursor header coming framed branch =>
    refine ⟨session.received.length, frame, rfl, ?_⟩
    have stage := upcoming_reader coming
    have running := (awake.alive (by rw [stage]; rfl)).2
    have unbind := @isUnbind_taken endpoint session pdu header framed (by rw [branch]; rfl)
    rw [extract_upcoming coming] at taken
    cases taken
    unfold takeUp
    rw [framed]
    dsimp only
    unfold dispatch
    rw [branch]
    exact reply_owing unbind running

theorem InTransit.queued {emission : Emission} (transit : session.InTransit emission)
    (untaken : session.writer ≠ .taken emission)
    (unregistered : session.writer ≠ .registered emission) : emission ∈ session.channel := by
  rcases transit with queued | hand | held
  · exact queued
  · exact absurd hand untaken
  · exact absurd held unregistered

theorem step_inTransit {event : Event} {emission : Emission}
    (elsewhere : event.ofReader = false) (taken : session.step endpoint event = some next)
    (transit : session.InTransit emission) :
    next.InTransit emission ∨
      ∃ outcome, event = .write outcome ∧ session.writer = .registered emission := by
  cases event with
  | enqueue sender =>
    left
    obtain ⟨other, calls, ticker, found, rfl, -⟩ := enqueue_some taken
    exact transit.imp_left (List.mem_append_left _)
  | check =>
    left
    simp only [step, check] at taken
    split at taken
    · rename_i stage
      have queued := transit.queued (by simp [stage]) (by simp [stage])
      cases taken
      exact .inl queued
    · cases taken
  | take =>
    left
    simp only [step, take] at taken
    split at taken
    · rename_i first channel stage queue
      have queued := transit.queued (by simp [stage]) (by simp [stage])
      rw [queue] at queued
      cases taken
      rcases List.mem_cons.mp queued with rfl | later
      · exact .inr (.inl rfl)
      · exact .inl later
    · cases taken
  | register =>
    left
    simp only [step, register] at taken
    split at taken
    · rename_i first stage
      have moved : emission ∈ session.channel ∨ first = emission := by
        rcases transit with queued | hand | held
        · exact .inl queued
        · rw [stage] at hand
          cases hand
          exact .inr rfl
        · rw [stage] at held
          cases held
      split at taken
      all_goals
        cases taken
        rcases moved with queued | rfl
        · exact .inl queued
        · exact .inr (.inr rfl)
    · cases taken
  | write outcome =>
    simp only [step, write] at taken
    split at taken
    · rename_i first stage
      rcases transit with queued | hand | held
      · left
        repeat' split at taken
        all_goals cases taken
        all_goals exact .inl queued
      · rw [stage] at hand
        cases hand
      · exact .inr ⟨outcome, rfl, held⟩
    · cases taken
  | rollback =>
    left
    simp only [step, rollback] at taken
    split at taken
    · rename_i first stage
      have queued := transit.queued (by simp [stage]) (by simp [stage])
      split at taken
      all_goals
        cases taken
        exact .inl queued
    · cases taken
  | call request =>
    left
    obtain ⟨-, pdu, -, rfl⟩ := call_some taken
    exact transit
  | receive | hangUp | idle | extract | enqueueReply | enqueueNumber | unbound | close | stop =>
    cases elsewhere
  | _ =>
    left
    simp only [step, resolve, expire, disconnect, tick, linkArrives, linkExpires, linkFails,
      respond] at taken
    repeat' split at taken
    all_goals cases taken
    all_goals exact transit

/-- An obtained response stays on its way until it is written, unless the task is aborted. -/
theorem step_owing {event : Event} {place : Nat} {frame : Bytes}
    (owing : session.Owing place frame) (awake : session.Awake)
    (succeeds : event ≠ .write .failed) (steady : session.unhurried event = true)
    (taken : session.step endpoint event = some next) :
    next.Owing place frame ∨ next.reader = .gone ∨
      event = .write (.accepted frame.length) ∧
        session.writer = .registered (.reaction place frame) := by
  have answers : (Emission.reaction place frame).answersUnbind session.received = true :=
    owing.unbind
  by_cases elsewhere : event.ofReader = false
  · obtain ⟨reader, received, -⟩ := step_elsewhere elsewhere taken
    have unbind : isUnbind next.received place = true := by
      rw [received]
      exact owing.unbind
    rcases owing.waits with ⟨cursor, waiting⟩ | ⟨leaving, transit⟩
    · exact .inl ⟨unbind, .inl ⟨cursor, reader.trans waiting⟩⟩
    · rcases step_inTransit elsewhere taken transit with still | ⟨outcome, rfl, held⟩
      · exact .inl ⟨unbind, .inr ⟨reader.trans leaving, still⟩⟩
      · right
        right
        cases outcome with
        | failed => exact absurd rfl succeeds
        | accepted count =>
          simp only [unhurried, held, WriterStage.held, Option.all_some, answers, Bool.not_true,
            Bool.false_or, decide_eq_true_eq] at steady
          rw [steady]
          exact ⟨rfl, held⟩
  · have moves := step_reader (Bool.not_eq_false _ ▸ elsewhere) taken
    rcases owing.waits with ⟨cursor, waiting⟩ | ⟨leaving, transit⟩
    · have running := (awake.alive (by rw [waiting]; rfl)).2
      cases moves with
      | queuesReply stage =>
        rw [waiting] at stage
        cases stage
        exact .inl ⟨owing.unbind,
          .inr ⟨rfl, .inl (List.mem_append_right _ (List.mem_singleton_self _))⟩⟩
      | dropsReply stage stopped => exact absurd stopped running
      | stops => exact .inr (.inl rfl)
      | _ stage =>
        rw [waiting] at stage
        cases stage
    · cases moves with
      | closes stage =>
        exfalso
        simp only [unhurried, List.all_eq_true, List.mem_append, Bool.not_eq_true'] at steady
        have drained := steady (.reaction place frame)
        rw [answers] at drained
        have absent : ¬ _ := fun member => Bool.noConfusion (drained member)
        apply absent
        rcases transit with queued | hand | held
        · exact .inl (.inl queued)
        · rw [hand]
          exact .inl (.inr (List.mem_singleton_self _))
        · rw [held]
          exact .inr (List.mem_singleton_self _)
      | stops => exact .inr (.inl rfl)
      | _ stage =>
        rw [leaving] at stage
        cases stage

theorem run_owing {events : List Event} {place : Nat} {frame : Bytes} {final : Session}
    (owing : session.Owing place frame) (awake : session.Awake)
    (succeed : ∀ event ∈ events, event ≠ .write .failed)
    (steady : Throughout (step endpoint) (fun session event => session.unhurried event = true)
      session events)
    (reached : run (step endpoint) session events = some final) (closed : final.reader = .closed) :
    ∃ before after written,
      events = before ++ .write (.accepted frame.length) :: after ∧
        run (step endpoint) session before = some written ∧
        written.writer = .registered (.reaction place frame) := by
  induction events generalizing session with
  | nil =>
    cases reached
    rcases owing.waits with ⟨cursor, waiting⟩ | ⟨leaving, -⟩
    · rw [waiting] at closed
      cases closed
    · rw [leaving] at closed
      cases closed
  | cons event events ih =>
    obtain ⟨next, taken, rest⟩ := run_cons_iff.mp reached
    obtain ⟨now, later⟩ := steady
    rcases step_owing owing awake (succeed event List.mem_cons_self) now taken with
      still | gone | ⟨rfl, held⟩
    · obtain ⟨before, after, written, rfl, run, held⟩ := ih still (step_awake awake taken)
        (fun event member => succeed event (List.mem_cons_of_mem _ member)) (later next taken) rest
      exact ⟨event :: before, after, written, rfl, run_cons_iff.mpr ⟨next, taken, run⟩, held⟩
    · have ended := Machine.run_invariant
        (fun session event next gone taken => @step_gone endpoint session next event gone taken)
        gone rest
      rw [ended] at closed
      cases closed
    · exact ⟨[], events, session, rfl, rfl, held⟩

end Unbinding

end Session

/-- Every response to an unbind that the read loop obtains is written, whole, by the time the
    session is closed. -/
def UnbindsAnswered (endpoint : Endpoint) (events : List Event) : Prop :=
  ∀ before event after session next final emission, events = before ++ event :: after →
    run (Session.step endpoint) endpoint.start before = some session →
    session.step endpoint event = some next → Session.Obtains endpoint session event emission →
    run (Session.step endpoint) next after = some final → final.reader = .closed →
    ∃ early late written,
      after = early ++ .write (.accepted emission.frame.pdu.length) :: late ∧
        run (Session.step endpoint) next early = some written ∧
        written.writer = .registered emission

/-- While the writer is given the time, every unbind is answered before the session is closed. -/
theorem unbinds_answered (endpoint : Endpoint) (events : List Event)
    (succeed : ∀ event ∈ events, event ≠ .write .failed)
    (steady : Throughout (Session.step endpoint)
      (fun session event => session.unhurried event = true) endpoint.start events) :
    UnbindsAnswered endpoint events := by
  intro before event after session next final emission same reached taken obtains rest closed
  rw [same] at steady
  obtain ⟨-, later⟩ := throughout_append steady reached
  have known : session.UnbindsTaken := Machine.run_invariant
    (fun _ _ _ kept taken => Session.step_unbindsTaken kept taken) (Session.start_unbindsTaken endpoint) reached
  have awake : session.Awake := Machine.run_invariant
    (fun _ _ _ kept taken => Session.step_awake kept taken) (Session.start_awake endpoint) reached
  obtain ⟨place, frame, rfl, owing⟩ := Session.obtains_owing known awake obtains taken
  have succeedLater : ∀ event ∈ after, event ≠ .write .failed := by
    intro event member
    apply succeed
    rw [same]
    exact List.mem_append_right _ (List.mem_cons_of_mem _ member)
  exact Session.run_owing owing (Session.step_awake awake taken) succeedLater (later next taken)
    rest closed

def unbinding : List Event :=
  [.receive (Unbind.withSequenceNumber 7).encode, .extract,
    .unbound (Unbind.withSequenceNumber 7).accept]

theorem unbind_answered_after_a_write :
    let events : List Event :=
      unbinding ++ [.check, .take, .register, .write (.accepted 16), .close]
    (run (Session.step serverTrx) serverTrx.start events).map Session.reader = some .closed ∧
      UnbindsAnswered serverTrx events :=
  ⟨by decide, unbinds_answered serverTrx _ (by simp [unbinding]) (by decide)⟩

theorem unbind_unanswered : ¬ UnbindsAnswered serverTrx (unbinding ++ [.close]) := by
  intro answered
  obtain ⟨early, late, written, same, -⟩ :=
    answered [.receive (Unbind.withSequenceNumber 7).encode, .extract]
      (.unbound (Unbind.withSequenceNumber 7).accept) [.close] _ _ _ _ rfl rfl rfl (.listener rfl)
      rfl rfl
  rcases early with _ | ⟨first, early⟩
  · cases same
  · simp at same

end Smpp34
