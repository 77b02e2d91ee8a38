import Smpp34.Session.Client

namespace Smpp34

open Octets
open Machine (run Throughout)

/-- The writer looks at the flag before it waits for a frame and not after. -/
def WriterStage.beforeFlag : WriterStage → Bool
  | checking | failed _ => true
  | _ => false

namespace Session

variable {endpoint : Endpoint} {session next : Session}

theorem step_stopped {event : Event} (stopped : session.writer = .stopped)
    (taken : session.step endpoint event = some next) :
    next.writer = .stopped ∧ next.sent = session.sent := by
  cases step_writer taken with
  | kept elsewhere writer sent registrations => exact ⟨writer.trans stopped, sent⟩
  | closes writer reader sent registrations => exact ⟨writer, sent⟩
  | _ stage =>
    rw [stopped] at stage
    cases stage

/-- With the flag cleared, a writer that comes to its test ends there. -/
theorem step_unflagged {event : Event} (before : session.writer.beforeFlag = true)
    (cleared : session.alive = false) (taken : session.step endpoint event = some next) :
    (next.writer.beforeFlag = true ∨ next.writer = .stopped) ∧ next.sent = session.sent := by
  cases step_writer taken with
  | kept elsewhere writer sent registrations => exact ⟨.inl (writer ▸ before), sent⟩
  | checks stage writer sent registrations =>
    rw [cleared] at writer
    exact ⟨.inr writer, sent⟩
  | rollsBack stage writer sent registrations => exact ⟨.inl (writer ▸ rfl), sent⟩
  | closes writer reader sent registrations => exact ⟨.inr writer, sent⟩
  | _ stage =>
    rw [stage] at before
    cases before

section Sending

/-- Some course of events, none of them the read loop's, puts another frame on the wire. -/
def StillSends (endpoint : Endpoint) (session : Session) : Prop :=
  ∃ later final, (∀ event ∈ later, event.ofReader = false) ∧
    run (step endpoint) session later = some final ∧ final.sent ≠ session.sent

theorem StillSends.after {event : Event} (elsewhere : event.ofReader = false)
    (taken : session.step endpoint event = some next) (same : next.sent = session.sent)
    (sends : StillSends endpoint next) : StillSends endpoint session := by
  obtain ⟨later, final, others, ran, more⟩ := sends
  rw [same] at more
  refine ⟨event :: later, final, ?_, Machine.run_cons_iff.mpr ⟨next, taken, ran⟩, more⟩
  intro other member
  rcases List.mem_cons.mp member with rfl | member
  · exact elsewhere
  · exact others other member

theorem sends_registered {emission : Emission} (stage : session.writer = .registered emission)
    (octets : emission.frame.pdu ≠ []) : StillSends endpoint session := by
  have size : 1 ≤ emission.frame.pdu.length := List.length_pos_iff.mpr octets
  have permitted : (WriteOutcome.accepted 1).Permitted emission.frame.pdu := ⟨Nat.le_refl 1, size⟩
  have taken : session.step endpoint (.write (.accepted 1)) =
      some { session with writer := .checking, sent := session.sent ++ [emission] } := by
    simp only [step, write, stage]
    rw [if_pos permitted]
  refine ⟨[.write (.accepted 1)], _, ?_, Machine.run_single taken, ?_⟩
  · intro event member
    rw [List.mem_singleton.mp member]
    rfl
  · intro same
    have longer := congrArg List.length same
    rw [List.length_append, List.length_singleton] at longer
    omega

theorem sends_taken {emission : Emission} (stage : session.writer = .taken emission)
    (octets : emission.frame.pdu ≠ []) : StillSends endpoint session := by
  have taken : ∃ next, session.step endpoint .register = some next ∧
      next.writer = .registered emission ∧ next.sent = session.sent := by
    simp only [step, register, stage]
    split
    · exact ⟨_, rfl, rfl, rfl⟩
    · exact ⟨_, rfl, rfl, rfl⟩
  obtain ⟨next, taken, registered, same⟩ := taken
  exact .after rfl taken same (sends_registered registered octets)

theorem sends_queued {emission : Emission} {channel : List Emission}
    (stage : session.writer = .receiving) (queued : session.channel = emission :: channel)
    (octets : emission.frame.pdu ≠ []) : StillSends endpoint session := by
  have taken : session.step endpoint .take =
      some { session with writer := .taken emission, channel := channel } := by
    simp only [step, take, stage, queued]
  exact .after rfl taken rfl (sends_taken rfl octets)

theorem sends_receiving (stage : session.writer = .receiving) (empty : session.channel = []) :
    StillSends endpoint session := by
  let number := session.sequenceNumber
  let emission : Emission :=
    ⟨⟨some number, (Unbind.withSequenceNumber number).encode, some session.calls.length⟩,
      .call session.calls.length⟩
  let called : Session :=
    { session with
      sequenceNumber := number + 1
      issued := session.issued + 1
      calls := session.calls ++ [⟨.unbind (Unbind.withSequenceNumber 0), number, .queueing, none⟩]
      senders := session.senders ++ [emission] }
  have calls : session.step endpoint (.call (.unbind (Unbind.withSequenceNumber 0))) =
      some called := rfl
  have sender : called.senders[session.senders.length]? = some emission := by
    rw [List.getElem?_append_right (Nat.le_refl _), Nat.sub_self]
    rfl
  have room : called.channelRoom = true := by
    simp [channelRoom, called, stage, empty, channelCapacity]
  have enqueued : called.step endpoint (.enqueue session.senders.length) =
      some ({ called with
        senders := called.senders.eraseIdx session.senders.length
        channel := called.channel ++ [emission] }.queued (.call session.calls.length)) := by
    simp only [step, enqueue, sender, room]
    rfl
  have queued : called.channel ++ [emission] = [emission] := by
    rw [show called.channel = [] from empty]
    rfl
  have octets : emission.frame.pdu ≠ [] := List.ne_nil_of_length_eq_add_one rfl
  exact .after rfl calls rfl (.after rfl enqueued rfl (sends_queued stage queued octets))

variable (frames : ∀ emission ∈ session.outgoing, emission.frame.pdu ≠ [])

include frames

/-- A writer that is past its test sends the frame that it holds, or the next one. -/
theorem sends_of_late (late : session.writer.beforeFlag = false)
    (running : session.writer ≠ .stopped) : StillSends endpoint session := by
  cases stage : session.writer with
  | receiving =>
    cases queue : session.channel with
    | nil => exact sends_receiving stage queue
    | cons emission channel =>
      have member : emission ∈ session.outgoing := by
        simp [outgoing, queue]
      exact sends_queued stage queue (frames emission member)
  | taken emission =>
    have member : emission ∈ session.outgoing := by
      simp [outgoing, stage, WriterStage.inHand]
    exact sends_taken stage (frames emission member)
  | registered emission =>
    have member : emission ∈ session.outgoing := by
      simp [outgoing, stage, WriterStage.held]
    exact sends_registered stage (frames emission member)
  | stopped => exact absurd stage running
  | checking | failed _ =>
    rw [stage] at late
    cases late

theorem sends_checking (stage : session.writer = .checking) (alive : session.alive = true) :
    StillSends endpoint session := by
  have taken : session.step endpoint .check = some { session with writer := .receiving } := by
    simp only [step, check, stage, alive, if_true]
  have running : WriterStage.receiving ≠ .stopped := by decide
  exact .after rfl taken rfl (sends_of_late (step_frames frames taken) rfl running)

theorem sends_of_alive (alive : session.alive = true) (running : session.writer ≠ .stopped) :
    StillSends endpoint session := by
  cases stage : session.writer with
  | checking => exact sends_checking frames stage alive
  | failed emission =>
    have taken : ∃ next, session.step endpoint .rollback = some next ∧ next.writer = .checking ∧
        next.alive = session.alive ∧ next.sent = session.sent := by
      simp only [step, rollback, stage]
      split
      · exact ⟨_, rfl, rfl, rfl, rfl⟩
      · exact ⟨_, rfl, rfl, rfl, rfl⟩
    obtain ⟨next, taken, checks, flag, same⟩ := taken
    exact .after rfl taken same
      (sends_checking (step_frames frames taken) checks (flag.trans alive))
  | _ =>
    have late : session.writer.beforeFlag = false := by
      rw [stage]
      rfl
    exact sends_of_late frames late running

end Sending

end Session

namespace Client

def sentBy (client : Client) (task : Nat) : List Emission :=
  match client.tasks[task]? with
  | some (.bound _ session) => session.sent
  | _ => []

def writerStopped (client : Client) (task : Nat) : Bool :=
  match client.tasks[task]? with
  | some (.bound _ session) => session.writer = .stopped
  | _ => true

def binds (settings : ClientSettings) (client : Client) : ClientEvent → Bool
  | .read task piece =>
    match client.tasks[task]? with
    | some (.binding buffer) => (SessionTask.handshake settings (buffer ++ piece)).isBound
    | _ => false
  | _ => false

/-- The client is not bound anew as long as the writer of that task has not ended. -/
def letsEnd (settings : ClientSettings) (task : Nat) (client : Client) (event : ClientEvent) :
    Bool :=
  !client.binds settings event || client.writerStopped task

section Tasks

variable {settings : ClientSettings} {client next : Client} {place : Nat}

inductive TaskMoves (settings : ClientSettings) (client next : Client) (place : Nat) :
    ClientEvent → Prop
  | stays {event : ClientEvent} (same : next.tasks[place]? = client.tasks[place]?) :
      TaskMoves settings client next place event
  | spawns {event : ClientEvent} (unknown : client.tasks[place]? = none)
      (spawned : next.tasks[place]? = some (.binding [])) :
      TaskMoves settings client next place event
  | aborts {event : ClientEvent} {task : SessionTask} (found : client.tasks[place]? = some task)
      (aborted : next.tasks[place]? = some (task.abort settings)) :
      TaskMoves settings client next place event
  | reads {piece buffer : Bytes} (found : client.tasks[place]? = some (.binding buffer))
      (read : next.tasks[place]? = some (SessionTask.handshake settings (buffer ++ piece))) :
      TaskMoves settings client next place (.read place piece)
  | givesUp {buffer : Bytes} (found : client.tasks[place]? = some (.binding buffer))
      (finished : next.tasks[place]? = some .finished) :
      TaskMoves settings client next place (.giveUp place)
  | acts {event : Event} {leftover : Bytes} {session later : Session}
      (found : client.tasks[place]? = some (.bound leftover session))
      (moved : Session.step settings.endpoint { session with alive := client.alive } event =
        some later)
      (acted : next.tasks[place]? = some (.bound (leftover.drop event.piece.length) later))
      (flag : next.alive = later.alive) :
      TaskMoves settings client next place (.act place event)

theorem stop_task (settings : ClientSettings) (client : Client) (place : Nat)
    (event : ClientEvent) (same : next.tasks = (client.stop settings).tasks) :
    TaskMoves settings client next place event := by
  have stopped : next.tasks[place]? = (client.stop settings).tasks[place]? := by rw [same]
  unfold stop at stopped
  dsimp only at stopped
  split at stopped
  · rw [List.getElem?_modify] at stopped
    cases found : client.tasks[place]? with
    | none =>
      rw [found] at stopped
      exact .stays (stopped.trans found.symm)
    | some task =>
      rw [found] at stopped
      split at stopped
      · exact .aborts found stopped
      · exact .stays (stopped.trans found.symm)
  · exact .stays stopped

theorem step_task {event : ClientEvent} (taken : client.step settings event = some next)
    (place : Nat) : TaskMoves settings client next place event := by
  cases event with
  | start =>
    simp only [step, start] at taken
    split at taken
    · cases taken
      split
      · exact .stays rfl
      · exact .stays rfl
    · cases taken
  | connect established =>
    simp only [step, connect] at taken
    split at taken
    · cases taken
      split
      · rcases Nat.lt_trichotomy place client.tasks.length with within | rfl | beyond
        · exact .stays (List.getElem?_append_left within)
        · exact .spawns (List.getElem?_eq_none (Nat.le_refl _)) List.getElem?_concat_length
        · have grown : client.tasks.length + 1 ≤ place := beyond
          refine .stays ?_
          rw [List.getElem?_eq_none (by rw [List.length_append]; exact grown),
            List.getElem?_eq_none (Nat.le_of_lt beyond)]
      · exact .stays rfl
    · cases taken
  | stop =>
    simp only [step] at taken
    split at taken
    · cases taken
      exact stop_task settings client place .stop rfl
    · cases taken
  | drop =>
    simp only [step, drop] at taken
    split at taken
    · cases taken
      split
      · exact stop_task settings client place .drop rfl
      · exact .stays rfl
    · cases taken
  | read task piece =>
    simp only [step, read] at taken
    split at taken
    · rename_i buffer found
      split at taken
      · cases taken
      · cases taken
        rcases eq_or_ne task place with rfl | other
        · exact .reads found (List.getElem?_set_self (List.getElem?_eq_some_iff.mp found).1)
        · exact .stays (List.getElem?_set_ne other)
    · cases taken
  | giveUp task =>
    simp only [step, giveUp] at taken
    split at taken
    · rename_i buffer found
      cases taken
      rcases eq_or_ne task place with rfl | other
      · exact .givesUp found (List.getElem?_set_self (List.getElem?_eq_some_iff.mp found).1)
      · exact .stays (List.getElem?_set_ne other)
    · cases taken
  | act task event =>
    simp only [step, act] at taken
    split at taken
    · rename_i leftover session found
      split at taken
      · obtain ⟨later, moved, rfl⟩ := Option.map_eq_some_iff.mp taken
        rcases eq_or_ne task place with rfl | other
        · exact .acts found moved
            (List.getElem?_set_self (List.getElem?_eq_some_iff.mp found).1) rfl
        · exact .stays (List.getElem?_set_ne other)
      · cases taken
    · cases taken

theorem step_flag {event : ClientEvent} (taken : client.step settings event = some next) :
    next.alive = client.alive ∨ next.alive = false ∨ client.binds settings event = true := by
  cases event with
  | start =>
    simp only [step, start] at taken
    repeat' split at taken
    all_goals cases taken
    all_goals exact .inl rfl
  | connect established =>
    simp only [step, connect] at taken
    repeat' split at taken
    all_goals cases taken
    all_goals exact .inl rfl
  | stop =>
    simp only [step] at taken
    split at taken
    · cases taken
      exact .inr (.inl rfl)
    · cases taken
  | drop =>
    simp only [step, drop] at taken
    repeat' split at taken
    all_goals cases taken
    · exact .inr (.inl rfl)
    · exact .inl rfl
  | read task piece =>
    simp only [step, read] at taken
    split at taken
    · rename_i buffer found
      split at taken
      · cases taken
      · cases taken
        simp only [binds, found]
        cases SessionTask.isBound (SessionTask.handshake settings (buffer ++ piece)) with
        | true => exact .inr (.inr rfl)
        | false => exact .inl (Bool.or_false _)
    · cases taken
  | giveUp task =>
    simp only [step, giveUp] at taken
    split at taken
    · cases taken
      exact .inl rfl
    · cases taken
  | act task event =>
    simp only [step, act] at taken
    repeat' split at taken
    · obtain ⟨later, moved, rfl⟩ := Option.map_eq_some_iff.mp taken
      rcases Session.step_flag moved with same | ⟨cleared, -⟩
      · exact .inl same
      · exact .inr (.inl cleared)
    all_goals cases taken

theorem abort_bound (settings : ClientSettings) (leftover : Bytes) (session : Session) :
    ∃ later, SessionTask.abort settings (.bound leftover session) = .bound leftover later ∧
      later.writer = session.writer ∧ later.sent = session.sent ∧
      later.outgoing ⊆ session.outgoing := by
  refine ⟨_, rfl, ?_⟩
  unfold Session.stop
  split
  · refine ⟨rfl, rfl, ?_⟩
    intro emission member
    exact Session.mem_fewer member (List.Subset.refl _) rfl rfl rfl (List.nil_subset _)
  · exact ⟨rfl, rfl, List.Subset.refl _⟩

def Framed (client : Client) : Prop :=
  ∀ (place : Nat) (leftover : Bytes) (session : Session),
    client.tasks[place]? = some (.bound leftover session) →
      ∀ emission ∈ session.outgoing, emission.frame.pdu ≠ []

theorem step_framed {event : ClientEvent} (framed : client.Framed)
    (taken : client.step settings event = some next) : next.Framed := by
  intro place leftover session found
  cases step_task taken place with
  | stays same =>
    rw [same] at found
    exact framed place leftover session found
  | spawns unknown spawned =>
    rw [spawned] at found
    cases found
  | @aborts _ task before aborted =>
    rw [aborted] at found
    cases task with
    | binding buffer => cases found
    | finished => cases found
    | bound leftover session =>
      obtain ⟨later, same, -, -, fewer⟩ := abort_bound settings leftover session
      rw [same] at found
      cases found
      exact fun emission member => framed place _ _ before emission (fewer member)
  | reads before read =>
    rw [read] at found
    obtain ⟨size, -, -, rfl⟩ := SessionTask.handshake_bound (Option.some.inj found)
    exact (Session.start_awake settings.endpoint).frames
  | givesUp before finished =>
    rw [finished] at found
    cases found
  | @acts event _ now _ before moved acted flag =>
    rw [acted] at found
    cases found
    have frames := framed place _ _ before
    exact @Session.step_frames settings.endpoint { now with alive := client.alive } _ event frames
      moved

theorem run_framed {events : List ClientEvent}
    (reached : run (step settings) new events = some client) : client.Framed :=
  Machine.run_invariant (fun _ _ _ before taken => step_framed before taken)
    (fun _ _ _ found => by cases found) reached

section Silence

variable {written : List Emission}

def Ended (client : Client) (place : Nat) (written : List Emission) : Prop :=
  ∃ leftover session, client.tasks[place]? = some (.bound leftover session) ∧
    session.sent = written ∧ session.writer = .stopped

def Ending (client : Client) (place : Nat) (written : List Emission) : Prop :=
  ∃ leftover session, client.tasks[place]? = some (.bound leftover session) ∧
    session.sent = written ∧ session.writer.beforeFlag = true ∧ client.alive = false

theorem Ended.sentBy_eq (ended : client.Ended place written) : client.sentBy place = written := by
  obtain ⟨leftover, session, found, sent, -⟩ := ended
  rw [sentBy, found]
  exact sent

theorem Ending.sentBy_eq (ending : client.Ending place written) :
    client.sentBy place = written := by
  obtain ⟨leftover, session, found, sent, -⟩ := ending
  rw [sentBy, found]
  exact sent

theorem step_ended {event : ClientEvent} (ended : client.Ended place written)
    (taken : client.step settings event = some next) : next.Ended place written := by
  obtain ⟨leftover, session, found, sent, writer⟩ := ended
  cases step_task taken place with
  | stays same => exact ⟨leftover, session, same.trans found, sent, writer⟩
  | aborts before aborted =>
    rw [found] at before
    cases before
    obtain ⟨later, same, writer', sent', -⟩ := abort_bound settings leftover session
    exact ⟨leftover, later, same ▸ aborted, sent'.trans sent, writer'.trans writer⟩
  | @acts event _ now _ before moved acted flag =>
    rw [found] at before
    cases before
    obtain ⟨writer', sent'⟩ :=
      @Session.step_stopped settings.endpoint { session with alive := client.alive } _ event writer
        moved
    exact ⟨_, _, acted, sent'.trans sent, writer'⟩
  | spawns before | reads before | givesUp before =>
    rw [found] at before
    cases before

theorem step_ending {event : ClientEvent} (ending : client.Ending place written)
    (lets : client.letsEnd settings place event = true)
    (taken : client.step settings event = some next) :
    next.Ending place written ∨ next.Ended place written := by
  obtain ⟨leftover, session, found, sent, writer, cleared⟩ := ending
  have still : next.alive = false := by
    rcases step_flag taken with same | stays | binds
    · exact same.trans cleared
    · exact stays
    · -- the writer has not ended, so nothing may set the flag
      simp only [letsEnd, binds, writerStopped, found, Bool.not_true, Bool.false_or,
        decide_eq_true_eq] at lets
      rw [lets] at writer
      cases writer
  cases step_task taken place with
  | stays same => exact .inl ⟨leftover, session, same.trans found, sent, writer, still⟩
  | aborts before aborted =>
    rw [found] at before
    cases before
    obtain ⟨later, same, writer', sent', -⟩ := abort_bound settings leftover session
    exact .inl ⟨leftover, later, same ▸ aborted, sent'.trans sent, writer' ▸ writer, still⟩
  | @acts event _ now _ before moved acted flag =>
    rw [found] at before
    cases before
    obtain ⟨later, sent'⟩ :=
      @Session.step_unflagged settings.endpoint { session with alive := client.alive } _ event
        writer cleared moved
    rcases later with waits | stopped
    · exact .inl ⟨_, _, acted, sent'.trans sent, waits, still⟩
    · exact .inr ⟨_, _, acted, sent'.trans sent, stopped⟩
  | spawns before | reads before | givesUp before =>
    rw [found] at before
    cases before

theorem run_ended {events : List ClientEvent} (ended : client.Ended place written)
    (ran : run (step settings) client events = some next) : next.Ended place written :=
  Machine.run_invariant (fun _ _ _ before taken => step_ended before taken) ended ran

theorem run_ending {events : List ClientEvent} (ending : client.Ending place written)
    (lets : Throughout (step settings) (fun now event => now.letsEnd settings place event = true)
      client events)
    (ran : run (step settings) client events = some next) :
    next.Ending place written ∨ next.Ended place written := by
  have kept : ∀ (now : Client) (event : ClientEvent) (next : Client),
      (now.Ending place written ∨ now.Ended place written) →
      now.letsEnd settings place event = true → now.step settings event = some next →
        next.Ending place written ∨ next.Ended place written := by
    intro now event next before lets taken
    rcases before with ending | ended
    · exact step_ending ending lets taken
    · exact .inr (step_ended ended taken)
  exact Machine.run_invariant_where kept (.inl ending) lets ran

end Silence

section Sending

theorem run_acts {events : List Event} {leftover : Bytes} {session final : Session}
    (others : ∀ event ∈ events, event.ofReader = false)
    (found : client.tasks[place]? = some (.bound leftover session))
    (ran : run (Session.step settings.endpoint) { session with alive := client.alive } events =
      some final) :
    ∃ last rest later, run (step settings) client (events.map (.act place)) = some last ∧
      last.tasks[place]? = some (.bound rest later) ∧ later.sent = final.sent := by
  induction events generalizing client session leftover with
  | nil =>
    cases ran
    exact ⟨client, leftover, session, rfl, found, rfl⟩
  | cons event events ih =>
    obtain ⟨later, moved, ran⟩ := Machine.run_cons_iff.mp ran
    have elsewhere := others event List.mem_cons_self
    have permitted : SessionTask.permits leftover event = true := by
      cases event with
      | receive | hangUp | idle | stop => cases elsewhere
      | _ => rfl
    let next : Client :=
      { client with
        alive := later.alive
        tasks := client.tasks.set place (.bound (leftover.drop event.piece.length) later) }
    have taken : client.step settings (.act place event) = some next := by
      simp only [step, act, found, permitted, if_true, moved, Option.map_some, next]
    have acted : next.tasks[place]? = some (.bound (leftover.drop event.piece.length) later) :=
      List.getElem?_set_self (List.getElem?_eq_some_iff.mp found).1
    obtain ⟨last, rest, final', ran', there, same⟩ :=
      ih (fun other member => others other (List.mem_cons_of_mem _ member)) acted ran
    exact ⟨last, rest, final', Machine.run_cons_iff.mpr ⟨next, taken, ran'⟩, there, same⟩

theorem sends_more {leftover : Bytes} {session : Session}
    (found : client.tasks[place]? = some (.bound leftover session))
    (sends : Session.StillSends settings.endpoint { session with alive := client.alive }) :
    ∃ later final, run (step settings) client later = some final ∧
      Throughout (step settings) (fun now event => now.letsEnd settings place event = true)
        client later ∧
      final.sentBy place ≠ session.sent := by
  obtain ⟨events, final, others, ran, more⟩ := sends
  obtain ⟨last, rest, later, ran, there, sent⟩ := run_acts others found ran
  refine ⟨_, last, ran, ?_, ?_⟩
  · have acts : ∀ event ∈ events.map (ClientEvent.act place), ∃ act, event = .act place act := by
      intro event member
      obtain ⟨act, -, same⟩ := List.mem_map.mp member
      exact ⟨act, same.symm⟩
    refine Machine.throughout_mono ?_ (Machine.throughout_of_forall acts client)
    rintro now event ⟨act, rfl⟩
    rfl
  · simp only [sentBy, there, sent]
    exact more

theorem handshake_accepted {bytes : Bytes} {header : CommandHeader}
    (whole : frameFirstPdu bytes maxPduLen = .complete bytes.length)
    (framed : CommandHeader.decode bytes = .ok header)
    (accepted : clientBind settings.bindType settings.endpoint.start header bytes =
      some settings.endpoint.start) :
    SessionTask.handshake settings bytes = .bound [] settings.endpoint.start := by
  unfold SessionTask.handshake
  rw [whole]
  dsimp only
  rw [List.take_length, framed]
  dsimp only
  rw [accepted, List.drop_length]

theorem bindable (settings : ClientSettings) :
    ∃ bytes, bytes ≠ [] ∧
      SessionTask.handshake settings bytes = .bound [] settings.endpoint.start := by
  let response (kind : BindKind) : Bytes :=
    (⟨17, kind.respCommandId.value, SmppError.ESME_ROK.code, 1⟩ : CommandHeader).encode ++ [0]
  have whole : frameFirstPdu (response settings.bindType) maxPduLen =
      .complete (response settings.bindType).length := by
    cases settings.bindType <;> decide
  have framed : CommandHeader.decode (response settings.bindType) =
      .ok ⟨17, settings.bindType.respCommandId.value, SmppError.ESME_ROK.code, 1⟩ := by
    cases settings.bindType <;> decide
  have number : potentialSeqNo (response settings.bindType) = 1 := by
    cases settings.bindType <;> decide
  exact ⟨_, Session.ne_nil_of_append,
    handshake_accepted whole framed (if_pos ⟨number, rfl, rfl⟩)⟩

theorem binds_again (free : client.free = true) (cleared : client.alive = false) :
    ∃ later next, run (step settings) client later = some next ∧ next.alive = true ∧
      ∀ place, place < client.tasks.length → next.tasks[place]? = client.tasks[place]? := by
  obtain ⟨bytes, nonempty, accepted⟩ := bindable settings
  let spot := client.tasks.length
  let waiting : Client :=
    { client with
      starting := false
      handle := some spot
      tasks := client.tasks ++ [.binding []] }
  have starts : client.step settings .start = some { client with starting := true } := by
    simp [step, start, free, cleared]
  have connects : Client.step settings { client with starting := true } (.connect true) =
      some waiting := rfl
  have waits : waiting.tasks[spot]? = some (.binding []) := List.getElem?_concat_length
  have reads : waiting.step settings (.read spot bytes) =
      some
        { waiting with
          alive := true
          tasks := waiting.tasks.set spot (.bound [] settings.endpoint.start) } := by
    simp only [step, read, waits, if_neg nonempty, List.nil_append, accepted, SessionTask.isBound,
      Bool.or_true]
  refine ⟨[.start, .connect true, .read spot bytes],
    { waiting with
      alive := true
      tasks := waiting.tasks.set spot (.bound [] settings.endpoint.start) }, ?_, rfl, ?_⟩
  · exact Machine.run_cons_iff.mpr ⟨_, starts, Machine.run_cons_iff.mpr
      ⟨_, connects, Machine.run_single reads⟩⟩
  · intro place within
    have other : spot ≠ place := Nat.ne_of_gt within
    exact (List.getElem?_set_ne other).trans (List.getElem?_append_left within)

end Sending

end Tasks

theorem stop_some {settings : ClientSettings} {before stopped : Client}
    (taken : before.step settings .stop = some stopped) :
    stopped.alive = false ∧ stopped.free = true := by
  simp only [step] at taken
  split at taken
  · rename_i free
    cases taken
    exact ⟨rfl, free⟩
  · cases taken

end Client

/-- A session has not written more than when `stop` returned, whatever is done to the client later,
exactly if its writer had ended by then. A writer that had its test still to come is silent as well
unless the client is bound anew before it, since all sessions share the flag; one that was past its
test is not. -/
theorem stopped_client_silent_iff (settings : ClientSettings) (events : List ClientEvent)
    (before stopped : Client) (task : Nat) (leftover : Bytes) (session : Session)
    (reached : run (Client.step settings) Client.new events = some before)
    (bound : before.tasks[task]? = some (.bound leftover session))
    (ended : before.step settings .stop = some stopped) :
    ((∀ later final, run (Client.step settings) stopped later = some final →
        Throughout (Client.step settings)
          (fun now event => now.letsEnd settings task event = true) stopped later →
        final.sentBy task = session.sent) ↔
      session.writer.beforeFlag = true ∨ session.writer = .stopped) ∧
    ((∀ later final, run (Client.step settings) stopped later = some final →
        final.sentBy task = session.sent) ↔
      session.writer = .stopped) := by
  obtain ⟨cleared, free⟩ := Client.stop_some ended
  have framed := Client.step_framed (Client.run_framed reached) ended
  -- `stop` leaves the writer of the session where it was
  have kept : ∃ session', stopped.tasks[task]? = some (.bound leftover session') ∧
      session'.sent = session.sent ∧ session'.writer = session.writer := by
    cases Client.step_task ended task with
    | stays same => exact ⟨session, same.trans bound, rfl, rfl⟩
    | aborts found aborted =>
      rw [bound] at found
      cases found
      obtain ⟨later, same, writer, sent, -⟩ := Client.abort_bound settings leftover session
      exact ⟨later, same ▸ aborted, sent, writer⟩
    | spawns found =>
      rw [bound] at found
      cases found
  obtain ⟨session', found, sent, writer⟩ := kept
  rw [← sent, ← writer]
  have within := (List.getElem?_eq_some_iff.mp found).1
  have frames := framed task leftover session' found
  refine ⟨⟨?_, ?_⟩, ?_, ?_⟩
  · intro silent
    by_contra late
    rw [not_or, Bool.not_eq_true] at late
    obtain ⟨later, final, ran, lets, more⟩ := Client.sends_more found
      (@Session.sends_of_late settings.endpoint { session' with alive := stopped.alive } frames
        late.1 late.2)
    exact more (silent later final ran lets)
  · intro quiet later final ran lets
    rcases quiet with early | stops
    · rcases Client.run_ending ⟨leftover, session', found, rfl, early, cleared⟩ lets ran with
        ending | stops
      · exact ending.sentBy_eq
      · exact stops.sentBy_eq
    · exact (Client.run_ended ⟨leftover, session', found, rfl, stops⟩ ran).sentBy_eq
  · intro silent
    by_contra running
    -- once the client is bound anew, the flag is set for this writer as well
    obtain ⟨again, next, ran, alive, same⟩ := @Client.binds_again settings stopped free cleared
    have there := (same task within).trans found
    obtain ⟨later, final, ran', -, more⟩ := Client.sends_more there
      (@Session.sends_of_alive settings.endpoint { session' with alive := next.alive } frames
        alive running)
    exact more (silent (again ++ later) final (Machine.run_append ran ran'))
  · intro stops later final ran
    exact (Client.run_ended ⟨leftover, session', found, rfl, stops⟩ ran).sentBy_eq

theorem stopped_at_once_silent :
    let settings : ClientSettings := ⟨.transceiver, 10, 100⟩
    let again : List ClientEvent :=
      [.act 0 .check, .start, .connect true, .read 1 bindAccepted, .act 1 .check]
    ∃ before stopped final,
      run (Client.step settings) Client.new [.start, .connect true, .read 0 bindAccepted] =
        some before ∧
      before.step settings .stop = some stopped ∧
      run (Client.step settings) stopped again = some final ∧ final.alive = true ∧
      final.sentBy 0 = [] := by
  intro settings again
  refine ⟨_, _, _, rfl, rfl, rfl, rfl, ?_⟩
  exact (stopped_client_silent_iff settings [.start, .connect true, .read 0 bindAccepted] _ _ 0 []
    settings.endpoint.start rfl rfl rfl).1.mpr (.inl rfl) again _ rfl (by decide)

/-- A writer that waits for a frame when `stop` runs sends the next one, and so does one that comes
to its test when the client is bound again. -/
theorem stopped_client_still_sends :
    let settings : ClientSettings := ⟨.transceiver, 10, 100⟩
    let bound : List ClientEvent := [.start, .connect true, .read 0 bindAccepted]
    let sends : List ClientEvent :=
      [.act 0 (.call (.unbind (Unbind.withSequenceNumber 0))), .act 0 (.enqueue 0), .act 0 .take,
        .act 0 .register, .act 0 (.write (.accepted 16))]
    let again : List ClientEvent := [.start, .connect true, .read 1 bindAccepted, .act 0 .check]
    (∃ before stopped final,
      run (Client.step settings) Client.new (bound ++ [.act 0 .check]) = some before ∧
      before.step settings .stop = some stopped ∧
      run (Client.step settings) stopped sends = some final ∧ stopped.sentBy 0 = [] ∧
      (final.sentBy 0).map (fun emission => emission.frame.pdu) =
        [(Unbind.withSequenceNumber 2).encode]) ∧
    ∃ before stopped final,
      run (Client.step settings) Client.new bound = some before ∧
      before.step settings .stop = some stopped ∧
      run (Client.step settings) stopped (again ++ sends) = some final ∧ stopped.sentBy 0 = [] ∧
      (final.sentBy 0).map (fun emission => emission.frame.pdu) =
        [(Unbind.withSequenceNumber 2).encode] := by
  intro settings bound sends again
  exact ⟨⟨_, _, _, rfl, rfl, rfl, rfl, rfl⟩, _, _, _, rfl, rfl, rfl, rfl, rfl⟩

end Smpp34
