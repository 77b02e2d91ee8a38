import Smpp34.Session.Progress

namespace Smpp34

open Octets
open Machine (run)

def emptyDataSm : DataSm := DataSm.new 0 Utf8.Str.empty 0 0 Utf8.Str.empty 0 0 Utf8.Str.empty 0 0 0

namespace Session

variable {session : Session}

def letter (session : Session) : Emission :=
  ⟨⟨some session.sequenceNumber, (emptyDataSm.setSequenceNumber session.sequenceNumber).encode,
    some session.calls.length⟩, .call session.calls.length⟩

def posted (session : Session) : Session :=
  { session with
    sequenceNumber := session.sequenceNumber + 1
    issued := session.issued + 1
    calls :=
      (session.calls ++
        [(⟨.dataSm emptyDataSm, session.sequenceNumber, .queueing, none⟩ : Call)]).modify
        session.calls.length fun call => call.queued session.now
    channel := session.channel ++ [session.letter] }

theorem run_posted (endpoint : Endpoint) (trx : endpoint.bound = .trx) (room : session.channelRoom = true) :
    run (step endpoint) session [.call (.dataSm emptyDataSm), .enqueue session.senders.length] =
      some session.posted := by
  have sends : endpoint.maySend (.dataSm emptyDataSm) = true := by
    simp [Endpoint.maySend, trx, BoundType.transmits]
  have called : session.step endpoint (.call (.dataSm emptyDataSm)) = some
      { session with
        sequenceNumber := session.sequenceNumber + 1
        issued := session.issued + 1
        calls := session.calls ++ [⟨.dataSm emptyDataSm, session.sequenceNumber, .queueing, none⟩]
        senders := session.senders ++ [session.letter] } := by
    simp only [step, call, sends, if_true]
    rfl
  refine Machine.run_cons_iff.mpr ⟨_, called, Machine.run_single ?_⟩
  have last : (session.senders ++ [session.letter])[session.senders.length]? =
      some session.letter := by simp
  have erased : (session.senders ++ [session.letter]).eraseIdx session.senders.length =
      session.senders := by simp [List.eraseIdx_append_of_length_le]
  unfold channelRoom at room
  simp only [step, enqueue, last, channelRoom, room, if_true, erased]
  rfl

def laden (session : Session) : Session :=
  { session.posted with
    writer := .registered session.letter
    channel := []
    pendingRequests := session.pendingRequests.insert session.sequenceNumber
      ⟨session.now, some session.calls.length⟩
    registrations := session.registrations ++
      [⟨session.sequenceNumber, ⟨session.now, some session.calls.length⟩, session.received.length⟩] }

theorem run_laden (endpoint : Endpoint) (trx : endpoint.bound = .trx) (alive : session.alive = true)
    (checking : session.writer = .checking) (empty : session.channel = []) :
    run (step endpoint) session
      [.call (.dataSm emptyDataSm), .enqueue session.senders.length, .check, .take, .register] =
        some session.laden := by
  have room : session.channelRoom = true := by
    simp [channelRoom, checking, empty, channelCapacity]
  refine Machine.run_append (run_posted endpoint trx room) ?_
  simp [Machine.run, step, check, take, register, posted, checking, alive, empty, letter, laden]

end Session

def Event.internal : Event → Bool
  | receive _ | write _ | hangUp => false
  | _ => true

namespace Pairing

variable {pairing : Pairing} {pair : Pair}

theorem step_internal {side : Side} {event : Event} {session : Session}
    (internal : event.internal = true)
    (stepped : (pair.ends side).step (pairing.endpoint side) event = some session) :
    pairing.step pair (side, event) = some ⟨Function.update pair.ends side session, pair.pipe⟩ := by
  have allowed : pairing.allows pair side event = true := by
    cases event <;> first | rfl | cases internal
  have piece : event.piece = [] := by
    cases event <;> first | rfl | cases internal
  have nothing : written (pair.ends side) event = [] := by
    cases event <;> first | rfl | cases internal
  have pipe : Function.update (Function.update pair.pipe side ((pair.pipe side).drop 0)) side.other
      (pair.pipe side.other ++ []) = pair.pipe := by
    rw [List.drop_zero, List.append_nil, Function.update_eq_self, Function.update_eq_self]
  simp only [step, allowed, if_true, stepped, Option.map_some, piece, nothing, List.length_nil, pipe]

theorem step_enabled {side : Side} {event : Event} {session : Session}
    (allowed : pairing.allows pair side event = true)
    (stepped : (pair.ends side).step (pairing.endpoint side) event = some session) :
    ∃ next, pairing.step pair (side, event) = some next := by
  simp only [step, allowed, if_true, stepped, Option.map_some]
  exact ⟨_, rfl⟩

theorem run_internal {side : Side} {events : List Event} {session : Session}
    (internal : ∀ event ∈ events, event.internal = true)
    (ran : run (Session.step (pairing.endpoint side)) (pair.ends side) events = some session) :
    run pairing.step pair (events.map fun event => (side, event)) =
      some ⟨Function.update pair.ends side session, pair.pipe⟩ := by
  induction events generalizing pair with
  | nil =>
    cases ran
    rw [Function.update_eq_self]
    rfl
  | cons event events ih =>
    obtain ⟨middle, stepped, rest⟩ := Machine.run_cons_iff.mp ran
    have first := step_internal (internal event List.mem_cons_self) stepped
    rw [List.map_cons, Machine.run_cons_iff]
    refine ⟨_, first, ?_⟩
    have here : (⟨Function.update pair.ends side middle, pair.pipe⟩ : Pair).ends side = middle :=
      Function.update_self side middle pair.ends
    rw [← here] at rest
    rw [ih (fun other member => internal other (List.mem_cons_of_mem _ member)) rest]
    simp only [Function.update_idem]

/-- One pair is reached from another by what an end sends: its read loop stands where it stood, and
    so do the other end and the octets on their way to this one. -/
structure Sends (pairing : Pairing) (side : Side) (pair next : Pair) : Prop where
  reached : ∃ moves, run pairing.step pair moves = some next
  other : next.ends side.other = pair.ends side.other
  pipe : next.pipe side = pair.pipe side
  reader : (next.ends side).reader = (pair.ends side).reader
  buffer : (next.ends side).buffer = (pair.ends side).buffer
  alive : (next.ends side).alive = (pair.ends side).alive

theorem Sends.refl (pairing : Pairing) (side : Side) (pair : Pair) : pairing.Sends side pair pair :=
  ⟨⟨[], rfl⟩, rfl, rfl, rfl, rfl, rfl⟩

theorem Sends.trans {side : Side} {first second third : Pair}
    (before : pairing.Sends side first second) (after : pairing.Sends side second third) :
    pairing.Sends side first third := by
  obtain ⟨moves, ran⟩ := before.reached
  obtain ⟨more, later⟩ := after.reached
  exact ⟨⟨moves ++ more, Machine.run_append ran later⟩, after.other.trans before.other,
    after.pipe.trans before.pipe, after.reader.trans before.reader,
    after.buffer.trans before.buffer, after.alive.trans before.alive⟩

structure Ready (pair : Pair) (side : Side) : Prop where
  alive : (pair.ends side).alive = true
  writer : (pair.ends side).writer = .checking
  channel : (pair.ends side).channel = []

variable {side : Side}

theorem sends_internal {events : List Event} {session : Session}
    (internal : ∀ event ∈ events, event.internal = true)
    (ran : run (Session.step (pairing.endpoint side)) (pair.ends side) events = some session)
    (reader : session.reader = (pair.ends side).reader)
    (buffer : session.buffer = (pair.ends side).buffer)
    (alive : session.alive = (pair.ends side).alive) :
    ∃ next, pairing.Sends side pair next ∧ next.ends side = session ∧ next.pipe = pair.pipe := by
  have moved := run_internal internal ran
  have here : (⟨Function.update pair.ends side session, pair.pipe⟩ : Pair).ends side = session :=
    Function.update_self side session pair.ends
  refine ⟨_, ⟨⟨_, moved⟩, Function.update_of_ne (Side.other_ne side) _ _, rfl, ?_, ?_, ?_⟩, here,
    rfl⟩
  · rw [here, reader]
  · rw [here, buffer]
  · rw [here, alive]

theorem sends_laden (trx : pairing.bound = .trx) (ready : Ready pair side) :
    ∃ next, pairing.Sends side pair next ∧ next.ends side = (pair.ends side).laden ∧
      next.pipe = pair.pipe :=
  sends_internal (by simp [Event.internal])
    (Session.run_laden (pairing.endpoint side) trx ready.alive ready.writer ready.channel)
    rfl rfl rfl

theorem sends_written (trx : pairing.bound = .trx) (ready : Ready pair side)
    (room : (pair.pipe side.other).length + 26 ≤ pairing.capacity) :
    ∃ next, pairing.Sends side pair next ∧ Ready next side ∧
      (next.pipe side.other).length = (pair.pipe side.other).length + 26 := by
  obtain ⟨middle, sends, laden, pipe⟩ := sends_laden trx ready
  have allowed : pairing.allows middle side (.write (.accepted 26)) = true := by
    rw [← pipe] at room
    exact decide_eq_true room
  have stepped : (middle.ends side).step (pairing.endpoint side) (.write (.accepted 26)) = some
      { (pair.ends side).laden with
        writer := .checking
        sent := (pair.ends side).laden.sent ++ [(pair.ends side).letter] } := by
    rw [laden]
    rfl
  have octets : written (middle.ends side) (.write (.accepted 26)) =
      (pair.ends side).letter.frame.pdu := by
    rw [laden]
    rfl
  obtain ⟨next, taken⟩ := step_enabled allowed stepped
  obtain ⟨session, -, again, moved, still, inward, outward⟩ := step_eq_some taken
  cases stepped.symm.trans again
  refine ⟨next, sends.trans ⟨⟨_, Machine.run_single taken⟩, still, inward, ?_, ?_, ?_⟩,
    ⟨?_, ?_, ?_⟩, ?_⟩
  · rw [moved, laden]
  · rw [moved, laden]
  · rw [moved, laden]
  · rw [moved]
    exact ready.alive
  · rw [moved]
  · rw [moved]
    rfl
  · rw [outward, octets, pipe, List.length_append]
    rfl

theorem sends_filled (trx : pairing.bound = .trx) (count : Nat) (ready : Ready pair side)
    (room : (pair.pipe side.other).length + 26 * count ≤ pairing.capacity) :
    ∃ next, pairing.Sends side pair next ∧ Ready next side ∧
      (next.pipe side.other).length = (pair.pipe side.other).length + 26 * count := by
  induction count generalizing pair with
  | zero => exact ⟨pair, .refl pairing side pair, ready, rfl⟩
  | succ count ih =>
    obtain ⟨middle, sends, readyAgain, longer⟩ := sends_written trx ready (by omega)
    obtain ⟨next, more, readyStill, full⟩ := ih readyAgain (by omega)
    exact ⟨next, sends.trans more, readyStill, by omega⟩

theorem sends_flooded (trx : pairing.bound = .trx) (count : Nat)
    (running : (pair.ends side).writer ≠ .stopped)
    (room : (pair.ends side).channel.length + count ≤ channelCapacity) :
    ∃ next, pairing.Sends side pair next ∧ (next.ends side).writer = (pair.ends side).writer ∧
      (next.ends side).channel.length = (pair.ends side).channel.length + count ∧
      next.pipe = pair.pipe := by
  induction count generalizing pair with
  | zero => exact ⟨pair, .refl pairing side pair, rfl, rfl, rfl⟩
  | succ count ih =>
    have free : (pair.ends side).channelRoom = true := by
      simp only [Session.channelRoom, Bool.and_eq_true, decide_eq_true_eq]
      exact ⟨running, by omega⟩
    obtain ⟨middle, sends, here, same⟩ := sends_internal (by simp [Event.internal])
      (Session.run_posted (pairing.endpoint side) trx free) rfl rfl rfl
    have longer : (middle.ends side).channel.length = (pair.ends side).channel.length + 1 := by
      rw [here]
      exact List.length_append
    have writer : (middle.ends side).writer = (pair.ends side).writer := by
      rw [here]
      rfl
    obtain ⟨next, more, still, channel, pipe⟩ := ih (writer ▸ running) (by omega)
    exact ⟨next, sends.trans more, still.trans writer, by omega, pipe.trans same⟩

/-- All together: the pipe is full, the writer waits with a frame and the channel is full. -/
theorem sends_saturated (trx : pairing.bound = .trx) (count : Nat) (ready : Ready pair side)
    (fits : (pair.pipe side.other).length + 26 * count = pairing.capacity) :
    ∃ next emission, pairing.Sends side pair next ∧
      (next.ends side).writer = .registered emission ∧
      (next.ends side).channel.length = channelCapacity ∧
      (next.pipe side.other).length = pairing.capacity := by
  obtain ⟨full, filling, readyStill, length⟩ := sends_filled trx count ready fits.le
  obtain ⟨waiting, loading, laden, pipe⟩ := sends_laden trx readyStill
  have writer : (waiting.ends side).writer = .registered (full.ends side).letter := by
    rw [laden]
    rfl
  have channel : (waiting.ends side).channel = [] := by
    rw [laden]
    rfl
  obtain ⟨next, flooding, still, length', same⟩ := sends_flooded trx channelCapacity
    (by rw [writer]; exact nofun) (by rw [channel]; exact le_rfl)
  refine ⟨next, _, (filling.trans loading).trans flooding, still.trans writer, ?_, ?_⟩
  · rw [length', channel]
    rfl
  · rw [same, pipe, length, fits]

theorem stuck_of_full
    (readers : ∀ side, (pair.ends side).reader.isQueueing = true)
    (channels : ∀ side, (pair.ends side).channel.length = channelCapacity)
    (writers : ∀ side, ∃ emission, (pair.ends side).writer = .registered emission)
    (pipes : ∀ side, (pair.pipe side).length = pairing.capacity) : pairing.Stuck pair := by
  intro side event works
  have reader := readers side
  obtain ⟨emission, writer⟩ := writers side
  have full := channels side
  have pipe := pipes side.other
  have blocked : (pairing.allows pair side event = true →
      (pair.ends side).step (pairing.endpoint side) event = none) →
      pairing.step pair (side, event) = none := by
    intro never
    unfold step
    dsimp only
    split
    · rename_i allowed
      rw [never allowed]
      rfl
    · rfl
  apply blocked
  cases stage : (pair.ends side).reader with
  | queueing place frame cursor control =>
    have noRoom : ¬ (pair.ends side).channel.length < channelCapacity := by omega
    cases event with
    | write outcome =>
      cases outcome with
      | failed => cases works
      | accepted count =>
        intro allowed
        have none : (pair.pipe side.other).length + count ≤ pairing.capacity :=
          of_decide_eq_true allowed
        simp only [Session.step, Session.write, writer]
        have refused : ¬ (WriteOutcome.accepted count).Permitted emission.frame.pdu := by
          rintro ⟨positive, -⟩
          omega
        rw [if_neg refused]
    | receive piece =>
      intro
      simp [Session.step, Session.receive, stage]
    | extract =>
      intro
      simp only [Session.step, Session.extract, stage]
    | enqueueReply =>
      intro
      simp [Session.step, Session.enqueueReply, stage, writer, noRoom]
    | enqueueNumber =>
      intro
      simp only [Session.step, Session.enqueueNumber, stage]
    | unbound resp =>
      intro
      simp only [Session.step, Session.unbound, stage]
    | close =>
      intro
      simp [Session.step, Session.close, stage]
    | check =>
      intro
      simp [Session.step, Session.check, writer]
    | take =>
      intro
      simp only [Session.step, Session.take, writer]
    | register =>
      intro
      simp only [Session.step, Session.register, writer]
    | rollback =>
      intro
      simp only [Session.step, Session.rollback, writer]
    | _ => cases works
  | _ =>
    rw [stage] at reader
    cases reader

end Pairing

theorem enquire_link_waits (endpoint : Endpoint) {session : Session} {number : UInt32}
    (stage : session.reader = .extracting 0)
    (buffer : session.buffer = (EnquireLink.new number).encode)
    (running : session.writer ≠ .stopped) (full : session.channel.length = channelCapacity) :
    ∃ next, session.step endpoint .extract = some next ∧ next.reader.isQueueing = true ∧
      next.channel = session.channel ∧ next.writer = session.writer := by
  have whole : nextPdu session.buffer 0 = .complete 16 := by
    have framed := frameFirstPdu_encode (EnquireLink.new number).header [] [] rfl
      (show 16 + [].length ≤ maxPduLen by decide)
    rw [List.append_nil, List.append_nil] at framed
    rw [nextPdu_eq, buffer]
    exact framed
  have coming := Session.upcoming_eq stage whole
  have pdu : (session.buffer.drop 0).take 16 = (EnquireLink.new number).encode := by
    rw [buffer]
    rfl
  rw [pdu] at coming
  have framed : CommandHeader.decode (EnquireLink.new number).encode =
      .ok (EnquireLink.new number).header := by
    have decoded := CommandHeader.decode_encode (EnquireLink.new number).header []
    rw [List.append_nil] at decoded
    exact decoded.trans (if_pos rfl)
  have branch : endpoint.branch (EnquireLink.new number).header (EnquireLink.new number).encode =
      .reply (EnquireLink.new number).accept.encode := by
    unfold Endpoint.branch
    rw [branch_enquireLink endpoint.side rfl]
    rfl
  have noRoom : ¬ session.channel.length < channelCapacity := by omega
  have waits : session.takeUp endpoint (EnquireLink.new number).encode 0 =
      { session with
        received := session.received ++ [(EnquireLink.new number).encode]
        reader := .queueing session.received.length (EnquireLink.new number).accept.encode
          (0 + (EnquireLink.new number).encode.length) .proceed } := by
    simp only [Session.takeUp, framed, Session.dispatch, branch, Session.reply, if_neg running,
      if_neg noRoom]
  exact ⟨_, Session.extract_upcoming coming, by rw [waits]; rfl, by rw [waits], by rw [waits]⟩

namespace Session

structure Asked (session : Session) (number : UInt32) : Prop where
  reader : session.reader = .extracting 0
  buffer : session.buffer = (EnquireLink.new number).encode
  alive : session.alive = true
  writer : session.writer = .checking
  channel : session.channel = []

instance (session : Session) (number : UInt32) : Decidable (session.Asked number) :=
  decidable_of_iff (session.reader = .extracting 0 ∧
    session.buffer = (EnquireLink.new number).encode ∧ session.alive = true ∧
    session.writer = .checking ∧ session.channel = [])
    ⟨fun ⟨reader, buffer, alive, writer, channel⟩ => ⟨reader, buffer, alive, writer, channel⟩,
    fun ⟨reader, buffer, alive, writer, channel⟩ => ⟨reader, buffer, alive, writer, channel⟩⟩

structure Pressed (session : Session) (number : UInt32) : Prop where
  reader : session.reader = .extracting 0
  buffer : session.buffer = (EnquireLink.new number).encode
  writer : ∃ emission, session.writer = .registered emission
  channel : session.channel.length = channelCapacity

/-- The read loop waits for the writer, and the writer for the pipe. -/
structure Blocked (session : Session) : Prop where
  reader : session.reader.isQueueing = true
  writer : ∃ emission, session.writer = .registered emission
  channel : session.channel.length = channelCapacity

theorem Asked.pressed {pairing : Pairing} {pair : Pair} {side : Side} {number : UInt32}
    (asked : (pair.ends side).Asked number) (trx : pairing.bound = .trx) {count : Nat}
    (fits : (pair.pipe side.other).length + 26 * count = pairing.capacity) :
    ∃ next, pairing.Sends side pair next ∧ (next.ends side).Pressed number ∧
      (next.pipe side.other).length = pairing.capacity := by
  obtain ⟨next, emission, sends, writer, channel, pipe⟩ := Pairing.sends_saturated trx count
    ⟨asked.alive, asked.writer, asked.channel⟩ fits
  exact ⟨next, sends, ⟨sends.reader.trans asked.reader, sends.buffer.trans asked.buffer,
    ⟨emission, writer⟩, channel⟩, pipe⟩

theorem Pressed.blocked {pairing : Pairing} {pair : Pair} {side : Side} {number : UInt32}
    (pressed : (pair.ends side).Pressed number) :
    ∃ next, pairing.step pair (side, .extract) = some next ∧ (next.ends side).Blocked ∧
      next.ends side.other = pair.ends side.other ∧ next.pipe = pair.pipe := by
  obtain ⟨emission, writer⟩ := pressed.writer
  obtain ⟨session, stepped, queueing, channel, sameWriter⟩ := enquire_link_waits
    (pairing.endpoint side) pressed.reader pressed.buffer (by rw [writer]; exact nofun)
    pressed.channel
  have taken := Pairing.step_internal rfl stepped
  have here : (⟨Function.update pair.ends side session, pair.pipe⟩ : Pair).ends side = session :=
    Function.update_self side session pair.ends
  refine ⟨_, taken, ?_, Function.update_of_ne (Side.other_ne side) _ _, rfl⟩
  rw [here]
  exact ⟨queueing, ⟨emission, sameWriter.trans writer⟩, channel ▸ pressed.channel⟩

end Session

/-- Both ends have an enquire_link before them when their callers fill the pipes and the channels:
    each read loop waits for its writer, and each writer for the other read loop. -/
theorem standstill :
    let pairing : Pairing := ⟨.trx, fun _ => 60, fun _ => 600, 65520⟩
    ∃ moves pair, run pairing.step pairing.start moves = some pair ∧ ¬ pairing.Live pair := by
  intro pairing
  have asks : (run pairing.step pairing.start
      [(.client, .tick), (.client, .enqueue 0), (.client, .check), (.client, .take),
        (.client, .register), (.client, .write (.accepted 16)),
        (.server, .receive (EnquireLink.new 2).encode),
        (.server, .tick), (.server, .enqueue 0), (.server, .check), (.server, .take),
        (.server, .register), (.server, .write (.accepted 16)),
        (.client, .receive (EnquireLink.new 1).encode)]).any (fun pair =>
          (pair.ends .client).Asked 1 ∧ (pair.ends .server).Asked 2 ∧
            pair.pipe .client = [] ∧ pair.pipe .server = []) = true := by decide +kernel
  obtain ⟨quiet, reached, facts⟩ := (Option.any_eq_true _ _).mp asks
  obtain ⟨askedClient, askedServer, toClient, toServer⟩ := of_decide_eq_true facts
  -- the client's callers fill the pipe to the server, then the server's the pipe to the client
  obtain ⟨half, fromClient, pressedClient, fullToServer⟩ := @Session.Asked.pressed pairing quiet .client _
    askedClient rfl 2520 (by rw [show quiet.pipe Side.client.other = [] from toServer]; rfl)
  have askedStill : (half.ends .server).Asked 2 := by
    rw [show half.ends .server = quiet.ends .server from fromClient.other]
    exact askedServer
  obtain ⟨full, fromServer, pressedServer, fullToClient⟩ := @Session.Asked.pressed pairing half .server _
    askedStill rfl 2520 (by
      rw [show half.pipe Side.server.other = [] from fromClient.pipe.trans toClient]
      rfl)
  have pressedStill : (full.ends .client).Pressed 1 := by
    rw [show full.ends .client = half.ends .client from fromServer.other]
    exact pressedClient
  -- and now both read loops come to the enquire_link
  obtain ⟨waiting, first, blockedClient, sameServer, samePipes⟩ :=
    @Session.Pressed.blocked pairing _ _ _ pressedStill
  have pressedServer : (waiting.ends .server).Pressed 2 := by
    rw [show waiting.ends .server = full.ends .server from sameServer]
    exact pressedServer
  obtain ⟨pair, second, blockedServer, sameClient, samePipesAgain⟩ :=
    @Session.Pressed.blocked pairing _ _ _ pressedServer
  have blockedClient : (pair.ends .client).Blocked := by
    rw [show pair.ends .client = waiting.ends .client from sameClient]
    exact blockedClient
  have blocked : ∀ side, (pair.ends side).Blocked := by
    intro side
    cases side <;> assumption
  have pipes : ∀ side, (pair.pipe side).length = pairing.capacity := by
    intro side
    rw [samePipesAgain, samePipes]
    cases side with
    | client => exact fullToClient
    | server =>
      rw [show full.pipe .server = half.pipe .server from fromServer.pipe]
      exact fullToServer
  have stuck : pairing.Stuck pair :=
    Pairing.stuck_of_full (fun side => (blocked side).reader) (fun side => (blocked side).channel)
      (fun side => (blocked side).writer) pipes
  have isOpen : pair.IsOpen := by
    intro side
    have queueing := (blocked side).reader
    revert queueing
    cases (pair.ends side).reader <;> first | exact fun _ => rfl | exact nofun
  have busy : pair.Busy := by
    refine ⟨.client, .inl fun empty => ?_⟩
    have queued := (blocked .client).channel
    rw [empty] at queued
    cases queued
  obtain ⟨sending, sent⟩ := fromClient.reached
  obtain ⟨sendingMore, sentMore⟩ := fromServer.reached
  have toFull := Machine.run_append (Machine.run_append reached sent) sentMore
  have toEnd := Machine.run_append (Machine.run_single first) (Machine.run_single second)
  refine ⟨_, pair, Machine.run_append toFull toEnd, fun live => ?_⟩
  obtain ⟨side, event, next, works, taken⟩ := live isOpen busy
  rw [stuck side event works] at taken
  cases taken

end Smpp34
