import Smpp34.Session.Client
import Smpp34.Session.Delivery
import Smpp34.Session.Handshake

namespace Smpp34

open Octets
open Machine (run Throughout)
open Utf8 (Str)

/-- What the two ends bring to a connection; the client makes its bind with number 1. -/
structure Terms where
  settings : ClientSettings
  timers : ServerTimers
  bind : BindRequest settings.bindType
  built : ∃ systemId password systemType ton npi range,
    BindRequest.new settings.bindType 1 systemId password systemType ton npi range = some bind

/-- The client's task, the server's, and the octets on their way to each end. -/
structure Line where
  asked : Bool
  task : SessionTask
  incoming : Incoming
  pipe : Side → Bytes

inductive LineEvent where
  | ask (outcome : WriteOutcome)
  | read (piece : Bytes)
  | giveUp
  | abort
  | client (event : Event)
  | answer (verdict : Verdict) (outcomes : List WriteOutcome)
  | endOfStream (outcomes : List WriteOutcome)
  | server (event : IncomingEvent)

/-- What an event reads from the socket: nothing while octets are left from the handshake. -/
def fetched (leftover : Bytes) (event : Event) : Bytes := if leftover = [] then event.piece else []

def Phase.firstPdu : Phase → Option Bytes
  | .handshake buffer =>
    match frameFirstPdu buffer maxPduLen with
    | .complete size => some (buffer.take size)
    | .invalid _ => some []
    | .incomplete => none
  | _ => none

def sendVerdict (pdu : Bytes) (verdict : Verdict) (outcomes : List WriteOutcome) :
    Bytes × Option BindKind :=
  match serverReply (fun _ request => request.respond verdict) pdu with
  | some reply => reply.send outcomes
  | none => ([], none)

namespace Line

def start : Line := ⟨false, .binding [], .start, fun _ => []⟩

def gone (line : Line) : Side → Bool
  | .client =>
    match line.task with
    | .binding _ => false
    | .bound _ session => session.writer = .stopped
    | .finished => true
  | .server =>
    match line.incoming.phase with
    | .handshake _ => false
    | .refused => true
    | .bound hosted => hosted.watch.session.writer = .stopped

def took (pipe : Side → Bytes) (side : Side) (piece : Bytes) : Side → Bytes :=
  Function.update pipe side ((pipe side).drop piece.length)

def put (pipe : Side → Bytes) (side : Side) (bytes : Bytes) : Side → Bytes :=
  Function.update pipe side (pipe side ++ bytes)

def lets (line : Line) (side : Side) (leftover : Bytes) : Event → Bool
  | .hangUp => line.gone side.other
  | event => (fetched leftover event).isPrefixOf (line.pipe side)

def carry (line : Line) (side : Side) (leftover : Bytes) (session : Session) (event : Event) :
    Side → Bytes :=
  put (took line.pipe side (fetched leftover event)) side.other (Pairing.written session event)

section Client

variable (terms : Terms) (line : Line)

def ask (outcome : WriteOutcome) : Option Line :=
  match line.task with
  | .binding _ =>
    if line.asked then none
    else if outcome = .failed then some { line with asked := true, task := .finished }
    else
      some
        { line with
          asked := true
          pipe := put line.pipe .server (sendBindRequest terms.bind outcome) }
  | _ => none

def read (piece : Bytes) : Option Line :=
  match line.task with
  | .binding buffer =>
    if line.asked && piece ≠ [] && piece.isPrefixOf (line.pipe .client) then
      some
        { line with
          task := SessionTask.handshake terms.settings (buffer ++ piece)
          pipe := took line.pipe .client piece }
    else none
  | _ => none

def giveUp : Option Line :=
  match line.task with
  | .binding _ => some { line with task := .finished }
  | _ => none

def client (event : Event) : Option Line :=
  match line.task with
  | .bound leftover session =>
    if SessionTask.permits leftover event && line.lets .client leftover event then
      (session.step terms.settings.endpoint event).map fun next =>
        { line with
          task := .bound (leftover.drop event.piece.length) next
          pipe := line.carry .client leftover session event }
    else none
  | _ => none

end Client

section Server

variable (terms : Terms) (line : Line)

/-- The server answers the first PDU, and opens the session if an accepting response is out. -/
def answer (verdict : Verdict) (outcomes : List WriteOutcome) : Option Line :=
  match line.incoming.phase.firstPdu with
  | some pdu =>
    let sent := sendVerdict pdu verdict outcomes
    (line.incoming.step terms.timers (.bind verdict sent.2.isSome)).map fun incoming =>
      { line with incoming, pipe := put line.pipe .client sent.1 }
  | none => none

/-- The stream ended before a whole PDU: the empty one in its place is nacked. -/
def endOfStream (outcomes : List WriteOutcome) : Option Line :=
  if line.gone .client then
    (line.incoming.step terms.timers .giveUp).map fun incoming =>
      { line with
        incoming
        pipe := put line.pipe .client (writeAll (nack .ESME_RINVCMDLEN 0) outcomes) }
  else none

def server : IncomingEvent → Option Line
  | .bind _ _ => none
  | .arrive piece =>
    if piece.isPrefixOf (line.pipe .server) then
      (line.incoming.step terms.timers (.arrive piece)).map fun incoming =>
        { line with incoming, pipe := took line.pipe .server piece }
    else none
  | .act event =>
    match line.incoming.phase with
    | .bound hosted =>
      if line.lets .server hosted.leftover event then
        (line.incoming.step terms.timers (.act event)).map fun incoming =>
          { line with
            incoming
            pipe := line.carry .server hosted.leftover hosted.watch.session event }
      else none
    | _ => none
  | event =>
    (line.incoming.step terms.timers event).map fun incoming => { line with incoming }

end Server

def step (terms : Terms) (line : Line) : LineEvent → Option Line
  | .ask outcome => line.ask terms outcome
  | .read piece => line.read terms piece
  | .giveUp => line.giveUp
  | .abort => some { line with task := line.task.abort terms.settings }
  | .client event => line.client terms event
  | .answer verdict outcomes => line.answer terms verdict outcomes
  | .endOfStream outcomes => line.endOfStream terms outcomes
  | .server event => line.server terms event

end Line

def Callback.binds : Callback → Bool
  | onBind _ _ _ => true
  | _ => false

/-- The listener was asked for the client's bind and nothing else, and has accepted it. -/
structure Line.Welcomed (terms : Terms) (line : Line) (request : BindRequest terms.settings.bindType)
    (resp : BindResp terms.settings.bindType) (later : List Callback) : Prop where
  trace : line.incoming.trace = .onBind terms.settings.bindType request resp :: later
  decoded : BindRequest.decode terms.settings.bindType terms.bind.header terms.bind.encode =
    .ok request
  own : terms.bind.toBindFields.WellFormed → request = terms.bind
  accepted : resp.isSuccess = true
  once : ∀ callback ∈ later, callback.binds = false

/-- A client that is bound faces a session of its own kind, which the listener has accepted on the
    client's own bind. -/
structure Line.Agrees (terms : Terms) (line : Line) : Prop where
  together : line.task.isBound = true → line.incoming.phase.kind = some terms.settings.bindType
  welcomed : ∀ kind, line.incoming.phase.kind = some kind →
    kind = terms.settings.bindType ∧ ∃ request resp later, line.Welcomed terms request resp later
  shown : terms.bind.toBindFields.WellFormed → ∀ callback ∈ line.incoming.trace,
    callback.binds = true → ∃ resp, callback = .onBind terms.settings.bindType terms.bind resp

namespace SessionTask

variable {settings : ClientSettings} {buffer other : Bytes}

theorem handshake_binding (waits : handshake settings buffer = .binding other) :
    other = buffer := by
  unfold handshake at waits
  split at waits
  · cases waits
    rfl
  · cases waits
  · split at waits
    · cases waits
    · split at waits <;> cases waits

theorem abort_isBound {task : SessionTask} (unbound : task.isBound = false) :
    task.abort settings = .finished := by
  cases task with
  | bound leftover session => cases unbound
  | binding buffer => rfl
  | finished => rfl

end SessionTask

/-- A client that reads no more than this is not bound by it. -/
def Refuses (settings : ClientSettings) (refusal : Bytes) : Prop :=
  ∀ buffer, buffer <+: refusal → (SessionTask.handshake settings buffer).isBound = false

section Refusal

variable {settings : ClientSettings} {header : CommandHeader} {refusal front : Bytes}

theorem Refuses.part (refuses : Refuses settings refusal) (part : front <+: refusal) :
    Refuses settings front :=
  fun buffer first => refuses buffer (first.trans part)

theorem refuses_nothing (settings : ClientSettings) : Refuses settings [] := by
  intro buffer part
  rw [List.prefix_nil.mp part]
  rfl

theorem refuses_header (failed : header.commandStatus ≠ SmppError.ESME_ROK.code) :
    Refuses settings header.encode := by
  intro buffer part
  unfold SessionTask.handshake
  split
  · rfl
  · rfl
  · rename_i size whole
    split
    · rfl
    · rename_i found framed
      obtain ⟨low, -, fits, -⟩ := frameFirstPdu_complete whole
      have long := part.length_le
      rw [CommandHeader.encode_length] at long
      have all : buffer.take size = header.encode := by
        rw [List.take_of_length_le (by omega)]
        exact part.eq_of_length (by rw [CommandHeader.encode_length]; omega)
      have same : found = header := by
        rw [all, ← List.append_nil header.encode] at framed
        exact framed_header framed
      rw [clientBind, if_neg fun bound => failed (same ▸ bound.2.1)]
      rfl

theorem writeAll_part (pdu : Bytes) (outcomes : List WriteOutcome) :
    writeAll pdu outcomes <+: pdu := by
  induction outcomes generalizing pdu with
  | nil => exact List.nil_prefix
  | cons outcome outcomes ih =>
    cases outcome with
    | failed => exact List.nil_prefix
    | accepted count =>
      rw [writeAll]
      split
      · exact List.nil_prefix
      · obtain ⟨rest, whole⟩ := ih (pdu.drop count)
        refine ⟨rest, ?_⟩
        rw [List.append_assoc, whole, List.take_append_drop]

end Refusal

namespace Terms

variable (terms : Terms)

theorem bind_headed :
    terms.bind.header.commandId = terms.settings.bindType.commandId.value ∧
      terms.bind.header.sequenceNumber = 1 := by
  obtain ⟨systemId, password, systemType, ton, npi, range, made⟩ := terms.built
  rw [BindRequest.new] at made
  split at made
  · rw [← Option.some.inj made]
    exact ⟨rfl, rfl⟩
  · cases made

theorem bind_length : terms.bind.encode.length < 99 := by
  obtain ⟨systemId, password, systemType, ton, npi, range, made⟩ := terms.built
  rw [BindRequest.new] at made
  split at made
  · rename_i bounds
    have size := BindFields.encode_length terms.bind.toBindFields
    rw [BindRequest.encode, List.length_append, CommandHeader.encode_length, size,
      ← Option.some.inj made]
    dsimp only
    omega
  · cases made

theorem bind_whole : Whole terms.bind.encode := by
  obtain ⟨systemId, password, systemType, ton, npi, range, made⟩ := terms.built
  have short := terms.bind_length
  have told := BindRequest.new_self_delimiting made (by omega)
  rw [BindRequest.encode, selfDelimiting_iff] at told
  have framed := frameFirstPdu_encode terms.bind.header terms.bind.toBindFields.encode []
    told (Nat.le_trans (Nat.le_of_lt (by
      rw [BindRequest.encode, List.length_append, CommandHeader.encode_length] at short
      exact short)) (by decide) : _ ≤ maxPduLen)
  rw [List.append_nil] at framed
  unfold Whole
  rw [BindRequest.encode, framed, List.length_append, CommandHeader.encode_length]

theorem bind_framed : CommandHeader.decode terms.bind.encode = .ok terms.bind.header := by
  obtain ⟨header, framed⟩ := Pairing.whole_framed terms.bind_whole
  rw [framed, framed_header framed]

theorem firstPdu_eq {buffer pdu : Bytes} (part : buffer <+: terms.bind.encode)
    (first : (Phase.handshake buffer).firstPdu = some pdu) :
    pdu = terms.bind.encode ∧ buffer = terms.bind.encode ∧
      frameFirstPdu buffer maxPduLen = .complete buffer.length := by
  obtain ⟨rest, split⟩ := part
  have whole := terms.bind_whole
  unfold Whole at whole
  unfold Phase.firstPdu at first
  dsimp only at first
  cases framed : frameFirstPdu buffer maxPduLen with
  | incomplete =>
    rw [framed] at first
    cases first
  | invalid length =>
    have bad := frameFirstPdu_append_invalid rest framed
    rw [split, whole] at bad
    cases bad
  | complete size =>
    rw [framed] at first
    have same := frameFirstPdu_append_complete rest framed
    rw [split, whole] at same
    cases same
    have fits := (frameFirstPdu_complete framed).2.2.1
    have all : buffer = terms.bind.encode := List.IsPrefix.eq_of_length ⟨rest, split⟩
      (Nat.le_antisymm (List.IsPrefix.length_le ⟨rest, split⟩) fits)
    dsimp only at first
    rw [all, List.take_length] at first
    exact ⟨(Option.some.inj first).symm, all, by rw [all]⟩

end Terms

inductive Replied (terms : Terms) (incoming : Incoming) (verdict : Verdict)
    (outcomes : List WriteOutcome) : Bytes → Incoming → Prop
  | accepts {request : BindRequest terms.settings.bindType} {outcome : WriteOutcome}
      (decoded : BindRequest.decode terms.settings.bindType terms.bind.header terms.bind.encode =
        .ok request)
      (success : (request.respond verdict).isSuccess = true)
      (replied : serverReply (fun _ request => request.respond verdict) terms.bind.encode =
        some ⟨(request.respond verdict).encode, some terms.settings.bindType⟩)
      (first : outcomes.head? = some outcome) (written : outcome ≠ .failed) :
      Replied terms incoming verdict outcomes (write (request.respond verdict).encode outcome)
        { incoming with
          phase := .bound ⟨terms.settings.bindType, false, [],
            Watch.start (terms.timers.endpoint terms.settings.bindType), []⟩
          trace := incoming.trace ++
            [.onBind terms.settings.bindType request (request.respond verdict)] }
  | rejects {request : BindRequest terms.settings.bindType} {bytes : Bytes}
      (decoded : BindRequest.decode terms.settings.bindType terms.bind.header terms.bind.encode =
        .ok request) (refuses : Refuses terms.settings bytes) :
      Replied terms incoming verdict outcomes bytes
        { incoming with
          phase := .refused
          trace := incoming.trace ++
            [.onBind terms.settings.bindType request (request.respond verdict)] }
  | undecoded {bytes : Bytes} (refuses : Refuses terms.settings bytes) :
      Replied terms incoming verdict outcomes bytes { incoming with phase := .refused }

section Answer

variable {terms : Terms} {verdict : Verdict} {outcomes : List WriteOutcome}

theorem bind_chain {α : Type} (branch : BindKind → α) (other : α) {kind : BindKind} {id : UInt32}
    (named : id = kind.commandId.value) :
    (if id = CommandId.bindReceiver.value then branch .receiver
      else if id = CommandId.bindTransmitter.value then branch .transmitter
      else if id = CommandId.bindTransceiver.value then branch .transceiver
      else other) = branch kind := by
  subst named
  cases kind with
  | receiver => exact if_pos rfl
  | transmitter =>
    rw [if_neg (by decide)]
    exact if_pos rfl
  | transceiver =>
    rw [if_neg (by decide), if_neg (by decide)]
    exact if_pos rfl

theorem serverReply_headed {onBind : OnBind} {kind : BindKind} {header : CommandHeader}
    {pdu : Bytes} (framed : CommandHeader.decode pdu = .ok header)
    (named : header.commandId = kind.commandId.value) :
    serverReply onBind pdu = bindReply onBind kind header pdu := by
  unfold serverReply
  rw [framed]
  dsimp only
  exact bind_chain (fun kind => bindReply onBind kind header pdu) _ named

theorem bindFirst_headed {timers : ServerTimers} {incoming : Incoming} {kind : BindKind}
    {header : CommandHeader} {pdu : Bytes} (framed : CommandHeader.decode pdu = .ok header)
    (named : header.commandId = kind.commandId.value) (leftover : Bytes) (written : Bool) :
    incoming.bindFirst timers pdu leftover verdict written =
      incoming.bindWith timers kind header pdu leftover verdict written := by
  unfold Incoming.bindFirst
  rw [framed]
  dsimp only
  exact bind_chain
    (fun kind => incoming.bindWith timers kind header pdu leftover verdict written) _ named

theorem reject_refuses {settings : ClientSettings} {kind : BindKind} {resp : BindResp kind}
    (failed : resp.isSuccess = false) (bare : resp.scInterfaceVersion = none) :
    Refuses settings resp.encode := by
  have status : resp.header.commandStatus ≠ SmppError.ESME_ROK.code := of_decide_eq_false failed
  have encoded : resp.encode = resp.header.encode := by
    rw [BindResp.encode, if_neg status, bare]
    exact List.append_nil _
  rw [encoded]
  exact refuses_header status

theorem respond_bare {kind : BindKind} {request : BindRequest kind}
    (failed : (request.respond verdict).isSuccess = false) :
    (request.respond verdict).scInterfaceVersion = none := by
  cases verdict with
  | accept args =>
    have success : (request.respond (.accept args)).isSuccess = true := decide_eq_true rfl
    rw [failed] at success
    cases success
  | reject error => rfl
  | genericReject number error => rfl

theorem sendVerdict_eq {pdu : Bytes} {reply : Reply}
    (replied : serverReply (fun _ request => request.respond verdict) pdu = some reply) :
    sendVerdict pdu verdict outcomes = reply.send outcomes := by
  rw [sendVerdict, replied]

/-- The server binds the client exactly when the response that says so has been written. -/
theorem bindWith_replied (terms : Terms) (incoming : Incoming) (verdict : Verdict)
    (outcomes : List WriteOutcome) :
    Replied terms incoming verdict outcomes
      (sendVerdict terms.bind.encode verdict outcomes).1
      (incoming.bindWith terms.timers terms.settings.bindType terms.bind.header
        terms.bind.encode [] verdict (sendVerdict terms.bind.encode verdict outcomes).2.isSome) := by
  have replies := @serverReply_headed (fun _ request => request.respond verdict) _ _ _
    terms.bind_framed terms.bind_headed.1
  have long := (CommandHeader.decode_ok_eq terms.bind_framed).2.1
  unfold bindReply at replies
  rcases BindRequest.decode_cases terms.settings.bindType terms.bind.header long with
    ⟨request, decoded, -⟩ | undecoded
  · rw [decoded] at replies
    dsimp only at replies
    unfold Incoming.bindWith
    rw [decoded, sendVerdict_eq replies]
    dsimp only
    cases success : (request.respond verdict).isSuccess with
    | false =>
      refine .rejects decoded ?_
      have refuses := @reject_refuses terms.settings _ _ success (respond_bare success)
      exact refuses.part (writeAll_part _ _)
    | true =>
      rw [success, if_pos rfl] at replies
      cases outcomes with
      | nil => exact .rejects decoded (refuses_nothing terms.settings)
      | cons outcome later =>
        by_cases failed : outcome = .failed
        · subst failed
          exact .rejects decoded (refuses_nothing terms.settings)
        · simp only [Reply.send, if_true, if_neg failed, Option.isSome_some, Bool.and_true]
          exact .accepts decoded success replies rfl failed
  · rw [undecoded] at replies
    unfold Incoming.bindWith
    rw [undecoded, sendVerdict_eq replies]
    refine .undecoded ?_
    have refuses : Refuses terms.settings (BindRequest.genericReject terms.settings.bindType
        (potentialSeqNo terms.bind.encode) .ESME_RINVPARLEN).encode :=
      reject_refuses rfl rfl
    exact refuses.part (writeAll_part _ _)

end Answer

def Callback.Sent (terms : Terms) (callback : Callback) : Prop :=
  ∃ request resp, callback = .onBind terms.settings.bindType request resp ∧
    BindRequest.decode terms.settings.bindType terms.bind.header terms.bind.encode = .ok request

structure Shown (terms : Terms) (incoming : Incoming) : Prop where
  silent : ∀ buffer, incoming.phase = .handshake buffer → incoming.trace = []
  sent : ∀ callback ∈ incoming.trace, callback.binds = true → callback.Sent terms
  accepted : ∀ hosted, incoming.phase = .bound hosted → ∃ request resp later,
    incoming.trace = .onBind terms.settings.bindType request resp :: later ∧
      BindRequest.decode terms.settings.bindType terms.bind.header terms.bind.encode =
        .ok request ∧
      resp.isSuccess = true ∧ ∀ callback ∈ later, callback.binds = false

namespace Shown

variable {terms : Terms} {incoming next : Incoming}

theorem start (terms : Terms) : Shown terms .start where
  silent _ _ := rfl
  sent _ member := absurd member List.not_mem_nil
  accepted _ phase := by cases phase

theorem more (shown : Shown terms incoming) {hosted hosted' : Hosted} {later : List Callback}
    (before : incoming.phase = .bound hosted) (phase : next.phase = .bound hosted')
    (trace : next.trace = incoming.trace ++ later)
    (others : ∀ callback ∈ later, callback.binds = false) : Shown terms next := by
  constructor
  · intro buffer handshake
    rw [phase] at handshake
    cases handshake
  · intro callback member binds
    rw [trace] at member
    rcases List.mem_append.mp member with old | new
    · exact shown.sent callback old binds
    · rw [others callback new] at binds
      cases binds
  · intro _ _
    obtain ⟨request, resp, rest, first, decoded, success, once⟩ := shown.accepted hosted before
    refine ⟨request, resp, rest ++ later, ?_, decoded, success, ?_⟩
    · rw [trace, first, List.cons_append]
    · intro callback member
      rcases List.mem_append.mp member with old | new
      · exact once callback old
      · exact others callback new

theorem refused (shown : Shown terms incoming) (phase : next.phase = .refused)
    (trace : next.trace = incoming.trace) : Shown terms next := by
  constructor
  · intro buffer handshake
    rw [phase] at handshake
    cases handshake
  · rw [trace]
    exact shown.sent
  · intro hosted bound
    rw [phase] at bound
    cases bound

theorem bind (shown : Shown terms incoming) {buffer : Bytes}
    (before : incoming.phase = .handshake buffer) {request : BindRequest terms.settings.bindType}
    {resp : BindResp terms.settings.bindType}
    (decoded : BindRequest.decode terms.settings.bindType terms.bind.header terms.bind.encode =
      .ok request)
    (trace : next.trace = incoming.trace ++ [.onBind terms.settings.bindType request resp])
    (phase : next.phase = .refused ∨
      resp.isSuccess = true ∧ ∃ hosted, next.phase = .bound hosted) : Shown terms next := by
  rw [shown.silent buffer before, List.nil_append] at trace
  constructor
  · intro buffer handshake
    rw [handshake] at phase
    rcases phase with other | ⟨-, hosted, other⟩
    · cases other
    · cases other
  · intro callback member _
    rw [trace] at member
    exact ⟨request, resp, List.mem_singleton.mp member, decoded⟩
  · intro hosted bound
    rw [bound] at phase
    rcases phase with other | ⟨success, -⟩
    · cases other
    · exact ⟨request, resp, [], trace, decoded, success, fun _ member => by cases member⟩

end Shown

namespace Line

/-- What the two ends know of each other before and behind the bind. Until the server has answered,
    nothing is on its way to the client; a refusal stays a refusal as far as it is read. -/
def Sound (terms : Terms) (line : Line) : Prop :=
  match line.incoming.phase with
  | .handshake buffer =>
    line.task.isBound = false ∧ line.pipe .client = [] ∧
      (∀ read, line.task = .binding read → read = []) ∧
      buffer ++ line.pipe .server <+: terms.bind.encode ∧
      (line.asked = false → buffer ++ line.pipe .server = [])
  | .refused =>
    line.task.isBound = false ∧
      ∀ read, line.task = .binding read → Refuses terms.settings (read ++ line.pipe .client)
  | .bound hosted => hosted.kind = terms.settings.bindType ∧ line.asked = true

variable {terms : Terms} {line next : Line}

@[simp] theorem put_self (pipe : Side → Bytes) (side : Side) (bytes : Bytes) :
    put pipe side bytes side = pipe side ++ bytes :=
  Function.update_self side _ pipe

@[simp] theorem took_self (pipe : Side → Bytes) (side : Side) (piece : Bytes) :
    took pipe side piece side = (pipe side).drop piece.length :=
  Function.update_self side _ pipe

theorem put_of_ne {pipe : Side → Bytes} {side any : Side} (other : any ≠ side) (bytes : Bytes) :
    put pipe side bytes any = pipe any :=
  Function.update_of_ne other _ pipe

theorem took_of_ne {pipe : Side → Bytes} {side any : Side} (other : any ≠ side) (piece : Bytes) :
    took pipe side piece any = pipe any :=
  Function.update_of_ne other _ pipe

theorem start_sound (terms : Terms) : Line.start.Sound terms := by
  refine ⟨rfl, rfl, ?_, List.nil_prefix, fun _ => rfl⟩
  intro read same
  cases same
  rfl

theorem Sound.bound_phase (sound : line.Sound terms) (bound : line.task.isBound = true) :
    ∃ hosted, line.incoming.phase = .bound hosted ∧ hosted.kind = terms.settings.bindType ∧
      line.asked = true := by
  unfold Sound at sound
  split at sound
  · rw [sound.1] at bound
    cases bound
  · rw [sound.1] at bound
    cases bound
  · exact ⟨_, ‹_›, sound⟩

theorem sound_of_bound {hosted : Hosted} (phase : line.incoming.phase = .bound hosted)
    (bound : hosted.kind = terms.settings.bindType ∧ line.asked = true) : line.Sound terms := by
  unfold Sound
  rw [phase]
  exact bound

theorem Sound.bound (sound : line.Sound terms) {hosted : Hosted}
    (phase : line.incoming.phase = .bound hosted) :
    hosted.kind = terms.settings.bindType ∧ line.asked = true := by
  unfold Sound at sound
  rw [phase] at sound
  exact sound

theorem Sound.settled (sound : line.Sound terms) {task : SessionTask} (asked : Bool)
    (binding : task.isBinding = false) (bound : task.isBound = false)
    (later : line.asked = true → asked = true) :
    Line.Sound terms { line with task := task, asked := asked } := by
  have never : ∀ {read : Bytes} {holds : Prop}, task = .binding read → holds := by
    intro read holds same
    rw [same] at binding
    cases binding
  unfold Sound at sound ⊢
  dsimp only
  split at sound
  · obtain ⟨-, quiet, -, part, before⟩ := sound
    refine ⟨bound, quiet, fun _ => never, part, ?_⟩
    intro unasked
    apply before
    by_contra asking
    rw [later (eq_true_of_ne_false asking)] at unasked
    cases unasked
  · exact ⟨bound, fun _ => never⟩
  · exact ⟨sound.1, later sound.2⟩

theorem write_prefix (pdu : Bytes) (outcome : WriteOutcome) : write pdu outcome <+: pdu := by
  cases outcome with
  | failed => exact List.nil_prefix
  | accepted count => exact List.take_prefix count pdu

theorem ask_sound {outcome : WriteOutcome} (sound : line.Sound terms)
    (taken : line.ask terms outcome = some next) : next.Sound terms := by
  unfold ask at taken
  split at taken
  · rename_i buffer task
    split at taken
    · cases taken
    · rename_i unasked
      split at taken
      · cases taken
        exact sound.settled true rfl rfl fun _ => rfl
      · cases taken
        unfold Sound at sound ⊢
        dsimp only
        split at sound
        · obtain ⟨unbound, quiet, empty, -, before⟩ := sound
          have nothing := before (eq_false_of_ne_true unasked)
          refine ⟨unbound, ?_, empty, ?_, fun never => by cases never⟩
          · rw [put_of_ne (by decide), quiet]
          · rw [put_self, ← List.append_assoc, nothing]
            exact write_prefix _ _
        · obtain ⟨unbound, refuses⟩ := sound
          refine ⟨unbound, ?_⟩
          intro read same
          rw [put_of_ne (by decide)]
          exact refuses read same
        · exact absurd sound.2 unasked
  · cases taken

theorem read_sound {piece : Bytes} (sound : line.Sound terms)
    (taken : line.read terms piece = some next) : next.Sound terms := by
  unfold read at taken
  split at taken
  · rename_i buffer task
    split at taken
    · rename_i allowed
      cases taken
      simp only [Bool.and_eq_true, decide_eq_true_eq] at allowed
      obtain ⟨⟨-, some⟩, ahead⟩ := allowed
      obtain ⟨rest, split⟩ := List.isPrefixOf_iff_prefix.mp ahead
      unfold Sound at sound ⊢
      dsimp only
      split at sound
      · -- nothing is on its way to the client yet
        obtain ⟨-, quiet, -⟩ := sound
        rw [quiet] at split
        exact absurd (List.append_eq_nil_iff.mp split).1 some
      · obtain ⟨-, refuses⟩ := sound
        have all := refuses buffer task
        rw [← split, ← List.append_assoc] at all
        refine ⟨all _ (List.prefix_append _ _), ?_⟩
        intro read waits
        rw [SessionTask.handshake_binding waits, took_self, ← split, List.drop_left]
        exact all
      · exact sound
    · cases taken
  · cases taken

theorem client_sound {event : Event} (sound : line.Sound terms)
    (taken : line.client terms event = some next) : next.Sound terms := by
  unfold client at taken
  split at taken
  · rename_i leftover session task
    obtain ⟨hosted, phase, bound⟩ := sound.bound_phase (by rw [task]; rfl)
    split at taken
    · obtain ⟨session, -, rfl⟩ := Option.map_eq_some_iff.mp taken
      exact sound_of_bound phase bound
    · cases taken
  · cases taken

theorem bind_whole_step {timers : ServerTimers} {incoming : Incoming} {buffer : Bytes}
    (phase : incoming.phase = .handshake buffer)
    (whole : frameFirstPdu buffer maxPduLen = .complete buffer.length) (verdict : Verdict)
    (written : Bool) :
    incoming.step timers (.bind verdict written) =
      some (incoming.bindFirst timers buffer [] verdict written) := by
  simp only [Incoming.step, phase, whole, List.take_length, List.drop_length]

theorem answer_some {verdict : Verdict} {outcomes : List WriteOutcome}
    (taken : line.answer terms verdict outcomes = some next) :
    ∃ pdu incoming, line.incoming.phase.firstPdu = some pdu ∧
      line.incoming.step terms.timers
        (.bind verdict (sendVerdict pdu verdict outcomes).2.isSome) = some incoming ∧
      next =
        { line with
          incoming := incoming
          pipe := put line.pipe .client (sendVerdict pdu verdict outcomes).1 } := by
  unfold answer at taken
  split at taken
  · rename_i pdu first
    obtain ⟨incoming, stepped, rfl⟩ := Option.map_eq_some_iff.mp taken
    exact ⟨pdu, incoming, first, stepped, rfl⟩
  · cases taken

theorem answer_replied {verdict : Verdict} {outcomes : List WriteOutcome}
    (sound : line.Sound terms) (taken : line.answer terms verdict outcomes = some next) :
    ∃ bytes incoming, line.incoming.phase = .handshake terms.bind.encode ∧
      line.pipe .server = [] ∧
      next = { line with incoming := incoming, pipe := put line.pipe .client bytes } ∧
      Replied terms line.incoming verdict outcomes bytes incoming := by
  obtain ⟨pdu, incoming, first, stepped, moved⟩ := answer_some taken
  cases phase : line.incoming.phase with
  | handshake buffer =>
    unfold Sound at sound
    rw [phase] at sound first
    obtain ⟨-, -, -, part, -⟩ := sound
    obtain ⟨sent, all, whole⟩ :=
      terms.firstPdu_eq ((List.prefix_append _ _).trans part) first
    have drained : line.pipe .server = [] := by
      have size := part.length_le
      rw [List.length_append, ← all] at size
      exact List.length_eq_zero_iff.mp (by omega)
    rw [bind_whole_step phase whole, all, bindFirst_headed terms.bind_framed terms.bind_headed.1,
      sent] at stepped
    rw [sent] at moved
    refine ⟨_, incoming, congrArg Phase.handshake all, drained, moved, ?_⟩
    rw [← Option.some.inj stepped]
    exact bindWith_replied terms line.incoming verdict outcomes
  | refused =>
    rw [phase] at first
    cases first
  | bound hosted =>
    rw [phase] at first
    cases first

theorem answer_sound {verdict : Verdict} {outcomes : List WriteOutcome}
    (sound : line.Sound terms) (taken : line.answer terms verdict outcomes = some next) :
    next.Sound terms := by
  obtain ⟨bytes, incoming, phase, -, rfl, replied⟩ := answer_replied sound taken
  unfold Sound at sound
  rw [phase] at sound
  obtain ⟨unbound, quiet, empty, -, before⟩ := sound
  have refused : Refuses terms.settings bytes → ∀ read, line.task = .binding read →
      Refuses terms.settings (read ++ put line.pipe .client bytes .client) := by
    intro refuses read waits
    rw [empty read waits, put_self, quiet]
    exact refuses
  cases replied with
  | accepts =>
    refine ⟨rfl, ?_⟩
    by_contra unasked
    have nothing := before (eq_false_of_ne_true unasked)
    have short := (CommandHeader.decode_ok_eq terms.bind_framed).2.1
    rw [(List.append_eq_nil_iff.mp nothing).1] at short
    exact absurd short (by decide)
  | rejects decoded refuses => exact ⟨unbound, refused refuses⟩
  | undecoded refuses => exact ⟨unbound, refused refuses⟩

theorem giveUp_some {timers : ServerTimers} {incoming later : Incoming}
    (taken : incoming.step timers .giveUp = some later) :
    (∃ buffer, incoming.phase = .handshake buffer) ∧ later = { incoming with phase := .refused } := by
  cases Incoming.step_moves taken with
  | givesUp phase => exact ⟨⟨_, phase⟩, rfl⟩

theorem endOfStream_sound {outcomes : List WriteOutcome} (sound : line.Sound terms)
    (taken : line.endOfStream terms outcomes = some next) : next.Sound terms := by
  unfold endOfStream at taken
  split at taken
  · obtain ⟨incoming, stepped, rfl⟩ := Option.map_eq_some_iff.mp taken
    obtain ⟨⟨buffer, phase⟩, rfl⟩ := giveUp_some stepped
    unfold Sound at sound
    rw [phase] at sound
    obtain ⟨unbound, quiet, empty, -⟩ := sound
    refine ⟨unbound, ?_⟩
    intro read waits
    have nacked : Refuses terms.settings (nack .ESME_RINVCMDLEN 0) := refuses_header (by decide)
    dsimp only
    rw [empty read waits, put_self, quiet]
    exact nacked.part (writeAll_part _ _)
  · cases taken

def Pipes (line : Line) (pipe : Side → Bytes) : IncomingEvent → Prop
  | .bind _ _ => False
  | .arrive piece => piece <+: line.pipe .server ∧ pipe = took line.pipe .server piece
  | .act event => ∀ hosted, line.incoming.phase = .bound hosted →
    line.lets .server hosted.leftover event = true ∧
      pipe = line.carry .server hosted.leftover hosted.watch.session event
  | _ => pipe = line.pipe

theorem server_some {event : IncomingEvent} (taken : line.server terms event = some next) :
    ∃ incoming pipe, next = { line with incoming := incoming, pipe := pipe } ∧
      Incoming.Moves terms.timers line.incoming event incoming ∧ line.Pipes pipe event := by
  cases event with
  | bind verdict written => cases taken
  | arrive piece =>
    unfold server at taken
    dsimp only at taken
    split at taken
    · rename_i ahead
      obtain ⟨incoming, stepped, rfl⟩ := Option.map_eq_some_iff.mp taken
      exact ⟨incoming, _, rfl, Incoming.step_moves stepped,
        List.isPrefixOf_iff_prefix.mp ahead, rfl⟩
    · cases taken
  | act event =>
    unfold server at taken
    dsimp only at taken
    split at taken
    · rename_i hosted phase
      split at taken
      · rename_i allowed
        obtain ⟨incoming, stepped, rfl⟩ := Option.map_eq_some_iff.mp taken
        refine ⟨incoming, _, rfl, Incoming.step_moves stepped, ?_⟩
        intro other phase'
        rw [phase] at phase'
        cases phase'
        exact ⟨allowed, rfl⟩
      · cases taken
    · cases taken
  | giveUp | announce | notify | callback task =>
    obtain ⟨incoming, stepped, rfl⟩ := Option.map_eq_some_iff.mp taken
    exact ⟨incoming, line.pipe, rfl, Incoming.step_moves stepped, rfl⟩

theorem server_sound {event : IncomingEvent} (sound : line.Sound terms)
    (taken : line.server terms event = some next) : next.Sound terms := by
  obtain ⟨incoming, pipe, rfl, moves, pipes⟩ := server_some taken
  cases moves with
  | arrives phase =>
    obtain ⟨⟨rest, split⟩, rfl⟩ := pipes
    unfold Sound at sound
    rw [phase] at sound
    obtain ⟨unbound, quiet, empty, part, before⟩ := sound
    rw [← split, ← List.append_assoc] at part before
    refine ⟨unbound, ?_, empty, ?_, ?_⟩
    · dsimp only
      rw [took_of_ne (by decide), quiet]
    · dsimp only
      rw [took_self, ← split, List.drop_left]
      exact part
    · dsimp only
      rw [took_self, ← split, List.drop_left]
      exact before
  | givesUp phase =>
    unfold Sound at sound
    rw [phase] at sound
    obtain ⟨unbound, quiet, empty, -⟩ := sound
    refine ⟨unbound, ?_⟩
    intro read waits
    have same : pipe = line.pipe := pipes
    dsimp only
    rw [empty read waits, same, quiet]
    exact refuses_nothing terms.settings
  | binds | refuses => exact pipes.elim
  | announces phase | notifies phase | calls phase | acts phase =>
    have bound := sound.bound phase
    exact sound_of_bound rfl bound

theorem step_sound {event : LineEvent} (sound : line.Sound terms)
    (taken : line.step terms event = some next) : next.Sound terms := by
  cases event with
  | ask outcome => exact ask_sound sound taken
  | read piece => exact read_sound sound taken
  | giveUp =>
    simp only [step, giveUp] at taken
    split at taken
    · cases taken
      exact sound.settled line.asked rfl rfl id
    · cases taken
  | abort =>
    cases taken
    cases bound : line.task.isBound with
    | true =>
      obtain ⟨hosted, phase, agreed⟩ := sound.bound_phase bound
      exact sound_of_bound phase agreed
    | false =>
      rw [SessionTask.abort_isBound bound]
      exact sound.settled line.asked rfl rfl id
  | client event => exact client_sound sound taken
  | answer verdict outcomes => exact answer_sound sound taken
  | endOfStream outcomes => exact endOfStream_sound sound taken
  | server event => exact server_sound sound taken

theorem calls_binds {event : Event} {session : Session} :
    ∀ callback ∈ Incoming.calls session event, callback.binds = false := by
  intro callback member
  cases event with
  | extract =>
    obtain ⟨debt, -, rfl⟩ := List.mem_map.mp member
    rfl
  | close =>
    rw [List.mem_singleton.mp member]
    rfl
  | _ => cases member

theorem step_shown {event : LineEvent} (sound : line.Sound terms)
    (shown : Shown terms line.incoming) (taken : line.step terms event = some next) :
    Shown terms next.incoming := by
  cases event with
  | ask outcome =>
    simp only [step, ask] at taken
    split at taken
    · split at taken
      · cases taken
      · split at taken <;> cases taken <;> exact shown
    · cases taken
  | read piece =>
    simp only [step, read] at taken
    split at taken
    · split at taken
      · cases taken
        exact shown
      · cases taken
    · cases taken
  | giveUp =>
    simp only [step, giveUp] at taken
    split at taken
    · cases taken
      exact shown
    · cases taken
  | abort =>
    cases taken
    exact shown
  | client event =>
    simp only [step, client] at taken
    split at taken
    · split at taken
      · obtain ⟨session, -, rfl⟩ := Option.map_eq_some_iff.mp taken
        exact shown
      · cases taken
    · cases taken
  | answer verdict outcomes =>
    obtain ⟨bytes, incoming, phase, -, rfl, replied⟩ := answer_replied sound taken
    cases replied with
    | accepts decoded success => exact shown.bind phase decoded rfl (.inr ⟨success, _, rfl⟩)
    | rejects decoded => exact shown.bind phase decoded rfl (.inl rfl)
    | undecoded => exact shown.refused rfl rfl
  | endOfStream outcomes =>
    simp only [step, endOfStream] at taken
    split at taken
    · obtain ⟨incoming, stepped, rfl⟩ := Option.map_eq_some_iff.mp taken
      obtain ⟨-, rfl⟩ := giveUp_some stepped
      exact shown.refused rfl rfl
    · cases taken
  | server event =>
    obtain ⟨incoming, pipe, rfl, moves, pipes⟩ := server_some taken
    have single : ∀ {callback : Callback}, callback.binds = false →
        ∀ other ∈ [callback], other.binds = false := by
      intro callback quiet other member
      rw [List.mem_singleton.mp member]
      exact quiet
    cases moves with
    | arrives phase =>
      have silent := shown.silent _ phase
      exact ⟨fun _ _ => silent, shown.sent, fun _ bound => by cases bound⟩
    | givesUp => exact shown.refused rfl rfl
    | binds | refuses => exact pipes.elim
    | announces phase | notifies phase | calls phase =>
      exact shown.more phase rfl rfl (single rfl)
    | acts phase => exact shown.more phase rfl rfl calls_binds

theorem run_sound {events : List LineEvent}
    (reached : run (Line.step terms) Line.start events = some line) :
    line.Sound terms ∧ Shown terms line.incoming :=
  @Machine.run_invariant _ _ _
    (fun line => line.Sound terms ∧ Shown terms line.incoming)
    (fun _ _ _ before taken =>
      ⟨step_sound before.1 taken, step_shown before.1 before.2 taken⟩)
    _ _ _ ⟨start_sound terms, Shown.start terms⟩ reached

end Line

def receiverTerms : Terms where
  settings := ⟨.receiver, 60, 600⟩
  timers := ⟨60, 600⟩
  bind := bareBind
  built := ⟨Str.empty, Str.empty, Str.empty, 0, 0, Str.empty, rfl⟩

def accepting : List LineEvent :=
  [.ask (.accepted 23), .server (.arrive (bareBind.encode.take 5)),
    .server (.arrive (bareBind.encode.drop 5)), .answer (.accept AcceptArgs.empty) [.accepted 17]]

end Smpp34
