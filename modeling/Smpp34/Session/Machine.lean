import Smpp34.Base.Correlation
import Smpp34.Base.Machine
import Smpp34.Session.Dispatch
import Smpp34.Session.Writer
import Mathlib.Data.List.AList

namespace Smpp34

open Octets
open Correlation (Entry Registration)

def channelCapacity : Nat := 100

def Side.firstSequenceNumber : Side → UInt32
  | server => 1
  | client => 2

structure Endpoint where
  side : Side
  bound : BoundType
  responseTimer : Nat
  inactivityTimer : Nat

def Endpoint.branch (endpoint : Endpoint) : CommandHeader → Bytes → Branch :=
  endpoint.side.branch endpoint.bound

/-- The requests that the handle of a session sends; the others have no method, or panic. -/
def Endpoint.maySend (endpoint : Endpoint) : Request → Bool
  | .submitSm _ | .submitSmMulti _ | .cancelSm _ | .querySm _ | .replaceSm _ =>
    endpoint.side = .client && endpoint.bound.transmits
  | .dataSm _ => endpoint.side = .server || endpoint.bound.transmits
  | .deliverSm _ | .alertNotification _ => endpoint.side = .server && endpoint.bound.receives
  | .unbind _ => true
  | _ => false

namespace Request

/-- The session owns the sequence numbers: whatever the PDU carries is overwritten. -/
def setSequenceNumber : Request → UInt32 → Request
  | submitSm pdu, number => submitSm (pdu.setSequenceNumber number)
  | submitSmMulti pdu, number => submitSmMulti (pdu.setSequenceNumber number)
  | deliverSm pdu, number => deliverSm (pdu.setSequenceNumber number)
  | dataSm pdu, number => dataSm (pdu.setSequenceNumber number)
  | cancelSm pdu, number =>
    cancelSm { pdu with header := { pdu.header with sequenceNumber := number } }
  | querySm pdu, number =>
    querySm { pdu with header := { pdu.header with sequenceNumber := number } }
  | replaceSm pdu, number =>
    replaceSm { pdu with header := { pdu.header with sequenceNumber := number } }
  | unbind _, number => unbind (Unbind.withSequenceNumber number)
  | enquireLink _, number => enquireLink (EnquireLink.new number)
  | alertNotification pdu, number =>
    alertNotification { pdu with header := { pdu.header with sequenceNumber := number } }
  | request, _ => request

/-- An alert_notification is sent without a channel for the response. -/
def awaited : Request → Bool
  | alertNotification _ => false
  | _ => true

def Matches : Request → Response → Bool
  | submitSm _, .submitSm _ => true
  | submitSmMulti _, .submitSmMulti _ => true
  | deliverSm _, .deliverSm _ => true
  | dataSm _, .dataSm _ => true
  | cancelSm _, .cancelSm _ => true
  | querySm _, .querySm _ => true
  | replaceSm _, .replaceSm _ => true
  | unbind _, .unbind _ => true
  | _, _ => false

/-- What `send_*` returns for the response it was handed. -/
def outcome (request : Request) (resp : Response) : Except SmppError Response :=
  if request.Matches resp then .ok resp
  else
    match resp with
    | .genericNack resp => .error resp.getError
    | _ => .error .ESME_RSYSERR

end Request

inductive Origin where
  | call (caller : Nat)
  | link
  | reaction (place : Nat)
deriving DecidableEq, Repr

structure Emission where
  frame : WriteFrame
  origin : Origin
deriving DecidableEq, Repr

def Emission.reaction (place : Nat) (pdu : Bytes) : Emission := ⟨⟨none, pdu, none⟩, .reaction place⟩

inductive CallStage where
  | queueing
  | waiting (since : Nat)
  | notified
  | returned (result : Except SmppError Response)

/-- A call of `send_*`; the slot is the receiving end of its oneshot channel. -/
structure Call where
  request : Request
  number : UInt32
  stage : CallStage
  slot : Option (Nat × Response)

def Call.queued (call : Call) (now : Nat) : Call :=
  match call.stage with
  | .queueing => { call with stage := if call.request.awaited then .waiting now else .notified }
  | _ => call

/-- A response reaches a caller that still waits, and is lost otherwise. -/
def Call.fill (call : Call) (place : Nat) (resp : Response) : Call :=
  match call.stage with
  | .waiting _ => { call with slot := some (place, resp) }
  | _ => call

inductive WriterStage where
  | checking
  | receiving
  | taken (emission : Emission)
  | registered (emission : Emission)
  | failed (emission : Emission)
  | stopped
deriving DecidableEq, Repr

def WriterStage.inHand : WriterStage → List Emission
  | taken emission => [emission]
  | _ => []

def WriterStage.held : WriterStage → Option Emission
  | registered emission | failed emission => some emission
  | _ => none

inductive TickerStage where
  | sleeping
  | queueing (number : UInt32)
  | awaiting (number : UInt32) (since : Nat)
  | finished
deriving DecidableEq, Repr

/-- Where the read loop stands. It waits inline for room in either channel; it has left the loop
    before it closes the session, and is gone when its task was aborted or panicked. -/
inductive ReaderStage where
  | reading
  | extracting (cursor : Nat)
  | queueing (place : Nat) (frame : Bytes) (cursor : Nat) (control : Control)
  | linking (pdu : Bytes) (number : UInt32) (cursor : Nat)
  | unbinding (place : Nat) (pdu : Unbind) (cursor : Nat)
  | leaving
  | closed
  | gone
deriving DecidableEq

/-- The last six fields record the run: how many numbers were drawn, the entries made, the frames
    written, the PDUs taken up, the entries they removed and the time-outs reported. -/
structure Session where
  now : Nat
  alive : Bool
  sequenceNumber : UInt32
  calls : List Call
  senders : List Emission
  channel : List Emission
  writer : WriterStage
  pendingRequests : AList fun _ : UInt32 => Entry
  ticker : TickerStage
  links : List UInt32
  reader : ReaderStage
  buffer : Bytes
  lastRead : Nat
  handlers : List (Nat × Request)
  issued : Nat
  registrations : List (Registration UInt32)
  sent : List Emission
  received : List Bytes
  completions : List (UInt32 × Nat)
  timeouts : List UInt32

def Endpoint.start (endpoint : Endpoint) : Session where
  now := 0
  alive := true
  sequenceNumber := endpoint.side.firstSequenceNumber
  calls := []
  senders := []
  channel := []
  writer := .checking
  pendingRequests := ∅
  ticker := .sleeping
  links := []
  reader := .reading
  buffer := []
  lastRead := 0
  handlers := []
  issued := 0
  registrations := []
  sent := []
  received := []
  completions := []
  timeouts := []

inductive Event where
  | advance (duration : Nat)
  | call (request : Request)
  | enqueue (sender : Nat)
  | resolve (caller : Nat)
  | expire (caller : Nat)
  | disconnect (caller : Nat)
  | tick
  | linkArrives
  | linkExpires
  | linkFails
  | check
  | take
  | register
  | write (outcome : WriteOutcome)
  | rollback
  | receive (piece : Bytes)
  | hangUp
  | idle
  | extract
  | enqueueReply
  | enqueueNumber
  | unbound (resp : UnbindResp)
  | close
  | stop
  | respond (handler : Nat) (resp : Response)

def Event.ofReader : Event → Bool
  | receive _ | hangUp | idle | extract | enqueueReply | enqueueNumber | unbound _ | close | stop =>
    true
  | _ => false

def Event.ofWriter : Event → Bool
  | check | take | register | write _ | rollback => true
  | _ => false

def Event.draws : Event → Bool
  | call _ | tick => true
  | _ => false

namespace Session

def channelRoom (session : Session) : Bool :=
  session.writer ≠ .stopped && session.channel.length < channelCapacity

section Callers

def call (endpoint : Endpoint) (session : Session) (request : Request) : Option Session :=
  if endpoint.maySend request then
    (request.setSequenceNumber session.sequenceNumber).encode.map fun pdu =>
      let oneshot := if request.awaited then some session.calls.length else none
      { session with
        sequenceNumber := session.sequenceNumber + 1
        issued := session.issued + 1
        calls := session.calls ++ [⟨request, session.sequenceNumber, .queueing, none⟩]
        senders := session.senders ++
          [⟨⟨some session.sequenceNumber, pdu, oneshot⟩, .call session.calls.length⟩] }
  else none

def queued (session : Session) : Origin → Session
  | .call caller =>
    { session with calls := session.calls.modify caller fun call => call.queued session.now }
  | .link =>
    match session.ticker with
    | .queueing number => { session with ticker := .awaiting number session.now }
    | _ => session
  | .reaction _ => session

def enqueue (session : Session) (sender : Nat) : Option Session :=
  match session.senders[sender]? with
  | some emission =>
    if session.channelRoom then
      some <| queued
        { session with
          senders := session.senders.eraseIdx sender
          channel := session.channel ++ [emission] }
        emission.origin
    else none
  | none => none

def returned (session : Session) (caller : Nat) (result : Except SmppError Response) : Session :=
  { session with
    calls := session.calls.modify caller fun call => { call with stage := .returned result } }

def resolve (session : Session) (caller : Nat) : Option Session :=
  match session.calls[caller]? with
  | some ⟨request, _, .waiting _, some (_, resp)⟩ =>
    some (session.returned caller (request.outcome resp))
  | _ => none

def expire (endpoint : Endpoint) (session : Session) (caller : Nat) : Option Session :=
  match session.calls[caller]? with
  | some ⟨_, _, .waiting since, none⟩ =>
    if endpoint.responseTimer ≤ session.now - since then
      some (session.returned caller (.error .ESME_RSYSERR))
    else none
  | _ => none

/-- The sending end of a caller's oneshot channel is in a queued frame or in the table. -/
def senderLives (session : Session) (caller : Nat) : Bool :=
  session.reader ≠ .closed &&
    ((session.channel ++ session.writer.inHand).any
        (fun emission => emission.frame.oneshot = some caller) ||
      session.pendingRequests.entries.any fun entry => entry.2.caller = some caller)

/-- The frame could not be queued, or the sending end was dropped. -/
def disconnect (session : Session) (caller : Nat) : Option Session :=
  match session.calls[caller]? with
  | some ⟨_, _, .queueing, _⟩ =>
    if session.writer = .stopped then some (session.returned caller (.error .ESME_RSYSERR))
    else none
  | some ⟨_, _, .waiting _, none⟩ =>
    if session.senderLives caller then none
    else some (session.returned caller (.error .ESME_RSYSERR))
  | _ => none

end Callers

section Ticker

def tick (session : Session) : Option Session :=
  match session.ticker with
  | .sleeping =>
    if session.alive then
      some
        { session with
          sequenceNumber := session.sequenceNumber + 1
          issued := session.issued + 1
          ticker := .queueing session.sequenceNumber
          senders := session.senders ++
            [⟨⟨some session.sequenceNumber, (EnquireLink.new session.sequenceNumber).encode, none⟩,
              .link⟩] }
    else some { session with ticker := .finished }
  | _ => none

def linkArrives (session : Session) : Option Session :=
  match session.ticker, session.links with
  | .awaiting number _, sequence :: links =>
    some
      { session with
        links := links
        ticker := if sequence = number then .sleeping else .finished }
  | _, _ => none

def linkExpires (endpoint : Endpoint) (session : Session) : Option Session :=
  match session.ticker, session.links with
  | .awaiting _ since, [] =>
    if endpoint.responseTimer ≤ session.now - since then some { session with ticker := .finished }
    else none
  | _, _ => none

def linkFails (session : Session) : Option Session :=
  match session.ticker with
  | .queueing _ =>
    if session.writer = .stopped then some { session with ticker := .finished } else none
  | _ => none

/-- An aborted ticker also drops the frame it was about to queue. -/
def abortTicker (session : Session) : Session :=
  { session with
    ticker := .finished
    senders := session.senders.filter fun emission => emission.origin ≠ .link }

end Ticker

section Writer

def check (session : Session) : Option Session :=
  if session.writer = .checking then
    some { session with writer := if session.alive then .receiving else .stopped }
  else none

def take (session : Session) : Option Session :=
  match session.writer, session.channel with
  | .receiving, emission :: channel =>
    some { session with writer := .taken emission, channel := channel }
  | _, _ => none

/-- The request is registered before any octet of it is written. -/
def register (session : Session) : Option Session :=
  match session.writer with
  | .taken emission =>
    match emission.frame.ourSequenceNumber with
    | some number =>
      let entry := ⟨session.now, emission.frame.oneshot⟩
      some
        { session with
          writer := .registered emission
          pendingRequests := session.pendingRequests.insert number entry
          registrations := session.registrations ++ [⟨number, entry, session.received.length⟩] }
    | none => some { session with writer := .registered emission }
  | _ => none

def write (session : Session) (outcome : WriteOutcome) : Option Session :=
  match session.writer with
  | .registered emission =>
    if outcome.Permitted emission.frame.pdu then
      match outcome with
      | .accepted _ =>
        some { session with writer := .checking, sent := session.sent ++ [emission] }
      | .failed => some { session with writer := .failed emission }
    else none
  | _ => none

def rollback (session : Session) : Option Session :=
  match session.writer with
  | .failed emission =>
    match emission.frame.ourSequenceNumber with
    | some number =>
      some
        { session with
          writer := .checking
          pendingRequests := session.pendingRequests.erase number }
    | none => some { session with writer := .checking }
  | _ => none

end Writer

section Reader

def proceed (session : Session) (cursor : Nat) : Control → Session
  | .proceed => { session with reader := .extracting cursor }
  | .unbound => { session with reader := .leaving }
  | .writerDead => { session.abortTicker with reader := .leaving }

def sendReply (session : Session) (place : Nat) (frame : Bytes) (cursor : Nat)
    (control : Control) : Session :=
  { session with channel := session.channel ++ [Emission.reaction place frame] }.proceed cursor
    control

/-- The read loop queues a frame itself, and waits where the channel has no room. -/
def reply (session : Session) (place : Nat) (frame : Bytes) (cursor : Nat) (control : Control) :
    Session :=
  if session.writer = .stopped then { session with reader := .leaving }
  else if session.channel.length < channelCapacity then
    session.sendReply place frame cursor control
  else { session with reader := .queueing place frame cursor control }

def deliver (session : Session) (oneshot : Option Nat) (place : Nat) (resp : Response) : Session :=
  match oneshot with
  | none => session
  | some caller =>
    { session with calls := session.calls.modify caller fun call => call.fill place resp }

def complete (session : Session) (number : UInt32) (place : Nat) : Session :=
  { session with
    pendingRequests := session.pendingRequests.erase number
    completions := session.completions ++ [(number, place)] }

def lapsed (endpoint : Endpoint) (session : Session) (entry : Entry) : Bool :=
  endpoint.responseTimer < session.now - entry.time

def settle (endpoint : Endpoint) (session : Session) (number : UInt32) (place cursor : Nat)
    (settlement : Settlement) : Session :=
  match session.pendingRequests.lookup number with
  | none => session
  | some entry =>
    let session := session.complete number place
    if lapsed endpoint session entry then { session with timeouts := session.timeouts ++ [number] }
    else
      match settlement with
      | .deliver resp closes =>
        let session := session.deliver entry.caller place resp
        if closes then { session with reader := .leaving } else session
      | .refuse (some frame) => session.reply place frame cursor .proceed
      | .refuse none => session
      | .panic => { session with reader := .gone }

/-- The number has gone to the ticker, and the entry is cleaned up. -/
def settleLink (endpoint : Endpoint) (session : Session) (pdu : Bytes) (number : UInt32)
    (cursor : Nat) : Session :=
  let place := session.received.length
  let session :=
    { session with
      received := session.received ++ [pdu]
      reader := .extracting (cursor + pdu.length) }
  match session.pendingRequests.lookup number with
  | none => session
  | some entry =>
    let session := session.complete number place
    if lapsed endpoint session entry then { session with timeouts := session.timeouts ++ [number] }
    else session

def link (endpoint : Endpoint) (session : Session) (pdu : Bytes) (number : UInt32) (cursor : Nat) :
    Session :=
  if session.ticker = .finished then session.settleLink endpoint pdu number cursor
  else if session.links.length < channelCapacity then
    { session with links := session.links ++ [number] }.settleLink endpoint pdu number cursor
  else { session with reader := .linking pdu number cursor }

def dispatch (endpoint : Endpoint) (session : Session) (header : CommandHeader) (pdu : Bytes)
    (cursor : Nat) : Session :=
  let place := session.received.length
  let next := cursor + pdu.length
  let taken :=
    { session with
      received := session.received ++ [pdu]
      reader := .extracting next }
  match endpoint.branch header pdu with
  | .request request => { taken with handlers := taken.handlers ++ [(place, request)] }
  | .alert _ => taken
  | .reply frame => taken.reply place frame next .proceed
  | .unbind pdu => { taken.abortTicker with reader := .unbinding place pdu next }
  | .unbindReject frame => taken.abortTicker.reply place frame next .unbound
  | .linkResp => session.link endpoint pdu header.sequenceNumber cursor
  | .response settlement =>
    taken.settle endpoint header.sequenceNumber place next settlement
  | .panic => { taken with reader := .gone }

def takeUp (endpoint : Endpoint) (session : Session) (pdu : Bytes) (cursor : Nat) : Session :=
  match CommandHeader.decode pdu with
  | .ok header => session.dispatch endpoint header pdu cursor
  | .error error =>
    { session with received := session.received ++ [pdu] }.reply session.received.length
      (nack error (potentialSeqNo pdu)) (cursor + pdu.length) .writerDead

/-- The table without the entries that are past the response timer. -/
def sweep (keep : Entry → Bool) (pending : AList fun _ : UInt32 => Entry) :
    AList fun _ : UInt32 => Entry :=
  ⟨pending.entries.filter fun entry => keep entry.2,
    pending.nodupKeys.sublist List.filter_sublist⟩

/-- The end of an extraction: the tail is kept, and late requests are reported. -/
def finishRead (endpoint : Endpoint) (session : Session) (cursor : Nat) : Session :=
  let late := session.pendingRequests.entries.filter fun entry => lapsed endpoint session entry.2
  { session with
    buffer := session.buffer.drop cursor
    lastRead := session.now
    pendingRequests := sweep (fun entry => !lapsed endpoint session entry) session.pendingRequests
    timeouts := session.timeouts ++ late.map Sigma.fst
    reader := if session.ticker = .finished then .leaving else .reading }

def receive (session : Session) (piece : Bytes) : Option Session :=
  if session.reader = .reading ∧ piece ≠ [] then
    some { session with buffer := session.buffer ++ piece, reader := .extracting 0 }
  else none

/-- The end of the stream, or a failed read. -/
def hangUp (session : Session) : Option Session :=
  if session.reader = .reading then some { session with reader := .leaving } else none

/-- A read that timed out. -/
def idle (endpoint : Endpoint) (session : Session) : Option Session :=
  if session.reader = .reading then
    if session.ticker = .finished ∨ endpoint.inactivityTimer < session.now - session.lastRead then
      some { session with reader := .leaving }
    else some session
  else none

def extract (endpoint : Endpoint) (session : Session) : Option Session :=
  match session.reader with
  | .extracting cursor =>
    match nextPdu session.buffer cursor with
    | .incomplete => some (session.finishRead endpoint cursor)
    | .invalid _ => some { session with reader := .leaving }
    | .complete size =>
      some (session.takeUp endpoint ((session.buffer.drop cursor).take size) cursor)
  | _ => none

def enqueueReply (session : Session) : Option Session :=
  match session.reader with
  | .queueing place frame cursor control =>
    if session.writer = .stopped then some { session with reader := .leaving }
    else if session.channel.length < channelCapacity then
      some (session.sendReply place frame cursor control)
    else none
  | _ => none

def enqueueNumber (endpoint : Endpoint) (session : Session) : Option Session :=
  match session.reader with
  | .linking pdu number cursor =>
    if session.ticker = .finished then some (session.settleLink endpoint pdu number cursor)
    else if session.links.length < channelCapacity then
      some ({ session with links := session.links ++ [number] }.settleLink endpoint pdu number
        cursor)
    else none
  | _ => none

/-- The listener has answered an unbind. -/
def unbound (session : Session) (resp : UnbindResp) : Option Session :=
  match session.reader with
  | .unbinding place _ cursor =>
    some (session.reply place resp.encode cursor .unbound)
  | _ => none

/-- The session goes to its closed state: both other tasks are aborted. -/
def close (session : Session) : Option Session :=
  if session.reader = .leaving then
    some { session.abortTicker with reader := .closed, alive := false, writer := .stopped }
  else none

/-- `stop` aborts the session's task, and the two others find the flag cleared. -/
def stop (endpoint : Endpoint) (session : Session) : Option Session :=
  if endpoint.side = .client ∧ session.reader ≠ .closed then
    some { session with alive := false, reader := .gone }
  else none

/-- A spawned handler has the listener's response and queues it. -/
def respond (session : Session) (handler : Nat) (resp : Response) : Option Session :=
  match session.handlers[handler]? with
  | some (place, request) =>
    if request.Matches resp then
      some
        { session with
          handlers := session.handlers.eraseIdx handler
          senders := session.senders ++ [.reaction place resp.encode] }
    else none
  | none => none

end Reader

def step (endpoint : Endpoint) (session : Session) : Event → Option Session
  | .advance duration => some { session with now := session.now + duration }
  | .call request => session.call endpoint request
  | .enqueue sender => session.enqueue sender
  | .resolve caller => session.resolve caller
  | .expire caller => session.expire endpoint caller
  | .disconnect caller => session.disconnect caller
  | .tick => session.tick
  | .linkArrives => session.linkArrives
  | .linkExpires => session.linkExpires endpoint
  | .linkFails => session.linkFails
  | .check => session.check
  | .take => session.take
  | .register => session.register
  | .write outcome => session.write outcome
  | .rollback => session.rollback
  | .receive piece => session.receive piece
  | .hangUp => session.hangUp
  | .idle => session.idle endpoint
  | .extract => session.extract endpoint
  | .enqueueReply => session.enqueueReply
  | .enqueueNumber => session.enqueueNumber endpoint
  | .unbound resp => session.unbound resp
  | .close => session.close
  | .stop => session.stop endpoint
  | .respond handler resp => session.respond handler resp

structure Background where
  now : Nat
  alive : Bool
  sequenceNumber : UInt32
  writer : WriterStage
  buffer : Bytes
  lastRead : Nat
  issued : Nat
  registrations : List (Registration UInt32)
  sent : List Emission

def background (session : Session) : Background :=
  ⟨session.now, session.alive, session.sequenceNumber, session.writer, session.buffer,
    session.lastRead, session.issued, session.registrations, session.sent⟩

/-- A reply touches nothing but the channel, where the loop stands and the ticker: the loop goes on,
    leaves, or waits for room. -/
theorem reply_eq (session : Session) (place : Nat) (frame : Bytes) (cursor : Nat)
    (control : Control) :
    ∃ senders channel ticker reader,
      session.reply place frame cursor control =
        { session with
          senders := senders
          channel := channel
          ticker := ticker
          reader := reader } ∧
      (ticker = session.ticker ∨ ticker = .finished) ∧
      (reader = .extracting cursor ∧ control = .proceed ∨ reader = .leaving ∨
        reader = .queueing place frame cursor control) := by
  unfold reply
  split
  · exact ⟨_, _, _, _, rfl, .inl rfl, .inr (.inl rfl)⟩
  · split
    · cases control with
      | proceed => exact ⟨_, _, _, _, rfl, .inl rfl, .inl ⟨rfl, rfl⟩⟩
      | unbound => exact ⟨_, _, _, _, rfl, .inl rfl, .inr (.inl rfl)⟩
      | writerDead => exact ⟨_, _, _, _, rfl, .inr rfl, .inr (.inl rfl)⟩
    · exact ⟨_, _, _, _, rfl, .inl rfl, .inr (.inr rfl)⟩

section Background

variable (endpoint : Endpoint) (session : Session)

theorem proceed_background (cursor : Nat) (control : Control) :
    (session.proceed cursor control).background = session.background := by
  cases control <;> rfl

theorem sendReply_background (place : Nat) (frame : Bytes) (cursor : Nat) (control : Control) :
    (session.sendReply place frame cursor control).background = session.background :=
  proceed_background _ cursor control

theorem reply_background (place : Nat) (frame : Bytes) (cursor : Nat) (control : Control) :
    (session.reply place frame cursor control).background = session.background := by
  obtain ⟨senders, channel, ticker, reader, same, -⟩ := reply_eq session place frame cursor control
  rw [same]
  rfl

theorem deliver_background (oneshot : Option Nat) (place : Nat) (resp : Response) :
    (session.deliver oneshot place resp).background = session.background := by
  cases oneshot <;> rfl

theorem settle_background (number : UInt32) (place cursor : Nat) (settlement : Settlement) :
    (session.settle endpoint number place cursor settlement).background = session.background := by
  unfold settle
  split
  · rfl
  · rename_i entry found
    dsimp only
    split
    · rfl
    · cases settlement with
      | deliver resp closes => cases closes <;> exact deliver_background _ entry.caller place resp
      | refuse reply =>
        cases reply with
        | none => rfl
        | some frame => exact reply_background _ place frame cursor .proceed
      | panic => rfl

theorem settleLink_background (pdu : Bytes) (number : UInt32) (cursor : Nat) :
    (session.settleLink endpoint pdu number cursor).background = session.background := by
  unfold settleLink
  dsimp only
  split
  · rfl
  · split <;> rfl

theorem link_background (pdu : Bytes) (number : UInt32) (cursor : Nat) :
    (session.link endpoint pdu number cursor).background = session.background := by
  unfold link
  split
  · exact settleLink_background endpoint session pdu number cursor
  · split
    · exact settleLink_background endpoint _ pdu number cursor
    · rfl

theorem dispatch_background (header : CommandHeader) (pdu : Bytes) (cursor : Nat) :
    (session.dispatch endpoint header pdu cursor).background = session.background := by
  unfold dispatch
  dsimp only
  split
  · rfl
  · rfl
  · exact reply_background _ _ _ _ .proceed
  · rfl
  · exact reply_background _ _ _ _ .unbound
  · exact link_background endpoint session pdu header.sequenceNumber cursor
  · exact settle_background endpoint _ _ _ _ _
  · rfl

theorem takeUp_background (pdu : Bytes) (cursor : Nat) :
    (session.takeUp endpoint pdu cursor).background = session.background := by
  unfold takeUp
  split
  · exact dispatch_background endpoint session _ pdu cursor
  · exact reply_background _ _ _ _ .writerDead

section Callers

variable {endpoint : Endpoint} {session next : Session}

theorem call_some {request : Request} (taken : session.call endpoint request = some next) :
    endpoint.maySend request = true ∧
      ∃ pdu, (request.setSequenceNumber session.sequenceNumber).encode = some pdu ∧
        next =
          { session with
            sequenceNumber := session.sequenceNumber + 1
            issued := session.issued + 1
            calls := session.calls ++ [⟨request, session.sequenceNumber, .queueing, none⟩]
            senders := session.senders ++
              [⟨⟨some session.sequenceNumber, pdu,
                  if request.awaited then some session.calls.length else none⟩,
                .call session.calls.length⟩] } := by
  unfold call at taken
  split at taken
  · rename_i sends
    obtain ⟨pdu, encoded, rfl⟩ := Option.map_eq_some_iff.mp taken
    exact ⟨sends, pdu, encoded, rfl⟩
  · cases taken

theorem queued_eq (session : Session) (origin : Origin) :
    ∃ calls ticker, session.queued origin = { session with calls := calls, ticker := ticker } ∧
      (ticker = session.ticker ∨ ∃ number, ticker = .awaiting number session.now) := by
  cases origin with
  | call caller => exact ⟨_, session.ticker, rfl, .inl rfl⟩
  | link =>
    unfold queued
    dsimp only
    split
    · rename_i number stage
      exact ⟨session.calls, _, rfl, .inr ⟨number, rfl⟩⟩
    · exact ⟨session.calls, session.ticker, rfl, .inl rfl⟩
  | reaction place => exact ⟨session.calls, session.ticker, rfl, .inl rfl⟩

theorem enqueue_some {sender : Nat} (taken : session.enqueue sender = some next) :
    ∃ emission calls ticker, session.senders[sender]? = some emission ∧
      next =
        { session with
          senders := session.senders.eraseIdx sender
          channel := session.channel ++ [emission]
          calls := calls
          ticker := ticker } ∧
      (ticker = session.ticker ∨ ∃ number, ticker = .awaiting number session.now) := by
  unfold enqueue at taken
  split at taken
  · rename_i emission found
    split at taken
    · cases taken
      obtain ⟨calls, ticker, same, moved⟩ := queued_eq
        { session with
          senders := session.senders.eraseIdx sender
          channel := session.channel ++ [emission] } emission.origin
      exact ⟨emission, calls, ticker, found, same, moved⟩
    · cases taken
  · cases taken

end Callers

theorem step_elsewhere {endpoint : Endpoint} {session next : Session} {event : Event}
    (elsewhere : event.ofReader = false) (taken : session.step endpoint event = some next) :
    next.reader = session.reader ∧ next.received = session.received ∧
      next.buffer = session.buffer := by
  cases event with
  | advance duration =>
    cases taken
    exact ⟨rfl, rfl, rfl⟩
  | call request =>
    obtain ⟨-, pdu, -, rfl⟩ := call_some taken
    exact ⟨rfl, rfl, rfl⟩
  | enqueue sender =>
    obtain ⟨emission, calls, ticker, found, rfl, -⟩ := enqueue_some taken
    exact ⟨rfl, rfl, rfl⟩
  | receive | hangUp | idle | extract | enqueueReply | enqueueNumber | unbound | close | stop =>
    cases elsewhere
  | _ =>
    simp only [step, resolve, expire, disconnect, tick, linkArrives, linkExpires, linkFails, check,
      take, register, write, rollback, respond] at taken
    repeat' split at taken
    all_goals cases taken
    all_goals exact ⟨rfl, rfl, rfl⟩

theorem step_aside {endpoint : Endpoint} {session next : Session} {event : Event}
    (elsewhere : event.ofReader = false) (taken : session.step endpoint event = some next) :
    next.alive = session.alive ∧
      (next.sequenceNumber = session.sequenceNumber ∧ next.issued = session.issued ∨
        event.draws = true ∧ next.sequenceNumber = session.sequenceNumber + 1 ∧
          next.issued = session.issued + 1) := by
  cases event with
  | advance duration =>
    cases taken
    exact ⟨rfl, .inl ⟨rfl, rfl⟩⟩
  | call request =>
    obtain ⟨-, pdu, -, rfl⟩ := call_some taken
    exact ⟨rfl, .inr ⟨rfl, rfl, rfl⟩⟩
  | enqueue sender =>
    obtain ⟨emission, calls, ticker, found, rfl, -⟩ := enqueue_some taken
    exact ⟨rfl, .inl ⟨rfl, rfl⟩⟩
  | tick =>
    simp only [step, tick] at taken
    repeat' split at taken
    all_goals cases taken
    · exact ⟨rfl, .inr ⟨rfl, rfl, rfl⟩⟩
    · exact ⟨rfl, .inl ⟨rfl, rfl⟩⟩
  | receive | hangUp | idle | extract | enqueueReply | enqueueNumber | unbound | close | stop =>
    cases elsewhere
  | _ =>
    simp only [step, resolve, expire, disconnect, linkArrives, linkExpires, linkFails, check, take,
      register, write, rollback, respond] at taken
    repeat' split at taken
    all_goals cases taken
    all_goals exact ⟨rfl, .inl ⟨rfl, rfl⟩⟩

/-- All that a step of the read loop's task can do, by where the loop stands. -/
inductive ReaderMoves (endpoint : Endpoint) (session : Session) : Event → Session → Prop
  | receives {piece : Bytes} (stage : session.reader = .reading) :
      ReaderMoves endpoint session (.receive piece)
        { session with buffer := session.buffer ++ piece, reader := .extracting 0 }
  | hangsUp (stage : session.reader = .reading) :
      ReaderMoves endpoint session .hangUp { session with reader := .leaving }
  | waits (stage : session.reader = .reading) : ReaderMoves endpoint session .idle session
  | givesUp (stage : session.reader = .reading) :
      ReaderMoves endpoint session .idle { session with reader := .leaving }
  | finishes {cursor : Nat} (stage : session.reader = .extracting cursor)
      (short : nextPdu session.buffer cursor = .incomplete) :
      ReaderMoves endpoint session .extract (session.finishRead endpoint cursor)
  | refuses {cursor : Nat} (stage : session.reader = .extracting cursor) :
      ReaderMoves endpoint session .extract { session with reader := .leaving }
  | takesUp {cursor size : Nat} (stage : session.reader = .extracting cursor)
      (whole : nextPdu session.buffer cursor = .complete size) :
      ReaderMoves endpoint session .extract
        (session.takeUp endpoint ((session.buffer.drop cursor).take size) cursor)
  | dropsReply {place : Nat} {frame : Bytes} {cursor : Nat} {control : Control}
      (stage : session.reader = .queueing place frame cursor control)
      (stopped : session.writer = .stopped) :
      ReaderMoves endpoint session .enqueueReply { session with reader := .leaving }
  | queuesReply {place : Nat} {frame : Bytes} {cursor : Nat} {control : Control}
      (stage : session.reader = .queueing place frame cursor control) :
      ReaderMoves endpoint session .enqueueReply (session.sendReply place frame cursor control)
  | queuesNumber {pdu : Bytes} {number : UInt32} {cursor : Nat} {links : List UInt32}
      (stage : session.reader = .linking pdu number cursor) :
      ReaderMoves endpoint session .enqueueNumber
        ({ session with links := links }.settleLink endpoint pdu number cursor)
  | answers {place : Nat} {pdu : Unbind} {cursor : Nat} {resp : UnbindResp}
      (stage : session.reader = .unbinding place pdu cursor) :
      ReaderMoves endpoint session (.unbound resp)
        (session.reply place resp.encode cursor .unbound)
  | closes (stage : session.reader = .leaving) :
      ReaderMoves endpoint session .close
        { session.abortTicker with reader := .closed, alive := false, writer := .stopped }
  | stops (running : session.reader ≠ .closed) (client : endpoint.side = .client) :
      ReaderMoves endpoint session .stop { session with alive := false, reader := .gone }

theorem step_reader {endpoint : Endpoint} {session next : Session} {event : Event}
    (reads : event.ofReader = true) (taken : session.step endpoint event = some next) :
    ReaderMoves endpoint session event next := by
  cases event with
  | receive piece =>
    simp only [step, receive] at taken
    split at taken
    · rename_i guard
      cases taken
      exact .receives guard.1
    · cases taken
  | hangUp =>
    simp only [step, hangUp] at taken
    split at taken
    · rename_i stage
      cases taken
      exact .hangsUp stage
    · cases taken
  | idle =>
    simp only [step, idle] at taken
    split at taken
    · rename_i stage
      split at taken
      · cases taken
        exact .givesUp stage
      · cases taken
        exact .waits stage
    · cases taken
  | extract =>
    simp only [step, extract] at taken
    split at taken
    · rename_i cursor stage
      split at taken
      · rename_i short
        cases taken
        exact .finishes stage short
      · cases taken
        exact .refuses stage
      · rename_i size whole
        cases taken
        exact .takesUp stage whole
    · cases taken
  | enqueueReply =>
    simp only [step, enqueueReply] at taken
    split at taken
    · rename_i place frame cursor control stage
      split at taken
      · rename_i stopped
        cases taken
        exact .dropsReply stage stopped
      · split at taken
        · cases taken
          exact .queuesReply stage
        · cases taken
    · cases taken
  | enqueueNumber =>
    simp only [step, enqueueNumber] at taken
    split at taken
    · rename_i pdu number cursor stage
      repeat' split at taken
      all_goals cases taken
      · exact @ReaderMoves.queuesNumber endpoint session pdu number cursor session.links stage
      · exact .queuesNumber stage
    · cases taken
  | unbound resp =>
    simp only [step, unbound] at taken
    split at taken
    · rename_i place pdu cursor stage
      cases taken
      exact .answers stage
    · cases taken
  | close =>
    simp only [step, close] at taken
    split at taken
    · rename_i stage
      cases taken
      exact .closes stage
    · cases taken
  | stop =>
    simp only [step, stop] at taken
    split at taken
    · rename_i guard
      cases taken
      exact .stops guard.2 guard.1
    · cases taken
  | _ => cases reads

/-- No step sets the flag, and only the end of the read loop's task clears it. -/
theorem step_flag {endpoint : Endpoint} {session next : Session} {event : Event}
    (taken : session.step endpoint event = some next) :
    next.alive = session.alive ∨ next.alive = false ∧ (event = .close ∨ event = .stop) := by
  by_cases reads : event.ofReader = true
  · cases step_reader reads taken with
    | takesUp stage whole =>
      exact .inl (congrArg Background.alive (takeUp_background endpoint session _ _))
    | queuesReply stage =>
      exact .inl (congrArg Background.alive (sendReply_background session _ _ _ _))
    | queuesNumber stage =>
      exact .inl (congrArg Background.alive (settleLink_background endpoint _ _ _ _))
    | answers stage =>
      exact .inl (congrArg Background.alive (reply_background session _ _ _ .unbound))
    | closes stage => exact .inr ⟨rfl, .inl rfl⟩
    | stops running client => exact .inr ⟨rfl, .inr rfl⟩
    | _ stage => exact .inl rfl
  · exact .inl (step_aside (Bool.not_eq_true _ ▸ reads) taken).1

theorem step_numbers {endpoint : Endpoint} {session next : Session} {event : Event}
    (taken : session.step endpoint event = some next) :
    next.sequenceNumber = session.sequenceNumber ∧ next.issued = session.issued ∨
      event.draws = true ∧ next.sequenceNumber = session.sequenceNumber + 1 ∧
        next.issued = session.issued + 1 := by
  by_cases reads : event.ofReader = true
  · left
    have quiet : ∀ {other : Session}, other.background = session.background →
        other.sequenceNumber = session.sequenceNumber ∧ other.issued = session.issued :=
      fun same => ⟨congrArg Background.sequenceNumber same, congrArg Background.issued same⟩
    cases step_reader reads taken with
    | takesUp stage whole => exact quiet (takeUp_background endpoint session _ _)
    | queuesReply stage => exact quiet (sendReply_background session _ _ _ _)
    | queuesNumber stage => exact quiet (settleLink_background endpoint _ _ _ _)
    | answers stage => exact quiet (reply_background session _ _ _ .unbound)
    | _ stage => exact ⟨rfl, rfl⟩
  · exact (step_aside (Bool.not_eq_true _ ▸ reads) taken).2

theorem step_closed {endpoint : Endpoint} {session next : Session} {event : Event}
    (closed : session.reader = .closed)
    (taken : session.step endpoint event = some next) :
    event ≠ .close ∧ next.reader = .closed := by
  by_cases reads : event.ofReader = true
  · exfalso
    cases step_reader reads taken with
    | stops running client => exact running closed
    | _ stage =>
      rw [closed] at stage
      cases stage
  · rw [(step_elsewhere (Bool.not_eq_true _ ▸ reads) taken).1]
    refine ⟨?_, closed⟩
    rintro rfl
    exact reads rfl

theorem step_gone {endpoint : Endpoint} {session next : Session} {event : Event}
    (gone : session.reader = .gone)
    (taken : session.step endpoint event = some next) : next.reader = .gone := by
  by_cases reads : event.ofReader = true
  · cases step_reader reads taken with
    | stops running client => rfl
    | _ stage =>
      rw [gone] at stage
      cases stage
  · exact (step_elsewhere (Bool.not_eq_true _ ▸ reads) taken).1.trans gone

inductive WriterMoves (session next : Session) : Event → Prop
  | kept {event : Event} (elsewhere : event.ofWriter = false)
      (writer : next.writer = session.writer) (sent : next.sent = session.sent)
      (registrations : next.registrations = session.registrations) :
      WriterMoves session next event
  | checks (stage : session.writer = .checking)
      (writer : next.writer = if session.alive then .receiving else .stopped)
      (sent : next.sent = session.sent)
      (registrations : next.registrations = session.registrations) :
      WriterMoves session next .check
  | takes {emission : Emission} {channel : List Emission} (stage : session.writer = .receiving)
      (queued : session.channel = emission :: channel) (writer : next.writer = .taken emission)
      (sent : next.sent = session.sent)
      (registrations : next.registrations = session.registrations) :
      WriterMoves session next .take
  | registers {emission : Emission} (stage : session.writer = .taken emission)
      (writer : next.writer = .registered emission) (sent : next.sent = session.sent)
      (registrations : next.registrations = session.registrations ++
        (emission.frame.ourSequenceNumber.map fun number =>
          ⟨number, ⟨session.now, emission.frame.oneshot⟩, session.received.length⟩).toList) :
      WriterMoves session next .register
  | writes {emission : Emission} {count : Nat} (stage : session.writer = .registered emission)
      (writer : next.writer = .checking) (sent : next.sent = session.sent ++ [emission])
      (registrations : next.registrations = session.registrations) :
      WriterMoves session next (.write (.accepted count))
  | fails {emission : Emission} (stage : session.writer = .registered emission)
      (writer : next.writer = .failed emission) (sent : next.sent = session.sent)
      (registrations : next.registrations = session.registrations) :
      WriterMoves session next (.write .failed)
  | rollsBack {emission : Emission} (stage : session.writer = .failed emission)
      (writer : next.writer = .checking) (sent : next.sent = session.sent)
      (registrations : next.registrations = session.registrations) :
      WriterMoves session next .rollback
  | closes (writer : next.writer = .stopped) (reader : next.reader = .closed)
      (sent : next.sent = session.sent)
      (registrations : next.registrations = session.registrations) :
      WriterMoves session next .close

theorem WriterMoves.quiet {session next : Session} {event : Event}
    (elsewhere : event.ofWriter = false) (same : next.background = session.background) :
    WriterMoves session next event :=
  .kept elsewhere (congrArg Background.writer same) (congrArg Background.sent same)
    (congrArg Background.registrations same)

theorem step_writer {endpoint : Endpoint} {session next : Session} {event : Event}
    (taken : session.step endpoint event = some next) : WriterMoves session next event := by
  cases event with
  | advance duration =>
    cases taken
    exact .kept rfl rfl rfl rfl
  | call request =>
    obtain ⟨-, pdu, -, rfl⟩ := call_some taken
    exact .kept rfl rfl rfl rfl
  | enqueue sender =>
    obtain ⟨emission, calls, ticker, found, rfl, -⟩ := enqueue_some taken
    exact .kept rfl rfl rfl rfl
  | check =>
    simp only [step, check] at taken
    split at taken
    · rename_i stage
      cases taken
      exact .checks stage rfl rfl rfl
    · cases taken
  | take =>
    simp only [step, take] at taken
    split at taken
    · rename_i emission channel stage queued
      cases taken
      exact .takes stage queued rfl rfl rfl
    · cases taken
  | register =>
    simp only [step, register] at taken
    split at taken
    · rename_i emission stage
      split at taken
      · rename_i number keyed
        cases taken
        exact .registers stage rfl rfl (by rw [keyed]; rfl)
      · rename_i keyed
        cases taken
        exact .registers stage rfl rfl (by rw [keyed]; exact (List.append_nil _).symm)
    · cases taken
  | write outcome =>
    simp only [step, write] at taken
    split at taken
    · rename_i emission stage
      repeat' split at taken
      all_goals cases taken
      · exact .writes stage rfl rfl rfl
      · exact .fails stage rfl rfl rfl
    · cases taken
  | rollback =>
    simp only [step, rollback] at taken
    split at taken
    · rename_i emission stage
      split at taken
      all_goals
        cases taken
        exact .rollsBack stage rfl rfl rfl
    · cases taken
  | extract =>
    simp only [step, extract] at taken
    repeat' split at taken
    all_goals cases taken
    · exact .kept rfl rfl rfl rfl
    · exact .kept rfl rfl rfl rfl
    · exact .quiet rfl (takeUp_background endpoint session _ _)
  | enqueueReply =>
    simp only [step, enqueueReply] at taken
    repeat' split at taken
    all_goals cases taken
    · exact .kept rfl rfl rfl rfl
    · exact .quiet rfl (sendReply_background session _ _ _ _)
  | enqueueNumber =>
    simp only [step, enqueueNumber] at taken
    repeat' split at taken
    all_goals cases taken
    all_goals exact .quiet rfl (settleLink_background endpoint _ _ _ _)
  | unbound resp =>
    simp only [step, unbound] at taken
    split at taken
    · cases taken
      exact .quiet rfl (reply_background session _ _ _ .unbound)
    · cases taken
  | close =>
    simp only [step, close] at taken
    split at taken
    · cases taken
      exact .closes rfl rfl rfl rfl
    · cases taken
  | _ =>
    simp only [step, resolve, expire, disconnect, tick, linkArrives, linkExpires, linkFails,
      respond, receive, hangUp, idle, stop] at taken
    repeat' split at taken
    all_goals cases taken
    all_goals exact .kept rfl rfl rfl rfl

theorem step_sent {endpoint : Endpoint} {session next : Session} {event : Event}
    (taken : session.step endpoint event = some next) :
    (∃ emission count, event = .write (.accepted count) ∧ session.writer = .registered emission ∧
      next.sent = session.sent ++ [emission]) ∨
    (∀ count, event ≠ .write (.accepted count)) ∧ next.sent = session.sent := by
  cases step_writer taken with
  | kept elsewhere writer sent registrations =>
    refine .inr ⟨?_, sent⟩
    rintro count rfl
    cases elsewhere
  | checks stage writer sent registrations => exact .inr ⟨nofun, sent⟩
  | takes stage queued writer sent registrations => exact .inr ⟨nofun, sent⟩
  | registers stage writer sent registrations => exact .inr ⟨nofun, sent⟩
  | writes stage writer sent registrations => exact .inl ⟨_, _, rfl, stage, sent⟩
  | fails stage writer sent registrations => exact .inr ⟨nofun, sent⟩
  | rollsBack stage writer sent registrations => exact .inr ⟨nofun, sent⟩
  | closes writer reader sent registrations => exact .inr ⟨nofun, sent⟩

end Background

end Session

end Smpp34
