import Smpp34.Session.Correlation

namespace Smpp34

open Octets
open Machine (run)

def ReaderStage.position : ReaderStage → Option Nat
  | reading => some 0
  | extracting cursor | queueing _ _ cursor _ | linking _ _ cursor | unbinding _ _ cursor =>
    some cursor
  | leaving | closed | gone => none

/-- A PDU that the peer's framer takes for one. -/
def Whole (pdu : Bytes) : Prop := frameFirstPdu pdu maxPduLen = .complete pdu.length

instance (pdu : Bytes) : Decidable (Whole pdu) := inferInstanceAs (Decidable (_ = _))

theorem found_later {received later : List Bytes} {place : Nat} {pdu : Bytes}
    (grown : received <+: later) (found : received[place]? = some pdu) :
    later[place]? = some pdu := by
  obtain ⟨more, rfl⟩ := grown
  obtain ⟨inside, -⟩ := List.getElem?_eq_some_iff.mp found
  rw [List.getElem?_append_left inside, found]

namespace Session

def StandsAt (session : Session) (pdu : Bytes) (cursor : Nat) : Prop :=
  nextPdu session.buffer cursor = .complete pdu.length ∧
    (session.buffer.drop cursor).take pdu.length = pdu

/-- What a step does with the octets that come in: nothing, it reads a piece, it keeps the tail
    of its buffer, it waits with a PDU, or it takes one up. -/
inductive Consumes (session next : Session) : Bytes → Prop
  | nothing (received : next.received = session.received) (buffer : next.buffer = session.buffer)
      (position : next.reader.position = session.reader.position ∨ next.reader.position = none)
      (linking : ∀ pdu number cursor, next.reader = .linking pdu number cursor →
        session.reader = .linking pdu number cursor) : Consumes session next []
  | piece {piece : Bytes} (reading : session.reader = .reading)
      (received : next.received = session.received) (buffer : next.buffer = session.buffer ++ piece)
      (extracting : next.reader = .extracting 0) : Consumes session next piece
  | tail {cursor : Nat} (extracting : session.reader = .extracting cursor)
      (received : next.received = session.received)
      (buffer : next.buffer = session.buffer.drop cursor)
      (reading : next.reader = .reading ∨ next.reader = .leaving) : Consumes session next []
  | wait {pdu : Bytes} {number : UInt32} {cursor : Nat}
      (extracting : session.reader = .extracting cursor) (stands : session.StandsAt pdu cursor)
      (received : next.received = session.received) (buffer : next.buffer = session.buffer)
      (linking : next.reader = .linking pdu number cursor) : Consumes session next []
  | pdu {pdu : Bytes} {cursor : Nat}
      (standing : session.reader = .extracting cursor ∧ session.StandsAt pdu cursor ∨
        ∃ number, session.reader = .linking pdu number cursor)
      (received : next.received = session.received ++ [pdu]) (buffer : next.buffer = session.buffer)
      (position : next.reader.position = some (cursor + pdu.length) ∨ next.reader.position = none)
      (linking : ∀ pdu number cursor, next.reader ≠ .linking pdu number cursor) :
      Consumes session next []

theorem Consumes.grows {session next : Session} {piece : Bytes}
    (consumes : session.Consumes next piece) : session.received <+: next.received := by
  cases consumes with
  | nothing received => exact received ▸ List.prefix_rfl
  | piece _ received => exact received ▸ List.prefix_rfl
  | tail _ received => exact received ▸ List.prefix_rfl
  | wait _ _ received => exact received ▸ List.prefix_rfl
  | pdu _ received =>
    rw [received]
    exact List.prefix_append _ _

end Session

/-- The PDUs that one end has sent are those that the other has taken up and those that it finds
    in its buffer and in the pipe. -/
structure Stream (sent : List Emission) (receiver : Session) (pipe : Bytes) : Prop where
  whole : ∀ emission ∈ sent, Whole emission.frame.pdu
  linking : ∀ pdu number cursor, receiver.reader = .linking pdu number cursor →
    receiver.StandsAt pdu cursor
  rest : ∃ rest, sent.map (fun emission => emission.frame.pdu) = receiver.received ++ rest ∧
    ∀ cursor, receiver.reader.position = some cursor →
      rest.flatten = receiver.buffer.drop cursor ++ pipe

namespace Stream

variable {sent : List Emission} {receiver next : Session} {pipe : Bytes}

theorem start (endpoint : Endpoint) : Stream [] endpoint.start [] where
  whole := by simp
  linking := by simp [Endpoint.start]
  rest := ⟨[], by simp [Endpoint.start]⟩

theorem found (stream : Stream sent receiver pipe) {place : Nat} {pdu : Bytes}
    (received : receiver.received[place]? = some pdu) :
    ∃ emission, sent[place]? = some emission ∧ emission.frame.pdu = pdu := by
  obtain ⟨rest, same, -⟩ := stream.rest
  have present : (sent.map fun emission => emission.frame.pdu)[place]? = some pdu := by
    rw [same]
    exact found_later (List.prefix_append _ _) received
  rw [List.getElem?_map] at present
  exact Option.map_eq_some_iff.mp present

theorem written (stream : Stream sent receiver pipe) {emission : Emission}
    (whole : Whole emission.frame.pdu) :
    Stream (sent ++ [emission]) receiver (pipe ++ emission.frame.pdu) := by
  obtain ⟨rest, same, unread⟩ := stream.rest
  refine ⟨?_, stream.linking, rest ++ [emission.frame.pdu], ?_, ?_⟩
  · intro other member
    rcases List.mem_append.mp member with old | new
    · exact stream.whole other old
    · rw [List.mem_singleton.mp new]
      exact whole
  · rw [List.map_append, same, List.append_assoc]
    rfl
  · intro cursor position
    rw [List.flatten_append, unread cursor position, List.append_assoc, List.flatten_singleton]

theorem front (stream : Stream sent receiver pipe) {pdu : Bytes} {cursor : Nat}
    (position : receiver.reader.position = some cursor) (stands : receiver.StandsAt pdu cursor) :
    ∃ rest, sent.map (fun emission => emission.frame.pdu) = receiver.received ++ [pdu] ++ rest ∧
      rest.flatten = receiver.buffer.drop (cursor + pdu.length) ++ pipe := by
  obtain ⟨rest, same, unread⟩ := stream.rest
  have each : ∀ frame ∈ rest, (pduDelimiter maxPduLen).judge frame = .complete frame.length := by
    intro frame member
    have sentFrame : frame ∈ sent.map fun emission => emission.frame.pdu := by
      rw [same]
      exact List.mem_append_right _ member
    obtain ⟨emission, present, rfl⟩ := List.mem_map.mp sentFrame
    exact stream.whole emission present
  have whole : (pduDelimiter maxPduLen).judge (receiver.buffer.drop cursor) =
      .complete pdu.length := by
    have judged := stands.1
    rw [nextPdu_eq] at judged
    exact judged
  obtain ⟨later, first, after⟩ :=
    Delimited.front_of_flatten _ (by decide) each (unread cursor position) whole
  rw [stands.2] at first
  rw [List.drop_drop] at after
  refine ⟨later, ?_, after⟩
  rw [same, first, List.append_assoc]
  rfl

theorem read (stream : Stream sent receiver pipe) {piece : Bytes}
    (consumes : receiver.Consumes next piece) (ahead : piece <+: pipe) :
    Stream sent next (pipe.drop piece.length) := by
  obtain ⟨rest, same, unread⟩ := stream.rest
  cases consumes with
  | nothing received buffer position linking =>
    refine ⟨stream.whole, ?_, rest, received ▸ same, ?_⟩
    · intro pdu number cursor stage
      have stands := stream.linking pdu number cursor (linking pdu number cursor stage)
      unfold Session.StandsAt at *
      rw [buffer]
      exact stands
    · intro cursor here
      rcases position with still | gone
      · rw [buffer]
        exact unread cursor (still ▸ here)
      · rw [gone] at here
        cases here
  | piece reading received buffer extracting =>
    refine ⟨stream.whole, ?_, rest, received ▸ same, ?_⟩
    · intro pdu number cursor stage
      rw [extracting] at stage
      cases stage
    · intro cursor here
      rw [extracting] at here
      cases here
      obtain ⟨more, rfl⟩ := ahead
      have all := unread 0 (by rw [reading]; rfl)
      rw [buffer, all, List.drop_zero, List.drop_zero, List.drop_left, List.append_assoc]
  | tail extracting received buffer reading =>
    refine ⟨stream.whole, ?_, rest, received ▸ same, ?_⟩
    · intro pdu number cursor stage
      rcases reading with reading | leaving
      · rw [reading] at stage
        cases stage
      · rw [leaving] at stage
        cases stage
    · intro cursor here
      rcases reading with reading | leaving
      · rw [reading] at here
        cases here
        rw [buffer, List.drop_zero]
        exact unread _ (by rw [extracting]; rfl)
      · rw [leaving] at here
        cases here
  | wait extracting stands received buffer linking =>
    refine ⟨stream.whole, ?_, rest, received ▸ same, ?_⟩
    · intro pdu number cursor stage
      rw [linking] at stage
      cases stage
      unfold Session.StandsAt at *
      rw [buffer]
      exact stands
    · intro cursor here
      rw [linking] at here
      cases here
      rw [buffer]
      exact unread _ (by rw [extracting]; rfl)
  | pdu standing received buffer position linking =>
    rename_i pdu cursor
    have here : receiver.reader.position = some cursor ∧ receiver.StandsAt pdu cursor := by
      rcases standing with ⟨extracting, stands⟩ | ⟨number, linking⟩
      · exact ⟨by rw [extracting]; rfl, stands⟩
      · exact ⟨by rw [linking]; rfl, stream.linking pdu number cursor linking⟩
    obtain ⟨later, split, after⟩ := stream.front here.1 here.2
    refine ⟨stream.whole, ?_, later, received ▸ split, ?_⟩
    · intro pdu number cursor stage
      exact absurd stage (linking pdu number cursor)
    · intro cursor' there
      rcases position with advanced | gone
      · rw [advanced] at there
        cases there
        rw [buffer]
        exact after
      · rw [gone] at there
        cases there

end Stream

namespace Session

section Consumes

variable {endpoint : Endpoint} {session next : Session}

structure TakenUp (session : Session) (pdu : Bytes) (cursor : Nat) (next : Session) : Prop where
  received : next.received = session.received ++ [pdu]
  position : next.reader.position = some cursor ∨ next.reader.position = none
  linking : ∀ pdu number cursor, next.reader ≠ .linking pdu number cursor

theorem unlinked {reader : ReaderStage} (links : reader.links = none)
    {waits : Bytes → UInt32 → Nat → Prop} (pdu : Bytes) (number : UInt32) (cursor : Nat)
    (stage : reader = .linking pdu number cursor) : waits pdu number cursor := by
  rw [stage] at links
  cases links

theorem reply_takenUp {pdu : Bytes} {before : Session}
    (received : session.received = before.received ++ [pdu]) (place : Nat) (frame : Bytes)
    (cursor : Nat) (control : Control) :
    before.TakenUp pdu cursor (session.reply place frame cursor control) := by
  obtain ⟨senders, channel, ticker, reader, same, -, stands⟩ :=
    reply_eq session place frame cursor control
  rw [same]
  rcases stands with ⟨rfl, -⟩ | rfl | rfl
  · exact ⟨received, .inl rfl, unlinked rfl⟩
  · exact ⟨received, .inr rfl, unlinked rfl⟩
  · exact ⟨received, .inl rfl, unlinked rfl⟩

theorem settle_takenUp {pdu : Bytes} {cursor : Nat} (number : UInt32) (place : Nat)
    (settlement : Settlement) :
    session.TakenUp pdu cursor
      ({ session with received := session.received ++ [pdu], reader := .extracting cursor }.settle
        endpoint number place cursor settlement) := by
  unfold settle
  split
  · exact ⟨rfl, .inl rfl, unlinked rfl⟩
  · rename_i entry found
    dsimp only
    split
    · exact ⟨rfl, .inl rfl, unlinked rfl⟩
    · cases settlement with
      | deliver resp closes =>
        cases entry.caller <;> cases closes
        · exact ⟨rfl, .inl rfl, unlinked rfl⟩
        · exact ⟨rfl, .inr rfl, unlinked rfl⟩
        · exact ⟨rfl, .inl rfl, unlinked rfl⟩
        · exact ⟨rfl, .inr rfl, unlinked rfl⟩
      | refuse reply =>
        cases reply with
        | none => exact ⟨rfl, .inl rfl, unlinked rfl⟩
        | some frame => exact reply_takenUp rfl place frame cursor .proceed
      | panic => exact ⟨rfl, .inr rfl, unlinked rfl⟩

theorem settleLink_takenUp {before : Session} (same : session.received = before.received)
    (pdu : Bytes) (number : UInt32) (cursor : Nat) :
    before.TakenUp pdu (cursor + pdu.length)
      (session.settleLink endpoint pdu number cursor) := by
  unfold settleLink
  rw [same]
  dsimp only
  split
  · exact ⟨rfl, .inl rfl, unlinked rfl⟩
  · split <;> exact ⟨rfl, .inl rfl, unlinked rfl⟩

theorem takeUp_takenUp (endpoint : Endpoint) (session : Session) (pdu : Bytes) (cursor : Nat) :
    session.TakenUp pdu (cursor + pdu.length) (session.takeUp endpoint pdu cursor) ∨
      ∃ header, CommandHeader.decode pdu = .ok header ∧ endpoint.branch header pdu = .linkResp ∧
        (session.takeUp endpoint pdu cursor).reader = .linking pdu header.sequenceNumber cursor ∧
        (session.takeUp endpoint pdu cursor).received = session.received := by
  unfold takeUp
  split
  · rename_i header framed
    unfold dispatch
    dsimp only
    split
    · exact .inl ⟨rfl, .inl rfl, unlinked rfl⟩
    · exact .inl ⟨rfl, .inl rfl, unlinked rfl⟩
    · exact .inl (reply_takenUp rfl _ _ _ .proceed)
    · exact .inl ⟨rfl, .inl rfl, unlinked rfl⟩
    · exact .inl (reply_takenUp rfl _ _ _ .unbound)
    · rename_i branch
      unfold link
      split
      · exact .inl (settleLink_takenUp (by rfl) pdu _ cursor)
      · split
        · exact .inl (settleLink_takenUp (by rfl) pdu _ cursor)
        · exact .inr ⟨header, framed, branch, rfl, rfl⟩
    · exact .inl (settle_takenUp _ _ _)
    · exact .inl ⟨rfl, .inr rfl, unlinked rfl⟩
  · exact .inl (reply_takenUp rfl _ _ _ .writerDead)

theorem takeUp_received {pdu : Bytes} {header : CommandHeader}
    (framed : CommandHeader.decode pdu = .ok header) (other : endpoint.branch header pdu ≠ .linkResp)
    (cursor : Nat) : (session.takeUp endpoint pdu cursor).received = session.received ++ [pdu] := by
  rcases takeUp_takenUp endpoint session pdu cursor with up | ⟨header', framed', link, -⟩
  · exact up.received
  · rw [framed] at framed'
    cases framed'
    exact absurd link other

theorem takeUp_buffer (endpoint : Endpoint) (session : Session) (pdu : Bytes) (cursor : Nat) :
    (session.takeUp endpoint pdu cursor).buffer = session.buffer :=
  congrArg Background.buffer (takeUp_background endpoint session pdu cursor)

theorem finishRead_consumes {cursor : Nat} (stage : session.reader = .extracting cursor) :
    session.Consumes (session.finishRead endpoint cursor) [] := by
  refine .tail stage rfl rfl ?_
  unfold finishRead
  dsimp only
  split
  · exact .inr rfl
  · exact .inl rfl

theorem takeUp_consumes {cursor size : Nat} (stage : session.reader = .extracting cursor)
    (whole : nextPdu session.buffer cursor = .complete size) :
    session.Consumes
      (session.takeUp endpoint ((session.buffer.drop cursor).take size) cursor) [] := by
  have length : ((session.buffer.drop cursor).take size).length = size := by
    have framed := whole
    rw [nextPdu_eq] at framed
    rw [List.length_take]
    exact Nat.min_eq_left (frameFirstPdu_complete framed).2.2.1
  have stands : session.StandsAt ((session.buffer.drop cursor).take size) cursor := by
    unfold StandsAt
    rw [length]
    exact ⟨whole, rfl⟩
  have buffer := takeUp_buffer endpoint session ((session.buffer.drop cursor).take size) cursor
  rcases takeUp_takenUp endpoint session ((session.buffer.drop cursor).take size) cursor with
    up | ⟨header, -, -, linking, received⟩
  · exact .pdu (.inl ⟨stage, stands⟩) up.received buffer up.position up.linking
  · exact .wait stage stands received buffer linking

theorem settleLink_consumes {pdu : Bytes} {number : UInt32} {cursor : Nat} (links : List UInt32)
    (stage : session.reader = .linking pdu number cursor) :
    session.Consumes ({ session with links := links }.settleLink endpoint pdu number cursor) [] := by
  have received : { session with links := links }.received = session.received := rfl
  have up : session.TakenUp pdu (cursor + pdu.length)
      ({ session with links := links }.settleLink endpoint pdu number cursor) :=
    settleLink_takenUp received pdu number cursor
  have kept := congrArg Background.buffer
    (settleLink_background endpoint { session with links := links } pdu number cursor)
  exact .pdu (.inr ⟨number, stage⟩) up.received kept up.position up.linking

theorem sendReply_consumes (place : Nat) (frame : Bytes) {cursor : Nat} (control : Control)
    (position : session.reader.position = some cursor) :
    session.Consumes (session.sendReply place frame cursor control) [] := by
  cases control with
  | proceed => exact .nothing rfl rfl (.inl position.symm) (unlinked rfl)
  | unbound => exact .nothing rfl rfl (.inr rfl) (unlinked rfl)
  | writerDead => exact .nothing rfl rfl (.inr rfl) (unlinked rfl)

theorem reply_consumes (place : Nat) (frame : Bytes) {cursor : Nat} (control : Control)
    (position : session.reader.position = some cursor) :
    session.Consumes (session.reply place frame cursor control) [] := by
  obtain ⟨senders, channel, ticker, reader, same, -, stands⟩ :=
    reply_eq session place frame cursor control
  rw [same]
  rcases stands with ⟨rfl, -⟩ | rfl | rfl
  · exact .nothing rfl rfl (.inl position.symm) (unlinked rfl)
  · exact .nothing rfl rfl (.inr rfl) (unlinked rfl)
  · exact .nothing rfl rfl (.inl position.symm) (unlinked rfl)

end Consumes

end Session

def Event.piece : Event → Bytes
  | receive piece => piece
  | _ => []

namespace Session

section Consumes

variable {endpoint : Endpoint} {session next : Session}

/-- Only the read loop touches the stream that comes in. -/
theorem step_consumes {event : Event} (taken : session.step endpoint event = some next) :
    session.Consumes next event.piece := by
  have same : next.reader = session.reader ∧ next.received = session.received ∧
      next.buffer = session.buffer → session.Consumes next [] := by
    rintro ⟨reader, received, buffer⟩
    exact .nothing received buffer (.inl (congrArg _ reader)) fun _ _ _ stage => reader ▸ stage
  by_cases reads : event.ofReader = true
  · cases step_reader reads taken with
    | receives stage => exact .piece stage rfl rfl rfl
    | waits stage => exact same ⟨rfl, rfl, rfl⟩
    | finishes stage => exact finishRead_consumes stage
    | takesUp stage whole => exact takeUp_consumes stage whole
    | queuesReply stage =>
      apply sendReply_consumes
      rw [stage]
      rfl
    | queuesNumber stage => exact settleLink_consumes _ stage
    | answers stage =>
      apply reply_consumes
      rw [stage]
      rfl
    | _ => exact .nothing rfl rfl (.inr rfl) (unlinked rfl)
  · have elsewhere : event.ofReader = false := Bool.not_eq_true _ ▸ reads
    have nothing : event.piece = [] := by
      cases event <;> first | rfl | cases elsewhere
    rw [nothing]
    exact same (step_elsewhere elsewhere taken)

end Consumes

end Session

end Smpp34
