import Smpp34.Commands.Pdu

namespace Smpp34

open Octets
open Delimited

/-- What a dispatched PDU makes of the read loop. -/
inductive Control where
  | proceed
  | unbound
  | writerDead
deriving DecidableEq, Repr

/-- A session as the read loop sees it: what a PDU with a sound header does to its state, and
    what becomes of a PDU without one. -/
structure Dispatch (σ : Type) where
  onPdu : σ → CommandHeader → Bytes → σ × Control
  onHeaderError : σ → UInt32 → SmppError → σ

/-- The length checks the read loop makes at `cursor` before it slices a PDU off. -/
def nextPdu (buffer : Bytes) (cursor : Nat) : Framing :=
  if buffer.length - cursor < 16 then .incomplete
  else
    let pduLength := beU32At buffer cursor
    if pduLength.toNat < 16 ∨ pduLength.toNat > maxPduLen then .invalid pduLength
    else if buffer.length - cursor < pduLength.toNat then .incomplete
    else .complete pduLength.toNat

def potentialSeqNo (pdu : Bytes) : UInt32 := if pdu.length ≥ 16 then beU32At pdu 12 else 0

structure Extraction (σ : Type) where
  state : σ
  cursor : Nat
  lastPduWasUnbind : Bool
  writerDead : Bool

theorem nextPdu_eq (buffer : Bytes) (cursor : Nat) :
    nextPdu buffer cursor = frameFirstPdu (buffer.drop cursor) maxPduLen := by
  simp only [nextPdu, frameFirstPdu, List.length_drop, beU32At_drop, Nat.add_zero]

theorem nextPdu_advance {buffer : Bytes} {cursor size : Nat}
    (whole : nextPdu buffer cursor = .complete size) :
    buffer.length - (cursor + size) < buffer.length - cursor := by
  rw [nextPdu_eq] at whole
  have bounds := frameFirstPdu_complete whole
  rw [List.length_drop] at bounds
  omega

section ReadLoop

variable {σ : Type} (dispatch : Dispatch σ)

def extract (buffer : Bytes) (cursor : Nat) (state : σ) : Extraction σ :=
  match _ : nextPdu buffer cursor with
  | .incomplete => ⟨state, cursor, false, false⟩
  | .invalid _ => ⟨state, cursor, false, true⟩
  | .complete size =>
    let pdu := (buffer.drop cursor).take size
    match CommandHeader.decode pdu with
    | .ok header =>
      match dispatch.onPdu state header pdu with
      | (next, .proceed) => extract buffer (cursor + size) next
      | (next, .unbound) => ⟨next, cursor, true, false⟩
      | (next, .writerDead) => ⟨next, cursor, false, true⟩
    | .error error =>
      ⟨dispatch.onHeaderError state (potentialSeqNo pdu) error, cursor, false, true⟩
termination_by buffer.length - cursor
decreasing_by exact nextPdu_advance (by assumption)

structure Reading (σ : Type) where
  state : σ
  position : Nat
  tail : Option Bytes
deriving DecidableEq, Repr

/-- The read loop over a run of reads; a read of nothing is the end of the stream. -/
def readLoop : σ → Nat → Bytes → List Bytes → Reading σ
  | state, position, buffer, [] => ⟨state, position, some buffer⟩
  | state, position, buffer, piece :: reads =>
    if piece = [] then ⟨state, position, none⟩
    else
      let extraction := extract dispatch (buffer ++ piece) 0 state
      if extraction.lastPduWasUnbind || extraction.writerDead then
        ⟨extraction.state, position + extraction.cursor, none⟩
      else
        readLoop extraction.state (position + extraction.cursor)
          ((buffer ++ piece).drop extraction.cursor) reads

def Dispatch.handle (state : σ) (pdu : Bytes) : σ × Bool :=
  match CommandHeader.decode pdu with
  | .ok header =>
    match dispatch.onPdu state header pdu with
    | (next, .proceed) => (next, true)
    | (next, _) => (next, false)
  | .error error => (dispatch.onHeaderError state (potentialSeqNo pdu) error, false)

def Reading.ofOutcome (position : Nat) (outcome : Outcome σ UInt8 UInt32) : Reading σ :=
  ⟨outcome.state, position + outcome.consumed, match outcome.ending with
    | .waiting tail => some tail
    | _ => none⟩

/-- What a session sees of a stream: the PDUs that the reference framing cuts from it. -/
def referenceReading (state : σ) (stream : Bytes) : Reading σ :=
  let framed := cut (pduDelimiter maxPduLen) stream
  Reading.ofOutcome 0 (deliver dispatch.handle state framed.1 framed.2)

structure Extraction.Reports (extraction : Extraction σ) (buffer : Bytes) (cursor : Nat)
    (outcome : Outcome σ UInt8 UInt32) : Prop where
  state : extraction.state = outcome.state
  cursor : extraction.cursor = cursor + outcome.consumed
  ending : match outcome.ending with
    | .waiting tail => (extraction.lastPduWasUnbind || extraction.writerDead) = false ∧
        buffer.drop extraction.cursor = tail
    | _ => (extraction.lastPduWasUnbind || extraction.writerDead) = true

theorem extract_incomplete {buffer : Bytes} {cursor : Nat} (state : σ)
    (short : nextPdu buffer cursor = .incomplete) :
    extract dispatch buffer cursor state = ⟨state, cursor, false, false⟩ := by
  rw [extract]
  split <;> simp_all

theorem extract_invalid {buffer : Bytes} {cursor : Nat} {length : UInt32} (state : σ)
    (bad : nextPdu buffer cursor = .invalid length) :
    extract dispatch buffer cursor state = ⟨state, cursor, false, true⟩ := by
  rw [extract]
  split <;> simp_all

theorem extract_complete {buffer : Bytes} {cursor size : Nat} (state : σ)
    (whole : nextPdu buffer cursor = .complete size) :
    extract dispatch buffer cursor state =
      match CommandHeader.decode ((buffer.drop cursor).take size) with
      | .ok header =>
        match dispatch.onPdu state header ((buffer.drop cursor).take size) with
        | (next, .proceed) => extract dispatch buffer (cursor + size) next
        | (next, .unbound) => ⟨next, cursor, true, false⟩
        | (next, .writerDead) => ⟨next, cursor, false, true⟩
      | .error error =>
        ⟨dispatch.onHeaderError state (potentialSeqNo ((buffer.drop cursor).take size)) error,
          cursor, false, true⟩ := by
  rw [extract]
  split <;> simp_all

theorem extract_reports (buffer : Bytes) (cursor : Nat) (state : σ) :
    (extract dispatch buffer cursor state).Reports buffer cursor
      (consume (pduDelimiter maxPduLen) dispatch.handle state (buffer.drop cursor)) := by
  induction left : buffer.length - cursor using Nat.strongRecOn generalizing cursor state with
  | ind left' ih =>
    subst left
    cases judged : nextPdu buffer cursor with
    | incomplete =>
      have short : (pduDelimiter maxPduLen).judge (buffer.drop cursor) = .incomplete := by
        rw [← judged, nextPdu_eq]
        rfl
      rw [extract_incomplete dispatch state judged, consume_incomplete _ _ _ short]
      exact ⟨rfl, rfl, rfl, rfl⟩
    | invalid length =>
      have bad : (pduDelimiter maxPduLen).judge (buffer.drop cursor) = .invalid length := by
        rw [← judged, nextPdu_eq]
        rfl
      rw [extract_invalid dispatch state judged, consume_invalid _ _ _ bad]
      exact ⟨rfl, rfl, rfl⟩
    | complete size =>
      have whole : (pduDelimiter maxPduLen).judge (buffer.drop cursor) = .complete size := by
        rw [← judged, nextPdu_eq]
        rfl
      rw [extract_complete dispatch state judged, consume_complete _ _ _ whole, List.drop_drop,
        Dispatch.handle]
      cases CommandHeader.decode ((buffer.drop cursor).take size) with
      | error error => exact ⟨rfl, rfl, rfl⟩
      | ok header =>
        dsimp only
        rcases dispatch.onPdu state header ((buffer.drop cursor).take size) with ⟨next, control⟩
        cases control with
        | unbound => exact ⟨rfl, rfl, rfl⟩
        | writerDead => exact ⟨rfl, rfl, rfl⟩
        | proceed =>
          have later := ih _ (nextPdu_advance judged) (cursor + size) next rfl
          refine ⟨later.state, ?_, later.ending⟩
          rw [later.cursor]
          simp only [Outcome.shift]
          omega

/-- The loop with its cursor and its kept tail feeds the reads to the framing. -/
theorem readLoop_eq_feed (state : σ) (position : Nat) (buffer : Bytes) (reads : List Bytes)
    (nonempty : [] ∉ reads) :
    readLoop dispatch state position buffer reads =
      Reading.ofOutcome position
        (feed (pduDelimiter maxPduLen) dispatch.handle state buffer reads) := by
  induction reads generalizing state position buffer with
  | nil => rfl
  | cons piece reads ih =>
    simp only [List.mem_cons, not_or] at nonempty
    have report := extract_reports dispatch (buffer ++ piece) 0 state
    rw [List.drop_zero] at report
    rw [readLoop, if_neg (Ne.symm nonempty.1), feed]
    obtain ⟨sameState, sameCursor, sameEnding⟩ := report
    rw [Nat.zero_add] at sameCursor
    cases ended : (consume (pduDelimiter maxPduLen) dispatch.handle state
        (buffer ++ piece)).ending with
    | waiting tail =>
      simp only [ended] at sameEnding ⊢
      rw [if_neg (by rw [sameEnding.1]; decide), ih _ _ _ nonempty.2, sameEnding.2, sameState,
        sameCursor]
      simp only [Reading.ofOutcome, Outcome.shift, Nat.add_assoc]
    | fault reason =>
      simp only [ended] at sameEnding ⊢
      rw [if_pos sameEnding, sameState, sameCursor, Reading.ofOutcome, ended]
    | stopped =>
      simp only [ended] at sameEnding ⊢
      rw [if_pos sameEnding, sameState, sameCursor, Reading.ofOutcome, ended]

theorem readLoop_eq_reference (state : σ) (reads : List Bytes) (nonempty : [] ∉ reads) :
    readLoop dispatch state 0 [] reads = referenceReading dispatch state reads.flatten := by
  have short : (pduDelimiter maxPduLen).judge [] = .incomplete := rfl
  rw [readLoop_eq_feed dispatch state 0 [] reads nonempty,
    feed_eq_consume _ dispatch.handle state [] reads short, List.nil_append, consume_eq_deliver]
  rfl

end ReadLoop

/-- The handshake's loop: the first PDU, what lies behind it in the buffer, and the reads to
    come. End of stream and a bad length both give an empty PDU. -/
def firstRead (buffer : Bytes) (reads : List Bytes) : Bytes × Bytes × List Bytes :=
  match frameFirstPdu buffer maxPduLen with
  | .complete size => (buffer.take size, buffer.drop size, reads)
  | .invalid _ => ([], buffer, reads)
  | .incomplete =>
    match reads with
    | [] => ([], buffer, [])
    | piece :: reads => if piece = [] then ([], buffer, reads) else firstRead (buffer ++ piece) reads

/-- How the octets behind the bind PDU are read again: in any pieces. -/
structure Replay where
  pieces : Bytes → List Bytes
  whole : ∀ bytes, (pieces bytes).flatten = bytes
  nonempty : ∀ bytes, [] ∉ pieces bytes

inductive Connection (σ : Type) where
  | refused (pdu : Bytes)
  | session (pdu : Bytes) (reading : Reading σ)
deriving DecidableEq, Repr

section Connection

variable {σ : Type} (bind : CommandHeader → Bytes → Option σ) (dispatch : Dispatch σ)

def connection (replay : Replay) (reads : List Bytes) : Connection σ :=
  let (pdu, leftover, reads) := firstRead [] reads
  match CommandHeader.decode pdu with
  | .error _ => .refused pdu
  | .ok header =>
    match bind header pdu with
    | none => .refused pdu
    | some state =>
      .session pdu (readLoop dispatch state 0 [] (replay.pieces leftover ++ reads))

def referenceConnection (stream : Bytes) : Connection σ :=
  match frameFirstPdu stream maxPduLen with
  | .complete size =>
    match CommandHeader.decode (stream.take size) with
    | .error _ => .refused (stream.take size)
    | .ok header =>
      match bind header (stream.take size) with
      | none => .refused (stream.take size)
      | some state =>
        .session (stream.take size) (referenceReading dispatch state (stream.drop size))
  | _ => .refused []

theorem firstRead_complete (buffer : Bytes) (reads : List Bytes) (nonempty : [] ∉ reads)
    (size : Nat) (whole : frameFirstPdu (buffer ++ reads.flatten) maxPduLen = .complete size) :
    ∃ leftover rest, firstRead buffer reads =
        ((buffer ++ reads.flatten).take size, leftover, rest) ∧
      leftover ++ rest.flatten = (buffer ++ reads.flatten).drop size ∧ [] ∉ rest := by
  induction reads generalizing buffer with
  | nil =>
    rw [List.flatten_nil, List.append_nil] at whole ⊢
    exact ⟨buffer.drop size, [], by rw [firstRead, whole], by simp, nonempty⟩
  | cons piece reads ih =>
    rw [firstRead]
    cases judged : frameFirstPdu buffer maxPduLen with
    | complete other =>
      have same := frameFirstPdu_append_complete (piece :: reads).flatten judged
      rw [whole] at same
      cases same
      have within := (frameFirstPdu_complete judged).2.2.1
      refine ⟨buffer.drop size, piece :: reads, ?_, ?_, nonempty⟩
      · rw [List.take_append_of_le_length within]
      · rw [List.drop_append_of_le_length within]
    | invalid length =>
      rw [frameFirstPdu_append_invalid _ judged] at whole
      cases whole
    | incomplete =>
      simp only [List.mem_cons, not_or] at nonempty
      simp only
      rw [List.flatten_cons, ← List.append_assoc] at whole ⊢
      rw [if_neg (Ne.symm nonempty.1)]
      exact ih (buffer ++ piece) nonempty.2 whole

theorem firstRead_nothing (buffer : Bytes) (reads : List Bytes) (nonempty : [] ∉ reads)
    (never : ∀ size, frameFirstPdu (buffer ++ reads.flatten) maxPduLen ≠ .complete size) :
    (firstRead buffer reads).1 = [] := by
  induction reads generalizing buffer with
  | nil =>
    rw [List.flatten_nil, List.append_nil] at never
    rw [firstRead]
    cases judged : frameFirstPdu buffer maxPduLen with
    | complete size => exact absurd judged (never size)
    | invalid length => rfl
    | incomplete => rfl
  | cons piece reads ih =>
    rw [firstRead]
    cases judged : frameFirstPdu buffer maxPduLen with
    | complete size =>
      exact absurd (frameFirstPdu_append_complete (piece :: reads).flatten judged) (never size)
    | invalid length => rfl
    | incomplete =>
      simp only [List.mem_cons, not_or] at nonempty
      simp only
      rw [if_neg (Ne.symm nonempty.1)]
      rw [List.flatten_cons, ← List.append_assoc] at never
      exact ih (buffer ++ piece) nonempty.2 never

theorem connection_eq_reference (replay : Replay) (reads : List Bytes) (nonempty : [] ∉ reads) :
    connection bind dispatch replay reads =
      referenceConnection bind dispatch reads.flatten := by
  have empty : ∃ error, CommandHeader.decode [] = .error error := ⟨_, rfl⟩
  obtain ⟨error, refused⟩ := empty
  rw [connection, referenceConnection]
  cases judged : frameFirstPdu reads.flatten maxPduLen with
  | complete size =>
    obtain ⟨leftover, rest, first, behind, rest_nonempty⟩ :=
      firstRead_complete [] reads nonempty size judged
    rw [List.nil_append] at first behind
    have replayed : (replay.pieces leftover ++ rest).flatten = reads.flatten.drop size := by
      rw [List.flatten_append, replay.whole, behind]
    have all_nonempty : [] ∉ replay.pieces leftover ++ rest := by
      rw [List.mem_append, not_or]
      exact ⟨replay.nonempty leftover, rest_nonempty⟩
    rw [first]
    simp only [readLoop_eq_reference dispatch _ _ all_nonempty, replayed]
  | invalid length =>
    have nothing := firstRead_nothing [] reads nonempty (by simp [judged])
    simp only [nothing, refused]
  | incomplete =>
    have nothing := firstRead_nothing [] reads nonempty (by simp [judged])
    simp only [nothing, refused]

end Connection

section Binds

variable {σ : Type}

/-- The server goes into a session on a bind request that decodes, that the listener accepts
    and whose response could be written. -/
def serverBind (onBind : (kind : BindKind) → BindRequest kind → BindResp kind) (written : Bool)
    (session : BindKind → σ) (header : CommandHeader) (pdu : Bytes) : Option σ :=
  let attempt (kind : BindKind) : Option σ :=
    match BindRequest.decode kind header pdu with
    | .ok request =>
      if (onBind kind request).isSuccess && written then some (session kind) else none
    | .error _ => none
  if header.commandId = CommandId.bindReceiver.value then attempt .receiver
  else if header.commandId = CommandId.bindTransmitter.value then attempt .transmitter
  else if header.commandId = CommandId.bindTransceiver.value then attempt .transceiver
  else none

/-- The client goes into a session on the response to the bind it sent with number 1. -/
def clientBind (bindType : BindKind) (session : σ) (header : CommandHeader) (pdu : Bytes) :
    Option σ :=
  if potentialSeqNo pdu = 1 ∧ header.commandStatus = SmppError.ESME_ROK.code ∧
      header.commandId = bindType.respCommandId.value then some session
  else none

/-- However the stream is chopped into reads, both ends see the PDUs of the reference framing:
    the first by the handshake and the rest by the session, up to the same position. -/
theorem framing_independent_of_reads (dispatch : Dispatch σ) (replay : Replay)
    (reads : List Bytes) (nonempty : [] ∉ reads) :
    (∀ onBind written session,
      connection (serverBind onBind written session) dispatch replay reads =
        referenceConnection (serverBind onBind written session) dispatch reads.flatten) ∧
    (∀ bindType session,
      connection (clientBind bindType session) dispatch replay reads =
        referenceConnection (clientBind bindType session) dispatch reads.flatten) ∧
    (∀ buffer cursor,
      nextPdu buffer cursor = frameFirstPdu (buffer.drop cursor) maxPduLen) ∧
    ∀ buffer cursor size, nextPdu buffer cursor = .complete size →
      ∃ header, CommandHeader.decode ((buffer.drop cursor).take size) = .ok header := by
  refine ⟨fun _ _ _ => connection_eq_reference _ dispatch replay reads nonempty,
    fun _ _ => connection_eq_reference _ dispatch replay reads nonempty, nextPdu_eq, ?_⟩
  intro buffer cursor size whole
  rw [nextPdu_eq] at whole
  exact decode_framed whole

end Binds

def counting : Dispatch Nat := ⟨fun count _ _ => (count + 1, .proceed), fun count _ _ => count⟩

def replayWhole : Replay where
  pieces bytes := if bytes = [] then [] else [bytes]
  whole bytes := by split <;> simp_all
  nonempty bytes := by split <;> simp_all

theorem framing_of_a_chopped_bind_response :
    let bindResp : Bytes := [0, 0, 0, 17, 0x80, 0, 0, 2, 0, 0, 0, 0, 0, 0, 0, 1, 0]
    let enquireLink := (EnquireLink.new 1).encode
    let reads := [bindResp.take 3, bindResp.drop 3 ++ enquireLink.take 5, enquireLink.drop 5]
    [] ∉ reads ∧
      connection (clientBind .transmitter 0) counting replayWhole reads =
        referenceConnection (clientBind .transmitter 0) counting (bindResp ++ enquireLink) :=
  ⟨by decide, (framing_independent_of_reads counting replayWhole _ (by decide)).2.1
    .transmitter 0⟩

end Smpp34
