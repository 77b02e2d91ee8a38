import Smpp34.Codec.Bounds
import Smpp34.Session.Stream

namespace Smpp34

open Octets
open Machine (run)

def minus (a b : Nat) : Decoded Nat := if b ≤ a then .ok (a - b) else .error .panic

/-- What `split_to` leaves in the buffer. -/
def splitTo (buffer : Bytes) (position : Nat) : Decoded Bytes :=
  if position ≤ buffer.length then .ok (buffer.drop position) else .error .panic

/-- The head of the extraction loop: its condition and the two checks behind it. -/
def nextPduIndexed (buffer : Bytes) (cursor : Nat) : Decoded Framing := do
  let left ← minus buffer.length cursor
  if 16 ≤ left then
    let pduLength := beU32At buffer cursor
    if pduLength.toNat < 16 ∨ pduLength.toNat > maxPduLen then pure (.invalid pduLength)
    else
      let left ← minus buffer.length cursor
      if left < pduLength.toNat then pure .incomplete else pure (.complete pduLength.toNat)
  else pure .incomplete

namespace Session

def extractIndexed (endpoint : Endpoint) (session : Session) : Option (Decoded Session) :=
  match session.reader with
  | .extracting cursor => some do
    match ← nextPduIndexed session.buffer cursor with
    | .incomplete =>
      let tail ← splitTo session.buffer cursor
      pure { session.finishRead endpoint cursor with buffer := tail }
    | .invalid _ =>
      let _ ← splitTo session.buffer cursor
      pure { session with reader := .leaving }
    | .complete size =>
      let pdu ← slice session.buffer cursor (cursor + size)
      pure (session.takeUp endpoint pdu cursor)
  | _ => none

end Session

section Arithmetic

variable {buffer : Bytes} {cursor : Nat}

theorem minus_ok {a b : Nat} (ordered : b ≤ a) : minus a b = .ok (a - b) := if_pos ordered

theorem splitTo_ok (within : cursor ≤ buffer.length) :
    splitTo buffer cursor = .ok (buffer.drop cursor) := if_pos within

theorem nextPduIndexed_ok (within : cursor ≤ buffer.length) :
    nextPduIndexed buffer cursor = .ok (nextPdu buffer cursor) := by
  rw [nextPduIndexed, ok_bind (minus_ok within), nextPdu]
  by_cases short : buffer.length - cursor < 16
  · rw [if_neg (by omega), if_pos short]
    rfl
  · rw [if_pos (by omega), if_neg short]
    dsimp only
    split
    · rfl
    · rw [ok_bind (minus_ok within)]
      split <;> rfl

theorem nextPdu_complete {size : Nat} (whole : nextPdu buffer cursor = .complete size) :
    16 ≤ size ∧ cursor + size ≤ buffer.length := by
  rw [nextPdu_eq] at whole
  have bounds := frameFirstPdu_complete whole
  rw [List.length_drop] at bounds
  omega

theorem slice_complete {size : Nat} (whole : nextPdu buffer cursor = .complete size) :
    slice buffer cursor (cursor + size) = .ok ((buffer.drop cursor).take size) := by
  rw [slice_in_range (by omega) (nextPdu_complete whole).2, List.take_drop]

end Arithmetic

/-- The octets that wait for the rest of their PDU: too few for a header, or fewer than it tells. -/
def Unfinished (tail : Bytes) : Prop :=
  tail.length < 16 ∨ tail.length < (beU32At tail 0).toNat ∧ (beU32At tail 0).toNat ≤ maxPduLen

theorem Unfinished.short {tail : Bytes} (unfinished : Unfinished tail) :
    tail.length < maxPduLen := by
  rcases unfinished with few | ⟨part, told⟩
  · exact Nat.lt_trans few (by decide)
  · omega

theorem unfinished_of_incomplete {buffer : Bytes} {cursor : Nat}
    (short : nextPdu buffer cursor = .incomplete) : Unfinished (buffer.drop cursor) := by
  rw [nextPdu_eq, frameFirstPdu] at short
  split at short
  · rename_i few
    exact .inl few
  · dsimp only at short
    split at short
    · cases short
    · rename_i sound
      split at short
      · rename_i part
        exact .inr ⟨part, by omega⟩
      · cases short

namespace Session

structure Contained (session : Session) : Prop where
  within : ∀ cursor, session.reader.position = some cursor → cursor ≤ session.buffer.length
  linking : ∀ pdu number cursor, session.reader = .linking pdu number cursor →
    session.StandsAt pdu cursor
  tail : session.reader = .reading → Unfinished session.buffer

section Contained

variable {endpoint : Endpoint} {session next : Session} {event : Event}

theorem contained_start (endpoint : Endpoint) : endpoint.start.Contained where
  within cursor position := by
    cases position
    exact Nat.le_refl 0
  linking pdu number cursor stage := by cases stage
  tail _ := .inl (show 0 < 16 by decide)

theorem StandsAt.within {pdu : Bytes} {cursor : Nat} (stands : session.StandsAt pdu cursor) :
    16 ≤ pdu.length ∧ cursor + pdu.length ≤ session.buffer.length :=
  nextPdu_complete stands.1

theorem step_within (contained : session.Contained)
    (taken : session.step endpoint event = some next) :
    ∀ cursor, next.reader.position = some cursor → cursor ≤ next.buffer.length := by
  intro cursor after
  have consumes := step_consumes taken
  generalize event.piece = piece at consumes
  cases consumes with
  | nothing received buffer position linking =>
    rw [buffer]
    rcases position with same | gone
    · exact contained.within cursor (same ▸ after)
    · rw [gone] at after
      cases after
  | piece reading received buffer extracting =>
    rw [extracting] at after
    cases after
    exact Nat.zero_le _
  | tail extracting received buffer reading =>
    rcases reading with reading | leaving
    · rw [reading] at after
      cases after
      exact Nat.zero_le _
    · rw [leaving] at after
      cases after
  | wait extracting stands received buffer linking =>
    rw [linking] at after
    cases after
    rw [buffer]
    have inside := stands.within.2
    omega
  | @pdu pdu start standing received buffer position linking =>
    have stands : session.StandsAt pdu start := by
      rcases standing with ⟨-, stands⟩ | ⟨number, stage⟩
      · exact stands
      · exact contained.linking pdu number start stage
    rw [buffer]
    rcases position with goesOn | gone
    · rw [goesOn] at after
      cases after
      exact stands.within.2
    · rw [gone] at after
      cases after

theorem step_linking (contained : session.Contained)
    (taken : session.step endpoint event = some next) :
    ∀ pdu number cursor, next.reader = .linking pdu number cursor → next.StandsAt pdu cursor := by
  intro pdu number cursor stage
  have consumes := step_consumes taken
  generalize event.piece = piece at consumes
  cases consumes with
  | nothing received buffer position linking =>
    have before := contained.linking pdu number cursor (linking pdu number cursor stage)
    rw [StandsAt, buffer]
    exact before
  | piece reading received buffer extracting =>
    rw [extracting] at stage
    cases stage
  | tail extracting received buffer reading =>
    rcases reading with reading | leaving
    · rw [reading] at stage
      cases stage
    · rw [leaving] at stage
      cases stage
  | wait extracting stands received buffer linking =>
    rw [linking] at stage
    cases stage
    rw [StandsAt, buffer]
    exact stands
  | pdu standing received buffer position linking =>
    exact absurd stage (linking pdu number cursor)

theorem TakenUp.not_reading {pdu : Bytes} {cursor : Nat} (long : 16 ≤ pdu.length)
    (up : session.TakenUp pdu (cursor + pdu.length) next) : next.reader ≠ .reading := by
  intro reading
  rcases up.position with goesOn | gone
  · rw [reading] at goesOn
    have zero : 0 = cursor + pdu.length := Option.some.inj goesOn
    omega
  · rw [reading] at gone
    cases gone

theorem reply_not_reading (place : Nat) (frame : Bytes) (cursor : Nat) (control : Control) :
    (session.reply place frame cursor control).reader ≠ .reading := by
  obtain ⟨senders, channel, ticker, reader, same, -, stands⟩ :=
    reply_eq session place frame cursor control
  rw [same]
  rcases stands with ⟨rfl, -⟩ | rfl | rfl <;> exact ReaderStage.noConfusion

theorem step_tail (contained : session.Contained)
    (taken : session.step endpoint event = some next) :
    next.reader = .reading → Unfinished next.buffer := by
  intro reading
  by_cases reads : event.ofReader = true
  · cases step_reader reads taken with
    | waits stage => exact contained.tail stage
    | finishes stage short => exact unfinished_of_incomplete short
    | @takesUp cursor size stage whole =>
      exfalso
      have inside := nextPdu_complete whole
      have long : 16 ≤ ((session.buffer.drop cursor).take size).length := by
        rw [List.length_take, List.length_drop]
        omega
      rcases takeUp_takenUp endpoint session ((session.buffer.drop cursor).take size) cursor with
        up | ⟨header, -, -, linking, -⟩
      · exact up.not_reading long reading
      · rw [linking] at reading
        cases reading
    | queuesReply stage =>
      rename_i control
      cases control <;> cases reading
    | @queuesNumber pdu number cursor links stage =>
      have long := (contained.linking pdu number cursor stage).within.1
      have received : { session with links := links }.received = session.received := rfl
      exact absurd reading
        ((settleLink_takenUp received pdu number cursor).not_reading long)
    | answers stage => exact absurd reading (reply_not_reading _ _ _ _)
    | _ => cases reading
  · obtain ⟨reader, -, buffer⟩ := step_elsewhere (Bool.not_eq_true _ ▸ reads) taken
    rw [buffer]
    exact contained.tail (reader ▸ reading)

theorem step_contained (contained : session.Contained)
    (taken : session.step endpoint event = some next) : next.Contained :=
  ⟨step_within contained taken, step_linking contained taken, step_tail contained taken⟩

theorem extractIndexed_eq (contained : session.Contained) :
    session.extractIndexed endpoint = (session.extract endpoint).map .ok := by
  unfold extractIndexed extract
  cases stage : session.reader with
  | extracting cursor =>
    have within := contained.within cursor (by rw [stage]; rfl)
    dsimp only
    rw [ok_bind (nextPduIndexed_ok within)]
    cases judged : nextPdu session.buffer cursor with
    | incomplete =>
      dsimp only
      rw [ok_bind (splitTo_ok within)]
      rfl
    | invalid length =>
      dsimp only
      rw [ok_bind (splitTo_ok within)]
      rfl
    | complete size =>
      dsimp only
      rw [ok_bind (slice_complete judged)]
      rfl
  | _ => rfl

end Contained

end Session

def ReaderStage.Past (cursor : Nat) (reader : ReaderStage) : Prop :=
  reader = .reading ∨ reader.position = none ∨
    (∃ later, reader.position = some later ∧ cursor + 16 ≤ later) ∨
    ∃ pdu number, reader = .linking pdu number cursor

theorem ReaderStage.Past.later {reader : ReaderStage} {cursor start : Nat}
    (past : reader.Past cursor) (position : reader.position = some start) (reads : reader ≠ .reading)
    (unlinked : ∀ pdu number, reader ≠ .linking pdu number cursor) : cursor + 16 ≤ start := by
  rcases past with reading | gone | ⟨later, same, ahead⟩ | ⟨pdu, number, linking⟩
  · exact absurd reading reads
  · rw [gone] at position
    cases position
  · rw [same] at position
    cases position
    exact ahead
  · exact absurd linking (unlinked pdu number)

namespace Session

section Past

variable {endpoint : Endpoint} {session next : Session} {event : Event} {cursor : Nat}

theorem past_leaving : ReaderStage.Past cursor .leaving := .inr (.inl rfl)

theorem TakenUp.past {pdu : Bytes} {start : Nat} (long : 16 ≤ pdu.length) (ahead : cursor ≤ start)
    (up : session.TakenUp pdu (start + pdu.length) next) : next.reader.Past cursor := by
  rcases up.position with goesOn | gone
  · exact .inr (.inr (.inl ⟨_, goesOn, by omega⟩))
  · exact .inr (.inl gone)

theorem takeUp_past {start size : Nat} (stage : session.reader = .extracting start)
    (whole : nextPdu session.buffer start = .complete size)
    (behind : cursor = start ∨ cursor + 16 ≤ start) :
    (session.takeUp endpoint ((session.buffer.drop start).take size) start).reader.Past cursor := by
  have inside := nextPdu_complete whole
  have long : 16 ≤ ((session.buffer.drop start).take size).length := by
    rw [List.length_take, List.length_drop]
    omega
  rcases takeUp_takenUp endpoint session ((session.buffer.drop start).take size) start with
    up | ⟨header, -, -, linking, -⟩
  · exact up.past long (by omega)
  · rw [linking]
    rcases behind with rfl | later
    · exact .inr (.inr (.inr ⟨_, _, rfl⟩))
    · exact .inr (.inr (.inl ⟨start, rfl, later⟩))

theorem step_past (contained : session.Contained) (past : session.reader.Past cursor)
    (silent : event.piece = []) (taken : session.step endpoint event = some next) :
    next.reader.Past cursor := by
  by_cases reads : event.ofReader = true
  · cases step_reader reads taken with
    | @receives piece stage =>
      have nothing : piece = [] := silent
      simp [step, receive, nothing] at taken
    | waits stage => exact past
    | finishes stage =>
      unfold finishRead
      dsimp only
      split
      · exact past_leaving
      · exact .inl rfl
    | takesUp stage whole =>
      have ahead := past.later (by rw [stage]; rfl) (by simp [stage]) (by simp [stage])
      exact takeUp_past stage whole (.inr ahead)
    | @queuesReply place frame start control stage =>
      have ahead := past.later (by rw [stage]; rfl) (by simp [stage]) (by simp [stage])
      cases control with
      | proceed => exact .inr (.inr (.inl ⟨start, rfl, ahead⟩))
      | unbound => exact past_leaving
      | writerDead => exact past_leaving
    | @queuesNumber pdu number start links stage =>
      have long := (contained.linking pdu number start stage).within.1
      have received : { session with links := links }.received = session.received := rfl
      have ahead : cursor ≤ start := by
        rcases past with reading | gone | ⟨later, same, ahead⟩ | ⟨other, second, linking⟩
        · rw [stage] at reading
          cases reading
        · rw [stage] at gone
          cases gone
        · rw [stage] at same
          cases same
          omega
        · rw [stage] at linking
          cases linking
          exact Nat.le_refl _
      exact (settleLink_takenUp received pdu number start).past long ahead
    | @answers place pdu start resp stage =>
      have ahead := past.later (by rw [stage]; rfl) (by simp [stage]) (by simp [stage])
      obtain ⟨senders, channel, ticker, reader, same, -, stands⟩ :=
        reply_eq session place resp.encode start .unbound
      rw [same]
      rcases stands with ⟨rfl, -⟩ | rfl | rfl
      · exact .inr (.inr (.inl ⟨start, rfl, ahead⟩))
      · exact past_leaving
      · exact .inr (.inr (.inl ⟨start, rfl, ahead⟩))
    | _ => exact .inr (.inl rfl)
  · rw [(step_elsewhere (Bool.not_eq_true _ ▸ reads) taken).1]
    exact past

/-- A turn of the extraction at the cursor. -/
theorem extract_past (stage : session.reader = .extracting cursor)
    (taken : session.step endpoint .extract = some next) : next.reader.Past cursor := by
  cases step_reader rfl taken with
  | finishes other =>
    unfold finishRead
    dsimp only
    split
    · exact past_leaving
    · exact .inl rfl
  | refuses other => exact past_leaving
  | takesUp other whole =>
    rw [stage] at other
    cases other
    exact takeUp_past stage whole (.inl rfl)

theorem run_past {events : List Event} (contained : session.Contained)
    (stage : session.reader = .extracting cursor) (silent : ∀ event ∈ events, event.piece = [])
    (reached : run (Session.step endpoint) session (.extract :: events) = some next) :
    next.reader.Past cursor := by
  obtain ⟨first, taken, rest⟩ := Machine.run_cons_iff.mp reached
  have both : first.Contained ∧ first.reader.Past cursor :=
    ⟨step_contained contained taken, extract_past stage taken⟩
  have kept : ∀ (session : Session) (event : Event) (next : Session),
      session.Contained ∧ session.reader.Past cursor → event.piece = [] →
      session.step endpoint event = some next → next.Contained ∧ next.reader.Past cursor :=
    fun session event next before silent taken =>
      ⟨step_contained before.1 taken, step_past before.1 before.2 silent taken⟩
  exact (Machine.run_invariant_where kept both (Machine.throughout_of_forall silent first) rest).2

end Past

/-- What the read loop relies on: no difference underflows and no slice or split is out of range,
    a turn of the extraction takes a header's length at least before the next begins, and what is
    kept between two reads is less than a PDU. -/
structure BufferSafe (endpoint : Endpoint) (session : Session) : Prop where
  within : ∀ cursor, session.reader.position = some cursor → cursor ≤ session.buffer.length
  checked : session.extractIndexed endpoint = (session.extract endpoint).map .ok
  split : ∀ cursor, session.reader.position = some cursor →
    splitTo session.buffer cursor = .ok (session.buffer.drop cursor)
  advances : ∀ (cursor later : Nat) (events : List Event) (next : Session),
    session.reader = .extracting cursor → (∀ event ∈ events, event.piece = []) →
    run (Session.step endpoint) session (.extract :: events) = some next →
    next.reader = .extracting later → cursor + 16 ≤ later
  tail : session.reader = .reading →
    (session.buffer.length < 16 ∨ session.buffer.length < (beU32At session.buffer 0).toNat) ∧
      session.buffer.length < 1048576

theorem Contained.safe {session : Session} (contained : session.Contained) (endpoint : Endpoint) :
    session.BufferSafe endpoint where
  within := contained.within
  checked := extractIndexed_eq contained
  split cursor position := splitTo_ok (contained.within cursor position)
  advances cursor later events next stage silent reached goesOn := by
    have past := run_past contained stage silent reached
    exact past.later (by rw [goesOn]; rfl) (by rw [goesOn]; nofun) (by rw [goesOn]; nofun)
  tail reading := by
    have unfinished := contained.tail reading
    exact ⟨unfinished.imp_right And.left, unfinished.short⟩

end Session

/-- On either side, whatever the peer sends and however it is cut into reads. -/
theorem read_loop_arithmetic_safe (endpoint : Endpoint) (events : List Event) (session : Session)
    (reached : run (Session.step endpoint) endpoint.start events = some session) :
    session.BufferSafe endpoint := by
  have contained : session.Contained :=
    Machine.run_invariant (fun _ _ _ before taken => Session.step_contained before taken)
      (Session.contained_start endpoint) reached
  exact contained.safe endpoint

theorem read_loop_keeps_a_short_tail :
    let endpoint : Endpoint := ⟨.server, .trx, 10, 10⟩
    ∃ session, run (Session.step endpoint) endpoint.start
        [.receive ((EnquireLink.new 1).encode ++ [0, 0, 0]), .extract, .extract] = some session ∧
      session.reader = .reading ∧ session.buffer = [0, 0, 0] ∧ session.BufferSafe endpoint := by
  intro endpoint
  refine ⟨_, rfl, rfl, rfl, ?_⟩
  exact read_loop_arithmetic_safe endpoint
    [.receive ((EnquireLink.new 1).encode ++ [0, 0, 0]), .extract, .extract] _ rfl

end Smpp34
