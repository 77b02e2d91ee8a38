import Smpp34.Session.Frames

namespace Smpp34

open Octets
open Correlation
open Machine (run run_cons_iff run_append_iff)

/-- The protocol's range. -/
def NumberInRange (number : UInt32) : Prop := 0x00000001 ≤ number ∧ number ≤ 0x7FFFFFFF

instance (number : UInt32) : Decidable (NumberInRange number) :=
  inferInstanceAs (Decidable (_ ∧ _))

namespace Session

def originates (endpoint : Endpoint) (session : Session) : Event → Option Bytes
  | .call request =>
    if endpoint.maySend request then (request.setSequenceNumber session.sequenceNumber).encode
    else none
  | .tick =>
    if session.ticker = .sleeping ∧ session.alive then
      some (EnquireLink.new session.sequenceNumber).encode
    else none
  | _ => none

/-- The numbers of the requests that are on their way to the writer or wait in the table. -/
def outstanding (session : Session) : List UInt32 :=
  (session.senders ++ session.channel ++ session.writer.inHand).filterMap
    (fun emission => emission.frame.ourSequenceNumber) ++ session.pendingRequests.keys

section Numbers

variable {endpoint : Endpoint} {session next : Session}

theorem step_issued {event : Event} (taken : session.step endpoint event = some next) :
    (∃ pdu, session.originates endpoint event = some pdu) ∧ next.issued = session.issued + 1 ∨
      session.originates endpoint event = none ∧ next.issued = session.issued := by
  cases event with
  | call request =>
    obtain ⟨sends, pdu, encoded, rfl⟩ := call_some taken
    refine .inl ⟨⟨pdu, ?_⟩, rfl⟩
    rw [originates, if_pos sends, encoded]
  | tick =>
    simp only [step, tick] at taken
    split at taken
    · rename_i stage
      split at taken
      · rename_i alive
        cases taken
        exact .inl ⟨⟨(EnquireLink.new session.sequenceNumber).encode, if_pos ⟨stage, alive⟩⟩, rfl⟩
      · rename_i dead
        cases taken
        refine .inr ⟨?_, rfl⟩
        rw [originates, if_neg fun both => dead both.2]
    · cases taken
  | _ =>
    rcases step_numbers taken with ⟨-, issued⟩ | ⟨draws, -⟩
    · exact .inr ⟨rfl, issued⟩
    · cases draws

theorem originates_number {event : Event} {pdu : Bytes}
    (originated : session.originates endpoint event = some pdu) :
    beU32At pdu 12 = session.sequenceNumber := by
  cases event with
  | call request =>
    simp only [originates] at originated
    split at originated
    · rename_i sends
      exact Request.setSequenceNumber_word sends originated
    · cases originated
  | tick =>
    simp only [originates] at originated
    split at originated
    · cases originated
      exact (bare_words _).2
    · cases originated
  | _ => cases originated

theorem supply_toNat (endpoint : Endpoint) {i : Nat}
    (small : endpoint.side.firstSequenceNumber.toNat + i < 2 ^ 32) :
    (endpoint.labels.supply i).toNat = endpoint.side.firstSequenceNumber.toNat + i := by
  have drawn : (UInt32.ofNat i).toNat = i := by
    apply UInt32.toNat_ofNat_of_lt'
    change i < 2 ^ 32
    omega
  change (endpoint.side.firstSequenceNumber + UInt32.ofNat i).toNat = _
  rw [UInt32.toNat_add, drawn, Nat.mod_eq_of_lt small]

theorem first_pos (side : Side) : 1 ≤ side.firstSequenceNumber.toNat := by
  cases side <;> decide

theorem supply_inRange (endpoint : Endpoint) {i : Nat}
    (within : endpoint.side.firstSequenceNumber.toNat + i < 2 ^ 31) :
    NumberInRange (endpoint.labels.supply i) := by
  have value := @supply_toNat endpoint i (by omega)
  have first := first_pos endpoint.side
  refine ⟨?_, ?_⟩
  · rw [UInt32.le_iff_toNat_le, value]
    exact first.trans (Nat.le_add_right _ _)
  · rw [UInt32.le_iff_toNat_le, value]
    change _ ≤ 2 ^ 31 - 1
    omega

theorem supply_beyond (endpoint : Endpoint) {i : Nat}
    (beyond : endpoint.side.firstSequenceNumber.toNat + i = 2 ^ 31) :
    ¬ NumberInRange (endpoint.labels.supply i) := by
  have value := @supply_toNat endpoint i (by omega)
  intro inside
  have high := inside.2
  rw [UInt32.le_iff_toNat_le, value, beyond] at high
  exact absurd high (by decide)

/-- A sound ledger has every number at one place only: on its way, or in the table. -/
theorem outstanding_nodup (sound : session.ledger.Sound endpoint.labels endpoint.responseTimer) :
    session.outstanding.Nodup := by
  have once (number : UInt32) :
      ((session.senders ++ session.channel ++ session.writer.inHand).filterMap
          fun emission => emission.frame.ourSequenceNumber).count number +
        session.registrations.countP (fun registration => registration.key = number) ≤ 1 := by
    have drawn := sound.fresh.once number
    simp only [Ledger.drawn, ledger, outbox, Multiset.coe_countP] at drawn
    rw [List.count_filterMap]
    refine Nat.le_trans (Nat.le_of_eq ?_) drawn
    congr 1
    refine List.countP_congr fun emission _ => ?_
    rw [beq_iff_eq, decide_eq_true_iff]
    exact Iff.rfl
  unfold outstanding
  rw [List.nodup_append]
  refine ⟨?_, session.pendingRequests.nodupKeys, ?_⟩
  · rw [List.nodup_iff_count_le_one]
    intro number
    exact (Nat.le_add_right _ _).trans (once number)
  · rintro number queued _ pending rfl
    obtain ⟨entry, found⟩ := Option.isSome_iff_exists.mp (AList.lookup_isSome.mpr pending)
    have registered := sound.claimed.registered number entry found
    have queuedOnce := List.count_pos_iff.mpr queued
    have both := once number
    change 1 ≤ session.registrations.countP _ at registered
    omega

theorem run_draws {events : List Event} {final : Session} {count : Nat}
    (reached : run (step endpoint) session events = some final) (below : session.issued ≤ count)
    (drawn : count < final.issued) :
    ∃ before event after middle next pdu, events = before ++ event :: after ∧
      run (step endpoint) session before = some middle ∧
      middle.step endpoint event = some next ∧ middle.issued = count ∧
      middle.originates endpoint event = some pdu := by
  induction events generalizing session with
  | nil =>
    cases reached
    omega
  | cons event events ih =>
    obtain ⟨next, taken, rest⟩ := run_cons_iff.mp reached
    have later (still : next.issued ≤ count) :
        ∃ before event' after middle next' pdu, event :: events = before ++ event' :: after ∧
          run (step endpoint) session before = some middle ∧
          middle.step endpoint event' = some next' ∧ middle.issued = count ∧
          middle.originates endpoint event' = some pdu := by
      obtain ⟨before, event', after, middle, next', pdu, rfl, run, found⟩ := ih rest still
      exact ⟨event :: before, event', after, middle, next', pdu, rfl,
        run_cons_iff.mpr ⟨next, taken, run⟩, found⟩
    rcases step_issued taken with ⟨⟨pdu, originated⟩, issued⟩ | ⟨-, issued⟩
    · by_cases here : session.issued = count
      · exact ⟨[], event, events, session, next, pdu, rfl, rfl, taken, here, originated⟩
      · exact later (by omega)
    · exact later (by omega)

theorem run_issued_mono {events : List Event} {final : Session}
    (reached : run (step endpoint) session events = some final) : session.issued ≤ final.issued := by
  refine Machine.run_monotone (fun session event next taken => ?_) reached
  rcases step_issued taken with ⟨-, issued⟩ | ⟨-, issued⟩ <;> omega

end Numbers

end Session

/-- In every state of the run the outstanding requests carry different numbers, and every request
    that a step originates carries one in range. -/
def NumbersKept (endpoint : Endpoint) (events : List Event) : Prop :=
  ∀ before after session, events = before ++ after →
    run (Session.step endpoint) endpoint.start before = some session →
    session.outstanding.Nodup ∧
      ∀ event later next pdu, after = event :: later → session.step endpoint event = some next →
        session.originates endpoint event = some pdu → NumberInRange (beU32At pdu 12)

theorem not_numbersKept {endpoint : Endpoint} {events : List Event} {session : Session}
    (reached : run (Session.step endpoint) endpoint.start events = some session)
    (beyond : 2 ^ 31 < endpoint.side.firstSequenceNumber.toNat + session.issued) :
    ¬ NumbersKept endpoint events := by
  intro kept
  have small : endpoint.side.firstSequenceNumber.toNat ≤ 2 ^ 31 := by
    cases endpoint.side <;> decide
  obtain ⟨before, event, after, middle, next, pdu, same, run, taken, issued, originated⟩ :=
    Session.run_draws reached (Nat.zero_le (2 ^ 31 - endpoint.side.firstSequenceNumber.toNat))
      (by omega)
  have consistent : middle.Consistent endpoint :=
    Machine.run_invariant (fun _ _ _ before taken => Session.step_consistent before taken)
      (Session.start_consistent endpoint) run
  have inRange := (kept before (event :: after) middle same run).2 event after next pdu rfl taken
    originated
  rw [Session.originates_number originated, consistent.supplied, issued] at inRange
  exact Session.supply_beyond endpoint (by omega) inRange

/-- The numbers of a session are kept as long as it draws none beyond the range. -/
theorem numbers_kept_iff (endpoint : Endpoint) (events : List Event) (session : Session)
    (reached : run (Session.step endpoint) endpoint.start events = some session) :
    NumbersKept endpoint events ↔
      endpoint.side.firstSequenceNumber.toNat + session.issued ≤ 2 ^ 31 := by
  constructor
  · intro kept
    by_contra beyond
    exact not_numbersKept reached (by omega) kept
  · intro room before after middle same run
    rw [same] at reached
    obtain ⟨middle', run', rest⟩ := run_append_iff.mp reached
    rw [run] at run'
    cases run'
    have fewer := Session.run_issued_mono rest
    obtain ⟨consistent, sound⟩ := Session.run_ledger_sound run (by omega)
    refine ⟨Session.outstanding_nodup sound, ?_⟩
    intro event later next pdu first taken originated
    rw [first] at rest
    obtain ⟨next', taken', rest⟩ := run_cons_iff.mp rest
    rw [taken] at taken'
    cases taken'
    have drawn : next.issued = middle.issued + 1 := by
      rcases Session.step_issued taken with ⟨-, issued⟩ | ⟨none, -⟩
      · exact issued
      · rw [originated] at none
        cases none
    have issued := Session.run_issued_mono rest
    rw [Session.originates_number originated, consistent.supplied]
    exact Session.supply_inRange endpoint (by omega)

namespace Session

section Rounds

variable {endpoint : Endpoint} {session : Session}

structure Idle (session : Session) : Prop where
  alive : session.alive = true
  ticker : session.ticker = .sleeping
  senders : session.senders = []
  channel : session.channel = []
  writer : session.writer = .checking
  links : session.links = []
  reader : session.reader = .reading
  buffer : session.buffer = []

theorem start_idle (endpoint : Endpoint) : endpoint.start.Idle := ⟨rfl, rfl, rfl, rfl, rfl, rfl, rfl, rfl⟩

def linkEmission (number : UInt32) : Emission :=
  ⟨⟨some number, (EnquireLink.new number).encode, none⟩, .link⟩

def linkResp (number : UInt32) : Bytes := (EnquireLink.new number).accept.encode

def enquiring (session : Session) : Session :=
  { session with
    sequenceNumber := session.sequenceNumber + 1
    issued := session.issued + 1
    ticker := .awaiting session.sequenceNumber session.now
    pendingRequests := session.pendingRequests.insert session.sequenceNumber ⟨session.now, none⟩
    registrations := session.registrations ++
      [⟨session.sequenceNumber, ⟨session.now, none⟩, session.received.length⟩]
    sent := session.sent ++ [linkEmission session.sequenceNumber] }

theorem run_enquiring (endpoint : Endpoint) (idle : session.Idle) :
    run (step endpoint) session
      [.tick, .enqueue 0, .check, .take, .register, .write (.accepted 16)] =
        some session.enquiring := by
  have permitted : (WriteOutcome.accepted 16).Permitted
      (EnquireLink.new session.sequenceNumber).encode := ⟨by decide, Nat.le_refl 16⟩
  obtain ⟨alive, ticker, senders, channel, writer, links, reader, buffer⟩ := idle
  simp [Machine.run, step, tick, enqueue, queued, channelRoom, channelCapacity, check, take,
    register, write, alive, ticker, senders, channel, writer, permitted, enquiring, linkEmission]

theorem nextPdu_linkResp (number : UInt32) :
    nextPdu (linkResp number) 0 = .complete 16 := by
  rw [nextPdu_eq, List.drop_zero]
  have whole := frameFirstPdu_encode (EnquireLink.new number).accept.header [] [] rfl
    (show 16 + 0 ≤ maxPduLen by decide)
  rw [List.append_nil, List.append_nil] at whole
  exact whole

theorem linkResp_header (number : UInt32) :
    CommandHeader.decode (linkResp number) = .ok (EnquireLink.new number).accept.header := by
  have decoded := CommandHeader.decode_encode (EnquireLink.new number).accept.header []
  rw [List.append_nil] at decoded
  exact decoded

theorem settleLink_channels (session : Session) (pdu : Bytes) (number : UInt32) (cursor : Nat) :
    (session.settleLink endpoint pdu number cursor).reader = .extracting (cursor + pdu.length) ∧
      (session.settleLink endpoint pdu number cursor).ticker = session.ticker ∧
      (session.settleLink endpoint pdu number cursor).senders = session.senders ∧
      (session.settleLink endpoint pdu number cursor).channel = session.channel ∧
      (session.settleLink endpoint pdu number cursor).links = session.links := by
  unfold settleLink
  dsimp only
  split
  · exact ⟨rfl, rfl, rfl, rfl, rfl⟩
  · split <;> exact ⟨rfl, rfl, rfl, rfl, rfl⟩

/-- The ticker enquires, the peer responds in time, and all is as before but for the number. -/
theorem run_round (endpoint : Endpoint) (idle : session.Idle) :
    ∃ events next, run (step endpoint) session events = some next ∧ next.Idle ∧
      next.issued = session.issued + 1 := by
  have enquired := run_enquiring endpoint idle
  obtain ⟨alive, ticker, senders, channel, writer, links, reader, buffer⟩ := idle
  let number := session.sequenceNumber
  let heard : Session :=
    { session.enquiring with buffer := linkResp number, reader := .extracting 0 }
  have received : session.enquiring.step endpoint (.receive (linkResp number)) = some heard := by
    have some_octets : linkResp number ≠ [] := List.ne_nil_of_length_eq_add_one rfl
    simp [step, receive, enquiring, reader, buffer, some_octets, heard]
  let told : Session := { heard with links := heard.links ++ [number] }
  have coming : heard.upcoming = some (linkResp number, 0) :=
    @upcoming_eq heard 0 16 rfl (nextPdu_linkResp number)
  have branch : endpoint.branch (EnquireLink.new number).accept.header (linkResp number) =
      .linkResp := branch_enquireLinkResp endpoint.side rfl
  have extracted : heard.step endpoint .extract =
      some (told.settleLink endpoint (linkResp number) number 0) := by
    rw [extract_upcoming coming, takeUp, linkResp_header]
    dsimp only
    rw [dispatch, branch]
    have awaits : heard.ticker ≠ .finished := by
      intro finished
      cases finished
    have room : heard.links.length < channelCapacity := by
      change session.links.length < channelCapacity
      rw [links]
      decide
    dsimp only
    rw [link, if_neg awaits, if_pos room]
    rfl
  generalize settled : told.settleLink endpoint (linkResp number) number 0 = after at extracted
  obtain ⟨stage, waits, noSenders, noChannel, oneLink⟩ :=
    @settleLink_channels endpoint told (linkResp number) number 0
  have quiet := settleLink_background endpoint told (linkResp number) number 0
  rw [settled] at stage waits noSenders noChannel oneLink quiet
  have whole : after.buffer = linkResp number := congrArg Background.buffer quiet
  have finished : after.step endpoint .extract = some (after.finishRead endpoint 16) := by
    have rest : nextPdu (linkResp number) 16 = .incomplete := rfl
    rw [step, extract, stage]
    dsimp only
    rw [whole, show 0 + (linkResp number).length = 16 from rfl, rest]
  let rested : Session := { after.finishRead endpoint 16 with links := [], ticker := .sleeping }
  have arrived : (after.finishRead endpoint 16).step endpoint .linkArrives = some rested := by
    have ticks : (after.finishRead endpoint 16).ticker = .awaiting number session.now := waits
    have told : (after.finishRead endpoint 16).links = [number] := by
      change after.links = [number]
      rw [oneLink]
      change session.links ++ [number] = [number]
      rw [links]
      rfl
    simp [step, linkArrives, ticks, told, rested]
  refine ⟨_, rested, Machine.run_append enquired (run_cons_iff.mpr ⟨heard, received,
    run_cons_iff.mpr ⟨after, extracted, run_cons_iff.mpr ⟨_, finished,
      Machine.run_single arrived⟩⟩⟩), ?_, ?_⟩
  · refine ⟨?_, rfl, ?_, ?_, ?_, rfl, ?_, ?_⟩
    · exact (congrArg Background.alive quiet).trans alive
    · exact noSenders.trans senders
    · exact noChannel.trans channel
    · exact (congrArg Background.writer quiet).trans writer
    · change (if after.ticker = .finished then _ else _) = _
      rw [waits]
      exact if_neg fun finished => by cases finished
    · change after.buffer.drop 16 = []
      rw [whole]
      rfl
  · exact congrArg Background.issued quiet

theorem run_rounds (endpoint : Endpoint) (count : Nat) :
    ∃ events session, run (step endpoint) endpoint.start events = some session ∧ session.Idle ∧
      session.issued = count := by
  induction count with
  | zero => exact ⟨[], endpoint.start, rfl, start_idle endpoint, rfl⟩
  | succ count ih =>
    obtain ⟨events, session, reached, idle, issued⟩ := ih
    obtain ⟨more, next, round, still, drawn⟩ := run_round endpoint idle
    exact ⟨events ++ more, next, Machine.run_append reached round, still, by rw [drawn, issued]⟩

end Rounds

end Session

def serverTrx : Endpoint := ⟨.server, .trx, 2000, 30000⟩

theorem numbers_kept_of_a_tick : NumbersKept serverTrx [.tick] :=
  (numbers_kept_iff serverTrx [.tick] _ rfl).mpr (by decide)

theorem numbers_run_out :
    ∃ events session, run (Session.step serverTrx) serverTrx.start events = some session ∧
      ¬ NumbersKept serverTrx events := by
  obtain ⟨events, session, reached, -, issued⟩ := Session.run_rounds serverTrx (2 ^ 31)
  refine ⟨events, session, reached, not_numbersKept reached ?_⟩
  rw [issued]
  decide

end Smpp34
