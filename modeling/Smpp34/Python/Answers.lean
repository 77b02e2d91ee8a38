import Smpp34.Python.Server

namespace Smpp34

open Octets Utf8
open Machine (run)

/-- The PDU at a place of the stream asks the listener for this. -/
def Endpoint.AskedAt (endpoint : Endpoint) (received : List Bytes) (place : Nat)
    (request : Request) : Prop :=
  ∃ pdu header, received[place]? = some pdu ∧ CommandHeader.decode pdu = .ok header ∧
    (endpoint.branch header pdu).asks = some request

namespace Session

section Asking

variable {endpoint : Endpoint} {session next : Session} {place : Nat} {request : Request}

theorem askedAt_mono {received later : List Bytes} (asked : endpoint.AskedAt received place request)
    (grown : received <+: later) : endpoint.AskedAt later place request := by
  obtain ⟨pdu, header, found, rest⟩ := asked
  exact ⟨pdu, header, found_later grown found, rest⟩

theorem askedAt_within {received : List Bytes} (asked : endpoint.AskedAt received place request) :
    place < received.length := by
  obtain ⟨pdu, header, found, -⟩ := asked
  exact (List.getElem?_eq_some_iff.mp found).1

theorem askedAt_unique {received : List Bytes} {other : Request}
    (asked : endpoint.AskedAt received place request)
    (also : endpoint.AskedAt received place other) : request = other := by
  obtain ⟨pdu, header, found, framed, asks⟩ := asked
  obtain ⟨pdu', header', found', framed', asks'⟩ := also
  rw [found] at found'
  cases found'
  rw [framed] at framed'
  cases framed'
  exact Option.some.inj (asks.symm.trans asks')

theorem askedAt_before {received later : List Bytes} (grown : received <+: later)
    (within : place < received.length) (asked : endpoint.AskedAt later place request) :
    endpoint.AskedAt received place request := by
  obtain ⟨pdu, header, found, rest⟩ := asked
  obtain ⟨more, rfl⟩ := grown
  rw [List.getElem?_append_left within] at found
  exact ⟨pdu, header, found, rest⟩

theorem handsOver_asked {debt : Nat × Request} (handed : session.HandsOver endpoint debt)
    (taken : session.step endpoint .extract = some next) :
    debt.1 = session.received.length ∧ endpoint.AskedAt next.received debt.1 debt.2 := by
  obtain ⟨pdu, cursor, header, coming, framed, here, branch⟩ := handed
  have asks : (endpoint.branch header pdu).asks = some debt.2 := by
    rcases branch with request | ⟨unbind, branch, same⟩
    · rw [request]
      rfl
    · rw [branch, same]
      rfl
  have other : endpoint.branch header pdu ≠ .linkResp := by
    intro link
    rw [link] at asks
    cases asks
  refine ⟨here, pdu, header, ?_, framed, asks⟩
  rw [extract_received coming framed other taken, here, List.getElem?_concat_length]

theorem step_owed_asked {event : Event}
    (owed : ∀ debt ∈ session.owed, endpoint.AskedAt session.received debt.1 debt.2)
    (taken : session.step endpoint event = some next) :
    ∀ debt ∈ next.owed, endpoint.AskedAt next.received debt.1 debt.2 := by
  intro debt member
  rcases step_owed taken debt member with old | ⟨rfl, handed⟩
  · exact askedAt_mono (owed debt old) (step_consumes taken).grows
  · exact (handsOver_asked handed taken).2

theorem answer_other {pdu frame : Bytes} {header : CommandHeader}
    (framed : CommandHeader.decode pdu = .ok header)
    (answers : session.answer endpoint pdu = some frame) :
    endpoint.branch header pdu ≠ .linkResp ∧ (endpoint.branch header pdu).asks = none := by
  rw [answer_eq endpoint session framed] at answers
  generalize endpoint.branch header pdu = branch at answers ⊢
  cases branch with
  | request pdu => cases answers
  | unbind pdu => cases answers
  | linkResp => cases answers
  | _ =>
    refine ⟨?_, rfl⟩
    intro link
    cases link

theorem answer_longer {pdu frame : Bytes} {cursor : Nat}
    (coming : session.upcoming = some (pdu, cursor))
    (answers : session.answer endpoint pdu = some frame)
    (taken : session.step endpoint .extract = some next) :
    session.received.length < next.received.length := by
  obtain ⟨header, framed⟩ := upcoming_framed coming
  rw [extract_received coming framed (answer_other framed answers).1 taken, List.length_append]
  exact Nat.lt_succ_self _

theorem answer_unasked (request : Request) {pdu frame : Bytes} {cursor : Nat}
    (coming : session.upcoming = some (pdu, cursor))
    (answers : session.answer endpoint pdu = some frame)
    (taken : session.step endpoint .extract = some next) :
    ¬ endpoint.AskedAt next.received session.received.length request := by
  obtain ⟨header, framed⟩ := upcoming_framed coming
  obtain ⟨other, unasked⟩ := answer_other framed answers
  rw [extract_received coming framed other taken]
  rintro ⟨pdu', header', found, framed', asks⟩
  rw [List.getElem?_concat_length] at found
  cases found
  rw [framed] at framed'
  cases framed'
  rw [unasked] at asks
  cases asks

theorem step_handler_stays {event : Event} (taken : session.step endpoint event = some next)
    {debt : Nat × Request} (handled : debt ∈ session.handlers) :
    debt ∈ next.handlers ∨
      ∃ handler resp, event = .respond handler resp ∧ session.handlers[handler]? = some debt := by
  by_cases reads : event.ofReader = true
  · left
    rcases reader_handlers (step_reader reads taken) with same | ⟨pdu, cursor, -, rfl⟩
    · rw [same]
      exact handled
    · rw [takeUp_handlers]
      exact List.mem_append_left _ handled
  · cases event with
    | respond handler resp =>
      simp only [step, respond] at taken
      split at taken
      · rename_i place request found
        split at taken
        · cases taken
          obtain ⟨inside, same⟩ := List.getElem?_eq_some_iff.mp found
          rw [← (List.getElem_cons_eraseIdx_perm inside).mem_iff, List.mem_cons] at handled
          rcases handled with rfl | still
          · exact .inr ⟨handler, resp, rfl, List.getElem?_eq_getElem inside⟩
          · exact .inl still
        · cases taken
      · cases taken
    | call request =>
      obtain ⟨-, pdu, -, rfl⟩ := call_some taken
      exact .inl handled
    | enqueue sender =>
      obtain ⟨emission, calls, ticker, found, rfl, -⟩ := enqueue_some taken
      exact .inl handled
    | advance duration =>
      cases taken
      exact .inl handled
    | receive | hangUp | idle | extract | enqueueReply | enqueueNumber | unbound | close | stop =>
      exact absurd rfl reads
    | _ =>
      simp only [step, resolve, expire, disconnect, tick, linkArrives, linkExpires, linkFails,
        check, take, register, write, rollback] at taken
      repeat' split at taken
      all_goals cases taken
      all_goals exact .inl handled

end Asking

end Session

/-- The handlers of a session: each has a request to answer, and those that have not called the
    listener yet are all different. -/
structure Hosted.Attends (timers : ServerTimers) (hosted : Hosted) : Prop where
  owed : ∀ debt ∈ hosted.watch.session.owed,
    (timers.endpoint hosted.kind).AskedAt hosted.watch.session.received debt.1 debt.2
  spawned : ∀ debt ∈ hosted.spawned, debt ∈ hosted.watch.session.handlers
  apart : (hosted.spawned.map Prod.fst).Nodup

namespace Hosted

variable {timers : ServerTimers} {hosted : Hosted}

theorem Attends.asked (attends : hosted.Attends timers) {debt : Nat × Request}
    (member : debt ∈ hosted.spawned) :
    (timers.endpoint hosted.kind).AskedAt hosted.watch.session.received debt.1 debt.2 :=
  attends.owed debt (List.mem_append_left _ (attends.spawned debt member))

theorem Attends.serve (attends : hosted.Attends timers) {event : Event} {next : Session}
    (allowed : Incoming.allows hosted event = true)
    (taken : hosted.watch.session.step (timers.endpoint hosted.kind) event = some next) :
    { hosted with
      leftover := hosted.leftover.drop event.piece.length
      watch := hosted.watch.record event next
      spawned := hosted.spawned ++
        Incoming.spawns hosted.watch.session next event }.Attends timers := by
  refine ⟨Session.step_owed_asked attends.owed taken, ?_, ?_⟩
  · intro debt member
    rcases List.mem_append.mp member with old | new
    · rcases Session.step_handler_stays taken (attends.spawned debt old) with
        still | ⟨handler, resp, rfl, found⟩
      · exact still
      · -- a handler that has not called the listener cannot respond
        have waits : debt ∉ hosted.spawned := by
          simpa [Incoming.allows, found] using allowed
        exact absurd old waits
    · cases event with
      | extract => exact List.mem_of_mem_drop new
      | _ => cases new
  · rw [List.map_append]
    rcases Incoming.spawns_cases taken with none | ⟨request, one, -⟩
    · rw [none, List.map_nil, List.append_nil]
      exact attends.apart
    · rw [one]
      refine List.nodup_append.mpr ⟨attends.apart, List.nodup_singleton _, ?_⟩
      intro place old other new same
      obtain ⟨debt, member, rfl⟩ := List.mem_map.mp old
      have within := Session.askedAt_within (attends.asked member)
      rw [List.map_singleton, List.mem_singleton] at new
      omega

end Hosted

namespace Incoming

variable {timers : ServerTimers} {incoming later : Incoming}

theorem bindFirst_fresh {pdu leftover : Bytes} {verdict : Verdict} {written : Bool}
    {hosted : Hosted}
    (phase : (incoming.bindFirst timers pdu leftover verdict written).phase = .bound hosted) :
    ∃ kind, hosted = ⟨kind, false, leftover, Watch.start (timers.endpoint kind), []⟩ := by
  simp only [bindFirst, bindWith] at phase
  repeat' split at phase
  all_goals cases phase
  all_goals exact ⟨_, rfl⟩

inductive Evolves (timers : ServerTimers) (incoming : Incoming) (hosted : Hosted) :
    IncomingEvent → Prop
  | opens {event : IncomingEvent} (spawned : hosted.spawned = [])
      (quiet : hosted.watch.session.outgoing = [] ∧ hosted.watch.session.owed = []) :
      Evolves timers incoming hosted event
  | acts {before : Hosted} {event : Event} (phase : incoming.phase = .bound before)
      (kind : hosted.kind = before.kind) (allowed : allows before event = true)
      (moved : before.watch.session.step (timers.endpoint before.kind) event =
        some hosted.watch.session)
      (spawned : hosted.spawned = before.spawned ++
        spawns before.watch.session hosted.watch.session event) :
      Evolves timers incoming hosted (.act event)
  | calls {before : Hosted} {task : Nat} {debt : Nat × Request}
      (phase : incoming.phase = .bound before) (kind : hosted.kind = before.kind)
      (found : before.spawned[task]? = some debt)
      (same : hosted.watch.session = before.watch.session)
      (spawned : hosted.spawned = before.spawned.eraseIdx task) :
      Evolves timers incoming hosted (.callback task)
  | keeps {before : Hosted} {event : IncomingEvent} (phase : incoming.phase = .bound before)
      (kind : hosted.kind = before.kind) (same : hosted.watch.session = before.watch.session)
      (spawned : hosted.spawned = before.spawned) : Evolves timers incoming hosted event

theorem step_evolves {event : IncomingEvent} (taken : incoming.step timers event = some later)
    {hosted : Hosted} (phase : later.phase = .bound hosted) :
    Evolves timers incoming hosted event := by
  cases step_moves taken with
  | arrives before => cases phase
  | givesUp before => cases phase
  | refuses before => cases phase
  | binds before =>
    obtain ⟨kind, rfl⟩ := bindFirst_fresh phase
    exact .opens rfl ⟨rfl, rfl⟩
  | announces before silent =>
    cases phase
    exact .keeps before rfl rfl rfl
  | acts before allowed moved =>
    cases phase
    exact .acts before rfl allowed moved rfl
  | notifies before due same =>
    cases phase
    exact .keeps before rfl same rfl
  | calls before found =>
    cases phase
    exact .calls before rfl found rfl rfl

def Extends (incoming later : Incoming) : Prop :=
  ∀ hosted, incoming.phase = .bound hosted → ∃ hosted', later.phase = .bound hosted' ∧
    hosted'.kind = hosted.kind ∧
    hosted.watch.session.received <+: hosted'.watch.session.received

theorem step_extends {event : IncomingEvent} (taken : incoming.step timers event = some later) :
    incoming.Extends later := by
  intro hosted phase
  cases step_moves taken with
  | announces before silent =>
    rw [before] at phase
    cases phase
    exact ⟨_, rfl, rfl, List.prefix_rfl⟩
  | acts before allowed moved =>
    rw [before] at phase
    cases phase
    exact ⟨_, rfl, rfl, (Session.step_consumes moved).grows⟩
  | notifies before due same =>
    rw [before] at phase
    cases phase
    exact ⟨_, rfl, rfl, same ▸ List.prefix_rfl⟩
  | calls before found =>
    rw [before] at phase
    cases phase
    exact ⟨_, rfl, rfl, List.prefix_rfl⟩
  | arrives before | givesUp before | refuses before | binds before =>
    rw [before] at phase
    cases phase

end Incoming

namespace Python

def ServerEvent.key : ServerEvent → Option (Nat × Nat)
  | submitSm session place _ => some (session, place)
  | _ => none

namespace Server

def keys (server : Server) : List (Nat × Nat) := server.posted.filterMap ServerEvent.key

def Hosts (server : Server) (session : Nat) (hosted : Hosted) : Prop :=
  ∃ incoming, server.connections[session]? = some incoming ∧ incoming.phase = .bound hosted

def Asked (timers : ServerTimers) (server : Server) (session place : Nat) (request : Request) :
    Prop :=
  ∃ hosted, server.Hosts session hosted ∧
    (timers.endpoint hosted.kind).AskedAt hosted.watch.session.received place request

/-- What goes to the peer in answer to a request. -/
def Replies (server : Server) (session place : Nat) : Request → Bytes → Prop
  | .submitSm _, frame =>
    ∃ resp, ((session, place), resp) ∈ server.answers ∧ frame = (Response.submitSm resp).encode
  | request, frame =>
    ∃ resp, answer request (.reject (defaultError request)) = some resp ∧ frame = resp.encode

structure Tends (timers : ServerTimers) (server : Server) (session : Nat) (hosted : Hosted) :
    Prop where
  attends : hosted.Attends timers
  fresh : ∀ debt ∈ hosted.spawned,
    (session, debt.1) ∉ server.keys ∧ (session, debt.1) ∉ server.answers.map Prod.fst
  sent : ∀ emission ∈ hosted.watch.session.outgoing, ∀ place, emission.origin = .reaction place →
    place < hosted.watch.session.received.length ∧
      ∀ request, (timers.endpoint hosted.kind).AskedAt hosted.watch.session.received place request →
        (∀ pdu, request ≠ .unbind pdu) → server.Replies session place request emission.frame.pdu

/-- Each submit_sm is handed over and answered once at most. -/
structure Settled (timers : ServerTimers) (server : Server) : Prop where
  tends : ∀ session hosted, server.Hosts session hosted → server.Tends timers session hosted
  posted : ∀ session place req, .submitSm session place req ∈ server.posted →
    server.Asked timers session place (.submitSm req)
  once : server.keys.Nodup
  answered : (server.answers.map Prod.fst).Nodup
  replied : ∀ session place resp, ((session, place), resp) ∈ server.answers →
    ∃ req, server.Asked timers session place (.submitSm req)

variable {timers : ServerTimers} {systemId : Str} {server next : Server}

theorem mem_keys {session place : Nat} :
    (session, place) ∈ server.keys ↔ ∃ req, .submitSm session place req ∈ server.posted := by
  unfold keys
  rw [List.mem_filterMap]
  constructor
  · rintro ⟨event, member, same⟩
    cases event with
    | submitSm session place req =>
      cases same
      exact ⟨req, member⟩
    | esmeBound session => cases same
    | unbound session => cases same
  · rintro ⟨req, member⟩
    exact ⟨_, member, rfl⟩

theorem Replies.mono {session place : Nat} {request : Request} {frame : Bytes}
    (replies : server.Replies session place request frame)
    (answers : server.answers ⊆ next.answers) : next.Replies session place request frame := by
  cases request with
  | submitSm req =>
    obtain ⟨resp, member, same⟩ := replies
    exact ⟨resp, answers member, same⟩
  | _ => exact replies

theorem hosts_unique {session : Nat} {hosted other : Hosted} (hosts : server.Hosts session hosted)
    (also : server.Hosts session other) : hosted = other := by
  obtain ⟨incoming, found, phase⟩ := hosts
  obtain ⟨incoming', found', phase'⟩ := also
  rw [found] at found'
  cases found'
  rw [phase] at phase'
  exact Phase.bound.inj phase'

theorem asked_within {session place : Nat} {request : Request} {hosted : Hosted}
    (hosts : server.Hosts session hosted) (asked : server.Asked timers session place request) :
    place < hosted.watch.session.received.length := by
  obtain ⟨other, also, asks⟩ := asked
  rw [hosts_unique hosts also]
  exact Session.askedAt_within asks

namespace Settled

variable (settled : server.Settled timers)

include settled

theorem keys_within {session place : Nat} {hosted : Hosted} (hosts : server.Hosts session hosted)
    (key : (session, place) ∈ server.keys) : place < hosted.watch.session.received.length := by
  obtain ⟨req, member⟩ := mem_keys.mp key
  exact asked_within hosts (settled.posted session place req member)

theorem answers_within {session place : Nat} {hosted : Hosted}
    (hosts : server.Hosts session hosted)
    (key : (session, place) ∈ server.answers.map Prod.fst) :
    place < hosted.watch.session.received.length := by
  obtain ⟨⟨key, resp⟩, member, rfl⟩ := List.mem_map.mp key
  obtain ⟨req, asked⟩ := settled.replied session place resp member
  exact asked_within hosts asked

end Settled

theorem Tends.mono {session : Nat} {hosted : Hosted} (tends : server.Tends timers session hosted)
    (answers : server.answers ⊆ next.answers)
    (fresh : ∀ debt ∈ hosted.spawned,
      (session, debt.1) ∉ next.keys ∧ (session, debt.1) ∉ next.answers.map Prod.fst) :
    next.Tends timers session hosted :=
  ⟨tends.attends, fresh, fun emission member place origin =>
    ⟨(tends.sent emission member place origin).1, fun request asked handled =>
      ((tends.sent emission member place origin).2 request asked handled).mono answers⟩⟩

theorem Tends.congr {session : Nat} {hosted : Hosted} (tends : server.Tends timers session hosted)
    (keys : next.keys = server.keys) (answers : next.answers = server.answers) :
    next.Tends timers session hosted :=
  tends.mono (answers ▸ List.Subset.refl _) (by rw [keys, answers]; exact tends.fresh)

theorem responds_replies {session place : Nat} {request : Request} {resp : Response}
    (responds : server.responds session (place, request) resp = true) :
    server.Replies session place request resp.encode := by
  cases request with
  | submitSm req =>
    obtain ⟨⟨key, decided⟩, member, same⟩ := List.any_eq_true.mp responds
    simp only [Bool.and_eq_true, decide_eq_true_eq] at same
    obtain ⟨rfl, rfl⟩ := same
    exact ⟨decided, member, rfl⟩
  | _ => exact ⟨resp, of_decide_eq_true responds, rfl⟩

theorem acts_sent {session : Nat} {before : Hosted} {later : Session} {event : Event}
    {incoming : Incoming} (tends : server.Tends timers session before)
    (phase : incoming.phase = .bound before)
    (allows : server.allows systemId session incoming (.act event) = true)
    (moved : before.watch.session.step (timers.endpoint before.kind) event = some later) :
    ∀ emission ∈ later.outgoing, ∀ place, emission.origin = .reaction place →
      place < later.received.length ∧
        ∀ request, (timers.endpoint before.kind).AskedAt later.received place request →
          (∀ pdu, request ≠ .unbind pdu) →
            server.Replies session place request emission.frame.pdu := by
  intro emission member place origin
  have grown := (Session.step_consumes moved).grows
  rcases Session.step_outgoing moved emission member with old | new
  · obtain ⟨within, replies⟩ := tends.sent emission old place origin
    exact ⟨within.trans_le grown.length_le, fun request asked =>
      replies request (Session.askedAt_before grown within asked)⟩
  · cases new with
    | call sends encoded => cases origin
    | tick => cases origin
    | @respond handler place request resp asked =>
      cases origin
      have here := tends.attends.owed (place, request)
        (List.mem_append_left _ (List.mem_of_getElem? asked))
      refine ⟨(Session.askedAt_within here).trans_le grown.length_le, ?_⟩
      intro other asks handled
      rw [Session.askedAt_unique asks (Session.askedAt_mono here grown)]
      refine responds_replies ?_
      simpa [Server.allows, Incoming.handlerAt, phase, asked] using allows
    | @unbound place cursor pdu resp asked =>
      cases origin
      have here := tends.attends.owed (place, .unbind pdu)
        (List.mem_append_right _ (by rw [asked]; exact List.mem_singleton_self _))
      refine ⟨(Session.askedAt_within here).trans_le grown.length_le, ?_⟩
      intro other asks handled
      exact absurd (Session.askedAt_unique asks (Session.askedAt_mono here grown)) (handled pdu)
    | answer coming answers =>
      cases origin
      have longer := Session.answer_longer coming answers moved
      exact ⟨longer, fun request asks _ =>
        absurd asks (Session.answer_unasked request coming answers moved)⟩

theorem acts_tends {session : Nat} {before hosted : Hosted} {event : Event} {incoming : Incoming}
    (settled : server.Settled timers) (hosts : server.Hosts session before)
    (phase : incoming.phase = .bound before) (kind : hosted.kind = before.kind)
    (allows : server.allows systemId session incoming (.act event) = true)
    (allowed : Incoming.allows before event = true)
    (moved : before.watch.session.step (timers.endpoint before.kind) event =
      some hosted.watch.session)
    (spawned : hosted.spawned = before.spawned ++
      Incoming.spawns before.watch.session hosted.watch.session event) :
    server.Tends timers session hosted := by
  have tends := settled.tends session before hosts
  have attends := tends.attends.serve allowed moved
  refine ⟨⟨kind ▸ attends.owed, spawned ▸ attends.spawned, spawned ▸ attends.apart⟩, ?_,
    kind ▸ acts_sent tends phase allows moved⟩
  intro debt member
  rw [spawned] at member
  rcases List.mem_append.mp member with old | new
  · exact tends.fresh debt old
  · rcases Incoming.spawns_cases moved with none | ⟨request, one, -⟩
    · rw [none] at new
      cases new
    · -- nothing is known yet of a PDU that has only now been taken up
      rw [one] at new
      rw [List.mem_singleton.mp new]
      exact ⟨fun key => Nat.lt_irrefl _ (settled.keys_within hosts key),
        fun key => Nat.lt_irrefl _ (settled.answers_within hosts key)⟩

theorem mem_eraseIdx_apart {debts : List (Nat × Request)} {task : Nat} {debt other : Nat × Request}
    (apart : (debts.map Prod.fst).Nodup) (found : debts[task]? = some debt)
    (member : other ∈ debts.eraseIdx task) : other.1 ≠ debt.1 := by
  obtain ⟨inside, rfl⟩ := List.getElem?_eq_some_iff.mp found
  have nodup := ((List.getElem_cons_eraseIdx_perm inside).map Prod.fst).nodup_iff.mpr apart
  rw [List.map_cons, List.nodup_cons] at nodup
  intro same
  exact nodup.1 (same ▸ List.mem_map_of_mem member)

theorem calls_tends {session : Nat} {before hosted : Hosted} {task : Nat}
    (tends : server.Tends timers session before) (kind : hosted.kind = before.kind)
    (same : hosted.watch.session = before.watch.session)
    (spawned : hosted.spawned = before.spawned.eraseIdx task) :
    server.Tends timers session hosted := by
  have fewer : ∀ {debt}, debt ∈ hosted.spawned → debt ∈ before.spawned :=
    fun member => List.mem_of_mem_eraseIdx (spawned ▸ member)
  refine ⟨⟨?_, ?_, ?_⟩, fun debt member => tends.fresh debt (fewer member), ?_⟩
  · rw [same, kind]
    exact tends.attends.owed
  · rw [same]
    exact fun debt member => tends.attends.spawned debt (fewer member)
  · rw [spawned]
    exact tends.attends.apart.sublist ((List.eraseIdx_sublist _ _).map Prod.fst)
  · rw [same, kind]
    exact tends.sent

theorem serve_tends {session : Nat} {incoming later : Incoming} {event : IncomingEvent}
    (settled : server.Settled timers) (found : server.connections[session]? = some incoming)
    (allows : server.allows systemId session incoming event = true)
    (went : incoming.step timers event = some later) {hosted : Hosted}
    (phase : later.phase = .bound hosted) : server.Tends timers session hosted := by
  cases Incoming.step_evolves went phase with
  | opens spawned quiet =>
    refine ⟨⟨?_, ?_, ?_⟩, ?_, ?_⟩
    · rw [quiet.2]
      exact fun debt member => absurd member List.not_mem_nil
    · rw [spawned]
      exact fun debt member => absurd member List.not_mem_nil
    · rw [spawned]
      exact List.nodup_nil
    · rw [spawned]
      exact fun debt member => absurd member List.not_mem_nil
    · rw [quiet.1]
      exact fun emission member => absurd member List.not_mem_nil
  | acts before kind allowed moved spawned =>
    exact acts_tends settled ⟨incoming, found, before⟩ before kind allows allowed moved spawned
  | calls before kind _ same spawned =>
    exact calls_tends (settled.tends session _ ⟨incoming, found, before⟩) kind same spawned
  | keeps before kind same spawned =>
    obtain ⟨⟨owed, handled, apart⟩, fresh, sent⟩ :=
      settled.tends session _ ⟨incoming, found, before⟩
    refine ⟨⟨?_, ?_, ?_⟩, ?_, ?_⟩
    · rw [same, kind]
      exact owed
    · rw [same, spawned]
      exact handled
    · rw [spawned]
      exact apart
    · rw [spawned]
      exact fresh
    · rw [same, kind]
      exact sent

structure Advances (timers : ServerTimers) (server next : Server) : Prop where
  tends : ∀ session hosted, next.Hosts session hosted → server.Tends timers session hosted
  asked : ∀ session place request, server.Asked timers session place request →
    next.Asked timers session place request

theorem advances_of (settled : server.Settled timers)
    (hosts : ∀ session hosted, next.Hosts session hosted ↔ server.Hosts session hosted) :
    server.Advances timers next := by
  refine ⟨fun session hosted here => settled.tends session hosted ((hosts session hosted).mp here),
    ?_⟩
  rintro session place request ⟨hosted, here, asks⟩
  exact ⟨hosted, (hosts session hosted).mpr here, asks⟩

theorem serve_advances {session : Nat} {incoming later : Incoming} {event : IncomingEvent}
    (settled : server.Settled timers) (found : server.connections[session]? = some incoming)
    (allows : server.allows systemId session incoming event = true)
    (went : incoming.step timers event = some later)
    (connections : next.connections = server.connections.set session later) :
    server.Advances timers next := by
  have inside : session < server.connections.length := (List.getElem?_eq_some_iff.mp found).1
  constructor
  · rintro other hosted ⟨connection, here, phase⟩
    rw [connections, List.getElem?_set] at here
    split at here
    · rename_i same
      cases here
      exact same ▸ serve_tends settled found allows went phase
    · exact settled.tends other hosted ⟨connection, here, phase⟩
  · rintro other place request ⟨hosted, ⟨connection, here, phase⟩, asks⟩
    by_cases same : session = other
    · subst same
      rw [found] at here
      cases here
      obtain ⟨hosted', still, kind, grown⟩ := Incoming.step_extends went hosted phase
      refine ⟨hosted', ⟨later, ?_, still⟩, kind ▸ Session.askedAt_mono asks grown⟩
      rw [connections, List.getElem?_set_self inside]
    · refine ⟨hosted, ⟨connection, ?_, phase⟩, asks⟩
      rw [connections, List.getElem?_set_ne same]
      exact here

namespace Advances

variable (advances : server.Advances timers next) (settled : server.Settled timers)

include advances settled

theorem keeps (posted : ∀ session place req, .submitSm session place req ∈ next.posted →
      .submitSm session place req ∈ server.posted)
    (keys : next.keys = server.keys) (answers : next.answers = server.answers) :
    next.Settled timers where
  tends session hosted here := (advances.tends session hosted here).congr keys answers
  posted session place req member :=
    advances.asked session place _ (settled.posted session place req (posted _ _ _ member))
  once := keys ▸ settled.once
  answered := answers ▸ settled.answered
  replied session place resp member := by
    rw [answers] at member
    obtain ⟨req, asked⟩ := settled.replied session place resp member
    exact ⟨req, advances.asked session place _ asked⟩

theorem hands {session place : Nat} {req : SubmitSm}
    (asked : server.Asked timers session place (.submitSm req))
    (unseen : (session, place) ∉ server.keys)
    (others : ∀ other hosted, next.Hosts other hosted → ∀ debt ∈ hosted.spawned,
      (other, debt.1) ≠ (session, place))
    (posted : next.posted = server.posted ++ [.submitSm session place req])
    (answers : next.answers = server.answers) : next.Settled timers := by
  have keys : next.keys = server.keys ++ [(session, place)] := by
    unfold Server.keys
    rw [posted, List.filterMap_append]
    rfl
  constructor
  · intro other hosted here
    have tends := advances.tends other hosted here
    refine tends.mono (answers ▸ List.Subset.refl _) fun debt member => ?_
    obtain ⟨unheard, pending⟩ := tends.fresh debt member
    rw [keys, answers]
    refine ⟨fun key => ?_, pending⟩
    rcases List.mem_append.mp key with old | new
    · exact unheard old
    · exact others other hosted here debt member (List.mem_singleton.mp new)
  · intro other spot pdu member
    rw [posted] at member
    rcases List.mem_append.mp member with old | new
    · exact advances.asked other spot _ (settled.posted other spot pdu old)
    · cases List.mem_singleton.mp new
      exact advances.asked session place _ asked
  · rw [keys]
    refine List.nodup_append.mpr ⟨settled.once, List.nodup_singleton _, ?_⟩
    rintro key old other new rfl
    exact unseen (List.mem_singleton.mp new ▸ old)
  · exact answers ▸ settled.answered
  · intro other spot resp member
    rw [answers] at member
    obtain ⟨req, asked⟩ := settled.replied other spot resp member
    exact ⟨req, advances.asked other spot _ asked⟩

theorem answers {session place : Nat} {req : SubmitSm} {resp : SubmitSmResp}
    (asked : server.Asked timers session place (.submitSm req))
    (unanswered : (session, place) ∉ server.answers.map Prod.fst)
    (others : ∀ other hosted, next.Hosts other hosted → ∀ debt ∈ hosted.spawned,
      (other, debt.1) ≠ (session, place))
    (posted : next.posted = server.posted)
    (answers : next.answers = server.answers ++ [((session, place), resp)]) :
    next.Settled timers := by
  have keys : next.keys = server.keys := by
    unfold Server.keys
    rw [posted]
  constructor
  · intro other hosted here
    have tends := advances.tends other hosted here
    refine tends.mono (answers ▸ List.subset_append_left _ _) fun debt member => ?_
    obtain ⟨unheard, pending⟩ := tends.fresh debt member
    rw [keys, answers, List.map_append]
    refine ⟨unheard, fun key => ?_⟩
    rcases List.mem_append.mp key with old | new
    · exact pending old
    · exact others other hosted here debt member (List.mem_singleton.mp new)
  · intro other spot pdu member
    rw [posted] at member
    exact advances.asked other spot _ (settled.posted other spot pdu member)
  · exact keys ▸ settled.once
  · rw [answers, List.map_append]
    refine List.nodup_append.mpr ⟨settled.answered, List.nodup_singleton _, ?_⟩
    rintro key old other new rfl
    have same : key = (session, place) := List.mem_singleton.mp new
    exact unanswered (same ▸ old)
  · intro other spot resp' member
    rw [answers] at member
    rcases List.mem_append.mp member with old | new
    · obtain ⟨req, asked⟩ := settled.replied other spot resp' old
      exact ⟨req, advances.asked other spot _ asked⟩
    · cases List.mem_singleton.mp new
      exact ⟨req, advances.asked session place _ asked⟩

end Advances

theorem start_settled (timers : ServerTimers) (inboundCapacity : Nat) :
    (start inboundCapacity).Settled timers where
  tends session hosted hosts := by
    obtain ⟨incoming, found, -⟩ := hosts
    cases found
  posted _ _ _ member := absurd member List.not_mem_nil
  once := List.nodup_nil
  answered := List.nodup_nil
  replied _ _ _ member := absurd member List.not_mem_nil

theorem offered_quiet (server : Server) {event : ServerEvent} (other : event.key = none) :
    { server with events := server.events.offer event }.keys = server.keys ∧
      ∀ session place req,
        .submitSm session place req ∈
            { server with events := server.events.offer event }.posted →
          .submitSm session place req ∈ server.posted := by
  unfold keys posted
  rcases server.events.offer_cases event with dropped | queued
  · rw [dropped]
    exact ⟨rfl, fun _ _ _ => id⟩
  · rw [queued, ← List.append_assoc, List.filterMap_append, List.filterMap_cons_none other]
    refine ⟨List.append_nil _, fun session place req member => ?_⟩
    rcases List.mem_append.mp member with old | new
    · exact old
    · rw [← List.mem_singleton.mp new] at other
      cases other

inductive Forwards (server : Server) (session : Nat) (incoming : Incoming) :
    IncomingEvent → Server → Prop
  | quiet {event : IncomingEvent} {next : Server}
      (other : ∀ task place req, event = .callback task →
        incoming.spawnedAt task ≠ some (place, .submitSm req))
      (connections : next.connections = server.connections)
      (posted : ∀ session place req, .submitSm session place req ∈ next.posted →
        .submitSm session place req ∈ server.posted)
      (keys : next.keys = server.keys) (answers : next.answers = server.answers) :
      Forwards server session incoming event next
  | hands {task place : Nat} {req : SubmitSm} {next : Server}
      (spawned : incoming.spawnedAt task = some (place, .submitSm req))
      (room : server.events.HasRoom)
      (connections : next.connections = server.connections)
      (posted : next.posted = server.posted ++ [.submitSm session place req])
      (answers : next.answers = server.answers) :
      Forwards server session incoming (.callback task) next
  | rejects {task place : Nat} {req : SubmitSm} {next : Server}
      (spawned : incoming.spawnedAt task = some (place, .submitSm req))
      (full : ¬ server.events.HasRoom)
      (connections : next.connections = server.connections)
      (posted : next.posted = server.posted)
      (answers : next.answers =
        server.answers ++ [((session, place), req.reject .ESME_RMSGQFUL)]) :
      Forwards server session incoming (.callback task) next

theorem forward_forwards (server : Server) (session : Nat) (incoming : Incoming)
    (event : IncomingEvent) :
    Forwards server session incoming event (server.forward session incoming event) := by
  unfold forward
  split
  · have other : (ServerEvent.esmeBound session).key = none := rfl
    obtain ⟨keys, posted⟩ := offered_quiet server other
    exact .quiet nofun rfl posted keys rfl
  · have other : (ServerEvent.unbound session).key = none := rfl
    obtain ⟨keys, posted⟩ := offered_quiet server other
    exact .quiet nofun rfl posted keys rfl
  · split
    · rename_i place req spawned
      unfold onSubmitSm
      cases sent : server.events.trySend (.submitSm session place req) with
      | some events =>
        refine .hands spawned (Mailbox.trySend_room sent) rfl ?_ rfl
        unfold posted
        rw [Mailbox.trySend_some sent, List.append_assoc]
      | none => exact .rejects spawned (Mailbox.trySend_none sent) rfl rfl rfl
    · rename_i none
      refine .quiet ?_ rfl (fun _ _ _ => id) rfl rfl
      rintro _ place req same spawned
      cases same
      exact none place req spawned
  · rename_i none
    refine .quiet ?_ rfl (fun _ _ _ => id) rfl rfl
    rintro task _ _ rfl _
    exact none task rfl

/-- A handler that calls the listener is heard of for the first time, and only once. -/
theorem callback_fresh {session task place : Nat} {req : SubmitSm} {incoming later : Incoming}
    (settled : server.Settled timers) (found : server.connections[session]? = some incoming)
    (went : incoming.step timers (.callback task) = some later)
    (spawned : incoming.spawnedAt task = some (place, .submitSm req))
    (connections : next.connections = server.connections.set session later) :
    server.Asked timers session place (.submitSm req) ∧ (session, place) ∉ server.keys ∧
      (session, place) ∉ server.answers.map Prod.fst ∧
      ∀ other hosted, next.Hosts other hosted → ∀ debt ∈ hosted.spawned,
        (other, debt.1) ≠ (session, place) := by
  cases Incoming.step_moves went with
  | @calls before task debt phase found' =>
    have hosts : server.Hosts session before := ⟨incoming, found, phase⟩
    have tends := settled.tends session before hosts
    simp only [Incoming.spawnedAt, phase, found'] at spawned
    cases spawned
    have member := List.mem_of_getElem? found'
    refine ⟨⟨before, hosts, tends.attends.asked member⟩, (tends.fresh _ member).1,
      (tends.fresh _ member).2, ?_⟩
    rintro other hosted ⟨connection, here, phase'⟩ debt remains same
    obtain ⟨rfl, place'⟩ := Prod.mk.inj same
    rw [connections, List.getElem?_set_self (List.getElem?_eq_some_iff.mp found).1] at here
    cases here
    cases phase'
    exact mem_eraseIdx_apart tends.attends.apart found' remains place'

theorem serve_settled {session : Nat} {event : IncomingEvent} (settled : server.Settled timers)
    (taken : server.serve timers systemId session event = some next) : next.Settled timers := by
  unfold serve at taken
  split at taken
  · rename_i incoming found
    split at taken
    · rename_i allows
      obtain ⟨later, went, rfl⟩ := Option.map_eq_some_iff.mp taken
      generalize told : forward _ session incoming event = final
      have forwards := forward_forwards
        { server with connections := server.connections.set session later } session incoming event
      rw [told] at forwards
      cases forwards with
      | quiet other connections posted keys answers =>
        exact (serve_advances settled found allows went connections).keeps settled posted keys
          answers
      | hands spawned room connections posted answers =>
        obtain ⟨asked, unseen, -, others⟩ :=
          callback_fresh settled found went spawned connections
        exact (serve_advances settled found allows went connections).hands settled asked unseen
          others posted answers
      | rejects spawned full connections posted answers =>
        obtain ⟨asked, -, unanswered, others⟩ :=
          callback_fresh settled found went spawned connections
        exact (serve_advances settled found allows went connections).answers settled asked
          unanswered others posted answers
    · cases taken
  · cases taken

theorem accepted_hosts (server : Server) (session : Nat) (hosted : Hosted) :
    { server with connections := server.connections ++ [Incoming.start] }.Hosts session hosted ↔
      server.Hosts session hosted := by
  unfold Hosts
  dsimp only
  constructor
  · rintro ⟨incoming, found, phase⟩
    rw [List.getElem?_append] at found
    split at found
    · exact ⟨incoming, found, phase⟩
    · obtain ⟨last, rfl⟩ := List.getElem?_eq_some_iff.mp found
      rw [List.getElem_singleton] at phase
      cases phase
  · rintro ⟨incoming, found, phase⟩
    refine ⟨incoming, ?_, phase⟩
    rw [List.getElem?_append_left (List.getElem?_eq_some_iff.mp found).1, found]

theorem step_settled {event : ServerStep} (settled : server.Settled timers)
    (taken : server.step timers systemId event = some next) : next.Settled timers := by
  cases event with
  | accept =>
    cases taken
    have advances : server.Advances timers
        { server with connections := server.connections ++ [Incoming.start] } := by
      refine advances_of settled fun session hosted => ?_
      exact accepted_hosts server session hosted
    exact advances.keeps settled (fun _ _ _ => id) rfl rfl
  | serve session event => exact serve_settled settled taken
  | next =>
    simp only [step, Server.next] at taken
    split at taken
    · rename_i event events received
      cases taken
      have same : { server with
          events := events
          yielded := server.yielded ++ [event] }.posted = server.posted := by
        unfold posted
        rw [Mailbox.recv_some received, List.append_assoc]
        rfl
      have advances : server.Advances timers
          { server with events := events, yielded := server.yielded ++ [event] } :=
        advances_of settled fun _ _ => Iff.rfl
      refine advances.keeps settled ?_ ?_ rfl
      · rw [same]
        exact fun _ _ _ => id
      · unfold keys
        rw [same]
    · cases taken
  | settle position decision =>
    simp only [step, settle] at taken
    split at taken
    · rename_i session place req found
      split at taken
      · cases taken
        exact settled
      · rename_i unanswered
        cases taken
        have yielded := List.mem_of_getElem? found
        have key : (session, place) ∈ server.keys :=
          mem_keys.mpr ⟨req, List.mem_append_left _ yielded⟩
        have advances : server.Advances timers
            { server with
              answers := server.answers ++ [((session, place), decision.resp req)] } :=
          advances_of settled fun _ _ => Iff.rfl
        have asked := settled.posted session place req (List.mem_append_left _ yielded)
        refine advances.answers settled asked ?_ ?_ rfl rfl
        · intro member
          obtain ⟨answer, there, same⟩ := List.mem_map.mp member
          exact unanswered (List.any_eq_true.mpr ⟨answer, there, decide_eq_true same⟩)
        · intro other hosted hosts debt member same
          exact ((settled.tends other hosted hosts).fresh debt member).1 (same ▸ key)
    · cases taken

inductive Decides (server : Server) : ServerStep → (Nat × Nat) × SubmitSmResp → Prop
  | settles {position session place : Nat} {req : SubmitSm} {decision : Decision}
      (yielded : server.yielded[position]? = some (.submitSm session place req))
      (first : (session, place) ∉ server.answers.map Prod.fst) :
      Decides server (.settle position decision) ((session, place), decision.resp req)
  | refuses {session task place : Nat} {incoming : Incoming} {req : SubmitSm}
      (found : server.connections[session]? = some incoming)
      (spawned : incoming.spawnedAt task = some (place, .submitSm req))
      (full : ¬ server.events.HasRoom) :
      Decides server (.serve session (.callback task))
        ((session, place), req.reject .ESME_RMSGQFUL)

theorem settle_answers {position : Nat} {decision : Decision}
    (taken : server.settle position decision = some next) (answer : (Nat × Nat) × SubmitSmResp) :
    answer ∈ next.answers ↔
      answer ∈ server.answers ∨ server.Decides (.settle position decision) answer := by
  unfold settle at taken
  split at taken
  · rename_i session place req found
    split at taken
    · rename_i answered
      cases taken
      refine ⟨.inl, fun either => either.resolve_right fun decides => ?_⟩
      obtain ⟨old, member, key⟩ := List.any_eq_true.mp answered
      cases decides with
      | settles yielded first =>
        rw [found] at yielded
        cases yielded
        exact first (List.mem_map.mpr ⟨old, member, of_decide_eq_true key⟩)
    · rename_i unanswered
      cases taken
      have first : (session, place) ∉ server.answers.map Prod.fst := by
        intro key
        obtain ⟨old, member, key⟩ := List.mem_map.mp key
        exact unanswered (List.any_eq_true.mpr ⟨old, member, decide_eq_true key⟩)
      rw [List.mem_append, List.mem_singleton]
      refine or_congr_right ⟨?_, ?_⟩
      · rintro rfl
        exact .settles found first
      · intro decides
        cases decides with
        | settles yielded first =>
          rw [found] at yielded
          cases yielded
          rfl
  · cases taken

theorem serve_answers {session : Nat} {event : IncomingEvent}
    (taken : server.serve timers systemId session event = some next)
    (answer : (Nat × Nat) × SubmitSmResp) :
    answer ∈ next.answers ↔
      answer ∈ server.answers ∨ server.Decides (.serve session event) answer := by
  unfold serve at taken
  split at taken
  · rename_i incoming found
    split at taken
    · obtain ⟨later, -, rfl⟩ := Option.map_eq_some_iff.mp taken
      generalize told : forward _ session incoming event = final
      have forwards := forward_forwards
        { server with connections := server.connections.set session later } session incoming event
      rw [told] at forwards
      cases forwards with
      | quiet other connections posted keys answers =>
        rw [answers]
        refine ⟨.inl, fun either => either.resolve_right fun decides => ?_⟩
        cases decides with
        | refuses found' spawned full =>
          rw [found] at found'
          cases found'
          exact other _ _ _ rfl spawned
      | hands spawned room connections posted answers =>
        rw [answers]
        refine ⟨.inl, fun either => either.resolve_right fun decides => ?_⟩
        cases decides with
        | refuses found' spawned' full => exact full room
      | rejects spawned full connections posted answers =>
        rw [answers, List.mem_append, List.mem_singleton]
        refine or_congr_right ⟨?_, ?_⟩
        · rintro rfl
          exact .refuses found spawned full
        · intro decides
          cases decides with
          | refuses found' spawned' full' =>
            rw [found] at found'
            cases found'
            rw [spawned] at spawned'
            cases spawned'
            rfl
    · cases taken
  · cases taken

theorem step_answers {event : ServerStep} (taken : server.step timers systemId event = some next)
    (answer : (Nat × Nat) × SubmitSmResp) :
    answer ∈ next.answers ↔ answer ∈ server.answers ∨ server.Decides event answer := by
  cases event with
  | accept =>
    cases taken
    exact ⟨.inl, fun either => either.resolve_right fun decides => by cases decides⟩
  | next =>
    simp only [step, Server.next] at taken
    split at taken
    · cases taken
      exact ⟨.inl, fun either => either.resolve_right fun decides => by cases decides⟩
    · cases taken
  | settle position decision => exact settle_answers taken answer
  | serve session event => exact serve_answers taken answer

theorem step_keys {event : ServerStep} (settled : server.Settled timers)
    (taken : server.step timers systemId event = some next) {key : Nat × Nat}
    (seen : key ∈ next.keys) : key ∈ server.keys ∨ key ∉ server.answers.map Prod.fst := by
  cases event with
  | accept =>
    cases taken
    exact .inl seen
  | next =>
    simp only [step, Server.next] at taken
    split at taken
    · rename_i event events received
      cases taken
      left
      unfold keys posted at seen ⊢
      rw [Mailbox.recv_some received]
      rw [List.append_assoc] at seen
      exact seen
    · cases taken
  | settle position decision =>
    simp only [step, settle] at taken
    repeat' split at taken
    all_goals cases taken
    all_goals exact .inl seen
  | serve session event =>
    simp only [step, serve] at taken
    split at taken
    · rename_i incoming found
      split at taken
      · obtain ⟨later, went, rfl⟩ := Option.map_eq_some_iff.mp taken
        generalize told : forward _ session incoming event = final at seen
        have forwards := forward_forwards
          { server with connections := server.connections.set session later } session incoming event
        rw [told] at forwards
        cases forwards with
        | quiet other connections posted keys => exact .inl (keys ▸ seen)
        | hands spawned room connections posted =>
          obtain ⟨-, -, unanswered, -⟩ := callback_fresh settled found went spawned connections
          unfold Server.keys at seen
          rw [posted, List.filterMap_append] at seen
          rcases List.mem_append.mp seen with old | new
          · exact .inl old
          · right
            rw [List.mem_singleton.mp new]
            exact unanswered
        | rejects spawned full connections posted =>
          left
          unfold Server.keys at seen
          rw [posted] at seen
          exact seen
      · cases taken
    · cases taken

def Passed (timers : ServerTimers) (server : Server) (key : Nat × Nat) : Prop :=
  server.Settled timers ∧ key ∈ server.answers.map Prod.fst ∧ key ∉ server.keys

theorem step_passed {event : ServerStep} {key : Nat × Nat} (passed : server.Passed timers key)
    (taken : server.step timers systemId event = some next) : next.Passed timers key := by
  obtain ⟨settled, answered, unseen⟩ := passed
  refine ⟨step_settled settled taken, ?_, fun seen => ?_⟩
  · obtain ⟨answer, member, rfl⟩ := List.mem_map.mp answered
    exact List.mem_map.mpr ⟨answer, (step_answers taken answer).mpr (.inl member), rfl⟩
  · rcases step_keys settled taken seen with old | unanswered
    · exact unseen old
    · exact unanswered answered

/-- A request that finds the queue full has its answer and stays out of the queue. -/
theorem refuses_passed {session task place : Nat} {incoming : Incoming} {req : SubmitSm}
    (settled : server.Settled timers) (found : server.connections[session]? = some incoming)
    (spawned : incoming.spawnedAt task = some (place, .submitSm req))
    (full : ¬ server.events.HasRoom)
    (taken : server.step timers systemId (.serve session (.callback task)) = some next) :
    next.Passed timers (session, place) := by
  refine ⟨step_settled settled taken, ?_, ?_⟩
  · have answered := (step_answers taken _).mpr (.inr (.refuses found spawned full))
    exact List.mem_map.mpr ⟨_, answered, rfl⟩
  · simp only [step, serve, found] at taken
    split at taken
    · obtain ⟨later, went, rfl⟩ := Option.map_eq_some_iff.mp taken
      let moved : Server := { server with connections := server.connections.set session later }
      have unseen := (@callback_fresh timers server moved session task place req incoming later
        settled found went spawned rfl).2.1
      have rejected : moved.forward session incoming (.callback task) =
          { moved with
            answers := moved.answers ++ [((session, place), req.reject .ESME_RMSGQFUL)] } := by
        simp only [forward, spawned, onSubmitSm, Mailbox.trySend, moved, dif_neg full]
      rw [rejected]
      exact unseen
    · cases taken

theorem run_settled {inboundCapacity : Nat} {events : List ServerStep}
    (reached : run (Server.step timers systemId) (start inboundCapacity) events = some server) :
    server.Settled timers :=
  Machine.run_invariant (fun _ _ _ before taken => step_settled before taken)
    (start_settled timers inboundCapacity) reached

end Server

/-- Where the answer to a submit_sm comes from in a run: the first decision that the application
    makes on it, or the queue that had no room for it, so that the application never hears of it. -/
inductive Decided (timers : ServerTimers) (systemId : Str) (inboundCapacity : Nat)
    (events : List ServerStep) (server : Server) (session place : Nat) : SubmitSmResp → Prop
  | settled {before after : List ServerStep} {position : Nat} {decision : Decision}
      {middle : Server} {req : SubmitSm}
      (split : events = before ++ .settle position decision :: after)
      (reached : run (Server.step timers systemId) (Server.start inboundCapacity) before =
        some middle)
      (yielded : middle.yielded[position]? = some (.submitSm session place req))
      (first : (session, place) ∉ middle.answers.map Prod.fst) :
      Decided timers systemId inboundCapacity events server session place (decision.resp req)
  | refused {before after : List ServerStep} {task : Nat} {middle : Server} {incoming : Incoming}
      {req : SubmitSm} (split : events = before ++ .serve session (.callback task) :: after)
      (reached : run (Server.step timers systemId) (Server.start inboundCapacity) before =
        some middle)
      (found : middle.connections[session]? = some incoming)
      (spawned : incoming.spawnedAt task = some (place, .submitSm req))
      (full : ¬ middle.events.HasRoom) (unseen : (session, place) ∉ server.keys) :
      Decided timers systemId inboundCapacity events server session place
        (req.reject .ESME_RMSGQFUL)

theorem Server.answers_iff {timers : ServerTimers} {systemId : Str} {inboundCapacity : Nat}
    {events : List ServerStep} {server : Server}
    (reached : run (Server.step timers systemId) (Server.start inboundCapacity) events =
      some server) (session place : Nat) (resp : SubmitSmResp) :
    ((session, place), resp) ∈ server.answers ↔
      Decided timers systemId inboundCapacity events server session place resp := by
  have logged := Machine.run_logged (fun _ _ _ taken => Server.step_answers taken) reached
    ((session, place), resp)
  rw [logged]
  constructor
  · rintro (never | ⟨before, event, after, middle, rfl, ran, decides⟩)
    · cases never
    · obtain ⟨middle', ran', rest⟩ := Machine.run_append_iff.mp reached
      rw [ran] at ran'
      cases ran'
      cases decides with
      | settles yielded first => exact .settled rfl ran yielded first
      | refuses found spawned full =>
        obtain ⟨next, taken, rest⟩ := Machine.run_cons_iff.mp rest
        have passed := Server.refuses_passed (Server.run_settled ran) found spawned full taken
        have last := Machine.run_invariant
          (fun _ _ _ before taken => Server.step_passed before taken) passed rest
        exact .refused rfl ran found spawned full last.2.2
  · intro decided
    right
    cases decided with
    | settled split ran yielded first =>
      exact ⟨_, _, _, _, split, ran, .settles yielded first⟩
    | refused split ran found spawned full =>
      exact ⟨_, _, _, _, split, ran, .refuses found spawned full⟩

/-- Whatever the peers of a server send and however its application goes about it, each submit_sm
    is handed over and answered once at most. It has an answer where the application has decided on
    that very request, and that is the first decision made on it, or where the queue was full; and
    what is written in answer to a request is this, or the default rejection of another kind. -/
theorem submit_sm_answered_as_decided (timers : ServerTimers) (systemId : Str)
    (inboundCapacity : Nat) (events : List ServerStep) (server : Server)
    (reached : run (Server.step timers systemId) (Server.start inboundCapacity) events =
      some server) :
    server.keys.Nodup ∧ (server.answers.map Prod.fst).Nodup ∧
      (∀ session place req, .submitSm session place req ∈ server.posted →
        server.Asked timers session place (.submitSm req)) ∧
      (∀ session place resp, ((session, place), resp) ∈ server.answers ↔
        Decided timers systemId inboundCapacity events server session place resp) ∧
      ∀ session hosted, server.Hosts session hosted → ∀ emission ∈ hosted.watch.session.sent,
        ∀ place, emission.origin = .reaction place → ∀ request,
          (timers.endpoint hosted.kind).AskedAt hosted.watch.session.received place request →
            (∀ pdu, request ≠ .unbind pdu) →
              server.Replies session place request emission.frame.pdu := by
  have settled := Server.run_settled reached
  refine ⟨settled.once, settled.answered, settled.posted, Server.answers_iff reached, ?_⟩
  intro session hosted hosts emission member place origin
  have outgoing : emission ∈ hosted.watch.session.outgoing :=
    Session.mem_outgoing.mpr (.inr (.inr (.inr (.inr (.inl member)))))
  exact ((settled.tends session hosted hosts).sent emission outgoing place origin).2

def emptySubmitSm (number : UInt32) : SubmitSm where
  header := ⟨33, CommandId.submitSm.value, SmppError.ESME_ROK.code, number⟩
  toMessageFields := (emptyDeliverSm number).toMessageFields
  tlvs := []

/-- Two submit_sm come in, and there is room for one: the application accepts it, and rejects it too
late. -/
theorem second_submit_sm_refused :
    let timers : ServerTimers := ⟨60, 600⟩
    let first := (emptySubmitSm 7).encode
    let accepted := Decision.accept Str.empty
    let events : List ServerStep :=
      bindsTo Str.empty 0 ++
        ([.next, .serve 0 (.act (.receive (first ++ (emptySubmitSm 8).encode))),
          .serve 0 (.act .extract), .serve 0 (.act .extract), .serve 0 (.callback 0),
          .serve 0 (.callback 0), .next, .settle 1 accepted, .settle 1 (.reject 8),
          .serve 0 (.act (.respond 0 (.submitSm (accepted.resp (emptySubmitSm 7)))))] :
          List ServerStep)
    ∃ server, run (Server.step timers Str.empty) (Server.start 1) events = some server ∧
      server.answers =
        [((0, 1), (emptySubmitSm 8).reject .ESME_RMSGQFUL),
          ((0, 0), accepted.resp (emptySubmitSm 7))] ∧
      Decided timers Str.empty 1 events server 0 0 (accepted.resp (emptySubmitSm 7)) ∧
      Decided timers Str.empty 1 events server 0 1 ((emptySubmitSm 8).reject .ESME_RMSGQFUL) := by
  intro timers first accepted events
  have ran : (run (Server.step timers Str.empty) (Server.start 1) events).map Server.answers =
      some
        [((0, 1), (emptySubmitSm 8).reject .ESME_RMSGQFUL),
          ((0, 0), accepted.resp (emptySubmitSm 7))] := by decide +kernel
  obtain ⟨server, reached, answers⟩ := Option.map_eq_some_iff.mp ran
  have decided := (submit_sm_answered_as_decided timers Str.empty 1 events server reached).2.2.2.1
  refine ⟨server, reached, answers, (decided 0 0 _).mp ?_, (decided 0 1 _).mp ?_⟩
  · rw [answers]
    exact List.mem_cons_of_mem _ List.mem_cons_self
  · rw [answers]
    exact List.mem_cons_self

end Python

end Smpp34
