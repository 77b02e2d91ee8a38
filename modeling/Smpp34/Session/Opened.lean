import Smpp34.Session.Line

namespace Smpp34

open Octets
open Machine (run Throughout)
open Utf8 (Str)

/-- The two sessions that come of the bind, over pipes of any capacity. -/
def Terms.pairing (terms : Terms) (capacity : Nat) : Pairing where
  bound := terms.settings.bindType.bound
  responseTimer
    | .client => terms.settings.responseTimer
    | .server => terms.timers.responseTimer
  inactivityTimer
    | .client => terms.settings.inactivityTimer
    | .server => terms.timers.inactivityTimer
  capacity

def ClientSettings.givenUp (settings : ClientSettings) : Session :=
  { settings.endpoint.start with alive := false, reader := .gone, writer := .stopped }

/-- The client's end of a pair: a client that waits has the bind response before the session's
    first octet, and what is left from the handshake counts as still on its way. -/
def SessionTask.ShownBy (settings : ClientSettings) (pipe : Bytes) (pair : Pair) :
    SessionTask → Prop
  | binding buffer =>
    pair.ends .client = settings.endpoint.start ∧
      ∃ resp, Whole resp ∧ resp ++ pair.pipe .client = buffer ++ pipe
  | bound leftover session =>
    pair.ends .client = session ∧ pair.pipe .client = leftover ++ pipe
  | finished => pair.ends .client = settings.givenUp

/-- The pair that a connection is: before the server has bound the client nothing has happened. -/
inductive Line.Shows (terms : Terms) (line : Line) (pair : Pair) : Prop
  | opening (unbound : line.incoming.phase.kind = none)
      (fresh : pair = (terms.pairing 0).start)
  | opened {hosted : Hosted} (phase : line.incoming.phase = .bound hosted)
      (kind : hosted.kind = terms.settings.bindType)
      (server : pair.ends .server = hosted.watch.session)
      (inward : pair.pipe .server = hosted.leftover ++ line.pipe .server)
      (client : line.task.ShownBy terms.settings (line.pipe .client) pair)

/-- The response that binds the client is written whole, or not at all. -/
def Line.welcomes (line : Line) : LineEvent → Bool
  | .answer verdict outcomes =>
    match line.incoming.phase.firstPdu with
    | some pdu =>
      match serverReply (fun _ request => request.respond verdict) pdu, outcomes with
      | some ⟨frame, some _⟩, .accepted count :: _ => count = frame.length && Whole frame
      | _, _ => true
    | none => true
  | _ => true

section Piece

variable {leftover pipe : Bytes} {event : Event}

theorem fetched_ahead (left : leftover = [] ∨ event.piece <+: leftover)
    (ahead : fetched leftover event <+: pipe) :
    event.piece <+: leftover ++ pipe ∧
      (leftover ++ pipe).drop event.piece.length =
        leftover.drop event.piece.length ++ pipe.drop (fetched leftover event).length := by
  unfold fetched at *
  by_cases empty : leftover = []
  · rw [if_pos empty] at *
    rw [empty, List.nil_append, List.drop_nil, List.nil_append]
    exact ⟨ahead, rfl⟩
  · rw [if_neg empty] at *
    have within := left.resolve_left empty
    refine ⟨within.trans (List.prefix_append _ _), ?_⟩
    rw [List.drop_append_of_le_length within.length_le, List.length_nil, List.drop_zero]

theorem permits_piece (permitted : SessionTask.permits leftover event = true) :
    leftover = [] ∨ event.piece <+: leftover := by
  cases event with
  | receive piece =>
    simp only [SessionTask.permits, Bool.or_eq_true, decide_eq_true_eq] at permitted
    exact permitted.imp_right List.isPrefixOf_iff_prefix.mp
  | _ => exact .inr List.nil_prefix

end Piece

namespace Pairing

variable {terms : Terms} {pair : Pair}

theorem step_of_session {side : Side} {event : Event} {session : Session}
    (ahead : event.piece <+: pair.pipe side)
    (hungUp : event = .hangUp → (pair.ends side.other).writer = .stopped)
    (stepped : (pair.ends side).step ((terms.pairing 0).endpoint side) event = some session) :
    ∃ next enough, (∀ room, enough ≤ room →
        (terms.pairing room).step pair (side, event) = some next) ∧
      next.ends side = session ∧ next.ends side.other = pair.ends side.other ∧
      next.pipe side = (pair.pipe side).drop event.piece.length ∧
      next.pipe side.other = pair.pipe side.other ++ written (pair.ends side) event := by
  have allowed : ∃ enough, ∀ room, enough ≤ room →
      (terms.pairing room).allows pair side event = true := by
    cases event with
    | receive piece => exact ⟨0, fun _ _ => List.isPrefixOf_iff_prefix.mpr ahead⟩
    | hangUp => exact ⟨0, fun _ _ => decide_eq_true (hungUp rfl)⟩
    | write outcome =>
      cases outcome with
      | accepted count =>
        exact ⟨(pair.pipe side.other).length + count, fun _ enough => decide_eq_true enough⟩
      | failed => exact ⟨0, fun _ _ => rfl⟩
    | _ => exact ⟨0, fun _ _ => rfl⟩
  obtain ⟨enough, allows⟩ := allowed
  refine ⟨⟨Function.update pair.ends side session,
    Function.update (Function.update pair.pipe side ((pair.pipe side).drop event.piece.length))
      side.other (pair.pipe side.other ++ written (pair.ends side) event)⟩, enough, ?_, ?_, ?_, ?_,
    ?_⟩
  · intro room roomy
    have taken : (pair.ends side).step ((terms.pairing room).endpoint side) event =
        some session := stepped
    unfold step
    dsimp only
    rw [if_pos (allows room roomy), taken]
    rfl
  · exact Function.update_self side session pair.ends
  · exact Function.update_of_ne (Side.other_ne side) session pair.ends
  · dsimp only
    rw [Function.update_of_ne (Side.other_ne side).symm, Function.update_self]
  · exact Function.update_self side.other _ _

theorem Conveys.resize {some : Nat} (conveys : Conveys (terms.pairing some) pair) (other : Nat) :
    Conveys (terms.pairing other) pair :=
  ⟨conveys.stream, conveys.consistent, conveys.attributed, conveys.handed⟩

end Pairing

def Session.carries (session : Session) (event : Event) : Bool :=
  match event, session.writer with
  | .write (.accepted count), .registered emission =>
    count = emission.frame.pdu.length && Whole emission.frame.pdu
  | _, _ => true

/-- Every write of the connection takes a whole PDU, the response to the bind with it. -/
def Line.carries (line : Line) : LineEvent → Bool
  | .client event =>
    match line.task with
    | .bound _ session => session.carries event
    | _ => true
  | .server (.act event) =>
    match line.incoming.phase with
    | .bound hosted => hosted.watch.session.carries event
    | _ => true
  | event => line.welcomes event

def LineEvent.Sensible : LineEvent → Prop
  | .client event => event.Sensible
  | .server (.act event) => event.Sensible
  | _ => True

/-- The pair follows a step of the connection, and goes on conveying where the step carries. -/
def Line.Matched (terms : Terms) (line : Line) (event : LineEvent) (pair : Pair) (next : Line) :
    Prop :=
  ∃ moves pair' enough, next.Shows terms pair' ∧
    (∀ room, enough ≤ room → run (terms.pairing room).step pair moves = some pair') ∧
    (line.carries event = true → event.Sensible → Pairing.Conveys (terms.pairing 0) pair →
      Pairing.Conveys (terms.pairing 0) pair')

namespace Line

variable {terms : Terms} {line next : Line} {pair : Pair} {event : LineEvent}

theorem matched_still (shows : next.Shows terms pair) : line.Matched terms event pair next :=
  ⟨[], pair, 0, shows, fun _ _ => rfl, fun _ _ conveys => conveys⟩

theorem lets_ahead {side : Side} {leftover : Bytes} {event : Event}
    (lets : line.lets side leftover event = true) : fetched leftover event <+: line.pipe side := by
  cases event with
  | hangUp =>
    unfold fetched
    split <;> exact List.nil_prefix
  | _ => exact List.isPrefixOf_iff_prefix.mp lets

theorem giveUp_moves (fresh : pair.ends .client = terms.settings.endpoint.start) :
    ∃ next enough, (∀ room, enough ≤ room →
        run (terms.pairing room).step pair [(.client, .stop), (.client, .check)] = some next) ∧
      next.ends .client = terms.settings.givenUp ∧ next.ends .server = pair.ends .server ∧
      next.pipe .server = pair.pipe .server ∧
      (Pairing.Conveys (terms.pairing 0) pair → Pairing.Conveys (terms.pairing 0) next) := by
  have stopped : (pair.ends .client).step ((terms.pairing 0).endpoint .client) .stop =
      some { terms.settings.endpoint.start with alive := false, reader := .gone } := by
    rw [fresh]
    rfl
  have stop : Event.stop.piece <+: pair.pipe .client := List.nil_prefix
  obtain ⟨middle, early, first, moved, still, -, outward⟩ :=
    Pairing.step_of_session stop Event.noConfusion stopped
  have checked : (middle.ends .client).step ((terms.pairing 0).endpoint .client) .check =
      some terms.settings.givenUp := by
    rw [moved]
    rfl
  have check : Event.check.piece <+: middle.pipe .client := List.nil_prefix
  obtain ⟨next, late, second, moved', still', -, outward'⟩ :=
    Pairing.step_of_session check Event.noConfusion checked
  refine ⟨next, max early late, ?_, moved', still'.trans still, ?_, ?_⟩
  · intro room enough
    refine Machine.run_cons_iff.mpr ⟨middle, first room ?_, Machine.run_single (second room ?_)⟩
    · exact Nat.le_trans (Nat.le_max_left _ _) enough
    · exact Nat.le_trans (Nat.le_max_right _ _) enough
  · have quiet : next.pipe .server = pair.pipe .server ++ [] ++ [] :=
      outward'.trans (congrArg (· ++ []) outward)
    rw [quiet, List.append_nil, List.append_nil]
  · intro conveys
    have stop : Event.stop.Sensible := True.intro
    have check : Event.check.Sensible := True.intro
    have between := Pairing.step_conveys (conveys.resize early) rfl stop (first early (Nat.le_refl _))
    have after := Pairing.step_conveys (between.resize late) rfl check
      (second late (Nat.le_refl _))
    exact after.resize 0

theorem carry_self (line : Line) (side : Side) (leftover : Bytes) (session : Session)
    (event : Event) :
    line.carry side leftover session event side =
      (line.pipe side).drop (fetched leftover event).length := by
  unfold carry
  rw [put_of_ne (Side.other_ne side).symm, took_self]

theorem carry_other (line : Line) (side : Side) (leftover : Bytes) (session : Session)
    (event : Event) :
    line.carry side leftover session event side.other =
      line.pipe side.other ++ Pairing.written session event := by
  unfold carry
  rw [put_self, took_of_ne (Side.other_ne side)]

theorem shownBy_written {task : SessionTask} {pipe bytes : Bytes} {pair' : Pair}
    (shown : task.ShownBy terms.settings pipe pair)
    (still : pair'.ends .client = pair.ends .client)
    (longer : pair'.pipe .client = pair.pipe .client ++ bytes) :
    task.ShownBy terms.settings (pipe ++ bytes) pair' := by
  cases task with
  | binding buffer =>
    obtain ⟨fresh, resp, whole, ahead⟩ := shown
    refine ⟨still.trans fresh, resp, whole, ?_⟩
    rw [longer, ← List.append_assoc, ahead, List.append_assoc]
  | bound leftover session =>
    obtain ⟨same, ahead⟩ := shown
    refine ⟨still.trans same, ?_⟩
    rw [longer, ahead, List.append_assoc]
  | finished => exact still.trans shown

theorem gone_stopped (shows : line.Shows terms pair) {hosted : Hosted}
    (phase : line.incoming.phase = .bound hosted) (side : Side) (gone : line.gone side = true) :
    (pair.ends side).writer = .stopped := by
  cases shows with
  | opening unbound =>
    rw [phase] at unbound
    cases unbound
  | opened phase' kind server inward client =>
    rw [phase] at phase'
    cases phase'
    unfold Line.gone at gone
    cases side with
    | server =>
      dsimp only at gone
      rw [phase] at gone
      rw [server]
      exact of_decide_eq_true gone
    | client =>
      dsimp only at gone
      cases task : line.task with
      | binding buffer =>
        rw [task] at gone
        cases gone
      | bound leftover session =>
        rw [task] at gone client
        rw [client.1]
        exact of_decide_eq_true gone
      | finished =>
        rw [task] at client
        have same : pair.ends .client = terms.settings.givenUp := client
        rw [same]
        rfl

theorem matched_of_step {side : Side} {own : Event} {session : Session}
    (ahead : own.piece <+: pair.pipe side)
    (hungUp : own = .hangUp → (pair.ends side.other).writer = .stopped)
    (stepped : (pair.ends side).step ((terms.pairing 0).endpoint side) own = some session)
    (carries : line.carries event = (pair.ends side).carries own)
    (sensible : event.Sensible → own.Sensible)
    (shows : ∀ pair' : Pair, pair'.ends side = session →
      pair'.ends side.other = pair.ends side.other →
      pair'.pipe side = (pair.pipe side).drop own.piece.length →
      pair'.pipe side.other = pair.pipe side.other ++ Pairing.written (pair.ends side) own →
      next.Shows terms pair') : line.Matched terms event pair next := by
  obtain ⟨pair', enough, moved, moving, still, drained, wrote⟩ :=
    Pairing.step_of_session ahead hungUp stepped
  refine ⟨[(side, own)], pair', enough, shows pair' moving still drained wrote, ?_, ?_⟩
  · exact fun room roomy => Machine.run_single (moved room roomy)
  · intro carried sensed conveys
    have met : Pairing.carries pair (side, own) = true := carries.symm.trans carried
    have kept := Pairing.step_conveys (conveys.resize enough) met (sensible sensed)
      (moved enough (Nat.le_refl _))
    exact kept.resize 0

theorem matched_client {own : Event} (shows : line.Shows terms pair) {hosted : Hosted}
    (phase : line.incoming.phase = .bound hosted)
    (taken : line.client terms own = some next) :
    line.Matched terms (.client own) pair next := by
  have gone := gone_stopped shows phase .server
  unfold client at taken
  split at taken
  · rename_i leftover session task
    split at taken
    · rename_i allowed
      obtain ⟨permitted, lets⟩ := Bool.and_eq_true_iff.mp allowed
      obtain ⟨after, stepped, rfl⟩ := Option.map_eq_some_iff.mp taken
      cases shows with
      | opening unbound =>
        rw [phase] at unbound
        cases unbound
      | opened phase' kind server inward client =>
        rw [phase] at phase'
        cases phase'
        rw [task] at client
        obtain ⟨rfl, ahead⟩ := client
        obtain ⟨within, dropped⟩ := fetched_ahead (permits_piece permitted) (lets_ahead lets)
        rw [← ahead] at within dropped
        apply matched_of_step within ?_ stepped ?_ id
        · intro pair' moving still drained wrote
          have longer : pair'.pipe .server =
              pair.pipe .server ++ Pairing.written (pair.ends .client) own := wrote
          have carried := carry_other line .client leftover (pair.ends .client) own
          refine .opened phase kind (still.trans server) ?_ ⟨moving, ?_⟩
          · rw [longer, inward, List.append_assoc]
            exact congrArg (hosted.leftover ++ ·) carried.symm
          · dsimp only
            rw [drained, dropped, carry_self]
        · rintro rfl
          exact gone lets
        · unfold Line.carries
          dsimp only
          rw [task]
    · cases taken
  · cases taken

theorem matched_server {own : Event} (shows : line.Shows terms pair) {hosted : Hosted}
    (phase : line.incoming.phase = .bound hosted) {pipe : Side → Bytes} {session : Session}
    (lets : line.lets .server hosted.leftover own = true)
    (carried : pipe = line.carry .server hosted.leftover hosted.watch.session own)
    (allowed : Incoming.allows hosted own = true)
    (stepped : hosted.watch.session.step (terms.timers.endpoint hosted.kind) own = some session) :
    line.Matched terms (.server (.act own)) pair
      { line with
        incoming := line.incoming.serve hosted own (hosted.watch.record own session)
        pipe := pipe } := by
  have gone := gone_stopped shows phase .client
  cases shows with
  | opening unbound =>
    rw [phase] at unbound
    cases unbound
  | opened phase' kind server inward client =>
    rw [phase] at phase'
    cases phase'
    obtain ⟨within, dropped⟩ := fetched_ahead (Hosted.allowed_piece allowed) (lets_ahead lets)
    rw [← inward] at within dropped
    rw [kind, ← server] at stepped
    apply matched_of_step within ?_ stepped ?_ id
    · intro pair' moving still drained wrote
      have longer : pair'.pipe .client =
          pair.pipe .client ++ Pairing.written (pair.ends .server) own := wrote
      have outward := carry_other line .server hosted.leftover hosted.watch.session own
      rw [← carried, ← server] at outward
      have shown := shownBy_written client still longer
      refine .opened rfl kind moving ?_ ?_
      · dsimp only
        rw [drained, dropped, carried, carry_self]
      · have longer' : pipe .client =
            line.pipe .client ++ Pairing.written (pair.ends .server) own := outward
        dsimp only
        rw [longer']
        exact shown
    · rintro rfl
      exact gone lets
    · unfold Line.carries
      dsimp only
      rw [phase, server]

theorem matched_giveUp (shows : line.Shows terms pair) {buffer : Bytes}
    (task : line.task = .binding buffer) (pipe : Bytes) (asked : Bool) :
    line.Matched terms event pair
      { line with
        task := .finished
        asked := asked
        pipe := Function.update line.pipe .client pipe } := by
  cases shows with
  | opening unbound fresh => exact matched_still (.opening unbound fresh)
  | opened phase kind server inward client =>
    rw [task] at client
    obtain ⟨fresh, -⟩ := client
    obtain ⟨pair', enough, ran, moved, still, quiet, conveys⟩ := giveUp_moves fresh
    refine ⟨_, pair', enough, .opened phase kind (still.trans server) ?_ moved, ran,
      fun _ _ => conveys⟩
    rw [quiet, inward]
    dsimp only
    rw [Function.update_of_ne (by decide)]

theorem matched_read {piece : Bytes} (shows : line.Shows terms pair)
    (taken : line.read terms piece = some next) : line.Matched terms event pair next := by
  unfold read at taken
  split at taken
  · rename_i buffer task
    split at taken
    · rename_i allowed
      simp only [Bool.and_eq_true, decide_eq_true_eq] at allowed
      obtain ⟨later, split⟩ := List.isPrefixOf_iff_prefix.mp allowed.2
      have drained : took line.pipe .client piece .client = later := by
        rw [took_self, ← split, List.drop_left]
      have kept : took line.pipe .client piece .server = line.pipe .server :=
        took_of_ne (by decide) piece
      cases waits : SessionTask.handshake terms.settings (buffer ++ piece) with
      | finished =>
        rw [waits] at taken
        cases taken
        exact matched_giveUp shows task _ _
      | binding read =>
        rw [waits] at taken
        cases taken
        rw [SessionTask.handshake_binding waits]
        apply matched_still
        cases shows with
        | opening unbound fresh => exact .opening unbound fresh
        | opened phase kind server inward client =>
          rw [task] at client
          obtain ⟨fresh, resp, whole, ahead⟩ := client
          refine .opened phase kind server ?_ ⟨fresh, resp, whole, ?_⟩
          · dsimp only
            rw [kept, inward]
          · dsimp only
            rw [drained, ahead, ← split, List.append_assoc]
      | bound leftover session =>
        rw [waits] at taken
        cases taken
        apply matched_still
        cases shows with
        | opening unbound fresh => exact .opening unbound fresh
        | opened phase kind server inward client =>
          rw [task] at client
          obtain ⟨fresh, resp, whole, ahead⟩ := client
          obtain ⟨size, framed, rfl, rfl⟩ := SessionTask.handshake_bound waits
          rw [← split, ← List.append_assoc] at ahead
          have fits := (frameFirstPdu_complete framed).2.2.1
          -- the first PDU is the response, and what lies behind it is the session's
          have same : size = resp.length := by
            have first := frameFirstPdu_append_complete later framed
            rw [← ahead, frameFirstPdu_append_complete _ whole] at first
            cases first
            rfl
          have behind : pair.pipe .client = (buffer ++ piece).drop size ++ later := by
            rw [← List.drop_append_of_le_length fits, ← ahead, same, List.drop_left]
          refine .opened phase kind server ?_ ⟨fresh, ?_⟩
          · dsimp only
            rw [kept, inward]
          · dsimp only
            rw [drained, behind]
    · cases taken
  · cases taken

theorem firstPdu_whole {buffer : Bytes} (whole : Whole buffer) :
    (Phase.handshake buffer).firstPdu = some buffer := by
  unfold Whole at whole
  unfold Phase.firstPdu
  dsimp only
  rw [whole]
  exact congrArg some List.take_length

theorem welcomes_answer {verdict : Verdict} {outcome : WriteOutcome} {outcomes : List WriteOutcome}
    {pdu frame : Bytes} {kind : BindKind} (first : line.incoming.phase.firstPdu = some pdu)
    (replied : serverReply (fun _ request => request.respond verdict) pdu =
      some ⟨frame, some kind⟩) (head : outcomes.head? = some outcome) (written : outcome ≠ .failed)
    (welcomed : line.welcomes (.answer verdict outcomes) = true) :
    write frame outcome = frame ∧ Whole frame := by
  obtain ⟨later, rfl⟩ := List.head?_eq_some_iff.mp head
  unfold welcomes at welcomed
  dsimp only at welcomed
  rw [first] at welcomed
  dsimp only at welcomed
  rw [replied] at welcomed
  cases outcome with
  | failed => exact absurd rfl written
  | accepted count =>
    simp only [Bool.and_eq_true, decide_eq_true_eq] at welcomed
    obtain ⟨rfl, whole⟩ := welcomed
    exact ⟨List.take_length, whole⟩

/-- The pair begins where the server has written the response that binds the client. -/
theorem matched_answer {verdict : Verdict} {outcomes : List WriteOutcome} (sound : line.Sound terms)
    (shows : line.Shows terms pair) (welcomed : line.welcomes (.answer verdict outcomes) = true)
    (taken : line.answer terms verdict outcomes = some next) :
    line.Matched terms event pair next := by
  obtain ⟨bytes, incoming, phase, drained, rfl, replied⟩ := answer_replied sound taken
  have unbound : line.task.isBound = false ∧ line.pipe .client = [] ∧
      ∀ read, line.task = .binding read → read = [] := by
    unfold Sound at sound
    rw [phase] at sound
    exact ⟨sound.1, sound.2.1, sound.2.2.1⟩
  obtain ⟨unbound, quiet, empty⟩ := unbound
  cases shows with
  | opened phase' =>
    rw [phase] at phase'
    cases phase'
  | opening _ fresh =>
    cases replied with
    | rejects | undecoded => exact matched_still (.opening rfl fresh)
    | @accepts request outcome decoded success replied first written =>
      have inward : pair.pipe .server = [] ++ put line.pipe .client
          (write (request.respond verdict).encode outcome) .server := by
        rw [put_of_ne (by decide), drained, fresh]
        rfl
      have server : pair.ends .server =
          (Watch.start (terms.timers.endpoint terms.settings.bindType)).session := by
        rw [fresh]
        rfl
      cases task : line.task with
      | bound leftover session =>
        rw [task] at unbound
        cases unbound
      | finished =>
        obtain ⟨pair', enough, ran, moved, still, silent, conveys⟩ :=
          @giveUp_moves terms pair (by rw [fresh]; rfl)
        refine ⟨_, pair', enough, .opened rfl rfl (still.trans server) (silent.trans inward) moved,
          ran, fun _ _ => conveys⟩
      | binding read =>
        apply matched_still
        have begun : pair.ends .client = terms.settings.endpoint.start := by
          rw [fresh]
          rfl
        have nothing : pair.pipe .client = [] := by
          rw [fresh]
          rfl
        have bound := firstPdu_whole terms.bind_whole
        rw [← phase] at bound
        obtain ⟨all, whole⟩ := welcomes_answer bound replied first written welcomed
        refine .opened rfl rfl server inward ⟨begun, _, whole, ?_⟩
        dsimp only
        rw [nothing, empty read task, put_self, quiet, all, List.append_nil]
        rfl

theorem shows_callback (shows : line.Shows terms pair) {hosted later : Hosted}
    {incoming : Incoming} (phase : line.incoming.phase = .bound hosted)
    (goesOn : incoming.phase = .bound later) (kind : later.kind = hosted.kind)
    (session : later.watch.session = hosted.watch.session)
    (leftover : later.leftover = hosted.leftover) :
    Line.Shows terms { line with incoming := incoming } pair := by
  cases shows with
  | opening unbound =>
    rw [phase] at unbound
    cases unbound
  | opened phase' own server inward client =>
    rw [phase] at phase'
    cases phase'
    refine .opened goesOn (kind.trans own) (server.trans session.symm) ?_ client
    rw [inward, leftover]

theorem matched_incoming {own : IncomingEvent} (shows : line.Shows terms pair)
    (taken : line.server terms own = some next) : line.Matched terms (.server own) pair next := by
  obtain ⟨incoming, pipe, rfl, moves, pipes⟩ := server_some taken
  have closed : ∀ {buffer : Bytes}, line.incoming.phase = .handshake buffer →
      pair = (terms.pairing 0).start := by
    intro buffer phase
    cases shows with
    | opening unbound fresh => exact fresh
    | opened phase' =>
      rw [phase] at phase'
      cases phase'
  cases moves with
  | arrives phase => exact matched_still (.opening rfl (closed phase))
  | givesUp phase => exact matched_still (.opening rfl (closed phase))
  | binds | refuses => exact pipes.elim
  | acts phase allowed moved =>
    obtain ⟨lets, carried⟩ := pipes _ phase
    exact matched_server shows phase lets carried allowed moved
  | announces phase =>
    cases pipes
    exact matched_still (shows_callback shows phase rfl rfl rfl rfl)
  | notifies phase due session =>
    cases pipes
    exact matched_still (shows_callback shows phase rfl rfl session rfl)
  | calls phase =>
    cases pipes
    exact matched_still (shows_callback shows phase rfl rfl rfl rfl)

theorem matched_abort (shows : line.Shows terms pair) :
    line.Matched terms .abort pair { line with task := line.task.abort terms.settings } := by
  cases shows with
  | opening unbound fresh => exact matched_still (.opening unbound fresh)
  | opened phase kind server inward client =>
    cases task : line.task with
    | finished =>
      rw [task] at client
      exact matched_still (.opened phase kind server inward client)
    | binding buffer =>
      rw [task] at client
      obtain ⟨pair', enough, ran, moved, still, quiet, conveys⟩ := giveUp_moves client.1
      exact ⟨_, pair', enough, .opened phase kind (still.trans server) (quiet.trans inward) moved,
        ran, fun _ _ => conveys⟩
    | bound leftover session =>
      rw [task] at client
      obtain ⟨rfl, ahead⟩ := client
      cases stopped : (pair.ends .client).stop terms.settings.endpoint with
      | none =>
        apply matched_still
        refine .opened phase kind server inward ⟨?_, ahead⟩
        rw [stopped]
        rfl
      | some after =>
        have nothing : Event.stop.piece <+: pair.pipe .client := List.nil_prefix
        apply matched_of_step nothing Event.noConfusion stopped rfl fun _ => True.intro
        intro pair' moving still drained wrote
        have longer : pair'.pipe .server = pair.pipe .server ++ [] := wrote
        refine .opened phase kind (still.trans server) ?_ ⟨?_, ?_⟩
        · rw [longer, List.append_nil]
          exact inward
        · rw [moving, stopped]
          rfl
        · exact drained.trans ahead

theorem matched_ask {outcome : WriteOutcome} (sound : line.Sound terms)
    (shows : line.Shows terms pair) (taken : line.ask terms outcome = some next) :
    line.Matched terms event pair next := by
  cases shows with
  | opening unbound fresh =>
    apply matched_still
    refine .opening ?_ fresh
    unfold ask at taken
    split at taken
    · split at taken
      · cases taken
      · split at taken <;> cases taken <;> exact unbound
    · cases taken
  | opened phase =>
    unfold ask at taken
    split at taken
    · rw [if_pos (sound.bound phase).2] at taken
      cases taken
    · cases taken

/-- Whatever the connection does, the pair does too. -/
theorem step_matched {event : LineEvent} (sound : line.Sound terms) (shows : line.Shows terms pair)
    (welcomed : line.welcomes event = true) (taken : line.step terms event = some next) :
    line.Matched terms event pair next := by
  cases event with
  | ask outcome => exact matched_ask sound shows taken
  | read piece => exact matched_read shows taken
  | giveUp =>
    simp only [step, giveUp] at taken
    split at taken
    · rename_i buffer task
      cases taken
      have same : Function.update line.pipe .client (line.pipe .client) = line.pipe :=
        Function.update_eq_self Side.client line.pipe
      have matched := @matched_giveUp _ line _ .giveUp shows _ task (line.pipe .client) line.asked
      rw [same] at matched
      exact matched
    · cases taken
  | abort =>
    cases taken
    exact matched_abort shows
  | client own =>
    cases bound : line.task.isBound with
    | true =>
      obtain ⟨hosted, phase, -⟩ := sound.bound_phase bound
      exact matched_client shows phase taken
    | false =>
      simp only [step, client] at taken
      split at taken
      · rename_i task
        rw [task] at bound
        cases bound
      · cases taken
  | answer verdict outcomes => exact matched_answer sound shows welcomed taken
  | endOfStream outcomes =>
    simp only [step, endOfStream] at taken
    split at taken
    · obtain ⟨incoming, stepped, rfl⟩ := Option.map_eq_some_iff.mp taken
      obtain ⟨⟨buffer, phase⟩, rfl⟩ := giveUp_some stepped
      apply matched_still
      cases shows with
      | opening unbound fresh => exact .opening rfl fresh
      | opened phase' =>
        rw [phase] at phase'
        cases phase'
    · cases taken
  | server own => exact matched_incoming shows taken

theorem start_shows (terms : Terms) : Line.start.Shows terms (terms.pairing 0).start :=
  .opening rfl rfl

end Line

/-- Wherever the response to the bind is written whole, a connection does from the bind on what a
    pair of sessions does over pipes that are large enough, and is in the state that the pair is. -/
theorem connection_refines_pair (terms : Terms) (events : List LineEvent) (line : Line)
    (reached : run (Line.step terms) Line.start events = some line)
    (welcomed : Throughout (Line.step terms) (fun line event => line.welcomes event = true)
      Line.start events) :
    ∃ moves pair enough, line.Shows terms pair ∧ ∀ capacity, enough ≤ capacity →
      run (terms.pairing capacity).step (terms.pairing capacity).start moves = some pair := by
  have simulates := @Machine.run_simulates _ _ (Line.step terms) _ _
    (fun capacity => (terms.pairing capacity).step) (fun line event => line.welcomes event = true)
    (fun line pair => line.Sound terms ∧ line.Shows terms pair) ?_ _ _ (terms.pairing 0).start _
    ⟨Line.start_sound terms, Line.start_shows terms⟩ welcomed reached
  · obtain ⟨moves, pair, enough, ⟨-, shows⟩, ran⟩ := simulates
    exact ⟨moves, pair, enough, shows, ran⟩
  · intro line event next pair before welcomed taken
    obtain ⟨moves, pair', enough, shows, ran, -⟩ :=
      Line.step_matched before.1 before.2 welcomed taken
    exact ⟨moves, pair', enough, ⟨Line.step_sound before.1 taken, shows⟩, ran⟩

def deliveredWithResponse : List LineEvent :=
  let frame := (emptyDeliverSm 1).encode
  accepting ++
    ([.server .announce, .server (.act (.call (.deliverSm (emptyDeliverSm 0)))),
      .server (.act (.enqueue 0)), .server (.act .check), .server (.act .take),
      .server (.act .register), .server (.act (.write (.accepted frame.length))),
      .read ((bareBind.accept Str.empty none).encode ++ frame), .client (.receive (frame.take 20)),
      .client .extract, .client (.receive (frame.drop 20)), .client .extract] : List LineEvent)

def SessionTask.received : SessionTask → List Bytes
  | .bound _ session => session.received
  | _ => []

theorem deliver_sm_behind_the_response_refines :
    ∃ (line : Line) (moves : List (Side × Event)) (pair : Pair) (enough : Nat),
      line.task.received = [(emptyDeliverSm 1).encode] ∧
      line.Shows receiverTerms pair ∧ ∀ capacity, enough ≤ capacity →
        run (receiverTerms.pairing capacity).step (receiverTerms.pairing capacity).start moves =
          some pair := by
  have ran : (run (Line.step receiverTerms) Line.start deliveredWithResponse).map
      (fun line => line.task.received) = some [(emptyDeliverSm 1).encode] := by decide +kernel
  obtain ⟨line, reached, received⟩ := Option.map_eq_some_iff.mp ran
  have welcomed : Throughout (Line.step receiverTerms)
      (fun line event => line.welcomes event = true) Line.start deliveredWithResponse := by
    decide +kernel
  obtain ⟨moves, pair, enough, shows, runs⟩ :=
    connection_refines_pair receiverTerms deliveredWithResponse line reached welcomed
  exact ⟨line, moves, pair, enough, received, shows, runs⟩

def SessionTask.session : SessionTask → Option Session
  | .bound _ session => some session
  | _ => none

def Phase.session : Phase → Option Session
  | .bound hosted => some hosted.watch.session
  | _ => none

/-- At a step of the connection a session stays as it is, begins, or makes a step of its own. -/
inductive Proceeds (endpoint : Endpoint) : Option Session → Option Session → Prop
  | stays (session : Option Session) : Proceeds endpoint session session
  | begins : Proceeds endpoint none (some endpoint.start)
  | steps {session after : Session} {own : Event}
      (stepped : session.step endpoint own = some after) :
      Proceeds endpoint (some session) (some after)

theorem Proceeds.spawns {endpoint : Endpoint} {before after : Option Session}
    (proceeds : Proceeds endpoint before after)
    (linking : ∀ session ∈ before, session.Linking endpoint) :
    endpoint.requests (after.elim [] Session.received) =
        endpoint.requests (before.elim [] Session.received) ++
          (after.elim [] Session.handlers).drop (before.elim [] Session.handlers).length ∧
      ∀ session ∈ after, session.Linking endpoint := by
  cases proceeds with
  | stays => exact ⟨by rw [List.drop_length, List.append_nil], linking⟩
  | begins =>
    refine ⟨rfl, ?_⟩
    rintro session ⟨⟩
    exact Session.start_linking endpoint
  | steps stepped =>
    obtain ⟨spawns, links⟩ := Session.step_spawns (linking _ rfl) stepped
    refine ⟨spawns, ?_⟩
    rintro session ⟨⟩
    exact links

namespace Line

variable {terms : Terms} {line next : Line} {pair : Pair}

def issued (line : Line) : Side → Nat
  | .client =>
    match line.task with
    | .bound _ session => session.issued
    | _ => 0
  | .server =>
    match line.incoming.phase with
    | .bound hosted => hosted.watch.session.issued
    | _ => 0

def session (line : Line) : Side → Option Session
  | .client => line.task.session
  | .server => line.incoming.phase.session

def handlers (line : Line) (side : Side) : List (Nat × Request) :=
  (line.session side).elim [] Session.handlers

def received (line : Line) (side : Side) : List Bytes :=
  (line.session side).elim [] Session.received

def spawned (terms : Terms) (side : Side) (events : List LineEvent) : List (Nat × Request) :=
  Machine.gained (Line.step terms) (fun line => line.handlers side) Line.start events

theorem Shows.session (shows : line.Shows terms pair) (sound : line.Sound terms) (side : Side) :
    line.session side = some (pair.ends side) ∨
      line.session side = none ∧ (pair.ends side).issued = 0 ∧ (pair.ends side).received = [] := by
  cases shows with
  | opening unbound fresh =>
    subst fresh
    refine .inr ⟨?_, rfl, rfl⟩
    cases side with
    | client =>
      unfold Line.session
      cases task : line.task with
      | bound leftover session =>
        obtain ⟨hosted, phase, -⟩ := sound.bound_phase (by rw [task]; rfl)
        rw [phase] at unbound
        cases unbound
      | _ => rfl
    | server =>
      unfold Line.session
      cases phase : line.incoming.phase with
      | bound hosted =>
        rw [phase] at unbound
        cases unbound
      | _ => rfl
  | opened phase kind server inward client =>
    unfold Line.session
    cases side with
    | client =>
      cases task : line.task with
      | binding buffer =>
        rw [task] at client
        rw [client.1]
        exact .inr ⟨rfl, rfl, rfl⟩
      | bound leftover session =>
        rw [task] at client
        rw [client.1]
        exact .inl rfl
      | finished =>
        rw [task] at client
        have same : pair.ends .client = terms.settings.givenUp := client
        rw [same]
        exact .inr ⟨rfl, rfl, rfl⟩
    | server =>
      dsimp only
      rw [phase, server]
      exact .inl rfl

theorem issued_eq (line : Line) (side : Side) :
    line.issued side = (line.session side).elim 0 Session.issued := by
  unfold issued session
  cases side with
  | client => cases line.task <;> rfl
  | server => cases line.incoming.phase <;> rfl

theorem Shows.issued (shows : line.Shows terms pair) (sound : line.Sound terms) (side : Side) :
    (pair.ends side).issued = line.issued side := by
  rw [issued_eq]
  rcases shows.session sound side with bound | ⟨unbound, none, -⟩
  · rw [bound]
    rfl
  · rw [unbound, none]
    rfl

theorem Shows.received (shows : line.Shows terms pair) (sound : line.Sound terms) (side : Side) :
    (pair.ends side).received = line.received side := by
  unfold Line.received
  rcases shows.session sound side with bound | ⟨unbound, -, none⟩
  · rw [bound]
    rfl
  · rw [unbound, none]
    rfl

theorem task_proceeds {event : LineEvent} (taken : line.step terms event = some next) :
    Proceeds terms.settings.endpoint line.task.session next.task.session := by
  cases event with
  | ask outcome =>
    simp only [step, ask] at taken
    split at taken
    · rename_i buffer task
      split at taken
      · cases taken
      · split at taken
        · cases taken
          rw [task]
          exact .stays _
        · cases taken
          exact .stays _
    · cases taken
  | read piece =>
    simp only [step, read] at taken
    split at taken
    · rename_i buffer task
      rw [task]
      split at taken
      · cases taken
        dsimp only
        cases waits : SessionTask.handshake terms.settings (buffer ++ piece) with
        | bound leftover session =>
          obtain ⟨-, -, -, rfl⟩ := SessionTask.handshake_bound waits
          exact .begins
        | _ => exact .stays _
      · cases taken
    · cases taken
  | giveUp =>
    simp only [step, giveUp] at taken
    split at taken
    · rename_i buffer task
      cases taken
      rw [task]
      exact .stays _
    · cases taken
  | abort =>
    cases taken
    dsimp only
    cases line.task with
    | bound leftover session =>
      change Proceeds _ (some session)
        (some ((session.stop terms.settings.endpoint).getD session))
      cases stopped : session.stop terms.settings.endpoint with
      | none => exact .stays _
      | some after =>
        have stepped : session.step terms.settings.endpoint .stop = some after := stopped
        exact .steps stepped
    | _ => exact .stays _
  | client own =>
    simp only [step, client] at taken
    split at taken
    · rename_i leftover session task
      split at taken
      · obtain ⟨after, stepped, rfl⟩ := Option.map_eq_some_iff.mp taken
        rw [task]
        exact .steps stepped
      · cases taken
    · cases taken
  | answer verdict outcomes =>
    simp only [step, answer] at taken
    split at taken
    · obtain ⟨incoming, -, rfl⟩ := Option.map_eq_some_iff.mp taken
      exact .stays _
    · cases taken
  | endOfStream outcomes =>
    simp only [step, endOfStream] at taken
    split at taken
    · obtain ⟨incoming, -, rfl⟩ := Option.map_eq_some_iff.mp taken
      exact .stays _
    · cases taken
  | server own =>
    obtain ⟨incoming, pipe, rfl, -, -⟩ := server_some taken
    exact .stays _

theorem phase_proceeds (sound : line.Sound terms) {event : LineEvent}
    (taken : line.step terms event = some next) :
    Proceeds ((terms.pairing 0).endpoint .server) line.incoming.phase.session
      next.incoming.phase.session := by
  cases event with
  | answer verdict outcomes =>
    obtain ⟨bytes, incoming, phase, -, rfl, replied⟩ := answer_replied sound taken
    rw [phase]
    cases replied with
    | accepts => exact .begins
    | rejects | undecoded => exact .stays _
  | endOfStream outcomes =>
    simp only [step, endOfStream] at taken
    split at taken
    · obtain ⟨incoming, stepped, rfl⟩ := Option.map_eq_some_iff.mp taken
      obtain ⟨⟨buffer, phase⟩, rfl⟩ := giveUp_some stepped
      rw [phase]
      exact .stays _
    · cases taken
  | server own =>
    obtain ⟨incoming, pipe, rfl, moves, pipes⟩ := server_some taken
    cases moves with
    | binds | refuses => exact pipes.elim
    | acts phase allowed moved =>
      rw [(sound.bound phase).1] at moved
      rw [phase]
      exact .steps moved
    | @notifies hosted number later watch phase due same =>
      rw [phase]
      change Proceeds _ (some hosted.watch.session) (some watch.session)
      rw [same]
      exact .stays _
    | arrives phase | givesUp phase | announces phase | calls phase =>
      rw [phase]
      exact .stays _
  | ask outcome =>
    simp only [step, ask] at taken
    repeat' split at taken
    all_goals cases taken
    all_goals exact .stays _
  | read piece =>
    simp only [step, read] at taken
    repeat' split at taken
    all_goals cases taken
    all_goals exact .stays _
  | giveUp =>
    simp only [step, giveUp] at taken
    split at taken
    · cases taken
      exact .stays _
    · cases taken
  | abort =>
    cases taken
    exact .stays _
  | client own =>
    simp only [step, client] at taken
    split at taken
    · split at taken
      · obtain ⟨after, stepped, rfl⟩ := Option.map_eq_some_iff.mp taken
        exact .stays _
      · cases taken
    · cases taken

theorem run_spawned {events : List LineEvent} (side : Side)
    (reached : run (Line.step terms) Line.start events = some line) :
    ((terms.pairing 0).endpoint side).requests (line.received side) =
      Line.spawned terms side events := by
  have moved : ∀ (line : Line) (event : LineEvent) (next : Line), line.Sound terms ∧
        (∀ session ∈ line.session side, session.Linking ((terms.pairing 0).endpoint side)) →
      line.step terms event = some next →
      ((terms.pairing 0).endpoint side).requests (next.received side) =
          ((terms.pairing 0).endpoint side).requests (line.received side) ++
            (next.handlers side).drop (line.handlers side).length ∧
        ∀ session ∈ next.session side, session.Linking ((terms.pairing 0).endpoint side) := by
    rintro line event next ⟨sound, linking⟩ taken
    have proceeds : Proceeds ((terms.pairing 0).endpoint side) (line.session side)
        (next.session side) := by
      cases side with
      | client => exact task_proceeds taken
      | server => exact phase_proceeds sound taken
    exact proceeds.spawns linking
  have initially : Line.start.Sound terms ∧ ∀ session ∈ Line.start.session side,
      session.Linking ((terms.pairing 0).endpoint side) := by
    refine ⟨Line.start_sound terms, ?_⟩
    cases side <;> exact fun _ member => by cases member
  have gained := Machine.run_gained
    (fun line event next before taken =>
      ⟨step_sound before.1 taken, (moved line event next before taken).2⟩)
    (fun line event next before taken => (moved line event next before taken).1) initially reached
  cases side <;> exact gained

theorem welcomes_of_carries {event : LineEvent} (carries : line.carries event = true) :
    line.welcomes event = true := by
  cases event with
  | client own => rfl
  | server own => rfl
  | _ => exact carries

end Line

/-- From the first octet behind the bind, what the client reads with the bind response included,
    each end is handed what the application of the other has sent, in its order and once. -/
theorem connection_delivers (terms : Terms) (events : List LineEvent) (line : Line)
    (reached : run (Line.step terms) Line.start events = some line)
    (carried : Throughout (Line.step terms) (fun line event => line.carries event = true)
      Line.start events)
    (sensible : ∀ event ∈ events, event.Sensible) (few : ∀ side, line.issued side < 2 ^ 32) :
    ∃ pair, line.Shows terms pair ∧
      ∀ side, pair.Delivers (terms.pairing 0) side (Line.spawned terms side events) := by
  have met := Machine.throughout_and carried
    (Machine.throughout_of_forall sensible Line.start)
  have simulates := @Machine.run_simulates _ _ (Line.step terms) _ _
    (fun capacity => (terms.pairing capacity).step)
    (fun line event => line.carries event = true ∧ event.Sensible)
    (fun line pair => line.Sound terms ∧ line.Shows terms pair ∧
      Pairing.Conveys (terms.pairing 0) pair) ?_ _ _ (terms.pairing 0).start _
    ⟨Line.start_sound terms, Line.start_shows terms,
      Pairing.start_conveys (terms.pairing 0)⟩ met reached
  · obtain ⟨moves, pair, enough, ⟨sound, shows, conveys⟩, ran⟩ := simulates
    refine ⟨pair, shows, ?_⟩
    intro side
    rw [← Line.run_spawned side reached, ← shows.received sound side]
    refine conveys.delivers ?_ side
    intro side
    obtain ⟨steps, alone⟩ := Pairing.run_ends (ran enough (Nat.le_refl _)) side
    have small : (pair.ends side).issued < 2 ^ 32 := by
      rw [shows.issued sound side]
      exact few side
    exact (Session.run_ledger_sound alone small.le).2
  · intro line event next pair before met taken
    obtain ⟨moves, pair', enough, shows, ran, conveys⟩ :=
      Line.step_matched before.1 before.2.1 (Line.welcomes_of_carries met.1) taken
    exact ⟨moves, pair', enough,
      ⟨Line.step_sound before.1 taken, shows, conveys met.1 met.2 before.2.2⟩, ran⟩

theorem deliver_sm_behind_the_response_delivered :
    ∃ (line : Line) (pair : Pair), line.task.received = [(emptyDeliverSm 1).encode] ∧
      line.Shows receiverTerms pair ∧
      ∀ side, pair.Delivers (receiverTerms.pairing 0) side
        (Line.spawned receiverTerms side deliveredWithResponse) := by
  have ran : (run (Line.step receiverTerms) Line.start deliveredWithResponse).map
      (fun line => (line.task.received, line.issued .client, line.issued .server)) =
      some ([(emptyDeliverSm 1).encode], 0, 1) := by decide +kernel
  obtain ⟨line, reached, facts⟩ := Option.map_eq_some_iff.mp ran
  simp only [Prod.mk.injEq] at facts
  have few : ∀ side, line.issued side < 2 ^ 32 := by
    intro side
    cases side with
    | client =>
      rw [facts.2.1]
      decide
    | server =>
      rw [facts.2.2]
      decide
  have carried : Throughout (Line.step receiverTerms)
      (fun line event => line.carries event = true) Line.start deliveredWithResponse := by
    decide +kernel
  have sensible : ∀ event ∈ deliveredWithResponse, event.Sensible := by
    unfold deliveredWithResponse accepting
    simp only [List.cons_append, List.nil_append, List.forall_mem_cons, LineEvent.Sensible,
      Event.Sensible, true_and]
    refine ⟨⟨rfl, ⟨?_, ?_, ?_, ?_, ?_, rfl⟩, ?_⟩, ?_⟩
    · decide
    · decide
    · decide
    · decide
    · decide
    · exact fun _ member => by cases member
    · simp
  obtain ⟨pair, shows, delivers⟩ :=
    connection_delivers receiverTerms deliveredWithResponse line reached carried sensible few
  exact ⟨line, pair, facts.1, shows, delivers⟩

end Smpp34
