import Smpp34.Python.Client
import Smpp34.Session.Client
import Smpp34.Session.Pair

namespace Smpp34

open Octets Utf8
open Machine (run Throughout)

namespace Python

def mapError (code : UInt32) : SmppError :=
  (SmppError.all.find? fun error => error.code = code).getD .ESME_RSYSERR

/-- What `Server.next()` yields. A session goes by its connection, and a submit_sm by its place in
    the stream. -/
inductive ServerEvent where
  | esmeBound (session : Nat)
  | submitSm (session place : Nat) (req : SubmitSm)
  | unbound (session : Nat)
deriving DecidableEq

namespace ServerEvent

def session : ServerEvent → Nat
  | esmeBound session | submitSm session _ _ | unbound session => session

def opens : ServerEvent → Bool
  | esmeBound _ => true
  | _ => false

end ServerEvent

inductive Decision where
  | accept (messageId : Str)
  | reject (commandStatus : UInt32)
  | drop

/-- A message_id that is too long makes `accept` panic, which drops the responder. -/
def Decision.resp (req : SubmitSm) : Decision → SubmitSmResp
  | accept messageId => (req.accept messageId).getD (req.reject .ESME_RSYSERR)
  | reject commandStatus => req.reject (mapError commandStatus)
  | drop => req.reject .ESME_RSYSERR

structure Server where
  connections : List Incoming
  events : Mailbox ServerEvent
  yielded : List ServerEvent
  answers : List ((Nat × Nat) × SubmitSmResp)

inductive ServerStep where
  | accept
  | serve (session : Nat) (event : IncomingEvent)
  | next
  | settle (position : Nat) (decision : Decision)

def defaultError : Request → SmppError
  | .cancelSm _ => .ESME_RCANCELFAIL
  | .querySm _ => .ESME_RQUERYFAIL
  | .replaceSm _ => .ESME_RREPLACEFAIL
  | _ => .ESME_RSYSERR

end Python

namespace Incoming

def announced (incoming : Incoming) : Bool :=
  match incoming.phase with
  | .bound hosted => hosted.announced
  | _ => false

def ended (incoming : Incoming) : Bool :=
  match incoming.phase with
  | .bound hosted => hosted.watch.session.reader.ended
  | _ => false

def spawnedAt (incoming : Incoming) (task : Nat) : Option (Nat × Request) :=
  match incoming.phase with
  | .bound hosted => hosted.spawned[task]?
  | _ => none

def handlerAt (incoming : Incoming) (handler : Nat) : Option (Nat × Request) :=
  match incoming.phase with
  | .bound hosted => hosted.watch.session.handlers[handler]?
  | _ => none

def unbinding (incoming : Incoming) : Option Unbind :=
  match incoming.phase with
  | .bound hosted =>
    match hosted.watch.session.reader with
    | .unbinding _ pdu _ => some pdu
    | _ => none
  | _ => none

end Incoming

namespace Python

namespace Server

def start (inboundCapacity : Nat) : Server := ⟨[], .new inboundCapacity, [], []⟩

def posted (server : Server) : List ServerEvent := server.yielded ++ server.events.queue

def onEsmeBound (server : Server) (session : Nat) : Server :=
  { server with events := server.events.offer (.esmeBound session) }

def onSubmitSm (server : Server) (session place : Nat) (req : SubmitSm) : Server :=
  match server.events.trySend (.submitSm session place req) with
  | some events => { server with events := events }
  | none =>
    { server with
      answers := server.answers ++ [((session, place), req.reject .ESME_RMSGQFUL)] }

/-- `ServerForwarder::on_esme_unbound`, which does not look at the outcome either. -/
def onEsmeUnbound (server : Server) (session : Nat) : Server :=
  { server with events := server.events.offer (.unbound session) }

/-- The forwarder hears of what a connection's step calls its listener with. -/
def forward (server : Server) (session : Nat) (incoming : Incoming) : IncomingEvent → Server
  | .announce => server.onEsmeBound session
  | .act .close => server.onEsmeUnbound session
  | .callback task =>
    match incoming.spawnedAt task with
    | some (place, .submitSm req) => server.onSubmitSm session place req
    | _ => server
  | _ => server

/-- What a handler queues: the forwarder answers a submit_sm, and the listener's defaults reject the
    rest. -/
def responds (server : Server) (session : Nat) (debt : Nat × Request) (resp : Response) : Bool :=
  match debt.2 with
  | .submitSm _ =>
    server.answers.any fun answer => answer.1 = (session, debt.1) && resp = .submitSm answer.2
  | request => answer request (.reject (defaultError request)) = some resp

/-- Every bind is accepted, and an unbind by default. -/
def allows (systemId : Str) (server : Server) (session : Nat) (incoming : Incoming) :
    IncomingEvent → Bool
  | .bind verdict _ =>
    verdict = .accept
      { AcceptArgs.empty with systemId := systemId, scInterfaceVersion := some 0x34 }
  | .act (.respond handler resp) =>
    (incoming.handlerAt handler).all fun debt => server.responds session debt resp
  | .act (.unbound resp) => incoming.unbinding.all fun pdu => resp = pdu.accept
  | _ => true

def serve (timers : ServerTimers) (systemId : Str) (server : Server) (session : Nat)
    (event : IncomingEvent) : Option Server :=
  match server.connections[session]? with
  | some incoming =>
    if server.allows systemId session incoming event then
      (incoming.step timers event).map fun next =>
        { server with connections := server.connections.set session next }.forward session
          incoming event
    else none
  | none => none

/-- The channel is not closed: the server object has the forwarder, and with it a sending end. -/
def next (server : Server) : Option Server :=
  match server.events.recv with
  | some (event, events) =>
    some { server with events := events, yielded := server.yielded ++ [event] }
  | none => none

/-- The responder is taken by the first decision; a second one raises an error. -/
def settle (server : Server) (position : Nat) (decision : Decision) : Option Server :=
  match server.yielded[position]? with
  | some (.submitSm session place req) =>
    if server.answers.any fun answer => answer.1 = (session, place) then some server
    else
      some
        { server with answers := server.answers ++ [((session, place), decision.resp req)] }
  | _ => none

def step (timers : ServerTimers) (systemId : Str) (server : Server) : ServerStep → Option Server
  | .accept => some { server with connections := server.connections ++ [Incoming.start] }
  | .serve session event => server.serve timers systemId session event
  | .next => server.next
  | .settle position decision => server.settle position decision

def notifies (server : Server) : ServerStep → Bool
  | .serve _ .announce | .serve _ (.act .close) => server.events.HasRoom
  | _ => true

end Server

end Python

namespace Incoming

variable {timers : ServerTimers} {incoming next : Incoming}

inductive Tells (incoming next : Incoming) : IncomingEvent → Prop
  | bound (silent : incoming.announced = false) (announced : next.announced = true)
      (ended : next.ended = incoming.ended) : Tells incoming next .announce
  | unbound (announced : incoming.announced = true) (still : next.announced = true)
      (running : incoming.ended = false) (ended : next.ended = true) :
      Tells incoming next (.act .close)
  | asks {task : Nat} (announced : incoming.announced = true) (still : next.announced = true)
      (ended : next.ended = incoming.ended) : Tells incoming next (.callback task)
  | nothing {event : IncomingEvent}
      (other : event ≠ .announce ∧ event ≠ .act .close ∧ ∀ task, event ≠ .callback task)
      (announced : next.announced = incoming.announced) (ended : next.ended = incoming.ended) :
      Tells incoming next event

theorem bindWith_silent (timers : ServerTimers) (incoming : Incoming) (kind : BindKind)
    (header : CommandHeader) (pdu leftover : Bytes) (verdict : Verdict) (written : Bool) :
    (incoming.bindWith timers kind header pdu leftover verdict written).announced = false ∧
      (incoming.bindWith timers kind header pdu leftover verdict written).ended = false := by
  unfold bindWith
  split
  · dsimp only
    split <;> exact ⟨rfl, rfl⟩
  · exact ⟨rfl, rfl⟩

theorem bindFirst_silent (timers : ServerTimers) (incoming : Incoming) (pdu leftover : Bytes)
    (verdict : Verdict) (written : Bool) :
    (incoming.bindFirst timers pdu leftover verdict written).announced = false ∧
      (incoming.bindFirst timers pdu leftover verdict written).ended = false := by
  unfold bindFirst
  split
  · exact ⟨rfl, rfl⟩
  · rename_i header framed
    split
    · exact bindWith_silent timers incoming .receiver header pdu leftover verdict written
    · split
      · exact bindWith_silent timers incoming .transmitter header pdu leftover verdict written
      · split
        · exact bindWith_silent timers incoming .transceiver header pdu leftover verdict written
        · exact ⟨rfl, rfl⟩

theorem handshake_silent {buffer : Bytes} (phase : incoming.phase = .handshake buffer) :
    incoming.announced = false ∧ incoming.ended = false := by
  unfold announced ended
  rw [phase]
  exact ⟨rfl, rfl⟩

theorem bound_flags {hosted : Hosted} (phase : incoming.phase = .bound hosted) :
    incoming.announced = hosted.announced ∧
      incoming.ended = hosted.watch.session.reader.ended := by
  unfold announced ended
  rw [phase]
  exact ⟨rfl, rfl⟩

theorem step_tells {event : IncomingEvent} (lawful : incoming.Lawful timers)
    (taken : incoming.step timers event = some next) : incoming.Tells next event := by
  cases step_moves taken with
  | arrives phase =>
    have silent := handshake_silent phase
    exact .nothing (by simp) silent.1.symm silent.2.symm
  | givesUp phase =>
    have silent := handshake_silent phase
    exact .nothing (by simp) silent.1.symm silent.2.symm
  | @binds buffer size verdict written phase =>
    have silent := handshake_silent phase
    have still := bindFirst_silent timers incoming (buffer.take size) (buffer.drop size) verdict
      written
    exact .nothing (by simp) (still.1.trans silent.1.symm) (still.2.trans silent.2.symm)
  | refuses phase =>
    have silent := handshake_silent phase
    exact .nothing (by simp) silent.1.symm silent.2.symm
  | announces phase silent =>
    obtain ⟨announced, ended⟩ := bound_flags phase
    exact .bound (announced.trans silent) rfl ended.symm
  | @acts hosted event session phase allowed moved =>
    obtain ⟨announced, ended⟩ := bound_flags phase
    by_cases closes : event = .close
    · subst closes
      cases Session.step_reader rfl moved with
      | closes stage =>
        -- the read loop is entered behind `on_esme_bound`
        have bound : hosted.announced = true := allowed
        refine .unbound (announced.trans bound) bound ?_ rfl
        rw [ended, stage]
        rfl
    · refine .nothing (by simp [closes]) announced.symm ?_
      rw [ended]
      exact Session.step_ended closes (fun _ => rfl) moved
  | notifies phase due same =>
    obtain ⟨announced, ended⟩ := bound_flags phase
    refine .nothing (by simp) announced.symm (Eq.trans ?_ ended.symm)
    exact congrArg (fun session : Session => session.reader.ended) same
  | calls phase found =>
    obtain ⟨hosts, -⟩ := lawful_bound lawful phase
    obtain ⟨announced, ended⟩ := bound_flags phase
    have member := List.mem_of_getElem? found
    have bound := hosts.announced_of fun idle => by simp [idle.1] at member
    exact .asks (announced.trans bound) bound ended.symm

end Incoming

namespace Python

namespace Server

variable {timers : ServerTimers} {systemId : Str} {server next : Server}

inductive Posts (session : Nat) (incoming next : Incoming) : List ServerEvent → Prop
  | bound (silent : incoming.announced = false) (announced : next.announced = true)
      (ended : next.ended = incoming.ended) : Posts session incoming next [.esmeBound session]
  | unbound (announced : incoming.announced = true) (still : next.announced = true)
      (running : incoming.ended = false) (ended : next.ended = true) :
      Posts session incoming next [.unbound session]
  | submits {place : Nat} {req : SubmitSm} (announced : incoming.announced = true)
      (still : next.announced = true) (ended : next.ended = incoming.ended) :
      Posts session incoming next [.submitSm session place req]
  | nothing (announced : next.announced = incoming.announced)
      (ended : next.ended = incoming.ended) : Posts session incoming next []

inductive Moves (timers : ServerTimers) (server next : Server) : Prop
  | accepts (connections : next.connections = server.connections ++ [Incoming.start])
      (posted : next.posted = server.posted)
  | serves {session : Nat} {incoming later : Incoming} {events : List ServerEvent}
      (found : server.connections[session]? = some incoming) (lawful : later.Lawful timers)
      (posts : Posts session incoming later events)
      (connections : next.connections = server.connections.set session later)
      (posted : next.posted = server.posted ++ events)
  | keeps (connections : next.connections = server.connections)
      (posted : next.posted = server.posted)

theorem forward_posts (server : Server) (session : Nat) {incoming later : Incoming}
    {event : IncomingEvent} (told : incoming.Tells later event)
    (notifies : server.notifies (.serve session event) = true) :
    ∃ events, Posts session incoming later events ∧
      (server.forward session incoming event).connections = server.connections ∧
      (server.forward session incoming event).posted = server.posted ++ events := by
  cases told with
  | bound silent announced ended =>
    refine ⟨_, .bound silent announced ended, rfl, ?_⟩
    change server.yielded ++ (server.events.offer _).queue = _
    rw [Mailbox.offer_queue (of_decide_eq_true notifies), posted, List.append_assoc]
  | unbound announced still running ended =>
    refine ⟨_, .unbound announced still running ended, rfl, ?_⟩
    change server.yielded ++ (server.events.offer _).queue = _
    rw [Mailbox.offer_queue (of_decide_eq_true notifies), posted, List.append_assoc]
  | @asks task announced still ended =>
    have quiet : Posts session incoming later [] := .nothing (still.trans announced.symm) ended
    simp only [forward]
    split
    · rename_i place req spawned
      unfold onSubmitSm
      split
      · rename_i events sent
        refine ⟨[.submitSm session place req], .submits announced still ended, rfl, ?_⟩
        unfold posted
        rw [Mailbox.trySend_some sent, List.append_assoc]
      · exact ⟨_, quiet, rfl, (List.append_nil _).symm⟩
    · exact ⟨_, quiet, rfl, (List.append_nil _).symm⟩
  | nothing other announced ended =>
    have same : server.forward session incoming event = server := by
      unfold forward
      split
      · exact absurd rfl other.1
      · exact absurd rfl other.2.1
      · exact absurd rfl (other.2.2 _)
      · rfl
    refine ⟨_, .nothing announced ended, ?_⟩
    rw [same, List.append_nil]
    exact ⟨rfl, rfl⟩

theorem step_moves {event : ServerStep}
    (lawful : ∀ incoming ∈ server.connections, incoming.Lawful timers)
    (notifies : server.notifies event = true)
    (taken : server.step timers systemId event = some next) : Moves timers server next := by
  cases event with
  | accept =>
    cases taken
    exact .accepts rfl rfl
  | serve session event =>
    simp only [step, serve] at taken
    split at taken
    · rename_i incoming found
      split at taken
      · obtain ⟨later, went, rfl⟩ := Option.map_eq_some_iff.mp taken
        have before := lawful incoming (List.mem_of_getElem? found)
        have told := Incoming.step_tells before went
        obtain ⟨events, posts, connections, posted⟩ := forward_posts
          { server with connections := server.connections.set session later } session told notifies
        exact .serves found (Incoming.step_lawful before went) posts connections posted
      · cases taken
    · cases taken
  | next =>
    simp only [step, Server.next] at taken
    split at taken
    · rename_i received
      cases taken
      refine .keeps rfl ?_
      unfold posted
      rw [Mailbox.recv_some received, List.append_assoc]
      rfl
    · cases taken
  | settle position decision =>
    simp only [step, settle] at taken
    split at taken
    · split at taken
      · cases taken
        exact .keeps rfl rfl
      · cases taken
        exact .keeps rfl rfl
    · cases taken

def Ordered (events : List ServerEvent) : Prop :=
  ∀ before event after, events = before ++ event :: after → event.opens = false →
    .esmeBound event.session ∈ before

theorem Ordered.concat {events : List ServerEvent} {last : ServerEvent} (ordered : Ordered events)
    (opened : last.opens = false → .esmeBound last.session ∈ events) :
    Ordered (events ++ [last]) := by
  intro before event after split
  rcases List.eq_nil_or_concat after with rfl | ⟨rest, final, rfl⟩
  · obtain ⟨rfl, same⟩ := List.append_inj' split rfl
    cases same
    exact opened
  · have longer : events ++ [last] = (before ++ event :: rest) ++ [final] := by
      rw [split, List.concat_eq_append, List.append_assoc]
      rfl
    exact ordered before event rest (List.append_inj' longer rfl).1

theorem Ordered.front {events later : List ServerEvent} (ordered : Ordered (events ++ later)) :
    Ordered events := by
  intro before event after split
  refine ordered before event (after ++ later) ?_
  rw [split, List.append_assoc]
  rfl

/-- The queue has heard of every session: that it is bound and, once, that it has ended. -/
structure Told (timers : ServerTimers) (server : Server) : Prop where
  lawful : ∀ incoming ∈ server.connections, incoming.Lawful timers
  known : ∀ event ∈ server.posted, event.session < server.connections.length
  bound : ∀ session incoming, server.connections[session]? = some incoming →
    incoming.announced = true → .esmeBound session ∈ server.posted
  once : ∀ session incoming, server.connections[session]? = some incoming →
    server.posted.count (.unbound session) = if incoming.ended then 1 else 0
  ordered : Ordered server.posted

theorem Told.accepts (told : server.Told timers)
    (connections : next.connections = server.connections ++ [Incoming.start])
    (posted : next.posted = server.posted) : next.Told timers := by
  have cases : ∀ {session : Nat} {incoming : Incoming},
      next.connections[session]? = some incoming →
      server.connections[session]? = some incoming ∨
        session = server.connections.length ∧ incoming = Incoming.start := by
    intro session incoming found
    rw [connections] at found
    rcases Nat.lt_or_ge session server.connections.length with old | new
    · rw [List.getElem?_append_left old] at found
      exact .inl found
    · rw [List.getElem?_append_right new, List.getElem?_singleton] at found
      split at found
      · cases found
        exact .inr ⟨by omega, rfl⟩
      · cases found
  constructor
  · intro incoming member
    rw [connections] at member
    rcases List.mem_append.mp member with old | new
    · exact told.lawful incoming old
    · rw [List.mem_singleton.mp new]
      exact Incoming.start_lawful timers
  · intro event member
    rw [posted] at member
    rw [connections, List.length_append]
    exact Nat.lt_succ_of_lt (told.known event member)
  · intro session incoming found announced
    rw [posted]
    rcases cases found with old | ⟨-, rfl⟩
    · exact told.bound session incoming old announced
    · cases announced
  · intro session incoming found
    rw [posted]
    rcases cases found with old | ⟨rfl, rfl⟩
    · exact told.once session incoming old
    · have unheard : .unbound server.connections.length ∉ server.posted :=
        fun member => Nat.lt_irrefl _ (told.known _ member)
      rw [List.count_eq_zero_of_not_mem unheard]
      rfl
  · rw [posted]
    exact told.ordered

section Posts

variable {session : Nat} {incoming later : Incoming} {events : List ServerEvent}
  (posts : Posts session incoming later events)

include posts

theorem Posts.session_eq : ∀ event ∈ events, event.session = session := by
  intro event member
  cases posts with
  | nothing announced ended => cases member
  | _ => rw [List.mem_singleton.mp member]; rfl

theorem Posts.bound_of (announced : later.announced = true) :
    incoming.announced = true ∨ .esmeBound session ∈ events := by
  cases posts with
  | bound silent bound ended => exact .inr List.mem_cons_self
  | unbound before still running ended => exact .inl before
  | submits before still ended => exact .inl before
  | nothing same ended => exact .inl (same.symm.trans announced)

theorem Posts.count :
    (if incoming.ended then 1 else 0) + events.count (.unbound session) =
      if later.ended then 1 else 0 := by
  cases posts with
  | bound silent bound ended => simp [ended]
  | unbound before still running ended => simp [running, ended]
  | submits before still ended => simp [ended]
  | nothing same ended => simp [ended]

theorem Posts.ordered {earlier : List ServerEvent} (ordered : Ordered earlier)
    (bound : incoming.announced = true → .esmeBound session ∈ earlier) :
    Ordered (earlier ++ events) := by
  cases posts with
  | bound silent announced ended => exact ordered.concat fun opens => by cases opens
  | unbound announced still running ended => exact ordered.concat fun _ => bound announced
  | submits announced still ended => exact ordered.concat fun _ => bound announced
  | nothing announced ended =>
    rw [List.append_nil]
    exact ordered

end Posts

theorem Told.serves (told : server.Told timers) {session : Nat} {incoming later : Incoming}
    {events : List ServerEvent} (found : server.connections[session]? = some incoming)
    (lawful : later.Lawful timers) (posts : Posts session incoming later events)
    (connections : next.connections = server.connections.set session later)
    (posted : next.posted = server.posted ++ events) : next.Told timers := by
  have inside : session < server.connections.length := (List.getElem?_eq_some_iff.mp found).1
  have cases : ∀ {other : Nat} {connection : Incoming},
      next.connections[other]? = some connection →
      other = session ∧ connection = later ∨
        other ≠ session ∧ server.connections[other]? = some connection := by
    intro other connection here
    rw [connections, List.getElem?_set] at here
    split at here
    · rename_i same
      cases here
      exact .inl ⟨same.symm, rfl⟩
    · rename_i different
      exact .inr ⟨fun same => different same.symm, here⟩
  constructor
  · intro connection member
    rw [connections] at member
    rcases List.mem_or_eq_of_mem_set member with old | rfl
    · exact told.lawful connection old
    · exact lawful
  · intro event member
    rw [connections, List.length_set]
    rw [posted] at member
    rcases List.mem_append.mp member with old | new
    · exact told.known event old
    · rw [posts.session_eq event new]
      exact inside
  · intro other connection here announced
    rw [posted]
    rcases cases here with ⟨rfl, rfl⟩ | ⟨different, old⟩
    · rcases posts.bound_of announced with before | new
      · exact List.mem_append_left _ (told.bound other incoming found before)
      · exact List.mem_append_right _ new
    · exact List.mem_append_left _ (told.bound other connection old announced)
  · intro other connection here
    rw [posted, List.count_append]
    rcases cases here with ⟨rfl, rfl⟩ | ⟨different, old⟩
    · rw [told.once other incoming found]
      exact posts.count
    · have absent : .unbound other ∉ events :=
        fun member => different (posts.session_eq _ member)
      rw [told.once other connection old, List.count_eq_zero_of_not_mem absent, Nat.add_zero]
  · rw [posted]
    exact posts.ordered told.ordered (told.bound session incoming found)

theorem step_told {event : ServerStep} (told : server.Told timers)
    (notifies : server.notifies event = true)
    (taken : server.step timers systemId event = some next) : next.Told timers := by
  cases step_moves told.lawful notifies taken with
  | accepts connections posted => exact told.accepts connections posted
  | serves found lawful posts connections posted =>
    exact told.serves found lawful posts connections posted
  | keeps connections posted =>
    constructor
    · rw [connections]
      exact told.lawful
    · rw [connections, posted]
      exact told.known
    · rw [connections, posted]
      exact told.bound
    · rw [connections, posted]
      exact told.once
    · rw [posted]
      exact told.ordered

theorem start_told (timers : ServerTimers) (inboundCapacity : Nat) :
    (start inboundCapacity).Told timers where
  lawful _ member := absurd member List.not_mem_nil
  known _ member := absurd member List.not_mem_nil
  bound _ _ found := by cases found
  once _ _ found := by cases found
  ordered before event after split := by
    have empty : before ++ event :: after = [] := split.symm
    simp at empty

/-- The queue as the application sees it: an `Esme` comes before whatever else is said of its
    session; whatever is queued is yielded in its order; and a session that has ended, and no other,
    is reported as `Unbound`, once. -/
structure Faithful (timers : ServerTimers) (systemId : Str) (server : Server) : Prop where
  ordered : ∀ before event after, server.yielded = before ++ event :: after →
    event.opens = false → .esmeBound event.session ∈ before
  drains : ∃ final, run (Server.step timers systemId) server
      (List.replicate server.events.queue.length .next) = some final ∧
    final.yielded = server.posted ∧ final.events.queue = []
  unbound : ∀ session incoming, server.connections[session]? = some incoming →
    incoming.ended = true → server.posted.count (.unbound session) = 1
  late : ∀ session, .unbound session ∈ server.yielded →
    ∃ incoming, server.connections[session]? = some incoming ∧ incoming.ended = true

theorem next_receives (timers : ServerTimers) (systemId : Str) :
    Mailbox.Receives (Server.step timers systemId) .next Server.events Server.yielded
      (fun _ => True) := by
  intro server event events _ received
  refine ⟨{ server with events := events, yielded := server.yielded ++ [event] },
    ?_, rfl, rfl, True.intro⟩
  simp only [step, Server.next, received]

theorem faithful_of (told : server.Told timers) : server.Faithful timers systemId := by
  refine ⟨told.ordered.front, ?_, ?_, ?_⟩
  · obtain ⟨final, reached, left, yielded, -⟩ := (next_receives timers systemId).drain True.intro
      (List.append_nil server.events.queue).symm
    exact ⟨final, reached, yielded, left⟩
  · intro session incoming found ended
    rw [told.once session incoming found, if_pos ended]
  · intro session yielded
    have member : .unbound session ∈ server.posted := List.mem_append_left _ yielded
    have inside : session < server.connections.length := told.known _ member
    refine ⟨server.connections[session], List.getElem?_eq_getElem inside, ?_⟩
    by_contra running
    have none := told.once session _ (List.getElem?_eq_getElem inside)
    rw [if_neg running] at none
    exact List.count_eq_zero.mp none member

theorem run_faithful {inboundCapacity : Nat} {events : List ServerStep}
    (met : Throughout (Server.step timers systemId)
      (fun server event => server.notifies event = true) (start inboundCapacity) events)
    (reached : run (Server.step timers systemId) (start inboundCapacity) events = some server) :
    server.Faithful timers systemId :=
  faithful_of <|
    Machine.run_invariant_where (fun _ _ _ before now taken => step_told before now taken)
      (start_told timers inboundCapacity) met reached

end Server

/-- The bridge loses nothing where there is room for the notifications and the client's task lives
    to make its own: then each accepted deliver_sm is yielded once and each refused one never, and
    the end of a session is yielded behind what was queued before it; and the server yields the
    `Esme` of a session first, and its `Unbound` once the session has ended. -/
theorem bridge_keeps_the_end_where_told (settings : ClientSettings) (timers : ServerTimers)
    (systemId : Str) (inboundCapacity : Nat) :
    (∀ events smsc,
      Throughout (Smsc.step settings.endpoint) (fun smsc event => smsc.notifies event = true)
        (Smsc.start settings.endpoint inboundCapacity) events →
      run (Smsc.step settings.endpoint) (Smsc.start settings.endpoint inboundCapacity) events =
        some smsc →
      smsc.Faithful settings.endpoint) ∧
    ∀ events server,
      Throughout (Server.step timers systemId) (fun server event => server.notifies event = true)
        (Server.start inboundCapacity) events →
      run (Server.step timers systemId) (Server.start inboundCapacity) events = some server →
      server.Faithful timers systemId :=
  ⟨fun _ _ met reached => Smsc.run_faithful met reached,
    fun _ _ met reached => Server.run_faithful met reached⟩

def deliveredThenEnded : List SmscEvent :=
  [.act (.receive (emptyDeliverSm 1).encode), .act .extract, .callback 0,
    .act (.respond 0 (.deliverSm (emptyDeliverSm 1).accept)), .act .extract, .act .hangUp,
    .act .close]

def bindsTo (systemId : Str) (session : Nat) : List ServerStep :=
  [.accept,
    .serve session
      (.arrive ((⟨24, CommandId.bindTransceiver.value, 0, 1⟩ : CommandHeader).encode ++
        ([101, 0, 0, 0, 0x34, 0, 0, 0] : Bytes))),
    .serve session
      (.bind
        (.accept { AcceptArgs.empty with systemId := systemId, scInterfaceVersion := some 0x34 })
        true),
    .serve session .announce]

def hangsUp (session : Nat) : List ServerStep :=
  [.serve session (.act .hangUp), .serve session (.act .close)]

theorem bridge_with_room_tells_of_the_end :
    let settings : ClientSettings := ⟨.transceiver, 60, 600⟩
    let timers : ServerTimers := ⟨60, 600⟩
    (∃ smsc, run (Smsc.step settings.endpoint) (Smsc.start settings.endpoint 2)
        (deliveredThenEnded ++ [.next, .next]) = some smsc ∧
      smsc.yielded = [.deliverSm 0 (emptyDeliverSm 1), .disconnected] ∧
      smsc.Faithful settings.endpoint) ∧
    ∃ server, run (Server.step timers Str.empty) (Server.start 2)
        (bindsTo Str.empty 0 ++ bindsTo Str.empty 1 ++ [.next, .next] ++ hangsUp 1 ++
          [.next]) = some server ∧
      server.yielded = [.esmeBound 0, .esmeBound 1, .unbound 1] ∧
      server.Faithful timers Str.empty := by
  intro settings timers
  have bridge := bridge_keeps_the_end_where_told settings timers Str.empty 2
  constructor
  · have ran : (run (Smsc.step settings.endpoint) (Smsc.start settings.endpoint 2)
        (deliveredThenEnded ++ [.next, .next])).map Smsc.yielded =
        some [.deliverSm 0 (emptyDeliverSm 1), .disconnected] := by decide +kernel
    obtain ⟨smsc, reached, yielded⟩ := Option.map_eq_some_iff.mp ran
    exact ⟨smsc, reached, yielded, bridge.1 _ smsc (by decide +kernel) reached⟩
  · have ran : (run (Server.step timers Str.empty) (Server.start 2)
        (bindsTo Str.empty 0 ++ bindsTo Str.empty 1 ++ [.next, .next] ++ hangsUp 1 ++
          [.next])).map Server.yielded =
        some [.esmeBound 0, .esmeBound 1, .unbound 1] := by decide +kernel
    obtain ⟨server, reached, yielded⟩ := Option.map_eq_some_iff.mp ran
    exact ⟨server, reached, yielded, bridge.2 _ server (by decide +kernel) reached⟩

theorem bridge_swallows_the_end :
    let settings : ClientSettings := ⟨.transceiver, 60, 600⟩
    let timers : ServerTimers := ⟨60, 600⟩
    (∃ smsc, run (Smsc.step settings.endpoint) (Smsc.start settings.endpoint 1)
        (deliveredThenEnded ++ [.next]) = some smsc ∧
      smsc.yielded = [.deliverSm 0 (emptyDeliverSm 1)] ∧ smsc.session.reader = .closed ∧
      (smsc.step settings.endpoint .next).isNone = true ∧ ¬ smsc.Faithful settings.endpoint) ∧
    (∃ smsc, run (Smsc.step settings.endpoint) (Smsc.start settings.endpoint 1) [.stop] =
        some smsc ∧
      smsc.yielded = [] ∧ (smsc.step settings.endpoint .next).isNone = true ∧
      ¬ smsc.Faithful settings.endpoint) ∧
    (∃ server, run (Server.step timers Str.empty) (Server.start 1)
        (bindsTo Str.empty 0 ++ hangsUp 0 ++ [.next]) = some server ∧
      server.posted = [.esmeBound 0] ∧ ¬ server.Faithful timers Str.empty) ∧
    ∃ server, run (Server.step timers Str.empty) (Server.start 1)
        (bindsTo Str.empty 0 ++ bindsTo Str.empty 1 ++ [.next] ++ hangsUp 1 ++ [.next]) =
        some server ∧
      server.yielded = [.esmeBound 0, .unbound 1] ∧ ¬ server.Faithful timers Str.empty := by
  intro settings timers
  refine ⟨?_, ?_, ?_, ?_⟩
  · have ran : (run (Smsc.step settings.endpoint) (Smsc.start settings.endpoint 1)
        (deliveredThenEnded ++ [.next])).map (fun smsc => (smsc.yielded, smsc.events.queue,
          smsc.handle, smsc.session.reader, (smsc.step settings.endpoint .next).isNone)) =
        some ([.deliverSm 0 (emptyDeliverSm 1)], [], .held, .closed, true) := by decide +kernel
    obtain ⟨smsc, reached, facts⟩ := Option.map_eq_some_iff.mp ran
    simp only [Prod.mk.injEq] at facts
    obtain ⟨yielded, empty, held, closed, waits⟩ := facts
    refine ⟨smsc, reached, yielded, closed, waits, fun faithful => ?_⟩
    have told := faithful.told held (by rw [closed]; rfl)
    simp [Smsc.posted, yielded, empty] at told
  · have ran : (run (Smsc.step settings.endpoint) (Smsc.start settings.endpoint 1) [.stop]).map
        (fun smsc => (smsc.yielded, smsc.events.queue, smsc.handle, smsc.session.reader,
          (smsc.step settings.endpoint .next).isNone)) =
        some ([], [], .held, .gone, true) := by decide +kernel
    obtain ⟨smsc, reached, facts⟩ := Option.map_eq_some_iff.mp ran
    simp only [Prod.mk.injEq] at facts
    obtain ⟨yielded, empty, held, gone, waits⟩ := facts
    refine ⟨smsc, reached, yielded, waits, fun faithful => ?_⟩
    have told := faithful.told held (by rw [gone]; rfl)
    simp [Smsc.posted, yielded, empty] at told
  · have ran : (run (Server.step timers Str.empty) (Server.start 1)
        (bindsTo Str.empty 0 ++ hangsUp 0 ++ [.next])).map (fun server =>
          (server.posted, server.connections[0]?.map Incoming.ended)) =
        some ([.esmeBound 0], some true) := by decide +kernel
    obtain ⟨server, reached, facts⟩ := Option.map_eq_some_iff.mp ran
    simp only [Prod.mk.injEq] at facts
    obtain ⟨posted, finished⟩ := facts
    refine ⟨server, reached, posted, ?_⟩
    intro faithful
    obtain ⟨incoming, found, ended⟩ := Option.map_eq_some_iff.mp finished
    have once := faithful.unbound 0 incoming found ended
    rw [posted] at once
    exact absurd once (by decide)
  · have ran : (run (Server.step timers Str.empty) (Server.start 1)
        (bindsTo Str.empty 0 ++ bindsTo Str.empty 1 ++ [.next] ++ hangsUp 1 ++ [.next])).map
        Server.yielded = some [.esmeBound 0, .unbound 1] := by decide +kernel
    obtain ⟨server, reached, yielded⟩ := Option.map_eq_some_iff.mp ran
    refine ⟨server, reached, yielded, ?_⟩
    intro faithful
    have first := faithful.ordered [.esmeBound 0] (.unbound 1) [] yielded rfl
    exact absurd first (by decide)

end Python

end Smpp34
