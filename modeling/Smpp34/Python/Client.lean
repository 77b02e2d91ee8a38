import Smpp34.Base.Mailbox
import Smpp34.Session.Progress
import Smpp34.Session.Incoming

namespace Smpp34

open Octets
open Machine (run Throughout)

theorem ReaderStage.ended_eq (reader : ReaderStage) : reader.ended = !reader.present := by
  cases reader <;> rfl

theorem Session.step_ended {endpoint : Endpoint} {session next : Session} {event : Event}
    (other : event ≠ .close) (goesOn : event = .stop → endpoint.side = .server)
    (taken : session.step endpoint event = some next) :
    next.reader.ended = session.reader.ended := by
  by_cases present : session.reader.present = true
  · rcases step_present goesOn present taken with ⟨closes, -⟩ | ⟨-, still⟩
    · exact absurd closes other
    · rw [ReaderStage.ended_eq, ReaderStage.ended_eq, present, still]
  · cases stage : session.reader with
    | closed => rw [(step_closed stage taken).2]
    | gone => rw [step_gone stage taken]
    | _ =>
      rw [stage] at present
      exact absurd rfl present

namespace Python

/-- What `Smsc.next()` yields. The place in the stream tells a deliver_sm from another one with the
    same contents. -/
inductive ClientEvent where
  | deliverSm (place : Nat) (pdu : DeliverSm)
  | disconnected
deriving DecidableEq

def ClientEvent.delivers : ClientEvent → Bool
  | deliverSm _ _ => true
  | disconnected => false

structure Delivery where
  place : Nat
  pdu : DeliverSm
  resp : DeliverSmResp

/-- What the application has of the session: a handle, or some calls of `next()` that were pending
    when it dropped the last one. -/
inductive Handle where
  | held
  | released (pending : Nat)
deriving DecidableEq

def Handle.yields : Handle → Option Handle
  | held => some held
  | released 0 => none
  | released (pending + 1) => some (released pending)

/-- A bound session with its handlers that have not called the listener yet. -/
structure Smsc where
  session : Session
  spawned : List (Nat × Request)
  answers : List Delivery
  events : Mailbox ClientEvent
  yielded : List ClientEvent
  handle : Handle

inductive SmscEvent where
  | act (event : Event)
  | callback (task : Nat)
  | next
  | stop
  | release (pending : Nat)

namespace Smsc

def start (endpoint : Endpoint) (inboundCapacity : Nat) : Smsc :=
  ⟨endpoint.start, [], [], .new inboundCapacity, [], .held⟩

def posted (smsc : Smsc) : List ClientEvent := smsc.yielded ++ smsc.events.queue

/-- It fails where the queue is full, and where nobody is left to receive. -/
def trySend (smsc : Smsc) (event : ClientEvent) : Option (Mailbox ClientEvent) :=
  if smsc.handle.yields.isSome then smsc.events.trySend event else none

def onDeliverSm (smsc : Smsc) (place : Nat) (pdu : DeliverSm) : Smsc :=
  match smsc.trySend (.deliverSm place pdu) with
  | some events =>
    { smsc with events := events, answers := smsc.answers ++ [⟨place, pdu, pdu.accept⟩] }
  | none => { smsc with answers := smsc.answers ++ [⟨place, pdu, pdu.reject .ESME_RMSGQFUL⟩] }

/-- `ClientForwarder::on_smsc_unbound`, which does not look at the outcome. -/
def onSmscUnbound (smsc : Smsc) : Smsc :=
  { smsc with events := (smsc.trySend .disconnected).getD smsc.events }

/-- The forwarder has the sending end. The client has the forwarder, which a handle keeps, and so
    have the task of the session and the handlers until their response is queued. -/
def forwarderLives (smsc : Smsc) : Bool :=
  smsc.handle = .held || !smsc.session.reader.ended || !smsc.session.handlers.isEmpty ||
    (smsc.session.writer ≠ .stopped &&
      smsc.session.senders.any fun emission =>
        match emission.origin with
        | .reaction _ => true
        | _ => false)

def next (smsc : Smsc) : Option Smsc :=
  match smsc.handle.yields with
  | none => none
  | some handle =>
    match smsc.events.recv with
    | some (event, events) =>
      some { smsc with handle := handle, events := events, yielded := smsc.yielded ++ [event] }
    | none =>
      if smsc.forwarderLives then none
      else some { smsc with handle := handle, yielded := smsc.yielded ++ [.disconnected] }

/-- What a handler queues: the forwarder has no methods for a data_sm and an unbind, and leaves
    them to the listener's defaults. -/
def responds (smsc : Smsc) (debt : Nat × Request) (resp : Response) : Bool :=
  match debt.2 with
  | .deliverSm _ =>
    smsc.answers.any fun delivery =>
      delivery.place = debt.1 && resp = .deliverSm delivery.resp
  | .dataSm pdu => !smsc.spawned.contains debt && resp = .dataSm (pdu.reject .ESME_RSYSERR)
  | _ => false

/-- A call needs the handle, and the task is stopped through it. -/
def allows (smsc : Smsc) : Event → Bool
  | .call _ => smsc.handle = .held
  | .respond handler resp =>
    (smsc.session.handlers[handler]?).all fun debt => smsc.responds debt resp
  | .unbound resp =>
    match smsc.session.reader with
    | .unbinding _ pdu _ => resp = pdu.accept
    | _ => true
  | .stop => false
  | _ => true

def act (smsc : Smsc) (event : Event) (next : Session) : Smsc :=
  let smsc :=
    { smsc with
      session := next
      spawned := smsc.spawned ++ Incoming.spawns smsc.session next event }
  match event with
  | .close => smsc.onSmscUnbound
  | _ => smsc

def callback (smsc : Smsc) (task : Nat) : Option Smsc :=
  match smsc.spawned[task]? with
  | some (place, request) =>
    let smsc := { smsc with spawned := smsc.spawned.eraseIdx task }
    match request with
    | .deliverSm pdu => some (smsc.onDeliverSm place pdu)
    | _ => some smsc
  | none => none

/-- `SmppClient::stop`, which `Client.stop()` and `Smsc.unbind()` end with. -/
def stop (endpoint : Endpoint) (smsc : Smsc) : Smsc :=
  { smsc with session := (smsc.session.stop endpoint).getD smsc.session }

/-- The drop of the client stops a session that is alive. -/
def release (endpoint : Endpoint) (smsc : Smsc) (pending : Nat) : Smsc :=
  { (if smsc.session.alive then smsc.stop endpoint else smsc) with handle := .released pending }

def step (endpoint : Endpoint) (smsc : Smsc) : SmscEvent → Option Smsc
  | .act event =>
    if smsc.allows event then (smsc.session.step endpoint event).map (smsc.act event) else none
  | .callback task => smsc.callback task
  | .next => smsc.next
  | .stop => if smsc.handle = .held then some (smsc.stop endpoint) else none
  | .release pending => if smsc.handle = .held then some (smsc.release endpoint pending) else none

def notifies (smsc : Smsc) : SmscEvent → Bool
  | .act .close => smsc.events.HasRoom
  | .stop => smsc.session.reader = .closed
  | _ => true

end Smsc

def Delivery.event (delivery : Delivery) : Option ClientEvent :=
  if delivery.resp = delivery.pdu.accept then some (.deliverSm delivery.place delivery.pdu)
  else none

theorem accept_ne_reject (pdu : DeliverSm) : pdu.accept ≠ pdu.reject .ESME_RMSGQFUL := by
  intro same
  have status : SmppError.ESME_ROK.code = SmppError.ESME_RMSGQFUL.code :=
    congrArg (fun resp : DeliverSmResp => resp.header.commandStatus) same
  exact absurd status (by decide)

theorem Delivery.event_some {delivery : Delivery} {place : Nat} {pdu : DeliverSm}
    (sent : delivery.event = some (.deliverSm place pdu)) :
    delivery = ⟨place, pdu, pdu.accept⟩ := by
  obtain ⟨otherPlace, other, resp⟩ := delivery
  unfold event at sent
  split at sent
  · rename_i accepted
    cases sent
    exact congrArg (Delivery.mk otherPlace other) accepted
  · cases sent

namespace Smsc

variable {endpoint : Endpoint} {smsc next : Smsc}

theorem trySend_sent {event : ClientEvent} {events : Mailbox ClientEvent}
    (sent : smsc.trySend event = some events) :
    { smsc with events := events }.posted = smsc.posted ++ [event] := by
  unfold trySend at sent
  split at sent
  · unfold posted
    rw [Mailbox.trySend_some sent, List.append_assoc]
  · cases sent

inductive Moves (endpoint : Endpoint) (smsc : Smsc) : SmscEvent → Smsc → Prop
  | acts {event : Event} {session : Session} (other : event ≠ .close ∧ event ≠ .stop)
      (taken : smsc.session.step endpoint event = some session) :
      Moves endpoint smsc (.act event)
        { smsc with
          session := session
          spawned := smsc.spawned ++ Incoming.spawns smsc.session session event }
  | closes {session : Session} (taken : smsc.session.step endpoint .close = some session) :
      Moves endpoint smsc (.act .close) { smsc with session := session }.onSmscUnbound
  | delivers {task place : Nat} {pdu : DeliverSm}
      (spawned : smsc.spawned[task]? = some (place, .deliverSm pdu)) :
      Moves endpoint smsc (.callback task)
        ({ smsc with spawned := smsc.spawned.eraseIdx task }.onDeliverSm place pdu)
  | asks {task : Nat} {debt : Nat × Request} (spawned : smsc.spawned[task]? = some debt) :
      Moves endpoint smsc (.callback task) { smsc with spawned := smsc.spawned.eraseIdx task }
  | yields {handle : Handle} {event : ClientEvent} {events : Mailbox ClientEvent}
      (after : smsc.handle.yields = some handle)
      (received : smsc.events.recv = some (event, events)) :
      Moves endpoint smsc .next
        { smsc with handle := handle, events := events, yielded := smsc.yielded ++ [event] }
  | hangsUp {handle : Handle} (after : smsc.handle.yields = some handle)
      (released : smsc.handle ≠ .held)
      (ended : smsc.session.reader.ended = true) (empty : smsc.events.queue = []) :
      Moves endpoint smsc .next
        { smsc with handle := handle, yielded := smsc.yielded ++ [.disconnected] }
  | stops : Moves endpoint smsc .stop (smsc.stop endpoint)
  | releases {pending : Nat} :
      Moves endpoint smsc (.release pending) (smsc.release endpoint pending)

theorem step_moves {event : SmscEvent} (taken : smsc.step endpoint event = some next) :
    Moves endpoint smsc event next := by
  cases event with
  | act event =>
    simp only [step] at taken
    split at taken
    · rename_i allowed
      obtain ⟨session, went, rfl⟩ := Option.map_eq_some_iff.mp taken
      cases event with
      | close =>
        have same : smsc.act .close session = { smsc with session := session }.onSmscUnbound := by
          simp only [act, Incoming.spawns, List.append_nil]
        rw [same]
        exact .closes went
      | stop => cases allowed
      | _ => exact .acts ⟨Event.noConfusion, Event.noConfusion⟩ went
    · cases taken
  | callback task =>
    simp only [step, callback] at taken
    split at taken
    · rename_i place request spawned
      split at taken
      · cases taken
        exact .delivers spawned
      · cases taken
        exact .asks spawned
    · cases taken
  | next =>
    simp only [step, Smsc.next] at taken
    split at taken
    · cases taken
    · rename_i handle after
      split at taken
      · rename_i received
        cases taken
        exact .yields after received
      · rename_i empty
        split at taken
        · cases taken
        · rename_i dropped
          cases taken
          simp only [forwarderLives, Bool.not_eq_true, Bool.or_eq_false_iff,
            decide_eq_false_iff_not, Bool.not_eq_false'] at dropped
          exact .hangsUp after dropped.1.1.1 dropped.1.1.2 (Mailbox.recv_none empty)
  | stop =>
    simp only [step] at taken
    split at taken
    · cases taken
      exact .stops
    · cases taken
  | release pending =>
    simp only [step] at taken
    split at taken
    · cases taken
      exact .releases
    · cases taken

/-- The answers and the queue say the same. -/
structure Agrees (smsc : Smsc) : Prop where
  events : smsc.answers.filterMap Delivery.event = smsc.posted.filter ClientEvent.delivers
  answered : ∀ delivery ∈ smsc.answers, delivery.resp = delivery.pdu.accept ∨
    delivery.resp = delivery.pdu.reject .ESME_RMSGQFUL

theorem Agrees.keeps (agrees : smsc.Agrees) (answers : next.answers = smsc.answers)
    (posted : next.posted = smsc.posted ∨ next.posted = smsc.posted ++ [.disconnected]) :
    next.Agrees := by
  constructor
  · rw [answers, agrees.events]
    rcases posted with same | longer
    · rw [same]
    · rw [longer, List.filter_append]
      simp [ClientEvent.delivers]
  · rw [answers]
    exact agrees.answered

theorem onDeliverSm_agrees (agrees : smsc.Agrees) (place : Nat) (pdu : DeliverSm) :
    (smsc.onDeliverSm place pdu).Agrees := by
  unfold onDeliverSm
  split
  · rename_i events sent
    have posted := trySend_sent sent
    constructor
    · change (smsc.answers ++ [_]).filterMap _ = { smsc with events := events }.posted.filter _
      rw [posted, List.filterMap_append, List.filter_append, agrees.events]
      simp [Delivery.event, List.filter_cons, ClientEvent.delivers]
    · intro delivery member
      rcases List.mem_append.mp member with old | new
      · exact agrees.answered delivery old
      · rw [List.mem_singleton.mp new]
        exact .inl rfl
  · constructor
    · change (smsc.answers ++ [_]).filterMap _ = smsc.posted.filter _
      rw [List.filterMap_append, agrees.events]
      simp [Delivery.event, (accept_ne_reject pdu).symm]
    · intro delivery member
      rcases List.mem_append.mp member with old | new
      · exact agrees.answered delivery old
      · rw [List.mem_singleton.mp new]
        exact .inr rfl

theorem onSmscUnbound_posted (smsc : Smsc) :
    smsc.onSmscUnbound.posted = smsc.posted ∨
      smsc.onSmscUnbound.posted = smsc.posted ++ [.disconnected] := by
  unfold onSmscUnbound
  cases sent : smsc.trySend .disconnected with
  | none => exact .inl rfl
  | some events => exact .inr (trySend_sent sent)

theorem recv_posted {event : ClientEvent} {events : Mailbox ClientEvent}
    (received : smsc.events.recv = some (event, events)) (handle : Handle) :
    { smsc with
      handle := handle, events := events, yielded := smsc.yielded ++ [event] }.posted =
      smsc.posted := by
  unfold posted
  rw [Mailbox.recv_some received, List.append_assoc]
  rfl

theorem release_fields (endpoint : Endpoint) (smsc : Smsc) (pending : Nat) :
    (smsc.release endpoint pending).answers = smsc.answers ∧
      (smsc.release endpoint pending).posted = smsc.posted ∧
      (smsc.release endpoint pending).spawned = smsc.spawned := by
  unfold release
  split <;> exact ⟨rfl, rfl, rfl⟩

theorem step_agrees {event : SmscEvent} (agrees : smsc.Agrees)
    (taken : smsc.step endpoint event = some next) : next.Agrees := by
  cases step_moves taken with
  | acts other went => exact agrees.keeps rfl (.inl rfl)
  | @closes session went =>
    exact agrees.keeps rfl (onSmscUnbound_posted { smsc with session := session })
  | @delivers task place pdu spawned =>
    have kept : { smsc with spawned := smsc.spawned.eraseIdx task }.Agrees :=
      agrees.keeps rfl (.inl rfl)
    exact onDeliverSm_agrees kept place pdu
  | asks spawned => exact agrees.keeps rfl (.inl rfl)
  | yields after received => exact agrees.keeps rfl (.inl (recv_posted received _))
  | hangsUp after released ended empty =>
    refine agrees.keeps rfl (.inr ?_)
    unfold posted
    rw [empty, List.append_nil, List.append_nil]
  | stops => exact agrees.keeps rfl (.inl rfl)
  | @releases pending =>
    obtain ⟨answers, posted, -⟩ := release_fields endpoint smsc pending
    exact agrees.keeps answers (.inl posted)

def places (smsc : Smsc) : List Nat :=
  smsc.spawned.map Prod.fst ++ smsc.answers.map Delivery.place

structure Distinct (smsc : Smsc) : Prop where
  nodup : smsc.places.Nodup
  below : ∀ place ∈ smsc.places, place < smsc.session.received.length

theorem Distinct.keeps (distinct : smsc.Distinct) (places : next.places.Subperm smsc.places)
    (grown : smsc.session.received.length ≤ next.session.received.length) : next.Distinct where
  nodup := by
    obtain ⟨kept, same, within⟩ := places
    exact same.nodup_iff.mp (distinct.nodup.sublist within)
  below place member :=
    Nat.lt_of_lt_of_le (distinct.below place (places.subset member)) grown

theorem erase_places {task : Nat} {debt : Nat × Request}
    (spawned : smsc.spawned[task]? = some debt) :
    (debt.1 :: (smsc.spawned.eraseIdx task).map Prod.fst).Perm (smsc.spawned.map Prod.fst) := by
  obtain ⟨inside, rfl⟩ := List.getElem?_eq_some_iff.mp spawned
  exact (List.getElem_cons_eraseIdx_perm inside).map Prod.fst

theorem onDeliverSm_fields (smsc : Smsc) (place : Nat) (pdu : DeliverSm) :
    (smsc.onDeliverSm place pdu).session = smsc.session ∧
      (smsc.onDeliverSm place pdu).handle = smsc.handle ∧
      (smsc.onDeliverSm place pdu).places = smsc.places ++ [place] := by
  unfold onDeliverSm places
  split <;> exact ⟨rfl, rfl, by rw [List.map_append, List.append_assoc]; rfl⟩

theorem stop_received (endpoint : Endpoint) (session : Session) :
    ((session.stop endpoint).getD session).received = session.received := by
  unfold Session.stop
  split <;> rfl

theorem step_distinct {event : SmscEvent} (distinct : smsc.Distinct)
    (taken : smsc.step endpoint event = some next) : next.Distinct := by
  have same : ∀ other : Smsc, other.places = smsc.places →
      other.session.received = smsc.session.received → other.Distinct := by
    intro other places received
    exact distinct.keeps (places ▸ List.Subperm.refl _) (Nat.le_of_eq (by rw [received]))
  cases step_moves taken with
  | @acts event session other went =>
    have grown := (Session.step_consumes went).grows.length_le
    rcases Incoming.spawns_cases went with none | ⟨request, new, longer⟩
    · rw [none, List.append_nil]
      exact distinct.keeps (List.Subperm.refl _) grown
    · rw [new]
      have places : (smsc.session.received.length :: smsc.places).Perm
          { smsc with
            session := session
            spawned := smsc.spawned ++ [(smsc.session.received.length, request)] }.places := by
        unfold Smsc.places
        simp only [List.map_append, List.map_cons, List.map_nil, List.append_assoc,
          List.cons_append, List.nil_append]
        exact List.perm_middle.symm
      have fresh : smsc.session.received.length ∉ smsc.places :=
        fun member => Nat.lt_irrefl _ (distinct.below _ member)
      constructor
      · exact places.nodup_iff.mp (List.nodup_cons.mpr ⟨fresh, distinct.nodup⟩)
      · intro place member
        change place < session.received.length
        rw [longer]
        rcases List.mem_cons.mp (places.symm.subset member) with rfl | old
        · exact Nat.lt_succ_self _
        · exact Nat.lt_succ_of_lt (distinct.below place old)
  | closes went =>
    have grown := (Session.step_consumes went).grows.length_le
    exact distinct.keeps (List.Subperm.refl _) grown
  | @delivers task place pdu spawned =>
    obtain ⟨session, -, places⟩ :=
      onDeliverSm_fields { smsc with spawned := smsc.spawned.eraseIdx task } place pdu
    refine distinct.keeps ?_ (by rw [session])
    rw [places]
    have moved := List.perm_append_singleton place
      { smsc with spawned := smsc.spawned.eraseIdx task }.places
    have erased := (erase_places spawned).append_right (smsc.answers.map Delivery.place)
    exact (moved.trans erased).subperm
  | asks spawned =>
    refine distinct.keeps ?_ (Nat.le_refl _)
    have erased := (erase_places spawned).append_right (smsc.answers.map Delivery.place)
    exact ((List.sublist_cons_self _ _).subperm).trans erased.subperm
  | yields after received => exact same _ rfl rfl
  | hangsUp after released ended empty => exact same _ rfl rfl
  | stops => exact same _ rfl (stop_received endpoint smsc.session)
  | @releases pending =>
    obtain ⟨answers, -, spawned⟩ := release_fields endpoint smsc pending
    refine same _ ?_ ?_
    · unfold places
      rw [answers, spawned]
    · unfold release
      split
      · exact stop_received endpoint smsc.session
      · rfl

structure Reports (smsc : Smsc) : Prop where
  early : .disconnected ∈ smsc.posted → smsc.session.reader.ended = true
  told : smsc.handle = .held → smsc.session.reader.ended = true → .disconnected ∈ smsc.posted

theorem Reports.keeps (reports : smsc.Reports)
    (posted : .disconnected ∈ next.posted ↔ .disconnected ∈ smsc.posted)
    (ended : next.session.reader.ended = smsc.session.reader.ended)
    (handle : next.handle = .held → smsc.handle = .held) : next.Reports where
  early member := ended.trans (reports.early (posted.mp member))
  told held finished := posted.mpr (reports.told (handle held) (ended.symm.trans finished))

theorem stop_ended (endpoint : Endpoint) {session : Session}
    (finished : session.reader.ended = true) :
    ((session.stop endpoint).getD session).reader.ended = true := by
  unfold Session.stop
  split
  · rfl
  · exact finished

end Smsc

theorem Handle.yields_held {handle after : Handle} (yields : handle.yields = some after)
    (held : after = .held) : handle = .held := by
  subst held
  cases handle with
  | held => rfl
  | released pending => cases pending <;> cases yields

namespace Smsc

variable {endpoint : Endpoint} {smsc next : Smsc}

theorem step_reports {event : SmscEvent} (reports : smsc.Reports)
    (notifies : smsc.notifies event = true) (taken : smsc.step endpoint event = some next) :
    next.Reports := by
  cases step_moves taken with
  | acts other went =>
    have ended := Session.step_ended other.1 (fun stops => absurd stops other.2) went
    exact reports.keeps Iff.rfl ended id
  | @closes session went =>
    cases Session.step_reader rfl went with
    | closes stage =>
      constructor
      · exact fun _ => rfl
      · intro held _
        have sends : smsc.trySend .disconnected = smsc.events.trySend .disconnected := by
          unfold trySend
          rw [show smsc.handle = .held from held]
          rfl
        have room := Mailbox.offer_queue (of_decide_eq_true notifies) ClientEvent.disconnected
        unfold onSmscUnbound posted
        change _ ∈ smsc.yielded ++ ((smsc.trySend .disconnected).getD smsc.events).queue
        rw [sends]
        change _ ∈ smsc.yielded ++ (smsc.events.offer .disconnected).queue
        rw [room]
        simp
  | @delivers task place pdu spawned =>
    obtain ⟨session, handle, -⟩ :=
      onDeliverSm_fields { smsc with spawned := smsc.spawned.eraseIdx task } place pdu
    refine reports.keeps ?_ (by rw [session]) (by rw [handle]; exact id)
    unfold onDeliverSm
    split
    · rename_i events sent
      have posted := trySend_sent sent
      change _ ∈ { smsc with spawned := smsc.spawned.eraseIdx task, events := events }.posted ↔ _
      rw [posted]
      simp [Smsc.posted]
    · exact Iff.rfl
  | asks spawned => exact reports.keeps Iff.rfl rfl id
  | yields after received =>
    exact reports.keeps (by rw [recv_posted received]) rfl (Handle.yields_held after)
  | hangsUp after released ended empty =>
    exact ⟨fun _ => ended, fun held _ => absurd (Handle.yields_held after held) released⟩
  | stops =>
    have closed : smsc.session.reader = .closed := of_decide_eq_true notifies
    have idle : smsc.session.stop endpoint = none := by
      unfold Session.stop
      rw [if_neg (fun running => running.2 closed)]
    have same : (smsc.stop endpoint).session = smsc.session := by
      unfold stop
      rw [idle]
      rfl
    exact reports.keeps Iff.rfl (by rw [same]) id
  | @releases pending =>
    obtain ⟨-, posted, -⟩ := release_fields endpoint smsc pending
    constructor
    · intro member
      rw [posted] at member
      have finished := reports.early member
      unfold release
      split
      · exact stop_ended endpoint finished
      · exact finished
    · intro held
      cases held

/-- The queue as the application sees it: each deliver_sm is answered once, and yielded once where
    it is accepted and never where it is refused; whatever is queued is yielded in its order; and the
    end of the session follows what was queued before it. A call that was pending when the
    application dropped its handle hears of the end when the channel is closed. -/
structure Faithful (endpoint : Endpoint) (smsc : Smsc) : Prop where
  once : (smsc.answers.map Delivery.place).Nodup
  answered : ∀ delivery ∈ smsc.answers,
    delivery.resp = delivery.pdu.accept ∧
        smsc.posted.count (.deliverSm delivery.place delivery.pdu) = 1 ∨
      delivery.resp = delivery.pdu.reject .ESME_RMSGQFUL ∧
        ∀ pdu, .deliverSm delivery.place pdu ∉ smsc.posted
  accepted : ∀ place pdu, .deliverSm place pdu ∈ smsc.posted →
    ⟨place, pdu, pdu.accept⟩ ∈ smsc.answers
  drains : smsc.handle = .held →
    ∃ final, run (Smsc.step endpoint) smsc (List.replicate smsc.events.queue.length .next) =
        some final ∧ final.yielded = smsc.posted ∧ final.events.queue = []
  ended : smsc.handle = .held → smsc.session.reader.ended = true →
    .disconnected ∈ smsc.yielded ∨
      ∃ before after final, smsc.events.queue = before ++ .disconnected :: after ∧
        (∀ event ∈ before, event.delivers = true) ∧
        run (Smsc.step endpoint) smsc (List.replicate (before.length + 1) .next) = some final ∧
        final.yielded = smsc.yielded ++ (before ++ [.disconnected])
  late : .disconnected ∈ smsc.yielded → smsc.session.reader.ended = true
  hungUp : ∀ pending, smsc.handle = .released (pending + 1) → smsc.forwarderLives = false →
    smsc.events.queue = [] →
    ∃ final, smsc.step endpoint .next = some final ∧
      final.yielded = smsc.yielded ++ [.disconnected]

theorem next_receives (endpoint : Endpoint) :
    Mailbox.Receives (Smsc.step endpoint) .next Smsc.events Smsc.yielded
      (fun smsc => smsc.handle = .held) := by
  intro smsc event events held received
  refine ⟨{ smsc with handle := .held, events := events, yielded := smsc.yielded ++ [event] },
    ?_, rfl, rfl, rfl⟩
  simp only [step, Smsc.next, held, Handle.yields, received]

theorem delivered_iff (agrees : smsc.Agrees) (place : Nat) (pdu : DeliverSm) :
    .deliverSm place pdu ∈ smsc.posted ↔ ⟨place, pdu, pdu.accept⟩ ∈ smsc.answers := by
  have filtered : .deliverSm place pdu ∈ smsc.posted ↔
      .deliverSm place pdu ∈ smsc.posted.filter ClientEvent.delivers := by
    rw [List.mem_filter]
    exact ⟨fun member => ⟨member, rfl⟩, fun member => member.1⟩
  rw [filtered, ← agrees.events, List.mem_filterMap]
  constructor
  · rintro ⟨delivery, member, sent⟩
    rw [← Delivery.event_some sent]
    exact member
  · exact fun member => ⟨_, member, if_pos rfl⟩

theorem delivered_count (agrees : smsc.Agrees) (once : (smsc.answers.map Delivery.place).Nodup)
    {place : Nat} {pdu : DeliverSm} (member : ⟨place, pdu, pdu.accept⟩ ∈ smsc.answers) :
    smsc.posted.count (.deliverSm place pdu) = 1 := by
  have injective : ∀ (first second : Delivery) (event : ClientEvent), event ∈ first.event →
      event ∈ second.event → first = second := by
    intro first second event left right
    cases event with
    | deliverSm place pdu => rw [Delivery.event_some left, Delivery.event_some right]
    | disconnected =>
      unfold Delivery.event at left
      split at left <;> cases left
  have nodup := (List.Nodup.of_map Delivery.place once).filterMap injective
  rw [agrees.events] at nodup
  have filtered : .deliverSm place pdu ∈ smsc.posted.filter ClientEvent.delivers :=
    List.mem_filter.mpr ⟨(delivered_iff agrees place pdu).mpr member, rfl⟩
  rw [← List.count_filter (p := ClientEvent.delivers) rfl]
  exact List.count_eq_one_of_mem nodup filtered

theorem refused_absent (agrees : smsc.Agrees) (once : (smsc.answers.map Delivery.place).Nodup)
    {delivery : Delivery} (member : delivery ∈ smsc.answers)
    (refused : delivery.resp = delivery.pdu.reject .ESME_RMSGQFUL) (pdu : DeliverSm) :
    .deliverSm delivery.place pdu ∉ smsc.posted := by
  intro yielded
  have accepted := (delivered_iff agrees delivery.place pdu).mp yielded
  have same : delivery = ⟨delivery.place, pdu, pdu.accept⟩ :=
    List.inj_on_of_nodup_map once member accepted rfl
  rw [same] at refused
  exact accept_ne_reject pdu refused

theorem faithful_of (agrees : smsc.Agrees) (distinct : smsc.Distinct) (reports : smsc.Reports) :
    smsc.Faithful endpoint := by
  have once : (smsc.answers.map Delivery.place).Nodup :=
    distinct.nodup.sublist (List.sublist_append_right _ _)
  refine ⟨once, ?_, ?_, ?_, ?_, ?_, ?_⟩
  · intro delivery member
    rcases agrees.answered delivery member with accepted | refused
    · have same : delivery = ⟨delivery.place, delivery.pdu, delivery.pdu.accept⟩ :=
        congrArg (Delivery.mk delivery.place delivery.pdu) accepted
      rw [same] at member
      exact .inl ⟨accepted, delivered_count agrees once member⟩
    · exact .inr ⟨refused, refused_absent agrees once member refused⟩
  · exact fun place pdu => (delivered_iff agrees place pdu).mp
  · intro held
    obtain ⟨final, reached, left, yielded, -⟩ :=
      (next_receives endpoint).drain held (List.append_nil smsc.events.queue).symm
    exact ⟨final, reached, yielded, left⟩
  · intro held finished
    rcases List.mem_append.mp (reports.told held finished) with yielded | queued
    · exact .inl yielded
    · right
      obtain ⟨before, after, queue, first⟩ := List.eq_append_cons_of_mem queued
      have split : smsc.events.queue = (before ++ [.disconnected]) ++ after := by
        rw [queue, List.append_assoc]
        rfl
      obtain ⟨final, reached, -, yielded, -⟩ := (next_receives endpoint).drain held split
      rw [List.length_append] at reached
      refine ⟨before, after, final, queue, ?_, reached, yielded⟩
      intro event member
      cases event with
      | deliverSm place pdu => rfl
      | disconnected => exact absurd member first
  · exact fun yielded => reports.early (List.mem_append_left _ yielded)
  · intro pending released dropped empty
    have nothing : smsc.events.recv = none := by
      cases received : smsc.events.recv with
      | none => rfl
      | some pair =>
        rw [Mailbox.recv_some received] at empty
        cases empty
    refine ⟨{ smsc with handle := .released pending, yielded := smsc.yielded ++ [.disconnected] },
      ?_, rfl⟩
    simp [step, Smsc.next, released, Handle.yields, nothing, dropped]

/-- What is neither yielded nor queued at the end is lost. -/
theorem Faithful.told (faithful : smsc.Faithful endpoint) (held : smsc.handle = .held)
    (finished : smsc.session.reader.ended = true) : .disconnected ∈ smsc.posted := by
  rcases faithful.ended held finished with yielded | ⟨before, after, final, queue, -⟩
  · exact List.mem_append_left _ yielded
  · unfold posted
    rw [queue]
    simp

section Start

variable (endpoint : Endpoint) (inboundCapacity : Nat)

theorem start_agrees : (start endpoint inboundCapacity).Agrees where
  events := rfl
  answered _ member := absurd member List.not_mem_nil

theorem start_distinct : (start endpoint inboundCapacity).Distinct where
  nodup := List.nodup_nil
  below _ member := absurd member List.not_mem_nil

theorem start_reports : (start endpoint inboundCapacity).Reports where
  early member := absurd member List.not_mem_nil
  told _ finished := by cases finished

end Start

theorem run_faithful {inboundCapacity : Nat} {events : List SmscEvent}
    (met : Throughout (Smsc.step endpoint) (fun smsc event => smsc.notifies event = true)
      (start endpoint inboundCapacity) events)
    (reached : run (Smsc.step endpoint) (start endpoint inboundCapacity) events = some smsc) :
    smsc.Faithful endpoint := by
  have agrees : smsc.Agrees :=
    Machine.run_invariant (fun _ _ _ before taken => step_agrees before taken)
      (start_agrees endpoint inboundCapacity) reached
  have distinct : smsc.Distinct :=
    Machine.run_invariant (fun _ _ _ before taken => step_distinct before taken)
      (start_distinct endpoint inboundCapacity) reached
  have reports : smsc.Reports :=
    Machine.run_invariant_where (fun _ _ _ before now taken => step_reports before now taken)
      (start_reports endpoint inboundCapacity) met reached
  exact faithful_of agrees distinct reports

end Smsc

end Python

end Smpp34
