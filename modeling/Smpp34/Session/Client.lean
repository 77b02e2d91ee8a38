import Smpp34.Session.Incoming
import Smpp34.Session.Progress

namespace Smpp34

open Octets
open Machine (run Throughout)

structure ClientSettings where
  bindType : BindKind
  responseTimer : Nat
  inactivityTimer : Nat

def ClientSettings.endpoint (settings : ClientSettings) : Endpoint :=
  ⟨.client, settings.bindType.bound, settings.responseTimer, settings.inactivityTimer⟩

/-- A task that `start` has spawned: it waits for the bind response with what it has read so far,
    it runs the session and has the octets behind the response still to read, or it is over. -/
inductive SessionTask where
  | binding (buffer : Bytes)
  | bound (leftover : Bytes) (session : Session)
  | finished

namespace SessionTask

def running : SessionTask → Bool
  | binding _ => true
  | bound _ session => !session.reader.ended
  | finished => false

def isBinding : SessionTask → Bool
  | binding _ => true
  | _ => false

def isBound : SessionTask → Bool
  | bound _ _ => true
  | _ => false

/-- The handshake with what it has read: a bad length gives an empty PDU, which has no header. -/
def handshake (settings : ClientSettings) (buffer : Bytes) : SessionTask :=
  match frameFirstPdu buffer maxPduLen with
  | .incomplete => .binding buffer
  | .invalid _ => .finished
  | .complete size =>
    match CommandHeader.decode (buffer.take size) with
    | .error _ => .finished
    | .ok header =>
      match clientBind settings.bindType settings.endpoint.start header (buffer.take size) with
      | some session => .bound (buffer.drop size) session
      | none => .finished

/-- `JoinHandle::abort`: the task does not come back from where it awaits. -/
def abort (settings : ClientSettings) : SessionTask → SessionTask
  | bound leftover session => .bound leftover ((session.stop settings.endpoint).getD session)
  | _ => .finished

/-- What lies behind the bind response is read before the socket is; `stop` is the client's. -/
def permits (leftover : Bytes) : Event → Bool
  | .receive piece => leftover = [] || piece.isPrefixOf leftover
  | .hangUp | .idle => leftover = []
  | .stop => false
  | _ => true

end SessionTask

/-- The flag is the one that all tasks of the client share, and the handle that of the task which
    was spawned last. A call of `start` that is under way has found the flag cleared. -/
structure Client where
  alive : Bool
  handle : Option Nat
  starting : Bool
  dropped : Bool
  tasks : List SessionTask

inductive ClientEvent where
  | start
  | connect (established : Bool)
  | stop
  | drop
  | read (task : Nat) (piece : Bytes)
  | giveUp (task : Nat)
  | act (task : Nat) (event : Event)

namespace Client

def new : Client := ⟨false, none, false, false, []⟩

def free (client : Client) : Bool := !client.starting && !client.dropped

/-- The guard of `start`, which panics where the flag is set. -/
def start (client : Client) : Client :=
  if client.alive then client else { client with starting := true }

def connect (client : Client) (established : Bool) : Client :=
  if established then
    { client with
      starting := false
      handle := some client.tasks.length
      tasks := client.tasks ++ [.binding []] }
  else { client with starting := false }

def stop (settings : ClientSettings) (client : Client) : Client :=
  { client with
    alive := false
    handle := none
    tasks :=
      match client.handle with
      | some task => client.tasks.modify task (SessionTask.abort settings)
      | none => client.tasks }

def drop (settings : ClientSettings) (client : Client) : Client :=
  { (if client.alive then client.stop settings else client) with dropped := true }

def read (settings : ClientSettings) (client : Client) (task : Nat) (piece : Bytes) :
    Option Client :=
  match client.tasks[task]? with
  | some (.binding buffer) =>
    if piece = [] then none
    else
      let next := SessionTask.handshake settings (buffer ++ piece)
      some
        { client with
          alive := client.alive || next.isBound
          tasks := client.tasks.set task next }
  | _ => none

/-- The bind could not be written, or the stream ended, failed or was silent for too long. -/
def giveUp (client : Client) (task : Nat) : Option Client :=
  match client.tasks[task]? with
  | some (.binding _) => some { client with tasks := client.tasks.set task .finished }
  | _ => none

/-- A step of a session, which reads and writes the client's flag. -/
def act (settings : ClientSettings) (client : Client) (task : Nat) (event : Event) :
    Option Client :=
  match client.tasks[task]? with
  | some (.bound leftover session) =>
    if SessionTask.permits leftover event then
      (Session.step settings.endpoint { session with alive := client.alive } event).map fun next =>
        { client with
          alive := next.alive
          tasks := client.tasks.set task (.bound (leftover.drop event.piece.length) next) }
    else none
  | _ => none

def step (settings : ClientSettings) (client : Client) : ClientEvent → Option Client
  | .start => if client.free then some client.start else none
  | .connect established => if client.starting then some (client.connect established) else none
  | .stop => if client.free then some (client.stop settings) else none
  | .drop => if client.free then some (client.drop settings) else none
  | .read task piece => client.read settings task piece
  | .giveUp task => client.giveUp task
  | .act task event => client.act settings task event

end Client

section Flag

variable {endpoint : Endpoint} {session next : Session}

/-- Once its task is over, nothing of a session touches the flag. -/
theorem step_alive_of_ended {event : Event} (ended : session.reader.ended = true)
    (other : event ≠ .stop) (taken : session.step endpoint event = some next) :
    next.alive = session.alive := by
  rcases Session.step_flag taken with same | ⟨-, rfl | rfl⟩
  · exact same
  · cases Session.step_reader rfl taken with
    | closes stage =>
      rw [stage] at ended
      cases ended
  · exact absurd rfl other

end Flag

theorem SessionTask.abort_running (settings : ClientSettings) (task : SessionTask) :
    (task.abort settings).running = false := by
  cases task with
  | binding buffer => rfl
  | finished => rfl
  | bound leftover session =>
    change (!((session.stop settings.endpoint).getD session).reader.ended) = false
    unfold Session.stop
    split
    · rfl
    · rename_i closed
      have stage : session.reader = .closed := by
        by_contra other
        exact closed ⟨rfl, other⟩
      change (!session.reader.ended) = false
      rw [stage]
      rfl

theorem SessionTask.handshake_bound {settings : ClientSettings} {buffer leftover : Bytes}
    {session : Session} (bound : handshake settings buffer = .bound leftover session) :
    ∃ size, frameFirstPdu buffer maxPduLen = .complete size ∧ leftover = buffer.drop size ∧
      session = settings.endpoint.start := by
  unfold handshake at bound
  split at bound
  · cases bound
  · cases bound
  · rename_i size whole
    split at bound
    · cases bound
    · split at bound
      · rename_i started
        cases bound
        unfold clientBind at started
        split at started
        · exact ⟨size, whole, rfl, (Option.some.inj started).symm⟩
        · cases started
      · cases bound

namespace Client

variable {settings : ClientSettings} {client next : Client}

structure Owns (client : Client) : Prop where
  handled : ∀ (place : Nat) (task : SessionTask), client.tasks[place]? = some task →
    task.running = true → client.handle = some place
  flagged : ∀ leftover session, .bound leftover session ∈ client.tasks →
    session.reader.ended = false → client.alive = true
  starting : client.starting = true →
    client.dropped = false ∧ ∀ task ∈ client.tasks, task.running = false
  dropped : client.dropped = true → ∀ task ∈ client.tasks, task.running = false

theorem Owns.none_running (owns : client.Owns) (cleared : client.alive = false)
    (waited : (client.tasks.all fun task => !task.isBinding) = true) :
    ∀ task ∈ client.tasks, task.running = false := by
  intro task member
  cases task with
  | binding buffer =>
    have other := List.all_eq_true.mp waited _ member
    cases other
  | finished => rfl
  | bound leftover session =>
    by_contra running
    rw [SessionTask.running, Bool.not_eq_false, Bool.not_eq_true'] at running
    rw [owns.flagged leftover session member running] at cleared
    cases cleared

theorem Owns.stop_none (owns : client.Owns) (settings : ClientSettings) :
    ∀ task ∈ (client.stop settings).tasks, task.running = false := by
  intro task member
  by_contra running
  rw [Bool.not_eq_false] at running
  unfold stop at member
  dsimp only at member
  split at member
  · rename_i own handle
    obtain ⟨place, found⟩ := List.getElem?_of_mem member
    rw [List.getElem?_modify] at found
    obtain ⟨old, at_place, changed⟩ := Option.map_eq_some_iff.mp found
    split at changed
    · rw [← changed, SessionTask.abort_running] at running
      cases running
    · rename_i elsewhere
      have same : old = task := changed
      rw [← same] at running
      have held := owns.handled place old at_place running
      rw [handle] at held
      exact elsewhere (Option.some.inj held)
  · rename_i handle
    obtain ⟨place, found⟩ := List.getElem?_of_mem member
    have held := owns.handled place task found running
    rw [handle] at held
    cases held

theorem owns_of_none (none : ∀ task ∈ client.tasks, task.running = false)
    (apart : client.starting = true → client.dropped = false) : client.Owns where
  handled := by
    intro place task found running
    rw [none task (List.mem_of_getElem? found)] at running
    cases running
  flagged := by
    intro leftover session member running
    have finished := none _ member
    rw [SessionTask.running, running] at finished
    cases finished
  starting starting := ⟨apart starting, none⟩
  dropped _ := none

theorem Owns.set (owns : client.Owns) {place : Nat} {old task : SessionTask} {alive : Bool}
    (found : client.tasks[place]? = some old)
    (later : task.running = true → old.running = true)
    (flag : ∀ leftover session, task = .bound leftover session → session.reader.ended = false →
      alive = true)
    (kept : old.running = false → alive = client.alive) :
    { client with alive := alive, tasks := client.tasks.set place task }.Owns := by
  have at_other : ∀ {other : Nat} {found' : SessionTask},
      (client.tasks.set place task)[other]? = some found' →
      other = place ∧ found' = task ∨ other ≠ place ∧ client.tasks[other]? = some found' := by
    intro other found' at_place
    by_cases same : place = other
    · subst same
      rw [List.getElem?_set_self (List.getElem?_eq_some_iff.mp found).1] at at_place
      exact .inl ⟨rfl, (Option.some.inj at_place).symm⟩
    · rw [List.getElem?_set_ne same] at at_place
      exact .inr ⟨Ne.symm same, at_place⟩
  have none : (∀ task ∈ client.tasks, task.running = false) →
      ∀ found' ∈ client.tasks.set place task, found'.running = false := by
    intro quiet found' member
    obtain ⟨other, at_place⟩ := List.getElem?_of_mem member
    rcases at_other at_place with ⟨-, rfl⟩ | ⟨-, unchanged⟩
    · by_contra running
      rw [Bool.not_eq_false] at running
      have before := later running
      rw [quiet old (List.mem_of_getElem? found)] at before
      cases before
    · exact quiet found' (List.mem_of_getElem? unchanged)
  refine ⟨?_, ?_, ?_, ?_⟩
  · intro other found' at_place running
    rcases at_other at_place with ⟨rfl, rfl⟩ | ⟨-, unchanged⟩
    · exact owns.handled _ old found (later running)
    · exact owns.handled other found' unchanged running
  · intro leftover session member running
    obtain ⟨other, at_place⟩ := List.getElem?_of_mem member
    rcases at_other at_place with ⟨-, same⟩ | ⟨apart, unchanged⟩
    · exact flag leftover session same.symm running
    · have runs : (SessionTask.bound leftover session).running = true := by
        rw [SessionTask.running, running]
        rfl
      have held := owns.handled other _ unchanged runs
      have idle : old.running = false := by
        by_contra busy
        rw [Bool.not_eq_false] at busy
        have also := owns.handled place old found busy
        rw [held] at also
        exact apart (Option.some.inj also)
      have set := owns.flagged leftover session (List.mem_of_getElem? unchanged) running
      exact (kept idle).trans set
  · intro starting
    obtain ⟨apart, quiet⟩ := owns.starting starting
    exact ⟨apart, none quiet⟩
  · intro dropped
    exact none (owns.dropped dropped)

theorem Owns.connect (owns : client.Owns) (starting : client.starting = true)
    (established : Bool) : (client.connect established).Owns := by
  obtain ⟨apart, none⟩ := owns.starting starting
  unfold Client.connect
  split
  · refine ⟨?_, ?_, ?_, ?_⟩
    · intro place task found running
      rw [List.getElem?_append] at found
      split at found
      · rw [none task (List.mem_of_getElem? found)] at running
        cases running
      · rename_i beyond
        obtain ⟨here, -⟩ := List.getElem?_eq_some_iff.mp found
        rw [List.length_singleton] at here
        exact congrArg some (by omega)
    · intro leftover session member running
      rcases List.mem_append.mp member with old | new
      · exact owns.flagged leftover session old running
      · cases List.mem_singleton.mp new
    · intro again
      cases again
    · intro dropped
      have gone : client.dropped = true := dropped
      rw [apart] at gone
      cases gone
  · exact owns_of_none none fun _ => apart

theorem Owns.read (owns : client.Owns) {task : Nat} {piece : Bytes}
    (taken : client.read settings task piece = some next) : next.Owns := by
  unfold Client.read at taken
  split at taken
  · rename_i buffer found
    split at taken
    · cases taken
    · cases taken
      apply owns.set found
      · exact fun _ => rfl
      · intro leftover session bound running
        rw [bound]
        exact Bool.or_true _
      · intro finished
        cases finished
  · cases taken

theorem Owns.act (owns : client.Owns) {task : Nat} {event : Event}
    (taken : client.act settings task event = some next) : next.Owns := by
  unfold Client.act at taken
  split at taken
  · rename_i leftover session found
    split at taken
    · rename_i permitted
      obtain ⟨later, stepped, rfl⟩ := Option.map_eq_some_iff.mp taken
      have other : event ≠ .stop := by
        rintro rfl
        cases permitted
      apply owns.set found
      · intro running
        rw [SessionTask.running, Bool.not_eq_true'] at running ⊢
        exact (Session.step_open stepped running).1
      · intro rest same bound running
        cases bound
        obtain ⟨before, alive, -⟩ := Session.step_open stepped running
        exact alive.trans (owns.flagged leftover session (List.mem_of_getElem? found) before)
      · intro finished
        rw [SessionTask.running, Bool.not_eq_false'] at finished
        have ended : { session with alive := client.alive }.reader.ended = true := finished
        exact step_alive_of_ended ended other stepped
    · cases taken
  · cases taken

theorem Owns.drop (owns : client.Owns) (unstarted : client.starting = false)
    (waited : (client.tasks.all fun task => !task.isBinding) = true) :
    (client.drop settings).Owns := by
  cases alive : client.alive with
  | true =>
    have dropped : client.drop settings = { client.stop settings with dropped := true } := by
      simp only [Client.drop, alive, if_true]
    rw [dropped]
    refine owns_of_none (owns.stop_none settings) fun starting => ?_
    have again : client.starting = true := starting
    rw [unstarted] at again
    cases again
  | false =>
    have dropped : client.drop settings = { client with dropped := true } := by
      simp only [Client.drop, alive, if_false, Bool.false_eq_true]
    rw [dropped]
    refine owns_of_none (owns.none_running alive waited) fun starting => ?_
    have again : client.starting = true := starting
    rw [unstarted] at again
    cases again

end Client

def bindAccepted : Bytes := [0, 0, 0, 17, 0x80, 0, 0, 9, 0, 0, 0, 0, 0, 0, 0, 1, 0]

end Smpp34
