import Smpp34.Session.Client

namespace Smpp34

open Octets
open Machine (run)

namespace Python

inductive ConnectionFailure where
  | establish
  | bindWrite
deriving DecidableEq

inductive BindOutcome where
  | bound (task : Nat)
  | failed (failure : ConnectionFailure)
deriving DecidableEq

inductive ConnectError where
  | failed (failure : ConnectionFailure)
  | closed
  | timedOut
  | panicked
deriving DecidableEq

/-- The call of `connect()` that has taken the receiver: it waits for the client, it is in
    `SmppClient::start`, it waits for the bind, or it has returned. -/
inductive Connecting where
  | locking
  | starting
  | waiting
  | returned (result : Except ConnectError Nat)

/-- The object of the application. The receiver is in its slot as long as no call has taken it, and
    that call waits since then; the sessions in `told` have called `on_smsc_bound`; and `refused`
    counts the calls that were told that `connect()` was already called. -/
structure Client where
  now : Nat
  since : Nat
  client : Smpp34.Client
  bindTx : Bool
  bindRx : Option BindOutcome
  connecting : Option Connecting
  told : List Nat
  refused : Nat

inductive ConnectEvent where
  | advance (duration : Nat)
  | connect
  | start
  | establish (established : Bool)
  | bindFails (task : Nat)
  | read (task : Nat) (piece : Bytes)
  | giveUp (task : Nat)
  | announce (task : Nat)
  | act (task : Nat) (event : Event)
  | resolve
  | expire
  | disconnect
  | stop
  | drop

def Connecting.holds : Option Connecting → Bool
  | some locking | some starting | some waiting => true
  | _ => false

def Connecting.early : Option Connecting → Bool
  | none | some locking | some starting => true
  | _ => false

namespace Client

def new : Client := ⟨0, 0, .new, true, none, none, [], 0⟩

/-- `ClientForwarder::settle_bind`: the first outcome is sent, and is lost where nobody receives. -/
def settleBind (client : Client) (outcome : BindOutcome) : Client :=
  if client.bindTx then
    match client.connecting with
    | some (.returned _) => { client with bindTx := false }
    | _ => { client with bindTx := false, bindRx := some outcome }
  else client

def connect (client : Client) : Client :=
  match client.connecting with
  | none => { client with connecting := some .locking }
  | some _ => { client with refused := client.refused + 1 }

def start (client : Client) : Option Client :=
  match client.connecting with
  | some .locking =>
    if client.client.free then
      if client.client.alive then
        some { client with connecting := some (.returned (.error .panicked)) }
      else some { client with client := client.client.start, connecting := some .starting }
    else none
  | _ => none

def establish (client : Client) (established : Bool) : Option Client :=
  match client.connecting with
  | some .starting =>
    let client :=
      { client with
        since := client.now
        client := client.client.connect established
        connecting := some .waiting }
    some (if established then client else client.settleBind (.failed .establish))
  | _ => none

/-- The bind could not be written: nothing was read yet. -/
def bindFails (client : Client) (task : Nat) : Option Client :=
  match client.client.tasks[task]? with
  | some (.binding []) =>
    (client.client.giveUp task).map fun inner =>
      { client with client := inner }.settleBind (.failed .bindWrite)
  | _ => none

/-- The forwarder's `on_smsc_bound`, which a session calls before it reads. -/
def announce (client : Client) (task : Nat) : Option Client :=
  match client.client.tasks[task]? with
  | some (.bound _ session) =>
    if session.reader.ended || client.told.contains task then none
    else some ({ client with told := client.told ++ [task] }.settleBind (.bound task))
  | _ => none

/-- The client owns the forwarder with the sender, and so does the task of a session. -/
def forwarderLives (client : Client) : Bool :=
  !client.client.dropped || client.client.tasks.any SessionTask.running

def resolve (client : Client) : Option Client :=
  match client.connecting, client.bindRx with
  | some .waiting, some (.bound task) =>
    some { client with connecting := some (.returned (.ok task)), bindRx := none }
  | some .waiting, some (.failed failure) =>
    some { client with connecting := some (.returned (.error (.failed failure))), bindRx := none }
  | _, _ => none

/-- The outcome is looked at before the clock. -/
def expire (connectTimeout : Nat) (client : Client) : Option Client :=
  match client.connecting, client.bindRx with
  | some .waiting, none =>
    if client.since + connectTimeout ≤ client.now then
      some { client with connecting := some (.returned (.error .timedOut)) }
    else none
  | _, _ => none

def disconnect (client : Client) : Option Client :=
  match client.connecting, client.bindRx with
  | some .waiting, none =>
    if client.forwarderLives then none
    else some { client with connecting := some (.returned (.error .closed)) }
  | _, _ => none

/-- A call of `connect()` that is under way keeps the client from being dropped. -/
def step (settings : ClientSettings) (connectTimeout : Nat) (client : Client) :
    ConnectEvent → Option Client
  | .advance duration => some { client with now := client.now + duration }
  | .connect => if client.client.dropped then none else some client.connect
  | .start => client.start
  | .establish established => client.establish established
  | .bindFails task => client.bindFails task
  | .read task piece =>
    (client.client.read settings task piece).map fun inner => { client with client := inner }
  | .giveUp task => (client.client.giveUp task).map fun inner => { client with client := inner }
  | .announce task => client.announce task
  | .act task event =>
    (client.client.act settings task event).map fun inner => { client with client := inner }
  | .resolve => client.resolve
  | .expire => client.expire connectTimeout
  | .disconnect => client.disconnect
  | .stop =>
    (client.client.step settings .stop).map fun inner => { client with client := inner }
  | .drop =>
    if Connecting.holds client.connecting then none
    else (client.client.step settings .drop).map fun inner => { client with client := inner }

end Client

structure Ages (inner next : Smpp34.Client) : Prop where
  length : next.tasks.length = inner.tasks.length
  bound : ∀ (task : Nat) leftover session, inner.tasks[task]? = some (.bound leftover session) →
    ∃ leftover session, next.tasks[task]? = some (.bound leftover session)
  finished : ∀ task : Nat, inner.tasks[task]? = some .finished → next.tasks[task]? = some .finished
  starting : next.starting = inner.starting
  dark : inner.tasks = [] → inner.alive = false → next.alive = false

theorem Ages.empty {inner next : Smpp34.Client} (ages : Ages inner next) (none : inner.tasks = []) :
    next.tasks = [] := by
  have length := ages.length
  rw [none] at length
  exact List.length_eq_zero_iff.mp length

theorem Ages.over {inner next : Smpp34.Client} (ages : Ages inner next)
    (one : inner.tasks = [.finished]) : next.tasks = [.finished] := by
  have length := ages.length
  rw [one] at length
  obtain ⟨task, same⟩ := List.length_eq_one_iff.mp length
  have still := ages.finished 0 (by rw [one]; rfl)
  rw [same] at still ⊢
  cases still
  rfl

theorem ages_set {inner : Smpp34.Client} {place : Nat} {old task : SessionTask} {alive : Bool}
    (found : inner.tasks[place]? = some old) (unfinished : old ≠ .finished)
    (bound : ∀ leftover session, old = .bound leftover session →
      ∃ leftover session, task = .bound leftover session) :
    Ages inner { inner with alive := alive, tasks := inner.tasks.set place task } where
  length := List.length_set
  bound other leftover session here := by
    by_cases same : place = other
    · subst same
      rw [found] at here
      cases here
      obtain ⟨leftover, session, rfl⟩ := bound leftover session rfl
      exact ⟨leftover, session, List.getElem?_set_self (List.getElem?_eq_some_iff.mp found).1⟩
    · exact ⟨leftover, session, (List.getElem?_set_ne same).trans here⟩
  finished other here := by
    by_cases same : place = other
    · subst same
      rw [found] at here
      exact absurd (Option.some.inj here) unfinished
    · exact (List.getElem?_set_ne same).trans here
  starting := rfl
  dark none := by
    rw [none] at found
    cases found

section Inner

variable {settings : ClientSettings} {inner next : Smpp34.Client}

theorem read_ages {task : Nat} {piece : Bytes}
    (taken : inner.read settings task piece = some next) : Ages inner next := by
  unfold Smpp34.Client.read at taken
  split at taken
  · rename_i buffer found
    split at taken
    · cases taken
    · cases taken
      exact ages_set found (by simp) (by simp)
  · cases taken

theorem giveUp_tasks {task : Nat} (taken : inner.giveUp task = some next) :
    (∃ buffer, inner.tasks[task]? = some (.binding buffer)) ∧
      next = { inner with tasks := inner.tasks.set task .finished } := by
  unfold Smpp34.Client.giveUp at taken
  split at taken
  · rename_i buffer found
    cases taken
    exact ⟨⟨buffer, found⟩, rfl⟩
  · cases taken

theorem giveUp_ages {task : Nat} (taken : inner.giveUp task = some next) : Ages inner next := by
  obtain ⟨⟨buffer, found⟩, rfl⟩ := giveUp_tasks taken
  have ages : Ages inner { inner with
      alive := inner.alive
      tasks := inner.tasks.set task .finished } := ages_set found (by simp) (by simp)
  exact ages

theorem act_ages {task : Nat} {event : Event} (taken : inner.act settings task event = some next) :
    Ages inner next := by
  unfold Smpp34.Client.act at taken
  split at taken
  · rename_i leftover session found
    split at taken
    · obtain ⟨later, -, rfl⟩ := Option.map_eq_some_iff.mp taken
      exact ages_set found (by simp) (fun _ _ _ => ⟨_, _, rfl⟩)
    · cases taken
  · cases taken

theorem read_dropped {task : Nat} {piece : Bytes}
    (taken : inner.read settings task piece = some next) : next.dropped = inner.dropped := by
  unfold Smpp34.Client.read at taken
  repeat' split at taken
  all_goals cases taken
  rfl

theorem act_dropped {task : Nat} {event : Event}
    (taken : inner.act settings task event = some next) : next.dropped = inner.dropped := by
  unfold Smpp34.Client.act at taken
  split at taken
  · split at taken
    · obtain ⟨later, -, rfl⟩ := Option.map_eq_some_iff.mp taken
      rfl
    · cases taken
  · cases taken

theorem stop_ages (settings : ClientSettings) (inner : Smpp34.Client) :
    Ages inner (inner.stop settings) := by
  have aborted : ∀ (own place : Nat) (task : SessionTask), inner.tasks[place]? = some task →
      ∃ later, (inner.tasks.modify own (SessionTask.abort settings))[place]? = some later ∧
        (later = task ∨ later = task.abort settings) := by
    intro own place task found
    rw [List.getElem?_modify, found]
    by_cases same : own = place
    · exact ⟨task.abort settings, by simp [same], .inr rfl⟩
    · exact ⟨task, by simp [same], .inl rfl⟩
  unfold Smpp34.Client.stop
  cases inner.handle with
  | none => exact ⟨rfl, fun _ leftover session found => ⟨leftover, session, found⟩,
      fun _ => id, rfl, fun _ _ => rfl⟩
  | some own =>
    refine ⟨List.length_modify .., ?_, ?_, rfl, fun _ _ => rfl⟩
    · intro task leftover session found
      obtain ⟨later, here, rfl | rfl⟩ := aborted own task _ found
      · exact ⟨leftover, session, here⟩
      · exact ⟨_, _, here⟩
    · intro task found
      obtain ⟨later, here, rfl | rfl⟩ := aborted own task _ found
      · exact here
      · exact here

theorem drop_ages (settings : ClientSettings) (inner : Smpp34.Client) :
    Ages inner (inner.drop settings) := by
  have ages := stop_ages settings inner
  unfold Smpp34.Client.drop
  by_cases alive : inner.alive = true
  · rw [if_pos alive]
    exact ⟨ages.length, ages.bound, ages.finished, ages.starting, ages.dark⟩
  · rw [if_neg alive]
    exact ⟨rfl, fun _ leftover session found => ⟨leftover, session, found⟩, fun _ => id, rfl,
      fun _ => id⟩

end Inner

namespace Client

def Grounds (client : Client) : BindOutcome → Prop
  | .bound task => task ∈ client.told
  | .failed .establish => client.client.tasks = []
  | .failed .bindWrite => client.client.tasks = [.finished]

/-- Why `connect()` has returned what it returned. -/
def Accounts (connectTimeout : Nat) (client : Client) : Except ConnectError Nat → Prop
  | .ok task => client.Grounds (.bound task)
  | .error (.failed failure) => client.Grounds (.failed failure)
  | .error .timedOut => client.since + connectTimeout ≤ client.now
  | .error .closed | .error .panicked => False

/-- No session is there before the one call that starts the client, and one at most after it; the
    listener was told of sessions that are bound only; and the call holds the client until it
    returns. -/
structure Tracks (connectTimeout : Nat) (client : Client) : Prop where
  fresh : Connecting.early client.connecting = true →
    client.client.tasks = [] ∧ client.client.alive = false ∧ client.bindRx = none
  starting : client.client.starting = true ↔ client.connecting = some .starting
  lone : client.client.tasks.length ≤ 1
  told : ∀ task ∈ client.told, ∃ leftover session,
    client.client.tasks[task]? = some (.bound leftover session)
  slot : ∀ outcome, client.bindRx = some outcome → client.Grounds outcome
  result : ∀ result, client.connecting = some (.returned result) →
    client.Accounts connectTimeout result
  held : Connecting.holds client.connecting = true → client.client.dropped = false
  past : client.since ≤ client.now

variable {settings : ClientSettings} {connectTimeout : Nat} {client next : Client}

theorem new_tracks (connectTimeout : Nat) : new.Tracks connectTimeout where
  fresh _ := ⟨rfl, rfl, rfl⟩
  starting := by simp [new, Smpp34.Client.new]
  lone := Nat.zero_le 1
  told _ member := absurd member List.not_mem_nil
  slot _ sent := by cases sent
  result _ returned := by cases returned
  held held := by cases held
  past := Nat.le_refl 0

theorem Grounds.ages {outcome : BindOutcome} {inner : Smpp34.Client}
    (grounds : client.Grounds outcome) (ages : Ages client.client inner) :
    { client with client := inner }.Grounds outcome := by
  cases outcome with
  | bound task => exact grounds
  | failed failure =>
    cases failure with
    | establish => exact ages.empty grounds
    | bindWrite => exact ages.over grounds

theorem Accounts.ages {result : Except ConnectError Nat} {inner : Smpp34.Client}
    (accounts : client.Accounts connectTimeout result) (ages : Ages client.client inner) :
    { client with client := inner }.Accounts connectTimeout result := by
  cases result with
  | ok task => exact accounts
  | error error =>
    cases error with
    | failed failure =>
      have grounds : client.Grounds (.failed failure) := accounts
      exact grounds.ages ages
    | timedOut => exact accounts
    | closed => exact accounts
    | panicked => exact accounts

theorem Tracks.ages {inner : Smpp34.Client} (tracks : client.Tracks connectTimeout)
    (ages : Ages client.client inner)
    (held : Connecting.holds client.connecting = true → inner.dropped = false) :
    { client with client := inner }.Tracks connectTimeout where
  fresh early := by
    obtain ⟨none, dark, unsent⟩ := tracks.fresh early
    exact ⟨ages.empty none, ages.dark none dark, unsent⟩
  starting := ages.starting ▸ tracks.starting
  lone := ages.length ▸ tracks.lone
  told task member := by
    obtain ⟨leftover, session, found⟩ := tracks.told task member
    exact ages.bound task leftover session found
  slot outcome sent := (tracks.slot outcome sent).ages ages
  result result returned := (tracks.result result returned).ages ages
  held := held
  past := tracks.past

theorem Tracks.settle (tracks : client.Tracks connectTimeout) {outcome : BindOutcome}
    (grounds : client.Grounds outcome) (late : Connecting.early client.connecting = false) :
    (client.settleBind outcome).Tracks connectTimeout := by
  unfold settleBind
  by_cases unsettled : client.bindTx = true
  · rw [if_pos unsettled]
    obtain ⟨fresh, starting, lone, told, slot, result, held, past⟩ := tracks
    split
    · exact ⟨fresh, starting, lone, told, slot, result, held, past⟩
    · have known : ∀ other, some outcome = some other → client.Grounds other := by
        intro other sent
        cases sent
        exact grounds
      have begun : Connecting.early client.connecting = true →
          client.client.tasks = [] ∧ client.client.alive = false ∧ some outcome = none := by
        intro early
        rw [late] at early
        cases early
      exact ⟨begun, starting, lone, told, known, result, held, past⟩
  · rw [if_neg unsettled]
    exact tracks

theorem Tracks.late (tracks : client.Tracks connectTimeout) {task : Nat} {found : SessionTask}
    (here : client.client.tasks[task]? = some found) :
    Connecting.early client.connecting = false := by
  by_contra early
  have none := (tracks.fresh (eq_true_of_ne_false early)).1
  rw [none] at here
  cases here

theorem connect_tracks (tracks : client.Tracks connectTimeout)
    (present : client.client.dropped = false) : client.connect.Tracks connectTimeout := by
  obtain ⟨fresh, starting, lone, told, slot, result, held, past⟩ := tracks
  unfold connect
  split
  · rename_i first
    refine ⟨fun _ => fresh (by rw [first]; rfl), ?_, lone, told, slot, ?_, fun _ => present, past⟩
    · rw [starting, first]
      simp
    · intro other returned
      cases returned
  · exact ⟨fresh, starting, lone, told, slot, result, held, past⟩

theorem start_tracks (tracks : client.Tracks connectTimeout) (taken : client.start = some next) :
    next.Tracks connectTimeout := by
  obtain ⟨fresh, starting, lone, told, slot, result, held, past⟩ := tracks
  unfold start at taken
  split at taken
  · rename_i locking
    have early : Connecting.early client.connecting = true := by rw [locking]; rfl
    have present : client.client.dropped = false := held (by rw [locking]; rfl)
    obtain ⟨none, dark, unsent⟩ := fresh early
    split at taken
    · split at taken
      · -- the guard of `SmppClient::start` holds: nothing was started before
        rename_i alive
        rw [dark] at alive
        cases alive
      · cases taken
        have began : client.client.start = { client.client with starting := true } := by
          simp [Smpp34.Client.start, dark]
        rw [began]
        refine ⟨fun _ => ⟨none, dark, unsent⟩, by simp, lone, told, ?_, ?_, fun _ => present, past⟩
        · intro outcome sent
          have empty : client.bindRx = some outcome := sent
          rw [unsent] at empty
          cases empty
        · intro other returned
          cases returned
    · cases taken
  · cases taken

theorem establish_tracks {established : Bool} (tracks : client.Tracks connectTimeout)
    (taken : client.establish established = some next) : next.Tracks connectTimeout := by
  obtain ⟨fresh, starting, lone, told, slot, result, held, past⟩ := tracks
  unfold establish at taken
  split at taken
  · rename_i begun
    have early : Connecting.early client.connecting = true := by rw [begun]; rfl
    have present : client.client.dropped = false := held (by rw [begun]; rfl)
    obtain ⟨none, dark, unsent⟩ := fresh early
    have silent : client.told = [] := by
      rw [List.eq_nil_iff_forall_not_mem]
      intro task member
      obtain ⟨leftover, session, found⟩ := told task member
      rw [none] at found
      cases found
    have waiting : ∀ inner : Smpp34.Client, inner.starting = false → inner.tasks.length ≤ 1 →
        inner.dropped = false →
        { client with
          since := client.now
          client := inner
          connecting := some .waiting }.Tracks connectTimeout := by
      intro inner ended length there
      refine ⟨?_, by simp [ended], length, ?_, ?_, ?_, fun _ => there, Nat.le_refl _⟩
      · intro begins
        cases begins
      · intro task member
        have before : task ∈ client.told := member
        rw [silent] at before
        cases before
      · intro outcome sent
        have empty : client.bindRx = some outcome := sent
        rw [unsent] at empty
        cases empty
      · intro other returned
        cases returned
    cases taken
    cases established with
    | true =>
      have one : (client.client.connect true).tasks.length ≤ 1 := by
        simp [Smpp34.Client.connect, none]
      exact waiting (client.client.connect true) rfl one present
    | false =>
      have zero : (client.client.connect false).tasks = [] := none
      have tracks := waiting (client.client.connect false) rfl (by simp [zero]) present
      exact tracks.settle zero rfl
  · cases taken

theorem bindFails_tracks {task : Nat} (tracks : client.Tracks connectTimeout)
    (taken : client.bindFails task = some next) : next.Tracks connectTimeout := by
  unfold bindFails at taken
  split at taken
  · rename_i found
    obtain ⟨inner, gone, rfl⟩ := Option.map_eq_some_iff.mp taken
    have ages := giveUp_ages gone
    obtain ⟨-, same⟩ := giveUp_tasks gone
    have only : task = 0 ∧ client.client.tasks = [.binding []] := by
      have inside := (List.getElem?_eq_some_iff.mp found).1
      have lone := tracks.lone
      have first : task = 0 := by omega
      have length : client.client.tasks.length = 1 := by omega
      obtain ⟨other, one⟩ := List.length_eq_one_iff.mp length
      rw [first, one] at found
      cases found
      exact ⟨first, one⟩
    have ended : inner.tasks = [.finished] := by
      rw [same, only.1, only.2]
      rfl
    have present : Connecting.holds client.connecting = true → inner.dropped = false := by
      rw [same]
      exact tracks.held
    exact (tracks.ages ages present).settle ended (tracks.late found)
  · cases taken

theorem announce_tracks {task : Nat} (tracks : client.Tracks connectTimeout)
    (taken : client.announce task = some next) : next.Tracks connectTimeout := by
  unfold announce at taken
  split at taken
  · rename_i leftover session found
    split at taken
    · cases taken
    · cases taken
      have more : { client with told := client.told ++ [task] }.Tracks connectTimeout := by
        obtain ⟨fresh, starting, lone, told, slot, result, held, past⟩ := tracks
        have grown : ∀ outcome, client.Grounds outcome →
            { client with told := client.told ++ [task] }.Grounds outcome := by
          intro outcome grounds
          cases outcome with
          | bound task => exact List.mem_append_left _ grounds
          | failed failure => cases failure <;> exact grounds
        refine ⟨fresh, starting, lone, ?_, ?_, ?_, held, past⟩
        · intro other member
          rcases List.mem_append.mp member with old | new
          · exact told other old
          · rw [List.mem_singleton.mp new]
            exact ⟨leftover, session, found⟩
        · exact fun outcome sent => grown outcome (slot outcome sent)
        · intro other returned
          have accounts := result other returned
          cases other with
          | ok task => exact grown (.bound task) accounts
          | error error =>
            cases error with
            | failed failure => exact grown (.failed failure) accounts
            | timedOut | closed | panicked => exact accounts
      exact more.settle (List.mem_append_right _ (List.mem_singleton_self task)) (tracks.late found)
  · cases taken

theorem Tracks.return (tracks : client.Tracks connectTimeout) {returned : Except ConnectError Nat}
    {bindRx : Option BindOutcome} (accounts : client.Accounts connectTimeout returned)
    (fewer : ∀ outcome, bindRx = some outcome → client.bindRx = some outcome)
    (waiting : client.connecting = some .waiting) :
    { client with
      bindRx := bindRx
      connecting := some (.returned returned) }.Tracks connectTimeout := by
  obtain ⟨fresh, starting, lone, told, slot, result, held, past⟩ := tracks
  have grounds : ∀ outcome, client.Grounds outcome →
      { client with
        bindRx := bindRx
        connecting := some (.returned returned) }.Grounds outcome := by
    intro outcome grounds
    cases outcome with
    | bound task => exact grounds
    | failed failure => cases failure <;> exact grounds
  refine ⟨?_, ?_, lone, told, ?_, ?_, ?_, past⟩
  · intro early
    cases early
  · rw [starting, waiting]
    simp
  · exact fun outcome sent => grounds outcome (slot outcome (fewer outcome sent))
  · intro other same
    cases same
    cases returned with
    | ok task => exact grounds (.bound task) accounts
    | error error =>
      cases error with
      | failed failure => exact grounds (.failed failure) accounts
      | timedOut | closed | panicked => exact accounts
  · intro holds
    cases holds

theorem advance_tracks (tracks : client.Tracks connectTimeout) (duration : Nat) :
    { client with now := client.now + duration }.Tracks connectTimeout := by
  obtain ⟨fresh, starting, lone, told, slot, result, held, past⟩ := tracks
  have grounds : ∀ outcome, client.Grounds outcome →
      { client with now := client.now + duration }.Grounds outcome := by
    intro outcome grounds
    cases outcome with
    | bound task => exact grounds
    | failed failure => cases failure <;> exact grounds
  refine ⟨fresh, starting, lone, told, fun outcome sent => grounds outcome (slot outcome sent), ?_,
    held, past.trans (Nat.le_add_right _ _)⟩
  intro other returned
  have accounts := result other returned
  cases other with
  | ok task => exact grounds (.bound task) accounts
  | error error =>
    cases error with
    | failed failure => exact grounds (.failed failure) accounts
    | timedOut =>
      have waited : client.since + connectTimeout ≤ client.now := accounts
      show client.since + connectTimeout ≤ client.now + duration
      omega
    | closed | panicked => exact accounts

theorem step_tracks {event : ConnectEvent} (tracks : client.Tracks connectTimeout)
    (taken : client.step settings connectTimeout event = some next) :
    next.Tracks connectTimeout := by
  cases event with
  | advance duration =>
    cases taken
    exact advance_tracks tracks duration
  | connect =>
    simp only [step] at taken
    split at taken
    · cases taken
    · rename_i present
      cases taken
      exact connect_tracks tracks (eq_false_of_ne_true present)
  | start => exact start_tracks tracks taken
  | establish established => exact establish_tracks tracks taken
  | bindFails task => exact bindFails_tracks tracks taken
  | announce task => exact announce_tracks tracks taken
  | read task piece =>
    obtain ⟨inner, moved, rfl⟩ := Option.map_eq_some_iff.mp taken
    exact tracks.ages (read_ages moved) fun holds => (read_dropped moved).trans (tracks.held holds)
  | giveUp task =>
    obtain ⟨inner, moved, rfl⟩ := Option.map_eq_some_iff.mp taken
    have same := (giveUp_tasks moved).2
    exact tracks.ages (giveUp_ages moved) fun holds => same ▸ tracks.held holds
  | act task event =>
    obtain ⟨inner, moved, rfl⟩ := Option.map_eq_some_iff.mp taken
    exact tracks.ages (act_ages moved) fun holds => (act_dropped moved).trans (tracks.held holds)
  | stop =>
    obtain ⟨inner, moved, rfl⟩ := Option.map_eq_some_iff.mp taken
    simp only [Smpp34.Client.step] at moved
    split at moved
    · cases moved
      exact tracks.ages (stop_ages settings client.client) tracks.held
    · cases moved
  | drop =>
    simp only [step] at taken
    split at taken
    · cases taken
    · rename_i released
      obtain ⟨inner, moved, rfl⟩ := Option.map_eq_some_iff.mp taken
      simp only [Smpp34.Client.step] at moved
      split at moved
      · cases moved
        exact tracks.ages (drop_ages settings client.client) fun holds => absurd holds released
      · cases moved
  | resolve =>
    simp only [step, resolve] at taken
    split at taken
    · rename_i task waiting sent
      cases taken
      exact tracks.return (tracks.slot _ sent) (fun _ none => by cases none) waiting
    · rename_i failure waiting sent
      cases taken
      exact tracks.return (tracks.slot _ sent) (fun _ none => by cases none) waiting
    · cases taken
  | expire =>
    simp only [step, expire] at taken
    split at taken
    · rename_i waiting unsent
      split at taken
      · rename_i waited
        cases taken
        exact tracks.return waited (fun _ => id) waiting
      · cases taken
    · cases taken
  | disconnect =>
    simp only [step, disconnect] at taken
    split at taken
    · rename_i waiting unsent
      -- the call holds the client, and with it the forwarder and the sender
      have present := tracks.held (by rw [waiting]; rfl)
      have lives : client.forwarderLives = true := by
        simp [forwarderLives, present]
      rw [lives] at taken
      cases taken
    · cases taken

theorem run_tracks {events : List ConnectEvent}
    (reached : run (step settings connectTimeout) new events = some client) :
    client.Tracks connectTimeout :=
  Machine.run_invariant (fun _ _ _ tracks taken => step_tracks tracks taken)
    (new_tracks connectTimeout) reached

/-- A call that waits comes back: with the outcome, or once the time is up. -/
theorem Tracks.returns (tracks : client.Tracks connectTimeout) (settings : ClientSettings)
    (waiting : client.connecting = some .waiting) :
    ∃ events final result, (∀ event ∈ events, event = .advance connectTimeout ∨
        event = .resolve ∨ event = .expire) ∧
      run (step settings connectTimeout) client events = some final ∧
      final.connecting = some (.returned result) := by
  cases sent : client.bindRx with
  | some outcome =>
    have resolved : ∃ final result, client.resolve = some final ∧
        final.connecting = some (.returned result) := by
      unfold resolve
      cases outcome with
      | bound task => exact ⟨_, _, by rw [waiting, sent], rfl⟩
      | failed failure => exact ⟨_, _, by rw [waiting, sent], rfl⟩
    obtain ⟨final, result, moved, returned⟩ := resolved
    exact ⟨[.resolve], final, result, by simp, Machine.run_single moved, returned⟩
  | none =>
    have elapsed : client.since + connectTimeout ≤ client.now + connectTimeout :=
      Nat.add_le_add_right tracks.past connectTimeout
    have expired : expire connectTimeout { client with now := client.now + connectTimeout } =
        some
          { client with
            now := client.now + connectTimeout
            connecting := some (.returned (.error .timedOut)) } := by
      simp only [expire, waiting, sent]
      rw [if_pos elapsed]
    exact ⟨[.advance connectTimeout, .expire], _, _, by simp,
      Machine.run_cons_iff.mpr ⟨_, rfl, Machine.run_single expired⟩, rfl⟩

end Client

/-- Whatever the server and the application do: the client is started once, so that one session at
    most is ever there and the guard of `SmppClient::start` is never hit. `connect()` returns a
    session only where one is bound, the reason of a failure only where it left none, and gives up
    only when its time is up; it never finds the bind channel closed. And it does return. -/
theorem connect_accounts_for_bind (settings : ClientSettings) (connectTimeout : Nat)
    (events : List ConnectEvent) (client : Client)
    (reached : run (Client.step settings connectTimeout) Client.new events = some client) :
    client.client.tasks.length ≤ 1 ∧
      (∀ task ∈ client.told, ∃ leftover session,
        client.client.tasks[task]? = some (.bound leftover session)) ∧
      (∀ result, client.connecting = some (.returned result) →
        client.Accounts connectTimeout result) ∧
      (client.connecting = some .waiting → ∃ later final result,
        (∀ event ∈ later, event = .advance connectTimeout ∨ event = .resolve ∨ event = .expire) ∧
        run (Client.step settings connectTimeout) client later = some final ∧
        final.connecting = some (.returned result)) := by
  have tracks := Client.run_tracks reached
  exact ⟨tracks.lone, tracks.told, tracks.result, tracks.returns settings⟩

theorem bind_after_time_out :
    let settings : ClientSettings := ⟨.transceiver, 10, 100⟩
    let events : List ConnectEvent :=
      [.connect, .start, .establish true, .advance 10, .expire, .read 0 bindAccepted, .announce 0,
        .connect]
    ∃ client, run (Client.step settings 10) Client.new events = some client ∧
      client.told = [0] ∧ client.refused = 1 ∧ client.client.alive = true ∧
      client.connecting = some (.returned (.error .timedOut)) ∧
      client.Accounts 10 (.error .timedOut) := by
  intro settings events
  refine ⟨_, rfl, rfl, rfl, rfl, rfl, ?_⟩
  exact (connect_accounts_for_bind settings 10 events _ rfl).2.2.1 _ rfl

end Python

end Smpp34
