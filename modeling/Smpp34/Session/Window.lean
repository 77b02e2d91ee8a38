import Smpp34.Session.Correlation

namespace Smpp34

open Machine (run Throughout)

/-- The call of `send_*` has not returned. -/
def CallStage.underWay : CallStage → Bool
  | queueing | waiting _ => true
  | _ => false

def Call.unanswered (call : Call) : Bool :=
  match call.stage with
  | .waiting _ => call.slot.isNone
  | _ => false

def Event.isCall : Event → Bool
  | call _ => true
  | _ => false

namespace Session

variable {endpoint : Endpoint} {session next : Session}

def written (session : Session) (caller : Nat) : Bool :=
  session.sent.any fun emission => emission.origin = .call caller

/-- The requests of the application that were written to the socket and have been neither answered
    nor given up. -/
def inFlight (session : Session) : Nat :=
  session.calls.zipIdx.countP fun (call, caller) => call.unanswered && session.written caller

def openCalls (session : Session) : Nat :=
  (session.calls.map Call.stage).countP CallStage.underWay

theorem unanswered_underWay {call : Call} (unanswered : call.unanswered = true) :
    call.stage.underWay = true := by
  rw [Call.unanswered] at unanswered
  split at unanswered
  · rename_i stage
    rw [stage]
    rfl
  · cases unanswered

theorem inFlight_le (session : Session) : session.inFlight ≤ session.openCalls := by
  have calls : session.openCalls =
      session.calls.zipIdx.countP fun (call, _) => call.stage.underWay := by
    rw [openCalls, ← List.zipIdx_map_fst 0 session.calls, List.map_map, List.countP_map,
      List.zipIdx_map_fst]
    rfl
  rw [inFlight, calls]
  apply List.countP_mono_left
  rintro ⟨call, caller⟩ - flying
  exact unanswered_underWay (Bool.and_eq_true_iff.mp flying).1

theorem modify_underWay {calls : List Call} {caller : Nat} {change : Call → Call}
    (later : ∀ call, (change call).stage.underWay = true → call.stage.underWay = true) :
    ((calls.modify caller change).map Call.stage).countP CallStage.underWay ≤
      (calls.map Call.stage).countP CallStage.underWay := by
  induction calls generalizing caller with
  | nil => rw [List.modify_nil]
  | cons call calls ih =>
    cases caller with
    | zero =>
      rw [List.modify_zero_cons, List.map_cons, List.map_cons, List.countP_cons, List.countP_cons]
      by_cases open_ : (change call).stage.underWay = true
      · rw [if_pos open_, if_pos (later call open_)]
      · rw [if_neg open_]
        omega
    | succ caller =>
      have rest := @ih caller
      rw [List.modify_succ_cons, List.map_cons, List.map_cons, List.countP_cons, List.countP_cons]
      omega

theorem queued_underWay (call : Call) (now : Nat)
    (open_ : (call.queued now).stage.underWay = true) : call.stage.underWay = true := by
  unfold Call.queued at open_
  split at open_
  · rename_i stage
    rw [stage]
    rfl
  · exact open_

theorem step_openCalls {event : Event} (taken : session.step endpoint event = some next) :
    next.openCalls ≤ session.openCalls ∨
      (∃ request, event = .call request) ∧ next.openCalls = session.openCalls + 1 := by
  cases step_stages taken with
  | kept same =>
    left
    rw [openCalls, same]
    exact Nat.le_refl _
  | called new stage =>
    right
    refine ⟨⟨_, rfl⟩, ?_⟩
    rw [openCalls, new, List.map_append, List.countP_append, List.map_singleton, stage]
    rfl
  | queued changed =>
    left
    rw [openCalls, changed]
    exact modify_underWay fun call open_ => queued_underWay call session.now open_
  | resolved found changed =>
    left
    rw [openCalls, changed]
    exact modify_underWay fun call open_ => by cases open_
  | dropped found unanswered changed =>
    left
    rw [openCalls, changed]
    exact modify_underWay fun call open_ => by cases open_

/-- The application holds itself to the window: no call begins while as many are under way. -/
def Throttled (window : Nat) (session : Session) (event : Event) : Prop :=
  event.isCall = true → session.openCalls < window

instance (window : Nat) (session : Session) (event : Event) :
    Decidable (Throttled window session event) := inferInstanceAs (Decidable (_ → _))

theorem run_openCalls {window : Nat} {events : List Event} {final : Session}
    (few : session.openCalls ≤ window)
    (throttled : Throughout (step endpoint) (Throttled window) session events)
    (reached : run (step endpoint) session events = some final) : final.openCalls ≤ window := by
  refine @Machine.run_invariant_where _ _ (step endpoint) (Throttled window)
    (fun now => now.openCalls ≤ window) ?_ session final events few throttled reached
  intro now event next before met taken
  rcases step_openCalls taken with fewer | ⟨⟨request, rfl⟩, more⟩
  · omega
  · have room := met rfl
    omega

end Session

/-- Nothing but the application bounds what is in flight: where it has no more than `window` calls
under way, no more than `window` requests are. -/
theorem window_kept_by_callers (endpoint : Endpoint) (window : Nat) (events : List Event)
    (session : Session)
    (throttled : Throughout (Session.step endpoint) (Session.Throttled window) endpoint.start events)
    (reached : run (Session.step endpoint) endpoint.start events = some session) :
    session.inFlight ≤ window := by
  have few : endpoint.start.openCalls ≤ window := Nat.zero_le window
  have calls := Session.run_openCalls few throttled reached
  have flying := session.inFlight_le
  omega

theorem one_query_in_flight :
    let endpoint : Endpoint := ⟨.client, .trx, 10, 100⟩
    let query := Request.querySm (QuerySm.new 0 Utf8.Str.empty 0 0 Utf8.Str.empty)
    let events : List Event :=
      [.call query, .enqueue 0, .check, .take, .register, .write (.accepted 20)]
    ∃ session, run (Session.step endpoint) endpoint.start events = some session ∧
      session.inFlight = 1 ∧ session.inFlight ≤ 1 := by
  intro endpoint query events
  have throttled : Throughout (Session.step endpoint) (Session.Throttled 1) endpoint.start
      events := by
    decide
  refine ⟨_, rfl, rfl, ?_⟩
  exact window_kept_by_callers endpoint 1 events _ throttled rfl

theorem window_of_one_exceeded :
    let endpoint : Endpoint := ⟨.client, .trx, 10, 100⟩
    let query := Request.querySm (QuerySm.new 0 Utf8.Str.empty 0 0 Utf8.Str.empty)
    ∃ session, run (Session.step endpoint) endpoint.start
        [.call query, .call query, .enqueue 0, .enqueue 0, .check, .take, .register,
          .write (.accepted 20), .check, .take, .register, .write (.accepted 20)] = some session ∧
      session.sent.length = 2 ∧ session.inFlight = 2 := by
  intro endpoint query
  exact ⟨_, rfl, rfl, rfl⟩

end Smpp34
