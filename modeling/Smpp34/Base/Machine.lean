import Mathlib.Logic.Relation

namespace Machine

variable {σ ε : Type} (step : σ → ε → Option σ)

def run (state : σ) (events : List ε) : Option σ := events.foldlM step state

/-- Every step of a run meets a condition on the state before it and the event. -/
def Throughout (meets : σ → ε → Prop) : σ → List ε → Prop
  | _, [] => True
  | state, event :: events =>
    meets state event ∧ ∀ next, step state event = some next → Throughout meets next events

instance decidableThroughout (meets : σ → ε → Prop) [∀ state event, Decidable (meets state event)] :
    (state : σ) → (events : List ε) → Decidable (Throughout step meets state events)
  | _, [] => isTrue True.intro
  | state, event :: events =>
    have : Decidable
        (∀ next, step state event = some next → Throughout step meets next events) :=
      match step state event with
      | none => isTrue nofun
      | some next =>
        have := decidableThroughout meets next events
        decidable_of_iff (Throughout step meets next events)
          ⟨fun later _ same => Option.some.inj same ▸ later, fun later => later next rfl⟩
    inferInstanceAs (Decidable (_ ∧ _))

/-- What a list of the state grows by over a run, step by step. -/
def gained {α : Type} (part : σ → List α) : σ → List ε → List α
  | _, [] => []
  | state, event :: events =>
    match step state event with
    | some next => (part next).drop (part state).length ++ gained part next events
    | none => []

variable {step}

theorem run_cons_iff {state final : σ} {event : ε} {events : List ε} :
    run step state (event :: events) = some final ↔
      ∃ next, step state event = some next ∧ run step next events = some final := by
  unfold run
  rw [List.foldlM_cons]
  exact Option.bind_eq_some_iff

theorem run_append_iff {state final : σ} {first second : List ε} :
    run step state (first ++ second) = some final ↔
      ∃ middle, run step state first = some middle ∧ run step middle second = some final := by
  unfold run
  rw [List.foldlM_append]
  exact Option.bind_eq_some_iff

theorem run_append {state middle final : σ} {first second : List ε}
    (before : run step state first = some middle) (after : run step middle second = some final) :
    run step state (first ++ second) = some final :=
  run_append_iff.mpr ⟨middle, before, after⟩

theorem run_single {state next : σ} {event : ε} (taken : step state event = some next) :
    run step state [event] = some next :=
  run_cons_iff.mpr ⟨next, taken, rfl⟩

/-- What every step that meets the condition keeps holds at the end of the run. -/
theorem run_invariant_where {meets : σ → ε → Prop} {holds : σ → Prop}
    (kept : ∀ state event next, holds state → meets state event → step state event = some next →
      holds next)
    {state final : σ} {events : List ε} (initially : holds state)
    (met : Throughout step meets state events) (reached : run step state events = some final) :
    holds final := by
  induction events generalizing state with
  | nil =>
    cases reached
    exact initially
  | cons event events ih =>
    obtain ⟨next, taken, rest⟩ := run_cons_iff.mp reached
    obtain ⟨now, later⟩ := met
    exact ih (kept state event next initially now taken) (later next taken) rest

theorem throughout_true (state : σ) (events : List ε) :
    Throughout step (fun _ _ => True) state events := by
  induction events generalizing state with
  | nil => exact True.intro
  | cons event events ih => exact ⟨True.intro, fun next _ => ih next⟩

theorem throughout_of_forall {meets : ε → Prop} {events : List ε}
    (all : ∀ event ∈ events, meets event) (state : σ) :
    Throughout step (fun _ event => meets event) state events := by
  induction events generalizing state with
  | nil => exact True.intro
  | cons event events ih =>
    have later : ∀ other ∈ events, meets other :=
      fun other member => all other (List.mem_cons_of_mem _ member)
    exact ⟨all event List.mem_cons_self, fun next _ => ih later next⟩

theorem throughout_and {meets also : σ → ε → Prop} {state : σ} {events : List ε}
    (first : Throughout step meets state events) (second : Throughout step also state events) :
    Throughout step (fun state event => meets state event ∧ also state event) state events := by
  induction events generalizing state with
  | nil => exact True.intro
  | cons event events ih =>
    exact ⟨⟨first.1, second.1⟩, fun next taken => ih (first.2 next taken) (second.2 next taken)⟩

theorem run_invariant {holds : σ → Prop}
    (kept : ∀ state event next, holds state → step state event = some next → holds next)
    {state final : σ} {events : List ε} (initially : holds state)
    (reached : run step state events = some final) : holds final :=
  run_invariant_where (fun state event next before _ taken => kept state event next before taken)
    initially (throughout_true state events) reached

theorem throughout_append {meets : σ → ε → Prop} {state middle : σ} {first second : List ε}
    (met : Throughout step meets state (first ++ second))
    (reached : run step state first = some middle) : Throughout step meets middle second := by
  induction first generalizing state with
  | nil =>
    cases reached
    exact met
  | cons event first ih =>
    obtain ⟨next, taken, rest⟩ := run_cons_iff.mp reached
    exact ih (met.2 next taken) rest

theorem throughout_mono {meets also : σ → ε → Prop}
    (implies : ∀ state event, meets state event → also state event) {state : σ} {events : List ε}
    (met : Throughout step meets state events) : Throughout step also state events := by
  induction events generalizing state with
  | nil => exact True.intro
  | cons event events ih =>
    exact ⟨implies state event met.1, fun next taken => ih (met.2 next taken)⟩

theorem throughout_before {meets : σ → ε → Prop} {state : σ} {first second : List ε}
    (met : Throughout step meets state (first ++ second)) : Throughout step meets state first := by
  induction first generalizing state with
  | nil => exact True.intro
  | cons event first ih => exact ⟨met.1, fun next taken => ih (met.2 next taken)⟩

/-- What holds at the end and did not hold at the start has come about at a step. -/
theorem run_turn {holds : σ → Prop} {state final : σ} {events : List ε}
    (reached : run step state events = some final) (first : ¬ holds state) (last : holds final) :
    ∃ before event after middle next, events = before ++ event :: after ∧
      run step state before = some middle ∧ step middle event = some next ∧
      run step next after = some final ∧ ¬ holds middle ∧ holds next := by
  induction events generalizing state with
  | nil =>
    cases reached
    exact absurd last first
  | cons event events ih =>
    obtain ⟨next, taken, rest⟩ := run_cons_iff.mp reached
    by_cases now : holds next
    · exact ⟨[], event, events, state, next, rfl, rfl, taken, rest, first, now⟩
    · obtain ⟨before, turn, after, middle, later, rfl, reached, facts⟩ := ih rest now
      exact ⟨event :: before, turn, after, middle, later, rfl,
        run_cons_iff.mpr ⟨next, taken, reached⟩, facts⟩

/-- A log that each step adds to holds what the steps of the run have added. -/
theorem run_logged {α : Type} {log : σ → List α} {adds : σ → ε → α → Prop}
    (logged : ∀ state event next, step state event = some next →
      ∀ value, value ∈ log next ↔ value ∈ log state ∨ adds state event value)
    {state final : σ} {events : List ε} (reached : run step state events = some final) (value : α) :
    value ∈ log final ↔ value ∈ log state ∨
      ∃ before event after middle, events = before ++ event :: after ∧
        run step state before = some middle ∧ adds middle event value := by
  constructor
  · intro last
    by_cases first : value ∈ log state
    · exact .inl first
    · have holds := @run_turn σ ε step (fun now => value ∈ log now) state final events reached first
        last
      obtain ⟨before, event, after, middle, next, split, ran, taken, -, absent, present⟩ := holds
      rcases (logged middle event next taken value).mp present with old | new
      · exact absurd old absent
      · exact .inr ⟨before, event, after, middle, split, ran, new⟩
  · have kept : ∀ {now later : σ} {events : List ε}, value ∈ log now →
        run step now events = some later → value ∈ log later := by
      intro now later events member ran
      exact run_invariant
        (fun state event next old taken => (logged state event next taken value).mpr (.inl old))
        member ran
    rintro (first | ⟨before, event, after, middle, rfl, ran, new⟩)
    · exact kept first reached
    · obtain ⟨middle', ran', rest⟩ := run_append_iff.mp reached
      rw [ran] at ran'
      cases ran'
      obtain ⟨next, taken, rest⟩ := run_cons_iff.mp rest
      exact kept ((logged middle event next taken value).mpr (.inr new)) rest

/-- What each step adds to a record is what its part of the state grows by, and so over a run. -/
theorem run_gained {α : Type} {part record : σ → List α} {holds : σ → Prop}
    (kept : ∀ state event next, holds state → step state event = some next → holds next)
    (grows : ∀ state event next, holds state → step state event = some next →
      record next = record state ++ (part next).drop (part state).length)
    {state final : σ} {events : List ε} (initially : holds state)
    (reached : run step state events = some final) :
    record final = record state ++ gained step part state events := by
  induction events generalizing state with
  | nil =>
    cases reached
    exact (List.append_nil _).symm
  | cons event events ih =>
    obtain ⟨next, taken, rest⟩ := run_cons_iff.mp reached
    have later := ih (kept state event next initially taken) rest
    rw [later, grows state event next initially taken, List.append_assoc, gained, taken]

theorem run_monotone {measure : σ → Nat}
    (rises : ∀ state event next, step state event = some next → measure state ≤ measure next)
    {state final : σ} {events : List ε} (reached : run step state events = some final) :
    measure state ≤ measure final :=
  run_invariant (fun now event next (before : measure state ≤ measure now) taken =>
    Nat.le_trans before (rises now event next taken)) (Nat.le_refl _) reached

theorem run_refines {τ : Type} {abstract : σ → τ} {move : τ → τ → Prop} {holds : σ → Prop}
    (kept : ∀ state event next, holds state → step state event = some next → holds next)
    (refines : ∀ state event next, holds state → step state event = some next →
      Relation.ReflTransGen move (abstract state) (abstract next))
    {state final : σ} {events : List ε} (initially : holds state)
    (reached : run step state events = some final) :
    Relation.ReflTransGen move (abstract state) (abstract final) := by
  have both : holds final ∧ Relation.ReflTransGen move (abstract state) (abstract final) :=
    @run_invariant σ ε step
      (fun now => holds now ∧ Relation.ReflTransGen move (abstract state) (abstract now))
      (fun now event next before taken =>
        ⟨kept now event next before.1 taken,
          before.2.trans (refines now event next before.1 taken)⟩)
      state final events ⟨initially, .refl⟩ reached
  exact both.2

/-- A machine with room for it follows where each step is matched by a run of that machine. -/
theorem run_simulates {τ δ : Type} {other : Nat → τ → δ → Option τ} {meets : σ → ε → Prop}
    {shows : σ → τ → Prop}
    (matched : ∀ state event next image, shows state image → meets state event →
      step state event = some next → ∃ moves image' enough, shows next image' ∧
        ∀ room, enough ≤ room → run (other room) image moves = some image')
    {state final : σ} {image : τ} {events : List ε} (initially : shows state image)
    (met : Throughout step meets state events) (reached : run step state events = some final) :
    ∃ moves image' enough, shows final image' ∧
      ∀ room, enough ≤ room → run (other room) image moves = some image' := by
  induction events generalizing state image with
  | nil =>
    cases reached
    exact ⟨[], image, 0, initially, fun _ _ => rfl⟩
  | cons event events ih =>
    obtain ⟨next, taken, rest⟩ := run_cons_iff.mp reached
    obtain ⟨first, middle, some, shown, before⟩ :=
      matched state event next image initially met.1 taken
    obtain ⟨later, last, more, shows, after⟩ := ih shown (met.2 next taken) rest
    refine ⟨first ++ later, last, max some more, shows, ?_⟩
    intro room enough
    exact run_append (before room (Nat.le_trans (Nat.le_max_left _ _) enough))
      (after room (Nat.le_trans (Nat.le_max_right _ _) enough))

end Machine
