import Mathlib.Data.List.Basic
import Mathlib.Tactic.Common

namespace Delimited

inductive Verdict (ε : Type) where
  | incomplete
  | complete (size : Nat)
  | invalid (reason : ε)
deriving DecidableEq, Repr

/-- A judgement of a stream's front that no later item can change once it is made. -/
structure Delimiter (α ε : Type) where
  judge : List α → Verdict ε
  positive : ∀ {items size}, judge items = .complete size → 0 < size
  within : ∀ {items size}, judge items = .complete size → size ≤ items.length
  complete_append : ∀ {items size} (more : List α),
    judge items = .complete size → judge (items ++ more) = .complete size
  invalid_append : ∀ {items reason} (more : List α),
    judge items = .invalid reason → judge (items ++ more) = .invalid reason

inductive Ending (α ε : Type) where
  | waiting (tail : List α)
  | fault (reason : ε)
  | stopped
deriving DecidableEq, Repr

structure Outcome (σ α ε : Type) where
  state : σ
  consumed : Nat
  ending : Ending α ε
deriving DecidableEq, Repr

def Outcome.shift {σ α ε : Type} (n : Nat) (outcome : Outcome σ α ε) : Outcome σ α ε :=
  { outcome with consumed := n + outcome.consumed }

variable {α ε σ : Type} (d : Delimiter α ε)

theorem drop_shorter {items : List α} {size : Nat} (whole : d.judge items = .complete size) :
    (items.drop size).length < items.length := by
  have positive := d.positive whole
  have within := d.within whole
  rw [List.length_drop]
  omega

/-- The reference framing: cut frames off the front until the rest is short or bad. -/
def cut (items : List α) : List (List α) × Ending α ε :=
  match _ : d.judge items with
  | .incomplete => ([], .waiting items)
  | .invalid reason => ([], .fault reason)
  | .complete size =>
    let later := cut (items.drop size)
    (items.take size :: later.1, later.2)
termination_by items.length
decreasing_by exact drop_shorter d (by assumption)

def deliver (handle : σ → List α → σ × Bool) :
    σ → List (List α) → Ending α ε → Outcome σ α ε
  | state, [], ending => ⟨state, 0, ending⟩
  | state, frame :: frames, ending =>
    match handle state frame with
    | (next, true) => (deliver handle next frames ending).shift frame.length
    | (next, false) => ⟨next, 0, .stopped⟩

/-- Frame and handle what one buffer holds. -/
def consume (handle : σ → List α → σ × Bool) (state : σ) (items : List α) : Outcome σ α ε :=
  match _ : d.judge items with
  | .incomplete => ⟨state, 0, .waiting items⟩
  | .invalid reason => ⟨state, 0, .fault reason⟩
  | .complete size =>
    match handle state (items.take size) with
    | (next, true) => (consume handle next (items.drop size)).shift size
    | (next, false) => ⟨next, 0, .stopped⟩
termination_by items.length
decreasing_by exact drop_shorter d (by assumption)

/-- Read a stream piece by piece, keeping what is not yet a whole frame. -/
def feed (handle : σ → List α → σ × Bool) :
    σ → List α → List (List α) → Outcome σ α ε
  | state, buffer, [] => ⟨state, 0, .waiting buffer⟩
  | state, buffer, piece :: pieces =>
    let outcome := consume d handle state (buffer ++ piece)
    match outcome.ending with
    | .waiting tail => (feed handle outcome.state tail pieces).shift outcome.consumed
    | _ => outcome

theorem cut_incomplete {items : List α} (short : d.judge items = .incomplete) :
    cut d items = ([], .waiting items) := by
  rw [cut]
  split <;> simp_all

theorem cut_invalid {items : List α} {reason : ε} (bad : d.judge items = .invalid reason) :
    cut d items = ([], .fault reason) := by
  rw [cut]
  split <;> simp_all

theorem cut_complete {items : List α} {size : Nat} (whole : d.judge items = .complete size) :
    cut d items =
      (items.take size :: (cut d (items.drop size)).1, (cut d (items.drop size)).2) := by
  rw [cut]
  split <;> simp_all

theorem consume_incomplete (handle : σ → List α → σ × Bool) (state : σ) {items : List α}
    (short : d.judge items = .incomplete) :
    consume d handle state items = ⟨state, 0, .waiting items⟩ := by
  rw [consume]
  split <;> simp_all

theorem consume_invalid (handle : σ → List α → σ × Bool) (state : σ) {items : List α}
    {reason : ε} (bad : d.judge items = .invalid reason) :
    consume d handle state items = ⟨state, 0, .fault reason⟩ := by
  rw [consume]
  split <;> simp_all

theorem consume_complete (handle : σ → List α → σ × Bool) (state : σ) {items : List α}
    {size : Nat} (whole : d.judge items = .complete size) :
    consume d handle state items =
      match handle state (items.take size) with
      | (next, true) => (consume d handle next (items.drop size)).shift size
      | (next, false) => ⟨next, 0, .stopped⟩ := by
  rw [consume]
  split <;> simp_all

@[simp] theorem shift_zero (outcome : Outcome σ α ε) : outcome.shift 0 = outcome := by
  simp [Outcome.shift]

theorem cut_flatten (frames : List (List α)) (nothing : d.judge [] = .incomplete)
    (each : ∀ frame ∈ frames, d.judge frame = .complete frame.length) :
    cut d frames.flatten = (frames, .waiting []) := by
  induction frames with
  | nil => exact cut_incomplete d nothing
  | cons frame frames ih =>
    have first := d.complete_append frames.flatten (each frame List.mem_cons_self)
    rw [List.flatten_cons, cut_complete d first, List.take_left, List.drop_left,
      ih fun other member => each other (List.mem_cons_of_mem frame member)]

theorem front_of_flatten {frames : List (List α)} {seen more : List α} {size : Nat}
    (nothing : d.judge [] = .incomplete)
    (each : ∀ frame ∈ frames, d.judge frame = .complete frame.length)
    (stream : frames.flatten = seen ++ more) (whole : d.judge seen = .complete size) :
    ∃ rest, frames = seen.take size :: rest ∧ rest.flatten = seen.drop size ++ more := by
  have judged := d.complete_append more whole
  have within := d.within whole
  rw [← stream] at judged
  cases frames with
  | nil =>
    rw [List.flatten_nil, nothing] at judged
    cases judged
  | cons frame rest =>
    have first := d.complete_append rest.flatten (each frame List.mem_cons_self)
    rw [List.flatten_cons] at judged stream
    rw [first] at judged
    cases judged
    have front := congrArg (List.take frame.length) stream
    have back := congrArg (List.drop frame.length) stream
    rw [List.take_left, List.take_append_of_le_length within] at front
    rw [List.drop_left, List.drop_append_of_le_length within] at back
    exact ⟨rest, by rw [← front], back⟩

/-- Handling as one frames is handling the reference framing. -/
theorem consume_eq_deliver (handle : σ → List α → σ × Bool) (state : σ) (items : List α) :
    consume d handle state items = deliver handle state (cut d items).1 (cut d items).2 := by
  induction bound : items.length using Nat.strongRecOn generalizing state items with
  | ind length ih =>
    subst bound
    cases judged : d.judge items with
    | incomplete =>
      rw [consume_incomplete d handle state judged, cut_incomplete d judged]
      rfl
    | invalid reason =>
      rw [consume_invalid d handle state judged, cut_invalid d judged]
      rfl
    | complete size =>
      have sized : (items.take size).length = size := by
        rw [List.length_take]
        exact Nat.min_eq_left (d.within judged)
      rw [consume_complete d handle state judged, cut_complete d judged, deliver, sized]
      rcases handle state (items.take size) with ⟨next, continued⟩
      cases continued with
      | false => rfl
      | true =>
        simp only
        rw [ih _ (drop_shorter d judged) next _ rfl]

theorem consume_append (handle : σ → List α → σ × Bool) (state : σ) (items more : List α) :
    consume d handle state (items ++ more) =
      match (consume d handle state items).ending with
      | .waiting tail =>
        (consume d handle (consume d handle state items).state (tail ++ more)).shift
          (consume d handle state items).consumed
      | _ => consume d handle state items := by
  induction bound : items.length using Nat.strongRecOn generalizing state items with
  | ind length ih =>
    subst bound
    cases judged : d.judge items with
    | incomplete => simp [consume_incomplete d handle state judged]
    | invalid reason =>
      simp [consume_invalid d handle state judged,
        consume_invalid d handle state (d.invalid_append more judged)]
    | complete size =>
      have within := d.within judged
      rw [consume_complete d handle state judged,
        consume_complete d handle state (d.complete_append more judged),
        List.take_append_of_le_length within, List.drop_append_of_le_length within]
      rcases handle state (items.take size) with ⟨next, continued⟩
      cases continued with
      | false => rfl
      | true =>
        simp only
        rw [ih _ (drop_shorter d judged) next _ rfl]
        cases ended : (consume d handle next (items.drop size)).ending with
        | waiting tail => simp [Outcome.shift, ended, Nat.add_assoc]
        | fault reason => simp [Outcome.shift, ended]
        | stopped => simp [Outcome.shift, ended]

theorem consume_waiting_incomplete (handle : σ → List α → σ × Bool) (state : σ)
    (items tail : List α) (waits : (consume d handle state items).ending = .waiting tail) :
    d.judge tail = .incomplete := by
  induction bound : items.length using Nat.strongRecOn generalizing state items with
  | ind length ih =>
    subst bound
    cases judged : d.judge items with
    | incomplete =>
      rw [consume_incomplete d handle state judged] at waits
      cases waits
      exact judged
    | invalid reason =>
      rw [consume_invalid d handle state judged] at waits
      cases waits
    | complete size =>
      rw [consume_complete d handle state judged] at waits
      revert waits
      rcases handle state (items.take size) with ⟨next, continued⟩
      intro waits
      cases continued with
      | false => cases waits
      | true => exact ih _ (drop_shorter d judged) next _ waits rfl

/-- How the stream is chopped into pieces does not show in what was handled, in how far
    the stream was used up, or in how it ended. -/
theorem feed_eq_consume (handle : σ → List α → σ × Bool) (state : σ) (buffer : List α)
    (pieces : List (List α)) (short : d.judge buffer = .incomplete) :
    feed d handle state buffer pieces = consume d handle state (buffer ++ pieces.flatten) := by
  induction pieces generalizing state buffer with
  | nil => simp [feed, consume_incomplete d handle state short]
  | cons piece pieces ih =>
    rw [List.flatten_cons, ← List.append_assoc, consume_append, feed]
    cases ended : (consume d handle state (buffer ++ piece)).ending with
    | waiting tail =>
      simp only
      rw [ih _ tail (consume_waiting_incomplete d handle state _ tail ended)]
    | fault reason => rfl
    | stopped => rfl
end Delimited
