import Smpp34.Base.Machine

/-- A bounded channel with one receiver: what is queued, the oldest first. -/
structure Mailbox (α : Type) where
  capacity : Nat
  queue : List α
  positive : 0 < capacity
  bounded : queue.length ≤ capacity

namespace Mailbox

variable {α : Type}

def new (capacity : Nat) : Mailbox α where
  capacity := max capacity 1
  queue := []
  positive := Nat.lt_of_lt_of_le Nat.one_pos (Nat.le_max_right capacity 1)
  bounded := Nat.zero_le _

def HasRoom (mailbox : Mailbox α) : Prop := mailbox.queue.length < mailbox.capacity

instance (mailbox : Mailbox α) : Decidable mailbox.HasRoom :=
  inferInstanceAs (Decidable (_ < _))

/-- A full channel hands the value back. -/
def trySend (mailbox : Mailbox α) (value : α) : Option (Mailbox α) :=
  if room : mailbox.HasRoom then
    some
      { mailbox with
        queue := mailbox.queue ++ [value]
        bounded := by
          rw [List.length_append]
          exact room }
  else none

def offer (mailbox : Mailbox α) (value : α) : Mailbox α := (mailbox.trySend value).getD mailbox

def recv (mailbox : Mailbox α) : Option (α × Mailbox α) :=
  match mailbox.queue, mailbox.bounded with
  | [], _ => none
  | value :: queue, bounded =>
    some (value, { mailbox with queue := queue, bounded := Nat.le_of_succ_le bounded })

theorem trySend_some {mailbox next : Mailbox α} {value : α}
    (sent : mailbox.trySend value = some next) :
    next.queue = mailbox.queue ++ [value] := by
  unfold trySend at sent
  split at sent
  · cases sent
    rfl
  · cases sent

theorem trySend_room {mailbox next : Mailbox α} {value : α}
    (sent : mailbox.trySend value = some next) : mailbox.HasRoom := by
  unfold trySend at sent
  split at sent
  · assumption
  · cases sent

theorem trySend_none {mailbox : Mailbox α} {value : α} (full : mailbox.trySend value = none) :
    ¬ mailbox.HasRoom := by
  intro room
  rw [trySend, dif_pos room] at full
  cases full

theorem offer_queue {mailbox : Mailbox α} (room : mailbox.HasRoom) (value : α) :
    (mailbox.offer value).queue = mailbox.queue ++ [value] := by
  unfold offer trySend
  rw [dif_pos room]
  rfl

theorem offer_cases (mailbox : Mailbox α) (value : α) :
    (mailbox.offer value).queue = mailbox.queue ∨
      (mailbox.offer value).queue = mailbox.queue ++ [value] := by
  unfold offer
  cases sent : mailbox.trySend value with
  | none => exact .inl rfl
  | some next => exact .inr (trySend_some sent)

theorem recv_cons {mailbox : Mailbox α} {value : α} {rest : List α}
    (queued : mailbox.queue = value :: rest) :
    ∃ next, mailbox.recv = some (value, next) ∧ next.queue = rest := by
  obtain ⟨capacity, queue, positive, bounded⟩ := mailbox
  cases queued
  exact ⟨_, rfl, rfl⟩

theorem recv_some {mailbox next : Mailbox α} {value : α}
    (received : mailbox.recv = some (value, next)) :
    mailbox.queue = value :: next.queue := by
  obtain ⟨capacity, queue, positive, bounded⟩ := mailbox
  cases queue with
  | nil => cases received
  | cons first rest =>
    cases received
    rfl

theorem recv_none {mailbox : Mailbox α} (empty : mailbox.recv = none) : mailbox.queue = [] := by
  obtain ⟨capacity, queue, positive, bounded⟩ := mailbox
  cases queue with
  | nil => rfl
  | cons first rest => cases empty

section Drain

variable {σ ε : Type} {step : σ → ε → Option σ} {event : ε} {mailbox : σ → Mailbox α}
  {yielded : σ → List α} {holds : σ → Prop}

def Receives (step : σ → ε → Option σ) (event : ε) (mailbox : σ → Mailbox α)
    (yielded : σ → List α) (holds : σ → Prop) : Prop :=
  ∀ state value rest, holds state → (mailbox state).recv = some (value, rest) →
    ∃ next, step state event = some next ∧ mailbox next = rest ∧
      yielded next = yielded state ++ [value] ∧ holds next

/-- A receiver that goes on gets what is queued, in its order. -/
theorem Receives.drain (receives : Receives step event mailbox yielded holds) {state : σ}
    {before after : List α} (initially : holds state)
    (queued : (mailbox state).queue = before ++ after) :
    ∃ final, Machine.run step state (List.replicate before.length event) = some final ∧
      (mailbox final).queue = after ∧ yielded final = yielded state ++ before ∧ holds final := by
  induction before generalizing state with
  | nil => exact ⟨state, rfl, queued, by rw [List.append_nil], initially⟩
  | cons value before ih =>
    obtain ⟨rest, received, tail⟩ := recv_cons queued
    obtain ⟨next, taken, box, logged, kept⟩ := receives state value rest initially received
    rw [← box] at tail
    obtain ⟨final, reached, left, drained, held⟩ := ih kept tail
    refine ⟨final, Machine.run_cons_iff.mpr ⟨next, taken, reached⟩, left, ?_, held⟩
    rw [drained, logged, List.append_assoc]
    rfl

end Drain

end Mailbox
