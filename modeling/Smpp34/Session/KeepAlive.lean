import Smpp34.Session.Numbers
import Smpp34.Session.Progress

namespace Smpp34

open Octets
open Machine (run Throughout)

def linkNumber (pdu : Bytes) : Option UInt32 :=
  match CommandHeader.decode pdu with
  | .ok header =>
    if header.commandId = CommandId.enquireLinkResp.value then some header.sequenceNumber else none
  | .error _ => none

def Emission.enquiry (emission : Emission) : Option UInt32 :=
  if emission.origin = .link then emission.frame.ourSequenceNumber else none

def ReaderStage.running : ReaderStage → Bool
  | reading | extracting _ | linking _ _ _ | queueing _ _ _ .proceed => true
  | _ => false

def TickerStage.queued (ticker : TickerStage) (now : Nat) : TickerStage :=
  match ticker with
  | queueing number => awaiting number now
  | _ => ticker

/-- The ticker with its queue, its frames that wait for room and those that are on their way to the
    wire, the numbers it has asked with on the wire and the numbers it was answered with. -/
structure KeepAlive where
  ticker : TickerStage
  links : List UInt32
  waiting : List Emission
  carried : List Emission
  asked : List UInt32
  replied : List UInt32

namespace KeepAlive

open Session (linkEmission)

/-- A step of the keep-alive whose peer answers what it was asked, once. -/
inductive Beat : KeepAlive → KeepAlive → Prop
  | rest (state : KeepAlive) : Beat state state
  | finish {state next : KeepAlive} (finished : next.ticker = .finished) : Beat state next
  | tick {state : KeepAlive} (number : UInt32) (stage : state.ticker = .sleeping) :
      Beat state { state with
        ticker := .queueing number
        waiting := state.waiting ++ [linkEmission number] }
  | queue {state : KeepAlive} {emission : Emission} {before after : List Emission} (now : Nat)
      (waits : state.waiting = before ++ emission :: after) :
      Beat state { state with
        ticker := state.ticker.queued now
        waiting := before ++ after
        carried := state.carried ++ [emission] }
  | write {state : KeepAlive} {emission : Emission} {rest : List Emission}
      (held : state.carried = emission :: rest) :
      Beat state { state with
        carried := rest
        asked := state.asked ++ emission.enquiry.toList }
  | hear {state : KeepAlive} {number : UInt32}
      (owed : state.replied.count number < state.asked.count number) :
      Beat state { state with
        links := state.links ++ [number]
        replied := state.replied ++ [number] }
  | arrive {state : KeepAlive} {number sequence : UInt32} {since : Nat} {links : List UInt32}
      (stage : state.ticker = .awaiting number since) (queued : state.links = sequence :: links) :
      Beat state { state with
        ticker := if sequence = number then .sleeping else .finished
        links := links }

/-- Where the one enquire_link under way is, if there is one. -/
inductive Phase : KeepAlive → Prop
  | sleeping {asked replied : List UInt32} (even : replied.Perm asked) :
      Phase ⟨.sleeping, [], [], [], asked, replied⟩
  | queueing {number : UInt32} {asked replied : List UInt32} (even : replied.Perm asked) :
      Phase ⟨.queueing number, [], [linkEmission number], [], asked, replied⟩
  | carried {number : UInt32} {since : Nat} {asked replied : List UInt32}
      (even : replied.Perm asked) :
      Phase ⟨.awaiting number since, [], [], [linkEmission number], asked, replied⟩
  | asked {number : UInt32} {since : Nat} {asked replied : List UInt32}
      (owed : (number :: replied).Perm asked) :
      Phase ⟨.awaiting number since, [], [], [], asked, replied⟩
  | replied {number : UInt32} {since : Nat} {asked replied : List UInt32}
      (even : replied.Perm asked) :
      Phase ⟨.awaiting number since, [number], [], [], asked, replied⟩
  | finished {state : KeepAlive} (ended : state.ticker = .finished) : Phase state

theorem not_owed {asked replied : List UInt32} {number : UInt32} {holds : Prop}
    (even : replied.Perm asked) (owed : replied.count number < asked.count number) : holds := by
  rw [even.count_eq] at owed
  exact absurd owed (Nat.lt_irrefl _)

/-- Every step moves the one enquire_link on, or the ticker has finished. -/
theorem Beat.phase {state next : KeepAlive} (phase : Phase state) (beat : Beat state next) :
    Phase next := by
  cases beat with
  | rest => exact phase
  | finish finished => exact .finished finished
  | tick number stage =>
    cases phase with
    | sleeping even => exact .queueing even
    | finished ended =>
      rw [ended] at stage
      cases stage
    | _ => cases stage
  | queue now waits =>
    cases phase with
    | queueing even =>
      obtain ⟨rfl, same⟩ | ⟨_, _, impossible⟩ := List.cons_eq_append_iff.mp waits
      · cases same
        exact .carried even
      · cases List.append_eq_nil_iff.mp impossible.symm |>.2
    | finished ended =>
      apply Phase.finished
      dsimp only
      rw [ended]
      rfl
    | _ => cases List.append_eq_nil_iff.mp waits.symm |>.2
  | write held =>
    cases phase with
    | carried even =>
      cases held
      refine .asked ?_
      exact (even.cons _).trans (List.perm_append_singleton _ _).symm
    | finished ended => exact .finished ended
    | _ => cases held
  | @hear number owed =>
    cases phase with
    | @asked own since asked replied even =>
      have same : number = own := by
        by_contra other
        dsimp only at owed
        rw [← even.count_eq, List.count_cons_of_ne (Ne.symm other)] at owed
        exact Nat.lt_irrefl _ owed
      subst same
      exact .replied ((List.perm_append_singleton _ _).trans even)
    | finished ended => exact .finished ended
    | sleeping even => exact not_owed even owed
    | queueing even => exact not_owed even owed
    | carried even => exact not_owed even owed
    | replied even => exact not_owed even owed
  | arrive stage queued =>
    cases phase with
    | replied even =>
      cases stage
      cases queued
      rw [if_pos rfl]
      exact .sleeping even
    | finished ended =>
      rw [ended] at stage
      cases stage
    | _ => cases queued

variable {state : KeepAlive}

/-- No more than one number is ever in the ticker's queue. -/
theorem Phase.links_length_le (phase : Phase state) (going : state.ticker ≠ .finished) :
    state.links.length ≤ 1 := by
  cases phase with
  | finished ended => exact absurd ended going
  | replied even => exact Nat.le_refl 1
  | _ => exact Nat.zero_le 1

theorem Phase.expected (phase : Phase state) {number : UInt32} {since : Nat}
    (stage : state.ticker = .awaiting number since) :
    ∀ sequence ∈ state.links, sequence = number := by
  cases phase with
  | replied even =>
    cases stage
    exact fun _ => List.mem_singleton.mp
  | finished ended =>
    rw [ended] at stage
    cases stage
  | _ => exact fun _ member => absurd member List.not_mem_nil

theorem Phase.unserved (phase : Phase state) {number : UInt32} {since : Nat}
    (stage : state.ticker = .awaiting number since) (empty : state.links = []) :
    state.carried ≠ [] ∨ ¬ state.replied.Perm state.asked := by
  cases phase with
  | carried even => exact .inl (List.cons_ne_nil _ _)
  | asked owed =>
    refine .inr fun even => ?_
    have longer := owed.length_eq
    rw [List.length_cons, even.length_eq] at longer
    exact absurd longer (Nat.succ_ne_self _)
  | replied even => cases empty
  | finished ended =>
    rw [ended] at stage
    cases stage
  | _ => cases stage

end KeepAlive

section Branches

variable {header : CommandHeader} {pdu : Bytes}

end Branches

namespace Session

def carrying (session : Session) : List Emission :=
  session.writer.held.toList ++ session.writer.inHand ++ session.channel

def asked (session : Session) : List UInt32 := session.sent.filterMap Emission.enquiry

def replied (session : Session) : List UInt32 := session.received.filterMap linkNumber

def keepAlive (session : Session) : KeepAlive where
  ticker := session.ticker
  links := session.links
  waiting := session.senders.filter fun emission => emission.origin = .link
  carried := session.carrying.filter fun emission => emission.origin = .link
  asked := session.asked
  replied := session.replied

section Beats

variable {endpoint : Endpoint} {session next : Session}

open KeepAlive (Beat)

end Beats

section Running

variable {endpoint : Endpoint} {session next : Session}

structure Beating (session : Session) : Prop where
  phase : session.keepAlive.Phase
  unlinked : session.reader.links = none
  intact : ∀ emission, session.writer ≠ .failed emission
  awake : session.Awake
  ticking : session.reader.running = true → session.ticker ≠ .finished

theorem Beating.few (beating : session.Beating) (going : session.ticker ≠ .finished) :
    session.links.length < channelCapacity :=
  Nat.lt_of_le_of_lt (beating.phase.links_length_le going) (by decide)

end Running

end Session

end Smpp34
