import Smpp34.Session.Fates
import Smpp34.Session.Stream

namespace Smpp34

open Octets
open Correlation
open Machine (run Throughout)

/-- SMPP defines a response to every request but these two. -/
def Request.hasResponse : Request → Bool
  | alertNotification _ | outbind _ => false
  | _ => true

/-- The read loop takes the PDU for the response to the request of this number. -/
def Endpoint.accepts (endpoint : Endpoint) (pdu : Bytes) (number : UInt32) : Bool :=
  match CommandHeader.decode pdu with
  | .ok header => (endpoint.branch header pdu).settles && header.sequenceNumber = number
  | .error _ => false

namespace Session

def expectsResponse (session : Session) (emission : Emission) : Bool :=
  match emission.origin with
  | .call caller => session.calls[caller]?.any fun call => call.request.hasResponse
  | .link => true
  | .reaction _ => false

/-- A response to the request has been taken up since its entry was made. -/
def answeredSince (endpoint : Endpoint) (session : Session) (registration : Registration UInt32) :
    Bool :=
  (session.received.drop registration.heard).any fun pdu => endpoint.accepts pdu registration.key

/-- The peer keeps the response timer: of the requests that it has got and owes a response, none is
    past the timer without one. -/
def Punctual (endpoint : Endpoint) (session : Session) : Prop :=
  ∀ registration ∈ session.registrations, lapsed endpoint session registration.entry = true →
    (∃ emission ∈ session.sent, session.expectsResponse emission = true ∧
      emission.frame.ourSequenceNumber = some registration.key) →
    session.answeredSince endpoint registration = true

/-- The write under way is not past the response timer, which runs from the entry that is made
    before it. -/
def writesInTime (endpoint : Endpoint) (session : Session) : Bool :=
  session.writer.held.all fun emission => session.registrations.getLast?.all fun registration =>
    emission.frame.ourSequenceNumber ≠ some registration.key ||
      !lapsed endpoint session registration.entry

instance (endpoint : Endpoint) (session : Session) : Decidable (session.Punctual endpoint) :=
  inferInstanceAs (Decidable (∀ _ ∈ _, _))

section Clearing

variable {endpoint : Endpoint} {session next : Session}

end Clearing

section Owed

variable {endpoint : Endpoint} {session next : Session}

theorem Changes.entry {event : Event} {number : UInt32} {entry : Entry}
    (changes : Changes endpoint session next event)
    (found : next.pendingRequests.lookup number = some entry) :
    session.pendingRequests.lookup number = some entry ∨ event = .register := by
  have erased : ∀ {gone : UInt32}, next.pendingRequests = session.pendingRequests.erase gone →
      session.pendingRequests.lookup number = some entry := by
    intro gone pending
    rw [pending] at found
    by_cases same : number = gone
    · rw [same, AList.lookup_erase] at found
      cases found
    · rw [AList.lookup_erase_ne same] at found
      exact found
  cases changes with
  | nothing table =>
    have pending : next.pendingRequests = session.pendingRequests := congrArg Table.pending table
    rw [pending] at found
    exact .inl found
  | registers stage keyed key table => exact .inr rfl
  | withdraws stage keyed table => exact .inl (erased (congrArg Table.pending table))
  | settles reads missing table fills => exact .inl (erased (congrArg Table.pending table))
  | lapses reads missing table => exact .inl (erased (congrArg Table.pending table))
  | sweeps table =>
    have pending : next.pendingRequests = _ := congrArg Table.pending table
    rw [pending, lookup_sweep, Option.filter_eq_some_iff] at found
    exact .inl found.1

def Placed (session : Session) (number : UInt32) (entry : Entry) : Prop :=
  (∃ emission ∈ session.sent, emission.frame.ourSequenceNumber = some number) ∨
    ∃ emission registration, session.writer.held = some emission ∧
      emission.frame.ourSequenceNumber = some number ∧
      session.registrations.getLast? = some registration ∧ registration.key = number ∧
      registration.entry = entry

structure Accounted (endpoint : Endpoint) (session : Session) : Prop where
  consistent : session.Consistent endpoint
  silent : session.timeouts = []
  expected : ∀ emission ∈ session.outgoing, emission.frame.ourSequenceNumber ≠ none →
    session.expectsResponse emission = true
  unanswered : ∀ number entry, session.pendingRequests.lookup number = some entry →
    ∃ registration ∈ session.registrations, registration.key = number ∧
      registration.entry = entry ∧ registration.heard ≤ session.received.length ∧
      session.answeredSince endpoint registration = false
  placed : session.reader ≠ .closed → ∀ number entry,
    session.pendingRequests.lookup number = some entry → session.Placed number entry

/-- Where the peer keeps the timer and no write outlasts it, no entry is late. -/
theorem Accounted.inTime (accounted : session.Accounted endpoint)
    (punctual : session.Punctual endpoint) (writes : session.writesInTime endpoint = true)
    (stillOpen : session.reader ≠ .closed) (number : UInt32) (entry : Entry)
    (found : session.pendingRequests.lookup number = some entry) :
    lapsed endpoint session entry = false := by
  by_contra late
  rw [Bool.not_eq_false] at late
  obtain ⟨registration, member, rfl, rfl, -, unanswered⟩ := accounted.unanswered number entry found
  rcases accounted.placed stillOpen _ _ found with
    ⟨emission, wired, keyed⟩ | ⟨emission, last, held, keyed, newest, key, same⟩
  · have expects : session.expectsResponse emission = true := by
      apply accounted.expected emission
      · rw [mem_outgoing]
        tauto
      · rw [keyed]
        exact Option.some_ne_none _
    have answered := punctual registration member late ⟨emission, wired, expects, keyed⟩
    rw [unanswered] at answered
    cases answered
  · unfold writesInTime at writes
    rw [held, newest, Option.all_some, Option.all_some, key, same, keyed, late] at writes
    simp at writes

end Owed

end Session

end Smpp34
