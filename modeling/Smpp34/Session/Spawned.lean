import Smpp34.Session.Single
import Mathlib.Data.List.Induction

namespace Smpp34

open Octets

namespace Endpoint

variable {endpoint : Endpoint}

/-- The requests among the PDUs taken up that a handler is spawned for, each with its place. -/
def requests (endpoint : Endpoint) (received : List Bytes) : List (Nat × Request) :=
  received.zipIdx.filterMap fun (pdu, place) => (endpoint.spawns pdu).map (Prod.mk place)

theorem requests_concat (received : List Bytes) (pdu : Bytes) :
    endpoint.requests (received ++ [pdu]) =
      endpoint.requests received ++
        (endpoint.spawns pdu).toList.map (Prod.mk received.length) := by
  unfold requests
  rw [List.zipIdx_append, List.filterMap_append, Nat.zero_add]
  cases spawns : endpoint.spawns pdu <;> simp [spawns]

theorem mem_requests {received : List Bytes} {place : Nat} {request : Request} :
    (place, request) ∈ endpoint.requests received ↔
      ∃ pdu, received[place]? = some pdu ∧ endpoint.spawns pdu = some request := by
  unfold requests
  rw [List.mem_filterMap]
  constructor
  · rintro ⟨⟨pdu, there⟩, member, told⟩
    obtain ⟨found, spawns, same⟩ := Option.map_eq_some_iff.mp told
    cases same
    exact ⟨pdu, List.mem_zipIdx_iff_getElem?.mp member, spawns⟩
  · rintro ⟨pdu, found, spawns⟩
    refine ⟨(pdu, place), List.mem_zipIdx_iff_getElem?.mpr found, ?_⟩
    dsimp only
    rw [spawns]
    rfl

theorem requests_ordered (received : List Bytes) :
    ((endpoint.requests received).map Prod.fst).Pairwise (· < ·) := by
  induction received using List.reverseRecOn with
  | nil => exact List.Pairwise.nil
  | append_singleton received pdu ih =>
    rw [requests_concat, List.map_append, List.pairwise_append]
    refine ⟨ih, ?_, ?_⟩
    · cases endpoint.spawns pdu with
      | none => exact List.Pairwise.nil
      | some request => exact List.pairwise_singleton _ _
    · intro place earlier later last
      obtain ⟨⟨there, request⟩, member, rfl⟩ := List.mem_map.mp earlier
      obtain ⟨other, found, -⟩ := mem_requests.mp member
      have before := (List.getElem?_eq_some_iff.mp found).1
      cases spawns : endpoint.spawns pdu with
      | none =>
        rw [spawns] at last
        cases last
      | some request =>
        rw [spawns] at last
        rw [List.mem_singleton.mp last]
        exact before

end Endpoint

namespace Session

variable {endpoint : Endpoint} {session next : Session}

def Linking (endpoint : Endpoint) (session : Session) : Prop :=
  ∀ pdu number cursor, session.reader = .linking pdu number cursor → endpoint.spawns pdu = none

theorem start_linking (endpoint : Endpoint) : endpoint.start.Linking endpoint := by
  intro pdu number cursor stage
  cases stage

def Spawns (endpoint : Endpoint) (session next : Session) : Prop :=
  endpoint.requests next.received =
    endpoint.requests session.received ++ next.handlers.drop session.handlers.length

theorem Spawns.still (received : next.received = session.received)
    (fewer : next.handlers.length ≤ session.handlers.length) : session.Spawns endpoint next := by
  rw [Spawns, received, List.drop_eq_nil_of_le fewer, List.append_nil]

theorem takeUp_spawns (endpoint : Endpoint) (session : Session) (pdu : Bytes) (cursor : Nat) :
    session.Spawns endpoint (session.takeUp endpoint pdu cursor) ∧
      (session.takeUp endpoint pdu cursor).Linking endpoint := by
  have handlers := takeUp_handlers endpoint session pdu cursor
  rcases takeUp_takenUp endpoint session pdu cursor with
    up | ⟨header, framed, link, stage, received⟩
  · constructor
    · rw [Spawns, up.received, handlers, List.drop_left, Endpoint.requests_concat]
    · intro other number place linking
      exact absurd linking (up.linking other number place)
  · have none : endpoint.spawns pdu = none := by
      rw [Endpoint.spawns, framed]
      dsimp only
      rw [link]
      rfl
    constructor
    · apply Spawns.still received
      rw [handlers, none]
      exact Nat.le_of_eq (congrArg List.length (List.append_nil _))
    · intro other number place linking
      rw [stage] at linking
      cases linking
      exact none

theorem step_spawns {event : Event} (linking : session.Linking endpoint)
    (taken : session.step endpoint event = some next) :
    session.Spawns endpoint next ∧ next.Linking endpoint := by
  by_cases reads : event.ofReader = true
  · have moves := step_reader reads taken
    rcases reader_handlers moves with handlers | ⟨pdu, cursor, -, rfl⟩
    · rcases reader_takes moves with
        ⟨received, unlinked⟩ | ⟨pdu, cursor, rfl⟩ | ⟨pdu, number, cursor, links, stage, rfl⟩
      · refine ⟨Spawns.still received (handlers ▸ Nat.le_refl _), ?_⟩
        exact fun pdu number cursor stage => absurd stage (unlinked pdu number cursor)
      · exact takeUp_spawns endpoint session pdu cursor
      · have same : { session with links := links }.received = session.received := rfl
        have up : session.TakenUp pdu (cursor + pdu.length)
            ({ session with links := links }.settleLink endpoint pdu number cursor) :=
          settleLink_takenUp same pdu number cursor
        refine ⟨?_, fun pdu number cursor stage => absurd stage (up.linking pdu number cursor)⟩
        rw [Spawns, up.received, handlers, List.drop_length, Endpoint.requests_concat,
          linking pdu number cursor stage]
        rfl
    · exact takeUp_spawns endpoint session pdu cursor
  · have elsewhere : event.ofReader = false := Bool.not_eq_true _ ▸ reads
    obtain ⟨reader, received, -⟩ := step_elsewhere elsewhere taken
    refine ⟨Spawns.still received (step_handlers elsewhere taken).length_le, ?_⟩
    intro pdu number cursor stage
    rw [reader] at stage
    exact linking pdu number cursor stage

end Session

end Smpp34
