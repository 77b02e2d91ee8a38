import Smpp34.Commands.Pdu
import Mathlib.Data.List.Forall2

namespace Smpp34

open Octets

/-- A frame on its way to the writer task. A request of this end carries the number it is
    registered under; `oneshot` names the caller that waits for the response. -/
structure WriteFrame where
  ourSequenceNumber : Option UInt32
  pdu : Bytes
  oneshot : Option Nat
deriving DecidableEq, Repr

/-- What one call of `write` may do: fail, or take some octets off the front. -/
inductive WriteOutcome where
  | failed
  | accepted (count : Nat)
deriving DecidableEq, Repr

def WriteOutcome.Permitted (pdu : Bytes) : WriteOutcome → Prop
  | failed => True
  | accepted count => 1 ≤ count ∧ count ≤ pdu.length

instance (pdu : Bytes) : (outcome : WriteOutcome) → Decidable (outcome.Permitted pdu)
  | .failed => inferInstanceAs (Decidable True)
  | .accepted _ => inferInstanceAs (Decidable (_ ∧ _))

def write (pdu : Bytes) : WriteOutcome → Bytes
  | .failed => []
  | .accepted count => pdu.take count

/-- `write_all` goes on with what was not taken. -/
def writeAll : Bytes → List WriteOutcome → Bytes
  | pdu, .accepted count :: outcomes =>
    if pdu = [] then [] else pdu.take count ++ writeAll (pdu.drop count) outcomes
  | _, _ => []

/-- The writer task calls `write` once for each frame and does not look at the count. -/
def writerWire : List WriteFrame → List WriteOutcome → Bytes
  | frame :: frames, outcome :: outcomes =>
    write frame.pdu outcome ++ writerWire frames outcomes
  | _, _ => []

def sendBindRequest {kind : BindKind} (request : BindRequest kind) (outcome : WriteOutcome) :
    Bytes :=
  write request.encode outcome

/-- A bind is accepted with one `write` and refused with `write_all`. -/
def sendBindResponse {kind : BindKind} (resp : BindResp kind) (outcomes : List WriteOutcome) :
    Bytes :=
  if resp.isSuccess then
    match outcomes with
    | outcome :: _ => write resp.encode outcome
    | [] => []
  else writeAll resp.encode outcomes

theorem write_length_le (pdu : Bytes) (outcome : WriteOutcome) :
    (write pdu outcome).length ≤ pdu.length := by
  cases outcome with
  | failed => exact Nat.zero_le _
  | accepted count =>
    rw [write, List.length_take]
    exact Nat.min_le_right _ _

theorem write_eq_iff {pdu : Bytes} {outcome : WriteOutcome} (succeeded : outcome ≠ .failed)
    (permitted : outcome.Permitted pdu) :
    write pdu outcome = pdu ↔ outcome = .accepted pdu.length := by
  cases outcome with
  | failed => exact absurd rfl succeeded
  | accepted count =>
    obtain ⟨low, high⟩ := permitted
    rw [WriteOutcome.accepted.injEq]
    constructor
    · intro same
      have sizes := congrArg List.length same
      rw [write, List.length_take] at sizes
      omega
    · rintro rfl
      exact List.take_length

theorem writerWire_length_le (frames : List WriteFrame) (outcomes : List WriteOutcome) :
    (writerWire frames outcomes).length ≤ (frames.flatMap WriteFrame.pdu).length := by
  induction frames generalizing outcomes with
  | nil => exact Nat.zero_le _
  | cons frame frames ih =>
    cases outcomes with
    | nil => exact Nat.zero_le _
    | cons outcome outcomes =>
      have rest := ih outcomes
      have first := write_length_le frame.pdu outcome
      rw [writerWire, List.flatMap_cons, List.length_append, List.length_append]
      omega

theorem writerWire_eq_iff (frames : List WriteFrame) (outcomes : List WriteOutcome)
    (permitted : List.Forall₂
      (fun frame outcome => outcome ≠ .failed ∧ outcome.Permitted frame.pdu) frames outcomes) :
    writerWire frames outcomes = frames.flatMap WriteFrame.pdu ↔
      List.Forall₂ (fun frame outcome => outcome = .accepted frame.pdu.length) frames outcomes := by
  induction permitted with
  | nil => exact iff_of_true rfl .nil
  | @cons frame outcome frames outcomes allowed _ ih =>
    rw [writerWire, List.flatMap_cons, List.forall₂_cons, ← ih,
      ← write_eq_iff allowed.1 allowed.2]
    constructor
    · intro same
      have total := congrArg List.length same
      have first := write_length_le frame.pdu outcome
      have rest := writerWire_length_le frames outcomes
      rw [List.length_append, List.length_append] at total
      exact List.append_inj same (by omega)
    · rintro ⟨first, rest⟩
      rw [first, rest]

/-- The wire carries whole PDUs exactly when no call of `write` falls short. -/
theorem wire_whole_iff {kind : BindKind} (frames : List WriteFrame)
    (outcomes : List WriteOutcome) (request : BindRequest kind) (resp : BindResp kind)
    (requestOutcome respOutcome : WriteOutcome) (accepted : resp.isSuccess)
    (permitted : List.Forall₂
      (fun frame outcome => outcome ≠ .failed ∧ outcome.Permitted frame.pdu) frames outcomes)
    (requestPermitted : requestOutcome ≠ .failed ∧ requestOutcome.Permitted request.encode)
    (respPermitted : respOutcome ≠ .failed ∧ respOutcome.Permitted resp.encode) :
    (writerWire frames outcomes = frames.flatMap WriteFrame.pdu ∧
      sendBindRequest request requestOutcome = request.encode ∧
      sendBindResponse resp [respOutcome] = resp.encode) ↔
    List.Forall₂ (fun frame outcome => outcome = .accepted frame.pdu.length) frames outcomes ∧
      requestOutcome = .accepted request.encode.length ∧
      respOutcome = .accepted resp.encode.length := by
  rw [sendBindRequest, sendBindResponse, if_pos accepted, writerWire_eq_iff _ _ permitted,
    write_eq_iff requestPermitted.1 requestPermitted.2,
    write_eq_iff respPermitted.1 respPermitted.2]

theorem wire_whole_of_full_writes :
    let link := (EnquireLink.new 2).encode
    let resp : BindResp .receiver :=
      ⟨⟨17, CommandId.bindReceiverResp.value, 0, 1⟩, some Utf8.Str.empty, none⟩
    ∃ request, BindRequest.new .receiver 1 Utf8.Str.empty Utf8.Str.empty Utf8.Str.empty 0 0
        Utf8.Str.empty = some request ∧
      writerWire [⟨some 2, link, none⟩] [.accepted 16] = link ∧
      sendBindRequest request (.accepted 23) = request.encode ∧
      sendBindResponse resp [.accepted 17] = resp.encode := by
  refine ⟨_, rfl, ?_⟩
  exact (wire_whole_iff [⟨some 2, (EnquireLink.new 2).encode, none⟩] [.accepted 16]
    (BindRequest.mk (BindFields.mk Utf8.Str.empty Utf8.Str.empty Utf8.Str.empty 0x34 0 0
      Utf8.Str.empty) _) _ (.accepted 23) (.accepted 17) (by decide)
    (.cons (by decide) .nil) (by decide) (by decide)).mpr (by decide)

theorem short_write_cuts_a_pdu :
    WriteOutcome.Permitted (EnquireLink.new 2).encode (.accepted 15) ∧
      writerWire [⟨some 2, (EnquireLink.new 2).encode, none⟩,
          ⟨some 3, (EnquireLink.new 3).encode, none⟩] [.accepted 15, .accepted 16] ≠
        (EnquireLink.new 2).encode ++ (EnquireLink.new 3).encode := by
  decide

end Smpp34
