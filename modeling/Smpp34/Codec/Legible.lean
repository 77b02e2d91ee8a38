import Smpp34.Codec.Responses

namespace Smpp34

open Octets
open Parse
open Utf8 (Str)

abbrev CommandHeader.Succeeds (header : CommandHeader) : Prop :=
  header.commandStatus = SmppError.ESME_ROK.code

namespace SubmitSmResp

def Legible (resp : SubmitSmResp) : Prop :=
  resp.header.commandId = CommandId.submitSmResp.value ∧
    match resp.messageId with
    | some messageId => resp.header.Succeeds ∧ NulFree messageId
    | none => ¬ resp.header.Succeeds

theorem Legible.reads {resp : SubmitSmResp} (legible : resp.Legible) :
    decode resp.header resp.encode = .ok resp := by
  obtain ⟨header, messageId⟩ := resp
  obtain ⟨-, body⟩ := legible
  cases messageId with
  | some messageId => exact SubmitSmResp.decode_accepted body.1 body.2
  | none => exact if_pos body

end SubmitSmResp

namespace SubmitSmMultiResp

def Legible (resp : SubmitSmMultiResp) : Prop :=
  resp.header.commandId = CommandId.submitMultiResp.value ∧
    match resp.messageId with
    | some messageId =>
      resp.header.Succeeds ∧ NulFree messageId ∧
        (∀ entry ∈ resp.unsuccessSme, NulFree entry.destinationAddr) ∧
        resp.noUnsuccess.toNat = resp.unsuccessSme.length
    | none => ¬ resp.header.Succeeds ∧ resp.noUnsuccess = 0 ∧ resp.unsuccessSme = []

theorem Legible.reads {resp : SubmitSmMultiResp} (legible : resp.Legible) :
    decode resp.header resp.encode = .ok resp := by
  obtain ⟨header, messageId, noUnsuccess, unsuccessSme⟩ := resp
  obtain ⟨-, body⟩ := legible
  cases messageId with
  | some messageId =>
    obtain ⟨accepted, clean, addresses, told⟩ := body
    rw [encode, if_pos accepted]
    exact SubmitSmMultiResp.decode_accepted accepted clean addresses told
  | none =>
    obtain ⟨refused, none, nobody⟩ := body
    cases none
    cases nobody
    exact if_pos refused

end SubmitSmMultiResp

namespace DeliverSmResp

def Legible (resp : DeliverSmResp) : Prop :=
  resp.header.commandId = CommandId.deliverSmResp.value ∧ NulFree resp.messageId ∧
    (resp.header.Succeeds ∨ resp.messageId = Str.empty)

theorem Legible.reads {resp : DeliverSmResp} (legible : resp.Legible) :
    decode resp.header resp.encode = .ok resp := by
  obtain ⟨header, messageId⟩ := resp
  obtain ⟨-, clean, body⟩ := legible
  by_cases accepted : header.Succeeds
  · have long : (header.encode ++ cOctetString messageId).length > 16 := by
      simp only [List.length_append, CommandHeader.encode_length, cOctetString_length]
      omega
    have read := readBody_reads (reads_cOctetString messageId clean) []
    rw [List.append_nil] at read
    rw [encode, decode, if_neg (not_not_intro accepted), if_pos long,
      ok_bind (bodyOf_append header.encode_length), ok_bind read]
    rfl
  · have empty : messageId = Str.empty := body.resolve_left accepted
    subst empty
    exact if_pos accepted

end DeliverSmResp

namespace DataSmResp

def Legible (resp : DataSmResp) : Prop :=
  resp.header.commandId = CommandId.dataSmResp.value ∧ (∀ tlv ∈ resp.tlvs, tlv.Fits) ∧
    match resp.messageId with
    | some messageId => resp.header.Succeeds ∧ NulFree messageId
    | none => ¬ resp.header.Succeeds

theorem Legible.reads {resp : DataSmResp} (legible : resp.Legible) {header : CommandHeader}
    (status : header.commandStatus = resp.header.commandStatus) :
    decode header resp.encode = .ok { resp with header } := by
  obtain ⟨own, messageId, tlvs⟩ := resp
  obtain ⟨-, fits, body⟩ := legible
  cases messageId with
  | some messageId => exact DataSmResp.decode_accepted (status.trans body.1) body.2 fits
  | none =>
    have refused : header.commandStatus ≠ SmppError.ESME_ROK.code :=
      fun accepted => body (status.symm.trans accepted)
    exact DataSmResp.decode_rejected refused fits

end DataSmResp

namespace QuerySmResp

def Legible (resp : QuerySmResp) : Prop :=
  resp.header.commandId = CommandId.querySmResp.value ∧
    (resp.header.Succeeds ∧ NulFree resp.messageId ∧ NulFree resp.finalDate ∨
      ¬ resp.header.Succeeds ∧ resp = ⟨resp.header, Str.empty, Str.empty, 0, 0⟩)

theorem Legible.reads {resp : QuerySmResp} (legible : resp.Legible) :
    decode resp.header resp.encode = .ok resp := by
  obtain ⟨-, ⟨accepted, message, final⟩ | ⟨refused, empty⟩⟩ := legible
  · rw [encode, if_pos accepted]
    exact QuerySmResp.decode_accepted accepted message final resp.messageState resp.errorCode
  · rw [decode, if_pos refused, ← empty]

end QuerySmResp

namespace Response

/-- The responses that a session answers a request with, where they read back. -/
def Legible : Response → Prop
  | submitSm resp => resp.Legible
  | submitSmMulti resp => resp.Legible
  | deliverSm resp => resp.Legible
  | dataSm resp => resp.Legible
  | cancelSm resp => resp.header.commandId = CommandId.cancelSmResp.value
  | querySm resp => resp.Legible
  | replaceSm resp => resp.header.commandId = CommandId.replaceSmResp.value
  | unbind resp => resp.header.commandId = CommandId.unbindResp.value
  | enquireLink resp => resp.header.commandId = CommandId.enquireLinkResp.value
  | genericNack resp => resp.header.commandId = CommandId.genericNack.value
  | bind _ _ => False

structure Shows (read written : Response) : Prop where
  body : read = written.withHeader read.header
  same : read.header.SamePdu written.header

theorem Shows.refl (resp : Response) : resp.Shows resp where
  body := by cases resp <;> rfl
  same := ⟨rfl, rfl, rfl⟩

end Response

end Smpp34
