import Smpp34.Commands.Pdu

namespace Smpp34

open Octets
open Utf8 (Str)

theorem length_word (n : Nat) : (16 + UInt32.ofNat n + 1 : UInt32) = UInt32.ofNat (16 + n + 1) := by
  rw [UInt32.ofNat_add, UInt32.ofNat_add]
  rfl

theorem code_eq_iff (error : SmppError) :
    error.code = SmppError.ESME_ROK.code ↔ error = .ESME_ROK :=
  error.code_eq_zero_iff

theorem declared_self_delimiting (header : CommandHeader) (body : Bytes) (declared : Nat)
    (told : header.commandLength = UInt32.ofNat declared) (right : declared = 16 + body.length)
    (small : (header.encode ++ body).length < 2 ^ 32) :
    SelfDelimiting (header.encode ++ body) := by
  rw [List.length_append, CommandHeader.encode_length] at small
  rw [selfDelimiting_iff, told, length_ofNat (by omega), right]

theorem bare_self_delimiting (id status seq : UInt32) :
    SelfDelimiting (CommandHeader.encode ⟨16, id, status, seq⟩) := by
  rw [selfDelimiting_encode]
  rfl

theorem rejection_self_delimiting_iff (id seq : UInt32) (error : SmppError) (body : Bytes)
    (some_body : body ≠ []) :
    SelfDelimiting (CommandHeader.encode ⟨16, id, error.code, seq⟩ ++
      if error.code = SmppError.ESME_ROK.code then body else []) ↔ error ≠ .ESME_ROK := by
  have positive : 0 < body.length := List.length_pos_iff.mpr some_body
  rw [selfDelimiting_iff]
  by_cases accepted : error = .ESME_ROK
  · rw [if_pos ((code_eq_iff error).mpr accepted)]
    simp only [accepted, ne_eq, not_true_eq_false, iff_false]
    change ¬ 16 = 16 + body.length
    omega
  · rw [if_neg (mt (code_eq_iff error).mp accepted)]
    simp only [ne_eq, accepted, not_false_eq_true, iff_true]
    rfl

theorem SubmitSm.accept_self_delimiting {pdu : SubmitSm} {messageId : Str} {resp : SubmitSmResp}
    (accepted : pdu.accept messageId = some resp) : SelfDelimiting resp.encode := by
  rw [SubmitSm.accept] at accepted
  split at accepted
  · cases accepted
  · rename_i short
    cases accepted
    refine declared_self_delimiting _ _ _ (length_word messageId.len) ?_ ?_
    · rw [cOctetString_length]
      omega
    · rw [List.length_append, cOctetString_length, CommandHeader.encode_length]
      omega

theorem SubmitSmMulti.accept_self_delimiting (pdu : SubmitSmMulti) (messageId : Str)
    (unsuccessSme : List UnsuccessSme)
    (small : (pdu.accept messageId unsuccessSme).encode.length < 2 ^ 32) :
    SelfDelimiting (pdu.accept messageId unsuccessSme).encode := by
  rw [SubmitSmMulti.accept, SubmitSmMultiResp.encode] at small ⊢
  rw [if_pos rfl] at small ⊢
  refine declared_self_delimiting _ _ _ rfl ?_ small
  simp only [List.length_append, List.length_singleton,
    flatMap_length UnsuccessSme.encode UnsuccessSme.encodedLen UnsuccessSme.encode_length]
  change _ = 16 + (messageId.len + 1 + 1 + _)
  omega

theorem DeliverSm.accept_self_delimiting (pdu : DeliverSm) : SelfDelimiting pdu.accept.encode := by
  rw [DeliverSm.accept, DeliverSmResp.encode, selfDelimiting_iff]
  rfl

theorem DeliverSm.rejection_not_self_delimiting (status seq : UInt32) :
    ¬ SelfDelimiting
      (DeliverSmResp.encode ⟨⟨16, CommandId.deliverSmResp.value, status, seq⟩, Str.empty⟩) := by
  rw [DeliverSmResp.encode, selfDelimiting_iff]
  change ¬ 16 = 17
  omega

theorem DataSmResp.self_delimiting (resp : DataSmResp) (small : resp.encode.length < 2 ^ 32) :
    SelfDelimiting resp.encode := by
  obtain ⟨header, messageId, tlvs⟩ := resp
  rw [DataSmResp.encode, List.length_append, List.length_append, CommandHeader.encode_length,
    encodeTlvs_length] at small
  rw [DataSmResp.encode, selfDelimiting_iff, List.length_append, encodeTlvs_length]
  dsimp only at small ⊢
  cases messageId with
  | none =>
    simp only [List.length_nil, Nat.zero_add] at small ⊢
    exact length_ofNat_add small
  | some messageId =>
    simp only [cOctetString_length] at small ⊢
    have word : (16 + (UInt32.ofNat messageId.len + 1) : UInt32) =
        UInt32.ofNat (16 + (messageId.len + 1)) := by
      rw [UInt32.ofNat_add, UInt32.ofNat_add]
      rfl
    rw [word, length_ofNat_add (by omega)]
    omega

theorem QuerySm.accept_self_delimiting (pdu : QuerySm) (messageId finalDate : Str)
    (messageState errorCode : UInt8)
    (small : (pdu.accept messageId finalDate messageState errorCode).encode.length < 2 ^ 32) :
    SelfDelimiting (pdu.accept messageId finalDate messageState errorCode).encode := by
  rw [QuerySm.accept, QuerySmResp.encode] at small ⊢
  rw [if_pos rfl] at small ⊢
  refine declared_self_delimiting _ _ _ rfl ?_ small
  simp only [List.length_append, List.length_singleton, cOctetString_length]
  omega

theorem BindRequest.accept_self_delimiting {kind : BindKind} (pdu : BindRequest kind)
    (systemId : Str) (version : Option UInt8)
    (small : (pdu.accept systemId version).encode.length < 2 ^ 32) :
    SelfDelimiting (pdu.accept systemId version).encode := by
  rw [BindRequest.accept, BindResp.encode] at small ⊢
  rw [if_pos rfl] at small ⊢
  refine declared_self_delimiting _ _
    (16 + systemId.len + 1 + if version.isSome then 5 else 0) ?_ ?_ small
  · dsimp only
    rw [length_word]
    cases version with
    | none => exact UInt32.add_zero _
    | some version => exact (UInt32.ofNat_add (16 + systemId.len + 1) 5).symm
  · cases version with
    | none =>
      simp only [List.length_append, List.length_singleton, List.append_nil]
      change 16 + systemId.len + 1 + 0 = 16 + (systemId.len + 1)
      omega
    | some version =>
      simp only [List.length_append, List.length_singleton, Tlv.encode_length]
      change 16 + systemId.len + 1 + 5 = 16 + (systemId.len + 1 + 5)
      omega

/-- The answers whose length field does not count what the encoder writes. -/
def Miscounted : Request → Verdict → Prop
  | .deliverSm _, .reject _ => True
  | .deliverSm _, .genericReject _ _ => True
  | .submitSmMulti _, .reject error => error = .ESME_ROK
  | .submitSmMulti _, .genericReject _ error => error = .ESME_ROK
  | .querySm _, .reject error => error = .ESME_ROK
  | .querySm _, .genericReject _ error => error = .ESME_ROK
  | .bind _ _, .reject error => error = .ESME_ROK
  | .bind _ _, .genericReject _ error => error = .ESME_ROK
  | _, _ => False

section Answers

variable (verdict : Verdict) (response : Response) (tlvs : List Tlv)

theorem SubmitSm.answer_self_delimiting_iff (pdu : SubmitSm)
    (obtained : answer (.submitSm pdu) verdict = some response)
    (small : (response.withTlvs tlvs).encode.length < 2 ^ 32) :
    SelfDelimiting (response.withTlvs tlvs).encode ↔ ¬ Miscounted (.submitSm pdu) verdict := by
  refine iff_of_true ?_ (by cases verdict <;> exact not_false)
  cases verdict with
  | accept args =>
    obtain ⟨resp, accepted, rfl⟩ := Option.map_eq_some_iff.mp obtained
    exact SubmitSm.accept_self_delimiting accepted
  | reject error =>
    cases obtained
    exact (selfDelimiting_iff _ []).mpr rfl
  | genericReject seq error =>
    cases obtained
    exact (selfDelimiting_iff _ []).mpr rfl

theorem SubmitSmMulti.answer_self_delimiting_iff (pdu : SubmitSmMulti)
    (obtained : answer (.submitSmMulti pdu) verdict = some response)
    (small : (response.withTlvs tlvs).encode.length < 2 ^ 32) :
    SelfDelimiting (response.withTlvs tlvs).encode ↔ ¬ Miscounted (.submitSmMulti pdu) verdict := by
  cases verdict with
  | accept args =>
    cases obtained
    exact iff_of_true (pdu.accept_self_delimiting _ _ small) not_false
  | reject error =>
    cases obtained
    exact rejection_self_delimiting_iff _ _ error _ (by simp)
  | genericReject seq error =>
    cases obtained
    exact rejection_self_delimiting_iff _ seq error _ (by simp)

theorem DeliverSm.answer_self_delimiting_iff (pdu : DeliverSm)
    (obtained : answer (.deliverSm pdu) verdict = some response)
    (small : (response.withTlvs tlvs).encode.length < 2 ^ 32) :
    SelfDelimiting (response.withTlvs tlvs).encode ↔ ¬ Miscounted (.deliverSm pdu) verdict := by
  cases verdict with
  | accept args =>
    cases obtained
    exact iff_of_true pdu.accept_self_delimiting not_false
  | reject error =>
    cases obtained
    exact iff_of_false (DeliverSm.rejection_not_self_delimiting _ _) (not_not_intro trivial)
  | genericReject seq error =>
    cases obtained
    exact iff_of_false (DeliverSm.rejection_not_self_delimiting _ _) (not_not_intro trivial)

theorem DataSm.answer_self_delimiting_iff (pdu : DataSm)
    (obtained : answer (.dataSm pdu) verdict = some response)
    (small : (response.withTlvs tlvs).encode.length < 2 ^ 32) :
    SelfDelimiting (response.withTlvs tlvs).encode ↔ ¬ Miscounted (.dataSm pdu) verdict := by
  refine iff_of_true ?_ (by cases verdict <;> exact not_false)
  cases verdict with
  | accept args =>
    obtain ⟨resp, accepted, rfl⟩ := Option.map_eq_some_iff.mp obtained
    exact DataSmResp.self_delimiting (resp.withTlvs tlvs) small
  | reject error =>
    cases obtained
    exact DataSmResp.self_delimiting ((pdu.reject error).withTlvs tlvs) small
  | genericReject seq error =>
    cases obtained
    exact DataSmResp.self_delimiting ((DataSm.genericReject seq error).withTlvs tlvs) small

theorem QuerySm.answer_self_delimiting_iff (pdu : QuerySm)
    (obtained : answer (.querySm pdu) verdict = some response)
    (small : (response.withTlvs tlvs).encode.length < 2 ^ 32) :
    SelfDelimiting (response.withTlvs tlvs).encode ↔ ¬ Miscounted (.querySm pdu) verdict := by
  cases verdict with
  | accept args =>
    cases obtained
    exact iff_of_true (pdu.accept_self_delimiting _ _ _ _ small) not_false
  | reject error =>
    cases obtained
    exact rejection_self_delimiting_iff _ _ error _ (by simp)
  | genericReject seq error =>
    cases obtained
    exact rejection_self_delimiting_iff _ seq error _ (by simp)

theorem BindRequest.answer_self_delimiting_iff {kind : BindKind} (pdu : BindRequest kind)
    (obtained : answer (.bind kind pdu) verdict = some response)
    (small : (response.withTlvs tlvs).encode.length < 2 ^ 32) :
    SelfDelimiting (response.withTlvs tlvs).encode ↔ ¬ Miscounted (.bind kind pdu) verdict := by
  cases verdict with
  | accept args =>
    cases obtained
    exact iff_of_true (pdu.accept_self_delimiting _ _ small) not_false
  | reject error =>
    cases obtained
    simp only [Response.withTlvs, Response.encode, BindResp.encode, BindRequest.reject,
      List.append_nil]
    exact rejection_self_delimiting_iff _ _ error _ (by simp)
  | genericReject seq error =>
    cases obtained
    simp only [Response.withTlvs, Response.encode, BindResp.encode, BindRequest.genericReject,
      List.append_nil]
    exact rejection_self_delimiting_iff _ seq error _ (by simp)

theorem answer_self_delimiting_iff (request : Request)
    (obtained : answer request verdict = some response)
    (small : (response.withTlvs tlvs).encode.length < 2 ^ 32) :
    SelfDelimiting (response.withTlvs tlvs).encode ↔ ¬ Miscounted request verdict := by
  cases request with
  | submitSm pdu => exact pdu.answer_self_delimiting_iff verdict response tlvs obtained small
  | submitSmMulti pdu => exact pdu.answer_self_delimiting_iff verdict response tlvs obtained small
  | deliverSm pdu => exact pdu.answer_self_delimiting_iff verdict response tlvs obtained small
  | dataSm pdu => exact pdu.answer_self_delimiting_iff verdict response tlvs obtained small
  | cancelSm pdu =>
    cases verdict <;> cases obtained <;>
      exact iff_of_true (bare_self_delimiting _ _ _) not_false
  | querySm pdu => exact pdu.answer_self_delimiting_iff verdict response tlvs obtained small
  | replaceSm pdu =>
    cases verdict <;> cases obtained <;>
      exact iff_of_true (bare_self_delimiting _ _ _) not_false
  | unbind pdu =>
    cases verdict <;> cases obtained <;>
      exact iff_of_true (bare_self_delimiting _ _ _) not_false
  | enquireLink pdu =>
    cases verdict <;> cases obtained <;>
      exact iff_of_true (bare_self_delimiting _ _ _) not_false
  | bind kind pdu => exact pdu.answer_self_delimiting_iff verdict response tlvs obtained small
  | alertNotification pdu => cases verdict <;> cases obtained
  | outbind pdu => cases verdict <;> cases obtained

end Answers

theorem Response.encode_long (response : Response) : 16 ≤ response.encode.length := by
  cases response <;>
    simp only [Response.encode, SubmitSmResp.encode, SubmitSmMultiResp.encode,
      DeliverSmResp.encode, DataSmResp.encode, CancelSmResp.encode, QuerySmResp.encode,
      ReplaceSmResp.encode, UnbindResp.encode, EnquireLinkResp.encode, BindResp.encode,
      GenericNack.encode, List.length_append, CommandHeader.encode_length] <;>
    omega

structure Answered where
  request : Request
  verdict : Verdict
  response : Response
  obtained : answer request verdict = some response
  tlvs : List Tlv

def Answered.encode (answered : Answered) : Bytes :=
  (answered.response.withTlvs answered.tlvs).encode

/-- Every response tells its length, and a peer that admits their sizes cuts them apart. -/
def CutApart (answers : List Answered) : Prop :=
  (∀ answered ∈ answers, SelfDelimiting answered.encode) ∧
    ∀ maxLen, (∀ answered ∈ answers, answered.encode.length ≤ maxLen) →
      Delimited.cut (pduDelimiter maxLen) (answers.map Answered.encode).flatten =
        (answers.map Answered.encode, .waiting [])

theorem cut_encodings (answers : List Answered) (maxLen : Nat)
    (told : ∀ answered ∈ answers, SelfDelimiting answered.encode)
    (small : ∀ answered ∈ answers, answered.encode.length ≤ maxLen) :
    Delimited.cut (pduDelimiter maxLen) (answers.map Answered.encode).flatten =
      (answers.map Answered.encode, .waiting []) := by
  apply Delimited.cut_flatten
  · rfl
  · intro frame member
    obtain ⟨answered, answers_has, rfl⟩ := List.mem_map.mp member
    exact (told answered answers_has).framed (Response.encode_long _) (small answered answers_has)

theorem responses_cut_apart_iff (answers : List Answered)
    (small : ∀ answered ∈ answers, answered.encode.length < 2 ^ 32) :
    CutApart answers ↔
      ∀ answered ∈ answers, ¬ Miscounted answered.request answered.verdict := by
  have each : ∀ answered ∈ answers,
      (SelfDelimiting answered.encode ↔ ¬ Miscounted answered.request answered.verdict) :=
    fun answered member => answer_self_delimiting_iff _ _ _ _ answered.obtained
      (small answered member)
  constructor
  · intro cut answered member
    exact (each answered member).mp (cut.1 answered member)
  · intro counted
    have told : ∀ answered ∈ answers, SelfDelimiting answered.encode :=
      fun answered member => (each answered member).mpr (counted answered member)
    exact ⟨told, fun maxLen => cut_encodings answers maxLen told⟩

theorem accepted_unbind_cut_apart :
    CutApart [⟨.unbind (Unbind.withSequenceNumber 1), .accept AcceptArgs.empty, _, rfl, []⟩] :=
  (responses_cut_apart_iff _ (by decide)).mpr (by simp [Miscounted])

theorem rejected_deliver_sm_not_cut_apart :
    ∃ pdu, DeliverSm.new 7 Str.empty 1 1 Str.empty 1 1 Str.empty 0 0 0 Str.empty Str.empty 0 0 0
        0 [] = some pdu ∧
      (pdu.reject .ESME_RX_T_APPN).encode =
        [0, 0, 0, 16, 0x80, 0, 0, 5, 0, 0, 0, 100, 0, 0, 0, 7, 0] ∧
      ¬ CutApart [⟨.deliverSm pdu, .reject .ESME_RX_T_APPN, _, rfl, []⟩] := by
  refine ⟨_, rfl, by decide, ?_⟩
  intro cut
  exact DeliverSm.rejection_not_self_delimiting _ _ (cut.1 _ List.mem_cons_self)

/-- The requests that the constructors make, with any parameters attached to them. -/
inductive Built : Request → Prop
  | submitSm {seq : UInt32} {serviceType : Str} {sourceTon sourceNpi : UInt8} {source : Str}
      {destTon destNpi : UInt8} {destination : Str} {esmClass protocolId priority : UInt8}
      {schedule validity : Str} {registered replace coding defaultId : UInt8} {message : Bytes}
      {pdu : SubmitSm} (tlvs : List Tlv)
      (made : SubmitSm.new seq serviceType sourceTon sourceNpi source destTon destNpi destination
        esmClass protocolId priority schedule validity registered replace coding defaultId
        message = some pdu) : Built (.submitSm (pdu.withTlvs tlvs))
  | deliverSm {seq : UInt32} {serviceType : Str} {sourceTon sourceNpi : UInt8} {source : Str}
      {destTon destNpi : UInt8} {destination : Str} {esmClass protocolId priority : UInt8}
      {schedule validity : Str} {registered replace coding defaultId : UInt8} {message : Bytes}
      {pdu : DeliverSm} (tlvs : List Tlv)
      (made : DeliverSm.new seq serviceType sourceTon sourceNpi source destTon destNpi destination
        esmClass protocolId priority schedule validity registered replace coding defaultId
        message = some pdu) : Built (.deliverSm (pdu.withTlvs tlvs))
  | dataSm (seq : UInt32) (serviceType : Str) (sourceTon sourceNpi : UInt8) (source : Str)
      (destTon destNpi : UInt8) (destination : Str) (esmClass registered coding : UInt8)
      (tlvs : List Tlv) :
      Built (.dataSm ((DataSm.new seq serviceType sourceTon sourceNpi source destTon destNpi
        destination esmClass registered coding).withTlvs tlvs))
  | submitSmMulti {seq : UInt32} {serviceType : Str} {sourceTon sourceNpi : UInt8} {source : Str}
      {destinations : List DestAddress} {esmClass protocolId priority : UInt8}
      {schedule validity : Str} {registered replace coding defaultId : UInt8} {message : Bytes}
      {pdu : SubmitSmMulti} (tlvs : List Tlv)
      (made : SubmitSmMulti.new seq serviceType sourceTon sourceNpi source destinations esmClass
        protocolId priority schedule validity registered replace coding defaultId message =
        some pdu) : Built (.submitSmMulti (pdu.withTlvs tlvs))
  | querySm (seq : UInt32) (messageId : Str) (sourceTon sourceNpi : UInt8) (source : Str) :
      Built (.querySm (QuerySm.new seq messageId sourceTon sourceNpi source))
  | replaceSm {seq : UInt32} {messageId : Str} {sourceTon sourceNpi : UInt8}
      {source schedule validity : Str} {registered defaultId : UInt8} {message : Bytes}
      {pdu : ReplaceSm}
      (made : ReplaceSm.new seq messageId sourceTon sourceNpi source schedule validity registered
        defaultId message = some pdu) : Built (.replaceSm pdu)
  | cancelSm {seq : UInt32} {serviceType messageId : Str} {sourceTon sourceNpi : UInt8}
      {source : Str} {destTon destNpi : UInt8} {destination : Str} {pdu : CancelSm}
      (made : CancelSm.new seq serviceType messageId sourceTon sourceNpi source destTon destNpi
        destination = some pdu) : Built (.cancelSm pdu)
  | bind (kind : BindKind) {seq : UInt32} {systemId password systemType : Str} {ton npi : UInt8}
      {range : Str} {pdu : BindRequest kind}
      (made : BindRequest.new kind seq systemId password systemType ton npi range = some pdu) :
      Built (.bind kind pdu)
  | outbind (seq : UInt32) (systemId password : Str) :
      Built (.outbind (Outbind.new seq systemId password))
  | alertNotification {seq : UInt32} {sourceTon sourceNpi : UInt8} {source : Str}
      {esmeTon esmeNpi : UInt8} {esme : Str} {status : Option UInt8} {pdu : AlertNotification}
      (made : AlertNotification.new seq sourceTon sourceNpi source esmeTon esmeNpi esme status =
        some pdu) : Built (.alertNotification pdu)
  | unbind (seq : UInt32) : Built (.unbind (Unbind.withSequenceNumber seq))
  | enquireLink (seq : UInt32) : Built (.enquireLink (EnquireLink.new seq))

theorem SubmitSm.self_delimiting (pdu : SubmitSm) (small : pdu.encode.length < 2 ^ 32) :
    SelfDelimiting pdu.encode := by
  rw [SubmitSm.encode, List.length_append, CommandHeader.encode_length] at small
  rw [SubmitSm.encode, selfDelimiting_iff]
  exact pdu.total_length pdu.tlvs small

theorem DeliverSm.self_delimiting (pdu : DeliverSm) (small : pdu.encode.length < 2 ^ 32) :
    SelfDelimiting pdu.encode := by
  rw [DeliverSm.encode, List.length_append, CommandHeader.encode_length] at small
  rw [DeliverSm.encode, selfDelimiting_iff]
  exact pdu.total_length pdu.tlvs small

theorem DataSm.self_delimiting (pdu : DataSm) (small : pdu.encode.length < 2 ^ 32) :
    SelfDelimiting pdu.encode := by
  rw [DataSm.encode, List.length_append, CommandHeader.encode_length] at small
  rw [DataSm.encode, selfDelimiting_iff]
  exact pdu.total_length pdu.tlvs small

theorem SubmitSmMulti.self_delimiting (pdu : SubmitSmMulti) (small : pdu.encode.length < 2 ^ 32) :
    SelfDelimiting pdu.encode := by
  rw [SubmitSmMulti.encode, List.length_append, CommandHeader.encode_length] at small
  rw [SubmitSmMulti.encode, selfDelimiting_iff]
  exact pdu.total_length pdu.tlvs small

theorem QuerySm.new_self_delimiting (seq : UInt32) (messageId : Str) (ton npi : UInt8)
    (source : Str) (small : (QuerySm.new seq messageId ton npi source).encode.length < 2 ^ 32) :
    SelfDelimiting (QuerySm.new seq messageId ton npi source).encode := by
  refine declared_self_delimiting _ _ _ rfl ?_ small
  rw [QueryFields.encode_length]
  rfl

theorem ReplaceSm.new_self_delimiting {seq : UInt32} {messageId : Str} {ton npi : UInt8}
    {source schedule validity : Str} {registered defaultId : UInt8} {message : Bytes}
    {pdu : ReplaceSm}
    (made : ReplaceSm.new seq messageId ton npi source schedule validity registered defaultId
      message = some pdu) (small : pdu.encode.length < 2 ^ 32) : SelfDelimiting pdu.encode := by
  rw [ReplaceSm.new] at made
  split at made
  · cases made
    refine declared_self_delimiting _ _ _ rfl ?_ small
    rw [ReplaceFields.encode_length]
  · cases made

/-- The constructor's length is short by the message_id and its terminator. -/
theorem CancelSm.new_not_self_delimiting {seq : UInt32} {serviceType messageId : Str}
    {sourceTon sourceNpi : UInt8} {source : Str} {destTon destNpi : UInt8} {destination : Str}
    {pdu : CancelSm}
    (made : CancelSm.new seq serviceType messageId sourceTon sourceNpi source destTon destNpi
      destination = some pdu) : ¬ SelfDelimiting pdu.encode := by
  rw [CancelSm.new] at made
  split at made
  · rename_i bounds
    cases made
    rw [CancelSm.encode, selfDelimiting_iff, CancelFields.encode_length]
    dsimp only
    rw [length_ofNat (by omega)]
    omega
  · cases made

theorem BindRequest.new_self_delimiting {kind : BindKind} {seq : UInt32}
    {systemId password systemType : Str} {ton npi : UInt8} {range : Str} {pdu : BindRequest kind}
    (made : BindRequest.new kind seq systemId password systemType ton npi range = some pdu)
    (small : pdu.encode.length < 2 ^ 32) : SelfDelimiting pdu.encode := by
  rw [BindRequest.new] at made
  split at made
  · cases made
    refine declared_self_delimiting _ _ _ rfl ?_ small
    rw [BindFields.encode_length]
  · cases made

theorem Outbind.new_self_delimiting {seq : UInt32} {systemId password : Str} {bytes : Bytes}
    (encoded : (Outbind.new seq systemId password).encode = some bytes) : SelfDelimiting bytes := by
  rw [Outbind.new, Outbind.encode] at encoded
  dsimp only at encoded
  split_ifs at encoded with long
  obtain rfl := Option.some.inj encoded
  refine declared_self_delimiting _ _ _ rfl ?_ ?_
  · rw [List.length_append, cOctetString_length, cOctetString_length]
    omega
  · simp only [List.length_append, cOctetString_length, CommandHeader.encode_length]
    omega

theorem AlertNotification.new_self_delimiting {seq : UInt32} {sourceTon sourceNpi : UInt8}
    {source : Str} {esmeTon esmeNpi : UInt8} {esme : Str} {status : Option UInt8}
    {pdu : AlertNotification}
    (made : AlertNotification.new seq sourceTon sourceNpi source esmeTon esmeNpi esme status =
      some pdu) (small : pdu.encode.length < 2 ^ 32) : SelfDelimiting pdu.encode := by
  rw [AlertNotification.new] at made
  split at made
  · cases made
    refine declared_self_delimiting _ _ _ rfl ?_ small
    cases status with
    | none =>
      rw [List.append_nil, AlertFields.encode_length]
      change 16 + 2 + source.len + 1 + 2 + esme.len + 1 + 0 =
        16 + (2 + source.len + 1 + 2 + esme.len + 1)
      omega
    | some status =>
      rw [List.length_append, AlertFields.encode_length, Tlv.encode_length]
      change 16 + 2 + source.len + 1 + 2 + esme.len + 1 + 5 =
        16 + (2 + source.len + 1 + 2 + esme.len + 1 + 5)
      omega
  · cases made

theorem Built.self_delimiting_iff {request : Request} {bytes : Bytes} (built : Built request)
    (encoded : request.encode = some bytes) (small : bytes.length < 2 ^ 32) :
    SelfDelimiting bytes ↔ ∀ pdu, request ≠ .cancelSm pdu := by
  cases built with
  | cancelSm made =>
    cases encoded
    exact iff_of_false (CancelSm.new_not_self_delimiting made) fun other => other _ rfl
  | submitSm tlvs made =>
    cases encoded
    exact iff_of_true (SubmitSm.self_delimiting _ small) nofun
  | deliverSm tlvs made =>
    cases encoded
    exact iff_of_true (DeliverSm.self_delimiting _ small) nofun
  | dataSm =>
    cases encoded
    exact iff_of_true (DataSm.self_delimiting _ small) nofun
  | submitSmMulti tlvs made =>
    cases encoded
    exact iff_of_true (SubmitSmMulti.self_delimiting _ small) nofun
  | querySm seq messageId ton npi source =>
    cases encoded
    exact iff_of_true (QuerySm.new_self_delimiting seq messageId ton npi source small) nofun
  | replaceSm made =>
    cases encoded
    exact iff_of_true (ReplaceSm.new_self_delimiting made small) nofun
  | bind kind made =>
    cases encoded
    exact iff_of_true (BindRequest.new_self_delimiting made small) nofun
  | outbind => exact iff_of_true (Outbind.new_self_delimiting encoded) nofun
  | alertNotification made =>
    cases encoded
    exact iff_of_true (AlertNotification.new_self_delimiting made small) nofun
  | unbind =>
    cases encoded
    exact iff_of_true (bare_self_delimiting _ _ _) nofun
  | enquireLink =>
    cases encoded
    exact iff_of_true (bare_self_delimiting _ _ _) nofun

theorem Request.encode_long {request : Request} {bytes : Bytes}
    (encoded : request.encode = some bytes) : 16 ≤ bytes.length := by
  cases request with
  | outbind pdu =>
    simp only [Request.encode, Outbind.encode] at encoded
    split_ifs at encoded
    cases encoded
    rw [List.length_append, CommandHeader.encode_length]
    omega
  | _ pdu =>
    cases encoded
    simp only [SubmitSm.encode, SubmitSmMulti.encode, DeliverSm.encode, DataSm.encode,
      CancelSm.encode, QuerySm.encode, ReplaceSm.encode, Unbind.encode, EnquireLink.encode,
      BindRequest.encode, AlertNotification.encode, List.length_append,
      CommandHeader.encode_length]
    omega

theorem requests_self_delimiting_iff (request : Request) (bytes : Bytes) (built : Built request)
    (encoded : request.encode = some bytes) (small : bytes.length < 2 ^ 32) :
    (SelfDelimiting bytes ∧ ∃ header, CommandHeader.decode bytes = .ok header) ↔
      ∀ pdu, request ≠ .cancelSm pdu := by
  rw [CommandHeader.decode_ok_iff, ← built.self_delimiting_iff encoded small]
  constructor
  · exact fun both => both.1
  · exact fun told => ⟨told, Request.encode_long encoded, told⟩

theorem enquire_link_self_delimiting :
    SelfDelimiting (EnquireLink.new 2).encode ∧
      ∃ header, CommandHeader.decode (EnquireLink.new 2).encode = .ok header :=
  (requests_self_delimiting_iff (.enquireLink (EnquireLink.new 2)) _ (.enquireLink 2) rfl
    (by decide)).mpr nofun

theorem cancel_sm_not_self_delimiting :
    ∃ pdu, CancelSm.new 1 Str.empty Str.empty 1 1 Str.empty 1 1 Str.empty = some pdu ∧
      pdu.encode =
        [0, 0, 0, 23, 0, 0, 0, 8, 0, 0, 0, 0, 0, 0, 0, 1, 0, 0, 1, 1, 0, 1, 1, 0] ∧
      ¬ SelfDelimiting pdu.encode ∧
      CommandHeader.decode pdu.encode = .error .ESME_RINVMSGLEN := by
  exact ⟨_, rfl, by decide, by decide, by decide⟩

end Smpp34
