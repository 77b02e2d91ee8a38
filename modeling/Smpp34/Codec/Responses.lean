import Smpp34.Codec.RoundTrip

namespace Smpp34

open Octets
open Parse
open Utf8 (Str)

def Request.bodied : Request → Bool
  | submitSm _ | dataSm _ | querySm _ | bind _ _ => true
  | _ => false

namespace Verdict

def number (request : Request) : Verdict → UInt32
  | accept _ | reject _ => request.header.sequenceNumber
  | genericReject sequenceNumber _ => sequenceNumber

/-- No string holds its terminator, and a rejection has an error to tell. -/
def Clean : Verdict → Prop
  | accept args => NulFree args.messageId ∧ NulFree args.finalDate ∧ NulFree args.systemId
  | reject error | genericReject _ error => error ≠ .ESME_ROK

end Verdict

namespace Response

def withHeader : Response → CommandHeader → Response
  | submitSm resp, header => submitSm { resp with header }
  | dataSm resp, header => dataSm { resp with header }
  | querySm resp, header => querySm { resp with header }
  | bind kind resp, header => bind kind { resp with header }
  | resp, _ => resp

def decodeAs : Response → CommandHeader → Bytes → Decoded Response
  | submitSm _, header, bytes => (SubmitSmResp.decode header bytes).map submitSm
  | dataSm _, header, bytes => (DataSmResp.decode header bytes).map dataSm
  | querySm _, header, bytes => (QuerySmResp.decode header bytes).map querySm
  | bind kind _, header, bytes => (BindResp.decode kind header bytes).map (bind kind)
  | _, _, _ => .error (.error .ESME_RINVCMDID)

/-- What the peer decodes is the same body, under a header with this number and the same status. -/
def ReadsBack (response : Response) (number : UInt32) : Prop :=
  ∃ header, CommandHeader.decode response.encode = .ok header ∧
    response.decodeAs header response.encode = .ok (response.withHeader header) ∧
    header.sequenceNumber = number ∧ header.commandStatus = response.header.commandStatus

theorem ReadsBack.small {response : Response} {number : UInt32}
    (back : response.ReadsBack number) : response.encode.length < 2 ^ 32 := by
  obtain ⟨header, decoded, -⟩ := back
  have told := (CommandHeader.decode_ok_eq decoded).2.2
  have bound := header.commandLength.toNat_lt
  omega

end Response

section Bodies

variable {header written : CommandHeader}

theorem SubmitSmResp.decode_accepted (accepted : header.commandStatus = SmppError.ESME_ROK.code)
    {messageId : Str} (clean : NulFree messageId) :
    SubmitSmResp.decode header (written.encode ++ cOctetString messageId) =
      .ok ⟨header, some messageId⟩ := by
  have read := readBody_reads (reads_cOctetString messageId clean) []
  rw [List.append_nil] at read
  rw [SubmitSmResp.decode, if_neg (not_not_intro accepted),
    ok_bind (bodyOf_append written.encode_length), ok_bind read]
  rfl

theorem DataSmResp.decode_accepted (accepted : header.commandStatus = SmppError.ESME_ROK.code)
    {messageId : Str} (clean : NulFree messageId) {tlvs : List Tlv}
    (fits : ∀ tlv ∈ tlvs, tlv.Fits) :
    DataSmResp.decode header (written.encode ++ (cOctetString messageId ++ encodeTlvs tlvs)) =
      .ok ⟨header, some messageId, tlvs⟩ := by
  have long : (written.encode ++ (cOctetString messageId ++ encodeTlvs tlvs)).length > 16 := by
    simp only [List.length_append, CommandHeader.encode_length, cOctetString_length]
    omega
  rw [DataSmResp.decode, if_neg (not_not_intro accepted), if_pos long,
    ok_bind (bodyOf_append written.encode_length),
    ok_bind (readBody_reads (reads_cOctetString messageId clean) _)]
  simp only [decodeTlvs_encoded tlvs fits]
  rfl

theorem DataSmResp.decode_rejected (refused : header.commandStatus ≠ SmppError.ESME_ROK.code)
    {tlvs : List Tlv} (fits : ∀ tlv ∈ tlvs, tlv.Fits) :
    DataSmResp.decode header (written.encode ++ encodeTlvs tlvs) = .ok ⟨header, none, tlvs⟩ := by
  have body : (written.encode ++ encodeTlvs tlvs).drop 16 = encodeTlvs tlvs := by
    rw [← written.encode_length, List.drop_left]
  rw [DataSmResp.decode, if_pos refused, body, decodeTlvs_encoded tlvs fits]

theorem QuerySmResp.decode_accepted (accepted : header.commandStatus = SmppError.ESME_ROK.code)
    {messageId finalDate : Str} (message : NulFree messageId) (final : NulFree finalDate)
    (messageState errorCode : UInt8) :
    QuerySmResp.decode header (written.encode ++
        (cOctetString messageId ++ cOctetString finalDate ++ [messageState] ++ [errorCode])) =
      .ok ⟨header, messageId, finalDate, messageState, errorCode⟩ := by
  have long : ¬ (written.encode ++ (cOctetString messageId ++ cOctetString finalDate ++
      [messageState] ++ [errorCode])).length ≤ 16 := by
    simp only [List.length_append, CommandHeader.encode_length, cOctetString_length]
    omega
  have last := readBody_reads (reads_octet errorCode) []
  rw [List.append_nil] at last
  rw [QuerySmResp.decode, if_neg (not_not_intro accepted), if_neg long,
    ok_bind (bodyOf_append written.encode_length)]
  simp only [List.append_assoc]
  rw [ok_bind (readBody_reads (reads_cOctetString messageId message) _)]
  dsimp only
  rw [ok_bind (readBody_reads (reads_cOctetString finalDate final) _)]
  dsimp only
  rw [ok_bind (readBody_reads (reads_octet messageState) _)]
  dsimp only
  rw [ok_bind last]
  rfl

theorem BindResp.decode_accepted (kind : BindKind)
    (accepted : header.commandStatus = SmppError.ESME_ROK.code) {systemId : Str}
    (clean : NulFree systemId) (version : Option UInt8) :
    BindResp.decode kind header (written.encode ++ (cOctetString systemId ++
        (match version with
          | some version => (Tlv.fromTag .scInterfaceVersion [version]).encode
          | none => []))) =
      .ok ⟨header, some systemId, version⟩ := by
  have long (rest : Bytes) :
      ¬ (written.encode ++ (cOctetString systemId ++ rest)).length ≤ 16 := by
    simp only [List.length_append, CommandHeader.encode_length, cOctetString_length]
    omega
  rw [BindResp.decode, if_neg (not_not_intro accepted), if_neg (long _),
    ok_bind (bodyOf_append written.encode_length),
    ok_bind (readBody_reads (reads_cOctetString systemId clean) _)]
  cases version with
  | none => rfl
  | some version =>
    have fits : ∀ tlv ∈ [Tlv.fromTag .scInterfaceVersion [version]], tlv.Fits := by
      intro tlv member
      rw [List.mem_singleton.mp member]
      exact (by decide : 1 ≤ 65535)
    have read := decodeTlvs_encoded _ fits
    rw [encodeTlvs, List.flatMap_singleton] at read
    simp only [read]
    rfl

end Bodies

/-- A response whose length field is right reads back where its decoder returns its body. -/
theorem Response.readsBack_of {response : Response} {written : CommandHeader} {body : Bytes}
    {number : UInt32} (encoded : response.encode = written.encode ++ body)
    (told : SelfDelimiting response.encode)
    (decoded : response.decodeAs written response.encode = .ok (response.withHeader written))
    (echoes : written.sequenceNumber = number)
    (status : written.commandStatus = response.header.commandStatus) :
    response.ReadsBack number := by
  refine ⟨written, ?_, decoded, echoes, status⟩
  rw [encoded, selfDelimiting_iff] at told
  rw [encoded]
  exact decode_written told

section Rejections

variable {seq : UInt32} {error : SmppError} (refused : error ≠ .ESME_ROK)

include refused

theorem status_refused : error.code ≠ SmppError.ESME_ROK.code :=
  mt (code_eq_iff error).mp refused

theorem SubmitSm.rejection_readsBack :
    (Response.submitSm (SubmitSm.genericReject seq error)).ReadsBack seq := by
  have told : SelfDelimiting (SubmitSm.genericReject seq error).encode :=
    (selfDelimiting_iff _ []).mpr rfl
  refine Response.readsBack_of rfl told ?_ rfl rfl
  exact congrArg (Except.map Response.submitSm) (if_pos (status_refused refused))

theorem DataSm.rejection_readsBack {tlvs : List Tlv} (fits : ∀ tlv ∈ tlvs, tlv.Fits)
    (small : ((DataSm.genericReject seq error).withTlvs tlvs).encode.length < 2 ^ 32) :
    (Response.dataSm ((DataSm.genericReject seq error).withTlvs tlvs)).ReadsBack seq := by
  have told := DataSmResp.self_delimiting _ small
  refine Response.readsBack_of rfl told ?_ rfl rfl
  exact congrArg (Except.map Response.dataSm)
    (DataSmResp.decode_rejected (status_refused refused) fits)

theorem QuerySm.rejection_readsBack :
    (Response.querySm (QuerySm.genericReject seq error)).ReadsBack seq := by
  have told : SelfDelimiting (QuerySm.genericReject seq error).encode :=
    (rejection_self_delimiting_iff _ seq error _ (by simp)).mpr refused
  refine Response.readsBack_of rfl told ?_ rfl rfl
  exact congrArg (Except.map Response.querySm) (if_pos (status_refused refused))

theorem BindRequest.rejection_readsBack (kind : BindKind) :
    (Response.bind kind (BindRequest.genericReject kind seq error)).ReadsBack seq := by
  have told : SelfDelimiting (BindRequest.genericReject kind seq error).encode := by
    simp only [BindResp.encode, BindRequest.genericReject, List.append_nil]
    exact (rejection_self_delimiting_iff _ seq error _ (by simp)).mpr refused
  refine Response.readsBack_of rfl told ?_ rfl rfl
  exact congrArg (Except.map (Response.bind kind)) (if_pos (status_refused refused))

end Rejections

section Acceptances

theorem SubmitSm.acceptance_readsBack {pdu : SubmitSm} {messageId : Str} {resp : SubmitSmResp}
    (accepted : pdu.accept messageId = some resp) (clean : NulFree messageId) :
    (Response.submitSm resp).ReadsBack pdu.header.sequenceNumber := by
  have told := SubmitSm.accept_self_delimiting accepted
  rw [SubmitSm.accept] at accepted
  split at accepted
  · cases accepted
  · cases accepted
    refine Response.readsBack_of rfl told ?_ rfl rfl
    exact congrArg (Except.map Response.submitSm) (SubmitSmResp.decode_accepted rfl clean)

theorem DataSm.acceptance_readsBack {pdu : DataSm} {messageId : Str} {resp : DataSmResp}
    (accepted : pdu.accept messageId = some resp) (clean : NulFree messageId) {tlvs : List Tlv}
    (fits : ∀ tlv ∈ tlvs, tlv.Fits) (small : (resp.withTlvs tlvs).encode.length < 2 ^ 32) :
    (Response.dataSm (resp.withTlvs tlvs)).ReadsBack pdu.header.sequenceNumber := by
  have told := DataSmResp.self_delimiting _ small
  rw [DataSm.accept] at accepted
  split at accepted
  · cases accepted
  · cases accepted
    refine Response.readsBack_of rfl told ?_ rfl rfl
    exact congrArg (Except.map Response.dataSm) (DataSmResp.decode_accepted rfl clean fits)

theorem QuerySm.acceptance_readsBack (pdu : QuerySm) {messageId finalDate : Str}
    (messageState errorCode : UInt8) (message : NulFree messageId) (final : NulFree finalDate)
    (small : (pdu.accept messageId finalDate messageState errorCode).encode.length < 2 ^ 32) :
    (Response.querySm (pdu.accept messageId finalDate messageState errorCode)).ReadsBack
      pdu.header.sequenceNumber := by
  have told := pdu.accept_self_delimiting _ _ _ _ small
  refine Response.readsBack_of rfl told ?_ rfl rfl
  exact congrArg (Except.map Response.querySm)
    (QuerySmResp.decode_accepted rfl message final messageState errorCode)

theorem BindRequest.acceptance_readsBack {kind : BindKind} (pdu : BindRequest kind)
    {systemId : Str} (version : Option UInt8) (clean : NulFree systemId)
    (small : (pdu.accept systemId version).encode.length < 2 ^ 32) :
    (Response.bind kind (pdu.accept systemId version)).ReadsBack pdu.header.sequenceNumber := by
  have told := pdu.accept_self_delimiting _ _ small
  refine Response.readsBack_of rfl told ?_ rfl rfl
  exact congrArg (Except.map (Response.bind kind))
    (BindResp.decode_accepted kind rfl clean version)

end Acceptances

/-- A response reads back with its body, its parameters and the number it answers, unless it is
    longer than its length field can tell. -/
theorem responses_read_back_iff (request : Request) (verdict : Verdict) (response : Response)
    (tlvs : List Tlv) (bodied : request.bodied = true) (clean : verdict.Clean)
    (fits : ∀ tlv ∈ tlvs, tlv.Fits) (obtained : answer request verdict = some response) :
    (response.withTlvs tlvs).ReadsBack (verdict.number request) ↔
      (response.withTlvs tlvs).encode.length < 2 ^ 32 := by
  refine ⟨Response.ReadsBack.small, ?_⟩
  intro small
  cases request with
  | submitSm pdu =>
    cases verdict with
    | accept args =>
      obtain ⟨resp, accepted, rfl⟩ := Option.map_eq_some_iff.mp obtained
      exact SubmitSm.acceptance_readsBack accepted clean.1
    | reject error =>
      cases obtained
      exact SubmitSm.rejection_readsBack clean
    | genericReject seq error =>
      cases obtained
      exact SubmitSm.rejection_readsBack clean
  | dataSm pdu =>
    cases verdict with
    | accept args =>
      obtain ⟨resp, accepted, rfl⟩ := Option.map_eq_some_iff.mp obtained
      exact DataSm.acceptance_readsBack accepted clean.1 fits small
    | reject error =>
      cases obtained
      exact DataSm.rejection_readsBack clean fits small
    | genericReject seq error =>
      cases obtained
      exact DataSm.rejection_readsBack clean fits small
  | querySm pdu =>
    cases verdict with
    | accept args =>
      cases obtained
      exact pdu.acceptance_readsBack _ _ clean.1 clean.2.1 small
    | reject error =>
      cases obtained
      exact QuerySm.rejection_readsBack clean
    | genericReject seq error =>
      cases obtained
      exact QuerySm.rejection_readsBack clean
  | bind kind pdu =>
    cases verdict with
    | accept args =>
      cases obtained
      exact pdu.acceptance_readsBack _ clean.2.2 small
    | reject error =>
      cases obtained
      exact BindRequest.rejection_readsBack clean kind
    | genericReject seq error =>
      cases obtained
      exact BindRequest.rejection_readsBack clean kind
  | _ => cases bodied

theorem rejected_data_sm_reads_back :
    let pdu := DataSm.new 7 Str.empty 0 0 Str.empty 0 0 Str.empty 0 0 0
    let response := (Response.dataSm (pdu.reject .ESME_RX_T_APPN)).withTlvs [⟨0x0425, [1]⟩]
    response.ReadsBack 7 := by
  intro pdu response
  have fits : ∀ tlv ∈ [(⟨0x0425, [1]⟩ : Tlv)], tlv.Fits := by
    intro tlv member
    rw [List.mem_singleton.mp member]
    exact (by decide : 1 ≤ 65535)
  exact (responses_read_back_iff (.dataSm pdu) (.reject .ESME_RX_T_APPN) _ _ rfl
    (show SmppError.ESME_RX_T_APPN ≠ .ESME_ROK by decide) fits rfl).mpr (by decide)

theorem letters_valid (n : Nat) : Utf8.Valid (List.replicate n 97) := by
  induction n with
  | zero => rfl
  | succ n ih => exact ih

def letters (n : Nat) : Str := ⟨List.replicate n 97, letters_valid n⟩

theorem letters_nulFree (n : Nat) : NulFree (letters n) := by
  intro member
  have same := List.eq_of_mem_replicate member
  cases same

theorem QuerySm.accept_length (pdu : QuerySm) (messageId finalDate : Str)
    (messageState errorCode : UInt8) :
    (pdu.accept messageId finalDate messageState errorCode).encode.length =
      16 + (messageId.len + 1 + (finalDate.len + 1) + 1 + 1) := by
  rw [QuerySm.accept, QuerySmResp.encode, if_pos rfl]
  simp only [List.length_append, CommandHeader.encode_length, cOctetString_length,
    List.length_singleton]

theorem long_query_sm_resp_not_read_back :
    let pdu := QuerySm.new 1 Str.empty 0 0 Str.empty
    let args : AcceptArgs := { AcceptArgs.empty with messageId := letters (2 ^ 32) }
    (Verdict.accept args).Clean ∧
      ∃ response, answer (.querySm pdu) (.accept args) = some response ∧
        ¬ response.ReadsBack ((Verdict.accept args).number (.querySm pdu)) := by
  intro pdu args
  refine ⟨⟨letters_nulFree _, List.not_mem_nil, List.not_mem_nil⟩, _, rfl, ?_⟩
  intro back
  have small := back.small
  change (pdu.accept (letters (2 ^ 32)) Str.empty 0 0).encode.length < 2 ^ 32 at small
  rw [QuerySm.accept_length] at small
  have size : (letters (2 ^ 32)).len = 2 ^ 32 := List.length_replicate
  omega

section Unsuccess

variable {header written : CommandHeader}

theorem SubmitSmMultiResp.decode_count {bytes : Bytes} {resp : SubmitSmMultiResp}
    (accepted : header.commandStatus = SmppError.ESME_ROK.code)
    (decoded : SubmitSmMultiResp.decode header bytes = .ok resp) :
    resp.unsuccessSme.length = resp.noUnsuccess.toNat := by
  rw [SubmitSmMultiResp.decode, if_neg (not_not_intro accepted)] at decoded
  obtain ⟨input, -, decoded⟩ := bind_ok decoded
  obtain ⟨⟨messageId, afterId⟩, -, decoded⟩ := bind_ok decoded
  obtain ⟨⟨count, afterCount⟩, -, decoded⟩ := bind_ok decoded
  obtain ⟨⟨entries, rest⟩, read, decoded⟩ := bind_ok decoded
  cases decoded
  unfold readBody at read
  split at read
  · rename_i found
    cases read
    exact times_length found
  · cases read

theorem SubmitSmMultiResp.decode_accepted
    (accepted : header.commandStatus = SmppError.ESME_ROK.code) {messageId : Str}
    (clean : NulFree messageId) {entries : List UnsuccessSme}
    (addresses : ∀ entry ∈ entries, NulFree entry.destinationAddr) {count : UInt8}
    (told : count.toNat = entries.length) :
    SubmitSmMultiResp.decode header (written.encode ++
        (messageId.bytes ++ [0x00] ++ [count] ++ entries.flatMap UnsuccessSme.encode)) =
      .ok ⟨header, some messageId, count, entries⟩ := by
  have each := Reads.times entries fun entry member =>
    entry.reads_encode (addresses entry member)
  have last := readBody_reads each []
  rw [List.append_nil] at last
  have terminated : messageId.bytes ++ [0x00] = cOctetString messageId := rfl
  rw [SubmitSmMultiResp.decode, if_neg (not_not_intro accepted),
    ok_bind (bodyOf_append written.encode_length), List.append_assoc, terminated]
  rw [ok_bind (readBody_reads (reads_cOctetString messageId clean) _)]
  dsimp only
  rw [ok_bind (readBody_reads (reads_octet count) _)]
  dsimp only
  rw [told, ok_bind last]
  rfl

end Unsuccess

theorem SubmitSmMulti.accept_encode (pdu : SubmitSmMulti) (messageId : Str)
    (entries : List UnsuccessSme) :
    (pdu.accept messageId entries).encode = (pdu.accept messageId entries).header.encode ++
      (messageId.bytes ++ [0x00] ++ [UInt8.ofNat entries.length] ++
        entries.flatMap UnsuccessSme.encode) := by
  rw [SubmitSmMulti.accept, SubmitSmMultiResp.encode, if_pos rfl]

/-- What the peer learns of the destinations that a multiple submission did not reach. -/
def SubmitSmMultiResp.Reports (bytes : Bytes) (messageId : Str) (entries : List UnsuccessSme) :
    Prop :=
  ∃ header resp, CommandHeader.decode bytes = .ok header ∧
    SubmitSmMultiResp.decode header bytes = .ok resp ∧ resp.messageId = some messageId ∧
    resp.unsuccessSme = entries

theorem SubmitSmMultiResp.Reports.few {pdu : SubmitSmMulti} {messageId : Str}
    {entries : List UnsuccessSme}
    (reported : Reports (pdu.accept messageId entries).encode messageId entries) :
    entries.length < 256 := by
  obtain ⟨header, resp, told, decoded, -, rfl⟩ := reported
  rw [pdu.accept_encode, CommandHeader.decode_encode] at told
  split at told
  · cases told
    rw [SubmitSmMultiResp.decode_count rfl decoded]
    exact resp.noUnsuccess.toNat_lt
  · cases told

/-- The count of the entries is one octet, and nothing keeps the list that short. -/
theorem unsuccess_reported_iff (pdu : SubmitSmMulti) (messageId : Str)
    (entries : List UnsuccessSme) (clean : NulFree messageId)
    (addresses : ∀ entry ∈ entries, NulFree entry.destinationAddr)
    (small : (pdu.accept messageId entries).encode.length ≤ maxPduLen) :
    SubmitSmMultiResp.Reports (pdu.accept messageId entries).encode messageId entries ↔
      entries.length < 256 := by
  refine ⟨SubmitSmMultiResp.Reports.few, ?_⟩
  intro few
  have limit : maxPduLen < 2 ^ 32 := by decide
  have told := pdu.accept_self_delimiting messageId entries (by omega)
  rw [pdu.accept_encode, selfDelimiting_iff] at told
  have count : (UInt8.ofNat entries.length).toNat = entries.length := by
    rw [UInt8.toNat_ofNat']
    exact Nat.mod_eq_of_lt few
  have decoded := @SubmitSmMultiResp.decode_accepted (pdu.accept messageId entries).header
    (pdu.accept messageId entries).header rfl messageId clean entries addresses _ count
  rw [SubmitSmMultiResp.Reports, pdu.accept_encode]
  exact ⟨_, _, decode_written told, decoded, rfl, rfl⟩

theorem one_unsuccess_reported :
    let pdu : SubmitSmMulti :=
      { serviceType := Str.empty, sourceAddrTon := 0, sourceAddrNpi := 0, sourceAddr := Str.empty,
        numberOfDests := 0, destAddresses := [], esmClass := 0, protocolId := 0, priorityFlag := 0,
        scheduleDeliveryTime := Str.empty, validityPeriod := Str.empty, registeredDelivery := 0,
        replaceIfPresentFlag := 0, dataCoding := 0, smDefaultMsgId := 0, smLength := 0,
        shortMessage := [], header := ⟨36, CommandId.submitMulti.value, 0, 1⟩, tlvs := [] }
    let entries : List UnsuccessSme := [⟨1, 1, letters 3, 11⟩]
    SubmitSmMultiResp.Reports (pdu.accept (letters 2) entries).encode (letters 2) entries := by
  intro pdu entries
  refine (unsuccess_reported_iff pdu (letters 2) entries (letters_nulFree 2) ?_ ?_).mpr ?_
  · intro entry member
    rw [List.mem_singleton.mp member]
    exact letters_nulFree 3
  · decide
  · decide

theorem unsuccess_count_wraps :
    let pdu : SubmitSmMulti :=
      { serviceType := Str.empty, sourceAddrTon := 0, sourceAddrNpi := 0, sourceAddr := Str.empty,
        numberOfDests := 0, destAddresses := [], esmClass := 0, protocolId := 0, priorityFlag := 0,
        scheduleDeliveryTime := Str.empty, validityPeriod := Str.empty, registeredDelivery := 0,
        replaceIfPresentFlag := 0, dataCoding := 0, smDefaultMsgId := 0, smLength := 0,
        shortMessage := [], header := ⟨36, CommandId.submitMulti.value, 0, 1⟩, tlvs := [] }
    let entries : List UnsuccessSme := List.replicate 256 ⟨1, 1, Str.empty, 11⟩
    NulFree Str.empty ∧ (∀ entry ∈ entries, NulFree entry.destinationAddr) ∧
      (pdu.accept Str.empty entries).encode.length ≤ maxPduLen ∧
      ¬ SubmitSmMultiResp.Reports (pdu.accept Str.empty entries).encode Str.empty entries := by
  intro pdu entries
  refine ⟨by decide, ?_, by decide +kernel, ?_⟩
  · intro entry member
    rw [List.eq_of_mem_replicate member]
    decide
  · intro reported
    have few := reported.few
    rw [List.length_replicate] at few
    omega

end Smpp34
