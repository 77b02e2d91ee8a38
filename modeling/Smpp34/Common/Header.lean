import Smpp34.Base.Delimited
import Smpp34.Base.Octets

namespace Smpp34

open Octets

inductive CommandId where
  | genericNack
  | bindReceiver
  | bindReceiverResp
  | bindTransmitter
  | bindTransmitterResp
  | querySm
  | querySmResp
  | submitSm
  | submitSmResp
  | deliverSm
  | deliverSmResp
  | unbind
  | unbindResp
  | replaceSm
  | replaceSmResp
  | cancelSm
  | cancelSmResp
  | bindTransceiver
  | bindTransceiverResp
  | outbind
  | enquireLink
  | enquireLinkResp
  | submitMulti
  | submitMultiResp
  | alertNotification
  | dataSm
  | dataSmResp
deriving DecidableEq, Repr

def CommandId.value : CommandId → UInt32
  | .genericNack => 0x80000000
  | .bindReceiver => 0x00000001
  | .bindReceiverResp => 0x80000001
  | .bindTransmitter => 0x00000002
  | .bindTransmitterResp => 0x80000002
  | .querySm => 0x00000003
  | .querySmResp => 0x80000003
  | .submitSm => 0x00000004
  | .submitSmResp => 0x80000004
  | .deliverSm => 0x00000005
  | .deliverSmResp => 0x80000005
  | .unbind => 0x00000006
  | .unbindResp => 0x80000006
  | .replaceSm => 0x00000007
  | .replaceSmResp => 0x80000007
  | .cancelSm => 0x00000008
  | .cancelSmResp => 0x80000008
  | .bindTransceiver => 0x00000009
  | .bindTransceiverResp => 0x80000009
  | .outbind => 0x0000000B
  | .enquireLink => 0x00000015
  | .enquireLinkResp => 0x80000015
  | .submitMulti => 0x00000021
  | .submitMultiResp => 0x80000021
  | .alertNotification => 0x00000102
  | .dataSm => 0x00000103
  | .dataSmResp => 0x80000103

theorem CommandId.value_injective : Function.Injective CommandId.value := by
  intro a b same
  cases a <;> simp only [CommandId.value] at same <;> cases b <;> simp_all

@[simp]
theorem CommandId.value_inj {a b : CommandId} : a.value = b.value ↔ a = b :=
  CommandId.value_injective.eq_iff

inductive SmppError where
  | ESME_ROK
  | ESME_RINVMSGLEN
  | ESME_RINVCMDLEN
  | ESME_RINVCMDID
  | ESME_RINVBNDSTS
  | ESME_RALYBND
  | ESME_RINVPRTFLG
  | ESME_RINVREGDLVFLG
  | ESME_RSYSERR
  | ESME_RINVSRCADR
  | ESME_RINVDSTADR
  | ESME_RINVMSGID
  | ESME_RBINDFAIL
  | ESME_RINVPASWD
  | ESME_RINVSYSID
  | ESME_RCANCELFAIL
  | ESME_RREPLACEFAIL
  | ESME_RMSGQFUL
  | ESME_RINVSERTYP
  | ESME_RINVNUMDESTS
  | ESME_RINVDLNAME
  | ESME_RINVDESTFLAG
  | ESME_RINVSUBREP
  | ESME_RINVESMCLASS
  | ESME_RCNTSUBDL
  | ESME_RSUBMITFAIL
  | ESME_RINVSRCTON
  | ESME_RINVSRCNPI
  | ESME_RINVDSTTON
  | ESME_RINVDSTNPI
  | ESME_RINVSYSTYP
  | ESME_RINVREPFLAG
  | ESME_RINVNUMMSGS
  | ESME_RTHROTTLED
  | ESME_RINVSCHED
  | ESME_RINVEXPIRY
  | ESME_RINVDFTMSGID
  | ESME_RX_T_APPN
  | ESME_RX_P_APPN
  | ESME_RX_R_APPN
  | ESME_RQUERYFAIL
  | ESME_RINVOPTPARSTREAM
  | ESME_ROPTPARNOTALLWD
  | ESME_RINVPARLEN
  | ESME_RMISSINGOPTPARAM
  | ESME_RINVOPTPARAMVAL
  | ESME_RDELIVERYFAILURE
  | ESME_RUNKNOWNERR
deriving DecidableEq, Repr

namespace SmppError

def code : SmppError → UInt32
  | ESME_ROK => 0x00000000
  | ESME_RINVMSGLEN => 0x00000001
  | ESME_RINVCMDLEN => 0x00000002
  | ESME_RINVCMDID => 0x00000003
  | ESME_RINVBNDSTS => 0x00000004
  | ESME_RALYBND => 0x00000005
  | ESME_RINVPRTFLG => 0x00000006
  | ESME_RINVREGDLVFLG => 0x00000007
  | ESME_RSYSERR => 0x00000008
  | ESME_RINVSRCADR => 0x0000000A
  | ESME_RINVDSTADR => 0x0000000B
  | ESME_RINVMSGID => 0x0000000C
  | ESME_RBINDFAIL => 0x0000000D
  | ESME_RINVPASWD => 0x0000000E
  | ESME_RINVSYSID => 0x0000000F
  | ESME_RCANCELFAIL => 0x00000011
  | ESME_RREPLACEFAIL => 0x00000013
  | ESME_RMSGQFUL => 0x00000014
  | ESME_RINVSERTYP => 0x00000015
  | ESME_RINVNUMDESTS => 0x00000033
  | ESME_RINVDLNAME => 0x00000034
  | ESME_RINVDESTFLAG => 0x00000040
  | ESME_RINVSUBREP => 0x00000042
  | ESME_RINVESMCLASS => 0x00000043
  | ESME_RCNTSUBDL => 0x00000044
  | ESME_RSUBMITFAIL => 0x00000045
  | ESME_RINVSRCTON => 0x00000048
  | ESME_RINVSRCNPI => 0x00000049
  | ESME_RINVDSTTON => 0x00000050
  | ESME_RINVDSTNPI => 0x00000051
  | ESME_RINVSYSTYP => 0x00000053
  | ESME_RINVREPFLAG => 0x00000054
  | ESME_RINVNUMMSGS => 0x00000055
  | ESME_RTHROTTLED => 0x00000058
  | ESME_RINVSCHED => 0x00000061
  | ESME_RINVEXPIRY => 0x00000062
  | ESME_RINVDFTMSGID => 0x00000063
  | ESME_RX_T_APPN => 0x00000064
  | ESME_RX_P_APPN => 0x00000065
  | ESME_RX_R_APPN => 0x00000066
  | ESME_RQUERYFAIL => 0x00000067
  | ESME_RINVOPTPARSTREAM => 0x000000C0
  | ESME_ROPTPARNOTALLWD => 0x000000C1
  | ESME_RINVPARLEN => 0x000000C2
  | ESME_RMISSINGOPTPARAM => 0x000000C3
  | ESME_RINVOPTPARAMVAL => 0x000000C4
  | ESME_RDELIVERYFAILURE => 0x000000FE
  | ESME_RUNKNOWNERR => 0x000000FF

def all : List SmppError :=
  [ESME_ROK, ESME_RINVMSGLEN, ESME_RINVCMDLEN, ESME_RINVCMDID, ESME_RINVBNDSTS, ESME_RALYBND,
    ESME_RINVPRTFLG, ESME_RINVREGDLVFLG, ESME_RSYSERR, ESME_RINVSRCADR, ESME_RINVDSTADR,
    ESME_RINVMSGID, ESME_RBINDFAIL, ESME_RINVPASWD, ESME_RINVSYSID, ESME_RCANCELFAIL,
    ESME_RREPLACEFAIL, ESME_RMSGQFUL, ESME_RINVSERTYP, ESME_RINVNUMDESTS, ESME_RINVDLNAME,
    ESME_RINVDESTFLAG, ESME_RINVSUBREP, ESME_RINVESMCLASS, ESME_RCNTSUBDL, ESME_RSUBMITFAIL,
    ESME_RINVSRCTON, ESME_RINVSRCNPI, ESME_RINVDSTTON, ESME_RINVDSTNPI, ESME_RINVSYSTYP,
    ESME_RINVREPFLAG, ESME_RINVNUMMSGS, ESME_RTHROTTLED, ESME_RINVSCHED, ESME_RINVEXPIRY,
    ESME_RINVDFTMSGID, ESME_RX_T_APPN, ESME_RX_P_APPN, ESME_RX_R_APPN, ESME_RQUERYFAIL,
    ESME_RINVOPTPARSTREAM, ESME_ROPTPARNOTALLWD, ESME_RINVPARLEN, ESME_RMISSINGOPTPARAM,
    ESME_RINVOPTPARAMVAL, ESME_RDELIVERYFAILURE, ESME_RUNKNOWNERR]

def fromCommandStatus (status : UInt32) : SmppError :=
  (all.find? fun error => error.code = status).getD ESME_RUNKNOWNERR

theorem code_eq_zero_iff (error : SmppError) : error.code = 0 ↔ error = ESME_ROK := by
  cases error <;> decide

end SmppError

structure CommandHeader where
  commandLength : UInt32
  commandId : UInt32
  commandStatus : UInt32
  sequenceNumber : UInt32
deriving DecidableEq, Repr

/-- The big-endian word at `offset`, or 0 if the octets run out. -/
def beU32At (bytes : Bytes) (offset : Nat) : UInt32 :=
  match bytes.drop offset with
  | a :: b :: c :: d :: _ => ofBe32 a b c d
  | _ => 0

namespace CommandHeader

def decode (pdu : Bytes) : Except SmppError CommandHeader :=
  if pdu.length < 16 then .error .ESME_RINVCMDLEN
  else
    let header : CommandHeader := ⟨beU32At pdu 0, beU32At pdu 4, beU32At pdu 8, beU32At pdu 12⟩
    if pdu.length ≠ header.commandLength.toNat then .error .ESME_RINVMSGLEN else .ok header

def encode (header : CommandHeader) : Bytes :=
  be32 header.commandLength ++ be32 header.commandId ++ be32 header.commandStatus ++
    be32 header.sequenceNumber

@[simp] theorem encode_length (header : CommandHeader) : header.encode.length = 16 := rfl

end CommandHeader

theorem beU32At_be32 (left : Bytes) (n : UInt32) (right : Bytes) :
    beU32At (left ++ (be32 n ++ right)) left.length = n := by
  rw [beU32At, List.drop_left]
  simp only [be32, List.cons_append, List.nil_append, ofBe32_bytes]

theorem beU32At_append {bytes : Bytes} {offset : Nat} (more : Bytes)
    (within : offset + 4 ≤ bytes.length) :
    beU32At (bytes ++ more) offset = beU32At bytes offset := by
  have remaining : 4 ≤ (bytes.drop offset).length := by
    rw [List.length_drop]
    omega
  rw [beU32At, beU32At, List.drop_append_of_le_length (by omega)]
  match bytes.drop offset, remaining with
  | a :: b :: c :: d :: _, _ => rfl

theorem beU32At_take {bytes : Bytes} {offset size : Nat} (within : offset + 4 ≤ size)
    (fits : size ≤ bytes.length) : beU32At (bytes.take size) offset = beU32At bytes offset := by
  conv_rhs => rw [← List.take_append_drop size bytes]
  rw [beU32At_append]
  rw [List.length_take]
  omega

theorem beU32At_drop (bytes : Bytes) (cursor offset : Nat) :
    beU32At (bytes.drop cursor) offset = beU32At bytes (cursor + offset) := by
  rw [beU32At, beU32At, List.drop_drop]

namespace CommandHeader

theorem beU32At_commandLength (header : CommandHeader) (body : Bytes) :
    beU32At (header.encode ++ body) 0 = header.commandLength := by
  simpa [encode] using beU32At_be32 [] header.commandLength _

theorem beU32At_commandId (header : CommandHeader) (body : Bytes) :
    beU32At (header.encode ++ body) 4 = header.commandId := by
  simpa [encode] using beU32At_be32 (be32 header.commandLength) header.commandId _

theorem beU32At_commandStatus (header : CommandHeader) (body : Bytes) :
    beU32At (header.encode ++ body) 8 = header.commandStatus := by
  simpa [encode] using
    beU32At_be32 (be32 header.commandLength ++ be32 header.commandId) header.commandStatus _

theorem beU32At_sequenceNumber (header : CommandHeader) (body : Bytes) :
    beU32At (header.encode ++ body) 12 = header.sequenceNumber := by
  simpa [encode] using
    beU32At_be32 (be32 header.commandLength ++ be32 header.commandId ++ be32 header.commandStatus)
      header.sequenceNumber body

/-- An encoded PDU is accepted exactly when its length field tells its length. -/
theorem decode_encode (header : CommandHeader) (body : Bytes) :
    decode (header.encode ++ body) =
      if header.commandLength.toNat = 16 + body.length then .ok header
      else .error .ESME_RINVMSGLEN := by
  have size : (header.encode ++ body).length = 16 + body.length := by simp
  rw [decode, if_neg (by omega)]
  simp only [beU32At_commandLength, beU32At_commandId, beU32At_commandStatus,
    beU32At_sequenceNumber, size]
  by_cases told : header.commandLength.toNat = 16 + body.length
  · rw [if_neg (by omega), if_pos told]
  · rw [if_pos (by omega), if_neg told]

theorem decode_ok_iff (pdu : Bytes) :
    (∃ header, decode pdu = .ok header) ↔
      16 ≤ pdu.length ∧ (beU32At pdu 0).toNat = pdu.length := by
  rw [decode]
  split
  · simp
    omega
  · dsimp only
    split
    · simp
      omega
    · simp
      omega

theorem decode_ok_eq {pdu : Bytes} {header : CommandHeader} (decoded : decode pdu = .ok header) :
    header = ⟨beU32At pdu 0, beU32At pdu 4, beU32At pdu 8, beU32At pdu 12⟩ ∧
      16 ≤ pdu.length ∧ header.commandLength.toNat = pdu.length := by
  rw [decode] at decoded
  split at decoded
  · cases decoded
  · dsimp only at decoded
    split at decoded
    · cases decoded
    · cases decoded
      refine ⟨rfl, by omega, by dsimp only; omega⟩

end CommandHeader

abbrev Framing := Delimited.Verdict UInt32

def frameFirstPdu (buffer : Bytes) (maxLen : Nat) : Framing :=
  if buffer.length < 16 then .incomplete
  else
    let commandLength := beU32At buffer 0
    if commandLength.toNat < 16 ∨ commandLength.toNat > maxLen then .invalid commandLength
    else if buffer.length < commandLength.toNat then .incomplete
    else .complete commandLength.toNat

def maxPduLen : Nat := 1024 * 1024

theorem frameFirstPdu_complete {buffer : Bytes} {maxLen size : Nat}
    (whole : frameFirstPdu buffer maxLen = .complete size) :
    16 ≤ size ∧ size ≤ maxLen ∧ size ≤ buffer.length ∧ (beU32At buffer 0).toNat = size := by
  simp only [frameFirstPdu] at whole
  split_ifs at whole
  cases whole
  omega

theorem frameFirstPdu_invalid {buffer : Bytes} {maxLen : Nat} {n : UInt32}
    (bad : frameFirstPdu buffer maxLen = .invalid n) :
    16 ≤ buffer.length ∧ beU32At buffer 0 = n ∧ (n.toNat < 16 ∨ maxLen < n.toNat) := by
  simp only [frameFirstPdu] at bad
  split_ifs at bad with short outside
  cases bad
  exact ⟨by omega, rfl, outside⟩

theorem frameFirstPdu_append_complete {buffer : Bytes} {maxLen size : Nat} (more : Bytes)
    (whole : frameFirstPdu buffer maxLen = .complete size) :
    frameFirstPdu (buffer ++ more) maxLen = .complete size := by
  obtain ⟨low, high, fits, told⟩ := frameFirstPdu_complete whole
  have size' : (buffer ++ more).length = buffer.length + more.length := by simp
  simp only [frameFirstPdu, beU32At_append more (show 0 + 4 ≤ buffer.length by omega), told]
  rw [if_neg (by omega), if_neg (by omega), if_neg (by omega)]

theorem frameFirstPdu_append_invalid {buffer : Bytes} {maxLen : Nat} {n : UInt32} (more : Bytes)
    (bad : frameFirstPdu buffer maxLen = .invalid n) :
    frameFirstPdu (buffer ++ more) maxLen = .invalid n := by
  obtain ⟨long, told, outside⟩ := frameFirstPdu_invalid bad
  have size' : (buffer ++ more).length = buffer.length + more.length := by simp
  simp only [frameFirstPdu, beU32At_append more (show 0 + 4 ≤ buffer.length by omega), told]
  rw [if_neg (by omega), if_pos outside]

/-- The framer as a delimiter: what it says of a front no later octet changes. -/
def pduDelimiter (maxLen : Nat) : Delimited.Delimiter UInt8 UInt32 where
  judge buffer := frameFirstPdu buffer maxLen
  positive whole := by
    have bounds := frameFirstPdu_complete whole
    omega
  within whole := (frameFirstPdu_complete whole).2.2.1
  complete_append := frameFirstPdu_append_complete
  invalid_append := frameFirstPdu_append_invalid

theorem decode_framed {buffer : Bytes} {maxLen size : Nat}
    (whole : frameFirstPdu buffer maxLen = .complete size) :
    ∃ header, CommandHeader.decode (buffer.take size) = .ok header := by
  obtain ⟨low, high, fits, told⟩ := frameFirstPdu_complete whole
  rw [CommandHeader.decode_ok_iff, List.length_take, Nat.min_eq_left fits,
    beU32At_take (by omega) fits]
  exact ⟨low, told⟩

theorem frameFirstPdu_encode (header : CommandHeader) (body rest : Bytes) {maxLen : Nat}
    (told : header.commandLength.toNat = 16 + body.length) (small : 16 + body.length ≤ maxLen) :
    frameFirstPdu (header.encode ++ body ++ rest) maxLen = .complete (16 + body.length) := by
  have size : (header.encode ++ body ++ rest).length = 16 + body.length + rest.length := by
    simp only [List.length_append, CommandHeader.encode_length]
  have length : beU32At (header.encode ++ body ++ rest) 0 = header.commandLength := by
    rw [List.append_assoc, CommandHeader.beU32At_commandLength]
  simp only [frameFirstPdu, length, told]
  rw [if_neg (by omega), if_neg (by omega), if_neg (by omega)]

end Smpp34
