import Smpp34.Base.Parse
import Smpp34.Base.Utf8
import Smpp34.Common.Header

namespace Smpp34

open Octets
open Parse
open Utf8 (Str)

/-- How a decoder fails: with an error for its caller, or by a slice out of range. -/
inductive Fault where
  | error (error : SmppError)
  | panic
deriving DecidableEq, Repr

abbrev Decoded (α : Type) := Except Fault α

/-- `&pdu[16..]` without a length check before it. -/
def bodyOf (pdu : Bytes) : Decoded Bytes :=
  if 16 ≤ pdu.length then .ok (pdu.drop 16) else .error .panic

/-- `&pdu[16..]` behind the length check most decoders make first. -/
def checkedBodyOf (pdu : Bytes) : Decoded Bytes :=
  if pdu.length < 16 then .error (.error .ESME_RINVCMDLEN) else bodyOf pdu

def readBody {α : Type} (reader : Reader α) (input : Bytes) : Decoded (α × Bytes) :=
  match reader input with
  | some result => .ok result
  | none => .error (.error .ESME_RINVPARLEN)

def cOctetString (s : Str) : Bytes := s.bytes ++ [0x00]

def parseCOctetStringNom : Reader Str := do
  let result ← takeUntil 0x00
  let _ ← take 1
  pure (Str.ofLossy result)

def parseCOctetString (bytes : Bytes) (maximumLength : Nat) : Decoded Str :=
  match bytes.findIdx? fun r => r = 0x00 with
  | some index =>
    if index ≤ maximumLength then
      match Str.fromUtf8 (bytes.take index) with
      | some string => .ok string
      | none => .error (.error .ESME_RINVPARLEN)
    else .error (.error .ESME_RINVPARLEN)
  | none => .error (.error .ESME_RINVPARLEN)

/-- A string the wire can carry: the terminator does not occur in it. -/
def NulFree (s : Str) : Prop := (0x00 : UInt8) ∉ s.bytes

instance (s : Str) : Decidable (NulFree s) := inferInstanceAs (Decidable (¬ _))

@[simp] theorem cOctetString_length (s : Str) : (cOctetString s).length = s.len + 1 := by
  simp [cOctetString, Str.len]

theorem reads_terminated (bytes : Bytes) (clean : (0x00 : UInt8) ∉ bytes) :
    Reads parseCOctetStringNom (bytes ++ [0x00]) (Str.ofLossy bytes) := by
  intro rest
  have found : takeUntil 0x00 (bytes ++ [0x00] ++ rest) = some (bytes, 0x00 :: rest) := by
    rw [List.append_assoc]
    exact takeUntil_append 0x00 bytes rest clean
  rw [parseCOctetStringNom, bind_eq, found]
  simp [bind_eq, pure_eq_some, take]

theorem reads_cOctetString (s : Str) (clean : NulFree s) :
    Reads parseCOctetStringNom (cOctetString s) s := by
  have reads := reads_terminated s.bytes clean
  rw [Str.ofLossy_bytes] at reads
  exact reads

theorem bodyOf_append {header body : Bytes} (size : header.length = 16) :
    bodyOf (header ++ body) = .ok body := by
  rw [bodyOf, if_pos (by rw [List.length_append]; omega), ← size, List.drop_left]

theorem checkedBodyOf_append {header body : Bytes} (size : header.length = 16) :
    checkedBodyOf (header ++ body) = .ok body := by
  rw [checkedBodyOf, if_neg (by rw [List.length_append]; omega), bodyOf_append size]

theorem readBody_reads {α : Type} {reader : Reader α} {bytes : Bytes} {value : α}
    (reads : Reads reader bytes value) (rest : Bytes) :
    readBody reader (bytes ++ rest) = .ok (value, rest) := by
  rw [readBody, reads rest]

theorem readBody_ne_panic {α : Type} (reader : Reader α) (input : Bytes) :
    readBody reader input ≠ .error .panic := by
  rw [readBody]
  cases reader input <;> simp

theorem bind_ok {α β : Type} {first : Decoded α} {next : α → Decoded β} {result : β}
    (ran : (first >>= next) = .ok result) :
    ∃ value, first = .ok value ∧ next value = .ok result := by
  cases first with
  | error fault => cases ran
  | ok value => exact ⟨value, rfl, ran⟩

theorem ok_bind {α β : Type} {first : Decoded α} {value : α} (ran : first = .ok value)
    (next : α → Decoded β) : (first >>= next) = next value := by
  rw [ran]
  rfl

theorem bind_ne_panic {α β : Type} {first : Decoded α} {next : α → Decoded β}
    (safe : first ≠ .error .panic) (later : ∀ value, next value ≠ .error .panic) :
    (first >>= next) ≠ .error .panic := by
  cases first with
  | error fault => exact fun panicked => safe (by cases panicked; rfl)
  | ok value => exact later value

theorem bodyOf_ne_panic {pdu : Bytes} (long : 16 ≤ pdu.length) : bodyOf pdu ≠ .error .panic := by
  rw [bodyOf, if_pos long]
  exact nofun

theorem checkedBodyOf_ne_panic (pdu : Bytes) : checkedBodyOf pdu ≠ .error .panic := by
  rw [checkedBodyOf]
  split
  · exact nofun
  · exact bodyOf_ne_panic (by omega)

def SelfDelimiting (pdu : Bytes) : Prop := (beU32At pdu 0).toNat = pdu.length

instance (pdu : Bytes) : Decidable (SelfDelimiting pdu) := inferInstanceAs (Decidable (_ = _))

theorem selfDelimiting_iff (header : CommandHeader) (body : Bytes) :
    SelfDelimiting (header.encode ++ body) ↔ header.commandLength.toNat = 16 + body.length := by
  rw [SelfDelimiting, CommandHeader.beU32At_commandLength, List.length_append,
    CommandHeader.encode_length]

theorem selfDelimiting_encode (header : CommandHeader) :
    SelfDelimiting header.encode ↔ header.commandLength.toNat = 16 := by
  simpa using selfDelimiting_iff header []

theorem SelfDelimiting.framed {pdu : Bytes} {maxLen : Nat} (told : SelfDelimiting pdu)
    (long : 16 ≤ pdu.length) (small : pdu.length ≤ maxLen) :
    frameFirstPdu pdu maxLen = .complete pdu.length := by
  simp only [frameFirstPdu, show (beU32At pdu 0).toNat = pdu.length from told]
  rw [if_neg (by omega), if_neg (by omega), if_neg (by omega)]

theorem length_ofNat {n : Nat} (small : n < 2 ^ 32) : (UInt32.ofNat n).toNat = n :=
  UInt32.toNat_ofNat_of_lt' small

theorem length_ofNat_add {m n : Nat} (small : m + n < 2 ^ 32) :
    (UInt32.ofNat m + UInt32.ofNat n).toNat = m + n := by
  rw [← UInt32.ofNat_add, length_ofNat small]

end Smpp34
