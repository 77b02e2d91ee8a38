import Smpp34.Base.Octets

namespace Utf8

open Octets

/-- Where a scan of UTF-8 octets stands. Inside a character the next octet lies in
    `low..high`, and `owed` plain continuation octets follow it. -/
inductive State where
  | start
  | inside (owed : Nat) (low high : UInt8)
deriving DecidableEq, Repr

def lead (b : UInt8) : Option State :=
  if b < 0x80 then some .start
  else if b < 0xC2 then none
  else if b < 0xE0 then some (.inside 0 0x80 0xBF)
  else if b = 0xE0 then some (.inside 1 0xA0 0xBF)
  else if b = 0xED then some (.inside 1 0x80 0x9F)
  else if b < 0xF0 then some (.inside 1 0x80 0xBF)
  else if b = 0xF0 then some (.inside 2 0x90 0xBF)
  else if b < 0xF4 then some (.inside 2 0x80 0xBF)
  else if b = 0xF4 then some (.inside 2 0x80 0x8F)
  else none

def afterContinuation : Nat → State
  | 0 => .start
  | owed + 1 => .inside owed 0x80 0xBF

def step : State → UInt8 → Option State
  | .start, b => lead b
  | .inside owed low high, b =>
    if low ≤ b ∧ b ≤ high then some (afterContinuation owed) else none

def scan : State → Bytes → Option State
  | state, [] => some state
  | state, b :: rest => (step state b).bind fun next => scan next rest

def Valid (bytes : Bytes) : Prop := scan .start bytes = some .start

instance (bytes : Bytes) : Decidable (Valid bytes) := inferInstanceAs (Decidable (_ = _))

def replacement : Bytes := [0xEF, 0xBF, 0xBD]

/-- Decoding with every maximal malformed subsequence replaced by U+FFFD; `held` are the
    octets of the character the scan is inside. -/
def lossyFrom : State → Bytes → Bytes → Bytes
  | .start, held, [] => held
  | .inside _ _ _, _, [] => replacement
  | .start, held, b :: rest =>
    match lead b with
    | some .start => held ++ b :: lossyFrom .start [] rest
    | some next => lossyFrom next (held ++ [b]) rest
    | none => held ++ replacement ++ lossyFrom .start [] rest
  | .inside owed low high, held, b :: rest =>
    if low ≤ b ∧ b ≤ high then
      match afterContinuation owed with
      | .start => held ++ b :: lossyFrom .start [] rest
      | next => lossyFrom next (held ++ [b]) rest
    else
      match lead b with
      | some .start => replacement ++ b :: lossyFrom .start [] rest
      | some next => replacement ++ lossyFrom next [b] rest
      | none => replacement ++ replacement ++ lossyFrom .start [] rest

def lossy (bytes : Bytes) : Bytes := lossyFrom .start [] bytes

theorem scan_append (state : State) (left right : Bytes) :
    scan state (left ++ right) = (scan state left).bind fun next => scan next right := by
  induction left generalizing state with
  | nil => rfl
  | cons b rest ih =>
    simp only [List.cons_append, scan]
    cases step state b with
    | none => rfl
    | some next => exact ih next

theorem scan_start_append {left right : Bytes} (first : Valid left) (state : State)
    (second : scan .start right = some state) : scan .start (left ++ right) = some state := by
  rw [scan_append, show scan .start left = some .start from first]
  exact second

theorem lossyFrom_of_scan (state : State) (held bytes : Bytes)
    (ends : scan state bytes = some .start) : lossyFrom state held bytes = held ++ bytes := by
  induction bytes generalizing state held with
  | nil =>
    cases ends
    simp [lossyFrom]
  | cons b rest ih =>
    simp only [scan, Option.bind_eq_some_iff] at ends
    obtain ⟨next, stepped, remaining⟩ := ends
    cases state with
    | start =>
      simp only [step] at stepped
      rw [lossyFrom, stepped]
      cases next with
      | start => simp [ih .start [] remaining]
      | inside owed low high => simp [ih _ (held ++ [b]) remaining]
    | inside owed low high =>
      simp only [step] at stepped
      split at stepped
      · rename_i within
        cases stepped
        rw [lossyFrom, if_pos within]
        cases owed with
        | zero => simp [afterContinuation, ih .start [] remaining]
        | succ owed => simpa [afterContinuation] using ih _ (held ++ [b]) remaining
      · cases stepped

theorem lossy_of_valid {bytes : Bytes} (valid : Valid bytes) : lossy bytes = bytes :=
  lossyFrom_of_scan .start [] bytes valid

theorem replacement_valid : Valid replacement := by decide

theorem scan_lossyFrom (state : State) (held bytes : Bytes)
    (reached : scan .start held = some state) :
    scan .start (lossyFrom state held bytes) = some .start := by
  induction bytes generalizing state held with
  | nil =>
    cases state with
    | start => simpa [lossyFrom] using reached
    | inside owed low high => exact replacement_valid
  | cons b rest ih =>
    have restarted : scan .start (lossyFrom .start [] rest) = some .start := ih .start [] rfl
    have fromHead (head : Bytes) (ends : scan .start head = some .start) :
        scan .start (head ++ lossyFrom .start [] rest) = some .start :=
      scan_start_append ends _ restarted
    cases state with
    | start =>
      rw [lossyFrom]
      cases opened : lead b with
      | none =>
        simp only
        exact fromHead _ (scan_start_append reached _ replacement_valid)
      | some next =>
        have extended : scan .start (held ++ [b]) = some next :=
          scan_start_append reached _ (by simp [scan, step, opened])
        cases next with
        | start => simpa using fromHead _ extended
        | inside owed low high => exact ih _ _ extended
    | inside owed low high =>
      rw [lossyFrom]
      split
      · rename_i within
        have extended : scan .start (held ++ [b]) = some (afterContinuation owed) := by
          rw [scan_append, reached]
          simp [scan, step, within]
        cases owed with
        | zero => simpa [afterContinuation] using fromHead _ extended
        | succ owed => exact ih _ _ extended
      · cases opened : lead b with
        | none =>
          simp only
          exact fromHead _ (by decide)
        | some next =>
          have single : scan .start [b] = some next := by simp [scan, step, opened]
          cases next with
          | start =>
            have prefixed : scan .start (replacement ++ [b]) = some .start :=
              scan_start_append replacement_valid _ single
            simpa using fromHead _ prefixed
          | inside owed low high =>
            exact scan_start_append replacement_valid _ (ih _ _ single)

theorem lossy_valid (bytes : Bytes) : Valid (lossy bytes) :=
  scan_lossyFrom .start [] bytes rfl

theorem lossyFrom_length_le (state : State) (held bytes : Bytes)
    (begun : state ≠ .start → held ≠ []) :
    (lossyFrom state held bytes).length ≤ 3 * (held.length + bytes.length) := by
  induction bytes generalizing state held with
  | nil =>
    cases state with
    | start =>
      rw [lossyFrom, List.length_nil]
      omega
    | inside owed low high =>
      have positive := List.length_pos_iff.mpr (begun nofun)
      change 3 ≤ 3 * (held.length + 0)
      omega
  | cons b rest ih =>
    have restart := ih .start [] nofun
    have extend (next : State) := ih next (held ++ [b]) fun _ => by simp
    have again (next : State) := ih next [b] fun _ => by simp
    simp only [List.length_append, List.length_cons, List.length_nil] at restart extend again ⊢
    cases state with
    | start =>
      rw [lossyFrom]
      split
      · simp only [List.length_append, List.length_cons]
        omega
      · rename_i next _ _
        have bound := extend next
        omega
      · simp only [List.length_append, replacement, List.length_cons, List.length_nil]
        omega
    | inside owed low high =>
      have positive := List.length_pos_iff.mpr (begun nofun)
      rw [lossyFrom]
      split
      · split
        · simp only [List.length_append, List.length_cons]
          omega
        · have bound := extend (afterContinuation owed)
          omega
      · split
        · simp only [List.length_append, List.length_cons, replacement, List.length_nil]
          omega
        · rename_i next _ _
          have bound := again next
          simp only [List.length_append, List.length_cons, replacement, List.length_nil]
          omega
        · simp only [List.length_append, List.length_cons, replacement, List.length_nil]
          omega

theorem lossy_length_le (bytes : Bytes) : (lossy bytes).length ≤ 3 * bytes.length := by
  simpa [lossy] using lossyFrom_length_le .start [] bytes nofun

theorem lossyFrom_zero_free (state : State) (held bytes : Bytes) (before : (0 : UInt8) ∉ held)
    (absent : (0 : UInt8) ∉ bytes) : (0 : UInt8) ∉ lossyFrom state held bytes := by
  have replaced : (0 : UInt8) ∉ replacement := by decide
  induction bytes generalizing state held with
  | nil =>
    cases state with
    | start => exact before
    | inside owed low high => exact replaced
  | cons b rest ih =>
    simp only [List.mem_cons, not_or] at absent
    obtain ⟨other, absent⟩ := absent
    have restart := ih .start [] (by simp) absent
    have extend (next : State) := ih next (held ++ [b]) (by simp [before, other]) absent
    have again (next : State) := ih next [b] (by simp [other]) absent
    cases state with
    | start =>
      rw [lossyFrom]
      split
      · simp [before, other, restart]
      · exact extend _
      · simp [before, replaced, restart]
    | inside owed low high =>
      rw [lossyFrom]
      split
      · split
        · simp [before, other, restart]
        · exact extend _
      · split
        · simp [replaced, other, restart]
        · simp [replaced, again]
        · simp [replaced, restart]

theorem lossy_zero_free {bytes : Bytes} (absent : (0 : UInt8) ∉ bytes) :
    (0 : UInt8) ∉ lossy bytes :=
  lossyFrom_zero_free .start [] bytes (by simp) absent

/-- A string of UTF-8 octets. -/
structure Str where
  bytes : Bytes
  valid : Valid bytes
deriving DecidableEq

namespace Str

def empty : Str := ⟨[], rfl⟩

def len (s : Str) : Nat := s.bytes.length

def ofLossy (bytes : Bytes) : Str := ⟨lossy bytes, lossy_valid bytes⟩

def fromUtf8 (bytes : Bytes) : Option Str :=
  if valid : Valid bytes then some ⟨bytes, valid⟩ else none

theorem ofLossy_bytes (s : Str) : ofLossy s.bytes = s := by
  obtain ⟨bytes, valid⟩ := s
  simp only [ofLossy, lossy_of_valid valid]

end Str

end Utf8
