import Smpp34.Base.Octets

namespace Parse

open Octets

/-- A reader takes its value off the front of the input or fails. -/
abbrev Reader (α : Type) := StateT Bytes Option α

def octet : Reader UInt8
  | [] => none
  | b :: rest => some (b, rest)

def take (n : Nat) : Reader Bytes := fun input =>
  if n ≤ input.length then some (input.take n, input.drop n) else none

def takeUntil (stop : UInt8) : Reader Bytes
  | [] => none
  | b :: rest =>
    if b = stop then some ([], b :: rest)
    else (takeUntil stop rest).map fun (found, left) => (b :: found, left)

def word16 : Reader UInt16
  | a :: b :: rest => some (ofBe16 a b, rest)
  | _ => none

def word32 : Reader UInt32
  | a :: b :: c :: d :: rest => some (ofBe32 a b c d, rest)
  | _ => none

def times {α : Type} (reader : Reader α) : Nat → Reader (List α)
  | 0 => pure []
  | n + 1 => do
    let value ← reader
    let values ← times reader n
    pure (value :: values)

/-- In front of any input the octets `bytes` read as `value` and are used up exactly. -/
def Reads {α : Type} (reader : Reader α) (bytes : Bytes) (value : α) : Prop :=
  ∀ rest, reader (bytes ++ rest) = some (value, rest)

/-- What the reader takes off the input is what `spell` writes for the value it gives. -/
def Spells {α : Type} (reader : Reader α) (spell : α → Bytes) : Prop :=
  ∀ input value rest, reader input = some (value, rest) → input = spell value ++ rest

theorem bind_eq {α β : Type} (reader : Reader α) (next : α → Reader β) (input : Bytes) :
    (reader >>= next) input = (reader input).bind fun (value, rest) => next value rest := rfl

theorem pure_eq_some {α : Type} {value found : α} {input left : Bytes} :
    (pure value : Reader α) input = some (found, left) ↔ value = found ∧ input = left := by
  change some (value, input) = some (found, left) ↔ _
  rw [Option.some.injEq, Prod.mk.injEq]

theorem bind_eq_some {α β : Type} {reader : Reader α} {next : α → Reader β} {input : Bytes}
    {result : β × Bytes} :
    (reader >>= next) input = some result ↔
      ∃ value rest, reader input = some (value, rest) ∧ next value rest = some result := by
  rw [bind_eq, Option.bind_eq_some_iff]
  simp

theorem Reads.pure {α : Type} (value : α) : Reads (pure value) [] value := fun _ => rfl

theorem Reads.bind {α β : Type} {reader : Reader α} {next : α → Reader β}
    {first second : Bytes} {value : α} {result : β} (left : Reads reader first value)
    (right : Reads (next value) second result) :
    Reads (reader >>= next) (first ++ second) result := by
  intro rest
  rw [bind_eq, List.append_assoc, left]
  exact right rest

theorem Reads.last {α β : Type} {reader : Reader α} {bytes : Bytes} {value : α}
    (reads : Reads reader bytes value) (build : α → β) :
    Reads (reader >>= fun found => Pure.pure (build found)) bytes (build value) := by
  intro rest
  rw [bind_eq, reads]
  rfl

theorem reads_octet (b : UInt8) : Reads octet [b] b := fun _ => rfl

theorem reads_take (bytes : Bytes) : Reads (take bytes.length) bytes bytes := by
  intro rest
  simp [take]

theorem reads_word16 (n : UInt16) : Reads word16 (be16 n) n := by
  intro rest
  simp only [be16, List.cons_append, List.nil_append, word16, ofBe16_bytes]

theorem reads_word32 (n : UInt32) : Reads word32 (be32 n) n := by
  intro rest
  simp only [be32, List.cons_append, List.nil_append, word32, ofBe32_bytes]

theorem word16_length {input rest : Bytes} {n : UInt16} (read : word16 input = some (n, rest)) :
    input.length = rest.length + 2 := by
  match input, read with
  | a :: b :: _, rfl => rfl

theorem take_length {n : Nat} {input found rest : Bytes}
    (read : take n input = some (found, rest)) :
    found.length = n ∧ input.length = n + rest.length := by
  rw [take] at read
  split at read
  · cases read
    rw [List.length_take, List.length_drop]
    omega
  · cases read

theorem takeUntil_append (stop : UInt8) (bytes rest : Bytes) (absent : stop ∉ bytes) :
    takeUntil stop (bytes ++ stop :: rest) = some (bytes, stop :: rest) := by
  induction bytes with
  | nil => simp [takeUntil]
  | cons b bytes ih =>
    simp only [List.mem_cons, not_or] at absent
    simp only [List.cons_append, takeUntil]
    rw [if_neg (Ne.symm absent.1), ih absent.2]
    rfl

theorem takeUntil_spec {stop : UInt8} {input found left : Bytes}
    (read : takeUntil stop input = some (found, left)) :
    stop ∉ found ∧ input = found ++ left ∧ ∃ rest, left = stop :: rest := by
  induction input generalizing found left with
  | nil => cases read
  | cons b input ih =>
    simp only [takeUntil] at read
    split at read
    · rename_i same
      cases read
      exact ⟨by simp, rfl, input, by rw [same]⟩
    · rename_i different
      simp only [Option.map_eq_some_iff, Prod.exists, Prod.mk.injEq] at read
      obtain ⟨found, left, read, rfl, rfl⟩ := read
      obtain ⟨absent, whole, rest⟩ := ih read
      refine ⟨?_, by rw [whole]; rfl, rest⟩
      simp only [List.mem_cons, not_or]
      exact ⟨Ne.symm different, absent⟩

theorem takeUntil_takeWhile (stop : UInt8) (bytes rest : Bytes) :
    takeUntil stop (bytes ++ stop :: rest) =
      some (bytes.takeWhile fun b => b ≠ stop,
        (bytes.dropWhile fun b => b ≠ stop) ++ stop :: rest) := by
  induction bytes with
  | nil => simp [takeUntil]
  | cons b bytes ih =>
    by_cases same : b = stop
    · simp [takeUntil, same]
    · simp [takeUntil, same, ih]

theorem takeUntil_within {stop : UInt8} {input found left : Bytes} {n : Nat}
    (read : takeUntil stop input = some (found, left)) (stops : input[n]? = some stop) :
    found.length ≤ n := by
  obtain ⟨absent, whole, _⟩ := takeUntil_spec read
  by_contra beyond
  rw [whole, List.getElem?_append_left (by omega)] at stops
  exact absent (List.mem_of_getElem? stops)

theorem Reads.times {α : Type} {reader : Reader α} {encode : α → Bytes} (values : List α)
    (each : ∀ value ∈ values, Reads reader (encode value) value) :
    Reads (times reader values.length) (values.flatMap encode) values := by
  induction values with
  | nil => exact Reads.pure []
  | cons value values ih =>
    have tail := ih fun other member => each other (List.mem_cons_of_mem _ member)
    rw [List.flatMap_cons, ← List.append_nil (values.flatMap encode)]
    exact (each value List.mem_cons_self).bind (tail.bind (Reads.pure _))

theorem spells_octet : Spells octet fun b => [b] := by
  intro input value rest read
  cases input with
  | nil => cases read
  | cons b input =>
    cases read
    rfl

theorem spells_take (n : Nat) : Spells (take n) id := by
  intro input value rest read
  rw [take] at read
  split at read
  · cases read
    exact (List.take_append_drop n input).symm
  · cases read

theorem spells_word16 : Spells word16 be16 := by
  intro input value rest read
  match input, read with
  | a :: b :: _, rfl =>
    rw [be16_ofBe16]
    rfl

theorem Spells.times {α : Type} {reader : Reader α} {encode : α → Bytes}
    (each : Spells reader encode) (n : Nat) :
    Spells (times reader n) fun values => values.flatMap encode := by
  induction n with
  | zero =>
    intro input values rest read
    cases read
    rfl
  | succ n ih =>
    intro input values rest read
    simp only [Parse.times, bind_eq_some, pure_eq_some] at read
    obtain ⟨value, later, first, others, last, second, rfl, rfl⟩ := read
    rw [each input value later first, ih later others last second]
    dsimp only
    rw [List.flatMap_cons, List.append_assoc]

theorem times_length {α : Type} {reader : Reader α} {n : Nat} {input rest : Bytes}
    {values : List α} (read : times reader n input = some (values, rest)) :
    values.length = n := by
  induction n generalizing input values with
  | zero =>
    cases read
    rfl
  | succ n ih =>
    simp only [times, bind_eq_some, pure_eq_some] at read
    obtain ⟨value, later, -, others, last, second, rfl, rfl⟩ := read
    rw [List.length_cons, ih second]

/-- The strict reader takes exactly those spellings that `encode` writes for what the lenient one
    reads; `Formed` are the values that this can give. -/
structure Canonical {α : Type} (strict lenient : Reader α) (encode : α → Bytes)
    (Formed : α → Prop) : Prop where
  spells : Spells strict encode
  agrees : ∀ input result, strict input = some result → lenient input = some result
  formed : ∀ input value rest, lenient input = some (value, rest) → Formed value
  reads : ∀ value, Formed value → Reads strict (encode value) value

theorem Canonical.spelled_iff {α : Type} {strict lenient : Reader α} {encode : α → Bytes}
    {Formed : α → Prop} (canonical : Canonical strict lenient encode Formed)
    {input rest : Bytes} {value : α} (read : lenient input = some (value, rest)) :
    encode value ++ rest = input ↔ (strict input).isSome := by
  constructor
  · intro spelled
    rw [← spelled, canonical.reads value (canonical.formed _ _ _ read) rest]
    rfl
  · intro accepted
    obtain ⟨result, strictly⟩ := Option.isSome_iff_exists.mp accepted
    have same := canonical.agrees _ _ strictly
    rw [read] at same
    cases same
    exact (canonical.spells _ _ _ strictly).symm

theorem Canonical.respell {α : Type} {strict lenient : Reader α} {encode other : α → Bytes}
    {Formed : α → Prop} (canonical : Canonical strict lenient other Formed)
    (same : ∀ value, encode value = other value) : Canonical strict lenient encode Formed := by
  have equal : encode = other := funext same
  rw [equal]
  exact canonical

theorem canonical_octet : Canonical octet octet (fun b => [b]) fun _ => True where
  spells := spells_octet
  agrees _ _ read := read
  formed _ _ _ _ := trivial
  reads b _ := reads_octet b

theorem canonical_take (n : Nat) : Canonical (take n) (take n) id fun bytes => bytes.length = n where
  spells := spells_take n
  agrees _ _ read := read
  formed _ _ _ read := (take_length read).1
  reads bytes size := by
    rw [← size]
    exact reads_take bytes

section Sequence

variable {α β : Type} {strict lenient : Reader α} {head : α → Bytes} {Formed : α → Prop}
variable {Whole : β → Prop}

theorem Canonical.bind {strictly leniently : α → Reader β} {tail : β → Bytes} (first : β → α)
    (front : Canonical strict lenient head Formed)
    (needs : ∀ result, Whole result → Formed (first result))
    (back : ∀ value, Formed value → Canonical (strictly value) (leniently value) tail
      fun result => Whole result ∧ first result = value) :
    Canonical (strict >>= strictly) (lenient >>= leniently)
      (fun result => head (first result) ++ tail result) Whole where
  spells input result rest read := by
    obtain ⟨value, middle, begun, ended⟩ := bind_eq_some.mp read
    have formed := front.formed _ _ _ (front.agrees _ _ begun)
    have same := ((back value formed).formed _ _ _ ((back value formed).agrees _ _ ended)).2
    rw [front.spells _ _ _ begun, (back value formed).spells _ _ _ ended]
    dsimp only
    rw [same, List.append_assoc]
  agrees input result read := by
    obtain ⟨value, middle, begun, ended⟩ := bind_eq_some.mp read
    have formed := front.formed _ _ _ (front.agrees _ _ begun)
    exact bind_eq_some.mpr
      ⟨value, middle, front.agrees _ _ begun, (back value formed).agrees _ _ ended⟩
  formed input result rest read := by
    obtain ⟨value, middle, begun, ended⟩ := bind_eq_some.mp read
    exact ((back value (front.formed _ _ _ begun)).formed _ _ _ ended).1
  reads result whole := by
    have formed := needs result whole
    exact (front.reads _ formed).bind ((back _ formed).reads result ⟨whole, rfl⟩)

theorem Canonical.last (first : β → α) (front : Canonical strict lenient head Formed)
    {build : α → β} (undone : ∀ value, first (build value) = value)
    (made : ∀ result, Whole result ↔ Formed (first result) ∧ result = build (first result)) :
    Canonical (strict >>= fun value => pure (build value))
      (lenient >>= fun value => pure (build value)) (fun result => head (first result)) Whole where
  spells input result rest read := by
    simp only [bind_eq_some, pure_eq_some] at read
    obtain ⟨value, middle, begun, rfl, rfl⟩ := read
    rw [front.spells _ _ _ begun]
    dsimp only
    rw [undone]
  agrees input result read := by
    obtain ⟨value, middle, begun, ended⟩ := bind_eq_some.mp read
    exact bind_eq_some.mpr ⟨value, middle, front.agrees _ _ begun, ended⟩
  formed input result rest read := by
    simp only [bind_eq_some, pure_eq_some] at read
    obtain ⟨value, middle, begun, rfl, rfl⟩ := read
    rw [made, undone]
    exact ⟨front.formed _ _ _ begun, rfl⟩
  reads result whole := by
    obtain ⟨formed, same⟩ := (made result).mp whole
    have reads := (front.reads _ formed).last build
    rw [← same] at reads
    exact reads

end Sequence

theorem Canonical.times {α : Type} {strict lenient : Reader α} {encode : α → Bytes}
    {Formed : α → Prop} (canonical : Canonical strict lenient encode Formed) (n : Nat) :
    Canonical (times strict n) (times lenient n) (fun values => values.flatMap encode)
      fun values => values.length = n ∧ ∀ value ∈ values, Formed value where
  spells := canonical.spells.times n
  agrees := by
    induction n with
    | zero =>
      intro input result read
      exact read
    | succ n ih =>
      intro input result read
      simp only [Parse.times, bind_eq_some] at read ⊢
      obtain ⟨value, later, first, values, rest, second, last⟩ := read
      exact ⟨value, later, canonical.agrees _ _ first, values, rest, ih _ _ second, last⟩
  formed := by
    intro input values rest read
    refine ⟨times_length read, ?_⟩
    induction n generalizing input values with
    | zero =>
      cases read
      simp
    | succ n ih =>
      simp only [Parse.times, bind_eq_some, pure_eq_some] at read
      obtain ⟨value, later, first, others, last, second, rfl, rfl⟩ := read
      rw [List.forall_mem_cons]
      exact ⟨canonical.formed _ _ _ first, ih _ _ second⟩
  reads := by
    rintro values ⟨rfl, formed⟩
    exact Reads.times values fun value member => canonical.reads value (formed value member)

end Parse
