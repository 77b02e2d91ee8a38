import Smpp34.Codec.Responses

namespace Smpp34

open Octets
open Parse
open Utf8 (Str)

/-- A field of a body: an octet, a C-octet string, or a message behind its length. -/
inductive FieldKind where
  | octet
  | text
  | counted
deriving DecidableEq

inductive Datum where
  | octet (b : UInt8)
  | text (s : Str)
  | counted (size : UInt8) (message : Bytes)
deriving DecidableEq

namespace Datum

def slot : Datum → FieldKind
  | octet _ => .octet
  | text _ => .text
  | counted _ _ => .counted

def spell : Datum → Bytes
  | octet b => [b]
  | text s => cOctetString s
  | counted size message => [size] ++ message

/-- The field reads back as it was written. -/
def Plain : Datum → Prop
  | octet _ => True
  | text s => NulFree s
  | counted size message => size.toNat = message.length

end Datum

def FieldKind.read : FieldKind → Reader Datum
  | octet => do
    let b ← Parse.octet
    pure (.octet b)
  | text => do
    let s ← parseCOctetStringNom
    pure (.text s)
  | counted => do
    let size ← Parse.octet
    let message ← take size.toNat
    pure (.counted size message)

def readAll : List FieldKind → Reader (List Datum)
  | [] => pure []
  | slot :: slots => do
    let datum ← slot.read
    let data ← readAll slots
    pure (datum :: data)

theorem Datum.Plain.reads {datum : Datum} (plain : datum.Plain) :
    Reads datum.slot.read datum.spell datum := by
  cases datum with
  | octet b => exact (reads_octet b).last Datum.octet
  | text s => exact (reads_cOctetString s plain).last Datum.text
  | counted size message =>
    have told : size.toNat = message.length := plain
    have reads : Reads (take size.toNat) message message := by
      rw [told]
      exact reads_take message
    exact (reads_octet size).bind (reads.last (Datum.counted size))

theorem readAll_cons {slot : FieldKind} {input middle : Bytes} {datum : Datum}
    (read : slot.read input = some (datum, middle)) (slots : List FieldKind) :
    readAll (slot :: slots) input =
      (readAll slots middle).map fun (data, left) => (datum :: data, left) := by
  rw [readAll, bind_eq, read]
  change (readAll slots >>= _) middle = _
  rw [bind_eq]
  cases readAll slots middle <;> rfl

theorem readAll_front {front : List Datum} (plain : ∀ datum ∈ front, datum.Plain)
    (slots : List FieldKind) (rest : Bytes) :
    readAll (front.map Datum.slot ++ slots) (front.flatMap Datum.spell ++ rest) =
      (readAll slots rest).map fun (data, left) => (front ++ data, left) := by
  induction front with
  | nil =>
    rw [List.map_nil, List.flatMap_nil, List.nil_append, List.nil_append]
    cases readAll slots rest <;> rfl
  | cons datum front ih =>
    rw [List.forall_mem_cons] at plain
    have head := plain.1.reads (front.flatMap Datum.spell ++ rest)
    rw [List.map_cons, List.cons_append, List.flatMap_cons, List.append_assoc, readAll_cons head,
      ih plain.2]
    cases readAll slots rest <;> rfl

theorem read_cut {before : Bytes} (clean : (0x00 : UInt8) ∉ before) (rest : Bytes) :
    FieldKind.text.read (before ++ 0x00 :: rest) = some (.text (Str.ofLossy before), rest) := by
  have found := (reads_terminated before clean).last Datum.text rest
  rw [List.append_assoc] at found
  exact found

/-- Whatever is left over in front of the field, its reader gets no further than the field, and
    does the same whatever is behind it. -/
def Datum.Absorbs (datum : Datum) : Prop :=
  ∀ ahead, ∃ found behind, ∀ rest,
    datum.slot.read (ahead ++ (datum.spell ++ rest)) = some (found, behind ++ rest)

theorem absorbs_octet (b : UInt8) : (Datum.octet b).Absorbs := by
  intro ahead
  cases ahead with
  | nil => exact ⟨.octet b, [], fun rest => rfl⟩
  | cons first ahead =>
    refine ⟨.octet first, ahead ++ [b], ?_⟩
    intro rest
    rw [List.append_assoc]
    rfl

theorem absorbs_text (s : Str) : (Datum.text s).Absorbs := by
  intro ahead
  by_cases clean : (0x00 : UInt8) ∈ ahead ++ s.bytes
  · obtain ⟨before, after, cut, clean⟩ := List.eq_append_cons_of_mem clean
    refine ⟨.text (Str.ofLossy before), after ++ [0x00], ?_⟩
    intro rest
    have spelled : ahead ++ ((Datum.text s).spell ++ rest) =
        before ++ 0x00 :: (after ++ [0x00] ++ rest) := by
      rw [Datum.spell, cOctetString, ← List.append_assoc, ← List.append_assoc, cut]
      simp only [List.append_assoc, List.cons_append, List.nil_append]
    rw [spelled]
    exact read_cut clean _
  · refine ⟨.text (Str.ofLossy (ahead ++ s.bytes)), [], ?_⟩
    intro rest
    have spelled : ahead ++ ((Datum.text s).spell ++ rest) =
        ahead ++ s.bytes ++ 0x00 :: ([] ++ rest) := by
      rw [Datum.spell, cOctetString]
      simp only [List.append_assoc, List.cons_append, List.nil_append]
    rw [spelled]
    exact read_cut clean _

/-- No octet is a length too great for what follows it. -/
theorem absorbs_counted {message : Bytes} (long : message.length = 254) :
    (Datum.counted 254 message).Absorbs := by
  intro ahead
  cases ahead with
  | nil =>
    have plain : (Datum.counted 254 message).Plain := long.symm
    exact ⟨_, [], plain.reads⟩
  | cons size ahead =>
    have enough : size.toNat ≤ (ahead ++ (Datum.counted 254 message).spell).length := by
      have bound := size.toNat_lt
      rw [List.length_append, Datum.spell, List.length_append, long, List.length_singleton]
      omega
    refine ⟨.counted size ((ahead ++ (Datum.counted 254 message).spell).take size.toNat),
      (ahead ++ (Datum.counted 254 message).spell).drop size.toNat, ?_⟩
    intro rest
    have read : take size.toNat (ahead ++ (Datum.counted 254 message).spell ++ rest) =
        some ((ahead ++ (Datum.counted 254 message).spell).take size.toNat,
          (ahead ++ (Datum.counted 254 message).spell).drop size.toNat ++ rest) := by
      rw [take, if_pos (by rw [List.length_append]; omega),
        List.take_append_of_le_length enough, List.drop_append_of_le_length enough]
    rw [List.append_assoc] at read
    exact bind_eq_some.mpr ⟨size, _, rfl, bind_eq_some.mpr ⟨_, _, read, rfl⟩⟩

theorem readAll_ahead {back : List Datum} (absorbs : ∀ datum ∈ back, datum.Absorbs)
    (ahead : Bytes) :
    ∃ data behind, ∀ rest,
      readAll (back.map Datum.slot) (ahead ++ (back.flatMap Datum.spell ++ rest)) =
        some (data, behind ++ rest) := by
  induction back generalizing ahead with
  | nil => exact ⟨[], ahead, fun rest => rfl⟩
  | cons datum back ih =>
    rw [List.forall_mem_cons] at absorbs
    obtain ⟨found, behind, begun⟩ := absorbs.1 ahead
    obtain ⟨data, left, ended⟩ := ih absorbs.2 behind
    refine ⟨found :: data, left, ?_⟩
    intro rest
    rw [List.flatMap_cons, List.append_assoc, List.map_cons, readAll]
    exact bind_eq_some.mpr ⟨found, _, begun _, bind_eq_some.mpr ⟨data, _, ended rest, rfl⟩⟩

theorem readAll_append {front back : List FieldKind} {input middle : Bytes} {data : List Datum}
    (read : readAll front input = some (data, middle)) :
    readAll (front ++ back) input =
      (readAll back middle).map fun (more, left) => (data ++ more, left) := by
  induction front generalizing input data with
  | nil =>
    cases read
    rw [List.nil_append]
    cases readAll back middle <;> rfl
  | cons slot front ih =>
    obtain ⟨datum, later, begun, read⟩ := bind_eq_some.mp read
    obtain ⟨others, last, ended, read⟩ := bind_eq_some.mp read
    cases read
    rw [List.cons_append, readAll_cons begun, ih ended]
    cases readAll back middle <;> rfl

/-- A NUL within a string ends it there, and what follows is read as the next field. -/
theorem readAll_cut {front back : List Datum} {before after : Bytes}
    (plain : ∀ datum ∈ front, datum.Plain) (clean : (0x00 : UInt8) ∉ before)
    (absorbs : ∀ datum ∈ back, datum.Absorbs) (next : Datum) (follows : next.Absorbs)
    (rest : Bytes) :
    ∃ found data left middle,
      next.slot.read (after ++ 0x00 :: ((next :: back).flatMap Datum.spell ++ rest)) =
        some (found, middle) ∧
      readAll (front.map Datum.slot ++ .text :: (next :: back).map Datum.slot)
        (front.flatMap Datum.spell ++
          (before ++ 0x00 :: (after ++ 0x00 :: ((next :: back).flatMap Datum.spell ++ rest)))) =
        some (front ++ .text (Str.ofLossy before) :: found :: data, left) := by
  have all : ∀ datum ∈ next :: back, datum.Absorbs := List.forall_mem_cons.mpr ⟨follows, absorbs⟩
  obtain ⟨data, left, told⟩ := readAll_ahead all (after ++ [0x00])
  have read := told rest
  rw [List.append_assoc, List.singleton_append, List.map_cons, readAll] at read
  obtain ⟨found, middle, begun, read⟩ := bind_eq_some.mp read
  obtain ⟨others, last, ended, read⟩ := bind_eq_some.mp read
  cases read
  refine ⟨found, others, left ++ rest, middle, begun, ?_⟩
  rw [readAll_front plain, readAll_cons (read_cut clean _), List.map_cons, readAll_cons begun, ended]
  rfl

inductive Argument where
  | serviceType
  | sourceAddr
  | destinationAddr
  | scheduleDeliveryTime
  | validityPeriod
  | messageId
deriving DecidableEq

def Argument.all : List Argument :=
  [serviceType, sourceAddr, destinationAddr, scheduleDeliveryTime, validityPeriod, messageId]

/-- The fields of a body as a list, with the places of its strings. -/
structure Laid (Fields : Type) where
  read : Reader Fields
  encode : Fields → Bytes
  layout : List FieldKind
  data : Fields → List Datum
  place : Argument → Option Nat
  get : Argument → Fields → Str
  put : Argument → Str → Fields → Fields
  slots : ∀ fields, (data fields).map Datum.slot = layout
  spelled : ∀ fields, encode fields = (data fields).flatMap Datum.spell
  reads : data <$> read = readAll layout
  faithful : ∀ fields other, data fields = data other → fields = other
  found : ∀ arg i, place arg = some i → ∀ fields, (data fields)[i]? = some (.text (get arg fields))
  replaced : ∀ arg i, place arg = some i → ∀ s fields,
    data (put arg s fields) = (data fields).set i (.text s)
  texts : ∀ j < layout.length, layout[j]? = some .text → ∃ arg ∈ Argument.all, place arg = some j
  message : FieldKind.counted ∉ layout.dropLast

namespace Laid

variable {Fields : Type} (laid : Laid Fields) {arg : Argument} {i : Nat}

theorem place_lt (at_ : laid.place arg = some i) (fields : Fields) : i < laid.layout.length := by
  have here := laid.found arg i at_ fields
  rw [← laid.slots fields, List.length_map]
  exact (List.getElem?_eq_some_iff.mp here).1

theorem split (fields : Fields) (at_ : laid.place arg = some i) :
    laid.data fields = (laid.data fields).take i ++
      .text (laid.get arg fields) :: (laid.data fields).drop (i + 1) := by
  have here := laid.found arg i at_ fields
  obtain ⟨inside, same⟩ := List.getElem?_eq_some_iff.mp here
  rw [← same, ← List.drop_eq_getElem_cons inside, List.take_append_drop]

theorem before (fields : Fields) (at_ : laid.place arg = some i) {datum : Datum}
    (member : datum ∈ (laid.data fields).take i) :
    (∃ b, datum = .octet b) ∨
      ∃ other j, laid.place other = some j ∧ j < i ∧ datum = .text (laid.get other fields) := by
  obtain ⟨j, found⟩ := List.mem_iff_getElem?.mp member
  rw [List.getElem?_take] at found
  split at found
  · rename_i before
    have slot : laid.layout[j]? = some datum.slot := by
      rw [← laid.slots fields, List.getElem?_map, found]
      rfl
    have inside := (List.getElem?_eq_some_iff.mp slot).1
    cases datum with
    | octet b => exact .inl ⟨b, rfl⟩
    | text s =>
      obtain ⟨other, -, there⟩ := laid.texts j inside slot
      have same := laid.found other j there fields
      rw [found] at same
      cases same
      exact .inr ⟨other, j, there, before, rfl⟩
    | counted size message =>
      have later := laid.place_lt at_ fields
      have early : laid.layout.dropLast[j]? = some FieldKind.counted := by
        rw [List.getElem?_dropLast, if_pos (by omega)]
        exact slot
      exact absurd (List.mem_of_getElem? early) laid.message
  · cases found

theorem plain_before (fields : Fields) (at_ : laid.place arg = some i)
    (earlier : ∀ other j, laid.place other = some j → j < i → NulFree (laid.get other fields)) :
    ∀ datum ∈ (laid.data fields).take i, datum.Plain := by
  intro datum member
  rcases laid.before fields at_ member with ⟨b, rfl⟩ | ⟨other, j, there, before, rfl⟩
  · trivial
  · exact earlier other j there before

theorem absorbs_before (fields : Fields) (at_ : laid.place arg = some i) :
    ∀ datum ∈ (laid.data fields).take i, datum.Absorbs := by
  intro datum member
  rcases laid.before fields at_ member with ⟨b, rfl⟩ | ⟨other, j, -, -, rfl⟩
  · exact absorbs_octet b
  · exact absorbs_text _

theorem readAll_of_read {input rest : Bytes} {fields : Fields}
    (read : laid.read input = some (fields, rest)) :
    readAll laid.layout input = some (laid.data fields, rest) := by
  rw [← laid.reads]
  change (laid.read input).bind _ = _
  rw [read]
  rfl

theorem read_of_readAll {input rest : Bytes} {data : List Datum}
    (read : readAll laid.layout input = some (data, rest)) :
    ∃ fields, laid.read input = some (fields, rest) ∧ laid.data fields = data := by
  rw [← laid.reads] at read
  change (laid.read input).bind _ = _ at read
  obtain ⟨⟨fields, left⟩, begun, ended⟩ := Option.bind_eq_some_iff.mp read
  cases ended
  exact ⟨fields, begun, rfl⟩

theorem around {fields other : Fields} (at_ : laid.place arg = some i)
    (same : laid.put arg Str.empty fields = laid.put arg Str.empty other) :
    (laid.data fields).take i = (laid.data other).take i ∧
      (laid.data fields).drop (i + 1) = (laid.data other).drop (i + 1) := by
  have lists : (laid.data fields).set i (.text Str.empty) =
      (laid.data other).set i (.text Str.empty) := by
    rw [← laid.replaced arg i at_, ← laid.replaced arg i at_, same]
  constructor
  · have front := congrArg (List.take i) lists
    rwa [List.take_set_of_le (Nat.le_refl i), List.take_set_of_le (Nat.le_refl i)] at front
  · have back := congrArg (List.drop (i + 1)) lists
    rwa [List.drop_set_of_lt (Nat.lt_succ_self i), List.drop_set_of_lt (Nat.lt_succ_self i)] at back

theorem put_eq_of_around {fields other : Fields} {front back : List Datum} {s t : Str}
    (at_ : laid.place arg = some i) (size : front.length = i)
    (left : laid.data fields = front ++ .text s :: back)
    (right : laid.data other = front ++ .text t :: back) :
    laid.put arg Str.empty fields = laid.put arg Str.empty other := by
  apply laid.faithful
  rw [laid.replaced arg i at_, laid.replaced arg i at_, left, right, ← size]
  simp

theorem readAll_from {fields : Fields} (at_ : laid.place arg = some i)
    (plain : ∀ datum ∈ (laid.data fields).take i, datum.Plain) (tail : Bytes) :
    readAll laid.layout (laid.encode fields ++ tail) =
      (readAll (.text :: ((laid.data fields).drop (i + 1)).map Datum.slot)
        (cOctetString (laid.get arg fields) ++
          (((laid.data fields).drop (i + 1)).flatMap Datum.spell ++ tail))).map
        fun (data, left) => ((laid.data fields).take i ++ data, left) := by
  rw [← readAll_front plain]
  congr 1
  · rw [← laid.slots fields]
    conv_lhs => rw [laid.split fields at_]
    rw [List.map_append, List.map_cons]
    rfl
  · rw [laid.spelled]
    conv_lhs => rw [laid.split fields at_]
    rw [List.flatMap_append, List.flatMap_cons]
    simp only [List.append_assoc]
    rfl

theorem take_length {fields : Fields} (at_ : laid.place arg = some i) :
    ((laid.data fields).take i).length = i := by
  have inside := laid.place_lt at_ fields
  rw [← laid.slots fields, List.length_map] at inside
  rw [List.length_take]
  omega

theorem read_clean {fields found : Fields} {tail left : Bytes} (at_ : laid.place arg = some i)
    (plain : ∀ datum ∈ (laid.data fields).take i, datum.Plain)
    (clean : NulFree (laid.get arg fields))
    (ran : laid.read (laid.encode fields ++ tail) = some (found, left)) :
    ∃ data, readAll (((laid.data fields).drop (i + 1)).map Datum.slot)
        (((laid.data fields).drop (i + 1)).flatMap Datum.spell ++ tail) = some (data, left) ∧
      laid.data found = (laid.data fields).take i ++ .text (laid.get arg fields) :: data := by
  have string : ∀ rest, FieldKind.text.read (cOctetString (laid.get arg fields) ++ rest) =
      some (.text (laid.get arg fields), rest) :=
    @Datum.Plain.reads (.text _) clean
  have all := laid.readAll_of_read ran
  rw [laid.readAll_from at_ plain, readAll_cons (string _), Option.map_map,
    Option.map_eq_some_iff] at all
  obtain ⟨⟨data, rest⟩, read, same⟩ := all
  obtain ⟨told, rfl⟩ := Prod.mk.inj same
  exact ⟨data, read, told.symm⟩

theorem contained {a b x y : Fields} {tail left right : Bytes} (at_ : laid.place arg = some i)
    (same : laid.put arg Str.empty a = laid.put arg Str.empty b)
    (plain : ∀ datum ∈ (laid.data a).take i, datum.Plain) (clean : NulFree (laid.get arg a))
    (otherClean : NulFree (laid.get arg b))
    (ran : laid.read (laid.encode a ++ tail) = some (x, left))
    (otherRan : laid.read (laid.encode b ++ tail) = some (y, right)) :
    laid.put arg Str.empty x = laid.put arg Str.empty y ∧ left = right := by
  obtain ⟨front, back⟩ := laid.around at_ same
  obtain ⟨data, read, told⟩ := laid.read_clean at_ plain clean ran
  have otherPlain := plain
  rw [front] at otherPlain
  obtain ⟨others, otherRead, otherTold⟩ := laid.read_clean at_ otherPlain otherClean otherRan
  rw [← back, read] at otherRead
  cases otherRead
  rw [← front] at otherTold
  exact ⟨laid.put_eq_of_around at_ (laid.take_length at_) told otherTold, rfl⟩

theorem read_last {fields : Fields} (at_ : laid.place arg = some i)
    (last : laid.layout.length = i + 1) :
    ∃ front, ∀ other found tail left, (laid.data other).take i = (laid.data fields).take i →
      laid.read (laid.encode other ++ tail) = some (found, left) →
      ∃ s, laid.data found = front ++ [.text s] := by
  obtain ⟨front, behind, ahead⟩ := readAll_ahead (laid.absorbs_before fields at_) []
  refine ⟨front, ?_⟩
  intro other found tail left same ran
  have none : (laid.data other).drop (i + 1) = [] := by
    rw [List.drop_eq_nil_iff, ← last, ← laid.slots other, List.length_map]
  have whole := laid.split other at_
  rw [none, same] at whole
  have layout : laid.layout = ((laid.data fields).take i).map Datum.slot ++ [.text] := by
    rw [← laid.slots other, whole, List.map_append]
    rfl
  have encoded : laid.encode other ++ tail = [] ++ (((laid.data fields).take i).flatMap Datum.spell ++
      (cOctetString (laid.get arg other) ++ tail)) := by
    rw [laid.spelled, whole, List.flatMap_append, List.append_assoc, List.flatMap_singleton]
    rfl
  have all := laid.readAll_of_read ran
  rw [layout, encoded, readAll_append (ahead _), Option.map_eq_some_iff] at all
  obtain ⟨⟨data, rest⟩, read, told⟩ := all
  obtain ⟨datum, middle, string, read⟩ := bind_eq_some.mp read
  obtain ⟨s, later, -, string⟩ := bind_eq_some.mp string
  cases string
  cases read
  exact ⟨s, (Prod.mk.inj told).1.symm⟩

/-- The last string may hold anything, as nothing is read behind it. -/
theorem contained_last {a b x y : Fields} {tail left right : Bytes}
    (at_ : laid.place arg = some i) (last : laid.layout.length = i + 1)
    (same : laid.put arg Str.empty a = laid.put arg Str.empty b)
    (ran : laid.read (laid.encode a ++ tail) = some (x, left))
    (otherRan : laid.read (laid.encode b ++ tail) = some (y, right)) :
    laid.put arg Str.empty x = laid.put arg Str.empty y := by
  obtain ⟨before, -⟩ := laid.around at_ same
  obtain ⟨front, reads⟩ := @read_last _ laid _ _ a at_ last
  obtain ⟨s, told⟩ := reads a x tail left rfl ran
  obtain ⟨t, otherTold⟩ := reads b y tail right before.symm otherRan
  have size : front.length = i := by
    have all := congrArg List.length (laid.slots x)
    rw [told, last, List.length_map, List.length_append, List.length_singleton] at all
    omega
  exact laid.put_eq_of_around at_ size told otherTold

theorem forged {fields : Fields} {next : Datum} {back : List Datum} {before after : Bytes}
    (at_ : laid.place arg = some i) (plain : ∀ datum ∈ (laid.data fields).take i, datum.Plain)
    (cut : (laid.get arg fields).bytes = before ++ 0x00 :: after)
    (clean : (0x00 : UInt8) ∉ before)
    (follows : (laid.data fields).drop (i + 1) = next :: back)
    (absorbs : ∀ datum ∈ next :: back, datum.Absorbs)
    (odd : ∀ rest found middle,
      next.slot.read (after ++ 0x00 :: rest) = some (found, middle) → found ≠ next) (tail : Bytes) :
    ∃ found left, laid.read (laid.encode fields ++ tail) = some (found, left) ∧
      laid.put arg Str.empty found ≠ laid.put arg Str.empty fields := by
  rw [List.forall_mem_cons] at absorbs
  obtain ⟨datum, data, left, middle, begun, all⟩ :=
    @readAll_cut _ back before after plain clean absorbs.2 next absorbs.1 tail
  have whole : readAll laid.layout (laid.encode fields ++ tail) =
      some ((laid.data fields).take i ++ .text (Str.ofLossy before) :: datum :: data, left) := by
    rw [readAll_front plain] at all
    rw [laid.readAll_from at_ plain, follows, ← all, cOctetString, cut]
    simp only [List.append_assoc, List.cons_append, List.nil_append]
  obtain ⟨found, read, told⟩ := laid.read_of_readAll whole
  refine ⟨found, left, read, ?_⟩
  intro same
  have behind := (laid.around at_ same).2
  have dropped : ∀ front : List Datum, front.length = i →
      (front ++ .text (Str.ofLossy before) :: datum :: data).drop (i + 1) = datum :: data := by
    rintro front rfl
    rw [List.drop_length_add_append]
    rfl
  rw [follows, told, dropped _ (laid.take_length at_)] at behind
  exact odd _ _ _ begun (List.cons.inj behind).1

end Laid

def oddOctet : Bytes → UInt8
  | [] => 1
  | b :: _ => b + 1

def oddText (after : Bytes) : Str :=
  if Str.ofLossy (after.takeWhile fun b => b ≠ 0x00) = Str.empty then letters 1 else Str.empty

theorem oddText_clean (after : Bytes) : NulFree (oddText after) := by
  rw [oddText]
  split
  · exact letters_nulFree 1
  · exact List.not_mem_nil

theorem oddText_len (after : Bytes) : (oddText after).len ≤ 1 := by
  rw [oddText]
  split
  · exact Nat.le_refl 1
  · exact Nat.zero_le 1

theorem oddOctet_odd {after rest middle : Bytes} {found : Datum}
    (read : FieldKind.octet.read (after ++ 0x00 :: rest) = some (found, middle)) :
    found ≠ .octet (oddOctet after) := by
  cases after with
  | nil =>
    cases read
    decide
  | cons b after =>
    cases read
    intro same
    have equal := Datum.octet.inj same
    simp [oddOctet] at equal

theorem oddText_odd {after rest middle : Bytes} {found : Datum}
    (read : FieldKind.text.read (after ++ 0x00 :: rest) = some (found, middle)) :
    found ≠ .text (oddText after) := by
  obtain ⟨s, left, string, made⟩ := bind_eq_some.mp read
  obtain ⟨bytes, later, found, string⟩ := bind_eq_some.mp string
  obtain ⟨one, last, -, string⟩ := bind_eq_some.mp string
  rw [takeUntil_takeWhile] at found
  obtain ⟨rfl, -⟩ := Prod.mk.inj (Option.some.inj found)
  obtain ⟨rfl, -⟩ := Prod.mk.inj (Option.some.inj string)
  obtain ⟨rfl, -⟩ := Prod.mk.inj (Option.some.inj made)
  intro same
  have equal := Datum.text.inj same
  rw [oddText] at equal
  split at equal
  · rename_i empty
    rw [empty] at equal
    cases equal
  · contradiction

def fullMessage : Bytes := List.replicate 254 0x00

theorem fullMessage_length : fullMessage.length = 254 := List.length_replicate

/-- Bodies that are the same octet and the same string throughout, with a message as long as the
    constructors take. -/
structure Laid.Sample {Fields : Type} (laid : Laid Fields) where
  fields : UInt8 → Str → Fields
  uniform : ∀ b s, ∀ datum ∈ laid.data (fields b s),
    datum = .octet b ∨ datum = .text s ∨
      ∃ message, datum = .counted 254 message ∧ message.length = 254
  apart : ∀ arg i, laid.place arg = some i → laid.layout[i + 1]? ≠ some .counted

namespace Laid

variable {Fields : Type} {laid : Laid Fields} {arg : Argument} {i : Nat}

theorem put_put (at_ : laid.place arg = some i) (s t : Str) (fields : Fields) :
    laid.put arg s (laid.put arg t fields) = laid.put arg s fields := by
  apply laid.faithful
  rw [laid.replaced arg i at_, laid.replaced arg i at_, laid.replaced arg i at_, List.set_set]

theorem get_put (at_ : laid.place arg = some i) (s : Str) (fields : Fields) :
    laid.get arg (laid.put arg s fields) = s := by
  have found := laid.found arg i at_ (laid.put arg s fields)
  have inside := laid.place_lt at_ fields
  rw [← laid.slots fields, List.length_map] at inside
  rw [laid.replaced arg i at_, List.getElem?_set_self inside] at found
  exact (Datum.text.inj (Option.some.inj found)).symm

theorem Sample.plain (sample : laid.Sample) {b : UInt8} {s : Str} (clean : NulFree s) :
    ∀ datum ∈ laid.data (sample.fields b s), datum.Plain := by
  intro datum member
  rcases sample.uniform b s datum member with rfl | rfl | ⟨message, rfl, long⟩
  · trivial
  · exact clean
  · exact long.symm

theorem read_plain {fields : Fields} (plain : ∀ datum ∈ laid.data fields, datum.Plain)
    (tail : Bytes) : laid.read (laid.encode fields ++ tail) = some (fields, tail) := by
  have all := readAll_front plain [] tail
  rw [List.append_nil, laid.slots, ← laid.spelled] at all
  obtain ⟨found, read, told⟩ := laid.read_of_readAll all
  rw [List.append_nil] at told
  rw [read, laid.faithful _ _ told]

theorem Sample.put_plain (sample : laid.Sample) {b : UInt8} {s t : Str} (clean : NulFree s)
    (at_ : laid.place arg = some i) (otherClean : NulFree t) :
    ∀ datum ∈ laid.data (laid.put arg t (sample.fields b s)), datum.Plain := by
  rw [laid.replaced arg i at_]
  intro datum member
  rcases List.mem_or_eq_of_mem_set member with old | rfl
  · exact sample.plain clean datum old
  · exact otherClean

theorem Sample.get_clean (sample : laid.Sample) {b : UInt8} {s : Str} (clean : NulFree s)
    (at_ : laid.place arg = some i) (value : Str) {other : Argument} {j : Nat}
    (there : laid.place other = some j) (different : j ≠ i) :
    NulFree (laid.get other (laid.put arg value (sample.fields b s))) := by
  have found := laid.found other j there (laid.put arg value (sample.fields b s))
  rw [laid.replaced arg i at_, List.getElem?_set_ne different.symm] at found
  exact sample.plain clean _ (List.mem_of_getElem? found)

theorem Sample.absorbs (sample : laid.Sample) (b : UInt8) (s : Str) :
    ∀ datum ∈ laid.data (sample.fields b s), datum.Absorbs := by
  intro datum member
  rcases sample.uniform b s datum member with rfl | rfl | ⟨message, rfl, long⟩
  · exact absorbs_octet b
  · exact absorbs_text s
  · exact absorbs_counted long

theorem Sample.odd (sample : laid.Sample) (at_ : laid.place arg = some i) {after : Bytes}
    {next : Datum} {back : List Datum}
    (behind : (laid.data (sample.fields (oddOctet after) (oddText after))).drop (i + 1) =
      next :: back) (rest : Bytes) (found : Datum) (middle : Bytes)
    (read : next.slot.read (after ++ 0x00 :: rest) = some (found, middle)) : found ≠ next := by
  have here : (laid.data (sample.fields (oddOctet after) (oddText after)))[i + 1]? = some next := by
    rw [← List.head?_drop, behind]
    rfl
  have member := List.mem_of_getElem? here
  rcases sample.uniform _ _ next member with rfl | rfl | ⟨message, rfl, -⟩
  · exact oddOctet_odd read
  · exact oddText_odd read
  · -- no string stands right before the message
    have slot := laid.slots (sample.fields (oddOctet after) (oddText after))
    have counted := sample.apart arg i at_
    rw [← slot, List.getElem?_map, here] at counted
    exact absurd rfl counted

theorem Sample.forges (sample : laid.Sample) (at_ : laid.place arg = some i)
    (inside : i + 1 < laid.layout.length) {value : Str} (unclean : ¬ NulFree value)
    (tail : Bytes) :
    ∃ b s, NulFree s ∧ s.len ≤ 1 ∧ ∃ found left,
      laid.read (laid.encode (laid.put arg value (sample.fields b s)) ++ tail) =
        some (found, left) ∧
      laid.put arg Str.empty found ≠ laid.put arg Str.empty (sample.fields b s) := by
  obtain ⟨before, after, cut, clean⟩ := List.eq_append_cons_of_mem (not_not.mp unclean)
  let fields := sample.fields (oddOctet after) (oddText after)
  have size : (laid.data fields).length = laid.layout.length := by
    rw [← laid.slots fields, List.length_map]
  have told := laid.replaced arg i at_ value fields
  have front : (laid.data (laid.put arg value fields)).take i = (laid.data fields).take i := by
    rw [told, List.take_set_of_le (Nat.le_refl i)]
  obtain ⟨next, back, behind⟩ := List.exists_cons_of_length_pos
    (l := (laid.data fields).drop (i + 1)) (by rw [List.length_drop]; omega)
  have follows : (laid.data (laid.put arg value fields)).drop (i + 1) = next :: back := by
    rw [told, List.drop_set_of_lt (Nat.lt_succ_self i), behind]
  have plain : ∀ datum ∈ (laid.data (laid.put arg value fields)).take i, datum.Plain := by
    rw [front]
    intro datum member
    exact sample.plain (oddText_clean after) datum (List.mem_of_mem_take member)
  have absorbs : ∀ datum ∈ next :: back, datum.Absorbs := by
    rw [← behind]
    intro datum member
    exact sample.absorbs _ _ datum (List.mem_of_mem_drop member)
  have odd : ∀ rest found middle,
      next.slot.read (after ++ 0x00 :: rest) = some (found, middle) → found ≠ next :=
    sample.odd at_ behind
  rw [← laid.get_put at_ value fields] at cut
  obtain ⟨found, left, read, differs⟩ := laid.forged at_ plain cut clean follows absorbs odd tail
  rw [laid.put_put at_] at differs
  exact ⟨oddOctet after, oddText after, oddText_clean after, oddText_len after, found, left, read,
    differs⟩

end Laid

namespace MessageFields

def get : Argument → MessageFields → Str
  | .serviceType, fields => fields.serviceType
  | .sourceAddr, fields => fields.sourceAddr
  | .destinationAddr, fields => fields.destinationAddr
  | .scheduleDeliveryTime, fields => fields.scheduleDeliveryTime
  | .validityPeriod, fields => fields.validityPeriod
  | .messageId, _ => Str.empty

def put : Argument → Str → MessageFields → MessageFields
  | .serviceType, serviceType, fields => { fields with serviceType }
  | .sourceAddr, sourceAddr, fields => { fields with sourceAddr }
  | .destinationAddr, destinationAddr, fields => { fields with destinationAddr }
  | .scheduleDeliveryTime, scheduleDeliveryTime, fields => { fields with scheduleDeliveryTime }
  | .validityPeriod, validityPeriod, fields => { fields with validityPeriod }
  | .messageId, _, fields => fields

def place : Argument → Option Nat
  | .serviceType => some 0
  | .sourceAddr => some 3
  | .destinationAddr => some 6
  | .scheduleDeliveryTime => some 10
  | .validityPeriod => some 11
  | .messageId => none

def layout : List FieldKind :=
  [.text, .octet, .octet, .text, .octet, .octet, .text, .octet, .octet, .octet, .text, .text,
    .octet, .octet, .octet, .octet, .counted]

def data (fields : MessageFields) : List Datum :=
  [.text fields.serviceType, .octet fields.sourceAddrTon, .octet fields.sourceAddrNpi,
    .text fields.sourceAddr, .octet fields.destAddrTon, .octet fields.destAddrNpi,
    .text fields.destinationAddr, .octet fields.esmClass, .octet fields.protocolId,
    .octet fields.priorityFlag, .text fields.scheduleDeliveryTime, .text fields.validityPeriod,
    .octet fields.registeredDelivery, .octet fields.replaceIfPresentFlag, .octet fields.dataCoding,
    .octet fields.smDefaultMsgId, .counted fields.smLength fields.shortMessage]

def laid : Laid MessageFields where
  read := read
  encode := encode
  layout := layout
  data := data
  place := place
  get := get
  put := put
  slots _ := rfl
  spelled fields := by
    simp only [encode, data, List.flatMap_cons, List.flatMap_nil, Datum.spell, List.append_assoc,
      List.append_nil]
  reads := by
    simp only [read, layout, readAll, FieldKind.read, map_bind, bind_assoc, pure_bind, map_pure]
    rfl
  faithful fields other same := by
    cases fields
    cases other
    simp only [data, List.cons.injEq, Datum.text.injEq, Datum.octet.injEq, Datum.counted.injEq] at same
    simp [same]
  found arg i at_ fields := by
    cases arg <;> cases at_ <;> rfl
  replaced arg i at_ s fields := by
    cases arg <;> cases at_ <;> rfl
  texts := by decide
  message := by decide

def sample : laid.Sample where
  fields b s :=
    ⟨s, b, b, s, b, b, s, b, b, b, s, s, b, b, b, b, 254, fullMessage⟩
  uniform b s := by simp [laid, data, fullMessage_length]
  apart arg i at_ := by
    cases arg <;> cases at_ <;> decide

end MessageFields

namespace DataFields

def get : Argument → DataFields → Str
  | .serviceType, fields => fields.serviceType
  | .sourceAddr, fields => fields.sourceAddr
  | .destinationAddr, fields => fields.destinationAddr
  | _, _ => Str.empty

def put : Argument → Str → DataFields → DataFields
  | .serviceType, serviceType, fields => { fields with serviceType }
  | .sourceAddr, sourceAddr, fields => { fields with sourceAddr }
  | .destinationAddr, destinationAddr, fields => { fields with destinationAddr }
  | _, _, fields => fields

def place : Argument → Option Nat
  | .serviceType => some 0
  | .sourceAddr => some 3
  | .destinationAddr => some 6
  | _ => none

def layout : List FieldKind :=
  [.text, .octet, .octet, .text, .octet, .octet, .text, .octet, .octet, .octet]

def data (fields : DataFields) : List Datum :=
  [.text fields.serviceType, .octet fields.sourceAddrTon, .octet fields.sourceAddrNpi,
    .text fields.sourceAddr, .octet fields.destAddrTon, .octet fields.destAddrNpi,
    .text fields.destinationAddr, .octet fields.esmClass, .octet fields.registeredDelivery,
    .octet fields.dataCoding]

def laid : Laid DataFields where
  read := read
  encode := encode
  layout := layout
  data := data
  place := place
  get := get
  put := put
  slots _ := rfl
  spelled fields := by
    simp only [encode, data, List.flatMap_cons, List.flatMap_nil, Datum.spell, List.append_assoc,
      List.append_nil]
  reads := by
    simp only [read, layout, readAll, FieldKind.read, map_bind, bind_assoc, pure_bind, map_pure]
    rfl
  faithful fields other same := by
    cases fields
    cases other
    simp only [data, List.cons.injEq, Datum.text.injEq, Datum.octet.injEq] at same
    simp [same]
  found arg i at_ fields := by
    cases arg <;> cases at_ <;> rfl
  replaced arg i at_ s fields := by
    cases arg <;> cases at_ <;> rfl
  texts := by decide
  message := by decide

def sample : laid.Sample where
  fields b s := ⟨s, b, b, s, b, b, s, b, b, b⟩
  uniform b s := by simp [laid, data]
  apart arg i at_ := by
    cases arg <;> cases at_ <;> decide

end DataFields

namespace QueryFields

def get : Argument → QueryFields → Str
  | .messageId, fields => fields.messageId
  | .sourceAddr, fields => fields.sourceAddr
  | _, _ => Str.empty

def put : Argument → Str → QueryFields → QueryFields
  | .messageId, messageId, fields => { fields with messageId }
  | .sourceAddr, sourceAddr, fields => { fields with sourceAddr }
  | _, _, fields => fields

def place : Argument → Option Nat
  | .messageId => some 0
  | .sourceAddr => some 3
  | _ => none

def layout : List FieldKind := [.text, .octet, .octet, .text]

def data (fields : QueryFields) : List Datum :=
  [.text fields.messageId, .octet fields.sourceAddrTon, .octet fields.sourceAddrNpi,
    .text fields.sourceAddr]

def laid : Laid QueryFields where
  read := read
  encode := encode
  layout := layout
  data := data
  place := place
  get := get
  put := put
  slots _ := rfl
  spelled fields := by
    simp only [encode, data, List.flatMap_cons, List.flatMap_nil, Datum.spell, List.append_assoc,
      List.append_nil]
  reads := by
    simp only [read, layout, readAll, FieldKind.read, map_bind, bind_assoc, pure_bind, map_pure]
    rfl
  faithful fields other same := by
    cases fields
    cases other
    simp only [data, List.cons.injEq, Datum.text.injEq, Datum.octet.injEq] at same
    simp [same]
  found arg i at_ fields := by
    cases arg <;> cases at_ <;> rfl
  replaced arg i at_ s fields := by
    cases arg <;> cases at_ <;> rfl
  texts := by decide
  message := by decide

def sample : laid.Sample where
  fields b s := ⟨s, b, b, s⟩
  uniform b s := by simp [laid, data]
  apart arg i at_ := by
    cases arg <;> cases at_ <;> decide

end QueryFields

namespace ReplaceFields

def get : Argument → ReplaceFields → Str
  | .messageId, fields => fields.messageId
  | .sourceAddr, fields => fields.sourceAddr
  | .scheduleDeliveryTime, fields => fields.scheduleDeliveryTime
  | .validityPeriod, fields => fields.validityPeriod
  | _, _ => Str.empty

def put : Argument → Str → ReplaceFields → ReplaceFields
  | .messageId, messageId, fields => { fields with messageId }
  | .sourceAddr, sourceAddr, fields => { fields with sourceAddr }
  | .scheduleDeliveryTime, scheduleDeliveryTime, fields => { fields with scheduleDeliveryTime }
  | .validityPeriod, validityPeriod, fields => { fields with validityPeriod }
  | _, _, fields => fields

def place : Argument → Option Nat
  | .messageId => some 0
  | .sourceAddr => some 3
  | .scheduleDeliveryTime => some 4
  | .validityPeriod => some 5
  | _ => none

def layout : List FieldKind :=
  [.text, .octet, .octet, .text, .text, .text, .octet, .octet, .counted]

def data (fields : ReplaceFields) : List Datum :=
  [.text fields.messageId, .octet fields.sourceAddrTon, .octet fields.sourceAddrNpi,
    .text fields.sourceAddr, .text fields.scheduleDeliveryTime, .text fields.validityPeriod,
    .octet fields.registeredDelivery, .octet fields.smDefaultMsgId,
    .counted fields.smLength fields.shortMessage]

def laid : Laid ReplaceFields where
  read := read
  encode := encode
  layout := layout
  data := data
  place := place
  get := get
  put := put
  slots _ := rfl
  spelled fields := by
    simp only [encode, data, List.flatMap_cons, List.flatMap_nil, Datum.spell, List.append_assoc,
      List.append_nil]
  reads := by
    simp only [read, layout, readAll, FieldKind.read, map_bind, bind_assoc, pure_bind, map_pure]
    rfl
  faithful fields other same := by
    cases fields
    cases other
    simp only [data, List.cons.injEq, Datum.text.injEq, Datum.octet.injEq,
      Datum.counted.injEq] at same
    simp [same]
  found arg i at_ fields := by
    cases arg <;> cases at_ <;> rfl
  replaced arg i at_ s fields := by
    cases arg <;> cases at_ <;> rfl
  texts := by decide
  message := by decide

def sample : laid.Sample where
  fields b s := ⟨s, b, b, s, s, s, b, b, 254, fullMessage⟩
  uniform b s := by simp [laid, data, fullMessage_length]
  apart arg i at_ := by
    cases arg <;> cases at_ <;> decide

end ReplaceFields

end Smpp34
