import Mathlib.Data.Multiset.Count
import Mathlib.Logic.Function.Basic
import Mathlib.Logic.Relation

namespace Correlation

/-- How a system reads its messages: the key that the `i`-th request gets, the key and the caller
    of an outgoing message, what it must show, and the key that an incoming one answers. -/
structure Labels (K E M Q : Type) where
  supply : Nat → K
  key : E → Option K
  source : E → Option Nat
  caller : E → Option Nat
  stamped : K → E → Prop
  carries : Q → K → E → Prop
  answers : M → Option K

structure Entry where
  time : Nat
  caller : Option Nat
deriving DecidableEq, Repr

structure Registration (K : Type) where
  key : K
  entry : Entry
  heard : Nat
deriving DecidableEq, Repr

/-- What a caller asked, under which key, and the reply it got with its place in the order heard. -/
structure Slot (K Q R : Type) where
  ask : Q
  key : K
  reply : Option (Nat × R)

structure Ledger (K E M Q R : Type) where
  now : Nat
  issued : Nat
  slots : List (Slot K Q R)
  outbox : Multiset E
  held : Option E
  sent : List E
  registrations : List (Registration K)
  pending : K → Option Entry
  heard : List M
  completions : List (K × Nat)

namespace Ledger

variable {K E M Q R : Type}

def Unanswered (slots : List (Slot K Q R)) (caller : Nat) (key : Option K) : Prop :=
  ∃ slot, slots[caller]? = some slot ∧ key = some slot.key ∧ slot.reply = none

theorem Unanswered.append {slots : List (Slot K Q R)} {caller : Nat} {key : Option K}
    (unanswered : Unanswered slots caller key) (slot : Slot K Q R) :
    Unanswered (slots ++ [slot]) caller key := by
  obtain ⟨own, found, rest⟩ := unanswered
  have inside := (List.getElem?_eq_some_iff.mp found).1
  exact ⟨own, by rw [List.getElem?_append_left inside, found], rest⟩

theorem Unanswered.modify {slots : List (Slot K Q R)} {caller other : Nat} {key : Option K}
    (unanswered : Unanswered slots caller key) (different : other ≠ caller)
    (change : Slot K Q R → Slot K Q R) : Unanswered (slots.modify other change) caller key := by
  obtain ⟨own, found, rest⟩ := unanswered
  exact ⟨own, by rw [List.getElem?_modify_ne _ _ different, found], rest⟩

theorem Unanswered.key_eq {slots : List (Slot K Q R)} {caller : Nat} {key other : Option K}
    (unanswered : Unanswered slots caller key) (again : Unanswered slots caller other) :
    key = other := by
  obtain ⟨slot, found, same, -⟩ := unanswered
  obtain ⟨slot', found', same', -⟩ := again
  rw [found] at found'
  cases found'
  rw [same, same']

def Keeps (slots later : List (Slot K Q R)) : Prop :=
  ∀ (caller : Nat) (slot : Slot K Q R), slots[caller]? = some slot →
    ∃ slot', later[caller]? = some slot' ∧ slot'.ask = slot.ask ∧ slot'.key = slot.key

theorem Keeps.refl (slots : List (Slot K Q R)) : Keeps slots slots :=
  fun _ slot found => ⟨slot, found, rfl, rfl⟩

def empty : Ledger K E M Q R := ⟨0, 0, [], 0, none, [], [], fun _ => none, [], []⟩

variable [DecidableEq K] (labels : Labels K E M Q) (timer : Nat)

def register (ledger : Ledger K E M Q R) (message : E) : Ledger K E M Q R :=
  match labels.key message with
  | none => ledger
  | some key =>
    let entry := ⟨ledger.now, labels.caller message⟩
    { ledger with
      registrations := ledger.registrations ++ [⟨key, entry, ledger.heard.length⟩]
      pending := Function.update ledger.pending key (some entry) }

def withdraw (ledger : Ledger K E M Q R) (message : E) : K → Option Entry :=
  match labels.key message with
  | none => ledger.pending
  | some key => Function.update ledger.pending key none

inductive Step : Ledger K E M Q R → Ledger K E M Q R → Prop
  | wait (ledger) {now : Nat} (later : ledger.now ≤ now) : Step ledger { ledger with now := now }
  | call (ledger) {ask : Q} {message : E}
      (key : labels.key message = some (labels.supply ledger.issued))
      (stamped : labels.stamped (labels.supply ledger.issued) message)
      (carries : labels.carries ask (labels.supply ledger.issued) message)
      (source : labels.source message = some ledger.slots.length)
      (caller : labels.caller message = none ∨
        labels.caller message = some ledger.slots.length) :
      Step ledger { ledger with
        issued := ledger.issued + 1
        slots := ledger.slots ++ [⟨ask, labels.supply ledger.issued, none⟩]
        outbox := message ::ₘ ledger.outbox }
  | issue (ledger) {message : E} (key : labels.key message = some (labels.supply ledger.issued))
      (stamped : labels.stamped (labels.supply ledger.issued) message)
      (source : labels.source message = none) (caller : labels.caller message = none) :
      Step ledger { ledger with
        issued := ledger.issued + 1
        outbox := message ::ₘ ledger.outbox }
  | react (ledger) {message : E} (key : labels.key message = none)
      (source : labels.source message = none) (caller : labels.caller message = none) :
      Step ledger { ledger with outbox := message ::ₘ ledger.outbox }
  | forget (ledger) {outbox : Multiset E} (fewer : outbox ≤ ledger.outbox) :
      Step ledger { ledger with outbox := outbox }
  | register (ledger) {message : E} {rest : Multiset E}
      (taken : ledger.outbox = message ::ₘ rest) (free : ledger.held = none) :
      Step ledger
        (register labels { ledger with outbox := rest, held := some message } message)
  | write (ledger) {message : E} (inHand : ledger.held = some message) :
      Step ledger { ledger with held := none, sent := ledger.sent ++ [message] }
  | rollback (ledger) {message : E} (inHand : ledger.held = some message) :
      Step ledger { ledger with held := none, pending := ledger.withdraw labels message }
  | abandon (ledger) : Step ledger { ledger with held := none }
  | hear (ledger) (message : M) : Step ledger { ledger with heard := ledger.heard ++ [message] }
  | settle (ledger) {message : M} {key : K} {entry : Entry}
      (answers : labels.answers message = some key) (found : ledger.pending key = some entry) :
      Step ledger { ledger with
        heard := ledger.heard ++ [message]
        pending := Function.update ledger.pending key none
        completions := ledger.completions ++ [(key, ledger.heard.length)] }
  | deliver (ledger) {message : M} {key : K} {entry : Entry} {caller : Nat} (reply : R)
      (answers : labels.answers message = some key) (found : ledger.pending key = some entry)
      (waits : entry.caller = some caller) :
      Step ledger { ledger with
        heard := ledger.heard ++ [message]
        slots := ledger.slots.modify caller fun slot =>
          { slot with reply := some (ledger.heard.length, reply) }
        pending := Function.update ledger.pending key none
        completions := ledger.completions ++ [(key, ledger.heard.length)] }
  | sweep (ledger) {pending : K → Option Entry}
      (swept : ∀ key, pending key = ledger.pending key ∨
        pending key = none ∧
          ∃ entry, ledger.pending key = some entry ∧ timer < ledger.now - entry.time) :
      Step ledger { ledger with pending := pending }

def drawn (ledger : Ledger K E M Q R) (key : K) : Nat :=
  ledger.outbox.countP (fun message => labels.key message = some key) +
    ledger.registrations.countP fun registration => registration.key = key

def onWire (ledger : Ledger K E M Q R) (key : K) : Nat :=
  (ledger.sent ++ ledger.held.toList).countP fun message => labels.key message = some key

structure Fresh (ledger : Ledger K E M Q R) : Prop where
  once : ∀ key, ledger.drawn labels key ≤ 1
  supplied : ∀ key, 1 ≤ ledger.drawn labels key → ∃ i < ledger.issued, key = labels.supply i
  registered : ∀ key, ledger.onWire labels key ≤
    ledger.registrations.countP fun registration => registration.key = key

variable {labels timer} {ledger next : Ledger K E M Q R}

theorem Fresh.of_le (fresh : ledger.Fresh labels) (issued : ledger.issued ≤ next.issued)
    (drawn : ∀ key, next.drawn labels key ≤ ledger.drawn labels key)
    (registered : ∀ key, next.onWire labels key ≤
      next.registrations.countP fun registration => registration.key = key) :
    next.Fresh labels := by
  refine ⟨fun key => (drawn key).trans (fresh.once key), ?_, registered⟩
  intro key used
  obtain ⟨i, below, same⟩ := fresh.supplied key (used.trans (drawn key))
  exact ⟨i, below.trans_le issued, same⟩

theorem Fresh.issue (fresh : ledger.Fresh labels) {bound : Nat}
    (injective : ∀ i < bound, ∀ j < bound, labels.supply i = labels.supply j → i = j)
    (room : next.issued ≤ bound) (issued : next.issued = ledger.issued + 1)
    (drawn : ∀ key, next.drawn labels key =
      ledger.drawn labels key + if labels.supply ledger.issued = key then 1 else 0)
    (registered : ∀ key, next.onWire labels key ≤
      next.registrations.countP fun registration => registration.key = key) :
    next.Fresh labels := by
  have unused : ledger.drawn labels (labels.supply ledger.issued) = 0 := by
    by_contra used
    obtain ⟨i, below, same⟩ := fresh.supplied _ (Nat.one_le_iff_ne_zero.mpr used)
    have := injective _ (by omega) _ (by omega) same
    omega
  refine ⟨?_, ?_, registered⟩
  · intro key
    rw [drawn key]
    split
    · rename_i same
      rw [← same, unused]
    · exact fresh.once key
  · intro key used
    rw [drawn key] at used
    by_cases same : labels.supply ledger.issued = key
    · exact ⟨ledger.issued, by omega, same.symm⟩
    · rw [if_neg same] at used
      obtain ⟨i, below, supplied⟩ := fresh.supplied key used
      exact ⟨i, by omega, supplied⟩

theorem drawn_register {message : E} {rest : Multiset E} (taken : ledger.outbox = message ::ₘ rest)
    (key : K) :
    (register labels { ledger with outbox := rest, held := some message } message).drawn labels key
      = ledger.drawn labels key := by
  unfold register drawn
  rw [taken, Multiset.countP_cons]
  cases labelled : labels.key message with
  | none => simp
  | some other =>
    simp only [List.countP_append, List.countP_singleton, decide_eq_true_eq, Option.some.injEq]
    omega

theorem onWire_register {message : E} {rest : Multiset E} (free : ledger.held = none) (key : K)
    (registered : ledger.onWire labels key ≤
      ledger.registrations.countP fun registration => registration.key = key) :
    (register labels { ledger with outbox := rest, held := some message } message).onWire labels key
      ≤ (register labels { ledger with outbox := rest, held := some message } message).registrations.countP
        fun registration => registration.key = key := by
  unfold onWire at registered
  unfold register onWire
  rw [free] at registered
  cases labelled : labels.key message with
  | none => simpa [List.countP_append, labelled] using registered
  | some other =>
    simp only [List.countP_append, Option.toList_none, List.countP_nil, Nat.add_zero] at registered
    simp only [List.countP_append, Option.toList_some, List.countP_singleton, decide_eq_true_eq,
      labelled, Option.some.injEq]
    omega

theorem step_fresh {bound : Nat}
    (injective : ∀ i < bound, ∀ j < bound, labels.supply i = labels.supply j → i = j)
    (fresh : ledger.Fresh labels) (room : next.issued ≤ bound)
    (step : Step labels timer ledger next) : next.Fresh labels := by
  cases step with
  | wait later => exact fresh.of_le le_rfl (fun _ => le_rfl) fresh.registered
  | call key stamped carries source caller =>
    refine fresh.issue injective room rfl (fun other => ?_) fresh.registered
    unfold drawn
    simp only [Multiset.countP_cons, key, Option.some.injEq]
    omega
  | issue key stamped source caller =>
    refine fresh.issue injective room rfl (fun other => ?_) fresh.registered
    unfold drawn
    simp only [Multiset.countP_cons, key, Option.some.injEq]
    omega
  | react key source caller =>
    refine fresh.of_le le_rfl (fun other => ?_) fresh.registered
    unfold drawn
    simp [key]
  | forget fewer =>
    refine fresh.of_le le_rfl (fun other => ?_) fresh.registered
    exact Nat.add_le_add_right (Multiset.countP_le_of_le _ fewer) _
  | @register message rest taken free =>
    refine fresh.of_le ?_ (fun other => (drawn_register taken other).le) fun other =>
      onWire_register free other (fresh.registered other)
    unfold register
    split <;> exact le_rfl
  | write inHand =>
    refine fresh.of_le le_rfl (fun _ => le_rfl) fun other => ?_
    have before := fresh.registered other
    unfold onWire at before ⊢
    simpa [inHand] using before
  | rollback inHand =>
    refine fresh.of_le le_rfl (fun _ => le_rfl) fun other => le_trans ?_ (fresh.registered other)
    unfold onWire
    simp
  | abandon =>
    refine fresh.of_le le_rfl (fun _ => le_rfl) fun other => le_trans ?_ (fresh.registered other)
    unfold onWire
    simp
  | hear message => exact fresh.of_le le_rfl (fun _ => le_rfl) fresh.registered
  | settle answers found => exact fresh.of_le le_rfl (fun _ => le_rfl) fresh.registered
  | deliver reply answers found waits =>
    exact fresh.of_le le_rfl (fun _ => le_rfl) fresh.registered
  | sweep swept => exact fresh.of_le le_rfl (fun _ => le_rfl) fresh.registered

variable (labels) in
structure Claimed (ledger : Ledger K E M Q R) : Prop where
  outbox : ∀ message ∈ ledger.outbox, ∀ caller, labels.caller message = some caller →
    Unanswered ledger.slots caller (labels.key message)
  pending : ∀ key entry caller, ledger.pending key = some entry → entry.caller = some caller →
    Unanswered ledger.slots caller (some key)
  registered : ∀ key entry, ledger.pending key = some entry →
    1 ≤ ledger.registrations.countP fun registration => registration.key = key

theorem Claimed.not_in_outbox (claimed : ledger.Claimed labels) (fresh : ledger.Fresh labels)
    {key : K} {entry : Entry} {caller : Nat} (found : ledger.pending key = some entry)
    (waits : entry.caller = some caller) {message : E} (member : message ∈ ledger.outbox) :
    labels.caller message ≠ some caller := by
  intro same
  have key_eq : labels.key message = some key :=
    (claimed.outbox message member caller same).key_eq (claimed.pending key entry caller found waits)
  have queued : 1 ≤ ledger.outbox.countP fun message => labels.key message = some key :=
    Multiset.countP_pos.mpr ⟨message, member, key_eq⟩
  have registered := claimed.registered key entry found
  have once := fresh.once key
  unfold drawn at once
  omega

theorem update_none_eq_some {pending : K → Option Entry} {key other : K} {entry : Entry}
    (found : Function.update pending key none other = some entry) :
    other ≠ key ∧ pending other = some entry := by
  by_cases same : other = key
  · rw [same, Function.update_self] at found
    cases found
  · rw [Function.update_of_ne same] at found
    exact ⟨same, found⟩

theorem withdraw_eq_some {message : E} {key : K} {entry : Entry}
    (found : ledger.withdraw labels message key = some entry) :
    labels.key message ≠ some key ∧ ledger.pending key = some entry := by
  unfold withdraw at found
  cases labelled : labels.key message with
  | none =>
    rw [labelled] at found
    exact ⟨nofun, found⟩
  | some other =>
    rw [labelled] at found
    obtain ⟨apart, found⟩ := update_none_eq_some found
    exact ⟨fun same => apart (Option.some.inj same).symm, found⟩

theorem Claimed.fewer (claimed : ledger.Claimed labels) (slots : next.slots = ledger.slots)
    (outbox : next.outbox ≤ ledger.outbox)
    (pending : ∀ key entry, next.pending key = some entry → ledger.pending key = some entry)
    (registrations : next.registrations = ledger.registrations) : next.Claimed labels := by
  refine ⟨?_, ?_, ?_⟩
  · intro message member caller waits
    rw [slots]
    exact claimed.outbox message (Multiset.mem_of_le outbox member) caller waits
  · intro key entry caller found waits
    rw [slots]
    exact claimed.pending key entry caller (pending key entry found) waits
  · intro key entry found
    rw [registrations]
    exact claimed.registered key entry (pending key entry found)

theorem Claimed.register (claimed : ledger.Claimed labels) {message : E} {rest : Multiset E}
    (taken : ledger.outbox = message ::ₘ rest) :
    (register labels { ledger with outbox := rest, held := some message } message).Claimed
      labels := by
  have inside : message ∈ ledger.outbox := taken ▸ Multiset.mem_cons_self message rest
  have left : rest ≤ ledger.outbox := taken ▸ Multiset.le_cons_self rest message
  unfold Ledger.register
  cases labelled : labels.key message with
  | none => exact claimed.fewer rfl left (fun _ _ found => found) rfl
  | some key =>
    refine ⟨fun other member => claimed.outbox other (Multiset.mem_of_le left member), ?_, ?_⟩
    · intro other entry caller found waits
      by_cases same : other = key
      · subst same
        simp only [Function.update_self, Option.some.injEq] at found
        subst found
        have owed := claimed.outbox message inside caller waits
        rwa [labelled] at owed
      · simp only [Function.update_of_ne same] at found
        exact claimed.pending other entry caller found waits
    · intro other entry found
      simp only [List.countP_append]
      by_cases same : other = key
      · subst same
        simp
      · simp only [Function.update_of_ne same] at found
        exact (claimed.registered other entry found).trans (Nat.le_add_right _ _)

theorem Claimed.deliver (claimed : ledger.Claimed labels) (fresh : ledger.Fresh labels)
    {message : M} {key : K} {entry : Entry} {caller : Nat} {reply : R}
    (found : ledger.pending key = some entry) (waits : entry.caller = some caller) :
    Claimed labels { ledger with
      heard := ledger.heard ++ [message]
      slots := ledger.slots.modify caller fun slot =>
        { slot with reply := some (ledger.heard.length, reply) }
      pending := Function.update ledger.pending key none
      completions := ledger.completions ++ [(key, ledger.heard.length)] } := by
  refine ⟨?_, ?_, ?_⟩
  · intro other member asking same
    have different : caller ≠ asking := by
      rintro rfl
      exact claimed.not_in_outbox fresh found waits member same
    exact (claimed.outbox other member asking same).modify different _
  · intro other entry' asking found' waits'
    obtain ⟨apart, found'⟩ := update_none_eq_some found'
    have asked := claimed.pending other entry' asking found' waits'
    have different : caller ≠ asking := by
      rintro rfl
      exact apart (Option.some.inj (asked.key_eq (claimed.pending key entry caller found waits)))
    exact asked.modify different _
  · intro other entry' found'
    exact claimed.registered other entry' (update_none_eq_some found').2

theorem step_claimed (fresh : ledger.Fresh labels) (claimed : ledger.Claimed labels)
    (step : Step labels timer ledger next) : next.Claimed labels := by
  cases step with
  | wait later => exact claimed.fewer rfl le_rfl (fun _ _ found => found) rfl
  | @call ask message key stamped carries source caller =>
    refine ⟨?_, fun other entry asking found waits =>
      (claimed.pending other entry asking found waits).append _, claimed.registered⟩
    intro other member asking waits
    rcases Multiset.mem_cons.mp member with rfl | member
    · rcases caller with nobody | self
      · rw [nobody] at waits
        cases waits
      · rw [self] at waits
        cases waits
        exact ⟨⟨ask, labels.supply ledger.issued, none⟩, by simp, key, rfl⟩
    · exact (claimed.outbox other member asking waits).append _
  | issue key stamped source caller =>
    refine ⟨?_, claimed.pending, claimed.registered⟩
    intro other member asking waits
    rcases Multiset.mem_cons.mp member with rfl | member
    · rw [caller] at waits
      cases waits
    · exact claimed.outbox other member asking waits
  | react key source caller =>
    refine ⟨?_, claimed.pending, claimed.registered⟩
    intro other member asking waits
    rcases Multiset.mem_cons.mp member with rfl | member
    · rw [caller] at waits
      cases waits
    · exact claimed.outbox other member asking waits
  | forget fewer => exact claimed.fewer rfl fewer (fun _ _ found => found) rfl
  | register taken free => exact claimed.register taken
  | write inHand => exact claimed.fewer rfl le_rfl (fun _ _ found => found) rfl
  | rollback inHand =>
    exact claimed.fewer rfl le_rfl (fun key entry found => (withdraw_eq_some found).2) rfl
  | abandon => exact claimed.fewer rfl le_rfl (fun _ _ found => found) rfl
  | hear message => exact claimed.fewer rfl le_rfl (fun _ _ found => found) rfl
  | settle answers found =>
    exact claimed.fewer rfl le_rfl (fun _ _ found => (update_none_eq_some found).2) rfl
  | deliver reply answers found waits => exact claimed.deliver fresh found waits
  | sweep swept =>
    refine claimed.fewer rfl le_rfl (fun key entry found => ?_) rfl
    rcases swept key with same | ⟨gone, -⟩
    · exact same.symm.trans found
    · cases gone.symm.trans found

variable (labels timer) in
structure Kept (ledger : Ledger K E M Q R) : Prop where
  recorded : ∀ message, ledger.held = some message ∨ message ∈ ledger.sent →
    ∀ key, labels.key message = some key → ∃ registration ∈ ledger.registrations,
      registration.key = key ∧ registration.entry.caller = labels.caller message
  heard : ∀ registration ∈ ledger.registrations, registration.heard ≤ ledger.heard.length
  pending : ∀ registration ∈ ledger.registrations, 1 ≤ ledger.onWire labels registration.key →
    ledger.now - registration.entry.time ≤ timer →
    (∀ message ∈ ledger.heard.drop registration.heard,
      labels.answers message ≠ some registration.key) →
    ledger.pending registration.key = some registration.entry

theorem Kept.of_eq (kept : ledger.Kept labels timer) (now : ledger.now ≤ next.now)
    (registrations : next.registrations = ledger.registrations)
    (present : ∀ message, next.held = some message ∨ message ∈ next.sent →
      ledger.held = some message ∨ message ∈ ledger.sent)
    (onWire : ∀ key, next.onWire labels key ≤ ledger.onWire labels key)
    (heard : next.heard = ledger.heard) (pending : next.pending = ledger.pending) :
    next.Kept labels timer := by
  refine ⟨?_, ?_, ?_⟩
  · intro message member
    rw [registrations]
    exact kept.recorded message (present message member)
  · rw [registrations, heard]
    exact kept.heard
  · intro registration member wired inTime unanswered
    rw [registrations] at member
    rw [heard] at unanswered
    rw [pending]
    exact kept.pending registration member (wired.trans (onWire _)) (by omega) unanswered

theorem Kept.hear (kept : ledger.Kept labels timer) (message : M)
    (registrations : next.registrations = ledger.registrations) (now : next.now = ledger.now)
    (held : next.held = ledger.held) (sent : next.sent = ledger.sent)
    (heard : next.heard = ledger.heard ++ [message])
    (pending : ∀ key, labels.answers message ≠ some key →
      next.pending key = ledger.pending key) :
    next.Kept labels timer := by
  refine ⟨by rw [held, sent, registrations]; exact kept.recorded, ?_, ?_⟩
  · intro registration member
    rw [registrations] at member
    rw [heard, List.length_append]
    exact (kept.heard registration member).trans (Nat.le_add_right _ _)
  · intro registration member wired inTime unanswered
    rw [registrations] at member
    rw [heard, List.drop_append_of_le_length (kept.heard registration member)] at unanswered
    have earlier := fun other inside => unanswered other (List.mem_append_left _ inside)
    have latest := unanswered message (List.mem_append_right _ (List.mem_singleton_self message))
    rw [pending registration.key latest]
    unfold onWire at wired
    rw [held, sent] at wired
    rw [now] at inTime
    exact kept.pending registration member wired inTime earlier

theorem registered_once (fresh : ledger.Fresh labels) (key : K) :
    (ledger.registrations.countP fun registration => registration.key = key) ≤ 1 :=
  (Nat.le_add_left _ _).trans (fresh.once key)

omit [DecidableEq K] in
theorem place_unique {messages : List E} {holds : E → Bool} (once : messages.countP holds ≤ 1)
    {first second : Nat} {message message' : E} (found : messages[first]? = some message)
    (held : holds message = true) (found' : messages[second]? = some message')
    (held' : holds message' = true) : ¬ first < second := by
  intro before
  have early : 1 ≤ (messages.take second).countP holds := by
    refine List.countP_pos_iff.mpr ⟨message, ?_, held⟩
    refine List.mem_of_getElem? (i := first) ?_
    rw [List.getElem?_take_of_lt before, found]
  have late : 1 ≤ (messages.drop second).countP holds := by
    refine List.countP_pos_iff.mpr ⟨message', ?_, held'⟩
    refine List.mem_of_getElem? (i := 0) ?_
    rw [List.getElem?_drop, Nat.add_zero, found']
  have total : messages.countP holds =
      (messages.take second).countP holds + (messages.drop second).countP holds := by
    rw [← List.countP_append, List.take_append_drop]
  omega

theorem sent_once (fresh : ledger.Fresh labels) {key : K} {first second : Nat}
    {message message' : E} (found : ledger.sent[first]? = some message)
    (keyed : labels.key message = some key) (found' : ledger.sent[second]? = some message')
    (keyed' : labels.key message' = some key) : first = second := by
  have once : (ledger.sent.countP fun message => labels.key message = some key) ≤ 1 := by
    have wired := fresh.registered key
    have registered := registered_once fresh key
    unfold onWire at wired
    rw [List.countP_append] at wired
    omega
  have keyed := decide_eq_true keyed
  have keyed' := decide_eq_true keyed'
  have notBefore := place_unique once found keyed found' keyed'
  have notAfter := place_unique once found' keyed' found keyed
  omega

theorem Kept.register (kept : ledger.Kept labels timer) {message : E} {rest : Multiset E}
    (free : ledger.held = none)
    (fresh : (register labels { ledger with outbox := rest, held := some message } message).Fresh
      labels) :
    (register labels { ledger with outbox := rest, held := some message } message).Kept
      labels timer := by
  have once := registered_once fresh
  cases labelled : labels.key message with
  | none =>
    simp only [Ledger.register, labelled]
    refine ⟨?_, kept.heard, ?_⟩
    · rintro other (inHand | written) key same
      · cases inHand
        rw [labelled] at same
        cases same
      · exact kept.recorded other (.inr written) key same
    · intro registration member wired
      have wiredBefore : 1 ≤ ledger.onWire labels registration.key := by
        simpa [onWire, free, labelled] using wired
      exact kept.pending registration member wiredBefore
  | some key =>
    simp only [Ledger.register, labelled] at once ⊢
    refine ⟨?_, ?_, ?_⟩
    · rintro other (inHand | written) own same
      · cases inHand
        rw [labelled] at same
        cases same
        exact ⟨_, List.mem_append_right _ (List.mem_singleton_self _), rfl, rfl⟩
      · obtain ⟨registration, member, rest⟩ := kept.recorded other (.inr written) own same
        exact ⟨registration, List.mem_append_left _ member, rest⟩
    · intro registration member
      rcases List.mem_append.mp member with old | new
      · exact kept.heard registration old
      · rw [List.mem_singleton.mp new]
    · intro registration member wired inTime unanswered
      rcases List.mem_append.mp member with old | new
      · have apart : registration.key ≠ key := by
          intro same
          have earlier : 1 ≤ ledger.registrations.countP fun other => other.key = key :=
            List.countP_pos_iff.mpr ⟨registration, old, by simpa using same⟩
          have twice := once key
          simp only [List.countP_append, List.countP_singleton, decide_true, if_true] at twice
          omega
        have wiredBefore : 1 ≤ ledger.onWire labels registration.key := by
          simpa [onWire, free, labelled, apart.symm] using wired
        simp only [Function.update_of_ne apart]
        exact kept.pending registration old wiredBefore inTime unanswered
      · rw [List.mem_singleton.mp new]
        simp

theorem Kept.rollback (kept : ledger.Kept labels timer) (fresh : ledger.Fresh labels) {message : E}
    (inHand : ledger.held = some message) :
    Kept labels timer
      { ledger with held := none, pending := ledger.withdraw labels message } := by
  refine ⟨?_, kept.heard, ?_⟩
  · rintro other (inHand | written)
    · cases inHand
    · exact kept.recorded other (.inr written)
  intro registration member wired inTime unanswered
  have total : ledger.onWire labels registration.key ≤ 1 :=
    (fresh.registered _).trans (registered_once fresh _)
  have split : ledger.onWire labels registration.key =
      (ledger.sent.countP fun other => labels.key other = some registration.key) +
        if labels.key message = some registration.key then 1 else 0 := by
    simp [onWire, inHand, List.countP_append, List.countP_singleton]
  have written : 1 ≤ ledger.sent.countP fun other => labels.key other = some registration.key := by
    simpa [onWire] using wired
  have apart : labels.key message ≠ some registration.key := by
    intro same
    rw [if_pos same] at split
    omega
  have before := kept.pending registration member (by omega) inTime unanswered
  unfold withdraw
  cases labelled : labels.key message with
  | none => exact before
  | some key =>
    have different : registration.key ≠ key := by
      rintro rfl
      exact apart labelled
    exact (Function.update_of_ne different _ _).trans before

theorem update_answered {message : M} {key other : K} {pending : K → Option Entry}
    (answers : labels.answers message = some key) (apart : labels.answers message ≠ some other) :
    Function.update pending key none other = pending other := by
  have different : other ≠ key := by
    rintro rfl
    exact apart answers
  exact Function.update_of_ne different _ _

theorem step_kept (fresh : ledger.Fresh labels) (after : next.Fresh labels)
    (kept : ledger.Kept labels timer) (step : Step labels timer ledger next) :
    next.Kept labels timer := by
  cases step with
  | wait later => exact kept.of_eq later rfl (fun _ => id) (fun _ => le_rfl) rfl rfl
  | call key stamped carries source caller =>
    exact kept.of_eq le_rfl rfl (fun _ => id) (fun _ => le_rfl) rfl rfl
  | issue key stamped source caller =>
    exact kept.of_eq le_rfl rfl (fun _ => id) (fun _ => le_rfl) rfl rfl
  | react key source caller =>
    exact kept.of_eq le_rfl rfl (fun _ => id) (fun _ => le_rfl) rfl rfl
  | forget fewer => exact kept.of_eq le_rfl rfl (fun _ => id) (fun _ => le_rfl) rfl rfl
  | register taken free => exact kept.register free after
  | write inHand =>
    refine kept.of_eq le_rfl rfl ?_ (fun key => ?_) rfl rfl
    · rintro message (none | written)
      · cases none
      · rcases List.mem_append.mp written with old | new
        · exact .inr old
        · exact .inl (List.mem_singleton.mp new ▸ inHand)
    · simp [onWire, inHand]
  | rollback inHand => exact kept.rollback fresh inHand
  | abandon =>
    refine kept.of_eq le_rfl rfl ?_ (fun key => ?_) rfl rfl
    · rintro message (none | written)
      · cases none
      · exact .inr written
    · simp [onWire]
  | hear message => exact kept.hear message rfl rfl rfl rfl rfl (fun _ _ => rfl)
  | @settle message key entry answers found =>
    refine kept.hear message rfl rfl rfl rfl rfl fun other apart => ?_
    exact update_answered answers apart
  | @deliver message key entry caller reply answers found waits =>
    refine kept.hear message rfl rfl rfl rfl rfl fun other apart => ?_
    exact update_answered answers apart
  | sweep swept =>
    refine ⟨kept.recorded, kept.heard, ?_⟩
    intro registration member wired inTime unanswered
    have before := kept.pending registration member wired inTime unanswered
    rcases swept registration.key with same | ⟨-, entry, found, late⟩
    · exact same.trans before
    · rw [before] at found
      cases found
      dsimp only at inTime
      omega

theorem step_keeps (step : Step labels timer ledger next) : Keeps ledger.slots next.slots := by
  cases step with
  | call key stamped carries source caller =>
    intro asking slot found
    have inside := (List.getElem?_eq_some_iff.mp found).1
    exact ⟨slot, (List.getElem?_append_left inside).trans found, rfl, rfl⟩
  | deliver reply answers found waits =>
    intro asking slot found
    exact ⟨_, by rw [List.getElem?_modify, found]; rfl, by split <;> rfl, by split <;> rfl⟩
  | register taken free =>
    unfold register
    split <;> exact Keeps.refl _
  | _ => exact Keeps.refl _

variable (labels) in
structure Faithful (slots : List (Slot K Q R)) (message : E) : Prop where
  stamped : ∀ key, labels.key message = some key → labels.stamped key message
  carries : ∀ caller, labels.source message = some caller →
    ∃ slot, slots[caller]? = some slot ∧ labels.key message = some slot.key ∧
      labels.carries slot.ask slot.key message

omit [DecidableEq K] in
theorem Faithful.keeps {slots later : List (Slot K Q R)} {message : E}
    (faithful : Faithful labels slots message) (keeps : Keeps slots later) :
    Faithful labels later message := by
  refine ⟨faithful.stamped, ?_⟩
  intro caller source
  obtain ⟨slot, found, key, carries⟩ := faithful.carries caller source
  obtain ⟨slot', found', ask_eq, key_eq⟩ := keeps caller slot found
  exact ⟨slot', found', key_eq ▸ key, by rw [ask_eq, key_eq]; exact carries⟩

def Present (ledger : Ledger K E M Q R) (message : E) : Prop :=
  message ∈ ledger.outbox ∨ ledger.held = some message ∨ message ∈ ledger.sent

variable (labels) in
def Carried (ledger : Ledger K E M Q R) : Prop :=
  ∀ message, ledger.Present message → Faithful labels ledger.slots message

omit [DecidableEq K] in
theorem Carried.of_subset (carried : ledger.Carried labels) (keeps : Keeps ledger.slots next.slots)
    (fewer : ∀ message, next.Present message → ledger.Present message) : next.Carried labels :=
  fun message member => (carried message (fewer message member)).keeps keeps

omit [DecidableEq K] in
theorem Carried.cons (carried : ledger.Carried labels) (keeps : Keeps ledger.slots next.slots)
    {message : E} (outbox : next.outbox = message ::ₘ ledger.outbox)
    (held : next.held = ledger.held) (sent : next.sent = ledger.sent)
    (own : Faithful labels next.slots message) : next.Carried labels := by
  intro other member
  unfold Present at member
  rw [outbox, held, sent, Multiset.mem_cons, or_assoc] at member
  rcases member with rfl | member
  · exact own
  · exact (carried other member).keeps keeps

theorem step_carried (carried : ledger.Carried labels) (step : Step labels timer ledger next) :
    next.Carried labels := by
  have keeps := step_keeps step
  cases step with
  | @call ask message key stamped carries source caller =>
    refine carried.cons keeps rfl rfl rfl ⟨fun other same => ?_, fun asking same => ?_⟩
    · rw [key] at same
      cases same
      exact stamped
    · rw [source] at same
      cases same
      exact ⟨⟨ask, labels.supply ledger.issued, none⟩, by simp, key, carries⟩
  | issue key stamped source caller =>
    refine carried.cons keeps rfl rfl rfl ⟨fun other same => ?_, fun asking same => ?_⟩
    · rw [key] at same
      cases same
      exact stamped
    · rw [source] at same
      cases same
  | react key source caller =>
    refine carried.cons keeps rfl rfl rfl ⟨fun other same => ?_, fun asking same => ?_⟩
    · rw [key] at same
      cases same
    · rw [source] at same
      cases same
  | forget fewer =>
    exact carried.of_subset keeps fun message => Or.imp_left (Multiset.mem_of_le fewer)
  | @register message rest taken free =>
    refine carried.of_subset keeps fun other member => ?_
    unfold Present
    rw [taken, Multiset.mem_cons]
    unfold register at member
    split at member <;> rcases member with queued | inHand | written
    · exact .inl (.inr queued)
    · exact .inl (.inl (Option.some.inj inHand).symm)
    · exact .inr (.inr written)
    · exact .inl (.inr queued)
    · exact .inl (.inl (Option.some.inj inHand).symm)
    · exact .inr (.inr written)
  | @write message inHand =>
    refine carried.of_subset keeps fun other member => ?_
    rcases member with queued | held | written
    · exact .inl queued
    · cases held
    · rcases List.mem_append.mp written with old | new
      · exact .inr (.inr old)
      · rw [List.mem_singleton.mp new]
        exact .inr (.inl inHand)
  | rollback inHand =>
    refine carried.of_subset keeps fun other member => ?_
    rcases member with queued | held | written
    · exact .inl queued
    · cases held
    · exact .inr (.inr written)
  | abandon =>
    refine carried.of_subset keeps fun other member => ?_
    rcases member with queued | held | written
    · exact .inl queued
    · cases held
    · exact .inr (.inr written)
  | _ => exact carried.of_subset keeps fun _ => id

theorem step_reply (claimed : ledger.Claimed labels) (step : Step labels timer ledger next)
    {caller : Nat} {slot : Slot K Q R} (found : ledger.slots[caller]? = some slot)
    (replied : slot.reply ≠ none) : next.slots[caller]? = some slot := by
  cases step with
  | call key stamped carries source caller =>
    exact (List.getElem?_append_left (List.getElem?_eq_some_iff.mp found).1).trans found
  | @deliver message key entry other reply answers pending waits =>
    obtain ⟨slot', found', -, empty⟩ := claimed.pending key entry other pending waits
    have different : other ≠ caller := by
      rintro rfl
      rw [found] at found'
      cases found'
      exact replied empty
    exact (List.getElem?_modify_ne _ _ different).trans found
  | register taken free =>
    unfold register
    split <;> exact found
  | _ => exact found

variable (labels) in
structure Answered (ledger : Ledger K E M Q R) : Prop where
  heard : ∀ (caller : Nat) (slot : Slot K Q R) (place : Nat) (reply : R),
    ledger.slots[caller]? = some slot → slot.reply = some (place, reply) →
    ∃ message, ledger.heard[place]? = some message ∧ labels.answers message = some slot.key
  once : ∀ (caller other : Nat) (slot slot' : Slot K Q R) (place : Nat) (reply reply' : R),
    ledger.slots[caller]? = some slot → slot.reply = some (place, reply) →
    ledger.slots[other]? = some slot' → slot'.reply = some (place, reply') → caller = other
  completed : ∀ completion ∈ ledger.completions, ∃ message,
    ledger.heard[completion.2]? = some message ∧ labels.answers message = some completion.1

omit [DecidableEq K] in
theorem Answered.hear (answered : ledger.Answered labels) (message : M)
    (slots : next.slots = ledger.slots) (heard : next.heard = ledger.heard ++ [message])
    (completed : ∀ completion ∈ next.completions, completion ∈ ledger.completions ∨
      completion.2 = ledger.heard.length ∧ labels.answers message = some completion.1) :
    next.Answered labels := by
  refine ⟨?_, by rw [slots]; exact answered.once, ?_⟩
  · intro caller slot place reply found replied
    rw [slots] at found
    obtain ⟨other, at_place, answers⟩ := answered.heard caller slot place reply found replied
    have inside := (List.getElem?_eq_some_iff.mp at_place).1
    exact ⟨other, by rw [heard, List.getElem?_append_left inside, at_place], answers⟩
  · intro completion member
    rcases completed completion member with old | ⟨place, answers⟩
    · obtain ⟨other, at_place, answers⟩ := answered.completed completion old
      have inside := (List.getElem?_eq_some_iff.mp at_place).1
      exact ⟨other, by rw [heard, List.getElem?_append_left inside, at_place], answers⟩
    · exact ⟨message, by rw [heard, place, List.getElem?_concat_length], answers⟩

omit [DecidableEq K] in
theorem modified_slot {slots : List (Slot K Q R)} {caller asking : Nat} {slot : Slot K Q R}
    {reply : Nat × R}
    (found : (slots.modify caller fun slot => { slot with reply := some reply })[asking]? =
      some slot) :
    (asking = caller ∧ slot.reply = some reply ∧
      ∃ old, slots[caller]? = some old ∧ slot.key = old.key) ∨
    (asking ≠ caller ∧ slots[asking]? = some slot) := by
  by_cases same : caller = asking
  · subst same
    rw [List.getElem?_modify_eq] at found
    obtain ⟨old, at_caller, rfl⟩ := Option.map_eq_some_iff.mp found
    exact .inl ⟨rfl, rfl, old, at_caller, rfl⟩
  · rw [List.getElem?_modify_ne _ _ same] at found
    exact .inr ⟨Ne.symm same, found⟩

theorem Answered.deliver (answered : ledger.Answered labels) (claimed : ledger.Claimed labels)
    {message : M} {key : K} {entry : Entry} {caller : Nat} {reply : R}
    (answers : labels.answers message = some key) (found : ledger.pending key = some entry)
    (waits : entry.caller = some caller) :
    Answered labels { ledger with
      heard := ledger.heard ++ [message]
      slots := ledger.slots.modify caller fun slot =>
        { slot with reply := some (ledger.heard.length, reply) }
      pending := Function.update ledger.pending key none
      completions := ledger.completions ++ [(key, ledger.heard.length)] } := by
  obtain ⟨own, at_caller, own_key, -⟩ := claimed.pending key entry caller found waits
  have earlier : ∀ (asking : Nat) (slot : Slot K Q R) (place : Nat) (reply : R),
      ledger.slots[asking]? = some slot → slot.reply = some (place, reply) →
      place < ledger.heard.length := by
    intro asking slot place reply found replied
    obtain ⟨other, at_place, -⟩ := answered.heard asking slot place reply found replied
    exact (List.getElem?_eq_some_iff.mp at_place).1
  refine ⟨?_, ?_, ?_⟩
  · intro asking slot place reply found replied
    rcases modified_slot found with ⟨-, new, old, at_old, same⟩ | ⟨-, found⟩
    · rw [at_caller] at at_old
      cases at_old
      rw [new] at replied
      cases replied
      exact ⟨message, List.getElem?_concat_length, by rw [answers, own_key, same]⟩
    · obtain ⟨other, at_place, answers⟩ := answered.heard asking slot place reply found replied
      have inside := (List.getElem?_eq_some_iff.mp at_place).1
      exact ⟨other, (List.getElem?_append_left inside).trans at_place, answers⟩
  · intro asking other slot slot' place reply reply' found replied found' replied'
    rcases modified_slot found with ⟨here, new, -⟩ | ⟨-, found⟩ <;>
      rcases modified_slot found' with ⟨there, new', -⟩ | ⟨-, found'⟩
    · rw [here, there]
    · rw [new] at replied
      cases replied
      exact absurd (earlier other slot' _ reply' found' replied') (lt_irrefl _)
    · rw [new'] at replied'
      cases replied'
      exact absurd (earlier asking slot _ reply found replied) (lt_irrefl _)
    · exact answered.once asking other slot slot' place reply reply' found replied found' replied'
  · intro completion member
    rcases List.mem_append.mp member with old | new
    · obtain ⟨other, at_place, answers⟩ := answered.completed completion old
      have inside := (List.getElem?_eq_some_iff.mp at_place).1
      exact ⟨other, (List.getElem?_append_left inside).trans at_place, answers⟩
    · rw [List.mem_singleton.mp new]
      exact ⟨message, List.getElem?_concat_length, answers⟩

theorem step_answered (answered : ledger.Answered labels) (claimed : ledger.Claimed labels)
    (step : Step labels timer ledger next) : next.Answered labels := by
  cases step with
  | @call ask message key stamped carries source caller =>
    have old : ∀ (asking : Nat) (slot : Slot K Q R) (place : Nat) (reply : R),
        (ledger.slots ++ [⟨ask, labels.supply ledger.issued, none⟩])[asking]? = some slot →
        slot.reply = some (place, reply) → ledger.slots[asking]? = some slot := by
      intro asking slot place reply found replied
      rw [List.getElem?_append] at found
      split at found
      · exact found
      · rw [List.getElem?_singleton] at found
        split at found
        · cases found
          cases replied
        · cases found
    refine ⟨?_, ?_, answered.completed⟩
    · intro asking slot place reply found replied
      exact answered.heard asking slot place reply (old asking slot place reply found replied)
        replied
    · intro asking other slot slot' place reply reply' found replied found' replied'
      exact answered.once asking other slot slot' place reply reply'
        (old asking slot place reply found replied) replied
        (old other slot' place reply' found' replied') replied'
  | register taken free =>
    unfold register
    split <;> exact ⟨answered.heard, answered.once, answered.completed⟩
  | hear message => exact answered.hear message rfl rfl fun _ => .inl
  | @settle message key entry answers found =>
    refine answered.hear message rfl rfl fun completion member => ?_
    rcases List.mem_append.mp member with old | new
    · exact .inl old
    · rw [List.mem_singleton.mp new]
      exact .inr ⟨rfl, answers⟩
  | deliver reply answers found waits => exact answered.deliver claimed answers found waits
  | _ => exact ⟨answered.heard, answered.once, answered.completed⟩

variable (labels timer) in
/-- What every ledger keeps that starts empty and draws no key twice. -/
structure Sound (ledger : Ledger K E M Q R) : Prop where
  fresh : ledger.Fresh labels
  claimed : ledger.Claimed labels
  kept : ledger.Kept labels timer
  carried : ledger.Carried labels
  answered : ledger.Answered labels

theorem empty_sound : (empty : Ledger K E M Q R).Sound labels timer where
  fresh := ⟨fun _ => Nat.zero_le 1, fun _ used => absurd used (Nat.not_succ_le_zero 0),
    fun _ => le_rfl⟩
  claimed := ⟨fun _ member => absurd member (Multiset.notMem_zero _), nofun, nofun⟩
  kept := by
    refine ⟨?_, nofun, nofun⟩
    rintro message (held | sent)
    · cases held
    · cases sent
  carried := by
    rintro message (queued | held | sent)
    · exact absurd queued (Multiset.notMem_zero _)
    · cases held
    · cases sent
  answered := ⟨nofun, nofun, nofun⟩

theorem step_issued (step : Step labels timer ledger next) : ledger.issued ≤ next.issued := by
  cases step with
  | call key stamped carries source caller => exact Nat.le_succ _
  | issue key stamped source caller => exact Nat.le_succ _
  | register taken free =>
    unfold register
    split <;> exact le_rfl
  | _ => exact le_rfl

theorem run_issued (steps : Relation.ReflTransGen (Step labels timer) ledger next) :
    ledger.issued ≤ next.issued := by
  induction steps with
  | refl => exact le_rfl
  | tail _ step ih => exact ih.trans (step_issued step)

theorem run_keeps (steps : Relation.ReflTransGen (Step labels timer) ledger next) :
    Keeps ledger.slots next.slots := by
  induction steps with
  | refl => exact Keeps.refl _
  | tail _ step ih =>
    intro caller slot found
    obtain ⟨middle, at_middle, ask, key⟩ := ih caller slot found
    obtain ⟨last, at_last, ask', key'⟩ := step_keeps step caller middle at_middle
    exact ⟨last, at_last, ask'.trans ask, key'.trans key⟩

section Runs

variable {bound : Nat}
  (injective : ∀ i < bound, ∀ j < bound, labels.supply i = labels.supply j → i = j)

include injective

theorem step_sound (sound : ledger.Sound labels timer) (room : next.issued ≤ bound)
    (step : Step labels timer ledger next) : next.Sound labels timer where
  fresh := step_fresh injective sound.fresh room step
  claimed := step_claimed sound.fresh sound.claimed step
  kept := step_kept sound.fresh (step_fresh injective sound.fresh room step) sound.kept step
  carried := step_carried sound.carried step
  answered := step_answered sound.answered sound.claimed step

/-- A ledger stays sound over every run that draws no more keys than the supply has. -/
theorem run_sound (sound : ledger.Sound labels timer) (room : next.issued ≤ bound)
    (steps : Relation.ReflTransGen (Step labels timer) ledger next) :
    next.Sound labels timer := by
  induction steps with
  | refl => exact sound
  | tail _ step ih => exact step_sound injective (ih ((step_issued step).trans room)) room step

/-- A reply that a caller has got is never replaced. -/
theorem run_reply (sound : ledger.Sound labels timer) (room : next.issued ≤ bound)
    (steps : Relation.ReflTransGen (Step labels timer) ledger next) {caller : Nat}
    {slot : Slot K Q R} (found : ledger.slots[caller]? = some slot) (replied : slot.reply ≠ none) :
    next.slots[caller]? = some slot := by
  induction steps with
  | refl => exact found
  | tail before step ih =>
    have room := (step_issued step).trans room
    exact step_reply (run_sound injective sound room before).claimed step (ih room) replied

end Runs

end Ledger

end Correlation
