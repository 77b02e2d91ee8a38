import Smpp34.Base.Correlation

namespace Correlation

namespace Ledger

variable {K E M Q R : Type}

/-- Every entry of the table is one that was registered, and a reply came through an entry that was
    registered under its caller's own key for this very caller. -/
structure Filed (ledger : Ledger K E M Q R) : Prop where
  entries : ∀ key entry, ledger.pending key = some entry →
    ∃ registration ∈ ledger.registrations, registration.key = key ∧ registration.entry = entry
  replies : ∀ (caller : Nat) (slot : Slot K Q R), ledger.slots[caller]? = some slot →
    slot.reply ≠ none →
    ∃ registration ∈ ledger.registrations, registration.key = slot.key ∧
      registration.entry.caller = some caller

theorem empty_filed : (empty : Ledger K E M Q R).Filed where
  entries _ _ found := by cases found
  replies _ _ found := by cases found

variable [DecidableEq K] {labels : Labels K E M Q} {timer : Nat} {ledger next : Ledger K E M Q R}

omit [DecidableEq K] in
theorem Filed.fewer (filed : ledger.Filed) (slots : next.slots = ledger.slots)
    (registrations : next.registrations = ledger.registrations)
    (pending : ∀ key entry, next.pending key = some entry → ledger.pending key = some entry) :
    next.Filed where
  entries key entry found := registrations ▸ filed.entries key entry (pending key entry found)
  replies caller slot found := registrations ▸ filed.replies caller slot (slots ▸ found)

theorem Filed.register (filed : ledger.Filed) (slots : next.slots = ledger.slots) {key : K}
    {entry : Entry} {heard : Nat}
    (registrations : next.registrations = ledger.registrations ++ [⟨key, entry, heard⟩])
    (pending : next.pending = Function.update ledger.pending key (some entry)) : next.Filed where
  entries other found present := by
    rw [pending] at present
    rw [registrations]
    by_cases same : other = key
    · subst same
      rw [Function.update_self] at present
      cases present
      exact ⟨_, List.mem_append_right _ (List.mem_singleton_self _), rfl, rfl⟩
    · rw [Function.update_of_ne same] at present
      obtain ⟨registration, member, rest⟩ := filed.entries other found present
      exact ⟨registration, List.mem_append_left _ member, rest⟩
  replies caller slot found replied := by
    obtain ⟨registration, member, rest⟩ := filed.replies caller slot (slots ▸ found) replied
    exact ⟨registration, registrations ▸ List.mem_append_left _ member, rest⟩

theorem Filed.deliver (filed : ledger.Filed) (claimed : ledger.Claimed labels) {key : K}
    {entry : Entry} {caller : Nat} {reply : Nat × R} (found : ledger.pending key = some entry)
    (waits : entry.caller = some caller)
    (slots : next.slots = ledger.slots.modify caller fun slot => { slot with reply := some reply })
    (registrations : next.registrations = ledger.registrations)
    (pending : next.pending = Function.update ledger.pending key none) : next.Filed where
  entries other found' present := by
    rw [pending] at present
    rw [registrations]
    exact filed.entries other found' (update_none_eq_some present).2
  replies asking slot at_asking replied := by
    rw [slots] at at_asking
    rw [registrations]
    rcases modified_slot at_asking with ⟨rfl, -, old, at_caller, same⟩ | ⟨-, at_old⟩
    · obtain ⟨own, at_own, keyed, -⟩ := claimed.pending key entry asking found waits
      rw [at_caller] at at_own
      cases at_own
      obtain ⟨registration, member, registered, filing⟩ := filed.entries key entry found
      refine ⟨registration, member, ?_, by rw [filing, waits]⟩
      rw [registered, same]
      exact Option.some.inj keyed
    · exact filed.replies asking slot at_old replied

theorem step_filed (claimed : ledger.Claimed labels) (filed : ledger.Filed)
    (step : Step labels timer ledger next) : next.Filed := by
  cases step with
  | call key stamped carries source caller =>
    refine ⟨filed.entries, ?_⟩
    intro caller slot found replied
    rw [List.getElem?_append] at found
    split at found
    · exact filed.replies caller slot found replied
    · rw [List.getElem?_singleton] at found
      split at found
      · cases found
        exact absurd rfl replied
      · cases found
  | @register message rest taken free =>
    unfold register
    split
    · exact filed.fewer rfl rfl fun _ _ => id
    · exact filed.register rfl rfl rfl
  | @rollback message inHand =>
    refine filed.fewer rfl rfl ?_
    intro key entry found
    exact (withdraw_eq_some found).2
  | settle answers found =>
    exact filed.fewer rfl rfl fun _ _ present => (update_none_eq_some present).2
  | deliver reply answers found waits => exact filed.deliver claimed found waits rfl rfl rfl
  | sweep swept =>
    refine filed.fewer rfl rfl ?_
    intro key entry found
    rcases swept key with same | ⟨gone, -⟩
    · exact same.symm.trans found
    · cases gone.symm.trans found
  | _ => exact filed.fewer rfl rfl fun _ _ => id

theorem run_filed {bound : Nat}
    (injective : ∀ i < bound, ∀ j < bound, labels.supply i = labels.supply j → i = j)
    (sound : ledger.Sound labels timer) (room : next.issued ≤ bound)
    (steps : Relation.ReflTransGen (Step labels timer) ledger next) (filed : ledger.Filed) :
    next.Filed := by
  induction steps with
  | refl => exact filed
  | tail before step ih =>
    have early := (step_issued step).trans room
    exact step_filed (run_sound injective sound early before).claimed (ih early) step

theorem Filed.own (filed : ledger.Filed) (fresh : ledger.Fresh labels)
    (kept : ledger.Kept labels timer) {caller : Nat} {slot : Slot K Q R} {message : E}
    (found : ledger.slots[caller]? = some slot) (replied : slot.reply ≠ none)
    (sent : message ∈ ledger.sent) (keyed : labels.key message = some slot.key) :
    labels.caller message = some caller := by
  obtain ⟨own, member, key, filing⟩ := filed.replies caller slot found replied
  obtain ⟨other, member', key', filing'⟩ := kept.recorded message (.inr sent) slot.key keyed
  obtain ⟨first, at_first⟩ := List.getElem?_of_mem member
  obtain ⟨second, at_second⟩ := List.getElem?_of_mem member'
  have once := registered_once fresh slot.key
  have notBefore :=
    place_unique once at_first (decide_eq_true key) at_second (decide_eq_true key')
  have notAfter :=
    place_unique once at_second (decide_eq_true key') at_first (decide_eq_true key)
  have same : first = second := by omega
  rw [same, at_second] at at_first
  cases at_first
  exact filing'.symm.trans filing

end Ledger

end Correlation
