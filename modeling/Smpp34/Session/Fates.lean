import Smpp34.Session.Causes
import Smpp34.Session.Numbers

namespace Smpp34

open Octets
open Correlation
open Machine (run)

namespace Session

/-- The part of a session that its requests are settled in. -/
structure Table where
  pending : AList fun _ : UInt32 => Entry
  registrations : List (Registration UInt32)
  completions : List (UInt32 × Nat)
  timeouts : List UInt32
  replies : Nat → Option (Nat × Response)

def table (session : Session) : Table :=
  ⟨session.pendingRequests, session.registrations, session.completions, session.timeouts,
    fun caller => session.calls[caller]?.bind Call.slot⟩

inductive Changes (endpoint : Endpoint) (session next : Session) : Event → Prop
  | nothing {event : Event} (table : next.table = session.table) :
      Changes endpoint session next event
  | registers {emission : Emission} {number : UInt32} {registration : Registration UInt32}
      {entry : Entry} (stage : session.writer = .taken emission)
      (keyed : emission.frame.ourSequenceNumber = some number) (key : registration.key = number)
      (table : next.table = { session.table with
        pending := session.pendingRequests.insert number entry
        registrations := session.registrations ++ [registration] }) :
      Changes endpoint session next .register
  | withdraws {emission : Emission} {number : UInt32} (stage : session.writer = .failed emission)
      (keyed : emission.frame.ourSequenceNumber = some number)
      (table : next.table = { session.table with
        pending := session.pendingRequests.erase number }) :
      Changes endpoint session next .rollback
  | settles {event : Event} {number : UInt32} {place : Nat} {entry : Entry}
      {replies : Nat → Option (Nat × Response)} (reads : event.ofReader = true)
      (found : session.pendingRequests.lookup number = some entry)
      (table : next.table = { session.table with
        pending := session.pendingRequests.erase number
        completions := session.completions ++ [(number, place)]
        replies := replies })
      (fills : ∀ caller, replies caller = session.table.replies caller ∨
        entry.caller = some caller) :
      Changes endpoint session next event
  | lapses {event : Event} {number : UInt32} {place : Nat} {entry : Entry}
      (reads : event.ofReader = true)
      (found : session.pendingRequests.lookup number = some entry)
      (table : next.table = { session.table with
        pending := session.pendingRequests.erase number
        completions := session.completions ++ [(number, place)]
        timeouts := session.timeouts ++ [number] }) :
      Changes endpoint session next event
  | sweeps (table : next.table = { session.table with
        pending := sweep (fun entry => !lapsed endpoint session entry) session.pendingRequests
        timeouts := session.timeouts ++
          (session.pendingRequests.entries.filter fun entry =>
            lapsed endpoint session entry.2).map Sigma.fst }) :
      Changes endpoint session next .extract

variable {endpoint : Endpoint} {session next : Session}

theorem reply_table (session : Session) (place : Nat) (frame : Bytes) (cursor : Nat)
    (control : Control) : (session.reply place frame cursor control).table = session.table := by
  obtain ⟨senders, channel, ticker, reader, same, -⟩ := reply_eq session place frame cursor control
  rw [same]
  rfl

theorem fill_replies (calls : List Call) (caller place : Nat) (resp : Response) (other : Nat) :
    ((calls.modify caller fun call => call.fill place resp)[other]?.bind Call.slot) =
        (calls[other]?.bind Call.slot) ∨ some caller = some other := by
  by_cases same : caller = other
  · exact .inr (congrArg some same)
  · left
    rw [List.getElem?_modify_ne _ _ same]

theorem settle_changes {event : Event} (reads : event.ofReader = true) (number : UInt32)
    (place cursor : Nat) (settlement : Settlement) :
    Changes endpoint session (session.settle endpoint number place cursor settlement) event := by
  unfold settle
  split
  · exact .nothing rfl
  · rename_i entry found
    dsimp only
    split
    · exact .lapses reads found rfl
    · cases settlement with
      | deliver resp closes =>
        have delivered : ∀ closes : Bool,
            (if closes then
              { (session.complete number place).deliver entry.caller place resp with
                reader := .leaving }
            else (session.complete number place).deliver entry.caller place resp).table =
              { session.table with
                pending := session.pendingRequests.erase number
                completions := session.completions ++ [(number, place)]
                replies := ((session.complete number place).deliver entry.caller place
                  resp).table.replies } := by
          intro closes
          cases entry.caller <;> cases closes <;> rfl
        apply Changes.settles reads found (delivered closes)
        intro caller
        cases entry.caller with
        | none => exact .inl rfl
        | some waiting => exact fill_replies session.calls waiting place resp caller
      | refuse reply =>
        cases reply with
        | none => exact .settles reads found rfl fun _ => .inl rfl
        | some frame =>
          exact .settles reads found (reply_table _ place frame cursor .proceed) fun _ => .inl rfl
      | panic => exact .settles reads found rfl fun _ => .inl rfl

theorem settleLink_changes {event : Event} (reads : event.ofReader = true) (pdu : Bytes)
    (number : UInt32) (cursor : Nat) :
    Changes endpoint session (session.settleLink endpoint pdu number cursor) event := by
  unfold settleLink
  dsimp only
  split
  · exact .nothing rfl
  · rename_i entry found
    split
    · exact .lapses reads found rfl
    · exact .settles reads found rfl fun _ => .inl rfl

theorem Changes.reading {event : Event} (received : List Bytes) (reader : ReaderStage)
    (links : List UInt32)
    (changes : Changes endpoint
      { session with received := received, reader := reader, links := links } next event) :
    Changes endpoint session next event := by
  cases changes with
  | nothing table => exact .nothing table
  | registers stage keyed key table => exact .registers stage keyed key table
  | withdraws stage keyed table => exact .withdraws stage keyed table
  | settles reads found table fills => exact .settles reads found table fills
  | lapses reads found table => exact .lapses reads found table
  | sweeps table => exact .sweeps table

theorem takeUp_changes (endpoint : Endpoint) (session : Session) (pdu : Bytes) (cursor : Nat) :
    Changes endpoint session (session.takeUp endpoint pdu cursor) .extract := by
  unfold takeUp
  split
  · rename_i header framed
    unfold dispatch
    dsimp only
    cases endpoint.branch header pdu with
    | request request => exact .nothing rfl
    | alert alert => exact .nothing rfl
    | reply frame => exact .nothing (reply_table _ _ frame _ .proceed)
    | unbind unbind => exact .nothing rfl
    | unbindReject frame => exact .nothing (reply_table _ _ frame _ .unbound)
    | linkResp =>
      change Changes endpoint session (session.link endpoint pdu header.sequenceNumber cursor) _
      unfold link
      split
      · exact settleLink_changes rfl pdu header.sequenceNumber cursor
      · split
        · exact Changes.reading session.received session.reader _
            (settleLink_changes rfl pdu header.sequenceNumber cursor)
        · exact .nothing rfl
    | response settlement =>
      exact Changes.reading _ _ session.links
        (settle_changes rfl header.sequenceNumber _ _ settlement)
    | panic => exact .nothing rfl
  · exact .nothing (reply_table _ _ _ _ .writerDead)

theorem table_of_calls (session : Session) {calls : List Call}
    (same : ∀ caller : Nat, calls[caller]?.bind Call.slot = session.calls[caller]?.bind Call.slot) :
    { session with calls := calls }.table = session.table := by
  have replies : { session with calls := calls }.table.replies = session.table.replies := by
    funext caller
    exact same caller
  unfold table at replies ⊢
  rw [Table.mk.injEq]
  exact ⟨rfl, rfl, rfl, rfl, replies⟩

theorem modify_slot (calls : List Call) (caller other : Nat) {change : Call → Call}
    (keeps : ∀ call, (change call).slot = call.slot) :
    (calls.modify caller change)[other]?.bind Call.slot = calls[other]?.bind Call.slot := by
  rw [List.getElem?_modify]
  cases calls[other]? with
  | none => rfl
  | some call =>
    simp only [Option.map_eq_map, Option.map_some, Option.bind_some]
    split
    · exact keeps call
    · rfl

theorem returned_table (session : Session) (caller : Nat) (result : Except SmppError Response) :
    (session.returned caller result).table = session.table := by
  apply table_of_calls
  intro other
  exact modify_slot session.calls caller other fun _ => rfl

theorem queued_table (session : Session) (origin : Origin) :
    (session.queued origin).table = session.table := by
  cases origin with
  | call caller =>
    apply table_of_calls
    intro other
    apply modify_slot
    intro call
    unfold Call.queued
    split <;> rfl
  | link =>
    unfold queued
    dsimp only
    split <;> rfl
  | reaction place => rfl

theorem append_slot (calls : List Call) (request : Request) (number : UInt32) (caller : Nat) :
    (calls ++ [⟨request, number, .queueing, none⟩])[caller]?.bind Call.slot =
      calls[caller]?.bind Call.slot := by
  rw [List.getElem?_append]
  split
  · rfl
  · rename_i beyond
    rw [List.getElem?_eq_none (Nat.le_of_not_lt beyond), List.getElem?_singleton]
    split <;> rfl

theorem step_changes {event : Event} (taken : session.step endpoint event = some next) :
    Changes endpoint session next event := by
  by_cases reads : event.ofReader = true
  · cases step_reader reads taken with
    | finishes stage => exact .sweeps rfl
    | takesUp stage whole => exact takeUp_changes endpoint session _ _
    | queuesReply stage =>
      rename_i control
      cases control <;> exact .nothing rfl
    | queuesNumber stage =>
      exact Changes.reading session.received session.reader _ (settleLink_changes rfl _ _ _)
    | answers stage => exact .nothing (reply_table session _ _ _ .unbound)
    | _ => exact .nothing rfl
  cases event with
  | advance duration =>
    cases taken
    exact .nothing rfl
  | call request =>
    obtain ⟨-, pdu, -, rfl⟩ := call_some taken
    exact .nothing (table_of_calls session (append_slot session.calls request _))
  | enqueue sender =>
    simp only [step, enqueue] at taken
    split at taken
    · split at taken
      · cases taken
        exact .nothing (queued_table _ _)
      · cases taken
    · cases taken
  | resolve caller =>
    simp only [step, resolve] at taken
    split at taken
    · cases taken
      exact .nothing (returned_table session caller _)
    · cases taken
  | expire caller =>
    simp only [step, expire] at taken
    repeat' split at taken
    all_goals cases taken
    exact .nothing (returned_table session caller _)
  | disconnect caller =>
    simp only [step, disconnect] at taken
    repeat' split at taken
    all_goals cases taken
    all_goals exact .nothing (returned_table session caller _)
  | register =>
    simp only [step, register] at taken
    split at taken
    · rename_i emission stage
      split at taken
      · rename_i number keyed
        cases taken
        exact .registers stage keyed rfl rfl
      · cases taken
        exact .nothing rfl
    · cases taken
  | rollback =>
    simp only [step, rollback] at taken
    split at taken
    · rename_i emission stage
      split at taken
      · rename_i number keyed
        cases taken
        exact .withdraws stage keyed rfl
      · cases taken
        exact .nothing rfl
    · cases taken
  | receive | hangUp | idle | extract | enqueueReply | enqueueNumber | unbound | close | stop =>
    exact absurd rfl reads
  | _ =>
    simp only [step, tick, linkArrives, linkExpires, linkFails, check, take, write, respond]
      at taken
    repeat' split at taken
    all_goals cases taken
    all_goals exact .nothing rfl

def removed (session next : Session) : List UInt32 :=
  session.pendingRequests.keys.filter fun number => (next.pendingRequests.lookup number).isNone

def filled (session next : Session) : List Nat :=
  (List.range next.calls.length).filter fun caller =>
    next.table.replies caller ≠ session.table.replies caller

theorem mem_removed {number : UInt32} :
    number ∈ session.removed next ↔
      session.pendingRequests.lookup number ≠ none ∧
        next.pendingRequests.lookup number = none := by
  rw [removed, List.mem_filter, ← AList.mem_keys, ← AList.lookup_isSome, Option.isSome_iff_ne_none,
    Option.isNone_iff_eq_none]

theorem removed_nodup (session next : Session) : (session.removed next).Nodup :=
  session.pendingRequests.keys_nodup.filter _

theorem count_removed (session next : Session) (number : UInt32) :
    (session.removed next).count number =
      if session.pendingRequests.lookup number ≠ none ∧
        next.pendingRequests.lookup number = none then 1 else 0 := by
  split
  · rename_i gone
    exact List.count_eq_one_of_mem (removed_nodup session next) (mem_removed.mpr gone)
  · rename_i stays
    exact List.count_eq_zero.mpr fun gone => stays (mem_removed.mp gone)

theorem mem_filled {caller : Nat} :
    caller ∈ session.filled next ↔
      next.table.replies caller ≠ session.table.replies caller ∧ caller < next.calls.length := by
  rw [filled, List.mem_filter, List.mem_range, decide_eq_true_eq, and_comm]

section Changes

variable {event : Event}

theorem lookup_erase_none {pending : AList fun _ : UInt32 => Entry} {number other : UInt32}
    (present : (pending.erase number).lookup other ≠ none) : pending.lookup other ≠ none := by
  by_cases same : other = number
  · subst same
    exact absurd (AList.lookup_erase other pending) present
  · rw [AList.lookup_erase_ne same] at present
    exact present

theorem Changes.pending (changes : Changes endpoint session next event) :
    (next.registrations = session.registrations ∧
      ∀ number, next.pendingRequests.lookup number ≠ none →
        session.pendingRequests.lookup number ≠ none) ∨
    ∃ emission registration entry, session.writer = .taken emission ∧
      emission.frame.ourSequenceNumber = some registration.key ∧
      next.registrations = session.registrations ++ [registration] ∧
      next.pendingRequests = session.pendingRequests.insert registration.key entry := by
  cases changes with
  | nothing table =>
    have pending : next.pendingRequests = session.pendingRequests := congrArg Table.pending table
    left
    rw [pending]
    exact ⟨congrArg Table.registrations table, fun _ present => present⟩
  | registers stage keyed key table =>
    subst key
    exact .inr ⟨_, _, _, stage, keyed, congrArg Table.registrations table,
      congrArg Table.pending table⟩
  | withdraws stage keyed table =>
    have pending : next.pendingRequests = _ := congrArg Table.pending table
    left
    rw [pending]
    exact ⟨congrArg Table.registrations table, fun _ => lookup_erase_none⟩
  | settles reads found table fills =>
    have pending : next.pendingRequests = _ := congrArg Table.pending table
    left
    rw [pending]
    exact ⟨congrArg Table.registrations table, fun _ => lookup_erase_none⟩
  | lapses reads found table =>
    have pending : next.pendingRequests = _ := congrArg Table.pending table
    left
    rw [pending]
    exact ⟨congrArg Table.registrations table, fun _ => lookup_erase_none⟩
  | sweeps table =>
    have pending : next.pendingRequests = _ := congrArg Table.pending table
    left
    rw [pending]
    refine ⟨congrArg Table.registrations table, ?_⟩
    intro number present gone
    rw [lookup_sweep, gone] at present
    exact present rfl

theorem Changes.timeouts (changes : Changes endpoint session next event) :
    ∃ late, next.timeouts = session.timeouts ++ late ∧ late.Nodup ∧
      ∀ number ∈ late, number ∈ session.removed next := by
  have none : next.timeouts = session.timeouts →
      ∃ late, next.timeouts = session.timeouts ++ late ∧ late.Nodup ∧
        ∀ number ∈ late, number ∈ session.removed next := by
    intro same
    refine ⟨[], ?_, List.nodup_nil, fun _ member => absurd member List.not_mem_nil⟩
    rw [List.append_nil]
    exact same
  cases changes with
  | nothing table =>
    apply none
    exact congrArg Table.timeouts table
  | registers stage keyed key table =>
    apply none
    exact congrArg Table.timeouts table
  | withdraws stage keyed table =>
    apply none
    exact congrArg Table.timeouts table
  | settles reads found table fills =>
    apply none
    exact congrArg Table.timeouts table
  | @lapses _ number place entry reads found table =>
    have pending : next.pendingRequests = _ := congrArg Table.pending table
    refine ⟨[number], congrArg Table.timeouts table, List.nodup_singleton number, ?_⟩
    intro other member
    rw [List.mem_singleton.mp member, mem_removed, found, pending, AList.lookup_erase]
    exact ⟨Option.some_ne_none entry, rfl⟩
  | sweeps table =>
    have pending : next.pendingRequests = _ := congrArg Table.pending table
    refine ⟨_, congrArg Table.timeouts table, ?_, ?_⟩
    · exact session.pendingRequests.keys_nodup.sublist (List.filter_sublist.map Sigma.fst)
    · intro number member
      obtain ⟨⟨other, entry⟩, inside, rfl⟩ := List.mem_map.mp member
      obtain ⟨present, late⟩ := List.mem_filter.mp inside
      have found := AList.mem_lookup_iff.mpr present
      rw [Option.mem_def] at found
      rw [mem_removed, pending, lookup_sweep, found]
      simp [late]

theorem Changes.replies (changes : Changes endpoint session next event) (caller : Nat) :
    next.table.replies caller = session.table.replies caller ∨
    ∃ number entry, session.pendingRequests.lookup number = some entry ∧
      entry.caller = some caller ∧ next.pendingRequests.lookup number = none ∧
      next.timeouts = session.timeouts := by
  cases changes with
  | nothing table => exact .inl (by rw [table])
  | registers stage keyed key table => exact .inl (by rw [table])
  | withdraws stage keyed table => exact .inl (by rw [table])
  | @settles _ number place entry replies reads found table fills =>
    have pending : next.pendingRequests = _ := congrArg Table.pending table
    rcases fills caller with same | waits
    · left
      rw [table]
      exact same
    · right
      refine ⟨number, entry, found, waits, ?_, congrArg Table.timeouts table⟩
      rw [pending, AList.lookup_erase]
  | lapses reads found table => exact .inl (by rw [table])
  | sweeps table => exact .inl (by rw [table])

theorem Changes.completions (changes : Changes endpoint session next event) :
    next.completions = session.completions ∨
    ∃ number place, next.completions = session.completions ++ [(number, place)] ∧
      ∀ other ∈ session.removed next, other = number := by
  have alone : ∀ {number : UInt32},
      next.pendingRequests = session.pendingRequests.erase number →
      ∀ other ∈ session.removed next, other = number := by
    intro number pending other gone
    by_contra different
    obtain ⟨present, absent⟩ := mem_removed.mp gone
    rw [pending, AList.lookup_erase_ne different] at absent
    exact present absent
  cases changes with
  | nothing table => exact .inl (congrArg Table.completions table)
  | registers stage keyed key table => exact .inl (congrArg Table.completions table)
  | withdraws stage keyed table => exact .inl (congrArg Table.completions table)
  | settles reads found table fills =>
    exact .inr ⟨_, _, congrArg Table.completions table, alone (congrArg Table.pending table)⟩
  | lapses reads found table =>
    exact .inr ⟨_, _, congrArg Table.completions table, alone (congrArg Table.pending table)⟩
  | sweeps table => exact .inl (congrArg Table.completions table)

/-- What goes without a PDU and without a failed write is past the timer. -/
theorem Changes.swept (changes : Changes endpoint session next event)
    (alone : next.completions = session.completions) :
    event = .rollback ∨ ∀ number ∈ session.removed next, number ∈ next.timeouts := by
  have longer : ∀ {completion : UInt32 × Nat},
      next.completions ≠ session.completions ++ [completion] := by
    intro completion grown
    rw [alone] at grown
    simp at grown
  cases changes with
  | nothing table =>
    right
    intro number gone
    obtain ⟨present, absent⟩ := mem_removed.mp gone
    have pending : next.pendingRequests = session.pendingRequests := congrArg Table.pending table
    rw [pending] at absent
    exact absurd absent present
  | @registers emission used registration entry stage keyed key table =>
    right
    intro number gone
    obtain ⟨present, absent⟩ := mem_removed.mp gone
    have pending : next.pendingRequests = _ := congrArg Table.pending table
    rw [pending, AList.lookup_eq_none, AList.mem_insert, not_or, ← AList.lookup_eq_none] at absent
    exact absurd absent.2 present
  | withdraws stage keyed table => exact .inl rfl
  | settles reads found table fills => exact absurd (congrArg Table.completions table) longer
  | lapses reads found table => exact absurd (congrArg Table.completions table) longer
  | sweeps table =>
    right
    intro number gone
    obtain ⟨present, absent⟩ := mem_removed.mp gone
    have pending : next.pendingRequests = _ := congrArg Table.pending table
    have timeouts : next.timeouts = _ := congrArg Table.timeouts table
    obtain ⟨entry, found⟩ := Option.ne_none_iff_exists'.mp present
    rw [pending, lookup_sweep, found] at absent
    have late : lapsed endpoint session entry = true := by simpa using absent
    rw [timeouts, List.mem_append, List.mem_map]
    exact .inr ⟨⟨number, entry⟩, List.mem_filter.mpr ⟨AList.mem_lookup_iff.mp found, late⟩, rfl⟩

end Changes

end Session

/-- How an entry leaves the table. -/
inductive Cause where
  | response
  | sweep
  | failedWrite
deriving DecidableEq, Repr

def Event.stops : Event → Bool
  | stop => true
  | _ => false

def Session.cause (session next : Session) : Event → Cause
  | .rollback => .failedWrite
  | _ => if next.completions.length = session.completions.length then .sweep else .response

/-- A session with what becomes of its entries: each that left the table and why, the slots that
    were filled, and the time-outs that the listener is still to be told and those it was. -/
structure Watch where
  session : Session
  removals : List (UInt32 × Cause)
  resolved : List Nat
  due : List UInt32
  told : List UInt32

inductive WatchEvent where
  | act (event : Event)
  | notify

namespace Watch

def start (endpoint : Endpoint) : Watch := ⟨endpoint.start, [], [], [], []⟩

def record (watch : Watch) (event : Event) (next : Session) : Watch where
  session := next
  removals := watch.removals ++
    (watch.session.removed next).map fun number => (number, watch.session.cause next event)
  resolved := watch.resolved ++ watch.session.filled next
  due := (if event.stops then [] else watch.due) ++
    next.timeouts.drop watch.session.timeouts.length
  told := watch.told

/-- The lock is released before the listener is told of a time-out: only the read loop waits for
    the callbacks, the other tasks go on. -/
def step (endpoint : Endpoint) (watch : Watch) : WatchEvent → Option Watch
  | .act event =>
    if event.ofReader && !event.stops && !watch.due.isEmpty then none
    else (watch.session.step endpoint event).map (watch.record event)
  | .notify =>
    match watch.due with
    | number :: due => some { watch with due := due, told := watch.told ++ [number] }
    | [] => none

def removalsOf (watch : Watch) (number : UInt32) : Nat :=
  watch.removals.countP fun removal => removal.1 = number

structure Settled (watch : Watch) : Prop where
  conserved : ∀ number, watch.removalsOf number +
      (if watch.session.pendingRequests.lookup number ≠ none then 1 else 0) =
    watch.session.registrations.countP fun registration => registration.key = number
  responses : ∀ number, (number, Cause.response) ∈ watch.removals →
    ∃ place, (number, place) ∈ watch.session.completions
  sweeps : ∀ number, (number, Cause.sweep) ∈ watch.removals → number ∈ watch.session.timeouts
  late : ∀ number, watch.session.timeouts.count number ≤ watch.removalsOf number
  notified : (watch.told ++ watch.due).Sublist watch.session.timeouts
  delivered : ∀ (caller : Nat) (call : Call), watch.session.calls[caller]? = some call →
    call.slot ≠ none →
      1 ≤ watch.removalsOf call.number ∧ call.number ∉ watch.session.timeouts
  resolvedOnce : watch.resolved.Nodup
  resolvedFor : ∀ caller ∈ watch.resolved, watch.session.table.replies caller ≠ none

variable {endpoint : Endpoint} {watch next : Watch}

theorem start_settled (endpoint : Endpoint) : (start endpoint).Settled where
  conserved _ := rfl
  responses _ member := absurd member List.not_mem_nil
  sweeps _ member := absurd member List.not_mem_nil
  late _ := Nat.le_refl 0
  notified := .slnil
  delivered _ _ found := absurd found (by simp [start, Endpoint.start])
  resolvedOnce := List.nodup_nil
  resolvedFor _ member := absurd member List.not_mem_nil

theorem record_removalsOf (watch : Watch) (event : Event) (next : Session) (number : UInt32) :
    (watch.record event next).removalsOf number =
      watch.removalsOf number + (watch.session.removed next).count number := by
  unfold removalsOf record
  rw [List.countP_append, List.countP_map]
  rfl

section Record

variable {event : Event} {next : Session}
  (sound : watch.session.ledger.Sound endpoint.labels endpoint.responseTimer)
  (settled : watch.Settled)

include sound

theorem registered_once (number : UInt32) :
    (watch.session.registrations.countP fun registration => registration.key = number) ≤ 1 :=
  Ledger.registered_once sound.fresh number

theorem taken_unregistered {emission : Emission} {number : UInt32}
    (stage : watch.session.writer = .taken emission)
    (keyed : emission.frame.ourSequenceNumber = some number) :
    (watch.session.registrations.countP fun registration => registration.key = number) = 0 := by
  have member : emission ∈ watch.session.ledger.outbox := by
    simp [Session.ledger, Session.outbox, stage, WriterStage.inHand]
  have queued : 1 ≤ watch.session.ledger.outbox.countP fun other =>
      endpoint.labels.key other = some number :=
    Multiset.countP_pos.mpr ⟨emission, member, keyed⟩
  have once : watch.session.ledger.outbox.countP (fun other =>
      endpoint.labels.key other = some number) +
      watch.session.registrations.countP (fun registration => registration.key = number) ≤ 1 :=
    sound.fresh.once number
  omega

include settled

theorem absent_of_removed {number : UInt32} (removed : 1 ≤ watch.removalsOf number) :
    watch.session.pendingRequests.lookup number = none := by
  by_contra present
  have conserved := settled.conserved number
  rw [if_pos present] at conserved
  have once := registered_once sound number
  omega

theorem record_conserved (taken : watch.session.step endpoint event = some next)
    (number : UInt32) :
    (watch.record event next).removalsOf number +
        (if next.pendingRequests.lookup number ≠ none then 1 else 0) =
      next.registrations.countP fun registration => registration.key = number := by
  have conserved := settled.conserved number
  rw [record_removalsOf, Session.count_removed]
  rcases (Session.step_changes taken).pending with
    ⟨registrations, shrinks⟩ | ⟨emission, registration, entry, stage, keyed, registrations, pending⟩
  · rw [registrations, ← conserved]
    have kept := shrinks number
    by_cases before : watch.session.pendingRequests.lookup number = none
    · have after : next.pendingRequests.lookup number = none := by
        by_contra present
        exact kept present before
      simp [before, after]
    · by_cases after : next.pendingRequests.lookup number = none
      · simp [before, after]
      · simp [before, after]
  · have new := taken_unregistered sound stage keyed
    rw [registrations, pending, List.countP_append, List.countP_singleton]
    by_cases same : number = registration.key
    · subst same
      rw [new] at conserved ⊢
      have before : watch.session.pendingRequests.lookup registration.key = none := by
        by_contra present
        rw [if_pos present] at conserved
        omega
      simp only [AList.lookup_insert, before] at conserved ⊢
      simpa using conserved
    · rw [AList.lookup_insert_ne same]
      have other : ¬ registration.key = number := fun same' => same same'.symm
      simp only [other, decide_false]
      by_cases before : watch.session.pendingRequests.lookup number = none
      · simpa [before] using conserved
      · simpa [before] using conserved

omit sound in
theorem record_late (taken : watch.session.step endpoint event = some next) (number : UInt32) :
    next.timeouts.count number ≤ (watch.record event next).removalsOf number := by
  obtain ⟨late, grown, once, gone⟩ := (Session.step_changes taken).timeouts
  have before := settled.late number
  rw [record_removalsOf, grown, List.count_append]
  have fits : late.count number ≤ (watch.session.removed next).count number := by
    by_cases member : number ∈ late
    · rw [List.count_eq_one_of_mem once member,
        List.count_eq_one_of_mem (Session.removed_nodup _ _) (gone number member)]
    · rw [List.count_eq_zero.mpr member]
      exact Nat.zero_le _
  omega

omit sound in
theorem record_notified (taken : watch.session.step endpoint event = some next) :
    (watch.told ++ (watch.record event next).due).Sublist next.timeouts := by
  obtain ⟨late, grown, -, -⟩ := (Session.step_changes taken).timeouts
  have fresh : next.timeouts.drop watch.session.timeouts.length = late := by
    rw [grown, List.drop_left]
  unfold record
  dsimp only
  rw [fresh, grown, ← List.append_assoc]
  apply List.Sublist.append_right
  apply List.Sublist.trans _ settled.notified
  apply List.Sublist.append_left
  split
  · exact List.nil_sublist _
  · exact List.Sublist.refl _

omit sound in
theorem record_causes (taken : watch.session.step endpoint event = some next) :
    (∀ number, (number, Cause.response) ∈ (watch.record event next).removals →
      ∃ place, (number, place) ∈ next.completions) ∧
    ∀ number, (number, Cause.sweep) ∈ (watch.record event next).removals →
      number ∈ next.timeouts := by
  have changes := Session.step_changes taken
  obtain ⟨late, grown, -, -⟩ := changes.timeouts
  constructor
  · intro number member
    rcases List.mem_append.mp member with old | new
    · obtain ⟨place, completed⟩ := settled.responses number old
      refine ⟨place, ?_⟩
      rcases changes.completions with same | ⟨other, at_place, longer, -⟩
      · rw [same]
        exact completed
      · rw [longer]
        exact List.mem_append_left _ completed
    · obtain ⟨gone, removed, same⟩ := List.mem_map.mp new
      rw [Prod.mk.injEq] at same
      obtain ⟨rfl, caused⟩ := same
      rcases changes.completions with same | ⟨other, place, longer, alone⟩
      · -- without a completion the cause is another one
        rw [Session.cause.eq_def] at caused
        split at caused
        · cases caused
        · rw [if_pos (congrArg List.length same)] at caused
          cases caused
      · rw [longer, alone gone removed]
        exact ⟨place, List.mem_append_right _ (List.mem_singleton_self _)⟩
  · intro number member
    rcases List.mem_append.mp member with old | new
    · rw [grown]
      exact List.mem_append_left _ (settled.sweeps number old)
    · obtain ⟨gone, removed, same⟩ := List.mem_map.mp new
      rw [Prod.mk.injEq] at same
      obtain ⟨rfl, caused⟩ := same
      rw [Session.cause.eq_def] at caused
      split at caused
      · cases caused
      · rename_i other
        split at caused
        · rename_i equal
          rcases changes.completions with same | ⟨completed, place, longer, -⟩
          · rcases changes.swept same with rollback | swept
            · exact absurd rollback other
            · exact swept gone removed
          · rw [longer] at equal
            simp at equal
        · cases caused

omit settled in
theorem replies_kept (consistent : watch.session.Consistent endpoint)
    (room : next.issued ≤ 2 ^ 32) (taken : watch.session.step endpoint event = some next)
    {caller : Nat} (replied : watch.session.table.replies caller ≠ none) :
    next.table.replies caller = watch.session.table.replies caller := by
  have moves := Session.step_moves consistent taken
  have held : ∃ call, watch.session.calls[caller]? = some call ∧ call.slot ≠ none := by
    cases found : watch.session.calls[caller]? with
    | none =>
      apply absurd _ replied
      simp [Session.table, found]
    | some call =>
      refine ⟨call, rfl, ?_⟩
      intro empty
      apply replied
      simp [Session.table, found, empty]
  obtain ⟨call, found, filled⟩ := held
  have at_caller : watch.session.ledger.slots[caller]? = some call.toSlot := by
    simp [Session.ledger, found]
  have kept := Ledger.run_reply (Session.supply_injective endpoint) sound room moves at_caller filled
  have same : (next.calls.map Call.toSlot)[caller]? = some call.toSlot := kept
  rw [List.getElem?_map] at same
  obtain ⟨later, now, equal⟩ := Option.map_eq_some_iff.mp same
  have slot : later.slot = call.slot := congrArg Slot.reply equal
  simp [Session.table, found, now, slot]

omit sound settled in
theorem number_kept (consistent : watch.session.Consistent endpoint)
    (taken : watch.session.step endpoint event = some next) {caller : Nat} {before after : Call}
    (found : watch.session.calls[caller]? = some before) (now : next.calls[caller]? = some after) :
    after.number = before.number := by
  have at_caller : watch.session.ledger.slots[caller]? = some before.toSlot := by
    simp [Session.ledger, found]
  obtain ⟨slot, later, -, key⟩ :=
    Ledger.run_keeps (Session.step_moves consistent taken) caller before.toSlot at_caller
  have same : (next.calls.map Call.toSlot)[caller]? = some slot := later
  rw [List.getElem?_map, now] at same
  cases same
  exact key

theorem record_delivered (consistent : watch.session.Consistent endpoint)
    (taken : watch.session.step endpoint event = some next) {caller : Nat} {call : Call}
    (found : next.calls[caller]? = some call) (filled : call.slot ≠ none) :
    1 ≤ (watch.record event next).removalsOf call.number ∧ call.number ∉ next.timeouts := by
  have changes := Session.step_changes taken
  have shown : next.table.replies caller = call.slot := by simp [Session.table, found]
  rw [record_removalsOf]
  rcases changes.replies caller with same | ⟨number, entry, pending, waits, gone, quiet⟩
  · -- the slot was filled before, and its number had left the table
    rw [shown] at same
    obtain ⟨old, before, slot⟩ : ∃ old, watch.session.calls[caller]? = some old ∧
        old.slot = call.slot := by
      cases before : watch.session.calls[caller]? with
      | none =>
        apply absurd _ filled
        rw [same]
        simp [Session.table, before]
      | some old =>
        refine ⟨old, rfl, ?_⟩
        rw [same]
        simp [Session.table, before]
    have number := number_kept consistent taken before found
    have earlier := settled.delivered caller old before (slot ▸ filled)
    rw [number]
    refine ⟨by omega, ?_⟩
    obtain ⟨late, grown, -, removed⟩ := changes.timeouts
    rw [grown, List.mem_append, not_or]
    refine ⟨earlier.2, ?_⟩
    intro member
    exact (Session.mem_removed.mp (removed _ member)).1
      (absent_of_removed sound settled earlier.1)
  · -- the slot is filled now: its number is the one that the entry was under
    obtain ⟨slot, at_caller, same, -⟩ := sound.claimed.pending number entry caller pending waits
    have old : (watch.session.calls.map Call.toSlot)[caller]? = some slot := at_caller
    rw [List.getElem?_map] at old
    obtain ⟨before, asked, equal⟩ := Option.map_eq_some_iff.mp old
    have own : call.number = number := by
      rw [number_kept consistent taken asked found]
      have key : before.number = slot.key := congrArg Slot.key equal
      rw [key]
      exact (Option.some.inj same).symm
    have present : watch.session.pendingRequests.lookup number ≠ none := by simp [pending]
    rw [own, quiet]
    constructor
    · rw [Session.count_removed, if_pos ⟨present, gone⟩]
      exact Nat.le_add_left 1 _
    · intro late
      have counted := settled.late number
      have once := List.one_le_count_iff.mpr late
      exact present (absent_of_removed sound settled (Nat.le_trans once counted))

theorem record_resolved (consistent : watch.session.Consistent endpoint)
    (room : next.issued ≤ 2 ^ 32) (taken : watch.session.step endpoint event = some next) :
    (watch.record event next).resolved.Nodup ∧
      ∀ caller ∈ (watch.record event next).resolved, next.table.replies caller ≠ none := by
  have kept : ∀ {caller : Nat}, watch.session.table.replies caller ≠ none →
      next.table.replies caller = watch.session.table.replies caller :=
    replies_kept sound consistent room taken
  constructor
  · have apart : watch.resolved.Disjoint (watch.session.filled next) := by
      intro caller old new
      exact (Session.mem_filled.mp new).1 (kept (settled.resolvedFor caller old))
    exact settled.resolvedOnce.append (List.nodup_range.filter _) apart
  · intro caller member
    rcases List.mem_append.mp member with old | new
    · rw [kept (settled.resolvedFor caller old)]
      exact settled.resolvedFor caller old
    · intro empty
      obtain ⟨changed, -⟩ := Session.mem_filled.mp new
      by_cases before : watch.session.table.replies caller = none
      · exact changed (empty.trans before.symm)
      · exact changed (kept before)

theorem record_settled (consistent : watch.session.Consistent endpoint)
    (room : next.issued ≤ 2 ^ 32) (taken : watch.session.step endpoint event = some next) :
    (watch.record event next).Settled where
  conserved := record_conserved sound settled taken
  responses := (record_causes settled taken).1
  sweeps := (record_causes settled taken).2
  late := record_late settled taken
  notified := record_notified settled taken
  delivered _ _ := record_delivered sound settled consistent taken
  resolvedOnce := (record_resolved sound settled consistent room taken).1
  resolvedFor := (record_resolved sound settled consistent room taken).2

end Record

theorem step_cases {event : WatchEvent} (taken : watch.step endpoint event = some next) :
    (∃ act session, event = .act act ∧ watch.session.step endpoint act = some session ∧
      next = watch.record act session) ∨
    ∃ number due, event = .notify ∧ watch.due = number :: due ∧
      next = { watch with due := due, told := watch.told ++ [number] } := by
  cases event with
  | act event =>
    simp only [step] at taken
    split at taken
    · cases taken
    · obtain ⟨session, moved, rfl⟩ := Option.map_eq_some_iff.mp taken
      exact .inl ⟨event, session, rfl, moved, rfl⟩
  | notify =>
    simp only [step] at taken
    split at taken
    · rename_i number due waiting
      cases taken
      exact .inr ⟨number, due, rfl, waiting, rfl⟩
    · cases taken

theorem notify_settled (settled : watch.Settled) {number : UInt32} {due : List UInt32}
    (waiting : watch.due = number :: due) :
    { watch with due := due, told := watch.told ++ [number] }.Settled where
  conserved := settled.conserved
  responses := settled.responses
  sweeps := settled.sweeps
  late := settled.late
  notified := by
    have notified := settled.notified
    rw [waiting] at notified
    simpa using notified
  delivered := settled.delivered
  resolvedOnce := settled.resolvedOnce
  resolvedFor := settled.resolvedFor

structure Tracked (endpoint : Endpoint) (watch : Watch) : Prop where
  ran : ∃ events, run (Session.step endpoint) endpoint.start events = some watch.session
  settled : watch.session.issued ≤ 2 ^ 32 → watch.Settled

theorem Tracked.sound (tracked : watch.Tracked endpoint) (room : watch.session.issued ≤ 2 ^ 32) :
    watch.session.Consistent endpoint ∧
      watch.session.ledger.Sound endpoint.labels endpoint.responseTimer := by
  obtain ⟨events, ran⟩ := tracked.ran
  exact Session.run_ledger_sound ran room

theorem start_tracked (endpoint : Endpoint) : (start endpoint).Tracked endpoint :=
  ⟨⟨[], rfl⟩, fun _ => start_settled endpoint⟩

theorem step_issued {event : WatchEvent} (taken : watch.step endpoint event = some next) :
    watch.session.issued ≤ next.session.issued := by
  rcases step_cases taken with ⟨act, session, -, moved, rfl⟩ | ⟨number, due, -, -, rfl⟩
  · exact Session.run_issued_mono (Machine.run_single moved)
  · exact Nat.le_refl _

theorem run_issued {events : List WatchEvent} {final : Watch}
    (reached : run (step endpoint) watch events = some final) :
    watch.session.issued ≤ final.session.issued :=
  @Machine.run_monotone _ _ _ (fun watch : Watch => watch.session.issued)
    (fun _ _ _ taken => step_issued taken) _ _ _ reached

theorem step_tracked {event : WatchEvent} (tracked : watch.Tracked endpoint)
    (taken : watch.step endpoint event = some next) : next.Tracked endpoint := by
  have grows := step_issued taken
  rcases step_cases taken with ⟨act, session, -, moved, rfl⟩ | ⟨number, due, -, waiting, rfl⟩
  · constructor
    · obtain ⟨events, ran⟩ := tracked.ran
      exact ⟨events ++ [act], Machine.run_append ran (Machine.run_single moved)⟩
    · intro room
      have before := Nat.le_trans grows room
      obtain ⟨consistent, sound⟩ := tracked.sound before
      exact record_settled sound (tracked.settled before) consistent room moved
  · exact ⟨tracked.ran, fun room => notify_settled (tracked.settled room) waiting⟩

theorem run_tracked {events : List WatchEvent}
    (reached : run (step endpoint) (start endpoint) events = some watch) :
    watch.Tracked endpoint :=
  Machine.run_invariant (fun _ _ _ before taken => step_tracked before taken)
    (start_tracked endpoint) reached

structure Since (base : Watch) (number : UInt32) (watch : Watch) : Prop where
  registered : 1 ≤ watch.session.registrations.countP fun registration =>
    registration.key = number
  absent : watch.session.pendingRequests.lookup number = none
  told : ∃ more, watch.told = base.told ++ more ∧
    (number ∈ more ++ watch.due → number ∈ base.due)

theorem record_since {base : Watch} {number : UInt32} {event : Event} {session : Session}
    (sound : watch.session.ledger.Sound endpoint.labels endpoint.responseTimer)
    (since : Since base number watch) (taken : watch.session.step endpoint event = some session) :
    Since base number (watch.record event session) := by
  have changes := Session.step_changes taken
  obtain ⟨registered, absent, more, told, heard⟩ := since
  have still : 1 ≤ (session.registrations.countP fun registration => registration.key = number) ∧
      session.pendingRequests.lookup number = none := by
    rcases changes.pending with
      ⟨same, shrinks⟩ | ⟨emission, registration, entry, stage, keyed, grown, pending⟩
    · rw [same]
      refine ⟨registered, ?_⟩
      by_contra present
      exact shrinks number present absent
    · -- a number that is registered is never registered again
      have new := taken_unregistered sound stage keyed
      have different : number ≠ registration.key := by
        intro same
        rw [same, new] at registered
        cases registered
      rw [grown, List.countP_append, pending, AList.lookup_insert_ne different]
      exact ⟨Nat.le_trans registered (Nat.le_add_right _ _), absent⟩
  refine ⟨still.1, still.2, more, told, ?_⟩
  obtain ⟨late, grown, -, removed⟩ := changes.timeouts
  have fresh : session.timeouts.drop watch.session.timeouts.length = late := by
    rw [grown, List.drop_left]
  intro member
  apply heard
  simp only [record, fresh, List.mem_append] at member ⊢
  rcases member with past | waiting | new
  · exact .inl past
  · split at waiting
    · cases waiting
    · exact .inr waiting
  · exact absurd absent (Session.mem_removed.mp (removed number new)).1

theorem step_since {base : Watch} {number : UInt32} {event : WatchEvent}
    (tracked : watch.Tracked endpoint) (room : watch.session.issued ≤ 2 ^ 32)
    (since : Since base number watch) (taken : watch.step endpoint event = some next) :
    Since base number next := by
  rcases step_cases taken with ⟨act, session, -, moved, rfl⟩ | ⟨other, due, -, waiting, rfl⟩
  · exact record_since (tracked.sound room).2 since moved
  · obtain ⟨registered, absent, more, told, heard⟩ := since
    refine ⟨registered, absent, more ++ [other], ?_, ?_⟩
    · rw [← List.append_assoc, ← told]
    · rw [waiting] at heard
      simpa using heard

theorem run_since {base : Watch} {number : UInt32} {events : List WatchEvent} {final : Watch}
    (tracked : watch.Tracked endpoint) (since : Since base number watch)
    (reached : run (step endpoint) watch events = some final)
    (room : final.session.issued ≤ 2 ^ 32) : Since base number final := by
  induction events generalizing watch with
  | nil =>
    cases reached
    exact since
  | cons event events ih =>
    obtain ⟨next, taken, rest⟩ := Machine.run_cons_iff.mp reached
    have small := Nat.le_trans (run_issued reached) room
    exact ih (step_tracked tracked taken) (step_since tracked small since taken) rest

theorem rollback_since {emission : Emission} {number : UInt32} (tracked : watch.Tracked endpoint)
    (room : watch.session.issued ≤ 2 ^ 32) (stage : watch.session.writer = .failed emission)
    (keyed : emission.frame.ourSequenceNumber = some number)
    (taken : watch.step endpoint (.act .rollback) = some next) : Since watch number next := by
  obtain ⟨-, sound⟩ := tracked.sound room
  have wired : 1 ≤ watch.session.ledger.onWire endpoint.labels number := by
    have member : emission ∈ watch.session.ledger.sent ++ watch.session.ledger.held.toList := by
      simp [Session.ledger, stage, WriterStage.held]
    exact List.countP_pos_iff.mpr ⟨emission, member, decide_eq_true keyed⟩
  have registered : watch.session.ledger.onWire endpoint.labels number ≤
      watch.session.registrations.countP fun registration => registration.key = number :=
    sound.fresh.registered number
  rcases step_cases taken with ⟨act, session, same, moved, rfl⟩ | ⟨other, due, same, -, -⟩
  · cases same
    simp only [Session.step, Session.rollback, stage, keyed] at moved
    cases moved
    refine ⟨Nat.le_trans wired registered, AList.lookup_erase number _, [], ?_, ?_⟩
    · rw [List.append_nil]
      rfl
    · simp [record, Event.stops]
  · cases same

/-- Each registered request meets at most one fate, and the listener hears of it at most once. -/
structure OneFate (watch : Watch) : Prop where
  conserved : ∀ number, watch.removalsOf number +
      (if watch.session.pendingRequests.lookup number ≠ none then 1 else 0) =
    watch.session.registrations.countP fun registration => registration.key = number
  once : ∀ number,
    (watch.session.registrations.countP fun registration => registration.key = number) ≤ 1
  answered : ∀ number, (number, Cause.response) ∈ watch.removals →
    ∃ (place : Nat) (pdu : Bytes), watch.session.received[place]? = some pdu ∧
      isResponse pdu = true ∧ beU32At pdu 12 = number
  swept : ∀ number, (number, Cause.sweep) ∈ watch.removals → number ∈ watch.session.timeouts
  resolvedOnce : watch.resolved.Nodup
  toldOnce : watch.told.Nodup
  undelivered : ∀ caller ∈ watch.resolved, ∀ call, watch.session.calls[caller]? = some call →
    call.number ∉ watch.told

theorem Tracked.oneFate (tracked : watch.Tracked endpoint)
    (room : watch.session.issued ≤ 2 ^ 32) : watch.OneFate := by
  obtain ⟨-, sound⟩ := tracked.sound room
  have settled := tracked.settled room
  have once := registered_once sound
  have told : watch.told.Sublist watch.session.timeouts :=
    (List.sublist_append_left _ _).trans settled.notified
  constructor
  · exact settled.conserved
  · exact once
  · intro number removed
    obtain ⟨place, completed⟩ := settled.responses number removed
    obtain ⟨pdu, heard, answers⟩ := sound.answered.completed (number, place) completed
    exact ⟨place, pdu, heard, answeredNumber_eq answers⟩
  · exact settled.sweeps
  · exact settled.resolvedOnce
  · apply List.Nodup.sublist told
    rw [List.nodup_iff_count_le_one]
    intro number
    have late := settled.late number
    have conserved := settled.conserved number
    have registered := once number
    omega
  · intro caller resolved call found announced
    have filled : call.slot ≠ none := by
      have replied := settled.resolvedFor caller resolved
      simpa [Session.table, found] using replied
    exact (settled.delivered caller call found filled).2 (told.mem announced)

end Watch

/-- Whatever the peer does, each registered request leaves the table at most once, for one reason,
    and neither its caller nor the listener hears of it twice or of both a response and a time-out.
    Once its failed write was handled, the listener hears only of a time-out found before that. -/
theorem request_meets_one_fate (endpoint : Endpoint) (events : List WatchEvent) (watch : Watch)
    (reached : run (Watch.step endpoint) (Watch.start endpoint) events = some watch)
    (few : watch.session.issued < 2 ^ 32) :
    watch.OneFate ∧
      ∀ (first second : List WatchEvent) (before : Watch) (emission : Emission) (number : UInt32),
        events = first ++ .act .rollback :: second →
        run (Watch.step endpoint) (Watch.start endpoint) first = some before →
        before.session.writer = .failed emission →
        emission.frame.ourSequenceNumber = some number →
          watch.session.pendingRequests.lookup number = none ∧
            (number ∈ watch.told.drop before.told.length → number ∈ before.due) := by
  refine ⟨(Watch.run_tracked reached).oneFate few.le, ?_⟩
  intro first second before emission number split early stage keyed
  subst split
  obtain ⟨middle, before', rest⟩ := Machine.run_append_iff.mp reached
  rw [early] at before'
  cases before'
  obtain ⟨after, handled, later⟩ := Machine.run_cons_iff.mp rest
  have tracked := Watch.run_tracked early
  have small : before.session.issued ≤ 2 ^ 32 := Nat.le_trans (Watch.run_issued rest) few.le
  have since := Watch.rollback_since tracked small stage keyed handled
  obtain ⟨-, absent, more, told, heard⟩ :=
    Watch.run_since (Watch.step_tracked tracked handled) since later few.le
  refine ⟨absent, ?_⟩
  intro member
  rw [told, List.drop_left] at member
  exact heard (List.mem_append_left _ member)

def registering : List WatchEvent :=
  [.act (.call (.unbind (Unbind.withSequenceNumber 0))), .act (.enqueue 0), .act .check,
    .act .take, .act .register]

theorem failed_unbind_meets_one_fate :
    let endpoint : Endpoint := ⟨.server, .trx, 60, 600⟩
    ∃ watch, run (Watch.step endpoint) (Watch.start endpoint)
        (registering ++ ([.act (.write .failed), .act .rollback] : List WatchEvent)) = some watch ∧
      watch.removals = [(1, .failedWrite)] ∧ watch.OneFate := by
  intro endpoint
  have ran : (run (Watch.step endpoint) (Watch.start endpoint)
      (registering ++ ([.act (.write .failed), .act .rollback] : List WatchEvent))).map
        (fun watch => (watch.removals, watch.session.issued)) = some ([(1, .failedWrite)], 1) := by
    decide +kernel
  obtain ⟨watch, reached, facts⟩ := Option.map_eq_some_iff.mp ran
  simp only [Prod.mk.injEq] at facts
  have few : watch.session.issued < 2 ^ 32 := by
    rw [facts.2]
    decide
  exact ⟨watch, reached, facts.1, (request_meets_one_fate endpoint _ watch reached few).1⟩

/-- The sweep finds the time-out while the write is under way, the write fails and is handled, and
    only then the listener is told. -/
theorem timeout_told_after_failed_write :
    let endpoint : Endpoint := ⟨.server, .trx, 60, 600⟩
    let first : List WatchEvent := registering ++
      ([.act (.advance 61), .act (.receive [0]), .act .extract, .act (.write .failed)] :
        List WatchEvent)
    ∃ before emission watch,
      run (Watch.step endpoint) (Watch.start endpoint) first = some before ∧
      before.session.writer = .failed emission ∧ emission.frame.ourSequenceNumber = some 1 ∧
      run (Watch.step endpoint) (Watch.start endpoint)
        (first ++ .act .rollback :: [.notify]) = some watch ∧
      watch.session.issued < 2 ^ 32 ∧ 1 ∈ watch.told.drop before.told.length := by
  intro endpoint first
  have early : (run (Watch.step endpoint) (Watch.start endpoint) first).map (fun before =>
      (before.session.writer, before.told)) =
      some (.failed ⟨⟨some 1, (Unbind.withSequenceNumber 1).encode, some 0⟩, .call 0⟩, []) := by
    decide +kernel
  have late : (run (Watch.step endpoint) (Watch.start endpoint)
      (first ++ .act .rollback :: [.notify])).map (fun watch =>
        (watch.session.issued, watch.told)) = some (1, [1]) := by
    decide +kernel
  obtain ⟨before, reached, stage⟩ := Option.map_eq_some_iff.mp early
  obtain ⟨watch, after, facts⟩ := Option.map_eq_some_iff.mp late
  simp only [Prod.mk.injEq] at stage facts
  refine ⟨before, _, watch, reached, stage.1, rfl, after, ?_, ?_⟩
  · rw [facts.1]
    decide
  · rw [stage.2, facts.2]
    decide

end Smpp34
