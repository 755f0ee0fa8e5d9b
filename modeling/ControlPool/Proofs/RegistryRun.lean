import ControlPool.Proofs.Arrivals
import Mathlib.Data.List.DropRight
import Mathlib.Data.List.Sort

/-!
# What a registry hands out over time

Operations on a registry are recorded with their replies. What all drains of a run hand out, and
then what is still held, are the filings of the run in their order, numbered from zero on without
gaps, because a drain does not start the numbers again. What is held are the filings since the last
drain.

A hash table keeps its entries in no order and its numbers in 64 bits, and a drain sorts what comes
out of it. As long as the numbers fit, sorting has only one result, so it gives the same replies in
whatever order the entries come out. That order is any function of the entries; since no number
comes twice, no two drains with entries see the same ones, and each may have an order of its own.
-/

namespace ControlPool.Registry

/-- An operation on a registry. -/
inductive Operation where
  | insert (identity : Hash) (tx : Transaction)
  | contains (identity : Hash)
  | drain

/-- The reply to an operation: a truth value, or the entries that were taken. -/
inductive Reply where
  | flag (value : Bool)
  | drained (entries : List Arrival)

/-- An operation with its reply. -/
abbrev Event := Operation × Reply

/-- The identity and the transaction that an event files. -/
def Event.filing? : Event → Option (Hash × Transaction)
  | (.insert identity tx, .flag true) => some (identity, tx)
  | _ => none

/-- The entries that an event hands out. -/
def Event.handedOut : Event → List Arrival
  | (_, .drained entries) => entries
  | _ => []

/-- Whether an event is a drain. -/
def Event.isDrain : Event → Bool
  | (.drain, _) => true
  | _ => false

/-- What events file, in their order. -/
def filings (events : List Event) : List (Hash × Transaction) := events.filterMap Event.filing?

/-- The events since the last drain. -/
def sinceDrain (events : List Event) : List Event := events.rtakeWhile fun event => !event.isDrain

/-- The entry of a filing with a number. -/
def entryOf (filing : (Hash × Transaction) × Nat) : Arrival := ⟨filing.1.1, filing.1.2, filing.2⟩

/-- The entries of filings, numbered from zero on. -/
def numbered (filings : List (Hash × Transaction)) : List Arrival := filings.zipIdx.map entryOf

section Runs

variable {σ : Type}

/-- Performs operations one after the other and records them with their replies. -/
def perform (step : σ → Operation → Reply × σ) (state : σ) : List Operation → List Event × σ
  | [] => ([], state)
  | operation :: operations =>
    let (reply, state) := step state operation
    let (events, state) := perform step state operations
    ((operation, reply) :: events, state)

/-- The last operation is performed in the state that the others leave. -/
theorem perform_concat (step : σ → Operation → Reply × σ) (state : σ)
    (operations : List Operation) (last : Operation) :
    perform step state (operations ++ [last]) =
      ((perform step state operations).1 ++
          [(last, (step (perform step state operations).2 last).1)],
        (step (perform step state operations).2 last).2) := by
  induction operations generalizing state with
  | nil => rfl
  | cons operation operations ih =>
    simp only [List.cons_append, perform, ih]

end Runs

/-- Performs one operation on a registry. -/
def step (registry : Registry) : Operation → Reply × Registry
  | .insert identity tx =>
    let (fresh, registry) := registry.insert identity tx
    (.flag fresh, registry)
  | .contains identity => (.flag (registry.contains identity), registry)
  | .drain =>
    let (entries, registry) := registry.drain
    (.drained entries, registry)

/-- A pending identity is not filed again. -/
theorem step_insert_of_mem {registry : Registry} {identity : Hash} (tx : Transaction)
    (h : identity ∈ registry.identities) :
    registry.step (.insert identity tx) = (.flag false, registry) := by
  rw [step, insert_of_mem tx h]

/-- An identity that is not pending is filed. -/
theorem step_insert_of_notMem {registry : Registry} {identity : Hash} (tx : Transaction)
    (h : identity ∉ registry.identities) :
    registry.step (.insert identity tx) = (.flag true, registry.push identity tx) := by
  rw [step, insert_of_notMem tx h]

/-- The record of operations on an empty registry. -/
def record (operations : List Operation) : List Event := (perform step empty operations).1

/-- The registry after operations on an empty one. -/
def after (operations : List Operation) : Registry := (perform step empty operations).2

/-- Events account for a registry: its entries are their filings since the last drain, and together
with what they handed out before these are all their filings, numbered from zero on. -/
structure Accounts (events : List Event) (registry : Registry) : Prop where
  numbers : events.flatMap Event.handedOut ++ registry.entries = numbered (filings events)
  next : registry.nextNumber = (filings events).length
  held : registry.entries.map (fun entry => (entry.identity, entry.transaction)) =
    filings (sinceDrain events)

/-- One more filing gets the next number. -/
theorem numbered_concat (filings : List (Hash × Transaction)) (identity : Hash)
    (tx : Transaction) :
    numbered (filings ++ [(identity, tx)]) =
      numbered filings ++ [⟨identity, tx, filings.length⟩] := by
  simp [numbered, entryOf, List.zipIdx_append]

/-- The entries of filings have increasing numbers. -/
theorem pairwise_numbered (filings : List (Hash × Transaction)) :
    (numbered filings).Pairwise fun a b => a.number < b.number := by
  have hnumbers : (numbered filings).map (·.number) = List.range' 0 filings.length := by
    rw [numbered, List.map_map, ← List.zipIdx_map_snd]
    rfl
  rw [← List.pairwise_map (f := fun entry : Arrival => entry.number) (R := (· < ·)), hnumbers]
  exact List.pairwise_lt_range'

namespace Accounts

variable {events : List Event} {registry : Registry}

/-- The identities that are pending are those of the filings since the last drain. -/
theorem identities_eq (accounts : Accounts events registry) :
    registry.identities = (filings (sinceDrain events)).map (·.1) := by
  rw [← accounts.held, List.map_map]
  rfl

/-- The entries have increasing numbers. -/
theorem pairwise_number (accounts : Accounts events registry) :
    registry.entries.Pairwise fun a b => a.number < b.number := by
  have hsorted := pairwise_numbered (filings events)
  rw [← accounts.numbers] at hsorted
  exact (List.pairwise_append.mp hsorted).2.1

/-- An event that neither files nor drains leaves the account as it is. -/
theorem idle (accounts : Accounts events registry) {event : Event} (hfiling : event.filing? = none)
    (hhanded : event.handedOut = []) (hdrain : event.isDrain = false) :
    Accounts (events ++ [event]) registry := by
  have hfilings (before : List Event) : filings (before ++ [event]) = filings before := by
    simp [filings, hfiling]
  have hsince : sinceDrain (events ++ [event]) = sinceDrain events ++ [event] :=
    List.rtakeWhile_concat_pos _ _ _ (by simp [hdrain])
  refine ⟨?_, ?_, ?_⟩
  · rw [List.flatMap_append, List.flatMap_singleton, hhanded, List.append_nil, hfilings,
      accounts.numbers]
  · rw [hfilings, accounts.next]
  · rw [hsince, hfilings, accounts.held]

/-- A filing puts its entry behind those that are held. -/
theorem filed (accounts : Accounts events registry) (identity : Hash) (tx : Transaction) :
    Accounts (events ++ [(.insert identity tx, .flag true)]) (registry.push identity tx) := by
  have hfilings (before : List Event) :
      filings (before ++ [(.insert identity tx, .flag true)]) =
        filings before ++ [(identity, tx)] := by
    simp [filings, Event.filing?]
  have hsince : sinceDrain (events ++ [(.insert identity tx, .flag true)]) =
      sinceDrain events ++ [(.insert identity tx, .flag true)] :=
    List.rtakeWhile_concat_pos _ _ _ rfl
  refine ⟨?_, ?_, ?_⟩
  · rw [List.flatMap_append, List.flatMap_singleton, hfilings, numbered_concat,
      ← accounts.numbers, ← accounts.next, push]
    simp [Event.handedOut]
  · rw [hfilings, List.length_append, ← accounts.next]
    rfl
  · rw [hsince, hfilings, ← accounts.held, push]
    simp

/-- A drain hands out all that is held. -/
theorem drained (accounts : Accounts events registry) :
    Accounts (events ++ [(.drain, .drained registry.entries)]) registry.drain.2 := by
  have hfilings : filings (events ++ [(.drain, .drained registry.entries)]) = filings events := by
    simp [filings, Event.filing?]
  have hsince : sinceDrain (events ++ [(.drain, .drained registry.entries)]) = [] :=
    List.rtakeWhile_concat_neg _ _ _ (by simp [Event.isDrain])
  refine ⟨?_, ?_, ?_⟩
  · rw [List.flatMap_append, List.flatMap_singleton, hfilings, ← accounts.numbers]
    exact List.append_nil _
  · rw [hfilings, ← accounts.next]
    rfl
  · rw [hsince]
    rfl

/-- An operation keeps the account. -/
theorem step (accounts : Accounts events registry) (operation : Operation) :
    Accounts (events ++ [(operation, (registry.step operation).1)])
      (registry.step operation).2 := by
  cases operation with
  | insert identity tx =>
    by_cases hpending : identity ∈ registry.identities
    · rw [step_insert_of_mem tx hpending]
      exact accounts.idle rfl rfl rfl
    · rw [step_insert_of_notMem tx hpending]
      exact accounts.filed identity tx
  | contains identity => exact accounts.idle rfl rfl rfl
  | drain => exact accounts.drained

end Accounts

/-- The record of operations accounts for the registry that they leave. -/
theorem accounts_record (operations : List Operation) :
    Accounts (record operations) (after operations) := by
  induction operations using List.reverseRecOn with
  | nil => exact ⟨rfl, rfl, rfl⟩
  | append_singleton operations last ih =>
    rw [record, after, perform_concat]
    exact ih.step last

/-- A registry as a hash table: entries in no order, and the next number in 64 bits. -/
structure Table where
  slots : List Arrival
  nextNumber : UInt64

namespace Table

/-- The table before any arrival. -/
def empty : Table := ⟨[], 0⟩

/-- Whether an identity is pending. -/
def contains (table : Table) (identity : Hash) : Bool := table.slots.any (·.identity = identity)

/-- The entries sorted by number, after they came out of the table in some order. -/
def sorted (iterate : List Arrival → List Arrival) (table : Table) : List Arrival :=
  (iterate table.slots).mergeSort fun a b => a.number ≤ b.number

/-- Performs one operation on a table. -/
def step (iterate : List Arrival → List Arrival) (table : Table) : Operation → Reply × Table
  | .insert identity tx =>
    if table.contains identity then (.flag false, table)
    else (.flag true, ⟨⟨identity, tx, table.nextNumber.toNat⟩ :: table.slots,
      table.nextNumber + 1⟩)
  | .contains identity => (.flag (table.contains identity), table)
  | .drain => (.drained (table.sorted iterate), ⟨[], table.nextNumber⟩)

/-- The record of operations on an empty table. -/
def record (iterate : List Arrival → List Arrival) (operations : List Operation) : List Event :=
  (perform (step iterate) empty operations).1

/-- The table after operations on an empty one. -/
def after (iterate : List Arrival → List Arrival) (operations : List Operation) : Table :=
  (perform (step iterate) empty operations).2

/-- A table holds the entries of a registry, in whatever order, and has the same next number. -/
structure Holds (table : Table) (registry : Registry) : Prop where
  slots : table.slots.Perm registry.entries
  next : table.nextNumber.toNat = registry.nextNumber

namespace Holds

variable {table : Table} {registry : Registry}

/-- The same identities are pending. -/
theorem contains_eq (holds : Holds table registry) (identity : Hash) :
    table.contains identity = registry.contains identity :=
  holds.slots.any_eq

/-- Entries with increasing numbers are what sorting gives, in whatever order they come out. -/
theorem sorted_eq (holds : Holds table registry)
    (hincreasing : registry.entries.Pairwise fun a b => a.number < b.number)
    {iterate : List Arrival → List Arrival} (hiterate : ∀ slots, (iterate slots).Perm slots) :
    table.sorted iterate = registry.entries := by
  have hperm : (table.sorted iterate).Perm registry.entries :=
    (List.mergeSort_perm _ _).trans ((hiterate _).trans holds.slots)
  have hsorted : (table.sorted iterate).Pairwise fun a b => a.number ≤ b.number := by
    have htrans (a b c : Arrival) (hab : decide (a.number ≤ b.number) = true)
        (hbc : decide (b.number ≤ c.number) = true) : decide (a.number ≤ c.number) = true :=
      decide_eq_true ((of_decide_eq_true hab).trans (of_decide_eq_true hbc))
    have htotal (a b : Arrival) :
        (decide (a.number ≤ b.number) || decide (b.number ≤ a.number)) = true := by
      simpa using Nat.le_total a.number b.number
    have hpairwise := List.pairwise_mergeSort htrans htotal (iterate table.slots)
    simpa [sorted] using hpairwise
  have hnodup : (registry.entries.map (·.number)).Nodup :=
    List.pairwise_map.mpr (hincreasing.imp fun hlt => hlt.ne)
  -- No two entries have one number, so their order leaves no choice.
  refine hperm.eq_of_pairwise ?_ hsorted (hincreasing.imp fun hlt => hlt.le)
  intro a b ha hb hab hba
  exact List.inj_on_of_nodup_map hnodup (hperm.mem_iff.mp ha) hb (Nat.le_antisymm hab hba)

/-- An operation has the same reply and keeps the entries the same, as long as the numbers fit. -/
theorem step (holds : Holds table registry)
    (hincreasing : registry.entries.Pairwise fun a b => a.number < b.number)
    {iterate : List Arrival → List Arrival} (hiterate : ∀ slots, (iterate slots).Perm slots)
    (operation : Operation) (hfits : (registry.step operation).2.nextNumber < UInt64.size) :
    (table.step iterate operation).1 = (registry.step operation).1 ∧
      Holds (table.step iterate operation).2 (registry.step operation).2 := by
  cases operation with
  | insert identity tx =>
    by_cases hpending : identity ∈ registry.identities
    · have hcontains : table.contains identity = true := by
        rw [holds.contains_eq, contains_iff]
        exact hpending
      rw [step_insert_of_mem tx hpending, Table.step, if_pos hcontains]
      exact ⟨rfl, holds⟩
    · have hcontains : ¬table.contains identity = true := by
        rw [holds.contains_eq, contains_iff]
        exact hpending
      rw [step_insert_of_notMem tx hpending] at hfits ⊢
      rw [Table.step, if_neg hcontains]
      refine ⟨rfl, ?_, ?_⟩
      · rw [holds.next]
        exact (holds.slots.cons _).trans (List.perm_append_singleton _ _).symm
      · rw [UInt64.toNat_add, holds.next]
        exact Nat.mod_eq_of_lt hfits
  | contains identity => exact ⟨congrArg Reply.flag (holds.contains_eq identity), holds⟩
  | drain =>
    exact ⟨congrArg Reply.drained (holds.sorted_eq hincreasing hiterate), .nil, holds.next⟩

end Holds

end Table

/-- No operation takes a number back. -/
theorem nextNumber_le_step (registry : Registry) (operation : Operation) :
    registry.nextNumber ≤ (registry.step operation).2.nextNumber := by
  cases operation with
  | insert identity tx =>
    by_cases hpending : identity ∈ registry.identities
    · rw [step_insert_of_mem tx hpending]
    · rw [step_insert_of_notMem tx hpending]
      exact Nat.le_succ _
  | contains identity => exact le_refl _
  | drain => exact le_refl _

/-- A table has the same record as a registry and holds the same entries, in whatever order entries
come out of it, as long as the numbers fit. -/
theorem table_record_eq {iterate : List Arrival → List Arrival}
    (hiterate : ∀ slots, (iterate slots).Perm slots) (operations : List Operation)
    (hfits : (after operations).nextNumber < UInt64.size) :
    Table.record iterate operations = record operations ∧
      (Table.after iterate operations).Holds (after operations) := by
  induction operations using List.reverseRecOn with
  | nil => exact ⟨rfl, .nil, rfl⟩
  | append_singleton operations last ih =>
    rw [after, perform_concat] at hfits
    -- No number is taken back, so the numbers fit before the last operation as well.
    obtain ⟨hrecord, hholds⟩ :=
      ih (Nat.lt_of_le_of_lt (nextNumber_le_step (after operations) last) hfits)
    obtain ⟨hreply, hlast⟩ :=
      hholds.step (accounts_record operations).pairwise_number hiterate last hfits
    rw [Table.record, Table.after, record, after, perform_concat, perform_concat]
    refine ⟨?_, hlast⟩
    change Table.record iterate operations ++
      [(last, ((Table.after iterate operations).step iterate last).1)] =
        record operations ++ [(last, ((after operations).step last).1)]
    rw [hrecord, hreply]

/-- What a registry hands out over time and then still holds are the filings of its record, numbered
from zero on, and what it says about an identity and its size are those of the filings since the
last drain. In whatever order entries come out of a hash table, it has the same record and, sorted,
the same entries. -/
theorem record_accounts_for_filings (operations : List Operation)
    (iterate : List Arrival → List Arrival) (hiterate : ∀ slots, (iterate slots).Perm slots)
    (hfits : (filings (record operations)).length < UInt64.size) :
    (record operations).flatMap Event.handedOut ++ (after operations).entries =
        numbered (filings (record operations)) ∧
      (∀ identity tx, ((after operations).insert identity tx).1 = true ↔
        identity ∉ (filings (sinceDrain (record operations))).map (·.1)) ∧
      (∀ identity, (after operations).contains identity = true ↔
        identity ∈ (filings (sinceDrain (record operations))).map (·.1)) ∧
      (after operations).size = (filings (sinceDrain (record operations))).length ∧
      ((after operations).isEmpty = true ↔ filings (sinceDrain (record operations)) = []) ∧
      Table.record iterate operations = record operations ∧
      (Table.after iterate operations).slots.Perm (after operations).entries ∧
      (Table.after iterate operations).sorted iterate = (after operations).entries := by
  have accounts := accounts_record operations
  obtain ⟨hrecord, hholds⟩ :=
    table_record_eq hiterate operations (by rw [accounts.next]; exact hfits)
  refine ⟨accounts.numbers, ?_, ?_, ?_, ?_, hrecord, hholds.slots,
    hholds.sorted_eq accounts.pairwise_number hiterate⟩
  · intro identity tx
    rw [← accounts.identities_eq]
    by_cases hpending : identity ∈ (after operations).identities
    · simp [insert_of_mem tx hpending, hpending]
    · simp [insert_of_notMem tx hpending, hpending]
  · intro identity
    rw [← accounts.identities_eq]
    exact contains_iff
  · rw [← accounts.held, List.length_map]
    rfl
  · rw [← accounts.held, List.map_eq_nil_iff]
    exact List.isEmpty_iff

namespace Sample

/-- An identity. -/
def identity : Hash := .replicate 32 1

/-- Another identity. -/
def other : Hash := .replicate 32 2

/-- An identity is offered twice, and once more behind another one after a drain. -/
def refiling : List Operation :=
  [.insert identity default, .insert identity default, .drain, .insert other default,
    .insert identity default]

end Sample

/-- The identity is filed again after the drain, with the third number, and the order in which the
table gives its entries makes no difference. -/
theorem refiling_accounts_for_filings :
    (record Sample.refiling).flatMap Event.handedOut ++ (after Sample.refiling).entries =
        [⟨Sample.identity, default, 0⟩, ⟨Sample.other, default, 1⟩,
          ⟨Sample.identity, default, 2⟩] ∧
      Table.record List.reverse Sample.refiling = record Sample.refiling ∧
      (Table.after List.reverse Sample.refiling).sorted List.reverse =
        (after Sample.refiling).entries := by
  obtain ⟨hnumbered, -, -, -, -, hrecord, -, hsorted⟩ :=
    record_accounts_for_filings Sample.refiling List.reverse List.reverse_perm (by decide)
  exact ⟨hnumbered, hrecord, hsorted⟩

end ControlPool.Registry
