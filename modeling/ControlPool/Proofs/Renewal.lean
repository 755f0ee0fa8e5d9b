import ControlPool.Proofs.Inclusion
import ControlPool.Proofs.RegistryRun

/-!
# A drained pool is as good as new

A drain leaves nothing pending, but neither the numbers of arrivals nor the counters start again.
Every step answers the same in a pool whose numbers and counters are ahead and leaves it as far
ahead, so a drained pool cannot be told from a new one by its answers.

A pool reaches its registry only by filing transactions and by draining. A hash table with numbers
in 64 bits that is sorted when it is drained holds the same entries after these operations, in both
pools, as long as the numbers fit.
-/

namespace ControlPool

/-- Tallies are added in any grouping. -/
theorem Tally.add_assoc (a b c : Tally) : a + b + c = a + (b + c) :=
  Tally.ext (funext fun counter => Nat.add_assoc (a.count counter) _ _)

/-- Adding nothing changes no tally. -/
theorem Tally.add_zero (a : Tally) : a + .zero = a :=
  Tally.ext (funext fun counter => Nat.add_zero (a.count counter))

/-- The entry with a number that is ahead. -/
def Arrival.ahead (numbers : Nat) (entry : Arrival) : Arrival :=
  { entry with number := numbers + entry.number }

namespace Registry

/-- The registry with numbers that are ahead. -/
def ahead (numbers : Nat) (registry : Registry) : Registry :=
  ⟨registry.entries.map (Arrival.ahead numbers), numbers + registry.nextNumber⟩

/-- The same identities are pending. -/
theorem contains_ahead (numbers : Nat) (registry : Registry) (identity : Hash) :
    (registry.ahead numbers).contains identity = registry.contains identity := by
  rw [contains, ahead, List.any_map]
  rfl

/-- The same identities are filed, with numbers as far ahead. -/
theorem insert_ahead (numbers : Nat) (registry : Registry) (identity : Hash) (tx : Transaction) :
    (registry.ahead numbers).insert identity tx =
      ((registry.insert identity tx).1, (registry.insert identity tx).2.ahead numbers) := by
  rw [insert, insert, contains_ahead]
  split
  · rfl
  · simp [ahead, Arrival.ahead, Nat.add_assoc]

/-- The same messages are filed, with numbers as far ahead. -/
theorem insertAll_ahead (numbers : Nat) (registry : Registry) (tx : Transaction)
    (messages : List Message) :
    (registry.ahead numbers).insertAll tx messages =
      ((registry.insertAll tx messages).1, (registry.insertAll tx messages).2.ahead numbers) := by
  induction messages generalizing registry with
  | nil => rfl
  | cons message messages ih =>
    rw [insertAll, insertAll, insert_ahead]
    rcases registry.insert message.identity tx with ⟨_ | _, grown⟩ <;> simp only [ih]

/-- The later of two lists of operations starts from where the earlier ends. -/
theorem perform_append {σ : Type} (step : σ → Operation → Reply × σ) (state : σ)
    (before since : List Operation) :
    (perform step state (before ++ since)).2 =
      (perform step (perform step state before).2 since).2 := by
  induction before generalizing state with
  | nil => rfl
  | cons operation before ih => exact ih (step state operation).2

/-- Messages are filed by inserting the transaction under the identity of each. -/
theorem perform_inserts (registry : Registry) (tx : Transaction) (messages : List Message) :
    (perform step registry (messages.map fun message => .insert message.identity tx)).2 =
      (registry.insertAll tx messages).2 := by
  induction messages generalizing registry with
  | nil => rfl
  | cons message messages ih =>
    change (perform step (registry.insert message.identity tx).2 (messages.map _)).2 = _
    rw [ih, insertAll]
    rcases registry.insert message.identity tx with ⟨_ | _, grown⟩ <;> rfl

/-- A hash table sorted by number gives the entries of the registry, in whatever order they come out
of it, as long as the numbers fit. -/
theorem sorted_after {iterate : List Arrival → List Arrival}
    (hiterate : ∀ slots, (iterate slots).Perm slots) {operations : List Operation}
    (hfits : (after operations).nextNumber < UInt64.size) :
    (Table.after iterate operations).sorted iterate = (after operations).entries :=
  (table_record_eq hiterate operations hfits).2.sorted_eq
    (accounts_record operations).pairwise_number hiterate

end Registry

namespace Pool

variable {ρ : Type}

/-- The pool with numbers and counters that are ahead. -/
def ahead (pool : Pool ρ) (numbers : Nat) (counted : Tally) : Pool ρ :=
  { pool with registry := pool.registry.ahead numbers, tally := counted + pool.tally }

/-- The same number of transactions is pending. -/
theorem pending_ahead (pool : Pool ρ) (numbers : Nat) (counted : Tally) :
    (pool.ahead numbers counted).pending = pool.pending := List.length_map _

/-- The same judgement is settled, as far ahead. -/
theorem settle_ahead (pool : Pool ρ) (numbers : Nat) (counted : Tally) (tx : Transaction)
    (admitted : List Message) (failure : Option PoolError) :
    (pool.ahead numbers counted).settle tx admitted failure =
      ((pool.settle tx admitted failure).1,
        (pool.settle tx admitted failure).2.ahead numbers counted) := by
  simp only [settle, ahead, Registry.insertAll_ahead, Tally.add_assoc]

variable [SignerRecovery ρ]

/-- An insertion answers the same and stays as far ahead. -/
theorem insert_ahead (pool : Pool ρ) (numbers : Nat) (counted : Tally) (tx : Transaction) :
    (pool.ahead numbers counted).insert tx =
      ((pool.insert tx).1, (pool.insert tx).2.ahead numbers counted) := by
  have hbody : bodyOf (pool.ahead numbers counted).config.sizeLimit tx =
      bodyOf pool.config.sizeLimit tx := rfl
  rw [insert, insert, hbody]
  cases bodyOf pool.config.sizeLimit tx with
  | error failure => rfl
  | ok payload =>
    simp only [insertPayload, ahead]
    rcases findSender pool.config.senderPolicy pool.recovery tx with
      ⟨failure | sender, recovery⟩
    · rfl
    · cases pool.surroundings.head with
      | error text => rfl
      | ok head => exact settle_ahead { pool with recovery } numbers counted tx _ _

/-- A message is answered the same and leaves the pool as far ahead. -/
theorem handle_ahead (pool : Pool ρ) (numbers : Nat) (counted : Tally) (message : PeerMessage) :
    (pool.ahead numbers counted).handle message =
      ((pool.handle message).1, (pool.handle message).2.ahead numbers counted) := by
  simp only [handle]
  split
  · rfl
  · rfl
  · split
    · rfl
    · simp only [insert_ahead]

/-- The numbers of entries do not matter to how they are grouped. -/
theorem groupBySender_ahead (policy : SenderPolicy) (numbers : Nat) (entries : List Arrival)
    (groups : BySender) (recovery : ρ) :
    groupBySender policy (entries.map (Arrival.ahead numbers)) groups recovery =
      groupBySender policy entries groups recovery := by
  induction entries generalizing groups recovery with
  | nil => rfl
  | cons entry entries ih =>
    rw [List.map_cons, groupBySender, groupBySender, Arrival.ahead]
    rcases findSender policy recovery entry.transaction with ⟨failure | sender, asked⟩
    · exact ih groups asked
    · exact ih (addTo groups sender.address entry.transaction) asked

/-- A drain hands out the same and stays as far ahead. -/
theorem drain_ahead (pool : Pool ρ) (numbers : Nat) (counted : Tally) :
    (pool.ahead numbers counted).drain =
      (pool.drain.1, pool.drain.2.ahead numbers counted) := by
  simp only [drain, ahead, Registry.drain, Registry.ahead, groupBySender_ahead, List.length_map,
    Tally.add_assoc, List.map_nil]

/-- A step answers the same and stays as far ahead. -/
theorem step_ahead (pool : Pool ρ) (numbers : Nat) (counted : Tally) (step : Step ρ) :
    (pool.ahead numbers counted).step step =
      ((pool.step step).1, (pool.step step).2.ahead numbers counted) := by
  cases step with
  | insert tx => simp only [Pool.step, insert_ahead]
  | handle message => simp only [Pool.step, handle_ahead]
  | drain => simp only [Pool.step, drain_ahead]
  | surround surroundings => rfl
  | recovery change => rfl

/-- A run gives the same answers and stays as far ahead. -/
theorem run_ahead (pool : Pool ρ) (numbers : Nat) (counted : Tally) (steps : List (Step ρ)) :
    (pool.ahead numbers counted).run steps =
      ((pool.run steps).1, (pool.run steps).2.ahead numbers counted) := by
  induction steps generalizing pool with
  | nil => rfl
  | cons step steps ih => simp only [run, step_ahead, ih]

/-- A drained pool is a new one that is ahead. -/
theorem drain_eq_ahead (pool : Pool ρ) :
    pool.drain.2 =
      (new pool.drain.2.config pool.drain.2.surroundings pool.drain.2.recovery).ahead
        pool.drain.2.registry.nextNumber pool.drain.2.tally := by
  rw [ahead, new, Tally.add_zero]
  rfl

/-- The operations by which a transaction is filed. -/
def filingOperations (pool : Pool ρ) (tx : Transaction) : List Registry.Operation :=
  (pool.admitted tx).map fun message => .insert message.identity tx

/-- The operations of a step on the registry. -/
def operationsOf (pool : Pool ρ) : Step ρ → List Registry.Operation
  | .insert tx => pool.filingOperations tx
  | .handle message => message.offer?.elim [] pool.filingOperations
  | .drain => [.drain]
  | .surround _ => []
  | .recovery _ => []

/-- The operations of a run on the registry. -/
def operations (pool : Pool ρ) : List (Step ρ) → List Registry.Operation
  | [] => []
  | step :: steps => pool.operationsOf step ++ operations (pool.step step).2 steps

/-- A step leaves the registry that its operations leave. -/
theorem step_registry (pool : Pool ρ) (step : Step ρ) :
    (pool.step step).2.registry =
      (Registry.perform Registry.step pool.registry (pool.operationsOf step)).2 := by
  have hinsert (tx : Transaction) : (pool.insert tx).2.registry =
      (Registry.perform Registry.step pool.registry (pool.filingOperations tx)).2 := by
    rw [filingOperations, Registry.perform_inserts, insert_registry, Registry.insertAll_registry]
    rfl
  cases step with
  | insert tx => exact hinsert tx
  | handle message =>
    rw [operationsOf]
    cases hoffer : message.offer? with
    | none =>
      rw [Pool.step, handle_of_no_offer pool hoffer]
      rfl
    | some tx =>
      rw [Pool.step, handle_of_offer pool hoffer]
      exact hinsert tx
  | drain => rfl
  | surround surroundings => rfl
  | recovery change => rfl

/-- A run leaves the registry that its operations leave. -/
theorem after_registry (pool : Pool ρ) (steps : List (Step ρ)) :
    (pool.after steps).registry =
      (Registry.perform Registry.step pool.registry (pool.operations steps)).2 := by
  induction steps generalizing pool with
  | nil => rfl
  | cons step steps ih =>
    rw [after_cons, ih, operations, Registry.perform_append, step_registry]

/-- After a run from an empty registry the registry is the one that its operations leave. -/
theorem after_registry_of_empty {pool : Pool ρ} (h : pool.registry = .empty)
    (steps : List (Step ρ)) :
    (pool.after steps).registry = Registry.after (pool.operations steps) := by
  rw [after_registry, h]
  rfl

/-- A drain and a run behind it continue the operations that led to the registry. -/
theorem after_drain_registry {pool : Pool ρ} {operations : List Registry.Operation}
    (h : Registry.after operations = pool.registry) (since : List (Step ρ)) :
    (pool.drain.2.after since).registry =
      Registry.after (operations ++ .drain :: pool.drain.2.operations since) := by
  rw [after_registry, Registry.after, Registry.perform_append]
  change _ = (Registry.perform Registry.step ((Registry.after operations).step .drain).2 _).2
  rw [h]
  rfl

/-- A drained pool gives the same answers in every run as a new one with the same configuration,
surroundings and recovery, has the same number of transactions pending and counts as much. A hash
table that performs the operations of either from the start on and is sorted gives the entries of
its registry, in whatever order they come out of it, as long as the numbers fit. -/
theorem run_after_drain (pool : Pool ρ) (since : List (Step ρ)) (drained fresh : Pool ρ)
    (hdrained : pool.drain.2 = drained)
    (hfresh : new drained.config drained.surroundings drained.recovery = fresh) :
    (drained.run since).1 = (fresh.run since).1 ∧
      (drained.after since).pending = (fresh.after since).pending ∧
      (drained.after since).tally = drained.tally + (fresh.after since).tally ∧
      ∀ operations, Registry.after operations = pool.registry →
        (drained.after since).registry.nextNumber < UInt64.size →
        ∀ iterate : List Arrival → List Arrival, (∀ slots, (iterate slots).Perm slots) →
          (Registry.Table.after iterate
              (operations ++ .drain :: drained.operations since)).sorted iterate =
            (drained.after since).registry.entries ∧
          (Registry.Table.after iterate (fresh.operations since)).sorted iterate =
            (fresh.after since).registry.entries := by
  have hahead : drained = fresh.ahead drained.registry.nextNumber drained.tally := by
    rw [← hfresh, ← hdrained]
    exact pool.drain_eq_ahead
  have hrun : drained.run since = ((fresh.run since).1,
      (fresh.run since).2.ahead drained.registry.nextNumber drained.tally) := by
    rw [← run_ahead, ← hahead]
  have hafter : drained.after since =
      (fresh.after since).ahead drained.registry.nextNumber drained.tally :=
    congrArg Prod.snd hrun
  refine ⟨?_, ?_, ?_, ?_⟩
  · rw [hrun]
  · rw [hafter, pending_ahead]
  · rw [hafter]
    rfl
  · intro operations hoperations hfits iterate hiterate
    have hwhole : (drained.after since).registry =
        Registry.after (operations ++ .drain :: drained.operations since) := by
      rw [← hdrained]
      exact after_drain_registry hoperations since
    have hpart : (fresh.after since).registry = Registry.after (fresh.operations since) := by
      rw [← hfresh]
      exact after_registry_of_empty rfl since
    have hfitsPart : (fresh.after since).registry.nextNumber < UInt64.size := by
      rw [hafter] at hfits
      exact Nat.lt_of_le_of_lt (Nat.le_add_left _ _) hfits
    rw [hwhole] at hfits ⊢
    rw [hpart] at hfitsPart ⊢
    exact ⟨Registry.sorted_after hiterate hfits, Registry.sorted_after hiterate hfitsPart⟩

/-- After a drain the public key is accepted again as if for the first time, and a hash table holds
it with the second number. -/
theorem publicKey_after_drain :
    ((Sample.poolAfter [.insert Sample.announced]).drain.2.run [.insert Sample.announced]).1 =
        ((Sample.poolAfter []).run [.insert Sample.announced]).1 ∧
      (Registry.Table.after List.reverse
        ((Sample.poolAfter []).operations [.insert Sample.announced] ++
          .drain :: (Sample.poolAfter [.insert Sample.announced]).drain.2.operations
            [.insert Sample.announced])).sorted List.reverse =
        [⟨messageIdentity .publicKey 2 Sample.validator, Sample.announced, 1⟩] := by
  obtain ⟨hanswers, -, -, htable⟩ := run_after_drain (Sample.poolAfter [.insert Sample.announced])
    [.insert Sample.announced] _ _ rfl rfl
  have hoperations : Registry.after
      ((Sample.poolAfter []).operations [.insert Sample.announced]) =
        (Sample.poolAfter [.insert Sample.announced]).registry :=
    (after_registry_of_empty rfl [.insert Sample.announced]).symm
  exact ⟨hanswers, (htable _ hoperations (by decide +kernel) List.reverse List.reverse_perm).1⟩

end Pool

end ControlPool
