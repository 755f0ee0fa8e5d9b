import ControlPool.Proofs.Insertion

/-!
# What a drain hands out

Draining asks once more for the sender of each pending entry, in order of arrival, and leaves out
the entries whose sender is not found. For each sender it hands out the transactions of the other
entries that are found to be from that sender, in the order in which they arrived.
-/

namespace ControlPool.Pool

/-- A pending entry with the address of its sender, if that is found. -/
structure Attribution where
  entry : Arrival
  sender? : Option Address

variable {ρ : Type} [SignerRecovery ρ]

/-- Asks for the senders of entries one after the other. -/
def askSenders (policy : SenderPolicy) : List Arrival → ρ → List Attribution × ρ
  | [], recovery => ([], recovery)
  | entry :: entries, recovery =>
    let (found, recovery) := findSender policy recovery entry.transaction
    let (attributions, recovery) := askSenders policy entries recovery
    (⟨entry, found.toOption.map (·.address)⟩ :: attributions, recovery)

/-- The pending entries with the senders that are found for them, and the recovery after. -/
def attributed (pool : Pool ρ) : List Attribution × ρ :=
  askSenders pool.config.senderPolicy pool.registry.entries pool.recovery

/-- Every entry is asked about once, in order. -/
theorem map_entry_askSenders (policy : SenderPolicy) (entries : List Arrival) (recovery : ρ) :
    (askSenders policy entries recovery).1.map (·.entry) = entries := by
  induction entries generalizing recovery with
  | nil => rfl
  | cons entry entries ih =>
    rw [askSenders, List.map_cons, ih]

/-- A steady recovery is asked about each entry on its own. -/
theorem askSenders_of_steady {recovery : ρ} (hsteady : Steady recovery) (policy : SenderPolicy)
    (entries : List Arrival) :
    askSenders policy entries recovery =
      (entries.map fun entry => ⟨entry, senderOf? policy recovery entry.transaction⟩,
        recovery) := by
  induction entries with
  | nil => rfl
  | cons entry entries ih =>
    have hasked := hsteady.findSender policy entry.transaction
    rw [askSenders, List.map_cons, senderOf?]
    rcases hfound : findSender policy recovery entry.transaction with ⟨found, asked⟩
    rw [hfound] at hasked
    obtain rfl : asked = recovery := hasked
    simp only [ih]

/-- The senders and transactions of the entries whose sender is found, and the recovery after. -/
def resolve (policy : SenderPolicy) : List Arrival → ρ → List (Address × Transaction) × ρ
  | [], recovery => ([], recovery)
  | entry :: entries, recovery =>
    match findSender policy recovery entry.transaction with
    | (.ok sender, recovery) =>
      let (found, recovery) := resolve policy entries recovery
      ((sender.address, entry.transaction) :: found, recovery)
    | (.error _, recovery) => resolve policy entries recovery

/-- The resolved entries are those for which a sender is found. -/
theorem resolve_eq_askSenders (policy : SenderPolicy) (entries : List Arrival) (recovery : ρ) :
    resolve policy entries recovery =
      ((askSenders policy entries recovery).1.filterMap fun attribution =>
        attribution.sender?.map (·, attribution.entry.transaction),
        (askSenders policy entries recovery).2) := by
  induction entries generalizing recovery with
  | nil => rfl
  | cons entry entries ih =>
    rw [resolve, askSenders]
    rcases findSender policy recovery entry.transaction with ⟨_ | sender, asked⟩
    · exact ih asked
    · simp only [ih asked]
      rfl

/-- Grouping adds the resolved entries one after the other. -/
theorem groupBySender_eq (policy : SenderPolicy) (entries : List Arrival) (groups : BySender)
    (recovery : ρ) :
    groupBySender policy entries groups recovery =
      ((resolve policy entries recovery).1.foldl
          (fun groups found => addTo groups found.1 found.2) groups,
        (resolve policy entries recovery).2) := by
  induction entries generalizing groups recovery with
  | nil => rfl
  | cons entry entries ih =>
    rw [groupBySender, resolve]
    rcases findSender policy recovery entry.transaction with ⟨_ | sender, asked⟩
    · exact ih groups asked
    · exact ih (addTo groups sender.address entry.transaction) asked

/-- A drain groups the pending entries. -/
theorem drain_groups (pool : Pool ρ) : pool.drain.1 =
    (groupBySender pool.config.senderPolicy pool.registry.entries .empty pool.recovery).1 := rfl

/-- The transactions of a sender. -/
def BySender.of (groups : BySender) (sender : Address) : List Transaction :=
  (groups.get? sender).getD []

/-- All transactions, sender by sender. -/
def BySender.all (groups : BySender) : List Transaction := groups.entries.flatMap (·.2)

/-- Whether transactions are those of all senders, the senders in any order and the transactions of
each in theirs. -/
def BySender.Lists (groups : BySender) (txs : List Transaction) : Prop :=
  ∃ order : List (Address × List Transaction),
    order.Perm groups.entries ∧ txs = order.flatMap (·.2)

/-- The transactions of a sender are those of its group. -/
theorem of_eq_of_mem {groups : BySender} {sender : Address} {txs : List Transaction}
    (h : (sender, txs) ∈ groups.entries) : groups.of sender = txs := by
  rw [BySender.of, OrderedMap.get?_eq_some_iff.mpr h, Option.getD_some]

/-- If only the transactions of one sender yield anything, that is what listed transactions
yield. -/
theorem flatMap_of_lists {β : Type} {groups : BySender} {txs : List Transaction}
    (hlists : groups.Lists txs) (sender : Address) (f : Transaction → List β)
    (hothers : ∀ other ≠ sender, ∀ tx ∈ groups.of other, f tx = []) :
    txs.flatMap f = (groups.of sender).flatMap f := by
  obtain ⟨order, hperm, rfl⟩ := hlists
  have hpart (part : List (Address × List Transaction))
      (hmem : ∀ group ∈ part, group ∈ order) (hkeys : ∀ group ∈ part, group.1 ≠ sender) :
      (part.flatMap (·.2)).flatMap f = [] := by
    rw [List.flatMap_eq_nil_iff]
    intro tx htx
    obtain ⟨group, hgroup, htx⟩ := List.mem_flatMap.mp htx
    apply hothers group.1 (hkeys group hgroup)
    rwa [of_eq_of_mem (hperm.mem_iff.mp (hmem group hgroup))]
  by_cases hsender : ∃ txs, (sender, txs) ∈ groups.entries
  · obtain ⟨txs, hgroup⟩ := hsender
    rw [of_eq_of_mem hgroup]
    obtain ⟨before, after, rfl⟩ := List.append_of_mem (hperm.mem_iff.mpr hgroup)
    have hkeys : (before ++ (sender, txs) :: after).Pairwise (fun a b => a.1 ≠ b.1) :=
      hperm.symm.pairwise groups.pairwise_ne Ne.symm
    rw [List.pairwise_append, List.pairwise_cons] at hkeys
    obtain ⟨-, ⟨hafter, -⟩, hbefore⟩ := hkeys
    rw [List.flatMap_append, List.flatMap_cons, List.flatMap_append, List.flatMap_append,
      hpart before (fun group h => List.mem_append_left _ h)
        (fun group h => hbefore group h _ List.mem_cons_self),
      hpart after (fun group h => List.mem_append_right _ (List.mem_cons_of_mem _ h))
        (fun group h => (hafter group h).symm),
      List.nil_append, List.append_nil]
  · have hnone : groups.of sender = [] := by
      rw [BySender.of]
      cases hgroup : groups.get? sender with
      | none => rfl
      | some txs => exact absurd ⟨txs, OrderedMap.get?_eq_some_iff.mp hgroup⟩ hsender
    rw [hnone, List.flatMap_nil]
    apply hpart order (fun group h => h)
    intro group hgroup hsame
    exact hsender ⟨group.2, hsame ▸ hperm.mem_iff.mp hgroup⟩

/-- A transaction that is added stands last among those of its sender. -/
theorem of_addTo (groups : BySender) (sender other : Address) (tx : Transaction) :
    BySender.of (addTo groups sender tx) other =
      if sender = other then BySender.of groups other ++ [tx] else BySender.of groups other := by
  rw [BySender.of, addTo]
  by_cases hsame : sender = other
  · subst hsame
    rw [OrderedMap.get?_insert_self, if_pos rfl, Option.getD_some, BySender.of]
  · rw [OrderedMap.get?_insert_of_ne _ _ (Ne.symm hsame), if_neg hsame, BySender.of]

/-- Adding transactions one after the other keeps their order for each sender. -/
theorem of_foldl_addTo (found : List (Address × Transaction)) (groups : BySender)
    (sender : Address) :
    BySender.of (found.foldl (fun groups found => addTo groups found.1 found.2) groups) sender =
      BySender.of groups sender ++ (found.filter (·.1 = sender)).map (·.2) := by
  induction found generalizing groups with
  | nil => simp
  | cons first found ih =>
    rw [List.foldl_cons, ih, of_addTo]
    by_cases hsame : first.1 = sender
    · simp [hsame]
    · simp [hsame]

/-- A transaction is handed out exactly if it is one of some sender. -/
theorem mem_all_iff {groups : BySender} {tx : Transaction} :
    tx ∈ groups.all ↔ ∃ sender, tx ∈ groups.of sender := by
  rw [BySender.all, List.mem_flatMap]
  constructor
  · intro hall
    obtain ⟨⟨sender, txs⟩, hgroup, htx⟩ := hall
    refine ⟨sender, ?_⟩
    rwa [of_eq_of_mem hgroup]
  · intro hof
    obtain ⟨sender, htx⟩ := hof
    rw [BySender.of] at htx
    cases hgroup : groups.get? sender with
    | none => rw [hgroup] at htx; cases htx
    | some txs =>
      rw [hgroup] at htx
      exact ⟨(sender, txs), OrderedMap.get?_eq_some_iff.mp hgroup, htx⟩

/-- A drain adds the transactions of the entries whose sender is found. -/
theorem drain_eq_foldl (pool : Pool ρ) :
    pool.drain.1 = (pool.attributed.1.filterMap fun attribution =>
        attribution.sender?.map (·, attribution.entry.transaction)).foldl
      (fun groups found => addTo groups found.1 found.2) .empty := by
  rw [drain_groups, groupBySender_eq, resolve_eq_askSenders]
  rfl

/-- A drain leaves the recovery as it is after the last question. -/
theorem drain_recovery (pool : Pool ρ) : pool.drain.2.recovery = pool.attributed.2 := by
  have hrecovery : pool.drain.2.recovery =
      (groupBySender pool.config.senderPolicy pool.registry.entries .empty pool.recovery).2 := rfl
  rw [hrecovery, groupBySender_eq, resolve_eq_askSenders]
  rfl

/-- The transactions for a sender are those of the entries for which that sender is found, in order
of arrival. -/
theorem of_drain (pool : Pool ρ) (sender : Address) :
    pool.drain.1.of sender = (pool.attributed.1.filter (·.sender? = some sender)).map
      (·.entry.transaction) := by
  have hempty : BySender.of .empty sender = [] := rfl
  rw [drain_eq_foldl, of_foldl_addTo, hempty, List.nil_append]
  induction pool.attributed.1 with
  | nil => rfl
  | cons attribution attributions ih =>
    rw [List.filterMap_cons, List.filter_cons]
    cases hsender : attribution.sender? with
    | none => simpa using ih
    | some found =>
      by_cases hsame : found = sender
      · simpa [hsame] using ih
      · simpa [hsame] using ih

/-- A steady recovery finds the sender of each pending entry as if it were the only one. -/
theorem attributed_of_steady {pool : Pool ρ} (hsteady : Steady pool.recovery) :
    pool.attributed = (pool.registry.entries.map fun entry =>
      ⟨entry, senderOf? pool.config.senderPolicy pool.recovery entry.transaction⟩,
      pool.recovery) :=
  askSenders_of_steady hsteady _ _

/-- With a steady recovery a drain hands out for a sender the pending transactions of that sender,
in order of arrival. -/
theorem of_drain_of_steady {pool : Pool ρ} (hsteady : Steady pool.recovery) (sender : Address) :
    pool.drain.1.of sender =
      (pool.registry.entries.map (·.transaction)).filter
        (senderOf? pool.config.senderPolicy pool.recovery · = some sender) := by
  rw [of_drain, attributed_of_steady hsteady, List.filter_map, List.map_map, List.filter_map]
  rfl

/-- With a steady recovery a drain hands out the pending transactions whose sender is found. -/
theorem mem_all_drain_of_steady {pool : Pool ρ} (hsteady : Steady pool.recovery)
    {tx : Transaction} :
    tx ∈ pool.drain.1.all ↔ ∃ entry ∈ pool.registry.entries, entry.transaction = tx ∧
      (senderOf? pool.config.senderPolicy pool.recovery tx).isSome = true := by
  simp only [mem_all_iff, of_drain_of_steady hsteady, List.mem_filter, List.mem_map,
    decide_eq_true_eq, Option.isSome_iff_exists]
  constructor
  · intro hdrained
    obtain ⟨sender, ⟨entry, hentry, rfl⟩, hsender⟩ := hdrained
    exact ⟨entry, hentry, rfl, sender, hsender⟩
  · intro hpending
    obtain ⟨entry, hentry, rfl, sender, hsender⟩ := hpending
    exact ⟨sender, ⟨entry, hentry, rfl⟩, hsender⟩

/-- A drain keeps a steady recovery. -/
theorem drain_recovery_of_steady {pool : Pool ρ} (hsteady : Steady pool.recovery) :
    pool.drain.2.recovery = pool.recovery := by
  rw [drain_recovery, attributed_of_steady hsteady]

end ControlPool.Pool
