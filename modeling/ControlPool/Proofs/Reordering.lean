import ControlPool.Proofs.Frame
import ControlPool.Proofs.Inclusion
import Mathlib.Data.Finset.Card
import Mathlib.Data.Finset.Dedup
import Mathlib.Data.Finset.SDiff

/-!
# Transactions in another order

Which of two transactions with a message in common gets it filed depends on which comes first. What
does not depend on the order, as long as the head, the roles and the recovery stay as they are, is
which identities are pending in the end, how many they are, and for each transaction whether and why
it fails and which identities its report names.
-/

namespace ControlPool

/-- The identities that a report names, accepted or duplicate. -/
def FilingReport.identities (report : FilingReport) : Finset Hash :=
  (report.accepted ++ report.duplicates).toFinset

namespace Pool

variable {ρ : Type} [SignerRecovery ρ]

/-- The identities of the messages that are admitted of transactions. -/
def offeredIdentities (pool : Pool ρ) (txs : List Transaction) : Finset Hash :=
  ((txs.flatMap pool.admitted).map Message.identity).toFinset

/-- An identity is offered exactly if it is that of an admitted message of a transaction. -/
theorem mem_offeredIdentities_iff {pool : Pool ρ} {txs : List Transaction} {identity : Hash} :
    identity ∈ pool.offeredIdentities txs ↔
      ∃ tx ∈ txs, identity ∈ (pool.admitted tx).map Message.identity := by
  simp only [offeredIdentities, List.mem_toFinset, List.map_flatMap, List.mem_flatMap]

/-- The order of transactions does not matter to the identities that they offer. -/
theorem offeredIdentities_perm (pool : Pool ρ) {txs order : List Transaction}
    (hperm : order.Perm txs) : pool.offeredIdentities order = pool.offeredIdentities txs := by
  ext identity
  simp only [mem_offeredIdentities_iff, hperm.mem_iff]

/-- With a steady recovery insertions change the registry and the counters at most. -/
theorem exists_after_inserts_eq_holding {pool : Pool ρ} (hsteady : Steady pool.recovery)
    (txs : List Transaction) :
    ∃ registry tally, pool.after (txs.map .insert) = pool.holding registry tally := by
  induction txs generalizing pool with
  | nil => exact ⟨pool.registry, pool.tally, rfl⟩
  | cons tx txs ih =>
    obtain ⟨registry, tally, hafter⟩ := ih (steady_insert hsteady tx)
    refine ⟨registry, tally, ?_⟩
    rw [List.map_cons, after_cons]
    change (pool.insert tx).2.after _ = _
    rw [hafter, insert_eq_holding hsteady]
    rfl

/-- With a steady recovery insertions add, each once, the offered identities that are not pending
yet. -/
theorem exists_identities_after_inserts {pool : Pool ρ} (hsteady : Steady pool.recovery)
    (txs : List Transaction) :
    ∃ novel : List Hash,
      (pool.after (txs.map .insert)).registry.identities = pool.registry.identities ++ novel ∧
        novel.toFinset = pool.offeredIdentities txs \ pool.registry.identities.toFinset ∧
        novel.Nodup := by
  induction txs generalizing pool with
  | nil => exact ⟨[], (List.append_nil _).symm, by simp [offeredIdentities], .nil⟩
  | cons tx txs ih =>
    have hinsert := insert_eq_holding hsteady tx
    have hidentities := pool.insert_identities tx
    obtain ⟨novel, hafter, hnovel, hnodup⟩ := ih (steady_insert hsteady tx)
    have hoffered : (pool.insert tx).2.offeredIdentities txs = pool.offeredIdentities txs := by
      rw [hinsert]
      rfl
    rw [hoffered, hidentities] at hnovel
    have hmem {identity : Hash} : identity ∈ novel ↔ identity ∈ pool.offeredIdentities txs ∧
        identity ∉ pool.registry.identities ∧
          identity ∉ (pool.filed tx).map Message.identity := by
      rw [← List.mem_toFinset, hnovel, Finset.mem_sdiff, List.mem_toFinset, List.mem_append,
        not_or]
    refine ⟨(pool.filed tx).map Message.identity ++ novel, ?_, ?_, ?_⟩
    · rw [List.map_cons, after_cons, ← List.append_assoc, ← hidentities]
      exact hafter
    · ext identity
      rw [List.mem_toFinset, List.mem_append, hmem, filed,
        Registry.mem_map_identity_newcomers_iff, Finset.mem_sdiff, List.mem_toFinset,
        mem_offeredIdentities_iff, mem_offeredIdentities_iff, List.exists_mem_cons_iff]
      tauto
    · refine List.nodup_append'.mpr ⟨Registry.nodup_newcomers _ _, hnodup, ?_⟩
      intro identity hfiled hlater
      exact (hmem.mp hlater).2.2 hfiled

/-- Whatever is pending, a transaction fails alike or its report names the same identities. -/
theorem map_identities_insert_holding (pool : Pool ρ) (registry : Registry) (tally : Tally)
    (tx : Transaction) :
    ((pool.holding registry tally).insert tx).1.map FilingReport.identities =
      (pool.insert tx).1.map FilingReport.identities := by
  have hreport (held : Registry) (messages : List Message) :
      (held.insertAll tx messages).1.identities = (messages.map Message.identity).toFinset :=
    List.toFinset_eq_of_perm _ _ (held.insertAll_report_perm tx messages)
  cases hhearing : pool.hearing? tx with
  | none => rw [insert_holding_of_no_hearing hhearing]
  | some hearing =>
    have hheld : (pool.holding registry tally).hearing? tx = some hearing := hhearing
    rw [insert_answer_of_hearing hhearing, insert_answer_of_hearing hheld]
    cases hearing.judge.2 with
    | some failure => rfl
    | none => simp only [Except.map, hreport]

/-- In whatever order transactions are inserted, what is pending in the end is what was pending
before and the identities of the messages that are admitted of each, and each transaction fails
alike or gets a report of the same identities as if it were the only one. -/
theorem pending_of_any_order (pool : Pool ρ) (hsteady : Steady pool.recovery)
    (txs order : List Transaction) (hperm : order.Perm txs) (last : Pool ρ)
    (hlast : pool.after (order.map .insert) = last) :
    last.registry.identities.toFinset =
        pool.registry.identities.toFinset ∪ pool.offeredIdentities txs ∧
      last.pending = pool.pending +
        (pool.offeredIdentities txs \ pool.registry.identities.toFinset).card ∧
      ∀ before tx since, order = before ++ tx :: since →
        ((pool.after (before.map .insert)).insert tx).1.map FilingReport.identities =
          (pool.insert tx).1.map FilingReport.identities := by
  obtain ⟨novel, hidentities, hnovel, hnodup⟩ := exists_identities_after_inserts hsteady order
  rw [hlast] at hidentities
  rw [pool.offeredIdentities_perm hperm] at hnovel
  have hpending (held : Pool ρ) : held.pending = held.registry.identities.length :=
    (List.length_map _).symm
  refine ⟨?_, ?_, ?_⟩
  · rw [hidentities, List.toFinset_append, hnovel, Finset.union_sdiff_self_eq_union]
  · rw [hpending, hpending, hidentities, List.length_append, ← hnovel,
      List.toFinset_card_of_nodup hnodup]
  · intro before tx since _
    obtain ⟨registry, tally, hbefore⟩ := exists_after_inserts_eq_holding hsteady before
    rw [hbefore, map_identities_insert_holding]

namespace Sample

/-- The public key that two transactions carry is all that they offer. -/
theorem offeredIdentities_publicKey :
    (poolAfter []).offeredIdentities [announced, halfRefused] =
      {messageIdentity .publicKey 2 validator} := by
  have hadmitted : [announced, halfRefused].flatMap (poolAfter []).admitted =
      [⟨.publicKey, 2, validator, [1]⟩, ⟨.publicKey, 2, validator, [1]⟩] := by decide +kernel
  simp [offeredIdentities, hadmitted, Message.identity]

end Sample

/-- Whichever of the two comes first, the public key is pending once, and the transaction with a
refused key fails as if it were the only one. -/
theorem publicKey_of_any_order :
    (Sample.poolAfter [.insert Sample.announced, .insert Sample.halfRefused]).pending = 1 ∧
      (Sample.poolAfter [.insert Sample.halfRefused, .insert Sample.announced]).pending = 1 ∧
      ((Sample.poolAfter [.insert Sample.announced]).insert Sample.halfRefused).1.map
          FilingReport.identities = .error (.rejected (.outsideWindow 150 (some 200))) := by
  have hany := pending_of_any_order (Sample.poolAfter []) Sample.table.steady
    [Sample.announced, Sample.halfRefused]
  have hnothing : (Sample.poolAfter []).registry.identities.toFinset = ∅ := rfl
  have hpending (order : List Transaction)
      (hperm : order.Perm [Sample.announced, Sample.halfRefused]) :
      ((Sample.poolAfter []).after (order.map .insert)).pending = 1 := by
    rw [(hany order hperm _ rfl).2.1, Sample.offeredIdentities_publicKey, hnothing,
      Finset.sdiff_empty, Finset.card_singleton]
    rfl
  refine ⟨hpending [Sample.announced, Sample.halfRefused] (.refl _),
    hpending [Sample.halfRefused, Sample.announced] (.swap _ _ _), ?_⟩
  have hverdict := (hany _ (.refl _) _ rfl).2.2 [Sample.announced] Sample.halfRefused [] rfl
  exact hverdict.trans (by decide +kernel)

end Pool

end ControlPool
