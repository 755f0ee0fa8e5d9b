import ControlPool.Proofs.Noninterference
import Mathlib.Data.List.Sort

/-!
# The order of senders in a block does not matter

A state keeps the last payload of each kind and sender, and only transactions of one signer write
under one sender. If the recovery is steady, transactions of different signers can therefore change
places, and so can those that cannot be read, which are only counted. The states are equal as
ordered maps, so they have the same bytes. A drain hands transactions out by sender, and where the
sender is the signer, a block may list the senders in any order.
-/

namespace ControlPool

namespace OrderedMap

variable {κ α : Type} [Ord κ] [Std.TransOrd κ] [Std.LawfulEqOrd κ] [DecidableEq κ]

/-- Maps in which every key has the same value are equal. -/
theorem ext_get? {map other : OrderedMap κ α} (h : ∀ key, map.get? key = other.get? key) :
    map = other := by
  have hmem (entry : κ × α) : entry ∈ map.entries ↔ entry ∈ other.entries := by
    rw [← get?_eq_some_iff, ← get?_eq_some_iff, h]
  have hperm := (List.perm_ext_iff_of_nodup map.nodup_keys.of_map other.nodup_keys.of_map).mpr
    hmem
  apply OrderedMap.ext
  refine hperm.eq_of_pairwise (fun first second _ _ hbelow habove => ?_) map.sorted other.sorted
  have hself := Std.TransCmp.lt_trans hbelow habove
  rw [Std.ReflOrd.compare_self] at hself
  cases hself

end OrderedMap

namespace StateMap

/-- States with all buckets are equal if they hold the same payloads. -/
theorem ext_payload? {state other : StateMap} (hstate : ∀ kind, (state.bucket? kind).isSome = true)
    (hother : ∀ kind, (other.bucket? kind).isSome = true)
    (h : ∀ kind sender, state.payload? kind sender = other.payload? kind sender) :
    state = other := by
  apply OrderedMap.ext_get?
  intro kind
  obtain ⟨bucket, hbucket⟩ := Option.isSome_iff_exists.mp (hstate kind)
  obtain ⟨bucket', hbucket'⟩ := Option.isSome_iff_exists.mp (hother kind)
  have hsame : bucket = bucket' := by
    apply OrderedMap.ext_get?
    intro sender
    have hpayload := h kind sender
    rw [payload?, payload?, hbucket, hbucket'] at hpayload
    exact hpayload
  rw [bucket?] at hbucket hbucket'
  rw [hbucket, hbucket', hsame]

end StateMap

variable {ρ : Type} [SignerRecovery ρ]

/-- The transactions of a signer. -/
def signedBy (recovery : ρ) (sender : Address) (txs : List Transaction) : List Transaction :=
  txs.filter (signer? recovery · = some sender)

/-- Whether a transaction is marked and is read as one of a sender. -/
def Transaction.isReadAs (recovery : ρ) (sender : Address) (tx : Transaction) : Bool :=
  tx.isControl && (tx.readingOf recovery).any (·.1 = sender)

/-- The transactions that are read as those of a sender. -/
def readAs (recovery : ρ) (sender : Address) (txs : List Transaction) : List Transaction :=
  txs.filter (·.isReadAs recovery sender)

/-- A transaction is read as one of its signer. -/
theorem Transaction.signer?_of_isReadAs {recovery : ρ} {sender : Address} {tx : Transaction}
    (h : tx.isReadAs recovery sender = true) : signer? recovery tx = some sender := by
  rw [isReadAs, Bool.and_eq_true, Option.any_eq_true] at h
  obtain ⟨-, ⟨signer, payload⟩, hreading, hsigner⟩ := h
  rw [readingOf, Option.bind_eq_some_iff] at hreading
  obtain ⟨payload', -, hsigned⟩ := hreading
  obtain ⟨signer', hsigned, heq⟩ := Option.map_eq_some_iff.mp hsigned
  have hsame : signer' = sender := (congrArg Prod.fst heq).trans (of_decide_eq_true hsigner)
  rw [hsigned, hsame]

/-- The transactions that are read as those of a sender are among those of that signer. -/
theorem filter_signedBy (recovery : ρ) (sender : Address) (txs : List Transaction) :
    (signedBy recovery sender txs).filter (·.isReadAs recovery sender) =
      readAs recovery sender txs := by
  rw [signedBy, readAs, List.filter_filter]
  apply List.filter_congr
  intro tx _
  cases hread : tx.isReadAs recovery sender with
  | false => rfl
  | true => rw [Bool.true_and, decide_eq_true (Transaction.signer?_of_isReadAs hread)]

/-- Only a transaction that is read as one of a sender leaves payloads under that sender. -/
theorem Transaction.payloadsAt_of_not_isReadAs {recovery : ρ} {sender : Address}
    {tx : Transaction} (h : tx.isReadAs recovery sender = false) (kind : Kind) :
    tx.payloadsAt recovery kind sender = [] := by
  rw [List.eq_nil_iff_forall_not_mem]
  intro payload hpayload
  obtain ⟨hcontrol, body, hbody, hsigned, -⟩ :=
    mem_stateEntries_iff.mp (mem_payloadsAt_iff.mp hpayload)
  rw [isReadAs, readingOf, hcontrol, hbody, hsigned] at h
  simp at h

/-- Transactions leave the same state if those that are read as one of a sender are the same for
every sender. -/
theorem fileAll_stateEntries_congr {recovery : ρ} {first second : List Transaction}
    (h : ∀ sender, readAs recovery sender first = readAs recovery sender second) :
    StateMap.fresh.fileAll (stateEntries recovery first) =
      StateMap.fresh.fileAll (stateEntries recovery second) := by
  apply StateMap.ext_payload? (StateMap.isSome_bucket?_fileAll_fresh _)
    (StateMap.isSome_bucket?_fileAll_fresh _)
  intro kind sender
  have hread (txs : List Transaction) :
      (readAs recovery sender txs).flatMap (·.payloadsAt recovery kind sender) =
        txs.flatMap (·.payloadsAt recovery kind sender) :=
    flatMap_payloadsAt_filter
      (fun _ hother => Transaction.payloadsAt_of_not_isReadAs hother kind) txs
  rw [payload?_fileAll_stateEntries, payload?_fileAll_stateEntries, ← hread, h, hread]

/-- Blocks of one height yield the same if they hold the same transactions and those that are read
as one of a sender stand in the same order, for every sender. -/
theorem Block.extract_congr {first second : Block} {recovery : ρ} (hsteady : Steady recovery)
    (schedule : Schedule) (hheight : first.header.number = second.header.number)
    (hperm : first.transactions.Perm second.transactions)
    (h : ∀ sender, readAs recovery sender first.transactions =
      readAs recovery sender second.transactions) :
    (first.extract schedule recovery).1 = (second.extract schedule recovery).1 := by
  by_cases hboundary : schedule.isBoundary first.header.number = true
  · have hreadings := (hperm.filter (·.isControl)).map (·.readingOf recovery)
    have hleft : (stateEntries recovery first.transactions).Perm
        (stateEntries recovery second.transactions) := hperm.flatMap_right _
    have hentries : stateEntries recovery first.transactions = [] ↔
        stateEntries recovery second.transactions = [] := by
      rw [← List.length_eq_zero_iff, hleft.length_eq, List.length_eq_zero_iff]
    rw [first.extract_of_steady hsteady hboundary,
      second.extract_of_steady hsteady (hheight ▸ hboundary), hheight,
      fileAll_stateEntries_congr h, hreadings.countP_eq,
      (hreadings.flatMap_right Reading.strays).length_eq]
    simp only [hentries]
  · rw [Block.extract, Block.extract, if_neg hboundary, if_neg (hheight ▸ hboundary)]

namespace Pool

/-- All lists of what a drain hands out have the same transactions. -/
theorem BySender.Lists.perm {groups : BySender} {first second : List Transaction}
    (hfirst : groups.Lists first) (hsecond : groups.Lists second) : first.Perm second := by
  obtain ⟨order, horder, rfl⟩ := hfirst
  obtain ⟨other, hother, rfl⟩ := hsecond
  exact (horder.trans hother.symm).flatMap_right _

/-- Where senders are recovered from signatures, a list of what a drain hands out has for each
signer the transactions of that sender. -/
theorem signedBy_of_lists {pool : Pool ρ} (hsteady : Steady pool.recovery)
    (hpolicy : pool.config.senderPolicy = .recoveredOnly) {txs : List Transaction}
    (hlists : pool.drain.1.Lists txs) (sender : Address) :
    signedBy pool.recovery sender txs = pool.drain.1.of sender := by
  -- A filter yields nothing for other signers, so only the group of this one counts.
  have hsigned (txs : List Transaction) : signedBy pool.recovery sender txs = txs.flatMap
      fun tx => (Option.guard (signer? pool.recovery · = some sender) tx).toList := by
    rw [signedBy, ← List.filterMap_eq_filter, List.filterMap_eq_flatMap_toList]
  rw [hsigned, flatMap_of_lists hlists sender, ← hsigned]
  · simp only [signedBy, of_drain_of_steady hsteady, hpolicy, senderOf?_recoveredOnly,
      List.filter_filter, Bool.and_self]
  · intro other hother tx htx
    rw [of_drain_of_steady hsteady, hpolicy, List.mem_filter, decide_eq_true_eq,
      senderOf?_recoveredOnly] at htx
    simp [htx.2, hother]

end Pool

/-- Under a steady recovery two blocks of one height with the same transactions, in which those of
each signer stand in the same order, yield the same: the same outcome and counts, and a state with
the same bytes. So do two blocks of one height that list what a drain hands out, with the senders
in any order, if the pool takes the signers as senders. -/
theorem extract_independent_of_interleaving {recovery : ρ} (hsteady : Steady recovery)
    (schedule : Schedule) (first second : Block)
    (hheight : first.header.number = second.header.number) :
    (first.transactions.Perm second.transactions →
      (∀ sender, signedBy recovery sender first.transactions =
        signedBy recovery sender second.transactions) →
      (first.extract schedule recovery).1 = (second.extract schedule recovery).1) ∧
    ∀ pool : Pool ρ, pool.recovery = recovery → pool.config.senderPolicy = .recoveredOnly →
      pool.drain.1.Lists first.transactions → pool.drain.1.Lists second.transactions →
      (first.extract schedule recovery).1 = (second.extract schedule recovery).1 := by
  have hcongr (hperm : first.transactions.Perm second.transactions)
      (h : ∀ sender, signedBy recovery sender first.transactions =
        signedBy recovery sender second.transactions) :
      (first.extract schedule recovery).1 = (second.extract schedule recovery).1 := by
    apply Block.extract_congr hsteady schedule hheight hperm
    intro sender
    rw [← filter_signedBy, h, filter_signedBy]
  refine ⟨hcongr, ?_⟩
  intro pool hrecovery hpolicy hfirst hsecond
  subst hrecovery
  apply hcongr (hfirst.perm hsecond)
  intro sender
  rw [Pool.signedBy_of_lists hsteady hpolicy hfirst, Pool.signedBy_of_lists hsteady hpolicy hsecond]

namespace Pool.Sample

/-- A block at a boundary. -/
def blockOf (txs : List Transaction) : Block := ⟨⟨200, default, default⟩, txs⟩

/-- Each of the two validators signed one of the transactions, so the order of one signer's is the
same. -/
theorem signedBy_swap (sender : Address) :
    signedBy shared.recovery sender [announced, neighbouring] =
      signedBy shared.recovery sender [neighbouring, announced] := by
  have hannounced : signer? shared.recovery announced = some validator := by decide +kernel
  have hneighbouring : signer? shared.recovery neighbouring = some neighbour := by decide +kernel
  have hne : validator ≠ neighbour := by decide
  by_cases hsender : validator = sender
  · simp [signedBy, hannounced, hneighbouring, ← hsender, hne.symm]
  · simp [signedBy, List.filter_cons, hannounced, hneighbouring, hsender]

/-- The pool after both validators' transactions were inserted. -/
def sharedAfter : Pool SignerTable := shared.after [.insert announced, .insert neighbouring]

/-- The recovery is as it was. -/
theorem sharedAfter_recovery : sharedAfter.recovery = shared.recovery :=
  after_recovery_of_steady (table.add [8] neighbour).steady (by simp [KeepsRecovery])

/-- Senders are taken from signatures. -/
theorem sharedAfter_policy : sharedAfter.config.senderPolicy = .recoveredOnly := by
  rw [sharedAfter, after_config]
  rfl

end Pool.Sample

/-- The transactions of two validators yield the same in either order, and so does what a drain
hands out, with the senders in their order and in reverse. -/
theorem extract_of_swapped_validators :
    ((Pool.Sample.blockOf [Pool.Sample.announced, Pool.Sample.neighbouring]).extract
        Pool.Sample.config.schedule Pool.Sample.shared.recovery).1 =
      ((Pool.Sample.blockOf [Pool.Sample.neighbouring, Pool.Sample.announced]).extract
        Pool.Sample.config.schedule Pool.Sample.shared.recovery).1 ∧
    ((Pool.Sample.blockOf Pool.Sample.sharedAfter.drain.1.all).extract
        Pool.Sample.config.schedule Pool.Sample.shared.recovery).1 =
      ((Pool.Sample.blockOf
          (Pool.Sample.sharedAfter.drain.1.entries.reverse.flatMap (·.2))).extract
        Pool.Sample.config.schedule Pool.Sample.shared.recovery).1 := by
  have hsteady : Steady Pool.Sample.shared.recovery :=
    (Pool.Sample.table.add [8] Pool.Sample.neighbour).steady
  have hheight (txs others : List Transaction) :
      (Pool.Sample.blockOf txs).header.number = (Pool.Sample.blockOf others).header.number := rfl
  have hall (groups : Pool.BySender) :
      groups.Lists (Pool.Sample.blockOf groups.all).transactions := ⟨_, .refl _, rfl⟩
  have hreverse (groups : Pool.BySender) :
      groups.Lists (Pool.Sample.blockOf (groups.entries.reverse.flatMap (·.2))).transactions :=
    ⟨_, List.reverse_perm _, rfl⟩
  constructor
  · exact (extract_independent_of_interleaving hsteady Pool.Sample.config.schedule
      (Pool.Sample.blockOf [Pool.Sample.announced, Pool.Sample.neighbouring])
      (Pool.Sample.blockOf [Pool.Sample.neighbouring, Pool.Sample.announced]) (hheight _ _)).1
      (.swap _ _ _) Pool.Sample.signedBy_swap
  · have hdrained := (extract_independent_of_interleaving hsteady Pool.Sample.config.schedule
      (Pool.Sample.blockOf Pool.Sample.sharedAfter.drain.1.all)
      (Pool.Sample.blockOf (Pool.Sample.sharedAfter.drain.1.entries.reverse.flatMap (·.2)))
      (hheight _ _)).2
    exact hdrained Pool.Sample.sharedAfter Pool.Sample.sharedAfter_recovery
      Pool.Sample.sharedAfter_policy (hall Pool.Sample.sharedAfter.drain.1)
      (hreverse Pool.Sample.sharedAfter.drain.1)

end ControlPool
