import ControlPool.Proofs.Drain

/-!
# What an insertion asks of the registry and the counters

Whether a transaction is heard, which of its messages are admitted and which key is refused depend
on the configuration, the surroundings and the recovery alone. The registry is asked only which of
the admitted messages are pending, and only the report depends on that. The counters are not asked
at all.
-/

namespace ControlPool

namespace Registry

/-- Which messages are new depends on which of their identities are pending. -/
theorem newcomers_congr {pending others : List Hash} {messages : List Message}
    (h : ∀ message ∈ messages, message.identity ∈ pending ↔ message.identity ∈ others) :
    newcomers pending messages = newcomers others messages := by
  induction messages generalizing pending others with
  | nil => rfl
  | cons message messages ih =>
    obtain ⟨hmessage, hmessages⟩ := List.forall_mem_cons.mp h
    by_cases hpending : message.identity ∈ pending
    · rw [newcomers_cons_of_mem messages hpending,
        newcomers_cons_of_mem messages (hmessage.mp hpending), ih hmessages]
    · rw [newcomers_cons_of_notMem messages hpending,
        newcomers_cons_of_notMem messages (mt hmessage.mpr hpending), ih]
      intro later hlater
      rw [List.mem_append, List.mem_append, hmessages later hlater]

/-- What is reported depends on which of the identities are pending. -/
theorem insertAll_report_congr {registry other : Registry} (tx : Transaction)
    {messages : List Message}
    (h : ∀ message ∈ messages,
      message.identity ∈ registry.identities ↔ message.identity ∈ other.identities) :
    (registry.insertAll tx messages).1 = (other.insertAll tx messages).1 := by
  induction messages generalizing registry other with
  | nil => rfl
  | cons message messages ih =>
    obtain ⟨hmessage, hmessages⟩ := List.forall_mem_cons.mp h
    by_cases hpending : message.identity ∈ registry.identities
    · simp only [insertAll, insert_of_mem tx hpending, insert_of_mem tx (hmessage.mp hpending),
        ih hmessages]
    · have hgrown : ∀ later ∈ messages,
          later.identity ∈ (registry.push message.identity tx).identities ↔
            later.identity ∈ (other.push message.identity tx).identities := by
        intro later hlater
        rw [identities_push, identities_push, List.mem_append, List.mem_append,
          hmessages later hlater]
      simp only [insertAll, insert_of_notMem tx hpending,
        insert_of_notMem tx (mt hmessage.mpr hpending), ih hgrown]

/-- A new message is one whose identity is not pending. -/
theorem mem_map_identity_newcomers_iff {pending : List Hash} {messages : List Message}
    {identity : Hash} :
    identity ∈ (newcomers pending messages).map Message.identity ↔
      identity ∉ pending ∧ identity ∈ messages.map Message.identity := by
  induction messages generalizing pending with
  | nil => simp [newcomers]
  | cons message messages ih =>
    by_cases hpending : message.identity ∈ pending
    · rw [newcomers_cons_of_mem messages hpending, ih, List.map_cons, List.mem_cons]
      refine and_congr_right fun hnew => (or_iff_right ?_).symm
      rintro rfl
      exact hnew hpending
    · rw [newcomers_cons_of_notMem messages hpending, List.map_cons, List.map_cons, List.mem_cons,
        List.mem_cons, ih, List.mem_append, List.mem_singleton]
      constructor
      · rintro (rfl | ⟨hnew, hmem⟩)
        · exact ⟨hpending, .inl rfl⟩
        · exact ⟨fun h => hnew (.inl h), .inr hmem⟩
      · intro hlater
        obtain ⟨hnew, hmem⟩ := hlater
        by_cases hsame : identity = message.identity
        · exact .inl hsame
        · exact .inr ⟨not_or.mpr ⟨hnew, hsame⟩, hmem.resolve_left hsame⟩

/-- A report names the identity of each message once, as accepted or as a duplicate. -/
theorem insertAll_report_perm (registry : Registry) (tx : Transaction) (messages : List Message) :
    ((registry.insertAll tx messages).1.accepted ++
      (registry.insertAll tx messages).1.duplicates).Perm (messages.map Message.identity) := by
  induction messages generalizing registry with
  | nil => exact .nil
  | cons message messages ih =>
    by_cases hpending : message.identity ∈ registry.identities
    · simp only [insertAll, insert_of_mem tx hpending, List.map_cons]
      exact List.perm_middle.trans ((ih registry).cons _)
    · simp only [insertAll, insert_of_notMem tx hpending, List.map_cons, List.cons_append]
      exact (ih _).cons _

end Registry

namespace Pool

variable {ρ : Type}

/-- The pool with another registry and other counters. -/
def holding (pool : Pool ρ) (registry : Registry) (tally : Tally) : Pool ρ :=
  { pool with registry, tally }

variable [SignerRecovery ρ]

/-- A transaction that is not heard is turned away alike whatever is pending. -/
theorem insert_holding_of_no_hearing {pool : Pool ρ} {tx : Transaction}
    (h : pool.hearing? tx = none) (registry : Registry) (tally : Tally) :
    (pool.holding registry tally).insert tx =
      ((pool.insert tx).1, (pool.insert tx).2.holding registry tally) := by
  cases hbody : bodyOf pool.config.sizeLimit tx with
  | error failure => simp only [insert, holding, hbody]
  | ok payload =>
    simp only [insert, holding, hbody, insertPayload]
    rcases hfound : findSender pool.config.senderPolicy pool.recovery tx with
      ⟨failure | sender, recovery⟩
    · rfl
    · cases hhead : pool.surroundings.head with
      | error text => rfl
      | ok head =>
        rw [hearing?, hbody, hfound, hhead] at h
        cases h

/-- What is answered depends on which identities of admitted messages are pending. -/
theorem insert_answer_congr {pool : Pool ρ} {tx : Transaction} {registry : Registry}
    (h : ∀ message ∈ pool.admitted tx,
      message.identity ∈ registry.identities ↔ message.identity ∈ pool.registry.identities)
    (tally : Tally) : ((pool.holding registry tally).insert tx).1 = (pool.insert tx).1 := by
  cases hhearing : pool.hearing? tx with
  | none => rw [insert_holding_of_no_hearing hhearing]
  | some hearing =>
    have hheld : (pool.holding registry tally).hearing? tx = some hearing := hhearing
    rw [admitted, hhearing] at h
    rw [insert_answer_of_hearing hhearing, insert_answer_of_hearing hheld, holding,
      Registry.insertAll_report_congr tx h]

/-- What is filed depends on which identities of admitted messages are pending. -/
theorem filed_congr {pool : Pool ρ} {tx : Transaction} {registry : Registry}
    (h : ∀ message ∈ pool.admitted tx,
      message.identity ∈ registry.identities ↔ message.identity ∈ pool.registry.identities)
    (tally : Tally) : (pool.holding registry tally).filed tx = pool.filed tx :=
  Registry.newcomers_congr h

/-- An insertion puts the identities of the filed messages behind those that were pending. -/
theorem insert_identities (pool : Pool ρ) (tx : Transaction) :
    (pool.insert tx).2.registry.identities =
      pool.registry.identities ++ (pool.filed tx).map Message.identity := by
  rw [Registry.identities, insert_registry, List.map_append, Registry.map_identity_arrivals]
  rfl

/-- With a steady recovery an insertion changes the registry and the counters at most. -/
theorem insert_eq_holding {pool : Pool ρ} (hsteady : Steady pool.recovery) (tx : Transaction) :
    (pool.insert tx).2 = pool.holding (pool.insert tx).2.registry (pool.insert tx).2.tally := by
  have hconfig := pool.insert_config tx
  have hsurroundings := pool.insert_surroundings tx
  have hrecovery := insert_recovery_of_steady hsteady tx
  rw [holding, ← hconfig, ← hsurroundings, ← hrecovery]

/-- A steady recovery is steady after an insertion. -/
theorem steady_insert {pool : Pool ρ} (hsteady : Steady pool.recovery) (tx : Transaction) :
    Steady (pool.insert tx).2.recovery := by
  rw [insert_recovery_of_steady hsteady]
  exact hsteady

/-- With a steady recovery a drain changes the registry and the counters at most. -/
theorem drain_eq_holding {pool : Pool ρ} (hsteady : Steady pool.recovery) :
    pool.drain.2 = pool.holding pool.drain.2.registry pool.drain.2.tally := by
  have hrecovery := drain_recovery_of_steady hsteady
  rw [holding, ← hrecovery]
  rfl

end Pool

end ControlPool
