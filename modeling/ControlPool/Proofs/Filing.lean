import ControlPool.Proofs.Run

/-!
# What a run files

A step that offers a transaction files its admitted messages, and what is filed after the last drain
is what is pending. The entries of a filing stand behind those of earlier steps and before those of
later ones, and no identity is filed twice.
-/

namespace ControlPool.Pool

variable {ρ : Type} [SignerRecovery ρ]

/-- A message that a run files after its last drain, with the step that offers its transaction. -/
structure Filing (pool : Pool ρ) (steps : List (Step ρ)) extends Submission steps where
  undrained : .drain ∉ since
  message : Message
  filed : message ∈ (pool.after before).filed transaction

namespace Filing

variable {pool : Pool ρ} {steps : List (Step ρ)}

/-- Whether a filing is that of an entry. -/
def Of (filing : Filing pool steps) (entry : Arrival) : Prop :=
  filing.transaction = entry.transaction ∧ filing.message.identity = entry.identity

/-- A filing stands when the run goes on without a drain. -/
def extend (filing : Filing pool steps) {last : Step ρ} (hlast : last ≠ .drain) :
    Filing pool (steps ++ [last]) where
  before := filing.before
  step := filing.step
  since := filing.since ++ [last]
  steps_eq := by
    have hsteps := congrArg (· ++ [last]) filing.steps_eq
    simpa only [List.append_assoc, List.cons_append] using hsteps
  undrained := by
    rw [List.mem_append, List.mem_singleton]
    exact not_or.mpr ⟨filing.undrained, Ne.symm hlast⟩
  transaction := filing.transaction
  offers := filing.offers
  message := filing.message
  filed := filing.filed

/-- A filing in the later part of a run is one in the whole run. -/
def precede {earlier later : List (Step ρ)} (filing : Filing (pool.after earlier) later)
    (hsteps : steps = earlier ++ later) : Filing pool steps where
  before := earlier ++ filing.before
  step := filing.step
  since := filing.since
  steps_eq := by
    rw [hsteps, List.append_assoc]
    exact congrArg (earlier ++ ·) filing.steps_eq
  undrained := filing.undrained
  transaction := filing.transaction
  offers := filing.offers
  message := filing.message
  filed := by
    rw [after_append]
    exact filing.filed

end Filing

/-- The entries that a run without a drain puts behind those that were there are filed in it. -/
theorem exists_later (pool : Pool ρ) {steps : List (Step ρ)} (hdrain : .drain ∉ steps) :
    ∃ later, (pool.after steps).registry.entries = pool.registry.entries ++ later ∧
      ∀ entry ∈ later, ∃ filing : Filing pool steps, filing.Of entry := by
  induction steps using List.reverseRecOn with
  | nil => exact ⟨[], (List.append_nil _).symm, fun entry hentry => nomatch hentry⟩
  | append_singleton steps last ih =>
    rw [List.mem_append, List.mem_singleton, not_or] at hdrain
    have hlast : last ≠ .drain := Ne.symm hdrain.2
    obtain ⟨later, hentries, hfilings⟩ := ih hdrain.1
    -- Whatever the last step does, what was filed before it stays filed.
    have hkept (entry : Arrival) (hentry : entry ∈ later) :
        ∃ filing : Filing pool (steps ++ [last]), filing.Of entry := by
      obtain ⟨filing, hof⟩ := hfilings entry hentry
      exact ⟨filing.extend hlast, hof⟩
    rw [after_append, after_cons, after_nil]
    cases hoffer : last.offer? with
    | none =>
      rw [step_registry_of_no_offer _ hoffer hlast]
      exact ⟨later, hentries, hkept⟩
    | some tx =>
      rw [step_of_offer _ hoffer, insert_registry]
      refine ⟨later ++ Registry.arrivals tx (pool.after steps).registry.nextNumber
        ((pool.after steps).filed tx), ?_, ?_⟩
      · rw [← List.append_assoc, ← hentries]
      · intro entry hentry
        rcases List.mem_append.mp hentry with hentry | hentry
        · exact hkept entry hentry
        · obtain ⟨htx, message, hfiled, hidentity⟩ := Registry.exists_of_mem_arrivals hentry
          exact ⟨⟨⟨steps, last, [], rfl, tx, hoffer⟩, List.not_mem_nil, message, hfiled⟩,
            htx.symm, hidentity⟩

omit [SignerRecovery ρ] in
/-- A run with a drain has a part after the last drain. -/
theorem exists_last_drain {steps : List (Step ρ)} (h : .drain ∈ steps) :
    ∃ earlier later, steps = (earlier ++ [.drain]) ++ later ∧ .drain ∉ later := by
  obtain ⟨later, earlier, hreverse, hlater⟩ :=
    List.eq_append_cons_of_mem (List.mem_reverse.mpr h)
  refine ⟨earlier.reverse, later.reverse, ?_, ?_⟩
  · have hsteps := congrArg List.reverse hreverse
    simpa using hsteps
  · rwa [List.mem_reverse]

/-- Every entry that is pending after a run of a pool without entries was filed in the run. -/
theorem exists_filing {pool : Pool ρ} (hempty : pool.registry.entries = [])
    {steps : List (Step ρ)} {entry : Arrival}
    (h : entry ∈ (pool.after steps).registry.entries) :
    ∃ filing : Filing pool steps, filing.Of entry := by
  by_cases hdrain : .drain ∈ steps
  · obtain ⟨earlier, later, hsteps, hlater⟩ := exists_last_drain hdrain
    obtain ⟨filed, hentries, hfilings⟩ := exists_later (pool.after (earlier ++ [.drain])) hlater
    rw [hsteps, after_append, hentries, after_append, after_cons, after_nil, step_drain_entries]
      at h
    obtain ⟨filing, hof⟩ := hfilings entry h
    exact ⟨filing.precede hsteps, hof⟩
  · obtain ⟨filed, hentries, hfilings⟩ := exists_later pool hdrain
    rw [hentries, hempty] at h
    exact hfilings entry h

namespace Filing

variable {pool : Pool ρ} {steps : List (Step ρ)}

/-- The steps up to a filing and those since are the run. -/
theorem steps_eq_append (filing : Filing pool steps) :
    steps = (filing.before ++ [filing.step]) ++ filing.since := by
  rw [List.append_assoc, List.singleton_append]
  exact filing.steps_eq

/-- The registry right after the filing. -/
theorem after_step (filing : Filing pool steps) :
    (pool.after (filing.before ++ [filing.step])).registry.entries =
      (pool.after filing.before).registry.entries ++
        Registry.arrivals filing.transaction (pool.after filing.before).registry.nextNumber
          ((pool.after filing.before).filed filing.transaction) := by
  rw [after_append, after_cons, after_nil, step_of_offer _ filing.offers, insert_registry]

/-- The entries of an insertion stand behind those that were pending before it, and behind them
stand only entries of later filings. -/
theorem entries_eq (filing : Filing pool steps) :
    ∃ later, (pool.after steps).registry.entries =
        (pool.after filing.before).registry.entries ++
          (Registry.arrivals filing.transaction (pool.after filing.before).registry.nextNumber
            ((pool.after filing.before).filed filing.transaction) ++ later) ∧
      ∀ entry ∈ later, ∃ other : Filing pool steps,
        filing.Earlier other.toSubmission ∧ other.Of entry := by
  obtain ⟨later, hentries, hfilings⟩ :=
    exists_later (pool.after (filing.before ++ [filing.step])) filing.undrained
  refine ⟨later, ?_, ?_⟩
  · rw [← List.append_assoc, ← filing.after_step, ← hentries, ← after_append,
      ← filing.steps_eq_append]
  · intro entry hentry
    obtain ⟨other, hof⟩ := hfilings entry hentry
    refine ⟨other.precede filing.steps_eq_append, ?_, hof⟩
    simp only [Submission.Earlier, precede, List.length_append, List.length_singleton]
    omega

/-- Of the message of a filing an entry is pending. -/
theorem exists_entry (filing : Filing pool steps) :
    ∃ entry ∈ (pool.after steps).registry.entries, filing.Of entry := by
  obtain ⟨later, hentries, -⟩ := filing.entries_eq
  have hidentity : filing.message.identity ∈ (Registry.arrivals filing.transaction
      (pool.after filing.before).registry.nextNumber
      ((pool.after filing.before).filed filing.transaction)).map (·.identity) := by
    rw [Registry.map_identity_arrivals]
    exact List.mem_map_of_mem filing.filed
  obtain ⟨entry, hentry, hsame⟩ := List.mem_map.mp hidentity
  refine ⟨entry, ?_, (Registry.exists_of_mem_arrivals hentry).1.symm, hsame.symm⟩
  rw [hentries]
  exact List.mem_append_right _ (List.mem_append_left _ hentry)

/-- The identity of a filed message is pending. -/
theorem mem_identities (filing : Filing pool steps) :
    filing.message.identity ∈ (pool.after steps).registry.identities := by
  obtain ⟨entry, hentry, hof⟩ := filing.exists_entry
  rw [Registry.identities, List.mem_map]
  exact ⟨entry, hentry, hof.2.symm⟩

/-- Between an earlier filing and a later one there is no drain. -/
theorem exists_between {first second : Filing pool steps} (h : first.Earlier second.toSubmission) :
    ∃ between, second.before = first.before ++ first.step :: between ∧ .drain ∉ between := by
  obtain ⟨between, hbefore, hsince⟩ := Submission.exists_between h
  have hundrained := first.undrained
  rw [hsince, List.mem_append, not_or] at hundrained
  exact ⟨between, hbefore, hundrained.1⟩

/-- What was filed earlier is pending at a later filing. -/
theorem mem_identities_of_earlier {first second : Filing pool steps}
    (h : first.Earlier second.toSubmission) :
    first.message.identity ∈ (pool.after second.before).registry.identities := by
  obtain ⟨between, hbefore, hbetween⟩ := exists_between h
  let part : Filing pool second.before :=
    ⟨⟨first.before, first.step, between, hbefore, first.transaction, first.offers⟩, hbetween,
      first.message, first.filed⟩
  exact part.mem_identities

/-- An earlier filing has another identity. -/
theorem identity_ne_of_earlier {first second : Filing pool steps}
    (h : first.Earlier second.toSubmission) :
    first.message.identity ≠ second.message.identity := by
  intro hsame
  apply Registry.identity_notMem_of_mem_newcomers second.filed
  rw [← hsame]
  exact mem_identities_of_earlier h

/-- No identity is filed for two messages. -/
theorem message_eq (first second : Filing pool steps)
    (h : first.message.identity = second.message.identity) : first.message = second.message := by
  rcases lt_trichotomy first.before.length second.before.length with hlt | hsame | hlt
  · exact absurd h (identity_ne_of_earlier hlt)
  · obtain ⟨hbefore, hrest⟩ :=
      List.append_inj (first.steps_eq.symm.trans second.steps_eq) hsame
    have hoffers := second.offers
    rw [← (List.cons.inj hrest).1, first.offers] at hoffers
    have hfiled := second.filed
    rw [← hbefore, ← Option.some.inj hoffers] at hfiled
    exact List.inj_on_of_nodup_map (Registry.nodup_newcomers _ _) first.filed hfiled h
  · exact absurd h.symm (identity_ne_of_earlier hlt)

end Filing

end ControlPool.Pool
