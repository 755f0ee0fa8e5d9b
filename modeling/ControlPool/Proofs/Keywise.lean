import ControlPool.Proofs.Inclusion

/-!
# Insertion key by key

The plain way to insert a transaction decides on a key, files it at once and goes on with the next
key, up to the first that is refused. The pool decides on all keys before it files any, and answers
with a failure only after it has filed the keys before it. Counters aside both ways leave the same
pool and give the same answer, because no decision asks the registry. What a failure leaves behind
depends on the stage at which it arises.
-/

namespace ControlPool

/-- Decides on keys one after the other. An admitted key is filed at once unless its identity is
pending, and the report goes on; a refused one ends the walk. -/
def Hearing.walk (hearing : Hearing) (tx : Transaction) :
    List (String × List UInt8) → Registry → FilingReport → Except PoolError FilingReport × Registry
  | [], registry, report => (.ok report, registry)
  | (key, _) :: entries, registry, report =>
    match decideKey hearing.schedule hearing.roles hearing.sender key hearing.head with
    | .error failure => (.error failure, registry)
    | .ok admission =>
      let identity := messageIdentity admission.kind admission.epoch hearing.sender
      if registry.contains identity then
        walk hearing tx entries registry
          { report with duplicates := report.duplicates ++ [identity] }
      else
        walk hearing tx entries (registry.push identity tx)
          { report with accepted := report.accepted ++ [identity] }

/-- The walk files what is admitted in front of the first refused key, and ends with its failure or
with the report. -/
theorem Hearing.walk_eq (hearing : Hearing) (tx : Transaction)
    (entries : List (String × List UInt8)) (registry : Registry) (report : FilingReport) :
    hearing.walk tx entries registry report =
      (match (hearing.judgeEntries entries).2 with
        | some failure => .error failure
        | none =>
          let filed := (registry.insertAll tx (hearing.judgeEntries entries).1).1
          .ok ⟨report.accepted ++ filed.accepted, report.duplicates ++ filed.duplicates⟩,
        (registry.insertAll tx (hearing.judgeEntries entries).1).2) := by
  -- No decision asks the registry, so the judgement is the same for every registry on the way.
  induction entries generalizing registry report with
  | nil => simp [walk, judgeEntries, Pool.judgeKeys, Registry.insertAll]
  | cons entry entries ih =>
    obtain ⟨key, value⟩ := entry
    cases hkey : hearing.decide key with
    | error failure =>
      rw [hearing.judgeEntries_cons_of_refused hkey]
      rw [decide] at hkey
      simp only [walk, hkey, Registry.insertAll]
    | ok admission =>
      rw [hearing.judgeEntries_cons_of_admitted hkey]
      rw [decide] at hkey
      simp only [walk, hkey, Registry.insertAll, Message.identity]
      split
      · next hpending =>
        rw [ih, Registry.insert_of_mem tx (Registry.contains_iff.mp hpending)]
        simp only [List.append_assoc, List.singleton_append]
      · next hnew =>
        rw [ih, Registry.insert_of_notMem tx (mt Registry.contains_iff.mpr hnew)]
        simp only [List.append_assoc, List.singleton_append]

namespace Pool

variable {ρ : Type} [SignerRecovery ρ]

/-- Inserts a transaction key by key. The size, the mark and the body are checked in this order,
then the sender is found and the head is read, both once, and then the keys are walked through.
Nothing is counted. -/
def insertKeywise (pool : Pool ρ) (tx : Transaction) : Except PoolError FilingReport × Pool ρ :=
  if pool.config.sizeLimit.toNat < tx.encode.length then
    (.error (.tooLarge tx.encode.length pool.config.sizeLimit), pool)
  else if tx.marks.head? = some Transaction.controlMark then
    match tx.payload? with
    | none => (.error (.malformed .unreadable), pool)
    | some payload =>
      match findSender pool.config.senderPolicy pool.recovery tx with
      | (.error failure, recovery) => (.error failure, { pool with recovery })
      | (.ok sender, recovery) =>
        match pool.surroundings.head with
        | .error text => (.error (.headUnavailable text), { pool with recovery })
        | .ok head =>
          let hearing : Hearing :=
            ⟨pool.config.schedule, pool.surroundings.roles, head, sender.address, payload⟩
          let (answer, registry) := hearing.walk tx payload.entries pool.registry ⟨[], []⟩
          (answer, { pool with recovery, registry })
  else (.error (.wrongMark tx.marks.head?), pool)

/-- Counters aside, an insertion does what inserting key by key does. -/
theorem insert_keywise (pool : Pool ρ) (tx : Transaction) :
    (pool.insert tx).1 = (pool.insertKeywise tx).1 ∧
      { (pool.insert tx).2 with tally := pool.tally } = (pool.insertKeywise tx).2 := by
  rw [insertKeywise, Transaction.length_encode]
  by_cases hsize : pool.config.sizeLimit.toNat < tx.encodedLength
  · simp [insert, bodyOf, hsize]
  by_cases hmark : tx.marks.head? = some Transaction.controlMark
  · cases hpayload : tx.payload? with
    | none => simp [insert, bodyOf, Transaction.isControl, hsize, hmark, hpayload]
    | some payload =>
      have hbody : bodyOf pool.config.sizeLimit tx = .ok payload :=
        bodyOf_eq_ok_iff.mpr ⟨Nat.not_lt.mp hsize, decide_eq_true hmark, hpayload⟩
      simp only [insert, hbody, insertPayload, if_neg hsize, if_pos hmark]
      rcases findSender pool.config.senderPolicy pool.recovery tx with ⟨_ | sender, recovery⟩
      · exact ⟨rfl, rfl⟩
      · cases pool.surroundings.head with
        | error text => exact ⟨rfl, rfl⟩
        | ok head =>
          rcases hjudge : judgeKeys pool.config.schedule pool.surroundings.roles sender.address
            head payload.entries with ⟨admitted, _ | failure⟩
          · simp only [Hearing.walk_eq, Hearing.judgeEntries, hjudge, settle, List.nil_append,
              and_self]
          · simp only [Hearing.walk_eq, Hearing.judgeEntries, hjudge, settle, and_self]
  · simp [insert, bodyOf, Transaction.isControl, hsize, hmark]

/-- What is left when an insertion fails at a stage. A transaction whose form is not in order leaves
everything as it was, so that the recovery is not even asked. If the sender is not found or the head
is not known, the recovery has been asked. If a key is refused, the keys before it stay filed. -/
def Remains (pool : Pool ρ) (tx : Transaction) (failure : PoolError) : Stage → Prop
  | .form => (pool.insert tx).2 = pool
  | .sender => (pool.insert tx).2 =
      { pool with recovery := (findSender pool.config.senderPolicy pool.recovery tx).2 }
  | .head => (pool.insert tx).2 =
      { pool with recovery := (findSender pool.config.senderPolicy pool.recovery tx).2 }
  | .key => ∃ hearing, pool.Hears tx hearing ∧
      ∃ refused : RefusedKey hearing, refused.failure = failure ∧
        ∃ report, hearing.walk tx refused.before pool.registry ⟨[], []⟩ =
          (.ok report, (pool.insert tx).2.registry)

/-- If a key is refused, the walk through the keys before it ends in the registry that the insertion
leaves. -/
theorem walk_before_refused {pool : Pool ρ} {tx : Transaction} {hearing : Hearing}
    (hhearing : pool.hearing? tx = some hearing) (refused : RefusedKey hearing) :
    ∃ report, hearing.walk tx refused.before pool.registry ⟨[], []⟩ =
      (.ok report, (pool.insert tx).2.registry) := by
  have hbefore := hearing.judgeEntries_append refused.before [] refused.admits_before
  rw [List.append_nil] at hbefore
  have hnil : hearing.judgeEntries [] = ([], none) := rfl
  rw [Hearing.walk_eq, insert_registry_of_hearing hhearing, refused.judge_eq, hbefore, hnil,
    List.append_nil]
  exact ⟨_, rfl⟩

/-- An insertion does what inserting key by key does, and its failures leave what the stage allows
at which they arise. -/
theorem insert_refines_keywise (pool : Pool ρ) (tx : Transaction) :
    (pool.insert tx).1 = (pool.insertKeywise tx).1 ∧
      { (pool.insert tx).2 with tally := pool.tally } = (pool.insertKeywise tx).2 ∧
      ∀ failure, (pool.insert tx).1 = .error failure →
        ∃ stage, failure.stage? = some stage ∧ pool.Remains tx failure stage := by
  obtain ⟨hanswer, hpool⟩ := pool.insert_keywise tx
  refine ⟨hanswer, hpool, ?_⟩
  intro failure hfailure
  cases hhearing : pool.hearing? tx with
  | none =>
    rcases insert_turned_away hhearing with
      ⟨found, hstage, hinsert⟩ | ⟨found, hstage, hinsert⟩ | ⟨found, hstage, hinsert⟩
    all_goals
      rw [hinsert] at hfailure
      obtain rfl : found = failure := Except.error.inj hfailure
      exact ⟨_, hstage, congrArg Prod.snd hinsert⟩
  | some hearing =>
    rw [insert_answer_of_hearing hhearing] at hfailure
    cases hjudge : hearing.judge.2 with
    | none => rw [hjudge] at hfailure; cases hfailure
    | some found =>
      rw [hjudge] at hfailure
      obtain rfl : found = failure := Except.error.inj hfailure
      obtain ⟨refused, hrefused⟩ := Hearing.judge_failure_iff.mp hjudge
      refine ⟨.key, ?_, hearing, hearing?_eq_some_iff.mp hhearing, refused, hrefused,
        walk_before_refused hhearing refused⟩
      rw [← hrefused]
      exact stage?_of_decideKey refused.decided

/-- A roll call outside its window fails as a key, and the walk through the public key before it
ends in the registry that is left. -/
theorem halfRefused_refines_keywise :
    ((new Sample.config Sample.surroundings Sample.table).insert Sample.halfRefused).1 =
        .error (.rejected (.outsideWindow 150 (some 200))) ∧
      (new Sample.config Sample.surroundings Sample.table).Remains Sample.halfRefused
        (.rejected (.outsideWindow 150 (some 200))) .key := by
  have hanswer : ((new Sample.config Sample.surroundings Sample.table).insert
      Sample.halfRefused).1 = .error (.rejected (.outsideWindow 150 (some 200))) := by
    decide +kernel
  obtain ⟨-, -, hfailures⟩ := insert_refines_keywise
    (new Sample.config Sample.surroundings Sample.table) Sample.halfRefused
  obtain ⟨stage, hstage, hremains⟩ := hfailures _ hanswer
  cases hstage
  exact ⟨hanswer, hremains⟩

end Pool

end ControlPool
