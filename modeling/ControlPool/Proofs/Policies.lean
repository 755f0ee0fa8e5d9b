import ControlPool.Proofs.Extracted
import ControlPool.Proofs.Ingress
import ControlPool.Proofs.Outcome
import ControlPool.Proofs.Provenance
import ControlPool.Proofs.SessionRun

/-!
# When the two sender policies agree

A policy matters where the sender of a transaction is looked for: when it is inserted, and again for
each entry when the pending transactions are drained. Both policies find the same address, or fail
in the same words, if the transaction embeds no sender or the one that its signature names, and if
asking leaves the recovery as it is. So two sessions that differ in nothing but the policy stay that
way step by step and give the same answers, as long as only such transactions are offered.
-/

namespace ControlPool

variable {ρ : Type}

/-- The configuration with another policy. -/
def Config.under (config : Config) (policy : SenderPolicy) : Config where
  toSettings := { config.toSettings with senderPolicy := policy }
  faultless := config.faultless

/-- The pool with another policy. -/
def Pool.under (pool : Pool ρ) (policy : SenderPolicy) : Pool ρ :=
  { pool with config := pool.config.under policy }

/-- The session with another policy. -/
def Session.under (session : Session ρ) (policy : SenderPolicy) : Session ρ :=
  { session with pool := session.pool.under policy }

variable [SignerRecovery ρ]

/-- Whether a transaction embeds no sender but its signer. -/
def Transaction.EmbedsSigner (recovery : ρ) (tx : Transaction) : Prop :=
  ∀ address, tx.sender = some address → signer? recovery tx = some address

/-- A transaction that embeds no sender but its signer has the address found that the signature
names, or the failure of the recovery, under every policy. -/
theorem Transaction.EmbedsSigner.findSender_eq {recovery : ρ} {tx : Transaction}
    (h : tx.EmbedsSigner recovery) (policy : SenderPolicy) :
    (findSender policy recovery tx).1.map (·.address) =
      (recoverSigner recovery tx).1.map (·.address) := by
  cases policy with
  | recoveredOnly => rfl
  | embeddedFirst =>
    unfold findSender
    cases hsender : tx.sender with
    | none => rfl
    | some address =>
      have hsigner := h address hsender
      unfold signer? at hsigner
      unfold recoverSigner
      rcases hrecover : SignerRecovery.recover recovery tx with ⟨_ | signer, asked⟩
      · rw [hrecover] at hsigner
        cases hsigner
      · rw [hrecover] at hsigner
        rw [← Option.some.inj hsigner]
        rfl

/-- Findings with the same address or the same failure are two failures that are the same or two
senders with one address. -/
theorem found_of_map_address_eq {found other : Except PoolError FoundSender}
    (h : found.map (·.address) = other.map (·.address)) :
    (∃ failure, found = .error failure ∧ other = .error failure) ∨
      ∃ sender stranger, found = .ok sender ∧ other = .ok stranger ∧
        stranger.address = sender.address := by
  cases found with
  | error failure =>
    cases other with
    | error failure' => exact .inl ⟨failure, rfl, congrArg Except.error (Except.error.inj h).symm⟩
    | ok stranger => cases h
  | ok sender =>
    cases other with
    | error failure' => cases h
    | ok stranger => exact .inr ⟨sender, stranger, rfl, rfl, (Except.ok.inj h).symm⟩

/-- Under two policies the sender of such a transaction is found at one address or not found for one
reason, and a steady recovery stays as it is. -/
theorem Transaction.EmbedsSigner.findSender_cases {recovery : ρ} {tx : Transaction}
    (h : tx.EmbedsSigner recovery) (hsteady : Steady recovery) (policy other : SenderPolicy) :
    (∃ failure, findSender policy recovery tx = (.error failure, recovery) ∧
        findSender other recovery tx = (.error failure, recovery)) ∨
      ∃ sender stranger : FoundSender, findSender policy recovery tx = (.ok sender, recovery) ∧
        findSender other recovery tx = (.ok stranger, recovery) ∧
        stranger.address = sender.address := by
  have hasked (policy : SenderPolicy) :
      findSender policy recovery tx = ((findSender policy recovery tx).1, recovery) :=
    Prod.ext rfl (hsteady.findSender policy tx)
  rw [hasked policy, hasked other]
  rcases found_of_map_address_eq ((h.findSender_eq policy).trans (h.findSender_eq other).symm) with
    ⟨failure, hfound, hother⟩ | ⟨sender, stranger, hfound, hother, haddress⟩
  · left
    rw [hfound, hother]
    exact ⟨failure, rfl, rfl⟩
  · right
    rw [hfound, hother]
    exact ⟨sender, stranger, rfl, rfl, haddress⟩

namespace Pool

/-- Whether all pending transactions embed no sender but their signer. -/
def HoldsSigned (pool : Pool ρ) : Prop :=
  ∀ entry ∈ pool.registry.entries, entry.transaction.EmbedsSigner pool.recovery

/-- An insertion answers the same under another policy and leaves the same pool. -/
theorem insert_under {pool : Pool ρ} (hsteady : Steady pool.recovery) {tx : Transaction}
    (htx : tx.EmbedsSigner pool.recovery) (policy : SenderPolicy) :
    (pool.under policy).insert tx = ((pool.insert tx).1, (pool.insert tx).2.under policy) := by
  have hbody : bodyOf (pool.under policy).config.sizeLimit tx =
      bodyOf pool.config.sizeLimit tx := rfl
  unfold insert
  rw [hbody]
  cases bodyOf pool.config.sizeLimit tx with
  | error failure => rfl
  | ok payload =>
    have hpolicy : (pool.under policy).config.senderPolicy = policy := rfl
    have hrecovery : (pool.under policy).recovery = pool.recovery := rfl
    have hsurroundings : (pool.under policy).surroundings = pool.surroundings := rfl
    simp only [insertPayload, hpolicy, hrecovery, hsurroundings]
    rcases htx.findSender_cases hsteady pool.config.senderPolicy policy with
      ⟨failure, hfound, hfound'⟩ | ⟨sender, stranger, hfound, hfound', haddress⟩
    · rw [hfound, hfound']
      rfl
    · rw [hfound, hfound']
      simp only [haddress]
      cases pool.surroundings.head <;> rfl

/-- A message is answered the same under another policy and leaves the same pool. -/
theorem handle_under {pool : Pool ρ} (hsteady : Steady pool.recovery) {message : PeerMessage}
    (hmessage : ∀ tx, message.offer? = some tx → tx.EmbedsSigner pool.recovery)
    (policy : SenderPolicy) :
    (pool.under policy).handle message =
      ((pool.handle message).1, (pool.handle message).2.under policy) := by
  cases hoffer : message.offer? with
  | none =>
    apply Prod.ext
    · exact handle_answer_of_no_offer hoffer _ _
    · rw [handle_of_no_offer _ hoffer, handle_of_no_offer _ hoffer]
  | some tx =>
    rw [handle_of_offer _ hoffer, handle_of_offer _ hoffer,
      insert_under hsteady (hmessage tx hoffer)]

/-- Transactions that embed no sender but their signer are grouped alike under two policies. -/
theorem groupBySender_policy {recovery : ρ} (hsteady : Steady recovery) (policy other : SenderPolicy)
    {entries : List Arrival}
    (hentries : ∀ entry ∈ entries, entry.transaction.EmbedsSigner recovery) (groups : BySender) :
    groupBySender other entries groups recovery =
      groupBySender policy entries groups recovery := by
  induction entries generalizing groups with
  | nil => rfl
  | cons entry entries ih =>
    obtain ⟨hentry, hentries⟩ := List.forall_mem_cons.mp hentries
    unfold groupBySender
    rcases hentry.findSender_cases hsteady policy other with
      ⟨failure, hfound, hfound'⟩ | ⟨sender, stranger, hfound, hfound', haddress⟩
    · rw [hfound, hfound']
      exact ih hentries groups
    · rw [hfound, hfound']
      simp only [haddress]
      exact ih hentries _

/-- A drain hands out the same under another policy and leaves the same pool. -/
theorem drain_under {pool : Pool ρ} (hsteady : Steady pool.recovery) (hholds : pool.HoldsSigned)
    (policy : SenderPolicy) :
    (pool.under policy).drain = (pool.drain.1, pool.drain.2.under policy) := by
  have hgroups := groupBySender_policy hsteady pool.config.senderPolicy policy hholds .empty
  have hdrain : (pool.under policy).drain =
      ((groupBySender policy pool.registry.entries .empty pool.recovery).1,
        { pool.drain.2.under policy with
          recovery := (groupBySender policy pool.registry.entries .empty pool.recovery).2 }) := rfl
  rw [hdrain, hgroups]
  rfl

/-- A step is answered the same under another policy and leaves the same pool, if what it offers and
what is pending embeds no sender but the signer. -/
theorem step_under {pool : Pool ρ} (hsteady : Steady pool.recovery) (hholds : pool.HoldsSigned)
    {step : Step ρ} (hstep : ∀ tx, step.offer? = some tx → tx.EmbedsSigner pool.recovery)
    (policy : SenderPolicy) :
    (pool.under policy).step step = ((pool.step step).1, (pool.step step).2.under policy) := by
  cases step with
  | insert tx => simp only [Pool.step, insert_under hsteady (hstep tx rfl)]
  | handle message => simp only [Pool.step, handle_under hsteady hstep]
  | drain => simp only [Pool.step, drain_under hsteady hholds]
  | surround surroundings => rfl
  | recovery change => rfl

/-- An insertion of such a transaction leaves only such transactions pending. -/
theorem HoldsSigned.insert {pool : Pool ρ} (hholds : pool.HoldsSigned)
    (hsteady : Steady pool.recovery) {tx : Transaction}
    (htx : tx.EmbedsSigner pool.recovery) : (pool.insert tx).2.HoldsSigned := by
  intro entry hentry
  rw [insert_recovery_of_steady hsteady]
  rw [insert_registry] at hentry
  rcases List.mem_append.mp hentry with hbefore | harrival
  · exact hholds entry hbefore
  · rw [(Registry.exists_of_mem_arrivals harrival).1]
    exact htx

end Pool

/-- A steady recovery is as it was after an extraction. -/
theorem Block.extract_recovery_of_steady {recovery : ρ} (hsteady : Steady recovery) (block : Block)
    (schedule : Schedule) : (block.extract schedule recovery).2 = recovery := by
  rw [block.extract_recovery, readings_of_steady hsteady]
  split <;> rfl

namespace Session

/-- Whether two answers are the same, up to the policy that settings name. -/
def Answer.AgreesWith : Answer → Answer → Prop
  | .info settings, .info others =>
    settings.interval = others.interval ∧ settings.sizeLimit = others.sizeLimit
  | answer, other => answer = other

/-- Whether steps offer only transactions that embed no sender but their signer, and keep the
recovery. -/
structure SignedRun (recovery : ρ) (steps : List (Step ρ)) : Prop where
  embeds : ∀ step ∈ steps, ∀ tx, step.offer? = some tx → tx.EmbedsSigner recovery
  keeps : ∀ change, .changeRecovery change ∈ steps → change recovery = recovery

/-- An answer is the same as itself. -/
theorem Answer.AgreesWith.refl (answer : Answer) : answer.AgreesWith answer := by
  cases answer with
  | info settings => exact ⟨rfl, rfl⟩
  | _ => rfl

/-- A step is answered the same under another policy and leaves the same session. -/
theorem step_under {session : Session ρ} (hsteady : Steady session.pool.recovery)
    (hholds : session.pool.HoldsSigned) {step : Step ρ}
    (hstep : ∀ tx, step.offer? = some tx → tx.EmbedsSigner session.pool.recovery)
    (policy : SenderPolicy) :
    (session.step step).1.AgreesWith ((session.under policy).step step).1 ∧
      ((session.under policy).step step).2 = (session.step step).2.under policy := by
  have hpool (step : Pool.Step ρ)
      (hstep : ∀ tx, step.offer? = some tx → tx.EmbedsSigner session.pool.recovery) :
      (session.under policy).stepPool step =
        ((session.stepPool step).1, (session.stepPool step).2.under policy) := by
    simp only [stepPool, under, Pool.step_under hsteady hholds hstep]
  cases step with
  | insert tx =>
    rw [Session.step, Session.step, hpool (.insert tx) hstep]
    exact ⟨.refl _, rfl⟩
  | handle message =>
    rw [Session.step, Session.step, hpool (.handle message) hstep]
    exact ⟨.refl _, rfl⟩
  | drain =>
    have hdrain : (session.under policy).drain =
        (session.drain.1, session.drain.2.under policy) := by
      simp only [Session.drain, under, Pool.drain_under hsteady hholds]
    rw [Session.step, Session.step, hdrain]
    exact ⟨.refl _, rfl⟩
  | info => exact ⟨⟨rfl, rfl⟩, rfl⟩
  | commit root =>
    have hextracted : (session.under policy).extracted = session.extracted := rfl
    rw [Session.step, Session.step, hextracted]
    cases session.extracted <;> exact ⟨.refl _, rfl⟩
  | _ => exact ⟨.refl _, rfl⟩

/-- A step keeps a steady recovery unless it makes it another. -/
theorem step_recovery_of_steady {session : Session ρ} (hsteady : Steady session.pool.recovery)
    {step : Step ρ} (hkeeps : ∀ change, step = .changeRecovery change →
      change session.pool.recovery = session.pool.recovery) :
    (session.step step).2.pool.recovery = session.pool.recovery := by
  cases step with
  | insert tx => exact Pool.insert_recovery_of_steady hsteady tx
  | handle message =>
    have hother (change : ρ → ρ) : Pool.Step.handle message ≠ .recovery change := by simp
    exact Pool.step_recovery_of_steady hsteady hother
  | drain => exact Pool.drain_recovery_of_steady hsteady
  | changeRecovery change => exact hkeeps change rfl
  | extract header txs =>
    exact Block.extract_recovery_of_steady hsteady ⟨header, txs.getD session.drained⟩
      session.pool.config.schedule
  | commit root =>
    rw [Session.step]
    cases session.extracted <;> rfl
  | _ => rfl

/-- A step that offers no transaction makes nothing pending. -/
theorem step_entries_of_no_offer {session : Session ρ} {step : Step ρ} (h : step.offer? = none) :
    ∀ entry ∈ (session.step step).2.pool.registry.entries,
      entry ∈ session.pool.registry.entries := by
  by_cases hdrain : step = .drain
  · rw [hdrain]
    exact fun _ hentry => nomatch hentry
  by_cases hextract : ∃ header txs, step = .extract header txs
  · obtain ⟨header, txs, rfl⟩ := hextract
    exact fun _ hentry => hentry
  · obtain ⟨hregistry, -⟩ := step_of_idle h hdrain
      fun header txs hsame => hextract ⟨header, txs, hsame⟩
    rw [hregistry]
    exact fun _ hentry => hentry

/-- A step that offers a transaction which embeds no sender but its signer, or offers none, leaves
only such transactions pending, if it keeps a steady recovery. -/
theorem step_holdsSigned {session : Session ρ} (hsteady : Steady session.pool.recovery)
    (hholds : session.pool.HoldsSigned) {step : Step ρ}
    (hstep : ∀ tx, step.offer? = some tx → tx.EmbedsSigner session.pool.recovery)
    (hrecovery : (session.step step).2.pool.recovery = session.pool.recovery) :
    (session.step step).2.pool.HoldsSigned := by
  cases hoffer : step.offer? with
  | some tx =>
    obtain ⟨answer, -, -, hpool⟩ := step_of_offer hoffer
    rw [hpool]
    exact hholds.insert hsteady (hstep tx hoffer)
  | none =>
    intro entry hentry
    rw [hrecovery]
    exact hholds entry (step_entries_of_no_offer hoffer entry hentry)

/-- A signed run is answered the same under another policy, step by step, and the same number of
transactions is pending after each step. -/
theorem run_under {session : Session ρ} (hsteady : Steady session.pool.recovery)
    (hholds : session.pool.HoldsSigned) {steps : List (Step ρ)}
    (hsigned : SignedRun session.pool.recovery steps) (policy : SenderPolicy) :
    List.Forall₂ (fun first second => first.1.AgreesWith second.1 ∧ first.2 = second.2)
      (session.run steps).1 ((session.under policy).run steps).1 := by
  induction steps generalizing session with
  | nil => exact .nil
  | cons step steps ih =>
    have hstep := hsigned.embeds step List.mem_cons_self
    obtain ⟨hanswer, hafter⟩ := step_under hsteady hholds hstep policy
    have hrecovery := step_recovery_of_steady hsteady fun change hchange =>
      hsigned.keeps change (hchange ▸ List.mem_cons_self)
    have hheld := step_holdsSigned hsteady hholds hstep hrecovery
    have hrest := ih (by rwa [hrecovery]) hheld <| by
      rw [hrecovery]
      exact ⟨fun later hlater => hsigned.embeds later (List.mem_cons_of_mem _ hlater),
        fun change hchange => hsigned.keeps change (List.mem_cons_of_mem _ hchange)⟩
    have hpending : (session.step step).2.pool.pending =
        ((session.under policy).step step).2.pool.pending := by
      rw [hafter]
      rfl
    rw [← hafter] at hrest
    exact .cons ⟨hanswer, hpending⟩ hrest

/-- Under both policies a session gives the same answers, to insertions, to peers' messages and to
drains as to everything else, up to the policy that the settings name, and has the same number of
transactions pending after each step, if asking leaves the recovery as it is, no step makes it
another, and every transaction that is offered embeds no sender or its signer. -/
theorem policies_agree (config : Config) (head : Head) (roles : RoleTable) (recovery : ρ)
    (hsteady : Steady recovery) (steps : List (Step ρ)) (hsigned : SignedRun recovery steps) :
    List.Forall₂ (fun first second => first.1.AgreesWith second.1 ∧ first.2 = second.2)
      ((new (config.under .embeddedFirst) head roles recovery).run steps).1
      ((new (config.under .recoveredOnly) head roles recovery).run steps).1 := by
  have hholds : (new (config.under .embeddedFirst) head roles recovery).pool.HoldsSigned :=
    fun _ hentry => nomatch hentry
  apply run_under _ hholds _ .recoveredOnly
  · exact hsteady
  · exact hsigned

namespace Sample

open Pool.Sample

/-- The validator's announcement with its address embedded. -/
def embedding : Transaction := { announced with sender := some validator }

/-- The announcement is inserted without the address, comes from a peer with it, and is drained. -/
def exchange : List (Step SignerTable) :=
  [.insert announced, .handle (.carrying embedding), .drain]

/-- The validator signed both announcements. -/
theorem signedRun_exchange : SignedRun table exchange where
  embeds step hstep tx hoffer := by
    have hembedding : embedding.EmbedsSigner table := by
      intro address haddress
      rw [← Option.some.inj haddress]
      rfl
    simp only [exchange, List.mem_cons, List.not_mem_nil, or_false] at hstep
    rcases hstep with rfl | rfl | rfl
    · rw [← Option.some.inj hoffer]
      exact fun _ haddress => nomatch haddress
    · have hcarried := PeerMessage.offer?_carrying embedding
      rw [← Option.some.inj (hcarried.symm.trans hoffer)]
      exact hembedding
    · cases hoffer
  keeps change hchange := by simp [exchange] at hchange

end Sample

/-- The policies take the address of the second announcement from different places and agree on the
exchange. -/
theorem policies_agree_on_exchange :
    (findSender .embeddedFirst Pool.Sample.table Sample.embedding).1 ≠
        (findSender .recoveredOnly Pool.Sample.table Sample.embedding).1 ∧
      List.Forall₂ (fun first second => first.1.AgreesWith second.1 ∧ first.2 = second.2)
        ((new (Pool.Sample.config.under .embeddedFirst) ⟨150, default⟩
          (RoleTable.empty.addMember .validator Pool.Sample.validator)
          Pool.Sample.table).run Sample.exchange).1
        ((new (Pool.Sample.config.under .recoveredOnly) ⟨150, default⟩
          (RoleTable.empty.addMember .validator Pool.Sample.validator)
          Pool.Sample.table).run Sample.exchange).1 :=
  ⟨by decide, policies_agree Pool.Sample.config ⟨150, default⟩ _ Pool.Sample.table
    Pool.Sample.table.steady Sample.exchange Sample.signedRun_exchange⟩

end Session

end ControlPool
