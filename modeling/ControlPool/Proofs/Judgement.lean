import ControlPool.Ingress
import ControlPool.Proofs.Key

/-!
# Which keys of a transaction are admitted

A transaction whose size, mark, body, sender and head are in order gets a hearing. The keys of its
payload are judged in their order, so the admitted ones are a prefix. Either that prefix is the
whole payload, or the key after it is refused and its failure is the answer.
-/

namespace ControlPool

/-- The circumstances in which the keys of a transaction are judged. -/
structure Hearing where
  schedule : Schedule
  roles : RoleOracle
  head : Head
  sender : Address
  payload : Payload

namespace Hearing

/-- The decision on a key. -/
def decide (hearing : Hearing) (key : String) : Except PoolError Admission :=
  decideKey hearing.schedule hearing.roles hearing.sender key hearing.head

/-- Whether a key is admitted. -/
def Admits (hearing : Hearing) (key : String) : Prop := ∃ admission, hearing.decide key = .ok admission

/-- The message that an entry becomes if its key is admitted. -/
def messageOf? (hearing : Hearing) (entry : String × List UInt8) : Option Message :=
  match hearing.decide entry.1 with
  | .ok admission => some ⟨admission.kind, admission.epoch, hearing.sender, entry.2⟩
  | .error _ => none

/-- Judges entries in their order. -/
def judgeEntries (hearing : Hearing) (entries : List (String × List UInt8)) :
    List Message × Option PoolError :=
  Pool.judgeKeys hearing.schedule hearing.roles hearing.sender hearing.head entries

/-- The messages that are admitted, and the failure of the key after them. -/
def judge (hearing : Hearing) : List Message × Option PoolError :=
  hearing.judgeEntries hearing.payload.entries

/-- An admitted key becomes a message, and judging goes on behind it. -/
theorem judgeEntries_cons_of_admitted (hearing : Hearing) {key : String} {admission : Admission}
    (hkey : hearing.decide key = .ok admission) (value : List UInt8)
    (after : List (String × List UInt8)) :
    hearing.judgeEntries ((key, value) :: after) =
      (⟨admission.kind, admission.epoch, hearing.sender, value⟩ :: (hearing.judgeEntries after).1,
        (hearing.judgeEntries after).2) := by
  rw [decide] at hkey
  rw [judgeEntries, Pool.judgeKeys]
  simp only [hkey, judgeEntries]

/-- Judging stops at a refused key. -/
theorem judgeEntries_cons_of_refused (hearing : Hearing) {key : String} {failure : PoolError}
    (hkey : hearing.decide key = .error failure) (value : List UInt8)
    (after : List (String × List UInt8)) :
    hearing.judgeEntries ((key, value) :: after) = ([], some failure) := by
  rw [decide] at hkey
  rw [judgeEntries, Pool.judgeKeys]
  simp only [hkey]

/-- Entries with admitted keys become messages, and judging goes on behind them. -/
theorem judgeEntries_append (hearing : Hearing) (before after : List (String × List UInt8))
    (hbefore : ∀ entry ∈ before, hearing.Admits entry.1) :
    hearing.judgeEntries (before ++ after) =
      (before.filterMap hearing.messageOf? ++ (hearing.judgeEntries after).1,
        (hearing.judgeEntries after).2) := by
  induction before with
  | nil => rfl
  | cons entry before ih =>
    obtain ⟨⟨admission, hentry⟩, hbefore⟩ := List.forall_mem_cons.mp hbefore
    have hmessage : hearing.messageOf? entry =
        some ⟨admission.kind, admission.epoch, hearing.sender, entry.2⟩ := by
      rw [messageOf?, hentry]
    rw [List.cons_append, hearing.judgeEntries_cons_of_admitted hentry, ih hbefore,
      List.filterMap_cons, hmessage, List.cons_append]

/-- Entries are a part with admitted keys and a part that is empty or begins with a refused key. -/
theorem exists_admitted_prefix (hearing : Hearing) (entries : List (String × List UInt8)) :
    ∃ before after, entries = before ++ after ∧ (∀ entry ∈ before, hearing.Admits entry.1) ∧
      ∀ entry ∈ after.head?, ∃ failure, hearing.decide entry.1 = .error failure := by
  induction entries with
  | nil => exact ⟨[], [], rfl, by simp, by simp⟩
  | cons entry entries ih =>
    cases hentry : hearing.decide entry.1 with
    | error failure =>
      refine ⟨[], entry :: entries, rfl, by simp, ?_⟩
      intro first hfirst
      obtain rfl : entry = first := by simpa using hfirst
      exact ⟨failure, hentry⟩
    | ok admission =>
      obtain ⟨before, after, rfl, hbefore, hafter⟩ := ih
      exact ⟨entry :: before, after, rfl,
        List.forall_mem_cons.mpr ⟨⟨admission, hentry⟩, hbefore⟩, hafter⟩

end Hearing

/-- A key that is judged: all keys before it in the payload are admitted. -/
structure JudgedKey (hearing : Hearing) where
  before : List (String × List UInt8)
  key : String
  value : List UInt8
  after : List (String × List UInt8)
  entries_eq : hearing.payload.entries = before ++ (key, value) :: after
  admits_before : ∀ entry ∈ before, hearing.Admits entry.1

/-- A key that is judged and admitted, with the kind and epoch for which it is. -/
structure AdmittedKey (hearing : Hearing) extends JudgedKey hearing where
  admission : Admission
  decided : hearing.decide key = .ok admission

/-- A key that is judged and refused, with the reason. -/
structure RefusedKey (hearing : Hearing) extends JudgedKey hearing where
  failure : PoolError
  decided : hearing.decide key = .error failure

/-- A judged key stands in the payload. -/
theorem JudgedKey.mem_entries {hearing : Hearing} (judged : JudgedKey hearing) :
    (judged.key, judged.value) ∈ hearing.payload.entries := by
  rw [judged.entries_eq]
  exact List.mem_append_right _ List.mem_cons_self

/-- A refused key ends the judgement with its failure, behind the messages of the keys before it. -/
theorem RefusedKey.judge_eq {hearing : Hearing} (refused : RefusedKey hearing) :
    hearing.judge = (refused.before.filterMap hearing.messageOf?, some refused.failure) := by
  rw [Hearing.judge, refused.entries_eq, hearing.judgeEntries_append _ _ refused.admits_before,
    hearing.judgeEntries_cons_of_refused refused.decided, List.append_nil]

namespace AdmittedKey

variable {hearing : Hearing}

/-- The message of an admitted key. -/
def message (admitted : AdmittedKey hearing) : Message :=
  ⟨admitted.admission.kind, admitted.admission.epoch, hearing.sender, admitted.value⟩

/-- An admitted key is classified to the kind of its message. -/
theorem classify?_key (admitted : AdmittedKey hearing) :
    Kind.classify? admitted.key = some admitted.message.kind :=
  classify?_of_decideKey admitted.decided

/-- In one hearing at most one key is admitted for a kind. -/
theorem message_eq (first second : AdmittedKey hearing)
    (hkind : first.message.kind = second.message.kind) : first.message = second.message := by
  obtain ⟨hfirst, hkey, -⟩ := decideKey_eq_ok_iff.mp first.decided
  obtain ⟨hsecond, hkey', -⟩ := decideKey_eq_ok_iff.mp second.decided
  have hepoch : first.admission.epoch = second.admission.epoch := hfirst.trans hsecond.symm
  have hkind : first.admission.kind = second.admission.kind := hkind
  have hsame : first.key = second.key := by rw [hkey, hkey', hepoch, hkind]
  have hvalue : first.value = second.value := by
    have hget := OrderedMap.get?_eq_some_iff.mpr first.mem_entries
    rw [hsame, OrderedMap.get?_eq_some_iff.mpr second.mem_entries] at hget
    exact (Option.some.inj hget).symm
  rw [message, message, hkind, hepoch, hvalue]

end AdmittedKey

namespace Hearing

/-- The entry behind admitted keys is the message of an admitted key, if it is admitted itself. -/
theorem exists_admittedKey (hearing : Hearing) {before after : List (String × List UInt8)}
    (hentries : hearing.payload.entries = before ++ after)
    (hbefore : ∀ entry ∈ before, hearing.Admits entry.1) {entry : String × List UInt8}
    (hentry : entry ∈ before) :
    ∃ admitted : AdmittedKey hearing, admitted.key = entry.1 ∧ admitted.value = entry.2 := by
  obtain ⟨earlier, later, rfl⟩ := List.append_of_mem hentry
  obtain ⟨admission, hdecide⟩ := hbefore entry hentry
  refine ⟨⟨⟨earlier, entry.1, entry.2, later ++ after, ?_, ?_⟩, admission, hdecide⟩, rfl, rfl⟩
  · simpa using hentries
  · exact fun e he => hbefore e (List.mem_append_left _ he)

/-- The admitted messages are those of the part of the payload in front of the first refused key. -/
theorem exists_judge_eq (hearing : Hearing) :
    ∃ before after, hearing.payload.entries = before ++ after ∧
      (∀ entry ∈ before, hearing.Admits entry.1) ∧
      hearing.judge.1 = before.filterMap hearing.messageOf? := by
  obtain ⟨before, after, hentries, hbefore, hafter⟩ :=
    hearing.exists_admitted_prefix hearing.payload.entries
  refine ⟨before, after, hentries, hbefore, ?_⟩
  have hnone : (hearing.judgeEntries after).1 = [] := by
    cases after with
    | nil => rfl
    | cons entry after =>
      obtain ⟨failure, hentry⟩ := hafter entry rfl
      rw [hearing.judgeEntries_cons_of_refused hentry entry.2]
  rw [judge, hentries, hearing.judgeEntries_append before after hbefore, hnone, List.append_nil]

/-- The admitted messages are those of the admitted keys. -/
theorem mem_judge_iff {hearing : Hearing} {message : Message} :
    message ∈ hearing.judge.1 ↔ ∃ admitted : AdmittedKey hearing, admitted.message = message := by
  constructor
  · intro h
    obtain ⟨before, after, hentries, hbefore, hjudge⟩ := hearing.exists_judge_eq
    rw [hjudge, List.mem_filterMap] at h
    obtain ⟨entry, hentry, hmessage⟩ := h
    obtain ⟨admitted, hkey, hvalue⟩ := hearing.exists_admittedKey hentries hbefore hentry
    have hdecided := admitted.decided
    rw [hkey] at hdecided
    rw [messageOf?, hdecided] at hmessage
    refine ⟨admitted, ?_⟩
    rw [AdmittedKey.message, hvalue]
    exact Option.some.inj hmessage
  · intro hkey
    obtain ⟨admitted, rfl⟩ := hkey
    rw [judge, admitted.entries_eq, hearing.judgeEntries_append _ _ admitted.admits_before,
      hearing.judgeEntries_cons_of_admitted admitted.decided]
    exact List.mem_append_right _ List.mem_cons_self

/-- The message of an entry tells its key. -/
theorem key_of_messageOf? {hearing : Hearing} {entry : String × List UInt8} {message : Message}
    (h : hearing.messageOf? entry = some message) :
    entry.1 = message.kind.key (hearing.schedule.upcomingEpoch hearing.head.height) := by
  rw [messageOf?] at h
  split at h
  · next admission hdecide =>
    obtain ⟨hepoch, hkey, -⟩ := decideKey_eq_ok_iff.mp hdecide
    obtain rfl := Option.some.inj h
    rw [hkey, hepoch]
  · cases h

/-- No two admitted messages of a hearing have one kind. -/
theorem pairwise_kind_judge (hearing : Hearing) :
    hearing.judge.1.Pairwise fun a b => a.kind ≠ b.kind := by
  obtain ⟨before, after, hentries, -, hjudge⟩ := hearing.exists_judge_eq
  have hkeys : before.Pairwise fun a b => a.1 ≠ b.1 := by
    have hall := hearing.payload.pairwise_ne
    rw [hentries, List.pairwise_append] at hall
    exact hall.1
  rw [hjudge, List.pairwise_filterMap]
  apply hkeys.imp
  intro entry other hne message hmessage found hfound hkind
  apply hne
  rw [key_of_messageOf? hmessage, key_of_messageOf? hfound, hkind]

/-- There is a failure exactly if a key is refused. -/
theorem judge_failure_iff {hearing : Hearing} {failure : PoolError} :
    hearing.judge.2 = some failure ↔ ∃ refused : RefusedKey hearing, refused.failure = failure := by
  constructor
  · intro h
    obtain ⟨before, after, hentries, hbefore, hafter⟩ :=
      hearing.exists_admitted_prefix hearing.payload.entries
    rw [judge, hentries, hearing.judgeEntries_append before after hbefore] at h
    cases after with
    | nil => cases h
    | cons entry after =>
      obtain ⟨found, hentry⟩ := hafter entry rfl
      rw [hearing.judgeEntries_cons_of_refused hentry entry.2] at h
      simp only [Option.some.injEq] at h
      subst h
      exact ⟨⟨⟨before, entry.1, entry.2, after, hentries, hbefore⟩, found, hentry⟩, rfl⟩
  · intro hkey
    obtain ⟨refused, rfl⟩ := hkey
    rw [refused.judge_eq]

/-- An entry of the payload is that of an admitted key, or a key at or before it is refused. -/
theorem admitted_or_refused (hearing : Hearing) {entry : String × List UInt8}
    (hentry : entry ∈ hearing.payload.entries) :
    (∃ admitted : AdmittedKey hearing, admitted.key = entry.1 ∧ admitted.value = entry.2) ∨
      ∃ refused : RefusedKey hearing, entry ∈ (refused.key, refused.value) :: refused.after := by
  obtain ⟨before, after, hentries, hbefore, hafter⟩ :=
    hearing.exists_admitted_prefix hearing.payload.entries
  rw [hentries] at hentry
  rcases List.mem_append.mp hentry with hentry | hentry
  · exact .inl (hearing.exists_admittedKey hentries hbefore hentry)
  · cases after with
    | nil => cases hentry
    | cons first after =>
      obtain ⟨failure, hfirst⟩ := hafter first rfl
      exact .inr ⟨⟨⟨before, first.1, first.2, after, hentries, hbefore⟩, failure, hfirst⟩, hentry⟩

end Hearing

end ControlPool
