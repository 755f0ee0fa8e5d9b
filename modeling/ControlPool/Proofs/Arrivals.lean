import ControlPool.Registry
import Mathlib.Data.List.Nodup

/-!
# What filing adds to the registry

Of the messages of one transaction those are filed whose identity is neither pending nor that of
an earlier message. Each gets an entry behind the entries that were there, in order and with
consecutive numbers, so identities never repeat and an entry stays until the registry is drained.
-/

namespace ControlPool.Registry

/-- The identities that are pending, in order of arrival. -/
def identities (registry : Registry) : List Hash := registry.entries.map (·.identity)

/-- The registry knows an identity exactly if it is pending. -/
theorem contains_iff {registry : Registry} {identity : Hash} :
    registry.contains identity = true ↔ identity ∈ registry.identities := by
  simp [contains, identities]

/-- The registry knows an identity as the list of pending ones does. -/
theorem contains_eq (registry : Registry) (identity : Hash) :
    registry.contains identity = registry.identities.contains identity := by
  rw [Bool.eq_iff_iff, contains_iff, List.contains_iff_mem]

/-- The messages whose identity is neither pending nor that of an earlier one. -/
def newcomers (pending : List Hash) : List Message → List Message
  | [] => []
  | message :: messages =>
    if pending.contains message.identity then newcomers pending messages
    else message :: newcomers (pending ++ [message.identity]) messages

/-- A message whose identity is pending is left out. -/
theorem newcomers_cons_of_mem {pending : List Hash} {message : Message} (messages : List Message)
    (h : message.identity ∈ pending) :
    newcomers pending (message :: messages) = newcomers pending messages := by
  rw [newcomers, if_pos (List.contains_iff_mem.mpr h)]

/-- A message whose identity is not pending is new, and from then on its identity is taken. -/
theorem newcomers_cons_of_notMem {pending : List Hash} {message : Message}
    (messages : List Message) (h : message.identity ∉ pending) :
    newcomers pending (message :: messages) =
      message :: newcomers (pending ++ [message.identity]) messages := by
  rw [newcomers, if_neg (mt List.contains_iff_mem.mp h)]

/-- The entries of messages that arrive with a transaction, numbered from a number on. -/
def arrivals (tx : Transaction) (number : Nat) : List Message → List Arrival
  | [] => []
  | message :: messages =>
    ⟨message.identity, tx, number⟩ :: arrivals tx (number + 1) messages

/-- New messages are among the messages, in their order. -/
theorem newcomers_sublist (pending : List Hash) (messages : List Message) :
    (newcomers pending messages).Sublist messages := by
  induction messages generalizing pending with
  | nil => exact .slnil
  | cons message messages ih =>
    by_cases hpending : message.identity ∈ pending
    · rw [newcomers_cons_of_mem messages hpending]
      exact (ih pending).cons message
    · rw [newcomers_cons_of_notMem messages hpending]
      exact (ih _).cons_cons message

/-- The identity of a new message is not pending. -/
theorem identity_notMem_of_mem_newcomers {pending : List Hash} {messages : List Message}
    {message : Message} (h : message ∈ newcomers pending messages) :
    message.identity ∉ pending := by
  induction messages generalizing pending with
  | nil => cases h
  | cons first messages ih =>
    by_cases hfirst : first.identity ∈ pending
    · rw [newcomers_cons_of_mem messages hfirst] at h
      exact ih h
    · rw [newcomers_cons_of_notMem messages hfirst] at h
      rcases List.mem_cons.mp h with rfl | h
      · exact hfirst
      · exact fun hpending => ih h (List.mem_append_left _ hpending)

/-- New messages have pairwise different identities. -/
theorem nodup_newcomers (pending : List Hash) (messages : List Message) :
    ((newcomers pending messages).map Message.identity).Nodup := by
  induction messages generalizing pending with
  | nil => exact .nil
  | cons message messages ih =>
    by_cases hpending : message.identity ∈ pending
    · rw [newcomers_cons_of_mem messages hpending]
      exact ih pending
    · rw [newcomers_cons_of_notMem messages hpending, List.map_cons, List.nodup_cons]
      refine ⟨?_, ih _⟩
      intro hlater
      obtain ⟨later, hmem, hsame⟩ := List.mem_map.mp hlater
      apply identity_notMem_of_mem_newcomers hmem
      rw [hsame]
      exact List.mem_append_right _ List.mem_cons_self

/-- Of messages with different identities the new ones are those that are not pending. -/
theorem newcomers_of_nodup {pending : List Hash} {messages : List Message}
    (h : (messages.map Message.identity).Nodup) :
    newcomers pending messages =
      messages.filter fun message => !pending.contains message.identity := by
  induction messages generalizing pending with
  | nil => rfl
  | cons message messages ih =>
    rw [List.map_cons, List.nodup_cons] at h
    obtain ⟨hfirst, hrest⟩ := h
    by_cases hpending : message.identity ∈ pending
    · rw [newcomers_cons_of_mem messages hpending, ih hrest,
        List.filter_cons_of_neg (by simpa using hpending)]
    · rw [newcomers_cons_of_notMem messages hpending, ih hrest,
        List.filter_cons_of_pos (by simpa using hpending)]
      refine congrArg (message :: ·) (List.filter_congr fun later hlater => ?_)
      have hne : later.identity ≠ message.identity :=
        fun hsame => hfirst (hsame ▸ List.mem_map_of_mem hlater)
      simp [hne]

/-- An entry of arriving messages is that of one of them, with their transaction. -/
theorem exists_of_mem_arrivals {tx : Transaction} {number : Nat} {messages : List Message}
    {entry : Arrival} (h : entry ∈ arrivals tx number messages) :
    entry.transaction = tx ∧ ∃ message ∈ messages, message.identity = entry.identity := by
  induction messages generalizing number with
  | nil => cases h
  | cons message messages ih =>
    rcases List.mem_cons.mp h with rfl | h
    · exact ⟨rfl, message, List.mem_cons_self, rfl⟩
    · obtain ⟨htx, found, hfound, hidentity⟩ := ih h
      exact ⟨htx, found, List.mem_cons_of_mem _ hfound, hidentity⟩

/-- The identities of arriving messages are those of their entries. -/
theorem map_identity_arrivals (tx : Transaction) (number : Nat) (messages : List Message) :
    (arrivals tx number messages).map (·.identity) = messages.map Message.identity := by
  induction messages generalizing number with
  | nil => rfl
  | cons message messages ih => rw [arrivals, List.map_cons, List.map_cons, ih]

/-- The registry with one more entry. -/
def push (registry : Registry) (identity : Hash) (tx : Transaction) : Registry :=
  ⟨registry.entries ++ [⟨identity, tx, registry.nextNumber⟩], registry.nextNumber + 1⟩

/-- One more entry is one more identity. -/
theorem identities_push (registry : Registry) (identity : Hash) (tx : Transaction) :
    (registry.push identity tx).identities = registry.identities ++ [identity] := by
  simp [identities, push]

/-- A pending identity is not filed again. -/
theorem insert_of_mem {registry : Registry} {identity : Hash} (tx : Transaction)
    (h : identity ∈ registry.identities) : registry.insert identity tx = (false, registry) := by
  rw [insert, if_pos (contains_iff.mpr h)]

/-- An identity that is not pending is filed. -/
theorem insert_of_notMem {registry : Registry} {identity : Hash} (tx : Transaction)
    (h : identity ∉ registry.identities) :
    registry.insert identity tx = (true, registry.push identity tx) := by
  rw [insert, if_neg (mt contains_iff.mp h), push]

/-- Filing puts an entry for each new message behind the entries that were there. -/
theorem insertAll_registry (registry : Registry) (tx : Transaction) (messages : List Message) :
    (registry.insertAll tx messages).2 =
      ⟨registry.entries ++
          arrivals tx registry.nextNumber (newcomers registry.identities messages),
        registry.nextNumber + (newcomers registry.identities messages).length⟩ := by
  induction messages generalizing registry with
  | nil => simp [insertAll, newcomers, arrivals]
  | cons message messages ih =>
    rw [insertAll]
    by_cases hpending : message.identity ∈ registry.identities
    · simp only [insert_of_mem tx hpending, newcomers_cons_of_mem messages hpending, ih]
    · simp only [insert_of_notMem tx hpending, newcomers_cons_of_notMem messages hpending, ih,
        identities_push, arrivals, List.length_cons]
      simp only [push, List.append_assoc, List.singleton_append]
      congr 1
      omega

/-- The accepted identities are those of the new messages. -/
theorem insertAll_accepted (registry : Registry) (tx : Transaction) (messages : List Message) :
    (registry.insertAll tx messages).1.accepted =
      (newcomers registry.identities messages).map Message.identity := by
  induction messages generalizing registry with
  | nil => rfl
  | cons message messages ih =>
    rw [insertAll]
    by_cases hpending : message.identity ∈ registry.identities
    · simp only [insert_of_mem tx hpending, newcomers_cons_of_mem messages hpending, ih]
    · simp only [insert_of_notMem tx hpending, newcomers_cons_of_notMem messages hpending, ih,
        identities_push, List.map_cons]

/-- Of messages with different identities the duplicates are those that are pending. -/
theorem insertAll_duplicates_of_nodup {registry : Registry} (tx : Transaction)
    {messages : List Message} (h : (messages.map Message.identity).Nodup) :
    (registry.insertAll tx messages).1.duplicates =
      (messages.map Message.identity).filter registry.contains := by
  induction messages generalizing registry with
  | nil => rfl
  | cons message messages ih =>
    rw [List.map_cons, List.nodup_cons] at h
    obtain ⟨hfirst, hrest⟩ := h
    rw [insertAll, List.map_cons]
    by_cases hpending : message.identity ∈ registry.identities
    · rw [List.filter_cons_of_pos (contains_iff.mpr hpending)]
      simp only [insert_of_mem tx hpending, ih hrest]
    · rw [List.filter_cons_of_neg (mt contains_iff.mp hpending)]
      simp only [insert_of_notMem tx hpending, ih hrest]
      -- A later identity is not that of the entry which is now pending.
      refine List.filter_congr fun later hlater => ?_
      have hne : later ≠ message.identity := fun hsame => hfirst (hsame ▸ hlater)
      simp [contains_eq, identities_push, hne]

/-- Messages with different identities none of which is pending are all filed. -/
theorem insertAll_of_new {registry : Registry} (tx : Transaction) {messages : List Message}
    (hnodup : (messages.map Message.identity).Nodup)
    (hnew : ∀ message ∈ messages, message.identity ∉ registry.identities) :
    registry.insertAll tx messages =
      (⟨messages.map Message.identity, []⟩,
        ⟨registry.entries ++ arrivals tx registry.nextNumber messages,
          registry.nextNumber + messages.length⟩) := by
  have hnewcomers : newcomers registry.identities messages = messages := by
    rw [newcomers_of_nodup hnodup, List.filter_eq_self]
    intro message hmessage
    simpa using hnew message hmessage
  have hduplicates : (registry.insertAll tx messages).1.duplicates = [] := by
    rw [insertAll_duplicates_of_nodup tx hnodup, List.filter_eq_nil_iff]
    intro identity hidentity
    obtain ⟨message, hmessage, rfl⟩ := List.mem_map.mp hidentity
    exact mt contains_iff.mp (hnew message hmessage)
  have haccepted := registry.insertAll_accepted tx messages
  rw [hnewcomers] at haccepted
  refine Prod.ext ?_ ?_
  · rw [← haccepted, ← hduplicates]
  · rw [insertAll_registry, hnewcomers]

/-- If of two messages the first is new and the second is pending, one is filed and the other
reported as a duplicate. -/
theorem insertAll_new_known {registry : Registry} {first second : Message} (tx : Transaction)
    (hnew : first.identity ∉ registry.identities)
    (hknown : second.identity ∈ registry.identities) :
    registry.insertAll tx [first, second] =
      (⟨[first.identity], [second.identity]⟩, registry.push first.identity tx) := by
  have hstill : second.identity ∈ (registry.push first.identity tx).identities := by
    rw [identities_push]
    exact List.mem_append_left _ hknown
  simp only [insertAll, insert_of_notMem tx hnew, insert_of_mem tx hstill]

/-- Without duplicates all messages are new. -/
theorem newcomers_of_duplicates_eq_nil {registry : Registry} {tx : Transaction}
    {messages : List Message} (h : (registry.insertAll tx messages).1.duplicates = []) :
    newcomers registry.identities messages = messages := by
  induction messages generalizing registry with
  | nil => rfl
  | cons message messages ih =>
    rw [insertAll] at h
    by_cases hpending : message.identity ∈ registry.identities
    · simp only [insert_of_mem tx hpending] at h
      cases h
    · simp only [insert_of_notMem tx hpending] at h
      rw [newcomers_cons_of_notMem messages hpending,
        ← identities_push registry message.identity tx, ih h]

end ControlPool.Registry
