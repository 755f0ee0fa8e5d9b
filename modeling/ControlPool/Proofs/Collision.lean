import ControlPool.Proofs.Identity

/-!
# Identities are shared by collision only

The text of an identity has no separators, and its epoch is followed by a digit, the zero of `0x`.
Still it belongs to one kind, epoch and sender only. So if two messages that differ in one of them
have one identity, it is their texts that collide, and these can be written down.
-/

namespace ControlPool

/-- Whether two byte strings differ and have the same digest. -/
def Keccak.Collide (a b : List UInt8) : Prop := a ≠ b ∧ digest a = digest b

/-- The same digest is that of the same bytes or of a collision. -/
theorem Keccak.digest_eq_iff {a b : List UInt8} : digest a = digest b ↔ a = b ∨ Collide a b := by
  constructor
  · intro h
    by_cases hsame : a = b
    · exact .inl hsame
    · exact .inr ⟨hsame, h⟩
  · rintro (rfl | hcollide)
    · rfl
    · exact hcollide.2

/-- The texts of identities agree exactly for one kind, epoch and sender, and identities themselves
agree besides only if the two texts collide. -/
theorem identity_shared_by_collision_only (kind other : Kind) (epoch later : UInt64)
    (sender stranger : Address) :
    (identityText kind epoch sender = identityText other later stranger ↔
      kind = other ∧ epoch = later ∧ sender = stranger) ∧
    (messageIdentity kind epoch sender = messageIdentity other later stranger ↔
      (kind = other ∧ epoch = later ∧ sender = stranger) ∨
        Keccak.Collide (Text.utf8 (identityText kind epoch sender))
          (Text.utf8 (identityText other later stranger))) := by
  have hbytes : Text.utf8 (identityText kind epoch sender) =
      Text.utf8 (identityText other later stranger) ↔
        kind = other ∧ epoch = later ∧ sender = stranger := by
    rw [← identityText_eq_iff]
    exact ⟨Text.utf8_injective, congrArg Text.utf8⟩
  refine ⟨identityText_eq_iff, ?_⟩
  rw [← hbytes, ← Keccak.digest_eq_iff, messageIdentity, messageIdentity, FixedBytes.mk.injEq]

end ControlPool
