import ControlPool.Proofs.Key

/-!
# Labels of keys

The label of a key for an epoch is what the digits of the epoch leave when they are removed from its
end, whatever characters the key is made of and however often the digits occur in it. It is found by
looking at their last occurrence only.

The digits of one epoch may end those of another. Then a part of the longer number remains, and it
belongs to the label, which is no tag any more.
-/

namespace ControlPool

/-- Whether a label stands in front of the last place at which the digits of an epoch occur in a
key, and these digits end the key. -/
def BeforeLast (key : String) (epoch : UInt64) (label : String) : Prop :=
  ∃ place,
    IsGreatest {place | Text.OccursAt (Text.decimal epoch.toNat).toList key.toList place} place ∧
      key.toList.drop place = (Text.decimal epoch.toNat).toList ∧
      key.toList.take place = label.toList

section

variable {key label : String} {epoch : UInt64}

/-- The label of a key stands in front of the last occurrence of the epoch. -/
theorem labelBefore?_eq_some_iff_beforeLast :
    labelBefore? key epoch = some label ↔ BeforeLast key epoch label := by
  rw [BeforeLast, ← Text.beforeFinal?_eq_some_iff_isGreatest, labelBefore?, Option.map_eq_some_iff]
  constructor
  · rintro ⟨before, hbefore, rfl⟩
    rw [String.toList_ofList]
    exact hbefore
  · intro hbefore
    exact ⟨label.toList, hbefore, String.ofList_toList⟩

/-- The label of a key is what removing the digits of the epoch from its end leaves. -/
theorem labelBefore?_eq_dropSuffix? :
    labelBefore? key epoch =
      (key.toList.dropSuffix? (Text.decimal epoch.toNat).toList).map String.ofList := by
  ext label
  rw [labelBefore?_eq_some_iff, Option.map_eq_some_iff, ← String.toList_inj, String.toList_append]
  simp only [List.dropSuffix?_eq_some_iff, beq_iff_eq, exists_eq_right]
  constructor
  · intro hkey
    exact ⟨label.toList, hkey, String.ofList_toList⟩
  · rintro ⟨before, hkey, rfl⟩
    rw [String.toList_ofList]
    exact hkey

/-- A number that ends a text leaves the tag with which the text begins untouched. -/
theorem Kind.exists_leading {kind : Kind} {own before : List Char} {n : Nat}
    (h : kind.tag.toList ++ own = before ++ (Text.decimal n).toList) :
    ∃ leading, before = kind.tag.toList ++ leading ∧ own = leading ++ (Text.decimal n).toList := by
  rcases List.append_eq_append_iff.mp h with ⟨leading, hbefore, hown⟩ | ⟨lacking, htag, hdigits⟩
  · exact ⟨leading, hbefore, hown⟩
  · -- What is lacking of the tag stands at the front of the digits, and the tag has no digits.
    have hnothing : lacking = [] := by
      rw [List.eq_nil_iff_forall_not_mem]
      intro c hc
      have hletter := Kind.isDigit_of_mem_tag (htag ▸ List.mem_append_right before hc)
      have hdigit : c.isDigit = true := by
        apply Nat.isDigit_of_mem_toDigits (b := 10) (n := n) (by decide) (by decide)
        rw [← Text.toList_decimal, hdigits]
        exact List.mem_append_left _ hc
      rw [hletter] at hdigit
      cases hdigit
    subst hnothing
    exact ⟨[], by rw [htag, List.append_nil, List.append_nil], hdigits.symm⟩

/-- In front of an epoch the key of a kind has its tag and the digits that the epoch leaves of the
key's own. -/
theorem labelBefore?_key_eq_some_iff {kind : Kind} {other : UInt64} :
    labelBefore? (kind.key epoch) other = some label ↔
      ∃ leading, Text.decimal epoch.toNat = leading ++ Text.decimal other.toNat ∧
        label = kind.tag ++ leading := by
  rw [labelBefore?_eq_some_iff]
  constructor
  · intro hkey
    rw [Kind.key, ← String.toList_inj, String.toList_append, String.toList_append] at hkey
    obtain ⟨leading, hlabel, hown⟩ := Kind.exists_leading hkey
    refine ⟨String.ofList leading, ?_, ?_⟩
    · rw [← String.toList_inj, String.toList_append, String.toList_ofList, hown]
    · rw [← String.toList_inj, String.toList_append, String.toList_ofList, hlabel]
  · rintro ⟨leading, hdecimal, rfl⟩
    rw [Kind.key, hdecimal, String.append_assoc]

/-- The digits of another epoch may end those of an epoch, but they never leave the bare tag. -/
theorem labelBefore?_key_eq_tag_iff {kind : Kind} {other : UInt64} :
    labelBefore? (kind.key epoch) other = some kind.tag ↔ epoch = other := by
  rw [labelBefore?_eq_some_iff]
  constructor
  · intro hkey
    have hsame : kind.key epoch = kind.key other := hkey
    exact (Kind.key_injective hsame).2
  · rintro rfl
    rfl

end

/-- A key has a label for an epoch exactly if it is this label with the digits of the epoch behind
it, and exactly if the label stands in front of their last occurrence and they end the key there. So
finding it is removing the digits from the end of the key. From the key of a kind the digits of an
epoch leave the tag exactly if this is the epoch of the key. If they only end the digits of the key,
they leave the tag with the digits in front of them. -/
theorem label_found_by_removing_epoch :
    (∀ (key : String) (epoch : UInt64) (label : String),
      (labelBefore? key epoch = some label ↔ key = label ++ Text.decimal epoch.toNat) ∧
      (labelBefore? key epoch = some label ↔ BeforeLast key epoch label)) ∧
    (∀ (key : String) (epoch : UInt64), labelBefore? key epoch =
      (key.toList.dropSuffix? (Text.decimal epoch.toNat).toList).map String.ofList) ∧
    ∀ (kind : Kind) (epoch other : UInt64),
      (labelBefore? (kind.key epoch) other = some kind.tag ↔ epoch = other) ∧
      ∀ label, labelBefore? (kind.key epoch) other = some label ↔
        ∃ leading, Text.decimal epoch.toNat = leading ++ Text.decimal other.toNat ∧
          label = kind.tag ++ leading := by
  refine ⟨?_, ?_, ?_⟩
  · intro key epoch label
    exact ⟨labelBefore?_eq_some_iff, labelBefore?_eq_some_iff_beforeLast⟩
  · intro key epoch
    exact labelBefore?_eq_dropSuffix?
  · intro kind epoch other
    exact ⟨labelBefore?_key_eq_tag_iff, fun _ => labelBefore?_key_eq_some_iff⟩

/-- The pairs among four equal digits overlap, and the last pair is removed. -/
example : labelBefore? "x1111" 11 = some "x11" := by decide +kernel

/-- An epoch of one digit leaves a digit of the key, and no tag. -/
example : labelBefore? (Kind.heartbeat.key 22) 2 = some "heartbeat2" := by decide +kernel

end ControlPool
