import ControlPool.Admission
import ControlPool.Proofs.LastOccurrence
import Mathlib.Data.List.Infix

/-!
# Admissible keys

A key is admitted for exactly one kind and epoch: it is the tag of the kind followed by the
number of the upcoming epoch. A tag has no digits and no tag occurs in another, so the tag of an
admissible key is the only one that occurs in it, and classifying the key by any tag that occurs
finds the kind for which it was admitted.
-/

namespace ControlPool

namespace Kind

/-- A tag is written without digits. -/
theorem isDigit_of_mem_tag {kind : Kind} {c : Char} (h : c ∈ kind.tag.toList) :
    c.isDigit = false := by
  have hall : kind.tag.toList.all (!·.isDigit) = true := by cases kind <;> rfl
  rw [List.all_eq_true] at hall
  simpa using hall c h

/-- No tag occurs in the tag of another kind. -/
theorem eq_of_tag_infix_tag {a b : Kind} (h : a.tag.toList <:+: b.tag.toList) : a = b := by
  cases a <;> cases b <;> first | rfl | exact absurd h (by decide)

/-- The key of a kind for an epoch begins with the tag and ends with the digits of the epoch. -/
theorem toList_key (kind : Kind) (epoch : UInt64) :
    (kind.key epoch).toList = kind.tag.toList ++ Nat.toDigits 10 epoch.toNat := by
  rw [key, String.toList_append, Text.toList_decimal]

/-- The letters of a key are those of its tag. -/
theorem filter_toList_key (kind : Kind) (epoch : UInt64) :
    (kind.key epoch).toList.filter (fun c => !c.isDigit) = kind.tag.toList := by
  rw [toList_key, List.filter_append]
  have htag : kind.tag.toList.filter (fun c => !c.isDigit) = kind.tag.toList :=
    List.filter_eq_self.mpr fun c hc => by simp [isDigit_of_mem_tag hc]
  have hdigits : (Nat.toDigits 10 epoch.toNat).filter (fun c => !c.isDigit) = [] :=
    List.filter_eq_nil_iff.mpr fun c hc => by
      simp [Nat.isDigit_of_mem_toDigits (by decide) (by decide) hc]
  rw [htag, hdigits, List.append_nil]

/-- The only tag that occurs in a key is that of its kind. -/
theorem tag_infix_key_iff {a b : Kind} {epoch : UInt64} :
    a.tag.toList <:+: (b.key epoch).toList ↔ a = b := by
  constructor
  · intro h
    have hletters := h.filter (fun c => !c.isDigit)
    rw [filter_toList_key] at hletters
    have hself : a.tag.toList.filter (fun c => !c.isDigit) = a.tag.toList :=
      List.filter_eq_self.mpr fun c hc => by simp [isDigit_of_mem_tag hc]
    rw [hself] at hletters
    exact eq_of_tag_infix_tag hletters
  · intro hsame
    subst hsame
    rw [toList_key]
    exact (List.prefix_append _ _).isInfix

/-- Different kinds and different epochs have different keys. -/
theorem key_injective {a b : Kind} {epoch later : UInt64} (h : a.key epoch = b.key later) :
    a = b ∧ epoch = later := by
  have htag : a.tag.toList <:+: (b.key later).toList := by
    rw [← h]
    exact tag_infix_key_iff.mpr rfl
  obtain rfl : a = b := tag_infix_key_iff.mp htag
  have hdecimal : Text.decimal epoch.toNat = Text.decimal later.toNat := by
    have hlists := congrArg String.toList h
    rw [key, key, String.toList_append, String.toList_append] at hlists
    exact String.toList_inj.mp (List.append_cancel_left hlists)
  exact ⟨rfl, UInt64.toNat_inj.mp (Text.decimal_injective hdecimal)⟩

/-- Looking for a tag in a key is comparing kinds. -/
theorem occursIn_tag_key (other kind : Kind) (epoch : UInt64) :
    Text.occursIn other.tag.toList (kind.key epoch).toList = decide (other = kind) := by
  rw [Bool.eq_iff_iff, Text.occursIn_iff, tag_infix_key_iff, decide_eq_true_eq]

/-- The key of a kind is classified to that kind. -/
theorem classify?_key (kind : Kind) (epoch : UInt64) : classify? (kind.key epoch) = some kind := by
  simp only [classify?, occursIn_tag_key]
  cases kind <;> rfl

end Kind

/-- What stands before an epoch is what the key has in front of the digits of the epoch. -/
theorem labelBefore?_eq_some_iff {key label : String} {epoch : UInt64} :
    labelBefore? key epoch = some label ↔ key = label ++ Text.decimal epoch.toNat := by
  rw [labelBefore?, Option.map_eq_some_iff, ← String.toList_inj, String.toList_append]
  constructor
  · intro hsplit
    obtain ⟨before, hbefore, rfl⟩ := hsplit
    rw [String.toList_ofList]
    exact Text.beforeFinal?_eq_some_iff.mp hbefore
  · intro h
    exact ⟨label.toList, Text.beforeFinal?_eq_some_iff.mpr h, String.ofList_toList⟩

/-- A key is admitted exactly if it is the key of the kind for the upcoming epoch and the window,
the role and the selection of the kind are in order. -/
theorem decideKey_eq_ok_iff {schedule : Schedule} {roles : RoleOracle} {sender : Address}
    {key : String} {head : Head} {admission : Admission} :
    decideKey schedule roles sender key head = .ok admission ↔
      admission.epoch = schedule.upcomingEpoch head.height ∧
        key = admission.kind.key admission.epoch ∧
        judgeKind schedule roles sender head admission.kind = .ok () := by
  constructor
  · intro h
    simp only [decideKey] at h
    split at h
    · cases h
    · next label hlabel =>
      split at h
      · cases h
      · next kind hkind =>
        cases hjudge : judgeKind schedule roles sender head kind with
        | error failure => simp [hjudge, Except.map] at h
        | ok _ =>
          simp only [hjudge, Except.map, Except.ok.injEq] at h
          subst h
          refine ⟨rfl, ?_, hjudge⟩
          rw [Kind.key, Kind.tag_of_ofTag? hkind]
          exact labelBefore?_eq_some_iff.mp hlabel
  · intro hadmits
    obtain ⟨hepoch, hkey, hjudge⟩ := hadmits
    have hlabel : labelBefore? key (schedule.upcomingEpoch head.height) =
        some admission.kind.tag := by
      rw [labelBefore?_eq_some_iff, hkey, Kind.key, hepoch]
    simp only [decideKey, hlabel, Kind.ofTag?_tag, hjudge, Except.map]
    rw [← hepoch]

/-- An admitted key is classified to the kind for which it was admitted. -/
theorem classify?_of_decideKey {schedule : Schedule} {roles : RoleOracle} {sender : Address}
    {key : String} {head : Head} {admission : Admission}
    (h : decideKey schedule roles sender key head = .ok admission) :
    Kind.classify? key = some admission.kind := by
  rw [(decideKey_eq_ok_iff.mp h).2.1]
  exact Kind.classify?_key _ _

end ControlPool
