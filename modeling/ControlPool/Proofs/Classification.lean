import ControlPool.Proofs.Decision
import ControlPool.Proofs.Scan

/-!
# Strict and loose reading of keys

A key is read strictly when it is judged: what stands before the upcoming epoch must be a tag. It
is read loosely when a block is scanned: the first kind counts whose tag occurs anywhere. On the
keys that the strict reading accepts both find the same kind. In such a key the digits of the epoch,
however many they are, neither complete a tag nor begin one, so no other tag occurs in it, and it
does not matter in which order the tags are looked for. Other keys may be read loosely and not
strictly.
-/

namespace ControlPool

namespace Kind

/-- The first kind of a list whose tag occurs in a key. A key is classified by the list of all
kinds. -/
def firstIn? (order : List Kind) (key : String) : Option Kind :=
  order.find? fun kind => Text.occursIn kind.tag.toList key.toList

/-- The kind that a key is read as strictly, for an epoch. -/
def readStrictly? (key : String) (epoch : UInt64) : Option Kind :=
  (labelBefore? key epoch).bind ofTag?

/-- A key is read strictly as a kind exactly if it is the key of the kind for the epoch. -/
theorem readStrictly?_eq_some_iff {key : String} {epoch : UInt64} {kind : Kind} :
    readStrictly? key epoch = some kind ↔ key = kind.key epoch := by
  rw [readStrictly?, Option.bind_eq_some_iff]
  constructor
  · rintro ⟨label, hlabel, hkind⟩
    rw [Kind.key, tag_of_ofTag? hkind]
    exact labelBefore?_eq_some_iff.mp hlabel
  · rintro rfl
    exact ⟨kind.tag, labelBefore?_eq_some_iff.mpr rfl, ofTag?_tag kind⟩

/-- In any list the kind of a key is found if it is listed, and otherwise none. -/
theorem firstIn?_key (order : List Kind) (kind : Kind) (epoch : UInt64) :
    firstIn? order (kind.key epoch) = if kind ∈ order then some kind else none := by
  simp only [firstIn?, occursIn_tag_key]
  induction order with
  | nil => rfl
  | cons first order ih =>
    by_cases hfirst : first = kind
    · subst hfirst
      simp
    · have hother : kind ≠ first := fun h => hfirst h.symm
      simp [hfirst, hother, ih]

end Kind

/-- The tag of its own kind is the only one that occurs in a key, so looking for the kinds in any
order finds this kind. A key that is read strictly, for whatever epoch, is read loosely as the same
kind, and an admitted key is read both ways as the kind for which it is admitted, under which a scan
files it. -/
theorem readings_agree_on_admissible_keys :
    (∀ (kind : Kind) (epoch : UInt64),
      (∀ other : Kind, other.tag.toList <:+: (kind.key epoch).toList ↔ other = kind) ∧
      Kind.classify? (kind.key epoch) = some kind ∧
      ∀ order, Kind.firstIn? order (kind.key epoch) = if kind ∈ order then some kind else none) ∧
    (∀ key epoch kind, Kind.readStrictly? key epoch = some kind →
      Kind.classify? key = some kind) ∧
    ∀ (schedule : Schedule) (roles : RoleOracle) (sender : Address) (key : String) (head : Head)
      (admission : Admission), decideKey schedule roles sender key head = .ok admission →
        Kind.readStrictly? key (schedule.upcomingEpoch head.height) = some admission.kind ∧
        Kind.classify? key = some admission.kind ∧
        ∀ (scan : Scan) (signer : Address) (value : List UInt8),
          scan.addKey signer (key, value) = scan.advance [⟨admission.kind, signer, value⟩] [] 0 := by
  refine ⟨?_, ?_, ?_⟩
  · intro kind epoch
    exact ⟨fun _ => Kind.tag_infix_key_iff, Kind.classify?_key kind epoch,
      fun order => Kind.firstIn?_key order kind epoch⟩
  · intro key epoch kind h
    rw [Kind.readStrictly?_eq_some_iff.mp h]
    exact Kind.classify?_key kind epoch
  · intro schedule roles sender key head admission h
    have hread := classify?_of_decideKey h
    refine ⟨?_, hread, ?_⟩
    · obtain ⟨hepoch, hkey, -⟩ := decideKey_eq_ok_iff.mp h
      rw [Kind.readStrictly?_eq_some_iff, hkey, hepoch]
    · intro scan signer value
      rw [Scan.addKey, hread]
      rfl

open Decision.Sample in
/-- The roll call that is admitted two heights before the boundary is read both ways as a roll
call, and a scan files it as one. -/
theorem rollCall_read_alike :
    decideKey schedule roles sender "rollcall2" head = .ok ⟨.rollCall, 2⟩ ∧
      Kind.readStrictly? "rollcall2" 2 = some .rollCall ∧
      Kind.classify? "rollcall2" = some .rollCall ∧
      (Scan.start.addKey sender ("rollcall2", [1])).state =
        StateMap.fresh.file .rollCall sender [1] := by
  have hadmitted : decideKey schedule roles sender "rollcall2" head = .ok ⟨.rollCall, 2⟩ := by
    decide +kernel
  obtain ⟨-, hstrict, hjudged⟩ := readings_agree_on_admissible_keys
  obtain ⟨hread, -, hfiled⟩ := hjudged _ _ _ _ _ _ hadmitted
  exact ⟨hadmitted, hread, hstrict _ _ _ hread, congrArg Scan.state (hfiled _ _ _)⟩

end ControlPool
