import ControlPool.Text.Search
import Mathlib.Order.Bounds.Basic

/-!
# The last occurrence of a text in a text

A text is cut where another text, the mark, occurs in it for the last time. The mark may occur at
many places, and these may overlap. Where it ends the text it begins later than at any other place,
so nothing is lost by looking at the last place only: what stands in front of the last occurrence,
if nothing stands behind it, is what removing the mark from the end leaves.
-/

namespace ControlPool.Text

variable {mark text before tail : List Char} {place : Nat}

/-- Whether `mark` occurs in a text behind as many characters as given. -/
def OccursAt (mark text : List Char) (place : Nat) : Prop :=
  place ≤ text.length ∧ mark <+: text.drop place

/-- Behind the first character `mark` occurs where it occurs in the rest of the text. -/
theorem occursAt_succ_cons {c : Char} :
    OccursAt mark (c :: text) (place + 1) ↔ OccursAt mark text place := by
  simp [OccursAt]

/-- There is room for `mark` where it occurs. -/
theorem OccursAt.add_length_le (h : OccursAt mark text place) :
    place + mark.length ≤ text.length := by
  have hroom := h.2.length_le
  rw [List.length_drop] at hroom
  have hplace := h.1
  omega

/-- The last place in the rest of a text is the last one in the text. -/
theorem isGreatest_occursAt_cons {c : Char}
    (h : IsGreatest {place | OccursAt mark text place} place) :
    IsGreatest {place | OccursAt mark (c :: text) place} (place + 1) := by
  refine ⟨occursAt_succ_cons.mpr h.1, ?_⟩
  intro other hother
  cases other with
  | zero => exact Nat.zero_le _
  | succ other => exact Nat.succ_le_succ (h.2 (occursAt_succ_cons.mp hother))

/-- The first place in a text is the last one if `mark` does not occur in the rest. -/
theorem isGreatest_occursAt_zero {c : Char} (hfirst : mark <+: c :: text)
    (hrest : ∀ place, ¬OccursAt mark text place) :
    IsGreatest {place | OccursAt mark (c :: text) place} 0 := by
  refine ⟨⟨Nat.zero_le _, hfirst⟩, ?_⟩
  intro other hother
  cases other with
  | zero => exact Nat.le_refl _
  | succ other => exact absurd (occursAt_succ_cons.mp hother) (hrest other)

/-- Where `mark` ends a text it occurs for the last time, even if it overlaps with itself. -/
theorem isGreatest_occursAt_append (mark before : List Char) :
    IsGreatest {place | OccursAt mark (before ++ mark) place} before.length := by
  constructor
  · have hend : (before ++ mark).drop before.length = mark := List.drop_left
    exact ⟨by simp, by simp only [hend, List.prefix_rfl]⟩
  · intro place hplace
    have hroom := OccursAt.add_length_le hplace
    rw [List.length_append] at hroom
    omega

/-- A text that is not cut has no place at which `mark` occurs. -/
theorem not_occursAt_of_cutAtLast (h : cutAtLast mark text = none) : ¬OccursAt mark text place := by
  induction text generalizing place with
  | nil =>
    rw [cutAtLast] at h
    split at h
    · cases h
    · next hmark =>
      rintro ⟨-, hprefix⟩
      rw [List.drop_nil] at hprefix
      exact hmark (List.prefix_nil.mp hprefix)
  | cons c rest ih =>
    rw [cutAtLast] at h
    split at h
    · cases h
    · next hrest =>
      split at h
      · cases h
      · next hfirst =>
        cases place with
        | zero => exact fun hplace => hfirst (List.isPrefixOf_iff_prefix.mpr hplace.2)
        | succ place => exact fun hplace => ih hrest (occursAt_succ_cons.mp hplace)

/-- A text is cut at the last place at which `mark` occurs. -/
theorem isGreatest_occursAt_of_cutAtLast (h : cutAtLast mark text = some (before, tail)) :
    IsGreatest {place | OccursAt mark text place} before.length := by
  induction text generalizing before with
  | nil =>
    rw [cutAtLast] at h
    split at h
    · next hmark =>
      cases h
      subst hmark
      exact ⟨⟨Nat.le_refl _, List.nil_prefix⟩, fun place hplace => hplace.1⟩
    · cases h
  | cons c rest ih =>
    rw [cutAtLast] at h
    split at h
    · next hrest =>
      cases h
      exact isGreatest_occursAt_cons (ih hrest)
    · next hrest =>
      split at h
      · next hfirst =>
        cases h
        exact isGreatest_occursAt_zero (List.isPrefixOf_iff_prefix.mp hfirst)
          fun _ => not_occursAt_of_cutAtLast hrest
      · cases h

/-- A text is cut exactly at the last place at which `mark` occurs. -/
theorem cutAtLast_eq_some_iff :
    cutAtLast mark text = some (before, tail) ↔
      text = before ++ tail ∧ IsGreatest {place | OccursAt mark text place} before.length := by
  constructor
  · intro h
    exact ⟨(of_cutAtLast h).1, isGreatest_occursAt_of_cutAtLast h⟩
  · rintro ⟨htext, hlast⟩
    cases hcut : cutAtLast mark text with
    | none => exact absurd hlast.1 (not_occursAt_of_cutAtLast hcut)
    | some parts =>
      have hparts := (of_cutAtLast hcut).1
      have hlength := hlast.unique (isGreatest_occursAt_of_cutAtLast hcut)
      rw [htext] at hparts
      obtain ⟨hbefore, htail⟩ := List.append_inj hparts hlength
      rw [hbefore, htail]

/-- What stands in front of `mark` is what stands in front of its last place, if the text ends with
`mark` there. -/
theorem beforeFinal?_eq_some_iff_isGreatest :
    beforeFinal? mark text = some before ↔
      ∃ place, IsGreatest {place | OccursAt mark text place} place ∧
        text.drop place = mark ∧ text.take place = before := by
  constructor
  · intro h
    rw [beforeFinal?] at h
    split at h
    · next front tail hcut =>
      split at h
      · next hfinal =>
        cases h
        obtain ⟨htext, hlast⟩ := cutAtLast_eq_some_iff.mp hcut
        refine ⟨_, hlast, ?_, ?_⟩
        · rw [htext, List.drop_left, hfinal]
        · rw [htext, List.take_left]
      · cases h
    · cases h
  · rintro ⟨place, hlast, hfinal, rfl⟩
    have hlength : (text.take place).length = place := List.length_take_of_le hlast.1.1
    have hcut : cutAtLast mark text = some (text.take place, mark) := by
      rw [cutAtLast_eq_some_iff, hlength, ← hfinal, List.take_append_drop]
      exact ⟨rfl, hfinal ▸ hlast⟩
    rw [beforeFinal?, hcut]
    exact if_pos rfl

/-- Cutting at the last occurrence and comparing the tail is the same as removing `mark` from the
end of the text. -/
theorem beforeFinal?_eq_some_iff : beforeFinal? mark text = some before ↔ text = before ++ mark := by
  rw [beforeFinal?_eq_some_iff_isGreatest]
  constructor
  · rintro ⟨place, -, hfinal, rfl⟩
    rw [← hfinal, List.take_append_drop]
  · rintro rfl
    exact ⟨before.length, isGreatest_occursAt_append mark before, List.drop_left, List.take_left⟩

end ControlPool.Text
