/-!
# Occurrences of a text in a text

The last place where a text occurs, and whether it occurs at all.
-/

namespace ControlPool.Text

/-- Cuts a text in two where `mark` begins for the last time. -/
def cutAtLast (mark : List Char) : List Char → Option (List Char × List Char)
  | [] => if mark = [] then some ([], []) else none
  | c :: rest =>
    match cutAtLast mark rest with
    | some (before, tail) => some (c :: before, tail)
    | none => if mark.isPrefixOf (c :: rest) then some ([], c :: rest) else none

/-- The two parts of a cut text are the text, and the second begins with `mark`. -/
theorem of_cutAtLast {mark text before tail : List Char}
    (h : cutAtLast mark text = some (before, tail)) : text = before ++ tail ∧ mark <+: tail := by
  induction text generalizing before with
  | nil =>
    rw [cutAtLast] at h
    split at h
    · next empty => cases h; exact ⟨rfl, empty ▸ List.prefix_rfl⟩
    · cases h
  | cons c rest ih =>
    rw [cutAtLast] at h
    split at h
    · next cut => cases h; exact ⟨by rw [(ih cut).1, List.cons_append], (ih cut).2⟩
    · split at h
      · next begins => cases h; exact ⟨rfl, List.isPrefixOf_iff_prefix.1 begins⟩
      · cases h

/-- What stands before `mark`, if the last occurrence of `mark` ends the text. -/
def beforeFinal? (mark text : List Char) : Option (List Char) :=
  match cutAtLast mark text with
  | some (before, tail) => if tail = mark then some before else none
  | none => none

/-- Whether `mark` occurs in a text. -/
def occursIn (mark : List Char) : List Char → Bool
  | [] => mark.isEmpty
  | c :: rest => mark.isPrefixOf (c :: rest) || occursIn mark rest

/-- A text occurs in another exactly when it is one of its infixes. -/
theorem occursIn_iff {mark text : List Char} : occursIn mark text = true ↔ mark <:+: text := by
  induction text with
  | nil => simp [occursIn, List.infix_nil]
  | cons c rest ih => simp [occursIn, ih, List.infix_cons_iff]

end ControlPool.Text
