import ControlPool.Json.Shape
import ControlPool.Proofs.JsonText

/-!
# Shapes of JSON values are read back

What is written as a number, a byte string or an object with named members is read back as it was. A
record is read back field by field, because its names are different and none is left out.
-/

namespace ControlPool.Json

/-- A number is read back as it was. -/
theorem natural?_ofNat (n : Nat) : (ofNat n).natural? = some n := ofDecimal?_decimal n

/-- A number below a bound is read back as it was. -/
theorem below?_ofNat {bound n : Nat} (h : n < bound) : (ofNat n).below? bound = some n := by
  rw [below?, natural?_ofNat, Option.bind_some, if_pos h]

/-- A word is read back as it was. -/
theorem word?_ofNat (word : UInt64) : (ofNat word.toNat).word? = some word := by
  rw [word?, below?_ofNat word.toNat_lt_size, Option.map_some, UInt64.ofNat_toNat]

/-- A byte is read back as it was. -/
theorem byte?_ofNat (byte : UInt8) : (ofNat byte.toNat).byte? = some byte := by
  rw [byte?, below?_ofNat byte.toNat_lt_size, Option.map_some, UInt8.ofNat_toNat]

/-- Reading all of a list reads each of its parts. -/
theorem map_eq_of_mapM {α β : Type} {read : α → Option β} {list : List α} {result : List β}
    (h : list.mapM read = some result) : list.map read = result.map some := by
  induction list generalizing result with
  | nil =>
    obtain rfl := Option.some.inj h
    rfl
  | cons part list ih =>
    rw [List.mapM_cons, Option.bind_eq_bind, Option.bind_eq_some_iff] at h
    obtain ⟨first, hfirst, hrest⟩ := h
    obtain ⟨rest, hlist, hresult⟩ := Option.bind_eq_some_iff.mp hrest
    obtain rfl := Option.some.inj hresult
    rw [List.map_cons, List.map_cons, hfirst, ih hlist]

/-- What is read back item by item is read back as a whole. -/
theorem mapM_map_eq_some {α β : Type} {write : α → β} {read : β → Option α}
    (h : ∀ a, read (write a) = some a) (list : List α) :
    (list.map write).mapM read = some list := by
  induction list with
  | nil => rfl
  | cons a list ih => simp [h, ih]

/-- A byte string is read back as it was. -/
theorem bytes?_ofBytes (bytes : List UInt8) : (ofBytes bytes).bytes? = some bytes :=
  mapM_map_eq_some byte?_ofNat bytes

/-- A byte string has natural numbers. -/
theorem natural_ofBytes (bytes : List UInt8) : (ofBytes bytes).Natural := by
  apply natural_array
  intro item hitem
  obtain ⟨byte, -, rfl⟩ := List.mem_map.mp hitem
  exact natural_ofNat byte.toNat

/-- An object with the given members under names that are texts. -/
def ofMembers (members : List (String × Json)) : Json :=
  .object (members.map fun (name, value) => member name value)

/-- The members of an object are read back as they were. -/
theorem members?_ofMembers (members : List (String × Json)) :
    (ofMembers members).members? = some members := by
  apply mapM_map_eq_some
  intro (name, value)
  simp [member]

/-- An object has natural numbers if the values of its members have. -/
theorem natural_ofMembers (members : List (String × Json))
    (h : ∀ member ∈ members, member.2.Natural) : (ofMembers members).Natural := by
  apply natural_object
  intro found hfound
  obtain ⟨member, hmember, rfl⟩ := List.mem_map.mp hfound
  exact h member hmember

/-- A field that stands once among members is found. -/
theorem field?_of_mem {members : List (String × Json)} (hnames : (members.map (·.1)).Nodup)
    {name : String} {value : Json} (h : (name, value) ∈ members) :
    field? members name = some (some value) := by
  obtain ⟨before, after, rfl⟩ := List.append_of_mem h
  rw [List.map_append, List.map_cons, List.nodup_append, List.nodup_cons] at hnames
  obtain ⟨-, ⟨hafter, -⟩, hbefore⟩ := hnames
  have hnone : before.filter (·.1 = name) = [] ∧ after.filter (·.1 = name) = [] := by
    simp only [List.filter_eq_nil_iff, decide_eq_true_eq]
    constructor
    · intro other hother
      exact hbefore _ (List.mem_map_of_mem hother) _ List.mem_cons_self
    · intro other hother hsame
      exact hafter (List.mem_map.mpr ⟨other, hother, hsame⟩)
  have hfilter : (before ++ (name, value) :: after).filter (·.1 = name) = [(name, value)] := by
    rw [List.filter_append, hnone.1, List.filter_cons_of_pos (by simp), hnone.2, List.nil_append]
  rw [field?, hfilter]

/-- A record whose names are different is read back field by field. -/
theorem record?_ofMembers (members : List (String × Json))
    (hnames : (members.map (·.1)).Nodup) :
    (ofMembers members).record? (members.map (·.1)) =
      some (members.map fun member => some member.2) := by
  have hfields {part : List (String × Json)} (h : ∀ member ∈ part, member ∈ members) :
      (part.map (·.1)).mapM (field? members) = some (part.map fun member => some member.2) := by
    induction part with
    | nil => rfl
    | cons member part ih =>
      obtain ⟨hmember, hpart⟩ := List.forall_mem_cons.mp h
      simp [field?_of_mem hnames hmember, ih hpart]
  change ((ofMembers members).members?.bind fun found =>
    (members.map (·.1)).mapM (field? found)) = _
  rw [members?_ofMembers, Option.bind_some]
  exact hfields fun _ hmember => hmember

end ControlPool.Json
