/-!
# Ordered maps

A finite map as the list of its entries in strictly increasing key order. The order is part
of the type, so two maps with the same entries are equal, and reading the entries back
rebuilds the map. Insertion replaces the value of a key that is already present.
-/

namespace ControlPool

/-- A finite map, held as its entries in strictly increasing key order. -/
@[ext] structure OrderedMap (κ α : Type) [Ord κ] where
  entries : List (κ × α)
  sorted : entries.Pairwise (fun a b => compare a.1 b.1 = .lt)

namespace OrderedMap

variable {κ α : Type} [Ord κ]

instance [DecidableEq κ] [DecidableEq α] : DecidableEq (OrderedMap κ α) := fun m m' =>
  decidable_of_iff (m.entries = m'.entries) OrderedMap.ext_iff.symm

/-- The map without entries. -/
def empty : OrderedMap κ α := ⟨[], .nil⟩

instance : Inhabited (OrderedMap κ α) := ⟨empty⟩

/-- Sets the value of a key in a list of entries with increasing keys. -/
def insertEntry (key : κ) (value : α) : List (κ × α) → List (κ × α)
  | [] => [(key, value)]
  | entry :: rest =>
    match compare key entry.1 with
    | .lt => (key, value) :: entry :: rest
    | .eq => (key, value) :: rest
    | .gt => entry :: insertEntry key value rest

/-- An inserted entry is the new one or was there before. -/
theorem mem_insertEntry {key : κ} {value : α} {entries : List (κ × α)} {entry : κ × α}
    (h : entry ∈ insertEntry key value entries) : entry = (key, value) ∨ entry ∈ entries := by
  induction entries with
  | nil => simpa [insertEntry] using h
  | cons head rest ih =>
    rw [insertEntry] at h
    split at h
    · simpa using h
    · simp only [List.mem_cons] at h ⊢
      exact h.imp_right .inr
    · simp only [List.mem_cons] at h ⊢
      rcases h with h | h
      · exact .inr (.inl h)
      · exact (ih h).imp_right .inr

/-- Setting a value keeps the keys strictly increasing. -/
theorem pairwise_insertEntry [Std.TransOrd κ] [Std.LawfulEqOrd κ] (key : κ) (value : α)
    {entries : List (κ × α)} (sorted : entries.Pairwise (fun a b => compare a.1 b.1 = .lt)) :
    (insertEntry key value entries).Pairwise (fun a b => compare a.1 b.1 = .lt) := by
  induction entries with
  | nil => simp [insertEntry]
  | cons head rest ih =>
    obtain ⟨above, sortedRest⟩ := List.pairwise_cons.1 sorted
    rw [insertEntry]
    split
    case h_1 below =>
      refine List.pairwise_cons.2 ⟨fun entry h => ?_, sorted⟩
      rcases List.mem_cons.1 h with rfl | h
      · exact below
      · exact Std.TransCmp.lt_trans below (above entry h)
    case h_2 same =>
      have same := Std.LawfulEqCmp.eq_of_compare same
      exact List.pairwise_cons.2 ⟨fun entry h => same ▸ above entry h, sortedRest⟩
    case h_3 beyond =>
      refine List.pairwise_cons.2 ⟨fun entry h => ?_, ih sortedRest⟩
      rcases mem_insertEntry h with rfl | h
      · exact Std.OrientedCmp.lt_of_gt beyond
      · exact above entry h

/-- Sets the value of a key, replacing the value it had. -/
def insert [Std.TransOrd κ] [Std.LawfulEqOrd κ] (map : OrderedMap κ α) (key : κ) (value : α) :
    OrderedMap κ α :=
  ⟨insertEntry key value map.entries, pairwise_insertEntry key value map.sorted⟩

/-- The value of a key. -/
def get? [DecidableEq κ] (map : OrderedMap κ α) (key : κ) : Option α :=
  (map.entries.find? (·.1 = key)).map (·.2)

/-- Removes a key and its value. -/
def erase [DecidableEq κ] (map : OrderedMap κ α) (key : κ) : OrderedMap κ α :=
  ⟨map.entries.filter (·.1 ≠ key), map.sorted.filter _⟩

/-- The number of keys. -/
def size (map : OrderedMap κ α) : Nat := map.entries.length

/-- Whether there is no key. -/
def isEmpty (map : OrderedMap κ α) : Bool := map.entries.isEmpty

/-- The map of a list of entries; of two entries with one key the later holds. -/
def ofList [Std.TransOrd κ] [Std.LawfulEqOrd κ] (entries : List (κ × α)) : OrderedMap κ α :=
  entries.foldl (fun map entry => map.insert entry.1 entry.2) empty

variable [Std.TransOrd κ] [Std.LawfulEqOrd κ]

/-- A value that was set is found. -/
@[simp] theorem get?_insert_self [DecidableEq κ] (map : OrderedMap κ α) (key : κ) (value : α) :
    (map.insert key value).get? key = some value := by
  suffices ∀ entries : List (κ × α),
      ((insertEntry key value entries).find? (·.1 = key)).map (·.2) = some value from
    this map.entries
  intro entries
  induction entries with
  | nil => simp [insertEntry]
  | cons head rest ih =>
    rw [insertEntry]
    split
    · simp
    · simp
    case h_3 beyond =>
      have differs : head.1 ≠ key := by
        rintro rfl
        rw [Std.ReflOrd.compare_self] at beyond
        cases beyond
      simpa [differs] using ih

/-- Setting a value leaves those of other keys alone. -/
theorem get?_insert_of_ne [DecidableEq κ] (map : OrderedMap κ α) {key other : κ} (value : α)
    (h : other ≠ key) : (map.insert key value).get? other = map.get? other := by
  suffices ∀ entries : List (κ × α),
      (insertEntry key value entries).find? (·.1 = other) = entries.find? (·.1 = other) by
    simp only [get?, insert, this]
  intro entries
  induction entries with
  | nil => simp [insertEntry, h.symm]
  | cons head rest ih =>
    rw [insertEntry]
    split
    · simp [h.symm]
    case h_2 same =>
      have same : key = head.1 := Std.LawfulEqCmp.eq_of_compare same
      simp [← same, h.symm]
    · simp [List.find?_cons, ih]

omit [Std.TransOrd κ] [Std.LawfulEqOrd κ] in
/-- A key that is removed is not found, and the values of others are left alone. -/
theorem get?_erase [DecidableEq κ] (map : OrderedMap κ α) (erased key : κ) :
    (map.erase erased).get? key = if key = erased then none else map.get? key := by
  rw [get?, erase, List.find?_filter]
  by_cases same : key = erased
  · simp [same]
  · rw [if_neg same, get?]
    congr 2
    funext entry
    by_cases found : entry.1 = key
    · simp [found, same]
    · simp [found]

omit [Std.TransOrd κ] in
/-- Different entries have different keys. -/
theorem pairwise_ne (map : OrderedMap κ α) : map.entries.Pairwise (fun a b => a.1 ≠ b.1) := by
  apply map.sorted.imp
  intro a b below same
  rw [same, Std.ReflOrd.compare_self] at below
  cases below

omit [Std.TransOrd κ] in
/-- No key stands twice. -/
theorem nodup_keys (map : OrderedMap κ α) : (map.entries.map (·.1)).Nodup :=
  List.pairwise_map.mpr map.pairwise_ne

omit [Std.TransOrd κ] in
/-- The value of a key is the one that stands with it in the entries. -/
theorem get?_eq_some_iff [DecidableEq κ] {map : OrderedMap κ α} {key : κ} {value : α} :
    map.get? key = some value ↔ (key, value) ∈ map.entries := by
  rw [get?, Option.map_eq_some_iff]
  constructor
  · intro found
    obtain ⟨⟨other, _⟩, find, rfl⟩ := found
    have same : other = key := by simpa using List.find?_some find
    exact same ▸ List.mem_of_find?_eq_some find
  · intro mem
    refine ⟨(key, value), ?_, rfl⟩
    obtain ⟨before, after, split⟩ := List.append_of_mem mem
    have differs := map.pairwise_ne
    rw [split, List.pairwise_append] at differs
    have none : before.find? (·.1 = key) = none := by
      rw [List.find?_eq_none]
      intro entry h same
      exact differs.2.2 entry h _ List.mem_cons_self (by simpa using same)
    simp [split, List.find?_append, none]

/-- A value is set where the entry of its key stood, or between others. -/
theorem exists_insert [DecidableEq κ] (map : OrderedMap κ α) (key : κ) (value : α) :
    ∃ before after, (map.insert key value).entries = before ++ (key, value) :: after ∧
      map.entries = before ++ (((map.get? key).map (key, ·)).toList ++ after) := by
  suffices ∀ entries : List (κ × α), entries.Pairwise (fun a b => compare a.1 b.1 = .lt) →
      ∃ before after, insertEntry key value entries = before ++ (key, value) :: after ∧
        entries = before ++
          ((((entries.find? (·.1 = key)).map (·.2)).map (key, ·)).toList ++ after) from
    this map.entries map.sorted
  intro entries sorted
  induction entries with
  | nil => exact ⟨[], [], rfl, rfl⟩
  | cons head rest ih =>
    obtain ⟨above, sortedRest⟩ := List.pairwise_cons.1 sorted
    rw [insertEntry]
    split
    case h_1 below =>
      have none : (head :: rest).find? (·.1 = key) = none := by
        rw [List.find?_eq_none]
        intro entry h same
        have beyond : compare key entry.1 = .lt := by
          rcases List.mem_cons.1 h with rfl | h
          · exact below
          · exact Std.TransCmp.lt_trans below (above entry h)
        rw [of_decide_eq_true same, Std.ReflOrd.compare_self] at beyond
        cases beyond
      exact ⟨[], head :: rest, rfl, by rw [none]; rfl⟩
    case h_2 same =>
      have same : key = head.1 := Std.LawfulEqCmp.eq_of_compare same
      exact ⟨[], rest, rfl, by simp [same]⟩
    case h_3 beyond =>
      have differs : head.1 ≠ key := by
        rintro rfl
        rw [Std.ReflOrd.compare_self] at beyond
        cases beyond
      obtain ⟨before, after, grown, parts⟩ := ih sortedRest
      refine ⟨head :: before, after, by rw [grown, List.cons_append], ?_⟩
      rw [List.find?_cons_of_neg (by simpa using differs), List.cons_append, ← parts]

omit [Std.LawfulEqOrd κ] in
/-- An entry beyond all others is set at the end. -/
theorem insertEntry_of_beyond {key : κ} {value : α} {entries : List (κ × α)}
    (beyond : ∀ entry ∈ entries, compare entry.1 key = .lt) :
    insertEntry key value entries = entries ++ [(key, value)] := by
  induction entries with
  | nil => rfl
  | cons head rest ih =>
    have above : compare key head.1 = .gt :=
      Std.OrientedCmp.gt_of_lt (beyond head List.mem_cons_self)
    rw [insertEntry, above, List.cons_append]
    exact congrArg (head :: ·) (ih fun entry h => beyond entry (List.mem_cons_of_mem _ h))

/-- Reading the entries of a map back gives the map. -/
@[simp] theorem ofList_entries (map : OrderedMap κ α) : ofList map.entries = map := by
  suffices ∀ (rest : List (κ × α)) (start : OrderedMap κ α),
      (start.entries ++ rest).Pairwise (fun a b => compare a.1 b.1 = .lt) →
      (rest.foldl (fun map entry => map.insert entry.1 entry.2) start).entries =
        start.entries ++ rest from
    OrderedMap.ext (this map.entries empty map.sorted)
  intro rest
  induction rest with
  | nil => intro start _; simp
  | cons entry rest ih =>
    intro start sorted
    have beyond : ∀ before ∈ start.entries, compare before.1 entry.1 = .lt := fun before h =>
      (List.pairwise_append.1 sorted).2.2 before h entry List.mem_cons_self
    have grown : (start.insert entry.1 entry.2).entries = start.entries ++ [entry] :=
      insertEntry_of_beyond beyond
    rw [List.foldl_cons, ih, grown, List.append_assoc, List.singleton_append]
    rw [grown, List.append_assoc, List.singleton_append]
    exact sorted

/-- The entries of a map that is built from a list come from it. -/
theorem mem_of_mem_ofList {entries : List (κ × α)} {entry : κ × α}
    (h : entry ∈ (ofList entries).entries) : entry ∈ entries := by
  have hinserted (rest : List (κ × α)) (map : OrderedMap κ α)
      (h : entry ∈ (rest.foldl (fun map entry => map.insert entry.1 entry.2) map).entries) :
      entry ∈ rest ∨ entry ∈ map.entries := by
    induction rest generalizing map with
    | nil => exact .inr h
    | cons first rest ih =>
      rcases ih _ h with h | h
      · exact .inl (List.mem_cons_of_mem _ h)
      · rcases mem_insertEntry h with rfl | h
        · exact .inl List.mem_cons_self
        · exact .inr h
  exact (hinserted entries empty h).resolve_right List.not_mem_nil

end OrderedMap

end ControlPool
