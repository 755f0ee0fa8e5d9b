import ControlPool.Json.Reader
import ControlPool.Proofs.JsonTokens

/-!
# Texts of JSON values are read back

In the tokens of a value a bracket, a brace, a colon or a comma stands between any two words or
numbers, so the tokens are found again in the text of the value, and the reader, which holds the
containers under way on a stack, builds the value from them. This holds of every value whose numbers
are natural ones, to any depth and with any bytes in its strings.
-/

namespace ControlPool.Json

/-- The tokens of the items of an array behind the first, each after a comma. -/
def itemTokens (items : List Json) : List Token := items.flatMap fun item => .comma :: item.tokens

/-- The tokens of a member of an object. -/
def memberTokens (member : List UInt8 × Json) : List Token :=
  .string member.1 :: .colon :: member.2.tokens

/-- The tokens of the members of an object behind the first, each after a comma. -/
def membersTokens (members : List (List UInt8 × Json)) : List Token :=
  members.flatMap fun member => .comma :: memberTokens member

mutual

/-- The tokens of a value are put behind those that were there. -/
theorem emit_eq (json : Json) (out : List Token) : emit json out = json.tokens.reverse ++ out := by
  cases json with
  | null => rfl
  | bool value => rfl
  | number text => rfl
  | string octets => rfl
  | array items =>
    cases items with
    | nil => rfl
    | cons item items =>
      simp only [tokens, emit, List.reverse_reverse, List.cons_append]
      rw [emitItems_eq, emitItems_eq items (emit item [.beginArray]), emit_eq item,
        emit_eq item [.beginArray]]
      simp only [List.append_assoc, List.singleton_append]
  | object members =>
    cases members with
    | nil => rfl
    | cons member members =>
      obtain ⟨name, value⟩ := member
      simp only [tokens, emit, List.reverse_reverse, List.cons_append]
      rw [emitMembers_eq, emitMembers_eq members (emit value _), emit_eq value,
        emit_eq value [.colon, .string name, .beginObject]]
      simp only [List.append_assoc, List.cons_append, List.nil_append]

/-- The tokens of items are put behind those that were there. -/
theorem emitItems_eq (items : List Json) (out : List Token) :
    emitItems items out = (itemTokens items).reverse ++ out := by
  cases items with
  | nil => rfl
  | cons item items =>
    rw [emitItems, emitItems_eq items, emit_eq item, itemTokens, itemTokens]
    simp

/-- The tokens of members are put behind those that were there. -/
theorem emitMembers_eq (members : List (List UInt8 × Json)) (out : List Token) :
    emitMembers members out = (membersTokens members).reverse ++ out := by
  cases members with
  | nil => rfl
  | cons member members =>
    obtain ⟨name, value⟩ := member
    rw [emitMembers, emitMembers_eq members, emit_eq value, membersTokens, membersTokens]
    simp [memberTokens]

end

/-- The tokens of an array with items. -/
theorem tokens_array_cons (item : Json) (items : List Json) :
    (array (item :: items)).tokens =
      .beginArray :: (item.tokens ++ (itemTokens items ++ [.endArray])) := by
  rw [tokens, emit, emitItems_eq, emit_eq item]
  simp

/-- The tokens of an object with members. -/
theorem tokens_object_cons (member : List UInt8 × Json) (members : List (List UInt8 × Json)) :
    (object (member :: members)).tokens =
      .beginObject :: (memberTokens member ++ (membersTokens members ++ [.endObject])) := by
  obtain ⟨name, value⟩ := member
  rw [tokens, emit, emitMembers_eq, emit_eq value]
  simp [memberTokens]

/-- The first token of a value is one with which a value begins, so it ends no array. -/
theorem exists_tokens_eq_cons (json : Json) :
    ∃ token rest, json.tokens = token :: rest ∧ token ≠ .endArray := by
  cases json with
  | null => exact ⟨_, _, rfl, by decide⟩
  | bool value => exact ⟨_, _, rfl, fun h => nomatch h⟩
  | number text => exact ⟨_, _, rfl, fun h => nomatch h⟩
  | string octets => exact ⟨_, _, rfl, fun h => nomatch h⟩
  | array items =>
    cases items with
    | nil => exact ⟨_, _, rfl, by decide⟩
    | cons item items => exact ⟨_, _, tokens_array_cons item items, by decide⟩
  | object members =>
    cases members with
    | nil => exact ⟨_, _, rfl, by decide⟩
    | cons member members => exact ⟨_, _, tokens_object_cons member members, by decide⟩

/-- The first item of an array is read like any other value. -/
theorem foldlM_firstItem (json : Json) (frames : List Frame) :
    json.tokens.foldlM Reader.next? ⟨.firstItem, frames⟩ =
      json.tokens.foldlM Reader.next? ⟨.value, frames⟩ := by
  obtain ⟨token, rest, htokens, hother⟩ := json.exists_tokens_eq_cons
  have hnext : Reader.next? ⟨.firstItem, frames⟩ token = Reader.next? ⟨.value, frames⟩ token := by
    cases token <;> first | rfl | exact absurd rfl hother
  rw [htokens, List.foldlM_cons, List.foldlM_cons, hnext]

mutual

/-- The tokens of a value are read as that value. -/
theorem foldlM_tokens (json : Json) (frames : List Frame) :
    json.tokens.foldlM Reader.next? ⟨.value, frames⟩ = some ⟨.finished json, frames⟩ := by
  cases json with
  | null => rfl
  | bool value => rfl
  | number text => rfl
  | string octets => rfl
  | array items =>
    cases items with
    | nil => rfl
    | cons item items =>
      rw [tokens_array_cons]
      change (item.tokens ++ (itemTokens items ++ [Token.endArray])).foldlM Reader.next?
        ⟨.firstItem, .array [] :: frames⟩ = _
      rw [List.foldlM_append, foldlM_firstItem, foldlM_tokens item]
      exact foldlM_itemTokens items item [] frames
  | object members =>
    cases members with
    | nil => rfl
    | cons member members =>
      obtain ⟨name, value⟩ := member
      rw [tokens_object_cons]
      change (value.tokens ++ (membersTokens members ++ [Token.endObject])).foldlM Reader.next?
        ⟨.value, .object [] name :: frames⟩ = _
      rw [List.foldlM_append, foldlM_tokens value]
      exact foldlM_membersTokens members name value [] frames

/-- The items behind a finished one are read into its array. -/
theorem foldlM_itemTokens (items : List Json) (value : Json) (before : List Json)
    (frames : List Frame) :
    (itemTokens items ++ [Token.endArray]).foldlM Reader.next?
        ⟨.finished value, .array before :: frames⟩ =
      some ⟨.finished (.array (before.reverse ++ value :: items)), frames⟩ := by
  cases items with
  | nil =>
    rw [← List.reverse_cons]
    rfl
  | cons item items =>
    rw [itemTokens, List.flatMap_cons, ← itemTokens, List.append_assoc]
    change (item.tokens ++ (itemTokens items ++ [Token.endArray])).foldlM Reader.next?
      ⟨.value, .array (value :: before) :: frames⟩ = _
    rw [List.foldlM_append, foldlM_tokens item]
    refine (foldlM_itemTokens items item (value :: before) frames).trans ?_
    rw [List.reverse_cons, List.append_assoc, List.singleton_append]

/-- The members behind a finished one are read into its object. -/
theorem foldlM_membersTokens (members : List (List UInt8 × Json)) (name : List UInt8)
    (value : Json) (before : List (List UInt8 × Json)) (frames : List Frame) :
    (membersTokens members ++ [Token.endObject]).foldlM Reader.next?
        ⟨.finished value, .object before name :: frames⟩ =
      some ⟨.finished (.object (before.reverse ++ (name, value) :: members)), frames⟩ := by
  cases members with
  | nil =>
    rw [← List.reverse_cons]
    rfl
  | cons member members =>
    obtain ⟨next, item⟩ := member
    rw [membersTokens, List.flatMap_cons, ← membersTokens, List.append_assoc]
    change (item.tokens ++ (membersTokens members ++ [Token.endObject])).foldlM Reader.next?
      ⟨.value, .object ((name, value) :: before) next :: frames⟩ = _
    rw [List.foldlM_append, foldlM_tokens item]
    refine (foldlM_membersTokens members next item ((name, value) :: before) frames).trans ?_
    rw [List.reverse_cons, List.append_assoc, List.singleton_append]

end

/-- The tokens of a value write that value. -/
theorem ofTokens?_tokens (json : Json) : ofTokens? json.tokens = some json := by
  rw [ofTokens?, foldlM_tokens]
  rfl

/-- A token that is not open may stand before and behind any other. -/
theorem isChain_append {before after : List Token} (hbefore : before.IsChain Token.Ends)
    (hafter : after.IsChain Token.Ends) (hclosed : ∀ token ∈ after.head?, token.isOpen = false) :
    (before ++ after).IsChain Token.Ends :=
  List.isChain_append.mpr ⟨hbefore, hafter, fun _ _ token htoken _ => hclosed token htoken⟩

/-- A token that is not open may stand before any other. -/
theorem isChain_cons {token : Token} {after : List Token} (htoken : token.isOpen = false)
    (hafter : after.IsChain Token.Ends) : (token :: after).IsChain Token.Ends := by
  refine List.isChain_cons.mpr ⟨?_, hafter⟩
  intro following _ hopen
  rw [htoken] at hopen
  cases hopen

/-- Behind an item stands a comma or the end of the array. -/
theorem isOpen_of_mem_head?_itemTokens {items : List Json} {token : Token}
    (h : token ∈ (itemTokens items ++ [Token.endArray]).head?) : token.isOpen = false := by
  cases items <;> cases h <;> rfl

/-- Behind a member stands a comma or the end of the object. -/
theorem isOpen_of_mem_head?_membersTokens {members : List (List UInt8 × Json)} {token : Token}
    (h : token ∈ (membersTokens members ++ [Token.endObject]).head?) : token.isOpen = false := by
  cases members <;> cases h <;> rfl

mutual

/-- In the tokens of a value each shows the end of the one before it. -/
theorem isChain_tokens (json : Json) : json.tokens.IsChain Token.Ends := by
  cases json with
  | null => exact .singleton _
  | bool value => exact .singleton _
  | number text => exact .singleton _
  | string octets => exact .singleton _
  | array items =>
    cases items with
    | nil => exact isChain_cons rfl (.singleton _)
    | cons item items =>
      rw [tokens_array_cons]
      exact isChain_cons rfl (isChain_append (isChain_tokens item) (isChain_itemTokens items)
        fun _ => isOpen_of_mem_head?_itemTokens)
  | object members =>
    cases members with
    | nil => exact isChain_cons rfl (.singleton _)
    | cons member members =>
      obtain ⟨name, value⟩ := member
      rw [tokens_object_cons]
      exact isChain_cons rfl (isChain_cons rfl (isChain_cons rfl
        (isChain_append (isChain_tokens value) (isChain_membersTokens members)
          fun _ => isOpen_of_mem_head?_membersTokens)))

/-- So it is in the tokens of items up to the end of their array. -/
theorem isChain_itemTokens (items : List Json) :
    (itemTokens items ++ [Token.endArray]).IsChain Token.Ends := by
  cases items with
  | nil => exact .singleton _
  | cons item items =>
    rw [itemTokens, List.flatMap_cons, ← itemTokens, List.append_assoc]
    exact isChain_cons rfl (isChain_append (isChain_tokens item) (isChain_itemTokens items)
      fun _ => isOpen_of_mem_head?_itemTokens)

/-- So it is in the tokens of members up to the end of their object. -/
theorem isChain_membersTokens (members : List (List UInt8 × Json)) :
    (membersTokens members ++ [Token.endObject]).IsChain Token.Ends := by
  cases members with
  | nil => exact .singleton _
  | cons member members =>
    obtain ⟨name, value⟩ := member
    rw [membersTokens, List.flatMap_cons, ← membersTokens, List.append_assoc]
    exact isChain_cons rfl (isChain_cons rfl (isChain_cons rfl
      (isChain_append (isChain_tokens value) (isChain_membersTokens members)
        fun _ => isOpen_of_mem_head?_membersTokens)))

end

/-- Whether all numbers in a value are natural ones. -/
def Natural (json : Json) : Prop := ∀ token ∈ json.tokens, token.Natural

/-- A natural number is one. -/
theorem natural_ofNat (n : Nat) : (ofNat n).Natural := by
  intro token htoken
  obtain rfl : token = .number (decimal n) := List.mem_singleton.mp htoken
  exact ⟨n, rfl⟩

/-- An array has natural numbers if its items have. -/
theorem natural_array {items : List Json} (h : ∀ item ∈ items, item.Natural) :
    (array items).Natural := by
  intro token htoken
  cases items with
  | nil =>
    rcases List.mem_pair.mp htoken with rfl | rfl <;> trivial
  | cons item items =>
    obtain ⟨hitem, hitems⟩ := List.forall_mem_cons.mp h
    rw [tokens_array_cons, List.mem_cons, List.mem_append, List.mem_append, List.mem_singleton,
      itemTokens, List.mem_flatMap] at htoken
    rcases htoken with rfl | htoken | ⟨other, hother, htoken⟩ | rfl
    · trivial
    · exact hitem token htoken
    · rcases List.mem_cons.mp htoken with rfl | htoken
      · trivial
      · exact hitems other hother token htoken
    · trivial

/-- An object has natural numbers if the values of its members have. -/
theorem natural_object {members : List (List UInt8 × Json)}
    (h : ∀ member ∈ members, member.2.Natural) : (object members).Natural := by
  have hmember {member : List UInt8 × Json} (hvalue : member.2.Natural) {token : Token}
      (htoken : token ∈ memberTokens member) : token.Natural := by
    rw [memberTokens, List.mem_cons, List.mem_cons] at htoken
    rcases htoken with rfl | rfl | htoken
    · trivial
    · trivial
    · exact hvalue token htoken
  intro token htoken
  cases members with
  | nil =>
    rcases List.mem_pair.mp htoken with rfl | rfl <;> trivial
  | cons member members =>
    obtain ⟨hvalue, hmembers⟩ := List.forall_mem_cons.mp h
    rw [tokens_object_cons, List.mem_cons, List.mem_append, List.mem_append, List.mem_singleton,
      membersTokens, List.mem_flatMap] at htoken
    rcases htoken with rfl | htoken | ⟨other, hother, htoken⟩ | rfl
    · trivial
    · exact hmember hvalue htoken
    · rcases List.mem_cons.mp htoken with rfl | htoken
      · trivial
      · exact hmember (hmembers other hother) htoken
    · trivial

/-- The text of a value whose numbers are natural is read back as that value. -/
theorem read?_render {json : Json} (h : json.Natural) : read? json.render = some json := by
  rw [read?, render, scan?_flatMap_render json.isChain_tokens h, Option.bind_some,
    ofTokens?_tokens]

end ControlPool.Json
