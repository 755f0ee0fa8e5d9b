import ControlPool.Proofs.JsonText

/-!
# Only the tokens of a value are read as that value

What a reader has been shown can be told from where it stands: each container under way shows its
opening bracket and the items or members so far, each with the comma behind it. A reader never
forgets a token and never accepts one that does not belong to the value it builds, so the token list
of a value is the only one from which it is read.
-/

namespace ControlPool.Json

/-- The tokens of items of an array that has begun, each before its comma. -/
def openedItems (items : List Json) : List Token :=
  .beginArray :: items.flatMap fun item => item.tokens ++ [.comma]

/-- The tokens of members of an object that has begun, each before its comma. -/
def openedMembers (members : List (List UInt8 × Json)) : List Token :=
  .beginObject :: members.flatMap fun member => memberTokens member ++ [.comma]

/-- Whether a comma stands before each part or behind it makes no difference between parts. -/
theorem flatMap_comma {α : Type} (write : α → List Token) (parts : List α) (last : List Token) :
    parts.flatMap (fun part => .comma :: write part) ++ .comma :: last =
      .comma :: (parts.flatMap (fun part => write part ++ [.comma]) ++ last) := by
  induction parts with
  | nil => rfl
  | cons part parts ih =>
    rw [List.flatMap_cons, List.flatMap_cons, List.append_assoc, ih]
    simp

/-- The tokens of an array are those of its items with their commas, up to the last item. -/
theorem tokens_array_concat (items : List Json) (last : Json) :
    (array (items ++ [last])).tokens = openedItems items ++ (last.tokens ++ [.endArray]) := by
  cases items with
  | nil => exact tokens_array_cons last []
  | cons item items =>
    rw [List.cons_append, tokens_array_cons, itemTokens, openedItems, List.flatMap_append,
      List.flatMap_singleton, List.append_assoc, List.cons_append, flatMap_comma]
    simp

/-- The tokens of an object are those of its members with their commas, up to the last member. -/
theorem tokens_object_concat (members : List (List UInt8 × Json)) (last : List UInt8 × Json) :
    (object (members ++ [last])).tokens =
      openedMembers members ++ (memberTokens last ++ [.endObject]) := by
  cases members with
  | nil => exact tokens_object_cons last []
  | cons member members =>
    rw [List.cons_append, tokens_object_cons, membersTokens, openedMembers, List.flatMap_append,
      List.flatMap_singleton, List.append_assoc, List.cons_append, flatMap_comma]
    simp

/-- What a container under way has shown. -/
def Frame.shown : Frame → List Token
  | .array items => openedItems items.reverse
  | .object members name => openedMembers members.reverse ++ [.string name, .colon]

/-- What containers under way have shown, the innermost last. -/
def shownFrames : List Frame → List Token
  | [] => []
  | frame :: frames => shownFrames frames ++ frame.shown

/-- What has been shown behind the containers under way. -/
def Focus.shown : Focus → List Token
  | .value => []
  | .firstItem => []
  | .firstName => [.beginObject]
  | .nextName members => openedMembers members.reverse
  | .colon members name => openedMembers members.reverse ++ [.string name]
  | .finished json => json.tokens

namespace Reader

/-- Whether a reader has been shown tokens and no others. At the first item of an array that array
is under way. -/
structure Shown (reader : Reader) (tokens : List Token) : Prop where
  eq : tokens = shownFrames reader.frames ++ reader.focus.shown
  opened : reader.focus = .firstItem → ∃ frames, reader.frames = .array [] :: frames

/-- A value that ends has shown its tokens. -/
theorem Shown.deliver {frames : List Frame} {value : Json} {next : Reader} {tokens : List Token}
    (h : Reader.deliver frames value = some next)
    (htokens : tokens = shownFrames frames ++ value.tokens) : next.Shown tokens := by
  obtain rfl := Option.some.inj h
  exact ⟨htokens, fun hfirst => nomatch hfirst⟩

/-- The first token of a value is shown behind the containers under way. -/
theorem Shown.begin {frames : List Frame} {token : Token} {next : Reader}
    (h : begin? frames token = some next) : next.Shown (shownFrames frames ++ [token]) := by
  cases token with
  | null => exact .deliver h rfl
  | bool value => exact .deliver h rfl
  | number text => exact .deliver h rfl
  | string octets => exact .deliver h rfl
  | beginArray =>
    obtain rfl := Option.some.inj h
    exact ⟨by simp [shownFrames, Frame.shown, openedItems, Focus.shown], fun _ => ⟨frames, rfl⟩⟩
  | beginObject =>
    obtain rfl := Option.some.inj h
    exact ⟨rfl, fun hfirst => nomatch hfirst⟩
  | _ => cases h

/-- The token after a finished value continues the container on top or ends it. -/
theorem Shown.after {frames : List Frame} {value : Json} {token : Token} {next : Reader}
    (h : after? value frames token = some next) :
    next.Shown (shownFrames frames ++ value.tokens ++ [token]) := by
  rw [after?.eq_def] at h
  split at h
  · next items frames =>
    obtain rfl := Option.some.inj h
    exact ⟨by simp [shownFrames, Frame.shown, openedItems, Focus.shown],
      fun hfirst => nomatch hfirst⟩
  · next items frames =>
    refine .deliver h ?_
    rw [List.reverse_cons, tokens_array_concat]
    simp [shownFrames, Frame.shown]
  · next members name frames =>
    obtain rfl := Option.some.inj h
    exact ⟨by simp [shownFrames, Frame.shown, openedMembers, memberTokens, Focus.shown],
      fun hfirst => nomatch hfirst⟩
  · next members name frames =>
    refine .deliver h ?_
    rw [List.reverse_cons, tokens_object_concat]
    simp [shownFrames, Frame.shown, memberTokens]
  · cases h

/-- A token that is read has been shown from then on. -/
theorem Shown.next {reader next : Reader} {token : Token} {tokens : List Token}
    (hshown : reader.Shown tokens) (h : reader.next? token = some next) :
    next.Shown (tokens ++ [token]) := by
  obtain ⟨focus, frames⟩ := reader
  obtain ⟨rfl, hopened⟩ := hshown
  cases focus with
  | value =>
    rw [Focus.shown, List.append_nil]
    exact .begin h
  | firstItem =>
    -- The bracket that ends the array here takes the frame away, so the frame must show no items.
    obtain ⟨rest, rfl⟩ := hopened rfl
    rw [Focus.shown, List.append_nil]
    by_cases hend : token = .endArray
    · subst hend
      refine .deliver h ?_
      simp [shownFrames, Frame.shown, openedItems, tokens, emit]
    · have hbegin : Reader.begin? (.array [] :: rest) token = some next := by
        cases token <;> first | exact h | exact absurd rfl hend
      exact .begin hbegin
  | firstName =>
    cases token with
    | endObject => exact .deliver h (by simp [Focus.shown, tokens, emit])
    | string name =>
      obtain rfl := Option.some.inj h
      exact ⟨by simp [Focus.shown, openedMembers], fun hfirst => nomatch hfirst⟩
    | _ => cases h
  | nextName members =>
    cases token with
    | string name =>
      obtain rfl := Option.some.inj h
      exact ⟨by simp [Focus.shown], fun hfirst => nomatch hfirst⟩
    | _ => cases h
  | colon members name =>
    cases token with
    | colon =>
      obtain rfl := Option.some.inj h
      exact ⟨by simp [shownFrames, Frame.shown, Focus.shown], fun hfirst => nomatch hfirst⟩
    | _ => cases h
  | finished value => exact .after h

/-- Tokens that are read have been shown. -/
theorem Shown.foldlM {reader last : Reader} {before tokens : List Token}
    (hshown : reader.Shown before) (h : tokens.foldlM Reader.next? reader = some last) :
    last.Shown (before ++ tokens) := by
  induction tokens generalizing reader before with
  | nil =>
    obtain rfl := Option.some.inj h
    rw [List.append_nil]
    exact hshown
  | cons token tokens ih =>
    rw [List.foldlM_cons, Option.bind_eq_bind, Option.bind_eq_some_iff] at h
    obtain ⟨next, hnext, hrest⟩ := h
    have hlast := ih (hshown.next hnext) hrest
    rwa [List.append_assoc] at hlast

end Reader

/-- A value is read from its own tokens and from no others. -/
theorem ofTokens?_eq_some_iff {tokens : List Token} {json : Json} :
    ofTokens? tokens = some json ↔ tokens = json.tokens := by
  constructor
  · intro h
    obtain ⟨⟨focus, frames⟩, hlast, hvalue⟩ := Option.bind_eq_some_iff.mp h
    have hstart : Reader.Shown ⟨.value, []⟩ [] := ⟨rfl, fun hfirst => nomatch hfirst⟩
    have hshown := (hstart.foldlM hlast).eq
    rw [Reader.value?.eq_def] at hvalue
    split at hvalue
    · next hfocus hframes =>
      obtain rfl := Option.some.inj hvalue
      rw [hfocus, hframes] at hshown
      exact hshown
    · cases hvalue
  · intro h
    rw [h, ofTokens?_tokens]

end ControlPool.Json
