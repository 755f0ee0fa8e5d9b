import ControlPool.Transaction
import ControlPool.Proofs.JsonReader
import ControlPool.Proofs.JsonShape
import Mathlib.Tactic.SplitIfs

/-!
# A payload is no longer than its text

A scanner begins at most one token with each byte, a value is read from its own tokens, and every
byte of a byte string has a token of its own. So each value of a payload has at most as many bytes
as the text of the payload.
-/

namespace ControlPool

namespace Json

/-- The number of tokens that a scanner has begun. -/
def Scanner.begun : Scanner → Nat
  | ⟨.blank, tokens⟩ => tokens.length
  | ⟨_, tokens⟩ => tokens.length + 1

/-- Finishing a token begins none. -/
theorem Scanner.length_le_of_finish {scanner finished : Scanner}
    (h : scanner.finish? = some finished) : finished.tokens.length ≤ scanner.begun := by
  obtain ⟨mode, tokens⟩ := scanner
  rw [finish?.eq_def] at h
  cases mode with
  | blank =>
    obtain rfl := Option.some.inj h
    exact Nat.le_refl _
  | word letters =>
    obtain ⟨token, -, rfl⟩ := Option.map_eq_some_iff.mp h
    exact Nat.le_refl _
  | numeral text =>
    simp only at h
    split at h
    · obtain rfl := Option.some.inj h
      exact Nat.le_refl _
    · cases h
  | _ => cases h

/-- A byte between tokens begins at most one. -/
theorem Scanner.begun_of_begin {tokens : List Token} {byte : UInt8} {next : Scanner}
    (h : begin? tokens byte = some next) : next.begun ≤ tokens.length + 1 := by
  rw [begin?] at h
  split_ifs at h
  case neg =>
    obtain ⟨token, -, rfl⟩ := Option.map_eq_some_iff.mp h
    exact Nat.le_refl _
  all_goals
    obtain rfl := Option.some.inj h
    simp [begun]

/-- A byte behind a literal or a number finishes it and begins at most one token. -/
theorem Scanner.begun_of_finish_begin {scanner next : Scanner} {byte : UInt8}
    (h : scanner.finish?.bind (fun finished => begin? finished.tokens byte) = some next) :
    next.begun ≤ scanner.begun + 1 := by
  obtain ⟨finished, hfinish, hbegin⟩ := Option.bind_eq_some_iff.mp h
  have hfinished := length_le_of_finish hfinish
  have hnext := begun_of_begin hbegin
  omega

/-- A byte begins at most one token. -/
theorem Scanner.begun_of_next {scanner next : Scanner} {byte : UInt8}
    (h : scanner.next? byte = some next) : next.begun ≤ scanner.begun + 1 := by
  obtain ⟨mode, tokens⟩ := scanner
  rw [next?.eq_def] at h
  cases mode with
  | blank => exact begun_of_begin h
  | word letters =>
    simp only at h
    split at h
    · obtain rfl := Option.some.inj h
      exact Nat.le_succ _
    · exact begun_of_finish_begin h
  | numeral text =>
    simp only at h
    split at h
    · obtain rfl := Option.some.inj h
      exact Nat.le_succ _
    · exact begun_of_finish_begin h
  | text pieces =>
    simp only at h
    split_ifs at h
    all_goals
      obtain rfl := Option.some.inj h
      exact Nat.le_succ _
  | escape pieces =>
    simp only at h
    split at h
    · obtain rfl := Option.some.inj h
      exact Nat.le_succ _
    · obtain ⟨meant, -, rfl⟩ := Option.map_eq_some_iff.mp h
      exact Nat.le_succ _
  | codeUnit pieces missing value =>
    obtain ⟨digit, -, rfl⟩ := Option.map_eq_some_iff.mp h
    split <;> exact Nat.le_succ _

/-- A text has at most as many tokens as bytes. -/
theorem length_le_of_scan? {bytes : List UInt8} {tokens : List Token} (h : scan? bytes = some tokens) :
    tokens.length ≤ bytes.length := by
  -- By induction on the bytes, whatever the scanner has begun before them.
  have hbegun (bytes : List UInt8) (scanner last : Scanner)
      (h : bytes.foldlM Scanner.next? scanner = some last) :
      last.begun ≤ scanner.begun + bytes.length := by
    induction bytes generalizing scanner with
    | nil =>
      obtain rfl := Option.some.inj h
      exact Nat.le_refl _
    | cons byte bytes ih =>
      rw [List.foldlM_cons, Option.bind_eq_bind, Option.bind_eq_some_iff] at h
      obtain ⟨next, hnext, hrest⟩ := h
      have hbyte := Scanner.begun_of_next hnext
      have hbytes := ih next hrest
      rw [List.length_cons]
      omega
  obtain ⟨last, hlast, hfinished⟩ := Option.bind_eq_some_iff.mp h
  obtain ⟨finished, hfinish, hreverse⟩ := Option.bind_eq_some_iff.mp hfinished
  obtain rfl := Option.some.inj hreverse
  rw [List.length_reverse]
  calc finished.tokens.length
      ≤ last.begun := Scanner.length_le_of_finish hfinish
    _ ≤ 0 + bytes.length := hbegun bytes ⟨.blank, []⟩ last hlast
    _ = bytes.length := Nat.zero_add _

/-- A value that is read has at most as many tokens as its text has bytes. -/
theorem length_tokens_le_of_read? {bytes : List UInt8} {json : Json} (h : read? bytes = some json) :
    json.tokens.length ≤ bytes.length := by
  obtain ⟨tokens, hscan, hread⟩ := Option.bind_eq_some_iff.mp h
  obtain rfl := ofTokens?_eq_some_iff.mp hread
  exact length_le_of_scan? hscan

/-- The tokens of a part are no more than those of all parts. -/
theorem length_le_length_flatMap {α : Type} (write : α → List Token) {parts : List α} {part : α}
    (h : part ∈ parts) : (write part).length ≤ (parts.flatMap write).length := by
  obtain ⟨before, after, rfl⟩ := List.append_of_mem h
  rw [List.flatMap_append, List.flatMap_cons, List.length_append, List.length_append]
  omega

/-- A byte string has at most as many bytes as the value that writes it has tokens. -/
theorem length_le_of_bytes? {json : Json} {bytes : List UInt8} (h : json.bytes? = some bytes) :
    bytes.length ≤ json.tokens.length := by
  have hitems (items : List Json) : items.length ≤ (itemTokens items).length := by
    induction items with
    | nil => exact Nat.le_refl _
    | cons item items ih =>
      rw [itemTokens, List.flatMap_cons, ← itemTokens, List.length_append, List.length_cons,
        List.length_cons]
      omega
  cases json with
  | array items =>
    have hlength := congrArg List.length (map_eq_of_mapM h)
    rw [List.length_map, List.length_map] at hlength
    rw [← hlength]
    cases items with
    | nil => exact Nat.zero_le _
    | cons item items =>
      have hrest := hitems items
      rw [tokens_array_cons, List.length_cons, List.length_cons, List.length_append,
        List.length_append]
      omega
  | _ => cases h

/-- The value of a member has at most as many tokens as the object. -/
theorem length_tokens_le_of_mem {members : List (List UInt8 × Json)} {member : List UInt8 × Json}
    (h : member ∈ members) : member.2.tokens.length ≤ (object members).tokens.length := by
  cases members with
  | nil => cases h
  | cons first members =>
    rw [tokens_object_cons, List.length_cons, List.length_append, List.length_append]
    rcases List.mem_cons.mp h with rfl | h
    · rw [memberTokens, List.length_cons, List.length_cons]
      omega
    · have hpart := length_le_length_flatMap (fun member => .comma :: memberTokens member) h
      rw [List.length_cons, memberTokens, List.length_cons, List.length_cons, ← membersTokens]
        at hpart
      omega

end Json

/-- The values of a payload have at most as many bytes as its text. -/
theorem Payload.length_le_of_decode? {bytes : List UInt8} {payload : Payload}
    (h : decode? bytes = some payload) {entry : String × List UInt8}
    (hentry : entry ∈ payload.entries) : entry.2.length ≤ bytes.length := by
  obtain ⟨json, hread, hjson⟩ := Option.bind_eq_some_iff.mp h
  obtain ⟨members, hmembers, hvalues⟩ := Option.bind_eq_some_iff.mp hjson
  obtain ⟨entries, hentries, hpayload⟩ := Option.bind_eq_some_iff.mp hvalues
  obtain rfl := Option.some.inj hpayload
  have hwritten : some entry ∈ members.map fun member => member.2.bytes?.map (member.1, ·) := by
    rw [Json.map_eq_of_mapM hentries]
    exact List.mem_map_of_mem (OrderedMap.mem_of_mem_ofList hentry)
  obtain ⟨member, hmember, hvalue⟩ := List.mem_map.mp hwritten
  obtain ⟨value, hbytes, rfl⟩ := Option.map_eq_some_iff.mp hvalue
  cases json with
  | object named =>
    have hnamed : some member ∈ named.map fun member =>
        (Text.ofUtf8? member.1).map (·, member.2) := by
      rw [Json.map_eq_of_mapM hmembers]
      exact List.mem_map_of_mem hmember
    obtain ⟨first, hfirst, hname⟩ := List.mem_map.mp hnamed
    obtain ⟨name, -, rfl⟩ := Option.map_eq_some_iff.mp hname
    calc value.length
        ≤ first.2.tokens.length := Json.length_le_of_bytes? hbytes
      _ ≤ (Json.object named).tokens.length := Json.length_tokens_le_of_mem hfirst
      _ ≤ bytes.length := Json.length_tokens_le_of_read? hread
  | _ => cases hmembers

end ControlPool
