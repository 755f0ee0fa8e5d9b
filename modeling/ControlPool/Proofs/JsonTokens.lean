import ControlPool.Json.Scan
import Mathlib.Data.List.Chain
import Mathlib.Data.List.TakeWhile

/-!
# Tokens are found again in their text

A token of one byte and a string show their own end; a word or a number ends only where something
else begins. Tokens of which no two neighbours are words or numbers are found again in the text that
they write one after the other, whatever bytes the strings hold. The numbers are natural ones,
because no others are ever written.
-/

namespace ControlPool.Json

/-- What holds of the digits and of a number as soon as it holds without the last digit holds of
every number. -/
theorem decimal_induction {motive : Nat → Prop} (digit : ∀ n < 10, motive n)
    (more : ∀ n, 10 ≤ n → motive (n / 10) → motive n) (n : Nat) : motive n := by
  induction n using Nat.strongRecOn with
  | ind n ih =>
    rcases Nat.lt_or_ge n 10 with hdigit | hmore
    · exact digit n hdigit
    · exact more n hmore (ih (n / 10) (by omega))

/-- The byte of a digit is as far above that of zero as the digit says. -/
theorem toNat_digit {d : Nat} (h : d < 10) :
    (ascii (Nat.digitChar d)).toNat = (ascii '0').toNat + d := by
  have hall : ∀ d < 10, (ascii (Nat.digitChar d)).toNat = (ascii '0').toNat + d := by decide
  exact hall d h

/-- The byte of a digit is one. -/
theorem isDigit_digit {d : Nat} (h : d < 10) : isDigit (ascii (Nat.digitChar d)) = true := by
  have hall : ∀ d < 10, isDigit (ascii (Nat.digitChar d)) = true := by decide
  exact hall d h

/-- A number below ten is one digit. -/
theorem decimal_of_lt {n : Nat} (h : n < 10) : decimal n = [ascii (Nat.digitChar n)] := by
  rw [decimal, Nat.toDigits_of_lt_base h, List.map_singleton]

/-- Any other number has its last digit behind the rest. -/
theorem decimal_of_le {n : Nat} (h : 10 ≤ n) :
    decimal n = decimal (n / 10) ++ [ascii (Nat.digitChar (n % 10))] := by
  rw [decimal, Nat.toDigits_of_base_le (by decide) h, List.map_append, List.map_singleton,
    ← decimal]

/-- The digits of a number are digits. -/
theorem isDigit_of_mem_decimal {n : Nat} {byte : UInt8} (h : byte ∈ decimal n) :
    isDigit byte = true := by
  induction n using decimal_induction with
  | digit n hn =>
    rw [decimal_of_lt hn, List.mem_singleton] at h
    rw [h]
    exact isDigit_digit hn
  | more n hn ih =>
    rw [decimal_of_le hn, List.mem_append, List.mem_singleton] at h
    rcases h with h | rfl
    · exact ih h
    · exact isDigit_digit (Nat.mod_lt _ (by decide))

/-- The digits of a number write it. -/
theorem ofDigits_decimal (n : Nat) : ofDigits (decimal n) = n := by
  induction n using decimal_induction with
  | digit n hn => simp [decimal_of_lt hn, ofDigits, toNat_digit hn]
  | more n hn ih =>
    have hlast := toNat_digit (Nat.mod_lt n (by decide : 0 < 10))
    rw [ofDigits] at ih
    rw [decimal_of_le hn, ofDigits, List.foldl_append, ih, List.foldl_cons, List.foldl_nil, hlast]
    omega

/-- A number begins with a digit, which is zero for zero only. -/
theorem exists_decimal_eq_cons (n : Nat) :
    ∃ byte rest, decimal n = byte :: rest ∧ (byte = ascii '0' → n = 0) := by
  induction n using decimal_induction with
  | digit n hn =>
    refine ⟨_, [], decimal_of_lt hn, ?_⟩
    intro hzero
    have hvalue := toNat_digit hn
    rw [hzero] at hvalue
    omega
  | more n hn ih =>
    obtain ⟨byte, rest, hdecimal, hzero⟩ := ih
    refine ⟨byte, rest ++ [ascii (Nat.digitChar (n % 10))], ?_, ?_⟩
    · rw [decimal_of_le hn, hdecimal, List.cons_append]
    · intro hbyte
      have hsmall := hzero hbyte
      omega

/-- The digits of a number are an integer part and nothing else. -/
theorem dropInteger?_decimal (n : Nat) : dropInteger? (decimal n) = some [] := by
  obtain ⟨byte, rest, hdecimal, hzero⟩ := exists_decimal_eq_cons n
  have hdigit {found : UInt8} (h : found ∈ byte :: rest) : isDigit found = true :=
    isDigit_of_mem_decimal (by rw [hdecimal]; exact h)
  by_cases hbyte : byte = ascii '0'
  · rw [hzero hbyte]
    rfl
  · rw [hdecimal, dropInteger?, if_neg hbyte, dropDigits?, if_pos (hdigit List.mem_cons_self),
      List.dropWhile_eq_nil_iff.mpr fun found h => hdigit (List.mem_cons_of_mem _ h)]

/-- The digits of a number write that number and no other. -/
theorem ofDecimal?_decimal (n : Nat) : ofDecimal? (decimal n) = some n := by
  rw [ofDecimal?, if_pos (dropInteger?_decimal n), ofDigits_decimal]

/-- The digits of a number are a number. -/
theorem isNumeral_decimal (n : Nat) : isNumeral (decimal n) = true := by
  have hminus : dropMinus (decimal n) = decimal n := by
    obtain ⟨byte, rest, hdecimal, -⟩ := exists_decimal_eq_cons n
    have hdigit : isDigit byte = true :=
      isDigit_of_mem_decimal (by rw [hdecimal]; exact List.mem_cons_self)
    rw [hdecimal, dropMinus, if_neg]
    rintro rfl
    exact absurd hdigit (by decide)
  rw [isNumeral, hminus, dropInteger?_decimal]
  rfl

/-- Whether a token is a word or a number, which ends only where something else begins. -/
def Token.isOpen : Token → Bool
  | .null => true
  | .bool _ => true
  | .number _ => true
  | _ => false

/-- Whether a token is no number or a natural one. -/
def Token.Natural : Token → Prop
  | .number text => ∃ n, text = decimal n
  | _ => True

/-- Whether the end of a token shows when another one follows. -/
def Token.Ends (token following : Token) : Prop :=
  token.isOpen = true → following.isOpen = false

/-- A byte that continues neither a word nor a number is read as if the token under way were
finished. -/
theorem Scanner.next?_of_finish {scanner : Scanner} {tokens : List Token} {byte : UInt8}
    (hfinish : scanner.finish? = some ⟨.blank, tokens⟩) (hletter : isLetter byte = false)
    (hnumeral : isNumeralByte byte = false) : scanner.next? byte = begin? tokens byte := by
  obtain ⟨mode, held⟩ := scanner
  cases mode with
  | blank =>
    have hheld : held = tokens := congrArg Scanner.tokens (Option.some.inj hfinish)
    rw [next?, hheld]
  | word letters =>
    simp only [next?, hletter, hfinish]
    rfl
  | numeral text =>
    simp only [next?, hnumeral, hfinish]
    rfl
  | text pieces => cases hfinish
  | escape pieces => cases hfinish
  | codeUnit pieces missing value => cases hfinish

/-- A digit between two tokens begins a number. -/
theorem Scanner.begin?_of_isDigit {byte : UInt8} (h : isDigit byte = true)
    (tokens : List Token) : begin? tokens byte = some ⟨.numeral [byte], tokens⟩ := by
  have hblank : isBlank byte = false := by
    rw [Bool.eq_false_iff]
    intro hblank
    simp only [isBlank, Bool.or_eq_true, decide_eq_true_eq] at hblank
    rcases hblank with ((rfl | rfl) | rfl) | rfl <;> exact absurd h (by decide)
  have hquote : byte ≠ ascii '"' := by
    rintro rfl
    exact absurd h (by decide)
  simp [begin?, hblank, hquote, h]

/-- Digits continue a number. -/
theorem foldlM_digits {digits : List UInt8} (h : ∀ byte ∈ digits, isDigit byte = true)
    (text : List UInt8) (tokens : List Token) :
    digits.foldlM Scanner.next? ⟨.numeral text, tokens⟩ =
      some ⟨.numeral (digits.reverse ++ text), tokens⟩ := by
  induction digits generalizing text with
  | nil => rfl
  | cons byte digits ih =>
    obtain ⟨hbyte, hdigits⟩ := List.forall_mem_cons.mp h
    have hnext : Scanner.next? ⟨.numeral text, tokens⟩ byte =
        some ⟨.numeral (byte :: text), tokens⟩ := by
      simp [Scanner.next?, isNumeralByte, hbyte]
    rw [List.foldlM_cons, hnext]
    change digits.foldlM Scanner.next? ⟨.numeral (byte :: text), tokens⟩ = _
    rw [ih hdigits, List.reverse_cons, List.append_assoc, List.singleton_append]

/-- A code unit of ASCII is one byte, whatever stands before it. -/
theorem gather_codeUnit {unit : Nat} (h : unit < 0x80) (pieces : List Piece)
    (out : List UInt8) :
    gather (.codeUnit unit :: pieces) out = gather pieces (UInt8.ofNat unit :: out) := by
  have hform : utf8Form unit = [UInt8.ofNat unit] := by rw [utf8Form, if_pos h]
  cases pieces with
  | nil => simp [gather, hform]
  | cons piece pieces =>
    cases piece with
    | octet byte => simp [gather, hform]
    | codeUnit high =>
      have hnone : surrogatePair? high unit = none := if_neg (by omega)
      simp [gather, hform, hnone]

/-- The digit of a number below sixteen is read as that number. -/
theorem hexValue?_hexDigit {d : Nat} (h : d < 16) : hexValue? (hexDigit d) = some d := by
  have hall : ∀ d < 16, hexValue? (hexDigit d) = some d := by decide
  exact hall d h

/-- A byte of a string is read as one piece, which stands for the byte. -/
theorem exists_piece (byte : UInt8) :
    ∃ piece, (∀ pieces tokens, (escaped byte).foldlM Scanner.next? ⟨.text pieces, tokens⟩ =
        some ⟨.text (piece :: pieces), tokens⟩) ∧
      ∀ pieces out, gather (piece :: pieces) out = gather pieces (byte :: out) := by
  rw [escaped]
  split
  · next h => subst h; exact ⟨_, fun _ _ => rfl, fun _ _ => rfl⟩
  split
  · next h => subst h; exact ⟨_, fun _ _ => rfl, fun _ _ => rfl⟩
  split
  · next hquote hslash hplain =>
    refine ⟨.octet byte, ?_, fun _ _ => by rw [gather]⟩
    intro pieces tokens
    have hnext : Scanner.next? ⟨.text pieces, tokens⟩ byte =
        some ⟨.text (.octet byte :: pieces), tokens⟩ := by
      simp only [Scanner.next?, if_neg hquote, if_neg hslash, if_neg (UInt8.not_lt.mpr hplain)]
    rw [List.foldlM_cons, hnext]
    rfl
  split
  · next h => subst h; exact ⟨_, fun _ _ => rfl, fun _ _ => rfl⟩
  split
  · next h => subst h; exact ⟨_, fun _ _ => rfl, fun _ _ => rfl⟩
  split
  · next h => subst h; exact ⟨_, fun _ _ => rfl, fun _ _ => rfl⟩
  split
  · next h => subst h; exact ⟨_, fun _ _ => rfl, fun _ _ => rfl⟩
  split
  · next h => subst h; exact ⟨_, fun _ _ => rfl, fun _ _ => rfl⟩
  · next hcontrol _ _ _ _ _ =>
    have hsmall : byte.toNat < 0x20 := UInt8.lt_iff_toNat_lt.mp (UInt8.not_le.mp hcontrol)
    refine ⟨.codeUnit byte.toNat, ?_, ?_⟩
    · intro pieces tokens
      have hhigh := hexValue?_hexDigit (by omega : byte.toNat / 16 < 16)
      have hlow := hexValue?_hexDigit (by omega : byte.toNat % 16 < 16)
      have hbegun : [ascii '\\', ascii 'u', ascii '0', ascii '0'].foldlM Scanner.next?
          ⟨.text pieces, tokens⟩ = some ⟨.codeUnit pieces 2 0, tokens⟩ := rfl
      change ([ascii '\\', ascii 'u', ascii '0', ascii '0'] ++
        [hexDigit (byte.toNat / 16), hexDigit (byte.toNat % 16)]).foldlM _ _ = _
      rw [List.foldlM_append, hbegun]
      simp [Scanner.next?, hhigh, hlow, Nat.div_add_mod']
    · intro pieces out
      rw [gather_codeUnit (by omega), UInt8.ofNat_toNat]

/-- The content of a string is read as pieces that stand for it. -/
theorem exists_pieces (octets : List UInt8) (pieces : List Piece) (tokens : List Token) :
    ∃ found, (octets.flatMap escaped).foldlM Scanner.next? ⟨.text pieces, tokens⟩ =
        some ⟨.text found, tokens⟩ ∧
      ∀ out, gather found out = gather pieces (octets ++ out) := by
  induction octets generalizing pieces with
  | nil => exact ⟨pieces, rfl, fun _ => rfl⟩
  | cons byte octets ih =>
    obtain ⟨piece, hread, hgather⟩ := exists_piece byte
    obtain ⟨found, hfound, hall⟩ := ih (piece :: pieces)
    refine ⟨found, ?_, ?_⟩
    · rw [List.flatMap_cons, List.foldlM_append, hread]
      exact hfound
    · intro out
      rw [hall, hgather, List.cons_append]

/-- What a scanner reads of a token: if it stops behind the token, that is one more token, and
nothing is under way behind a token that is not open. -/
structure Reads (token : Token) (tokens : List Token) (scanner next : Scanner) : Prop where
  read : token.render.foldlM Scanner.next? scanner = some next
  finish : next.finish? = some ⟨.blank, token :: tokens⟩
  blank : token.isOpen = false → next.mode = .blank

/-- A token of one byte is read wherever the token before it may end. -/
theorem exists_reads_of_byte {token : Token} {byte : UInt8} {scanner : Scanner}
    {tokens : List Token} (hrender : token.render = [byte])
    (hfinish : scanner.finish? = some ⟨.blank, tokens⟩) (hletter : isLetter byte = false)
    (hnumeral : isNumeralByte byte = false)
    (hbegin : Scanner.begin? tokens byte = some ⟨.blank, token :: tokens⟩) :
    ∃ next, Reads token tokens scanner next := by
  refine ⟨⟨.blank, token :: tokens⟩, ?_, rfl, fun _ => rfl⟩
  rw [hrender, List.foldlM_cons, Scanner.next?_of_finish hfinish hletter hnumeral, hbegin]
  rfl

/-- A token is read behind any other whose end it shows. -/
theorem exists_reads {token : Token} (hnatural : token.Natural) {scanner : Scanner}
    {tokens : List Token} (hfinish : scanner.finish? = some ⟨.blank, tokens⟩)
    (hblank : token.isOpen = true → scanner.mode = .blank) :
    ∃ next, Reads token tokens scanner next := by
  have hstart (hopen : token.isOpen = true) : scanner = ⟨.blank, tokens⟩ := by
    obtain ⟨mode, held⟩ := scanner
    obtain rfl : mode = .blank := hblank hopen
    exact Option.some.inj hfinish
  cases token with
  | beginArray => exact exists_reads_of_byte rfl hfinish (by decide) (by decide) rfl
  | endArray => exact exists_reads_of_byte rfl hfinish (by decide) (by decide) rfl
  | beginObject => exact exists_reads_of_byte rfl hfinish (by decide) (by decide) rfl
  | endObject => exact exists_reads_of_byte rfl hfinish (by decide) (by decide) rfl
  | colon => exact exists_reads_of_byte rfl hfinish (by decide) (by decide) rfl
  | comma => exact exists_reads_of_byte rfl hfinish (by decide) (by decide) rfl
  | null =>
    rw [hstart rfl]
    exact ⟨⟨.word nullWord.reverse, tokens⟩, rfl, rfl, fun h => nomatch h⟩
  | bool value =>
    rw [hstart rfl]
    cases value with
    | false => exact ⟨⟨.word falseWord.reverse, tokens⟩, rfl, rfl, fun h => nomatch h⟩
    | true => exact ⟨⟨.word trueWord.reverse, tokens⟩, rfl, rfl, fun h => nomatch h⟩
  | number text =>
    rw [hstart rfl]
    obtain ⟨n, rfl⟩ := hnatural
    refine ⟨⟨.numeral (decimal n).reverse, tokens⟩, ?_, ?_, fun h => nomatch h⟩
    · obtain ⟨byte, rest, hdecimal, -⟩ := exists_decimal_eq_cons n
      have hdigits (found : UInt8) (h : found ∈ byte :: rest) : isDigit found = true :=
        isDigit_of_mem_decimal (by rw [hdecimal]; exact h)
      obtain ⟨hbyte, hrest⟩ := List.forall_mem_cons.mp hdigits
      have hbegun : Scanner.next? ⟨.blank, tokens⟩ byte = some ⟨.numeral [byte], tokens⟩ :=
        Scanner.begin?_of_isDigit hbyte tokens
      rw [Token.render, hdecimal, List.foldlM_cons, hbegun, List.reverse_cons]
      exact foldlM_digits hrest [byte] tokens
    · rw [Scanner.finish?]
      simp only [List.reverse_reverse, isNumeral_decimal, if_true]
  | string octets =>
    have hquote : scanner.next? (ascii '"') = some ⟨.text [], tokens⟩ :=
      Scanner.next?_of_finish hfinish (by decide) (by decide)
    obtain ⟨pieces, hread, hgather⟩ := exists_pieces octets [] tokens
    refine ⟨⟨.blank, .string octets :: tokens⟩, ?_, rfl, fun _ => rfl⟩
    have hend : Scanner.next? ⟨.text pieces, tokens⟩ (ascii '"') =
        some ⟨.blank, .string octets :: tokens⟩ := by
      change some (Scanner.mk .blank (.string (gather pieces []) :: tokens)) = _
      rw [hgather, List.append_nil, gather]
    rw [Token.render, List.foldlM_cons, hquote]
    change (octets.flatMap escaped ++ [ascii '"']).foldlM Scanner.next? ⟨.text [], tokens⟩ = _
    rw [List.foldlM_append, hread]
    change [ascii '"'].foldlM Scanner.next? ⟨.text pieces, tokens⟩ = _
    rw [List.foldlM_cons, hend]
    rfl

/-- Tokens of which each shows the end of the one before it are read one after the other. -/
theorem foldlM_render {list : List Token} (hends : list.IsChain Token.Ends)
    (hnatural : ∀ token ∈ list, token.Natural) {scanner : Scanner} {tokens : List Token}
    (hfinish : scanner.finish? = some ⟨.blank, tokens⟩)
    (hblank : ∀ token ∈ list.head?, token.isOpen = true → scanner.mode = .blank) :
    ∃ last, (list.flatMap Token.render).foldlM Scanner.next? scanner = some last ∧
      last.finish? = some ⟨.blank, list.reverse ++ tokens⟩ := by
  induction list generalizing scanner tokens with
  | nil => exact ⟨scanner, rfl, hfinish⟩
  | cons token list ih =>
    obtain ⟨htoken, hlist⟩ := List.forall_mem_cons.mp hnatural
    obtain ⟨hnext, hrest⟩ := List.isChain_cons.mp hends
    obtain ⟨next, hreads⟩ := exists_reads htoken hfinish (hblank token rfl)
    have hstart (following : Token) (hfollowing : following ∈ list.head?)
        (hopen : following.isOpen = true) : next.mode = .blank := by
      apply hreads.blank
      by_contra hword
      have hclosed := hnext following hfollowing (by simpa using hword)
      rw [hopen] at hclosed
      cases hclosed
    obtain ⟨last, hlast, hdone⟩ := ih hrest hlist hreads.finish hstart
    refine ⟨last, ?_, ?_⟩
    · rw [List.flatMap_cons, List.foldlM_append, hreads.read]
      exact hlast
    · rw [hdone, List.reverse_cons, List.append_assoc, List.singleton_append]

/-- Tokens of which each shows the end of the one before it are found again in their text. -/
theorem scan?_flatMap_render {tokens : List Token} (hends : tokens.IsChain Token.Ends)
    (hnatural : ∀ token ∈ tokens, token.Natural) :
    scan? (tokens.flatMap Token.render) = some tokens := by
  have hstart : Scanner.finish? ⟨.blank, []⟩ = some ⟨.blank, []⟩ := rfl
  obtain ⟨last, hlast, hdone⟩ := foldlM_render hends hnatural hstart (fun _ _ _ => rfl)
  rw [scan?, hlast]
  change (last.finish?.bind fun finished => some finished.tokens.reverse) = _
  rw [hdone, Option.bind_some, List.append_nil, List.reverse_reverse]

end ControlPool.Json
