import FleetScaling.Json.Token
import FleetScaling.Json.Value
import FleetScaling.Proofs.Text.Digits

/-!
# Tokens of written JSON

A written value is cut into the tokens that it was made of, in either layout and whatever its
strings hold (`tokens_compact`, `tokens_pretty`). A number is the only token that does not show its
own end, so what follows a value must be text that does not go on with one (`EndsNumber`).
-/

namespace FleetScaling.Json

open FleetScaling.Text

/-! ## Strings -/

theorem scanText_quote (cs : List Char) : scanText ('"' :: cs) = .done (.ok []) cs := by
  rw [scanText]
  rfl

theorem scanText_escape {cs after : List Char} {c : Char} (h : escape cs = .char c after) :
    scanText ('\\' :: cs) = (scanText after).cons c := by
  rw [scanText]
  simp [h, Escape.rest, TextScan.afterEscape]

theorem scanText_plain {c : Char} (hq : c ≠ '"') (hb : c ≠ '\\') (hc : ¬ c.toNat < 0x20)
    (cs : List Char) : scanText (c :: cs) = (scanText cs).cons c := by
  rw [scanText, if_neg hq, if_neg hb, if_neg hc]

/-- The four hexadecimal digits of a control character. -/
theorem control_digits : ∀ n < 0x20,
    ("".pushn '0' (4 - (hexDigits n).length) ++ hexDigits n).toList =
      ['0', '0', Nat.digitChar (n / 16), Nat.digitChar (n % 16)] := by
  decide +kernel

theorem hexValue?_digitChar : ∀ n < 16, hexValue? (Nat.digitChar n) = some n := by
  decide

theorem utf8Size_digitChar : ∀ n < 16, (Nat.digitChar n).utf8Size = 1 := by
  decide

theorem hexQuad_control {n : Nat} (hn : n < 0x20) (cs : List Char) :
    hexQuad ('0' :: '0' :: Nat.digitChar (n / 16) :: Nat.digitChar (n % 16) :: cs) = .ok (n, cs) := by
  have hhigh := utf8Size_digitChar (n / 16) (by omega)
  have hlow := utf8Size_digitChar (n % 16) (by omega)
  have hsize : byteSize ['0', '0', Nat.digitChar (n / 16), Nat.digitChar (n % 16)] = 4 := by
    show 0 + 1 + 1 + (Nat.digitChar (n / 16)).utf8Size + (Nat.digitChar (n % 16)).utf8Size = 4
    rw [hhigh, hlow]
  have hvalues : ['0', '0', Nat.digitChar (n / 16), Nat.digitChar (n % 16)].mapM hexValue? =
      some [0, 0, n / 16, n % 16] := by
    have hzero : hexValue? '0' = some 0 := by decide
    simp [hzero, hexValue?_digitChar (n / 16) (by omega), hexValue?_digitChar (n % 16) (by omega)]
  unfold hexQuad
  simp only [List.take_succ_cons, List.take_zero, hvalues, hsize]
  show Except.ok (4096 * 0 + 256 * 0 + 16 * (n / 16) + n % 16, cs) = _
  rw [show 4096 * 0 + 256 * 0 + 16 * (n / 16) + n % 16 = n by omega]

theorem escape_control {c : Char} (hc : c.toNat < 0x20) (cs : List Char) :
    escape ('u' :: '0' :: '0' :: Nat.digitChar (c.toNat / 16) :: Nat.digitChar (c.toNat % 16) :: cs) =
      .char c cs := by
  have htrailing : isTrailing c.toNat = false := by
    unfold isTrailing
    rw [decide_eq_false (by omega), Bool.false_and]
  have hleading : isLeading c.toNat = false := by
    unfold isLeading
    rw [decide_eq_false (by omega), Bool.false_and]
  show unitEscape _ = _
  unfold unitEscape
  rw [hexQuad_control hc]
  simp only [htrailing, hleading, Bool.false_eq_true, if_false, Char.ofNat_toNat]

/-- Each character is read back from the way it is written. -/
theorem scanText_escapedChar (c : Char) (cs : List Char) :
    scanText ((escapedChar c).toList ++ cs) = (scanText cs).cons c := by
  unfold escapedChar
  split
  all_goals try exact scanText_escape rfl
  rename_i hq hb _ _ _ _ _
  split
  · rename_i hc
    dsimp only
    rw [String.append_assoc, String.toList_append, control_digits c.toNat hc]
    exact scanText_escape (escape_control hc cs)
  · rename_i hc
    rw [Char.toString_eq_singleton, String.toList_singleton]
    exact scanText_plain hq hb hc cs

theorem scanText_escaped (cs rest : List Char) :
    scanText ((cs.flatMap fun c => (escapedChar c).toList) ++ '"' :: rest) = .done (.ok cs) rest := by
  induction cs with
  | nil => exact scanText_quote rest
  | cons c cs ih =>
    rw [List.flatMap_cons, List.append_assoc, scanText_escapedChar, ih]
    rfl

theorem toList_writtenText (s : String) : (writtenText s).toList =
    '"' :: ((s.toList.flatMap fun c => (escapedChar c).toList) ++ ['"']) := by
  unfold writtenText
  rw [String.toList_append, String.toList_append, String.toList_join, List.flatMap_map]
  rfl

/-! ## Numbers -/

/-- What follows does not go on with a number. -/
def EndsNumber (cs : List Char) : Prop :=
  ∀ c ∈ cs.head?, ¬ c.isDigit ∧ c ≠ '.' ∧ c ≠ 'e' ∧ c ≠ 'E'

instance : (cs : List Char) → Decidable (EndsNumber cs)
  | [] => isTrue fun _ h => nomatch h
  | c :: _ => decidable_of_iff (¬ c.isDigit ∧ c ≠ '.' ∧ c ≠ 'e' ∧ c ≠ 'E')
      ⟨fun h _ hc => Option.some.inj hc ▸ h, fun h => h c rfl⟩

/-- A text that does not begin with a number's character ends one, whatever comes after it. -/
theorem EndsNumber.append {a : List Char} (h : EndsNumber a) (ha : a ≠ []) (b : List Char) :
    EndsNumber (a ++ b) := by
  cases a with
  | nil => exact absurd rfl ha
  | cons c a => exact h

/-- The value of the number that an integer is written as. -/
def writtenNumber (n : Int) : Except Fault Number :=
  Number.ofParts (decide (n < 0)) (Nat.toDigits 10 n.natAbs) [] none

theorem scanExponent_ends {isNegative : Bool} {whole fraction rest : List Char}
    (h : EndsNumber rest) : scanExponent isNegative whole fraction rest =
      .done (Number.ofParts isNegative whole fraction none) rest := by
  unfold scanExponent
  split
  · rename_i c after
    obtain ⟨_, _, he, hE⟩ := h c rfl
    rw [if_neg fun hc => hc.elim he hE]
  · rfl

theorem scanMagnitude_digits (isNegative : Bool) (n : Nat) {rest : List Char}
    (h : EndsNumber rest) : scanMagnitude isNegative (Nat.toDigits 10 n ++ rest) =
      .done (Number.ofParts isNegative (Nat.toDigits 10 n) [] none) rest := by
  unfold scanMagnitude
  rw [spanDigits_append (allDigits_toDigits n) fun c hc => (h c hc).1]
  dsimp only
  split
  · exact absurd ‹_› Nat.toDigits_ne_nil
  · exact absurd ‹_› (toDigits_ne_zero_cons n _ _)
  · split
    · exact absurd rfl (h '.' rfl).2.1
    · exact scanExponent_ends h

theorem scanNumber_written (n : Int) {rest : List Char} (h : EndsNumber rest) :
    scanNumber ((toString n).toList ++ rest) = .done (writtenNumber n) rest := by
  unfold writtenNumber
  rw [toList_toString_int]
  by_cases hn : n < 0
  · rw [if_pos hn, decide_eq_true hn]
    exact scanMagnitude_digits true n.natAbs h
  · rw [if_neg hn, decide_eq_false hn]
    show scanNumber (Nat.toDigits 10 n.natAbs ++ rest) = _
    unfold scanNumber
    split
    · rename_i cs hcs
      have hminus : '-' ∈ Nat.toDigits 10 n.natAbs := by
        cases hd : Nat.toDigits 10 n.natAbs with
        | nil => exact absurd hd Nat.toDigits_ne_nil
        | cons c ds =>
          rw [hd] at hcs
          rw [(List.cons.inj hcs).1]
          exact List.mem_cons_self
      exact absurd (allDigits_toDigits _ _ hminus) (by decide)
    · exact scanMagnitude_digits false n.natAbs h

theorem accumulate_of_lt {digits : List Char} {significand : Nat}
    (h : digitsValue significand digits < Decimal.twoPow 64) :
    accumulate significand digits = (digitsValue significand digits, []) := by
  have le (digits : List Char) (s : Nat) : s ≤ digitsValue s digits := by
    induction digits generalizing s with
    | nil => exact Nat.le_refl s
    | cons c digits ih =>
      have := ih (10 * s + digitValue c)
      show s ≤ digitsValue (10 * s + digitValue c) digits
      omega
  induction digits generalizing significand with
  | nil => rfl
  | cons c digits ih =>
    have hfits : fits significand c := decide_eq_true (Nat.lt_of_le_of_lt (le digits _) h)
    unfold accumulate
    rw [if_pos hfits]
    exact ih h

/-- A natural number of 64 bits is kept. -/
theorem writtenNumber_natural {n : Nat} (h : n < Decimal.twoPow 64) :
    writtenNumber n = .ok (.natural n) := by
  have hvalue := digitsValue_toDigits n
  unfold writtenNumber Number.ofParts
  rw [Int.natAbs_natCast, decide_eq_false (Int.not_lt.2 (Int.natCast_nonneg n)),
    accumulate_of_lt (by rwa [hvalue]), hvalue]
  rfl

/-- So is a negative number of 64 bits. -/
theorem writtenNumber_negative {n : Int} (hn : n < 0) (h : -(Decimal.twoPow 63 : Int) ≤ n) :
    writtenNumber n = .ok (.negative n) := by
  have hvalue := digitsValue_toDigits n.natAbs
  have hlt : n.natAbs < Decimal.twoPow 64 := by
    have h63 : (Decimal.twoPow 63 : Int) = 9223372036854775808 := rfl
    have h64 : Decimal.twoPow 64 = 18446744073709551616 := rfl
    omega
  unfold writtenNumber Number.ofParts
  rw [decide_eq_true hn, accumulate_of_lt (by rwa [hvalue]), hvalue]
  have hsize : 0 < n.natAbs ∧ n.natAbs ≤ Decimal.twoPow 63 := by omega
  simp only [hsize, and_self, if_true, Bool.not_true, Bool.false_eq_true, if_false]
  rw [show -(n.natAbs : Int) = n by omega]

/-! ## Tokens one by one -/

theorem tokens_nil : tokens [] = [] := by
  rw [tokens]

theorem tokens_gap {c : Char} (h : isGap c) (cs : List Char) : tokens (c :: cs) = tokens cs := by
  rw [tokens, if_pos h]

theorem tokens_gaps {gap : List Char} (h : ∀ c ∈ gap, isGap c) (cs : List Char) :
    tokens (gap ++ cs) = tokens cs := by
  induction gap with
  | nil => rfl
  | cons c gap ih =>
    rw [List.cons_append, tokens_gap (h c List.mem_cons_self),
      ih fun d hd => h d (List.mem_cons_of_mem c hd)]

theorem tokens_of_scan {c : Char} {cs rest : List Char} {t : Token} (h : ¬ isGap c)
    (hs : scanToken c cs = (t, rest)) : tokens (c :: cs) = t :: tokens rest := by
  rw [tokens, if_neg h, hs]

theorem scanToken_number {c : Char} (h : c = '-' ∨ c.isDigit) (cs : List Char) :
    scanToken c cs = match scanNumber (c :: cs) with
      | .done value rest => (.number value, rest)
      | .broken faults => (.broken faults, []) := by
  unfold scanToken
  dsimp only
  split
  all_goals try exact absurd h (by decide)
  exact (if_pos h).trans rfl

theorem tokens_number (n : Int) {rest : List Char} (h : EndsNumber rest) :
    tokens ((toString n).toList ++ rest) = .number (writtenNumber n) :: tokens rest := by
  have hscan := scanNumber_written n h
  obtain ⟨c, cs, hcs, hc⟩ : ∃ c cs, (toString n).toList = c :: cs ∧ (c = '-' ∨ c.isDigit) := by
    rw [toList_toString_int]
    by_cases hn : n < 0
    · rw [if_pos hn]
      exact ⟨'-', _, rfl, Or.inl rfl⟩
    · rw [if_neg hn]
      cases hd : Nat.toDigits 10 n.natAbs with
      | nil => exact absurd hd Nat.toDigits_ne_nil
      | cons c ds =>
        refine ⟨c, ds, rfl, Or.inr (allDigits_toDigits n.natAbs c ?_)⟩
        rw [hd]
        exact List.mem_cons_self
  rw [hcs, List.cons_append] at hscan ⊢
  refine tokens_of_scan ?_ ((scanToken_number hc _).trans ?_)
  · rcases hc with rfl | hc
    · decide
    · intro hgap
      unfold isGap at hgap
      simp only [Bool.or_eq_true, beq_iff_eq] at hgap
      rcases hgap with ((rfl | rfl) | rfl) | rfl <;> exact absurd hc (by decide)
  · rw [hscan]

theorem tokens_text (s : String) (rest : List Char) :
    tokens ((writtenText s).toList ++ rest) = .text (.ok s) :: tokens rest := by
  rw [toList_writtenText, List.cons_append, List.append_assoc]
  refine tokens_of_scan (by decide) ?_
  unfold scanToken
  dsimp only
  rw [show ['"'] ++ rest = '"' :: rest from rfl, scanText_escaped]
  show (Token.text (.ok (String.ofList s.toList)), rest) = _
  rw [String.ofList_toList]

theorem tokens_newLine (indent : Nat) (cs : List Char) :
    tokens ((Value.newLine indent).toList ++ cs) = tokens cs := by
  refine tokens_gaps (fun c hc => ?_) cs
  unfold Value.newLine at hc
  rw [String.toList_append, toList_pushn] at hc
  rcases List.mem_append.1 hc with hc | hc
  · rw [List.mem_singleton.1 (show c ∈ ['\n'] from hc)]
    rfl
  · rw [List.eq_of_mem_replicate hc]
    rfl

/-! ## Tokens of values -/

namespace Value

mutual

/-- The tokens of a written value. -/
def tokens : Value → List Token
  | .null => [.null]
  | .bool b => [.bool b]
  | .integer n => [.number (writtenNumber n)]
  | .text s => [.text (.ok s)]
  | .list items => .openList :: (itemTokens items ++ [.closeList])
  | .object members => .openObject :: (memberTokens members ++ [.closeObject])

/-- The tokens of items with commas between them. -/
def itemTokens : List Value → List Token
  | [] => []
  | item :: items => item.tokens ++ moreItemTokens items

/-- The tokens of items after the first, each after a comma. -/
def moreItemTokens : List Value → List Token
  | [] => []
  | item :: items => .comma :: (item.tokens ++ moreItemTokens items)

/-- The tokens of members with commas between them. -/
def memberTokens : List (String × Value) → List Token
  | [] => []
  | (key, value) :: members =>
    .text (.ok key) :: .colon :: (value.tokens ++ moreMemberTokens members)

/-- The tokens of members after the first, each after a comma. -/
def moreMemberTokens : List (String × Value) → List Token
  | [] => []
  | (key, value) :: members =>
    .comma :: .text (.ok key) :: .colon :: (value.tokens ++ moreMemberTokens members)

end

end Value

theorem moreItemTokens_cons (item : Value) (items : List Value) :
    Value.moreItemTokens (item :: items) = .comma :: Value.itemTokens (item :: items) := by
  rw [Value.moreItemTokens, Value.itemTokens]

theorem moreMemberTokens_cons (member : String × Value) (members : List (String × Value)) :
    Value.moreMemberTokens (member :: members) = .comma :: Value.memberTokens (member :: members) := by
  rw [Value.moreMemberTokens, Value.memberTokens]

section Marks

variable (cs : List Char)

theorem tokens_openList : tokens ("[".toList ++ cs) = .openList :: tokens cs :=
  tokens_of_scan (by decide) rfl

theorem tokens_closeList : tokens ("]".toList ++ cs) = .closeList :: tokens cs :=
  tokens_of_scan (by decide) rfl

theorem tokens_openObject : tokens ("\x7b".toList ++ cs) = .openObject :: tokens cs :=
  tokens_of_scan (by decide) rfl

theorem tokens_closeObject : tokens ("\x7d".toList ++ cs) = .closeObject :: tokens cs :=
  tokens_of_scan (by decide) rfl

theorem tokens_comma : tokens (",".toList ++ cs) = .comma :: tokens cs :=
  tokens_of_scan (by decide) rfl

theorem tokens_colon : tokens (":".toList ++ cs) = .colon :: tokens cs :=
  tokens_of_scan (by decide) rfl

theorem tokens_wideColon : tokens (": ".toList ++ cs) = .colon :: tokens cs :=
  (tokens_colon (' ' :: cs)).trans (congrArg (Token.colon :: ·) (tokens_gap rfl cs))

theorem tokens_word (b : Bool) :
    tokens ((if b then "true" else "false").toList ++ cs) = .bool b :: tokens cs := by
  cases b <;> exact tokens_of_scan (by decide) rfl

theorem endsNumber_closeList : EndsNumber ("]".toList ++ cs) := .append (by decide) (by decide) cs

theorem endsNumber_closeObject : EndsNumber ("\x7d".toList ++ cs) :=
  .append (by decide) (by decide) cs

theorem endsNumber_comma : EndsNumber (",".toList ++ cs) := .append (by decide) (by decide) cs

theorem tokens_null : tokens ("null".toList ++ cs) = .null :: tokens cs :=
  tokens_of_scan (by decide) rfl

end Marks

/-! ## The compact layout -/

mutual

theorem compact_tokens (v : Value) {rest : List Char} (h : EndsNumber rest) :
    tokens (v.compact.toList ++ rest) = v.tokens ++ tokens rest := by
  cases v with
  | null => exact tokens_null rest
  | bool b => exact tokens_word rest b
  | integer n => exact tokens_number n h
  | text s => exact tokens_text s rest
  | list items =>
    rw [Value.compact, Value.tokens]
    simp only [String.toList_append, List.append_assoc]
    rw [tokens_openList, compactItems_tokens items (endsNumber_closeList rest), tokens_closeList]
    simp
  | object members =>
    rw [Value.compact, Value.tokens]
    simp only [String.toList_append, List.append_assoc]
    rw [tokens_openObject, compactMembers_tokens members (endsNumber_closeObject rest),
      tokens_closeObject]
    simp

theorem compactItems_tokens (items : List Value) {rest : List Char} (h : EndsNumber rest) :
    tokens ((Value.compactItems items).toList ++ rest) = Value.itemTokens items ++ tokens rest := by
  match items with
  | [] => rfl
  | [item] =>
    rw [Value.compactItems, Value.itemTokens, Value.moreItemTokens, List.append_nil]
    exact compact_tokens item h
  | item :: next :: items =>
    rw [Value.compactItems, Value.itemTokens, moreItemTokens_cons]
    · simp only [String.toList_append, List.append_assoc, List.cons_append]
      rw [compact_tokens item (endsNumber_comma _), tokens_comma,
        compactItems_tokens (next :: items) h]
    · exact List.cons_ne_nil next items

theorem compactMembers_tokens (members : List (String × Value)) {rest : List Char}
    (h : EndsNumber rest) : tokens ((Value.compactMembers members).toList ++ rest) =
      Value.memberTokens members ++ tokens rest := by
  match members with
  | [] => rfl
  | [(key, value)] =>
    rw [Value.compactMembers, Value.memberTokens, Value.moreMemberTokens, List.append_nil]
    simp only [String.toList_append, List.append_assoc, List.cons_append]
    rw [tokens_text, tokens_colon, compact_tokens value h]
  | (key, value) :: next :: members =>
    rw [Value.compactMembers, Value.memberTokens, moreMemberTokens_cons]
    · simp only [String.toList_append, List.append_assoc, List.cons_append]
      rw [tokens_text, tokens_colon, compact_tokens value (endsNumber_comma _),
        tokens_comma, compactMembers_tokens (next :: members) h]
    · exact List.cons_ne_nil next members

end

/-! ## The layout on several lines -/

theorem endsNumber_newLine (indent : Nat) (cs : List Char) :
    EndsNumber ((Value.newLine indent).toList ++ cs) := by
  unfold Value.newLine
  rw [String.toList_append, List.append_assoc]
  exact .append (by decide) (by decide) _

theorem endsNumber_prettyItems (indent : Nat) (items : List Value) {rest : List Char}
    (h : EndsNumber rest) : EndsNumber ((Value.prettyItems indent items).toList ++ rest) := by
  cases items with
  | nil => exact h
  | cons item items =>
    rw [Value.prettyItems]
    simp only [String.toList_append, List.append_assoc]
    exact endsNumber_comma _

theorem endsNumber_prettyMembers (indent : Nat) (members : List (String × Value))
    {rest : List Char} (h : EndsNumber rest) :
    EndsNumber ((Value.prettyMembers indent members).toList ++ rest) := by
  cases members with
  | nil => exact h
  | cons member members =>
    rw [Value.prettyMembers]
    simp only [String.toList_append, List.append_assoc]
    exact endsNumber_comma _

mutual

theorem pretty_tokens (v : Value) (indent : Nat) {rest : List Char} (h : EndsNumber rest) :
    tokens ((v.pretty indent).toList ++ rest) = v.tokens ++ tokens rest := by
  match v with
  | .null => exact tokens_null rest
  | .bool b => exact tokens_word rest b
  | .integer n => exact tokens_number n h
  | .text s => exact tokens_text s rest
  | .list [] =>
    rw [Value.pretty, Value.tokens, Value.itemTokens]
    exact (tokens_openList ("]".toList ++ rest)).trans (congrArg _ (tokens_closeList rest))
  | .list (item :: items) =>
    have last := endsNumber_newLine indent ("]".toList ++ rest)
    rw [Value.pretty, Value.tokens, Value.itemTokens]
    simp only [String.toList_append, List.append_assoc]
    rw [tokens_openList, tokens_newLine, pretty_tokens item _ (endsNumber_prettyItems _ items last),
      prettyItems_tokens items _ last, tokens_newLine, tokens_closeList]
    simp
  | .object [] =>
    rw [Value.pretty, Value.tokens, Value.memberTokens]
    exact (tokens_openObject ("\x7d".toList ++ rest)).trans (congrArg _ (tokens_closeObject rest))
  | .object ((key, value) :: members) =>
    have last := endsNumber_newLine indent ("\x7d".toList ++ rest)
    rw [Value.pretty, Value.tokens, Value.memberTokens]
    simp only [String.toList_append, List.append_assoc]
    rw [tokens_openObject, tokens_newLine, tokens_text, tokens_wideColon,
      pretty_tokens value _ (endsNumber_prettyMembers _ members last),
      prettyMembers_tokens members _ last, tokens_newLine, tokens_closeObject]
    simp

theorem prettyItems_tokens (items : List Value) (indent : Nat) {rest : List Char}
    (h : EndsNumber rest) : tokens ((Value.prettyItems indent items).toList ++ rest) =
      Value.moreItemTokens items ++ tokens rest := by
  match items with
  | [] => rfl
  | item :: items =>
    rw [Value.prettyItems, Value.moreItemTokens]
    simp only [String.toList_append, List.append_assoc]
    rw [tokens_comma, tokens_newLine, pretty_tokens item _ (endsNumber_prettyItems _ items h),
      prettyItems_tokens items _ h]
    simp

theorem prettyMembers_tokens (members : List (String × Value)) (indent : Nat) {rest : List Char}
    (h : EndsNumber rest) : tokens ((Value.prettyMembers indent members).toList ++ rest) =
      Value.moreMemberTokens members ++ tokens rest := by
  match members with
  | [] => rfl
  | (key, value) :: members =>
    rw [Value.prettyMembers, Value.moreMemberTokens]
    simp only [String.toList_append, List.append_assoc]
    rw [tokens_comma, tokens_newLine, tokens_text, tokens_wideColon,
      pretty_tokens value _ (endsNumber_prettyMembers _ members h), prettyMembers_tokens members _ h]
    simp

end

/-- The compact text of a value has its tokens and no others. -/
theorem tokens_compact (v : Value) : tokens v.compact.toList = v.tokens := by
  have h := compact_tokens v (show EndsNumber [] by decide)
  rwa [List.append_nil, tokens_nil, List.append_nil] at h

/-- So has the text on several lines. -/
theorem tokens_pretty (v : Value) (indent : Nat) : tokens (v.pretty indent).toList = v.tokens := by
  have h := pretty_tokens v indent (show EndsNumber [] by decide)
  rwa [List.append_nil, tokens_nil, List.append_nil] at h

end FleetScaling.Json
