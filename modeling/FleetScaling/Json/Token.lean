import FleetScaling.Json.Number

/-!
# Tokens of JSON text

`tokens` cuts a text into brackets, separators, words, numbers and strings. It stops at the first
place where no token can be read; that place is the last token of the list. A string or number
that is well formed but has no value, such as a lone surrogate, is a token without a value: it
stops a reader and not one that passes over it.
-/

namespace FleetScaling.Json

open FleetScaling.Text

/-- What a text consists of. -/
inductive Token
  | openList
  | closeList
  | openObject
  | closeObject
  | comma
  | colon
  | null
  | bool (b : Bool)
  | number (value : Except Fault Number)
  | text (value : Except Fault String)
  /-- A string that does not end or holds what no string may hold. -/
  | brokenText (faults : Faults)
  /-- Any other place where no token can be read. -/
  | broken (faults : Faults)

/-! ## Strings -/

/-- What a string's characters after an escaping backslash stand for. -/
inductive Escape
  | char (c : Char) (rest : List Char)
  /-- Four hexadecimal digits that stand for no character. -/
  | valueless (fault : Fault) (rest : List Char)
  | broken (fault : Fault)

/-- The text that an escape leaves unread. -/
def Escape.rest : Escape → List Char
  | char _ rest => rest
  | valueless _ rest => rest
  | broken _ => []

/-- Four hexadecimal digits. When fewer than four bytes are left the string does not end. -/
def hexQuad (cs : List Char) : Except Fault (Nat × List Char) :=
  if byteSize (cs.take 4) < 4 then .error .endInText
  else match (cs.take 4).mapM hexValue? with
    | some [a, b, c, d] => .ok (4096 * a + 256 * b + 16 * c + d, cs.drop 4)
    | _ => .error .invalidEscape

/-- Whether a code unit opens a surrogate pair. -/
def isLeading (unit : Nat) : Bool := 0xd800 ≤ unit && unit ≤ 0xdbff

/-- Whether a code unit closes a surrogate pair. -/
def isTrailing (unit : Nat) : Bool := 0xdc00 ≤ unit && unit ≤ 0xdfff

/-- The character that two surrogates stand for. -/
def surrogatePair (leading trailing : Nat) : Char :=
  Char.ofNat ((leading - 0xd800) * 0x400 + (trailing - 0xdc00) + 0x10000)

/-- What follows a leading surrogate: its partner, or a string that cannot be read. -/
def pairEscape (leading : Nat) (cs : List Char) : Escape :=
  match cs with
  | '\\' :: 'u' :: after =>
    match hexQuad after with
    | .error fault => .broken fault
    | .ok (trailing, rest) =>
      if isTrailing trailing then .char (surrogatePair leading trailing) rest
      else .valueless .loneSurrogate cs
  | [] => .broken .endInText
  | ['\\'] => .broken .endInText
  | _ => .valueless .unfinishedSurrogate cs

/-- The escape that is a code unit in four hexadecimal digits. -/
def unitEscape (cs : List Char) : Escape :=
  match hexQuad cs with
  | .error fault => .broken fault
  | .ok (unit, rest) =>
    if isTrailing unit then .valueless .loneSurrogate rest
    else if isLeading unit then pairEscape unit rest
    else .char (Char.ofNat unit) rest

/-- The escape after its backslash. -/
def escape (cs : List Char) : Escape :=
  match cs with
  | [] => .broken .endInText
  | c :: rest => match c with
    | '"' => .char '"' rest
    | '\\' => .char '\\' rest
    | '/' => .char '/' rest
    | 'b' => .char '\x08' rest
    | 'f' => .char '\x0c' rest
    | 'n' => .char '\n' rest
    | 'r' => .char '\r' rest
    | 't' => .char '\t' rest
    | 'u' => unitEscape rest
    | _ => .broken .invalidEscape

theorem hexQuad_length {cs rest : List Char} {n : Nat} (h : hexQuad cs = .ok (n, rest)) :
    rest.length ≤ cs.length := by
  unfold hexQuad at h
  split at h
  · cases h
  · split at h
    · cases h; simp
    · cases h

theorem pairEscape_length (unit : Nat) (cs : List Char) :
    (pairEscape unit cs).rest.length ≤ cs.length := by
  unfold pairEscape
  split
  · split
    · simp [Escape.rest]
    · rename_i h
      have := hexQuad_length h
      split <;> simp only [Escape.rest, List.length_cons] <;> omega
  all_goals simp [Escape.rest]

theorem unitEscape_length (cs : List Char) : (unitEscape cs).rest.length ≤ cs.length := by
  unfold unitEscape
  split
  · simp [Escape.rest]
  · rename_i unit rest h
    have hrest := hexQuad_length h
    have hpair := pairEscape_length unit rest
    split
    · exact hrest
    · split
      · exact Nat.le_trans hpair hrest
      · exact hrest

theorem escape_length (cs : List Char) : (escape cs).rest.length ≤ cs.length := by
  unfold escape
  split
  · simp [Escape.rest]
  · rename_i c rest
    split
    case h_9 => exact Nat.le_succ_of_le (unitEscape_length rest)
    all_goals simp [Escape.rest]

/-- A string up to its closing quote and what follows, or the faults of a malformed one. -/
inductive TextScan
  | done (value : Except Fault (List Char)) (rest : List Char)
  | broken (faults : Faults)

namespace TextScan

/-- The string with a character in front. -/
def cons (c : Char) : TextScan → TextScan
  | done value rest => done (value.map (c :: ·)) rest
  | broken faults => broken faults

/-- The string with an escape in front. One without a value stops readers at once, and those that
only pass over the string at its own fault. -/
def afterEscape : Escape → TextScan → TextScan
  | .char c _, scan => scan.cons c
  | .valueless fault _, done _ rest => done (.error fault) rest
  | .valueless fault _, broken faults => broken ⟨fault, faults.skip, fault⟩
  | .broken fault, _ => broken (.all fault)

end TextScan

/-- The string at the front of a text, after its opening quote. -/
def scanText (cs : List Char) : TextScan :=
  match cs with
  | [] => .broken (.all .endInText)
  | c :: after =>
    if c = '"' then .done (.ok []) after
    else if c = '\\' then
      have := escape_length after
      (scanText (escape after).rest).afterEscape (escape after)
    else if c.toNat < 0x20 then .broken (.all .controlCharacter)
    else (scanText after).cons c
termination_by cs.length

theorem TextScan.cons_eq_done {c : Char} {scan : TextScan} {value : Except Fault (List Char)}
    {rest : List Char} (h : scan.cons c = .done value rest) : ∃ v, scan = .done v rest := by
  cases scan with
  | done v r => cases h; exact ⟨v, rfl⟩
  | broken faults => cases h

theorem TextScan.afterEscape_eq_done {e : Escape} {scan : TextScan}
    {value : Except Fault (List Char)} {rest : List Char}
    (h : scan.afterEscape e = .done value rest) : ∃ v, scan = .done v rest := by
  cases e with
  | char c _ => exact cons_eq_done h
  | valueless fault _ =>
    cases scan with
    | done v r => cases h; exact ⟨v, rfl⟩
    | broken faults => cases h
  | broken fault => cases h

theorem scanText_length (cs : List Char) : ∀ {value : Except Fault (List Char)} {rest : List Char},
    scanText cs = .done value rest → rest.length < cs.length := by
  fun_induction scanText cs with
  | case1 => intro _ _ h; cases h
  | case2 after => intro _ _ h; cases h; simp
  | case3 after _ hle ih =>
    intro _ _ h
    obtain ⟨v, hv⟩ := TextScan.afterEscape_eq_done h
    have hlt := ih hv
    simp only [List.length_cons]
    omega
  | case4 => intro _ _ h; cases h
  | case5 c after _ _ _ ih =>
    intro _ _ h
    obtain ⟨v, hv⟩ := TextScan.cons_eq_done h
    exact Nat.lt_succ_of_lt (ih hv)

/-! ## Words -/

/-- Whether the text begins with the rest of a word; if not, the fault. -/
def scanWord : List Char → List Char → Option Fault
  | [], _ => none
  | _ :: _, [] => some .endInValue
  | w :: ws, c :: cs => if w = c then scanWord ws cs else some .expectedWord

/-! ## The text -/

/-- The blanks between tokens. -/
def isGap (c : Char) : Bool := c == ' ' || c == '\n' || c == '\t' || c == '\r'

/-- The first token of a text that starts with `c`, and what follows it. -/
def scanToken (c : Char) (cs : List Char) : Token × List Char :=
  let word (letters : String) (token : Token) : Token × List Char :=
    match scanWord letters.toList cs with
    | none => (token, cs.drop letters.length)
    | some fault => (.broken (.ofValue fault fault), [])
  match c with
  | '[' => (.openList, cs)
  | ']' => (.closeList, cs)
  | '\x7b' => (.openObject, cs)
  | '\x7d' => (.closeObject, cs)
  | ',' => (.comma, cs)
  | ':' => (.colon, cs)
  | '"' => match scanText cs with
    | .done value rest => (.text (value.map String.ofList), rest)
    | .broken faults => (.brokenText faults, [])
  | 'n' => word "ull" .null
  | 't' => word "rue" (.bool true)
  | 'f' => word "alse" (.bool false)
  | c =>
    if c = '-' ∨ c.isDigit then
      match scanNumber (c :: cs) with
      | .done value rest => (.number value, rest)
      | .broken faults => (.broken faults, [])
    else (.broken (.all .expectedValue), [])

theorem scanToken_length (c : Char) (cs : List Char) :
    (scanToken c cs).2.length ≤ cs.length := by
  unfold scanToken
  dsimp only
  split
  all_goals try exact Nat.le_refl _
  · split
    · rename_i h
      exact Nat.le_of_lt (scanText_length cs h)
    · simp
  · split <;> simp
  · split <;> simp
  · split <;> simp
  · split
    · split
      · rename_i h
        exact scanNumber_length h
      · simp
    · simp

/-- The tokens of a text, up to the first place where there is none. -/
def tokens (cs : List Char) : List Token :=
  match cs with
  | [] => []
  | c :: after =>
    if isGap c then tokens after
    else
      have := scanToken_length c after
      (scanToken c after).1 :: tokens (scanToken c after).2
termination_by cs.length

end FleetScaling.Json
