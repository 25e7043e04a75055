import FleetScaling.Proofs.Json.Accepted
import FleetScaling.Proofs.Json.Reader
import FleetScaling.Proofs.Json.Records

/-!
# Arrays of strings

Which texts are JSON arrays of strings, character by character: `Written` is the grammar of a string
behind its opening quote, with its escapes, and `IsTextArray` that of the array, with blanks
wherever they may stand. A text decodes to a list of strings exactly if it is such an array
(`decode_texts_iff`).
-/

namespace FleetScaling.Json

open FleetScaling.Text

/-! ## Strings -/

/-- Four hexadecimal digits, their number, and what follows them. -/
inductive Quad : List Char → Nat → List Char → Prop
  | digits {a b c d : Char} {i j k l : Nat} (ha : hexValue? a = some i) (hb : hexValue? b = some j)
    (hc : hexValue? c = some k) (hd : hexValue? d = some l) (rest : List Char) :
    Quad (a :: b :: c :: d :: rest) (4096 * i + 256 * j + 16 * k + l) rest

/-- The escapes of one letter. -/
def shortEscapes : List (Char × Char) :=
  [('"', '"'), ('\\', '\\'), ('/', '/'), ('b', '\x08'), ('f', '\x0c'), ('n', '\n'), ('r', '\r'),
    ('t', '\t')]

/-- An escape behind its backslash, the character that it stands for, and what follows it. A code
unit must not be a surrogate, unless it is the first of a pair. -/
inductive Escaped : List Char → Char → List Char → Prop
  | short {letter c : Char} (h : (letter, c) ∈ shortEscapes) (rest : List Char) :
    Escaped (letter :: rest) c rest
  | unit {cs rest : List Char} {n : Nat} (h : Quad cs n rest) (hl : ¬ isLeading n)
    (ht : ¬ isTrailing n) : Escaped ('u' :: cs) (Char.ofNat n) rest
  | pair {cs after rest : List Char} {leading trailing : Nat}
    (h : Quad cs leading ('\\' :: 'u' :: after)) (hl : isLeading leading)
    (h' : Quad after trailing rest) (ht : isTrailing trailing) :
    Escaped ('u' :: cs) (surrogatePair leading trailing) rest

/-- The rest of a string up to its closing quote, the characters that it stands for, and what
follows. -/
inductive Written : List Char → List Char → List Char → Prop
  | close (rest : List Char) : Written ('"' :: rest) [] rest
  | escaped {cs after ds rest : List Char} {c : Char} (h : Escaped cs c after)
    (more : Written after ds rest) : Written ('\\' :: cs) (c :: ds) rest
  | plain {cs ds rest : List Char} {c : Char} (hq : c ≠ '"') (hb : c ≠ '\\') (hc : 0x20 ≤ c.toNat)
    (more : Written cs ds rest) : Written (c :: cs) (c :: ds) rest

/-- A hexadecimal digit is one byte. -/
theorem utf8Size_of_hexValue? {c : Char} {n : Nat} (h : hexValue? c = some n) : c.utf8Size = 1 := by
  have below : c ≤ 'f' := by
    unfold hexValue? at h
    split at h
    · rename_i hc
      simp only [Char.isDigit, Bool.and_eq_true, decide_eq_true_eq] at hc
      exact UInt32.le_trans hc.2 (by decide)
    · split at h
      · exact (‹_ ∧ _›).2
      · split at h
        · exact Char.le_trans (‹_ ∧ _›).2 (by decide)
        · cases h
  exact Char.utf8Size_eq_one_iff.2 (UInt32.le_trans below (by decide))

theorem mapM_eq_some_iff {α β : Type} {f : α → Option β} {items : List α} {values : List β} :
    items.mapM f = some values ↔
      List.Forall₂ (fun item value => f item = some value) items values := by
  induction items generalizing values with
  | nil =>
    rw [List.mapM_nil, List.forall₂_nil_left_iff]
    exact (Option.some.injEq ..).to_iff.trans eq_comm
  | cons item items ih =>
    simp only [List.mapM_cons, List.forall₂_cons_left_iff, Option.bind_eq_bind,
      Option.bind_eq_some_iff, ih, Option.pure_def, Option.some.injEq]
    constructor
    · rintro ⟨value, hvalue, rest, hrest, rfl⟩
      exact ⟨value, rest, hvalue, hrest, rfl⟩
    · rintro ⟨value, rest, hvalue, hrest, rfl⟩
      exact ⟨value, hvalue, rest, hrest, rfl⟩

theorem hexQuad_eq_ok_iff {cs rest : List Char} {n : Nat} :
    hexQuad cs = .ok (n, rest) ↔ Quad cs n rest := by
  constructor
  · intro h
    unfold hexQuad at h
    split at h
    case isTrue => cases h
    split at h
    case h_2 => cases h
    rename_i i j k l hvalues
    cases h
    obtain ⟨a, _, ha, tail, first⟩ := List.forall₂_cons_right_iff.1 (mapM_eq_some_iff.1 hvalues)
    obtain ⟨b, _, hb, tail', rfl⟩ := List.forall₂_cons_right_iff.1 tail
    obtain ⟨c, _, hc, tail'', rfl⟩ := List.forall₂_cons_right_iff.1 tail'
    obtain ⟨d, _, hd, none, rfl⟩ := List.forall₂_cons_right_iff.1 tail''
    obtain rfl := List.forall₂_nil_right_iff.1 none
    rw [← List.take_append_drop 4 cs, first]
    exact .digits ha hb hc hd _
  · intro h
    cases h with
    | @digits a b c d i j k l ha hb hc hd =>
      have size : ¬ byteSize [a, b, c, d] < 4 := by
        show ¬ 0 + a.utf8Size + b.utf8Size + c.utf8Size + d.utf8Size < 4
        rw [utf8Size_of_hexValue? ha, utf8Size_of_hexValue? hb, utf8Size_of_hexValue? hc,
          utf8Size_of_hexValue? hd]
        decide
      have values : [a, b, c, d].mapM hexValue? = some [i, j, k, l] :=
        mapM_eq_some_iff.2 (.cons ha (.cons hb (.cons hc (.cons hd .nil))))
      unfold hexQuad
      rw [show (a :: b :: c :: d :: rest).take 4 = [a, b, c, d] from rfl, if_neg size, values]
      rfl

theorem isLeading_not_isTrailing {n : Nat} (h : isLeading n) : ¬ isTrailing n := by
  unfold isLeading at h
  unfold isTrailing
  simp only [Bool.and_eq_true, decide_eq_true_eq] at *
  omega

theorem pairEscape_eq_char_iff {leading : Nat} {cs rest : List Char} {c : Char} :
    pairEscape leading cs = .char c rest ↔ ∃ after trailing, cs = '\\' :: 'u' :: after ∧
      Quad after trailing rest ∧ isTrailing trailing ∧ surrogatePair leading trailing = c := by
  constructor
  · intro h
    unfold pairEscape at h
    split at h
    · rename_i after
      split at h
      · cases h
      · rename_i trailing rest' hquad
        split at h
        · rename_i ht
          obtain ⟨rfl, rfl⟩ := Escape.char.inj h
          exact ⟨after, trailing, rfl, hexQuad_eq_ok_iff.1 hquad, ht, rfl⟩
        · cases h
    all_goals cases h
  · rintro ⟨after, trailing, rfl, hquad, ht, rfl⟩
    have read := hexQuad_eq_ok_iff.2 hquad
    unfold pairEscape
    simp only [read]
    exact if_pos ht

theorem unitEscape_eq_char_iff {cs rest : List Char} {c : Char} :
    unitEscape cs = .char c rest ↔ Escaped ('u' :: cs) c rest := by
  constructor
  · intro h
    unfold unitEscape at h
    split at h
    case h_1 => cases h
    rename_i n after hquad
    rw [hexQuad_eq_ok_iff] at hquad
    split at h
    case isTrue => cases h
    rename_i ht
    split at h
    · rename_i hl
      obtain ⟨after', trailing, rfl, hquad', ht', rfl⟩ := pairEscape_eq_char_iff.1 h
      exact .pair hquad hl hquad' ht'
    · rename_i hl
      obtain ⟨rfl, rfl⟩ := Escape.char.inj h
      exact .unit hquad hl ht
  · intro h
    unfold unitEscape
    cases h with
    | short h => exact absurd h (by simp [shortEscapes])
    | unit h hl ht =>
      rw [hexQuad_eq_ok_iff.2 h]
      show (if isTrailing _ then _ else if isLeading _ then _ else _) = _
      rw [if_neg ht, if_neg hl]
    | pair h hl h' ht =>
      rw [hexQuad_eq_ok_iff.2 h]
      show (if isTrailing _ then _ else if isLeading _ then _ else _) = _
      rw [if_neg (isLeading_not_isTrailing hl), if_pos hl]
      exact pairEscape_eq_char_iff.2 ⟨_, _, rfl, h', ht, rfl⟩

theorem escape_eq_char_iff {cs rest : List Char} {c : Char} :
    escape cs = .char c rest ↔ Escaped cs c rest := by
  constructor
  · intro h
    unfold escape at h
    split at h
    case h_1 => cases h
    split at h
    case h_9 => exact unitEscape_eq_char_iff.1 h
    case h_10 => cases h
    all_goals
      obtain ⟨rfl, rfl⟩ := Escape.char.inj h
      exact .short (by decide) _
  · intro h
    cases h with
    | short h =>
      simp only [shortEscapes, List.mem_cons, Prod.mk.injEq, List.not_mem_nil, or_false] at h
      rcases h with ⟨rfl, rfl⟩ | ⟨rfl, rfl⟩ | ⟨rfl, rfl⟩ | ⟨rfl, rfl⟩ | ⟨rfl, rfl⟩ | ⟨rfl, rfl⟩ |
        ⟨rfl, rfl⟩ | ⟨rfl, rfl⟩
      all_goals rfl
    | unit h hl ht => exact unitEscape_eq_char_iff.2 (.unit h hl ht)
    | pair h hl h' ht => exact unitEscape_eq_char_iff.2 (.pair h hl h' ht)

theorem cons_eq_ok {c : Char} {scan : TextScan} {ds rest : List Char}
    (h : scan.cons c = .done (.ok ds) rest) :
    ∃ more, ds = c :: more ∧ scan = .done (.ok more) rest := by
  cases scan with
  | broken faults => cases h
  | done value after =>
    obtain ⟨hvalue, rfl⟩ := TextScan.done.inj h
    obtain ⟨more, rfl, rfl⟩ := map_eq_ok_iff.1 hvalue
    exact ⟨more, rfl, rfl⟩

/-- An escape that a string goes on after stands for a character. -/
theorem afterEscape_eq_ok {e : Escape} {scan : TextScan} {ds rest : List Char}
    (h : scan.afterEscape e = .done (.ok ds) rest) :
    ∃ c after more, e = .char c after ∧ ds = c :: more ∧ scan = .done (.ok more) rest := by
  cases e with
  | char c after =>
    obtain ⟨more, hds, hscan⟩ := cons_eq_ok h
    exact ⟨c, after, more, rfl, hds, hscan⟩
  | valueless fault after => cases scan <;> cases h
  | broken fault => cases h

theorem scanText_eq_done_iff {cs ds rest : List Char} :
    scanText cs = .done (.ok ds) rest ↔ Written cs ds rest := by
  constructor
  · intro h
    fun_induction scanText cs generalizing ds with
    | case1 => cases h
    | case2 after =>
      cases h
      exact .close rest
    | case3 after _ _ ih =>
      obtain ⟨c, next, more, he, rfl, hscan⟩ := afterEscape_eq_ok h
      rw [he] at ih hscan
      exact .escaped (escape_eq_char_iff.1 he) (ih hscan)
    | case4 => cases h
    | case5 c after hq hb hc ih =>
      obtain ⟨more, rfl, hscan⟩ := cons_eq_ok h
      exact .plain hq hb (Nat.le_of_not_lt hc) (ih hscan)
  · intro h
    induction h with
    | close rest => exact scanText_quote rest
    | escaped he _ ih =>
      rw [scanText_escape (escape_eq_char_iff.2 he), ih]
      rfl
    | plain hq hb hc _ ih =>
      rw [scanText_plain hq hb (Nat.not_lt.2 hc), ih]
      rfl

/-! ## Tokens -/

/-- Blanks that may stand between tokens. -/
def Gap (cs : List Char) : Prop := ∀ c ∈ cs, isGap c = true

theorem tokens_eq_nil_iff {cs : List Char} : tokens cs = [] ↔ Gap cs := by
  constructor
  · intro h
    induction cs with
    | nil => exact List.forall_mem_nil _
    | cons c cs ih =>
      rw [tokens] at h
      split at h
      · rename_i hc
        exact List.forall_mem_cons.2 ⟨hc, ih h⟩
      · cases h
  · intro h
    have := tokens_gaps h []
    rwa [List.append_nil, tokens_nil] at this

/-- The first token of a text stands behind blanks. -/
theorem tokens_eq_cons_iff {cs : List Char} {t : Token} {ts : List Token} :
    tokens cs = t :: ts ↔ ∃ gap c after, cs = gap ++ c :: after ∧ Gap gap ∧ isGap c = false ∧
      (scanToken c after).1 = t ∧ tokens (scanToken c after).2 = ts := by
  constructor
  · intro h
    induction cs with
    | nil =>
      rw [tokens_nil] at h
      cases h
    | cons c cs ih =>
      rw [tokens] at h
      split at h
      · rename_i hc
        obtain ⟨gap, d, after, rfl, hgap, hscan⟩ := ih h
        exact ⟨c :: gap, d, after, rfl, List.forall_mem_cons.2 ⟨hc, hgap⟩, hscan⟩
      · rename_i hc
        obtain ⟨ht, hts⟩ := List.cons.inj h
        exact ⟨[], c, cs, rfl, List.forall_mem_nil _, Bool.eq_false_iff.2 hc, ht, hts⟩
  · rintro ⟨gap, c, after, rfl, hgap, hc, rfl, rfl⟩
    rw [tokens_gaps hgap]
    exact tokens_of_scan (Bool.eq_false_iff.1 hc) rfl

/-- The character that a bracket, a comma or a string begins with. -/
def Token.front? : Token → Option Char
  | .openList => some '['
  | .closeList => some ']'
  | .comma => some ','
  | .text _ => some '"'
  | _ => none

theorem eq_front_of_scanToken {c d : Char} {after : List Char}
    (h : (scanToken c after).1.front? = some d) : c = d := by
  unfold scanToken at h
  dsimp only at h
  split at h
  case h_1 | h_2 | h_5 => exact Option.some.inj h
  case h_3 | h_4 | h_6 => cases h
  case h_7 =>
    split at h
    · exact Option.some.inj h
    · cases h
  case h_8 | h_9 | h_10 =>
    split at h <;> cases h
  case h_11 =>
    split at h
    · split at h <;> cases h
    · cases h

section Front

variable {cs : List Char} {ts : List Token}

/-- A token of one character. -/
theorem tokens_eq_mark_iff {t : Token} {c : Char} (front : t.front? = some c)
    (scan : ∀ after, scanToken c after = (t, after)) (visible : isGap c = false) :
    tokens cs = t :: ts ↔ ∃ gap after, cs = gap ++ c :: after ∧ Gap gap ∧ tokens after = ts := by
  rw [tokens_eq_cons_iff]
  constructor
  · rintro ⟨gap, d, after, rfl, hgap, -, ht, hts⟩
    obtain rfl : d = c := eq_front_of_scanToken (ht ▸ front)
    rw [scan] at hts
    exact ⟨gap, after, rfl, hgap, hts⟩
  · rintro ⟨gap, after, rfl, hgap, hts⟩
    exact ⟨gap, c, after, rfl, hgap, visible, by rw [scan], by rw [scan]; exact hts⟩

theorem tokens_eq_openList_iff : tokens cs = .openList :: ts ↔
    ∃ gap after, cs = gap ++ '[' :: after ∧ Gap gap ∧ tokens after = ts :=
  tokens_eq_mark_iff rfl (fun _ => rfl) rfl

theorem tokens_eq_closeList_iff : tokens cs = .closeList :: ts ↔
    ∃ gap after, cs = gap ++ ']' :: after ∧ Gap gap ∧ tokens after = ts :=
  tokens_eq_mark_iff rfl (fun _ => rfl) rfl

theorem tokens_eq_comma_iff : tokens cs = .comma :: ts ↔
    ∃ gap after, cs = gap ++ ',' :: after ∧ Gap gap ∧ tokens after = ts :=
  tokens_eq_mark_iff rfl (fun _ => rfl) rfl

theorem scanToken_of_scanText {after rest : List Char} {value : Except Fault (List Char)}
    (h : scanText after = .done value rest) :
    scanToken '"' after = (.text (value.map String.ofList), rest) := by
  unfold scanToken
  simp only [h]

theorem scanText_of_scanToken {after : List Char} {s : String}
    (h : (scanToken '"' after).1 = .text (.ok s)) :
    ∃ ds rest, scanText after = .done (.ok ds) rest ∧ String.ofList ds = s := by
  cases hscan : scanText after with
  | done value rest =>
    rw [scanToken_of_scanText hscan] at h
    obtain ⟨ds, rfl, hds⟩ := map_eq_ok_iff.1 (Token.text.inj h)
    exact ⟨ds, rest, rfl, hds⟩
  | broken faults =>
    unfold scanToken at h
    simp only [hscan] at h
    cases h

/-- A string that has a value. -/
theorem tokens_eq_text_iff {s : String} : tokens cs = .text (.ok s) :: ts ↔
    ∃ gap after ds rest, cs = gap ++ '"' :: after ∧ Gap gap ∧ Written after ds rest ∧
      s = String.ofList ds ∧ tokens rest = ts := by
  rw [tokens_eq_cons_iff]
  constructor
  · rintro ⟨gap, d, after, rfl, hgap, -, ht, hts⟩
    obtain rfl : d = '"' := eq_front_of_scanToken (by rw [ht]; rfl)
    obtain ⟨ds, rest, hscan, rfl⟩ := scanText_of_scanToken ht
    rw [scanToken_of_scanText hscan] at hts
    exact ⟨gap, after, ds, rest, rfl, hgap, scanText_eq_done_iff.1 hscan, rfl, hts⟩
  · rintro ⟨gap, after, ds, rest, rfl, hgap, hwritten, rfl, hts⟩
    have scan := scanToken_of_scanText (scanText_eq_done_iff.2 hwritten)
    exact ⟨gap, '"', after, rfl, hgap, rfl, congrArg Prod.fst scan, by rw [scan]; exact hts⟩

end Front

/-! ## Arrays -/

/-- The rest of an array behind one of its strings, and the strings in it. -/
inductive MoreTexts : List Char → List String → Prop
  | close {gap after : List Char} (hg : Gap gap) (ha : Gap after) :
    MoreTexts (gap ++ ']' :: after) []
  | next {gap gap' cs ds rest : List Char} {strings : List String} (hg : Gap gap) (hg' : Gap gap')
    (string : Written cs ds rest) (more : MoreTexts rest strings) :
    MoreTexts (gap ++ ',' :: (gap' ++ '"' :: cs)) (String.ofList ds :: strings)

/-- A text that is an array of strings, with blanks around all its parts, and the strings in it. -/
inductive IsTextArray : List Char → List String → Prop
  | empty {gap gap' after : List Char} (hg : Gap gap) (hg' : Gap gap') (ha : Gap after) :
    IsTextArray (gap ++ '[' :: (gap' ++ ']' :: after)) []
  | strings {gap gap' cs ds rest : List Char} {strings : List String} (hg : Gap gap)
    (hg' : Gap gap') (string : Written cs ds rest) (more : MoreTexts rest strings) :
    IsTextArray (gap ++ '[' :: (gap' ++ '"' :: cs)) (String.ofList ds :: strings)

theorem tokens_eq_more_iff {cs : List Char} {strings : List String} :
    tokens cs = Value.moreItemTokens (strings.map .text) ++ [.closeList] ↔
      MoreTexts cs strings := by
  constructor
  · intro h
    induction strings generalizing cs with
    | nil =>
      obtain ⟨gap, after, rfl, hg, h⟩ := tokens_eq_closeList_iff.1 h
      exact .close hg (tokens_eq_nil_iff.1 h)
    | cons s strings ih =>
      obtain ⟨gap, _, rfl, hg, h⟩ := tokens_eq_comma_iff.1 h
      obtain ⟨gap', after, ds, rest, rfl, hg', string, rfl, more⟩ := tokens_eq_text_iff.1 h
      exact .next hg hg' string (ih more)
  · intro h
    induction h with
    | close hg ha => exact tokens_eq_closeList_iff.2 ⟨_, _, rfl, hg, tokens_eq_nil_iff.2 ha⟩
    | next hg hg' string _ ih =>
      exact tokens_eq_comma_iff.2 ⟨_, _, rfl, hg,
        tokens_eq_text_iff.2 ⟨_, _, _, _, rfl, hg', string, rfl, ih⟩⟩

theorem tokens_eq_array_iff {cs : List Char} {strings : List String} :
    tokens cs = (Value.list (strings.map .text)).tokens ↔ IsTextArray cs strings := by
  constructor
  · intro h
    obtain ⟨gap, _, rfl, hg, h⟩ := tokens_eq_openList_iff.1 h
    cases strings with
    | nil =>
      obtain ⟨gap', after, rfl, hg', h⟩ := tokens_eq_closeList_iff.1 h
      exact .empty hg hg' (tokens_eq_nil_iff.1 h)
    | cons s strings =>
      obtain ⟨gap', after, ds, rest, rfl, hg', string, rfl, more⟩ := tokens_eq_text_iff.1 h
      exact .strings hg hg' string (tokens_eq_more_iff.1 more)
  · intro h
    refine tokens_eq_openList_iff.2 ?_
    cases h with
    | empty hg hg' ha =>
      exact ⟨_, _, rfl, hg, tokens_eq_closeList_iff.2 ⟨_, _, rfl, hg', tokens_eq_nil_iff.2 ha⟩⟩
    | strings hg hg' string more =>
      exact ⟨_, _, rfl, hg, tokens_eq_text_iff.2 ⟨_, _, _, _, rfl, hg', string, rfl,
        tokens_eq_more_iff.2 more⟩⟩

theorem list_texts_iff {expected : String} {d : Document} {strings : List String} :
    Decoder.list (.text expected) depthLimit d = .ok strings ↔
      d = (Value.list (strings.map .text)).document := by
  constructor
  · intro h
    obtain ⟨-, items, rfl, items_eq⟩ := Decoder.list_eq_ok_iff.1 h
    suffices items = Value.documents (strings.map .text) by rw [this]; rfl
    clear h
    induction items_eq with
    | nil => rfl
    | cons hitem _ ih =>
      rw [Decoder.text_eq_ok_iff.1 hitem, ih]
      rfl
  · rintro rfl
    exact (decodes_text expected).list depthLimit (by decide) strings

/-- **Arrays of strings.** A text decodes to a list of strings exactly if it is an array of them. -/
theorem decode_texts_iff {expected text : String} {strings : List String} :
    decode (.list (.text expected)) text = .ok strings ↔ IsTextArray text.toList strings := by
  rw [← tokens_eq_array_iff, ← ofText_eq_document_iff, decode_eq_ok_iff]
  constructor
  · rintro ⟨d, h, hd⟩
    rwa [list_texts_iff.1 hd] at h
  · exact fun h => ⟨_, h, list_texts_iff.2 rfl⟩

end FleetScaling.Json
