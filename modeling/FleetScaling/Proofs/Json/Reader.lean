import FleetScaling.Proofs.Json.Documents

/-!
# What the reader has read

A document is whole if every container in it is closed and nothing in it is broken. The tokens of a
whole document are what was read of the text: nothing is skipped, and nothing is made up
(`tokens_of_whole`). The reader keeps the open containers on a stack; the tokens before a place of
the text are those of the stack there (`stackTokens`).
-/

namespace FleetScaling.Json

/-! ## Whole documents and their tokens -/

mutual

/-- Every container is closed and nothing is broken. -/
def Document.Whole : Document → Prop
  | .list items ending => ending = .closed ∧ WholeItems items
  | .object members ending => ending = .closed ∧ WholeMembers members
  | .broken _ => False
  | .null | .bool _ | .number _ | .text _ => True

/-- All items are whole. -/
def WholeItems : List Document → Prop
  | [] => True
  | item :: items => item.Whole ∧ WholeItems items

/-- The values of all members are whole. -/
def WholeMembers : Members → Prop
  | [] => True
  | (_, value) :: members => value.Whole ∧ WholeMembers members

end

mutual

/-- The tokens of a whole document. -/
def Document.tokens : Document → List Token
  | .null => [.null]
  | .bool b => [.bool b]
  | .number value => [.number value]
  | .text value => [.text value]
  | .list items _ => .openList :: (itemsTokens items ++ [.closeList])
  | .object members _ => .openObject :: (membersTokens members ++ [.closeObject])
  | .broken _ => []

/-- The tokens of items with commas between them. -/
def itemsTokens : List Document → List Token
  | [] => []
  | [item] => item.tokens
  | item :: items => item.tokens ++ .comma :: itemsTokens items

/-- The tokens of members with commas between them. -/
def membersTokens : Members → List Token
  | [] => []
  | [(key, value)] => .text key :: .colon :: value.tokens
  | (key, value) :: members =>
    .text key :: .colon :: (value.tokens ++ .comma :: membersTokens members)

end

/-- The tokens of an open object up to its next key. -/
def keyTokens (members : Members) (key : Except Fault String) : List Token :=
  .openObject :: (members.reverse.flatMap fun (key, value) =>
    .text key :: .colon :: (value.tokens ++ [.comma])) ++ [.text key]

/-- The tokens of an open container up to its next document. -/
def Open.tokens : Open → List Token
  | .list items => .openList :: items.reverse.flatMap fun item => item.tokens ++ [.comma]
  | .member members key => keyTokens members key ++ [.colon]

/-- The token that closes a container. -/
def Open.close : Open → Token
  | .list _ => .closeList
  | .member _ _ => .closeObject

/-- The tokens of all open containers, outermost first. -/
def stackTokens : List Open → List Token
  | [] => []
  | container :: outer => stackTokens outer ++ container.tokens

theorem itemsTokens_append (before : List Document) (d : Document) :
    itemsTokens (before ++ [d]) =
      (before.flatMap fun item => item.tokens ++ [.comma]) ++ d.tokens := by
  induction before with
  | nil => rfl
  | cons item before ih =>
    have unfolded : itemsTokens (item :: (before ++ [d])) =
        item.tokens ++ .comma :: itemsTokens (before ++ [d]) := by
      cases before <;> rfl
    rw [List.cons_append, unfolded, ih, List.flatMap_cons]
    simp only [List.append_assoc, List.cons_append, List.nil_append]

theorem membersTokens_append (before : Members) (key : Except Fault String) (d : Document) :
    membersTokens (before ++ [(key, d)]) = (before.flatMap fun (key, value) =>
      .text key :: .colon :: (value.tokens ++ [.comma])) ++ .text key :: .colon :: d.tokens := by
  induction before with
  | nil => rfl
  | cons member before ih =>
    obtain ⟨name, value⟩ := member
    have unfolded : membersTokens ((name, value) :: (before ++ [(key, d)])) =
        .text name :: .colon ::
          (value.tokens ++ .comma :: membersTokens (before ++ [(key, d)])) := by
      cases before <;> rfl
    rw [List.cons_append, unfolded, ih, List.flatMap_cons]
    simp only [List.append_assoc, List.cons_append, List.nil_append]

/-- A document and a closing token complete the tokens of a container. -/
theorem Open.tokens_ended (container : Open) (d : Document) (ending : Ending) :
    (container.ended d ending).tokens = container.tokens ++ d.tokens ++ [container.close] := by
  cases container with
  | list items =>
    rw [ended, Document.tokens, List.reverse_cons, itemsTokens_append]
    rfl
  | member members key =>
    rw [ended, Document.tokens, List.reverse_cons, membersTokens_append]
    simp only [Open.tokens, keyTokens, Open.close, List.append_assoc, List.cons_append,
      List.nil_append]

section Stack

variable (outer : List Open) (d : Document) (ts : List Token)

theorem stackTokens_ended (container : Open) :
    stackTokens (container :: outer) ++ (d.tokens ++ container.close :: ts) =
      stackTokens outer ++ ((container.ended d .closed).tokens ++ ts) := by
  rw [Open.tokens_ended, stackTokens]
  simp only [List.append_assoc, List.cons_append, List.nil_append]

theorem stackTokens_item (items : List Document) :
    stackTokens (.list items :: outer) ++ (d.tokens ++ .comma :: ts) =
      stackTokens (.list (d :: items) :: outer) ++ ts := by
  simp only [stackTokens, Open.tokens, List.reverse_cons, List.flatMap_append,
    List.flatMap_singleton, List.append_assoc, List.cons_append, List.nil_append]

theorem stackTokens_member (members : Members) (key next : Except Fault String) :
    stackTokens (.member members key :: outer) ++ (d.tokens ++ .comma :: .text next :: ts) =
      stackTokens outer ++ (keyTokens ((key, d) :: members) next ++ ts) := by
  simp only [stackTokens, Open.tokens, keyTokens, List.reverse_cons, List.flatMap_append,
    List.flatMap_singleton, List.append_assoc, List.cons_append, List.nil_append]

end Stack

/-! ## Reading -/

theorem Open.ending_of_whole {container : Open} {d : Document} {ending : Ending}
    (h : (container.ended d ending).Whole) : ending = .closed := by
  cases container <;> exact h.1

/-- What was cut short is not whole. -/
theorem not_whole_cutShort (stack : List Open) {d : Document} (h : ¬ d.Whole) :
    ¬ (cutShort stack d).Whole := by
  induction stack generalizing d with
  | nil => exact h
  | cons container outer ih => exact ih fun whole => nomatch Open.ending_of_whole whole

/-- Tokens that were read came out as a document, if that is whole, and the tokens after it. -/
def ReadAs (ts : List Token) (read : Document × List Token) : Prop :=
  read.1.Whole → ts = read.1.tokens ++ read.2

namespace ReadAs

variable {ts rest : List Token} {d : Document}

theorem cutShort (stack : List Open) (h : ¬ d.Whole) : ReadAs ts (cutShort stack d, rest) :=
  fun whole => absurd whole (not_whole_cutShort stack h)

theorem ended (stack : List Open) (container : Open) {ending : Ending} (h : ending ≠ .closed) :
    ReadAs ts (Json.cutShort stack (container.ended d ending), rest) :=
  .cutShort stack fun whole => h (Open.ending_of_whole whole)

end ReadAs

/-- Wherever the reader is, the tokens so far and those to come make up what it reads. By induction
along the reader: in each case the reading is over, goes on or is cut short. -/
theorem reader_sound :
    (∀ stack ts, ReadAs (stackTokens stack ++ ts) (readValue stack ts)) ∧
    (∀ stack members key ts, ReadAs (stackTokens stack ++ (keyTokens members key ++ ts))
      (readMember stack members key ts)) ∧
    ∀ stack d ts, ReadAs (stackTokens stack ++ (d.tokens ++ ts)) (readAfter stack d ts) := by
  apply readValue.mutual_induct
  all_goals intros
  -- The end of the outermost document.
  case case20 | case22 => rw [readAfter]; exact fun _ => rfl
  -- A scalar or an empty container.
  case case2 ih | case3 ih | case4 ih | case5 ih | case7 ih | case10 ih => rw [readValue]; exact ih
  -- The first item, a key, and the colon behind it.
  case case8 closes ih =>
    rw [stackTokens, List.append_assoc] at ih
    rw [readValue]
    · exact ih
    · exact closes
  case case11 ih => rw [readValue]; exact ih
  case case18 ih =>
    rw [readMember]
    rw [stackTokens, Open.tokens, List.append_assoc, List.append_assoc] at ih
    exact ih
  -- The next item, the next key, and the end of a container.
  case case25 closes ih =>
    rw [readAfter, stackTokens_item]
    · exact ih
    · exact closes
  case case30 ih => rw [readAfter, stackTokens_member]; exact ih
  case case26 items _ _ ih =>
    rw [readAfter, show Token.closeList = (Open.list items).close from rfl, stackTokens_ended]
    exact ih
  case case33 members key _ _ ih =>
    rw [readAfter, show Token.closeObject = (Open.member members key).close from rfl,
      stackTokens_ended]
    exact ih
  -- The end of the text, or something else than what is expected.
  case case1 | case14 | case15 => rw [readValue]; exact .cutShort _ id
  case case6 | case9 | case12 => rw [readValue]; exact .cutShort _ fun h => nomatch h.1
  case case13 => rw [readValue]; exact .cutShort _ fun h => nomatch h.1; all_goals assumption
  case case16 => rw [readValue]; exact .cutShort _ id; all_goals assumption
  case case17 => rw [readMember]; exact .cutShort _ id
  case case19 => rw [readMember]; exact .cutShort _ id; all_goals assumption
  case case21 | case23 | case24 | case28 | case29 | case31 => rw [readAfter]; exact .ended _ _ nofun
  case case27 | case32 | case34 => rw [readAfter]; exact .ended _ _ nofun; all_goals assumption

/-- **The reader skips nothing.** The tokens of a text that is read as a whole document are those of
the document. -/
theorem tokens_of_whole {text : String} {d : Document} {rest : List Token}
    (h : Document.ofText text = (d, rest)) (whole : d.Whole) :
    tokens text.toList = d.tokens ++ rest := by
  have sound := reader_sound.1 [] (tokens text.toList)
  rw [show readValue [] (tokens text.toList) = (d, rest) from h] at sound
  exact sound whole

/-! ## Documents of values -/

mutual

theorem Value.whole_document : (v : Value) → v.document.Whole
  | .null | .bool _ | .integer _ | .text _ => trivial
  | .list items => ⟨rfl, whole_documents items⟩
  | .object members => ⟨rfl, whole_memberDocuments members⟩

theorem whole_documents : (items : List Value) → WholeItems (Value.documents items)
  | [] => trivial
  | item :: items => ⟨item.whole_document, whole_documents items⟩

theorem whole_memberDocuments :
    (members : List (String × Value)) → WholeMembers (Value.memberDocuments members)
  | [] => trivial
  | (_, value) :: members => ⟨value.whole_document, whole_memberDocuments members⟩

end

mutual

theorem Value.tokens_document (v : Value) : v.document.tokens = v.tokens := by
  match v with
  | .null | .bool _ | .integer _ | .text _ => rfl
  | .list items => rw [Value.document, Document.tokens, Value.tokens, itemsTokens_documents]
  | .object members =>
    rw [Value.document, Document.tokens, Value.tokens, membersTokens_memberDocuments]

theorem itemsTokens_documents (items : List Value) :
    itemsTokens (Value.documents items) = Value.itemTokens items := by
  match items with
  | [] => rfl
  | [item] => exact item.tokens_document.trans (List.append_nil _).symm
  | item :: next :: items =>
    show item.document.tokens ++ .comma :: itemsTokens (Value.documents (next :: items)) = _
    rw [item.tokens_document, itemsTokens_documents (next :: items)]
    rfl

theorem membersTokens_memberDocuments (members : List (String × Value)) :
    membersTokens (Value.memberDocuments members) = Value.memberTokens members := by
  match members with
  | [] => rfl
  | [(key, value)] =>
    show .text (.ok key) :: .colon :: value.document.tokens = _
    rw [value.tokens_document, Value.memberTokens, Value.moreMemberTokens, List.append_nil]
  | (key, value) :: next :: members =>
    show .text (.ok key) :: .colon :: (value.document.tokens ++
      .comma :: membersTokens (Value.memberDocuments (next :: members))) = _
    rw [value.tokens_document, membersTokens_memberDocuments (next :: members)]
    rfl

end

/-- A text is read as a value exactly if it consists of the tokens of the value. -/
theorem ofText_eq_document_iff {text : String} {v : Value} :
    Document.ofText text = (v.document, []) ↔ tokens text.toList = v.tokens := by
  constructor
  · intro h
    rw [tokens_of_whole h v.whole_document, List.append_nil, v.tokens_document]
  · intro h
    unfold Document.ofText
    rw [h, readValue_whole]

end FleetScaling.Json
