import FleetScaling.Json.Record
import FleetScaling.Proofs.Json.Tokens

/-!
# Documents of written JSON

A written value is read back as the document that it stands for, whether its text is compact
(`ofText_compact`) or on several lines (`ofText_pretty`).
-/

namespace FleetScaling.Json

open FleetScaling.Text

variable {α β : Type}

/-! ## Documents of values -/

namespace Value

mutual

/-- The document that a value stands for. -/
def document : Value → Document
  | .null => .null
  | .bool b => .bool b
  | .integer n => .number (writtenNumber n)
  | .text s => .text (.ok s)
  | .list items => .list (documents items) .closed
  | .object members => .object (memberDocuments members) .closed

/-- The documents of items. -/
def documents : List Value → List Document
  | [] => []
  | item :: items => item.document :: documents items

/-- The documents of members. -/
def memberDocuments : List (String × Value) → Members
  | [] => []
  | (key, value) :: members => (.ok key, value.document) :: memberDocuments members

end

theorem documents_eq_map (items : List Value) : documents items = items.map document := by
  induction items with
  | nil => rfl
  | cons item items ih =>
    rw [documents, ih]
    rfl

theorem memberDocuments_eq_map (members : List (String × Value)) : memberDocuments members =
    members.map fun member => (.ok member.1, member.2.document) := by
  induction members with
  | nil => rfl
  | cons member members ih => exact congrArg (_ :: ·) ih

end Value

/-! ## Reading tokens -/

section Reading

variable (stack : List Open) (v : Value) (ts : List Token)

/-- A value after the opening bracket is the first item. -/
theorem readValue_openList : readValue stack (.openList :: (v.tokens ++ ts)) =
    readValue (.list [] :: stack) (v.tokens ++ ts) := by
  cases v <;> rfl

/-- A value after a comma is the next item. -/
theorem readAfter_comma (items : List Document) (d : Document) :
    readAfter (.list items :: stack) d (.comma :: (v.tokens ++ ts)) =
      readValue (.list (d :: items) :: stack) (v.tokens ++ ts) := by
  cases v <;> rfl

end Reading

/-! A value is read to its end. Inside containers this goes item by item: those that were read wait
on the stack, latest first. -/

mutual

theorem readValue_tokens (v : Value) (stack : List Open) (ts : List Token) :
    readValue stack (v.tokens ++ ts) = readAfter stack v.document ts := by
  match v with
  | .null => rfl
  | .bool b => rfl
  | .integer n => rfl
  | .text s => rfl
  | .list [] => rfl
  | .list (item :: items) =>
    rw [Value.tokens, Value.itemTokens, Value.document, Value.documents]
    simp only [List.cons_append, List.append_assoc]
    rw [readValue_openList, readValue_tokens item]
    exact readAfter_items items item.document [] stack ts
  | .object [] => rfl
  | .object ((key, value) :: members) =>
    rw [Value.tokens, Value.memberTokens, Value.document, Value.memberDocuments]
    simp only [List.cons_append, List.append_assoc]
    show readValue (.member [] (.ok key) :: stack) (value.tokens ++ _) = _
    rw [readValue_tokens value]
    exact readAfter_members members (.ok key) value.document [] stack ts

theorem readAfter_items (items : List Value) (d : Document) (before : List Document)
    (stack : List Open) (ts : List Token) :
    readAfter (.list before :: stack) d (Value.moreItemTokens items ++ ([.closeList] ++ ts)) =
      readAfter stack (.list (before.reverse ++ d :: Value.documents items) .closed) ts := by
  match items with
  | [] =>
    rw [Value.documents, ← List.reverse_cons]
    rfl
  | item :: items =>
    rw [Value.moreItemTokens, Value.documents]
    simp only [List.cons_append, List.append_assoc]
    rw [readAfter_comma, readValue_tokens item]
    refine (readAfter_items items item.document (d :: before) stack ts).trans ?_
    rw [List.reverse_cons, List.append_assoc]
    rfl

theorem readAfter_members (members : List (String × Value)) (key : Except Fault String)
    (d : Document) (before : Members) (stack : List Open) (ts : List Token) :
    readAfter (.member before key :: stack) d
        (Value.moreMemberTokens members ++ ([.closeObject] ++ ts)) =
      readAfter stack
        (.object (before.reverse ++ (key, d) :: Value.memberDocuments members) .closed) ts := by
  match members with
  | [] =>
    rw [Value.memberDocuments, ← List.reverse_cons]
    rfl
  | (next, value) :: members =>
    rw [Value.moreMemberTokens, Value.memberDocuments]
    simp only [List.cons_append, List.append_assoc]
    show readValue (.member ((key, d) :: before) (.ok next) :: stack) (value.tokens ++ _) = _
    rw [readValue_tokens value]
    refine (readAfter_members members (.ok next) value.document ((key, d) :: before) stack ts).trans
      ?_
    rw [List.reverse_cons, List.append_assoc]
    rfl

end

theorem readValue_whole (v : Value) : readValue [] v.tokens = (v.document, []) := by
  have h := readValue_tokens v [] []
  rwa [List.append_nil] at h

theorem ofText_compact (v : Value) : Document.ofText v.compact = (v.document, []) := by
  unfold Document.ofText
  rw [tokens_compact, readValue_whole]

theorem ofText_pretty (v : Value) (indent : Nat) :
    Document.ofText (v.pretty indent) = (v.document, []) := by
  unfold Document.ofText
  rw [tokens_pretty, readValue_whole]

/-- A line feed behind a text does not matter. -/
theorem ofText_line (v : Value) (indent : Nat) :
    Document.ofText (v.pretty indent ++ "\n") = (v.document, []) := by
  have hread := pretty_tokens v indent (show EndsNumber ['\n'] by decide)
  rw [tokens_gap (by decide), tokens_nil, List.append_nil] at hread
  unfold Document.ofText
  rw [String.toList_append, show "\n".toList = ['\n'] from rfl, hread, readValue_whole]

end FleetScaling.Json
