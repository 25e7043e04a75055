import Mathlib.Algebra.BigOperators.Group.List.Basic
import Mathlib.Algebra.GroupWithZero.Nat
import Mathlib.Tactic.SplitIfs

/-!
# The words of a command line

A POSIX shell cuts a line into words at blanks. Double quotes keep blanks in a word; between them a
backslash takes away the meaning of a dollar sign, a backquote, a double quote or another backslash
and vanishes with a line feed behind it, and before any other character it stands for itself.
Outside of quotes it does so for whatever character follows it.

A line may ask for more than that: that something is expanded, or that characters outside of quotes
act as operators, patterns or the like. `words` only reads lines that do not; of the others it says
what they ask for.
-/

namespace FleetScaling.Shell

/-! ## Reading a line -/

/-- Why a line is more than words. -/
inductive Fault
  /-- Outside of quotes stands a character with a meaning of its own. -/
  | special (c : Char)
  /-- Between quotes stands a character with which an expansion begins. -/
  | expansion (c : Char)
  /-- The line ends between quotes or after a backslash. -/
  | unfinished
  deriving DecidableEq

/-- How the next character is read. -/
inductive Mode
  | bare
  | escaped
  | quoted
  | quotedEscaped
  deriving DecidableEq

/-- A backslash whose meaning is not settled yet. -/
def Mode.pending : Mode → Nat
  | bare => 0
  | escaped => 1
  | quoted => 0
  | quotedEscaped => 1

/-- What was read of a line. -/
structure Reader where
  mode : Mode
  words : List (List Char)
  /-- The word that is being read, if one has begun. -/
  word : Option (List Char)
  deriving DecidableEq

/-- The characters that may have a meaning of their own outside of quotes. -/
def specials : List Char :=
  ['|', '&', ';', '<', '>', '(', ')', '$', '\x60', '\x27', '\n', '*', '?', '[', '#', '~', '=', '%']

/-- The characters that a backslash between quotes takes the meaning of. -/
def quotedSpecials : List Char := ['$', '\x60', '"', '\\']

namespace Reader

/-- What follows is read in another way. -/
def turn (r : Reader) (mode : Mode) : Reader := { r with mode }

/-- A word begins, unless one has begun already. -/
def beginWord (r : Reader) : Reader := { r with word := some (r.word.getD []) }

/-- The character is one of the word that is being read. -/
def push (r : Reader) (c : Char) : Reader := { r with word := some (r.word.getD [] ++ [c]) }

/-- The word, if one has begun, is over. -/
def endWord (r : Reader) : Reader := { r with words := r.words ++ r.word.toList, word := none }

/-- Reads a character. -/
def read (r : Reader) (c : Char) : Except Fault Reader :=
  match r.mode with
  | .bare =>
    if c = ' ' ∨ c = '\t' then .ok r.endWord
    else if c = '\\' then .ok (r.turn .escaped)
    else if c = '"' then .ok (r.beginWord.turn .quoted)
    else if c ∈ specials then .error (.special c)
    else .ok (r.push c)
  | .escaped => .ok (if c = '\n' then r.turn .bare else (r.push c).turn .bare)
  | .quoted =>
    if c = '"' then .ok (r.turn .bare)
    else if c = '\\' then .ok (r.turn .quotedEscaped)
    else if c = '$' ∨ c = '\x60' then .error (.expansion c)
    else .ok (r.push c)
  | .quotedEscaped =>
    .ok (if c = '\n' then r.turn .quoted
      else if c ∈ quotedSpecials then (r.push c).turn .quoted
      else ((r.push '\\').push c).turn .quoted)

/-- Reads a text. -/
def readAll (r : Reader) (text : List Char) : Except Fault Reader := text.foldlM read r

/-- The words, if the line may end here. -/
def finish (r : Reader) : Except Fault (List (List Char)) :=
  if r.mode = .bare then .ok r.endWord.words else .error .unfinished

end Reader

/-- The words of a line. -/
def words (line : String) : Except Fault (List String) :=
  (Reader.readAll ⟨.bare, [], none⟩ line.toList).bind fun r =>
    r.finish.map (List.map String.ofList)

namespace Reader

variable {r r' : Reader} {c : Char} {text : List Char} {parts : List (List Char)}
  {part : List Char} {w : Option (List Char)}

@[simp] theorem readAll_nil (r : Reader) : r.readAll [] = .ok r := rfl

theorem readAll_cons (r : Reader) (c : Char) (text : List Char) :
    r.readAll (c :: text) = (r.read c).bind (·.readAll text) := List.foldlM_cons

theorem readAll_append (r : Reader) (a b : List Char) :
    r.readAll (a ++ b) = (r.readAll a).bind (·.readAll b) := List.foldlM_append

theorem readAll_cons_of_ok (h : r.read c = .ok r') : r.readAll (c :: text) = r'.readAll text := by
  rw [readAll_cons, h]
  rfl

theorem readAll_append_of_ok {a : List Char} (h : r.readAll a = .ok r') :
    r.readAll (a ++ text) = r'.readAll text := by
  rw [readAll_append, h]
  rfl

/-- A text that was read was read character by character. -/
theorem ok_of_readAll_cons (h : r.readAll (c :: text) = .ok r') :
    ∃ between, r.read c = .ok between ∧ between.readAll text = .ok r' := by
  rw [readAll_cons] at h
  rcases hread : r.read c with fault | between
  · rw [hread] at h
    cases h
  · rw [hread] at h
    exact ⟨between, rfl, h⟩

theorem ok_of_readAll_append {a b : List Char} (h : r.readAll (a ++ b) = .ok r') :
    ∃ between, r.readAll a = .ok between ∧ between.readAll b = .ok r' := by
  rw [readAll_append] at h
  rcases hread : r.readAll a with fault | between
  · rw [hread] at h
    cases h
  · rw [hread] at h
    exact ⟨between, rfl, h⟩

/-! ## Outside of quotes -/

/-- The words that have begun. -/
def begun (r : Reader) : List (List Char) := r.words ++ r.word.toList

theorem words_eq_ok_iff {line : String} {ws : List String} :
    Shell.words line = .ok ws ↔ ∃ r, readAll ⟨.bare, [], none⟩ line.toList = .ok r ∧
      r.mode = .bare ∧ r.begun.map String.ofList = ws := by
  unfold Shell.words
  rcases readAll ⟨.bare, [], none⟩ line.toList with fault | r
  · exact iff_of_false nofun nofun
  · show r.finish.map (List.map String.ofList) = .ok ws ↔ _
    unfold finish
    split_ifs with hmode
    · constructor
      · intro h
        exact ⟨r, rfl, hmode, Except.ok.inj h⟩
      · rintro ⟨_, hr, -, hws⟩
        cases hr
        exact congrArg Except.ok hws
    · refine iff_of_false nofun ?_
      rintro ⟨_, hr, hbare, -⟩
      cases hr
      exact hmode hbare

/-- The characters that are only themselves outside of quotes, and are no blanks. -/
def IsPlain (c : Char) : Prop := c ∉ ' ' :: '\t' :: '\\' :: '"' :: specials

theorem read_plain (hmode : r.mode = .bare) (h : IsPlain c) : r.read c = .ok (r.push c) := by
  simp only [IsPlain, List.mem_cons, not_or] at h
  obtain ⟨hblank, htab, hslash, hquote, hspecial⟩ := h
  unfold read
  simp only [hmode, hblank, htab, hslash, hquote, hspecial, or_self, if_false]

theorem readAll_plain (hmode : r.mode = .bare) (h : ∀ c ∈ text, IsPlain c) (hne : text ≠ []) :
    r.readAll text = .ok { r with word := some (r.word.getD [] ++ text) } := by
  induction text generalizing r with
  | nil => exact absurd rfl hne
  | cons c text ih =>
    rw [readAll_cons_of_ok (read_plain hmode (h c List.mem_cons_self))]
    rcases text with _ | ⟨d, text⟩
    · rfl
    · rw [ih (r := r.push c) hmode (fun d hd => h d (List.mem_cons_of_mem c hd))
        (List.cons_ne_nil d text)]
      simp [push]

theorem IsPlain.not_mem_quotedSpecials (h : IsPlain c) : c ∉ quotedSpecials := by
  simp only [IsPlain, specials, List.mem_cons, not_or] at h
  simp [quotedSpecials, h]

/-- A blank and a word, if there is anything in it. -/
theorem exists_readAll_word (hmode : r.mode = .bare) (h : ∀ c ∈ text, IsPlain c) :
    ∃ r', r.readAll (' ' :: text) = .ok r' ∧ r'.mode = .bare ∧
      r'.begun = r.begun ++ [text].filter (· ≠ []) := by
  have blank : r.read ' ' = .ok r.endWord := by
    unfold read
    simp only [hmode, true_or, if_true]
  rw [readAll_cons_of_ok blank]
  by_cases hne : text = []
  · subst hne
    exact ⟨_, rfl, hmode, by simp [begun, endWord]⟩
  · exact ⟨_, readAll_plain hmode h hne, hmode, by simp [begun, endWord, hne]⟩

/-! ## Between quotes -/

theorem read_quoted (hmode : r.mode = .quoted) (h : c ∉ quotedSpecials) :
    r.read c = .ok (r.push c) := by
  simp only [quotedSpecials, List.mem_cons, List.not_mem_nil, or_false, not_or] at h
  obtain ⟨hdollar, hback, hquote, hslash⟩ := h
  unfold read
  simp only [hmode, hdollar, hback, hquote, hslash, or_self, if_false]

theorem read_expansion (hmode : r.mode = .quoted) (h : c = '$' ∨ c = '\x60') :
    r.read c = .error (.expansion c) := by
  unfold read
  obtain rfl | rfl := h <;> simp [hmode]

theorem read_backslash (hmode : r.mode = .quoted) : r.read '\\' = .ok (r.turn .quotedEscaped) := by
  unfold read
  simp [hmode]

/-- Between quotes a backslash stands for itself before most characters. -/
theorem read_quotedEscaped (hmode : r.mode = .quotedEscaped) (hline : c ≠ '\n')
    (h : c ∉ quotedSpecials) : r.read c = .ok (((r.push '\\').push c).turn .quoted) := by
  unfold read
  simp only [hmode, hline, h, if_false]

theorem mode_readAll_quoted (hmode : r.mode = .quoted) (h : ∀ c ∈ text, c ∉ quotedSpecials)
    (hread : r.readAll text = .ok r') : r'.mode = .quoted := by
  induction text generalizing r with
  | nil =>
    cases hread
    exact hmode
  | cons c text ih =>
    rw [readAll_cons_of_ok (read_quoted hmode (h c List.mem_cons_self))] at hread
    exact ih (r := r.push c) hmode (fun d hd => h d (List.mem_cons_of_mem c hd)) hread

/-! ## How much was read -/

/-- The number of characters in words. -/
def written (r : Reader) : Nat := (r.words.map List.length).sum + (r.word.getD []).length

/-- The number of characters that were read into words or may still come into one. -/
def size (r : Reader) : Nat := r.written + r.mode.pending

section

variable (r)

@[simp] theorem mode_turn (m : Mode) : (r.turn m).mode = m := rfl

@[simp] theorem mode_push (c : Char) : (r.push c).mode = r.mode := rfl

@[simp] theorem mode_beginWord : r.beginWord.mode = r.mode := rfl

@[simp] theorem mode_endWord : r.endWord.mode = r.mode := rfl

@[simp] theorem written_turn (m : Mode) : (r.turn m).written = r.written := rfl

@[simp] theorem written_push (c : Char) : (r.push c).written = r.written + 1 := by
  simp [written, push, Nat.add_assoc]

@[simp] theorem written_beginWord : r.beginWord.written = r.written := rfl

@[simp] theorem written_endWord : r.endWord.written = r.written := by
  cases h : r.word <;> simp [written, endWord, h]

end

theorem sum_begun : (r.begun.map List.length).sum = r.written := by
  cases h : r.word <;> simp [written, begun, h]

/-- A character adds at most one. -/
theorem size_read_le (h : r.read c = .ok r') : r'.size ≤ r.size + 1 := by
  unfold read at h
  cases hmode : r.mode <;> simp only [hmode] at h
  case bare => split_ifs at h <;> cases h <;> simp [size, hmode, Mode.pending]
  case escaped => cases h; split_ifs <;> simp [size, hmode, Mode.pending]; omega
  case quoted => split_ifs at h <;> cases h <;> simp [size, hmode, Mode.pending]
  case quotedEscaped => cases h; split_ifs <;> simp [size, hmode, Mode.pending]; omega

/-- A double quote adds nothing that was not counted before. -/
theorem size_read_quote (h : r.read '"' = .ok r') : r'.size ≤ r.size := by
  unfold read at h
  cases hmode : r.mode <;> simp only [hmode] at h <;> cases h <;>
    simp [size, hmode, Mode.pending, quotedSpecials]

theorem mode_read_quote (h : r.read '"' = .ok r') : r'.mode = .bare ∨ r'.mode = .quoted := by
  unfold read at h
  cases hmode : r.mode <;> simp only [hmode] at h <;> cases h <;> simp [quotedSpecials]

/-- Between quotes a backslash that changes what follows it adds nothing but that. -/
theorem size_read_quotedEscaped (hmode : r.mode = .quotedEscaped)
    (hc : c = '\n' ∨ c ∈ quotedSpecials) (h : r.read c = .ok r') :
    r'.mode = .quoted ∧ r'.size ≤ r.size := by
  unfold read at h
  simp only [hmode] at h
  cases h
  split_ifs with hline hspecial
  · simp [size, hmode, Mode.pending]
  · simp [size, hmode, Mode.pending]
  · exact absurd hc (not_or_intro hline hspecial)

end Reader

end FleetScaling.Shell
