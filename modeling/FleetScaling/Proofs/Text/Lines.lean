import FleetScaling.Text.Blank

/-!
# Words and lines

Where the pieces and words of a text stand in it. A piece stands between two separators or the ends of
the text (`mem_pieces_iff`). A word is read off the front of a text once the blanks before it are
passed (`words_eq_cons_iff`), so the words of a text do not depend on how wide its gaps are. The lines
of a text are its pieces between line feeds but for a carriage return at the end, which is a blank, and
a last piece without characters: they hold the same words (`exists_line_iff`).
-/

namespace FleetScaling.Text

/-! ## Pieces -/

section Pieces

variable {p : Char → Bool} {text piece : List Char}

theorem pieces_eq_splitOnP (p : Char → Bool) (text : List Char) :
    pieces p text = text.splitOnP p := by
  induction text with
  | nil => rfl
  | cons c cs ih =>
    rw [pieces, List.splitOnP_cons_eq_if_modifyHead, ih]
    cases h : cs.splitOnP p with
    | nil => exact absurd h (List.splitOnP_ne_nil p cs)
    | cons piece rest => rfl

theorem pieces_append_cons {c : Char} (hc : p c = true) (a b : List Char) :
    pieces p (a ++ c :: b) = pieces p a ++ pieces p b := by
  simp only [pieces_eq_splitOnP]
  exact List.splitOnP_append_cons a b hc

theorem pieces_of_solid (h : ∀ c ∈ text, p c = false) : pieces p text = [text] := by
  rw [pieces_eq_splitOnP, List.splitOnP_eq_singleton h]

/-- A text is one piece, or a first piece that ends at a separator. -/
theorem exists_first_piece (p : Char → Bool) (text : List Char) : (∀ c ∈ text, p c = false) ∨
    ∃ first c rest, text = first ++ c :: rest ∧ (∀ d ∈ first, p d = false) ∧ p c = true := by
  induction text with
  | nil => exact Or.inl nofun
  | cons c cs ih =>
    by_cases hc : p c = true
    · exact Or.inr ⟨[], c, cs, rfl, nofun, hc⟩
    have hc : p c = false := Bool.eq_false_iff.2 hc
    obtain solid | ⟨first, d, rest, rfl, hfirst, hd⟩ := ih
    · exact Or.inl (List.forall_mem_cons.2 ⟨hc, solid⟩)
    · exact Or.inr ⟨c :: first, d, rest, rfl, List.forall_mem_cons.2 ⟨hc, hfirst⟩, hd⟩

/-- The piece holds no separator, and a separator or an end of the text stands on both sides. -/
def StandsBetween (p : Char → Bool) (piece text : List Char) : Prop :=
  ∃ before after, text = before ++ piece ++ after ∧ (∀ c ∈ piece, p c = false) ∧
    (∀ c ∈ before.getLast?, p c = true) ∧ ∀ c ∈ after.head?, p c = true

theorem mem_pieces_of_standsBetween (h : StandsBetween p piece text) : piece ∈ pieces p text := by
  obtain ⟨before, after, rfl, solid, hbefore, hafter⟩ := h
  have last : piece ∈ pieces p (piece ++ after) := by
    cases after with
    | nil =>
      rw [List.append_nil, pieces_of_solid solid]
      exact List.mem_singleton_self piece
    | cons c after =>
      rw [pieces_append_cons (hafter c rfl), pieces_of_solid solid]
      exact List.mem_cons_self
  rw [List.append_assoc]
  obtain rfl | ⟨init, c, rfl⟩ := List.eq_nil_or_concat before
  · exact last
  · rw [List.concat_eq_append] at hbefore ⊢
    rw [List.append_assoc, List.singleton_append,
      pieces_append_cons (hbefore c List.getLast?_concat)]
    exact List.mem_append_right _ last

/-- By induction on the length: a text is a first piece and a shorter text. -/
theorem standsBetween_of_mem_pieces (h : piece ∈ pieces p text) : StandsBetween p piece text := by
  induction hn : text.length using Nat.strongRecOn generalizing text with
  | ind n ih =>
    obtain solid | ⟨first, c, rest, rfl, solid, hc⟩ := exists_first_piece p text
    · rw [pieces_of_solid solid, List.mem_singleton] at h
      exact ⟨[], [], by rw [h, List.nil_append, List.append_nil], h ▸ solid, nofun, nofun⟩
    · rw [pieces_append_cons hc, pieces_of_solid solid, List.singleton_append, List.mem_cons] at h
      obtain rfl | h := h
      · exact ⟨[], c :: rest, rfl, solid, nofun, fun d hd => Option.some.inj hd ▸ hc⟩
      · have shorter : rest.length < n := by
          rw [← hn, List.length_append, List.length_cons]
          omega
        obtain ⟨before, after, rfl, hpiece, hbefore, hafter⟩ := ih _ shorter h rfl
        refine ⟨first ++ c :: before, after, by simp, hpiece, fun d hd => ?_, hafter⟩
        rw [List.getLast?_append, List.getLast?_cons] at hd
        cases hlast : before.getLast? with
        | none =>
          rw [hlast] at hd
          exact Option.some.inj hd ▸ hc
        | some e =>
          rw [hlast] at hd
          exact Option.some.inj hd ▸ hbefore e hlast

/-- Where the pieces of a text stand in it. -/
theorem mem_pieces_iff : piece ∈ pieces p text ↔ StandsBetween p piece text :=
  ⟨standsBetween_of_mem_pieces, mem_pieces_of_standsBetween⟩

end Pieces

/-! ## Words -/

/-- All characters are blanks. -/
def Blanks (cs : List Char) : Prop := ∀ c ∈ cs, isBlank c = true

instance (cs : List Char) : Decidable (Blanks cs) :=
  inferInstanceAs (Decidable (∀ c ∈ cs, isBlank c = true))

/-- Characters without a blank among them. -/
structure IsWord (word : List Char) : Prop where
  nonempty : word ≠ []
  solid : ∀ c ∈ word, isBlank c = false

/-- A word before these characters goes no further: they start with a blank, or there are none. -/
def EndsWord (cs : List Char) : Prop := ∀ c ∈ cs.head?, isBlank c = true

section Words

variable {c : Char} {cs gap word a b : List Char} {ws : List (List Char)}

theorem words_nil : words [] = [] := rfl

theorem words_append_cons (hc : isBlank c = true) (a b : List Char) :
    words (a ++ c :: b) = words a ++ words b := by
  unfold words
  rw [pieces_append_cons hc, List.filter_append]

theorem words_blank (hc : isBlank c = true) (cs : List Char) : words (c :: cs) = words cs :=
  words_append_cons hc [] cs

theorem words_blanks_append (h : Blanks gap) (cs : List Char) : words (gap ++ cs) = words cs := by
  induction gap with
  | nil => rfl
  | cons c gap ih =>
    obtain ⟨hc, hgap⟩ := List.forall_mem_cons.1 h
    rw [List.cons_append, words_blank hc, ih hgap]

theorem words_append (h : EndsWord b) (a : List Char) : words (a ++ b) = words a ++ words b := by
  cases b with
  | nil => rw [words_nil, List.append_nil, List.append_nil]
  | cons c b => rw [words_append_cons (h c rfl), words_blank (h c rfl)]

theorem Blanks.endsWord (h : Blanks gap) : EndsWord gap :=
  fun c hc => h c (List.mem_of_mem_head? hc)

theorem words_append_blanks (h : Blanks gap) (cs : List Char) : words (cs ++ gap) = words cs := by
  have none := words_blanks_append h []
  rw [List.append_nil, words_nil] at none
  rw [words_append h.endsWord, none, List.append_nil]

theorem words_of_isWord (h : IsWord word) : words word = [word] := by
  unfold words
  rw [pieces_of_solid h.solid]
  simp [h.nonempty]

/-- The first word of a text, and where it stands. -/
theorem words_eq_cons_iff : words cs = word :: ws ↔ ∃ gap rest, cs = gap ++ (word ++ rest) ∧
    Blanks gap ∧ IsWord word ∧ EndsWord rest ∧ words rest = ws := by
  constructor
  · intro h
    induction cs with
    | nil => cases h
    | cons c cs ih =>
      by_cases hc : isBlank c = true
      · rw [words_blank hc] at h
        obtain ⟨gap, rest, rfl, hgap, htail⟩ := ih h
        exact ⟨c :: gap, rest, rfl, List.forall_mem_cons.2 ⟨hc, hgap⟩, htail⟩
      · obtain solid | ⟨first, d, rest, hcs, solid, hd⟩ := exists_first_piece isBlank (c :: cs)
        · have whole : IsWord (c :: cs) := ⟨List.cons_ne_nil c cs, solid⟩
          rw [words_of_isWord whole] at h
          cases h
          exact ⟨[], [], by simp, nofun, whole, nofun, rfl⟩
        · have hfirst : IsWord first := by
            refine ⟨?_, solid⟩
            rintro rfl
            exact hc ((List.cons.inj hcs).1 ▸ hd)
          rw [hcs, words_append_cons hd, words_of_isWord hfirst] at h
          cases h
          refine ⟨[], d :: rest, hcs, nofun, hfirst, fun e he => ?_, words_blank hd rest⟩
          exact Option.some.inj he ▸ hd
  · rintro ⟨gap, rest, rfl, hgap, hword, hrest, rfl⟩
    rw [words_blanks_append hgap, words_append hrest, words_of_isWord hword]
    rfl

end Words

/-! ## Lines -/

section Lines

variable {text line : List Char}

theorem blanks_return : Blanks ['\r'] := List.forall_mem_singleton.2 rfl

/-- A carriage return at the end of a line belongs to no word. -/
theorem words_dropReturn (line : List Char) : words (dropReturn line) = words line := by
  unfold dropReturn
  split
  · rename_i h
    obtain ⟨init, rfl⟩ := List.getLast?_eq_some_iff.1 h
    rw [List.dropLast_concat, words_append_blanks blanks_return]
  · rfl

/-- The lines of a text hold the same words as its pieces between line feeds. -/
theorem exists_line_iff {ws : List (List Char)} (hws : ws ≠ []) :
    (∃ line ∈ lines text, words line = ws) ↔
      ∃ piece, StandsBetween (· == '\n') piece text ∧ words piece = ws := by
  simp only [← mem_pieces_iff]
  unfold lines
  obtain hnil | ⟨init, last, hparts⟩ := List.eq_nil_or_concat (pieces (· == '\n') text)
  · exact absurd (pieces_eq_splitOnP _ _ ▸ hnil) (List.splitOnP_ne_nil _ _)
  rw [hparts, List.concat_eq_append]
  dsimp only
  rw [List.dropLast_concat, List.getLast?_concat]
  constructor
  · rintro ⟨line, hline, hwords⟩
    rcases List.mem_append.1 hline with hline | hline
    · obtain ⟨piece, hpiece, rfl⟩ := List.mem_map.1 hline
      exact ⟨piece, List.mem_append_left _ hpiece, words_dropReturn piece ▸ hwords⟩
    · obtain ⟨hlast, -⟩ := Option.filter_eq_some_iff.1 (Option.mem_toList.1 hline)
      exact ⟨line, List.mem_append_right _ (List.mem_singleton.2 (Option.some.inj hlast).symm), hwords⟩
  · rintro ⟨piece, hpiece, hwords⟩
    rcases List.mem_append.1 hpiece with hpiece | hpiece
    · exact ⟨dropReturn piece, List.mem_append_left _ (List.mem_map_of_mem hpiece),
        (words_dropReturn piece).trans hwords⟩
    · obtain rfl := List.mem_singleton.1 hpiece
      have hne : piece ≠ [] := by
        rintro rfl
        exact hws hwords.symm
      refine ⟨piece, List.mem_append_right _ ?_, hwords⟩
      exact Option.mem_toList.2 (Option.filter_eq_some_iff.2 ⟨rfl, decide_eq_true hne⟩)

end Lines

end FleetScaling.Text
