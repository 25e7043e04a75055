import FleetScaling.Proofs.Text.Lines
import FleetScaling.Site.Probe
import Mathlib.Data.Set.Card

/-!
# Nodes that have joined

The scheduler lists nodes, one line for each node and partition. A line says that a node is in a state
if these are its first two words (`SaysNode`), and the nodes that have joined are the names that some
line says so of (`joinedNames`). `joinedNodes` is their number, so it does not matter in which order the
lines stand, how often one comes again, how wide its gaps are, what follows its first two words, and
what other lines there are (`Restated`). `joinedNodes_counts` puts this together.
-/

namespace FleetScaling

open Text

/-! ## Lines about nodes -/

/-- The name and the state are the first two words of the line. -/
def SaysNode (line name state : List Char) : Prop :=
  ∃ front gap rest, line = front ++ (name ++ (gap ++ (state ++ rest))) ∧ Blanks front ∧ IsWord name ∧
    gap ≠ [] ∧ Blanks gap ∧ IsWord state ∧ EndsWord rest

section

variable {line line' name state : List Char}

theorem saysNode_iff : SaysNode line name state ↔ ∃ more, words line = name :: state :: more := by
  constructor
  · rintro ⟨front, gap, rest, hline, hfront, hname, hne, hgap, hstate, hrest⟩
    refine ⟨words rest, words_eq_cons_iff.2 ⟨front, _, hline, hfront, hname, ?_, ?_⟩⟩
    · intro c hc
      rw [List.head?_append_of_ne_nil gap hne] at hc
      exact hgap.endsWord c hc
    · exact words_eq_cons_iff.2 ⟨gap, rest, rfl, hgap, hstate, hrest, rfl⟩
  · rintro ⟨more, h⟩
    obtain ⟨front, after, rfl, hfront, hname, hends, h⟩ := words_eq_cons_iff.1 h
    obtain ⟨gap, rest, rfl, hgap, hstate, hrest, -⟩ := words_eq_cons_iff.1 h
    refine ⟨front, gap, rest, rfl, hfront, hname, ?_, hgap, hstate, hrest⟩
    rintro rfl
    -- without a gap the state would belong to the name
    obtain ⟨c, cs, rfl⟩ := List.exists_cons_of_ne_nil hstate.nonempty
    exact absurd (hends c rfl) (by rw [hstate.solid c List.mem_cons_self]; exact Bool.false_ne_true)

theorem joinedName?_eq_some_iff : joinedName? line = some name ↔
    ∃ state, SaysNode line name state ∧ String.ofList state ∈ joinedStates := by
  simp only [saysNode_iff]
  unfold joinedName?
  split
  · rename_i n s more hwords
    constructor
    · intro h
      split at h
      · rename_i hs
        cases h
        exact ⟨s, ⟨more, hwords⟩, hs⟩
      · cases h
    · rintro ⟨s', ⟨more', hwords'⟩, hs⟩
      cases hwords.symm.trans hwords'
      exact if_pos hs
  · rename_i hshort
    refine iff_of_false nofun ?_
    rintro ⟨s, ⟨more, hwords⟩, -⟩
    exact hshort name s more hwords

theorem joinedName?_of_state (h : SaysNode line name state)
    (hstate : String.ofList state ∉ joinedStates) : joinedName? line = none := by
  obtain ⟨more, hwords⟩ := saysNode_iff.1 h
  unfold joinedName?
  rw [hwords]
  exact if_neg hstate

/-- Only the first two words of a line count. -/
theorem joinedName?_congr (h : (words line).take 2 = (words line').take 2) :
    joinedName? line = joinedName? line' := by
  have first_two (ws : List (List Char)) (name state : List Char) :
      (∃ more, ws = name :: state :: more) ↔ ws.take 2 = [name, state] := by
    rcases ws with _ | ⟨a, _ | ⟨b, more⟩⟩ <;> simp
  ext name
  simp only [joinedName?_eq_some_iff, saysNode_iff, first_two, h]

theorem joinedName?_of_short (h : (words line).length < 2) : joinedName? line = none := by
  unfold joinedName?
  split
  · rename_i hwords
    rw [hwords] at h
    exact absurd h (by simp)
  · rfl

/-- No state of a node that has joined is a part of another at its front or its end. -/
theorem flag_eq_nil {state flag : String} (hstate : state ∈ joinedStates)
    (h : state ++ flag ∈ joinedStates ∨ flag ++ state ∈ joinedStates) : flag = "" := by
  have alone : ∀ a ∈ joinedStates, ∀ b ∈ joinedStates,
      a.toList <+: b.toList ∨ a.toList <:+ b.toList → a = b := by decide
  have empty (whole : String) (hwhole : whole ∈ joinedStates)
      (part : state.toList <+: whole.toList ∨ state.toList <:+ whole.toList)
      (length : whole.length = state.length + flag.length) : flag = "" := by
    rw [← alone state hstate whole hwhole part] at length
    exact String.length_eq_zero_iff.1 (by omega)
  obtain h | h := h
  · exact empty _ h (Or.inl ⟨flag.toList, String.toList_append.symm⟩) (String.length_append ..)
  · refine empty _ h (Or.inr ⟨flag.toList, String.toList_append.symm⟩) ?_
    rw [String.length_append, Nat.add_comm]

end

/-! ## Names in a text -/

/-- The nodes that have joined according to some lines. -/
def namesIn (ls : List (List Char)) : Set (List Char) :=
  {name | ∃ line ∈ ls, joinedName? line = some name}

/-- The nodes that some line of the text says are in one of the four states. -/
def joinedNames (text : String) : Set (List Char) :=
  {name | ∃ line state, StandsBetween (· == '\n') line text.toList ∧ SaysNode line name state ∧
    String.ofList state ∈ ["idle", "mix", "alloc", "comp"]}

section

variable {ls : List (List Char)} {line name : List Char} {text : String}

/-- The names that a text gives depend on the words of its pieces alone. -/
theorem mem_joinedNames_iff : name ∈ joinedNames text ↔ ∃ state more,
    (∃ line, StandsBetween (· == '\n') line text.toList ∧ words line = name :: state :: more) ∧
      String.ofList state ∈ ["idle", "mix", "alloc", "comp"] := by
  constructor
  · rintro ⟨line, state, hline, hsays, hstate⟩
    obtain ⟨more, hwords⟩ := saysNode_iff.1 hsays
    exact ⟨state, more, ⟨line, hline, hwords⟩, hstate⟩
  · rintro ⟨state, more, ⟨line, hline, hwords⟩, hstate⟩
    exact ⟨line, state, hline, saysNode_iff.2 ⟨more, hwords⟩, hstate⟩

theorem joinedNames_eq (text : String) : joinedNames text = namesIn (lines text.toList) := by
  ext name
  rw [mem_joinedNames_iff]
  constructor
  · rintro ⟨state, more, said, hstate⟩
    obtain ⟨line, hline, hwords⟩ := (exists_line_iff (List.cons_ne_nil _ _)).2 said
    exact ⟨line, hline, joinedName?_eq_some_iff.2 ⟨state, saysNode_iff.2 ⟨more, hwords⟩, hstate⟩⟩
  · rintro ⟨line, hline, hname⟩
    obtain ⟨state, hsays, hstate⟩ := joinedName?_eq_some_iff.1 hname
    obtain ⟨more, hwords⟩ := saysNode_iff.1 hsays
    exact ⟨state, more, (exists_line_iff (List.cons_ne_nil _ _)).1 ⟨line, hline, hwords⟩, hstate⟩

theorem namesIn_eq_coe (ls : List (List Char)) :
    namesIn ls = ((ls.filterMap joinedName?).toFinset : Set (List Char)) := by
  ext name
  simp [namesIn]

theorem finite_namesIn (ls : List (List Char)) : (namesIn ls).Finite := by
  rw [namesIn_eq_coe]
  exact Finset.finite_toSet _

/-- By induction on the length: what is left of a list without its first member is shorter. -/
theorem card_toFinset_eq_length_eraseDups {α : Type} [DecidableEq α] [BEq α] [LawfulBEq α]
    (l : List α) : l.toFinset.card = l.eraseDups.length := by
  induction hn : l.length using Nat.strongRecOn generalizing l with
  | ind n ih =>
    cases l with
    | nil => rfl
    | cons a l =>
      have shorter := List.length_filter_le (fun b => !b == a) l
      rw [List.length_cons] at hn
      have others : (a :: l).toFinset = insert a (l.filter fun b => !b == a).toFinset := by
        ext b
        by_cases hb : b = a <;> simp [hb]
      have fresh : a ∉ (l.filter fun b => !b == a).toFinset := by simp
      rw [others, Finset.card_insert_of_notMem fresh, ih _ (by omega) _ rfl, List.eraseDups_cons,
        List.length_cons]

theorem joinedNodes_eq (text : String) : joinedNodes text = UInt32.ofNat (joinedNames text).ncard := by
  rw [joinedNames_eq, namesIn_eq_coe, Set.ncard_coe_finset, card_toFinset_eq_length_eraseDups]
  rfl

theorem toNat_joinedNodes (h : (joinedNames text).ncard < 2 ^ 32) :
    (joinedNodes text).toNat = (joinedNames text).ncard := by
  rw [joinedNodes_eq, UInt32.toNat_ofNat', Nat.mod_eq_of_lt h]

theorem ncard_namesIn_le (ls : List (List Char)) : (namesIn ls).ncard ≤ ls.length := by
  rw [namesIn_eq_coe, Set.ncard_coe_finset]
  exact (List.toFinset_card_le _).trans (List.length_filterMap_le _ _)

theorem namesIn_cons (line : List Char) (ls : List (List Char)) :
    namesIn (line :: ls) = {name | joinedName? line = some name} ∪ namesIn ls := by
  ext name
  simp [namesIn]

theorem namesIn_append (a b : List (List Char)) : namesIn (a ++ b) = namesIn a ∪ namesIn b := by
  ext name
  simp [namesIn, or_and_right, exists_or]

/-- One more line adds one name or none. -/
theorem namesIn_cons_cases (line : List Char) (ls : List (List Char)) :
    (namesIn (line :: ls)).ncard = (namesIn ls).ncard ∨
      (namesIn (line :: ls)).ncard = (namesIn ls).ncard + 1 := by
  rw [namesIn_cons]
  rcases joinedName? line with _ | name
  · left
    simp
  · have single : {n | some name = some n} = {name} := by
      ext n
      simp [eq_comm]
    rw [single, Set.singleton_union]
    by_cases h : name ∈ namesIn ls
    · exact Or.inl (by rw [Set.insert_eq_of_mem h])
    · exact Or.inr (Set.ncard_insert_of_notMem h (finite_namesIn ls))

end

/-! ## Lines that say the same -/

/-- The same lines but for what does not matter. -/
inductive Restated : List (List Char) → List (List Char) → Prop
  /-- The order of the lines. -/
  | order {a b : List (List Char)} : a.Perm b → Restated a b
  /-- How often a line comes. -/
  | again {a : List (List Char)} {line : List Char} : line ∈ a → Restated a (line :: a)
  /-- Blanks around a line. -/
  | around {a b : List (List Char)} {front line back : List Char} : Blanks front → Blanks back →
      Restated (a ++ line :: b) (a ++ (front ++ line ++ back) :: b)
  /-- How wide a gap within a line is. -/
  | gap {a b : List (List Char)} {left gap gap' right : List Char} : Blanks gap → Blanks gap' →
      gap ≠ [] → gap' ≠ [] →
      Restated (a ++ (left ++ gap ++ right) :: b) (a ++ (left ++ gap' ++ right) :: b)
  /-- What follows the name and the state. -/
  | columns {a b : List (List Char)} {line more : List Char} : 2 ≤ (words line).length →
      EndsWord more → Restated (a ++ line :: b) (a ++ (line ++ more) :: b)
  /-- Lines of less than two words. -/
  | short {a : List (List Char)} {line : List Char} : (words line).length < 2 → Restated a (line :: a)
  | symm {a b : List (List Char)} : Restated a b → Restated b a
  | trans {a b c : List (List Char)} : Restated a b → Restated b c → Restated a c

section

variable {a b : List (List Char)} {line line' : List Char}

theorem words_gap {left gap right : List Char} (hgap : Blanks gap) (hne : gap ≠ []) :
    words (left ++ gap ++ right) = words left ++ words right := by
  obtain ⟨c, gap, rfl⟩ := List.exists_cons_of_ne_nil hne
  obtain ⟨hc, hgap⟩ := List.forall_mem_cons.1 hgap
  rw [List.append_assoc, List.cons_append, words_append_cons hc, words_blanks_append hgap]

theorem namesIn_middle (h : joinedName? line = joinedName? line') :
    namesIn (a ++ line :: b) = namesIn (a ++ line' :: b) := by
  simp only [namesIn_append, namesIn_cons, h]

theorem Restated.namesIn_eq (h : Restated a b) : namesIn a = namesIn b := by
  induction h with
  | order h =>
    ext name
    exact exists_congr fun line => and_congr_left fun _ => h.mem_iff
  | @again a line h =>
    rw [namesIn_cons]
    have old : {name | joinedName? line = some name} ⊆ namesIn a :=
      fun name hname => ⟨line, h, hname⟩
    exact (Set.union_eq_right.2 old).symm
  | around hfront hback =>
    refine namesIn_middle (joinedName?_congr ?_)
    rw [words_append_blanks hback, words_blanks_append hfront]
  | gap hgap hgap' hne hne' =>
    refine namesIn_middle (joinedName?_congr ?_)
    rw [words_gap hgap hne, words_gap hgap' hne']
  | columns hlength hmore =>
    refine namesIn_middle (joinedName?_congr ?_)
    rw [words_append hmore, List.take_append_of_le_length hlength]
  | short h =>
    rw [namesIn_cons, joinedName?_of_short h]
    simp
  | symm _ ih => exact ih.symm
  | trans _ _ ih ih' => exact ih.trans ih'

end

/-! ## Carriage returns -/

/-- The characters with a carriage return before each line feed. -/
def returned (cs : List Char) : List Char :=
  cs.flatMap fun c => if c = '\n' then ['\r', '\n'] else [c]

/-- The text with a carriage return before each line feed. -/
def withReturns (text : String) : String := String.ofList (returned text.toList)

section

variable {first rest : List Char}

theorem returned_of_solid (h : ∀ c ∈ first, (c == '\n') = false) : returned first = first := by
  induction first with
  | nil => rfl
  | cons c cs ih =>
    obtain ⟨hc, hcs⟩ := List.forall_mem_cons.1 h
    unfold returned at ih ⊢
    rw [List.flatMap_cons, ih hcs, if_neg (ne_of_beq_false hc)]
    rfl

theorem returned_append_cons (h : ∀ c ∈ first, (c == '\n') = false) :
    returned (first ++ '\n' :: rest) = first ++ ['\r'] ++ '\n' :: returned rest := by
  have solid := returned_of_solid h
  unfold returned at solid ⊢
  rw [List.flatMap_append, solid, List.append_assoc]
  rfl

/-- Line by line, the words stay. By induction on the length. -/
theorem map_words_returned (text : List Char) :
    (pieces (· == '\n') (returned text)).map words = (pieces (· == '\n') text).map words := by
  induction hn : text.length using Nat.strongRecOn generalizing text with
  | ind n ih =>
    obtain solid | ⟨first, c, rest, rfl, solid, hc⟩ := exists_first_piece (· == '\n') text
    · rw [returned_of_solid solid]
    · obtain rfl : c = '\n' := eq_of_beq hc
      have shorter : rest.length < n := by
        rw [← hn, List.length_append, List.length_cons]
        omega
      have ended : ∀ c ∈ first ++ ['\r'], (c == '\n') = false :=
        List.forall_mem_append.2 ⟨solid, List.forall_mem_singleton.2 rfl⟩
      rw [returned_append_cons solid, pieces_append_cons rfl, pieces_of_solid ended,
        pieces_append_cons rfl, pieces_of_solid solid, List.map_append, List.map_append,
        ih _ shorter _ rfl, List.map_singleton, List.map_singleton, words_append_blanks blanks_return]

end

theorem joinedNames_withReturns (text : String) :
    joinedNames (withReturns text) = joinedNames text := by
  have by_words (t : String) (ws : List (List Char)) :
      (∃ line, StandsBetween (· == '\n') line t.toList ∧ words line = ws) ↔
        ws ∈ (pieces (· == '\n') t.toList).map words := by
    simp only [List.mem_map, mem_pieces_iff]
  ext name
  simp only [mem_joinedNames_iff, by_words]
  rw [withReturns, String.toList_ofList, map_words_returned]

/-! ## The count -/

theorem joinedNames_join (first second : String) :
    joinedNames (first ++ "\n" ++ second) = joinedNames first ∪ joinedNames second := by
  ext name
  simp only [joinedNames, ← mem_pieces_iff, Set.mem_union, Set.mem_ofPred_eq, String.toList_append]
  rw [List.append_assoc, show "\n".toList ++ second.toList = '\n' :: second.toList from rfl,
    pieces_append_cons rfl]
  simp only [List.mem_append, or_and_right, exists_or]

/-- **How many nodes have joined.** For a text of less than 2^32 lines it is the number of different
names that are the first word of a line whose second word is one of four states. With a flag in front
or behind a state is none of these. The number is the same for all texts whose lines say the same, and
with carriage returns; one more line adds one or nothing; and two texts on end have no more than both
together. -/
theorem joinedNodes_counts (text : String) (h : (lines text.toList).length < 2 ^ 32) :
    (joinedNodes text).toNat = (joinedNames text).ncard ∧
    (∀ state flag : String, state ∈ ["idle", "mix", "alloc", "comp"] → flag ≠ "" →
      ∀ line name, (SaysNode line name (state ++ flag).toList ∨
        SaysNode line name (flag ++ state).toList) → joinedName? line = none) ∧
    (∀ other : String, Restated (lines text.toList) (lines other.toList) →
      joinedNodes other = joinedNodes text) ∧
    joinedNodes (withReturns text) = joinedNodes text ∧
    (∀ (fewer : String) (before after : List (List Char)) (line : List Char),
      lines text.toList = before ++ line :: after → lines fewer.toList = before ++ after →
        (joinedNodes text).toNat = (joinedNodes fewer).toNat ∨
          (joinedNodes text).toNat = (joinedNodes fewer).toNat + 1) ∧
    ∀ first second : String, text = first ++ "\n" ++ second →
      (joinedNodes text).toNat ≤ (joinedNodes first).toNat + (joinedNodes second).toNat := by
  have bound : (joinedNames text).ncard < 2 ^ 32 := by
    rw [joinedNames_eq]
    exact Nat.lt_of_le_of_lt (ncard_namesIn_le _) h
  have finite : (joinedNames text).Finite := joinedNames_eq text ▸ finite_namesIn _
  have count := toNat_joinedNodes bound
  have part {t : String} (ht : joinedNames t ⊆ joinedNames text) :
      (joinedNodes t).toNat = (joinedNames t).ncard :=
    toNat_joinedNodes (Nat.lt_of_le_of_lt (Set.ncard_le_ncard ht finite) bound)
  refine ⟨count, ?flag, ?restated, ?returns, ?line, ?joined⟩
  case flag =>
    intro state flag hstate hflag line name hsays
    obtain hsays | hsays := hsays
    · refine joinedName?_of_state hsays fun hjoined => hflag (flag_eq_nil hstate (Or.inl ?_))
      rwa [String.ofList_toList] at hjoined
    · refine joinedName?_of_state hsays fun hjoined => hflag (flag_eq_nil hstate (Or.inr ?_))
      rwa [String.ofList_toList] at hjoined
  case restated =>
    intro other hother
    rw [joinedNodes_eq, joinedNodes_eq, joinedNames_eq, joinedNames_eq, hother.namesIn_eq]
  case returns => rw [joinedNodes_eq, joinedNodes_eq, joinedNames_withReturns]
  case line =>
    intro fewer before after line htext hfewer
    have moved : namesIn (lines text.toList) = namesIn (line :: (before ++ after)) :=
      htext ▸ (Restated.order List.perm_middle).namesIn_eq
    have hsub : joinedNames fewer ⊆ joinedNames text := by
      rw [joinedNames_eq, joinedNames_eq, moved, hfewer, namesIn_cons]
      exact Set.subset_union_right
    rw [count, part hsub, joinedNames_eq, joinedNames_eq, moved, hfewer]
    exact namesIn_cons_cases line (before ++ after)
  case joined =>
    rintro first second rfl
    have hjoin := joinedNames_join first second
    rw [count, part (hjoin ▸ Set.subset_union_left), part (hjoin ▸ Set.subset_union_right), hjoin]
    exact Set.ncard_union_le _ _

/-- Five names: one of them in two partitions, one with a flag, one without a state. -/
theorem joinedNodes_counts_mixed :
    let text := "n1 idle\nn1 alloc x\r\n  n2\tmix\n\nn3 idle~\nn4\nn5 comp"
    let fewer := "n1 idle\nn1 alloc x\r\n\nn3 idle~\nn4\nn5 comp"
    (lines text.toList).length < 2 ^ 32 ∧ joinedNodes text = 3 ∧ (joinedNames text).ncard = 3 ∧
      joinedNodes fewer = 2 ∧ ((joinedNodes text).toNat = (joinedNodes fewer).toNat ∨
        (joinedNodes text).toNat = (joinedNodes fewer).toNat + 1) := by
  intro text fewer
  have few : (lines text.toList).length < 2 ^ 32 := by decide +kernel
  have three : joinedNodes text = 3 := by decide +kernel
  have split : lines text.toList = (lines text.toList).take 2 ++ "  n2\tmix".toList ::
    (lines text.toList).drop 3 := by decide +kernel
  have rest : lines fewer.toList =
    (lines text.toList).take 2 ++ (lines text.toList).drop 3 := by decide +kernel
  obtain ⟨count, -, -, -, line, -⟩ := joinedNodes_counts text few
  exact ⟨few, three, by rw [← count, three]; rfl, by decide +kernel, line fewer _ _ _ split rest⟩

end FleetScaling
