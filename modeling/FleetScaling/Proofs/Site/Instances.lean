import FleetScaling.Proofs.Json.TextArrays
import FleetScaling.Proofs.Site.Answers
import FleetScaling.Proofs.Text.ByteOrder
import FleetScaling.Proofs.Text.Lines
import FleetScaling.Site.Collector
import Mathlib.Data.Set.Card
import Mathlib.Data.List.Sort
import Mathlib.Data.List.TakeWhile

/-!
# The ids of instances

The list of instances is read as an array of strings, of which each is kept once, in the order of
their bytes. What comes out depends on nothing but which strings occur (`sortedDistinct_congr`), so
it does not matter in which order the program lists them, how often, or how a set of them would be
enumerated. An output of blanks is an empty list and any other that is no array is a failure
(`instanceIds_canonical`).
-/

namespace FleetScaling

open Text Json

/-! ## Sorting and dropping repetitions -/

section Distinct

variable {a b : String} {texts texts' : List String}

theorem eraseReps_cons_cons : (a :: b :: texts).eraseReps =
    if a = b then (a :: texts).eraseReps else a :: (b :: texts).eraseReps := by
  have loop (texts : List String) (a : String) (done : List String) :
      List.eraseRepsBy.loop (· == ·) a texts done =
        done.reverse ++ List.eraseRepsBy.loop (· == ·) a texts [] := by
    induction texts generalizing a done with
    | nil => simp [List.eraseRepsBy.loop]
    | cons b texts ih =>
      rw [List.eraseRepsBy.loop, List.eraseRepsBy.loop]
      split
      · exact ih a done
      · rw [ih b (a :: done), ih b [a], List.reverse_cons, List.append_assoc]
        rfl
  show List.eraseRepsBy.loop (· == ·) a (b :: texts) [] = _
  rw [List.eraseRepsBy.loop]
  split
  · rename_i h
    rw [if_pos (eq_of_beq h)]
    rfl
  · rename_i h
    rw [if_neg (ne_of_beq_false h), loop]
    rfl

theorem mem_eraseReps {id : String} : id ∈ texts.eraseReps ↔ id ∈ texts := by
  cases texts with
  | nil => rfl
  | cons a texts =>
    induction texts generalizing a with
    | nil => rfl
    | cons b texts ih =>
      rw [eraseReps_cons_cons]
      split
      · rename_i hab
        rw [ih, hab, List.mem_cons, List.mem_cons, List.mem_cons, or_self_left]
      · rw [List.mem_cons, List.mem_cons (a := id) (b := a), ih]

/-- A sorted list without repetitions ascends strictly. -/
theorem pairwise_eraseReps (h : texts.Pairwise (· ≤ ·)) : texts.eraseReps.Pairwise (· < ·) := by
  cases texts with
  | nil => exact .nil
  | cons a texts =>
    induction texts generalizing a with
    | nil => exact List.pairwise_singleton _ _
    | cons b texts ih =>
      obtain ⟨first, rest⟩ := List.pairwise_cons.1 h
      rw [eraseReps_cons_cons]
      split
      · rename_i hab
        exact ih a (hab ▸ rest)
      · rename_i hab
        refine List.pairwise_cons.2 ⟨fun id hid => ?_, ih b rest⟩
        have least : b ≤ id := by
          rcases List.mem_cons.1 (mem_eraseReps.1 hid) with rfl | hid
          · exact String.le_refl id
          · exact (List.pairwise_cons.1 rest).1 id hid
        refine String.not_le.1 fun hle => hab ?_
        exact String.le_antisymm (first b List.mem_cons_self) (String.le_trans least hle)

/-- Two lists that ascend strictly and have the same members are the same. -/
theorem eq_of_ascending (h : texts.Pairwise (· < ·)) (h' : texts'.Pairwise (· < ·))
    (same : ∀ id, id ∈ texts ↔ id ∈ texts') : texts = texts' := by
  have : Std.Irrefl (α := String) (· < ·) := ⟨String.lt_irrefl⟩
  have : Std.Antisymm (α := String) (· < ·) := ⟨fun _ _ hab hba => absurd hba (String.lt_asymm hab)⟩
  exact h.eq_of_mem_iff h' same

theorem mem_sortedDistinct {id : String} : id ∈ sortedDistinct texts ↔ id ∈ texts := by
  unfold sortedDistinct
  rw [mem_eraseReps, List.mem_mergeSort]

theorem pairwise_mergeSort (texts : List String) :
    (texts.mergeSort fun a b => decide (a ≤ b)).Pairwise (· ≤ ·) := by
  refine (List.pairwise_mergeSort ?trans ?total texts).imp of_decide_eq_true
  case trans =>
    intro a b c hab hbc
    exact decide_eq_true (String.le_trans (of_decide_eq_true hab) (of_decide_eq_true hbc))
  case total =>
    intro a b
    rw [Bool.or_eq_true, decide_eq_true_eq, decide_eq_true_eq]
    exact String.le_total a b

theorem pairwise_sortedDistinct (texts : List String) :
    (sortedDistinct texts).Pairwise (· < ·) := pairwise_eraseReps (pairwise_mergeSort texts)

/-- Nothing but the members matters. -/
theorem sortedDistinct_congr (same : ∀ id, id ∈ texts ↔ id ∈ texts') :
    sortedDistinct texts = sortedDistinct texts' := by
  refine eq_of_ascending (pairwise_sortedDistinct _) (pairwise_sortedDistinct _) fun id => ?_
  rw [mem_sortedDistinct, mem_sortedDistinct, same]

/-- What ascends already stays as it is. -/
theorem sortedDistinct_of_ascending (h : texts.Pairwise (· < ·)) : sortedDistinct texts = texts :=
  eq_of_ascending (pairwise_sortedDistinct _) h fun _ => mem_sortedDistinct

/-- A set of texts may be enumerated in any order before it is sorted. -/
theorem mergeSort_eq_sortedDistinct (nodup : texts'.Nodup) (same : ∀ id, id ∈ texts' ↔ id ∈ texts) :
    (texts'.mergeSort fun a b => decide (a ≤ b)) = sortedDistinct texts := by
  have nodup : (texts'.mergeSort fun a b => decide (a ≤ b)).Nodup :=
    (List.mergeSort_perm ..).nodup_iff.2 nodup
  refine eq_of_ascending (((pairwise_mergeSort texts').and nodup).imp ?_)
    (pairwise_sortedDistinct _) fun id => ?_
  · rintro a b ⟨hle, hne⟩
    exact String.not_le.1 fun h => hne (String.le_antisymm hle h)
  · rw [List.mem_mergeSort, mem_sortedDistinct, same]

theorem length_sortedDistinct (texts : List String) :
    (sortedDistinct texts).length = {text | text ∈ texts}.ncard := by
  have nodup : (sortedDistinct texts).Nodup := by
    refine (pairwise_sortedDistinct texts).imp fun {a b} hab => ?_
    rintro rfl
    exact String.lt_irrefl a hab
  rw [← List.toFinset_card_of_nodup nodup, ← Set.ncard_coe_finset, List.coe_toFinset]
  simp only [mem_sortedDistinct]

end Distinct

/-! ## Trimmed outputs -/

theorem trimmed_of_blanks {cs : List Char} (h : Blanks cs) : trimmed cs = [] := by
  have dropped : dropBlanks cs = [] := List.dropWhile_eq_nil_iff.2 h
  unfold trimmed
  rw [dropped]
  rfl

theorem blanks_of_trimmed {cs : List Char} (h : trimmed cs = []) : Blanks cs := by
  unfold trimmed at h
  have back : Blanks (dropBlanks cs).reverse :=
    List.dropWhile_eq_nil_iff.1 (List.reverse_eq_nil_iff.1 h)
  intro c hc
  rw [← List.takeWhile_append_dropWhile (p := isBlank) (l := cs), List.mem_append] at hc
  rcases hc with hc | hc
  · exact List.all_eq_true.1 List.all_takeWhile c hc
  · exact back c (List.mem_reverse.2 hc)

theorem isEmpty_trim_iff {output : String} :
    (trim output).isEmpty = true ↔ Blanks output.toList := by
  rw [String.isEmpty_iff, ← String.toList_eq_nil_iff, trim, String.toList_ofList]
  exact ⟨blanks_of_trimmed, trimmed_of_blanks⟩

/-- A text in brackets loses only what stands behind them. -/
theorem trimmed_brackets (inside : List Char) {after : List Char} (h : Blanks after) :
    trimmed ('[' :: (inside ++ ']' :: after)) = '[' :: (inside ++ [']']) := by
  have turned : ('[' :: (inside ++ ']' :: after)).reverse =
      after.reverse ++ ']' :: (inside.reverse ++ ['[']) := by
    simp only [List.reverse_cons, List.reverse_append, List.append_assoc, List.cons_append,
      List.nil_append]
  have behind : dropBlanks (after.reverse ++ ']' :: (inside.reverse ++ ['['])) =
      ']' :: (inside.reverse ++ ['[']) := by
    unfold dropBlanks
    rw [List.dropWhile_append_of_pos fun c hc => h c (List.mem_reverse.1 hc)]
    exact dropBlanks_cons (by decide) _
  unfold trimmed
  rw [dropBlanks_cons (by decide), turned, behind]
  simp only [List.reverse_cons, List.reverse_append, List.reverse_reverse, List.reverse_nil,
    List.nil_append, List.cons_append]

/-! ## Reading the output -/

/-- The failure of an output that is no list of ids. -/
def malformedIds (e : DecodeError) : Failure :=
  (Failure.of (.malformed e)).within "Failed to parse describe-instances output"

theorem instanceIds_of_blanks {output : String} (h : Blanks output.toList) :
    instanceIds output = .ok [] := by
  unfold instanceIds
  exact if_pos (isEmpty_trim_iff.2 h)

theorem instanceIds_of_not_blanks {output : String} (h : ¬ Blanks output.toList) :
    instanceIds output = (decodeWithin "Failed to parse describe-instances output"
      (.list (.text "a string")) (trim output)).map sortedDistinct := by
  unfold instanceIds
  exact if_neg fun empty => h (isEmpty_trim_iff.1 empty)

theorem IsTextArray.not_blanks {output : String} {strings : List String}
    (h : IsTextArray (trim output).toList strings) : ¬ Blanks output.toList := by
  intro blanks
  rw [trim, String.toList_ofList, trimmed_of_blanks blanks] at h
  have tokens := tokens_eq_array_iff.2 h
  rw [tokens_nil] at tokens
  cases tokens

theorem instanceIds_of_array {output : String} {strings : List String}
    (h : IsTextArray (trim output).toList strings) :
    instanceIds output = .ok (sortedDistinct strings) := by
  rw [instanceIds_of_not_blanks (IsTextArray.not_blanks h),
    decodeWithin_of_ok (decode_texts_iff.2 h)]
  rfl

theorem instanceIds_of_no_array {output : String} (h : ¬ Blanks output.toList)
    (none : ∀ strings, ¬ IsTextArray (trim output).toList strings) :
    ∃ e, instanceIds output = .error (malformedIds e) := by
  rw [instanceIds_of_not_blanks h]
  cases read : decode (.list (.text "a string")) (trim output) with
  | ok strings => exact absurd (decode_texts_iff.1 read) (none strings)
  | error e => exact ⟨e, congrArg (Except.map sortedDistinct) (decodeWithin_of_error read)⟩

/-! ## Lists of ids that were written -/

/-- A text in brackets, with blanks behind it or not. -/
theorem instanceIds_of_brackets {text ending : String} {strings : List String}
    (brackets : ∃ inside, text.toList = '[' :: (inside ++ [']']))
    (read : tokens text.toList = (Value.list (strings.map .text)).tokens)
    (blanks : Blanks ending.toList) :
    instanceIds (text ++ ending) = .ok (sortedDistinct strings) := by
  obtain ⟨inside, brackets⟩ := brackets
  refine instanceIds_of_array ?_
  have trimmed : trimmed (text.toList ++ ending.toList) = text.toList := by
    rw [brackets, List.cons_append, List.append_assoc]
    exact trimmed_brackets inside blanks
  rw [trim, String.toList_ofList, String.toList_append, trimmed]
  exact tokens_eq_array_iff.1 read

theorem compact_brackets (items : List Value) :
    ∃ inside, (Value.list items).compact.toList = '[' :: (inside ++ [']']) := by
  refine ⟨(Value.compactItems items).toList, ?_⟩
  rw [Value.compact, String.toList_append, String.toList_append]
  rfl

theorem pretty_brackets (items : List Value) (indent : Nat) :
    ∃ inside, ((Value.list items).pretty indent).toList = '[' :: (inside ++ [']']) := by
  cases items with
  | nil => exact ⟨[], by rw [Value.pretty]; rfl⟩
  | cons item items =>
    refine ⟨((Value.newLine (indent + 1) ++ item.pretty (indent + 1) ++
      Value.prettyItems (indent + 1) items ++ Value.newLine indent).toList), ?_⟩
    rw [Value.pretty]
    simp only [String.toList_append, List.append_assoc]
    rfl

/-- What was read and is written comes back as it was read. -/
theorem instanceIds_written {ids : List String} (ascending : ids.Pairwise (· < ·)) {ending : String}
    (blanks : Blanks ending.toList) (indent : Nat) :
    let written := Value.list (ids.map .text)
    instanceIds (written.compact ++ ending) = .ok ids ∧
      instanceIds (written.pretty indent ++ ending) = .ok ids := by
  have same : (.ok (sortedDistinct ids) : Except Failure _) = .ok ids :=
    congrArg Except.ok (sortedDistinct_of_ascending ascending)
  constructor
  · exact (instanceIds_of_brackets (compact_brackets _) (tokens_compact _) blanks).trans same
  · exact (instanceIds_of_brackets (pretty_brackets _ _) (tokens_pretty _ _) blanks).trans same

/-! ## Capacity -/

section Capacity

variable {ω : Type} {programs : Programs ω} {region cluster : String} {world : ω}

theorem instances_outcome (headNode : HeadNode ω) {r : CommandResult} {ids : List String}
    (ran : (programs.runChecked "aws" (instanceArguments region cluster) world).outcome = .ok r)
    (read : instanceIds r.output = .ok ids) :
    ((parallelClusterProbe programs headNode).instances region cluster world).outcome =
      .ok (UInt32.ofNat ids.length) := by
  unfold parallelClusterProbe
  dsimp only
  rw [Operation.bind_of_ok ran, read]
  rfl

/-- The count of a sample is the one that its probe has given. -/
theorem instances_of_sample {sampler : Sampler ω} {window : Window} {sample : Sample}
    (sampled : (sampler.sample window world).outcome = .ok sample) :
    (sampler.probe.instances window.region window.cluster world).outcome =
      .ok sample.instances := by
  unfold Sampler.sample at sampled
  obtain ⟨instances, hinstances, sampled⟩ := Operation.ok_of_bind sampled
  obtain ⟨nodes, -, sampled⟩ := Operation.ok_of_bind sampled
  obtain ⟨now, -, sampled⟩ := Operation.ok_of_bind sampled
  cases sampled
  exact hinstances

end Capacity

/-- **The ids of instances.** An output of blanks is an empty list of ids, another output that is no
array of strings a failure. An array yields the strings that occur in it, each once and in the order
of their bytes, in whatever order a set of them is enumerated. So other arrays with the same strings
yield the same ids, and so do these ids when they are written as an array again. The capacity in a
sample is their number. -/
theorem instanceIds_canonical (output : String) :
    (Blanks output.toList → instanceIds output = .ok []) ∧
    (¬ Blanks output.toList → (∀ strings, ¬ IsTextArray (trim output).toList strings) →
      ∃ e, instanceIds output = .error (malformedIds e)) ∧
    (∀ strings, IsTextArray (trim output).toList strings → ∃ ids, instanceIds output = .ok ids ∧
      (ids.Pairwise fun a b => a.toUTF8.toList < b.toUTF8.toList) ∧
      (∀ id, id ∈ ids ↔ id ∈ strings) ∧ ids.length = {id | id ∈ strings}.ncard ∧
      (∀ order : List String, order.Nodup → (∀ id, id ∈ order ↔ id ∈ strings) →
        (order.mergeSort fun a b => decide (a ≤ b)) = ids) ∧
      (∀ other strings', IsTextArray (trim other).toList strings' →
        (∀ id, id ∈ strings' ↔ id ∈ strings) → instanceIds other = .ok ids) ∧
      ∀ (ending : String) (indent : Nat), Blanks ending.toList →
        let written := Value.list (ids.map .text)
        instanceIds (written.compact ++ ending) = .ok ids ∧
          instanceIds (written.pretty indent ++ ending) = .ok ids) ∧
    ∀ ids, instanceIds output = .ok ids → ids.length < 2 ^ 32 →
      ∀ (ω : Type) (programs : Programs ω) (headNode : HeadNode ω) (window : Window) (world : ω) r,
        (programs.runChecked "aws" (instanceArguments window.region window.cluster) world).outcome =
          .ok r → r.output = output →
        let probe := parallelClusterProbe programs headNode
        ∃ count : UInt32, count.toNat = ids.length ∧
          (probe.instances window.region window.cluster world).outcome = .ok count ∧
          ∀ (sampler : Sampler ω) sample, sampler.probe = probe →
            (sampler.sample window world).outcome = .ok sample → sample.instances = count := by
  refine ⟨instanceIds_of_blanks, instanceIds_of_no_array, ?array, ?capacity⟩
  case array =>
    intro strings h
    have ascending := pairwise_sortedDistinct strings
    refine ⟨sortedDistinct strings, instanceIds_of_array h,
      ascending.imp fun hab => (lt_iff_bytes_lt _ _).1 hab, fun id => mem_sortedDistinct,
      length_sortedDistinct strings, fun order nodup same => mergeSort_eq_sortedDistinct nodup same,
      ?_, fun ending indent blanks => instanceIds_written ascending blanks indent⟩
    intro other strings' h' same
    rw [instanceIds_of_array h', sortedDistinct_congr same]
  case capacity =>
    rintro ids read few ω programs headNode window world r ran rfl
    have outcome := instances_outcome headNode ran read
    refine ⟨UInt32.ofNat ids.length, UInt32.toNat_ofNat_of_lt' few, outcome, ?_⟩
    intro sampler sample hprobe sampled
    have given := instances_of_sample sampled
    rw [hprobe, outcome] at given
    exact (Except.ok.inj given).symm

end FleetScaling
