import FleetScaling.Proofs.Settings.Fields
import FleetScaling.Proofs.Settings.Guesses
import FleetScaling.Proofs.Site.Quoting
import FleetScaling.Proofs.Text.Lines

/-!
# Targets from the environment

The targets of a run can be set by a variable, as numbers with commas between them. A text with a
comma is taken for nothing but a list, so that two or more targets come to the settings as they were
written. A single target is taken for a number, and a number is no list: no settings can be loaded
then (`targets_of_variable_iff`).
-/

namespace FleetScaling

open Text Decimal Setting

/-- Some targets in decimal, with commas between them. -/
def targetsText (ts : List UInt32) : String := joined "," (ts.map toString)

namespace Text

/-- The pieces between commas are the texts that were joined. -/
theorem pieces_joined {texts : List String} (some_ : texts ≠ [])
    (solid : ∀ text ∈ texts, ',' ∉ text.toList) :
    pieces (· == ',') (joined "," texts).toList = texts.map String.toList := by
  rw [joined, String.toList_intercalate, pieces_eq_splitOnP]
  refine List.splitOn_intercalate ',' ?_ (by rwa [Ne, List.map_eq_nil_iff])
  exact List.forall_mem_map.2 solid

theorem mem_joined_comma (a b : String) (rest : List String) :
    ',' ∈ (joined "," (a :: b :: rest)).toList := by
  rw [joined, String.intercalate_cons_cons, String.toList_append, String.toList_append]
  exact List.mem_append_left _ (List.mem_append_right _ (List.mem_singleton_self _))

end Text

namespace Setting

/-! ## Numbers in texts -/

theorem allDigits_toString_count (t : UInt32) : AllDigits (toString t).toList := by
  rw [toList_toString_count]
  exact allDigits_toDigits _

theorem writes_toString_count (t : UInt32) : Writes (toString t).toList t.toNat := by
  rw [toList_toString_count]
  exact writes_toDigits _

theorem toCount_text (source : Option String) (t : UInt32) :
    toCount (.scalar source (.text (toString t))) = .ok t := by
  have word : boolWords.lookup (lower (toString t)) = none := by
    rw [lower_of_allDigits (allDigits_toString_count t), lookup_eq_none_iff]
    intro h
    have letters : ∀ word ∈ boolWords.map Prod.fst, word.toList.all Char.isDigit = false := by
      decide
    exact Bool.noConfusion ((letters _ h).symm.trans
      (List.all_eq_true.2 (allDigits_toString_count t)))
  have small : t.toNat < twoPow 32 := t.toNat_lt
  have number : natural? (twoPow 64) (toString t).toList = some t.toNat :=
    natural?_eq_some_iff.2 ⟨⟨_, writes_toString_count t, Or.inl rfl⟩, small.trans (by decide)⟩
  have natural : toNatural (.scalar source (.text (toString t))) = .ok t.toNat := by
    unfold toNatural
    simp only [word, number]
  unfold toCount toBits
  rw [natural]
  show Except.map UInt32.ofNat (if t.toNat < twoPow 32 then _ else _) = _
  rw [if_pos small]
  exact congrArg Except.ok UInt32.ofNat_toNat

theorem readItems_texts (source : Option String) (ts : List UInt32) (index : Nat) :
    readItems toCount index (ts.map fun t => .scalar source (.text (toString t))) = .ok ts := by
  induction ts generalizing index with
  | nil => rfl
  | cons t ts ih =>
    rw [List.map_cons, readItems, toCount_text]
    show (readItems toCount (index + 1) _ >>= _) = _
    rw [ih]
    rfl

/-! ## Lists of numbers -/

variable {ts : List UInt32}

theorem listed_targetsText (some_ : ts ≠ []) : listed (targetsText ts) =
    ts.map fun t => .scalar (some environmentName) (.text (toString t)) := by
  unfold listed targetsText
  rw [pieces_joined (by rwa [Ne, List.map_eq_nil_iff])
    (List.forall_mem_map.2 fun t _ => comma_not_mem_digits (allDigits_toString_count t))]
  simp only [List.map_map, Function.comp_def, String.ofList_toList]

/-- Two targets or more are read as they were written. -/
theorem toList_ofVariable (two : 2 ≤ ts.length) :
    toList toCount (ofVariable "scaling_targets" "scaling_targets" (targetsText ts)) = .ok ts := by
  match ts, two with
  | a :: b :: rest, _ =>
    have comma : ',' ∈ (targetsText (a :: b :: rest)).toList := mem_joined_comma _ _ _
    unfold ofVariable
    rw [guess?_of_comma comma]
    dsimp only
    rw [if_pos rfl, listed_targetsText (List.cons_ne_nil _ _)]
    exact readItems_texts _ _ 0

/-- A single target is a number, which is no list. -/
theorem toList_ofVariable_single (t : UInt32) :
    toList toCount (ofVariable "scaling_targets" "scaling_targets" (targetsText [t])) =
      .error (.other ("invalid type: integer \x60" ++ toString t ++ "\x60, expected a sequence")) := by
  have guessed : guess? (toString t) = some (.integer t.toNat) :=
    guess?_toString (t.toNat_lt.trans (by decide))
  have text : targetsText [t] = toString t := by
    show ",".intercalate [toString t] = toString t
    exact String.intercalate_singleton
  have before : "invalid type: integer \x60" = "invalid type: " ++ "integer \x60" := by
    decide +kernel
  have after : "\x60, expected a sequence" = "\x60" ++ ", expected " ++ "a sequence" := by
    decide +kernel
  unfold ofVariable
  rw [text, guessed, before, after]
  show Except.error (SettingError.other
    ("invalid type: " ++ ("integer \x60" ++ toString t ++ "\x60") ++ ", expected " ++ "a sequence")) = _
  simp only [String.append_assoc]

end Setting

namespace BenchSettings

/-! ## Settings without targets -/

/-- The members of a table but for the targets. -/
def withoutTargets (tree : Setting) : List (String × Setting) :=
  tree.members.filter fun member => member.1 ≠ "scaling_targets"

theorem lookup_withoutTargets (tree : Setting) (k : String) : (withoutTargets tree).lookup k =
    if k = "scaling_targets" then none else tree.members.lookup k := by
  unfold withoutTargets
  induction tree.members with
  | nil => exact (ite_self _).symm
  | cons member rest ih =>
    by_cases hmember : member.1 = "scaling_targets"
    · rw [List.filter_cons_of_neg (by simpa using hmember), ih, List.lookup_cons, hmember]
      by_cases hk : k = "scaling_targets"
      · rw [if_pos hk, if_pos hk]
      · rw [if_neg hk, if_neg hk, beq_eq_false_iff_ne.2 hk]
    · rw [List.filter_cons_of_pos (by simpa using hmember), List.lookup_cons, List.lookup_cons, ih]
      by_cases hk : k = "scaling_targets"
      · rw [if_pos hk, if_pos hk, hk, beq_eq_false_iff_ne.2 (Ne.symm hmember)]
      · rw [if_neg hk, if_neg hk]

/-- A file and an environment give settings, whatever they say of the targets. -/
def OtherwiseValid (files : Files) (path : Option String) (environment : List (String × String))
    (s : BenchSettings) : Prop :=
  ∃ tree, gathered files path environment = .ok tree ∧
    ofTree (.table none (withoutTargets tree)) = .ok s

variable {files : Files} {path : Option String} {environment before after : List (String × String)}
  {s : BenchSettings} {ts : List UInt32}

/-- What is valid is otherwise valid, with the usual targets. -/
theorem OtherwiseValid.of_load (h : load files path environment = .ok s) :
    OtherwiseValid files path environment { s with targets := [1000, 2000, 3000, 4000] } := by
  rw [load_eq] at h
  obtain ⟨tree, gathered, h⟩ := Json.bind_eq_ok_iff.1 h
  obtain ⟨reads, check⟩ := ofTree_eq_ok_iff.1 h
  refine ⟨tree, gathered, ofTree_eq_ok_iff.2 ⟨?_, ?_⟩⟩
  · refine reads.put_targets (fun k hk => ?_) ?_
    · rw [Setting.members, lookup_withoutTargets, if_neg hk]
    · have gone : (withoutTargets tree).lookup "scaling_targets" = none := by
        rw [lookup_withoutTargets, if_pos rfl]
      unfold Members.read?
      dsimp only [Setting.members]
      rw [gone]
      rfl
  · exact check_eq_ok_iff.2 ⟨List.cons_ne_nil _ _, (check_eq_ok_iff.1 check).2⟩

/-- **Targets from the environment.** A file and an environment are valid, whatever they say of the
targets, and the variable of the targets is set to some numbers with commas between them. If there
are two or more, loading gives just these targets, in order, and all other settings as they were. If
there is only one, loading fails: a number was found where a list belongs. -/
theorem targets_of_variable_iff (some_ : ts ≠ [])
    (valid : OtherwiseValid files path (before ++ after) s)
    (avoid : ∀ other ∈ after, Avoids ["scaling_targets"] other.1) :
    let loaded := load files path (before ++ ("SCALING_SCALING_TARGETS", targetsText ts) :: after)
    (2 ≤ ts.length → loaded = .ok { s with targets := ts }) ∧
    (∀ t, ts = [t] → loaded = .error (Failure.within "Invalid bench configuration" (.other
      ("invalid type: integer \x60" ++ toString t ++ "\x60, expected a sequence")))) ∧
    ((∃ s', loaded = .ok s' ∧ s'.targets = ts) ↔ ts.length ≠ 1) := by
  intro loaded
  obtain ⟨tree, rest, valid⟩ := valid
  obtain ⟨reads, check⟩ := ofTree_eq_ok_iff.1 valid
  have leads : variablePath? "scaling_" "SCALING_SCALING_TARGETS" = some "scaling_targets" := by
    decide +kernel
  have steps : stepsOf "scaling_targets" = ["scaling_targets"].map Step.member := by decide +kernel
  obtain ⟨new, gathered, stands⟩ := exists_gathered_variable (targetsText ts) rest leads steps
    (by decide +kernel) (List.cons_ne_nil _ _) avoid
  obtain ⟨source, members, _, rfl, off, found, last⟩ := stands.exists_table
  obtain rfl := last.eq
  have off : AgreeOff "scaling_targets" (withoutTargets tree) members := fun k hk =>
    (off k hk).trans ((lookup_withoutTargets tree k).trans (if_neg hk)).symm
  have loaded_eq : loaded = ofTree (.table source members) := load_of_gathered gathered
  have there := read?_named_of_lookup found 6 (toList toCount)
  have several (two : 2 ≤ ts.length) : loaded = .ok { s with targets := ts } := by
    rw [toList_ofVariable two] at there
    rw [loaded_eq, ofTree_eq_ok_iff]
    exact ⟨reads.put_targets off (congrArg (Except.map _) there),
      check_eq_ok_iff.2 ⟨some_, (check_eq_ok_iff.1 check).2⟩⟩
  have single (t : UInt32) (h : ts = [t]) : loaded = .error (Failure.within
      "Invalid bench configuration" (.other
        ("invalid type: integer \x60" ++ toString t ++ "\x60, expected a sequence"))) := by
    rw [h, toList_ofVariable_single] at there
    rw [loaded_eq]
    exact ofTree_of_error (reads.read_targets_error off there)
  refine ⟨several, single, ?_⟩
  constructor
  · rintro ⟨s', h, rfl⟩ one
    obtain ⟨t, ht⟩ := List.length_eq_one_iff.1 one
    cases h.symm.trans (single t ht)
  · intro one
    have two : 2 ≤ ts.length := by
      have := List.length_pos_of_ne_nil some_
      omega
    exact ⟨_, several two, rfl⟩

/-- Two targets are read as two. -/
theorem targets_of_variable_two :
    OtherwiseValid smallFiles (some "bench.toml") [] smallSettings ∧ targetsText [10, 20] = "10,20" ∧
    load smallFiles (some "bench.toml") [("SCALING_SCALING_TARGETS", targetsText [10, 20])] =
      .ok { smallSettings with targets := [10, 20] } := by
  have valid := OtherwiseValid.of_load load_smallFiles
  obtain ⟨several, -⟩ := targets_of_variable_iff (List.cons_ne_nil 10 [20])
    (show OtherwiseValid _ _ ([] ++ []) _ from valid) nofun
  exact ⟨valid, by decide +kernel, several (by decide)⟩

/-- A single target that the file could have said is refused. -/
theorem not_targets_of_variable_single :
    OtherwiseValid smallFiles (some "bench.toml") [] smallSettings ∧
    ¬∃ s, load smallFiles (some "bench.toml") [("SCALING_SCALING_TARGETS", targetsText [10])] = .ok s ∧
      s.targets = [10] := by
  refine ⟨OtherwiseValid.of_load load_smallFiles, ?_⟩
  rintro ⟨s, h, -⟩
  have refused : (load smallFiles (some "bench.toml")
      [("SCALING_SCALING_TARGETS", targetsText [10])]).toOption = none := by decide +kernel
  rw [h] at refused
  cases refused

end BenchSettings

end FleetScaling
