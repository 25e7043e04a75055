import FleetScaling.Proofs.Files
import FleetScaling.Proofs.Progress.Documents
import FleetScaling.Proofs.Time.Rfc3339
import FleetScaling.Report.Directory

/-!
# Documents of reports

The text of a report's file is read back as the report (`Report.decode_text`). The file is named for
the strategy and the target, and for nothing else (`Report.fileName_inj`).
-/

namespace FleetScaling

open Json Text

theorem instant_decodes : Decodes instantDecoder (fun t => .text t.rfc3339) 0 := by
  refine (decodes_text _).andThen fun t => ?_
  rw [Time.Instant.read_rfc3339]
  rfl

namespace Report

theorem decodes : Decodes decoder toValue 2 := by
  intro depth hd r
  have inside : 1 < depth - 1 := by omega
  have scalar : 0 < depth - 1 := by omega
  refine Record.decoder_object (by omega) (by decide) (.refl _) ?_
  refine .seq (.seq (.seq (.seq (.seq (.seq (.seq (.map Report.mk ?_) ?_) ?_) ?_) ?_) ?_) ?_) ?_
  · exact .field rfl (decodes_text _ _ scalar r.title)
  · exact .field rfl (decodes_text _ _ scalar r.region)
  · exact .field rfl (decodes_text _ _ scalar r.cluster)
  · exact .field rfl (instant_decodes _ scalar r.startTime)
  · exact .field rfl (instant_decodes _ scalar r.endTime)
  · exact .field rfl (decodes_count _ scalar r.target)
  · exact .field rfl (instant_decodes _ scalar r.targetTime)
  · exact .field rfl (CycleResult.decodes _ inside r.result)

/-- The text of a report is read back as the report. -/
theorem decode_text (r : Report) : decode decoder r.text = .ok r := decodes.pretty (by decide) 0 r

/-! ## Names of files -/

theorem toList_fileName (r : Report) : r.fileName.toList = "scaling-".toList ++
    (r.result.strategy.name.toList ++ ("-".toList ++
      (Nat.toDigits 10 r.target.toNat ++ ".json".toList))) := by
  unfold fileName
  simp only [String.toList_append, List.append_assoc]
  rw [show toString r.target = toString r.target.toNat from rfl, toList_toString]

theorem fileName_plain (r : Report) : Files.IsPlain r.fileName := by
  have begins : r.fileName.toList.head? = some 's' := by
    rw [toList_fileName]
    rfl
  refine ⟨?_, ?_, ?_, ?_⟩
  · rw [toList_fileName]
    simp only [List.mem_append, not_or]
    refine ⟨by decide, ?_, by decide, fun h => ?_, by decide⟩
    · cases r.result.strategy <;> decide
    · exact absurd (allDigits_toDigits _ _ h) (by decide)
  all_goals
    intro h
    rw [h] at begins
    revert begins
    decide

theorem isFileName_fileName (r : Report) : isFileName r.fileName = true := by
  unfold isFileName endsIn
  rw [Bool.and_eq_true, String.startsWith_string_iff, List.isSuffixOf_iff_suffix, toList_fileName]
  refine ⟨List.prefix_append _ _, ?_⟩
  rw [← List.append_assoc, ← List.append_assoc, ← List.append_assoc]
  exact List.suffix_append _ _

/-- Reports of one name are about one strategy and one target. -/
theorem fileName_inj {a b : Report} : a.fileName = b.fileName ↔
    a.result.strategy = b.result.strategy ∧ a.target = b.target := by
  constructor
  · intro h
    have hlist := congrArg String.toList h
    rw [toList_fileName, toList_fileName] at hlist
    have hrest := List.append_cancel_left hlist
    have hstrategy : a.result.strategy = b.result.strategy := by
      have hfirst := congrArg List.head? hrest
      revert hfirst
      cases a.result.strategy <;> cases b.result.strategy <;> simp [Strategy.name]
    rw [hstrategy] at hrest
    have hdigits := List.append_cancel_right
      (List.append_cancel_left (List.append_cancel_left hrest))
    refine ⟨hstrategy, UInt32.toNat_inj.1 ?_⟩
    rw [← digitsValue_toDigits a.target.toNat, hdigits, digitsValue_toDigits]
  · rintro ⟨hs, ht⟩
    unfold fileName
    rw [hs, ht]

end Report

end FleetScaling
