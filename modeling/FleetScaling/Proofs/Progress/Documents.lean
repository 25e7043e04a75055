import FleetScaling.Progress.Tracker
import FleetScaling.Proofs.Json.Records

/-!
# Documents of the progress

What is written of a result, a soft failure, a status or the results of a run is read back by the
decoder of its type, field by field.
-/

namespace FleetScaling

open Json

theorem Strategy.decodes : Decodes Strategy.decoder (fun s => .text s.name) 0 :=
  .variant Strategy.ofName?_name

theorem Phase.decodes : Decodes Phase.decoder (fun p => .text p.name) 0 :=
  .variant fun p => by cases p <;> decide

theorem CycleResult.decodes : Decodes CycleResult.decoder CycleResult.toValue 1 := by
  intro depth hd r
  have inside : 0 < depth - 1 := by omega
  refine Record.decoder_object hd (by decide) (.refl _) ?_
  refine .seq (.seq (.seq (.seq (.seq (.seq (.seq (.seq (.map CycleResult.mk ?_) ?_) ?_) ?_) ?_) ?_)
    ?_) ?_) ?_
  · exact .field rfl (decodes_text _ _ inside r.region)
  · exact .field rfl (decodes_text _ _ inside r.os)
  · exact .field rfl (decodes_text _ _ inside r.computeNode)
  · exact .field rfl (decodes_text _ _ inside r.headNode)
  · exact .field rfl (decodes_count _ inside r.target)
  · exact .field rfl (Strategy.decodes _ inside r.strategy)
  · exact .field rfl (decodes_int64 _ inside r.instancesUp)
  · exact .field rfl (decodes_int64 _ inside r.nodesUp)
  · exact .field rfl (decodes_int64 _ inside r.down)

theorem SoftFailure.decodes : Decodes SoftFailure.decoder SoftFailure.toValue 1 := by
  intro depth hd f
  have inside : 0 < depth - 1 := by omega
  refine Record.decoder_object hd (by decide) (.refl _) ?_
  refine .seq (.seq (.seq (.map SoftFailure.mk ?_) ?_) ?_) ?_
  · exact .field rfl (decodes_count _ inside f.target)
  · exact .field rfl (decodes_text _ _ inside f.check)
  · exact .field rfl (decodes_text _ _ inside f.expected)
  · exact .field rfl (decodes_text _ _ inside f.actual)

theorem RunResults.decodes : Decodes RunResults.decoder RunResults.toValue 3 := by
  intro depth hd r
  have inside : 2 < depth - 1 := by omega
  refine Record.decoder_object (by omega) (by decide) (.refl _) ?_
  refine .seq (.map RunResults.mk ?_) ?_
  · exact .field rfl (CycleResult.decodes.list _ inside r.results)
  · exact .field rfl (SoftFailure.decodes.list _ inside r.failures)

theorem Status.decodes : Decodes Status.decoder Status.toValue 2 := by
  intro depth hd s
  have inside : 1 < depth - 1 := by omega
  have scalar : 0 < depth - 1 := by omega
  obtain ⟨phase, target, completed, failureCount, message, updatedAt⟩ := s
  refine Record.decoder_object (by omega) (by decide) ?_ ?_
  · simp only [List.map_append]
    exact ((((List.Sublist.refl _).append (Record.optionalMember_keys _ target _)).append
      (.refl _)).append (Record.optionalMember_keys _ message _)).append (.refl _)
  -- Which member is found does not depend on those that may be left out before it.
  refine .seq (.seq (.seq (.seq (.seq (.map Status.mk ?_) ?_) ?_) ?_) ?_) ?_
  · exact .field rfl (Phase.decodes _ scalar phase)
  · refine .optionalField ?_ (fun _ => Document.noConfusion) (decodes_count _ scalar)
    cases target <;> cases message <;> rfl
  · refine .field ?_ (decodes_count.list _ inside completed)
    cases target <;> rfl
  · refine .field ?_ (decodes_size _ scalar failureCount)
    cases target <;> rfl
  · refine .optionalField ?_ (fun _ => Document.noConfusion) (decodes_text _ _ scalar)
    cases target <;> cases message <;> rfl
  · refine .field ?_ (decodes_int64 _ scalar updatedAt)
    cases target <;> cases message <;> rfl

end FleetScaling
