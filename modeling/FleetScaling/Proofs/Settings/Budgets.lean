import FleetScaling.Bench.Program
import FleetScaling.Proofs.Collector.Schedule
import FleetScaling.Proofs.Run.Protocol
import FleetScaling.Proofs.Settings.Fields
import FleetScaling.Proofs.Settings.Guesses

/-!
# Budgets of monitoring windows

The budget of a monitoring window is set in minutes, and its seconds are counted in a word of 64
bits. The number of minutes is never judged: a variable can set any (`load_minutes`). Where the
seconds do not fit into a word, there is no budget (`budget_eq`), and the program panics as soon as a
stress test is to begin (`stressTest_panics`). Long before that, a window has no deadline, and ends
before any time has passed (`timeSpent_of_not_showable`).

`KeepsBudget` says that all is well: the minutes that were set are those of the context, of the
windows and of the placeholder jobs of every run, and fewer minutes give no longer windows. That holds
exactly if the clock can show when such a window ends (`keepsBudget_iff`).
-/

namespace FleetScaling

open Text Setting Time

/-! ## Calls of a run -/

section

variable {ω : Type} {context : RunContext} {site : Site ω} {world : RunWorld ω}

/-- All calls of a run but the first are those of its cycles. -/
theorem mem_cycleCalls_of_called {call : Call}
    (h : call ∈ callNotes (stressTest context site world).notes)
    (later : call ≠ .disableProtectedMode) :
    ∃ target course, call ∈ context.cycleCalls site.fleet.name target course := by
  obtain ⟨cycles, subset⟩ := stressTest_calls_subset context site world
  obtain hfirst | ⟨cycle, -, hcall⟩ := context.mem_calls_iff.1 (subset h)
  · exact absurd hfirst later
  · exact ⟨cycle.1, cycle.2, hcall⟩

/-- The placeholder job of a cycle sleeps for the budget. -/
theorem command_of_submitted {job : Job}
    (h : .submit job ∈ callNotes (stressTest context site world).notes) :
    job.command = "srun sleep " ++ toString context.budget.seconds := by
  obtain ⟨target, course, hcall⟩ := mem_cycleCalls_of_called h nofun
  simp only [RunContext.cycleCalls, List.mem_cons, List.not_mem_nil, reduceCtorEq, Call.submit.injEq,
    or_false, false_or] at hcall
  rw [hcall]

/-- Both windows of a cycle have the budget. -/
theorem budget_of_collected {window : Window}
    (h : .collect window ∈ callNotes (stressTest context site world).notes) :
    window.budget = context.budget := by
  obtain ⟨target, course, hcall⟩ := mem_cycleCalls_of_called h nofun
  simp only [RunContext.cycleCalls, List.mem_cons, List.not_mem_nil, reduceCtorEq, Call.collect.injEq,
    or_false, false_or] at hcall
  obtain rfl | rfl := hcall <;> rfl

end

/-! ## Length of a window -/

/-- How long a window takes, of which the sampler gets to see what was prepared. -/
def timeSpent (looks : Nat → Look) (uptime : Duration) (interval : Interval) (window : Window) :
    Duration :=
  totalWait ((Feed.sampler uptime interval Sampler.usualPatience true).collect window
    ⟨looks, []⟩).notes

section

variable {looks : Nat → Look} {uptime : Duration} {interval : Interval} {window : Window}

theorem timeSpent_mono {larger : Window} (told : (uptime + larger.budget).Showable)
    (target : larger.target = window.target) (le : window.budget ≤ larger.budget) :
    timeSpent looks uptime interval window ≤ timeSpent looks uptime interval larger :=
  Sampler.collect_wait_mono (s := Feed.sampler uptime interval Sampler.usualPatience true)
    told (Feed.sample_aside uptime interval Sampler.usualPatience true larger) Feed.clock_aside rfl
    target.symm le

/-- A window without a deadline ends before any time has passed. -/
theorem timeSpent_of_not_showable (late : ¬(uptime + window.budget).Showable) :
    timeSpent looks uptime interval window = .zero := by
  unfold timeSpent
  rw [collect_of_not_showable looks uptime interval Sampler.usualPatience true window late]
  rfl

/-- A window whose target is never seen takes its whole budget. -/
theorem timeSpent_of_never (told : (uptime + window.budget).Showable)
    (never : ∀ i, ¬window.Reached (looks i).sample.toOption) :
    timeSpent looks uptime interval window = window.budget := by
  obtain ⟨k, last, -, waited, -⟩ :=
    keepsSchedule_of_showable looks uptime interval Sampler.usualPatience true window told
  have last : k = window.budget.nanos ⌈/⌉ interval.length.nanos := last.1.resolve_right (never k)
  have used : window.budget.nanos ≤ k * interval.length.nanos := by
    rw [last, Nat.mul_comm]
    exact le_smul_ceilDiv interval.pos
  exact congrArg Duration.mk (waited.trans (Nat.min_eq_right used))

end

namespace BenchSettings

/-! ## Seconds in a word -/

/-- The most minutes whose seconds fit into a word. -/
def longestMonitoring : Nat := (2 ^ 64 - 1) / 60

theorem mul_sixty_lt_iff {minutes : Nat} : minutes * 60 < 2 ^ 64 ↔ minutes ≤ longestMonitoring := by
  unfold longestMonitoring
  omega

variable {s : BenchSettings}

/-- There is a budget exactly if its seconds fit into a word. -/
theorem budget_eq (s : BenchSettings) : s.budget =
    if s.monitoringMinutes.toNat ≤ longestMonitoring then
      .ok (.ofSeconds (s.monitoringMinutes.toNat * 60))
    else .error .product := by
  unfold budget checkedMul
  have small : s.monitoringMinutes.toNat * (60 : UInt64).toNat < UInt64.size ↔
      s.monitoringMinutes.toNat ≤ longestMonitoring := mul_sixty_lt_iff
  by_cases h : s.monitoringMinutes.toNat ≤ longestMonitoring
  · have fits := small.2 h
    have seconds : (s.monitoringMinutes * 60).toNat = s.monitoringMinutes.toNat * 60 :=
      (UInt64.toNat_mul _ _).trans (Nat.mod_eq_of_lt fits)
    rw [if_pos h, if_pos fits, ← seconds]
    rfl
  · rw [if_neg h, if_neg (mt small.1 h)]
    rfl

theorem context_of_le (h : s.monitoringMinutes.toNat ≤ longestMonitoring) :
    s.context = .ok (s.contextWith (.ofSeconds (s.monitoringMinutes.toNat * 60))) := by
  unfold context
  rw [budget_eq, if_pos h]
  rfl

theorem ofSeconds_le_ofSeconds {m n : Nat} (h : m ≤ n) :
    Duration.ofSeconds m ≤ Duration.ofSeconds n := Nat.mul_le_mul_left _ h

theorem seconds_ofSeconds (n : Nat) : (Duration.ofSeconds n).seconds = n :=
  Nat.mul_div_cancel_left n (by decide)

/-- The seconds of a budget that the clock can show fit into a word. -/
theorem minutes_of_showable {uptime : Duration} {minutes : Nat}
    (told : (uptime + .ofSeconds (minutes * 60)).Showable) : minutes ≤ longestMonitoring := by
  have short : ((Duration.ofSeconds (minutes * 60)).seconds : Int) ≤ 2 ^ 63 - 1 := showable_of_add told
  rw [seconds_ofSeconds] at short
  exact mul_sixty_lt_iff.1 (by omega)

/-- Without a budget, the program panics before a stress test has asked anyone for anything. -/
theorem stressTest_panics {ω : Type} (m : Machine ω) (world : RunWorld ω)
    (large : longestMonitoring < s.monitoringMinutes.toNat) : BenchMode.stress.test s m world =
      ⟨.error (.of (.panicked .product)), world, [.own (.panicked .product)]⟩ := by
  have context : s.context = .error .product := by
    unfold context
    rw [budget_eq, if_neg (Nat.not_le.2 large)]
    rfl
  show judgedStressTest s m world = _
  unfold judgedStressTest
  rw [context]
  rfl

/-! ## Minutes from the environment -/

/-- A number is read as itself. -/
theorem toWord_ofVariable {n : Nat} (small : n < 2 ^ 63) :
    toWord (ofVariable "scaling_targets" "max_monitoring_minutes" (toString n)) =
      .ok (UInt64.ofNat n) := by
  have natural : toNatural (.scalar (some environmentName) (.integer n)) = .ok n := by
    unfold toNatural
    dsimp only
    rw [if_pos (Int.natCast_nonneg n), Int.toNat_natCast]
  unfold ofVariable
  rw [guess?_toString small]
  exact congrArg (Except.map UInt64.ofNat) natural

variable {files : Files} {path : Option String} {environment : List (String × String)}

/-- Whatever else the settings are, any number of minutes is accepted. -/
theorem load_minutes (accepted : load files path environment = .ok s) {n : Nat}
    (small : n < 2 ^ 63) :
    load files path (environment ++ [("SCALING_MAX_MONITORING_MINUTES", toString n)]) =
      .ok { s with monitoringMinutes := UInt64.ofNat n } := by
  rw [load_eq] at accepted
  obtain ⟨tree, rest, accepted⟩ := Json.bind_eq_ok_iff.1 accepted
  obtain ⟨reads, check⟩ := ofTree_eq_ok_iff.1 accepted
  have leads : variablePath? "scaling_" "SCALING_MAX_MONITORING_MINUTES" =
      some "max_monitoring_minutes" := by decide +kernel
  have steps : stepsOf "max_monitoring_minutes" =
      ["max_monitoring_minutes"].map Step.member := by decide +kernel
  rw [← List.append_nil environment] at rest
  obtain ⟨new, gathered, stands⟩ := exists_gathered_variable (toString n) rest leads steps
    (by decide +kernel) (List.cons_ne_nil _ _) nofun
  obtain ⟨source, members, _, rfl, off, found, last⟩ := stands.exists_table
  obtain rfl := last.eq
  have there := read?_named_of_lookup found 7 toWord
  rw [toWord_ofVariable small] at there
  rw [load_of_gathered gathered, ofTree_eq_ok_iff]
  exact ⟨reads.put_minutes off (congrArg (Except.map _) there), check⟩

/-! ## Budgets that are kept -/

/-- On a machine that has been up for a time, the settings give every window as many minutes as they
say. -/
structure KeepsBudget (uptime : Duration) (s : BenchSettings) : Prop where
  fits : s.monitoringMinutes.toNat * 60 < 2 ^ 64
  budget : s.budget = .ok (.ofSeconds (s.monitoringMinutes.toNat * 60))
  context : ∃ context, s.context = .ok context ∧
    context.budget = .ofSeconds (s.monitoringMinutes.toNat * 60)
  /-- Every placeholder job of a run sleeps so many seconds. -/
  jobs {context : RunContext} {ω : Type} (site : Site ω) (world : RunWorld ω) (job : Job) :
    s.context = .ok context → .submit job ∈ callNotes (stressTest context site world).notes →
      job.command = "srun sleep " ++ toString (s.monitoringMinutes.toNat * 60)
  /-- Every window of a run has this budget. -/
  windows {context : RunContext} {ω : Type} (site : Site ω) (world : RunWorld ω)
    (window : Window) :
    s.context = .ok context → .collect window ∈ callNotes (stressTest context site world).notes →
      window.budget = .ofSeconds (s.monitoringMinutes.toNat * 60)
  /-- Other settings with no more minutes have no larger budget, and none of their windows takes
  longer, whatever there is to see in it. -/
  longer {files : Files} {path : Option String} {environment : List (String × String)}
    {s' : BenchSettings} : load files path environment = .ok s' →
    s'.monitoringMinutes ≤ s.monitoringMinutes →
    ∃ context' context, s'.context = .ok context' ∧ s.context = .ok context ∧
      context'.budget ≤ context.budget ∧
      ∀ looks interval cluster target,
        timeSpent looks uptime interval (context'.window cluster target) ≤
          timeSpent looks uptime interval (context.window cluster target)

section Kept

variable {uptime : Duration}

theorem keepsBudget_of_showable
    (told : (uptime + .ofSeconds (s.monitoringMinutes.toNat * 60)).Showable) :
    KeepsBudget uptime s := by
  have h : s.monitoringMinutes.toNat ≤ longestMonitoring := minutes_of_showable told
  have there : s.context = _ := context_of_le h
  refine ⟨mul_sixty_lt_iff.2 h, (budget_eq s).trans (if_pos h), ⟨_, there, rfl⟩, ?_, ?_, ?_⟩
  · intro context ω site world job hcontext called
    cases hcontext.symm.trans there
    have slept := command_of_submitted called
    rwa [contextWith, seconds_ofSeconds] at slept
  · intro context ω site world window hcontext called
    cases hcontext.symm.trans there
    exact budget_of_collected called
  · intro files path environment s' _ fewer
    have fewer : s'.monitoringMinutes.toNat ≤ s.monitoringMinutes.toNat := fewer
    have le := ofSeconds_le_ofSeconds (Nat.mul_le_mul_right 60 fewer)
    exact ⟨_, _, context_of_le (fewer.trans h), there, le, fun _ _ _ _ => timeSpent_mono told rfl le⟩

/-- A budget that is kept has a deadline: otherwise a window of one minute would take longer. -/
theorem showable_of_keepsBudget (accepted : load files path environment = .ok s)
    (running : (uptime + .ofSeconds 60).Showable) (kept : KeepsBudget uptime s) :
    (uptime + .ofSeconds (s.monitoringMinutes.toNat * 60)).Showable := by
  by_contra late
  have positive : 1 ≤ s.monitoringMinutes.toNat := by
    by_contra none
    refine late (running.of_le (Nat.add_le_add_left (ofSeconds_le_ofSeconds ?_) _))
    omega
  -- settings with a single minute are accepted too; nothing is ever seen in their windows
  have minute := load_minutes accepted (n := 1) (by decide)
  obtain ⟨brief, context, hbrief, hcontext, -, longer⟩ := kept.longer minute positive
  have brief_budget : brief.budget = .ofSeconds 60 := by
    have single : (1 : UInt64).toNat ≤ longestMonitoring := by decide
    cases hbrief.symm.trans (context_of_le single)
    rfl
  have budget : context.budget = .ofSeconds (s.monitoringMinutes.toNat * 60) := by
    cases hcontext.symm.trans (context_of_le (mul_sixty_lt_iff.1 kept.fits))
    rfl
  let blind : Look := ⟨.error (.other ""), .error (.other ""), .epoch⟩
  have whole : timeSpent (fun _ => blind) uptime Sampler.usualInterval (brief.window "" 1) =
      brief.budget := by
    refine timeSpent_of_never ?_ fun _ => ?_
    · show (uptime + brief.budget).Showable
      rwa [brief_budget]
    · rintro ⟨_, ⟨⟩, _⟩
  have nothing : timeSpent (fun _ => blind) uptime Sampler.usualInterval (context.window "" 1) =
      .zero := by
    refine timeSpent_of_not_showable ?_
    show ¬(uptime + context.budget).Showable
    rwa [budget]
  have order := longer (fun _ => blind) Sampler.usualInterval "" 1
  rw [whole, nothing, brief_budget] at order
  exact absurd order (by decide)

end Kept

/-- **Budgets of monitoring windows.** Settings that are accepted keep their budget exactly if the
clock can show when a window with it ends; the machine is one that can be up for another minute. Where
the seconds of the budget do not even fit into a word, there is no budget, and the program panics
before a stress test has asked anyone for anything. No number of minutes is refused for any of that:
whatever settings are accepted, they are so with any other number too. -/
theorem keepsBudget_iff {uptime : Duration} (running : (uptime + .ofSeconds 60).Showable)
    (accepted : load files path environment = .ok s) :
    (KeepsBudget uptime s ↔
      (uptime + .ofSeconds (s.monitoringMinutes.toNat * 60)).Showable) ∧
    (s.budget = if s.monitoringMinutes.toNat ≤ longestMonitoring then
        .ok (.ofSeconds (s.monitoringMinutes.toNat * 60))
      else .error .product) ∧
    (longestMonitoring < s.monitoringMinutes.toNat →
      ∀ (ω : Type) (m : Machine ω) (world : RunWorld ω), BenchMode.stress.test s m world =
        ⟨.error (.of (.panicked .product)), world, [.own (.panicked .product)]⟩) ∧
    ∀ n < 2 ^ 63,
      load files path (environment ++ [("SCALING_MAX_MONITORING_MINUTES", toString n)]) =
        .ok { s with monitoringMinutes := UInt64.ofNat n } :=
  ⟨⟨showable_of_keepsBudget accepted running, keepsBudget_of_showable⟩, budget_eq s,
    fun large _ m world => stressTest_panics m world large, fun _ small => load_minutes accepted small⟩

/-- The usual budget is kept, also if a variable sets it anew. -/
theorem keepsBudget_twenty :
    let uptime : Duration := .ofSeconds 3600
    load smallFiles (some "bench.toml") [] = .ok smallSettings ∧
      (uptime + .ofSeconds 60).Showable ∧ (uptime + .ofSeconds 1200).Showable ∧
      KeepsBudget uptime smallSettings ∧ smallSettings.budget = .ok (.ofSeconds 1200) ∧
      load smallFiles (some "bench.toml") [("SCALING_MAX_MONITORING_MINUTES", "20")] =
        .ok smallSettings := by
  intro uptime
  have running : (uptime + .ofSeconds 60).Showable := by decide
  have told : (uptime + .ofSeconds 1200).Showable := by decide
  obtain ⟨kept, budget, -, anew⟩ := keepsBudget_iff running load_smallFiles
  exact ⟨load_smallFiles, running, told, kept.2 told, budget, anew 20 (by decide)⟩

/-- One minute more than fits leaves no budget at all. -/
theorem not_keepsBudget_over : ∃ s, load smallFiles (some "bench.toml")
      [("SCALING_MAX_MONITORING_MINUTES", "307445734561825861")] = .ok s ∧
    s.monitoringMinutes = 307445734561825861 ∧ s.budget = .error .product ∧
    s.context.toOption = none ∧ ∀ uptime, ¬KeepsBudget uptime s := by
  have loaded : load smallFiles (some "bench.toml")
      [("SCALING_MAX_MONITORING_MINUTES", "307445734561825861")] =
        .ok { smallSettings with monitoringMinutes := 307445734561825861 } :=
    eq_ok_of_toOption (by decide +kernel)
  exact ⟨_, loaded, rfl, rfl, rfl, fun _ kept => absurd kept.fits (by decide)⟩

end BenchSettings

end FleetScaling
