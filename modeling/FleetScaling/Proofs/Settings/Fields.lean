import FleetScaling.Proofs.Json.Accepted
import FleetScaling.Proofs.Settings.Places
import FleetScaling.Proofs.Traces

/-!
# Fields of the settings

Settings are read member by member, with a usual value for most of what is not there. `Reads` says
of each member what it is read as, so that a table whose members differ in one name is read like
another but for this one (`Reads.put_targets`, `Reads.put_minutes`, `Reads.put_ssh`), and a member
that cannot be read is why nothing is (`Reads.read_targets_error`, `Reads.read_ssh_error`).
-/

namespace FleetScaling

open Setting

namespace BenchSettings

/-- The members of a table are those of some settings, where what is not there has its usual
value. -/
structure Reads (members : Members) (s : BenchSettings) : Prop where
  cluster : members.read? "cluster_name" 0 toText = .ok (some s.cluster)
  region : (members.read? "region" 1 toText).map (·.getD "us-east-1") = .ok s.region
  os : (members.read? "os" 2 toText).map (·.getD "alinux2") = .ok s.os
  computeNode :
    (members.read? "compute_instance_type" 3 toText).map (·.getD "c5.large") = .ok s.computeNode
  headNode :
    (members.read? "head_node_instance_type" 4 toText).map (·.getD "c5.large") = .ok s.headNode
  strategy : (members.read? "scaling_strategy" 5 toStrategy).map (·.getD .bestEffort) = .ok s.strategy
  targets : (members.read? "scaling_targets" 6 (toList toCount)).map
    (·.getD [1000, 2000, 3000, 4000]) = .ok s.targets
  monitoringMinutes :
    (members.read? "max_monitoring_minutes" 7 toWord).map (·.getD 20) = .ok s.monitoringMinutes
  refillSeconds :
    (members.read? "refill_delay_secs" 8 toWord).map (·.getD 300) = .ok s.refillSeconds
  sampleSeconds :
    (members.read? "sample_interval_secs" 9 toWord).map (·.getD 20) = .ok s.sampleSeconds
  publish : (members.read? "publish_metrics" 10 toBool).map (·.getD true) = .ok s.publish
  baselinePath : (members.read? "baseline_path" 11 toText).map (·.getD "baseline/scaling.json") =
    .ok s.baselinePath
  reportDirectory :
    (members.read? "report_dir" 12 toText).map (·.getD "reports") = .ok s.reportDirectory
  apiPort : (members.read? "api_port" 13 toPort).map (·.getD 8080) = .ok s.apiPort
  ssh : members.read? "ssh" 14 readSsh = .ok (some s.ssh)
  smokeNodes :
    (members.read? "smoke" 15 readSmoke).map (·.getD usualSmokeNodes) = .ok s.smokeNodes

variable {s : BenchSettings} {tree : Setting}

theorem require_eq_ok_iff {α : Type} {members : Members} {name expected : String} {position : Nat}
    {found : Option α} {a : α} :
    members.require name expected position found = .ok a ↔ found = some a := by
  cases found with
  | some b => exact ⟨fun h => congrArg some (Except.ok.inj h), fun h => congrArg _ (Option.some.inj h)⟩
  | none => cases members <;> exact iff_of_false nofun nofun

theorem read_eq_ok_iff : read tree = .ok s ↔ Reads (.named tree.members) s := by
  have known {α : Type} {x : Reading (Option α)} {o : Option α} (usual : α) (h : x = .ok o) :
      x.map (·.getD usual) = .ok (o.getD usual) := by rw [h]; rfl
  unfold read
  simp only [Json.bind_eq_ok_iff, require_eq_ok_iff]
  constructor
  · rintro ⟨_, cluster, _, region, _, os, _, computeNode, _, headNode, _, strategy, _, targets, _,
      minutes, _, refill, _, sample, _, publish, _, baseline, _, reports, _, port, _, ssh, _, smoke,
      _, rfl, _, rfl, h⟩
    cases h
    exact ⟨cluster, known _ region, known _ os, known _ computeNode, known _ headNode,
      known _ strategy, known _ targets, known _ minutes, known _ refill, known _ sample,
      known _ publish, known _ baseline, known _ reports, known _ port, ssh, known _ smoke⟩
  · intro h
    obtain ⟨_, region, eregion⟩ := Json.map_eq_ok_iff.1 h.region
    obtain ⟨_, os, eos⟩ := Json.map_eq_ok_iff.1 h.os
    obtain ⟨_, computeNode, ecomputeNode⟩ := Json.map_eq_ok_iff.1 h.computeNode
    obtain ⟨_, headNode, eheadNode⟩ := Json.map_eq_ok_iff.1 h.headNode
    obtain ⟨_, strategy, estrategy⟩ := Json.map_eq_ok_iff.1 h.strategy
    obtain ⟨_, targets, etargets⟩ := Json.map_eq_ok_iff.1 h.targets
    obtain ⟨_, minutes, eminutes⟩ := Json.map_eq_ok_iff.1 h.monitoringMinutes
    obtain ⟨_, refill, erefill⟩ := Json.map_eq_ok_iff.1 h.refillSeconds
    obtain ⟨_, sample, esample⟩ := Json.map_eq_ok_iff.1 h.sampleSeconds
    obtain ⟨_, publish, epublish⟩ := Json.map_eq_ok_iff.1 h.publish
    obtain ⟨_, baseline, ebaseline⟩ := Json.map_eq_ok_iff.1 h.baselinePath
    obtain ⟨_, reports, ereports⟩ := Json.map_eq_ok_iff.1 h.reportDirectory
    obtain ⟨_, port, eport⟩ := Json.map_eq_ok_iff.1 h.apiPort
    obtain ⟨_, smoke, esmoke⟩ := Json.map_eq_ok_iff.1 h.smokeNodes
    refine ⟨_, h.cluster, _, region, _, os, _, computeNode, _, headNode, _, strategy, _, targets, _,
      minutes, _, refill, _, sample, _, publish, _, baseline, _, reports, _, port, _, h.ssh, _, smoke,
      _, rfl, _, rfl, ?_⟩
    simp only [eregion, eos, ecomputeNode, eheadNode, estrategy, etargets, eminutes, erefill, esample,
      epublish, ebaseline, ereports, eport, esmoke]

/-- The members of a structure say how the head node is reached. -/
structure ReadsSsh (members : Members) (h : HeadNodeSettings) : Prop where
  host : members.read? "host" 0 toText = .ok (some h.host)
  user : (members.read? "user" 1 toText).map (·.getD "ec2-user") = .ok h.user
  keyPath : (members.read? "key_path" 2 toText?).map (·.getD none) = .ok h.keyPath

section

variable {x : Setting} {members : Members} {h : HeadNodeSettings}

/-- Once the host is known, the other members are read. -/
theorem readSsh_of_host {host : String} (shape : x.structureOf "SshSettings" = .ok members)
    (known : members.read? "host" 0 toText = .ok (some host)) :
    readSsh x = members.read? "user" 1 toText >>= fun user =>
      members.read? "key_path" 2 toText? >>= fun keyPath =>
        .ok ⟨host, user.getD "ec2-user", keyPath.getD none⟩ := by
  unfold readSsh
  rw [shape]
  show (members.read? "host" 0 toText >>= _) = _
  rw [known]
  cases members <;> rfl

/-- The host is missed, if not at once then after the other members are read. -/
theorem readSsh_of_no_host (shape : x.structureOf "SshSettings" = .ok members)
    (unknown : members.read? "host" 0 toText = .ok none) : readSsh x ≠ .ok h := by
  unfold readSsh
  rw [shape]
  show (members.read? "host" 0 toText >>= _) ≠ _
  rw [unknown]
  cases members with
  | listed items => exact nofun
  | named members =>
    intro read
    obtain ⟨_, ⟨⟩, read⟩ := Json.bind_eq_ok_iff.1 read
    obtain ⟨_, -, read⟩ := Json.bind_eq_ok_iff.1 read
    obtain ⟨_, -, read⟩ := Json.bind_eq_ok_iff.1 read
    cases read

theorem readSsh_eq_ok_iff : readSsh x = .ok h ↔
    ∃ members, x.structureOf "SshSettings" = .ok members ∧ ReadsSsh members h := by
  constructor
  · intro read
    obtain ⟨members, shape, rest⟩ := Json.bind_eq_ok_iff.1 read
    obtain ⟨host, found, -⟩ := Json.bind_eq_ok_iff.1 rest
    refine ⟨members, shape, ?_⟩
    cases host with
    | none => exact absurd read (readSsh_of_no_host shape found)
    | some host =>
      rw [readSsh_of_host shape found] at read
      obtain ⟨user, huser, read⟩ := Json.bind_eq_ok_iff.1 read
      obtain ⟨keyPath, hkeyPath, read⟩ := Json.bind_eq_ok_iff.1 read
      cases read
      exact ⟨found, congrArg (Except.map _) huser, congrArg (Except.map _) hkeyPath⟩
  · rintro ⟨members, shape, reads⟩
    obtain ⟨user, huser, euser⟩ := Json.map_eq_ok_iff.1 reads.user
    obtain ⟨keyPath, hkeyPath, ekeyPath⟩ := Json.map_eq_ok_iff.1 reads.keyPath
    rw [readSsh_of_host shape reads.host, huser]
    show (members.read? "key_path" 2 toText? >>= _) = _
    rw [hkeyPath]
    show Except.ok (HeadNodeSettings.mk _ (user.getD _) (keyPath.getD none)) = _
    rw [euser, ekeyPath]

end

/-- Settings of the right kind that keep the rules are what a tree gives. -/
theorem ofTree_eq_ok_iff : ofTree tree = .ok s ↔
    Reads (.named tree.members) s ∧ s.check = .ok () := by
  rw [← read_eq_ok_iff]
  unfold ofTree
  cases hread : read tree with
  | error e => exact iff_of_false nofun nofun
  | ok settings =>
    show (settings.check >>= fun _ => .ok settings) = .ok s ↔ _
    rw [Json.bind_eq_ok_iff]
    constructor
    · rintro ⟨_, hcheck, ⟨⟩⟩
      exact ⟨rfl, hcheck⟩
    · rintro ⟨⟨⟩, hcheck⟩
      exact ⟨(), hcheck, rfl⟩

theorem check_eq_ok_iff : s.check = .ok () ↔ s.targets ≠ [] ∧ s.sampleSeconds ≠ 0 := by
  unfold check
  cases s.targets with
  | nil => exact iff_of_false nofun fun h => h.1 rfl
  | cons t ts =>
    show (if s.sampleSeconds = 0 then _ else _) = _ ↔ _
    by_cases zero : s.sampleSeconds = 0
    · rw [if_pos zero]
      exact iff_of_false nofun fun h => h.2 zero
    · rw [if_neg zero]
      exact iff_of_true rfl ⟨List.cons_ne_nil _ _, zero⟩

/-- A tree that cannot be read gives no settings. -/
theorem ofTree_of_error {e : SettingError} (h : read tree = .error e) :
    ofTree tree = .error (Failure.within "Invalid bench configuration" (.other e.message)) := by
  unfold ofTree
  rw [h]
  rfl

/-! ## Another member -/

section

variable {members members' : List (String × Setting)} {name : String}

theorem read?_named_congr {α : Type} (h : members'.lookup name = members.lookup name)
    (position : Nat) (f : Setting → Reading α) :
    (Members.named members').read? name position f = (Members.named members).read? name position f := by
  unfold Members.read?
  dsimp only
  rw [h]

theorem read?_named_of_lookup {α : Type} {x : Setting} (h : members'.lookup name = some x)
    (position : Nat) (f : Setting → Reading α) : (Members.named members').read? name position f =
      ((f x).mapError (·.under name)).map some := by
  unfold Members.read?
  dsimp only
  rw [h]

theorem read?_of_agreeOff {α : Type} (off : AgreeOff name members members') {k : String} (hk : k ≠ name)
    (position : Nat) (f : Setting → Reading α) :
    (Members.named members').read? k position f = (Members.named members).read? k position f :=
  read?_named_congr (off k hk) position f

/-- Other targets. -/
theorem Reads.put_targets (h : Reads (.named members) s) {ts : List UInt32}
    (off : AgreeOff "scaling_targets" members members')
    (there : ((Members.named members').read? "scaling_targets" 6 (toList toCount)).map
      (·.getD [1000, 2000, 3000, 4000]) = .ok ts) :
    Reads (.named members') { s with targets := ts } := by
  cases h
  constructor <;> first
    | exact there
    | (rw [read?_of_agreeOff off (by decide)]; assumption)

/-- Another budget. -/
theorem Reads.put_minutes (h : Reads (.named members) s) {minutes : UInt64}
    (off : AgreeOff "max_monitoring_minutes" members members')
    (there : ((Members.named members').read? "max_monitoring_minutes" 7 toWord).map (·.getD 20) =
      .ok minutes) :
    Reads (.named members') { s with monitoringMinutes := minutes } := by
  cases h
  constructor <;> first
    | exact there
    | (rw [read?_of_agreeOff off (by decide)]; assumption)

/-- Another way to reach the head node. -/
theorem Reads.put_ssh (h : Reads (.named members) s) {ssh : HeadNodeSettings}
    (off : AgreeOff "ssh" members members')
    (there : (Members.named members').read? "ssh" 14 readSsh = .ok (some ssh)) :
    Reads (.named members') { s with ssh } := by
  cases h
  constructor <;> first
    | exact there
    | (rw [read?_of_agreeOff off (by decide)]; assumption)

/-- Nothing can be read if the targets cannot. -/
theorem Reads.read_targets_error (h : Reads (.named members) s) {source : Option String}
    {e : SettingError} (off : AgreeOff "scaling_targets" members members')
    (there : (Members.named members').read? "scaling_targets" 6 (toList toCount) = .error e) :
    read (.table source members') = .error e := by
  obtain ⟨_, region, -⟩ := Json.map_eq_ok_iff.1 h.region
  obtain ⟨_, os, -⟩ := Json.map_eq_ok_iff.1 h.os
  obtain ⟨_, computeNode, -⟩ := Json.map_eq_ok_iff.1 h.computeNode
  obtain ⟨_, headNode, -⟩ := Json.map_eq_ok_iff.1 h.headNode
  obtain ⟨_, strategy, -⟩ := Json.map_eq_ok_iff.1 h.strategy
  have cluster := h.cluster
  rw [← read?_of_agreeOff off (by decide)] at cluster region os computeNode headNode strategy
  simp only [read, Setting.members, bind, Except.bind, cluster, region, os, computeNode, headNode,
    strategy, there]

/-- Nothing can be read if it is unknown how the head node is reached. -/
theorem Reads.read_ssh_error (h : Reads (.named members) s) {source : Option String}
    {e : SettingError} (off : AgreeOff "ssh" members members')
    (there : (Members.named members').read? "ssh" 14 readSsh = .error e) :
    read (.table source members') = .error e := by
  obtain ⟨_, region, -⟩ := Json.map_eq_ok_iff.1 h.region
  obtain ⟨_, os, -⟩ := Json.map_eq_ok_iff.1 h.os
  obtain ⟨_, computeNode, -⟩ := Json.map_eq_ok_iff.1 h.computeNode
  obtain ⟨_, headNode, -⟩ := Json.map_eq_ok_iff.1 h.headNode
  obtain ⟨_, strategy, -⟩ := Json.map_eq_ok_iff.1 h.strategy
  obtain ⟨_, targets, -⟩ := Json.map_eq_ok_iff.1 h.targets
  obtain ⟨_, minutes, -⟩ := Json.map_eq_ok_iff.1 h.monitoringMinutes
  obtain ⟨_, refill, -⟩ := Json.map_eq_ok_iff.1 h.refillSeconds
  obtain ⟨_, sample, -⟩ := Json.map_eq_ok_iff.1 h.sampleSeconds
  obtain ⟨_, publish, -⟩ := Json.map_eq_ok_iff.1 h.publish
  obtain ⟨_, baseline, -⟩ := Json.map_eq_ok_iff.1 h.baselinePath
  obtain ⟨_, reports, -⟩ := Json.map_eq_ok_iff.1 h.reportDirectory
  obtain ⟨_, port, -⟩ := Json.map_eq_ok_iff.1 h.apiPort
  have cluster := h.cluster
  rw [← read?_of_agreeOff off (by decide)] at cluster region os computeNode headNode strategy targets
  rw [← read?_of_agreeOff off (by decide)] at minutes refill sample publish baseline reports port
  simp only [read, Setting.members, bind, Except.bind, cluster, region, os, computeNode, headNode,
    strategy, targets, minutes, refill, sample, publish, baseline, reports, port, there]

end

/-! ## A settings file -/

/-- A file that says no more than it has to. -/
def smallFiles : Files :=
  ⟨[(["bench.toml"], .file (some "cluster_name = \"bench\"\n[ssh]\nhost = \"10.0.0.5\"\n"))]⟩

/-- The settings of this file. -/
def smallSettings : BenchSettings where
  cluster := "bench"
  region := "us-east-1"
  os := "alinux2"
  computeNode := "c5.large"
  headNode := "c5.large"
  strategy := .bestEffort
  targets := [1000, 2000, 3000, 4000]
  monitoringMinutes := 20
  refillSeconds := 300
  sampleSeconds := 20
  publish := true
  baselinePath := "baseline/scaling.json"
  reportDirectory := "reports"
  apiPort := 8080
  ssh := ⟨"10.0.0.5", "ec2-user", none⟩
  smokeNodes := usualSmokeNodes

theorem load_smallFiles : load smallFiles (some "bench.toml") [] = .ok smallSettings :=
  eq_ok_of_toOption (by decide +kernel)

end BenchSettings

end FleetScaling
