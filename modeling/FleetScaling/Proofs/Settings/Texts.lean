import FleetScaling.Proofs.Settings.Fields
import FleetScaling.Proofs.Settings.Guesses

/-!
# Texts from the environment

Variables can set the texts among the settings. A text is first taken for a truth value or a number
where it reads as one, and becomes a text again as that is written: a cluster of the name `007` is
looked for under the name `7`. So the settings have the text that a variable was set to exactly if
the text is told again as it is (`text_of_variable_iff`).
-/

namespace FleetScaling

open Setting

/-- The texts among the settings that say what the bench works on. -/
inductive TextField
  | cluster
  | region
  | os
  | computeNode
  | headNode
  | host
  | user
  deriving DecidableEq

namespace TextField

/-- The variable that sets a text. -/
def variableName : TextField → String
  | cluster => "SCALING_CLUSTER_NAME"
  | region => "SCALING_REGION"
  | os => "SCALING_OS"
  | computeNode => "SCALING_COMPUTE_INSTANCE_TYPE"
  | headNode => "SCALING_HEAD_NODE_INSTANCE_TYPE"
  | host => "SCALING_SSH__HOST"
  | user => "SCALING_SSH__USER"

/-- The path that the variable names. -/
def place : TextField → String
  | cluster => "cluster_name"
  | region => "region"
  | os => "os"
  | computeNode => "compute_instance_type"
  | headNode => "head_node_instance_type"
  | host => "ssh.host"
  | user => "ssh.user"

/-- The names on the path. -/
def names : TextField → List String
  | cluster => ["cluster_name"]
  | region => ["region"]
  | os => ["os"]
  | computeNode => ["compute_instance_type"]
  | headNode => ["head_node_instance_type"]
  | host => ["ssh", "host"]
  | user => ["ssh", "user"]

/-- The text in some settings. -/
def get : TextField → BenchSettings → String
  | cluster, s => s.cluster
  | region, s => s.region
  | os, s => s.os
  | computeNode, s => s.computeNode
  | headNode, s => s.headNode
  | host, s => s.ssh.host
  | user, s => s.ssh.user

/-- The settings with another text. -/
def put : TextField → BenchSettings → String → BenchSettings
  | cluster, s, text => { s with cluster := text }
  | region, s, text => { s with region := text }
  | os, s, text => { s with os := text }
  | computeNode, s, text => { s with computeNode := text }
  | headNode, s, text => { s with headNode := text }
  | host, s, text => { s with ssh := { s.ssh with host := text } }
  | user, s, text => { s with ssh := { s.ssh with user := text } }

variable (f : TextField) (s : BenchSettings) (text : String)

theorem get_put : f.get (f.put s text) = text := by
  cases f <;> rfl

theorem check_put : (f.put s text).check = s.check := by
  cases f <;> rfl

theorem leads : variablePath? "scaling_" f.variableName = some f.place := by
  cases f <;> decide +kernel

theorem steps : stepsOf f.place = f.names.map Step.member := by
  cases f <;> decide +kernel

theorem plain : ∀ n ∈ f.names, Text.lower n = n := by
  cases f <;> decide +kernel

/-- A text is among the first settings, or it says how the head node is reached. -/
theorem names_cases : (∃ name, f.names = [name]) ∧ f ≠ host ∧ f ≠ user ∨ f = host ∨ f = user := by
  cases f with
  | host => exact Or.inr (Or.inl rfl)
  | user => exact Or.inr (Or.inr rfl)
  | _ => exact Or.inl ⟨⟨_, rfl⟩, nofun, nofun⟩

theorem names_ne_nil : f.names ≠ [] := by
  cases f <;> exact List.cons_ne_nil _ _

theorem place_ne : f.place ≠ "scaling_targets" := by
  cases f <;> decide

end TextField

namespace BenchSettings

section

variable {s : BenchSettings} {members members' : List (String × Setting)} {name w : String}
  {f : TextField}

/-- Another text. -/
theorem Reads.put_text (h : Reads (.named members) s) (hf : f.names = [name])
    (off : AgreeOff name members members')
    (there : ∀ position, (Members.named members').read? name position toText = .ok (some w)) :
    Reads (.named members') (f.put s w) := by
  cases h
  cases f <;> cases hf <;> constructor <;> first
    | exact there _
    | exact congrArg (Except.map _) (there _)
    | (rw [read?_of_agreeOff off (by decide)]; assumption)

/-! ## The head node -/

/-- The settings of the head node are a table. -/
def HasSshTable (tree : Setting) : Prop :=
  ∃ source members, tree.members.lookup "ssh" = some (.table source members)

variable {tree old : Setting} {ssh : HeadNodeSettings}

theorem exists_ssh (h : Reads (.named tree.members) s) :
    ∃ old, tree.members.lookup "ssh" = some old ∧ readSsh old = .ok s.ssh := by
  have read := h.ssh
  unfold Members.read? at read
  dsimp only at read
  cases found : tree.members.lookup "ssh" with
  | none =>
    rw [found] at read
    cases read
  | some old =>
    rw [found] at read
    obtain ⟨_, read, ⟨⟩⟩ := Json.map_eq_ok_iff.1 read
    refine ⟨old, rfl, ?_⟩
    cases hold : readSsh old with
    | ok ssh =>
      rw [hold] at read
      cases read
      rfl
    | error e =>
      rw [hold] at read
      cases read

theorem members_of_not_table (h : ∀ source members, old ≠ .table source members) :
    old.members = [] := by
  cases old with
  | table source members => exact absurd rfl (h source members)
  | _ => rfl

theorem ReadsSsh.put_host (h : ReadsSsh (.named members) ssh) (off : AgreeOff "host" members members')
    (there : (Members.named members').read? "host" 0 toText = .ok (some w)) :
    ReadsSsh (.named members') { ssh with host := w } := by
  refine ⟨there, ?_, ?_⟩
  · rw [read?_of_agreeOff off (by decide)]
    exact h.user
  · rw [read?_of_agreeOff off (by decide)]
    exact h.keyPath

theorem ReadsSsh.put_user (h : ReadsSsh (.named members) ssh) (off : AgreeOff "user" members members')
    (there : (Members.named members').read? "user" 1 toText = .ok (some w)) :
    ReadsSsh (.named members') { ssh with user := w } := by
  refine ⟨?_, congrArg (Except.map _) there, ?_⟩
  · rw [read?_of_agreeOff off (by decide)]
    exact h.host
  · rw [read?_of_agreeOff off (by decide)]
    exact h.keyPath

/-- A host and nothing else. -/
theorem readsSsh_host_alone (off : AgreeOff "host" [] members')
    (there : (Members.named members').read? "host" 0 toText = .ok (some w)) :
    ReadsSsh (.named members') ⟨w, "ec2-user", none⟩ := by
  refine ⟨there, ?_, ?_⟩
  · rw [read?_of_agreeOff off (by decide)]
    rfl
  · rw [read?_of_agreeOff off (by decide)]
    rfl

/-- A user and nothing else: the host is missing. -/
theorem readSsh_user_alone {source : Option String} (off : AgreeOff "user" [] members')
    (there : (Members.named members').read? "user" 1 toText = .ok (some w)) :
    readSsh (.table source members') = .error (.missing "host") := by
  have host : (Members.named members').read? "host" 0 toText = .ok none := by
    rw [read?_of_agreeOff off (by decide)]
    rfl
  have keyPath : (Members.named members').read? "key_path" 2 toText? = .ok none := by
    rw [read?_of_agreeOff off (by decide)]
    rfl
  simp only [readSsh, structureOf, bind, Except.bind, host, there, keyPath, Members.require]

/-! ## A text in its place -/

variable {x new : Setting}

theorem toText_read? {name : String} (found : members'.lookup name = some x)
    (text : toText x = .ok w) (position : Nat) :
    (Members.named members').read? name position toText = .ok (some w) := by
  rw [read?_named_of_lookup found, text]
  rfl

/-- A setting of the head node stands in the table of these settings. -/
theorem exists_inner {m : String} (hold : tree.members.lookup "ssh" = some old)
    (stands : StandsAt x ["ssh", m] tree new) : ∃ source members source' inner,
      new = .table source members ∧ AgreeOff "ssh" tree.members members ∧
      members.lookup "ssh" = some (.table source' inner) ∧ AgreeOff m old.members inner ∧
      inner.lookup m = some x := by
  obtain ⟨source, members, inside, rfl, off, found, rest⟩ := stands.exists_table
  rw [hold] at rest
  obtain ⟨source', inner, _, rfl, off', found', last⟩ := rest.exists_table
  obtain rfl := last.eq
  exact ⟨source, members, source', inner, rfl, off, found, off', found'⟩

theorem Reads.put_inner (h : Reads (.named tree.members) s) {inside : Setting}
    (off : AgreeOff "ssh" tree.members members) (found : members.lookup "ssh" = some inside)
    (read : readSsh inside = .ok ssh) : Reads (.named members) { s with ssh } := by
  refine h.put_ssh off ?_
  rw [read?_named_of_lookup found, read]
  rfl

/-- What is read where a text stands in its place. The head node's settings are a table if the text
is one of them. -/
theorem reads_of_standsAt (h : Reads (.named tree.members) s) (stands : StandsAt x f.names tree new)
    (text : toText x = .ok w) (table : f = .host ∨ f = .user → HasSshTable tree) :
    Reads (.named new.members) (f.put s w) := by
  rcases f.names_cases with ⟨⟨name, hf⟩, -⟩ | hf
  · rw [hf] at stands
    obtain ⟨source, members, _, rfl, off, found, last⟩ := stands.exists_table
    obtain rfl := last.eq
    exact h.put_text hf off (toText_read? found text)
  · obtain ⟨_, old, hold⟩ := table hf
    obtain ⟨_, hold', read⟩ := exists_ssh h
    cases hold.symm.trans hold'
    obtain ⟨_, ⟨⟩, reads⟩ := readSsh_eq_ok_iff.1 read
    rcases hf with rfl | rfl
    · obtain ⟨_, members, _, inner, rfl, off, found, off', found'⟩ := exists_inner hold stands
      exact h.put_inner off found
        (readSsh_eq_ok_iff.2 ⟨_, rfl, reads.put_host off' (toText_read? found' text 0)⟩)
    · obtain ⟨_, members, _, inner, rfl, off, found, off', found'⟩ := exists_inner hold stands
      exact h.put_inner off found
        (readSsh_eq_ok_iff.2 ⟨_, rfl, reads.put_user off' (toText_read? found' text 1)⟩)

/-- A host that is set where the head node's settings are a list is all that is left of them. -/
theorem reads_of_host_alone (h : Reads (.named tree.members) s)
    (stands : StandsAt x ["ssh", "host"] tree new) (text : toText x = .ok w)
    (list : ¬HasSshTable tree) :
    Reads (.named new.members) { s with ssh := ⟨w, "ec2-user", none⟩ } := by
  obtain ⟨old, hold, -⟩ := exists_ssh h
  have empty : old.members = [] :=
    members_of_not_table fun source members e => list ⟨source, members, e ▸ hold⟩
  obtain ⟨_, members, _, inner, rfl, off, found, off', found'⟩ := exists_inner hold stands
  rw [empty] at off'
  exact h.put_inner off found
    (readSsh_eq_ok_iff.2 ⟨_, rfl, readsSsh_host_alone off' (toText_read? found' text 0)⟩)

/-- A user that is set where the head node's settings are a list is all that is left of them. -/
theorem read_of_user_alone (h : Reads (.named tree.members) s)
    (stands : StandsAt x ["ssh", "user"] tree new) (text : toText x = .ok w)
    (list : ¬HasSshTable tree) : read new = .error (.missing "host") := by
  obtain ⟨old, hold, -⟩ := exists_ssh h
  have empty : old.members = [] :=
    members_of_not_table fun source members e => list ⟨source, members, e ▸ hold⟩
  obtain ⟨_, members, _, inner, rfl, off, found, off', found'⟩ := exists_inner hold stands
  rw [empty] at off'
  refine h.read_ssh_error off ?_
  rw [read?_named_of_lookup found, readSsh_user_alone off' (toText_read? found' text 1)]
  rfl

end

/-! ## Variables -/

variable {files : Files} {path : Option String} {before after : List (String × String)}
  {s : BenchSettings}

/-- A file and an environment have the settings of the head node in a table. -/
def SshInTable (files : Files) (path : Option String) (environment : List (String × String)) : Prop :=
  ∃ tree, gathered files path environment = .ok tree ∧ HasSshTable tree

/-- **Texts from the environment.** A file and an environment are valid, and a variable is set to
some text besides. The text is told again, and loading gives the settings with what has become of
it, provided that the head node's settings are a table if the text is one of these. In place of a
list, a host stands alone, and a user alone is refused. So loading gives the very text exactly if
that is told again as it is, with a table for a user. -/
theorem text_of_variable_iff (f : TextField) (v : String)
    (valid : load files path (before ++ after) = .ok s)
    (avoid : ∀ other ∈ after, Avoids f.names other.1) :
    let loaded := load files path (before ++ (f.variableName, v) :: after)
    let table := SshInTable files path (before ++ after)
    ∃ w, Retold v w ∧
      ((f = .host ∨ f = .user → table) → loaded = .ok (f.put s w)) ∧
      (f = .host → ¬table → loaded = .ok { s with ssh := ⟨w, "ec2-user", none⟩ }) ∧
      (f = .user → ¬table → loaded = .error (Failure.within "Invalid bench configuration"
        (.other "missing field \x60host\x60"))) ∧
      ((∃ s', loaded = .ok s' ∧ f.get s' = v) ↔ Retold v v ∧ (f = .user → table)) := by
  intro loaded table
  obtain ⟨w, retold⟩ := exists_retold v
  rw [load_eq] at valid
  obtain ⟨tree, rest, valid⟩ := Json.bind_eq_ok_iff.1 valid
  obtain ⟨reads, check⟩ := ofTree_eq_ok_iff.1 valid
  obtain ⟨new, gathered, stands⟩ :=
    exists_gathered_variable v rest f.leads f.steps f.plain f.names_ne_nil avoid
  have loaded_eq : loaded = ofTree new := load_of_gathered gathered
  have text := toText_ofVariable f.place_ne retold
  have inTable (h : table) : HasSshTable tree := by
    obtain ⟨_, rest', h⟩ := h
    cases rest.symm.trans rest'
    exact h
  have placed (h : f = .host ∨ f = .user → table) : loaded = .ok (f.put s w) := by
    rw [loaded_eq, ofTree_eq_ok_iff, f.check_put]
    exact ⟨reads_of_standsAt reads stands text fun hf => inTable (h hf), check⟩
  have alone (hf : f = .host) (list : ¬table) :
      loaded = .ok { s with ssh := ⟨w, "ec2-user", none⟩ } := by
    subst hf
    rw [loaded_eq, ofTree_eq_ok_iff]
    exact ⟨reads_of_host_alone reads stands text fun h => list ⟨tree, rest, h⟩, check⟩
  have refused (hf : f = .user) (list : ¬table) :
      loaded = .error (Failure.within "Invalid bench configuration"
        (.other "missing field \x60host\x60")) := by
    subst hf
    rw [loaded_eq]
    exact ofTree_of_error
      (read_of_user_alone reads stands text fun h => list ⟨tree, rest, h⟩)
  have found (h : f = .user → table) : ∃ s', loaded = .ok s' ∧ f.get s' = w := by
    by_cases ht : table
    · exact ⟨_, placed fun _ => ht, f.get_put s w⟩
    · rcases f.names_cases with ⟨-, host, user⟩ | hf | hf
      · exact ⟨_, placed fun hf => hf.elim (absurd · host) (absurd · user), f.get_put s w⟩
      · exact ⟨_, alone hf ht, hf ▸ rfl⟩
      · exact absurd (h hf) ht
  refine ⟨w, retold, placed, alone, refused, ?_⟩
  constructor
  · rintro ⟨s', hs', hv⟩
    have user (hf : f = .user) : table := by
      by_contra list
      cases hs'.symm.trans (refused hf list)
    obtain ⟨_, hs'', hw⟩ := found user
    cases hs'.symm.trans hs''
    rw [← hv, hw] at retold ⊢
    exact ⟨retold, user⟩
  · rintro ⟨same, user⟩
    rw [same.unique retold]
    exact found user

/-- A name that begins with a letter is told again as it is. -/
theorem text_of_variable_name : Retold "bench-2" "bench-2" ∧
    load smallFiles (some "bench.toml") [("SCALING_CLUSTER_NAME", "bench-2")] =
      .ok { smallSettings with cluster := "bench-2" } := by
  have retold : Retold "bench-2" "bench-2" :=
    .text (by decide +kernel)
      (Decimal.not_writesFloat_of_head (by decide) (by decide)
        (by unfold Decimal.NamesSpecial; decide))
  obtain ⟨w, retold', placed, -⟩ := text_of_variable_iff .cluster "bench-2"
    (show load _ _ ([] ++ []) = _ from load_smallFiles) nofun
  cases retold.unique retold'
  exact ⟨retold, placed nofun⟩

/-- Digits lose the zeros before them. -/
theorem not_text_of_variable_padded :
    load smallFiles (some "bench.toml") [] = .ok smallSettings ∧
    ¬∃ s, load smallFiles (some "bench.toml") [("SCALING_CLUSTER_NAME", "007")] = .ok s ∧
      s.cluster = "007" := by
  refine ⟨load_smallFiles, ?_⟩
  rintro ⟨s, h, hs⟩
  have shortened : (load smallFiles (some "bench.toml")
      [("SCALING_CLUSTER_NAME", "007")]).toOption.map (fun s => s.cluster) = some "7" := by
    decide +kernel
  rw [h] at shortened
  exact absurd ((Option.some.inj shortened).symm.trans hs) (by decide)

end BenchSettings

end FleetScaling
