import FleetScaling.Proofs.Keyed
import FleetScaling.Settings.Bench

/-!
# Where settings come to stand

A setting is put at a place below the names of tables. After that it stands there, and all else is
as it was (`Setting.StandsAt`). Settings that are put at other places later leave it where it is,
and change both trees alike (`StandsAt.assign`). So what a variable of the environment does to the
tree of all settings is known whatever other variables there are, as long as none that comes later
leads to the same place (`exists_gathered_variable`).
-/

namespace FleetScaling

open Text

namespace Setting

/-! ## One step -/

theorem put_eq_putEntry (name : String) (s : Setting) (members : List (String × Setting)) :
    put name s members = putEntry name s members := by
  induction members with
  | nil => rfl
  | cons member rest ih => rw [put, putEntry, ih]

theorem lookup_put (name k : String) (s : Setting) (members : List (String × Setting)) :
    (put name s members).lookup k = if name = k then some s else members.lookup k := by
  rw [put_eq_putEntry, lookup_putEntry]

/-- What is left under a name after a setting was put where some steps from there lead. -/
def arriving (s : Setting) (old : Option Setting) : List Step → Setting
  | [] => merge old s
  | steps => assign s (old.getD nothing) steps

/-- A setting that is put below a name changes what is under that name, in a table. -/
theorem assign_member (s old : Setting) (name : String) (steps : List Step) :
    assign s old (.member name :: steps) = .table none
      (put (lower name) (arriving s (old.members.lookup (lower name)) steps) old.members) := by
  cases steps with
  | nil => rw [assign, arriving]
  | cons step steps =>
    rw [assign, arriving]
    · exact List.cons_ne_nil _ _
    · exact List.cons_ne_nil _ _

/-! ## Places -/

/-- Members that agree on all names but one. -/
def AgreeOff (name : String) (old members : List (String × Setting)) : Prop :=
  ∀ k, k ≠ name → members.lookup k = old.lookup k

/-- The settings are those of an old tree, but that a setting stands at a place. -/
inductive StandsAt (x : Setting) : List String → Setting → Setting → Prop
  | here (old : Setting) : StandsAt x [] old x
  | under {name : String} {names : List String} {old inside : Setting} {source : Option String}
      {members : List (String × Setting)} :
      AgreeOff name old.members members → members.lookup name = some inside →
      StandsAt x names ((old.members.lookup name).getD nothing) inside →
      StandsAt x (name :: names) old (.table source members)

/-- Some steps lead neither to a place nor into it nor to what it is in. -/
def Misses : List String → List Step → Prop
  | name :: names, .member a :: steps => lower a ≠ name ∨ Misses names steps
  | _, _ => False

variable {x old new : Setting} {name : String} {names : List String} {steps : List Step}

theorem agreeOff_put (name : String) (s : Setting) (members : List (String × Setting)) :
    AgreeOff name members (put name s members) :=
  fun _ hk => (lookup_put _ _ _ _).trans (if_neg (Ne.symm hk))

theorem StandsAt.eq (h : StandsAt x [] old new) : new = x := by
  cases h
  rfl

theorem StandsAt.exists_table (h : StandsAt x (name :: names) old new) :
    ∃ source members inside, new = .table source members ∧ AgreeOff name old.members members ∧
      members.lookup name = some inside ∧
      StandsAt x names ((old.members.lookup name).getD nothing) inside := by
  cases h with
  | under off found rest => exact ⟨_, _, _, rfl, off, found, rest⟩

/-- A setting that takes the place of what was there, put below names in lower case. -/
theorem standsAt_assign (replaces : ∀ old, merge old x = x) (plain : ∀ n ∈ names, lower n = n)
    (some_ : names ≠ []) (old : Setting) :
    StandsAt x names old (assign x old (names.map Step.member)) := by
  induction names generalizing old with
  | nil => exact absurd rfl some_
  | cons name names ih =>
    obtain ⟨hname, plain⟩ := List.forall_mem_cons.1 plain
    rw [List.map_cons, assign_member, hname]
    refine .under (agreeOff_put _ _ _) ((lookup_put _ _ _ _).trans (if_pos rfl)) ?_
    cases names with
    | nil =>
      rw [List.map_nil, arriving, replaces]
      exact .here _
    | cons next names => exact ih plain (List.cons_ne_nil _ _) _

theorem Misses.exists_member (h : Misses (name :: names) steps) :
    ∃ a rest, steps = .member a :: rest ∧ (lower a ≠ name ∨ Misses names rest) := by
  match steps, h with
  | .member a :: rest, h => exact ⟨a, rest, rfl, h⟩

theorem arriving_of_misses (h : Misses names steps) (s : Setting) (old : Option Setting) :
    arriving s old steps = assign s (old.getD nothing) steps := by
  cases steps with
  | nil => cases names <;> cases h
  | cons step steps => rfl

/-- What is put elsewhere leaves a setting where it stands. -/
theorem StandsAt.assign (h : StandsAt x names old new) (misses : Misses names steps) (s : Setting) :
    StandsAt x names (assign s old steps) (assign s new steps) := by
  induction h generalizing steps with
  | here old =>
    unfold Misses at misses
    cases misses
  | @under name names old inside source members off found rest ih =>
    obtain ⟨a, steps, rfl, misses⟩ := misses.exists_member
    rw [assign_member, assign_member]
    show StandsAt x (name :: names) _ (.table none (put _ (arriving s (members.lookup _) _) members))
    by_cases ha : lower a = name
    · -- The steps go on below the same name, so they part from the place further down.
      have misses : Misses names steps := misses.resolve_left fun h => h ha
      rw [ha, arriving_of_misses misses, arriving_of_misses misses, found]
      refine .under (fun k hk => ?_) ((lookup_put _ _ _ _).trans (if_pos rfl)) ?_
      · show _ = (put _ _ old.members).lookup k
        rw [lookup_put, lookup_put, if_neg (Ne.symm hk), if_neg (Ne.symm hk), off k hk]
      · show StandsAt x names (((put _ _ old.members).lookup name).getD nothing) _
        rw [lookup_put, if_pos rfl]
        exact ih misses
    · refine .under (fun k hk => ?_) ((lookup_put _ _ _ _).trans ((if_neg ha).trans found)) ?_
      · show _ = (put _ _ old.members).lookup k
        rw [lookup_put, lookup_put, off k hk, off (lower a) ha]
      · show StandsAt x names (((put _ _ old.members).lookup name).getD nothing) _
        rw [lookup_put, if_neg ha]
        exact rest

theorem StandsAt.foldl (h : StandsAt x names old new) {entries : List (String × Setting)}
    (misses : ∀ entry ∈ entries, Misses names (stepsOf entry.1)) :
    StandsAt x names (entries.foldl assignPath old) (entries.foldl assignPath new) := by
  induction entries generalizing old new with
  | nil => exact h
  | cons entry entries ih =>
    obtain ⟨first, misses⟩ := List.forall_mem_cons.1 misses
    exact ih (h.assign first entry.2) misses

/-- A variable replaces what was there. -/
theorem merge_ofVariable (listName place value : String) (old : Option Setting) :
    merge old (ofVariable listName place value) = ofVariable listName place value := by
  unfold ofVariable
  split
  · rw [merge] <;> exact nofun
  · split <;> rw [merge] <;> exact nofun

theorem environmentEntries_append (start listName : String) (a b : List (String × String)) :
    environmentEntries start listName (a ++ b) =
      environmentEntries start listName a ++ environmentEntries start listName b :=
  List.filterMap_append

theorem environmentEntries_cons {start listName name place : String}
    (leads : variablePath? start name = some place) (value : String)
    (rest : List (String × String)) : environmentEntries start listName ((name, value) :: rest) =
      (place, ofVariable listName place value) :: environmentEntries start listName rest :=
  List.filterMap_cons_some (by show Option.map _ (variablePath? start name) = _; rw [leads]; rfl)

theorem exists_variable_of_mem {start listName : String} {environment : List (String × String)}
    {entry : String × Setting} (h : entry ∈ environmentEntries start listName environment) :
    ∃ v ∈ environment, variablePath? start v.1 = some entry.1 := by
  obtain ⟨v, hv, h⟩ := List.mem_filterMap.1 h
  obtain ⟨place, hplace, rfl⟩ := Option.map_eq_some_iff.1 h
  exact ⟨v, hv, hplace⟩

end Setting

/-! ## Variables -/

namespace BenchSettings

open Setting

/-- The entries of a settings file, if one is given. -/
def givenEntries (files : Files) : Option String → Except Failure (List (String × Setting))
  | none => .ok []
  | some path => fileEntries files path

/-- The tree of the settings of a file, if one is given, and of environment variables. -/
def gathered (files : Files) (path : Option String) (environment : List (String × String)) :
    Except Failure Setting :=
  (givenEntries files path).map fun fromFile => Setting.ofEntries
    (fromFile ++ environmentEntries "scaling_" "scaling_targets" environment)

variable {files : Files} {path : Option String} {environment : List (String × String)}

/-- Settings are loaded by reading the tree of all of them. -/
theorem load_eq : load files path environment = gathered files path environment >>= ofTree := by
  have h : load files path environment = givenEntries files path >>= fun fromFile =>
      ofTree (Setting.ofEntries
        (fromFile ++ environmentEntries "scaling_" "scaling_targets" environment)) := by
    cases path <;> rfl
  rw [h, gathered]
  cases givenEntries files path <;> rfl

theorem load_of_gathered {tree : Setting} (h : gathered files path environment = .ok tree) :
    load files path environment = ofTree tree := by
  rw [load_eq, h]
  rfl

/-- A variable leads neither to a place nor into it nor to what it is in. -/
def Avoids (names : List String) (variableName : String) : Prop :=
  ∀ place ∈ variablePath? "scaling_" variableName, Misses names (stepsOf place)

/-- A variable that stands among others, of which none that comes later leads to its place, changes
the tree in this place only. -/
theorem exists_gathered_variable {before after : List (String × String)} {tree : Setting}
    {name place : String} {names : List String} (value : String)
    (rest : gathered files path (before ++ after) = .ok tree)
    (leads : variablePath? "scaling_" name = some place)
    (steps : stepsOf place = names.map Step.member) (plain : ∀ n ∈ names, lower n = n)
    (some_ : names ≠ []) (avoid : ∀ other ∈ after, Avoids names other.1) :
    ∃ new, gathered files path (before ++ (name, value) :: after) = .ok new ∧
      StandsAt (ofVariable "scaling_targets" place value) names tree new := by
  unfold gathered at rest ⊢
  cases hgiven : givenEntries files path with
  | error failure =>
    rw [hgiven] at rest
    cases rest
  | ok entries =>
    rw [hgiven] at rest
    cases rest
    refine ⟨_, rfl, ?_⟩
    dsimp only
    rw [environmentEntries_append, environmentEntries_append, environmentEntries_cons leads,
      ← List.append_assoc, ← List.append_assoc]
    unfold Setting.ofEntries
    simp only [List.foldl_append, List.foldl_cons]
    refine StandsAt.foldl ?_ fun entry hentry => ?_
    · unfold assignPath
      rw [steps]
      exact standsAt_assign (merge_ofVariable _ _ _) plain some_ _
    · obtain ⟨other, hother, hplace⟩ := exists_variable_of_mem hentry
      exact avoid other hother entry.1 hplace

end BenchSettings

end FleetScaling
