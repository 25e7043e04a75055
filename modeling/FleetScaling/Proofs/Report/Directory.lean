import FleetScaling.Proofs.Report.Documents
import FleetScaling.Proofs.Traces

/-!
# Reports in a directory

What was stored in a directory is what is loaded from it (`Report.stored_reports_load`): for each
strategy and target the report that was stored last, with all its fields, in the order of strategies
and targets. The order in which the directory lists its files has no part in it.

`Holds` is the invariant: the files of the directory are those of the last reports of their names.
-/

namespace FleetScaling

namespace Report

/-- Stores reports one after another. -/
def storeAll (directory : String) (reports : List Report) : SiteOperation Files Unit :=
  reports.forM (store directory)

theorem storeAll_cons (directory : String) (r : Report) (reports : List Report) :
    storeAll directory (r :: reports) = store directory r >>= fun _ => storeAll directory reports :=
  rfl

/-- Whether a report is about a strategy and a target. -/
def isFor (strategy : Strategy) (target : UInt32) (r : Report) : Bool :=
  r.result.strategy = strategy ∧ r.target = target

/-- The last of some reports for a strategy and a target. -/
def latest? (reports : List Report) (strategy : Strategy) (target : UInt32) : Option Report :=
  (reports.filter (isFor strategy target)).getLast?

/-- By the name of the strategy, then by the target. -/
def Precedes (a b : Report) : Prop :=
  a.result.strategy.name < b.result.strategy.name ∨
    a.result.strategy = b.result.strategy ∧ a.target < b.target

/-! ## The last report of a name -/

/-- The last of some reports whose file has the name. -/
def latestNamed? (reports : List Report) (name : String) : Option Report :=
  (reports.filter fun r => r.fileName = name).getLast?

theorem latestNamed?_fileName (reports : List Report) (r : Report) :
    latestNamed? reports r.fileName = latest? reports r.result.strategy r.target := by
  unfold latestNamed? latest? isFor
  refine congrArg (fun p => (reports.filter p).getLast?) (funext fun s => ?_)
  exact decide_eq_decide.2 fileName_inj

theorem fileName_of_latestNamed? {reports : List Report} {name : String} {r : Report}
    (h : latestNamed? reports name = some r) : r.fileName = name :=
  of_decide_eq_true (List.mem_filter.1 (List.mem_of_getLast? h)).2

theorem latestNamed?_concat (reports : List Report) (r : Report) (name : String) :
    latestNamed? (reports ++ [r]) name =
      if name = r.fileName then some r else latestNamed? reports name := by
  unfold latestNamed?
  rw [List.filter_append]
  by_cases h : name = r.fileName
  · have kept : [r].filter (fun r => decide (r.fileName = name)) = [r] :=
      List.filter_eq_self.2 fun s hs => decide_eq_true (List.mem_singleton.1 hs ▸ h.symm)
    rw [if_pos h, kept, List.getLast?_concat]
  · have dropped : [r].filter (fun r => decide (r.fileName = name)) = [] :=
      List.filter_eq_nil_iff.2 fun s hs hname =>
        h (List.mem_singleton.1 hs ▸ (of_decide_eq_true hname).symm)
    rw [if_neg h, dropped, List.append_nil]

/-! ## Storing -/

/-- The files in a directory are the last reports of their names among those that were written. -/
structure Holds (files : Files) (directory : String) (written : List Report) : Prop where
  here : files.HasDirectory directory
  inside : ∀ name, files.inside directory name =
    (latestNamed? written name).map fun r => .file (some r.text)
  nodup : (files.namesAt (Files.placeOf (Files.namesOf directory))).Nodup

section Storing

variable {files made : Files} {directory : String} {written : List Report}

theorem changeFiles_ok {context : String} {change : Files → Except FileError Files}
    (h : change files = .ok made) : changeFiles context change files = ⟨.ok (), made, []⟩ := by
  unfold changeFiles
  rw [h]

theorem store_ok {later : Files} {r : Report} (hmade : files.makeDirectory directory = .ok made)
    (hwrite : made.write (Files.joinPath directory r.fileName) r.text = .ok later) :
    (store directory r files).outcome = .ok () ∧ (store directory r files).world = later := by
  have hlog : log r.entry files = ⟨.ok (), files, [.logged r.entry]⟩ := rfl
  have hmake : changeFiles ("Failed to create report directory " ++ directory)
      (fun files => files.makeDirectory directory) files = ⟨.ok (), made, []⟩ :=
    changeFiles_ok hmade
  have hput : changeFiles ("Failed to write report " ++ Files.joinPath directory r.fileName)
      (fun files => files.write (Files.joinPath directory r.fileName) r.text) made =
        ⟨.ok (), later, []⟩ :=
    changeFiles_ok hwrite
  unfold store
  rw [Operation.bind_of_ok (congrArg (·.outcome) hlog), hlog,
    Operation.bind_of_ok (congrArg (·.outcome) hmake), hmake,
    Operation.bind_of_ok (congrArg (·.outcome) hput), hput]
  exact ⟨rfl, rfl⟩

theorem Holds.ne_directory (h : Holds made directory written) (name : String) :
    made.inside directory name ≠ some .directory := by
  rw [h.inside]
  cases latestNamed? written name with
  | none => exact nofun
  | some r => exact nofun

/-- A report that is stored takes the place of the one of its name. -/
theorem Holds.store (hmade : files.makeDirectory directory = .ok made)
    (h : Holds made directory written) (r : Report) :
    (store directory r files).outcome = .ok () ∧
      Holds (store directory r files).world directory (written ++ [r]) := by
  have hwrite := h.here.write (fileName_plain r) (h.ne_directory _) r.text
  obtain ⟨hok, hworld⟩ := store_ok hmade hwrite
  refine ⟨hok, ?_⟩
  rw [hworld]
  refine ⟨h.here.set (h.ne_directory _) _, fun name => ?_, ?_⟩
  · rw [Files.inside_set, latestNamed?_concat, h.inside]
    split <;> rfl
  · exact Files.nodup_namesAt_set h.nodup

/-- Nothing is held by a directory that was made where nothing was. -/
theorem Holds.of_vacant (hmade : files.makeDirectory directory = .ok made)
    (hlist : made.list directory = .ok []) : Holds made directory [] := by
  have here := Files.HasDirectory.of_made hmade hlist
  have hnames : made.namesAt (Files.placeOf (Files.namesOf directory)) = [] :=
    Except.ok.inj (here.list.symm.trans hlist)
  refine ⟨here, fun name => ?_, hnames ▸ List.nodup_nil⟩
  have hnone := mt Files.mem_namesAt.2 (hnames ▸ List.not_mem_nil (a := name))
  exact Decidable.not_not.1 hnone

/-- The reports were stored, one after another, in a directory that was vacant. -/
def Stored (files : Files) (directory : String) (written : List Report) : Prop :=
  Holds files directory written ∨ (written = [] ∧ files.Vacant directory)

theorem Stored.store (h : Stored files directory written) (r : Report) :
    (store directory r files).outcome = .ok () ∧
      Stored (store directory r files).world directory (written ++ [r]) := by
  rcases h with held | ⟨rfl, made, hmade, hlist⟩
  · exact (held.store held.here.makeDirectory r).imp_right Or.inl
  · exact ((Holds.of_vacant hmade hlist).store hmade r).imp_right Or.inl

theorem Stored.storeAll (h : Stored files directory written) (reports : List Report) :
    (storeAll directory reports files).outcome = .ok () ∧
      Stored (storeAll directory reports files).world directory (written ++ reports) := by
  induction reports generalizing files written with
  | nil => exact ⟨rfl, (List.append_nil written).symm ▸ h⟩
  | cons r reports ih =>
    obtain ⟨hok, hstep⟩ := h.store r
    have hrest := ih hstep
    rw [List.append_assoc] at hrest
    rw [storeAll_cons, Operation.bind_of_ok hok]
    exact hrest

end Storing

/-! ## Loading -/

/-- Loads the reports of a directory that lists its files under `names`. -/
def loadListed (files : Files) (directory : String) (names : List String) :
    Except Failure (List Report) := do
  let reports ← (names.filter isFileName).mapM fun name =>
    load files (Files.joinPath directory name)
  .ok (reports.mergeSort isBefore)

theorem loadAll_of_list {files : Files} {directory : String} {names : List String}
    (h : files.list directory = .ok names) :
    loadAll files directory = loadListed files directory names := by
  unfold loadAll
  rw [h]
  rfl

theorem loadListed_nil (files : Files) (directory : String) :
    loadListed files directory [] = .ok [] := by
  show Except.ok (List.mergeSort [] isBefore) = _
  rw [List.mergeSort_nil]

section Loading

variable {files : Files} {directory : String} {written : List Report}

theorem Holds.load (h : Holds files directory written) {name : String} {r : Report}
    (hr : latestNamed? written name = some r) :
    load files (Files.joinPath directory name) = .ok r := by
  have hplain : Files.IsPlain name := fileName_of_latestNamed? hr ▸ fileName_plain r
  have hread : files.read (Files.joinPath directory name) = .ok r.text :=
    h.here.read hplain (by rw [h.inside, hr]; rfl)
  unfold Report.load
  rw [hread]
  show Json.decodeWithin _ decoder r.text = _
  unfold Json.decodeWithin
  rw [decode_text]
  rfl

theorem Holds.mem_names (h : Holds files directory written) {name : String} :
    name ∈ files.namesAt (Files.placeOf (Files.namesOf directory)) ↔
      ∃ r, latestNamed? written name = some r := by
  rw [Files.mem_namesAt, show files.entry? _ = _ from h.inside name, Option.ne_none_iff_isSome,
    Option.isSome_map, Option.isSome_iff_exists]

theorem mapM_ok {α β ε : Type} {f : α → Except ε β} {g : α → Option β} {l : List α}
    (h : ∀ a ∈ l, ∃ b, g a = some b ∧ f a = .ok b) : l.mapM f = .ok (l.filterMap g) := by
  induction l with
  | nil => rfl
  | cons a l ih =>
    obtain ⟨b, hg, hf⟩ := h a List.mem_cons_self
    rw [List.mapM_cons, hf, ih fun a ha => h a (List.mem_cons_of_mem _ ha),
      List.filterMap_cons_some hg]
    rfl

theorem Holds.loadListed (h : Holds files directory written) {listing : List String}
    (hl : ∀ name ∈ listing, ∃ r, latestNamed? written name = some r) :
    loadListed files directory listing =
      .ok ((listing.filterMap (latestNamed? written)).mergeSort isBefore) := by
  have hnamed : listing.filter isFileName = listing :=
    List.filter_eq_self.2 fun name hname => by
      obtain ⟨r, hr⟩ := hl name hname
      rw [← fileName_of_latestNamed? hr]
      exact isFileName_fileName r
  have hloaded := mapM_ok (f := fun name => Report.load files (Files.joinPath directory name))
    (g := latestNamed? written) fun name hname => by
      obtain ⟨r, hr⟩ := hl name hname
      exact ⟨r, hr, h.load hr⟩
  unfold Report.loadListed
  rw [hnamed, hloaded]
  rfl

end Loading

/-! ## Order -/

theorem Precedes.trans {a b c : Report} (hab : Precedes a b) (hbc : Precedes b c) :
    Precedes a c := by
  rcases hab with hab | ⟨hs, ht⟩
  · rcases hbc with hbc | ⟨hs', -⟩
    · exact Or.inl (String.lt_trans hab hbc)
    · exact Or.inl (hs' ▸ hab)
  · rcases hbc with hbc | ⟨hs', ht'⟩
    · exact Or.inl (hs ▸ hbc)
    · exact Or.inr ⟨hs.trans hs', UInt32.lt_trans ht ht'⟩

theorem Precedes.fileName_ne {a b : Report} (h : Precedes a b) : a.fileName ≠ b.fileName := by
  intro hname
  obtain ⟨hs, ht⟩ := fileName_inj.1 hname
  rcases h with h | ⟨-, h⟩
  · exact String.lt_irrefl _ (hs ▸ h)
  · exact UInt32.lt_irrefl _ (ht ▸ h)

theorem precedes_or_same (a b : Report) :
    Precedes a b ∨ a.fileName = b.fileName ∨ Precedes b a := by
  rw [fileName_inj]
  by_cases hs : a.result.strategy = b.result.strategy
  · rcases Nat.lt_trichotomy a.target.toNat b.target.toNat with ht | ht | ht
    · exact Or.inl (Or.inr ⟨hs, ht⟩)
    · exact Or.inr (Or.inl ⟨hs, UInt32.toNat_inj.1 ht⟩)
    · exact Or.inr (Or.inr (Or.inr ⟨hs.symm, ht⟩))
  · have hname : a.result.strategy.name ≠ b.result.strategy.name := fun h => hs <| by
      rw [← Option.some_inj, ← Strategy.ofName?_name, h, Strategy.ofName?_name]
    by_cases hlt : a.result.strategy.name < b.result.strategy.name
    · exact Or.inl (Or.inl hlt)
    · refine Or.inr (Or.inr (Or.inl (Decidable.byContradiction fun hgt => ?_)))
      exact hname (String.le_antisymm (String.not_lt.1 hgt) (String.not_lt.1 hlt))

theorem isBefore_iff {a b : Report} :
    isBefore a b = true ↔ Precedes a b ∨ a.fileName = b.fileName := by
  rw [fileName_inj]
  unfold isBefore Precedes
  by_cases hs : a.result.strategy = b.result.strategy
  · rw [if_neg (not_not_intro hs), hs, decide_eq_true_iff, UInt32.le_iff_lt_or_eq]
    simp
  · rw [if_pos hs, decide_eq_true_iff]
    simp [hs]

theorem isBefore_trans (a b c : Report) (hab : isBefore a b = true) (hbc : isBefore b c = true) :
    isBefore a c = true := by
  rw [isBefore_iff] at hab hbc ⊢
  rcases hab with hab | hab
  · rcases hbc with hbc | hbc
    · exact Or.inl (hab.trans hbc)
    · obtain ⟨hs, ht⟩ := fileName_inj.1 hbc
      unfold Precedes at hab ⊢
      rw [← hs, ← ht]
      exact Or.inl hab
  · obtain ⟨hs, ht⟩ := fileName_inj.1 hab
    unfold Precedes at hbc ⊢
    rw [hs, ht, hab]
    exact hbc

theorem isBefore_total (a b : Report) : (isBefore a b || isBefore b a) = true := by
  rw [Bool.or_eq_true, isBefore_iff, isBefore_iff]
  rcases precedes_or_same a b with h | h | h
  · exact Or.inl (Or.inl h)
  · exact Or.inl (Or.inr h)
  · exact Or.inr (Or.inl h)

theorem fileName_eq_of_isBefore {a b : Report} (hab : isBefore a b = true)
    (hba : isBefore b a = true) : a.fileName = b.fileName := by
  rcases isBefore_iff.1 hab with hab | hab
  · rcases isBefore_iff.1 hba with hba | hba
    · exact absurd rfl (hab.trans hba).fileName_ne
    · exact hba.symm
  · exact hab

section Sorted

variable {written : List Report} {names listing : List String}

/-- Sorting forgets the order of the names. -/
theorem mergeSort_latest (h : listing.Perm names) :
    (listing.filterMap (latestNamed? written)).mergeSort isBefore =
      (names.filterMap (latestNamed? written)).mergeSort isBefore := by
  have same : ((listing.filterMap (latestNamed? written)).mergeSort isBefore).Perm
      ((names.filterMap (latestNamed? written)).mergeSort isBefore) :=
    (List.mergeSort_perm _ _).trans ((h.filterMap _).trans (List.mergeSort_perm _ _).symm)
  have named {l : List String} {r : Report}
      (hr : r ∈ (l.filterMap (latestNamed? written)).mergeSort isBefore) :
      latestNamed? written r.fileName = some r := by
    obtain ⟨name, -, hname⟩ := List.mem_filterMap.1 (List.mem_mergeSort.1 hr)
    rwa [fileName_of_latestNamed? hname]
  refine same.eq_of_pairwise (fun a b ha hb hab hba => ?_)
    (List.pairwise_mergeSort isBefore_trans isBefore_total _)
    (List.pairwise_mergeSort isBefore_trans isBefore_total _)
  have hfile := fileName_eq_of_isBefore hab hba
  exact Option.some.inj ((named ha).symm.trans (hfile ▸ named hb))

/-- Reports of different names are sorted strictly. -/
theorem pairwise_mergeSort_latest (h : names.Nodup) :
    ((names.filterMap (latestNamed? written)).mergeSort isBefore).Pairwise Precedes := by
  have different : (names.filterMap (latestNamed? written)).Pairwise
      fun a b => a.fileName ≠ b.fileName := by
    refine List.Pairwise.filterMap _ (fun n m hnm a ha b hb hab => hnm ?_) h
    rw [← fileName_of_latestNamed? ha, hab, fileName_of_latestNamed? hb]
  have sorted := List.pairwise_mergeSort isBefore_trans isBefore_total
    (names.filterMap (latestNamed? written))
  refine (sorted.and (different.perm (List.mergeSort_perm _ _).symm Ne.symm)).imp ?_
  rintro a b ⟨hbefore, hname⟩
  exact (isBefore_iff.1 hbefore).resolve_right hname

/-- The reports for a strategy and a target are the last one of them. -/
theorem filter_eq_latest {loaded : List Report} (hsorted : loaded.Pairwise Precedes)
    (hmem : ∀ r, r ∈ loaded ↔ latest? written r.result.strategy r.target = some r)
    (strategy : Strategy) (target : UInt32) :
    loaded.filter (isFor strategy target) = (latest? written strategy target).toList := by
  have hnodup : (loaded.filter (isFor strategy target)).Nodup := by
    refine (hsorted.filter _).imp fun {a b} h => ?_
    rintro rfl
    exact h.fileName_ne rfl
  have hfilter (r : Report) : r ∈ loaded.filter (isFor strategy target) ↔
      latest? written strategy target = some r := by
    rw [List.mem_filter, hmem]
    constructor
    · rintro ⟨hr, hfor⟩
      obtain ⟨rfl, rfl⟩ := of_decide_eq_true hfor
      exact hr
    · intro hr
      have hfor := (List.mem_filter.1 (List.mem_of_getLast? hr)).2
      obtain ⟨rfl, rfl⟩ := of_decide_eq_true hfor
      exact ⟨hr, hfor⟩
  cases hlast : latest? written strategy target with
  | none =>
    exact List.eq_nil_iff_forall_not_mem.2 fun r hr => by
      rw [hfilter, hlast] at hr
      cases hr
  | some r =>
    refine List.perm_singleton.1 ((List.perm_ext_iff_of_nodup hnodup ?_).2 fun s => ?_)
    · exact List.pairwise_singleton _ _
    · rw [hfilter, hlast, Option.some_inj, List.mem_singleton, eq_comm]

end Sorted

/-! ## Stored and loaded -/

section Loaded

variable {files : Files} {directory : String} {written : List Report}

/-- All that loading gives of what a directory holds, in whatever order it lists the files. -/
theorem Holds.loadAll (h : Holds files directory written) :
    ∃ loaded, Report.loadAll files directory = .ok loaded ∧
      (∀ names listing : List String, files.list directory = .ok names → listing.Perm names →
        Report.loadListed files directory listing = .ok loaded) ∧
      loaded.Pairwise Precedes ∧
      ∀ r, r ∈ loaded ↔ latest? written r.result.strategy r.target = some r := by
  have hlist := h.here.list
  generalize hnames : files.namesAt _ = names at hlist
  have hmem {name : String} : name ∈ names ↔ ∃ r, latestNamed? written name = some r :=
    hnames ▸ h.mem_names
  have hany (listing : List String) (hl : listing.Perm names) :
      Report.loadListed files directory listing =
        .ok ((names.filterMap (latestNamed? written)).mergeSort isBefore) := by
    rw [h.loadListed fun name hname => hmem.1 (hl.mem_iff.1 hname), mergeSort_latest hl]
  refine ⟨(names.filterMap (latestNamed? written)).mergeSort isBefore, ?_, ?_, ?_, fun r => ?_⟩
  · rw [loadAll_of_list hlist, hany names (.refl _)]
  · intro names' listing hlist' hl
    obtain rfl : names = names' := Except.ok.inj (hlist.symm.trans hlist')
    exact hany listing hl
  · exact pairwise_mergeSort_latest (hnames ▸ h.nodup)
  · rw [List.mem_mergeSort, List.mem_filterMap, ← latestNamed?_fileName]
    constructor
    · rintro ⟨name, -, hr⟩
      rwa [fileName_of_latestNamed? hr]
    · intro hr
      exact ⟨r.fileName, hmem.2 ⟨r, hr⟩, hr⟩

/-- A directory where nothing was stored has no reports. -/
theorem loadAll_vacant (vacant : files.Vacant directory) : loadAll files directory = .ok [] := by
  rcases vacant.list with hlist | hlist
  · rw [loadAll_of_list hlist, loadListed_nil]
  · unfold Report.loadAll
    rw [hlist]

theorem Stored.loadAll (h : Stored files directory written) :
    ∃ loaded, Report.loadAll files directory = .ok loaded ∧
      (∀ names listing : List String, files.list directory = .ok names → listing.Perm names →
        loadListed files directory listing = .ok loaded) ∧
      loaded.Pairwise Precedes ∧
      ∀ strategy target,
        loaded.filter (isFor strategy target) = (latest? written strategy target).toList := by
  rcases h with held | ⟨rfl, vacant⟩
  · obtain ⟨loaded, hload, hany, hsorted, hmem⟩ := held.loadAll
    exact ⟨loaded, hload, hany, hsorted, filter_eq_latest hsorted hmem⟩
  · refine ⟨[], loadAll_vacant vacant, ?_, List.Pairwise.nil, fun _ _ => rfl⟩
    intro names listing hlist hl
    rcases vacant.list with hnone | hnone
    · obtain rfl : names = [] := Except.ok.inj (hlist.symm.trans hnone)
      rw [hl.eq_nil, loadListed_nil]
    · cases hlist.symm.trans hnone

end Loaded

/-- **What is stored is loaded.** Whatever reports are stored one after another in a vacant
directory, all of them can be, and loading gives the last one for each strategy and target, in
order, however the directory lists its files. -/
theorem stored_reports_load {files : Files} {directory : String} (vacant : files.Vacant directory)
    (written : List Report) :
    let stored := storeAll directory written files
    stored.outcome = .ok () ∧
      ∃ loaded, loadAll stored.world directory = .ok loaded ∧
        (∀ names listing : List String, stored.world.list directory = .ok names →
          listing.Perm names → loadListed stored.world directory listing = .ok loaded) ∧
        loaded.Pairwise Precedes ∧
        ∀ strategy target,
          loaded.filter (isFor strategy target) = (latest? written strategy target).toList := by
  intro stored
  have empty : Stored files directory [] := Or.inr ⟨rfl, vacant⟩
  obtain ⟨hok, hstored⟩ := empty.storeAll written
  exact ⟨hok, hstored.loadAll⟩

/-- A report for a target, from before the year 0 up to a leap second. -/
def sample (strategy : Strategy) (target : UInt32) (down : Int64) : Report where
  title := "\"scaling\""
  region := "us-east-1"
  cluster := "bench"
  startTime := (Time.Instant.of? (-62200000000) 0).getD .epoch
  endTime := (Time.Instant.of? 1483228799 1500000000).getD .epoch
  target := target
  targetTime := .epoch
  result := ⟨"us-east-1", "alinux2", "c5.large", "c5.xlarge", target, strategy, 50, 70, down⟩

/-- The report for target 10 is stored twice. -/
theorem stored_reports_load_twice :
    Files.empty.Vacant "reports" ∧
      let stored := storeAll "reports" [sample .bestEffort 10 30, sample .allOrNothing 10 40,
        sample .bestEffort 9 (-50), sample .bestEffort 10 60] .empty
      ∃ loaded, loadAll stored.world "reports" = .ok loaded ∧ loaded.Pairwise Precedes ∧
        loaded.filter (isFor .bestEffort 10) = [sample .bestEffort 10 60] ∧
        loaded.filter (isFor .bestEffort 9) = [sample .bestEffort 9 (-50)] := by
  have vacant : Files.empty.Vacant "reports" := ⟨_, rfl, rfl⟩
  obtain ⟨-, loaded, hload, -, hsorted, hlast⟩ := stored_reports_load vacant
    [sample .bestEffort 10 30, sample .allOrNothing 10 40, sample .bestEffort 9 (-50),
      sample .bestEffort 10 60]
  refine ⟨vacant, loaded, hload, hsorted, ?_, ?_⟩
  · rw [hlast]
    decide
  · rw [hlast]
    decide

end Report

end FleetScaling
