import FleetScaling.Files

/-!
# Files in a directory

A directory that was made is there for every path that leads into it, and files written into it under
their names are the entries that it lists. `HasDirectory` says that a path leads to a directory;
`inside` is the entry of a name there. Writing sets the entry of one name and no other
(`write_inside`), and a listing shows exactly the names that have an entry (`mem_namesAt`).
-/

namespace FleetScaling.Files

open FleetScaling.Text

/-! ## Entries -/

theorem lookup_map_replace {place : Place} {entry : Entry} (entries : List (Place × Entry))
    (q : Place) :
    (entries.map fun e => if e.1 = place then (place, entry) else e).lookup q =
      if q = place then (entries.lookup q).map fun _ => entry else entries.lookup q := by
  induction entries with
  | nil => simp
  | cons e entries ih =>
    obtain ⟨p, old⟩ := e
    have other {p' : Place} {v : Entry} (h : ¬ q = p') (l : List (Place × Entry)) :
        ((p', v) :: l).lookup q = l.lookup q := by
      rw [List.lookup_cons, beq_eq_false_iff_ne.2 h]
    rw [List.map_cons]
    by_cases hq : q = p
    · subst hq
      by_cases hp : q = place
      · subst hp
        rw [if_pos rfl, if_pos rfl, List.lookup_cons_self, List.lookup_cons_self]
        rfl
      · rw [if_neg hp, if_neg hp, List.lookup_cons_self, List.lookup_cons_self]
    · by_cases hp : p = place
      · subst hp
        rw [if_pos rfl, other hq, other hq, ih]
      · rw [if_neg hp, other hq, other hq, ih]

/-- Setting an entry changes what is at its place, and nothing else. -/
theorem entry_set {place : Place} (hp : place ≠ []) (files : Files) (entry : Entry) (q : Place) :
    entry? (files.set place entry) q = if q = place then some entry else files.entry? q := by
  unfold entry? set
  by_cases hq : q = []
  · rw [if_pos hq, if_neg (hq ▸ hp.symm), if_pos hq]
  rw [if_neg hq, if_neg hq]
  by_cases hany : files.entries.any (·.1 == place)
  · rw [if_pos hany, lookup_map_replace]
    by_cases hqp : q = place
    · have hsome : (files.entries.lookup q).isSome := by
        rw [List.lookup_isSome_iff, hqp]
        obtain ⟨e, he, heq⟩ := List.any_eq_true.1 hany
        exact ⟨e, he, by rw [eq_of_beq heq, beq_self_eq_true]⟩
      obtain ⟨old, hold⟩ := Option.isSome_iff_exists.1 hsome
      rw [if_pos hqp, if_pos hqp, hold]
      rfl
    · rw [if_neg hqp, if_neg hqp]
  · have hnone : files.entries.lookup place = none := by
      rw [List.lookup_eq_none_iff]
      intro e he
      rw [bne_iff_ne]
      rintro rfl
      exact hany (List.any_eq_true.2 ⟨e, he, beq_self_eq_true _⟩)
    rw [if_neg hany, List.lookup_append, List.lookup_cons, List.lookup_nil]
    by_cases hqp : q = place
    · rw [if_pos hqp, hqp, hnone, beq_self_eq_true]
      rfl
    · rw [if_neg hqp, beq_eq_false_iff_ne.2 hqp]
      exact Option.or_none

/-! ## Names at a place -/

/-- The names of the entries right below a place. -/
def namesAt (files : Files) (place : Place) : List String :=
  files.entries.filterMap fun entry =>
    if entry.1.dropLast = place then entry.1.getLast? else none

theorem mem_namesAt {files : Files} {place : Place} {name : String} :
    name ∈ files.namesAt place ↔ files.entry? (place ++ [name]) ≠ none := by
  have hne : place ++ [name] ≠ [] := List.append_ne_nil_of_right_ne_nil _ (List.cons_ne_nil _ _)
  unfold namesAt entry?
  rw [if_neg hne, Option.ne_none_iff_isSome, List.lookup_isSome_iff, List.mem_filterMap]
  constructor
  · rintro ⟨e, he, hname⟩
    split at hname
    · rename_i hplace
      obtain ⟨above, habove⟩ := List.getLast?_eq_some_iff.1 hname
      rw [habove, List.dropLast_concat] at hplace
      exact ⟨e, he, beq_iff_eq.2 (by rw [habove, hplace])⟩
    · cases hname
  · rintro ⟨e, he, heq⟩
    refine ⟨e, he, ?_⟩
    rw [← beq_iff_eq.1 heq, List.dropLast_concat, if_pos rfl, List.getLast?_concat]

/-- A name that has an entry already stays where it is, another one comes last. -/
theorem namesAt_set {files : Files} {place : Place} {name : String} {entry : Entry} :
    (files.set (place ++ [name]) entry).namesAt place =
      if name ∈ files.namesAt place then files.namesAt place
      else files.namesAt place ++ [name] := by
  have hany : files.entries.any (·.1 == place ++ [name]) ↔ name ∈ files.namesAt place := by
    have hne : place ++ [name] ≠ [] := List.append_ne_nil_of_right_ne_nil _ (List.cons_ne_nil _ _)
    rw [mem_namesAt, entry?, if_neg hne, Option.ne_none_iff_isSome, List.lookup_isSome_iff,
      List.any_eq_true]
    exact exists_congr fun e => and_congr_right fun _ => by rw [beq_iff_eq, beq_iff_eq, eq_comm]
  unfold set
  by_cases h : name ∈ files.namesAt place
  · rw [if_pos (hany.2 h), if_pos h]
    unfold namesAt
    rw [List.filterMap_map]
    refine congrArg (files.entries.filterMap ·) (funext fun e => ?_)
    have key : (if e.1 = place ++ [name] then (place ++ [name], entry) else e).1 = e.1 := by
      split
      · exact Eq.symm ‹_›
      · rfl
    dsimp only [Function.comp_apply]
    rw [key]
  · rw [if_neg (mt hany.1 h), if_neg h]
    unfold namesAt
    rw [List.filterMap_append]
    refine congrArg (_ ++ ·) ?_
    rw [List.filterMap_cons_some (b := name)]
    · rfl
    · rw [List.dropLast_concat, if_pos rfl, List.getLast?_concat]

theorem nodup_namesAt_set {files : Files} {place : Place} {name : String} {entry : Entry}
    (h : (files.namesAt place).Nodup) :
    ((files.set (place ++ [name]) entry).namesAt place).Nodup := by
  rw [namesAt_set]
  split
  · exact h
  · rename_i hnew
    refine List.nodup_append.2 ⟨h, List.pairwise_singleton _ _, fun a ha b hb => ?_⟩
    rintro rfl
    exact hnew (List.mem_singleton.1 hb ▸ ha)

/-! ## Directories along a path -/

/-- The place that names lead to. -/
def placeOf (names : List String) : Place := names.foldl step []

/-- Directories are at every place on the way along names. -/
def Along (files : Files) : Place → List String → Prop
  | _, [] => True
  | place, name :: names =>
    files.entry? (step place name) = some .directory ∧ Along files (step place name) names

theorem Along.append {files : Files} {a b : List String} {place : Place} :
    files.Along place (a ++ b) ↔ files.Along place a ∧ files.Along (a.foldl step place) b := by
  induction a generalizing place with
  | nil => exact ⟨fun h => ⟨trivial, h⟩, And.right⟩
  | cons name a ih =>
    show _ ∧ files.Along _ (a ++ b) ↔ (_ ∧ _) ∧ _
    rw [ih, and_assoc]
    rfl

theorem Along.mono {files later : Files}
    (h : ∀ place, files.entry? place = some .directory → later.entry? place = some .directory)
    {place : Place} {names : List String} (ha : files.Along place names) :
    later.Along place names := by
  induction names generalizing place with
  | nil => trivial
  | cons name names ih => exact ⟨h _ ha.1, ih ha.2⟩

/-- A path along directories leads to one. -/
theorem resolve_of_along {files : Files} {place : Place} {names : List String}
    (h0 : files.entry? place = some .directory) (h : files.Along place names) :
    files.resolve place names = .ok (names.foldl step place) ∧
      files.entry? (names.foldl step place) = some .directory := by
  induction names generalizing place with
  | nil => exact ⟨rfl, h0⟩
  | cons name names ih =>
    unfold resolve
    rw [h0]
    exact ih h.1 h.2

theorem resolve_concat {files : Files} {place : Place} {names : List String}
    (h0 : files.entry? place = some .directory) (h : files.Along place names) (name : String) :
    files.resolve place (names ++ [name]) = .ok (step (names.foldl step place) name) := by
  induction names generalizing place with
  | nil =>
    rw [List.nil_append, resolve, h0]
    rfl
  | cons first names ih =>
    rw [List.cons_append, resolve, h0]
    exact ih h.1 h.2

theorem makeAlong_of_along {files : Files} {place : Place} {names : List String}
    (h : files.Along place names) : files.makeAlong place names = .ok files := by
  induction names generalizing place with
  | nil => rfl
  | cons name names ih =>
    unfold makeAlong
    dsimp only
    rw [h.1]
    exact ih h.2

theorem ne_nil_of_none {files : Files} {place : Place} (hnone : files.entry? place = none) :
    place ≠ [] := by
  rintro rfl
  cases hnone

/-- An entry where there was none leaves the others. -/
theorem entry_set_of_none {files : Files} {place : Place} {entry : Entry}
    (hnone : files.entry? place = none) {q : Place} {other : Entry}
    (hq : files.entry? q = some other) : entry? (files.set place entry) q = some other := by
  rw [entry_set (ne_nil_of_none hnone), if_neg]
  · exact hq
  · rintro rfl
    rw [hnone] at hq
    cases hq

/-- What making directories does: those along the names are there, all entries that were there stay,
and no file comes in. -/
theorem makeAlong_ok {files made : Files} {place : Place} {names : List String}
    (h : files.makeAlong place names = .ok made) : made.Along place names ∧
      (∀ q entry, files.entry? q = some entry → made.entry? q = some entry) := by
  induction names generalizing files place with
  | nil =>
    cases h
    exact ⟨trivial, fun _ _ hq => hq⟩
  | cons name names ih =>
    unfold makeAlong at h
    dsimp only at h
    rcases hnext : files.entry? (step place name) with _ | entry
    · rw [hnext] at h
      obtain ⟨along, keeps⟩ := ih h
      refine ⟨⟨keeps _ _ ?_, along⟩, fun q entry hq => keeps q entry (entry_set_of_none hnext hq)⟩
      rw [entry_set (ne_nil_of_none hnext), if_pos rfl]
    · cases entry with
      | file text =>
        rw [hnext] at h
        cases h
      | directory =>
        rw [hnext] at h
        obtain ⟨along, keeps⟩ := ih h
        exact ⟨⟨keeps _ _ hnext, along⟩, keeps⟩

/-- A path along which directories can be made leads along directories, or to nothing. -/
theorem along_of_makeAlong {files made : Files} {place : Place} {names : List String}
    (h0 : files.entry? place = some .directory) (h : files.makeAlong place names = .ok made) :
    files.Along place names ∨ files.resolve place names = .error .notFound ∨
      ∃ last, files.resolve place names = .ok last ∧ files.entry? last = none := by
  induction names generalizing place with
  | nil => exact Or.inl trivial
  | cons name names ih =>
    unfold makeAlong at h
    unfold resolve
    rw [h0]
    dsimp only at h ⊢
    rcases hnext : files.entry? (step place name) with _ | entry
    · refine Or.inr ?_
      cases names with
      | nil => exact Or.inr ⟨_, rfl, hnext⟩
      | cons second names =>
        unfold resolve
        rw [hnext]
        exact Or.inl rfl
    · cases entry with
      | file text =>
        rw [hnext] at h
        cases h
      | directory =>
        rw [hnext] at h
        exact (ih hnext h).imp_left fun along => ⟨hnext, along⟩

/-! ## Paths -/

section Pieces

variable {p : Char → Bool}

theorem pieces_ne_nil (cs : List Char) : pieces p cs ≠ [] := by
  cases cs with
  | nil => exact List.cons_ne_nil _ _
  | cons c cs =>
    unfold pieces
    split
    · exact List.cons_ne_nil _ _
    · split <;> exact List.cons_ne_nil _ _

theorem pieces_plain {cs : List Char} (h : ∀ c ∈ cs, p c = false) : pieces p cs = [cs] := by
  induction cs with
  | nil => rfl
  | cons c cs ih =>
    unfold pieces
    rw [h c List.mem_cons_self, ih fun d hd => h d (List.mem_cons_of_mem c hd)]
    rfl

theorem pieces_append {c : Char} (h : p c) (a b : List Char) :
    pieces p (a ++ c :: b) = pieces p a ++ pieces p b := by
  induction a with
  | nil =>
    show (if p c then [] :: pieces p b else _) = _
    rw [if_pos h]
    rfl
  | cons x a ih =>
    rw [List.cons_append, pieces, pieces, ih]
    by_cases hx : p x
    · rw [if_pos hx, if_pos hx]
      rfl
    · rw [if_neg hx, if_neg hx]
      cases ha : pieces p a with
      | nil => exact absurd ha (pieces_ne_nil a)
      | cons piece rest => rfl

/-- A text that does not end at a separator has a last piece that is not empty. -/
theorem getLast?_pieces {cs : List Char} (hne : cs ≠ []) (h : ∀ c ∈ cs.getLast?, p c = false) :
    (pieces p cs).getLast? ≠ some [] := by
  induction cs with
  | nil => exact absurd rfl hne
  | cons c cs ih =>
    cases cs with
    | nil =>
      rw [pieces_plain fun d hd => h d (by rw [List.mem_singleton.1 hd]; rfl)]
      simp
    | cons d cs =>
      have ih := ih (List.cons_ne_nil d cs) h
      unfold pieces
      split
      · rwa [List.getLast?_cons_of_ne_nil (pieces_ne_nil _)]
      · split
        · simp
        · rename_i piece rest hrest
          rw [hrest] at ih
          cases rest with
          | nil => simp
          | cons next rest => exact ih

end Pieces

/-- The names of a path, from its pieces. -/
theorem namesOf_eq {path : String} {parts : List String}
    (h : (pieces (· == '/') path.toList).map String.ofList = parts) :
    namesOf path = (if parts.length > 1 && parts.head? = some "" then ["/"] else []) ++
      parts.filter (· ≠ "") ++ (if parts.length > 1 && parts.getLast? = some "" then ["."] else []) := by
  unfold namesOf
  rw [h]

/-- The names of some pieces that another one follows. -/
def leading (parts : List String) : List String :=
  (if parts.head? = some "" then ["/"] else []) ++ parts.filter (· ≠ "")

theorem namesOf_concat {path : String} {parts : List String} {last : String}
    (h : (pieces (· == '/') path.toList).map String.ofList = parts ++ [last]) (hne : parts ≠ []) :
    namesOf path = leading parts ++ (if last = "" then ["."] else [last]) := by
  have hlength : (parts ++ [last]).length > 1 := by
    have := List.length_pos_iff.2 hne
    rw [List.length_append]
    exact Nat.lt_add_of_pos_left this
  have hhead : (parts ++ [last]).head? = parts.head? := by
    cases parts with
    | nil => exact absurd rfl hne
    | cons x parts => rfl
  rw [namesOf_eq h, hhead, List.getLast?_concat, List.filter_append, decide_eq_true hlength]
  unfold leading
  by_cases hlast : last = ""
  · simp [hlast]
  · simp [hlast]

theorem namesOf_of_last {path : String} {parts : List String}
    (h : (pieces (· == '/') path.toList).map String.ofList = parts) (hne : parts ≠ [])
    (hlast : parts.getLast? ≠ some "") : namesOf path = leading parts := by
  obtain ⟨first, last, rfl⟩ := (List.eq_nil_or_concat parts).resolve_left hne
  rw [List.concat_eq_append] at h hlast ⊢
  rw [List.getLast?_concat] at hlast
  have hlast : last ≠ "" := fun heq => hlast (congrArg some heq)
  cases first with
  | nil =>
    rw [namesOf_eq h]
    unfold leading
    simp [hlast]
  | cons x first =>
    rw [namesOf_concat h (List.cons_ne_nil x first), if_neg hlast]
    unfold leading
    have filtered : [last].filter (· ≠ "") = [last] := by simp [hlast]
    rw [List.filter_append, filtered, ← List.append_assoc]
    rfl

/-- A name that stands for an entry of a directory. -/
structure IsPlain (name : String) : Prop where
  whole : '/' ∉ name.toList
  ne_empty : name ≠ ""
  ne_dot : name ≠ "."
  ne_dots : name ≠ ".."

theorem IsPlain.step {name : String} (h : IsPlain name) (place : Place) :
    step place name = place ++ [name] := by
  unfold Files.step
  rw [if_neg h.ne_dot, if_neg h.ne_dots]

/-- A name after a slash is the last piece. -/
theorem IsPlain.pieces_concat {name : String} (h : IsPlain name) (a : List Char) :
    (pieces (· == '/') (a ++ '/' :: name.toList)).map String.ofList =
      (pieces (· == '/') a).map String.ofList ++ [name] := by
  have plain : pieces (· == '/') name.toList = [name.toList] :=
    pieces_plain fun c hc => by
      rw [beq_eq_false_iff_ne]
      rintro rfl
      exact h.whole hc
  rw [pieces_append rfl, plain, List.map_append, List.map_singleton, String.ofList_toList]

/-- A name that is added to the path of a directory comes after the names of the path, but for the
dot that a slash at its end stands for. -/
theorem namesOf_joinPath {directory name : String} (hd : directory ≠ "") (hn : IsPlain name) :
    ∃ base, namesOf (joinPath directory name) = base ++ [name] ∧
      (namesOf directory = base ∨ namesOf directory = base ++ ["."]) := by
  have hcs : directory.toList ≠ [] := fun h => hd (String.toList_eq_nil_iff.1 h)
  have parts_ne (a : List Char) : (pieces (· == '/') a).map String.ofList ≠ [] :=
    fun h => pieces_ne_nil a (List.map_eq_nil_iff.1 h)
  unfold joinPath
  rw [String.isEmpty_eq_false_iff.2 hd, Bool.false_or, String.endsWith_char_eq_getLast?]
  by_cases hslash : directory.toList.getLast? = some '/'
  · obtain ⟨a, ha⟩ := List.getLast?_eq_some_iff.1 hslash
    rw [if_pos (beq_iff_eq.2 hslash)]
    refine ⟨leading ((pieces (· == '/') a).map String.ofList), ?_, Or.inr ?_⟩
    · rw [namesOf_concat _ (parts_ne a), if_neg hn.ne_empty]
      rw [String.toList_append, ha, List.append_assoc]
      exact hn.pieces_concat a
    · refine (namesOf_concat ?_ (parts_ne a)).trans (congrArg (_ ++ ·) (if_pos rfl))
      rw [ha, pieces_append rfl, List.map_append]
      rfl
  · rw [if_neg (mt beq_iff_eq.1 hslash)]
    refine ⟨leading ((pieces (· == '/') directory.toList).map String.ofList), ?_, Or.inl ?_⟩
    · rw [namesOf_concat _ (parts_ne directory.toList), if_neg hn.ne_empty]
      rw [String.toList_append, String.toList_append, List.append_assoc]
      exact hn.pieces_concat directory.toList
    · have hlast := getLast?_pieces hcs (p := (· == '/')) fun c hc => by
        rw [beq_eq_false_iff_ne]
        rintro rfl
        exact hslash hc
      refine namesOf_of_last rfl (parts_ne _) fun h => hlast ?_
      rw [List.getLast?_map] at h
      obtain ⟨last, hpiece, hempty⟩ := Option.map_eq_some_iff.1 h
      rw [hpiece, String.ofList_eq_empty_iff.1 hempty]

/-! ## Directories -/

/-- The path leads to a directory. -/
structure HasDirectory (files : Files) (path : String) : Prop where
  ne_empty : path ≠ ""
  along : files.Along [] (namesOf path)

/-- What a name stands for in the directory at a path. -/
def inside (files : Files) (path name : String) : Option Entry :=
  files.entry? (placeOf (namesOf path) ++ [name])

/-- A path that is resolved is looked up there. -/
theorem locate_of_resolve {files : Files} {path : String} {place : Place} (hne : path ≠ "")
    (hresolve : files.resolve [] (namesOf path) = .ok place) :
    files.locate path =
      match files.entry? place with
      | none => .error .notFound
      | some entry => .ok (place, entry) := by
  unfold locate
  rw [if_neg (mt String.isEmpty_iff.1 hne), hresolve]
  rfl

namespace HasDirectory

variable {files : Files} {path name : String}

theorem resolve (h : files.HasDirectory path) :
    files.resolve [] (namesOf path) = .ok (placeOf (namesOf path)) ∧
      files.entry? (placeOf (namesOf path)) = some .directory :=
  resolve_of_along rfl h.along

theorem makeDirectory (h : files.HasDirectory path) : files.makeDirectory path = .ok files :=
  makeAlong_of_along h.along

theorem locate (h : files.HasDirectory path) :
    files.locate path = .ok (placeOf (namesOf path), .directory) := by
  obtain ⟨hresolve, hentry⟩ := h.resolve
  rw [locate_of_resolve h.ne_empty hresolve, hentry]

theorem list (h : files.HasDirectory path) :
    files.list path = .ok (files.namesAt (placeOf (namesOf path))) := by
  unfold Files.list
  rw [h.locate]
  rfl

/-- The path of a name in the directory leads to its place. -/
theorem resolve_name (h : files.HasDirectory path) (hn : IsPlain name) :
    files.resolve [] (namesOf (joinPath path name)) = .ok (placeOf (namesOf path) ++ [name]) := by
  obtain ⟨base, hjoined, hbase⟩ := namesOf_joinPath h.ne_empty hn
  have hplace : placeOf (namesOf path) = base.foldl step [] := by
    unfold placeOf
    rcases hbase with hbase | hbase
    · rw [hbase]
    · rw [hbase, List.foldl_append]
      rfl
  have halong : files.Along [] base := by
    have := h.along
    rcases hbase with hbase | hbase
    · rwa [hbase] at this
    · rw [hbase] at this
      exact (Along.append.1 this).1
  rw [hjoined, hplace, resolve_concat rfl halong, hn.step]

theorem joinPath_ne_empty (h : files.HasDirectory path) : joinPath path name ≠ "" := by
  intro hempty
  have := congrArg String.toList hempty
  unfold joinPath at this
  refine h.ne_empty (String.toList_eq_nil_iff.1 ?_)
  split at this
  · rw [String.toList_append] at this
    exact (List.append_eq_nil_iff.1 this).1
  · rw [String.toList_append, String.toList_append] at this
    exact (List.append_eq_nil_iff.1 (List.append_eq_nil_iff.1 this).1).1

/-- What was written is read. -/
theorem read (h : files.HasDirectory path) (hn : IsPlain name) {text : String}
    (he : files.inside path name = some (.file (some text))) :
    files.read (joinPath path name) = .ok text := by
  have hlocate : files.locate (joinPath path name) =
      .ok (placeOf (namesOf path) ++ [name], .file (some text)) := by
    rw [locate_of_resolve h.joinPath_ne_empty (h.resolve_name hn), show files.entry? _ = _ from he]
  unfold Files.read
  rw [hlocate]

/-- Writing sets the entry of the name. -/
theorem write (h : files.HasDirectory path) (hn : IsPlain name)
    (he : files.inside path name ≠ some .directory) (text : String) :
    files.write (joinPath path name) text =
      .ok (files.set (placeOf (namesOf path) ++ [name]) (.file (some text))) := by
  unfold Files.write
  rw [if_neg (mt String.isEmpty_iff.1 h.joinPath_ne_empty), h.resolve_name hn]
  simp only [bind, Except.bind]
  split
  · exact absurd ‹_› he
  · rfl

end HasDirectory

/-! ## Vacant directories -/

/-- A directory that is there with nothing in it, or can be made. -/
def Vacant (files : Files) (path : String) : Prop :=
  ∃ made, files.makeDirectory path = .ok made ∧ made.list path = .ok []

theorem HasDirectory.of_made {files made : Files} {path : String} {names : List String}
    (h : files.makeDirectory path = .ok made) (hlist : made.list path = .ok names) :
    made.HasDirectory path := by
  refine ⟨?_, (makeAlong_ok h).1⟩
  rintro rfl
  cases hlist

/-- Nothing is listed for a vacant directory. -/
theorem Vacant.list {files : Files} {path : String} (h : files.Vacant path) :
    files.list path = .ok [] ∨ files.list path = .error .notFound := by
  obtain ⟨made, hmade, hlist⟩ := h
  have hne := (HasDirectory.of_made hmade hlist).ne_empty
  rcases along_of_makeAlong rfl hmade with along | missing
  · have here : files.HasDirectory path := ⟨hne, along⟩
    obtain rfl : files = made := Except.ok.inj (here.makeDirectory.symm.trans hmade)
    exact Or.inl hlist
  · refine Or.inr ?_
    have hlocate : files.locate path = .error .notFound := by
      rcases missing with hresolve | ⟨last, hresolve, hentry⟩
      · unfold locate
        rw [if_neg (mt String.isEmpty_iff.1 hne), hresolve]
        rfl
      · rw [locate_of_resolve hne hresolve, hentry]
    unfold Files.list
    rw [hlocate]

section Writing

variable {files : Files} {path name : String} {text : String}

theorem concat_ne_nil (place : Place) (name : String) : place ++ [name] ≠ [] :=
  List.append_ne_nil_of_right_ne_nil _ (List.cons_ne_nil _ _)

/-- A file that is written takes the place of the entry of its name, and of no other. -/
theorem inside_set (path name other : String) (entry : Entry) :
    (files.set (placeOf (namesOf path) ++ [name]) entry).inside path other =
      if other = name then some entry else files.inside path other := by
  unfold inside
  rw [entry_set (concat_ne_nil _ _)]
  by_cases h : other = name
  · rw [h, if_pos rfl, if_pos rfl]
  · rw [if_neg h, if_neg]
    intro heq
    exact h (List.cons.inj (List.append_cancel_left heq)).1

/-- The directory stays where it is. -/
theorem HasDirectory.set (h : files.HasDirectory path) (he : files.inside path name ≠ some .directory)
    (entry : Entry) :
    (files.set (placeOf (namesOf path) ++ [name]) entry).HasDirectory path := by
  refine ⟨h.ne_empty, h.along.mono fun place hplace => ?_⟩
  rw [entry_set (concat_ne_nil _ _), if_neg]
  · exact hplace
  · rintro rfl
    exact he hplace

end Writing

end FleetScaling.Files
