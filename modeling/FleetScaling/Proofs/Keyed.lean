import FleetScaling.Keyed
import FleetScaling.Proofs.LastWord
import Mathlib.Data.List.Nodup

/-!
# Look-ups in keyed collections

The entries of a keyed collection are what its look-ups find (`Keyed.find?_eq_some_iff`), and of a
list of entries the collection keeps, for each key, the last value (`Keyed.find?_ofList`).
Collections are the same, whatever the order of their entries, if their look-ups are (`Keyed.Same`).
-/

namespace FleetScaling

variable {α β : Type}

theorem lookup_eq_none_iff {entries : List (String × α)} {key : String} :
    entries.lookup key = none ↔ key ∉ entries.map Prod.fst := by
  rw [List.lookup_eq_none_iff]
  constructor
  · rintro h hkey
    obtain ⟨entry, hentry, rfl⟩ := List.mem_map.1 hkey
    exact absurd (h entry hentry) (by rw [bne_self_eq_false]; exact Bool.false_ne_true)
  · intro h entry hentry
    rw [bne_iff_ne]
    rintro rfl
    exact h (List.mem_map_of_mem hentry)

theorem mem_of_lookup {entries : List (String × α)} {key : String} {a : α}
    (h : entries.lookup key = some a) : (key, a) ∈ entries := by
  obtain ⟨before, after, rfl, _⟩ := List.lookup_eq_some_iff.1 h
  exact List.mem_append_right _ List.mem_cons_self

theorem lookup_putEntry (key k : String) (value : α) (entries : List (String × α)) :
    (putEntry key value entries).lookup k =
      if key = k then some value else entries.lookup k := by
  induction entries with
  | nil =>
    rw [putEntry, List.lookup_cons]
    by_cases hkey : key = k
    · rw [if_pos hkey, hkey, beq_self_eq_true]
    · rw [if_neg hkey, beq_eq_false_iff_ne.2 (Ne.symm hkey)]
  | cons entry rest ih =>
    rw [putEntry, List.lookup_cons]
    by_cases hentry : entry.1 = key
    · rw [if_pos hentry, List.lookup_cons, hentry]
      by_cases hkey : key = k
      · rw [if_pos hkey, hkey, beq_self_eq_true]
      · rw [if_neg hkey, beq_eq_false_iff_ne.2 (Ne.symm hkey)]
    · rw [if_neg hentry, List.lookup_cons, ih]
      by_cases hkey : key = k
      · subst hkey
        rw [beq_eq_false_iff_ne.2 (Ne.symm hentry), if_pos rfl]
      · rw [if_neg hkey, if_neg hkey]

/-- A new entry comes last. -/
theorem putEntry_of_not_mem {key : String} {value : α} {entries : List (String × α)}
    (h : key ∉ entries.map Prod.fst) : putEntry key value entries = entries ++ [(key, value)] := by
  induction entries with
  | nil => rfl
  | cons entry rest ih =>
    obtain ⟨hentry, hrest⟩ := not_or.1 (mt List.mem_cons.2 h)
    rw [putEntry, if_neg (Ne.symm hentry), ih hrest, List.cons_append]

/-- The values of the entries with a key, in order. -/
def valuesUnder (key : String) (entries : List (String × α)) : List α :=
  entries.filterMap fun entry => if entry.1 = key then some entry.2 else none

theorem valuesUnder_cons_self (entry : String × α) (entries : List (String × α)) :
    valuesUnder entry.1 (entry :: entries) = entry.2 :: valuesUnder entry.1 entries :=
  List.filterMap_cons_some (if_pos rfl)

theorem valuesUnder_cons_of_ne {entry : String × α} {key : String} (h : entry.1 ≠ key)
    (entries : List (String × α)) : valuesUnder key (entry :: entries) = valuesUnder key entries :=
  List.filterMap_cons_none (if_neg h)

namespace Keyed

theorem find?_eq_some_iff {c : Keyed α} {key : String} {a : α} :
    c.find? key = some a ↔ (key, a) ∈ c.entries :=
  ⟨mem_of_lookup, fun h => lookup_of_mem c.nodup h⟩

theorem find?_put (c : Keyed α) (key k : String) (value : α) :
    (c.put key value).find? k = if key = k then some value else c.find? k :=
  lookup_putEntry key k value c.entries

/-- Of a list of entries, the last one with a key counts. -/
theorem find?_ofList (entries : List (String × α)) (key : String) :
    (ofList entries).find? key = (valuesUnder key entries).getLast? := by
  have hput (c : Keyed α) (entry : String × α) : (c.put entry.1 entry.2).find? key =
      (if entry.1 = key then some (some entry.2) else none).getD (c.find? key) := by
    rw [find?_put]
    split <;> rfl
  have hmap : (entries.filterMap fun entry => if entry.1 = key then some (some entry.2) else none) =
      (valuesUnder key entries).map some := by
    rw [valuesUnder, List.map_filterMap]
    refine List.filterMap_congr fun entry _ => ?_
    split <;> rfl
  unfold ofList
  rw [observed_foldl (fun c : Keyed α => c.find? key) hput, hmap, List.getLast?_map]
  cases (valuesUnder key entries).getLast? with
  | none => rfl
  | some a => rfl

/-- Entries with distinct keys make the collection that they are. -/
theorem ofList_entries (c : Keyed α) : ofList c.entries = c := by
  have go (rest : List (String × α)) (c : Keyed α)
      (nodup : ((c.entries ++ rest).map Prod.fst).Nodup) :
      (rest.foldl (fun c entry => c.put entry.1 entry.2) c).entries = c.entries ++ rest := by
    induction rest generalizing c with
    | nil => exact (List.append_nil _).symm
    | cons entry rest ih =>
      have fresh : entry.1 ∉ c.entries.map Prod.fst := by
        rw [List.map_append, List.nodup_append] at nodup
        exact fun h => nodup.2.2 _ h _ List.mem_cons_self rfl
      have hput : (c.put entry.1 entry.2).entries = c.entries ++ [entry] :=
        putEntry_of_not_mem fresh
      rw [List.foldl_cons, ih, hput, List.append_assoc, List.singleton_append]
      rwa [hput, List.append_assoc, List.singleton_append]
  have hentries := go c.entries empty c.nodup
  cases hc : ofList c.entries with
  | mk entries nodup =>
    obtain rfl : entries = c.entries := (congrArg Keyed.entries hc).symm.trans hentries
    rfl

theorem exists_of_rel {R : α → β → Prop} {x : Option α} {y : Option β} (h : Option.Rel R x y) :
    (x = none ∧ y = none) ∨ ∃ a b, x = some a ∧ y = some b ∧ R a b := by
  cases h with
  | some hab => exact Or.inr ⟨_, _, rfl, rfl, hab⟩
  | none => exact Or.inl ⟨rfl, rfl⟩

/-- Two collections have the same keys, with values that are related. -/
def Same (R : α → β → Prop) (c : Keyed α) (c' : Keyed β) : Prop :=
  ∀ key, Option.Rel R (c.find? key) (c'.find? key)

theorem Same.symm {R : α → β → Prop} {S : β → α → Prop} (hRS : ∀ {a b}, R a b → S b a) {c : Keyed α}
    {c' : Keyed β} (h : c.Same R c') : c'.Same S c := by
  intro key
  rcases exists_of_rel (h key) with ⟨hc, hc'⟩ | ⟨a, b, hc, hc', hab⟩
  · rw [hc, hc']
    exact .none
  · rw [hc, hc']
    exact .some (hRS hab)

theorem Same.find?_eq {c c' : Keyed α} (h : c.Same Eq c') (key : String) :
    c.find? key = c'.find? key := by
  rcases exists_of_rel (h key) with ⟨hc, hc'⟩ | ⟨a, b, hc, hc', rfl⟩
  · rw [hc, hc']
  · rw [hc, hc']

/-- The order of the entries does not matter. -/
theorem Same.of_perm {R : α → α → Prop} (hR : ∀ a, R a a) {c c' : Keyed α}
    (h : c.entries.Perm c'.entries) : c.Same R c' := by
  intro key
  have hfind : c.find? key = c'.find? key := by
    ext a
    rw [find?_eq_some_iff, find?_eq_some_iff, h.mem_iff]
  rw [hfind]
  cases c'.find? key with
  | none => exact .none
  | some a => exact .some (hR a)

end Keyed

end FleetScaling
