/-!
# Keyed collections

A collection in which every key occurs once. Entries keep the order in which their keys first
came; putting a value under a key that is there replaces the old value in its place.
-/

namespace FleetScaling

/-- The entries with `value` under `key`. -/
def putEntry (key : String) (value : α) : List (String × α) → List (String × α)
  | [] => [(key, value)]
  | entry :: rest =>
    if entry.1 = key then (key, value) :: rest else entry :: putEntry key value rest

theorem map_fst_putEntry (key : String) (value : α) (entries : List (String × α)) :
    (putEntry key value entries).map Prod.fst =
      if key ∈ entries.map Prod.fst then entries.map Prod.fst
      else entries.map Prod.fst ++ [key] := by
  induction entries with
  | nil => simp [putEntry]
  | cons entry rest ih =>
    by_cases h : entry.1 = key
    · simp [putEntry, h]
    · have h' : ¬ key = entry.1 := fun e => h e.symm
      simp only [putEntry, h, if_false, List.map_cons, ih, List.mem_cons, h', false_or]
      split <;> simp

theorem lookup_of_mem {entries : List (String × α)} (nodup : (entries.map Prod.fst).Nodup)
    {entry : String × α} (h : entry ∈ entries) : entries.lookup entry.1 = some entry.2 := by
  induction entries with
  | nil => cases h
  | cons first entries ih =>
    obtain ⟨hfirst, nodup⟩ := List.nodup_cons.1 nodup
    rw [List.lookup_cons]
    rcases List.mem_cons.1 h with rfl | h
    · rw [beq_self_eq_true]
    · have hne : entry.1 ≠ first.1 := by
        intro heq
        exact hfirst (heq ▸ List.mem_map_of_mem h)
      rw [beq_eq_false_iff_ne.2 hne]
      exact ih nodup h

/-- Values under keys that occur once each. -/
structure Keyed (α : Type) where
  entries : List (String × α)
  nodup : (entries.map Prod.fst).Nodup

namespace Keyed

/-- The collection without entries. -/
def empty : Keyed α := ⟨[], List.nodup_nil⟩

/-- The collection with `value` under `key`. -/
def put (c : Keyed α) (key : String) (value : α) : Keyed α where
  entries := putEntry key value c.entries
  nodup := by
    rw [map_fst_putEntry]
    split
    · exact c.nodup
    · rename_i h
      rw [List.nodup_append]
      refine ⟨c.nodup, by simp, ?_⟩
      intro a ha b hb
      simp only [List.mem_singleton] at hb
      subst hb
      exact fun e => h (e ▸ ha)

/-- The collection of a list of entries; of equal keys the last one counts. -/
def ofList (entries : List (String × α)) : Keyed α :=
  entries.foldl (fun c entry => c.put entry.1 entry.2) empty

/-- The value under a key. -/
def find? (c : Keyed α) (key : String) : Option α := c.entries.lookup key

/-- Whether there are no entries. -/
def isEmpty (c : Keyed α) : Bool := c.entries.isEmpty

end Keyed

end FleetScaling
