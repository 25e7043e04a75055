/-!
# The last word

Events change a state one after another, and each of them settles what is observed of the state, or
has nothing to say about it. Then what is observed in the end is what the last event about it said
(`observed_foldl`).
-/

namespace FleetScaling

universe u

theorem getD_getLast?_append {α : Type} (o : Option α) (l : List α) (a : α) :
    (o.toList ++ l).getLast?.getD a = l.getLast?.getD (o.getD a) := by
  cases o with
  | none => rfl
  | some b =>
    show (b :: l).getLast?.getD a = l.getLast?.getD b
    rw [List.getLast?_cons]
    rfl

theorem filterMap_cons_toList {α : Type} {ε : Type u} (f : ε → Option α) (e : ε) (es : List ε) :
    (e :: es).filterMap f = (f e).toList ++ es.filterMap f := by
  rw [List.filterMap_cons]
  cases f e <;> rfl

/-- By induction on the events: what the first says is what is observed before the others. -/
theorem observed_foldl {σ α : Type} {ε : Type u} {step : σ → ε → σ} (observe : σ → α)
    {says? : ε → Option α} (h : ∀ s e, observe (step s e) = (says? e).getD (observe s)) (s : σ)
    (es : List ε) :
    observe (es.foldl step s) = (es.filterMap says?).getLast?.getD (observe s) := by
  induction es generalizing s with
  | nil => rfl
  | cons e es ih => rw [List.foldl_cons, ih, h, filterMap_cons_toList, getD_getLast?_append]

end FleetScaling
