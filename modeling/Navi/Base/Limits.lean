import Mathlib.Order.BoundedOrder.Lattice
import Mathlib.Order.WithBot

/-!
# Numbers read as limits

A number that is not positive limits nothing, so numbers are compared as limits and not
as numbers. Intersecting two limits is then a meet, whichever of them are there.
-/

namespace Navi.Base

variable {α : Type*} [LinearOrder α] [Zero α]

def limitOf (n : α) : WithTop α := if 0 < n then n else ⊤

/-- A positive request under a limit. -/
def intersect (requested limit : α) : α := if 0 < limit then min requested limit else requested

theorem limitOf_of_pos {n : α} (h : 0 < n) : limitOf n = n := if_pos h

theorem limitOf_of_not_pos {n : α} (h : ¬ 0 < n) : limitOf n = ⊤ := if_neg h

theorem intersect_pos {requested limit : α} (h : 0 < requested) :
    0 < intersect requested limit := by
  unfold intersect
  split
  next hlimit => exact lt_min h hlimit
  next => exact h

theorem limitOf_intersect {requested limit : α} (h : 0 < requested) :
    limitOf (intersect requested limit) = limitOf requested ⊓ limitOf limit := by
  rw [limitOf_of_pos (intersect_pos h), limitOf_of_pos h]
  unfold intersect
  split
  next hlimit => rw [limitOf_of_pos hlimit, WithTop.coe_min]
  next hlimit => rw [limitOf_of_not_pos hlimit, inf_top_eq]

theorem limitOf_le_limitOf_iff {a b : α} (ha : 0 < a) :
    limitOf a ≤ limitOf b ↔ (0 < b → a ≤ b) := by
  rw [limitOf_of_pos ha]
  by_cases hb : 0 < b
  · rw [limitOf_of_pos hb, WithTop.coe_le_coe]
    exact ⟨fun h _ => h, fun h => h hb⟩
  · rw [limitOf_of_not_pos hb]
    exact ⟨fun _ hpos => absurd hpos hb, fun _ => le_top⟩

/-- A request is under both limits that it is intersected with: the one it was clamped to
and the one that may be none. -/
theorem limitOf_intersect_le {requested system limit : α} (hpos : 0 < requested)
    (hle : requested ≤ system) :
    limitOf (intersect requested limit) ≤ limitOf system
      ∧ limitOf (intersect requested limit) ≤ limitOf limit := by
  rw [limitOf_intersect hpos]
  exact ⟨inf_le_left.trans ((limitOf_le_limitOf_iff hpos).mpr fun _ => hle), inf_le_right⟩

end Navi.Base
