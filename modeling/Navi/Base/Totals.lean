import Mathlib
import Navi.Base.Table

/-!
# Totals over a table

The sum of a weight over the rows of a table, and how the operations on the table change
it. A counter that is kept beside the rows is right if it is such a total.
-/

namespace Navi.Base.Table

universe u v

variable {κ : Type u} {ρ : Type v} {key : ρ → κ} {t : Table κ ρ key} {weight : ρ → Int}

/-- The sum of a weight over the rows. -/
def total (t : Table κ ρ key) (weight : ρ → Int) : Int := (t.rows.map weight).sum

theorem total_congr {weight' : ρ → Int} (h : ∀ r ∈ t.rows, weight r = weight' r) :
    t.total weight = t.total weight' := by
  rw [total, total, List.map_congr_left h]

theorem weight_le_total (h : ∀ r ∈ t.rows, 0 ≤ weight r) {r : ρ} (hr : r ∈ t.rows) :
    weight r ≤ t.total weight := by
  refine List.single_le_sum (fun x hx => ?_) (weight r) (List.mem_map_of_mem hr)
  obtain ⟨r, hr, rfl⟩ := List.mem_map.mp hx
  exact h r hr

variable [DecidableEq κ]

theorem total_insertOrIgnore {new : ρ} (hfresh : t.get? (key new) = none) :
    (t.insertOrIgnore new).total weight = t.total weight + weight new := by
  rw [total, total, rows_insertOrIgnore hfresh, List.map_append, List.sum_append]
  simp

theorem sum_map_set (weight : ρ → Int) (set : ρ → ρ) {rows : List ρ}
    (hnodup : (rows.map key).Nodup) {old : ρ} (hold : old ∈ rows) :
    ((rows.map fun r => if key r = key old then set r else r).map weight).sum
      = (rows.map weight).sum - weight old + weight (set old) := by
  induction rows with
  | nil => cases hold
  | cons r rest ih =>
      rw [List.map_cons, List.nodup_cons] at hnodup
      rcases List.mem_cons.mp hold with rfl | hmem
      · have hrest : (rest.map fun r' => if key r' = key old then set r' else r') = rest := by
          refine (List.map_congr_left fun r' hr' => if_neg fun hsame => ?_).trans (List.map_id rest)
          exact hnodup.1 (hsame ▸ List.mem_map_of_mem hr')
        rw [List.map_cons, if_pos rfl, hrest]
        simp only [List.map_cons, List.sum_cons]
        omega
      · have hne : key r ≠ key old := fun hsame => hnodup.1 (hsame ▸ List.mem_map_of_mem hmem)
        have hrest := ih hnodup.2 hmem
        rw [List.map_cons, if_neg hne]
        simp only [List.map_cons, List.sum_cons]
        omega

theorem total_update {k : κ} {set : ρ → ρ} {hset : ∀ r, key (set r) = key r} {old : ρ}
    (hold : t.get? k = some old) :
    (t.update (fun r => key r = k) set hset).total weight
      = t.total weight - weight old + weight (set old) := by
  obtain ⟨hmem, rfl⟩ := get?_eq_some_iff.mp hold
  have hset := sum_map_set weight set t.nodup hmem
  rw [total, total, ← hset]
  simp only [update, updateRows, decide_eq_true_eq]

end Navi.Base.Table
