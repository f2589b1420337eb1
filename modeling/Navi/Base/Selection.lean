import Mathlib
import Navi.Base.Index

/-!
# Limits on a listing

A listing is cut at a limit. What is wanted is the limit of the rows that pass a filter, and
the filter may be applied before the cut or after it. Applied after, it leaves the foremost of
the rows that pass exactly where none that fails has taken the place of one that was cut off.
A row is before the cut exactly where fewer rows than the limit are served before it.
-/

namespace Navi.Base

variable {α β : Type} [LinearOrder β]

/-- How many of so many rows a limit leaves. -/
def limitCount (limit : Int) (total : Nat) : Nat :=
  if limit < 0 then total else min limit.toNat total

/-- The picked rows are as many of all as the limit leaves, and none that is left out has a
greater key than one that is picked. -/
def Foremost (key : α → β) (limit : Int) (all picked : List α) : Prop :=
  ∃ rest, (picked ++ rest).Perm all ∧ picked.length = limitCount limit all.length
    ∧ ∀ row ∈ picked, ∀ other ∈ rest, key other ≤ key row

theorem sqlLimit_eq_take (limit : Int) (rows : List α) :
    sqlLimit limit rows = rows.take (limitCount limit rows.length) := by
  unfold sqlLimit limitCount
  split
  · exact (List.take_length).symm
  · rw [← List.take_eq_take_min]

def cutOff (limit : Int) (rows : List α) : List α := rows.drop (limitCount limit rows.length)

theorem sqlLimit_append_cutOff (limit : Int) (rows : List α) :
    sqlLimit limit rows ++ cutOff limit rows = rows := by
  rw [sqlLimit_eq_take, cutOff, List.take_append_drop]

theorem length_sqlLimit (limit : Int) (rows : List α) :
    (sqlLimit limit rows).length = limitCount limit rows.length := by
  rw [sqlLimit_eq_take, List.length_take, min_eq_left]
  unfold limitCount
  split
  · exact le_refl _
  · exact min_le_right _ _

section

variable {key : α → β} {limit : Int} {all rows picked : List α} {passes : α → Bool}

theorem Foremost.of_perm (h : Foremost key limit rows picked) (hperm : rows.Perm all) :
    Foremost key limit all picked := by
  obtain ⟨rest, hrest, hlength, hkeys⟩ := h
  exact ⟨rest, hrest.trans hperm, by rw [hlength, hperm.length_eq], hkeys⟩

theorem Foremost.of_picked {picked' : List α} (h : Foremost key limit all picked)
    (hperm : picked.Perm picked') : Foremost key limit all picked' := by
  obtain ⟨rest, hrest, hlength, hkeys⟩ := h
  exact ⟨rest, (hperm.symm.append_right rest).trans hrest, by rw [← hperm.length_eq, hlength],
    fun row hrow => hkeys row (hperm.mem_iff.mpr hrow)⟩

theorem Foremost.length_eq (h : Foremost key limit all picked) :
    picked.length = limitCount limit all.length := by
  obtain ⟨rest, -, hlength, -⟩ := h
  exact hlength

theorem foremost_sqlLimit_iff :
    Foremost key limit rows (sqlLimit limit rows)
      ↔ ∀ row ∈ sqlLimit limit rows, ∀ other ∈ cutOff limit rows, key other ≤ key row := by
  constructor
  · rintro ⟨rest, hperm, -, hkeys⟩ row hrow other hother
    have hrest : rest.Perm (cutOff limit rows) := by
      rw [← List.perm_append_left_iff (sqlLimit limit rows), sqlLimit_append_cutOff]
      exact hperm
    exact hkeys row hrow other (hrest.mem_iff.mpr hother)
  · intro h
    exact ⟨cutOff limit rows, .of_eq (sqlLimit_append_cutOff limit rows), length_sqlLimit _ _, h⟩

theorem take_append_of_length {first second : List α} {n : Nat}
    (h : (first.take n).length = ((first ++ second).take n).length) :
    first.take n = (first ++ second).take n := by
  rw [List.take_append] at h ⊢
  rw [List.length_append] at h
  have hnone : second.take (n - first.length) = [] := List.length_eq_zero_iff.mp (by omega)
  rw [hnone, List.append_nil]

theorem take_append_of_mem {first second : List α} {n : Nat} (hnodup : (first ++ second).Nodup)
    (h : ∀ row ∈ (first ++ second).take n, row ∈ first) :
    (first ++ second).take n = first.take n := by
  rw [List.take_append] at h ⊢
  have hnone : second.take (n - first.length) = [] := by
    refine List.eq_nil_iff_forall_not_mem.mpr fun row hrow => ?_
    have hfirst := h row (List.mem_append_right _ hrow)
    exact (List.nodup_append.mp hnodup).2.2 row hfirst row (List.mem_of_mem_take hrow) rfl
  rw [hnone, List.append_nil]

theorem Foremost.mem_of_le (h : Foremost key limit all picked) (hle : all.length ≤ limit)
    {row : α} (hrow : row ∈ all) : row ∈ picked := by
  obtain ⟨rest, hperm, hlength, -⟩ := h
  have hcount : limitCount limit all.length = all.length := by
    unfold limitCount
    split <;> omega
  have hrest : rest.length = 0 := by
    have htotal := hperm.length_eq
    rw [List.length_append] at htotal
    omega
  rw [List.length_eq_zero_iff] at hrest
  subst hrest
  rw [List.append_nil] at hperm
  exact hperm.mem_iff.mpr hrow

theorem limitCount_passes (limit : Int) (rows : List α) (passes : α → Bool) :
    ((sqlLimit limit rows).filter passes).length
        = limitCount limit (rows.filter passes).length
      ↔ (sqlLimit limit rows).filter passes = sqlLimit limit rows
        ∨ (cutOff limit rows).filter passes = [] := by
  have hsplit : (rows.filter passes).length
      = ((sqlLimit limit rows).filter passes).length
        + ((cutOff limit rows).filter passes).length := by
    rw [← List.length_append, ← List.filter_append, sqlLimit_append_cutOff]
  have hfirst := List.length_filter_le passes (sqlLimit limit rows)
  have hkept := length_sqlLimit limit rows
  have hcut := List.length_filter_le passes (cutOff limit rows)
  rw [cutOff, List.length_drop, ← cutOff] at hcut
  have hself : (sqlLimit limit rows).filter passes = sqlLimit limit rows
      ↔ ((sqlLimit limit rows).filter passes).length = (sqlLimit limit rows).length := by
    rw [List.filter_eq_self, List.length_filter_eq_length_iff]
  rw [hself, ← List.length_eq_zero_iff]
  unfold limitCount at hkept hcut ⊢
  by_cases hlimit : limit < 0
  · rw [if_pos hlimit] at hkept hcut ⊢
    omega
  · rw [if_neg hlimit] at hkept hcut ⊢
    omega

/-- A filter after the cut leaves the foremost of the rows that pass exactly where all of the
rows before the cut pass, or none after it does. -/
theorem foremost_filter_iff (hsorted : rows.Pairwise fun a b => key b ≤ key a) :
    Foremost key limit (rows.filter passes) ((sqlLimit limit rows).filter passes)
      ↔ (∀ row ∈ sqlLimit limit rows, passes row) ∨ ∀ row ∈ cutOff limit rows, ¬ passes row := by
  rw [← List.filter_eq_self, ← List.filter_eq_nil_iff, ← limitCount_passes]
  constructor
  · rintro ⟨rest, -, hlength, -⟩
    exact hlength
  · intro hlength
    refine ⟨(cutOff limit rows).filter passes, ?_, hlength, ?_⟩
    · rw [← List.filter_append, sqlLimit_append_cutOff]
    · intro row hrow other hother
      rw [← sqlLimit_append_cutOff limit rows, List.pairwise_append] at hsorted
      exact hsorted.2.2 row (List.mem_of_mem_filter hrow) other (List.mem_of_mem_filter hother)

/-- The same where the filter after the cut passes less than is wanted: all rows before the cut
pass it, or every row that is wanted is before the cut and passes it. -/
theorem foremost_filter_of_imp_iff {wanted : α → Bool}
    (hwanted : ∀ row, passes row = true → wanted row = true)
    (hsorted : rows.Pairwise fun a b => key b ≤ key a) :
    Foremost key limit (rows.filter wanted) ((sqlLimit limit rows).filter passes)
      ↔ (∀ row ∈ sqlLimit limit rows, passes row)
        ∨ (∀ row ∈ sqlLimit limit rows, wanted row → passes row)
          ∧ ∀ row ∈ cutOff limit rows, ¬ wanted row := by
  have hstrict : ((sqlLimit limit rows).filter wanted).filter passes
      = (sqlLimit limit rows).filter passes := by
    rw [List.filter_filter]
    refine List.filter_congr fun row _ => ?_
    cases hrow : passes row with
    | false => rfl
    | true => rw [hwanted row hrow]; rfl
  have hall : (∀ row ∈ sqlLimit limit rows, passes row) →
      (sqlLimit limit rows).filter passes = (sqlLimit limit rows).filter wanted := by
    intro h
    rw [List.filter_eq_self.mpr h, List.filter_eq_self.mpr fun row hrow => hwanted row (h row hrow)]
  have himp : (∀ row ∈ sqlLimit limit rows, wanted row → passes row) →
      (sqlLimit limit rows).filter passes = (sqlLimit limit rows).filter wanted := by
    intro h
    refine List.filter_congr fun row hrow => ?_
    cases hwant : wanted row with
    | true => exact h row hrow hwant
    | false =>
        cases hpass : passes row with
        | false => rfl
        | true => rw [hwanted row hpass] at hwant; cases hwant
  constructor
  · rintro ⟨rest, -, hlength, -⟩
    have hle : ((sqlLimit limit rows).filter passes).length
        ≤ ((sqlLimit limit rows).filter wanted).length := by
      rw [← hstrict]
      exact List.length_filter_le _ _
    have hfirst := List.length_filter_le wanted (sqlLimit limit rows)
    have hsplit : (rows.filter wanted).length = ((sqlLimit limit rows).filter wanted).length
        + ((cutOff limit rows).filter wanted).length := by
      rw [← List.length_append, ← List.filter_append, sqlLimit_append_cutOff]
    have hkept := length_sqlLimit limit rows
    have hcut := List.length_filter_le wanted (cutOff limit rows)
    rw [cutOff, List.length_drop, ← cutOff] at hcut
    -- either the cut is full of what passes, or all that is wanted passes
    have hcases : ((sqlLimit limit rows).filter passes).length = (sqlLimit limit rows).length
        ∨ ((sqlLimit limit rows).filter passes).length
            = ((sqlLimit limit rows).filter wanted).length
          ∧ ((cutOff limit rows).filter wanted).length = 0 := by
      unfold limitCount at hlength hkept hcut
      by_cases hlimit : limit < 0
      · rw [if_pos hlimit] at hlength hkept hcut
        omega
      · rw [if_neg hlimit] at hlength hkept hcut
        omega
    rcases hcases with hfull | ⟨hsame, hnone⟩
    · exact .inl (List.length_filter_eq_length_iff.mp hfull)
    · refine .inr ⟨fun row hrow hwant => ?_, ?_⟩
      · rw [← hstrict, List.length_filter_eq_length_iff] at hsame
        exact hsame row (List.mem_filter.mpr ⟨hrow, hwant⟩)
      · rwa [List.length_eq_zero_iff, List.filter_eq_nil_iff] at hnone
  · rintro (h | ⟨h, hnone⟩)
    · rw [hall h]
      exact (foremost_filter_iff hsorted).mpr (.inl fun row hrow => hwanted row (h row hrow))
    · rw [himp h]
      exact (foremost_filter_iff hsorted).mpr (.inr hnone)

end

/-! ## Ties -/

section

variable {α κ : Type} [DecidableEq κ] {key : α → κ} {table rows : List α} {row : α} {n : Nat}
  {before : α → α → Prop} [DecidableRel before]

def place (key : α → κ) (table : List α) (row : α) : Nat := (table.map key).idxOf (key row)

/-- An `ORDER BY` serves a row before another; ties keep the order of the table. -/
def servedBefore (key : α → κ) (table : List α) (before : α → α → Prop) [DecidableRel before]
    (a b : α) : Bool :=
  before a b ∧ (before b a → place key table a < place key table b)

theorem pairwise_place (hnodup : (rows.map key).Nodup) :
    rows.Pairwise fun a b => place key rows a < place key rows b := by
  rw [List.pairwise_iff_getElem]
  intro i j hi hj hij
  have hplace : ∀ k (hk : k < rows.length), place key rows rows[k] = k := by
    intro k hk
    have hget := hnodup.idxOf_getElem k (by simpa using hk)
    rwa [List.getElem_map] at hget
  rw [hplace i hi, hplace j hj]
  exact hij

theorem mem_take_iff_countP {lt : α → α → Bool}
    (hsorted : rows.Pairwise fun a b => lt a b = true ∧ lt b a = false)
    (hirrefl : ∀ a, lt a a = false) (hrow : row ∈ rows) :
    row ∈ rows.take n ↔ rows.countP (lt · row) < n := by
  induction rows generalizing n with
  | nil => exact absurd hrow List.not_mem_nil
  | cons first rest ih =>
      obtain ⟨hfirst, hrest⟩ := List.pairwise_cons.mp hsorted
      cases n with
      | zero => simp
      | succ n =>
          rw [List.take_succ_cons, List.mem_cons, List.countP_cons]
          rcases List.mem_cons.mp hrow with rfl | hrow
          · have hnone : rest.countP (lt · row) = 0 := by
              rw [List.countP_eq_zero]
              intro other hother
              simp [(hfirst other hother).2]
            simp [hnone, hirrefl]
          · have hbefore := (hfirst row hrow).1
            have hne : row ≠ first := by
              rintro rfl
              rw [hirrefl] at hbefore
              cases hbefore
            rw [or_iff_right hne, ih hrest hrow, if_pos hbefore, Nat.add_lt_add_iff_right]

theorem pairwise_servedBefore (hnodup : (table.map key).Nodup) (hrows : rows.Sublist table)
    [Std.Total before] [IsTrans α before] :
    (rows.insertionSort before).Pairwise fun a b =>
      servedBefore key table before a b = true ∧ servedBefore key table before b a = false := by
  have hperm := (List.perm_insertionSort before rows).map key
  have hsorted := pairwise_place (hperm.nodup_iff.mpr (hnodup.sublist (hrows.map key)))
  have hplaces : rows.Pairwise fun a b =>
      place key table a < place key table b ∧ [a, b].Sublist rows :=
    List.pairwise_iff_forall_sublist.mpr fun h =>
      ⟨((pairwise_place hnodup).sublist hrows).forall_sublist h, h⟩
  refine List.pairwise_iff_forall_sublist.mpr fun {a b} hab => ?_
  have hbefore := (List.pairwise_insertionSort before rows).forall_sublist hab
  have hne : a ≠ b := by
    rintro rfl
    exact lt_irrefl _ (hsorted.forall_sublist hab)
  have hmem : ∀ c ∈ [a, b], c ∈ rows := fun c hc => (List.mem_insertionSort _).mp (hab.subset hc)
  have hties : before b a → place key table a < place key table b := by
    intro hback
    -- the other order would have been kept
    have hnot : ¬ [b, a].Sublist rows := fun hpair => lt_asymm (hsorted.forall_sublist hab)
      (hsorted.forall_sublist (List.pair_sublist_insertionSort hback hpair))
    have hsymm : Std.Symm fun x y => (place key table x < place key table y ∧ [x, y].Sublist rows)
        ∨ place key table y < place key table x ∧ [y, x].Sublist rows := ⟨fun _ _ => Or.symm⟩
    have heither : rows.Pairwise fun x y => (place key table x < place key table y
        ∧ [x, y].Sublist rows) ∨ place key table y < place key table x ∧ [y, x].Sublist rows :=
      hplaces.imp Or.inl
    rcases heither.forall (hmem a (by simp)) (hmem b (by simp)) hne with h | h
    · exact h.1
    · exact absurd h.2 hnot
  refine ⟨decide_eq_true ⟨hbefore, hties⟩, decide_eq_false ?_⟩
  rintro ⟨hback, hplace⟩
  exact lt_asymm (hplace hbefore) (hties hback)

theorem mem_take_insertionSort_iff (hnodup : (table.map key).Nodup) (hrows : rows.Sublist table)
    [Std.Total before] [IsTrans α before] (hrow : row ∈ rows) :
    row ∈ (rows.insertionSort before).take n
      ↔ rows.countP (servedBefore key table before · row) < n := by
  have hperm := List.perm_insertionSort before rows
  rw [← hperm.countP_eq]
  refine mem_take_iff_countP (pairwise_servedBefore hnodup hrows) (fun a => ?_)
    (hperm.mem_iff.mpr hrow)
  simp [servedBefore]

end

end Navi.Base
