import Mathlib.Data.List.Perm.Basic
import Navi.Base.Table

/-!
# Partial unique indexes and quotas

What a partial unique index would guarantee of a table that has none: no two live
rows carry the same mark. And what a quota would: at most so many rows meet a
condition. For each, one lemma an operation says when it keeps the guarantee.
-/

namespace Navi.Base.Table

universe u v w

variable {κ : Type u} {ρ : Type v} {μ : Type w} {key : ρ → κ}

/-- `CREATE UNIQUE INDEX ... (mark) WHERE live`. -/
def UniqueOn (t : Table κ ρ key) (live : ρ → Prop) (mark : ρ → μ) : Prop :=
  ∀ r ∈ t.rows, ∀ r' ∈ t.rows, live r → live r' → mark r = mark r' → r = r'

section

variable {t t' : Table κ ρ key} {live : ρ → Prop} {mark : ρ → μ}

theorem uniqueOn_empty : (empty : Table κ ρ key).UniqueOn live mark := by
  intro r hr
  cases hr

theorem UniqueOn.of_back (h : t.UniqueOn live mark)
    (hback : ∀ r' ∈ t'.rows, live r' → ∃ r ∈ t.rows, key r = key r' ∧ live r ∧ mark r = mark r') :
    t'.UniqueOn live mark := by
  intro a ha b hb halive hblive hmark
  obtain ⟨a₀, ha₀, hakey, ha₀live, hamark⟩ := hback a ha halive
  obtain ⟨b₀, hb₀, hbkey, hb₀live, hbmark⟩ := hback b hb hblive
  have hsame : a₀ = b₀ := h a₀ ha₀ b₀ hb₀ ha₀live hb₀live (by rw [hamark, hbmark, hmark])
  exact eq_of_key ha hb (by rw [← hakey, ← hbkey, hsame])

variable [DecidableEq κ]

theorem mem_insertOrIgnore {r new : ρ} (hfresh : t.get? (key new) = none) :
    r ∈ (t.insertOrIgnore new).rows ↔ r ∈ t.rows ∨ r = new := by
  rw [rows_insertOrIgnore hfresh, List.mem_append, List.mem_singleton]

theorem mem_replace {r old new : ρ} (hold : t.get? (key new) = some old) :
    r ∈ (t.replace new).rows ↔ r = new ∨ r ∈ t.rows ∧ key r ≠ key new := by
  have hread := get?_replace t new
  constructor
  · intro h
    have hget := get?_of_mem h
    rw [hread] at hget
    obtain ⟨before, hbefore, hset⟩ := Option.map_eq_some_iff.mp hget
    split at hset
    · exact .inl hset.symm
    next hne =>
      subst hset
      exact .inr ⟨(get?_eq_some_iff.mp hbefore).1, Ne.symm hne⟩
  · rintro (rfl | ⟨h, hne⟩)
    · have hget : (t.replace r).get? (key r) = some r := by
        rw [hread, hold]
        simp
      exact (get?_eq_some_iff.mp hget).1
    · have hget : (t.replace new).get? (key r) = some r := by
        rw [hread, get?_of_mem h, Option.map_some, if_neg (Ne.symm hne)]
      exact (get?_eq_some_iff.mp hget).1

/-- `INSERT OR REPLACE`, also `ON CONFLICT DO UPDATE` of every column. -/
def upsert (t : Table κ ρ key) (new : ρ) : Table κ ρ key :=
  match t.get? (key new) with
  | some _ => t.replace new
  | none => t.insertOrIgnore new

theorem get?_upsert (t : Table κ ρ key) (new : ρ) (k : κ) :
    (t.upsert new).get? k = if key new = k then some new else t.get? k := by
  unfold upsert
  split
  next old hold =>
    rw [get?_replace]
    by_cases hkey : key new = k
    · subst hkey
      simp [hold]
    · simp [hkey]
  next hnone =>
    rw [get?_insertOrIgnore]
    by_cases hkey : key new = k
    · subst hkey
      simp [hnone]
    · simp [hkey]

theorem mem_upsert {r new : ρ} (h : r ∈ (t.upsert new).rows) : r = new ∨ r ∈ t.rows := by
  have hget := get?_of_mem h
  rw [get?_upsert] at hget
  split at hget
  · exact .inl (Option.some.inj hget).symm
  · exact .inr (get?_eq_some_iff.mp hget).1

/-- An insert keeps a table unique exactly if the new row, where it is live, has a
mark of its own. -/
theorem uniqueOn_insertOrIgnore_iff {new : ρ} (h : t.UniqueOn live mark)
    (hfresh : t.get? (key new) = none) :
    (t.insertOrIgnore new).UniqueOn live mark
      ↔ (live new → ∀ r ∈ t.rows, live r → mark r ≠ mark new) := by
  have hnot : new ∉ t.rows := by
    intro hmem
    rw [get?_of_mem hmem] at hfresh
    cases hfresh
  constructor
  · intro hunique hnew r hr hlive hmark
    have hsame : r = new := hunique r ((mem_insertOrIgnore hfresh).mpr (.inl hr)) new
      ((mem_insertOrIgnore hfresh).mpr (.inr rfl)) hlive hnew hmark
    exact hnot (hsame ▸ hr)
  · intro hown a ha b hb halive hblive hmark
    rcases (mem_insertOrIgnore hfresh).mp ha with haOld | haNew
    · rcases (mem_insertOrIgnore hfresh).mp hb with hbOld | rfl
      · exact h a haOld b hbOld halive hblive hmark
      · exact absurd hmark (hown hblive a haOld halive)
    · subst haNew
      rcases (mem_insertOrIgnore hfresh).mp hb with hbOld | hbNew
      · exact absurd hmark.symm (hown halive b hbOld hblive)
      · exact hbNew.symm

/-- A change of one row keeps a table unique exactly if the changed row, where it is
live, has a mark of its own among the others. -/
theorem uniqueOn_update_iff {k : κ} {set : ρ → ρ} {hset : ∀ r, key (set r) = key r}
    (h : t.UniqueOn live mark) :
    (t.update (fun r => key r = k) set hset).UniqueOn live mark
      ↔ ∀ old ∈ t.get? k, live (set old) → ∀ r ∈ t.rows, key r ≠ k → live r →
          mark r ≠ mark (set old) := by
  have hmem : ∀ r', r' ∈ (t.update (fun r => key r = k) set hset).rows
      ↔ ∃ r ∈ t.rows, (if key r = k then set r else r) = r' := by
    intro r'
    simp only [update, updateRows, List.mem_map, decide_eq_true_eq]
  constructor
  · intro hunique old hold hlive r hr hkey hrlive hmark
    obtain ⟨holdMem, holdKey⟩ := get?_eq_some_iff.mp hold
    have hsame : r = set old := hunique r ((hmem r).mpr ⟨r, hr, if_neg hkey⟩) (set old)
      ((hmem _).mpr ⟨old, holdMem, if_pos holdKey⟩) hrlive hlive hmark
    exact hkey (by rw [hsame, hset, holdKey])
  · intro hown a' ha' b' hb' halive hblive hmark
    obtain ⟨a, ha, rfl⟩ := (hmem a').mp ha'
    obtain ⟨b, hb, rfl⟩ := (hmem b').mp hb'
    by_cases hak : key a = k
    · by_cases hbk : key b = k
      · rw [eq_of_key ha hb (hak.trans hbk.symm)]
      · -- the changed row against one that did not change
        rw [if_pos hak] at halive hmark
        rw [if_neg hbk] at hblive hmark
        exact absurd hmark.symm
          (hown a (get?_eq_some_iff.mpr ⟨ha, hak⟩) halive b hb hbk hblive)
    · by_cases hbk : key b = k
      · rw [if_neg hak] at halive hmark
        rw [if_pos hbk] at hblive hmark
        exact absurd hmark (hown b (get?_eq_some_iff.mpr ⟨hb, hbk⟩) hblive a ha hak halive)
      · rw [if_neg hak] at halive hmark
        rw [if_neg hbk] at hblive hmark
        rw [if_neg hak, if_neg hbk]
        exact h a ha b hb halive hblive hmark

end

/-! ## Deletions -/

section

variable {t : Table κ ρ key} {guard : ρ → Bool}

/-- `DELETE FROM ... WHERE guard`. -/
def delete (t : Table κ ρ key) (guard : ρ → Bool) : Table κ ρ key where
  rows := t.rows.filter fun r => !guard r
  nodup := (List.filter_sublist.map key).nodup t.nodup

theorem mem_delete {r : ρ} : r ∈ (t.delete guard).rows ↔ r ∈ t.rows ∧ guard r = false := by
  rw [delete, List.mem_filter, Bool.not_eq_true']

theorem UniqueOn.delete {live : ρ → Prop} {mark : ρ → μ} (h : t.UniqueOn live mark) :
    (t.delete guard).UniqueOn live mark := fun a ha b hb =>
  h a (mem_delete.mp ha).1 b (mem_delete.mp hb).1

end

/-- `DELETE FROM ... WHERE key IN (SELECT ...)`, with the rows that are selected. -/
def deleteSelected [DecidableEq κ] (t : Table κ ρ key) (selected : List ρ) : Table κ ρ key :=
  t.delete fun r => key r ∈ selected.map key

section

variable [DecidableEq κ] {t : Table κ ρ key} {selected : List ρ} {r : ρ}

theorem mem_deleteSelected (hsub : ∀ r ∈ selected, r ∈ t.rows) :
    r ∈ (t.deleteSelected selected).rows ↔ r ∈ t.rows ∧ r ∉ selected := by
  rw [deleteSelected, mem_delete, decide_eq_false_iff_not]
  refine and_congr_right fun hr => not_congr ⟨fun hkey => ?_, List.mem_map_of_mem⟩
  obtain ⟨other, hother, hsame⟩ := List.mem_map.mp hkey
  rwa [← eq_of_key (hsub other hother) hr hsame]

theorem countP_deleteSelected (hsub : ∀ r ∈ selected, r ∈ t.rows) (hnodup : selected.Nodup)
    (p : ρ → Bool) :
    (t.deleteSelected selected).rows.countP p + selected.countP p = t.rows.countP p := by
  have hrows : t.rows.Nodup := List.Nodup.of_map _ t.nodup
  have hleft : (t.deleteSelected selected).rows.Nodup := hrows.filter _
  have hperm : ((t.deleteSelected selected).rows ++ selected).Perm t.rows := by
    refine (List.perm_ext_iff_of_nodup (hleft.append hnodup ?_) hrows).mpr fun r => ?_
    · intro r hr hselected
      exact ((mem_deleteSelected hsub).mp hr).2 hselected
    · rw [List.mem_append, mem_deleteSelected hsub]
      constructor
      · rintro (⟨hr, -⟩ | hselected)
        · exact hr
        · exact hsub r hselected
      · intro hr
        by_cases hselected : r ∈ selected
        · exact .inr hselected
        · exact .inl ⟨hr, hselected⟩
  rw [← List.countP_append, hperm.countP_eq]

end

/-! ## Counts -/

section

variable {t : Table κ ρ key} {p q : ρ → Bool}

theorem rowcount_eq_countP : t.rowcount p = t.rows.countP p :=
  List.countP_eq_length_filter.symm

theorem rowcount_congr (h : ∀ r ∈ t.rows, p r = q r) : t.rowcount p = t.rowcount q := by
  rw [rowcount, rowcount, List.filter_congr h]

theorem rowcount_mono (h : ∀ r ∈ t.rows, p r = true → q r = true) :
    t.rowcount p ≤ t.rowcount q := by
  rw [rowcount_eq_countP, rowcount_eq_countP]
  exact List.countP_mono_left h

variable [DecidableEq κ]

theorem rowcount_insertOrIgnore {new : ρ} (hfresh : t.get? (key new) = none) :
    (t.insertOrIgnore new).rowcount p = t.rowcount p + if p new then 1 else 0 := by
  rw [rowcount_eq_countP, rows_insertOrIgnore hfresh, List.countP_append, List.countP_singleton,
    rowcount_eq_countP]

theorem countP_set (p : ρ → Bool) (set : ρ → ρ) {rows : List ρ} (hnodup : (rows.map key).Nodup)
    {old : ρ} (hold : old ∈ rows) :
    (rows.map fun r => if key r = key old then set r else r).countP p + (if p old then 1 else 0)
      = rows.countP p + if p (set old) then 1 else 0 := by
  induction rows with
  | nil => cases hold
  | cons r rest ih =>
      rw [List.map_cons, List.nodup_cons] at hnodup
      rcases List.mem_cons.mp hold with rfl | hmem
      · have hrest : (rest.map fun r' => if key r' = key old then set r' else r') = rest := by
          refine (List.map_congr_left fun r' hr' => if_neg fun hsame => ?_).trans (List.map_id rest)
          exact hnodup.1 (hsame ▸ List.mem_map_of_mem hr')
        rw [List.map_cons, if_pos rfl, hrest, List.countP_cons, List.countP_cons]
        omega
      · have hne : key r ≠ key old := fun hsame => hnodup.1 (hsame ▸ List.mem_map_of_mem hmem)
        have hrest := ih hnodup.2 hmem
        rw [List.map_cons, if_neg hne, List.countP_cons, List.countP_cons]
        omega

theorem rowcount_update {k : κ} {set : ρ → ρ} {hset : ∀ r, key (set r) = key r} {old : ρ}
    (hold : t.get? k = some old) :
    (t.update (fun r => key r = k) set hset).rowcount p + (if p old then 1 else 0)
      = t.rowcount p + if p (set old) then 1 else 0 := by
  obtain ⟨hmem, rfl⟩ := get?_eq_some_iff.mp hold
  have hset := countP_set p set t.nodup hmem
  rw [rowcount_eq_countP, rowcount_eq_countP, ← hset]
  simp only [update, updateRows, decide_eq_true_eq]

theorem update_of_none {k : κ} {set : ρ → ρ} {hset : ∀ r, key (set r) = key r}
    (hnone : t.get? k = none) : t.update (fun r => key r = k) set hset = t := by
  have hrows : updateRows (fun r => key r = k) set t.rows = t.rows := by
    refine (List.map_congr_left fun r hr => if_neg fun hkey => ?_).trans (List.map_id t.rows)
    rw [← of_decide_eq_true hkey, get?_of_mem hr] at hnone
    cases hnone
  obtain ⟨rows, hnodup⟩ := t
  simp only [update, hrows]

end

end Navi.Base.Table

namespace Navi.Base

/-! ## Pages -/

/-- `LIMIT ?`, without a bound where it is negative. -/
def sqlLimit {α : Type} (limit : Int) (rows : List α) : List α :=
  if limit < 0 then rows else rows.take limit.toNat

/-- `LIMIT ? OFFSET ?`, from the first row where the offset is negative. -/
def sqlPage {α : Type} (limit offset : Int) (rows : List α) : List α :=
  sqlLimit limit (rows.drop offset.toNat)

theorem map_sqlPage {α β : Type} (f : α → β) (limit offset : Int) (rows : List α) :
    (sqlPage limit offset rows).map f = sqlPage limit offset (rows.map f) := by
  unfold sqlPage sqlLimit
  split <;> simp

theorem mem_of_mem_sqlPage {α : Type} {limit offset : Int} {rows : List α} {row : α}
    (h : row ∈ sqlPage limit offset rows) : row ∈ rows := by
  unfold sqlPage sqlLimit at h
  split at h
  · exact List.mem_of_mem_drop h
  · exact List.mem_of_mem_drop (List.mem_of_mem_take h)

end Navi.Base
