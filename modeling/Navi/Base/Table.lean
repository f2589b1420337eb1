import Mathlib.Data.List.Nodup

/-!
# Keyed tables

A table is a list of rows with distinct primary keys, read by key and changed
by guarded updates. Distinctness is carried by the table, so an update that
names a key touches at most one row, and `get?_update` reduces every statement
about an update to the one row it may touch.
-/

namespace Navi.Base

universe u v

/-- Rows in insertion order, with distinct keys. -/
structure Table (κ : Type u) (ρ : Type v) (key : ρ → κ) where
  /-- The rows. -/
  rows : List ρ
  /-- No two rows share a key. -/
  nodup : (rows.map key).Nodup

namespace Table

variable {κ : Type u} {ρ : Type v} {key : ρ → κ}

def empty : Table κ ρ key := ⟨[], List.nodup_nil⟩

/-- The rows a guarded update produces. -/
def updateRows (guard : ρ → Bool) (set : ρ → ρ) (rows : List ρ) : List ρ :=
  rows.map fun r => if guard r then set r else r

/-- `UPDATE ... SET set WHERE guard`, of columns other than the key. -/
def update (t : Table κ ρ key) (guard : ρ → Bool) (set : ρ → ρ)
    (hset : ∀ r, key (set r) = key r) : Table κ ρ key where
  rows := updateRows guard set t.rows
  nodup := by
    have hkeys : (updateRows guard set t.rows).map key = t.rows.map key := by
      rw [updateRows, List.map_map]
      refine List.map_congr_left fun r _ => ?_
      rw [Function.comp_apply]
      split
      · exact hset r
      · rfl
    rw [hkeys]
    exact t.nodup

/-- The number of rows a guarded update changes. -/
def rowcount (t : Table κ ρ key) (guard : ρ → Bool) : Nat := (t.rows.filter guard).length

theorem eq_of_key {t : Table κ ρ key} {r r' : ρ} (hr : r ∈ t.rows) (hr' : r' ∈ t.rows)
    (hkey : key r = key r') : r = r' :=
  List.inj_on_of_nodup_map t.nodup hr hr' hkey

variable [DecidableEq κ]

def get? (t : Table κ ρ key) (k : κ) : Option ρ := t.rows.find? fun r => key r = k

/-- `INSERT OR IGNORE`: a row whose key is taken is not inserted. -/
def insertOrIgnore (t : Table κ ρ key) (r : ρ) : Table κ ρ key :=
  if h : key r ∈ t.rows.map key then t
  else
    { rows := t.rows ++ [r]
      nodup := by
        rw [List.map_append, List.nodup_append]
        refine ⟨t.nodup, List.nodup_singleton _, ?_⟩
        rintro a ha b hb rfl
        obtain rfl : a = key r := by simpa using hb
        exact h ha }

/-- The table with this row in the place of the one that has its key. -/
def replace (t : Table κ ρ key) (new : ρ) : Table κ ρ key :=
  t.update (fun r => key r = key new) (fun r => if key r = key new then new else r) fun r => by
    split
    next hkey => exact hkey.symm
    next => rfl

theorem get?_eq_some_iff {t : Table κ ρ key} {k : κ} {r : ρ} :
    t.get? k = some r ↔ r ∈ t.rows ∧ key r = k := by
  constructor
  · intro h
    exact ⟨List.mem_of_find?_eq_some h, by simpa using List.find?_some h⟩
  · rintro ⟨hr, rfl⟩
    cases hfound : t.get? (key r) with
    | none => exact absurd (List.find?_eq_none.mp hfound r hr) (by simp)
    | some r' =>
        have hkey : key r' = key r := by simpa using List.find?_some hfound
        rw [eq_of_key (List.mem_of_find?_eq_some hfound) hr hkey]

theorem get?_of_mem {t : Table κ ρ key} {r : ρ} (hr : r ∈ t.rows) : t.get? (key r) = some r :=
  get?_eq_some_iff.mpr ⟨hr, rfl⟩

theorem get?_update (t : Table κ ρ key) (guard : ρ → Bool) (set : ρ → ρ)
    (hset : ∀ r, key (set r) = key r) (k : κ) :
    (t.update guard set hset).get? k
      = (t.get? k).map fun r => if guard r then set r else r := by
  have hkey : ∀ r, key (if guard r then set r else r) = key r := fun r => by
    split
    · exact hset r
    · rfl
  simp only [get?, update, updateRows, List.find?_map]
  congr 2
  funext r
  simp [hkey]

theorem get?_replace (t : Table κ ρ key) (new : ρ) (k : κ) :
    (t.replace new).get? k = (t.get? k).map fun r => if key new = k then new else r := by
  rw [replace, get?_update]
  cases hfound : t.get? k with
  | none => rfl
  | some r =>
      obtain ⟨-, rfl⟩ := get?_eq_some_iff.mp hfound
      simp only [Option.map_some, Option.some.injEq, decide_eq_true_eq]
      by_cases hkey : key r = key new
      · simp [hkey]
      · simp [hkey, Ne.symm hkey]

theorem get?_insertOrIgnore (t : Table κ ρ key) (new : ρ) (k : κ) :
    (t.insertOrIgnore new).get? k = (t.get? k).or (if key new = k then some new else none) := by
  unfold insertOrIgnore
  split
  next htaken =>
    obtain ⟨r, hr, hkey⟩ := List.mem_map.mp htaken
    split
    next hk => rw [← hk, ← hkey, get?_of_mem hr, Option.some_or]
    next => rw [Option.or_none]
  next =>
    rw [get?, List.find?_append, List.find?_singleton]
    simp only [decide_eq_true_eq]
    rfl

theorem get?_insertOrIgnore_of_some {t : Table κ ρ key} {k : κ} {r : ρ} (new : ρ)
    (h : t.get? k = some r) : (t.insertOrIgnore new).get? k = some r := by
  rw [get?_insertOrIgnore, h, Option.some_or]

theorem insertOrIgnore_of_some {t : Table κ ρ key} {r new : ρ} (h : t.get? (key new) = some r) :
    t.insertOrIgnore new = t := by
  obtain ⟨hmem, hkey⟩ := get?_eq_some_iff.mp h
  exact dif_pos (List.mem_map.mpr ⟨r, hmem, hkey⟩)

theorem rows_insertOrIgnore {t : Table κ ρ key} {new : ρ} (hfresh : t.get? (key new) = none) :
    (t.insertOrIgnore new).rows = t.rows ++ [new] := by
  have hkey : key new ∉ t.rows.map key := by
    intro htaken
    obtain ⟨r, hr, hkey⟩ := List.mem_map.mp htaken
    rw [← hkey, get?_of_mem hr] at hfresh
    cases hfresh
  rw [insertOrIgnore, dif_neg hkey]

/-! ## Tables whose rows move -/

/-- The same keys, and under each key a row that the relation leads to. -/
def Related (R : ρ → ρ → Prop) (t t' : Table κ ρ key) : Prop :=
  ∀ k, Option.Rel R (t.get? k) (t'.get? k)

section

variable {R : ρ → ρ → Prop} {t t' t'' : Table κ ρ key}

theorem Related.refl (hrefl : ∀ r, R r r) (t : Table κ ρ key) : Related R t t := fun k => by
  cases t.get? k with
  | none => exact .none
  | some r => exact .some (hrefl r)

theorem Related.before (h : Related R t t') {k : κ} {r' : ρ} (hr' : t'.get? k = some r') :
    ∃ r, t.get? k = some r ∧ R r r' := by
  have hk := h k
  rw [hr'] at hk
  cases hfound : t.get? k with
  | none =>
      rw [hfound] at hk
      cases hk
  | some r =>
      rw [hfound] at hk
      cases hk with
      | some hstep => exact ⟨r, rfl, hstep⟩

theorem Related.after (h : Related R t t') {k : κ} {r : ρ} (hr : t.get? k = some r) :
    ∃ r', t'.get? k = some r' ∧ R r r' := by
  have hk := h k
  rw [hr] at hk
  cases hfound : t'.get? k with
  | none =>
      rw [hfound] at hk
      cases hk
  | some r' =>
      rw [hfound] at hk
      cases hk with
      | some hstep => exact ⟨r', rfl, hstep⟩

theorem Related.trans (htrans : ∀ a b c, R a b → R b c → R a c) (h : Related R t t')
    (h' : Related R t' t'') : Related R t t'' := fun k => by
  cases hr'' : t''.get? k with
  | some r'' =>
      obtain ⟨r', hr', hstep'⟩ := h'.before hr''
      obtain ⟨r, hr, hstep⟩ := h.before hr'
      rw [hr]
      exact .some (htrans r r' r'' hstep hstep')
  | none =>
      cases hr : t.get? k with
      | none => exact .none
      | some r =>
          obtain ⟨r', hr', -⟩ := h.after hr
          obtain ⟨r'', hfound, -⟩ := h'.after hr'
          rw [hr''] at hfound
          cases hfound

theorem related_replace (hrefl : ∀ r, R r r) {old new : ρ} (hold : t.get? (key new) = some old)
    (hstep : R old new) : Related R t (t.replace new) := fun k => by
  rw [get?_replace]
  by_cases hk : key new = k
  · subst hk
    rw [hold, Option.map_some, if_pos rfl]
    exact .some hstep
  · simp only [hk, if_false, Option.map_id']
    exact Related.refl hrefl t k

end

end Table

end Navi.Base
