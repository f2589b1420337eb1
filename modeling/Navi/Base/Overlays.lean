import Mathlib
import Navi.Base.Dict
import Navi.Base.Index

/-!
# Rows that are written by overlaying

A write names a row by its key and lays a record over what the row says. Where the row is not there
it is made, with an id that is drawn for it. What a field says in the end is what the last write of
it said, and an id once given stays.
-/

namespace Navi.Base

universe u v

/-- A record that is laid over what the row of this key says. -/
structure Write (κ : Type u) where
  key : κ
  data : Dict

section Fields

variable {κ : Type u} [DecidableEq κ] {key : κ} {field : String} {ws ws' : List (Write κ)}
  {v : Option Json}

/-- What a field of a row says after the writes. -/
def fieldAfter (key : κ) (field : String) : List (Write κ) → Option Json → Option Json
  | [], v => v
  | w :: ws, v =>
      fieldAfter key field ws (if w.key = key then (w.data.get field).or v else v)

theorem fieldAfter_append :
    fieldAfter key field (ws ++ ws') v = fieldAfter key field ws' (fieldAfter key field ws v) := by
  induction ws generalizing v with
  | nil => rfl
  | cons w ws ih => exact ih

theorem fieldAfter_of_silent (h : ∀ w ∈ ws, w.key = key → w.data.get field = none) :
    fieldAfter key field ws v = v := by
  induction ws generalizing v with
  | nil => rfl
  | cons w ws ih =>
      have hsame : (if w.key = key then (w.data.get field).or v else v) = v := by
        split
        next hkey => rw [h w List.mem_cons_self hkey, Option.none_or]
        next => rfl
      rw [fieldAfter, hsame]
      exact ih fun other hother => h other (List.mem_cons_of_mem _ hother)

theorem fieldAfter_of_unwritten (h : ∀ w ∈ ws, w.key ≠ key) : fieldAfter key field ws v = v :=
  fieldAfter_of_silent fun w hw hkey => absurd hkey (h w hw)

theorem fieldAfter_of_agreed {x : Json}
    (h : ∀ w ∈ ws, w.key = key → w.data.get field = none ∨ w.data.get field = some x) :
    fieldAfter key field ws (some x) = some x := by
  induction ws with
  | nil => rfl
  | cons w ws ih =>
      have hsame : (if w.key = key then (w.data.get field).or (some x) else some x) = some x := by
        split
        next hkey => rcases h w List.mem_cons_self hkey with hread | hread <;> rw [hread] <;> rfl
        next => rfl
      rw [fieldAfter, hsame]
      exact ih fun other hother => h other (List.mem_cons_of_mem _ hother)

theorem fieldAfter_eq_some {x : Json}
    (h : ∀ w ∈ ws, w.key = key → w.data.get field = none ∨ w.data.get field = some x)
    (hsaid : ∃ w ∈ ws, w.key = key ∧ w.data.get field = some x) :
    fieldAfter key field ws v = some x := by
  induction ws generalizing v with
  | nil =>
      obtain ⟨w, hw, -⟩ := hsaid
      cases hw
  | cons w ws ih =>
      have hrest : ∀ other ∈ ws, other.key = key →
          other.data.get field = none ∨ other.data.get field = some x :=
        fun other hother => h other (List.mem_cons_of_mem _ hother)
      obtain ⟨said, hsaid, hkey, hread⟩ := hsaid
      rcases List.mem_cons.mp hsaid with rfl | hlater
      · rw [fieldAfter, if_pos hkey, hread]
        exact fieldAfter_of_agreed hrest
      · exact ih hrest ⟨said, hlater, hkey, hread⟩

theorem fieldAfter_cases (key : κ) (field : String) (ws : List (Write κ)) :
    (∀ v, fieldAfter key field ws v = v) ∨ ∃ x, ∀ v, fieldAfter key field ws v = some x := by
  induction ws with
  | nil => exact .inl fun _ => rfl
  | cons w ws ih =>
      rcases ih with hsame | ⟨x, hx⟩
      · by_cases hkey : w.key = key
        · cases hread : w.data.get field with
          | none =>
              refine .inl fun v => ?_
              rw [fieldAfter, hsame, if_pos hkey, hread, Option.none_or]
          | some y =>
              refine .inr ⟨y, fun v => ?_⟩
              rw [fieldAfter, hsame, if_pos hkey, hread, Option.some_or]
        · refine .inl fun v => ?_
          rw [fieldAfter, hsame, if_neg hkey]
      · exact .inr ⟨x, fun v => hx _⟩

theorem fieldAfter_fieldAfter :
    fieldAfter key field ws (fieldAfter key field ws v) = fieldAfter key field ws v := by
  rcases fieldAfter_cases key field ws with hsame | ⟨x, hx⟩
  · exact hsame _
  · rw [hx, hx]

end Fields

/-! ## Tables -/

section Tables

variable {κ : Type u} {ρ : Type v} {key : ρ → κ} [DecidableEq κ] {id : ρ → String} {data : ρ → Dict}
  {drawn drawn' : String → Prop} {t t' t'' : Table κ ρ key} {ws ws' : List (Write κ)}

theorem Table.get?_delete (t : Table κ ρ key) (guard : ρ → Bool) (k : κ) :
    (t.delete guard).get? k = (t.get? k).filter fun r => !guard r := by
  cases hold : t.get? k with
  | none =>
      rw [Option.filter_none]
      cases hnew : (t.delete guard).get? k with
      | none => rfl
      | some r =>
          obtain ⟨hmem, hkey⟩ := get?_eq_some_iff.mp hnew
          rw [← hkey, get?_of_mem (mem_delete.mp hmem).1] at hold
          cases hold
  | some r =>
      obtain ⟨hmem, hkey⟩ := get?_eq_some_iff.mp hold
      cases hguard : guard r with
      | false =>
          rw [Option.filter_some_pos (by rw [hguard]; rfl)]
          exact get?_eq_some_iff.mpr ⟨mem_delete.mpr ⟨hmem, hguard⟩, hkey⟩
      | true =>
          rw [Option.filter_some_neg (by rw [hguard]; decide)]
          cases hnew : (t.delete guard).get? k with
          | none => rfl
          | some other =>
              obtain ⟨hother, hkey'⟩ := get?_eq_some_iff.mp hnew
              obtain ⟨hmem', hfree⟩ := mem_delete.mp hother
              rw [eq_of_key hmem' hmem (hkey'.trans hkey.symm), hguard] at hfree
              cases hfree

/-- What a field of the row of a key says. -/
def Table.field (t : Table κ ρ key) (data : ρ → Dict) (k : κ) (field : String) : Option Json :=
  (t.get? k).bind fun r => (data r).get field

/-- The writes, with the ids that they draw, make the second table of the first one. -/
structure Overlaid (id : ρ → String) (data : ρ → Dict) (drawn : String → Prop)
    (ws : List (Write κ)) (t t' : Table κ ρ key) : Prop where
  field : ∀ k field, t'.field data k field = fieldAfter k field ws (t.field data k field)
  kept : ∀ k r, t.get? k = some r → ∃ r', t'.get? k = some r' ∧ id r' = id r
  wrote : ∀ w ∈ ws, ∃ r', t'.get? w.key = some r'
  made : ∀ k r', t.get? k = none → t'.get? k = some r' → (∃ w ∈ ws, w.key = k) ∧ drawn (id r')
  frame : ∀ k, (∀ w ∈ ws, w.key ≠ k) → t'.get? k = t.get? k

namespace Overlaid

theorem refl (t : Table κ ρ key) : Overlaid id data drawn [] t t where
  field _ _ := rfl
  kept _ r hr := ⟨r, hr, rfl⟩
  wrote _ hw := nomatch hw
  made k r' hnone hr' := by
    rw [hnone] at hr'
    cases hr'
  frame _ _ := rfl

theorem mono (h : Overlaid id data drawn ws t t') (hdrawn : ∀ i, drawn i → drawn' i) :
    Overlaid id data drawn' ws t t' :=
  { h with made := fun k r' hnone hr' => (h.made k r' hnone hr').imp_right (hdrawn _) }

theorem trans (h : Overlaid id data drawn ws t t') (h' : Overlaid id data drawn ws' t' t'') :
    Overlaid id data drawn (ws ++ ws') t t'' where
  field k field := by rw [h'.field, h.field, fieldAfter_append]
  kept k r hr := by
    obtain ⟨r', hr', hid⟩ := h.kept k r hr
    obtain ⟨r'', hr'', hid'⟩ := h'.kept k r' hr'
    exact ⟨r'', hr'', hid'.trans hid⟩
  wrote w hw := by
    rcases List.mem_append.mp hw with hfirst | hsecond
    · obtain ⟨r', hr'⟩ := h.wrote w hfirst
      obtain ⟨r'', hr'', -⟩ := h'.kept w.key r' hr'
      exact ⟨r'', hr''⟩
    · exact h'.wrote w hsecond
  made k r'' hnone hr'' := by
    cases hr' : t'.get? k with
    | none =>
        obtain ⟨⟨w, hw, hkey⟩, hid⟩ := h'.made k r'' hr' hr''
        exact ⟨⟨w, List.mem_append_right _ hw, hkey⟩, hid⟩
    | some r' =>
        obtain ⟨⟨w, hw, hkey⟩, hid⟩ := h.made k r' hnone hr'
        obtain ⟨later, hlater, hsame⟩ := h'.kept k r' hr'
        obtain rfl := Option.some.inj (hr''.symm.trans hlater)
        exact ⟨⟨w, List.mem_append_left _ hw, hkey⟩, hsame ▸ hid⟩
  frame k hws := (h'.frame k fun w hw => hws w (List.mem_append_right _ hw)).trans
    (h.frame k fun w hw => hws w (List.mem_append_left _ hw))

theorem of_update {k : κ} {d : Dict} {old new : ρ} (hold : t.get? k = some old)
    (hget : ∀ k', t'.get? k' = if k = k' then some new else t.get? k') (hid : id new = id old)
    (hdata : data new = (data old).merge d) : Overlaid id data drawn [⟨k, d⟩] t t' where
  field k' field := by
    unfold Table.field fieldAfter fieldAfter
    rw [hget]
    by_cases hkey : k = k'
    · subst hkey
      rw [if_pos rfl, if_pos rfl, hold, Option.bind_some, Option.bind_some, hdata, Dict.get_merge]
    · rw [if_neg hkey, if_neg hkey]
  kept k' r hr := by
    rw [hget]
    by_cases hkey : k = k'
    · subst hkey
      obtain rfl := Option.some.inj (hold.symm.trans hr)
      exact ⟨new, if_pos rfl, hid⟩
    · exact ⟨r, (if_neg hkey).trans hr, rfl⟩
  wrote w hw := by
    obtain rfl := List.mem_singleton.mp hw
    exact ⟨new, (hget k).trans (if_pos rfl)⟩
  made k' r' hnone hr' := by
    rw [hget] at hr'
    by_cases hkey : k = k'
    · subst hkey
      rw [hnone] at hold
      cases hold
    · rw [if_neg hkey, hnone] at hr'
      cases hr'
  frame k' hws := (hget k').trans (if_neg (hws _ (List.mem_singleton_self _)))

theorem of_insert {k : κ} {d : Dict} {new : ρ} (hfree : t.get? k = none)
    (hget : ∀ k', t'.get? k' = if k = k' then some new else t.get? k') (hid : drawn (id new))
    (hdata : data new = d) : Overlaid id data drawn [⟨k, d⟩] t t' where
  field k' field := by
    unfold Table.field fieldAfter fieldAfter
    rw [hget]
    by_cases hkey : k = k'
    · subst hkey
      rw [if_pos rfl, if_pos rfl, hfree, Option.bind_some, Option.bind_none, hdata, Option.or_none]
    · rw [if_neg hkey, if_neg hkey]
  kept k' r hr := by
    have hkey : k ≠ k' := by
      rintro rfl
      rw [hfree] at hr
      cases hr
    exact ⟨r, ((hget k').trans (if_neg hkey)).trans hr, rfl⟩
  wrote w hw := by
    obtain rfl := List.mem_singleton.mp hw
    exact ⟨new, (hget k).trans (if_pos rfl)⟩
  made k' r' hnone hr' := by
    rw [hget] at hr'
    by_cases hkey : k = k'
    · subst hkey
      rw [if_pos rfl] at hr'
      obtain rfl := Option.some.inj hr'
      exact ⟨⟨_, List.mem_singleton_self _, rfl⟩, hid⟩
    · rw [if_neg hkey, hnone] at hr'
      cases hr'
  frame k' hws := (hget k').trans (if_neg (hws _ (List.mem_singleton_self _)))

theorem isSome_iff (h : Overlaid id data drawn ws t t') (k : κ) :
    (t'.get? k).isSome ↔ (t.get? k).isSome ∨ ∃ w ∈ ws, w.key = k := by
  constructor
  · intro hsome
    cases hold : t.get? k with
    | some r => exact .inl rfl
    | none =>
        obtain ⟨r', hr'⟩ := Option.isSome_iff_exists.mp hsome
        exact .inr (h.made k r' hold hr').1
  · rintro (hsome | ⟨w, hw, rfl⟩)
    · obtain ⟨r, hr⟩ := Option.isSome_iff_exists.mp hsome
      obtain ⟨r', hr', -⟩ := h.kept k r hr
      rw [hr']
      rfl
    · obtain ⟨r', hr'⟩ := h.wrote w hw
      rw [hr']
      rfl

theorem id_eq (h : Overlaid id data drawn ws t t') {k : κ} {r r' : ρ} (hr : t.get? k = some r)
    (hr' : t'.get? k = some r') : id r' = id r := by
  obtain ⟨later, hlater, hid⟩ := h.kept k r hr
  obtain rfl := Option.some.inj (hr'.symm.trans hlater)
  exact hid

end Overlaid

end Tables

end Navi.Base
