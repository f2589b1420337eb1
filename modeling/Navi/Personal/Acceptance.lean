import Mathlib
import Navi.Personal.Adapters

/-!
# When an update is accepted

What is stored of a resource was normalised, so that an update is accepted exactly where the stored
data overlaid with the patch is valid. An attention policy differs, which asks for both quiet hours
of the patch on its own.
-/

namespace Navi.Personal

open Navi.Base

/-- What a record gives: its fields but for nulls. -/
def given (data : Dict) : Dict := data.filter fun entry => data.get entry.1 ≠ some .null

/-- The fields of a record are among these. -/
def FieldsIn (fields : List String) (d : Dict) : Prop :=
  ∀ key, (d.get key).isSome = true → key ∈ fields

theorem get_given (data : Dict) (key : String) :
    Dict.get (given data) key = (data.get key).filter fun v => v ≠ .null := by
  have hkeep := Dict.get_filter_key data (fun key => data.get key ≠ some .null) key
  refine Eq.trans hkeep ?_
  cases hkey : data.get key with
  | none => simp
  | some v => simp [Option.filter_some]

theorem mem_keys_iff (d : Dict) (key : String) :
    key ∈ d.map Prod.fst ↔ (d.get key).isSome = true := by
  induction d with
  | nil => simp
  | cons entry rest ih =>
      obtain ⟨k, v⟩ := entry
      rw [List.map_cons, List.mem_cons, Dict.get_cons, ih]
      by_cases hkey : k = key
      · simp [hkey]
      · simp [hkey, Ne.symm hkey]

theorem allowed_eq_ok {data e : Dict} {fields : List String} :
    allowed data fields = .ok e ↔ FieldsIn fields data ∧ given data = e := by
  have hunknown : ((data.map Prod.fst).filter fun key => !fields.contains key).dedup = []
      ↔ FieldsIn fields data := by
    rw [List.dedup_eq_nil, List.filter_eq_nil_iff]
    unfold FieldsIn
    constructor
    · intro h key hkey
      simpa using h key ((mem_keys_iff data key).mpr hkey)
    · intro h key hkey
      simpa using h key ((mem_keys_iff data key).mp hkey)
  unfold allowed
  dsimp only
  split
  next hne =>
    constructor
    · intro h
      cases h
    · rintro ⟨hfields, -⟩
      exact absurd (hunknown.mpr hfields) hne
  next heq =>
    constructor
    · intro h
      exact ⟨hunknown.mp (not_not.mp heq), Except.ok.inj h⟩
    · rintro ⟨-, hsame⟩
      exact congrArg Except.ok hsame

/-! ## What normalising yields -/

def PersonalResourceAdapter.rules (adapter : PersonalResourceAdapter) : List FieldRule :=
  adapter.before ++ adapter.after

/-- What an adapter has to be like: the check across fields reads some that no later rule is about,
and what a rule makes of a value it makes of it again. -/
structure Lawful (adapter : PersonalResourceAdapter) (reads : List String) : Prop where
  across_congr : ∀ existing d e, (∀ key ∈ reads, d.get key = e.get key) →
    adapter.across existing d = adapter.across existing e
  unread : ∀ rule ∈ adapter.after, rule.key ∉ reads
  idempotent : Idempotent adapter.rules
  not_null : ∀ key v, v ≠ .null → clean adapter.rules key v ≠ some .null

section

variable {adapter : PersonalResourceAdapter} {reads : List String} {existing : Bool}
  {data d d' e p : Dict}

theorem across_after (hlawful : Lawful adapter reads) (h : Cleaned adapter.after existing d d') :
    adapter.across existing d' = adapter.across existing d := by
  refine hlawful.across_congr existing d' d fun key hkey => ?_
  cases hown : d.get key with
  | none => exact h.absent key hown
  | some v =>
      obtain ⟨w, hclean, hw⟩ := h.given key v hown
      rw [hw, ← hclean]
      refine clean_of_unread (fun rule hrule hsame => ?_) v
      exact hlawful.unread rule hrule (by rwa [hsame])

theorem of_normalize (hlawful : Lawful adapter reads)
    (h : adapter.normalize existing data = .ok d') :
    FieldsIn adapter.fields data ∧ Cleaned adapter.rules existing (given data) d'
      ∧ adapter.across existing d' = none := by
  unfold PersonalResourceAdapter.normalize at h
  obtain ⟨normalized, hallowed, h⟩ := bind_eq_ok.mp h
  obtain ⟨hfields, rfl⟩ := allowed_eq_ok.mp hallowed
  obtain ⟨mid, hbefore, h⟩ := bind_eq_ok.mp h
  cases hacross : adapter.across existing mid with
  | some message =>
      rw [hacross] at h
      cases h
  | none =>
      rw [hacross] at h
      have hafter := cleaned_of_applyFields h
      exact ⟨hfields, cleaned_append.mpr ⟨mid, cleaned_of_applyFields hbefore, hafter⟩,
        (across_after hlawful hafter).trans hacross⟩

theorem normalize_of (hlawful : Lawful adapter reads) (hfields : FieldsIn adapter.fields data)
    (hcleaned : Cleaned adapter.rules existing (given data) e)
    (hacross : adapter.across existing e = none) :
    ∃ d', adapter.normalize existing data = .ok d' ∧ SameFields d' e := by
  obtain ⟨mid, hbefore, hafter⟩ := cleaned_append.mp hcleaned
  obtain ⟨made, hmade, hsame⟩ := applyFields_of_cleaned hbefore
  obtain ⟨d', hd', hsame'⟩ := applyFields_of_cleaned (hafter.congr hsame fun _ => rfl)
  have hnone : adapter.across existing made = none := by
    rw [← hacross, ← across_after hlawful (cleaned_of_applyFields hd')]
    exact hlawful.across_congr existing d' e fun key _ => hsame' key
  refine ⟨d', ?_, hsame'⟩
  unfold PersonalResourceAdapter.normalize
  rw [bind_of_eq_ok (allowed_eq_ok.mpr ⟨hfields, rfl⟩), bind_of_eq_ok hmade, hnone]
  exact hd'

/-- Normalised data: it is valid, and normalising leaves every field of it. -/
structure Stored (adapter : PersonalResourceAdapter) (d : Dict) : Prop where
  fields : FieldsIn adapter.fields d
  cleaned : Cleaned adapter.rules false d d
  across : adapter.across false d = none
  not_null : ∀ key, d.get key ≠ some .null

theorem sameFields_given (h : ∀ key, d.get key ≠ some .null) : SameFields (given d) d := by
  intro key
  rw [get_given]
  cases hkey : d.get key with
  | none => rfl
  | some v =>
      have hv : v ≠ .null := by
        rintro rfl
        exact h key hkey
      simp [Option.filter_some, hv]

theorem given_not_null (data : Dict) (key : String) : Dict.get (given data) key ≠ some .null := by
  rw [get_given]
  intro h
  simpa using (Option.filter_eq_some_iff.mp h).2

theorem Cleaned.not_null (hlawful : Lawful adapter reads)
    (h : Cleaned adapter.rules existing d d') (hd : ∀ key, d.get key ≠ some .null) (key : String) :
    d'.get key ≠ some .null := by
  cases hkey : d.get key with
  | none => simp [h.absent key hkey]
  | some v =>
      obtain ⟨w, hclean, hw⟩ := h.given key v hkey
      rw [hw, ← hclean]
      refine hlawful.not_null key v ?_
      rintro rfl
      exact hd key hkey

theorem FieldsIn.cleaned {fields : List String} (h : FieldsIn fields d)
    (hcleaned : Cleaned adapter.rules existing d d') : FieldsIn fields d' := by
  intro key hkey
  refine h key ?_
  by_contra hnone
  rw [hcleaned.absent key (by simpa using hnone)] at hkey
  cases hkey

theorem FieldsIn.given {fields : List String} (h : FieldsIn fields d) :
    FieldsIn fields (Personal.given d) := by
  intro key hkey
  refine h key ?_
  rw [get_given] at hkey
  cases hown : d.get key with
  | none =>
      rw [hown] at hkey
      cases hkey
  | some v => rfl

theorem stored_of_normalize (hlawful : Lawful adapter reads)
    (h : adapter.normalize false data = .ok d) : Stored adapter d := by
  obtain ⟨hfields, hcleaned, hacross⟩ := of_normalize hlawful h
  exact ⟨hfields.given.cleaned hcleaned, hcleaned.again hlawful.idempotent, hacross,
    Cleaned.not_null hlawful hcleaned (given_not_null data)⟩

theorem Stored.fixed (hlawful : Lawful adapter reads) (h : Stored adapter d) :
    ∃ d', adapter.normalize false d = .ok d' ∧ SameFields d' d :=
  normalize_of hlawful h.fields
    (h.cleaned.congr (sameFields_given h.not_null) fun _ => rfl) h.across

/-! ## Updates -/

/-- The stored data overlaid with what a patch gives; a null of the patch gives nothing. -/
def laidOver (data patch : Dict) : Dict := Dict.merge (Dict.merge patch data) (given patch)

def Valid (adapter : PersonalResourceAdapter) (data : Dict) : Prop :=
  ∃ d', adapter.normalize false data = .ok d'

/-- The two normalisations of an update succeed. -/
def Accepted (adapter : PersonalResourceAdapter) (data patch : Dict) : Prop :=
  ∃ p' d', adapter.normalize true patch = .ok p'
    ∧ adapter.normalize false (Dict.merge data p') = .ok d'

theorem given_laidOver (hd : ∀ key, d.get key ≠ some .null) (patch : Dict) :
    SameFields (given (laidOver d patch)) (Dict.merge d (given patch)) := by
  intro key
  rw [get_given]
  unfold laidOver
  rw [Dict.get_merge, Dict.get_merge, Dict.get_merge, get_given]
  cases hpatch : patch.get key with
  | none =>
      rw [Option.filter_none, Option.none_or, Option.or_none]
      cases hown : d.get key with
      | none => rfl
      | some v =>
          have hv : v ≠ .null := by
            rintro rfl
            exact hd key hown
          simp [Option.filter_some, hv]
  | some v =>
      by_cases hv : v = .null
      · subst hv
        cases hown : d.get key with
        | none => simp [Option.filter_some]
        | some w =>
            have hw : w ≠ .null := by
              rintro rfl
              exact hd key hown
            simp [Option.filter_some, hw]
      · simp [Option.filter_some, hv]

theorem fieldsIn_laidOver {fields : List String} (hd : FieldsIn fields d) (patch : Dict) :
    FieldsIn fields (laidOver d patch) ↔ FieldsIn fields patch := by
  have hkeys : ∀ key, ((laidOver d patch).get key).isSome = true
      ↔ (patch.get key).isSome = true ∨ (d.get key).isSome = true := by
    intro key
    unfold laidOver
    rw [Dict.get_merge, Dict.get_merge, get_given]
    cases hpatch : patch.get key with
    | none => simp
    | some v =>
        cases hown : d.get key with
        | none => simp [Option.filter_some]
        | some w => simp
  constructor
  · intro h key hkey
    exact h key ((hkeys key).mpr (.inl hkey))
  · intro h key hkey
    rcases (hkeys key).mp hkey with hpatch | hown
    · exact h key hpatch
    · exact hd key hown

/-- The overlaid data is valid where the patch can be cleaned and what holds across fields holds of
the whole. -/
theorem valid_iff (hlawful : Lawful adapter reads) (hd : Stored adapter d) (patch : Dict) :
    Valid adapter (laidOver d patch) ↔ FieldsIn adapter.fields patch
      ∧ ∃ p', Cleaned adapter.rules true (given patch) p'
        ∧ adapter.across false (Dict.merge d p') = none := by
  constructor
  · rintro ⟨d', hnormalize⟩
    obtain ⟨hfields, hcleaned, hacross⟩ := of_normalize hlawful hnormalize
    obtain ⟨p', hp', hsame⟩ := (cleaned_merge_iff hd.cleaned).mp
      (hcleaned.congr (fun key => (given_laidOver hd.not_null patch key).symm) fun _ => rfl)
    refine ⟨(fieldsIn_laidOver hd.fields patch).mp hfields, p', hp', ?_⟩
    rw [← hacross]
    exact hlawful.across_congr false _ _ fun key _ => (hsame key).symm
  · rintro ⟨hfields, p', hp', hacross⟩
    have hcleaned := (cleaned_merge_iff hd.cleaned).mpr ⟨p', hp', fun _ => rfl⟩
    obtain ⟨d', hd', -⟩ := normalize_of hlawful ((fieldsIn_laidOver hd.fields patch).mpr hfields)
      (hcleaned.congr (given_laidOver hd.not_null patch) fun _ => rfl) hacross
    exact ⟨d', hd'⟩

theorem accepted_iff (hlawful : Lawful adapter reads) (hd : Stored adapter d) (patch : Dict) :
    Accepted adapter d patch ↔ FieldsIn adapter.fields patch
      ∧ ∃ p', Cleaned adapter.rules true (given patch) p' ∧ adapter.across true p' = none
        ∧ adapter.across false (Dict.merge d p') = none := by
  have hmerged : ∀ {p'}, Cleaned adapter.rules true (given patch) p' →
      Cleaned adapter.rules false (Dict.merge d p') (Dict.merge d p') := fun hp' =>
    (cleaned_merge_iff hd.cleaned).mpr ⟨_, hp'.again hlawful.idempotent, fun _ => rfl⟩
  have hnull : ∀ {p'}, Cleaned adapter.rules true (given patch) p' →
      ∀ key, (Dict.merge d p').get key ≠ some .null := by
    intro p' hp' key
    rw [Dict.get_merge]
    cases hown : p'.get key with
    | none => exact hd.not_null key
    | some v =>
        rw [Option.some_or, ← hown]
        exact Cleaned.not_null hlawful hp' (given_not_null patch) key
  constructor
  · rintro ⟨p', d', hpatch, hwhole⟩
    obtain ⟨hfields, hp', hacross⟩ := of_normalize hlawful hpatch
    obtain ⟨-, hcleaned, hacross'⟩ := of_normalize hlawful hwhole
    refine ⟨hfields, p', hp', hacross, ?_⟩
    rw [← hacross']
    have hsame := (hcleaned.congr (fun key => (sameFields_given (hnull hp') key).symm)
      fun _ => rfl).unique (hmerged hp')
    exact hlawful.across_congr false _ _ fun key _ => (hsame key).symm
  · rintro ⟨hfields, e, he, hacross, hacross'⟩
    obtain ⟨p', hpatch, hsame⟩ := normalize_of hlawful hfields he hacross
    have hp' := (of_normalize hlawful hpatch).2.1
    have hmergedSame : SameFields (Dict.merge d p') (Dict.merge d e) := by
      intro key
      rw [Dict.get_merge, Dict.get_merge, hsame key]
    have hfields' : FieldsIn adapter.fields (Dict.merge d p') := by
      intro key hkey
      rw [Dict.get_merge] at hkey
      cases hown : p'.get key with
      | none =>
          rw [hown, Option.none_or] at hkey
          exact hd.fields key hkey
      | some v => exact hfields.given.cleaned hp' key (by rw [hown]; rfl)
    obtain ⟨d', hd', -⟩ := normalize_of hlawful hfields'
      ((hmerged hp').congr (sameFields_given (hnull hp')) fun _ => rfl)
      ((hlawful.across_congr false _ _ fun key _ => hmergedSame key).trans hacross')
    exact ⟨p', d', hpatch, hd'⟩

end

end Navi.Personal
